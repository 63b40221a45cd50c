import IceClube.Almoxarifado
import IceClube.Histories
import IceClube.Keys

/-! The three routes that change a row and then record the change, each statement committed on
its own: `/api/estoque/entrada`, `/api/estoque/saida` and `/alterar_status`. -/
namespace IceClube

open Coop Prog

inductive ReqMovimento where
  | entrada (corpo : CorpoMovimento)
  | saida (corpo : CorpoMovimento)
  | alterarStatus (corpo : CorpoStatus)
  deriving DecidableEq, Repr

def ReqMovimento.rota : ReqMovimento → RotaEstoque Resposta
  | .entrada corpo => IceClube.entrada corpo
  | .saida corpo => IceClube.saida corpo
  | .alterarStatus corpo => noEstoque (IceClube.alterarStatus corpo)

def movimentacao : System ReqMovimento Nat String OpEstoque.Res Resposta (Faulty Db) where
  exec := OpEstoque.exec
  sync _ := false
  listeners requisicao := [requisicao.rota]
  drift dt w := ⟨{ w.state with agora := w.state.agora + dt }, w.faults⟩

abbrev PassoMovimento := Action ReqMovimento Nat

/-- A statement that was executed or rejected, with the database it met. -/
abbrev Envio := Entry OpEstoque (Faulty Db)

namespace Envio

variable (e : Envio)

def respondido : Bool := !e.state.faults.headD false

def moveEstoque : Bool :=
  match e.op with
  | .rota (.sql (.somaEstoque _ id)) => e.respondido && (e.state.state.estoque.get id).isSome
  | _ => false

def moveStatus : Bool :=
  match e.op with
  | .rota (.sql (.updateStatus _ id)) =>
    e.respondido && (e.state.state.pedidosDiarios.get id).isSome
  | _ => false

def move : Bool := e.moveEstoque || e.moveStatus

/-- The INSERT into `lancamentos`. -/
def lancamento : Bool :=
  match e.op with
  | .rota (.sql (.insertLancamento _)) => true
  | _ => false

def registra : Bool :=
  match e.op with
  | .rota (.sql (.insertLancamento _)) | .rota (.sql (.insertLog ..)) => true
  | _ => false

def registrado : Bool := e.registra && e.respondido

def lancado : Bool := e.lancamento && e.respondido

end Envio

/-- What a request changed, and what it recorded. -/
def movimentos (i : Nat) (l : List Envio) : Nat := (own i l).countP Envio.move

def registros (i : Nat) (l : List Envio) : Nat := (own i l).countP Envio.registrado

def Db.lancamentosDeEstoque (db : Db) : Nat :=
  db.lancamentos.rows.countP fun x => x.2.categoria = some "estoque"

/-- A request that succeeded made its change and one record of it, a request that failed made
neither, and while none is under way there is a posting for each movement of the stock. -/
structure Juntos (w : Faulty Db) (l : List Envio) (c : Almoxarifado) : Prop where
  sucesso : ∀ i resposta, c.tasks[i]? = some (.done resposta) → resposta.status = 200 →
    movimentos i l = 1 ∧ registros i l = 1
  erro : ∀ i resposta, c.tasks[i]? = some (.done resposta) → resposta.status ≠ 200 →
    movimentos i l = 0 ∧ registros i l = 0
  total : (∀ p ∈ c.tasks, p.Ended) →
    c.db.lancamentosDeEstoque = w.state.lancamentosDeEstoque + l.countP Envio.moveEstoque

def SempreJuntos (w : Faulty Db) (passos : List PassoMovimento) : Prop :=
  ∀ pre post, passos = pre ++ post →
    Juntos w (movimentacao.log pre ⟨w, []⟩) (movimentacao.execute pre ⟨w, []⟩)

/-- The INSERT of a record is accepted exactly if its request has changed a row. -/
def RegistroDevido (past : List Envio) (e : Envio) : Prop :=
  e.registra = true → (e.respondido = true ↔ 0 < movimentos e.task past)

section Requisicao

def Envio.pode (o : OpEstoque) (feitos : List Envio) : Prop :=
  (∀ e ∈ feitos, e.registra = false) ∧
    match o with
    | .rota (.sql (.selectEstoque _)) | .rota (.sql (.somaEstoque ..))
    | .rota (.sql (.updateStatus ..)) | .rota (.sql (.insertLog ..)) => True
    | .rota (.sql (.insertLancamento lancamento)) => lancamento.categoria = some "estoque"
    | _ => False

/-- How a request ends: it changed nothing and fails, or it executed the INSERT of its record
last, and its answer is the answer of this INSERT. -/
inductive Encerrado (resposta : Resposta) : List Envio → Prop
  | recusado {feitos : List Envio} (status : resposta.status ≠ 200)
    (nada : ∀ e ∈ feitos, e.move = false ∧ e.registra = false) : Encerrado resposta feitos
  | registrado {antes : List Envio} {e : Envio} (registra : e.registra = true)
    (antes_dele : ∀ x ∈ antes, x.registra = false) (um : antes.countP Envio.move ≤ 1)
    (mesmo : ∀ x ∈ antes, x.move = true → x.moveEstoque = e.lancamento)
    (status : resposta.status = 200 ↔ e.respondido = true) : Encerrado resposta (antes ++ [e])

def Encerra (answer : Except String Resposta) (feitos : List Envio) : Prop :=
  ∃ resposta, answer = .ok resposta ∧ Encerrado resposta feitos

abbrev regra : Contract String OpEstoque.Res (List Envio) :=
  Contract.history OpEstoque.exec Envio.pode

theorem meets_sql {α : Type} {q : Sql} {f : q.Res → RotaEstoque α}
    {Q : Except String α → List Envio → Prop} {feitos : List Envio}
    (may : Envio.pode (.rota (.sql q)) feitos)
    (rejected : ∀ e : Envio, e.op = .rota (.sql q) → e.respondido = false →
      Q (.error Tx.rejeicao) (feitos ++ [e]))
    (answered : ∀ e : Envio, e.op = .rota (.sql q) → e.respondido = true →
      Meets regra (f (q.sem e.state.state).1) Q (feitos ++ [e])) :
    Meets regra (sqlEstoque q >>= f) Q feitos := by
  rw [meets_bind, meets_ask]
  refine ⟨may, ?_⟩
  rintro answer v' ⟨task, s, rfl, rfl⟩
  cases fault : s.faults.headD false with
  | true =>
    have run : (OpEstoque.exec (.rota (.sql q)) s).1 = .error Tx.rejeicao :=
      congrArg Prod.fst (Faulty.exec_rejected q fault)
    rw [run]
    exact rejected ⟨task, _, s⟩ rfl (by simp only [Envio.respondido, fault, Bool.not_true])
  | false =>
    have run : (OpEstoque.exec (.rota (.sql q)) s).1 = .ok (q.sem s.state).1 :=
      congrArg Prod.fst (Faulty.exec_answered q fault)
    rw [run]
    exact answered ⟨task, _, s⟩ rfl (by simp only [Envio.respondido, fault, Bool.not_false])

theorem noEstoque_bind {α β : Type} (p : Rota α) (f : α → Rota β) :
    noEstoque (p >>= f) = noEstoque p >>= fun a => noEstoque (f a) := by
  induction p with
  | done a => rfl
  | fail e => rfl
  | call o next ih => exact congrArg (Prog.call _) (funext fun answer => ih answer)

theorem noEstoque_handle {α : Type} (p : Rota α) (h : String → Rota α) :
    noEstoque (p.handle h) = (noEstoque p).handle fun e => noEstoque (h e) := by
  induction p with
  | done a => rfl
  | fail e => rfl
  | call o next ih => exact congrArg (Prog.call _) (funext fun answer => ih answer)

theorem noEstoque_query (q : Sql) : noEstoque (dbQuery q) = sqlEstoque q := by
  refine congrArg (Prog.call _) (funext fun answer => ?_)
  cases answer <;> rfl

section Rotas

variable {feitos : List Envio}

theorem encerra_recusa {resposta : Resposta} (status : resposta.status ≠ 200) :
    Meets regra (pure resposta) Encerra [] :=
  ⟨resposta, rfl, .recusado status (by simp)⟩

theorem encerra_registro {q : Sql} {ok falha : Resposta}
    (may : Envio.pode (.rota (.sql q)) feitos) (success : ok.status = 200)
    (failure : falha.status ≠ 200) (um : feitos.countP Envio.move ≤ 1)
    (last : ∀ e : Envio, e.op = .rota (.sql q) → e.registra = true ∧
      ∀ x ∈ feitos, x.move = true → x.moveEstoque = e.lancamento) :
    Meets regra (sqlEstoque q >>= fun _ => pure ok)
      (Catch regra (fun _ => pure falha) Encerra) feitos := by
  apply meets_sql may
  · intro e op rejected
    obtain ⟨registra, mesmo⟩ := last e op
    exact ⟨falha, rfl, .registrado registra may.1 um mesmo (by simp [rejected, failure])⟩
  · intro e op answered
    obtain ⟨registra, mesmo⟩ := last e op
    exact ⟨ok, rfl, .registrado registra may.1 um mesmo (by simp [answered, success])⟩

theorem encerra_estoque {quantidade : ℚ} {id : Nat} {lancamento : Lancamento}
    {ok falha : Resposta} (category : lancamento.categoria = some "estoque")
    (success : ok.status = 200) (failure : falha.status ≠ 200)
    (before : ∀ e ∈ feitos, e.move = false ∧ e.registra = false) :
    Meets regra (do
        sqlEstoque (.somaEstoque quantidade id)
        let _ ← sqlEstoque (.insertLancamento lancamento)
        pure ok) (Catch regra (fun _ => pure falha) Encerra) feitos := by
  have still : feitos.countP Envio.move = 0 := by
    apply List.countP_eq_zero.mpr
    intro e member
    simp [(before e member).1]
  apply meets_sql ⟨fun e member => (before e member).2, trivial⟩
  · intro e op rejected
    have quiet : e.move = false ∧ e.registra = false := by
      simp [Envio.move, Envio.moveEstoque, Envio.moveStatus, Envio.registra, op, rejected]
    refine ⟨falha, rfl, .recusado failure fun x member => ?_⟩
    rcases List.mem_append.mp member with old | new
    · exact before x old
    · rwa [List.mem_singleton.mp new]
  · intro e op answered
    have unrecorded : ∀ x ∈ feitos ++ [e], x.registra = false := by
      intro x member
      rcases List.mem_append.mp member with old | new
      · exact (before x old).2
      · simp [List.mem_singleton.mp new, Envio.registra, op]
    apply encerra_registro (q := .insertLancamento lancamento) ⟨unrecorded, category⟩ success
      failure
    · rw [List.countP_append, still, List.countP_singleton]
      split <;> simp
    · intro x op'
      refine ⟨by simp [Envio.registra, op'], fun y member moves => ?_⟩
      rcases List.mem_append.mp member with old | new
      · simp [(before y old).1] at moves
      · rw [List.mem_singleton.mp new] at moves ⊢
        have stock : e.moveStatus = false := by simp [Envio.moveStatus, op]
        have posting : x.lancamento = true := by simp [Envio.lancamento, op']
        simpa [Envio.move, stock, posting] using moves

theorem encerra_entrada (corpo : CorpoMovimento) : Meets regra (entrada corpo) Encerra [] := by
  rw [entrada]
  split
  · exact encerra_recusa (by decide)
  · rw [meets_handle]
    exact encerra_estoque rfl rfl (by decide) (by simp)

theorem encerra_saida (corpo : CorpoMovimento) : Meets regra (saida corpo) Encerra [] := by
  rw [saida]
  split
  · exact encerra_recusa (by decide)
  · rw [meets_handle]
    have quiet {e : Envio} (op : e.op = .rota (.sql (.selectEstoque (some corpo.id)))) :
        ∀ x ∈ ([] ++ [e] : List Envio), x.move = false ∧ x.registra = false := by
      intro x member
      rw [List.nil_append, List.mem_singleton] at member
      simp [member, Envio.move, Envio.moveEstoque, Envio.moveStatus, Envio.registra, op]
    have failed {e : Envio} {resposta : Resposta} (status : resposta.status ≠ 200)
        (op : e.op = .rota (.sql (.selectEstoque (some corpo.id)))) :
        Encerra (.ok resposta) ([] ++ [e]) := ⟨resposta, rfl, .recusado status (quiet op)⟩
    apply meets_sql ⟨by simp, trivial⟩
    · intro e op _
      exact failed (by decide) op
    · intro e op _
      cases (Sql.sem (.selectEstoque (some corpo.id)) e.state.state).1 with
      | none => exact failed (by decide) op
      | some item =>
        simp only [baixar]
        split
        · exact failed (by decide) op
        · exact encerra_estoque rfl rfl (by decide) (quiet op)

theorem encerra_alterarStatus (corpo : CorpoStatus) :
    Meets regra (noEstoque (alterarStatus corpo)) Encerra [] := by
  rw [alterarStatus]
  split
  · exact encerra_recusa (by decide)
  next statusAtual _ =>
    split
    · exact encerra_recusa (by decide)
    · rw [gravarStatus, noEstoque_handle, noEstoque_bind, noEstoque_query, meets_handle]
      have unrecorded {e : Envio}
          (op : e.op = .rota (.sql (.updateStatus (novoStatus statusAtual) corpo.id))) :
          ∀ x ∈ ([] ++ [e] : List Envio), x.registra = false := by
        intro x member
        rw [List.nil_append, List.mem_singleton] at member
        simp [member, Envio.registra, op]
      apply meets_sql ⟨by simp, trivial⟩
      · intro e op rejected
        refine ⟨_, rfl, .recusado (by decide) fun x member => ⟨?_, unrecorded op x member⟩⟩
        rw [List.nil_append, List.mem_singleton] at member
        simp [member, Envio.move, Envio.moveEstoque, Envio.moveStatus, op, rejected]
      · intro e op answered
        cases found : e.state.state.pedidosDiarios.get corpo.id with
        | none =>
          have missing : (Sql.sem (.updateStatus (novoStatus statusAtual) corpo.id)
              e.state.state).1 = (0 : Nat) := by simp [Sql.sem, found]
          rw [missing]
          refine ⟨_, rfl, .recusado (by decide) fun x member => ⟨?_, unrecorded op x member⟩⟩
          rw [List.nil_append, List.mem_singleton] at member
          simp [member, Envio.move, Envio.moveEstoque, Envio.moveStatus, op, found]
        | some p =>
          have one : (Sql.sem (.updateStatus (novoStatus statusAtual) corpo.id)
              e.state.state).1 = (1 : Nat) := by simp [Sql.sem, found]
          rw [one, if_neg Nat.one_ne_zero, noEstoque_bind, noEstoque_query]
          apply encerra_registro ⟨unrecorded op, trivial⟩ rfl (by decide)
          · rw [List.nil_append, List.countP_singleton]
            split <;> simp
          · intro x op'
            refine ⟨by simp [Envio.registra, op'], fun y member _ => ?_⟩
            rw [List.nil_append, List.mem_singleton] at member
            simp [member, Envio.moveEstoque, Envio.lancamento, op, op']

end Rotas

section Contas

variable {resposta : Resposta} {feitos : List Envio}

theorem Envio.move_registra {e : Envio} (registra : e.registra = true) : e.move = false := by
  obtain ⟨task, o, s⟩ := e
  rcases o with (q | t) | q
  · cases q <;> first | rfl | cases registra
  · cases registra
  · cases registra

theorem Envio.registra_lancamento {e : Envio} (lancamento : e.lancamento = true) :
    e.registra = true := by
  obtain ⟨task, o, s⟩ := e
  rcases o with (q | t) | q
  · cases q <;> first | rfl | cases lancamento
  · cases lancamento
  · cases lancamento

/-- `RegistroDevido`, told of the request's own statements. -/
def Envio.Devido (antes : List Envio) (e : Envio) : Prop :=
  e.registra = true → (e.respondido = true ↔ 0 < antes.countP Envio.move)

/-- What the statements of an ended request add up to, when its record is due. -/
structure Certo (resposta : Resposta) (feitos : List Envio) : Prop where
  sucesso : resposta.status = 200 →
    feitos.countP Envio.move = 1 ∧ feitos.countP Envio.registrado = 1
  erro : resposta.status ≠ 200 →
    feitos.countP Envio.move = 0 ∧ feitos.countP Envio.registrado = 0
  estoque : feitos.countP Envio.lancado = feitos.countP Envio.moveEstoque

theorem encerrado_certo (ended : Encerrado resposta feitos)
    (lawful : Lawful Envio.Devido [] feitos) : Certo resposta feitos := by
  cases ended with
  | recusado status nada =>
    have none_of {p : Envio → Bool}
        (implies : ∀ e ∈ feitos, p e = true → e.move = true ∨ e.registra = true) :
        feitos.countP p = 0 := by
      apply List.countP_eq_zero.mpr
      intro e member holds
      rcases implies e member holds with moves | records
      · simp [(nada e member).1] at moves
      · simp [(nada e member).2] at records
    have moves := none_of (p := Envio.move) fun e _ h => .inl h
    have records := none_of (p := Envio.registrado) fun e _ h =>
      .inr (Bool.and_eq_true_iff.mp h).1
    have postings := none_of (p := Envio.lancado) fun e _ h =>
      .inr (Envio.registra_lancamento (Bool.and_eq_true_iff.mp h).1)
    have stock := none_of (p := Envio.moveEstoque) fun e _ h => .inl (by simp [Envio.move, h])
    exact ⟨fun success => absurd success status, fun _ => ⟨moves, records⟩,
      by rw [postings, stock]⟩
  | @registrado antes e registra antes_dele um mesmo status =>
    have due : e.respondido = true ↔ 0 < antes.countP Envio.move :=
      (lawful_append.mp lawful).2.1 registra
    have still : e.move = false := Envio.move_registra registra
    have still_stock : e.moveEstoque = false := by
      simpa [Envio.move] using (Bool.or_eq_false_iff.mp still).1
    have moves : (antes ++ [e]).countP Envio.move = antes.countP Envio.move := by
      simp [List.countP_append, still]
    have unrecorded {p : Envio → Bool} (implies : ∀ x, p x = true → x.registra = true) :
        antes.countP p = 0 := by
      apply List.countP_eq_zero.mpr
      intro x member holds
      simpa [antes_dele x member] using implies x holds
    have records : (antes ++ [e]).countP Envio.registrado =
        if e.respondido = true then 1 else 0 := by
      rw [List.countP_append, unrecorded (p := Envio.registrado) fun x h =>
        (Bool.and_eq_true_iff.mp h).1, List.countP_singleton]
      simp [Envio.registrado, registra]
    have postings : (antes ++ [e]).countP Envio.lancado =
        if e.lancamento = true ∧ e.respondido = true then 1 else 0 := by
      rw [List.countP_append, unrecorded (p := Envio.lancado) fun x h =>
        Envio.registra_lancamento (Bool.and_eq_true_iff.mp h).1, List.countP_singleton]
      simp [Envio.lancado]
    have stock : (antes ++ [e]).countP Envio.moveEstoque =
        if e.lancamento = true then antes.countP Envio.move else 0 := by
      rw [List.countP_append, List.countP_singleton, still_stock]
      cases kind : e.lancamento with
      | true =>
        have same : antes.countP Envio.moveEstoque = antes.countP Envio.move := by
          apply List.countP_congr
          intro x member
          constructor
          · intro h
            simp [Envio.move, h]
          · intro h
            rw [mesmo x member h, kind]
        simp [same]
      | false =>
        have none_moves : antes.countP Envio.moveEstoque = 0 := by
          apply List.countP_eq_zero.mpr
          intro x member h
          have moves : x.move = true := by simp [Envio.move, h]
          simp [mesmo x member moves, kind] at h
        simp [none_moves]
    refine ⟨fun success => ?_, fun failure => ?_, ?_⟩
    · have answered := status.mp success
      have := due.mp answered
      rw [moves, records, if_pos answered]
      omega
    · have rejected : ¬ e.respondido = true := mt status.mpr failure
      have := mt due.mpr rejected
      rw [moves, records, if_neg rejected]
      omega
    · rw [postings, stock]
      cases e.lancamento with
      | false => simp
      | true =>
        by_cases answered : e.respondido = true
        · have := due.mp answered
          rw [if_pos ⟨rfl, answered⟩, if_pos rfl]
          omega
        · have := mt due.mpr answered
          rw [if_neg fun both => answered both.2, if_pos rfl]
          omega

end Contas

end Requisicao

section Execucao

variable {w : Faulty Db}

theorem lancamentos_exec {e : Envio} {feitos : List Envio} (may : Envio.pode e.op feitos) :
    (OpEstoque.exec e.op e.state).2.state.lancamentosDeEstoque =
      e.state.state.lancamentosDeEstoque + [e].countP Envio.lancado := by
  obtain ⟨task, o, s⟩ := e
  rcases o with (q | t) | q
  · cases fault : s.faults.headD false with
    | true =>
      have silent : Envio.lancado ⟨task, .rota (.sql q), s⟩ = false := by
        simp only [Envio.lancado, Envio.respondido, fault, Bool.not_true, Bool.and_false]
      have run : OpEstoque.exec (.rota (.sql q)) s = (.error Tx.rejeicao, ⟨s.state, s.faults.tail⟩) :=
        Faulty.exec_rejected q fault
      rw [run, List.countP_singleton, silent]
      rfl
    | false =>
      have answered : Envio.lancado ⟨task, .rota (.sql q), s⟩ =
          Envio.lancamento ⟨task, .rota (.sql q), s⟩ := by
        simp only [Envio.lancado, Envio.respondido, fault, Bool.not_false, Bool.and_true]
      have run : OpEstoque.exec (.rota (.sql q)) s =
          (.ok (q.sem s.state).1, ⟨(q.sem s.state).2, s.faults.tail⟩) :=
        Faulty.exec_answered q fault
      rw [run, List.countP_singleton, answered]
      cases q with
      | insertLancamento lancamento =>
        have category : lancamento.categoria = some "estoque" := may.2
        simp [Sql.sem, Db.lancamentosDeEstoque, Db.novoLancamento, Table.rows_insert,
          List.countP_append, category, Envio.lancamento]
      | selectEstoque | somaEstoque | updateStatus | insertLog => rfl
      | _ => exact may.2.elim
  · exact may.2.elim
  · exact may.2.elim

theorem lancamentos_execute {past : List Envio} {c : Almoxarifado}
    {passos : List PassoMovimento}
    (lawful : Lawful (fun past (e : Envio) => Envio.pode e.op (own e.task past)) past
      (movimentacao.log passos c)) :
    (Almoxarifado.db (movimentacao.execute passos c)).lancamentosDeEstoque =
      c.db.lancamentosDeEstoque + (movimentacao.log passos c).countP Envio.lancado := by
  induction passos generalizing past c with
  | nil => rfl
  | cons a passos ih =>
    rw [System.log, lawful_append] at lawful
    have rest := ih lawful.2
    have first : (Almoxarifado.db (movimentacao.advance a c)).lancamentosDeEstoque =
        c.db.lancamentosDeEstoque + (c.entries a).countP Envio.lancado := by
      rw [Almoxarifado.db, System.advance_state_async (M := movimentacao) fun _ => rfl]
      have now := lawful.1
      cases a with
      | arrive request => rfl
      | drift dt => rfl
      | step task =>
        rw [Config.entries] at now ⊢
        rw [Config.issued]
        cases found : c.tasks[task]? with
        | none => rfl
        | some p =>
          cases p with
          | done b => rfl
          | fail e => rfl
          | call o next =>
            simp only [found] at now
            exact lancamentos_exec (e := ⟨task, o, c.state⟩) now.1
    rw [System.log, List.countP_append, System.execute, rest, first, Nat.add_assoc]

theorem movimentacao_told (w : Faulty Db) (passos : List PassoMovimento) :
    Lawful (fun past (e : Envio) => Envio.pode e.op (own e.task past)) []
        (movimentacao.log passos ⟨w, []⟩) ∧
      System.Told movimentacao Envio.pode Encerra (movimentacao.log passos ⟨w, []⟩)
        (movimentacao.execute passos ⟨w, []⟩) := by
  refine System.execute_told (fun _ => rfl) (fun request p member => ?_) (System.told_empty w) passos
  obtain rfl := List.mem_singleton.mp member
  cases request with
  | entrada corpo => exact encerra_entrada corpo
  | saida corpo => exact encerra_saida corpo
  | alterarStatus corpo => exact encerra_alterarStatus corpo

theorem certo_respondida {passos : List PassoMovimento} {i : Nat} {resposta : Resposta}
    (lawful : Lawful RegistroDevido [] (movimentacao.log passos ⟨w, []⟩))
    (ended : (movimentacao.execute passos ⟨w, []⟩).tasks[i]? = some (.done resposta)) :
    Certo resposta (own i (movimentacao.log passos ⟨w, []⟩)) := by
  obtain ⟨-, -, tasks⟩ := movimentacao_told w passos
  obtain ⟨r, same, encerrado⟩ := tasks i _ ended
  cases same
  have due : Lawful Envio.Devido (own i []) (own i (movimentacao.log passos ⟨w, []⟩)) :=
    lawful_own lawful i
  exact encerrado_certo encerrado due

theorem juntos_devido {passos : List PassoMovimento}
    (lawful : Lawful RegistroDevido [] (movimentacao.log passos ⟨w, []⟩)) :
    Juntos w (movimentacao.log passos ⟨w, []⟩) (movimentacao.execute passos ⟨w, []⟩) where
  sucesso _ _ ended := (certo_respondida lawful ended).sucesso
  erro _ _ ended := (certo_respondida lawful ended).erro
  total ended := by
    obtain ⟨allowed, bound, tasks⟩ := movimentacao_told w passos
    rw [lancamentos_execute allowed]
    refine congrArg _ (countP_own fun i => ?_)
    cases found : (movimentacao.execute passos ⟨w, []⟩).tasks[i]? with
    | none =>
      have outside := List.getElem?_eq_none_iff.mp found
      have untold : own i (movimentacao.log passos ⟨w, []⟩) = [] := by
        apply List.filter_eq_nil_iff.mpr
        intro e member
        have := bound e member
        simp only [decide_eq_true_eq]
        omega
      rw [untold]
      rfl
    | some p =>
      cases p with
      | done resposta => exact (certo_respondida lawful found).estoque
      | fail e =>
        obtain ⟨resposta, same, -⟩ := tasks i _ found
        cases same
      | call o next => exact (ended _ (List.mem_of_getElem? found)).elim

theorem devido_juntos {passos : List PassoMovimento} {past : List Envio} {e : Envio}
    (logged : movimentacao.log passos ⟨w, []⟩ = past ++ [e])
    (juntos : Juntos w (past ++ [e]) (movimentacao.execute passos ⟨w, []⟩)) :
    RegistroDevido past e := by
  intro registra
  obtain ⟨-, bound, tasks⟩ := movimentacao_told w passos
  rw [logged] at bound tasks
  have inside := bound e (by simp)
  have meets := tasks e.task _ (List.getElem?_eq_getElem inside)
  rw [own_append, own_self] at meets
  have recorded : ¬ ∀ x : Envio, x ∈ own e.task past ++ [e] → x.registra = false := by
    intro all
    have unrecorded := all e (by simp)
    rw [registra] at unrecorded
    cases unrecorded
  cases task : (movimentacao.execute passos ⟨w, []⟩).tasks[e.task] with
  | call o next =>
    rw [task] at meets
    exact absurd meets.1.1 recorded
  | fail error =>
    rw [task] at meets
    obtain ⟨_, same, -⟩ := meets
    cases same
  | done resposta =>
    rw [task] at meets
    obtain ⟨r, same, encerrado⟩ := meets
    cases same
    have found : (movimentacao.execute passos ⟨w, []⟩).tasks[e.task]? = some (.done resposta) := by
      rw [List.getElem?_eq_getElem inside, task]
    have moves : movimentos e.task (past ++ [e]) = movimentos e.task past := by
      rw [movimentos, own_append, own_self, List.countP_append, List.countP_singleton,
        Envio.move_registra registra]
      rfl
    have answered : resposta.status = 200 ↔ e.respondido = true := by
      generalize own_e : own e.task past ++ [e] = feitos at encerrado recorded
      cases encerrado with
      | recusado _ nada => exact absurd (fun x member => (nada x member).2) recorded
      | registrado _ _ _ _ status =>
        obtain ⟨-, last⟩ := List.append_inj' own_e rfl
        obtain rfl := List.singleton_inj.mp last
        exact status
    rw [← answered]
    constructor
    · intro success
      have := (juntos.sucesso _ _ found success).1
      omega
    · intro changed
      by_contra failure
      have := (juntos.erro _ _ found failure).1
      omega

/-- Changes and records go together at every moment of a run exactly if every record is due. -/
theorem sempreJuntos_iff (w : Faulty Db) (passos : List PassoMovimento) :
    SempreJuntos w passos ↔ Lawful RegistroDevido [] (movimentacao.log passos ⟨w, []⟩) := by
  constructor
  · intro sempre
    rw [lawful_iff]
    intro past e rest split
    obtain ⟨first, second, rfl, logged⟩ := System.log_split split
    have juntos := sempre first second rfl
    rw [logged] at juntos
    exact devido_juntos logged juntos
  · rintro lawful pre post rfl
    apply juntos_devido
    rw [System.log_append, lawful_append] at lawful
    exact lawful.1

/-- An entry of five for a product that is not there. -/
def entradaPerdida : List PassoMovimento :=
  [.arrive (.entrada ⟨9, 5, ""⟩), .step 0, .step 0]

/-- Success is answered and recorded, and no stock has moved. -/
theorem entrada_perdida : ¬ SempreJuntos ⟨{}, []⟩ entradaPerdida := by
  intro sempre
  have juntos := sempre entradaPerdida [] (by simp)
  have moved := (juntos.sucesso 0 ⟨200, "Estoque atualizado com sucesso", none⟩ rfl rfl).1
  revert moved
  decide +kernel

end Execucao
end IceClube
