import IceClube.Connections
import IceClube.Execucao

/-! The pool of the bot. Each `db.query` runs on whatever connection the pool hands out, also
the statements that start and end a courier's transaction. -/
namespace IceClube

open Coop Prog

def SqlBot.tipo : SqlBot → Kind
  | startTransaction => .start
  | commit => .commit
  | rollback => .rollback
  | criarTabela => .define
  | insertUsuario _ | updateNumero .. | updateSenha .. | updateEndereco .. | iniciarEntregas _
  | pedidosNaRua _ | finalizarEntregas _ | finalizarPedidos _ | receberEntrega _
  | receberPedido _ | receberVenda _ | falharEntrega .. | falharPedido _ | receber ..
  | justificar .. | insertEntregador .. | fecharEntregador _ | encerrarEntregador _
  | finalizarRotas _ | salvarRota .. => .write
  | _ => .read

/-- The database of `mundo` is what is committed. A write is kept with its time. -/
structure Banco where
  mundo : Mundo := {}
  /-- The connections that the next statements will run on. -/
  conexoes : List Nat := []
  livro : Ledger (SqlBot × Nat) := {}

namespace Banco

def conexao (b : Banco) : Nat := b.conexoes.headD 0

def refazer (db : Db) (escrita : SqlBot × Nat) : Db :=
  { (escrita.1.sem { db with agora := escrita.2 }).2 with agora := db.agora }

/-- What a connection sees: the committed rows and the writes of its own transaction. -/
def visto (b : Banco) (k : Nat) : Db :=
  (b.livro.writes.filter fun w => w.conn = k ∧ w.fate = .pending).foldl
    (fun db w => refazer db w.stmt) b.mundo.db

/-- The statement reaches the database and is not refused there. -/
def chega (b : Banco) (q : SqlBot) : Bool :=
  q.recusa.isNone &&
    match b.mundo.falhas.headD .nenhuma with
    | .rejeitada _ => false
    | _ => true

/-- What is committed after a statement that left the connection with `depois`. -/
def gravado (b : Banco) (q : SqlBot) (depois : Db) : Db :=
  match q.tipo with
  | .start | .commit | .define => b.visto b.conexao
  | .rollback | .read => b.mundo.db
  | .write => if b.livro.inside b.conexao then b.mundo.db else depois

def exec : Exec String Ato.Res Banco
  | .query c q, b =>
    let r := Ato.exec (.query c q) { b.mundo with db := b.visto b.conexao }
    (r.1,
      { mundo := { r.2 with
          db := if b.chega q then b.gravado q r.2.db else b.mundo.db }
        conexoes := b.conexoes.tail
        livro :=
          if b.chega q then b.livro.exec b.conexao q.tipo (q, b.mundo.db.agora) else b.livro })
  | o, b => ((o.exec b.mundo).1, { b with mundo := (o.exec b.mundo).2 })

end Banco

/-- What sets a courier's handler off: a button, or a message or button that `chatbot.js`
passes on to the panel. -/
inductive Comando where
  | botao (c : Chat) (data : Option Texto)
  | painel (c : Chat) (r : Nat) (e : Entrada)

def Comando.tratar : Comando → Fluxo Unit
  | botao c data => callbackEntrega c data
  | painel c r e => tratarEntrega c (enviarMensagem c) r e

/-- Beside what others do, the pool changes its mind. -/
structure Escolha where
  deriva : Deriva
  conexoes : List Nat

def entregadores : System Comando Escolha String Ato.Res Unit Banco where
  exec := Banco.exec
  sync := Ato.sync
  listeners comando := [comando.tratar]
  drift e b := { b with mundo := b.mundo.derivar e.deriva, conexoes := e.conexoes }

abbrev Passagem := Entry Ato Banco

namespace Passagem

variable (e : Passagem)

def evento : Option (Event (SqlBot × Nat)) :=
  match e.op with
  | .query _ q =>
    if e.state.chega q then
      some ⟨e.task, e.state.conexao, q.tipo, (q, e.state.mundo.db.agora)⟩
    else none
  | _ => none

def respondida : Bool :=
  match (Banco.exec e.op e.state).1 with
  | .ok _ => true
  | .error _ => false

def depois : Ledger (SqlBot × Nat) := (Banco.exec e.op e.state).2.livro

def reverte : Bool := e.evento.any (·.kind = .rollback)

/-- The ROLLBACK undid the write. -/
def desfez (n : Nat) : Bool :=
  e.reverte && e.state.livro.fate n = some .pending && e.depois.fate n = some .undone

end Passagem

def eventos (l : List Passagem) : List (Event (SqlBot × Nat)) := l.filterMap Passagem.evento

/-- The writes that a courier has not heard of yet, and those that it has. -/
structure Avisos where
  feitas : List Nat := []
  avisadas : List Nat := []

/-- A message that is sent after a write was answered, and before any ROLLBACK of its
handler, tells the courier of it. -/
def Avisos.ouve (task : Nat) (a : Avisos) (e : Passagem) : Avisos :=
  if e.task ≠ task then a
  else
    match e.op with
    | .query _ q =>
      if q.tipo = .rollback then { a with feitas := [] }
      else if q.tipo = .write ∧ e.respondida = true then
        { a with feitas := a.feitas ++ [e.state.livro.writes.length] }
      else a
    | .sendMessage .. =>
      if e.respondida then ⟨[], a.avisadas ++ a.feitas⟩ else a
    | _ => a

def avisos (task : Nat) (l : List Passagem) : Avisos := l.foldl (Avisos.ouve task) {}

/-- A ROLLBACK that ends a block leaves none of its writes. -/
def DesfazTudo (past : List Passagem) (e : Passagem) : Prop :=
  e.reverte = true → (account e.task (eventos past)).conn.isSome = true →
    ∀ n ∈ (account e.task (eventos past)).block, e.depois.fate n = some .undone

/-- No write that a courier was told of is undone by the ROLLBACK of another handler. -/
def NuncaDesfeito (l : List Passagem) : Prop :=
  ∀ e ∈ l, ∀ e' ∈ l, e'.task ≠ e.task → ∀ n ∈ (avisos e'.task l).avisadas, e.desfez n = false

/-- The statement runs on the connection of its own block, if one is open, and on the
connection of no other open block. -/
def Isolada (past : List Passagem) (e : Passagem) : Prop :=
  ∀ evento ∈ e.evento, Isolated (eventos past) evento

instance (past : List Passagem) (e : Passagem) : Decidable (DesfazTudo past e) :=
  inferInstanceAs (Decidable (_ → _))

instance (l : List Passagem) : Decidable (NuncaDesfeito l) :=
  inferInstanceAs (Decidable (∀ e ∈ l, _))

instance (past : List Passagem) (e : Passagem) : Decidable (Isolada past e) :=
  inferInstanceAs (Decidable (∀ evento ∈ e.evento, _))

section Livro

variable {past l : List Passagem}

/-- A statement that arrived is entered in the book, and nothing else is. -/
theorem depois_evento (e : Passagem) :
    e.depois =
      match e.evento with
      | some evento => e.state.livro.exec evento.conn evento.kind evento.stmt
      | none => e.state.livro := by
  obtain ⟨task, o, b⟩ := e
  rw [Passagem.depois, Passagem.evento]
  cases o with
  | query c q =>
    simp only [Banco.exec]
    split <;> rfl
  | _ => rfl

theorem eventos_append (first second : List Passagem) :
    eventos (first ++ second) = eventos first ++ eventos second := List.filterMap_append

theorem eventos_singleton (e : Passagem) : eventos [e] = e.evento.toList := by
  rw [eventos]
  cases told : e.evento <;> simp [told]

theorem depois_run {e : Passagem} (told : e.state.livro = Ledger.run (eventos past)) :
    e.depois = Ledger.run (eventos (past ++ [e])) := by
  rw [depois_evento, eventos_append, eventos_singleton, told]
  cases e.evento with
  | none => rw [Option.toList_none, List.append_nil]
  | some evento => rw [Option.toList_some, Ledger.run_append]

theorem livro_log (m : Mundo) (conexoes : List Nat) (passos : List (Action Comando Escolha)) :
    Lawful (fun past e => e.state.livro = Ledger.run (eventos past)) []
      (entregadores.log passos ⟨⟨m, conexoes, {}⟩, []⟩) := by
  refine System.log_tells Banco.livro (fun o b sync => ?_) (fun _ _ => rfl)
    (fun past e told => depois_run told) rfl
  cases o with
  | query c q => cases sync
  | _ => rfl

theorem isolated_eventos (isolada : Lawful Isolada past l) :
    Lawful Isolated (eventos past) (eventos l) := by
  induction l generalizing past with
  | nil => trivial
  | cons e rest ih =>
    have after := ih isolada.2
    rw [eventos_append, eventos_singleton] at after
    rw [← List.singleton_append, eventos_append, eventos_singleton, lawful_append]
    refine ⟨?_, after⟩
    cases told : e.evento with
    | none => trivial
    | some evento => exact ⟨isolada.1 evento told, trivial⟩

theorem task_evento {e : Passagem} {evento : Event (SqlBot × Nat)}
    (arrived : e.evento = some evento) : evento.task = e.task := by
  rw [Passagem.evento] at arrived
  split at arrived
  · split at arrived
    · exact Option.some.inj arrived ▸ rfl
    · cases arrived
  · cases arrived

theorem evento_respondida {e : Passagem} {c : Chat} {q : SqlBot} (op : e.op = .query c q)
    (answered : e.respondida = true) :
    e.evento = some ⟨e.task, e.state.conexao, q.tipo, (q, e.state.mundo.db.agora)⟩ := by
  obtain ⟨task, o, b⟩ := e
  obtain rfl : o = .query c q := op
  have arrived : b.chega q = true := by
    rw [Passagem.respondida] at answered
    simp only [Banco.exec, Ato.exec, Ato.infalivel, Ato.sync, Bool.false_eq_true, if_false,
      Ato.sem] at answered
    rw [Banco.chega]
    cases refused : q.recusa <;> rcases fault : b.mundo.falhas with _ | ⟨_ | _ | _, rest⟩ <;>
      simp [fault, refused] at answered ⊢
  rw [Passagem.evento]
  exact if_pos arrived

/-- The writes that a courier was told of, or is about to be, are its handler's own. -/
theorem avisos_made (told : Lawful (fun past e => e.state.livro = Ledger.run (eventos past)) [] l)
    (task : Nat) :
    ∀ n, n ∈ (avisos task l).feitas ∨ n ∈ (avisos task l).avisadas →
      n ∈ (account task (eventos l)).made := by
  induction l using List.reverseRecOn with
  | nil => simp [avisos]
  | append_singleton l e ih =>
    obtain ⟨before, here, -⟩ := lawful_append.mp told
    rw [List.nil_append] at here
    rw [avisos, List.foldl_append, List.foldl_cons, List.foldl_nil, ← avisos, eventos_append,
      Avisos.ouve]
    have old {n : Nat} (h : n ∈ (avisos task l).feitas ∨ n ∈ (avisos task l).avisadas) :
        n ∈ (account task (eventos l ++ eventos [e])).made := made_append (ih before n h) _
    split
    next => exact fun n => old
    next mine =>
      have mine : e.task = task := by simpa using mine
      cases op : e.op with
      | query c q =>
        simp only
        split
        · exact fun n h => old (.inr (h.resolve_left (by simp)))
        · split
          next write =>
            rintro n (h | h)
            · rcases List.mem_append.mp h with h | h
              · exact old (.inl h)
              · rw [List.mem_singleton.mp h, eventos_singleton, evento_respondida op write.2, here]
                exact mem_made_append.mpr (.inr ⟨mine, write.1, rfl⟩)
            · exact old (.inr h)
          next => exact fun n => old
      | sendMessage c texto teclado =>
        simp only
        split
        · rintro n (h | h)
          · simp at h
          · exact old ((List.mem_append.mp h).symm)
        · exact fun n => old
      | _ => exact fun n => old

end Livro

/-- However the pool hands its connections out: while each statement keeps to the connection
of its own block and off those of the others, a ROLLBACK undoes the whole block it ends, and
nothing that another courier was told of. -/
theorem isolamento (m : Mundo) (conexoes : List Nat) (passos : List (Action Comando Escolha))
    (isolada : Lawful Isolada [] (entregadores.log passos ⟨⟨m, conexoes, {}⟩, []⟩)) :
    Lawful DesfazTudo [] (entregadores.log passos ⟨⟨m, conexoes, {}⟩, []⟩) ∧
      NuncaDesfeito (entregadores.log passos ⟨⟨m, conexoes, {}⟩, []⟩) := by
  have told := livro_log m conexoes passos
  generalize entregadores.log passos ⟨⟨m, conexoes, {}⟩, []⟩ = l at isolada told ⊢
  -- a ROLLBACK that arrived, between the statements before it and its effect
  have rolled {first rest : List Passagem} {e : Passagem} (split : l = first ++ e :: rest)
      (reverte : e.reverte = true) : ∃ evento, evento.task = e.task ∧ evento.kind = .rollback ∧
        e.state.livro = Ledger.run (eventos first) ∧
        e.depois = Ledger.run (eventos first ++ [evento]) ∧
        Apart (eventos first) ∧ Isolated (eventos first) evento := by
    have before := lawful_iff.mp told first e rest split
    have law := lawful_iff.mp isolada first e rest split
    rw [split] at isolada
    obtain ⟨evento, arrived, rollback⟩ := (Option.any_eq_true ..).mp reverte
    have after := depois_run before
    rw [eventos_append, eventos_singleton, arrived, List.nil_append] at after
    exact ⟨evento, task_evento arrived, by simpa using rollback, before, after,
      apart_run apart_nil (isolated_eventos (lawful_append.mp isolada).1), law evento arrived⟩
  refine ⟨lawful_iff.mpr fun first e rest split reverte opened n block => ?_, ?_⟩
  · obtain ⟨evento, task, rollback, before, after, apart, law⟩ := rolled split reverte
    rw [List.nil_append, ← task] at opened block
    rw [after]
    exact rollback_all apart law rollback opened n block
  · intro e member e' member' other n heard
    by_contra undone
    have apart := apart_run apart_nil (isolated_eventos isolada)
    obtain ⟨first, rest, split⟩ := List.append_of_mem member
    simp only [Passagem.desfez, Bool.not_eq_false, Bool.and_eq_true, decide_eq_true_eq] at undone
    obtain ⟨⟨reverte, pending⟩, undone⟩ := undone
    obtain ⟨evento, task, rollback, before, after, apart', law⟩ := rolled split reverte
    rw [before] at pending
    rw [after] at undone
    have own := rollback_own apart' law rollback pending undone
    rw [task] at own
    have theirs := avisos_made told e'.task n (.inr heard)
    refine other (apart.maker _ _ n theirs ?_)
    rw [List.nil_append, split, eventos_append]
    exact made_append own _

def duasEntregas : Mundo where
  db :=
    { entregas := .ofList
        [{ pedidoId := 1, clienteNumero := "5511999990000", status := .rua, entregadorId := some 3 },
          { pedidoId := 2, clienteNumero := "5511999990001", status := .rua, entregadorId := some 4 }]
      pedidosDiarios := .ofList
        [{ clienteNumero := "5511999990000", status := .rua, valido := some 1, vendaId := some 1 },
          { clienteNumero := "5511999990001", status := .rua, valido := some 1, vendaId := some 2 }]
      vendas := .ofList
        [{ clienteNumero := "5511999990000", formaPagamento := "pix", valorTotal := 5 },
          { clienteNumero := "5511999990001", formaPagamento := "pix", valorTotal := 5 }] }
  conversas c :=
    { sessao := some 0
      objetos := fun _ =>
        { setor := some .entrega, autenticado := true, logado := true, rotaAtiva := true,
          usuarioId := some (if c = 7 then 3 else 4) }
      proximo := 1 }

/-- The answers of a run whose call number `n` is rejected. -/
def recusaNa (n : Nat) : List Falha := List.replicate n .nenhuma ++ [.rejeitada "Lock wait timeout"]

/-- The first courier's delivery is received until its order is refused. -/
def umRecebimento : List (Action Comando Escolha) :=
  .arrive (.botao 7 (some "recebido_1".toList)) :: List.replicate 5 (.step 0)

/-- The second courier's delivery is received between the first write of the first one's and
the second, which is refused. -/
def doisRecebimentos : List (Action Comando Escolha) :=
  [.arrive (.botao 7 (some "recebido_1".toList)), .arrive (.botao 8 (some "recebido_2".toList))] ++
    List.replicate 3 (.step 0) ++ List.replicate 7 (.step 1) ++ List.replicate 2 (.step 0)

/-- Both couriers keep to one connection each. -/
theorem uma_conexao_cada :
    let l := entregadores.log doisRecebimentos
      ⟨⟨{ duasEntregas with falhas := recusaNa 10 }, [0, 0, 1, 1, 1, 1, 1, 0, 0], {}⟩, []⟩
    Lawful DesfazTudo [] l ∧ NuncaDesfeito l :=
  isolamento { duasEntregas with falhas := recusaNa 10 } [0, 0, 1, 1, 1, 1, 1, 0, 0] doisRecebimentos
    (by decide +kernel)

/-- A block on two connections is not undone, and a block that lets a statement of another
courier in undoes it. -/
theorem conexoes_trocadas :
    ¬ Lawful DesfazTudo [] (entregadores.log umRecebimento
      ⟨⟨{ duasEntregas with falhas := recusaNa 3 }, [0, 1, 0, 0], {}⟩, []⟩) ∧
    ¬ NuncaDesfeito (entregadores.log doisRecebimentos
      ⟨⟨{ duasEntregas with falhas := recusaNa 10 }, [0, 0, 1, 0, 1, 1, 1, 0, 0], {}⟩, []⟩) := by
  decide +kernel

end IceClube
