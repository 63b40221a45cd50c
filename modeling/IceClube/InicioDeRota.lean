import IceClube.Seguimento

/-! The two branches of `iniciar_rota` that open a route: only one of them starts the deliveries. -/
namespace IceClube

open Coop Prog

section Chamadas

variable (c : Chat) (u : Option Nat)

def Executa (q : SqlBot) (o : Ato) (m : Mundo) : Prop := o = .query c q ∧ m.alcanca = true

/-- A row of `entregador` is created for the courier. -/
def CriaRota (o : Ato) (m : Mundo) : Prop :=
  ∃ nome quantidade, Executa c (.insertEntregador nome quantidade u) o m

/-- The courier's deliveries start now, and their orders are on the street. -/
def Iniciadas (db : Db) : Prop :=
  ∀ p ∈ db.entregasDe [.rua] u, p.2.horaInicio = some db.agora ∧ p.2.dataSaida = some db.agora ∧
    ∀ pedido, db.pedidosDiarios.get p.2.pedidoId = some pedido → pedido.status = .rua

/-- If a route is created and committed, the courier's deliveries start with it. -/
def InicioCompleto (f : Fluxo Unit) (m : Mundo) : Prop :=
  Ocorre (CriaRota c u) f m → Ocorre (Executa c .commit) f m →
    Iniciadas u (f.run Ato.exec m).2.db

def InicioDispensado (db : Db) : Prop :=
  u.getD 0 = 0 ∨ db.entregasDe [.rua] u = [] ∨
    (∃ rota ∈ db.entregador.rows, u = some rota.2.entregadorId ∧ rota.2.horaFim = none) ∨
    Iniciadas u db

end Chamadas

section Entregas

variable {u : Option Nat} {db : Db}

/-- The statements of `iniciar_rota`. -/
def SqlBot.Inicia : SqlBot → Prop
  | .startTransaction | .commit | .rollback | .selectEntregas _ | .selectRotaAberta _
  | .selectNome _ | .insertEntregador .. | .fecharEntregador _ | .iniciarEntregas _
  | .pedidosNaRua _ => True
  | _ => False

def Ato.Inicia : Ato → Prop
  | .query _ q => q.Inicia
  | .updateComprovante .. => False
  | _ => True

theorem entregasDe_pedidosNaRua (u' : Option Nat) (status : List StatusEntrega) :
    ((SqlBot.pedidosNaRua u').sem db).2.entregasDe status u = db.entregasDe status u := by
  have valid (n : Nat) : ((SqlBot.pedidosNaRua u').sem db).2.pedidoValido n = db.pedidoValido n := by
    simp only [Db.pedidoValido, SqlBot.sem, Db.alterarPedidosDe, Table.get_alter, Option.any_map]
    congr 1
    funext p
    split <;> rfl
  simp only [Db.entregasDe, valid]
  rfl

theorem get_pedidosNaRua {u' : Option Nat} {n : Nat} {pedido : Pedido}
    (found : ((SqlBot.pedidosNaRua u').sem db).2.pedidosDiarios.get n = some pedido) :
    pedido.status = .rua ∨
      db.naEntregaDe .rua u' n = false ∧ db.pedidosDiarios.get n = some pedido := by
  simp only [SqlBot.sem, Db.alterarPedidosDe, Table.get_alter, Option.map_eq_some_iff] at found
  obtain ⟨old, here, rfl⟩ := found
  split
  · exact .inl rfl
  · exact .inr ⟨Bool.eq_false_of_not_eq_true ‹_›, here⟩

/-- A delivery of the altered table is one of the old table, started or as it was. -/
theorem mem_iniciarEntregas {u' : Option Nat} {p : Nat × Entrega}
    (member : p ∈ ((SqlBot.iniciarEntregas u').sem db).2.entregasDe [.rua] u) :
    ∃ old, (p.1, old) ∈ db.entregasDe [.rua] u ∧ p.2.pedidoId = old.pedidoId ∧
      (p.2 = { old with horaInicio := some db.agora, dataSaida := some db.agora } ∨
        p.2 = old ∧ u' ≠ u) := by
  obtain ⟨id, e⟩ := p
  obtain ⟨found, valid, status, own⟩ := mem_entregasDe.mp member
  obtain ⟨old, here, rfl⟩ := Option.map_eq_some_iff.mp found
  by_cases started : old.de u' ∧ old.status = .rua
  · simp only [if_pos started] at valid status own ⊢
    exact ⟨old, mem_entregasDe.mpr ⟨here, valid, status, own⟩, rfl, .inl rfl⟩
  · simp only [if_neg started] at valid status own ⊢
    refine ⟨old, mem_entregasDe.mpr ⟨here, valid, status, own⟩, rfl, .inr ⟨rfl, ?_⟩⟩
    rintro rfl
    exact started ⟨own, List.mem_singleton.mp status⟩

/-- No statement of `iniciar_rota` undoes a start. -/
theorem iniciadas_sem {q : SqlBot} (inicia : q.Inicia) (before : Iniciadas u db) :
    Iniciadas u (q.sem db).2 := by
  cases q with
  | iniciarEntregas u' =>
    intro p member
    obtain ⟨old, here, order, same | ⟨same, -⟩⟩ := mem_iniciarEntregas member
    · rw [same]
      exact ⟨rfl, rfl, (before _ here).2.2⟩
    · rw [same]
      exact before _ here
  | pedidosNaRua u' =>
    intro p member
    rw [entregasDe_pedidosNaRua] at member
    obtain ⟨hour, day, street⟩ := before p member
    refine ⟨hour, day, fun pedido found => ?_⟩
    rcases get_pedidosNaRua found with on_street | ⟨-, here⟩
    · exact on_street
    · exact street pedido here
  | startTransaction | commit | rollback | selectEntregas | selectRotaAberta | selectNome
  | insertEntregador | fecharEntregador => exact before
  | _ => exact inicia.elim

theorem iniciadas_novas : Iniciadas u
    ((SqlBot.pedidosNaRua u).sem ((SqlBot.iniciarEntregas u).sem db).2).2 := by
  intro p member
  have street (pedido : Pedido) (found : ((SqlBot.pedidosNaRua u).sem
      ((SqlBot.iniciarEntregas u).sem db).2).2.pedidosDiarios.get p.2.pedidoId = some pedido) :
      pedido.status = .rua := by
    have named : ((SqlBot.iniciarEntregas u).sem db).2.naEntregaDe .rua u p.2.pedidoId = true := by
      rw [entregasDe_pedidosNaRua] at member
      obtain ⟨row, -, status, own⟩ := mem_entregasDe.mp member
      refine List.any_eq_true.mpr ⟨p, Table.mem_rows.mpr row, ?_⟩
      simp [own, List.mem_singleton.mp status]
    rcases get_pedidosNaRua found with on_street | ⟨unnamed, -⟩
    · exact on_street
    · rw [named] at unnamed
      cases unnamed
  rw [entregasDe_pedidosNaRua] at member
  obtain ⟨old, -, -, same | ⟨-, other⟩⟩ := mem_iniciarEntregas member
  · rw [same] at street ⊢
    exact ⟨rfl, rfl, street⟩
  · exact absurd rfl other

theorem iniciadas_exec {o : Ato} (inicia : o.Inicia) {m : Mundo} (before : Iniciadas u m.db) :
    Iniciadas u (o.exec m).2.db := by
  have effect (falhas : List Falha) : Iniciadas u (o.sem (m.comFalhas falhas)).2.db := by
    cases o with
    | updateComprovante => exact inicia.elim
    | query c q =>
      rw [Ato.sem]
      split
      · exact before
      · exact iniciadas_sem inicia before
    | _ => exact before
  exact Ato.exec_regra (R := fun _ m' => Iniciadas u m'.db) effect (fun _ _ _ => before)
    fun _ falhas _ => effect falhas

end Entregas

section Iniciar

variable (c : Chat) (atual : Nat)

/-- The `try` of `iniciar_rota`. -/
def iniciar : Fluxo Unit := do
  consulta c .startTransaction
  let sessaoAtual ← faz (.ler c atual)
  if sessaoAtual.usuarioId.getD 0 = 0 then fail "ID do usuário não definido na sessão"
  else do
    let pedidosPendentes ← consulta c (.selectEntregas sessaoAtual.usuarioId)
    let sessaoAtual ← faz (.ler c atual)
    let rotaAberta ← consulta c (.selectRotaAberta sessaoAtual.usuarioId)
    if pedidosPendentes ≠ [] then
      reabrirRota c (enviarMensagem c) atual pedidosPendentes rotaAberta
    else novaRota c (enviarMensagem c) atual rotaAberta

/-- Its `catch`. -/
def naoIniciou (erro : String) : Fluxo Unit := do
  consulta c .rollback
  faz (.atribuir c atual encerrarRota)
  faz (.set c atual)
  enviarMensagem c s!"⚠️ *Erro ao iniciar/reabrir a rota: {erro}. Tente novamente.*"

theorem iniciarRota_eq (e : Entrada) : iniciarRota c (enviarMensagem c) atual e =
    (responderBotao c e >>= fun _ => (iniciar c atual).handle (naoIniciou c atual)) := rfl

variable {c atual} {P : Ato → Prop} {m : Mundo}

theorem DoPainel.criarEntregador (panel : DoPainel c P) (names : ∀ u, P (.query c (.selectNome u)))
    (creates : ∀ nome n u, P (.query c (.insertEntregador nome n u))) (quantidade : Nat) :
    (criarEntregador c atual quantidade).Calls P :=
  calls_bind ((calls_ask _).mpr (panel.le _)) fun _ =>
    calls_bind ((calls_ask _).mpr (names _)) fun _ =>
      calls_bind ((calls_ask _).mpr (panel.le _)) fun _ => (calls_ask _).mpr (creates _ _ _)

theorem calls_reabrirRota (panel : DoPainel c P) (commits : P (.query c .commit))
    {aberta : Option (Nat × Entregador)} (pendentes : List (Nat × Entrega))
    (creates : aberta = none → (criarEntregador c atual pendentes.length).Calls P) :
    (reabrirRota c (enviarMensagem c) atual pendentes aberta).Calls P := by
  refine calls_bind ?_ fun id => calls_bind (panel.grava _ _) fun _ =>
    calls_bind (panel.mensagem _) fun _ => (calls_ask _).mpr commits
  cases aberta with
  | some rota => exact calls_done _
  | none => exact creates rfl

theorem calls_fecharAberta (closes : ∀ id, P (.query c (.fecharEntregador id)))
    (aberta : Option (Nat × Entregador)) : (fecharAberta c aberta).Calls P := by
  cases aberta with
  | some rota => exact (calls_ask _).mpr (closes _)
  | none => exact calls_done ()

theorem calls_iniciarRota (panel : DoPainel c P)
    (statements : ∀ q : SqlBot, q.Inicia → P (.query c q)) (e : Entrada) :
    (iniciarRota c (enviarMensagem c) atual e).Calls P := by
  have sql {q : SqlBot} (inicia : q.Inicia) : (consulta c q).Calls P :=
    (calls_ask _).mpr (statements q inicia)
  have read : (faz (.ler c atual)).Calls P := (calls_ask _).mpr (panel.le _)
  have creates (n : Nat) : (criarEntregador c atual n).Calls P :=
    panel.criarEntregador (fun _ => statements _ trivial) (fun _ _ _ => statements _ trivial) n
  rw [iniciarRota_eq]
  refine calls_bind (calls_responderBotao panel.responde e) fun _ => calls_handle
    (calls_bind (sql trivial) fun _ => calls_bind read fun s => ?_) fun erro => ?_
  · split
    · exact calls_fail _
    · refine calls_bind (sql trivial) fun pendentes => calls_bind read fun s =>
        calls_bind (sql trivial) fun aberta => ?_
      split
      · exact calls_reabrirRota panel (statements _ trivial) _ fun _ => creates _
      · refine calls_bind (calls_fecharAberta (fun _ => statements _ trivial) _) fun _ =>
          calls_bind read fun s => calls_bind (sql trivial) fun pedidos => ?_
        split
        · exact calls_bind (sql trivial) fun _ => panel.mensagem _
        · exact calls_bind (creates _) fun id => calls_bind (panel.grava _ _) fun _ =>
            calls_bind read fun s => calls_bind (sql trivial) fun _ =>
              calls_bind read fun s => calls_bind (sql trivial) fun _ =>
                calls_bind (sql trivial) fun _ => panel.mensagem _
  · exact calls_bind (sql trivial) fun _ => calls_bind ((calls_ask _).mpr (panel.atribui _ _))
      fun _ => calls_bind ((calls_ask _).mpr (panel.guarda _)) fun _ => panel.mensagem _

end Iniciar

section Criacao

variable {c : Chat} {atual : Nat} {u : Option Nat} {m : Mundo}

theorem doPainel_inicia : DoPainel c Ato.Inicia :=
  ⟨fun _ _ => trivial, trivial, trivial, fun _ => trivial, fun _ => trivial, fun _ _ => trivial,
    fun _ => trivial⟩

theorem doPainel_semCriar : DoPainel c fun o => ∀ m, ¬ CriaRota c u o m :=
  doPainel_of fun _ other _ created => by
    obtain ⟨_, _, same, -⟩ := created
    exact other _ same

theorem iniciadas_run (e : Entrada) (before : Iniciadas u m.db) :
    Iniciadas u ((iniciarRota c (enviarMensagem c) atual e).run Ato.exec m).2.db := by
  have calls : (iniciarRota c (enviarMensagem c) atual e).Calls Ato.Inicia :=
    calls_iniciarRota doPainel_inicia (fun _ inicia => inicia) e
  exact trace_invariant (fun w : Mundo => Iniciadas u w.db)
    (fun x member kept => iniciadas_exec (calls_trace calls m x member) kept) before

def SqlBot.cria : SqlBot → Bool
  | .insertEntregador .. => true
  | _ => false

theorem not_criaRota {q : SqlBot} (other : q.cria = false) (m : Mundo) :
    ¬ CriaRota c u (.query c q) m := by
  rintro ⟨nome, n, same, -⟩
  cases same
  cases other

theorem passou_iniciarRota (e : Entrada) (known : ((m.conversas c).objetos atual).usuarioId = u)
    (created : Ocorre (CriaRota c u) (iniciarRota c (enviarMensagem c) atual e) m) :
    u.getD 0 ≠ 0 ∧ ∃ w, w.db = m.db ∧ (w.conversas c).objetos = (m.conversas c).objetos ∧
      Ocorre (CriaRota c u)
        (if m.db.entregasDe [.rua] u ≠ [] then reabrirRota c (enviarMensagem c) atual
            (m.db.entregasDe [.rua] u) ((SqlBot.selectRotaAberta u).sem m.db).1
        else novaRota c (enviarMensagem c) atual ((SqlBot.selectRotaAberta u).sem m.db).1) w := by
  rw [iniciarRota_eq] at created
  obtain ⟨m₁, passed, db₁, objects₁⟩ := passou_responder created doPainel_semCriar.responde
  have tried : Ocorre (CriaRota c u) (iniciar c atual) m₁ := by
    refine ((ocorre_handle m₁).mp passed.ocorre).resolve_right ?_
    rintro ⟨erro, m', -, later⟩
    refine ocorre_calls (calls_bind ((calls_ask _).mpr (not_criaRota rfl)) fun _ =>
      calls_bind ((calls_ask _).mpr (doPainel_semCriar.atribui _ _)) fun _ =>
        calls_bind ((calls_ask _).mpr (doPainel_semCriar.guarda _)) fun _ =>
          doPainel_semCriar.mensagem _) m' later
  obtain ⟨m₂, passed, db₂, objects₂⟩ := passou_consulta tried (not_criaRota rfl m₁)
  have passed := passou_ler passed.ocorre (doPainel_semCriar.le atual m₂)
  have known₂ : ((m₂.conversas c).objetos atual).usuarioId = u := by rw [objects₂, objects₁, known]
  rw [known₂] at passed
  by_cases unknown : u.getD 0 = 0
  · rw [if_pos unknown] at passed
    obtain ⟨_, member, -⟩ := passed.ocorre
    cases member
  rw [if_neg unknown] at passed
  refine ⟨unknown, ?_⟩
  obtain ⟨m₃, passed, db₃, objects₃⟩ := passou_consulta passed.ocorre (not_criaRota rfl m₂)
  have passed := passou_ler passed.ocorre (doPainel_semCriar.le atual m₃)
  rw [objects₃, known₂] at passed
  obtain ⟨m₄, passed, db₄, objects₄⟩ := passou_consulta passed.ocorre (not_criaRota rfl m₃)
  have same₃ : m₃.db = m.db := db₃.trans (db₂.trans db₁)
  refine ⟨m₄, db₄.trans same₃, objects₄.trans (objects₃.trans (objects₂.trans objects₁)), ?_⟩
  have made := passed.ocorre
  rw [same₃] at made
  have same₂ : m₂.db = m.db := db₂.trans db₁
  rw [same₂] at made
  exact made

theorem passou_fechar {P : Ato → Mundo → Prop} {f : Unit → Fluxo Unit}
    {aberta : Option (Nat × Entregador)} (told : Ocorre P (fecharAberta c aberta >>= f) m)
    (other : ∀ id m, ¬ P (.query c (.fecharEntregador id)) m) :
    ∃ m', Passou P (fecharAberta c aberta >>= f) m (f ()) m' ∧
      (∃ rotas, m'.db = { m.db with entregador := rotas }) ∧
      (m'.conversas c).objetos = (m.conversas c).objetos := by
  cases aberta with
  | none => exact ⟨m, ⟨rfl, told⟩, ⟨m.db.entregador, rfl⟩, rfl⟩
  | some rota =>
    obtain ⟨m', passed, db, objects⟩ := passou_consulta told (other rota.1 m)
    exact ⟨m', passed, ⟨_, db⟩, objects⟩

theorem not_cria_semPedidos {aberta : Option (Nat × Entregador)}
    (known : ((m.conversas c).objetos atual).usuarioId = u) (nobody : m.db.entregasDe [.rua] u = []) :
    ¬ Ocorre (CriaRota c u) (novaRota c (enviarMensagem c) atual aberta) m := by
  intro created
  obtain ⟨m₁, passed, ⟨rotas, db₁⟩, objects₁⟩ := passou_fechar created fun _ => not_criaRota rfl
  have passed := passou_ler passed.ocorre (doPainel_semCriar.le atual m₁)
  rw [objects₁, known] at passed
  obtain ⟨m₂, passed, -⟩ := passou_consulta passed.ocorre (not_criaRota rfl m₁)
  have none_there : ((SqlBot.selectEntregas u).sem m₁.db).1 = [] := by
    rw [db₁]
    exact nobody
  have made := passed.ocorre
  rw [none_there, if_pos rfl] at made
  exact ocorre_calls (calls_bind ((calls_ask _).mpr (not_criaRota rfl)) fun _ =>
    doPainel_semCriar.mensagem _) m₂ made

theorem doPainel_semCommit : DoPainel c fun o => ∀ m, ¬ Executa c .commit o m :=
  doPainel_of fun _ other _ made => other _ made.1

theorem not_commit {q : SqlBot} (other : q ≠ .commit) (m : Mundo) :
    ¬ Executa c .commit (.query c q) m := by
  rintro ⟨same, -⟩
  cases same
  exact other rfl

theorem objetos_criarEntregador {n id : Nat} {m' : Mundo}
    (run : (criarEntregador c atual n).run Ato.exec m = (.ok id, m')) :
    (m'.conversas c).objetos = (m.conversas c).objetos := by
  have calls : (criarEntregador c atual n).Calls fun o => o.mudaObjeto = false :=
    calls_bind ((calls_ask _).mpr rfl) fun _ => calls_bind ((calls_ask _).mpr rfl) fun _ =>
      calls_bind ((calls_ask _).mpr rfl) fun _ => (calls_ask _).mpr rfl
  have objects := objetos_run (c := c) calls m
  rwa [run] at objects

def partir (c : Chat) (atual : Nat) (aviso : String) : Fluxo Unit := do
  let sessaoAtual ← faz (.ler c atual)
  consulta c (.iniciarEntregas sessaoAtual.usuarioId)
  let sessaoAtual ← faz (.ler c atual)
  consulta c (.pedidosNaRua sessaoAtual.usuarioId)
  consulta c .commit
  enviarMensagem c aviso

theorem iniciadas_partir {aviso : String} (known : ((m.conversas c).objetos atual).usuarioId = u)
    (committed : Ocorre (Executa c .commit) (partir c atual aviso) m) :
    Iniciadas u ((partir c atual aviso).run Ato.exec m).2.db := by
  have passed₁ := passou_ler committed (doPainel_semCommit.le atual m)
  rw [known] at passed₁
  obtain ⟨m₂, passed₂, db₂, objects₂⟩ := passou_consulta passed₁.ocorre (not_commit (by simp) m)
  have passed₃ := passou_ler passed₂.ocorre (doPainel_semCommit.le atual m₂)
  rw [objects₂, known] at passed₃
  obtain ⟨m₄, passed₄, db₄, -⟩ := passou_consulta passed₃.ocorre (not_commit (by simp) m₂)
  have rest : (consulta c .commit >>= fun _ => enviarMensagem c aviso).Calls Ato.Le :=
    calls_bind ((calls_ask _).mpr fun _ => rfl) fun _ => doPainel_le.mensagem _
  have way : (partir c atual aviso).run Ato.exec m = _ :=
    passed₁.run.trans (passed₂.run.trans (passed₃.run.trans passed₄.run))
  rw [way, db_run rest, db₄, db₂]
  exact iniciadas_novas

theorem novaRota_eq (aberta : Option (Nat × Entregador)) :
    novaRota c (enviarMensagem c) atual aberta = (do
      fecharAberta c aberta
      let sessaoAtual ← faz (.ler c atual)
      let pedidos ← consulta c (.selectEntregas sessaoAtual.usuarioId)
      if pedidos = [] then do
        consulta c .commit
        enviarMensagem c "📭 *Nenhum pedido atribuído a você com status \"rua\" para iniciar uma rota.*"
      else do
        let entregadorRotaId ← criarEntregador c atual pedidos.length
        abrirRota c atual entregadorRotaId
        partir c atual (
          s!"🚚 *Rota iniciada com {pedidos.length} pedido(s):*\n\n{listaDeEntregas pedidos}\n\n" ++
          "📍 *Envie sua localização para definir o ponto inicial da rota.*")) := rfl

/-- The branch of a new route starts the deliveries, whatever world it runs in. -/
theorem inicioCompleto_novaRota (aberta : Option (Nat × Entregador))
    (known : ((m.conversas c).objetos atual).usuarioId = u) :
    InicioCompleto c u (novaRota c (enviarMensagem c) atual aberta) m := by
  intro created committed
  have some_delivery : m.db.entregasDe [.rua] u ≠ [] :=
    fun nobody => not_cria_semPedidos known nobody created
  rw [novaRota_eq] at committed ⊢
  obtain ⟨m₁, passed₁, ⟨rotas, db₁⟩, objects₁⟩ := passou_fechar committed fun _ => not_commit (by simp)
  have passed₂ := passou_ler passed₁.ocorre (doPainel_semCommit.le atual m₁)
  rw [objects₁, known] at passed₂
  obtain ⟨m₂, passed₃, -, objects₂⟩ := passou_consulta passed₂.ocorre (not_commit (by simp) m₁)
  have some_there : ((SqlBot.selectEntregas u).sem m₁.db).1 ≠ [] := by
    rw [db₁]
    exact some_delivery
  rw [if_neg some_there] at passed₃
  obtain ⟨id, m₃, run, passed₄⟩ := passou_bind passed₃.ocorre
    (ocorre_calls (doPainel_semCommit.criarEntregador (fun _ => not_commit (by simp))
      (fun _ _ _ => not_commit (by simp)) _) m₂)
  have objects₃ := objetos_criarEntregador run
  rw [abrirRota, bind_assoc] at passed₄
  have passed₅ := passou_grava passed₄.ocorre (doPainel_semCommit.atribui _ _)
    (doPainel_semCommit.guarda _)
  have parted := iniciadas_partir (u := u) (by
    rw [usuarioId_grava, objects₃, objects₂, objects₁, known]
    rfl) passed₅.ocorre
  rw [passed₁.run, passed₂.run, passed₃.run, passed₄.run, passed₅.run]
  exact parted

/-- No row is created, or no delivery is started anew. -/
theorem inicioCompleto_of_dispensado (e : Entrada)
    (known : ((m.conversas c).objetos atual).usuarioId = u) (spared : InicioDispensado u m.db) :
    InicioCompleto c u (iniciarRota c (enviarMensagem c) atual e) m := by
  intro created committed
  obtain ⟨identified, w, db, objects, made⟩ := passou_iniciarRota e known created
  rcases spared with zero | nobody | ⟨rota, member, open'⟩ | started
  · exact absurd zero identified
  · rw [if_neg (not_not.mpr nobody)] at made
    exact absurd made (not_cria_semPedidos (by rw [objects, known]) (by rw [db, nobody]))
  · obtain ⟨first, found⟩ : ∃ first, ((SqlBot.selectRotaAberta u).sem m.db).1 = some first :=
      Option.isSome_iff_exists.mp (List.find?_isSome.mpr ⟨rota, member, by simpa using open'⟩)
    rw [found] at made
    split at made
    · exact absurd made (ocorre_calls (calls_reabrirRota doPainel_semCriar (not_criaRota rfl) _
        fun absent => by cases absent) w)
    · next nobody =>
      exact absurd made (not_cria_semPedidos (by rw [objects, known])
        (by rw [db]; exact not_not.mp nobody))
  · exact iniciadas_run e started

/-- What the branch of pending deliveries does behind the row: nothing to the deliveries. -/
def reaberta (c : Chat) (atual : Nat) (aviso : String) (id : Nat) : Fluxo Unit := do
  abrirRota c atual id
  enviarMensagem c aviso
  consulta c .commit

theorem commit_reaberta {aviso : String} {id : Nat} (calm : m.falhas = []) :
    Ocorre (Executa c .commit) (reaberta c atual aviso id) m := by
  rw [reaberta, abrirRota, bind_assoc]
  refine (segue_grava _).ocorre ?_
  obtain ⟨m', run, guarda⟩ := run_enviarMensagem (c := c) aviso (m := m.grava c atual _) calm
  refine (ocorre_bind _).mpr (.inr ⟨(), m', run, (ocorre_faz _ _).mpr ⟨rfl, ?_⟩⟩)
  exact alcanca_calmo guarda.calmo

theorem reaberta_le {aviso : String} {id : Nat} : (reaberta c atual aviso id).Calls Ato.Le :=
  calls_bind (doPainel_le.grava _ _) fun _ => calls_bind (doPainel_le.mensagem _) fun _ =>
    (calls_ask _).mpr fun _ => rfl

theorem naoIniciou_le (erro : String) : (naoIniciou c atual erro).Calls Ato.Le :=
  calls_bind ((calls_ask _).mpr fun _ => rfl) fun _ =>
    calls_bind ((calls_ask _).mpr (doPainel_le.atribui _ _)) fun _ =>
      calls_bind ((calls_ask _).mpr (doPainel_le.guarda _)) fun _ => doPainel_le.mensagem _

def avisoDeReabertura (pendentes : List (Nat × Entrega)) : String :=
  s!"🚚 *Rota ativa com {pendentes.length} pedido(s) pendente(s):*\n\n" ++
    s!"{listaDeEntregas pendentes}\n\n📍 *Envie sua localização para recalcular a rota.*"

theorem reabrirRota_none (pendentes : List (Nat × Entrega)) :
    reabrirRota c (enviarMensagem c) atual pendentes none =
      (criarEntregador c atual pendentes.length >>= reaberta c atual (avisoDeReabertura pendentes)) :=
  rfl

/-- Where every call is answered, the branch of pending deliveries reaches its row. -/
theorem segue_reabrir (e : Entrada) (calm : m.falhas = [])
    (known : ((m.conversas c).objetos atual).usuarioId = u) (identified : u.getD 0 ≠ 0)
    (pending : m.db.entregasDe [.rua] u ≠ [])
    (closed : ((SqlBot.selectRotaAberta u).sem m.db).1 = none) :
    ∃ nome n w aviso, w.falhas = [] ∧ w.db = m.db ∧
      Segue c (iniciarRota c (enviarMensagem c) atual e) m
        ((consulta c (.insertEntregador nome n u) >>= reaberta c atual aviso).handle
          (naoIniciou c atual)) w := by
  rw [iniciarRota_eq]
  let w₁ := m.aplica c .startTransaction
  let w₂ := w₁.aplica c (.selectEntregas u)
  let w₃ := w₂.aplica c (.selectRotaAberta u)
  let w₄ := w₃.aplica c (.selectNome u)
  have same (w : Mundo) (objects : (w.conversas c).objetos = (m.conversas c).objetos) :
      ((w.conversas c).objetos atual).usuarioId = u := by rw [objects, known]
  have objects₁ : (w₁.conversas c).objetos = (m.conversas c).objetos := objetos_aplica ..
  have objects₂ : (w₂.conversas c).objetos = (m.conversas c).objetos :=
    (objetos_aplica ..).trans objects₁
  have objects₃ : (w₃.conversas c).objetos = (m.conversas c).objetos :=
    (objetos_aplica ..).trans objects₂
  have objects₄ : (w₄.conversas c).objetos = (m.conversas c).objetos :=
    (objetos_aplica ..).trans objects₃
  let pendentes := m.db.entregasDe [.rua] u
  let nome := ou ((SqlBot.selectNome u).sem m.db).1 "Entregador Desconhecido"
  refine ⟨nome, pendentes.length, w₄, avisoDeReabertura pendentes, calm, rfl, ?_⟩
  refine (segue_responder calm e _).trans (Segue.handle ?_ _)
  refine (segue_consulta (q := .startTransaction) (m := m) _ calm rfl).trans ?_
  refine (segue_ler (m := w₁) _).trans ?_
  rw [same w₁ objects₁, if_neg identified]
  refine (segue_consulta (q := .selectEntregas u) (m := w₁) _ calm rfl).trans ?_
  refine (segue_ler (m := w₂) _).trans ?_
  rw [same w₂ objects₂]
  refine (segue_consulta (q := .selectRotaAberta u) (m := w₂) _ calm rfl).trans ?_
  change Segue c (if pendentes ≠ [] then
    reabrirRota c (enviarMensagem c) atual pendentes ((SqlBot.selectRotaAberta u).sem m.db).1 else _)
    w₃ _ _
  rw [if_pos pending, closed, reabrirRota_none]
  refine Segue.bind (f := criarEntregador c atual pendentes.length) ?_ _
  refine (segue_ler (m := w₃) _).trans ?_
  rw [same w₃ objects₃]
  refine (segue_consulta (q := .selectNome u) (m := w₃) _ calm rfl).trans ?_
  refine (segue_ler (m := w₄) _).trans ?_
  rw [same w₄ objects₄]
  exact .refl _ _

/-- Where every call is answered, nothing but the row is written. -/
theorem dispensado_of_inicioCompleto (e : Entrada) (calm : m.falhas = [])
    (known : ((m.conversas c).objetos atual).usuarioId = u)
    (complete : InicioCompleto c u (iniciarRota c (enviarMensagem c) atual e) m) :
    InicioDispensado u m.db := by
  by_contra needed
  simp only [InicioDispensado, not_or] at needed
  obtain ⟨identified, pending, closed, unstarted⟩ := needed
  have none_open : ((SqlBot.selectRotaAberta u).sem m.db).1 = none := by
    refine List.find?_eq_none.mpr fun rota member open' => closed ⟨rota, member, by simpa using open'⟩
  obtain ⟨nome, n, w, aviso, calm, same, goes⟩ := segue_reabrir e calm known identified pending none_open
  let inserted := w.aplica c (.insertEntregador nome n u)
  have row : Segue c (consulta c (.insertEntregador nome n u) >>= reaberta c atual aviso) w
      (reaberta c atual aviso w.db.entregador.next) inserted := segue_consulta _ calm rfl
  have created : Ocorre (CriaRota c u) (iniciarRota c (enviarMensagem c) atual e) m := by
    refine goes.ocorre ((ocorre_handle w).mpr (.inl ((ocorre_bind w).mpr (.inl ?_))))
    exact (ocorre_faz _ w).mpr ⟨nome, n, rfl, alcanca_calmo calm⟩
  have committed : Ocorre (Executa c .commit) (iniciarRota c (enviarMensagem c) atual e) m :=
    goes.ocorre ((ocorre_handle w).mpr (.inl (row.ocorre (commit_reaberta calm))))
  have after := complete created committed
  rw [goes.run, db_handle naoIniciou_le, row.run, db_run reaberta_le] at after
  rw [← same] at unstarted
  exact unstarted after

end Criacao

section Inicios

/-- However the calls end, a start of the route starts the deliveries. -/
def InicioIgual (c : Chat) (atual : Nat) (e : Entrada) (m : Mundo) : Prop :=
  ∀ falhas, InicioCompleto c ((m.conversas c).objetos atual).usuarioId
    (iniciarRota c (enviarMensagem c) atual e) (m.comFalhas falhas)

/-- The effect is missing exactly where a row is created for deliveries that were not started: by
the branch of pending deliveries, for the branch of a new route always has it. -/
theorem inicioIgual_iff (c : Chat) (atual : Nat) (e : Entrada) (m : Mundo) :
    (InicioIgual c atual e m ↔
      InicioDispensado ((m.conversas c).objetos atual).usuarioId m.db) ∧
    ∀ falhas aberta, InicioCompleto c ((m.conversas c).objetos atual).usuarioId
      (novaRota c (enviarMensagem c) atual aberta) (m.comFalhas falhas) := by
  refine ⟨⟨fun equal => ?_, fun spared falhas => ?_⟩, fun falhas aberta => ?_⟩
  · exact dispensado_of_inicioCompleto (m := m.comFalhas []) e rfl rfl (equal [])
  · exact inicioCompleto_of_dispensado (m := m.comFalhas falhas) e rfl spared
  · exact inicioCompleto_novaRota (m := m.comFalhas falhas) aberta rfl

/-- A delivery that has not left. -/
def entregaParada : Entrega :=
  { pedidoId := 1, clienteNumero := "45999", entregadorId := some 7, status := .rua }

def umaEntregaParada : Mundo where
  db :=
    { pedidosDiarios := .ofList [{ clienteNumero := "45999", status := .entrega, valido := some 1 }]
      entregas := .ofList [entregaParada] }
  conversas _ := { sessao := some 0, objetos := fun _ => { usuarioId := some 7 } }

/-- The route is opened, and neither the delivery nor its order is started. -/
theorem entrega_nao_iniciada :
    ¬ InicioIgual 1 0 { texto := "iniciar_rota".toList } umaEntregaParada := by
  intro equal
  rcases dispensado_of_inicioCompleto (m := umaEntregaParada.comFalhas []) _ rfl rfl (equal [])
    with zero | nobody | ⟨rota, member, -⟩ | started
  · exact absurd zero (by decide)
  · exact absurd nobody (by decide +kernel)
  · have none_there : (umaEntregaParada.comFalhas []).db.entregador.rows = [] := rfl
    rw [none_there] at member
    cases member
  · obtain ⟨hour, -⟩ := started (1, entregaParada) (by decide +kernel)
    cases hour

end Inicios
end IceClube
