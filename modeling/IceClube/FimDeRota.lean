import IceClube.RotaAberta
import IceClube.Seguimento

/-! What `finalizar_rota` closes, and what it changes beside the route. -/
namespace IceClube

open Coop Prog

def rotaFinalizada : String :=
  "✅ *Rota finalizada com sucesso! Todos os pedidos foram processados.*"

/-- The database behind the three statements of `finalizar_rota`. -/
def Db.finalizada (u rotaId : Option Nat) (db : Db) : Db :=
  let db := ((SqlBot.finalizarEntregas u).sem db).2
  let db := ((SqlBot.finalizarPedidos u).sem db).2
  ((SqlBot.encerrarEntregador rotaId).sem db).2

section Partes

variable (c : Chat) (atual : Nat)

def avisoDePendentes (pendentes : List (Nat × Entrega)) : String :=
  "⚠️ *Existem pedidos pendentes que não foram entregues:*\n\n" ++
    s!"{listaDePendentes pendentes}\n\n" ++
    "Finalize ou marque-os como falha antes de encerrar a rota."

/-- The end of the transaction, where nothing is pending. -/
def encerrar : Fluxo Unit := do
  let sessaoAtual ← faz (.ler c atual)
  consulta c (.finalizarEntregas sessaoAtual.usuarioId)
  let sessaoAtual ← faz (.ler c atual)
  consulta c (.finalizarPedidos sessaoAtual.usuarioId)
  let sessaoAtual ← faz (.ler c atual)
  consulta c (.encerrarEntregador sessaoAtual.entregadorRotaId)
  consulta c .commit
  faz (.atribuir c atual encerrarRota)
  faz (.set c atual)
  enviarMensagem c rotaFinalizada

/-- The `try` of `finalizar_rota`. -/
def fecharRota : Fluxo Unit := do
  consulta c .startTransaction
  let sessaoAtual ← faz (.ler c atual)
  let pedidosPendentes ← consulta c (.selectEntregas sessaoAtual.usuarioId)
  if pedidosPendentes ≠ [] then do
    consulta c .commit
    enviarMensagem c (avisoDePendentes pedidosPendentes)
  else encerrar c atual

def naoFinalizou (_ : String) : Fluxo Unit := do
  consulta c .rollback
  enviarMensagem c "⚠️ *Erro ao finalizar a rota. Tente novamente.*"

theorem finalizarRota_eq (e : Entrada) : finalizarRota c (enviarMensagem c) atual e = (do
    responderBotao c e
    let sessaoAtual ← faz (.ler c atual)
    if !sessaoAtual.rotaAtiva then
      enviarMensagem c "⚠️ *Nenhuma rota ativa para finalizar.*"
    else (fecharRota c atual).handle (naoFinalizou c)) := rfl

end Partes

section Passagem

variable {c : Chat} {atual : Nat} {m : Mundo}

theorem envia_mensagem {texto aviso : String}
    (told : Ocorre (EnviaTexto c texto) (enviarMensagem c aviso) m) : texto = aviso := by
  by_contra other
  refine ocorre_calls (calls_enviarMensagem aviso ?_ ?_ ?_ ?_ ?_) m told
  · rintro w ⟨⟨_, same⟩, -⟩
    cases same
    exact other rfl
  all_goals
    intros
    rintro ⟨⟨_, same⟩, -⟩
    cases same

theorem not_envia {o : Ato} {texto : String} (silent : ∀ t k, o ≠ .sendMessage c t k) (m : Mundo) :
    ¬ EnviaTexto c texto o m := fun sent => sent.1.elim (silent texto)

theorem passou_encerrar (told : Ocorre (EnviaTexto c rotaFinalizada) (encerrar c atual) m) :
    ((encerrar c atual).run Ato.exec m).2.db =
      m.db.finalizada ((m.conversas c).objetos atual).usuarioId
        ((m.conversas c).objetos atual).entregadorRotaId := by
  have passed₁ := passou_ler told (not_envia (by simp) m)
  obtain ⟨m₂, passed₂, db₂, objects₂⟩ := passou_consulta passed₁.ocorre (not_envia (by simp) m)
  have passed₃ := passou_ler passed₂.ocorre (not_envia (by simp) m₂)
  rw [objects₂] at passed₃
  obtain ⟨m₄, passed₄, db₄, objects₄⟩ := passou_consulta passed₃.ocorre (not_envia (by simp) m₂)
  have passed₅ := passou_ler passed₄.ocorre (not_envia (by simp) m₄)
  rw [objects₄, objects₂] at passed₅
  obtain ⟨m₆, passed₆, db₆, -⟩ := passou_consulta passed₅.ocorre (not_envia (by simp) m₄)
  have rest : (do
      consulta c .commit
      faz (.atribuir c atual encerrarRota)
      faz (.set c atual)
      enviarMensagem c rotaFinalizada : Fluxo Unit).Calls Ato.Le :=
    calls_bind ((calls_ask _).mpr fun _ => rfl) fun _ =>
      calls_bind ((calls_ask _).mpr (doPainel_le.atribui _ _)) fun _ =>
        calls_bind ((calls_ask _).mpr (doPainel_le.guarda _)) fun _ => doPainel_le.mensagem _
  have way : (encerrar c atual).run Ato.exec m = _ :=
    passed₁.run.trans (passed₂.run.trans (passed₃.run.trans (passed₄.run.trans
      (passed₅.run.trans passed₆.run))))
  rw [way, db_run rest, db₆, db₄, db₂]
  rfl

theorem naoFinalizou_le (erro : String) : (naoFinalizou c erro).Calls Ato.Le :=
  calls_bind ((calls_ask _).mpr fun _ => rfl) fun _ => doPainel_le.mensagem _

/-- The pending deliveries are told in another message. -/
theorem avisoDePendentes_ne (pendentes : List (Nat × Entrega)) :
    rotaFinalizada ≠ avisoDePendentes pendentes := by
  intro same
  have assoc : avisoDePendentes pendentes =
      "⚠️ *Existem pedidos pendentes que não foram entregues:*\n\n" ++
        (s!"{listaDePendentes pendentes}\n\n" ++
          "Finalize ou marque-os como falha antes de encerrar a rota.") := String.append_assoc
  have first := congrArg (fun t : String => t.toList.take 1) (same.trans assoc)
  rw [take_append (by decide +kernel)] at first
  exact absurd first (by decide +kernel)

/-- The success is told when nothing was pending, and behind the three statements. -/
theorem passou_fecharRota (told : Ocorre (EnviaTexto c rotaFinalizada) (fecharRota c atual) m) :
    let s := (m.conversas c).objetos atual
    m.db.entregasDe [.rua] s.usuarioId = [] ∧ ((fecharRota c atual).run Ato.exec m).2.db =
      m.db.finalizada s.usuarioId s.entregadorRotaId := by
  intro s
  obtain ⟨m₁, passed₁, db₁, objects₁⟩ := passou_consulta told (not_envia (by simp) m)
  have passed₂ := passou_ler passed₁.ocorre (not_envia (by simp) m₁)
  have here : (m₁.conversas c).objetos atual = s := by rw [objects₁]
  rw [here] at passed₂
  obtain ⟨m₃, passed₃, db₃, objects₃⟩ := passou_consulta passed₂.ocorre (not_envia (by simp) m₁)
  have pending : ((SqlBot.selectEntregas s.usuarioId).sem m₁.db).1 =
      m.db.entregasDe [.rua] s.usuarioId := by
    rw [db₁]
    rfl
  by_cases nobody : m.db.entregasDe [.rua] s.usuarioId = []
  · rw [if_neg (by rw [pending, nobody]; simp)] at passed₃
    have closed := passou_encerrar passed₃.ocorre
    have way : (fecharRota c atual).run Ato.exec m = _ :=
      passed₁.run.trans (passed₂.run.trans passed₃.run)
    refine ⟨nobody, ?_⟩
    rw [way, closed, db₃, objects₃, here, db₁]
    rfl
  · rw [if_pos (by rw [pending]; exact nobody)] at passed₃
    obtain ⟨w, passed₄, -⟩ := passou_consulta passed₃.ocorre (not_envia (by simp) m₃)
    exact absurd (envia_mensagem passed₄.ocorre) (avisoDePendentes_ne _)

/-- The other messages of the handler are no success. -/
theorem passou_finalizarRota (e : Entrada)
    (told : Ocorre (EnviaTexto c rotaFinalizada) (finalizarRota c (enviarMensagem c) atual e) m) :
    let s := (m.conversas c).objetos atual
    s.rotaAtiva = true ∧ m.db.entregasDe [.rua] s.usuarioId = [] ∧
      ((finalizarRota c (enviarMensagem c) atual e).run Ato.exec m).2.db =
        m.db.finalizada s.usuarioId s.entregadorRotaId := by
  intro s
  rw [finalizarRota_eq] at told ⊢
  obtain ⟨m₁, passed₁, db₁, objects₁⟩ := passou_responder told fun m => not_envia (by simp) m
  have passed₂ := passou_ler passed₁.ocorre (not_envia (by simp) m₁)
  have here : (m₁.conversas c).objetos atual = s := by rw [objects₁]
  rw [here] at passed₂
  cases active : s.rotaAtiva with
  | false =>
    rw [if_pos (by rw [active]; rfl)] at passed₂
    exact absurd (envia_mensagem passed₂.ocorre) (by decide +kernel)
  | true =>
    rw [if_neg (by rw [active]; decide)] at passed₂
    have tried : Ocorre (EnviaTexto c rotaFinalizada) (fecharRota c atual) m₁ := by
      refine ((ocorre_handle m₁).mp passed₂.ocorre).resolve_right ?_
      rintro ⟨erro, w, -, later⟩
      obtain ⟨w', passed, -⟩ := passou_consulta later (not_envia (by simp) w)
      exact absurd (envia_mensagem passed.ocorre) (by decide +kernel)
    obtain ⟨nobody, closed⟩ := passou_fecharRota tried
    rw [here, db₁] at nobody closed
    refine ⟨rfl, nobody, ?_⟩
    rw [passed₁.run, passed₂.run, db_handle naoFinalizou_le, closed]

theorem envia_enviarMensagem {aviso : String} (arrives : m.alcanca = true) :
    Ocorre (EnviaTexto c aviso) (enviarMensagem c aviso) m :=
  (ocorre_handle m).mpr (.inl ((ocorre_bind m).mpr (.inl ((ocorre_faz _ m).mpr ⟨⟨_, rfl⟩, arrives⟩))))

theorem envia_encerrar (calm : m.falhas = []) :
    Ocorre (EnviaTexto c rotaFinalizada) (encerrar c atual) m := by
  let s := (m.conversas c).objetos atual
  let w₁ := m.aplica c (.finalizarEntregas s.usuarioId)
  let w₂ := w₁.aplica c (.finalizarPedidos s.usuarioId)
  let w₃ := w₂.aplica c (.encerrarEntregador s.entregadorRotaId)
  let w₄ := w₃.aplica c .commit
  have objects₁ : (w₁.conversas c).objetos = (m.conversas c).objetos := objetos_aplica ..
  have objects₂ : (w₂.conversas c).objetos = (m.conversas c).objetos :=
    (objetos_aplica ..).trans objects₁
  refine (segue_ler (m := m) _).ocorre ?_
  refine (segue_consulta (q := .finalizarEntregas s.usuarioId) (m := m) _ calm rfl).ocorre ?_
  refine (segue_ler (m := w₁) _).ocorre ?_
  rw [objects₁]
  refine (segue_consulta (q := .finalizarPedidos s.usuarioId) (m := w₁) _ calm rfl).ocorre ?_
  refine (segue_ler (m := w₂) _).ocorre ?_
  rw [objects₂]
  refine (segue_consulta (q := .encerrarEntregador s.entregadorRotaId) (m := w₂) _ calm rfl).ocorre ?_
  refine (segue_consulta (q := .commit) (m := w₃) _ calm rfl).ocorre ?_
  refine (segue_grava (m := w₄) _).ocorre ?_
  exact envia_enviarMensagem (alcanca_calmo calm)

/-- Where every call is answered, an active route with nothing pending is told to be finished. -/
theorem envia_finalizarRota (e : Entrada) (calm : m.falhas = [])
    (active : ((m.conversas c).objetos atual).rotaAtiva = true)
    (nobody : m.db.entregasDe [.rua] ((m.conversas c).objetos atual).usuarioId = []) :
    Ocorre (EnviaTexto c rotaFinalizada) (finalizarRota c (enviarMensagem c) atual e) m := by
  rw [finalizarRota_eq]
  refine (segue_responder calm e _).ocorre ?_
  refine (segue_ler (m := m) _).ocorre ?_
  rw [if_neg (by rw [active]; decide)]
  refine (ocorre_handle m).mpr (.inl ?_)
  refine (segue_consulta (q := .startTransaction) (m := m) _ calm rfl).ocorre ?_
  let w₁ := m.aplica c .startTransaction
  refine (segue_ler (m := w₁) _).ocorre ?_
  have objects₁ : (w₁.conversas c).objetos = (m.conversas c).objetos := objetos_aplica ..
  rw [objects₁]
  let s := (m.conversas c).objetos atual
  refine (segue_consulta (q := .selectEntregas s.usuarioId) (m := w₁) _ calm rfl).ocorre ?_
  have none_there : ((SqlBot.selectEntregas s.usuarioId).sem w₁.db).1 = [] := nobody
  rw [none_there, if_neg (by simp)]
  exact envia_encerrar calm

end Passagem

section Fecha

structure SemRotaAberta (u : Option Nat) (db : Db) : Prop where
  entregador : ∀ rota ∈ db.entregador.rows, u = some rota.2.entregadorId → rota.2.horaFim ≠ none
  rotasSalvas : ∀ rota ∈ db.rotasSalvas.rows, u = some rota.2.entregadorId → rota.2.horaFim ≠ none

/-- However the calls end, a route that is told to be finished is closed in both tables. -/
def FechaTudo (c : Chat) (atual : Nat) (e : Entrada) (m : Mundo) : Prop :=
  ∀ falhas, Ocorre (EnviaTexto c rotaFinalizada) (finalizarRota c (enviarMensagem c) atual e)
      (m.comFalhas falhas) →
    SemRotaAberta ((m.conversas c).objetos atual).usuarioId
      ((finalizarRota c (enviarMensagem c) atual e).run Ato.exec (m.comFalhas falhas)).2.db

/-- The only open row of the courier is the one that the session names, and it counts orders. -/
structure UnicaAberta (s : Sessao) (db : Db) : Prop where
  entregador : ∀ rota ∈ db.entregador.rows, s.usuarioId = some rota.2.entregadorId →
    rota.2.horaFim = none → s.entregadorRotaId = some rota.1 ∧ 0 < rota.2.quantidadePedidos
  rotasSalvas : ∀ rota ∈ db.rotasSalvas.rows, s.usuarioId = some rota.2.entregadorId →
    rota.2.horaFim ≠ none

/-- The session has no route to finish, orders are pending, or nothing else is open. -/
def PodeFechar (c : Chat) (atual : Nat) (m : Mundo) : Prop :=
  let s := (m.conversas c).objetos atual
  s.rotaAtiva = false ∨ m.db.entregasDe [.rua] s.usuarioId ≠ [] ∨ UnicaAberta s m.db

variable {c : Chat} {atual : Nat} {m : Mundo}

theorem semAberta_finalizada (s : Sessao) (db : Db) :
    SemRotaAberta s.usuarioId (db.finalizada s.usuarioId s.entregadorRotaId) ↔ UnicaAberta s db := by
  let fechada (id : Nat) (r : Entregador) : Entregador :=
    if s.entregadorRotaId = some id ∧ 0 < r.quantidadePedidos then
      { r with horaFim := some db.agora } else r
  have rows : (db.finalizada s.usuarioId s.entregadorRotaId).entregador.rows =
      db.entregador.rows.map fun rota => (rota.1, fechada rota.1 rota.2) := Table.rows_alter ..
  have one (rota : Nat × Entregador) :
      (s.usuarioId = some (fechada rota.1 rota.2).entregadorId →
        (fechada rota.1 rota.2).horaFim ≠ none) ↔
      (s.usuarioId = some rota.2.entregadorId → rota.2.horaFim = none →
        s.entregadorRotaId = some rota.1 ∧ 0 < rota.2.quantidadePedidos) := by
    by_cases named : s.entregadorRotaId = some rota.1 ∧ 0 < rota.2.quantidadePedidos
    · simp [fechada, named]
    · simp only [fechada, if_neg named, named, imp_false, ne_eq]
  constructor
  · intro closed
    refine ⟨fun rota member => ?_, closed.rotasSalvas⟩
    have row := closed.entregador (rota.1, fechada rota.1 rota.2)
    rw [rows] at row
    exact (one rota).mp (row (List.mem_map_of_mem member))
  · intro only
    refine ⟨fun rota member => ?_, only.rotasSalvas⟩
    rw [rows] at member
    obtain ⟨old, here, rfl⟩ := List.mem_map.mp member
    exact (one old).mpr (only.entregador old here)

theorem fechaTudo_iff (e : Entrada) : FechaTudo c atual e m ↔ PodeFechar c atual m := by
  let s := (m.conversas c).objetos atual
  constructor
  · intro closes
    by_contra open'
    simp only [PodeFechar, not_or, Bool.not_eq_false, not_not] at open'
    obtain ⟨active, nobody, others⟩ := open'
    have told := envia_finalizarRota (m := m.comFalhas []) e rfl active nobody
    have closed := closes [] told
    rw [(passou_finalizarRota e told).2.2] at closed
    exact others ((semAberta_finalizada s m.db).mp closed)
  · intro may falhas told
    obtain ⟨active, nobody, after⟩ := passou_finalizarRota e told
    rcases may with inactive | pending | only
    · rw [Mundo.conversas_comFalhas, inactive] at active
      cases active
    · exact absurd nobody pending
    · rw [after]
      exact (semAberta_finalizada s m.db).mpr only

/-- At every moment of the run, for whichever chat and session of the map. -/
def SempreNaRota (P : Chat → Nat → Mundo → Prop) (b : Bot) (passos : List (Action Evento Deriva)) :
    Prop :=
  ∀ antes depois, antes ++ depois = passos → ∀ c atual,
    (((bot.execute antes b).state.conversas c).sessao = some atual) →
      P c atual (bot.execute antes b).state

/-- A finished route is closed everywhere throughout the run exactly if, at every moment, no chat
could finish a route beside which another one is open. -/
theorem sempreFecha_iff (b : Bot) (passos : List (Action Evento Deriva)) (e : Entrada) :
    SempreNaRota (fun c atual => FechaTudo c atual e) b passos ↔ SempreNaRota PodeFechar b passos := by
  constructor
  · intro always antes depois split c atual stored
    exact (fechaTudo_iff e).mp (always antes depois split c atual stored)
  · intro always antes depois split c atual stored
    exact (fechaTudo_iff e).mpr (always antes depois split c atual stored)

def entregadorLogado : Mundo where
  db :=
    { usuarios := .ofList [{ chatId := 7, nome := some "Ana", numero := some "45999",
                             senha := some "1234", cargo := some .entregador }]
      pedidosDiarios := .ofList [{ clienteNumero := "45998", status := .rua, valido := some 1 }]
      entregas := .ofList [{ pedidoId := 1, clienteNumero := "45998", entregadorId := some 1,
                             status := .rua, endereco := some "Rua A, 10" }] }
  conversas _ :=
    { sessao := some 0
      objetos := fun _ => { setor := some .entrega, data := some 0, autenticado := true,
                            logado := true, usuarioId := some 1, cargo := some .entregador,
                            lastUpdated := some 0 }
      proximo := 1 }
  acaso := List.replicate 20 { numero := 1, texto := "3 km".toList }

/-- The route is started, planned from an address, and its delivery is received. -/
def umaRotaInteira : List (Action Evento Deriva) :=
  .arrive (.callbackChat 7 (some "iniciar_rota".toList)) :: List.replicate 9 (.step 0) ++
  .arrive (.mensagem 7 { text := "Rua B, 20".toList }) :: List.replicate 9 (.step 1) ++
  .arrive (.callbackEntrega 7 (some "concluir_edicao".toList)) :: List.replicate 9 (.step 2) ++
  .arrive (.callbackEntrega 7 (some "receber_pedido_1".toList)) :: List.replicate 9 (.step 3)

/-- The route is done, and its row of `rotas_salvas` is open. -/
theorem umaRotaInteira_aberta :
    let m := (bot.execute umaRotaInteira ⟨entregadorLogado, []⟩).state
    let s := (m.conversas 7).objetos 0
    (m.conversas 7).sessao = some 0 ∧ s.rotaAtiva = true ∧ m.db.entregasDe [.rua] s.usuarioId = [] ∧
      (1, ⟨1, "Rua B, 20", [(1, "Rua A, 10")], 0, none⟩) ∈ m.db.rotasSalvas.rows ∧
      s.usuarioId = some 1 := by
  decide +kernel

/-- Finished now, the route stays open in `rotas_salvas`. -/
theorem rota_salva_aberta : ¬ SempreNaRota
    (fun c atual => FechaTudo c atual { texto := "finalizar_rota".toList })
    ⟨entregadorLogado, []⟩ umaRotaInteira := by
  intro always
  obtain ⟨stored, active, nobody, member, named⟩ := umaRotaInteira_aberta
  have closes := always umaRotaInteira [] (List.append_nil _) 7 0 stored
  rcases (fechaTudo_iff _).mp closes with inactive | pending | only
  · rw [active] at inactive
    cases inactive
  · exact pending nobody
  · exact only.rotasSalvas _ member named rfl

end Fecha

section Alem

variable (u : Option Nat) (inicio : Db)

def Entrega.Resolvida (e : Entrega) : Prop :=
  e.de u = true ∧ (e.status = .finalizado ∨ e.status = .falha)

/-- A delivery of the order had been closed when the route was started. -/
def FechadaAntes (n : Nat) : Prop :=
  ∃ row ∈ inicio.entregas.rows, row.2.pedidoId = n ∧
    (row.2.status = .finalizado ∨ row.2.status = .falha)

/-- The deliveries that the courier did not resolve, and the states of the orders that were closed
before the route, are as they were. -/
structure SoDaRota (antes depois : Db) : Prop where
  entregas : ∀ id e, antes.entregas.get id = some e → ¬ e.Resolvida u →
    depois.entregas.get id = some e
  pedidos : ∀ n, FechadaAntes inicio n →
    (depois.pedidosDiarios.get n).map (·.status) = (antes.pedidosDiarios.get n).map (·.status)

/-- The courier has no delivery on the street, of whichever order, and no finished delivery of an
order that was closed before the route and is no longer finished. -/
structure NadaAlem (db : Db) : Prop where
  entregas : ∀ row ∈ db.entregas.rows, row.2.de u = true → row.2.status ≠ .rua
  pedidos : ∀ n p, FechadaAntes inicio n → db.naEntregaDe .finalizado u n = true →
    db.pedidosDiarios.get n = some p → p.status = .finalizado

variable {u inicio} {db : Db} {k : Option Nat}

theorem entregas_finalizada (id : Nat) : (db.finalizada u k).entregas.get id =
    (db.entregas.get id).map fun e => if e.de u ∧ e.status = .rua then
      { e with horaFim := some db.agora, status := .finalizado } else e := rfl

theorem pedidos_finalizada (n : Nat) : (db.finalizada u k).pedidosDiarios.get n =
    (db.pedidosDiarios.get n).map fun p =>
      if ((SqlBot.finalizarEntregas u).sem db).2.naEntregaDe .finalizado u n then
        { p with status := .finalizado } else p := rfl

/-- With nothing on the street no delivery becomes finished. -/
theorem naEntregaDe_finalizarEntregas
    (off : ∀ row ∈ db.entregas.rows, row.2.de u = true → row.2.status ≠ .rua) (n : Nat) :
    ((SqlBot.finalizarEntregas u).sem db).2.naEntregaDe .finalizado u n =
      db.naEntregaDe .finalizado u n := by
  have rows : ((SqlBot.finalizarEntregas u).sem db).2.entregas.rows = db.entregas.rows := by
    refine (Table.rows_alter ..).trans ?_
    refine (List.map_congr_left fun row member => ?_).trans (List.map_id _)
    have other : ¬ (row.2.de u = true ∧ row.2.status = .rua) :=
      fun street => off row member street.1 street.2
    simp only [if_neg other, id]
  rw [Db.naEntregaDe, rows, Db.naEntregaDe]

theorem soDaRota_finalizada : SoDaRota u inicio db (db.finalizada u k) ↔ NadaAlem u inicio db := by
  constructor
  · intro kept
    have off : ∀ row ∈ db.entregas.rows, row.2.de u = true → row.2.status ≠ .rua := by
      intro row member own street
      have unresolved : ¬ row.2.Resolvida u := by
        rintro ⟨-, closed | closed⟩ <;> rw [street] at closed <;> cases closed
      have here := Table.mem_rows.mp member
      have same := kept.entregas row.1 row.2 here unresolved
      rw [entregas_finalizada, here, Option.map_some, if_pos ⟨own, street⟩] at same
      have status := congrArg Entrega.status (Option.some.inj same)
      rw [street] at status
      cases status
    refine ⟨off, fun n p closed named found => ?_⟩
    have same := kept.pedidos n closed
    rw [pedidos_finalizada, naEntregaDe_finalizarEntregas off, found] at same
    simp only [named, if_true, Option.map_some, Option.some.injEq] at same
    exact same.symm
  · intro nothing
    refine ⟨fun id e here _ => ?_, fun n closed => ?_⟩
    · have other : ¬ (e.de u = true ∧ e.status = .rua) :=
        fun street => nothing.entregas (id, e) (Table.mem_rows.mpr here) street.1 street.2
      rw [entregas_finalizada, here, Option.map_some, if_neg other]
    · rw [pedidos_finalizada, naEntregaDe_finalizarEntregas nothing.entregas, Option.map_map]
      cases found : db.pedidosDiarios.get n with
      | none => rfl
      | some p =>
        simp only [Option.map_some, Function.comp_apply, Option.some.injEq]
        split
        · next named => exact (nothing.pedidos n p closed named found).symm
        · rfl

/-- However the calls end, a route that is told to be finished touches nothing beside it; `inicio`
is the database when the route was started. -/
def FechaSo (c : Chat) (atual : Nat) (e : Entrada) (inicio : Db) (m : Mundo) : Prop :=
  ∀ falhas, Ocorre (EnviaTexto c rotaFinalizada) (finalizarRota c (enviarMensagem c) atual e)
      (m.comFalhas falhas) →
    SoDaRota ((m.conversas c).objetos atual).usuarioId inicio m.db
      ((finalizarRota c (enviarMensagem c) atual e).run Ato.exec (m.comFalhas falhas)).2.db

theorem naoFechaSo {c : Chat} {atual : Nat} {m : Mundo} (e : Entrada)
    (active : ((m.conversas c).objetos atual).rotaAtiva = true)
    (nobody : m.db.entregasDe [.rua] ((m.conversas c).objetos atual).usuarioId = [])
    (only : FechaSo c atual e inicio m) :
    NadaAlem ((m.conversas c).objetos atual).usuarioId inicio m.db := by
  have told := envia_finalizarRota (m := m.comFalhas []) e rfl active nobody
  have kept := only [] told
  rw [(passou_finalizarRota e told).2.2] at kept
  exact soDaRota_finalizada.mp kept

/-- Finishing a route touches only that route exactly if there is none to finish, orders are
pending, or the courier has nothing on the street and no closed order that is finished anew. -/
theorem fechaSo_iff (c : Chat) (atual : Nat) (e : Entrada) (inicio : Db) (m : Mundo) :
    let s := (m.conversas c).objetos atual
    FechaSo c atual e inicio m ↔ s.rotaAtiva = false ∨
      m.db.entregasDe [.rua] s.usuarioId ≠ [] ∨ NadaAlem s.usuarioId inicio m.db := by
  intro s
  constructor
  · intro only
    by_contra open'
    simp only [not_or, Bool.not_eq_false, not_not] at open'
    obtain ⟨active, nobody, others⟩ := open'
    exact others (naoFechaSo e active nobody only)
  · intro may falhas told
    obtain ⟨active, nobody, after⟩ := passou_finalizarRota e told
    rcases may with inactive | pending | nothing
    · exact absurd (active.symm.trans inactive) (by simp)
    · exact absurd nobody pending
    · rw [after]
      exact soDaRota_finalizada.mpr nothing

/-- A courier with a route, and a delivery finished before it whose order was returned since. -/
def comDevolucao : Mundo where
  db :=
    { pedidosDiarios := .ofList [{ clienteNumero := "45998", status := .devolvido, valido := some 1 }]
      entregas := .ofList [{ pedidoId := 1, clienteNumero := "45998", entregadorId := some 1,
                             status := .finalizado }] }
  conversas _ :=
    { sessao := some 0, objetos := fun _ => { usuarioId := some 1, rotaAtiva := true } }

/-- The returned order is finished again. -/
theorem devolucao_finalizada :
    ¬ FechaSo 7 0 { texto := "finalizar_rota".toList } comDevolucao.db comDevolucao := by
  intro only
  have nothing := naoFechaSo _ rfl (by decide +kernel) only
  have status := nothing.pedidos 1 { clienteNumero := "45998", status := .devolvido, valido := some 1 }
    ⟨(1, { pedidoId := 1, clienteNumero := "45998", entregadorId := some 1, status := .finalizado }),
      by decide +kernel, rfl, .inl rfl⟩ (by decide +kernel) (by decide +kernel)
  cases status

end Alem
end IceClube
