import IceClube.FimDeRota
import IceClube.MotivoCerto

/-! The last delivery of a route: `verificarFinalizarRotaAutomaticamente` behind the two handlers
that mark a delivery, of which none ends without an error. -/
namespace IceClube

open Coop Prog

/-- How the courier marks a delivery: by the button, or with the reason why it failed. -/
inductive Marca where
  | recebida
  | falha (motivo : Texto)
  deriving DecidableEq

namespace Marca

def dataDaFalha (motivo : Texto) : Texto := "justificativa_".toList ++ motivo

theorem dataDaFalha_eq (motivo : Texto) :
    dataDaFalha motivo = "justificativa".toList ++ '_' :: motivo := by
  have prefixo : "justificativa_".toList = "justificativa".toList ++ ['_'] := by decide +kernel
  exact (congrArg (· ++ motivo) prefixo).trans (List.append_assoc ..)

def tratar (c : Chat) (r id : Nat) : Marca → Fluxo Unit
  | recebida => callbackEntrega c (some s!"recebido_{id}".toList)
  | falha motivo => tratarEntrega c (enviarMensagem c) r
      { texto := Texto.trim (dataDaFalha motivo), data := some (dataDaFalha motivo) }

/-- A justification is taken for the delivery that `falha_` put into the session. -/
def Pronta (id : Nat) (s : Sessao) : Marca → Prop
  | recebida => True
  | falha _ => s.etapa = some .falhaJustificativa ∧ s.pedidoId = .num id

end Marca

/-- The courier of the chat is on the route `k`, and only the delivery `id` is left. -/
structure UltimaNaRua (c : Chat) (r id k : Nat) (m : Mundo) : Prop where
  sessao : (m.conversas c).sessao = some r
  ativa : ((m.conversas c).objetos r).rotaAtiva = true
  rota : ((m.conversas c).objetos r).entregadorRotaId = some k
  aberta : ∃ rota, m.db.entregador.get k = some rota ∧ rota.horaFim = none ∧
    0 < rota.quantidadePedidos ∧ ((m.conversas c).objetos r).usuarioId = some rota.entregadorId
  ultima : ∃ e, m.db.entregasDe [.rua] ((m.conversas c).objetos r).usuarioId = [(id, e)]

/-- Where every call is answered, the row is closed, the session is off the route and no error
was told. -/
structure Fechada (c : Chat) (r id k : Nat) (marca : Marca) (m : Mundo) : Prop where
  rota : ∃ rota, ((marca.tratar c r id).run Ato.exec (m.comFalhas [])).2.db.entregador.get k =
    some rota ∧ rota.horaFim ≠ none
  sessao : (((marca.tratar c r id).run Ato.exec (m.comFalhas [])).2.conversas c).atual.map
    Sessao.rotaAtiva = some false
  semErro : ∀ texto, avisaErro texto = true →
    ¬ Ocorre (EnviaTexto c texto) (marca.tratar c r id) (m.comFalhas [])

section Falha

variable {c : Chat} {r id : Nat} {m : Mundo}

theorem segue_falha {data x : Texto} (reason : data = "justificativa".toList ++ '_' :: x)
    (stored : (m.conversas c).sessao = some r)
    (pending : ((m.conversas c).objetos r).etapa = some .falhaJustificativa)
    (named : ((m.conversas c).objetos r).pedidoId = .num id) :
    Segue c (tratarEntrega c (enviarMensagem c) r { texto := Texto.trim data, data := some data }) m
      (falhaJustificada c (enviarMensagem c) r r data (.num id)) m := by
  obtain ⟨seguir, panel, goes⟩ := painel_motivo (c := c) (r := r) reason (enviarMensagem c)
  have got : Ato.exec (.get c) m = (.ok (some r), m) := by
    rw [Ato.exec_infalivel rfl, Ato.sem, stored]
  rw [tratarEntrega]
  refine (segue_exec (o := .get c) got _ fun _ _ same => by cases same).trans ?_
  simp only [panel]
  refine (segue_ler seguir).trans ?_
  rw [goes, if_pos pending, named]
  exact .refl _ _

/-- The courier is told of an error once the route is closed. -/
theorem avisa_falha {e : Entrega} (calm : m.falhas = [])
    (stored : (m.conversas c).sessao = some r)
    (active : ((m.conversas c).objetos r).rotaAtiva = true)
    (only : m.db.entregasDe [.rua] ((m.conversas c).objetos r).usuarioId = [(id, e)])
    (motivo : Texto) (pronta : (Marca.falha motivo).Pronta id ((m.conversas c).objetos r)) :
    Ocorre (EnviaTexto c erroDeStatus) ((Marca.falha motivo).tratar c r id) m := by
  have here : Rumo c r m.db (true, ((m.conversas c).objetos r).usuarioId) m :=
    ⟨calm, rfl, stored, Prod.ext active rfl⟩
  refine (segue_falha (Marca.dataDaFalha_eq motivo) stored pronta.1 pronta.2).ocorre ?_
  refine avisa_falhaJustificada here _ (by simp) ?_
  rw [entregasDe_sem rfl]
  refine entregasDe_falharEntrega (fun p member => ?_) _
  rw [only, List.mem_singleton] at member
  rw [member]

end Falha

section Recebida

variable {c : Chat} {r : Nat} {m : Mundo}

def erroAoAtualizar : String := "⚠️ *Erro ao atualizar status da entrega.*"

theorem data_recebida (id : Nat) : s!"recebido_{id}".toList =
    "recebido".toList ++ '_' :: (toString id).toList := by
  rw [String.toList_append]
  rfl

theorem entregaDoBotao_recebida (id : Nat) : entregaDoBotao s!"recebido_{id}".toList = .num id := by
  have digits : '_' ∉ (toString id).toList := fun inside =>
    absurd (digitos_repr id _ inside) (by decide)
  rw [entregaDoBotao, data_recebida, split_append (by decide), split_sem digits]
  exact parseInt_repr id

/-- The button is none of the route's. -/
theorem ramoOrganizar_recebida (enviar : String → Fluxo Unit) (id : Nat) :
    ramoOrganizar c r enviar s!"recebido_{id}".toList = none := by
  rw [data_recebida]
  simp [ramoOrganizar, Texto.startsWith, List.isPrefixOf]

theorem ramoEntrega_recebida (id : Nat) :
    ramoEntrega c r s!"recebido_{id}".toList = recebido c r s!"recebido_{id}".toList := by
  rw [data_recebida]
  simp [ramoEntrega, Texto.startsWith, List.isPrefixOf]

/-- The list of what is left is sent by a function that has lost its `this`. -/
theorem run_listarSolto (u : Option Nat) (m : Mundo) :
    ∃ erro m', (listarPedidosPendentes c sendMessageSolto u).run Ato.exec m = (.error erro, m') := by
  rw [listarPedidosPendentes, run_handle]
  rcases ran : Prog.run Ato.exec _ m with ⟨answer, m'⟩
  cases answer with
  | error erro => exact ⟨indefinida, m', rfl⟩
  | ok a =>
    rw [run_bind] at ran
    rcases asked : (consulta c (.selectAtribuidas u)).run Ato.exec m with ⟨pedidos, w⟩
    rw [asked] at ran
    cases pedidos with
    | error erro => cases ran
    | ok pedidos =>
      dsimp only at ran
      split at ran
      · cases ran
      · cases ran

/-- The statements behind which the delivery is committed, and then the failing list. -/
theorem run_marcar (id : Nat) (calm : m.falhas = []) :
    ∃ erro w, w.falhas = [] ∧ Prog.run Ato.exec (do
      consulta c .startTransaction
      consulta c (.receberEntrega (.num id))
      consulta c (.receberPedido (.num id))
      consulta c (.receberVenda (.num id))
      consulta c .commit
      enviarMensagemWrapper c s!"✅ *Entrega #{IdSql.texto (.num id)} marcada como recebida.*"
      let sessao ← faz (.ler c r)
      listarPedidosPendentes c sendMessageSolto sessao.usuarioId
      verificarFinalizarRotaAutomaticamente c sendMessageSolto r
      faz (.atribuir c r limparPedido)
      faz (.set c r)) m = (.error erro, w) := by
  let w₁ := m.aplica c .startTransaction
  let w₂ := w₁.aplica c (.receberEntrega (.num id))
  let w₃ := w₂.aplica c (.receberPedido (.num id))
  let w₄ := w₃.aplica c (.receberVenda (.num id))
  let w₅ := w₄.aplica c .commit
  obtain ⟨erro, w, failed⟩ := run_listarSolto (c := c)
    ((w₅.seguinte.conversas c).objetos r).usuarioId w₅.seguinte
  have calm' : w.falhas = [] := by
    have kept := falhas_run (listarPedidosPendentes c sendMessageSolto
      ((w₅.seguinte.conversas c).objetos r).usuarioId) (m := w₅.seguinte) calm
    rwa [failed] at kept
  refine ⟨erro, w, calm', ?_⟩
  refine (segue_consulta (c := c) (m := m) _ calm rfl).run.trans ?_
  refine (segue_consulta (c := c) (m := w₁) _ calm rfl).run.trans ?_
  refine (segue_consulta (c := c) (m := w₂) _ calm rfl).run.trans ?_
  refine (segue_consulta (c := c) (m := w₃) _ calm rfl).run.trans ?_
  refine (segue_consulta (c := c) (m := w₄) _ calm rfl).run.trans ?_
  rw [run_bind, run_wrapper (m := w₅) _ calm]
  refine (segue_ler (c := c) (m := w₅.seguinte) _).run.trans ?_
  rw [run_bind, failed]

/-- The courier is told of an error, whatever is left on the street. -/
theorem avisa_recebida (id : Nat) (stored : (m.conversas c).sessao = some r)
    (calm : m.falhas = []) :
    Ocorre (EnviaTexto c erroAoAtualizar) (Marca.tratar c r id .recebida) m := by
  have got : Ato.exec (.get c) m = (.ok (some r), m) := by
    rw [Ato.exec_infalivel rfl, Ato.sem, stored]
  rw [Marca.tratar, callbackEntrega, obter, bind_assoc]
  refine (segue_exec (c := c) (o := .get c) got _ fun _ _ same => by cases same).ocorre ?_
  simp only [tratarCallbackOrganizarRota, ramoOrganizar_recebida]
  change Ocorre _ (ramoEntrega c r s!"recebido_{id}".toList) m
  rw [ramoEntrega_recebida, recebido, entregaDoBotao_recebida]
  refine (segue_answer calm _).ocorre ((ocorre_handle m).mpr (.inr ?_))
  obtain ⟨erro, w, calm', failed⟩ := run_marcar (c := c) (r := r) id calm
  refine ⟨erro, w, failed, (segue_consulta (c := c) (m := w) _ calm' rfl).ocorre ?_⟩
  refine (ocorre_bind _).mpr (.inl ((ocorre_faz _ _).mpr ⟨⟨_, rfl⟩, ?_⟩))
  exact alcanca_calmo (m := w.aplica c .rollback) calm'

end Recebida

section Fechamento

/-- Whatever route, delivery and mark: an error is told. -/
theorem nunca_fechada {c : Chat} {r id k : Nat} {m : Mundo} (marca : Marca)
    (ultima : UltimaNaRua c r id k m) (pronta : marca.Pronta id ((m.conversas c).objetos r)) :
    ¬ Fechada c r id k marca m := by
  intro closed
  cases marca with
  | recebida =>
    exact closed.semErro erroAoAtualizar (by decide)
      (avisa_recebida id (m := m.comFalhas []) ultima.sessao rfl)
  | falha motivo =>
    obtain ⟨e, only⟩ := ultima.ultima
    exact closed.semErro erroDeStatus (by decide)
      (avisa_falha (m := m.comFalhas []) rfl ultima.sessao ultima.ativa only motivo pronta)

/-- A courier on a route with one delivery left, asked for the reason why it failed. -/
def quaseNoFim : Mundo where
  db :=
    { entregador := .ofList [⟨"Ana", 1, 0, none, 7⟩]
      pedidosDiarios := .ofList [{ clienteNumero := "45999", status := .rua, valido := some 1 }]
      entregas := .ofList
        [{ pedidoId := 1, clienteNumero := "45999", entregadorId := some 7, status := .rua }] }
  conversas _ :=
    { sessao := some 0
      objetos := fun _ =>
        { usuarioId := some 7, rotaAtiva := true, entregadorRotaId := some 1,
          etapa := some .falhaJustificativa, pedidoId := .num 1 } }

theorem ultima_quaseNoFim : UltimaNaRua 1 0 1 1 quaseNoFim where
  sessao := rfl
  ativa := rfl
  rota := rfl
  aberta := ⟨⟨"Ana", 1, 0, none, 7⟩, by decide +kernel⟩
  ultima := ⟨_, rfl⟩

theorem cliente_ausente : ¬ Fechada 1 0 1 1 (.falha "Cliente Ausente".toList) quaseNoFim :=
  nunca_fechada (.falha "Cliente Ausente".toList) ultima_quaseNoFim ⟨rfl, rfl⟩

/-- The delivery is received, and the courier is told of an error. -/
theorem recebida_com_erro :
    UltimaNaRua 1 0 1 1 quaseNoFim ∧ ¬ Fechada 1 0 1 1 .recebida quaseNoFim := by
  refine ⟨ultima_quaseNoFim, fun closed => ?_⟩
  exact closed.semErro erroAoAtualizar (by decide)
    (avisa_recebida 1 (m := quaseNoFim.comFalhas []) rfl rfl)

end Fechamento
end IceClube
