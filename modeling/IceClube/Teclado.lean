import Mathlib.Logic.Function.Basic
import IceClube.Motivos

/-! The buttons of the courier that carry the identifier of a delivery: what the screens write
into their data and what the listener reads from it. The reasons that `falha_` offers carry none. -/
namespace IceClube

open Coop Prog

inductive BotaoDePedido where
  | selecionarPedido | manterEndereco | editarEndereco | detalhesPedido | receberPedido
  | negarPedido | justificativa (motivo : Motivo) | pedido | recebido | falha
  deriving DecidableEq, Repr

namespace BotaoDePedido

def prefixo : BotaoDePedido → String
  | selecionarPedido => "selecionar_pedido"
  | manterEndereco => "manter_endereco"
  | editarEndereco => "editar_endereco"
  | detalhesPedido => "detalhes_pedido"
  | receberPedido => "receber_pedido"
  | negarPedido => "negar_pedido"
  | justificativa motivo => "justificativa_" ++ motivo.texto
  | pedido => "pedido"
  | recebido => "recebido"
  | falha => "falha"

/-- `callback_data` of the button. -/
def data (b : BotaoDePedido) (id : IdSql) : Texto := s!"{b.prefixo}_{id.texto}".toList

/-- The button belongs to `organizar.js`. -/
def deOrganizar : BotaoDePedido → Bool
  | pedido | recebido | falha => false
  | _ => true

/-- The identifier that the branch reads. -/
def lido (b : BotaoDePedido) (data : Texto) : IdSql :=
  if b.deOrganizar then pedidoDoBotao data else entregaDoBotao data

def ramo (c : Chat) (r : Nat) (enviar : String → Fluxo Unit) (data : Texto) :
    BotaoDePedido → Fluxo Unit
  | selecionarPedido => IceClube.selecionarPedido c r enviar data
  | manterEndereco => IceClube.manterEndereco c r enviar data
  | editarEndereco => IceClube.editarEndereco c r enviar data
  | detalhesPedido => detalhesDoPedido c r enviar data
  | receberPedido => IceClube.receberPedido c r enviar data
  | negarPedido => IceClube.negarPedido c r enviar data
  | justificativa _ => justificar c r enviar data
  | pedido => verPedido c r data
  | recebido => IceClube.recebido c r data
  | falha => IceClube.falha c r data

def todos : List BotaoDePedido :=
  [selecionarPedido, manterEndereco, editarEndereco, detalhesPedido, receberPedido, negarPedido,
    pedido, recebido, falha] ++
  [.clienteAusente, .enderecoIncorreto, .recusadoPeloCliente, .outro].map justificativa

theorem mem_todos (b : BotaoDePedido) : b ∈ todos := by
  cases b with
  | justificativa motivo => cases motivo <;> simp [todos]
  | _ => simp [todos]

end BotaoDePedido

/-- What is read back of an identifier: a missing one comes back as NaN. -/
def IdSql.relido : IdSql → IdSql
  | nulo => nan
  | id => id

section Leitura

variable {c : Chat} {r : Nat} {enviar : String → Fluxo Unit} (b : BotaoDePedido) (id : IdSql)

theorem parseInt_texto : parseInt (some id.texto.toList) = id.relido := by
  cases id with
  | nulo => decide +kernel
  | nan => decide +kernel
  | num n => exact parseInt_repr n

theorem sem_traco_texto : '_' ∉ id.texto.toList := by
  cases id with
  | nulo => decide +kernel
  | nan => decide +kernel
  | num n => exact fun member => absurd (digitos_repr n '_' member) (by decide)

theorem data_eq : b.data id = b.prefixo.toList ++ '_' :: id.texto.toList := by
  rw [BotaoDePedido.data]
  simp [String.toList_append, toString]

/-- The parts of two texts with a `_` between them. -/
theorem split_traco (t resto : Texto) :
    Texto.split (t ++ '_' :: resto) = Texto.split t ++ Texto.split resto := by
  induction t with
  | nil => exact split_append (t := []) List.not_mem_nil resto
  | cons c t ih =>
    obtain ⟨parte, partes, found⟩ := List.exists_cons_of_ne_nil (split_ne_nil t)
    rw [found, List.cons_append] at ih
    simp only [List.cons_append, Texto.split, ih, found]
    split <;> rfl

/-- Each branch reads the identifier that its button was given. -/
theorem lido_data : b.lido (b.data id) = id.relido := by
  have parts := split_traco b.prefixo.toList id.texto.toList
  rw [split_sem (sem_traco_texto id)] at parts
  rw [BotaoDePedido.lido, pedidoDoBotao, entregaDoBotao, data_eq, parts]
  cases b with
  | justificativa motivo => cases motivo <;> exact parseInt_texto id
  | _ => exact parseInt_texto id

/-- A reason is read back too. -/
theorem motivo_data (motivo : Motivo) :
    (Texto.split ((BotaoDePedido.justificativa motivo).data id))[1]? = some motivo.texto.toList := by
  rw [data_eq, split_traco]
  cases motivo <;> rfl

theorem ramoOrganizar_data : ramoOrganizar c r enviar (b.data id) =
    if b.deOrganizar then some (b.ramo c r enviar (b.data id)) else none := by
  have texto := data_eq b id
  cases b <;> (rw [texto]; simp [ramoOrganizar, Texto.startsWith, BotaoDePedido.prefixo,
    BotaoDePedido.deOrganizar, BotaoDePedido.ramo])

theorem ramoEntrega_data (outro : b.deOrganizar = false) :
    ramoEntrega c r (b.data id) = b.ramo c r enviar (b.data id) := by
  have texto := data_eq b id
  cases b with
  | pedido | recebido | falha =>
    rw [texto]
    simp [ramoEntrega, Texto.startsWith, BotaoDePedido.prefixo, BotaoDePedido.ramo]
  | _ => cases outro

theorem texto_injetivo {id id' : IdSql} (same : id.texto = id'.texto) : id = id' := by
  have read : id.relido = id'.relido := by
    rw [← parseInt_texto, ← parseInt_texto, same]
  cases id <;> cases id' <;> first | exact read | cases read
  · rfl
  · exact absurd same (by decide)
  · exact absurd same (by decide)

theorem data_injetiva : Function.Injective2 BotaoDePedido.data := by
  intro b b' id id' same
  have parts := congrArg Texto.split same
  rw [data_eq, data_eq, split_traco, split_traco, split_sem (sem_traco_texto id),
    split_sem (sem_traco_texto id')] at parts
  obtain ⟨words, last⟩ := List.append_inj' parts rfl
  have names : ∀ b ∈ BotaoDePedido.todos, ∀ b' ∈ BotaoDePedido.todos,
      Texto.split b.prefixo.toList = Texto.split b'.prefixo.toList → b = b' := by
    decide +kernel
  exact ⟨names b b.mem_todos b' b'.mem_todos words,
    texto_injetivo (String.toList_inj.mp (List.cons.inj last).1)⟩

theorem bind_unit (f : Fluxo Unit) : (f >>= fun _ => pure ()) = f := by
  induction f with
  | done a => rfl
  | fail e => rfl
  | call o next ih => exact congrArg (Prog.call o) (funext fun answer => ih answer)

/-- A branch that says it has handled the button ends the listener, and so does its report. -/
theorem handle_encerrado (f g : Fluxo Unit) (h : String → Fluxo Unit) :
    (((f >>= fun _ => pure true).handle fun e => h e >>= fun _ => pure true) >>= fun handled =>
      if handled then pure () else g) = f.handle h := by
  induction f with
  | done a => rfl
  | fail e => exact (bind_assoc (h e) _ _).trans (bind_unit (h e))
  | call o next ih => exact congrArg (Prog.call o) (funext fun answer => ih answer)

/-- `erroDeRota` as its caller sees it. -/
def relatarErroDeRota (c : Chat) (r : Nat) : Fluxo Unit := do
  enviarMensagemWrapper c "⚠️ *Erro ao montar a rota otimizada.*"
  faz (.atribuir c r [.etapa (some .aguardandoPontoInicial), .pedidoId .nulo, .rota []])
  faz (.set c r)

theorem erroDeRota_eq (c : Chat) (r : Nat) : erroDeRota c r (enviarMensagemWrapper c) =
    relatarErroDeRota c r >>= fun _ => pure true := by
  simp only [erroDeRota, relatarErroDeRota, bind_assoc]

/-- Every press of such a button runs the branch that the button is meant for, with the delivery
(and the reason) that it was made for, and no two buttons carry the same data. -/
theorem callbackEntrega_data (c : Chat) :
    (∀ (b : BotaoDePedido) id, b.lido (b.data id) = id.relido ∧
      callbackEntrega c (some (b.data id)) = obter c { etapa := some .menu } >>= fun r =>
        let ramo := b.ramo c r (enviarMensagemWrapper c) (b.data id)
        if b.deOrganizar then ramo.handle fun _ => relatarErroDeRota c r else ramo) ∧
    (∀ motivo id, (Texto.split ((BotaoDePedido.justificativa motivo).data id))[1]? =
      some motivo.texto.toList) ∧
    Function.Injective2 BotaoDePedido.data := by
  refine ⟨fun b id => ⟨lido_data b id, congrArg (obter c _ >>= ·) (funext fun r => ?_)⟩,
    fun motivo id => motivo_data id motivo, data_injetiva⟩
  rw [tratarCallbackOrganizarRota]
  simp only [ramoOrganizar_data, erroDeRota_eq]
  cases mine : b.deOrganizar with
  | true => exact handle_encerrado _ _ _
  | false => exact ramoEntrega_data b id mine

end Leitura
end IceClube
