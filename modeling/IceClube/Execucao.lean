import IceClube.Chatbot

/-! One call of a handler on the world: how it may end, and what it leaves alone. -/
namespace IceClube

open Coop Prog

namespace Mundo

def comFalhas (falhas : List Falha) (m : Mundo) : Mundo := { m with falhas := falhas }

@[simp] theorem conversas_comFalhas (falhas : List Falha) (m : Mundo) :
    (m.comFalhas falhas).conversas = m.conversas := rfl
@[simp] theorem db_comFalhas (falhas : List Falha) (m : Mundo) :
    (m.comFalhas falhas).db = m.db := rfl
@[simp] theorem bcrypt_comFalhas (falhas : List Falha) (m : Mundo) :
    (m.comFalhas falhas).bcrypt = m.bcrypt := rfl

@[simp] theorem conversas_conversa (c : Chat) (f : Conversa → Conversa) (m : Mundo) :
    (m.conversa c f).conversas c = f (m.conversas c) := if_pos rfl

theorem conversas_conversa_ne {c c' : Chat} (other : c' ≠ c) (f : Conversa → Conversa)
    (m : Mundo) : (m.conversa c f).conversas c' = m.conversas c' := if_neg other

@[simp] theorem falhas_conversa (c : Chat) (f : Conversa → Conversa) (m : Mundo) :
    (m.conversa c f).falhas = m.falhas := rfl
@[simp] theorem db_conversa (c : Chat) (f : Conversa → Conversa) (m : Mundo) :
    (m.conversa c f).db = m.db := rfl

end Mundo

namespace Ato

/-- The chat whose session or history a call reads or writes. -/
def dono : Ato → Option Chat
  | get c | set c _ | delete c _ | novo c _ | ler c _ | atribuir c _ _ | botao c _ | chama c _ _
  | compare c _ _ _ | query c _ | call c _ | updateComprovante c _ _ | commitVenda c _ => some c
  | _ => none

/-- The chat that a call is made for. -/
def chat : Ato → Option Chat
  | sendMessage c _ _ | answerCallbackQuery c | deleteMessage c _ | getChatMember c | getFile c
  | screenshot c | sendPhoto c => some c
  | o => o.dono

theorem chat_of_dono {o : Ato} {c : Chat} (owned : o.dono = some c) : o.chat = some c := by
  cases o <;> first | exact owned | cases owned

/-- A call takes effect, is rejected, or takes effect and its answer is lost. -/
theorem exec_regra {o : Ato} {m : Mundo} {R : Except String o.Res → Mundo → Prop}
    (efeito : ∀ falhas, R (o.sem (m.comFalhas falhas)).1 (o.sem (m.comFalhas falhas)).2)
    (rejeicao : o.infalivel = false → ∀ falhas erro, R (.error erro) (m.comFalhas falhas))
    (perda : o.infalivel = false → ∀ falhas erro,
      R (.error erro) (o.sem (m.comFalhas falhas)).2) :
    R (o.exec m).1 (o.exec m).2 := by
  rw [exec]
  cases fixed : o.infalivel with
  | true => exact efeito m.falhas
  | false =>
    rw [if_neg (by decide)]
    cases m.falhas.headD .nenhuma with
    | nenhuma => exact efeito _
    | rejeitada erro => exact rejeicao fixed _ _
    | perdida => exact perda fixed _ _

theorem exec_infalivel {o : Ato} (fixed : o.infalivel = true) (m : Mundo) : o.exec m = o.sem m :=
  if_pos fixed

theorem exec_calmo (o : Ato) {m : Mundo} (calm : m.falhas = []) : o.exec m = o.sem m := by
  rw [exec]
  cases o.infalivel with
  | true => rfl
  | false =>
    rw [if_neg (by decide), calm]
    exact congrArg o.sem (by rw [← show m.comFalhas m.falhas = m from rfl, calm]; rfl)

theorem falhas_sem (o : Ato) (m : Mundo) : (o.sem m).2.falhas = m.falhas := by
  cases o with
  | query c q =>
    rw [sem]
    split <;> rfl
  | _ => rfl

theorem conversas_sem {o : Ato} {c : Chat} (other : o.dono ≠ some c) (m : Mundo) :
    (o.sem m).2.conversas c = m.conversas c := by
  have apart {c' : Chat} (distinct : some c' ≠ some c) (f : Conversa → Conversa) :
      (m.conversa c' f).conversas c = m.conversas c :=
    Mundo.conversas_conversa_ne (fun same => distinct (by rw [same])) f m
  cases o with
  | query c' q =>
    rw [sem]
    split
    · rfl
    · exact apart other _
  | set | delete | novo | atribuir | botao | chama | compare | call | updateComprovante
  | commitVenda => exact apart other _
  | _ => rfl

theorem conversas_exec {o : Ato} {c : Chat} (other : o.dono ≠ some c) (m : Mundo) :
    (o.exec m).2.conversas c = m.conversas c :=
  exec_regra (R := fun _ m' => m'.conversas c = m.conversas c)
    (fun _ => conversas_sem other _) (fun _ _ _ => rfl) fun _ _ _ => conversas_sem other _

end Ato

/-- Only an assignment or a new object changes what an object holds. -/
def Ato.mudaObjeto : Ato → Bool
  | .atribuir .. | .novo .. => true
  | _ => false

theorem objetos_sem {c : Chat} {o : Ato} (fixo : o.mudaObjeto = false) (m : Mundo) :
    ((o.sem m).2.conversas c).objetos = (m.conversas c).objetos := by
  have kept {c' : Chat} {f : Conversa → Conversa} (same : ∀ k, (f k).objetos = k.objetos) :
      ((m.conversa c' f).conversas c).objetos = (m.conversas c).objetos := by
    by_cases mine : c = c'
    · rw [mine, Mundo.conversas_conversa, same]
    · rw [Mundo.conversas_conversa_ne mine]
  cases o with
  | atribuir | novo => cases fixo
  | query c' q =>
    rw [Ato.sem]
    split
    · rfl
    · exact kept fun _ => rfl
  | set | delete | botao | chama | compare | call | updateComprovante | commitVenda =>
    exact kept fun _ => rfl
  | _ => rfl

theorem objetos_exec {c : Chat} {o : Ato} (fixo : o.mudaObjeto = false) (m : Mundo) :
    ((o.exec m).2.conversas c).objetos = (m.conversas c).objetos :=
  Ato.exec_regra (R := fun _ m' => (m'.conversas c).objetos = (m.conversas c).objetos)
    (fun _ => objetos_sem fixo _) (fun _ _ _ => rfl) fun _ _ _ => objetos_sem fixo _

theorem objetos_run {α : Type} {f : Fluxo α} (calls : f.Calls fun o => o.mudaObjeto = false)
    (m : Mundo) : ((f.run Ato.exec m).2.conversas c).objetos = (m.conversas c).objetos :=
  trace_invariant (fun w : Mundo => (w.conversas c).objetos = (m.conversas c).objetos)
    (fun x member kept => (objetos_exec (calls_trace calls m x member) x.2).trans kept) rfl

section Chamadas

variable {P : Ato → Prop} {c : Chat}

theorem calls_enviarVenda (envia : ∀ texto, P (.sendMessage c texto [])) (mensagem : String) :
    (enviarVenda c mensagem).Calls P :=
  calls_handle (calls_bind ((calls_ask _).mpr (envia mensagem)) fun _ => calls_done ())
    fun _ => calls_done ()

theorem calls_aviso (envia : ∀ texto, P (.sendMessage c texto []))
    (responde : P (.answerCallbackQuery c)) (mensagem : String) : Calls P (do
      faz (.answerCallbackQuery c)
      enviarVenda c mensagem) :=
  calls_bind ((calls_ask _).mpr responde) fun _ => calls_enviarVenda envia mensagem

theorem calls_salvarComprovante {r : Nat} (le : P (.ler c r))
    (consulta : ∀ numero limite, P (.selectVendasRecentes numero limite))
    (grava : ∀ imagem venda, P (.updateComprovante c imagem venda)) (linhas : Nat) :
    (salvarComprovante c r linhas).Calls P := by
  refine calls_bind ((calls_ask _).mpr le) fun sessao => ?_
  split
  · split
    · exact calls_fail _
    · exact calls_bind ((calls_ask _).mpr (consulta _ _)) fun _ =>
        calls_each (fun _ => (calls_ask _).mpr (grava _ _)) _
  · exact calls_done ()

end Chamadas

end IceClube
