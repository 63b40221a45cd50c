import IceClube.Confirmacao
import IceClube.Sharing
import IceClube.VendaValida

/-! The sessions of the bot and the calls it made stay valid in every run: however the handlers
of all chats interleave, whatever is rejected and whatever others write into the database. -/
namespace IceClube

open Coop Prog

section Chatbot

variable {cuida : Prop} {c : Chat} {r : Nat}

theorem valido_doPainel {campo : Campo} (doPainel : campo.doPainel = true) : campo.Valido := by
  cases campo with
  | carrinho | pushItem | comprovantePagamento | numeroCliente | valorDinheiro => cases doPainel
  | _ => trivial

theorem valido_doChat {campo : Campo} (doChat : campo.doChat = true) : campo.Valido := by
  cases campo with
  | carrinho | pushItem | comprovantePagamento | numeroCliente | valorDinheiro => cases doChat
  | _ => trivial

def Esquecida (x : Unit × Option Sessao) (_ : Unit) : Prop := x.2 = none

theorem cauteloso_respeita {α : Type} {f : Fluxo α} (uses : Respeita semRegras c ((), none) f) :
    Cauteloso cuida c f := by
  have esquecida : Esquecida ((), none) () := rfl
  refine meets_mono (meets_simulate ?_ uses esquecida) fun _ _ _ => trivial
  rintro o x w (unseen : x.2 = none) pre
  cases o with
  | get c' =>
    refine ⟨⟨pre, fun _ => trivial⟩, ?_⟩
    rintro answer w' ⟨y, rfl⟩
    refine ⟨x, ⟨rfl, ?_⟩, unseen⟩
    cases y <;> trivial
  | novo =>
    exact ⟨⟨pre.1, fun _ => trivial⟩, fun _ _ _ => ⟨((), none), ⟨rfl, fun _ _ => trivial⟩, rfl⟩⟩
  | ler =>
    refine ⟨⟨pre.1, fun _ => trivial⟩, fun _ _ _ =>
      ⟨x, ⟨rfl, fun s _ => ⟨trivial, fun s' found => ?_⟩⟩, unseen⟩⟩
    rw [unseen] at found
    cases found
  | atribuir =>
    exact ⟨⟨pre.1, fun _ campo member => valido_doPainel (pre.2.2 campo member)⟩,
      fun _ _ _ => ⟨((), none), rfl, rfl⟩⟩
  | delete => exact ⟨⟨pre.1, fun _ => trivial⟩, fun _ _ _ => ⟨x, trivial, unseen⟩⟩
  | set | query => exact ⟨⟨pre.1, fun _ => trivial⟩, fun _ _ _ => ⟨x, rfl, unseen⟩⟩
  | chama | botao | compare | call | beginTransaction | commitVenda | rollbackVenda
  | getConnection | selectVendasRecentes | updateComprovante => cases pre
  | _ => exact ⟨⟨rfl, fun _ => trivial⟩, fun _ _ _ => ⟨x, rfl, unseen⟩⟩

theorem cauteloso_callbackEntrega (data : Option Texto) :
    Cauteloso cuida c (callbackEntrega c data) :=
  cauteloso_respeita (usa_callbackEntrega (fun _ _ _ _ _ _ => trivial) none).respeita

theorem cauteloso_tratarEntrega (e : Entrada) :
    Cauteloso cuida c (tratarEntrega c (enviarMensagem c) r e) :=
  cauteloso_respeita (respeita_tratarEntrega (fun _ _ => usa_enviarMensagem _) trivial
    (fun _ _ _ _ => trivial) fun _ _ _ _ _ _ => trivial)

/-- Assignments of `chatbot.js`, the session put back, and then `f`. -/
theorem cauteloso_gravar {α : Type} {campos : List Campo} {f : Fluxo α}
    (doChat : campos.all Campo.doChat = true) (rest : Cauteloso cuida c f) :
    Cauteloso cuida c (faz (.atribuir c r campos) >>= fun _ => faz (.set c r) >>= fun _ => f) :=
  obeys_call ⟨rfl, fun _ campo member => valido_doChat (List.all_eq_true.mp doChat campo member)⟩
    fun _ _ => cauteloso_chama rfl trivial fun _ => rest

theorem cauteloso_obter (inicio : Inicio) : Cauteloso cuida c (obter c inicio) := by
  refine cauteloso_chama rfl trivial fun found => ?_
  cases found with
  | some r => exact obeys_pure r
  | none => exact cauteloso_faz rfl trivial

theorem cauteloso_enviarMensagem (mensagem : String) :
    Cauteloso cuida c (enviarMensagem c mensagem) :=
  cauteloso_respeita (usa_enviarMensagem mensagem none).respeita

theorem cauteloso_enviarMenuSetores (cargo : Option Cargo) :
    Cauteloso cuida c (enviarMenuSetores c cargo) := by
  unfold enviarMenuSetores
  split
  · exact cauteloso_enviarMensagem _
  · exact cauteloso_enviarMensagem _
  · exact cauteloso_enviarMensagem _
  · exact cauteloso_enviarMensagem _
  · exact obeys_pure ()

theorem cauteloso_solicitarNumeroTelefone : Cauteloso cuida c (solicitarNumeroTelefone c) :=
  obeys_handle (cauteloso_chama rfl trivial fun _ => obeys_pure ()) fun _ =>
    cauteloso_enviarMensagem _

theorem cauteloso_limparChat : Cauteloso cuida c (limparChat c) := by
  refine cauteloso_chama rfl trivial fun found => ?_
  cases found with
  | none => exact obeys_pure ()
  | some r =>
    refine cauteloso_chama rfl trivial fun sessao => obeys_ite (fun _ => obeys_pure ()) fun _ => ?_
    refine obeys_handle ?_ fun _ => obeys_pure ()
    refine obeys_bind (cauteloso_obter _) fun r =>
      obeys_bind (obeys_handle (cauteloso_faz rfl trivial) fun _ => obeys_pure false) fun _ =>
        cauteloso_chama rfl trivial fun sessao => obeys_bind (obeys_each fun id _ => ?_) fun _ =>
          obeys_call ⟨rfl, fun _ => by simp [Ato.Cauto, Campo.Valido]⟩ fun _ _ =>
            cauteloso_faz rfl trivial
    exact obeys_bind (obeys_handle (cauteloso_faz rfl trivial) fun _ => obeys_pure ()) fun _ =>
      cauteloso_faz rfl trivial

theorem cauteloso_contato (phoneNumber : String) : Cauteloso cuida c (contato c phoneNumber) := by
  refine obeys_ite (fun _ => cauteloso_enviarMensagem _) fun _ => cauteloso_chama rfl trivial
    fun agora =>
    obeys_bind (cauteloso_obter _) fun r => obeys_handle ?_ fun _ => cauteloso_enviarMensagem _
  refine cauteloso_chama rfl trivial fun usuario => ?_
  cases usuario with
  | none => exact cauteloso_enviarMensagem _
  | some usuario =>
    exact obeys_ite (fun _ => cauteloso_enviarMensagem _) fun _ => cauteloso_chama rfl trivial
      fun _ =>
      cauteloso_chama rfl trivial fun agora => cauteloso_gravar rfl (cauteloso_enviarMensagem _)

theorem cauteloso_novoUsuario (m : Mensagem) : Cauteloso cuida c (novoUsuario c r m) := by
  refine obeys_ite (fun _ => cauteloso_enviarMensagem _) fun _ => obeys_handle ?_ fun _ =>
    obeys_ite (fun _ => cauteloso_enviarMensagem _) fun _ => cauteloso_enviarMensagem _
  refine cauteloso_chama rfl trivial fun usuario => ?_
  cases usuario with
  | some usuario => exact cauteloso_gravar rfl cauteloso_solicitarNumeroTelefone
  | none =>
    exact cauteloso_chama rfl trivial fun insertId => obeys_bind (cauteloso_chama rfl trivial
      fun agora =>
      cauteloso_gravar rfl cauteloso_solicitarNumeroTelefone) fun _ => cauteloso_enviarMensagem _

theorem cauteloso_definirSenha (m : Mensagem) : Cauteloso cuida c (definirSenha c r m) :=
  obeys_ite (fun _ => cauteloso_enviarMensagem _) fun _ => obeys_handle
    (cauteloso_chama rfl trivial fun _ => cauteloso_chama rfl trivial fun _ => cauteloso_gravar rfl
      (cauteloso_chama rfl trivial fun _ => cauteloso_enviarMenuSetores _))
    fun _ => cauteloso_enviarMensagem _

theorem cauteloso_verificarSenha (m : Mensagem) : Cauteloso cuida c (verificarSenha c r m) := by
  refine obeys_ite (fun _ => cauteloso_enviarMensagem _) fun _ => obeys_handle ?_ fun _ =>
    cauteloso_enviarMensagem _
  refine cauteloso_chama rfl trivial fun usuario => ?_
  cases usuario with
  | none => exact cauteloso_enviarMensagem _
  | some usuario =>
    exact cauteloso_chama rfl trivial fun agora => cauteloso_gravar rfl (cauteloso_enviarMensagem _)

theorem cauteloso_abrirSetor (m : Mensagem) : Cauteloso cuida c (abrirSetor c r m) := by
  refine cauteloso_chama rfl trivial fun agora =>
    cauteloso_gravar rfl (cauteloso_chama rfl trivial fun s => ?_)
  split
  · exact obeys_fail _
  · exact cauteloso_enviarMensagem _
  · exact obeys_bind (cauteloso_enviarMensagem _) fun _ => cauteloso_chama rfl trivial fun _ =>
      cauteloso_tratarEntrega _

theorem cauteloso_autenticarSetor (setor : Setor) (m : Mensagem) :
    Cauteloso cuida c (autenticarSetor c r setor m) := by
  refine obeys_ite (fun _ => cauteloso_enviarMensagem _) fun _ => obeys_handle ?_ fun _ =>
    cauteloso_enviarMensagem _
  refine cauteloso_chama rfl trivial fun senhaSetor => ?_
  cases senhaSetor with
  | none => exact cauteloso_enviarMensagem _
  | some senhaSetor =>
    exact cauteloso_chama rfl trivial fun senhaCorreta => obeys_ite (fun _ =>
      cauteloso_enviarMensagem _)
      fun _ => cauteloso_abrirSetor m

theorem cauteloso_executarSetor (setor : Setor) (m : Mensagem) :
    Cauteloso cuida c (executarSetor c r setor m) := by
  refine obeys_handle (cauteloso_chama rfl trivial fun _ => ?_) fun _ => cauteloso_enviarMensagem _
  cases setor with
  | vendas => exact cauteloso_handleSales _ _
  | entrega => exact cauteloso_tratarEntrega _

theorem cauteloso_usuarioCadastrado (m : Mensagem) (id : Nat) (usuario : Usuario) :
    Cauteloso cuida c (usuarioCadastrado c r m id usuario) := by
  refine cauteloso_gravar rfl (cauteloso_chama rfl trivial fun sessao =>
    obeys_ite (fun _ => cauteloso_definirSenha m) fun _ => obeys_ite (fun _ => ?_) fun _ =>
      obeys_ite (fun _ => cauteloso_verificarSenha m) fun _ => cauteloso_chama rfl trivial
        fun sessao => ?_)
  · exact obeys_bind cauteloso_solicitarNumeroTelefone fun _ => cauteloso_enviarMensagem _
  · split
    · exact cauteloso_enviarMenuSetores _
    · exact obeys_ite (fun _ => cauteloso_executarSetor _ m) fun _ => cauteloso_autenticarSetor _ m

theorem cauteloso_sessaoDeHoje (agora : Nat) : Cauteloso cuida c (sessaoDeHoje c agora r) :=
  cauteloso_chama rfl trivial fun _ => obeys_ite (fun _ => cauteloso_faz rfl trivial) fun _ =>
    obeys_pure r

theorem cauteloso_consultarUsuario : Cauteloso cuida c (consultarUsuario c) :=
  obeys_handle (cauteloso_chama rfl trivial fun _ => obeys_pure _) fun _ =>
    obeys_bind (cauteloso_enviarMensagem _) fun _ => obeys_pure none

theorem cauteloso_mensagem (m : Mensagem) : Cauteloso cuida c (mensagem c m) := by
  refine cauteloso_chama rfl trivial fun agora => obeys_bind (cauteloso_obter _) fun r =>
    obeys_call ⟨rfl, fun _ campo member => ?_⟩ fun _ _ =>
      obeys_bind (cauteloso_sessaoDeHoje agora) fun r =>
      cauteloso_chama rfl trivial fun sessao => obeys_ite (fun _ => ?_) fun _ =>
        cauteloso_gravar rfl (obeys_bind cauteloso_consultarUsuario fun usuario => ?_)
  · obtain ⟨id, -, rfl⟩ := List.mem_map.mp member
    trivial
  · exact cauteloso_chama rfl trivial fun _ => cauteloso_enviarMensagem _
  · split
    · exact obeys_pure ()
    · exact cauteloso_novoUsuario m
    · exact cauteloso_usuarioCadastrado m _ _

theorem cauteloso_escolherSetor (data : Texto) : Cauteloso cuida c (escolherSetor c r data) := by
  refine cauteloso_chama rfl trivial fun sessao => obeys_ite (fun _ =>
    cauteloso_enviarMensagem _) fun _ => ?_
  split
  · exact cauteloso_enviarMensagem _
  · exact obeys_ite (fun _ => cauteloso_enviarMensagem _) fun _ => cauteloso_chama rfl trivial
      fun agora =>
      cauteloso_gravar rfl (cauteloso_enviarMensagem _)

theorem cauteloso_semSetor (data : Texto) : Cauteloso cuida c (semSetor c r data) :=
  cauteloso_chama rfl trivial fun _ => obeys_ite (fun _ => cauteloso_escolherSetor data) fun _ =>
    obeys_ite (fun _ => cauteloso_enviarMenuSetores _) fun _ => obeys_ite
      (fun _ => cauteloso_chama rfl trivial fun _ => cauteloso_enviarMensagem _) fun _ =>
        cauteloso_enviarMensagem _

theorem cauteloso_callbackChat (data : Option Texto) : Cauteloso cuida c (callbackChat c data) := by
  refine obeys_ite (fun _ => obeys_pure ()) fun _ => cauteloso_chama rfl trivial fun _ =>
    cauteloso_chama rfl trivial fun agora => obeys_bind (cauteloso_obter _) fun r =>
      obeys_bind (cauteloso_sessaoDeHoje agora) fun r => ?_
  refine obeys_handle (cauteloso_chama rfl trivial fun sessao => ?_) fun _ =>
    cauteloso_enviarMensagem _
  split
  · exact cauteloso_chama rfl trivial fun _ => cauteloso_handleCallbacks _
  · exact cauteloso_chama rfl trivial fun _ => cauteloso_tratarEntrega _
  · exact cauteloso_semSetor _

def Evento.chats : Evento → List Chat
  | mensagem c _ | contato c _ | callbackEntrega c _ | callbackChat c _ => [c]
  | limpeza chats => chats

/-- A call for one of the chats of the event, or for none. -/
def Evento.Dono (evento : Evento) (dono : Option Chat) : Prop := ∀ c ∈ dono, c ∈ evento.chats

theorem cauteloso_evento {α : Type} {evento : Evento} {f : Fluxo α}
    (cauteloso : Cauteloso cuida c f) (meu : c ∈ evento.chats) : Obeys (cautela cuida evento.Dono) f := by
  refine meets_weaken cauteloso (fun o _ pre => ⟨fun c' mine => ?_, pre.2⟩) fun _ _ _ _ _ post =>
    post
  have same : o.dono.getD c = c := pre.1
  rw [Option.mem_def.mp mine] at same
  obtain rfl : c' = c := same
  exact meu

theorem cauteloso_tratar (evento : Evento) : Obeys (cautela cuida evento.Dono) evento.tratar := by
  cases evento with
  | mensagem c m => exact cauteloso_evento (cauteloso_mensagem m) List.mem_cons_self
  | contato c phoneNumber =>
    exact cauteloso_evento (cauteloso_contato phoneNumber) List.mem_cons_self
  | callbackEntrega c data =>
    exact cauteloso_evento (cauteloso_callbackEntrega data) List.mem_cons_self
  | callbackChat c data => exact cauteloso_evento (cauteloso_callbackChat data) List.mem_cons_self
  | limpeza chats =>
    exact obeys_each fun c member => cauteloso_evento cauteloso_limparChat member

end Chatbot

section Corridas

structure Conversa.Valida (k : Conversa) : Prop where
  objetos : ∀ r, (k.objetos r).Valida
  historia : ∀ fato ∈ k.historia, fato.Valido

def Mundo.Valido (m : Mundo) : Prop := ∀ c, (m.conversas c).Valida

namespace Conversa

variable {k : Conversa} (valida : k.Valida)
include valida

theorem valida_anota {fatos : List Fato} (validos : ∀ fato ∈ fatos, fato.Valido) :
    (k.anota fatos).Valida :=
  ⟨valida.objetos, List.forall_mem_append.mpr ⟨validos, valida.historia⟩⟩

theorem valida_troca (r : Nat) {s : Sessao} (nova : s.Valida) : (k.troca r s).Valida := by
  refine ⟨fun r' => ?_, valida.historia⟩
  by_cases here : r' = r
  · rw [show (k.troca r s).objetos r' = s from if_pos here]
    exact nova
  · rw [show (k.troca r s).objetos r' = k.objetos r' from if_neg here]
    exact valida.objetos r'

theorem valida_cria (inicio : Inicio) : (k.cria inicio).Valida where
  objetos := (valida_troca valida k.proximo (valida_vazia inicio)).objetos
  historia := List.forall_mem_cons.mpr ⟨trivial, valida.historia⟩

theorem valida_apaga (saida : Saida) : (k.apaga saida).Valida where
  objetos := valida.objetos
  historia := List.forall_mem_cons.mpr ⟨trivial, valida.historia⟩

theorem valida_atribui (r : Nat) {campos : List Campo} (validos : ∀ campo ∈ campos, campo.Valido) :
    (k.atribui r campos).Valida := by
  refine valida_anota (valida_troca valida r (valida_atribuirTodos (valida.objetos r) validos))
    fun fato member => ?_
  obtain ⟨campo, -, rfl⟩ := List.mem_map.mp (List.mem_reverse.mp member)
  trivial

end Conversa

theorem valido_conversa {m : Mundo} (valido : m.Valido) {c : Chat} {f : Conversa → Conversa}
    (nova : (f (m.conversas c)).Valida) : (m.conversa c f).Valido := by
  intro c'
  by_cases mine : c' = c
  · rw [mine, Mundo.conversas_conversa]
    exact nova
  · rw [Mundo.conversas_conversa_ne mine]
    exact valido c'

theorem valido_fatos (q : SqlBot) (estado : Option CadastroEstado) (db : Db) :
    ∀ fato ∈ q.fatos estado db, fato.Valido := by
  cases q with
  | selectLogin chatId senha =>
    rw [SqlBot.fatos]
    split <;> simp [Fato.Valido]
  | updateSenha => simp [SqlBot.fatos, Fato.Valido]
  | _ => simp [SqlBot.fatos]

theorem valido_sem {m : Mundo} (valido : m.Valido) {o : Ato} (cauto : o.Cauto) :
    (o.sem m).2.Valido := by
  have escreve {c : Chat} {fatos : List Fato} (validos : ∀ fato ∈ fatos, fato.Valido) :
      (m.conversa c (·.anota fatos)).Valido :=
    valido_conversa valido (Conversa.valida_anota (valido c) validos)
  have um {c : Chat} {fato : Fato} (sim : fato.Valido) : (m.conversa c (·.anota [fato])).Valido :=
    escreve (List.forall_mem_singleton.mpr sim)
  cases o with
  | set c r => exact valido_conversa valido ⟨(valido c).objetos, (valido c).historia⟩
  | delete c saida => exact valido_conversa valido (Conversa.valida_apaga (valido c) saida)
  | novo c inicio => exact valido_conversa valido (Conversa.valida_cria (valido c) inicio)
  | atribuir c r campos => exact valido_conversa valido (Conversa.valida_atribui (valido c) r cauto)
  | botao c data => exact um trivial
  | chama c r setor => exact um trivial
  | compare c setor texto hash =>
    refine escreve ?_
    split <;> simp [Fato.Valido]
  | query c q =>
    rw [Ato.sem]
    split
    · exact valido
    · exact escreve (c := c) (valido_fatos q _ m.db)
  | call c chamada => exact um cauto
  | updateComprovante c imagem venda =>
    have receipt : Fato.Valido (.comprovou imagem) := cauto
    exact um receipt
  | commitVenda c r => exact um trivial
  | _ => exact valido

theorem valido_exec {meu : Option Chat → Prop} {m : Mundo} (valido : m.Valido) {o : Ato}
    (pre : (cautela True meu).pre o ()) :
    (o.exec m).2.Valido ∧ (cautela True meu).post o () (o.exec m).1 () := by
  refine Ato.exec_regra (R := fun answer m' => m'.Valido ∧ (cautela True meu).post o () answer ())
    (fun falhas => ⟨valido_sem (m := m.comFalhas falhas) valido (pre.2 trivial), ?_⟩)
    (fun fallible _ _ => ⟨valido, ?_⟩)
    fun fallible falhas _ => ⟨valido_sem (m := m.comFalhas falhas) valido (pre.2 trivial), ?_⟩
  · cases o with
    | get c => exact ⟨_, rfl⟩
    | ler c r =>
      rintro s same -
      cases same
      exact (valido c).objetos r
    | _ => trivial
  · cases o with
    | get | ler => cases fallible
    | _ => trivial
  · cases o with
    | get | ler => cases fallible
    | _ => trivial

theorem bot_cauteloso : Worker.Guarantees bot id (cautela True fun _ => True) (fun _ _ => True)
    (fun _ _ => True) Mundo.Valido where
  refl _ := trivial
  trans _ _ _ _ _ := trivial
  stable _ _ _ _ _ := trivial
  call _ _ _ valido _ pre :=
    ⟨trivial, (valido_exec valido pre).1, (), (valido_exec valido pre).2, trivial⟩
  starts evento _ member := by
    refine ⟨(), fun _ => trivial, List.mem_singleton.mp member ▸ ?_⟩
    exact meets_weaken (cauteloso_tratar evento) (fun _ _ pre => ⟨trivial, pre.2⟩)
      fun _ _ _ _ _ post => post
  drifts _ _ valido := ⟨trivial, valido⟩

/-- In every state of every run, whatever interleaves and whatever fails: a number that a session
keeps has ten to fifteen digits, its cash is not negative, its receipt is within the limit and its
cart lines have positive quantities; and so it is with every call for a sale that was made and
every receipt that was stored. -/
theorem vendas_sempre_validas {m : Mundo} (valido : m.Valido)
    (passos : List (Action Evento Deriva)) : (bot.execute passos ⟨m, []⟩).state.Valido :=
  (Worker.execute_good bot_cauteloso passos valido).2

section Alheias

/-- However the handlers of all chats interleave, while only events of other chats arrive and
only their handlers take steps, nothing changes in the session of a chat, in the objects it
refers to or in what is recorded of it. -/
theorem conversas_alheias {m : Mundo} {c : Chat} (antes passos : List (Action Evento Deriva))
    (alheios : ∀ inicio a fim, passos = inicio ++ a :: fim →
      ∀ evento ∈ System.author (antes ++ inicio) a, c ∉ evento.chats) :
    (bot.execute (antes ++ passos) ⟨m, []⟩).state.conversas c =
      (bot.execute antes ⟨m, []⟩).state.conversas c := by
  refine System.execute_foreign (M := bot) (K := fun evento => cautela False evento.Dono)
    (fun w : Mundo => w.conversas c) (fun evento => c ∉ evento.chats) (fun _ => rfl)
    cauteloso_tratar ?_ ?_ (fun _ _ => rfl) antes passos alheios
  · intro evento o m' _
    cases o with
    | get c' => exact ⟨_, rfl⟩
    | ler c' r => exact fun _ _ never => never.elim
    | _ => trivial
  · intro evento o m' fora pre
    exact Ato.conversas_exec (fun mine => fora (pre.1 c mine)) m'

def outroEscreve : List (Action Evento Deriva) := [.arrive (.mensagem 8 {}), .step 1]

def umBotao : List (Action Evento Deriva) := [.arrive (.callbackChat 7 (some "sair".toList))]

theorem conversas_alheias_outroEscreve :
    (bot.execute (umBotao ++ outroEscreve) ⟨{}, []⟩).state.conversas 7 =
      (bot.execute umBotao ⟨{}, []⟩).state.conversas 7 := by
  refine conversas_alheias (m := {}) _ _ fun inicio a fim split evento mine => ?_
  have other : (7 : Chat) ∉ (Evento.mensagem 8 {}).chats := by decide
  rcases inicio with _ | ⟨x, _ | ⟨y, inicio⟩⟩
  · cases split
    cases mine
    exact other
  · cases split
    cases mine
    exact other
  · simp [outroEscreve] at split

end Alheias

def umPicole : LinhaCarrinho := ⟨some (1, ⟨"picole", 9, "un", 5⟩), 2, Nat.succ_pos 1, 5⟩

def aoConfirmar : Sessao where
  setor := some .vendas
  data := some (dia 0)
  autenticado := true
  carrinho := some [umPicole.item]
  metodoPagamento := some .dinheiro
  comprovantePagamento := some .semComprovante
  numeroCliente := some "5511999999999".toList

def mundoAoConfirmar : Mundo where
  conversas _ := { sessao := some 0, objetos := fun _ => aoConfirmar, proximo := 1 }

def umaConfirmacao : List (Action Evento Deriva) :=
  [.arrive (.callbackChat 7 (some botaoConfirmar)), .step 0, .step 0, .step 0]

theorem vendas_sempre_validas_aoConfirmar :
    (bot.execute umaConfirmacao ⟨mundoAoConfirmar, []⟩).state.Valido ∧
      ((bot.execute umaConfirmacao ⟨mundoAoConfirmar, []⟩).state.conversas 7).registradas.length =
        1 := by
  refine ⟨vendas_sempre_validas (fun _ => ⟨fun _ => ⟨?_, ?_, ?_, ?_⟩, ?_⟩) umaConfirmacao,
    by decide⟩
  · rintro numero same
    cases same
    exact ⟨by decide, by decide⟩
  · rintro valor same
    cases same
  · rintro imagem same
    cases same
  · exact fun item member => ⟨umPicole, List.mem_singleton.mp member⟩
  · exact fun fato member => absurd member List.not_mem_nil

end Corridas

end IceClube
