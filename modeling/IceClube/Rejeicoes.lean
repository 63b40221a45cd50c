import IceClube.Execucao
import IceClube.Requests
import IceClube.Statements

/-! Rejections that no listener handles, which end the process of the bot. Every listener of
`chatbot.js` handles its own; the one of `entrega.js` handles all but those of the calls it makes
to report or to undo. The promises that no handler waits for, of `answerCallbackQuery` in `chatbot.js`
and behind a justification in `entrega.js`, are left out. -/
namespace IceClube

open Coop Prog

/-- The calls that the listener of `entrega.js` makes outside its `try`, or in its `catch`. -/
def Ato.exposta : Ato → Bool
  | .sendMessage .. | .answerCallbackQuery _ | .query _ .rollback => true
  | _ => false

section Firme

variable {α β : Type} (certas : Ato → Bool)

/-- The calls in `certas` are answered; the others may be rejected. -/
def semRejeicao : Contract String Ato.Res Unit where
  pre _ _ := True
  post o _ answer _ := certas o = true → ∃ a, answer = .ok a

/-- The program returns, and something that satisfies `Q`. -/
def Retorna (f : Fluxo α) (Q : α → Prop) : Prop :=
  Meets (semRejeicao certas) f (fun r _ => ∃ a, r = .ok a ∧ Q a) ()

/-- The program does not end in a rejection. -/
abbrev Firme (f : Fluxo α) : Prop := Retorna certas f fun _ => True

variable {certas} {Q : α → Prop}

theorem retorna_pure {a : α} (value : Q a) : Retorna certas (pure a : Fluxo α) Q :=
  ⟨a, rfl, value⟩

theorem firme_pure (a : α) : Firme certas (pure a : Fluxo α) := retorna_pure trivial

theorem firme_faz {o : Ato} (certa : certas o = true) : Firme certas (faz o) := by
  rw [Firme, Retorna, meets_ask]
  refine ⟨trivial, fun answer _ post => ?_⟩
  obtain ⟨a, answered⟩ := post certa
  exact ⟨a, answered, trivial⟩

theorem retorna_bind {f : Fluxo β} {g : β → Fluxo α} (first : Firme certas f)
    (rest : ∀ b, Retorna certas (g b) Q) : Retorna certas (f >>= g) Q := by
  rw [Retorna, meets_bind]
  refine meets_mono first fun r _ returned => ?_
  obtain ⟨b, rfl, -⟩ := returned
  exact rest b

/-- A guarded program is as firm as its handler, whatever it does itself. -/
theorem retorna_handle {f : Fluxo α} {h : String → Fluxo α}
    (body : Meets (semRejeicao certas) f (fun r _ => ∀ a, r = .ok a → Q a) ())
    (handler : ∀ e, Retorna certas (h e) Q) : Retorna certas (f.handle h) Q := by
  rw [Retorna, meets_handle]
  refine meets_mono body fun r _ returned => ?_
  cases r with
  | ok a => exact ⟨a, rfl, returned a rfl⟩
  | error e => exact handler e

theorem meets_livre (f : Fluxo α) : Meets (semRejeicao certas) f (fun _ _ => True) () :=
  meets_weaken (calls_any f) (fun _ _ _ => trivial) fun _ _ _ _ _ _ => trivial

theorem firme_handle {f : Fluxo α} {h : String → Fluxo α} (handler : ∀ e, Firme certas (h e)) :
    Firme certas (f.handle h) :=
  retorna_handle (meets_mono (meets_livre f) fun _ _ _ _ _ => trivial) handler

theorem firme_each {f : β → Fluxo Unit} (body : ∀ x, Firme certas (f x)) (xs : List β) :
    Firme certas (each f xs) := by
  induction xs with
  | nil => exact firme_pure ()
  | cons x xs ih => exact retorna_bind (body x) fun _ => ih

end Firme

section Chatbot

variable {certas : Ato → Bool} (livres : ∀ o : Ato, o.infalivel = true → certas o = true)
  (c : Chat) (r : Nat)

theorem firme_enviarMensagem (mensagem : String) : Firme certas (enviarMensagem c mensagem) :=
  firme_handle fun _ => firme_pure ()

theorem firme_solicitarNumeroTelefone : Firme certas (solicitarNumeroTelefone c) :=
  firme_handle fun _ => firme_enviarMensagem c _

theorem firme_novoUsuario (m : Mensagem) : Firme certas (novoUsuario c r m) := by
  rw [novoUsuario]
  split
  · exact firme_enviarMensagem c _
  · refine firme_handle fun erro => ?_
    split <;> exact firme_enviarMensagem c _

theorem firme_consultarUsuario : Firme certas (consultarUsuario c) :=
  firme_handle fun _ => retorna_bind (firme_enviarMensagem c _) fun _ => firme_pure none

theorem firme_enviarMenuSetores (cargo : Option Cargo) :
    Firme certas (enviarMenuSetores c cargo) := by
  unfold enviarMenuSetores
  split
  · exact firme_enviarMensagem c _
  · exact firme_enviarMensagem c _
  · exact firme_enviarMensagem c _
  · exact firme_enviarMensagem c _
  · exact firme_pure ()

include livres

theorem firme_livre {o : Ato} (livre : o.infalivel = true) : Firme certas (faz o) :=
  firme_faz (livres o livre)

theorem firme_obter (inicio : Inicio) : Firme certas (obter c inicio) := by
  refine retorna_bind (firme_livre livres rfl) fun r => ?_
  cases r with
  | some r => exact firme_pure r
  | none => exact firme_livre livres rfl

/-- An assignment, the session put back, and then `f`. -/
theorem retorna_gravar {α : Type} {Q : α → Prop} {campos : List Campo} {f : Fluxo α}
    (rest : Retorna certas f Q) :
    Retorna certas (faz (.atribuir c r campos) >>= fun _ => faz (.set c r) >>= fun _ => f) Q :=
  retorna_bind (firme_livre livres rfl) fun _ => retorna_bind (firme_livre livres rfl) fun _ => rest

theorem firme_limparChat : Firme certas (limparChat c) := by
  refine retorna_bind (firme_livre livres rfl) fun r => ?_
  cases r with
  | none => exact firme_pure ()
  | some r =>
    refine retorna_bind (firme_livre livres rfl) fun sessao => ?_
    split
    · exact firme_pure ()
    · exact firme_handle fun _ => firme_pure ()

theorem firme_contato (phoneNumber : String) : Firme certas (contato c phoneNumber) := by
  rw [contato]
  split
  · exact firme_enviarMensagem c _
  · exact retorna_bind (firme_livre livres rfl) fun agora =>
      retorna_bind (firme_obter livres c _) fun r =>
        firme_handle fun _ => firme_enviarMensagem c _

theorem firme_usuarioLogado (m : Mensagem) : Firme certas (usuarioLogado c r m) := by
  refine retorna_bind (firme_livre livres rfl) fun sessao => ?_
  split
  · exact firme_enviarMenuSetores c _
  split
  · exact firme_handle fun _ => firme_enviarMensagem c _
  · rw [autenticarSetor]
    split
    · exact firme_enviarMensagem c _
    · exact firme_handle fun _ => firme_enviarMensagem c _

theorem firme_usuarioCadastrado (m : Mensagem) (id : Nat) (usuario : Usuario) :
    Firme certas (usuarioCadastrado c r m id usuario) := by
  refine retorna_gravar livres c r (retorna_bind (firme_livre livres rfl) fun sessao => ?_)
  split
  · rw [definirSenha]
    split
    · exact firme_enviarMensagem c _
    · exact firme_handle fun _ => firme_enviarMensagem c _
  split
  · exact retorna_bind (firme_solicitarNumeroTelefone c) fun _ => firme_enviarMensagem c _
  split
  · rw [verificarSenha]
    split
    · exact firme_enviarMensagem c _
    · exact firme_handle fun _ => firme_enviarMensagem c _
  · exact firme_usuarioLogado livres c r m

theorem firme_sessaoDeHoje (agora : Nat) : Firme certas (sessaoDeHoje c agora r) := by
  refine retorna_bind (firme_livre livres rfl) fun sessao => ?_
  split
  · exact firme_livre livres rfl
  · exact firme_pure r

theorem firme_mensagem (m : Mensagem) : Firme certas (mensagem c m) := by
  refine retorna_bind (firme_livre livres rfl) fun agora =>
    retorna_bind (firme_obter livres c _) fun r => retorna_bind (firme_livre livres rfl) fun _ =>
      retorna_bind (firme_sessaoDeHoje livres c r agora) fun r => ?_
  refine retorna_bind (firme_livre livres rfl) fun sessao => ?_
  split
  · exact retorna_bind (firme_livre livres rfl) fun _ => firme_enviarMensagem c _
  · refine retorna_gravar livres c r (retorna_bind (firme_consultarUsuario c) fun usuario => ?_)
    split
    · exact firme_pure ()
    · exact firme_novoUsuario c r m
    · exact firme_usuarioCadastrado livres c r m _ _

theorem firme_callbackChat (data : Option Texto) : Firme certas (callbackChat c data) := by
  rw [callbackChat]
  split
  · exact firme_pure ()
  · exact retorna_bind (firme_livre livres rfl) fun _ => retorna_bind (firme_livre livres rfl)
      fun agora => retorna_bind (firme_obter livres c _) fun r =>
        retorna_bind (firme_sessaoDeHoje livres c r agora) fun r =>
          firme_handle fun _ => firme_enviarMensagem c _

end Chatbot

section Entregador

variable {certas : Ato → Bool} (livres : ∀ o : Ato, o.infalivel = true → certas o = true)
  (expostas : ∀ o : Ato, o.exposta = true → certas o = true) (c : Chat) (r : Nat)
include expostas

theorem firme_wrapper (mensagem : String) : Firme certas (enviarMensagemWrapper c mensagem) :=
  retorna_bind (firme_faz (expostas _ rfl)) fun _ => firme_pure ()

include livres

theorem retorna_erroDeRota :
    Retorna certas (erroDeRota c r (enviarMensagemWrapper c)) fun handled => handled = true :=
  retorna_bind (firme_wrapper expostas c _) fun _ => retorna_gravar livres c r (retorna_pure rfl)

/-- It leaves only buttons that are not its own to the rest of the listener. -/
theorem retorna_tratarCallback (data : Option Texto) :
    Retorna certas (tratarCallbackOrganizarRota c r (enviarMensagemWrapper c) data) fun handled =>
      handled = true ∨
        ∃ d, data = some d ∧ ramoOrganizar c r (enviarMensagemWrapper c) d = none := by
  have reported (e : String) := meets_mono (retorna_erroDeRota livres expostas c r)
    fun answer _ (returned : ∃ a, answer = .ok a ∧ a = true) => returned.imp fun a both =>
      And.intro both.1 (Or.inl (b := ∃ d, data = some d ∧
        ramoOrganizar c r (enviarMensagemWrapper c) d = none) both.2)
  refine retorna_handle ?_ reported
  cases data with
  | none =>
    intro a returned
    cases returned
  | some d =>
    cases branch : ramoOrganizar c r (enviarMensagemWrapper c) d with
    | none =>
      simp only [branch]
      intro a _
      exact .inr ⟨d, rfl, branch⟩
    | some ramo =>
      simp only [branch]
      rw [meets_bind]
      refine meets_mono (meets_livre ramo) fun answer _ _ => ?_
      cases answer with
      | error e => exact fun _ returned => by cases returned
      | ok _ => exact fun _ returned => by cases returned; exact .inl rfl

theorem firme_ramoEntrega {data : Texto}
    (outro : ramoOrganizar c r (enviarMensagemWrapper c) data = none) :
    Firme certas (ramoEntrega c r data) := by
  have responde : Firme certas (faz (.answerCallbackQuery c)) := firme_faz (expostas _ rfl)
  rw [ramoEntrega]
  split
  · exact retorna_bind responde fun _ => firme_handle fun _ => firme_wrapper expostas c _
  split
  · exact retorna_bind responde fun _ => firme_handle fun _ =>
      retorna_bind (firme_faz (expostas _ rfl)) fun _ => firme_wrapper expostas c _
  split
  · exact retorna_bind responde fun _ => retorna_gravar livres c r (firme_wrapper expostas c _)
  split
  next cancel =>
    -- the branch that would throw is never reached: `organizar.js` takes its button first
    rw [cancel] at outro
    revert outro
    simp [ramoOrganizar, Texto.startsWith]
  next => exact firme_pure ()

theorem firme_callbackEntrega (data : Option Texto) : Firme certas (callbackEntrega c data) := by
  refine retorna_bind (firme_obter livres c _) fun r => ?_
  rw [Retorna, meets_bind]
  refine meets_mono (retorna_tratarCallback livres expostas c r data) fun answer _ returned => ?_
  obtain ⟨handled, rfl, own | ⟨d, rfl, branch⟩⟩ := returned
  · rw [then_ok, own]
    exact firme_pure ()
  · rw [then_ok]
    split
    · exact firme_pure ()
    · exact firme_ramoEntrega livres expostas c r branch

end Entregador

section Corridas

theorem Ato.exec_certo {o : Ato} (fixed : o.infalivel = true) (m : Mundo) :
    ∃ a, (o.exec m).1 = .ok a := by
  rw [exec_infalivel fixed]
  cases o with
  | query c q => cases fixed
  | _ => exact ⟨_, rfl⟩

theorem infalivel_of_sync {o : Ato} (sync : o.sync = true) : o.infalivel = true := by
  cases o with
  | setTimeout ms => rfl
  | _ => exact sync

theorem firme_tratar {evento : Evento} (outro : ∀ c data, evento ≠ .callbackEntrega c data) :
    Firme Ato.infalivel evento.tratar := by
  cases evento with
  | mensagem c m => exact firme_mensagem (fun _ fixed => fixed) c m
  | contato c phoneNumber => exact firme_contato (fun _ fixed => fixed) c phoneNumber
  | callbackEntrega c data => exact absurd rfl (outro c data)
  | callbackChat c data => exact firme_callbackChat (fun _ fixed => fixed) c data
  | limpeza chats => exact firme_each (firme_limparChat fun _ fixed => fixed) chats

theorem firme_tratar_exposta (evento : Evento) :
    Firme (fun o => o.infalivel || o.exposta) evento.tratar := by
  have livres (o : Ato) (fixed : o.infalivel = true) : (o.infalivel || o.exposta) = true := by
    rw [fixed, Bool.true_or]
  have expostas (o : Ato) (exposed : o.exposta = true) : (o.infalivel || o.exposta) = true := by
    rw [exposed, Bool.or_true]
  cases evento with
  | mensagem c m => exact firme_mensagem livres c m
  | contato c phoneNumber => exact firme_contato livres c phoneNumber
  | callbackEntrega c data => exact firme_callbackEntrega livres expostas c data
  | callbackChat c data => exact firme_callbackChat livres c data
  | limpeza chats => exact firme_each (firme_limparChat livres) chats

/-- No step of the run has a message, the answer to a button or a ROLLBACK rejected. -/
def SemRecusa (c : Config String Ato.Res Unit Mundo) (a : Action Evento Deriva) : Prop :=
  ∀ o, c.issued a = some o → o.exposta = true → ∃ x, (o.exec c.state).1 = .ok x

/-- However the handlers interleave and whatever is rejected, only a button that the courier's
listener takes can end in a rejection that nobody handles, and only in a run where a message, the
answer to a button or a ROLLBACK was rejected. -/
theorem so_o_entregador_derruba {m : Mundo} {passos : List (Action Evento Deriva)} {i : Nat}
    {evento : Evento} {erro : String} (chegou : (arrivals passos)[i]? = some evento)
    (caiu : (bot.execute passos ⟨m, []⟩).tasks[i]? = some (.fail erro)) :
    (∃ c data, evento = .callbackEntrega c data) ∧ ¬ bot.Runs SemRecusa passos ⟨m, []⟩ := by
  have certo (o : Ato) (m : Mundo) (sync : bot.sync o = true) : ∃ a, (bot.exec o m).1 = .ok a :=
    Ato.exec_certo (infalivel_of_sync sync) m
  constructor
  · by_contra outro
    have firme (e : Evento) : Meets (semRejeicao Ato.infalivel) e.tratar (fun answer _ =>
        (∀ c data, e ≠ .callbackEntrega c data) → ∃ a, answer = .ok a ∧ True) () := by
      by_cases own : ∀ c data, e ≠ .callbackEntrega c data
      · exact meets_mono (firme_tratar own) fun _ _ returned _ => returned
      · exact meets_mono (meets_livre e.tratar) fun _ _ _ free => absurd free own
    have kept := System.ended_meets (M := bot) (fun _ => rfl) firme (System.runs_any passos ⟨m, []⟩)
      (fun o m sync _ => certo o m sync) (fun c _ o _ _ fixed => Ato.exec_certo fixed c.state) chegou caiu
    obtain ⟨_, returned, -⟩ := kept fun c data same => outro ⟨c, data, same⟩
    cases returned
  · intro lawful
    have kept := System.ended_meets (M := bot) (fun _ => rfl) firme_tratar_exposta lawful
      (fun o m sync _ => certo o m sync) (fun c a o granted issued certa => by
        rcases Bool.or_eq_true_iff.mp certa with fixed | exposed
        · exact Ato.exec_certo fixed c.state
        · exact granted o issued exposed) chegou caiu
    obtain ⟨_, returned, -⟩ := kept
    cases returned

def botaoSemResposta : List (Action Evento Deriva) :=
  [.arrive (.callbackEntrega 7 (some "recebido_1".toList)), .step 0]

theorem recebido_derruba :
    (∃ c data, Evento.callbackEntrega 7 (some "recebido_1".toList) = .callbackEntrega c data) ∧
      ¬ bot.Runs SemRecusa botaoSemResposta ⟨{ falhas := [.rejeitada "ETELEGRAM"] }, []⟩ :=
  have caiu : (bot.execute botaoSemResposta
      ⟨{ falhas := [.rejeitada "ETELEGRAM"] }, []⟩).tasks[0]? = some (.fail "ETELEGRAM") := rfl
  so_o_entregador_derruba rfl caiu

end Corridas
end IceClube
