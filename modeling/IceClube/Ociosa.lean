import IceClube.Cadastro
import IceClube.Portaria
import IceClube.Rastreio

/-! Silence. A session is over once its chat was silent for `sessionTimeout`, or on another
day. The listener of messages looks at the time; those of buttons and of shared contacts do
not, and the one of `configurarEntrega` does not look at the day. -/
namespace IceClube

open Coop Prog

section Comeco

variable (c : Chat)

def sessaoDoContato : Fluxo Nat := do
  let agora ← faz .dateNow
  obter c (sessaoDoDia agora)

/-- The session that the listener of `configurarEntrega` goes on with. -/
def sessaoDaEntrega : Fluxo Nat := obter c { etapa := some .menu }

/-- The session that the callback listener of `chatbot.js` goes on with. -/
def sessaoDoBotao (data : Texto) : Fluxo Nat := do
  faz (.botao c data)
  let agora ← faz .dateNow
  let r ← obter c (sessaoDoDia agora)
  sessaoDeHoje c agora r

end Comeco

/-- What a listener does before it goes on with a session, or with none. -/
def Evento.comeco : Evento → Fluxo (Option Nat)
  | mensagem c m => receber c m
  | contato c phoneNumber => if phoneNumber = "" then pure none else some <$> sessaoDoContato c
  | callbackEntrega c _ => some <$> sessaoDaEntrega c
  | callbackChat c data =>
    if data.getD [] = [] then pure none else some <$> sessaoDoBotao c (data.getD [])
  | limpeza _ => pure none

theorem comeco_some {f : Fluxo Nat} {g : Nat → Fluxo Unit} :
    (some <$> f) >>= (fun x => x.elim (pure ()) g) = f >>= g :=
  bind_assoc ..

theorem tratar_comeco (evento : Evento) :
    ∃ resto : Option Nat → Fluxo Unit, evento.tratar = evento.comeco >>= resto := by
  cases evento with
  | mensagem c m => exact ⟨seguir c m, mensagem_eq c m⟩
  | contato c phoneNumber =>
    by_cases empty : phoneNumber = ""
    · exact ⟨fun _ => contato c phoneNumber, by rw [Evento.comeco, if_pos empty]; rfl⟩
    · rw [Evento.comeco, if_neg empty, Evento.tratar, contato, if_neg empty]
      exact ⟨fun x => x.elim (pure ()) _, comeco_some.trans (bind_assoc ..) |>.symm⟩
  | callbackEntrega c data => exact ⟨fun x => x.elim (pure ()) _, comeco_some.symm⟩
  | callbackChat c data =>
    by_cases empty : data.getD [] = []
    · exact ⟨fun _ => callbackChat c data, by rw [Evento.comeco, if_pos empty]; rfl⟩
    · rw [Evento.comeco, if_neg empty, Evento.tratar, callbackChat, if_neg empty]
      refine ⟨fun x => x.elim (pure ()) fun r => callbackNaSessao c r (data.getD []), ?_⟩
      rw [comeco_some, sessaoDoBotao]
      simp only [bind_assoc]
  | limpeza chats => exact ⟨fun _ => each limparChat chats, rfl⟩

def Sessao.login (s : Sessao) : Bool × Bool × Option Setor := (s.logado, s.autenticado, s.setor)

def Sessao.SemLogin (s : Sessao) : Prop := s.login = (false, false, none)

instance (s : Sessao) : Decidable s.SemLogin := inferInstanceAs (Decidable (_ = _))

namespace Mundo

/-- Listeners one after the other, each to its end. -/
def atende (eventos : List Evento) (m : Mundo) : Mundo :=
  eventos.foldl (fun m evento => (evento.tratar.run Ato.exec m).2) m

def acha (evento : Evento) (m : Mundo) : Option Sessao :=
  match evento.chat, evento.comeco.run Ato.exec m with
  | some c, (.ok (some r), m') => some ((m'.conversas c).objetos r)
  | _, _ => none

/-- The sessions that listeners go on with, one listener after the other. -/
def acham : List Evento → Mundo → List Sessao
  | [], _ => []
  | evento :: eventos, m => (m.acha evento).toList ++ acham eventos (m.atende [evento])

end Mundo

inductive Chegada where
  | mensagem (c : Chat) (m : Mensagem)
  | contato (c : Chat) (phoneNumber : String)
  | botao (c : Chat) (data : Option Texto)
  deriving DecidableEq, Repr

namespace Chegada

def chat : Chegada → Chat
  | mensagem c _ | contato c _ | botao c _ => c

/-- A button goes to both listeners. -/
def eventos : Chegada → List Evento
  | mensagem c m => [.mensagem c m]
  | contato c phoneNumber => [.contato c phoneNumber]
  | botao c data => [.callbackEntrega c data, .callbackChat c data]

end Chegada

structure Plantao where
  mundo : Mundo
  ultimo : Chat → Option Nat := fun _ => none

inductive Turno where
  | chega (a : Chegada)
  | limpeza (chats : List Chat)
  /-- Time passes while others use the database. -/
  | passa (dt : Nat) (outros : Deriva)

namespace Plantao

def inicio (m : Mundo) : Plantao := { mundo := { m with conversas := fun _ => {} } }

def segue (p : Plantao) : Turno → Plantao
  | .chega a =>
    { mundo := p.mundo.atende a.eventos
      ultimo := fun c => if c = a.chat then some p.mundo.db.agora else p.ultimo c }
  | .limpeza chats => { p with mundo := p.mundo.atende [.limpeza chats] }
  | .passa dt outros =>
    let db := { outros.db with agora := p.mundo.db.agora + dt }
    { p with mundo := p.mundo.derivar { outros with db := db } }

def roda (turnos : List Turno) (p : Plantao) : Plantao := turnos.foldl segue p

variable (p : Plantao)

/-- The chat was silent for too long. -/
def Calada (c : Chat) : Prop :=
  ∃ t ∈ p.ultimo c, sessionTimeout < p.mundo.db.agora - t

def DeOntem (c : Chat) : Prop :=
  ∃ s ∈ (p.mundo.conversas c).atual, ∃ d ∈ s.data, d < dia p.mundo.db.agora

def Vencida (c : Chat) : Prop := p.Calada c ∨ p.DeOntem c

/-- What comes when the session is over finds the chat logged out. -/
def Morta (a : Chegada) : Prop :=
  p.Vencida a.chat → ∀ s ∈ p.mundo.acham a.eventos, s.SemLogin

/-- No button and no contact comes when the session is over while the map still shows a login. -/
def Fechada : Chegada → Prop
  | .mensagem .. => True
  | .contato c phoneNumber => phoneNumber ≠ "" → p.Vencida c →
    ∀ s ∈ (p.mundo.conversas c).atual, s.SemLogin
  | .botao c _ => p.Vencida c → ∀ s ∈ (p.mundo.conversas c).atual, s.SemLogin

end Plantao

def Sempre (P : Plantao → Chegada → Prop) (turnos : List Turno) (p : Plantao) : Prop :=
  ∀ antes a depois, turnos = antes ++ .chega a :: depois → P (p.roda antes) a

theorem sempre_congr {P Q : Plantao → Chegada → Prop} {turnos : List Turno} {p : Plantao}
    (um : ∀ antes a, P (p.roda antes) a ↔ Q (p.roda antes) a) :
    Sempre P turnos p ↔ Sempre Q turnos p := by
  constructor
  · intro always antes a depois split
    exact (um antes a).mp (always antes a depois split)
  · intro always antes a depois split
    exact (um antes a).mpr (always antes a depois split)

section Achadas

variable {c : Chat} {m : Mundo}

def Campo.poupaLogin : Campo → Bool
  | setor _ | autenticado _ | logado _ => false
  | _ => true

theorem login_atribuirTodos {campos : List Campo} (todos : campos.all Campo.poupaLogin = true)
    (s : Sessao) : (s.atribuirTodos campos).login = s.login :=
  atribuirTodos_visao (fun s campo h => by cases campo <;> first | rfl | cases h) todos s

theorem semLogin_novo (inicio : Inicio) : inicio.sessao.SemLogin := rfl

theorem pushMessageIds_eq (x : Mensagem) (s : Sessao) :
    ∃ ids, s.atribuirTodos (x.messageId.toList.map Campo.pushMessageId) =
      { s with messageIds := ids } := by
  cases x.messageId with
  | none => exact ⟨s.messageIds, rfl⟩
  | some id => exact ⟨s.messageIds ++ [id], rfl⟩

/-- `receber` from the session of the map on. -/
def receberNa (c : Chat) (x : Mensagem) (agora r : Nat) : Fluxo (Option Nat) := do
  faz (.atribuir c r (x.messageId.toList.map Campo.pushMessageId))
  let r ← sessaoDeHoje c agora r
  let sessao ← faz (.ler c r)
  if sessaoExpirada sessao agora then do
    faz (.delete c .expirada)
    pure none
  else do
    faz (.atribuir c r [.lastUpdated agora])
    faz (.set c r)
    pure (some r)

theorem run_receber (x : Mensagem) (w : Mundo) : (receber c x).run Ato.exec w =
    match (w.conversas c).sessao with
    | some r => (receberNa c x w.db.agora r).run Ato.exec w
    | none => (receberNa c x w.db.agora (w.conversas c).proximo).run Ato.exec
        (w.conversa c (·.cria (sessaoDoDia w.db.agora))) := by
  rw [receber, run_sync _ rfl]
  simp only [Ato.sem, answered_ok, bind_done]
  rw [run_obter]
  cases (w.conversas c).sessao with
  | some r => rfl
  | none => rfl

/-- The session that a message goes on with: the one of the map with the time of now, none
where it had expired, or a new one without a login on another day. -/
theorem run_receberNa (x : Mensagem) (r : Nat) (w : Mundo) :
    ∃ answer w₁, (receberNa c x w.db.agora r).run Ato.exec w = (.ok answer, w₁) ∧ w₁.db = w.db ∧
      w₁.falhas = w.falhas ∧
      if ((w.conversas c).objetos r).data = some (dia w.db.agora) then
        if sessaoExpirada ((w.conversas c).objetos r) w.db.agora then answer = none
        else ∃ r' ids, answer = some r' ∧ (w₁.conversas c).objetos r' =
          { (w.conversas c).objetos r with messageIds := ids, lastUpdated := some w.db.agora }
      else ∀ r' ∈ answer, ((w₁.conversas c).objetos r').SemLogin := by
  let pushed := w.conversa c (·.atribui r (x.messageId.toList.map Campo.pushMessageId))
  obtain ⟨ids, kept⟩ := pushMessageIds_eq x ((w.conversas c).objetos r)
  have object : (pushed.conversas c).objetos r =
      { (w.conversas c).objetos r with messageIds := ids } := by
    rw [← kept]
    simp [pushed]
  let resto : Nat → Fluxo (Option Nat) := fun r => do
    let sessao ← faz (.ler c r)
    if sessaoExpirada sessao w.db.agora then do
      faz (.delete c .expirada)
      pure none
    else do
      faz (.atribuir c r [.lastUpdated w.db.agora])
      faz (.set c r)
      pure (some r)
  have start : (receberNa c x w.db.agora r).run Ato.exec w =
      (sessaoDeHoje c w.db.agora r >>= resto).run Ato.exec pushed := by
    rw [receberNa, run_sync _ rfl]
    rfl
  obtain ⟨r₁, w₁, next, db, falhas, chosen⟩ := run_sessaoDeHoje (c := c) resto r pushed
  have run := start.trans next
  rw [run_sync _ rfl] at run
  simp only [Ato.sem, answered_ok, bind_done] at run
  rw [object] at chosen
  have chosen : (w₁.conversas c).objetos r₁ =
      if ((w.conversas c).objetos r).data = some (dia w.db.agora) then
        { (w.conversas c).objetos r with messageIds := ids }
      else (sessaoDoDia w.db.agora).sessao := chosen
  by_cases expired : sessaoExpirada ((w₁.conversas c).objetos r₁) w.db.agora = true
  · rw [if_pos expired] at run
    refine ⟨none, _, run, db, falhas, ?_⟩
    split
    next same =>
      rw [if_pos same] at chosen
      have old : sessaoExpirada ((w.conversas c).objetos r) w.db.agora = true := by
        rw [chosen] at expired
        exact expired
      rw [if_pos old]
    next other => exact fun r' found => by cases found
  · rw [if_neg expired] at run
    refine ⟨some r₁, _, run, db, falhas, ?_⟩
    let gravada := w₁.grava c r₁ [.lastUpdated w.db.agora]
    have shown : (gravada.conversas c).objetos r₁ =
        { (w₁.conversas c).objetos r₁ with lastUpdated := some w.db.agora } := by
      simp [gravada, Mundo.grava, Sessao.atribuir]
    split
    next same =>
      rw [if_pos same] at chosen
      have young : ¬ sessaoExpirada ((w.conversas c).objetos r) w.db.agora = true := by
        rw [chosen] at expired
        exact expired
      rw [chosen] at shown
      rw [if_neg young]
      exact ⟨r₁, ids, rfl, shown⟩
    next other =>
      rw [if_neg other] at chosen
      intro r' found
      cases found
      rw [chosen] at shown
      exact congrArg Sessao.login shown

/-- A message goes on without a login, or with the login of a session of the day that has not
expired. -/
theorem login_receberNa (x : Mensagem) (r : Nat) (w : Mundo) {r' : Nat} {m' : Mundo}
    (found : (receberNa c x w.db.agora r).run Ato.exec w = (.ok (some r'), m')) :
    ((m'.conversas c).objetos r').SemLogin ∨
      ((m'.conversas c).objetos r').login = ((w.conversas c).objetos r).login ∧
        ((w.conversas c).objetos r).data = some (dia w.db.agora) ∧
          sessaoExpirada ((w.conversas c).objetos r) w.db.agora = false := by
  obtain ⟨answer, w₁, run, -, -, session⟩ := run_receberNa (c := c) x r w
  cases run.symm.trans found
  split at session
  next today =>
    split at session
    next => cases session
    next young =>
      obtain ⟨_, ids, same, object⟩ := session
      cases same
      have login : ((m'.conversas c).objetos r').login = ((w.conversas c).objetos r).login := by
        rw [object]
        rfl
      exact .inr ⟨login, today, by simpa using young⟩
  next => exact .inl (session r' rfl)

/-- A message goes on with a new session, or with one of the day that has not expired. -/
theorem acha_mensagem (x : Mensagem) : ∀ s ∈ m.acha (.mensagem c x), s.SemLogin ∨
    ∃ s' ∈ (m.conversas c).atual, s'.data = some (dia m.db.agora) ∧
      sessaoExpirada s' m.db.agora = false := by
  intro s member
  simp only [Mundo.acha, Evento.chat, Evento.comeco] at member
  split at member
  next c' r' m' here found =>
    cases here
    cases member
    rw [run_receber] at found
    cases stored : (m.conversas c).sessao with
    | some r =>
      rw [stored] at found
      apply (login_receberNa x r m found).imp id
      rintro ⟨-, kept⟩
      exact ⟨_, by rw [Conversa.atual, stored]; rfl, kept⟩
    | none =>
      rw [stored] at found
      left
      let criado := m.conversa c (·.cria (sessaoDoDia m.db.agora))
      have fresh : (criado.conversas c).objetos (m.conversas c).proximo =
          (sessaoDoDia m.db.agora).sessao := by simp [criado]
      rcases login_receberNa x (m.conversas c).proximo criado found with out | ⟨same, -⟩
      · exact out
      · rw [fresh] at same
        exact same
  next => cases member

theorem run_obtida (inicio : Inicio) :
    ∃ r m', (some <$> obter c inicio).run Ato.exec m = (.ok (some r), m') ∧
      (m'.conversas c).objetos r = (m.conversas c).atual.getD inicio.sessao := by
  have run := run_obter (c := c) inicio (fun r => (pure (some r) : Fluxo (Option Nat))) m
  cases stored : (m.conversas c).sessao with
  | some r =>
    rw [stored] at run
    exact ⟨r, m, run, by rw [Conversa.atual, stored]; rfl⟩
  | none =>
    rw [stored] at run
    exact ⟨_, _, run, by rw [Conversa.atual, stored]; simp⟩

theorem acha_callbackEntrega (data : Option Texto) : m.acha (.callbackEntrega c data) =
    some ((m.conversas c).atual.getD (Inicio.sessao { etapa := some .menu })) := by
  obtain ⟨r, m', run, object⟩ := run_obtida (c := c) (m := m) { etapa := some .menu }
  simp only [Mundo.acha, Evento.chat, Evento.comeco, sessaoDaEntrega]
  rw [run, ← object]

theorem acha_contato {phoneNumber : String} (number : phoneNumber ≠ "") :
    m.acha (.contato c phoneNumber) =
      some ((m.conversas c).atual.getD (sessaoDoDia m.db.agora).sessao) := by
  obtain ⟨r, m', run, object⟩ := run_obtida (c := c) (m := m) (sessaoDoDia m.db.agora)
  have first : (some <$> sessaoDoContato c).run Ato.exec m =
      (some <$> obter c (sessaoDoDia m.db.agora)).run Ato.exec m := rfl
  simp only [Mundo.acha, Evento.chat, Evento.comeco, if_neg number]
  rw [first, run, ← object]

/-- The callback listener of `chatbot.js` goes on with the session of the map, or with a new one. -/
theorem acha_callbackChat (data : Option Texto) : ∀ s ∈ m.acha (.callbackChat c data),
    s.SemLogin ∨ s ∈ (m.conversas c).atual := by
  intro s member
  simp only [Mundo.acha, Evento.chat, Evento.comeco] at member
  split at member
  next c' r' m' here found =>
    cases here
    cases member
    split at found
    · cases found
    let w := m.conversa c (·.anota [.botao (data.getD [])])
    have atual : (w.conversas c).atual = (m.conversas c).atual := by simp [w, Conversa.atual]
    have first : (some <$> sessaoDoBotao c (data.getD [])).run Ato.exec m =
        (obter c (sessaoDoDia m.db.agora) >>= fun r => sessaoDeHoje c m.db.agora r >>= fun r =>
          (pure (some r) : Fluxo (Option Nat))).run Ato.exec w := by
      change (sessaoDoBotao c (data.getD []) >>= fun r => pure (some r)).run Ato.exec m = _
      rw [sessaoDoBotao, bind_assoc, run_sync _ rfl]
      simp only [Ato.sem, answered_ok, bind_done]
      rw [bind_assoc, run_sync _ rfl]
      simp only [Ato.sem, answered_ok, bind_done]
      rw [bind_assoc]
      rfl
    -- the object is the one of `obter`, or a new one of the day
    have hoje (r : Nat) (w' : Mundo) (clock : w'.db.agora = m.db.agora)
        (found : (sessaoDeHoje c m.db.agora r >>= fun r =>
          (pure (some r) : Fluxo (Option Nat))).run Ato.exec w' = (.ok (some r'), m')) :
        ((m'.conversas c).objetos r').SemLogin ∨
          (m'.conversas c).objetos r' = (w'.conversas c).objetos r := by
      rw [← clock] at found
      obtain ⟨r₁, w₁, same, -, -, chosen⟩ := run_sessaoDeHoje (c := c)
        (fun r => (pure (some r) : Fluxo (Option Nat))) r w'
      cases same.symm.trans found
      rw [chosen]
      split
      · exact .inr rfl
      · exact .inl rfl
    rw [first, run_obter, show (w.conversas c).sessao = (m.conversas c).sessao from by simp [w]]
      at found
    cases stored : (m.conversas c).sessao with
    | some r =>
      rw [stored] at found
      apply (hoje r w rfl found).imp id
      intro same
      rw [same, ← atual, Conversa.atual, show (w.conversas c).sessao = some r by simp [w, stored]]
      rfl
    | none =>
      rw [stored] at found
      left
      rcases hoje _ (w.conversa c (·.cria (sessaoDoDia m.db.agora))) rfl found with out | same
      · exact out
      · rw [same, Mundo.conversas_conversa, Conversa.objetos_cria]
        rfl
  next => cases member

end Achadas

section Alheio

variable {c : Chat} {m : Mundo} {n : Nat}

def semLoginDe (antes : Conversa) (n : Nat) : Uso Unit where
  bom _ r := (antes.proximo ≤ r ∨ (antes.objetos r).SemLogin) ∧ r < n
  vazia _ := True
  viu _ _ := True
  grava _ _ := True

structure Deslogada (antes : Conversa) (n : Nat) (k : Conversa) : Prop where
  cresce : antes.proximo ≤ k.proximo
  sessao : ∀ r, k.sessao = some r → (semLoginDe antes n).bom () r
  objetos : ∀ r < k.proximo, antes.proximo ≤ r ∨ (antes.objetos r).SemLogin → (k.objetos r).SemLogin

namespace Deslogada

variable {antes k k' : Conversa} {r : Nat}

theorem igual (h : Deslogada antes n k) (sessao : k'.sessao = k.sessao)
    (proximo : k'.proximo = k.proximo) (objetos : k'.objetos = k.objetos) :
    Deslogada antes n k' := by
  obtain ⟨cresce, guardada, fora⟩ := h
  refine ⟨?_, ?_, ?_⟩
  · rw [proximo]
    exact cresce
  · rw [sessao]
    exact guardada
  · rw [proximo, objetos]
    exact fora

theorem guarda (h : Deslogada antes n k) (bom : (semLoginDe antes n).bom () r) :
    Deslogada antes n (k.guarda r) :=
  ⟨h.cresce, fun _ same => Option.some.inj same ▸ bom, h.objetos⟩

theorem apaga (h : Deslogada antes n k) (saida : Saida) : Deslogada antes n (k.apaga saida) :=
  ⟨h.cresce, fun _ gone => (by cases gone), h.objetos⟩

theorem cria (h : Deslogada antes n k) (inicio : Inicio) : Deslogada antes n (k.cria inicio) := by
  refine ⟨Nat.le_succ_of_le h.cresce, h.sessao, fun r inside good => ?_⟩
  by_cases same : r = k.proximo
  · rw [same, Conversa.objetos_cria]
    exact semLogin_novo inicio
  · have old : (k.cria inicio).objetos r = k.objetos r := if_neg same
    rw [old]
    exact h.objetos r (Nat.lt_of_le_of_ne (Nat.le_of_lt_succ inside) same) good

theorem atribui (h : Deslogada antes n k) {campos : List Campo}
    (todos : campos.all Campo.poupaLogin = true) : Deslogada antes n (k.atribui r campos) := by
  refine ⟨h.cresce, h.sessao, fun r' inside good => ?_⟩
  have shown := h.objetos r' inside good
  by_cases same : r' = r
  · subst same
    rw [Conversa.objetos_atribui]
    exact (login_atribuirTodos todos _).trans shown
  · rw [Conversa.objetos_atribui_ne _ _ _ same]
    exact shown

end Deslogada

theorem poupaLogin_doPainel {campo : Campo} (doPainel : campo.doPainel = true) :
    campo.poupaLogin = true := by
  cases campo <;> first | rfl | cases doPainel

theorem deslogada_parada {antes : Conversa} {o : Ato}
    (parada : ∀ m, ((o.sem m).2.conversas c).sessao = (m.conversas c).sessao ∧
      ((o.sem m).2.conversas c).proximo = (m.conversas c).proximo ∧
      ((o.sem m).2.conversas c).objetos = (m.conversas c).objetos)
    (h : Deslogada antes n (m.conversas c)) : Deslogada antes n ((o.exec m).2.conversas c) := by
  have kept (falhas : List Falha) :
      Deslogada antes n ((o.sem (m.comFalhas falhas)).2.conversas c) := by
    obtain ⟨sessao, proximo, objetos⟩ := parada (m.comFalhas falhas)
    exact h.igual sessao proximo objetos
  exact Ato.exec_regra (R := fun _ m' => Deslogada antes n (m'.conversas c)) (fun _ => kept _)
    (fun _ _ _ => h) fun _ _ _ => kept _

theorem deslogada_exec {antes : Conversa} {o : Ato} {v : Unit × Option Sessao}
    (h : Deslogada antes n (m.conversas c) ∧ v.2 = none)
    (pre : ((semLoginDe antes n).contrato c).pre o v)
    (dentro : ((o.exec m).2.conversas c).proximo ≤ n) :
    ∃ v', ((semLoginDe antes n).contrato c).post o v (o.exec m).1 v' ∧
      Deslogada antes n ((o.exec m).2.conversas c) ∧ v'.2 = none := by
  obtain ⟨deslogada, nada⟩ := h
  cases o with
  | get c' =>
    obtain rfl := pre
    refine ⟨v, ⟨rfl, ?_⟩, deslogada, nada⟩
    have answer : ((Ato.get c').exec m).1 = .ok (m.conversas c').sessao := rfl
    rw [answer]
    cases stored : (m.conversas c').sessao with
    | none => trivial
    | some r => exact deslogada.sessao r stored
  | set c' r =>
    obtain ⟨rfl, bom⟩ := pre
    refine ⟨v, rfl, ?_, nada⟩
    rw [Ato.exec_infalivel rfl, Ato.sem, Mundo.conversas_conversa]
    exact deslogada.guarda bom
  | delete c' saida =>
    obtain ⟨rfl, -⟩ := pre
    refine ⟨v, trivial, ?_, nada⟩
    rw [Ato.exec_infalivel rfl, Ato.sem, Mundo.conversas_conversa]
    exact deslogada.apaga saida
  | novo c' inicio =>
    obtain ⟨rfl, -⟩ := pre
    rw [Ato.exec_infalivel rfl, Ato.sem, Mundo.conversas_conversa] at dentro
    refine ⟨(v.1, none), ⟨rfl, ?_⟩, ?_, rfl⟩
    · intro r made
      cases Except.ok.inj made
      exact ⟨.inl deslogada.cresce, dentro⟩
    · rw [Ato.exec_infalivel rfl, Ato.sem, Mundo.conversas_conversa]
      exact deslogada.cria inicio
  | ler c' r =>
    refine ⟨v, ⟨rfl, fun s _ => ⟨trivial, fun s' known => ?_⟩⟩, deslogada, nada⟩
    rw [nada] at known
    cases known
  | atribuir c' r campos =>
    obtain ⟨rfl, -, todos⟩ := pre
    refine ⟨(v.1, none), rfl, ?_, rfl⟩
    rw [Ato.exec_infalivel rfl, Ato.sem, Mundo.conversas_conversa]
    exact deslogada.atribui (List.all_eq_true.mpr fun campo member =>
      poupaLogin_doPainel (todos campo member))
  | query c' q =>
    refine ⟨v, rfl, deslogada_parada (fun m => ?_) deslogada, nada⟩
    obtain ⟨rfl, -⟩ := pre
    rw [Ato.sem]
    split
    · exact ⟨rfl, rfl, rfl⟩
    · simp [Conversa.anota]
  | botao | chama | compare | getConnection | beginTransaction | call | selectVendasRecentes
  | updateComprovante | commitVenda | rollbackVenda => cases pre
  | _ => exact ⟨v, rfl, deslogada_parada (fun _ => ⟨rfl, rfl, rfl⟩) deslogada, nada⟩

/-- A button that finds the chat logged out leaves it so for the second listener. -/
theorem semLogin_callbackEntrega (data : Option Texto)
    (limite : ∀ r, (m.conversas c).sessao = some r → r < (m.conversas c).proximo)
    (fora : ∀ s ∈ (m.conversas c).atual, s.SemLogin) :
    ∀ s ∈ (((callbackEntrega c data).run Ato.exec m).2.conversas c).atual, s.SemLogin := by
  let antes := m.conversas c
  let n := (((callbackEntrega c data).run Ato.exec m).2.conversas c).proximo
  have start : Deslogada antes n (m.conversas c) := by
    refine ⟨Nat.le_refl _, fun r stored => ⟨.inr ?_, ?_⟩, fun r inside good => ?_⟩
    · exact fora _ (by rw [Conversa.atual, stored]; rfl)
    · exact Nat.lt_of_lt_of_le (limite r stored) (proximo_run c _ m)
    · exact good.resolve_left (Nat.not_le_of_lt inside)
  have back (o : Ato) (m : Mundo) (inside : ((o.exec m).2.conversas c).proximo ≤ n) :
      (m.conversas c).proximo ≤ n := Nat.le_trans (proximo_exec c o m) inside
  have panel : Meets ((semLoginDe antes n).contrato c) (callbackEntrega c data)
      (fun _ v => v.1 = ()) ((), none) := usa_callbackEntrega (fun _ _ _ _ _ _ => trivial) none
  have honours (o : Ato) (m : Mundo) (v : Unit × Option Sessao)
      (h : Deslogada antes n (m.conversas c) ∧ v.2 = none)
      (pre : ((semLoginDe antes n).contrato c).pre o v)
      (inside : ((o.exec m).2.conversas c).proximo ≤ n) :
      ∃ v', ((semLoginDe antes n).contrato c).post o v (o.exec m).1 v' ∧
        Deslogada antes n ((o.exec m).2.conversas c) ∧ v'.2 = none := deslogada_exec h pre inside
  obtain ⟨v, -, final, -⟩ := meets_run_within (fun (m : Mundo) => (m.conversas c).proximo ≤ n)
    back honours panel ⟨start, rfl⟩ (Nat.le_refl n)
  intro s shown
  obtain ⟨r, stored, rfl⟩ := Option.map_eq_some_iff.mp shown
  obtain ⟨good, inside⟩ := final.sessao r stored
  exact final.objetos r inside good

end Alheio
section Hora

variable {c : Chat} {m : Mundo} {limite : Nat}

/-- Every object with a day has a time, and none later than `limite`. -/
def Conversa.Datada (limite : Nat) (k : Conversa) : Prop :=
  ∀ r, (k.objetos r).data.isSome = true → ∃ t ∈ (k.objetos r).lastUpdated, 0 < t ∧ t ≤ limite

/-- The call stamps nothing with a later time. -/
def Ato.Carimba (limite : Nat) : Ato → Prop
  | .novo _ inicio => inicio.data.isSome = true → ∃ t ∈ inicio.lastUpdated, 0 < t ∧ t ≤ limite
  | .atribuir _ _ campos => ∀ t, .lastUpdated t ∈ campos → 0 < t ∧ t ≤ limite
  | _ => True

theorem Conversa.Datada.mono {k : Conversa} {depois : Nat} (h : k.Datada limite)
    (le : limite ≤ depois) : k.Datada depois := by
  intro r dated
  obtain ⟨t, time, pos, before⟩ := h r dated
  exact ⟨t, time, pos, Nat.le_trans before le⟩

theorem lastUpdated_atribuirTodos (campos : List Campo) (s : Sessao) :
    (s.atribuirTodos campos).lastUpdated = s.lastUpdated ∨
      ∃ t, .lastUpdated t ∈ campos ∧ (s.atribuirTodos campos).lastUpdated = some t := by
  have final := atribuirTodos_de (s := s) (·.lastUpdated)
    (a := (s.atribuirTodos campos).lastUpdated)
    (fun campo => ∃ t, campo = .lastUpdated t ∧ (s.atribuirTodos campos).lastUpdated = some t)
    (fun s campo shown => by
      cases campo with
      | lastUpdated t => exact .inr ⟨t, rfl, shown.symm⟩
      | _ => exact .inl shown) rfl
  apply final.imp Eq.symm
  rintro ⟨-, member, t, rfl, shown⟩
  exact ⟨t, member, shown⟩

namespace Conversa.Datada

variable {k : Conversa}

theorem cria (h : k.Datada limite) {inicio : Inicio}
    (carimba : inicio.data.isSome = true → ∃ t ∈ inicio.lastUpdated, 0 < t ∧ t ≤ limite) :
    (k.cria inicio).Datada limite := by
  intro r dated
  by_cases same : r = k.proximo
  · rw [same, Conversa.objetos_cria] at dated ⊢
    exact carimba dated
  · have old : (k.cria inicio).objetos r = k.objetos r := if_neg same
    rw [old] at dated ⊢
    exact h r dated

theorem atribui (h : k.Datada limite) {r : Nat} {campos : List Campo}
    (carimba : ∀ t, .lastUpdated t ∈ campos → 0 < t ∧ t ≤ limite) :
    (k.atribui r campos).Datada limite := by
  intro r' dated
  by_cases same : r' = r
  · subst same
    rw [Conversa.objetos_atribui] at dated ⊢
    rw [data_atribuirTodos] at dated
    rcases lastUpdated_atribuirTodos campos (k.objetos r') with kept | ⟨t, member, shown⟩
    · rw [kept]
      exact h r' dated
    · exact ⟨t, shown, carimba t member⟩
  · rw [Conversa.objetos_atribui_ne _ _ _ same] at dated ⊢
    exact h r' dated

end Conversa.Datada

theorem datada_exec {o : Ato} (carimba : o.Carimba limite)
    (h : (m.conversas c).Datada limite) : ((o.exec m).2.conversas c).Datada limite := by
  have own {c' : Chat} {f : Conversa → Conversa}
      (changed : (f (m.conversas c')).Datada limite ∨ c' ≠ c) :
      ((m.conversa c' f).conversas c).Datada limite := by
    by_cases mine : c = c'
    · rw [mine, Mundo.conversas_conversa]
      exact changed.resolve_right fun other => other mine.symm
    · rw [Mundo.conversas_conversa_ne mine]
      exact h
  cases fixo : o.mudaObjeto with
  | false =>
    intro r
    rw [objetos_exec fixo]
    exact h r
  | true =>
    cases o with
    | novo c' inicio =>
      rw [Ato.exec_infalivel rfl, Ato.sem]
      apply own
      by_cases mine : c' = c
      · subst mine
        exact .inl (h.cria carimba)
      · exact .inr mine
    | atribuir c' r campos =>
      rw [Ato.exec_infalivel rfl, Ato.sem]
      apply own
      by_cases mine : c' = c
      · subst mine
        exact .inl (h.atribui carimba)
      · exact .inr mine
    | _ => cases fixo

theorem agora_exec (o : Ato) (m : Mundo) : (o.exec m).2.db.agora = m.db.agora := by
  have effect (m : Mundo) : (o.sem m).2.db.agora = m.db.agora := by
    cases o with
    | query c q =>
      rw [Ato.sem]
      split
      · rfl
      · exact (relogio_sem q m.db).1
    | _ => rfl
  exact Ato.exec_regra (R := fun _ m' => m'.db.agora = m.db.agora) (fun _ => effect _)
    (fun _ _ _ => rfl) fun _ _ _ => effect _

theorem agora_run {α : Type} (f : Fluxo α) (m : Mundo) :
    (f.run Ato.exec m).2.db.agora = m.db.agora :=
  trace_invariant (fun m' => m'.db.agora = m.db.agora)
    (fun x _ same => (agora_exec x.1 x.2).trans same) rfl

/-- What the door allows stamps the time of the clock. -/
theorem carimba_porta {R : Regra} {n : Nat} {o : Ato} {v : Visao} (pre : (porta R c n).pre o v)
    (clock : 0 < v.agora) (le : v.agora ≤ limite) : o.Carimba limite := by
  cases o with
  | novo c' inicio =>
    intro dated
    exact ⟨_, pre.2 dated, clock, le⟩
  | atribuir c' r campos =>
    intro t member
    have stamp : (Campo.lastUpdated t).pontual v.agora = true :=
      List.all_eq_true.mp pre.2.2.2 _ member
    simp only [Campo.pontual, decide_eq_true_eq] at stamp
    exact stamp ▸ ⟨clock, le⟩
  | _ => trivial

end Hora
section Eventos

variable {c : Chat} {m : Mundo} {evento : Evento} {limite : Nat}

/-- A listener makes only calls of the door. -/
theorem portas_evento (chat : evento.chat = some c) (boa : ∀ c, Boa (m.conversas c)) :
    (∀ c, Boa ((evento.tratar.run Ato.exec m).2.conversas c)) ∧
      ∀ x ∈ evento.tratar.trace Ato.exec m, ∃ n, (porta semRegra c n).pre x.1 (x.2.visao c) := by
  have mantem : Mantem semRegra fun _ => True := fun _ _ _ _ _ _ _ _ _ _ => trivial
  obtain ⟨boas, calls⟩ := boa_run (c := c) (f := evento.tratar) mantem
    (fun c' => ⟨boa c', trivial⟩) fun n limite =>
      passaEm_evento chat (semRegra_permite m evento) (boa c) limite
  exact ⟨fun c' => (boas c').1, calls⟩

/-- What it leaves of its own chat, and of the others. -/
theorem datada_evento (chat : evento.chat = some c) (boa : ∀ c, Boa (m.conversas c))
    (clock : 0 < m.db.agora) (le : m.db.agora ≤ limite) (h : (m.conversas c).Datada limite) :
    ((evento.tratar.run Ato.exec m).2.conversas c).Datada limite := by
  have calls := (portas_evento chat boa).2
  have step (x : Ato × Mundo) (member : x ∈ evento.tratar.trace Ato.exec m)
      (now : x.2.db.agora = m.db.agora ∧ (x.2.conversas c).Datada limite) :
      (Ato.exec x.1 x.2).2.db.agora = m.db.agora ∧
        ((Ato.exec x.1 x.2).2.conversas c).Datada limite := by
    obtain ⟨n, pre⟩ := calls x member
    have now' : (x.2.visao c).agora = m.db.agora := now.1
    refine ⟨(agora_exec x.1 x.2).trans now.1, datada_exec ?_ now.2⟩
    exact carimba_porta pre (now' ▸ clock) (now' ▸ le)
  exact (trace_invariant (fun m' : Mundo => m'.db.agora = m.db.agora ∧
    (m'.conversas c).Datada limite) step ⟨rfl, h⟩).2

theorem alheias_evento {c' : Chat} (chat : evento.chat = some c) (boa : ∀ c, Boa (m.conversas c))
    (other : c' ≠ c) : (evento.tratar.run Ato.exec m).2.conversas c' = m.conversas c' := by
  have calls := (portas_evento chat boa).2
  apply trace_invariant (fun m' : Mundo => m'.conversas c' = m.conversas c') _ rfl
  intro x member same
  obtain ⟨n, mine, -⟩ := calls x member
  rw [← same]
  cases livre : x.1.livre with
  | true => exact conversas_livre livre x.2 c'
  | false => exact Ato.conversas_exec (fun here => other (mine livre c' (Ato.chat_of_dono here))) x.2

theorem calls_limparChat (c : Chat) :
    (limparChat c).Calls fun o => ∀ limite, o.Carimba limite := by
  have fixo {o : Ato} (fixo : o.mudaObjeto = false) :
      (faz o).Calls fun o => ∀ limite, o.Carimba limite := by
    apply (calls_ask o).mpr
    intro limite
    cases o with
    | novo | atribuir => cases fixo
    | _ => trivial
  have novo : (faz (.novo c {})).Calls fun o => ∀ limite, o.Carimba limite :=
    (calls_ask _).mpr fun _ dated => by cases dated
  have apagar (id : Nat) : (apagarMensagem c id).Calls fun o => ∀ limite, o.Carimba limite :=
    calls_bind (calls_handle (fixo rfl) fun _ => calls_done ()) fun _ => fixo rfl
  have esvaziar (r : Nat) : (faz (.atribuir c r [.messageIds []])).Calls
      fun o => ∀ limite, o.Carimba limite :=
    (calls_ask _).mpr fun _ t member => by simp at member
  have limpar : (limparMensagensChat c).Calls fun o => ∀ limite, o.Carimba limite := by
    apply calls_handle _ fun _ => calls_done ()
    apply calls_bind
    · apply calls_bind (fixo rfl)
      intro x
      cases x with
      | some r => exact calls_done r
      | none => exact novo
    intro r
    apply calls_bind (calls_handle (fixo rfl) fun _ => calls_done false)
    intro _
    apply calls_bind (fixo rfl)
    intro s
    apply calls_bind (calls_each apagar _)
    intro _
    exact calls_bind (esvaziar r) fun _ => fixo rfl
  apply calls_bind (fixo rfl)
  intro x
  cases x with
  | none => exact calls_done ()
  | some r =>
    apply calls_bind (fixo rfl)
    intro s
    split
    · exact calls_done ()
    · exact limpar

theorem datada_limpeza (chats : List Chat) (h : (m.conversas c).Datada limite) :
    (((each limparChat chats).run Ato.exec m).2.conversas c).Datada limite := by
  have step (x : Ato × Mundo) (member : x ∈ (each limparChat chats).trace Ato.exec m)
      (now : (x.2.conversas c).Datada limite) :
      ((Ato.exec x.1 x.2).2.conversas c).Datada limite :=
    datada_exec (calls_trace (calls_each calls_limparChat chats) m x member limite) now
  exact trace_invariant (fun m' : Mundo => (m'.conversas c).Datada limite) step h

end Eventos
/-- The listeners of one chat, one after the other. -/
theorem atende_chat {c : Chat} {eventos : List Evento} {m : Mundo}
    (chats : ∀ evento ∈ eventos, evento.chat = some c) (boa : ∀ c, Boa (m.conversas c))
    (clock : 0 < m.db.agora) :
    (∀ c, Boa ((m.atende eventos).conversas c)) ∧ (m.atende eventos).db.agora = m.db.agora ∧
      (∀ limite, m.db.agora ≤ limite → (m.conversas c).Datada limite →
        ((m.atende eventos).conversas c).Datada limite) ∧
      ∀ c' ≠ c, (m.atende eventos).conversas c' = m.conversas c' := by
  induction eventos generalizing m with
  | nil => exact ⟨boa, rfl, fun _ _ dated => dated, fun _ _ => rfl⟩
  | cons evento eventos ih =>
    have chat := chats evento List.mem_cons_self
    have now := agora_run evento.tratar m
    obtain ⟨boas, clock', dated, others⟩ := ih
      (fun evento member => chats evento (List.mem_cons_of_mem _ member))
      (portas_evento chat boa).1 (by rw [now]; exact clock)
    refine ⟨boas, clock'.trans now, fun limite le before => ?_, fun c' other => ?_⟩
    · exact dated limite (by rw [now]; exact le) (datada_evento chat boa clock le before)
    · exact (others c' other).trans (alheias_evento chat boa other)

namespace Plantao

variable {p : Plantao}

/-- No session of the day has a later time than its chat's last word. -/
structure Datado (p : Plantao) : Prop where
  boa : ∀ c, Boa (p.mundo.conversas c)
  clock : 0 < p.mundo.db.agora
  ouvido : ∀ c, (p.ultimo c).getD 0 ≤ p.mundo.db.agora
  datada : ∀ c, (p.mundo.conversas c).Datada ((p.ultimo c).getD 0)

theorem datado_inicio {m : Mundo} (clock : 0 < m.db.agora) : (inicio m).Datado where
  boa _ := boa_vazia
  clock := clock
  ouvido _ := Nat.zero_le _
  datada _ _ dated := by cases dated

theorem chat_eventos (a : Chegada) : ∀ evento ∈ a.eventos, evento.chat = some a.chat := by
  cases a <;> simp [Chegada.eventos, Chegada.chat, Evento.chat]

theorem datado_segue (h : p.Datado) (turno : Turno) : (p.segue turno).Datado := by
  cases turno with
  | chega a =>
    obtain ⟨boas, now, dated, others⟩ := atende_chat (chat_eventos a) h.boa h.clock
    refine ⟨boas, by rw [segue, now]; exact h.clock, fun c => ?_, fun c => ?_⟩
    · simp only [segue]
      rw [now]
      split
      · exact Nat.le_refl _
      · exact h.ouvido c
    · simp only [segue]
      split
      next here =>
        subst here
        exact dated _ (Nat.le_refl _) ((h.datada _).mono (h.ouvido _))
      next other =>
        rw [others c other]
        exact h.datada c
  | limpeza chats =>
    have mantem : Mantem semRegra fun _ => True := fun _ _ _ _ _ _ _ _ _ _ => trivial
    have boas := (boa_evento mantem (semRegra_permite p.mundo (.limpeza chats))
      fun c => ⟨h.boa c, trivial⟩).1
    have now : (p.mundo.atende [.limpeza chats]).db.agora = p.mundo.db.agora :=
      agora_run (each limparChat chats) p.mundo
    refine ⟨fun c => (boas c).1, by rw [segue, now]; exact h.clock, fun c => ?_, fun c => ?_⟩
    · simp only [segue]
      rw [now]
      exact h.ouvido c
    · exact datada_limpeza chats (h.datada c)
  | passa dt outros =>
    exact ⟨h.boa, Nat.lt_of_lt_of_le h.clock (Nat.le_add_right _ _),
      fun c => Nat.le_trans (h.ouvido c) (Nat.le_add_right _ _), h.datada⟩

theorem datado_roda (turnos : List Turno) (h : p.Datado) : (p.roda turnos).Datado := by
  induction turnos generalizing p with
  | nil => exact h
  | cons turno turnos ih => exact ih (datado_segue h turno)

/-- A session of the day that has not expired is not over. -/
theorem Datado.valida (h : p.Datado) {c : Chat} {s : Sessao}
    (shown : s ∈ (p.mundo.conversas c).atual) (today : s.data = some (dia p.mundo.db.agora))
    (valid : sessaoExpirada s p.mundo.db.agora = false) : ¬ p.Vencida c := by
  obtain ⟨r, stored, rfl⟩ := Option.map_eq_some_iff.mp shown
  rintro (⟨u, heard, silent⟩ | ⟨s', shown', d, day, before⟩)
  · obtain ⟨t, time, pos, le⟩ := h.datada c r (by rw [today]; rfl)
    have heard' : p.ultimo c = some u := heard
    rw [heard', Option.getD_some] at le
    have time' : ((p.mundo.conversas c).objetos r).lastUpdated = some t := time
    have expired : sessaoExpirada ((p.mundo.conversas c).objetos r) p.mundo.db.agora = true := by
      simp only [sessaoExpirada, time', Option.any_some, decide_eq_true_eq]
      omega
    rw [valid] at expired
    cases expired
  · cases Option.some.inj (shown.symm.trans shown')
    have day' : ((p.mundo.conversas c).objetos r).data = some d := day
    rw [today] at day'
    cases day'
    exact Nat.lt_irrefl _ before

theorem semLogin_getD {k : Conversa} {inicio : Inicio}
    (fora : ∀ s ∈ k.atual, s.SemLogin) : (k.atual.getD inicio.sessao).SemLogin := by
  cases shown : k.atual with
  | none => exact semLogin_novo inicio
  | some s => exact fora s shown

/-- What comes finds the chat logged out exactly if it finds no login where nobody looks. -/
theorem morta_iff (h : p.Datado) (a : Chegada) : p.Morta a ↔ p.Fechada a := by
  cases a with
  | mensagem c x =>
    refine iff_of_true (fun passou s member => ?_) trivial
    have found : s ∈ p.mundo.acha (.mensagem c x) := by
      simpa [Chegada.eventos, Mundo.acham] using member
    rcases acha_mensagem x s found with out | ⟨s', shown, today, valid⟩
    · exact out
    · exact absurd passou (h.valida shown today valid)
  | contato c phoneNumber =>
    by_cases empty : phoneNumber = ""
    · have nothing : p.mundo.acham (Chegada.contato c phoneNumber).eventos = [] := by
        simp [Chegada.eventos, Mundo.acham, Mundo.acha, Evento.comeco, empty]
      refine iff_of_true (fun _ s member => ?_) fun number => absurd empty number
      rw [nothing] at member
      cases member
    · have found : p.mundo.acham (Chegada.contato c phoneNumber).eventos =
          [(p.mundo.conversas c).atual.getD (sessaoDoDia p.mundo.db.agora).sessao] := by
        simp [Chegada.eventos, Mundo.acham, acha_contato empty]
      rw [Morta, Fechada, found]
      constructor
      · intro morta _ passou s shown
        have same : (p.mundo.conversas c).atual = some s := shown
        apply morta passou s
        simp [same]
      · intro fechada passou s member
        rw [List.mem_singleton.mp member]
        exact semLogin_getD (fechada empty passou)
  | botao c data =>
    let depois := p.mundo.atende [.callbackEntrega c data]
    have found : p.mundo.acham (Chegada.botao c data).eventos =
        (p.mundo.conversas c).atual.getD (Inicio.sessao { etapa := some .menu }) ::
          (depois.acha (.callbackChat c data)).toList := by
      simp [Chegada.eventos, Mundo.acham, acha_callbackEntrega, depois]
    rw [Morta, Fechada, found]
    constructor
    · intro morta passou s shown
      have same : (p.mundo.conversas c).atual = some s := shown
      apply morta passou s
      simp [same]
    · intro fechada passou s member
      have fora := fechada passou
      rcases List.mem_cons.mp member with first | second
      · rw [first]
        exact semLogin_getD fora
      · have here : s ∈ depois.acha (.callbackChat c data) := by simpa using second
        rcases acha_callbackChat data s here with out | kept
        · exact out
        · exact semLogin_callbackEntrega data (h.boa c).limite fora s kept

end Plantao

/-- In every run, what comes after the silence finds the chat logged out exactly if no button and
no contact comes after it while the map still shows a login: messages never do harm. -/
theorem ociosaMorta_iff (m : Mundo) (clock : 0 < m.db.agora) (turnos : List Turno) :
    Sempre Plantao.Morta turnos (.inicio m) ↔ Sempre Plantao.Fechada turnos (.inicio m) := by
  apply sempre_congr
  intro antes a
  exact Plantao.morta_iff (Plantao.datado_roda antes (Plantao.datado_inicio clock)) a

def comRelogio : Mundo := { comEntregador with db := { comEntregador.db with agora := 1 } }

/-- A courier gives the personal password, and is silent for sixteen minutes. -/
def logarECalar : List Turno :=
  [.chega (.mensagem 7 { text := "1234".toList }),
    .passa (16 * 60 * 1000) { db := comEntregador.db }]

/-- A message then finds nobody. -/
theorem mensagem_depois_do_silencio :
    Sempre Plantao.Morta (logarECalar ++ [.chega (.mensagem 7 {})]) (.inicio comRelogio) := by
  refine (ociosaMorta_iff comRelogio (by decide) _).mpr fun antes a depois split => ?_
  have arrives : .chega a ∈ logarECalar ++ [.chega (.mensagem 7 {})] := by simp [split]
  cases a with
  | mensagem => trivial
  | _ => simp [logarECalar] at arrives

/-- A button finds the courier logged in, and chooses the sector. -/
theorem not_sempreMorta : ¬ Sempre Plantao.Morta
    (logarECalar ++ [.chega (.botao 7 (some "setor_entrega".toList))]) (.inicio comRelogio) := by
  intro morta
  have found := morta logarECalar (.botao 7 (some "setor_entrega".toList)) [] rfl
    (.inl ⟨1, by decide +kernel, by decide +kernel⟩)
  revert found
  decide +kernel

end IceClube
