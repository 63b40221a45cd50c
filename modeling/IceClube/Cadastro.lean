import IceClube.Execucao

/-! The registration of a chat. Its position is kept half in the row of `usuarios` (the number,
then the password) and half in the session of the map, which says that a password is awaited. -/
namespace IceClube

open Coop Prog

inductive Gesto where
  | mensagem (m : Mensagem)
  | contato (phoneNumber : String)
  deriving DecidableEq, Repr

def Gesto.tratar (c : Chat) : Gesto → Fluxo Unit
  | mensagem m => IceClube.mensagem c m
  | contato phoneNumber => IceClube.contato c phoneNumber

structure Ficha where
  data : Option Nat
  lastUpdated : Option Nat
  cadastroEstado : Option CadastroEstado
  logado : Bool
  deriving DecidableEq, Repr

def Sessao.ficha (s : Sessao) : Ficha := ⟨s.data, s.lastUpdated, s.cadastroEstado, s.logado⟩

/-- The row that `SELECT … WHERE chat_id = ?` answers. -/
def Db.usuarioDe (c : Chat) (db : Db) : Option (Nat × Usuario) :=
  db.usuarios.rows.find? fun u => u.2.chatId = c

/-- The chat has a row and none of its rows has a password. -/
structure SemSenha (c : Chat) (db : Db) : Prop where
  existe : (db.usuarioDe c).isSome
  nenhuma : ∀ row ∈ db.usuarios.rows, row.2.chatId = c → row.2.senha = none

namespace Mundo

def espera (dt : Nat) (m : Mundo) : Mundo :=
  { m with db := { m.db with agora := m.db.agora + dt } }

def apos (c : Chat) : List (Nat × Gesto) → Mundo → Mundo
  | [], m => m
  | (dt, gesto) :: resto, m => apos c resto ((gesto.tratar c).run Ato.exec (m.espera dt)).2

def sessaoDeHoje (c : Chat) (m : Mundo) : Sessao :=
  match (m.conversas c).atual with
  | some s => if s.data = some (dia m.db.agora) then s else (sessaoDoDia m.db.agora).sessao
  | none => (sessaoDoDia m.db.agora).sessao

end Mundo

def Concluido (c : Chat) (m : Mundo) : Prop :=
  ∃ id u s, m.db.usuarioDe c = some (id, u) ∧ u.senha.isSome ∧
    (m.conversas c).atual = some s ∧ s.logado = true

/-- Messages and contacts of the chat alone can finish the registration, once statements are
answered in time again. -/
def Conclui (c : Chat) (m : Mundo) : Prop :=
  ∃ gestos, Concluido c ((m.comFalhas []).apos c gestos)

/-- At the instant `t` the session of the map would take a text for the password. -/
def Vale (c : Chat) (m : Mundo) (t : Nat) : Prop :=
  ∃ s, (m.conversas c).atual = some s ∧ s.cadastroEstado = some .aguardandoSenha ∧
    s.data = some (dia t) ∧ sessaoExpirada s t = false

/-- The number is missing, or the session awaits the password, now or once time goes by. -/
def Aberta (c : Chat) (m : Mundo) : Prop :=
  (∀ id u, m.db.usuarioDe c = some (id, u) → u.numero.getD "" = "") ∨
    ∃ t, m.db.agora ≤ t ∧ Vale c m t

def atender (c : Chat) (r : Nat) (m : Mensagem) : Fluxo Unit := do
  match ← consultarUsuario c with
  | none => pure ()
  | some none => novoUsuario c r m
  | some (some (id, usuario)) => usuarioCadastrado c r m id usuario

def avisoExpirada : String := "🕒 *Sessão expirada. Envie sua senha pessoal para continuar.*"

section Inicio

variable {c : Chat}

theorem run_sync {α : Type} {o : Ato} (f : o.Res → Fluxo α) (sync : o.sync = true) (m : Mundo) :
    (faz o >>= f).run Ato.exec m =
      ((answered (o.sem m).1 : Fluxo o.Res) >>= f).run Ato.exec (o.sem m).2 := by
  have fixed : o.infalivel = true := by cases o <;> first | rfl | cases sync
  change Prog.run Ato.exec ((answered (o.exec m).1 : Fluxo o.Res) >>= f) (o.exec m).2 = _
  rw [Ato.exec_infalivel fixed]

theorem run_obter {α : Type} (inicio : Inicio) (f : Nat → Fluxo α) (m : Mundo) :
    (obter c inicio >>= f).run Ato.exec m =
      match (m.conversas c).sessao with
      | some r => (f r).run Ato.exec m
      | none => (f (m.conversas c).proximo).run Ato.exec (m.conversa c (·.cria inicio)) := by
  rw [obter, bind_assoc, run_sync _ rfl]
  simp only [Ato.sem, answered_ok, bind_done]
  cases (m.conversas c).sessao with
  | some r => rfl
  | none =>
    change Prog.run Ato.exec (faz (.novo c inicio) >>= f) m = _
    rw [run_sync _ rfl]
    rfl

/-- What was computed of the session does not depend on the identifiers of messages. -/
theorem ficha_pushMessageIds (ids : List Nat) (s : Sessao) :
    (s.atribuirTodos (ids.map Campo.pushMessageId)).ficha = s.ficha := by
  induction ids generalizing s with
  | nil => rfl
  | cons id ids ih =>
    rw [List.map_cons, Sessao.atribuirTodos_cons, ih]
    rfl

/-- The handler up to its query: it reports an expired session, or goes on with a session of
the day that is stored in the map. -/
theorem run_mensagemNaSessao (r : Nat) (m : Mensagem) (w : Mundo) :
    ∃ w', w'.db = w.db ∧ w'.falhas = w.falhas ∧
      if sessaoExpirada ((w.conversas c).objetos r) w.db.agora then
        (mensagemNaSessao c r w.db.agora m).run Ato.exec w =
          (enviarMensagem c avisoExpirada).run Ato.exec w' ∧ (w'.conversas c).sessao = none
      else
        (mensagemNaSessao c r w.db.agora m).run Ato.exec w = (atender c r m).run Ato.exec w' ∧
          (w'.conversas c).sessao = some r ∧
          ((w'.conversas c).objetos r).ficha =
            { ((w.conversas c).objetos r).ficha with lastUpdated := some w.db.agora } := by
  rw [mensagemNaSessao, run_sync _ rfl]
  simp only [Ato.sem, answered_ok, bind_done]
  split
  next expired =>
    rw [run_sync _ rfl]
    exact ⟨w.conversa c (·.apaga .expirada), rfl, rfl, rfl, by simp [Conversa.apaga]⟩
  next valid =>
    rw [run_sync _ rfl]
    simp only [Ato.sem, answered_ok, bind_done]
    rw [run_sync _ rfl]
    let stored := (w.conversa c (·.atribui r [.lastUpdated w.db.agora])).conversa c (·.guarda r)
    exact ⟨stored, rfl, rfl, rfl, by simp [stored], by simp [stored, Sessao.ficha, Sessao.atribuir]⟩

/-- A new session of the day has the fields of a new session of the day. -/
theorem run_sessaoDeHoje {α : Type} (f : Nat → Fluxo α) (r : Nat) (w : Mundo) :
    ∃ r' w', (sessaoDeHoje c w.db.agora r >>= f).run Ato.exec w = (f r').run Ato.exec w' ∧
      w'.db = w.db ∧ w'.falhas = w.falhas ∧
      (w'.conversas c).objetos r' =
        if ((w.conversas c).objetos r).data = some (dia w.db.agora) then (w.conversas c).objetos r
        else (sessaoDoDia w.db.agora).sessao := by
  rw [sessaoDeHoje, bind_assoc, run_sync _ rfl]
  simp only [Ato.sem, answered_ok, bind_done, ne_eq, ite_not]
  split
  next today => exact ⟨r, w, rfl, rfl, rfl, rfl⟩
  next stale =>
    rw [run_sync _ rfl]
    exact ⟨_, w.conversa c (·.cria (sessaoDoDia w.db.agora)), rfl, rfl, rfl, by simp⟩

theorem run_mensagem (m : Mensagem) (w : Mundo) :
    ∃ w', w'.db = w.db ∧ w'.falhas = w.falhas ∧
      if sessaoExpirada (w.sessaoDeHoje c) w.db.agora then
        (mensagem c m).run Ato.exec w = (enviarMensagem c avisoExpirada).run Ato.exec w' ∧
          (w'.conversas c).sessao = none
      else ∃ r,
        (mensagem c m).run Ato.exec w = (atender c r m).run Ato.exec w' ∧
          (w'.conversas c).sessao = some r ∧
          ((w'.conversas c).objetos r).ficha =
            { (w.sessaoDeHoje c).ficha with lastUpdated := some w.db.agora } := by
  -- the message's identifier is stored in the session the map gives, or in a new one
  have received : ∃ r w', (mensagem c m).run Ato.exec w = (do
        let r ← sessaoDeHoje c w.db.agora r
        mensagemNaSessao c r w.db.agora m).run Ato.exec w' ∧ w'.db = w.db ∧ w'.falhas = w.falhas ∧
      ((w'.conversas c).objetos r).ficha =
        ((w.conversas c).atual.getD (sessaoDoDia w.db.agora).sessao).ficha := by
    rw [mensagem, run_sync _ rfl]
    simp only [Ato.sem, answered_ok, bind_done]
    rw [run_obter]
    let recebida (r : Nat) (w : Mundo) : Mundo :=
      w.conversa c (·.atribui r (m.messageId.toList.map Campo.pushMessageId))
    cases found : (w.conversas c).sessao with
    | some r =>
      simp only
      rw [run_sync _ rfl]
      exact ⟨r, recebida r w, rfl, rfl, rfl, by
        simp [recebida, Conversa.atual, found, ficha_pushMessageIds]⟩
    | none =>
      simp only
      rw [run_sync _ rfl]
      let criado := w.conversa c (·.cria (sessaoDoDia w.db.agora))
      exact ⟨_, recebida (w.conversas c).proximo criado, rfl, rfl, rfl, by
        simp [recebida, criado, Conversa.atual, found, ficha_pushMessageIds]⟩
  obtain ⟨r, received, run, db, faults, kept⟩ := received
  have today := run_sessaoDeHoje (c := c) (fun r => mensagemNaSessao c r w.db.agora m) r received
  rw [db] at today
  obtain ⟨r', fresh, run', db', faults', session⟩ := today
  have ficha : ((fresh.conversas c).objetos r').ficha = (w.sessaoDeHoje c).ficha := by
    rw [session, Mundo.sessaoDeHoje]
    have data := congrArg Ficha.data kept
    simp only [Sessao.ficha] at data
    rw [data]
    cases found : (w.conversas c).atual with
    | none =>
      rw [found, Option.getD_none] at kept
      split
      · exact kept
      · rfl
    | some s =>
      rw [found, Option.getD_some] at kept
      simp only [Option.getD_some]
      split
      · exact kept
      · rfl
  have expired : sessaoExpirada ((fresh.conversas c).objetos r') w.db.agora =
      sessaoExpirada (w.sessaoDeHoje c) w.db.agora := by
    have time := congrArg Ficha.lastUpdated ficha
    simp only [Sessao.ficha] at time
    simp only [sessaoExpirada, time]
  have rest := run_mensagemNaSessao (c := c) r' m fresh
  rw [db', expired, ficha] at rest
  obtain ⟨final, db'', faults'', rest⟩ := rest
  refine ⟨final, db'', by rw [faults'', faults', faults], ?_⟩
  rw [run, run']
  split
  next old => rwa [if_pos old] at rest
  next valid =>
    rw [if_neg valid] at rest
    exact ⟨r', rest⟩

end Inicio

section Calma

variable {c : Chat}

theorem run_calmo {α : Type} {o : Ato} (f : o.Res → Fluxo α) {m : Mundo} (calm : m.falhas = []) :
    (faz o >>= f).run Ato.exec m =
      ((answered (o.sem m).1 : Fluxo o.Res) >>= f).run Ato.exec (o.sem m).2 := by
  change Prog.run Ato.exec ((answered (o.exec m).1 : Fluxo o.Res) >>= f) (o.exec m).2 = _
  rw [Ato.exec_calmo o calm]

/-- The world is calm, and the session of the map has these fields. -/
structure Guarda (c : Chat) (db : Db) (f : Ficha) (m : Mundo) : Prop where
  calmo : m.falhas = []
  db : m.db = db
  ficha : (m.conversas c).atual.map Sessao.ficha = some f

/-- A session with nothing but the identifiers of messages. -/
def semDados : Ficha := ⟨none, none, none, false⟩

/-- A message to the chat goes into its session, or into a new one without a day. -/
theorem run_enviarMensagem (texto : String) {m : Mundo} (calm : m.falhas = []) :
    ∃ m', (enviarMensagem c texto).run Ato.exec m = (.ok (), m') ∧
      Guarda c m.db (((m.conversas c).atual.map Sessao.ficha).getD semDados) m' := by
  rw [enviarMensagem, run_handle, run_calmo _ calm]
  simp only [Ato.sem, answered_ok, bind_done]
  rw [run_obter]
  have same : m.seguinte.conversas = m.conversas := rfl
  let guardada (r id : Nat) (w : Mundo) : Mundo :=
    (w.conversa c (·.atribui r [.pushMessageId id])).conversa c (·.guarda r)
  rw [same]
  cases found : (m.conversas c).sessao with
  | some r =>
    simp only
    rw [run_sync _ rfl]
    refine ⟨guardada r m.sorte.numero m.seguinte, rfl, calm, rfl, ?_⟩
    simp [guardada, same, Conversa.atual, found, Sessao.ficha, Sessao.atribuir]
  | none =>
    simp only
    rw [run_sync _ rfl]
    let criado := m.seguinte.conversa c (·.cria {})
    refine ⟨guardada (m.conversas c).proximo m.sorte.numero criado, rfl, calm, rfl, ?_⟩
    simp [guardada, criado, same, Conversa.atual, found, Sessao.ficha, Sessao.atribuir,
      Inicio.sessao, semDados]

/-- What the message handler does with a registered chat's text. -/
def seguirCadastro (c : Chat) (r : Nat) (m : Mensagem) (usuario : Usuario) (f : Ficha) :
    Fluxo Unit :=
  if usuario.senha.getD "" = "" ∧ f.cadastroEstado = some .aguardandoSenha then definirSenha c r m
  else if usuario.numero.getD "" = "" then do
    solicitarNumeroTelefone c
    enviarMensagem c "❗ *Compartilhe seu número de telefone antes de definir a senha.*"
  else if !f.logado then verificarSenha c r m
  else usuarioLogado c r m

structure Em (c : Chat) (r : Nat) (db : Db) (f : Ficha) (m : Mundo) : Prop where
  calmo : m.falhas = []
  db : m.db = db
  sessao : (m.conversas c).sessao = some r
  ficha : ((m.conversas c).objetos r).ficha = f

theorem Em.guarda {r : Nat} {db : Db} {f : Ficha} {m : Mundo} (here : Em c r db f m) :
    Guarda c db f m :=
  ⟨here.calmo, here.db, by simp [Conversa.atual, here.sessao, here.ficha]⟩

def Mundo.grava (c : Chat) (r : Nat) (campos : List Campo) (m : Mundo) : Mundo :=
  (m.conversa c (·.atribui r campos)).conversa c (·.guarda r)

theorem run_grava {α : Type} (r : Nat) (campos : List Campo) (k : Fluxo α) (w : Mundo) :
    (faz (.atribuir c r campos) >>= fun _ => faz (.set c r) >>= fun _ => k).run Ato.exec w =
      k.run Ato.exec (w.grava c r campos) := by
  rw [run_sync _ rfl]
  simp only [Ato.sem, answered_ok, bind_done]
  rw [run_sync _ rfl]
  rfl

theorem em_grava {r : Nat} {campos : List Campo} {db : Db} {f : Ficha} {w : Mundo}
    (calm : w.falhas = []) (same : w.db = db)
    (kept : (((w.conversas c).objetos r).atribuirTodos campos).ficha = f) :
    Em c r db f (w.grava c r campos) :=
  ⟨calm, same, by simp [Mundo.grava], by simp [Mundo.grava, kept]⟩

def Mundo.aplica (c : Chat) (q : SqlBot) (m : Mundo) : Mundo :=
  let estado := (m.conversas c).atual.bind (·.cadastroEstado)
  { m.conversa c (·.anota (q.fatos estado m.db)) with db := (q.sem m.db).2 }

section Aplica

variable (q : SqlBot) (m : Mundo)

@[simp] theorem falhas_aplica : (m.aplica c q).falhas = m.falhas := rfl
@[simp] theorem db_aplica : (m.aplica c q).db = (q.sem m.db).2 := rfl
@[simp] theorem sessao_aplica :
    ((m.aplica c q).conversas c).sessao = (m.conversas c).sessao := by simp [Mundo.aplica]
@[simp] theorem objetos_aplica :
    ((m.aplica c q).conversas c).objetos = (m.conversas c).objetos := by simp [Mundo.aplica]

end Aplica

theorem run_consulta {α : Type} {q : SqlBot} (f : q.Res → Fluxo α) {w : Mundo}
    (calm : w.falhas = []) (accepted : q.recusa = none) :
    (consulta c q >>= f).run Ato.exec w = (f (q.sem w.db).1).run Ato.exec (w.aplica c q) := by
  rw [consulta, run_calmo _ calm]
  simp only [Ato.sem, accepted]
  rfl

theorem run_atender {r id : Nat} {db : Db} {f : Ficha} {u : Usuario} {w : Mundo} (m : Mensagem)
    (here : Em c r db f w) (row : db.usuarioDe c = some (id, u)) :
    ∃ w', (atender c r m).run Ato.exec w = (seguirCadastro c r m u f).run Ato.exec w' ∧
      Em c r db f w' := by
  have user : (consultarUsuario c).run Ato.exec w =
      (.ok (some (some (id, u))), w.aplica c (.selectUsuario c)) := by
    rw [consultarUsuario, run_handle, run_consulta _ here.calmo rfl, here.db]
    change (Except.ok (some (db.usuarioDe c)), _) = _
    rw [row]
  rw [atender, run_bind, user]
  simp only
  rw [usuarioCadastrado, run_grava, run_sync _ rfl]
  let campos : List Campo := [.usuarioId (some id), .cargo u.cargo, .nome u.nome]
  have kept : ((((w.aplica c (.selectUsuario c)).conversas c).objetos r).atribuirTodos campos).ficha
      = f := by
    rw [← here.ficha, objetos_aplica]
    rfl
  have after : Em c r db f ((w.aplica c (.selectUsuario c)).grava c r campos) :=
    em_grava here.calmo here.db kept
  refine ⟨_, ?_, after⟩
  rw [seguirCadastro, ← after.ficha]
  rfl

theorem usuarioDe_alterarUsuario (db : Db) {g : Usuario → Usuario}
    (chat : ∀ u, (g u).chatId = u.chatId) :
    (db.alterarUsuario c g).usuarioDe c = (db.usuarioDe c).map fun row => (row.1, g row.2) := by
  simp only [Db.usuarioDe, Db.alterarUsuario, Table.rows_alter, List.find?_map]
  have same : ((fun u : Nat × Usuario => decide (u.2.chatId = c)) ∘ fun row : Nat × Usuario =>
      (row.1, if row.2.chatId = c then g row.2 else row.2)) =
      fun u => decide (u.2.chatId = c) := by
    funext row
    simp only [Function.comp_apply]
    split
    next own => rw [chat]
    next => rfl
  rw [same]
  cases found : db.usuarios.rows.find? fun u => decide (u.2.chatId = c) with
  | none => rfl
  | some row =>
    have own : row.2.chatId = c := by simpa using List.find?_some found
    simp [own]

theorem run_solicitar {w : Mundo} {db : Db} {f : Ficha} (calm : Guarda c db f w) :
    ∃ w', (solicitarNumeroTelefone c).run Ato.exec w = (.ok (), w') ∧ Guarda c db f w' := by
  rw [solicitarNumeroTelefone, run_handle, run_calmo _ calm.calmo]
  exact ⟨w.seguinte, rfl, calm.calmo, calm.db, calm.ficha⟩

theorem run_aviso {w : Mundo} {db : Db} {f : Ficha} (texto : String) (calm : Guarda c db f w) :
    ∃ w', (enviarMensagem c texto).run Ato.exec w = (.ok (), w') ∧ Guarda c db f w' := by
  obtain ⟨w', run, after⟩ := run_enviarMensagem (c := c) texto calm.calmo
  rw [calm.db, calm.ficha] at after
  exact ⟨w', run, after⟩

/-- Without a number, a short text changes nothing. -/
theorem run_seguirSemNumero {r : Nat} {db : Db} {f : Ficha} {u : Usuario} {w : Mundo}
    {m : Mensagem} (short : m.text.length < 4) (number : u.numero.getD "" = "")
    (here : Em c r db f w) :
    Guarda c db f ((seguirCadastro c r m u f).run Ato.exec w).2 := by
  rw [seguirCadastro]
  split
  · rw [definirSenha, if_pos short]
    obtain ⟨w', run, after⟩ := run_aviso "❗ *A senha deve ter pelo menos 4 caracteres.*" here.guarda
    rwa [run]
  · obtain ⟨w₁, asked, after⟩ := run_solicitar here.guarda
    rw [run_bind, asked]
    obtain ⟨w₂, told, after⟩ := run_aviso
      "❗ *Compartilhe seu número de telefone antes de definir a senha.*" after
    simp only [told]
    exact after

theorem Guarda.concluido {db : Db} {f : Ficha} {w : Mundo} {id : Nat} {u : Usuario}
    (after : Guarda c db f w) (row : db.usuarioDe c = some (id, u)) (password : u.senha.isSome)
    (logged : f.logado = true) : Concluido c w := by
  obtain ⟨s, session, same⟩ := Option.map_eq_some_iff.mp after.ficha
  refine ⟨id, u, s, by rw [after.db, row], password, session, ?_⟩
  rw [← logged, ← same]
  rfl

/-- A menu is at most one message. -/
theorem run_enviarMenuSetores {db : Db} {f : Ficha} {w : Mundo} (cargo : Option Cargo)
    (here : Guarda c db f w) :
    ∃ w', (enviarMenuSetores c cargo).run Ato.exec w = (.ok (), w') ∧ Guarda c db f w' := by
  unfold enviarMenuSetores
  split
  · exact run_aviso _ here
  · exact run_aviso _ here
  · exact run_aviso _ here
  · exact run_aviso _ here
  · exact ⟨w, rfl, here⟩

theorem run_definirSenha {r id : Nat} {db : Db} {f : Ficha} {u : Usuario} {w : Mundo}
    {m : Mensagem} (long : 4 ≤ m.text.length) (here : Em c r db f w)
    (row : db.usuarioDe c = some (id, u)) :
    Concluido c ((definirSenha c r m).run Ato.exec w).2 := by
  rw [definirSenha, if_neg (by omega), run_handle, run_consulta _ here.calmo rfl, run_sync _ rfl]
  simp only [Ato.sem, answered_ok, bind_done]
  rw [run_grava, run_sync _ rfl]
  simp only [Ato.sem, answered_ok, bind_done]
  let saved := w.aplica c (.updateSenha c m.text)
  let campos : List Campo := [.logado true, .cadastroEstado none, .lastUpdated saved.db.agora]
  have after : Em c r saved.db { f with
      logado := true, cadastroEstado := none, lastUpdated := some saved.db.agora }
      (saved.grava c r campos) :=
    em_grava here.calmo rfl (by rw [← here.ficha, objetos_aplica]; rfl)
  obtain ⟨w₂, told, final⟩ :=
    run_enviarMenuSetores (((saved.grava c r campos).conversas c).objetos r).cargo after.guarda
  rw [told]
  have password : saved.db.usuarioDe c = some (id, { u with senha := some (db.sha2 m.text) }) := by
    rw [db_aplica, here.db]
    change (db.alterarUsuario c fun u => { u with senha := some (db.sha2 m.text) }).usuarioDe c = _
    refine (usuarioDe_alterarUsuario db ?_).trans ?_
    · exact fun _ => rfl
    · rw [row, Option.map_some]
  exact final.concluido password rfl rfl

theorem run_contato {db : Db} {f : Ficha} {id : Nat} {u : Usuario} {w : Mundo} {numero : String}
    (given : numero ≠ "") (here : Guarda c db f w) (row : db.usuarioDe c = some (id, u))
    (number : u.numero.getD "" = "") :
    ∃ db', db'.usuarioDe c = some (id, { u with numero := some numero }) ∧ db'.agora = db.agora ∧
      Guarda c db' { f with cadastroEstado := some .aguardandoSenha, lastUpdated := some db.agora }
        ((contato c numero).run Ato.exec w).2 := by
  rw [contato, if_neg given, run_sync _ rfl]
  simp only [Ato.sem, answered_ok, bind_done]
  obtain ⟨s, session, same⟩ := Option.map_eq_some_iff.mp here.ficha
  obtain ⟨r, inMap, rfl⟩ := Option.map_eq_some_iff.mp session
  rw [run_obter, inMap]
  simp only
  rw [run_handle, run_consulta _ here.calmo rfl]
  have answer : ((SqlBot.selectUsuario c).sem w.db).1 = some (id, u) := by
    rw [here.db]
    exact row
  simp only [answer, number, ne_eq, not_true_eq_false, if_false]
  rw [run_consulta (w := w.aplica c (.selectUsuario c)) _ here.calmo rfl, run_sync _ rfl]
  simp only [Ato.sem, answered_ok, bind_done]
  rw [run_grava]
  let saved := (w.aplica c (.selectUsuario c)).aplica c (.updateNumero c numero)
  let campos : List Campo := [.usuarioId (some id), .cadastroEstado (some .aguardandoSenha),
    .lastUpdated saved.db.agora]
  have time : saved.db.agora = db.agora := by
    change w.db.agora = db.agora
    rw [here.db]
  have after : Em c r saved.db
      { f with cadastroEstado := some .aguardandoSenha, lastUpdated := some db.agora }
      (saved.grava c r campos) :=
    em_grava here.calmo rfl (by rw [← same, ← time]; simp [saved]; rfl)
  refine ⟨saved.db, ?_, time, ?_⟩
  · change (w.db.alterarUsuario c fun u => { u with numero := some numero }).usuarioDe c = _
    refine (usuarioDe_alterarUsuario w.db ?_).trans ?_
    · exact fun _ => rfl
    · rw [here.db, row, Option.map_some]
  · obtain ⟨w', told, final⟩ := run_aviso (
      s!"✅ *Número {numero} salvo com sucesso!* Agora, envie sua " ++
        "*senha pessoal* (mínimo 4 caracteres).") after.guarda
    rw [told]
    exact final

end Calma
end IceClube
