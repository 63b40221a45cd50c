import IceClube.Cadastro

/-! When the registration can be finished. While the number is missing the chat can send it
again; once it is stored, only a session that still awaits the password takes one. -/
namespace IceClube

open Coop Prog

section Gestos

variable {c : Chat}

theorem data_sessaoDeHoje (w : Mundo) : (w.sessaoDeHoje c).data = some (dia w.db.agora) := by
  rw [Mundo.sessaoDeHoje]
  split
  · split
    next today => exact today
    next => rfl
  · rfl

theorem expirada_ficha {s s' : Sessao} (same : s.ficha.lastUpdated = s'.ficha.lastUpdated)
    (t : Nat) : sessaoExpirada s t = sessaoExpirada s' t := by
  simp only [Sessao.ficha] at same
  simp only [sessaoExpirada, same]

/-- A message of a registered chat in a calm world: its session is deleted, or the handler
goes on with the row. -/
theorem run_mensagemCadastrada {id : Nat} {u : Usuario} {w : Mundo} (m : Mensagem)
    (calm : w.falhas = []) (row : w.db.usuarioDe c = some (id, u)) :
    (sessaoExpirada (w.sessaoDeHoje c) w.db.agora = true ∧
      Guarda c w.db semDados ((mensagem c m).run Ato.exec w).2) ∨
    sessaoExpirada (w.sessaoDeHoje c) w.db.agora = false ∧ ∃ r w',
      (mensagem c m).run Ato.exec w = (seguirCadastro c r m u
        { (w.sessaoDeHoje c).ficha with lastUpdated := some w.db.agora }).run Ato.exec w' ∧
      Em c r w.db { (w.sessaoDeHoje c).ficha with lastUpdated := some w.db.agora } w' := by
  obtain ⟨w₁, db, faults, rest⟩ := run_mensagem (c := c) m w
  cases expired : sessaoExpirada (w.sessaoDeHoje c) w.db.agora with
  | true =>
    left
    rw [expired] at rest
    obtain ⟨run, noSession⟩ := rest
    obtain ⟨w₂, told, after⟩ := run_enviarMensagem (c := c) avisoExpirada (faults.trans calm)
    rw [db, Conversa.atual, noSession] at after
    rw [run, told]
    exact ⟨rfl, after⟩
  | false =>
    right
    rw [expired] at rest
    obtain ⟨r, run, session, fields⟩ := rest
    obtain ⟨w₂, went, here⟩ := run_atender m ⟨faults.trans calm, db, session, fields⟩ row
    exact ⟨rfl, r, w₂, run.trans went, here⟩

def curta : Mensagem := { text := "oi".toList }

def senhaPessoal : Mensagem := { text := "1234".toList }

/-- What a short text leaves without a number: a session of today that was just used, or one
without a day. -/
theorem guarda_curta {db : Db} {id : Nat} {u : Usuario} {w : Mundo} (calm : w.falhas = [])
    (same : w.db = db) (row : db.usuarioDe c = some (id, u)) (number : u.numero.getD "" = "") :
    ∃ f, Guarda c db f ((mensagem c curta).run Ato.exec w).2 ∧
      (f = semDados ∨ f.data = some (dia db.agora) ∧ f.lastUpdated = some db.agora) := by
  subst same
  rcases run_mensagemCadastrada curta calm row with ⟨-, after⟩ | ⟨-, r, w', run, here⟩
  · exact ⟨_, after, .inl rfl⟩
  · rw [run]
    refine ⟨_, run_seguirSemNumero (by decide) number here, .inr ⟨?_, rfl⟩⟩
    exact data_sessaoDeHoje w

theorem agora_naoExpirada {s : Sessao} {t : Nat} (used : s.ficha.lastUpdated = some t) :
    sessaoExpirada s t = false := by
  simp only [Sessao.ficha] at used
  simp [sessaoExpirada, used]

theorem guarda_curta_curta {db : Db} {f : Ficha} {id : Nat} {u : Usuario} {w : Mundo}
    (here : Guarda c db f w) (row : db.usuarioDe c = some (id, u))
    (number : u.numero.getD "" = "")
    (recent : f = semDados ∨ f.data = some (dia db.agora) ∧ f.lastUpdated = some db.agora) :
    ∃ f', Guarda c db f' ((mensagem c curta).run Ato.exec w).2 ∧
      f'.data = some (dia db.agora) ∧ f'.lastUpdated = some db.agora := by
  obtain ⟨s, session, fields⟩ := Option.map_eq_some_iff.mp here.ficha
  have used : (w.sessaoDeHoje c).ficha.lastUpdated = some w.db.agora := by
    rw [Mundo.sessaoDeHoje, session]
    simp only
    split
    next today =>
      rw [fields, here.db]
      rcases recent with rfl | ⟨_, used⟩
      · have none : s.data = none := congrArg Ficha.data fields
        rw [none] at today
        contradiction
      · exact used
    next => rfl
  have valid := agora_naoExpirada used
  obtain rfl := here.db
  rcases run_mensagemCadastrada curta here.calmo row with ⟨expired, -⟩ | ⟨-, r, w', run, there⟩
  · rw [valid] at expired
    contradiction
  · rw [run]
    exact ⟨_, run_seguirSemNumero (by decide) number there, data_sessaoDeHoje w, rfl⟩

/-- A text sent while the session awaits the password finishes the registration. -/
theorem concluido_senha {id : Nat} {u : Usuario} {w : Mundo} (calm : w.falhas = [])
    (row : w.db.usuarioDe c = some (id, u)) (missing : u.senha = none)
    (valid : Vale c w w.db.agora) : Concluido c ((mensagem c senhaPessoal).run Ato.exec w).2 := by
  obtain ⟨s, session, awaiting, today, fresh⟩ := valid
  have same : w.sessaoDeHoje c = s := by
    rw [Mundo.sessaoDeHoje, session]
    exact if_pos today
  rcases run_mensagemCadastrada senhaPessoal calm row with ⟨expired, -⟩ | ⟨-, r, w', run, here⟩
  · rw [same, fresh] at expired
    contradiction
  · rw [run, seguirCadastro, if_pos ⟨by rw [missing]; rfl, by rw [same]; exact awaiting⟩]
    exact run_definirSenha (by decide) here row

theorem usuarioDe_rows {db : Db} {id : Nat} {u : Usuario} (row : db.usuarioDe c = some (id, u)) :
    (id, u) ∈ db.usuarios.rows ∧ u.chatId = c :=
  ⟨List.mem_of_find?_eq_some row, by simpa using List.find?_some row⟩

theorem Mundo.espera_zero (m : Mundo) : m.espera 0 = m := rfl

theorem conclui_semNumero {id : Nat} {u : Usuario} {m : Mundo}
    (row : m.db.usuarioDe c = some (id, u)) (missing : u.senha = none)
    (number : u.numero.getD "" = "") : Conclui c m := by
  refine ⟨[(0, .mensagem curta), (0, .mensagem curta), (0, .contato "0"),
    (0, .mensagem senhaPessoal)], ?_⟩
  obtain ⟨f₁, first, recent⟩ := guarda_curta (w := m.comFalhas []) rfl rfl row number
  obtain ⟨f₂, second, today, used⟩ := guarda_curta_curta first row number recent
  obtain ⟨db, row', time, third⟩ := run_contato (show "0" ≠ "" by decide) second row number
  obtain ⟨s, session, fields⟩ := Option.map_eq_some_iff.mp third.ficha
  simp only [Mundo.apos, Gesto.tratar, Mundo.espera_zero]
  refine concluido_senha (u := { u with numero := some "0" }) third.calmo
    (by rw [third.db, row']) missing
    ⟨s, session, congrArg Ficha.cadastroEstado fields, ?_, ?_⟩
  · rw [third.db, time, ← today]
    exact congrArg Ficha.data fields
  · rw [third.db, time]
    exact agora_naoExpirada (by rw [fields])

theorem conclui_vale {id : Nat} {u : Usuario} {m : Mundo} {t : Nat}
    (row : m.db.usuarioDe c = some (id, u)) (missing : u.senha = none)
    (later : m.db.agora ≤ t) (valid : Vale c m t) : Conclui c m := by
  refine ⟨[(t - m.db.agora, .mensagem senhaPessoal)], ?_⟩
  have time : ((m.comFalhas []).espera (t - m.db.agora)).db.agora = t :=
    Nat.add_sub_cancel' later
  simp only [Mundo.apos, Gesto.tratar]
  refine concluido_senha (w := (m.comFalhas []).espera (t - m.db.agora)) rfl row missing ?_
  rw [time]
  exact valid

theorem conclui_of_aberta {m : Mundo} (missing : SemSenha c m.db) (opened : Aberta c m) :
    Conclui c m := by
  obtain ⟨⟨id, u⟩, row⟩ := Option.isSome_iff_exists.mp missing.existe
  have password : u.senha = none := missing.nenhuma (id, u) (usuarioDe_rows row).1 (usuarioDe_rows row).2
  rcases opened with noNumber | ⟨t, later, valid⟩
  · exact conclui_semNumero row password (noNumber id u row)
  · exact conclui_vale row password later valid

end Gestos

section Presa

variable {c : Chat}

/-- The number is stored, and no text will be taken for the password. -/
structure Presa (c : Chat) (m : Mundo) : Prop where
  calmo : m.falhas = []
  semSenha : SemSenha c m.db
  comNumero : ∀ id u, m.db.usuarioDe c = some (id, u) → u.numero.getD "" ≠ ""
  deslogada : ∀ s, (m.conversas c).atual = some s → s.logado = false
  fechada : ∀ t, m.db.agora ≤ t → ¬ Vale c m t

theorem presa_guarda {db : Db} {f : Ficha} {m w : Mundo} (stuck : Presa c m) (same : m.db = db)
    (after : Guarda c db f w) (out : f.logado = false)
    (closed : f.cadastroEstado ≠ some .aguardandoSenha) : Presa c w := by
  obtain ⟨s, session, fields⟩ := Option.map_eq_some_iff.mp after.ficha
  have database : w.db = m.db := after.db.trans same.symm
  refine ⟨after.calmo, by rw [database]; exact stuck.semSenha,
    by rw [database]; exact stuck.comNumero, ?_, ?_⟩
  · intro s' session'
    obtain rfl := Option.some.inj (session.symm.trans session')
    rw [← fields] at out
    exact out
  · rintro t - ⟨s', session', awaiting, -⟩
    obtain rfl := Option.some.inj (session.symm.trans session')
    rw [← fields] at closed
    exact closed awaiting

theorem presa_espera (dt : Nat) {m : Mundo} (stuck : Presa c m) : Presa c (m.espera dt) := by
  refine ⟨stuck.calmo, ⟨stuck.semSenha.existe, stuck.semSenha.nenhuma⟩, stuck.comNumero,
    stuck.deslogada, ?_⟩
  intro t later valid
  exact stuck.fechada t (Nat.le_trans (Nat.le_add_right ..) later) valid

/-- A world with the same database and the same fields of the session is stuck too. -/
theorem presa_igual {m w : Mundo} (stuck : Presa c m) (calm : w.falhas = []) (same : w.db = m.db)
    (fields : (w.conversas c).atual.map Sessao.ficha = (m.conversas c).atual.map Sessao.ficha) :
    Presa c w := by
  have before {s : Sessao} (session : (w.conversas c).atual = some s) :
      ∃ s', (m.conversas c).atual = some s' ∧ s'.ficha = s.ficha := by
    rw [session] at fields
    exact Option.map_eq_some_iff.mp fields.symm
  refine ⟨calm, by rw [same]; exact stuck.semSenha, by rw [same]; exact stuck.comNumero, ?_, ?_⟩
  · intro s session
    obtain ⟨s', session', equal⟩ := before session
    exact (congrArg Ficha.logado equal).symm.trans (stuck.deslogada s' session')
  · rintro t later ⟨s, session, awaiting, today, fresh⟩
    obtain ⟨s', session', equal⟩ := before session
    rw [same] at later
    refine stuck.fechada t later ⟨s', session', ?_, ?_, ?_⟩
    · exact (congrArg Ficha.cadastroEstado equal).trans awaiting
    · exact (congrArg Ficha.data equal).trans today
    · exact (expirada_ficha (congrArg Ficha.lastUpdated equal) t).trans fresh

theorem presa_aviso {m : Mundo} (texto : String) (stuck : Presa c m) :
    Presa c ((enviarMensagem c texto).run Ato.exec m).2 := by
  obtain ⟨w, told, after⟩ := run_enviarMensagem (c := c) texto stuck.calmo
  rw [told]
  cases session : (m.conversas c).atual with
  | none =>
    rw [session] at after
    exact presa_guarda stuck rfl after rfl (by simp [semDados])
  | some s =>
    rw [session] at after
    exact presa_igual stuck after.calmo after.db (by rw [after.ficha, session]; rfl)

theorem Presa.usuario {m : Mundo} (stuck : Presa c m) :
    ∃ id u, m.db.usuarioDe c = some (id, u) ∧ u.senha = none ∧ u.numero.getD "" ≠ "" := by
  obtain ⟨⟨id, u⟩, row⟩ := Option.isSome_iff_exists.mp stuck.semSenha.existe
  have member := usuarioDe_rows row
  exact ⟨id, u, row, stuck.semSenha.nenhuma (id, u) member.1 member.2, stuck.comNumero id u row⟩

theorem presa_obter {α : Type} {inicio : Inicio} {f : Nat → Fluxo α} {m : Mundo}
    (stuck : Presa c m)
    (rest : ∀ r w, Presa c w → w.db = m.db → Presa c ((f r).run Ato.exec w).2) :
    Presa c ((obter c inicio >>= f).run Ato.exec m).2 := by
  rw [run_obter]
  cases session : (m.conversas c).sessao with
  | some r => exact rest r m stuck rfl
  | none =>
    refine rest _ _ (presa_igual stuck stuck.calmo rfl ?_) rfl
    simp [Conversa.atual, session]

/-- The number is stored already, and no row has a password. -/
theorem presa_aplica {m : Mundo} {q : SqlBot} (stuck : Presa c m) (reads : (q.sem m.db).2 = m.db) :
    Presa c (m.aplica c q) :=
  presa_igual stuck stuck.calmo reads (by simp [Conversa.atual])

theorem presa_contato {m : Mundo} (numero : String) (stuck : Presa c m) :
    Presa c ((contato c numero).run Ato.exec m).2 := by
  rw [contato]
  split
  · exact presa_aviso _ stuck
  · obtain ⟨id, u, row, -, number⟩ := stuck.usuario
    rw [run_sync _ rfl]
    refine presa_obter stuck fun r w stuck same => ?_
    have answer : ((SqlBot.selectUsuario c).sem w.db).1 = some (id, u) := by
      rw [same]
      exact row
    have stored := presa_aplica (q := .selectUsuario c) stuck rfl
    rw [run_handle, run_consulta _ stuck.calmo rfl]
    simp only [answer, ne_eq, number, not_false_eq_true, if_true]
    obtain ⟨w', told, after⟩ := run_enviarMensagem (c := c)
      "⚠️ *Número já cadastrado. Envie sua senha pessoal para continuar.*" stored.calmo
    have next := presa_aviso "⚠️ *Número já cadastrado. Envie sua senha pessoal para continuar.*" stored
    rw [told] at next ⊢
    exact next

/-- No text is the password of a chat without one. -/
theorem run_verificarSenha {r : Nat} {db : Db} {f : Ficha} {w : Mundo} (m : Mensagem)
    (missing : SemSenha c db) (here : Guarda c db f w) :
    Guarda c db f ((verificarSenha c r m).run Ato.exec w).2 := by
  rw [verificarSenha]
  split
  · obtain ⟨w', told, after⟩ := run_aviso "🔒 *Envie sua senha pessoal para acessar.*" here
    rwa [told]
  · have nobody : ((SqlBot.selectLogin c m.text).sem w.db).1 = none := by
      rw [here.db]
      refine List.find?_eq_none.mpr fun row member => ?_
      simp only [decide_eq_true_eq, not_and]
      intro own
      rw [missing.nenhuma row member own]
      exact nofun
    have asked : Guarda c db f (w.aplica c (.selectLogin c m.text)) :=
      ⟨here.calmo, here.db, by rw [← here.ficha]; simp [Conversa.atual]⟩
    obtain ⟨w', told, after⟩ :=
      run_aviso "❌ *Senha incorreta. Envie sua senha pessoal para acessar.*" asked
    rw [run_handle, run_consulta _ here.calmo rfl]
    simp only [nobody]
    rw [told]
    exact after

theorem presa_mensagem {m : Mundo} (x : Mensagem) (stuck : Presa c m) :
    Presa c ((mensagem c x).run Ato.exec m).2 := by
  obtain ⟨id, u, row, missing, number⟩ := stuck.usuario
  rcases run_mensagemCadastrada x stuck.calmo row with ⟨-, after⟩ | ⟨valid, r, w, run, here⟩
  · exact presa_guarda stuck rfl after rfl (by simp [semDados])
  -- the session is a new one, or one that does not await the password
  have closed : (m.sessaoDeHoje c).cadastroEstado ≠ some .aguardandoSenha ∧
      (m.sessaoDeHoje c).logado = false := by
    rw [Mundo.sessaoDeHoje] at valid ⊢
    cases session : (m.conversas c).atual with
    | none => exact ⟨by rintro ⟨⟩, rfl⟩
    | some s =>
      simp only [session] at valid ⊢
      split
      next today =>
        rw [if_pos today] at valid
        exact ⟨fun awaiting => stuck.fechada _ (Nat.le_refl _) ⟨s, session, awaiting, today, valid⟩,
          stuck.deslogada s session⟩
      next => exact ⟨by rintro ⟨⟩, rfl⟩
  obtain ⟨awaits, out⟩ := closed
  rw [run, seguirCadastro, if_neg fun both => awaits both.2, if_neg number,
    if_pos (by simp [Sessao.ficha, out])]
  exact presa_guarda stuck rfl (run_verificarSenha x stuck.semSenha here.guarda) out awaits

theorem presa_apos (gestos : List (Nat × Gesto)) {m : Mundo} (stuck : Presa c m) :
    Presa c (m.apos c gestos) := by
  induction gestos generalizing m with
  | nil => exact stuck
  | cons gesto resto ih =>
    have waited := presa_espera gesto.1 stuck
    rw [Mundo.apos]
    refine ih ?_
    cases gesto.2 with
    | mensagem x => exact presa_mensagem x waited
    | contato numero => exact presa_contato numero waited

theorem presa_nao_conclui {m : Mundo} (stuck : Presa c (m.comFalhas [])) : ¬ Conclui c m := by
  rintro ⟨gestos, id, u, s, row, password, -⟩
  obtain ⟨id', u', row', missing, -⟩ := (presa_apos gestos stuck).usuario
  obtain ⟨rfl, rfl⟩ := Prod.mk.inj (Option.some.inj (row.symm.trans row'))
  rw [missing] at password
  contradiction

/-- The exact way out, unless the session is logged in without a password. -/
theorem conclui_iff {m : Mundo} (missing : SemSenha c m.db)
    (out : ∀ s, (m.conversas c).atual = some s → s.logado = false) :
    Conclui c m ↔ Aberta c m := by
  refine ⟨fun done => ?_, conclui_of_aberta missing⟩
  by_contra closed
  obtain ⟨numbered, invalid⟩ := not_or.mp closed
  obtain ⟨⟨id, u⟩, row⟩ := Option.isSome_iff_exists.mp missing.existe
  refine presa_nao_conclui ⟨rfl, missing, ?_, out, fun t later valid => invalid ⟨t, later, valid⟩⟩ done
  intro id' u' row' empty
  refine numbered fun id'' u'' row'' => ?_
  obtain ⟨rfl, rfl⟩ := Prod.mk.inj (Option.some.inj (row'.symm.trans row''))
  exact empty

end Presa

section Corridas

/-- What others do: to the database, by answering, or by starting the bot again. -/
inductive Fora where
  | deriva (d : Deriva)
  | reinicio

def Mundo.reiniciar (m : Mundo) : Mundo :=
  { m with conversas := fun c => { m.conversas c with sessao := none } }

/-- The bot, which may be started again at any moment. -/
def botReiniciado : System Evento Fora String Ato.Res Unit Mundo where
  exec := Ato.exec
  sync := Ato.sync
  listeners evento := [evento.tratar]
  drift
    | .deriva d => Mundo.derivar d
    | .reinicio => Mundo.reiniciar

/-- At every moment of the run, a chat with a row and no password satisfies `P`. -/
def SempreSemSenha (P : Chat → Mundo → Prop) (m : Mundo) (passos : List (Action Evento Fora)) :
    Prop :=
  ∀ pre post, passos = pre ++ post → ∀ c,
    SemSenha c (botReiniciado.execute pre ⟨m, []⟩).state.db →
      P c (botReiniciado.execute pre ⟨m, []⟩).state

theorem sempreConclui_of_aberta {m : Mundo} {passos : List (Action Evento Fora)}
    (opened : SempreSemSenha Aberta m passos) : SempreSemSenha Conclui m passos :=
  fun pre post split c missing => conclui_of_aberta missing (opened pre post split c missing)

/-- A chat registers, shares its number, and the bot is started again. -/
def reinicioNoCadastro : List (Action Evento Fora) :=
  [.arrive (.mensagem 7 { text := senhaMestre })] ++ List.replicate 5 (.step 0) ++
    [.arrive (.contato 7 "5511999990000")] ++ List.replicate 3 (.step 1) ++ [.drift .reinicio]

/-- The number is stored, and no message or contact ever sets the password. -/
theorem reinicio_prende : ¬ SempreSemSenha Conclui {} reinicioNoCadastro := by
  intro always
  have done := always reinicioNoCadastro [] (List.append_nil _).symm 7
  have rows : (botReiniciado.execute reinicioNoCadastro ⟨{}, []⟩).state.db.usuarios.rows =
      [(1, { chatId := 7, numero := some "5511999990000" })] := by decide +kernel
  have session : ((botReiniciado.execute reinicioNoCadastro ⟨{}, []⟩).state.conversas 7).atual =
      none := by decide +kernel
  generalize (botReiniciado.execute reinicioNoCadastro ⟨{}, []⟩).state = m at done rows session
  have missing : SemSenha 7 m.db := ⟨by simp [Db.usuarioDe, rows], by simp [rows]⟩
  have out : ∀ s, (m.conversas 7).atual = some s → s.logado = false := by simp [session]
  rcases (conclui_iff missing out).mp (done missing) with noNumber | ⟨t, -, s, found, -⟩
  · have empty := noNumber 1 { chatId := 7, numero := some "5511999990000" }
      (by simp [Db.usuarioDe, rows])
    simp at empty
  · simp [session] at found

def reinicioSemNumero : List (Action Evento Fora) :=
  [.arrive (.mensagem 7 { text := senhaMestre })] ++ List.replicate 5 (.step 0) ++
    [.drift .reinicio]

theorem reinicio_sem_numero : SempreSemSenha Conclui {} reinicioSemNumero := by
  apply sempreConclui_of_aberta
  intro pre post split c _
  have numberless : ∀ k < 8,
      ((botReiniciado.execute (reinicioSemNumero.take k) ⟨{}, []⟩).state.db.usuarios.rows.all
        fun row => row.2.numero.getD "" = "") = true := by decide +kernel
  have short : pre.length < 8 := by
    have := congrArg List.length split
    simp only [List.length_append, show reinicioSemNumero.length = 7 from rfl] at this
    omega
  have taken : reinicioSemNumero.take pre.length = pre := by rw [split, List.take_left]
  have all := numberless pre.length short
  rw [taken] at all
  left
  intro id u row
  simpa using List.all_eq_true.mp all (id, u) (usuarioDe_rows row).1

end Corridas
end IceClube
