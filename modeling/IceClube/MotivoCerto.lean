import IceClube.Motivos

/-! When a pressed reason marks the right delivery: under every schedule of the two listeners
of the press, with every call answered. -/
namespace IceClube

open Coop Prog System

def aperto (c : Chat) (data : Texto) (m : Mundo) : Config String Ato.Res Unit Mundo :=
  (botoes c).advance (.arrive data) ⟨m.comFalhas [], []⟩

/-- Whatever turns the two listeners take, no error is reported, and once both are through the
delivery is marked. -/
def MarcaCerto (c : Chat) (m : Mundo) (oferta : Oferta) (id : Nat) (motivo : Motivo) : Prop :=
  ∀ is : List Nat,
    let inicio := aperto c (oferta.data id motivo) m
    (∀ e ∈ (botoes c).log (turns is) inicio, e.op.avisa = false) ∧
    ((∀ p ∈ ((botoes c).execute (turns is) inicio).tasks, p.Ended) →
      Marcada id motivo m.db.entregas ((botoes c).execute (turns is) inicio).state.db.entregas)

/-- What `tratarEntrega` takes for the reason when it removes the prefix. -/
def textoDoPainel (data : Texto) : String :=
  String.ofList (Texto.remover "justificativa_".toList data)

/-- A justification that is pending in the session names no other row that it would change, and
does not end the open route. -/
def SemPendencia (id : Nat) (texto : String) (db : Db) (s : Sessao) : Prop :=
  s.etapa = some .falhaJustificativa → s.pedidoId ≠ .nan ∧
    (∀ n, s.pedidoId = .num n → n ≠ id ∧
      ∀ e, db.entregas.get n = some e → e.status = .falha ∧ e.observacoes = some texto) ∧
    (s.rotaAtiva = true → ∃ e ∈ db.entregasDe [.rua] s.usuarioId, e.1 ≠ id)

/-- The call is refused even where every call is answered. -/
def Ato.recusado : Ato → Bool
  | .query _ q => q.recusa.isSome
  | _ => false

def alarme : Contract String Ato.Res Bool where
  pre _ _ := True
  post o v answer v' := v' = (v || o.avisa) ∧
    if o.recusado then ∃ erro, answer = .error erro else ∃ a, answer = .ok a

section Alarm

variable {α β : Type} {c : Chat} {o : Ato} {m : Mundo} {v : Bool}

theorem sem_recusada :
    if o.recusado then ∃ erro, (o.sem m).1 = .error erro else ∃ a, (o.sem m).1 = .ok a := by
  cases o with
  | query c q =>
    cases refused : q.recusa with
    | none => simp [Ato.recusado, refused, Ato.sem]
    | some erro => simp [Ato.recusado, refused, Ato.sem]
  | _ =>
    simp only [Ato.recusado, Bool.false_eq_true, if_false]
    exact ⟨_, rfl⟩

theorem alarme_soou {f : Fluxo α} : Meets alarme f (fun _ v => v = true) true := by
  induction f with
  | done a => rfl
  | fail e => rfl
  | call o next ih =>
    refine ⟨trivial, ?_⟩
    rintro answer v ⟨rfl, -⟩
    exact ih answer

theorem alarme_antes {f : Fluxo α} {g : α → Fluxo β} (first : Meets alarme f (fun _ v => v = true) v) :
    Meets alarme (f >>= g) (fun _ v => v = true) v := by
  rw [meets_bind]
  apply meets_mono first
  rintro answer v' rfl
  cases answer with
  | ok a => exact alarme_soou
  | error e => rfl

theorem alarme_handle {f : Fluxo α} {h : String → Fluxo α}
    (body : Meets alarme f (fun _ v => v = true) v) :
    Meets alarme (f.handle h) (fun _ v => v = true) v := by
  rw [meets_handle]
  apply meets_mono body
  rintro answer v' rfl
  cases answer with
  | ok a => rfl
  | error e => exact alarme_soou

theorem alarme_avisa {g : o.Res → Fluxo β} (reports : o.avisa = true) :
    Meets alarme (faz o >>= g) (fun _ v => v = true) v := by
  rw [meets_bind]
  refine (meets_ask ..).mpr ⟨trivial, ?_⟩
  rintro answer v' ⟨rfl, -⟩
  rw [reports, Bool.or_true]
  cases answer with
  | ok a => exact alarme_soou
  | error e => rfl

theorem alarme_segue {g : o.Res → Fluxo β} {Q : Except String β → Bool → Prop}
    (accepted : o.recusado = false) (silent : o.avisa = false) (rest : ∀ a, Meets alarme (g a) Q v) :
    Meets alarme (faz o >>= g) Q v := by
  rw [meets_bind]
  refine (meets_ask ..).mpr ⟨trivial, ?_⟩
  rintro answer v' ⟨rfl, answered⟩
  simp only [accepted, Bool.false_eq_true, if_false] at answered
  obtain ⟨a, rfl⟩ := answered
  rw [silent, Bool.or_false]
  exact rest a

theorem alarme_recusa {g : o.Res → Fluxo β} {Q : Except String β → Bool → Prop}
    (refused : o.recusado = true) (silent : o.avisa = false) (rest : ∀ e, Q (.error e) v) :
    Meets alarme (faz o >>= g) Q v := by
  rw [meets_bind]
  refine (meets_ask ..).mpr ⟨trivial, ?_⟩
  rintro answer v' ⟨rfl, answered⟩
  simp only [refused, if_true] at answered
  obtain ⟨e, rfl⟩ := answered
  rw [silent, Bool.or_false]
  exact rest e

/-- A program that must report an error awaits the call that does. -/
theorem awaited_alarme {f : Fluxo Unit} (meets : Meets alarme f (fun _ v => v = true) v)
    (calm : m.falhas = []) :
    v = true ∨ ∃ o ∈ (botoes c).awaited f m, o.avisa = true := by
  induction f generalizing m v with
  | done a => exact .inl meets
  | fail e => exact .inl meets
  | call o next ih =>
    have answered : (botoes c).exec o m = o.sem m := Ato.exec_calmo o calm
    have later : (next (o.sem m).1).trace (botoes c).exec (o.sem m).2 =
        (next ((botoes c).exec o m).1).trace (botoes c).exec ((botoes c).exec o m).2 := by
      rw [answered]
    obtain ⟨-, rest⟩ := meets
    have calm' := (o.falhas_sem m).trans calm
    rcases ih _ (rest _ _ ⟨rfl, sem_recusada⟩) calm' with sounded | ⟨o', made, reports⟩
    · rcases Bool.or_eq_true .. |>.mp sounded with before | now
      · exact .inl before
      · refine .inr ⟨o, ?_, now⟩
        have yields : (botoes c).sync o = false := by
          cases o with
          | sendMessage => rfl
          | _ => cases now
        simp [awaited, trace, yields]
    · refine .inr ⟨o', ?_, reports⟩
      rw [awaited, later] at made
      rw [awaited, trace, List.map_cons, List.filter_cons]
      split
      · exact List.mem_cons_of_mem _ made
      · exact made

end Alarm

section Listeners

variable {c : Chat} {r : Nat} {id : Nat} {motivo : Motivo} {data x : Texto} {m : Mundo} {s : Sessao}

/-- Up to its first wait the listener of `configurarEntrega` only looks for the session. -/
theorem settle_callbackEntrega (m : Mundo) (data : Texto) :
    ∃ r m', m'.db = m.db ∧ m'.falhas = m.falhas ∧
      (m'.conversas c).atual = (m.conversas c).atual ∧
      (botoes c).settle (callbackEntrega c (some data)) m =
        (botoes c).settle (tratarCallbackOrganizarRota c r (enviarMensagemWrapper c) (some data) >>=
          fun handled => if handled then pure () else ramoEntrega c r data) m' := by
  cases stored : (m.conversas c).sessao with
  | some r =>
    refine ⟨r, m, rfl, rfl, rfl, ?_⟩
    simp [callbackEntrega, obter, settle, botoes, Ato.sync, Ato.exec, Ato.infalivel, Ato.sem,
      stored]
  | none =>
    refine ⟨(m.conversas c).proximo, m.conversa c (·.cria { etapa := some .menu }), rfl, rfl,
      by simp [Conversa.atual, stored], ?_⟩
    simp [callbackEntrega, obter, settle, botoes, Ato.sync, Ato.exec, Ato.infalivel, Ato.sem,
      stored]

/-- The button of `falha_` names no delivery, and the listener that expects one fails. -/
theorem alarme_falha (id : Nat) (motivo : Motivo) (resto : Bool → Fluxo Unit) :
    Meets alarme (tratarCallbackOrganizarRota c r (enviarMensagemWrapper c)
        (some (Oferta.falha.data id motivo)) >>= resto) (fun _ v => v = true) false := by
  simp only [tratarCallbackOrganizarRota,
    ramoOrganizar_motivo (enviarMensagemWrapper c) (data_falha id motivo)]
  apply alarme_antes
  rw [meets_handle, meets_bind, justificar, pedidoDoBotao_falha]
  apply alarme_segue rfl rfl
  intro _
  apply alarme_segue rfl rfl
  intro t
  apply alarme_recusa rfl rfl
  intro erro
  apply alarme_antes
  exact alarme_avisa (show avisaErro "⚠️ *Erro ao montar a rota otimizada.*" = true by decide)

theorem alarme_enviarMensagem (texto : String) (reports : avisaErro texto = true) :
    Meets alarme (enviarMensagem c texto) (fun _ v => v = true) false := by
  apply alarme_handle
  exact alarme_avisa (o := .sendMessage c texto []) reports

/-- The identifier of the session is not a number. -/
theorem alarme_falhaJustificada :
    Meets alarme (falhaJustificada c (enviarMensagem c) r r data .nan) (fun _ v => v = true)
      false := by
  rw [falhaJustificada, meets_handle]
  apply alarme_segue rfl rfl
  intro _
  apply alarme_recusa rfl rfl
  intro erro
  apply alarme_segue rfl rfl
  intro _
  exact alarme_enviarMensagem _ (by decide)

theorem alarme_vendas (reason : data = "justificativa".toList ++ '_' :: x) :
    Meets alarme (handleCallbacks c r data) (fun _ v => v = true) false := by
  have unknown : ramoVendas c r data = acaoInvalida c := by
    subst reason
    simp [ramoVendas]
  rw [handleCallbacks, unknown]
  apply alarme_handle
  apply alarme_segue rfl rfl
  intro _
  apply alarme_handle
  exact alarme_avisa (show avisaErro "⚠️ *Ação inválida. Tente novamente.*" = true by decide)

theorem alarme_semSetor (reason : data = "justificativa".toList ++ '_' :: x) :
    Meets alarme (semSetor c r data) (fun _ v => v = true) false := by
  apply alarme_segue rfl rfl
  intro s
  have invalida := alarme_enviarMensagem (c := c) "⚠️ *Ação inválida. Tente novamente.*"
    (by decide)
  subst reason
  simpa [Texto.startsWith, List.isPrefixOf] using invalida

theorem settle_sessaoDeHoje (data : Texto) (some_data : data ≠ [])
    (fora : ∀ s, (m.conversas c).atual = some s → ¬ s.acesso.Entrou m.db.agora) :
    ∃ r m', m'.falhas = m.falhas ∧ ¬ ((m'.conversas c).objetos r).acesso.Entrou m.db.agora ∧
      ((m'.conversas c).objetos r).data = some (dia m.db.agora) ∧ m'.db.agora = m.db.agora ∧
      (botoes c).settle (callbackChat c (some data)) m =
        (botoes c).settle (callbackNaSessao c r data) m' := by
  let m₁ := m.conversa c (·.anota [.botao data])
  have nova : ¬ (sessaoDoDia m.db.agora).sessao.acesso.Entrou m.db.agora := fun entrou =>
    absurd entrou.1 (by simp [sessaoDoDia, Inicio.sessao, Sessao.acesso])
  have criada := Conversa.objetos_cria (m₁.conversas c) (sessaoDoDia m.db.agora)
  cases stored : (m.conversas c).sessao with
  | none =>
    refine ⟨(m₁.conversas c).proximo, m₁.conversa c (·.cria (sessaoDoDia m.db.agora)), rfl, ?_⟩
    rw [Mundo.conversas_conversa, criada]
    refine ⟨nova, rfl, rfl, ?_⟩
    simp [callbackChat, some_data, obter, sessaoDeHoje, settle, botoes, Ato.sync, Ato.exec,
      Ato.infalivel, Ato.sem, stored, sessaoDoDia, Inicio.sessao, m₁]
  | some r =>
    have shown : (m.conversas c).atual = some ((m.conversas c).objetos r) := by
      rw [Conversa.atual, stored, Option.map_some]
    by_cases today : ((m.conversas c).objetos r).data = some (dia m.db.agora)
    · refine ⟨r, m₁, rfl, by simpa [m₁] using fora _ shown, by simpa [m₁] using today, rfl, ?_⟩
      simp [callbackChat, some_data, obter, sessaoDeHoje, settle, botoes, Ato.sync, Ato.exec,
        Ato.infalivel, Ato.sem, stored, today, m₁]
    · refine ⟨(m₁.conversas c).proximo, m₁.conversa c (·.cria (sessaoDoDia m.db.agora)), rfl, ?_⟩
      rw [Mundo.conversas_conversa, criada]
      refine ⟨nova, rfl, rfl, ?_⟩
      simp [callbackChat, some_data, obter, sessaoDeHoje, settle, botoes, Ato.sync, Ato.exec,
        Ato.infalivel, Ato.sem, stored, today, m₁]

/-- A chat that is not in the sector is told so. -/
theorem awaited_fora (reason : data = "justificativa".toList ++ '_' :: x)
    (today : ((m.conversas c).objetos r).data = some (dia m.db.agora))
    (fora : ¬ ((m.conversas c).objetos r).acesso.Entrou m.db.agora) (calm : m.falhas = []) :
    ∃ o ∈ (botoes c).awaited (callbackNaSessao c r data) m, o.avisa = true := by
  have sounds {f : Fluxo Unit} (n : Mundo) (meets : Meets alarme f (fun _ v => v = true) false)
      (same : (botoes c).settle (callbackNaSessao c r data) m = (botoes c).settle f n)
      (calm' : n.falhas = []) :
      ∃ o ∈ (botoes c).awaited (callbackNaSessao c r data) m, o.avisa = true := by
    rw [← awaited_settle, same, awaited_settle]
    exact (awaited_alarme meets calm').resolve_left (by decide)
  let h : String → Fluxo Unit := fun _ =>
    enviarMensagem c "⚠️ *Erro ao processar ação. Tente novamente.*"
  have semSetor (outro : ∀ setor, ((m.conversas c).objetos r).setor = some setor →
      ((m.conversas c).objetos r).autenticado = false) :
      ∃ o ∈ (botoes c).awaited (callbackNaSessao c r data) m, o.avisa = true := by
    refine sounds m (alarme_handle (h := h) (alarme_semSetor (c := c) (r := r) reason)) ?_ calm
    simp only [callbackNaSessao]
    cases setor : ((m.conversas c).objetos r).setor with
    | none =>
      simp [settle, botoes, Ato.sync, Prog.handle, Ato.exec, Ato.infalivel, Ato.sem, setor, h]
    | some setor' =>
      simp [settle, botoes, Ato.sync, Prog.handle, Ato.exec, Ato.infalivel, Ato.sem, setor,
        outro setor' setor, h]
  cases setor : ((m.conversas c).objetos r).setor with
  | none => exact semSetor fun _ chosen => by simp [setor] at chosen
  | some setor' =>
    cases autenticado : ((m.conversas c).objetos r).autenticado with
    | false => exact semSetor fun _ _ => autenticado
    | true =>
      cases setor' with
      | entrega => exact absurd ⟨setor, autenticado, today⟩ fora
      | vendas =>
        refine sounds (m.conversa c (·.anota [.chamou r .vendas]))
          (alarme_handle (h := h) (alarme_vendas (c := c) (r := r) reason)) ?_ calm
        simp [callbackNaSessao, settle, botoes, Ato.sync, Prog.handle, Ato.exec, Ato.infalivel,
          Ato.sem, setor, autenticado, h]

/-- The first listener waits to answer the press, and has changed nothing that the second
looks at. -/
theorem settle_primeiro (oferta : Oferta) (id : Nat) (motivo : Motivo) (m : Mundo) :
    ∃ m', m'.db = m.db ∧ m'.falhas = m.falhas ∧
      (m'.conversas c).atual = (m.conversas c).atual ∧
      ((botoes c).settle (callbackEntrega c (some (oferta.data id motivo))) m).2 = m' := by
  obtain ⟨r, m', base, faults, current, same⟩ :=
    settle_callbackEntrega (c := c) m (oferta.data id motivo)
  refine ⟨m', base, faults, current, ?_⟩
  obtain ⟨x, reason⟩ : ∃ x, oferta.data id motivo = "justificativa".toList ++ '_' :: x := by
    cases oferta with
    | falha => exact ⟨_, data_falha id motivo⟩
    | negarPedido => exact ⟨_, data_negarPedido id motivo⟩
  rw [same, tratarCallbackOrganizarRota]
  simp only [ramoOrganizar_motivo (enviarMensagemWrapper c) reason, justificar]
  simp [settle, botoes, Ato.sync, Prog.handle]

end Listeners

/-- The scene is still there: the chat has its session, and the orders are as valid as they
were. -/
structure Cena.Vista (cena : Cena) (base : Db) (m : Mundo) : Prop where
  sessao : (m.conversas cena.chat).sessao = some cena.sessao
  rumo : ((m.conversas cena.chat).objetos cena.sessao).rumo = cena.rumo
  valido : ∀ n, m.db.pedidoValido n = base.pedidoValido n

section Rows

variable {c : Chat} {cena : Cena} {base : Db} {escrita : SqlBot → Prop} {m : Mundo}

theorem caneta_silencia {o : Ato} {v : Bool} (pre : (caneta cena escrita).pre o v) :
    o.avisa = false := by
  cases o with
  | sendMessage c texto teclado => exact pre.elim id fun writes => writes.2.elim
  | _ => rfl

theorem vista_conversa {f : Conversa → Conversa} (seen : cena.Vista base m) (c : Chat)
    (stored : c = cena.chat → (f (m.conversas c)).sessao = some cena.sessao)
    (course : c = cena.chat → ((f (m.conversas c)).objetos cena.sessao).rumo = cena.rumo) :
    cena.Vista base (m.conversa c f) := by
  by_cases here : c = cena.chat
  · subst here
    refine ⟨?_, ?_, seen.valido⟩
    · rw [Mundo.conversas_conversa]
      exact stored rfl
    · rw [Mundo.conversas_conversa]
      exact course rfl
  · have other : (m.conversa c f).conversas cena.chat = m.conversas cena.chat :=
      if_neg (Ne.symm here)
    exact ⟨by rw [other]; exact seen.sessao, by rw [other]; exact seen.rumo, seen.valido⟩

theorem vista_consulta (seen : cena.Vista base m) (c : Chat) (q : SqlBot) :
    cena.Vista base (Ato.sem (.query c q) m).2 := by
  rw [Ato.sem]
  split
  · exact seen
  · have noted := vista_conversa (f := (·.anota (q.fatos ((m.conversas c).atual.bind
      (·.cadastroEstado)) m.db))) seen c (fun here => here ▸ seen.sessao)
      fun here => here ▸ seen.rumo
    exact ⟨noted.sessao, noted.rumo, fun n => (pedidoValido_sem q m.db n).trans (seen.valido n)⟩

/-- So does a silent call, whose answer tells of it. -/
theorem vista_cala {o : Ato} (seen : cena.Vista base m) (cala : o.Cala cena)
    (restam : cena.restam → m.db.entregasDe [.rua] cena.rumo.2 ≠ []) :
    (∃ a, (o.sem m).1 = .ok a ∧ o.Traz cena a) ∧ cena.Vista base (o.sem m).2 := by
  cases o with
  | query c q =>
    refine ⟨?_, vista_consulta seen c q⟩
    obtain ⟨accepted, -⟩ := cala
    rw [Ato.sem, accepted]
    refine ⟨_, rfl, ?_⟩
    cases q with
    | selectEntregas usuarioId =>
      rintro rfl
      exact restam
    | _ => trivial
  | sendMessage => exact ⟨⟨_, rfl, trivial⟩, seen.sessao, seen.rumo, seen.valido⟩
  | atribuir c r campos =>
    refine ⟨⟨_, rfl, trivial⟩, vista_conversa seen c (fun here => here ▸ seen.sessao) ?_⟩
    rintro rfl
    by_cases own : cena.sessao = r
    · rw [← own, Conversa.objetos_atribui]
      exact (rumo_atribuirTodos cala _).trans seen.rumo
    · rw [Conversa.objetos_atribui_ne _ _ _ own]
      exact seen.rumo
  | set c r =>
    obtain ⟨rfl, rfl⟩ := cala
    exact ⟨⟨_, rfl, trivial⟩, vista_conversa seen _ (fun _ => rfl) fun _ => seen.rumo⟩
  | get c => exact ⟨⟨_, rfl, fun here => here ▸ seen.sessao⟩, seen⟩
  | ler c r => exact ⟨⟨_, rfl, fun here own => here ▸ own ▸ seen.rumo⟩, seen⟩
  | dateNow | answerCallbackQuery => exact ⟨⟨_, rfl, trivial⟩, seen⟩
  | _ => exact cala.elim

/-- What the table of deliveries satisfies is kept by a handler whose one statement keeps it. -/
theorem caneta_honra (escrita : SqlBot → Prop) (J : Table Entrega → Bool → Prop)
    (grava : ∀ q db, escrita q → q.recusa = none → J db.entregas false →
      J (q.sem db).2.entregas true)
    (restam : ∀ (db : Db) v, J db.entregas v → (∀ n, db.pedidoValido n = base.pedidoValido n) →
      cena.restam → db.entregasDe [.rua] cena.rumo.2 ≠ []) (o : Ato) (m : Mundo) (v : Bool)
    (seen : m.falhas = [] ∧ cena.Vista base m ∧ J m.db.entregas v)
    (pre : (caneta cena escrita).pre o v) :
    ∃ v', (caneta cena escrita).post o v (Ato.exec o m).1 v' ∧ (Ato.exec o m).2.falhas = [] ∧
      cena.Vista base (Ato.exec o m).2 ∧ J (Ato.exec o m).2.db.entregas v' := by
  obtain ⟨calm, scene, holds⟩ := seen
  rw [Ato.exec_calmo o calm, o.falhas_sem]
  rcases pre with silent | ⟨rfl, writes⟩
  · obtain ⟨answered, scene'⟩ := vista_cala scene silent (restam m.db v holds scene.valido)
    have alien : o.Alheio := by
      rintro c q rfl
      exact silent.2
    refine ⟨v, ⟨answered, ?_⟩, calm, scene', ?_⟩
    · cases o with
      | query c q => simp [silent.2]
      | _ => rfl
    · rw [entregas_parada alien]
      exact holds
  · cases o with
    | query c q =>
      obtain ⟨accepted, writes, mine⟩ := writes
      have scene' := vista_consulta scene c q
      simp only [Ato.sem, accepted] at scene' ⊢
      have tells : Ato.Traz cena (.query c q) (q.sem m.db).1 := by
        cases q with
        | selectEntregas => cases writes
        | _ => trivial
      exact ⟨true, ⟨⟨_, rfl, tells⟩, by simp [writes]⟩, calm, scene',
        grava q m.db mine accepted holds⟩
    | _ => exact writes.elim

variable (id : Nat) (motivo : Motivo) (antes : Table Entrega)

def Marcando (t : Table Entrega) (v : Bool) : Prop :=
  (∀ n, n ≠ id → t.get n = antes.get n) ∧
    ∃ e, t.get id = some e ∧ (v = true → e.status = .falha ∧ e.observacoes = some motivo.texto)

variable {id motivo antes}

theorem marcando_justificar {db : Db} {t : Nat} (going : Marcando id motivo antes db.entregas false) :
    Marcando id motivo antes (SqlBot.sem (.justificar t motivo.texto (.num id)) db).2.entregas
      true := by
  obtain ⟨others, e, found, -⟩ := going
  constructor
  · intro n other
    rw [← others n other]
    exact (Table.get_modify ..).trans (if_neg other)
  · refine ⟨{ e with status := .falha, horaFim := some t, observacoes := some motivo.texto }, ?_,
      fun _ => ⟨rfl, rfl⟩⟩
    apply (Table.get_modify ..).trans
    rw [if_pos rfl, found, Option.map_some]

/-- The pending justification changes nothing if its row already shows it. -/
theorem entregas_falharEntrega (db : Db) {texto : String} {pid : IdSql}
    (already : ∀ n, pid = .num n → ∀ e, db.entregas.get n = some e →
      e.status = .falha ∧ e.observacoes = some texto) (n : Nat) :
    (SqlBot.sem (.falharEntrega texto pid) db).2.entregas.get n = db.entregas.get n := by
  cases pid with
  | nulo => rfl
  | nan => rfl
  | num k =>
    apply (Table.get_modify ..).trans
    split
    next same =>
      subst same
      cases found : db.entregas.get n with
      | none => rfl
      | some e =>
        obtain ⟨status, observacoes⟩ := already n rfl e found
        rw [Option.map_some, ← status, ← observacoes]
    next => rfl

/-- Another delivery of the courier is still on the street. -/
theorem restam_marcando {db : Db} {u : Option Nat} {v : Bool}
    (going : Marcando id motivo base.entregas db.entregas v)
    (valid : ∀ n, db.pedidoValido n = base.pedidoValido n)
    (left : ∃ e ∈ base.entregasDe [.rua] u, e.1 ≠ id) : db.entregasDe [.rua] u ≠ [] := by
  obtain ⟨e, member, other⟩ := left
  obtain ⟨row, approved, street, own⟩ := mem_entregasDe.mp member
  refine List.ne_nil_of_mem (a := e) (mem_entregasDe.mpr ⟨?_, ?_, street, own⟩)
  · rw [going.1 e.1 other]
    exact row
  · rw [valid]
    exact approved

/-- Once the delivery is marked, no other means none. -/
theorem ninguem_marcando {db : Db} {u : Option Nat}
    (going : Marcando id motivo base.entregas db.entregas true)
    (valid : ∀ n, db.pedidoValido n = base.pedidoValido n)
    (none_left : ¬ ∃ e ∈ base.entregasDe [.rua] u, e.1 ≠ id) : db.entregasDe [.rua] u = [] := by
  refine List.eq_nil_iff_forall_not_mem.mpr fun e member => ?_
  obtain ⟨row, approved, street, own⟩ := mem_entregasDe.mp member
  obtain ⟨others, e', found, marked⟩ := going
  by_cases same : e.1 = id
  · rw [same, found] at row
    obtain rfl := Option.some.inj row
    simp [(marked rfl).1] at street
  · refine none_left ⟨e, mem_entregasDe.mpr ⟨?_, ?_, street, own⟩, same⟩
    · rw [← others e.1 same]
      exact row
    · rw [← valid]
      exact approved

theorem falharEntrega_num {db : Db} (texto : String) {k : Nat} {e : Entrega}
    (found : db.entregas.get k = some e) :
    ∃ e, (SqlBot.sem (.falharEntrega texto (.num k)) db).2.entregas.get k = some e ∧
      e.status = .falha ∧ e.observacoes = some texto := by
  refine ⟨{ e with status := .falha, observacoes := some texto }, ?_, rfl, rfl⟩
  apply (Table.get_modify ..).trans
  rw [if_pos rfl, found, Option.map_some]

end Rows

section Presses

variable {c : Chat} {m : Mundo} {id : Nat} {motivo : Motivo} {cena : Cena}

/-- The second listener shows a menu, or writes the delivery of the session. -/
theorem meets_painelDoMotivo {s : Sessao} {data : Texto} {x : Texto} {h : String → Fluxo Unit}
    (pendente : SqlBot → Prop) (reason : data = "justificativa".toList ++ '_' :: x)
    (known : s.etapa = some .falhaJustificativa → s.pedidoId ≠ .nan ∧
      (cena.rumo.1 = true → cena.restam) ∧
      pendente = fun q => q = .falharEntrega (textoDoPainel data) s.pedidoId) :
    Meets (caneta cena pendente) ((painelDoMotivo cena.chat cena.sessao data s).handle h)
      (fun answer v => (∃ a, answer = .ok a) ∧ (s.etapa = some .falhaJustificativa → v = true))
      false := by
  apply meets_sem_erro (J := fun v => s.etapa = some .falhaJustificativa → v = true)
  rw [painelDoMotivo]
  split
  next pending =>
    obtain ⟨number, open_left, rfl⟩ := known pending
    apply meets_mono (meets_falhaJustificada number open_left)
    rintro answer v ⟨ended, rfl⟩
    exact ⟨ended, fun _ => rfl⟩
  next other =>
    obtain ⟨y, trimmed⟩ := trim_cons (a := 'j') (by decide) ("ustificativa".toList ++ '_' :: x)
    have first : Texto.trim data = 'j' :: y := by rw [reason]; exact trimmed
    have silent : Cala cena (do
        let handledByOrganizarRota ← organizarSessao cena.chat cena.sessao
          (enviarMensagem cena.chat) { texto := Texto.trim data, data := some data }
        if handledByOrganizarRota then pure ()
        else menuPadrao cena.chat (enviarMensagem cena.chat) cena.sessao) := by
      apply cala_bind
      · apply cala_organizarSessao
        · simp [first]
        · simp [reason]
        · simp [reason]
        · simp [reason]
      · exact fun _ => cala_ite (cala_pure ()) cala_menuPadrao
    apply meets_mono (silent pendente false)
    rintro answer v ⟨ended, rfl⟩
    exact ⟨ended, fun pending => absurd pending other⟩

/-- A press starts the first listener, then the second from where the first waits. -/
theorem aperto_espera (data : Texto) {m₁ : Mundo}
    (here : ((botoes c).settle (callbackEntrega c (some data)) (m.comFalhas [])).2 = m₁) :
    (aperto c data m).state = ((botoes c).settle (callbackChat c (some data)) m₁).2 ∧
      (aperto c data m).tasks =
        [((botoes c).settle (callbackEntrega c (some data)) (m.comFalhas [])).1,
          ((botoes c).settle (callbackChat c (some data)) m₁).1] := by
  subst here
  exact ⟨rfl, rfl⟩

/-- What the press finds where the object `r` is the chat's session. -/
def cenaDe (c : Chat) (r id : Nat) (m : Mundo) : Cena where
  chat := c
  sessao := r
  rumo := ((m.conversas c).objetos r).rumo
  restam := ∃ e ∈ m.db.entregasDe [.rua] ((m.conversas c).objetos r).usuarioId, e.1 ≠ id

/-- The first listener on its way, as far as the marking of its delivery stands. -/
def Andamento (c : Chat) (r id : Nat) (motivo : Motivo) (base m : Mundo) (v : Bool) : Prop :=
  m.falhas = [] ∧ (cenaDe c r id base).Vista base.db m ∧
    Marcando id motivo base.db.entregas m.db.entregas v

theorem andamento_inicial {r : Nat} (row : (m.db.entregas.get id).isSome)
    (stored : (m.conversas c).sessao = some r) : Andamento c r id motivo m (m.comFalhas []) false := by
  obtain ⟨e, found⟩ := Option.isSome_iff_exists.mp row
  exact ⟨rfl, ⟨stored, rfl, fun _ => rfl⟩, fun _ _ => rfl, e, found, by simp⟩

/-- The calls of the first listener keep it so. -/
theorem andamento_honra {r : Nat} (base : Mundo) (o : Ato) (m : Mundo) (v : Bool)
    (seen : Andamento c r id motivo base m v)
    (pre : (caneta (cenaDe c r id base) fun q =>
      ∃ t, q = .justificar t motivo.texto (.num id)).pre o v) :
    ∃ v', (caneta (cenaDe c r id base) fun q => ∃ t, q = .justificar t motivo.texto (.num id)).post
      o v (Ato.exec o m).1 v' ∧ Andamento c r id motivo base (Ato.exec o m).2 v' := by
  refine caneta_honra _ (Marcando id motivo base.db.entregas) ?_ ?_ o m v seen pre
  · rintro q db ⟨t, rfl⟩ - going
    exact marcando_justificar going
  · exact fun db v going valid left => restam_marcando going valid left

/-- So does the pending justification, written to a row that shows it already. -/
theorem andamento_pendencia {r : Nat} {base : Mundo} {texto : String}
    (settled : SemPendencia id texto base.db ((base.conversas c).objetos r)) (o : Ato) (m : Mundo)
    (w : Bool) {v : Bool} (seen : Andamento c r id motivo base m v)
    (pre : (caneta (cenaDe c r id base) fun q =>
      ((base.conversas c).objetos r).etapa = some .falhaJustificativa ∧
        q = .falharEntrega texto ((base.conversas c).objetos r).pedidoId).pre o w) :
    ∃ w', (caneta (cenaDe c r id base) fun q =>
      ((base.conversas c).objetos r).etapa = some .falhaJustificativa ∧
        q = .falharEntrega texto ((base.conversas c).objetos r).pedidoId).post
      o w (Ato.exec o m).1 w' ∧ Andamento c r id motivo base (Ato.exec o m).2 v := by
  refine caneta_honra _ (fun t _ => Marcando id motivo base.db.entregas t v) ?_ ?_ o m w seen pre
  · rintro q db ⟨pending, rfl⟩ - ⟨others, e, found, marked⟩
    have same := entregas_falharEntrega db fun n named e found' => by
      obtain ⟨other, already⟩ := (settled pending).2.1 n named
      exact already e ((others n other).symm.trans found')
    exact ⟨fun n other => (same n).trans (others n other), e, (same id).trans found, marked⟩
  · exact fun db _ going valid => restam_marcando going valid

/-- Both listeners at their first waits: the second one is in the panel of the reason. -/
theorem dois_ouvintes (motivo : Motivo) {r : Nat} (row : (m.db.entregas.get id).isSome)
    (stored : (m.conversas c).sessao = some r)
    (entrou : ((m.conversas c).objetos r).acesso.Entrou m.db.agora) :
    let s := (m.conversas c).objetos r
    let data := Oferta.negarPedido.data id motivo
    ∃ m₁ m₂ v, ((botoes c).settle (callbackEntrega c (some data)) (m.comFalhas [])).2 = m₁ ∧
      Meets (caneta (cenaDe c r id m) fun q => ∃ t, q = .justificar t motivo.texto (.num id))
        ((botoes c).settle (callbackEntrega c (some data)) (m.comFalhas [])).1
        (fun _ v => v = true) v ∧
      Andamento c r id motivo m m₂ v ∧
      (botoes c).settle (callbackChat c (some data)) m₁ =
        (botoes c).settle ((painelDoMotivo c r data s).handle fun _ =>
          enviarMensagem c "⚠️ *Erro ao processar ação. Tente novamente.*") m₂ := by
  intro s data
  obtain ⟨v, first, going⟩ := settle_meets (M := botoes c) (Andamento c r id motivo m)
    (fun o m' v _ => andamento_honra m o m' v) meets_callbackEntrega (andamento_inicial row stored)
  obtain ⟨m₁, base, -, current, here⟩ :=
    settle_primeiro (c := c) .negarPedido id motivo (m.comFalhas [])
  rw [show (cenaDe c r id m).chat = c from rfl, here] at going
  have stored₁ : (m₁.conversas c).sessao = some r := going.2.1.sessao
  have object : (m₁.conversas c).objetos r = s := by
    have same := current.trans (congrArg (Option.map (m.conversas c).objetos) stored)
    rw [Conversa.atual, stored₁] at same
    exact Option.some.inj same
  have entrou' : s.acesso.Entrou m₁.db.agora := by
    rw [base]
    exact entrou
  obtain ⟨m₂, base', faults', stored', object', same⟩ :=
    settle_callbackChat (data_negarPedido id motivo) stored₁ object entrou'
  refine ⟨m₁, m₂, v, here, first, ⟨faults'.trans going.1, ⟨stored', congrArg Sessao.rumo object', ?_⟩,
    ?_⟩, same⟩
  · rw [base']
    exact going.2.1.valido
  · rw [base']
    exact going.2.2

/-- The delivery is marked under every schedule. -/
theorem marcaCerto_of {s : Sessao} (row : (m.db.entregas.get id).isSome)
    (shown : (m.conversas c).atual = some s) (entrou : s.acesso.Entrou m.db.agora)
    (settled : SemPendencia id (textoDoPainel (Oferta.negarPedido.data id motivo)) m.db s) :
    MarcaCerto c m .negarPedido id motivo := by
  intro is
  obtain ⟨r, stored, rfl⟩ := Option.map_eq_some_iff.mp shown
  let s := (m.conversas c).objetos r
  let texto := textoDoPainel (Oferta.negarPedido.data id motivo)
  let cena := cenaDe c r id m
  let R : Mundo → Bool → Bool → Prop := fun m' v _ => Andamento c r id motivo m m' v
  let pendente : SqlBot → Prop := fun q => s.etapa = some .falhaJustificativa ∧
    q = .falharEntrega texto s.pedidoId
  have left (w : Bool) (o : Ato) (m' : Mundo) (v : Bool) (joined : R m' v w) := andamento_honra m o m' v joined
  have right (v : Bool) (o : Ato) (m' : Mundo) (w : Bool) (joined : R m' v w) :=
    andamento_pendencia settled o m' w joined
  obtain ⟨m₁, m₂, v, here, first, joined, same⟩ := dois_ouvintes motivo row stored entrou
  have panel : Meets (caneta cena pendente)
      ((painelDoMotivo c r (Oferta.negarPedido.data id motivo) s).handle fun _ =>
        enviarMensagem c "⚠️ *Erro ao processar ação. Tente novamente.*") _ false :=
    meets_painelDoMotivo pendente (data_negarPedido id motivo) fun pending =>
      ⟨(settled pending).1, (settled pending).2.2,
        funext fun q => propext ⟨And.right, fun named => ⟨pending, named⟩⟩⟩
  obtain ⟨w, second, joined'⟩ := settle_meets (M := botoes c) (fun m w => R m v w)
    (fun o m w _ => right v o m w) panel joined
  rw [← same] at second joined'
  obtain ⟨state, tasks⟩ := aperto_espera _ here
  rw [← state] at joined'
  obtain ⟨⟨p', q', v', w', tasks', first', -, -, -, others, e', found',
    marked⟩, log⟩ :=
    turns_pair (M := botoes c) left right tasks first second joined' is
  constructor
  · intro entry made
    obtain ⟨v, w, -, pre⟩ := log entry made
    exact pre.elim caneta_silencia caneta_silencia
  · intro ended
    have finished : p'.Ended := ended p' (by rw [tasks']; exact List.mem_cons_self)
    have through : v' = true := by
      cases p' with
      | call o next => exact finished.elim
      | done a => exact first'
      | fail e => exact first'
    exact ⟨⟨e', found', marked through⟩, others⟩

end Presses

section Converse

variable {c : Chat} {m : Mundo} {id k : Nat} {motivo : Motivo} {α : Type}

theorem isSome_sem (q : SqlBot) (db : Db) :
    ((q.sem db).2.entregas.get k).isSome = (db.entregas.get k).isSome := by
  have altered (i : IdSql) (f : Entrega → Entrega) :
      ((db.alterarEntrega i f).entregas.get k).isSome = (db.entregas.get k).isSome := by
    cases i with
    | num n =>
      rw [show (db.alterarEntrega (.num n) f).entregas.get k = _ from Table.get_modify ..]
      split
      · rw [Option.isSome_map]
      · rfl
    | _ => rfl
  cases writes : q.escreveEntrega with
  | false => rw [entregas_sem writes]
  | true =>
    cases q with
    | updateEndereco => exact altered ..
    | receberEntrega => exact altered ..
    | falharEntrega => exact altered ..
    | receber => exact altered ..
    | justificar => exact altered ..
    | iniciarEntregas => exact Option.isSome_map
    | finalizarEntregas => exact Option.isSome_map
    | _ => cases writes

/-- No call of the bot adds or removes a delivery. -/
theorem isSome_exec (o : Ato) (m : Mundo) :
    ((Ato.exec o m).2.db.entregas.get k).isSome = (m.db.entregas.get k).isSome := by
  have effect (m : Mundo) : ((o.sem m).2.db.entregas.get k).isSome = (m.db.entregas.get k).isSome := by
    cases o with
    | query c q =>
      rw [Ato.sem]
      split
      · rfl
      · exact isSome_sem q m.db
    | _ => rfl
  exact Ato.exec_regra (R := fun _ m' => (m'.db.entregas.get k).isSome = (m.db.entregas.get k).isSome)
    (fun falhas => effect (m.comFalhas falhas)) (fun _ _ _ => rfl)
    fun _ falhas _ => effect (m.comFalhas falhas)

theorem isSome_run (f : Fluxo α) (m : Mundo) :
    ((f.run Ato.exec m).2.db.entregas.get k).isSome = (m.db.entregas.get k).isSome := by
  induction f generalizing m with
  | done a => rfl
  | fail e => rfl
  | call o next ih => exact (ih _ _).trans (isSome_exec o m)

theorem falhas_run (f : Fluxo α) (calm : m.falhas = []) : (f.run Ato.exec m).2.falhas = [] := by
  induction f generalizing m with
  | done a => exact calm
  | fail e => exact calm
  | call o next ih =>
    apply ih
    rw [Ato.exec_calmo o calm, o.falhas_sem, calm]

theorem settle_calmo (f : Fluxo Unit) (calm : m.falhas = []) :
    ((botoes c).settle f m).2.falhas = [] ∧
      ((((botoes c).settle f m).2.db.entregas.get k).isSome = (m.db.entregas.get k).isSome) := by
  induction f generalizing m with
  | done a => exact ⟨calm, rfl⟩
  | fail e => exact ⟨calm, rfl⟩
  | call o next ih =>
    rw [settle]
    split
    · have later : ((botoes c).exec o m).2.falhas = [] := by
        rw [show (botoes c).exec o m = o.sem m from Ato.exec_calmo o calm, o.falhas_sem, calm]
      exact ⟨(ih _ later).1, (ih _ later).2.trans (isSome_exec o m)⟩
    · exact ⟨calm, rfl⟩

/-- A synchronous call reports nothing, writes nothing and is answered. -/
theorem alarme_sync (o : Ato) (m : Mundo) (v : Bool) (sync : (botoes c).sync o = true)
    (seen : m.falhas = [] ∧ v = false) (_ : alarme.pre o v) :
    ∃ v', alarme.post o v (Ato.exec o m).1 v' ∧ (Ato.exec o m).2.falhas = [] ∧ v' = false := by
  obtain ⟨calm, rfl⟩ := seen
  rw [Ato.exec_calmo o calm, o.falhas_sem]
  refine ⟨false, ⟨?_, sem_recusada⟩, calm, rfl⟩
  cases o with
  | sendMessage => cases sync
  | _ => rfl

/-- What the panel takes for the reason is not the reason. -/
theorem textoDoPainel_ne : textoDoPainel (Oferta.negarPedido.data id motivo) ≠ motivo.texto := by
  intro same
  have read : (textoDoPainel (Oferta.negarPedido.data id motivo)).toList =
      motivo.texto.toList ++ '_' :: (toString id).toList := by
    rw [textoDoPainel, data_negarPedido, String.toList_ofList]
    simp [Texto.remover, List.isPrefixOf]
  have lengths := congrArg List.length (same ▸ read)
  simp at lengths

variable {oferta : Oferta}

/-- No listener may have a call to make that reports an error. -/
theorem MarcaCerto.calado (certo : MarcaCerto c m oferta id motivo) {i : Nat} {f : Fluxo Unit}
    (here : (aperto c (oferta.data id motivo) m).tasks[i]? = some f) (waiting : Waiting (botoes c) f) :
    ¬ ∃ o ∈ (botoes c).awaited f (aperto c (oferta.data id motivo) m).state, o.avisa = true := by
  rintro ⟨o, made, reports⟩
  obtain ⟨n, -, -, -, calls⟩ := solo here waiting
  rw [← calls] at made
  obtain ⟨e, entry, rfl⟩ := List.mem_map.mp made
  have silent := (certo (List.replicate n i)).1 e entry
  simp [silent] at reports

/-- The button of `falha_` always ends in an error. -/
theorem MarcaCerto.negar (certo : MarcaCerto c m oferta id motivo) : oferta = .negarPedido := by
  cases oferta with
  | negarPedido => rfl
  | falha =>
    exfalso
    obtain ⟨r, m', -, faults, -, same⟩ :=
      settle_callbackEntrega (c := c) (m.comFalhas []) (Oferta.falha.data id motivo)
    obtain ⟨v, meets, -, rfl⟩ := settle_meets (M := botoes c)
      (fun m v => m.falhas = [] ∧ v = false) alarme_sync
      (alarme_falha (c := c) (r := r) id motivo
        fun handled => if handled then pure () else ramoEntrega c r _) ⟨faults, rfl⟩
    rw [← same] at meets
    obtain ⟨state, tasks⟩ := aperto_espera (c := c) (m := m)
      (Oferta.falha.data id motivo) rfl
    apply certo.calado (i := 0) (by rw [tasks]; rfl) waiting_settle
    apply (awaited_alarme meets _).resolve_left (by decide)
    rw [state]
    have calm := (settle_calmo (k := 0) (c := c) (m := m.comFalhas [])
      (callbackEntrega c (some (Oferta.falha.data id motivo))) rfl).1
    exact (settle_calmo (k := 0) _ calm).1

theorem MarcaCerto.segundo (certo : MarcaCerto c m oferta id motivo) {m₁ : Mundo}
    (here : ((botoes c).settle (callbackEntrega c (some (oferta.data id motivo)))
      (m.comFalhas [])).2 = m₁) :
    ¬ ∃ o ∈ (botoes c).awaited (callbackChat c (some (oferta.data id motivo))) m₁,
      o.avisa = true := by
  obtain ⟨state, tasks⟩ := aperto_espera _ here
  rw [← awaited_settle, ← state]
  exact certo.calado (i := 1) (by rw [tasks]; rfl) waiting_settle

/-- The chat must be in the sector, or the panel calls the button invalid. -/
theorem MarcaCerto.entrou (certo : MarcaCerto c m .negarPedido id motivo) :
    ∃ s, (m.conversas c).atual = some s ∧ s.acesso.Entrou m.db.agora := by
  by_contra fora
  obtain ⟨m₁, base, calm, current, here⟩ :=
    settle_primeiro (c := c) .negarPedido id motivo (m.comFalhas [])
  have reason := data_negarPedido id motivo
  have fora' (s : Sessao) (shown : (m₁.conversas c).atual = some s) :
      ¬ s.acesso.Entrou m₁.db.agora := by
    rw [base]
    exact fun entrou => fora ⟨s, current.symm.trans shown, entrou⟩
  obtain ⟨r, m₂, faults, fora'', today, clock, same⟩ :=
    settle_sessaoDeHoje (c := c) (m := m₁) (Oferta.negarPedido.data id motivo)
      (by simp [reason]) fora'
  apply certo.segundo here
  rw [← awaited_settle, same, awaited_settle]
  rw [← clock] at today fora''
  exact awaited_fora reason today fora'' (faults.trans calm)

/-- What both listeners leave and tell when the first goes first. -/
theorem MarcaCerto.marcada (certo : MarcaCerto c m .negarPedido id motivo) {m₁ : Mundo}
    (here : ((botoes c).settle (callbackEntrega c
      (some (Oferta.negarPedido.data id motivo))) (m.comFalhas [])).2 = m₁) :
    let data := some (Oferta.negarPedido.data id motivo)
    let m₃ := (((botoes c).settle (callbackEntrega c data) (m.comFalhas [])).1.run Ato.exec
      ((botoes c).settle (callbackChat c data) m₁).2).2
    Marcada id motivo m.db.entregas
        ((((botoes c).settle (callbackChat c data) m₁).1.run Ato.exec m₃).2.db.entregas) ∧
      ∀ o ∈ (botoes c).awaited ((botoes c).settle (callbackChat c data) m₁).1 m₃,
        o.avisa = false := by
  intro data m₃
  obtain ⟨state, tasks⟩ := aperto_espera _ here
  obtain ⟨is, p, q, finished, finished', final, calls⟩ :=
    pair_solo (M := botoes c) tasks waiting_settle waiting_settle
  rw [state] at final calls
  obtain ⟨silent, marks⟩ := certo is
  have marked := marks (by
    rw [final]
    simp [finished, finished'])
  rw [final] at marked
  refine ⟨marked, fun o made => ?_⟩
  have entry : o ∈ ((botoes c).log (turns is)
      (aperto c (Oferta.negarPedido.data id motivo) m)).map Entry.op := by
    rw [calls]
    exact List.mem_append_right _ made
  obtain ⟨e, logged, rfl⟩ := List.mem_map.mp entry
  exact silent e logged

theorem MarcaCerto.linha (certo : MarcaCerto c m .negarPedido id motivo) :
    (m.db.entregas.get id).isSome := by
  obtain ⟨m₁, -, -, -, here⟩ := settle_primeiro (c := c) .negarPedido id motivo (m.comFalhas [])
  obtain ⟨⟨⟨e, found, -⟩, -⟩, -⟩ := certo.marcada here
  have first := settle_calmo (k := id) (c := c) (m := m.comFalhas [])
    (callbackEntrega c (some (Oferta.negarPedido.data id motivo))) rfl
  rw [here] at first
  have second := settle_calmo (k := id) (c := c) (m := m₁)
    (callbackChat c (some (Oferta.negarPedido.data id motivo))) first.1
  have after := (isSome_run _ _).symm.trans (congrArg Option.isSome found)
  exact first.2.symm.trans (second.2.symm.trans ((isSome_run _ _).symm.trans after))

/-- The call that reports an error is awaited. -/
theorem awaited_ocorre {f : Fluxo Unit} {texto : String} (reports : avisaErro texto = true)
    (told : Ocorre (EnviaTexto c texto) f m) : ∃ o ∈ (botoes c).awaited f m, o.avisa = true := by
  obtain ⟨x, made, ⟨teclado, sent⟩, -⟩ := told
  refine ⟨x.1, ?_, ?_⟩
  · have waits : (!(botoes c).sync x.1) = true := by rw [sent]; rfl
    exact List.mem_filter.mpr ⟨List.mem_map_of_mem made, waits⟩
  · rw [sent]
    exact reports

/-- The justification that is pending must be of another row, which already shows it, and must not
be the end of the route. -/
theorem MarcaCerto.pendencia (certo : MarcaCerto c m .negarPedido id motivo) {s : Sessao}
    (shown : (m.conversas c).atual = some s) (entrou : s.acesso.Entrou m.db.agora) :
    SemPendencia id (textoDoPainel (Oferta.negarPedido.data id motivo)) m.db s := by
  intro pending
  obtain ⟨r, stored, rfl⟩ := Option.map_eq_some_iff.mp shown
  let s := (m.conversas c).objetos r
  let data := Oferta.negarPedido.data id motivo
  let cena := cenaDe c r id m
  obtain ⟨m₁, m₂, v, here, first, going, same⟩ := dois_ouvintes motivo certo.linha stored entrou
  have number : s.pedidoId ≠ .nan := by
    intro nan
    apply certo.segundo here
    rw [← awaited_settle, same, awaited_settle, painelDoMotivo, if_pos pending, nan]
    exact (awaited_alarme (alarme_handle alarme_falhaJustificada) going.1).resolve_left
      (by decide)
  let tratar : Fluxo Unit := (falhaJustificada c (enviarMensagem c) r r data s.pedidoId).handle
    fun _ => enviarMensagem c "⚠️ *Erro ao processar ação. Tente novamente.*"
  -- The second listener waits for its first statement.
  have waits : (botoes c).settle (callbackChat c (some data)) m₁ = (tratar, m₂) := by
    rw [same, painelDoMotivo, if_pos pending]
    exact settle_waiting (p := tratar) rfl
  obtain ⟨marked, silent⟩ := certo.marcada here
  rw [waits] at marked silent
  obtain ⟨_, rfl, calm₃, scene₃, going₃⟩ := meets_run (Andamento c r id motivo m)
    (andamento_honra m) first going
  let m₃ := (((botoes c).settle (callbackEntrega c (some data)) (m.comFalhas [])).1.run Ato.exec m₂).2
  have there : Rumo c r m₃.db s.rumo m₃ := ⟨calm₃, rfl, scene₃.sessao, scene₃.rumo⟩
  have final : (tratar.run Ato.exec m₃).2.db.entregas =
      ((SqlBot.falharEntrega (textoDoPainel data) s.pedidoId).sem m₃.db).2.entregas := by
    rw [db_handle fun _ => doPainel_le.mensagem _]
    exact entregas_falhaJustificada there data number
  obtain ⟨⟨e', found', -, text'⟩, others⟩ := marked
  refine ⟨number, fun k named => ?_, fun active => ?_⟩
  · have shows {e : Entrega} (found : m₃.db.entregas.get k = some e) :
        ∃ e, (tratar.run Ato.exec m₃).2.db.entregas.get k = some e ∧ e.status = .falha ∧
          e.observacoes = some (textoDoPainel data) := by
      rw [final, show s.pedidoId = .num k from named]
      exact falharEntrega_num _ found
    have other : k ≠ id := by
      rintro rfl
      obtain ⟨e, found, -⟩ := going₃.2
      obtain ⟨e'', row'', -, text⟩ := shows found
      obtain rfl := Option.some.inj (found'.symm.trans row'')
      exact textoDoPainel_ne (Option.some.inj (text.symm.trans text'))
    refine ⟨other, fun e row => ?_⟩
    obtain ⟨e'', row'', marked⟩ := shows ((going₃.1 k other).trans row)
    obtain rfl := Option.some.inj (row.symm.trans ((others k other).symm.trans row''))
    exact marked
  · by_contra none_left
    have nobody : m₃.db.entregasDe [.rua] s.usuarioId = [] :=
      ninguem_marcando going₃ scene₃.valido none_left
    have course : s.rumo = (true, s.usuarioId) := congrArg (·, s.usuarioId) active
    have told := avisa_falhaJustificada (u := s.usuarioId) (course ▸ there) data number (by
      rw [entregasDe_sem rfl]
      exact entregasDe_falharEntrega (fun p member => by rw [nobody] at member; cases member) _)
    obtain ⟨o, made, reports⟩ := awaited_ocorre (c := c) (f := tratar) (by decide)
      ((ocorre_handle m₃).mpr (.inl told))
    exact absurd ((silent o made).symm.trans reports) (by decide)

/-- When a pressed reason marks its delivery and nothing else, without an error: exactly when the
reason was offered by `negar_pedido_`, the delivery exists, the courier is in with a session of the
day, and no justification is pending but one that would change no row and is not the last of an open
route. -/
theorem marcaCerto_iff (c : Chat) (m : Mundo) (oferta : Oferta) (id : Nat) (motivo : Motivo) :
    MarcaCerto c m oferta id motivo ↔
      oferta = .negarPedido ∧ (m.db.entregas.get id).isSome ∧
        ∃ s, (m.conversas c).atual = some s ∧ s.acesso.Entrou m.db.agora ∧
          SemPendencia id (textoDoPainel (oferta.data id motivo)) m.db s := by
  constructor
  · intro certo
    obtain rfl := certo.negar
    obtain ⟨s, shown, entrou⟩ := certo.entrou
    exact ⟨rfl, certo.linha, s, shown, entrou, certo.pendencia shown entrou⟩
  · rintro ⟨rfl, row, s, shown, entrou, settled⟩
    exact marcaCerto_of row shown entrou settled

end Converse

section Example

def sessaoDoEntregador : Sessao :=
  { setor := some .entrega, data := some 0, autenticado := true, usuarioId := some 7 }

def comEntregaNaRua : Mundo where
  db.entregas := .ofList
    [⟨1, "5545999990000", false, none, some 7, 0, .rua, none, none, none, none, none, none⟩]
  conversas _ := ⟨some 0, fun _ => sessaoDoEntregador, 1, []⟩

/-- The same after the press of `falha_1` and both of its listeners. -/
def motivoPedido : Mundo :=
  ((botoes 1).execute (turns (List.replicate 4 0 ++ List.replicate 4 1))
    (aperto 1 "falha_1".toList comEntregaNaRua)).state

/-- The courier is asked for the reason and answers with the first button. -/
theorem not_marcaCerto_falha : ¬ MarcaCerto 1 motivoPedido .falha 1 .clienteAusente := by
  intro certo
  have reported : ((botoes 1).log (turns [0, 0, 0])
      (aperto 1 (Oferta.falha.data 1 .clienteAusente) motivoPedido)).any (·.op.avisa) = true := by
    decide +kernel
  obtain ⟨e, made, reports⟩ := List.any_eq_true.mp reported
  simp [(certo [0, 0, 0]).1 e made] at reports

end Example

end IceClube
