import IceClube.Ociosa
import IceClube.Ocorrencias

/-! A sale that was left alone for five minutes. `handleSales` asks how old the session is, but
`chatbot.js` has set its time on the way there. -/
namespace IceClube

open Coop Prog

section Prazo

variable (c : Chat) (r : Nat)

/-- The timeout check of `handleSales`; `none` once the sale was reset. -/
def conferirPrazo : Fluxo (Option Sessao) := do
  let sessao ← faz (.ler c r)
  let agora ← faz .dateNow
  if vendaExpirada sessao agora then do
    atualizar c r abandonarVenda
    pure none
  else pure (some sessao)

/-- What `handleSales` does behind the check. -/
def interpretar (texto : Texto) (foto : Bool) : Option Sessao → Fluxo Unit
  | none => do
    enviarVenda c "🕒 *Sessão expirada. O fluxo foi reiniciado.*\nEscolha uma opção:"
    showInitialMenu c r
  | some sessao =>
    if Texto.toLowerCase texto = "sair".toList then do
      atualizar c r deixarSetor
      enviarVenda c despedida
      showInitialMenu c r
    else if Texto.toLowerCase texto = "produto".toList then produto c r
    else textoDaEtapa c r sessao.etapa texto foto

theorem handleSales_eq (texto : Texto) (foto : Bool) :
    handleSales c r texto foto = conferirPrazo c r >>= interpretar c r texto foto := by
  simp only [handleSales, conferirPrazo, bind_assoc]
  refine congrArg (faz (.ler c r) >>= ·) (funext fun sessao => ?_)
  refine congrArg (faz .dateNow >>= ·) (funext fun agora => ?_)
  split
  · rw [bind_assoc]
    rfl
  · rfl

end Prazo

def Sessao.Reiniciada (s : Sessao) : Prop :=
  s.carrinho = some [] ∧ s.etapa = none ∧ s.metodoPagamento = none ∧
    s.comprovantePagamento = none ∧ s.numeroCliente = none

instance (s : Sessao) : Decidable s.Reiniciada :=
  inferInstanceAs (Decidable (_ ∧ _ ∧ _ ∧ _ ∧ _))

def Ato.interpreta (c : Chat) (w : Mundo) : Ato → Option Sessao
  | .chama c' r .vendas =>
    let conferida := ((faz (.chama c r .vendas) >>= fun _ => conferirPrazo c r).run Ato.exec w).2
    if c' = c then some ((conferida.conversas c).objetos r) else none
  | _ => none

def Mundo.interpreta (c : Chat) (m : Mensagem) (w : Mundo) : List Sessao :=
  ((mensagem c m).trace Ato.exec w).filterMap fun x => x.1.interpreta c x.2

namespace Plantao

variable (p : Plantao)

/-- The chat was silent for more than five minutes, and at most fifteen, in the middle of a
sale. -/
def Atrasada (c : Chat) : Prop :=
  (∃ t ∈ p.ultimo c, 300000 < p.mundo.db.agora - t ∧ p.mundo.db.agora - t ≤ sessionTimeout) ∧
    ∃ s ∈ (p.mundo.conversas c).atual, s.setor = some .vendas ∧ s.autenticado = true ∧
      s.etapa.isSome = true

/-- A message that comes so late is interpreted in a sale that was reset. -/
def Reinicia : Chegada → Prop
  | .mensagem c m => p.Atrasada c → ∀ s ∈ p.mundo.interpreta c m, s.Reiniciada
  | _ => True

/-- A message of the chat gets to the sector: its session is of the day, has not expired and is
logged in, and the query finds the user, who has a number and does not owe a password. -/
def Escuta (c : Chat) : Prop :=
  p.mundo.falha = .nenhuma ∧ ∃ s ∈ (p.mundo.conversas c).atual,
    s.data = some (dia p.mundo.db.agora) ∧ sessaoExpirada s p.mundo.db.agora = false ∧
      s.logado = true ∧ ∃ id u, p.mundo.db.usuarioDe c = some (id, u) ∧ u.numero.getD "" ≠ "" ∧
        ¬ (u.senha.getD "" = "" ∧ s.cadastroEstado = some .aguardandoSenha)

def Ignora : Chegada → Prop
  | .mensagem c _ => p.Atrasada c → ¬ p.Escuta c
  | _ => True

end Plantao

section Caladas

variable {c : Chat} {r : Nat}

/-- The call hands nothing to a sector. -/
def Ato.NaoChama : Ato → Prop
  | .chama .. => False
  | _ => True

theorem naoChama_obter (inicio : Inicio) : (obter c inicio).Calls Ato.NaoChama := by
  apply calls_bind ((calls_ask _).mpr trivial)
  intro stored
  cases stored with
  | some r => exact calls_done r
  | none => exact (calls_ask _).mpr trivial

theorem naoChama_enviar (mensagem : String) :
    (enviarMensagem c mensagem).Calls Ato.NaoChama := by
  apply calls_handle _ fun _ => calls_done ()
  apply calls_bind ((calls_ask _).mpr trivial)
  intro id
  apply calls_bind (naoChama_obter _)
  intro r
  exact calls_bind ((calls_ask _).mpr trivial) fun _ => (calls_ask _).mpr trivial

theorem naoChama_grava {α : Type} {campos : List Campo} {f : Fluxo α}
    (rest : f.Calls Ato.NaoChama) :
    (faz (.atribuir c r campos) >>= fun _ => faz (.set c r) >>= fun _ => f).Calls Ato.NaoChama :=
  calls_bind ((calls_ask _).mpr trivial) fun _ =>
    calls_bind ((calls_ask _).mpr trivial) fun _ => rest

theorem naoChama_solicitar : (solicitarNumeroTelefone c).Calls Ato.NaoChama :=
  calls_handle (calls_bind ((calls_ask _).mpr trivial) fun _ => calls_done ())
    fun _ => naoChama_enviar _

theorem naoChama_menuSetores (cargo : Option Cargo) :
    (enviarMenuSetores c cargo).Calls Ato.NaoChama := by
  unfold enviarMenuSetores
  split
  · exact naoChama_enviar _
  · exact naoChama_enviar _
  · exact naoChama_enviar _
  · exact naoChama_enviar _
  · exact calls_done ()

theorem naoChama_novoUsuario (m : Mensagem) : (novoUsuario c r m).Calls Ato.NaoChama := by
  rw [novoUsuario]
  split
  · exact naoChama_enviar _
  · apply calls_handle
    · apply calls_bind ((calls_ask _).mpr trivial)
      intro usuario
      cases usuario with
      | some _ => exact naoChama_grava naoChama_solicitar
      | none =>
        apply calls_bind ((calls_ask _).mpr trivial)
        intro id
        apply calls_bind _ fun _ => naoChama_enviar _
        exact calls_bind ((calls_ask _).mpr trivial) fun _ => naoChama_grava naoChama_solicitar
    · intro erro
      split
      · exact naoChama_enviar _
      · exact naoChama_enviar _

theorem naoChama_definirSenha (m : Mensagem) : (definirSenha c r m).Calls Ato.NaoChama := by
  rw [definirSenha]
  split
  · exact naoChama_enviar _
  · apply calls_handle _ fun _ => naoChama_enviar _
    apply calls_bind ((calls_ask _).mpr trivial)
    intro _
    apply calls_bind ((calls_ask _).mpr trivial)
    intro agora
    apply naoChama_grava
    exact calls_bind ((calls_ask _).mpr trivial) fun _ => naoChama_menuSetores _

theorem naoChama_verificarSenha (m : Mensagem) : (verificarSenha c r m).Calls Ato.NaoChama := by
  rw [verificarSenha]
  split
  · exact naoChama_enviar _
  · apply calls_handle _ fun _ => naoChama_enviar _
    apply calls_bind ((calls_ask _).mpr trivial)
    intro usuario
    cases usuario with
    | none => exact naoChama_enviar _
    | some _ =>
      exact calls_bind ((calls_ask _).mpr trivial) fun _ => naoChama_grava (naoChama_enviar _)

theorem naoChama_consultar : (consultarUsuario c).Calls Ato.NaoChama :=
  calls_handle (calls_bind ((calls_ask _).mpr trivial) fun _ => calls_done _)
    fun _ => calls_bind (naoChama_enviar _) fun _ => calls_done _

theorem naoChama_receber (m : Mensagem) : (receber c m).Calls Ato.NaoChama := by
  apply calls_bind ((calls_ask _).mpr trivial)
  intro agora
  apply calls_bind (naoChama_obter _)
  intro r
  apply calls_bind ((calls_ask _).mpr trivial)
  intro _
  apply calls_bind
  · apply calls_bind ((calls_ask _).mpr trivial)
    intro sessao
    split
    · exact (calls_ask _).mpr trivial
    · exact calls_done r
  intro r
  apply calls_bind ((calls_ask _).mpr trivial)
  intro sessao
  split
  · exact calls_bind ((calls_ask _).mpr trivial) fun _ => calls_done none
  · exact naoChama_grava (calls_done _)

end Caladas

section Recebida

variable {c : Chat} {r : Nat} {w : Mundo}

theorem enviarMensagem_volta (mensagem : String) (w : Mundo) :
    ∃ w', (enviarMensagem c mensagem).run Ato.exec w = (.ok (), w') := handle_volta _ w

/-- The query answers if it does not fail. -/
theorem consultarUsuario_run (w : Mundo) :
    (w.falha = .nenhuma ∧ ∃ w', (consultarUsuario c).run Ato.exec w =
        (.ok (some (w.db.usuarioDe c)), w') ∧ w'.db = w.db ∧
          (w'.conversas c).objetos = (w.conversas c).objetos) ∨
      (w.falha ≠ .nenhuma ∧ ∃ w', (consultarUsuario c).run Ato.exec w = (.ok none, w')) := by
  have failed {erro : String} {w' : Mundo}
      (rough : Ato.exec (.query c (.selectUsuario c)) w = (.error erro, w')) :
      ∃ w', (consultarUsuario c).run Ato.exec w = (.ok none, w') := by
    obtain ⟨w'', told⟩ := enviarMensagem_volta (c := c)
      "⚠️ *Erro ao acessar o sistema. Tente novamente.*" w'
    refine ⟨w'', ?_⟩
    rw [consultarUsuario, run_handle, run_bind, run_faz, rough]
    simp only
    rw [run_bind, told]
    rfl
  cases met : w.falha with
  | nenhuma =>
    left
    have answer := exec_nenhuma (o := .query c (.selectUsuario c)) rfl met
    refine ⟨rfl, w.seguida.aplica c (.selectUsuario c), ?_, rfl, by simp; rfl⟩
    rw [consultarUsuario, run_handle, run_bind, run_faz, answer]
    rfl
  | rejeitada erro => exact .inr ⟨by simp, failed (exec_rejeitada rfl met)⟩
  | perdida => exact .inr ⟨by simp, failed (exec_perdida rfl met)⟩

end Recebida

section Entrega

variable {c : Chat} {r : Nat} {w : Mundo} {P : Ato → Mundo → Prop}

def SoChama (P : Ato → Mundo → Prop) : Prop := ∀ o w, o.NaoChama → ¬ P o w

theorem SoChama.nunca {α : Type} {f : Fluxo α} (only : SoChama P) (calls : f.Calls Ato.NaoChama)
    (w : Mundo) : ¬ Ocorre P f w := by
  rintro ⟨x, member, holds⟩
  exact only x.1 x.2 (calls_trace calls w x member) holds

theorem ocorre_grava (only : SoChama P) (campos : List Campo) (k : Fluxo Unit) (w : Mundo) :
    Ocorre P (faz (.atribuir c r campos) >>= fun _ => faz (.set c r) >>= fun _ => k) w ↔
      Ocorre P k (w.grava c r campos) := by
  have assigned : Ato.exec (.atribuir c r campos) w = (.ok (), w.conversa c (·.atribui r campos)) :=
    Ato.exec_infalivel rfl w
  have stored : Ato.exec (.set c r) (w.conversa c (·.atribui r campos)) =
      (.ok (), w.grava c r campos) := Ato.exec_infalivel rfl _
  rw [(faz_ok assigned _).2, (faz_ok stored _).2]
  simp only [only (.atribuir c r campos) _ trivial, only (.set c r) _ trivial, false_or]

/-- A registered user is handed to a sector once the password is set, the number known and the
login given. -/
theorem ocorre_cadastrado (only : SoChama P) (m : Mensagem) (id : Nat) (u : Usuario) (w : Mundo) :
    let gravada := w.grava c r [.usuarioId (some id), .cargo u.cargo, .nome u.nome]
    let s := (w.conversas c).objetos r
    Ocorre P (usuarioCadastrado c r m id u) w ↔
      ¬ (u.senha.getD "" = "" ∧ s.cadastroEstado = some .aguardandoSenha) ∧
        u.numero.getD "" ≠ "" ∧ s.logado = true ∧ Ocorre P (usuarioLogado c r m) gravada := by
  intro gravada s
  have read : Ato.exec (.ler c r) gravada = (.ok ((gravada.conversas c).objetos r), gravada) :=
    Ato.exec_infalivel rfl gravada
  have kept : (gravada.conversas c).objetos r =
      s.atribuirTodos [.usuarioId (some id), .cargo u.cargo, .nome u.nome] := by
    simp [gravada, Mundo.grava, s]
  have estado : ((gravada.conversas c).objetos r).cadastroEstado = s.cadastroEstado := by
    rw [kept]
    rfl
  have login : ((gravada.conversas c).objetos r).logado = s.logado := by
    rw [kept]
    rfl
  have asked : (do
      solicitarNumeroTelefone c
      enviarMensagem c "❗ *Compartilhe seu número de telefone antes de definir a senha.*" :
        Fluxo Unit).Calls Ato.NaoChama :=
    calls_bind naoChama_solicitar fun _ => naoChama_enviar _
  rw [usuarioCadastrado, ocorre_grava only, (faz_ok read _).2, estado, login]
  simp only [only (.ler c r) _ trivial, false_or]
  split
  next owes => exact iff_of_false (only.nunca (naoChama_definirSenha m) _) fun h => h.1 owes
  split
  next free nameless => exact iff_of_false (only.nunca asked _) fun h => h.2.1 nameless
  next free named =>
    cases known : s.logado with
    | false => simp [only.nunca (naoChama_verificarSenha m)]
    | true => simp [free, named]

theorem ocorre_logado (m : Mensagem) (sector : ((w.conversas c).objetos r).setor = some .vendas)
    (open_ : ((w.conversas c).objetos r).autenticado = true) (holds : P (.chama c r .vendas) w) :
    Ocorre P (usuarioLogado c r m) w := by
  have read : Ato.exec (.ler c r) w = (.ok ((w.conversas c).objetos r), w) :=
    Ato.exec_infalivel rfl w
  rw [usuarioLogado, (faz_ok read _).2, sector, open_]
  right
  change Ocorre P (executarSetor c r .vendas m) w
  rw [executarSetor, ocorre_handle]
  left
  rw [ocorre_bind, ocorre_faz]
  exact .inl holds

/-- What the handler of messages finds when it goes on with a session of the map. -/
structure Ouve (c : Chat) (s : Sessao) (id : Nat) (u : Usuario) (w : Mundo) : Prop where
  calmo : w.falha = .nenhuma
  data : s.data = some (dia w.db.agora)
  valida : sessaoExpirada s w.db.agora = false
  logado : s.logado = true
  usuario : w.db.usuarioDe c = some (id, u)
  numero : u.numero.getD "" ≠ ""
  senha : ¬ (u.senha.getD "" = "" ∧ s.cadastroEstado = some .aguardandoSenha)

/-- Nothing is handed to a sector unless all of that is found. -/
theorem ouve_mensagem (only : SoChama P) (m : Mensagem)
    (stored : (w.conversas c).sessao = some r) (told : Ocorre P (mensagem c m) w) :
    ∃ id u, Ouve c ((w.conversas c).objetos r) id u w := by
  obtain ⟨answer, w1, received, db, falhas, session⟩ := run_receberNa (c := c) m r w
  have received : (receber c m).run Ato.exec w = (.ok answer, w1) := by
    rw [run_receber, stored]
    exact received
  rw [mensagem_eq, (ocorre_bind_ok received).2] at told
  have told := told.resolve_left (only.nunca (naoChama_receber m) w)
  cases answer with
  | none => exact absurd told (only.nunca (naoChama_enviar _) w1)
  | some r' =>
    rcases consultarUsuario_run (c := c) w1 with ⟨calm, w2, asked, -, objects⟩ | ⟨-, w2, asked⟩
    · rw [seguir, (ocorre_bind_ok asked).2] at told
      have told := told.resolve_left (only.nunca naoChama_consultar w1)
      cases row : w1.db.usuarioDe c with
      | none =>
        rw [row] at told
        exact absurd told (only.nunca (naoChama_novoUsuario m) w2)
      | some known =>
        obtain ⟨id, u⟩ := known
        rw [row] at told
        obtain ⟨free, named, login, -⟩ := (ocorre_cadastrado only m id u w2).mp told
        rw [objects] at free login
        split at session
        next today =>
          split at session
          next => cases session
          next young =>
            obtain ⟨_, ids, same, object⟩ := session
            cases same
            rw [object] at free login
            have calm' : w.falha = .nenhuma := by
              rw [Mundo.falha, ← falhas]
              exact calm
            exact ⟨id, u, calm', today, by simpa using young, login, db ▸ row, named, free⟩
        next =>
          have out : ((w1.conversas c).objetos r').logado = false :=
            congrArg Prod.fst (session r' rfl)
          rw [out] at login
          cases login
    · rw [seguir, (ocorre_bind_ok asked).2] at told
      have told := told.resolve_left (only.nunca naoChama_consultar w1)
      exact absurd told (ocorre_done _ _)

/-- Then the sector is handed the session with the time of now, still in its stage. -/
theorem ocorre_ouvida (only : SoChama P) (m : Mensagem) {id : Nat} {u : Usuario}
    (stored : (w.conversas c).sessao = some r) (heard : Ouve c ((w.conversas c).objetos r) id u w)
    (sector : ((w.conversas c).objetos r).setor = some .vendas)
    (entered : ((w.conversas c).objetos r).autenticado = true)
    (holds : ∀ r' w', ((w'.conversas c).objetos r').lastUpdated = some w'.db.agora →
      ((w'.conversas c).objetos r').etapa = ((w.conversas c).objetos r).etapa →
      P (.chama c r' .vendas) w') : Ocorre P (mensagem c m) w := by
  obtain ⟨answer, w1, received, db, falhas, session⟩ := run_receberNa (c := c) m r w
  have received : (receber c m).run Ato.exec w = (.ok answer, w1) := by
    rw [run_receber, stored]
    exact received
  rw [if_pos heard.data, if_neg (by simp [heard.valida])] at session
  obtain ⟨r', ids, rfl, object⟩ := session
  have calm : w1.falha = .nenhuma := by
    rw [Mundo.falha, falhas]
    exact heard.calmo
  rcases consultarUsuario_run (c := c) w1 with ⟨-, w2, asked, db', objects⟩ | ⟨rough, -⟩
  · rw [mensagem_eq, (ocorre_bind_ok received).2, seguir, (ocorre_bind_ok asked).2, db,
      heard.usuario]
    right
    right
    apply (ocorre_cadastrado only m id u w2).mpr
    rw [objects, object]
    refine ⟨heard.senha, heard.numero, heard.logado, ?_⟩
    have kept : ((w2.grava c r' [.usuarioId (some id), .cargo u.cargo,
        .nome u.nome]).conversas c).objetos r' =
        { (w.conversas c).objetos r with
          messageIds := ids, lastUpdated := some w.db.agora,
          usuarioId := some id, cargo := u.cargo, nome := u.nome } := by
      simp [Mundo.grava, objects, object, Sessao.atribuirTodos, Sessao.atribuir]
    apply ocorre_logado m
    · rw [kept]
      exact sector
    · rw [kept]
      exact entered
    · apply holds
      · have clock : (w2.grava c r' [.usuarioId (some id), .cargo u.cargo, .nome u.nome]).db =
            w.db := (db'.trans db : w2.db = w.db)
        rw [kept, clock]
      · rw [kept]
  · exact absurd calm rough

end Entrega

section Paradas

variable {c : Chat} {r : Nat} {w : Mundo}

theorem conferirPrazo_nova (now : ((w.conversas c).objetos r).lastUpdated = some w.db.agora) :
    (((faz (.chama c r .vendas) >>= fun _ => conferirPrazo c r).run Ato.exec w).2.conversas
      c).objetos r = (w.conversas c).objetos r := by
  let entregue := w.conversa c (·.anota [.chamou r .vendas])
  have same : (entregue.conversas c).objetos = (w.conversas c).objetos := by simp [entregue]
  have fresh : vendaExpirada ((entregue.conversas c).objetos r) w.db.agora = false := by
    simp [vendaExpirada, same, now]
  rw [run_sync _ rfl]
  change (((conferirPrazo c r).run Ato.exec entregue).2.conversas c).objetos r = _
  rw [conferirPrazo, run_sync _ rfl]
  simp only [Ato.sem, answered_ok, bind_done]
  rw [run_sync _ rfl]
  simp only [Ato.sem, answered_ok, bind_done]
  rw [show entregue.db.agora = w.db.agora from rfl, fresh, if_neg Bool.false_ne_true]
  exact congrFun same r

/-- The sector interprets what it is handed in a session of this kind. -/
def Interpreta (c : Chat) (Q : Sessao → Prop) (o : Ato) (w : Mundo) : Prop :=
  ∃ s ∈ o.interpreta c w, Q s

theorem soChama_interpreta {Q : Sessao → Prop} : SoChama (Interpreta c Q) := by
  rintro o w quiet ⟨s, shown, -⟩
  cases o with
  | chama => exact quiet
  | _ => cases shown

theorem exists_interpreta {Q : Sessao → Prop} (m : Mensagem) :
    (∃ s ∈ w.interpreta c m, Q s) ↔ Ocorre (Interpreta c Q) (mensagem c m) w := by
  constructor
  · rintro ⟨s, member, holds⟩
    obtain ⟨x, called, shown⟩ := List.mem_filterMap.mp member
    exact ⟨x, called, s, shown, holds⟩
  · rintro ⟨x, called, s, shown, holds⟩
    exact ⟨s, List.mem_filterMap.mpr ⟨x, called, shown⟩, holds⟩

/-- A late message is interpreted in a sale that was reset if and only if it is not interpreted
at all. -/
theorem Plantao.reinicia_iff (p : Plantao) (a : Chegada) : p.Reinicia a ↔ p.Ignora a := by
  cases a with
  | contato | botao => exact Iff.rfl
  | mensagem c m =>
    apply imp_congr_right
    rintro ⟨-, s, shown, sector, entered, stage⟩
    obtain ⟨r, stored, rfl⟩ := Option.map_eq_some_iff.mp shown
    have heard : Ocorre (Interpreta c fun s => ¬ s.Reiniciada) (mensagem c m) p.mundo ↔
        p.Escuta c := by
      constructor
      · intro told
        obtain ⟨id, u, h⟩ := ouve_mensagem soChama_interpreta m stored told
        exact ⟨h.calmo, _, shown, h.data, h.valida, h.logado, id, u, h.usuario, h.numero, h.senha⟩
      · rintro ⟨calm, s, found, data, valid, login, id, u, user, number, password⟩
        obtain rfl := Option.mem_unique found shown
        apply ocorre_ouvida soChama_interpreta m stored
          ⟨calm, data, valid, login, user, number, password⟩ sector entered
        intro r' w' now kept
        refine ⟨(w'.conversas c).objetos r', ?_, fun reset => ?_⟩
        · rw [Ato.interpreta, conferirPrazo_nova now]
          exact if_pos rfl
        · rw [← kept, reset.2.1] at stage
          cases stage
    rw [← heard, ← exists_interpreta]
    simp only [not_exists, not_and, not_not]

/-- In every run, a late message is interpreted in a sale that was reset if and only if no late
message gets to the sector. -/
theorem vendaReinicia_iff (m : Mundo) (turnos : List Turno) :
    Sempre Plantao.Reinicia turnos (.inicio m) ↔ Sempre Plantao.Ignora turnos (.inicio m) :=
  sempre_congr fun antes => Plantao.reinicia_iff ((Plantao.inicio m).roda antes)

def comVendedor : Mundo where
  db :=
    { usuarios := .ofList [{
        chatId := 7, numero := some "5511999990000", senha := some "1234",
        cargo := some .vendedor }]
      setores := fun _ => some "abcd"
      agora := 1 }

def venderECalar : List Turno :=
  [.chega (.mensagem 7 { text := "1234".toList }),
    .chega (.botao 7 (some "setor_vendas".toList)),
    .chega (.mensagem 7 { text := "abcd".toList }),
    .chega (.botao 7 (some "criar_venda".toList)),
    .passa (6 * 60 * 1000) { db := comVendedor.db }]

/-- The next message is interpreted in the old stage. -/
theorem not_sempreReinicia : ¬ Sempre Plantao.Reinicia
    (venderECalar ++ [.chega (.mensagem 7 { text := "produto".toList })])
    (.inicio comVendedor) := by
  intro resets
  have late : ((Plantao.inicio comVendedor).roda venderECalar).Atrasada 7 := by
    refine ⟨⟨1, by decide +kernel, by decide +kernel, by decide +kernel⟩, ?_⟩
    decide +kernel
  have found := resets venderECalar (.mensagem 7 { text := "produto".toList }) [] rfl late
  revert found
  decide +kernel

end Paradas
end IceClube
