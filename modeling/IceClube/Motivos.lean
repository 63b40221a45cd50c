import IceClube.FimAutomatico
import IceClube.Portaria
import IceClube.Quantidade
import IceClube.Turns

/-! The reasons why a delivery failed: the data of the buttons that offer them, and the two
listeners that every press reaches. -/
namespace IceClube

open Coop Prog

def botoes (c : Chat) : System Texto Deriva String Ato.Res Unit Mundo where
  exec := Ato.exec
  sync := Ato.sync
  listeners data := [callbackEntrega c (some data), callbackChat c (some data)]
  drift := Mundo.derivar

inductive Motivo where
  | clienteAusente | enderecoIncorreto | recusadoPeloCliente | outro
  deriving DecidableEq, Repr

def Motivo.texto : Motivo → String
  | clienteAusente => "Cliente Ausente"
  | enderecoIncorreto => "Endereço Incorreto"
  | recusadoPeloCliente => "Recusado pelo Cliente"
  | outro => "Outro"

/-- The handler that offers the reasons: `falha_` of the panel, or `negar_pedido_` of the route. -/
inductive Oferta where
  | falha | negarPedido
  deriving DecidableEq, Repr

/-- The `callback_data` of the button for a reason; only one of the two names the delivery. -/
def Oferta.data (id : Nat) (motivo : Motivo) : Oferta → Texto
  | falha => s!"justificativa_{motivo.texto}".toList
  | negarPedido => s!"justificativa_{motivo.texto}_{id}".toList

/-- What the courier is told when a handler fails or does not know the button. -/
def avisaErro (texto : String) : Bool :=
  Texto.startsWith texto.toList "⚠️ *Erro".toList ||
    Texto.startsWith texto.toList "⚠️ *Ação inválida".toList

def Ato.avisa : Ato → Bool
  | .sendMessage _ texto _ => avisaErro texto
  | _ => false

structure Marcada (id : Nat) (motivo : Motivo) (antes depois : Table Entrega) : Prop where
  marcada : ∃ e, depois.get id = some e ∧ e.status = .falha ∧ e.observacoes = some motivo.texto
  outras : ∀ n, n ≠ id → depois.get n = antes.get n

section Reading

theorem split_ne_nil (t : Texto) : Texto.split t ≠ [] := by
  induction t with
  | nil => simp [Texto.split]
  | cons c resto ih =>
    obtain ⟨parte, partes, found⟩ := List.exists_cons_of_ne_nil ih
    simp only [Texto.split, found]
    split <;> simp

theorem split_sem {t : Texto} (sem : '_' ∉ t) : Texto.split t = [t] := by
  induction t with
  | nil => rfl
  | cons c resto ih =>
    simp only [List.mem_cons, not_or] at sem
    simp [Texto.split, ih sem.2, Ne.symm sem.1]

theorem split_append {t : Texto} (sem : '_' ∉ t) (resto : Texto) :
    Texto.split (t ++ '_' :: resto) = t :: Texto.split resto := by
  induction t with
  | nil =>
    obtain ⟨parte, partes, found⟩ := List.exists_cons_of_ne_nil (split_ne_nil resto)
    simp [Texto.split, found]
  | cons c t ih =>
    simp only [List.mem_cons, not_or] at sem
    simp [Texto.split, ih sem.2, Ne.symm sem.1]

theorem parseInt_digitos {D : Texto} (digits : ∀ c ∈ D, c.isDigit = true) (some_digit : D ≠ []) :
    parseInt (some D) = .num (Texto.valor D) := by
  have all : D.takeWhile Char.isDigit = D := by
    have whole : (D ++ []).takeWhile Char.isDigit = D ++ [].takeWhile Char.isDigit :=
      List.takeWhile_append_of_pos digits
    simpa using whole
  obtain ⟨c, resto, rfl⟩ := List.exists_cons_of_ne_nil some_digit
  have digit := digits c List.mem_cons_self
  have other {x : Char} (plain : x.isDigit = false) : c ≠ x := by
    rintro rfl
    simp [plain] at digit
  have inside {x : Char} {fim : Texto} (plain : x.isDigit = false) : resto ≠ x :: fim := by
    rintro rfl
    have := digits x (by simp)
    simp [plain] at this
  have solid : espaco c = false := Texto.espaco_palavra (Texto.palavra_digito digit)
  have decimal : parseNat (c :: resto) = some (Texto.valor (c :: resto)) := by
    rw [parseNat]
    · simp [all]
    · intro fim same
      exact inside (x := 'x') (by decide) (List.cons.inj same).2
    · intro fim same
      exact inside (x := 'X') (by decide) (List.cons.inj same).2
  have kept : (c :: resto).dropWhile espaco = c :: resto := by
    simp [solid]
  rw [parseInt, Option.map_some, kept]
  split
  next absent => cases absent
  next same => exact absurd (List.cons.inj (Option.some.inj same)).1 (other (by decide))
  next same => exact absurd (List.cons.inj (Option.some.inj same)).1 (other (by decide))
  next same =>
    obtain rfl := Option.some.inj same
    simp [decimal]

theorem parseInt_repr (id : Nat) : parseInt (some (toString id).toList) = .num id := by
  have some_digit : (toString id).toList ≠ [] := by
    rw [Nat.toString_eq_repr, Nat.toList_repr]
    exact Nat.toDigits_ne_nil
  rw [parseInt_digitos (digitos_repr id) some_digit, Texto.valor_repr]

variable (id : Nat) (motivo : Motivo)

theorem sem_traco : '_' ∉ motivo.texto.toList := by
  cases motivo <;> decide

theorem data_falha : Oferta.falha.data id motivo =
    "justificativa".toList ++ '_' :: motivo.texto.toList := by
  rw [Oferta.data, String.toList_append]
  rfl

theorem data_negarPedido : Oferta.negarPedido.data id motivo =
    "justificativa".toList ++ '_' :: (motivo.texto.toList ++ '_' :: (toString id).toList) := by
  rw [Oferta.data, String.toList_append, String.toList_append, String.toList_append]
  simp
  rfl

theorem pedidoDoBotao_falha : pedidoDoBotao (Oferta.falha.data id motivo) = .nan := by
  rw [pedidoDoBotao, data_falha, split_append (by decide), split_sem (sem_traco motivo)]
  rfl

theorem split_negarPedido : Texto.split (Oferta.negarPedido.data id motivo) =
    ["justificativa".toList, motivo.texto.toList, (toString id).toList] := by
  have digits : '_' ∉ (toString id).toList := fun member => by
    simpa using digitos_repr id '_' member
  rw [data_negarPedido, split_append (by decide), split_append (sem_traco motivo), split_sem digits]

theorem pedidoDoBotao_negarPedido : pedidoDoBotao (Oferta.negarPedido.data id motivo) = .num id := by
  rw [pedidoDoBotao, split_negarPedido]
  exact parseInt_repr id

end Reading

/-- What a press finds: the courier's session, how it stands on the route, and whether another of
his deliveries is on the street. -/
structure Cena where
  chat : Chat
  sessao : Nat
  rumo : Bool × Option Nat
  restam : Prop

/-- An assignment that changes neither the courier nor whether the route is open. -/
def Campo.brando : Campo → Bool
  | .usuarioId _ | .rotaAtiva _ => false
  | _ => true

theorem rumo_atribuirTodos {campos : List Campo} (todos : campos.all Campo.brando = true)
    (s : Sessao) : (s.atribuirTodos campos).rumo = s.rumo :=
  atribuirTodos_visao (fun s campo h => by cases campo <;> first | rfl | cases h) todos s

/-- The call writes no delivery, reports no error and is not refused, and the session stays the
chat's. -/
def Ato.Cala (cena : Cena) : Ato → Prop
  | .query _ q => q.recusa = none ∧ q.escreveEntrega = false
  | .sendMessage _ texto _ => avisaErro texto = false
  | .atribuir _ _ campos => campos.all Campo.brando = true
  | .set c r => c = cena.chat ∧ r = cena.sessao
  | .get _ | .ler .. | .dateNow | .answerCallbackQuery _ => True
  | _ => False

/-- What the answer to a call tells of the scene. -/
def Ato.Traz (cena : Cena) : (o : Ato) → o.Res → Prop
  | .get c, sessao => c = cena.chat → sessao = some cena.sessao
  | .ler c r, s => c = cena.chat → r = cena.sessao → s.rumo = cena.rumo
  | .query _ (.selectEntregas usuarioId), pedidos =>
    usuarioId = cena.rumo.2 → cena.restam → pedidos ≠ []
  | _, _ => True

def Ato.Escreve (escrita : SqlBot → Prop) : Ato → Prop
  | .query _ q => q.recusa = none ∧ q.escreveEntrega = true ∧ escrita q
  | _ => False

/-- A handler whose calls are answered: it writes a delivery at most once, by one of the
statements `escrita`. -/
def caneta (cena : Cena) (escrita : SqlBot → Prop) : Contract String Ato.Res Bool where
  pre o v := o.Cala cena ∨ v = false ∧ o.Escreve escrita
  post o v answer v' := (∃ a, answer = .ok a ∧ o.Traz cena a) ∧
    match o with
    | .query _ q => v' = (v || q.escreveEntrega)
    | _ => v' = v

section Calls

variable {α β : Type} {cena : Cena} {escrita : SqlBot → Prop} {v : Bool}

/-- Where every call is answered, the program returns without writing a delivery or reporting
an error. -/
def Cala (cena : Cena) (f : Fluxo α) : Prop :=
  ∀ escrita v, Meets (caneta cena escrita) f (fun answer v' => (∃ a, answer = .ok a) ∧ v' = v) v

theorem cala_pure (a : α) : Cala cena (pure a : Fluxo α) := fun _ _ => ⟨⟨a, rfl⟩, rfl⟩

/-- What follows a silent part starts where that part did. -/
theorem cala_antes {f : Fluxo α} {g : α → Fluxo β} {Q : Except String β → Bool → Prop}
    (first : Cala cena f) (rest : ∀ a, Meets (caneta cena escrita) (g a) Q v) :
    Meets (caneta cena escrita) (f >>= g) Q v := by
  rw [meets_bind]
  apply meets_mono (first escrita v)
  rintro answer v' ⟨⟨a, rfl⟩, rfl⟩
  exact rest a

theorem cala_bind {f : Fluxo α} {g : α → Fluxo β} (first : Cala cena f) (rest : ∀ a, Cala cena (g a)) :
    Cala cena (f >>= g) := fun escrita v => cala_antes first fun a => rest a escrita v

/-- A program that returns never gives its rejections to a handler. -/
theorem meets_sem_erro {f : Fluxo α} {h : String → Fluxo α} {J : Bool → Prop}
    (body : Meets (caneta cena escrita) f (fun answer v' => (∃ a, answer = .ok a) ∧ J v') v) :
    Meets (caneta cena escrita) (f.handle h) (fun answer v' => (∃ a, answer = .ok a) ∧ J v') v := by
  rw [meets_handle]
  apply meets_mono body
  rintro answer v' ⟨⟨a, rfl⟩, kept⟩
  exact ⟨⟨a, rfl⟩, kept⟩

theorem cala_handle {f : Fluxo α} {h : String → Fluxo α} (body : Cala cena f) : Cala cena (f.handle h) :=
  fun escrita v => meets_sem_erro (body escrita v)

theorem caneta_cala {o : Ato} {v' : Bool} {answer : Except String o.Res} (cala : o.Cala cena)
    (post : (caneta cena escrita).post o v answer v') :
    (∃ a, answer = .ok a ∧ o.Traz cena a) ∧ v' = v := by
  refine ⟨post.1, ?_⟩
  cases o with
  | query c q =>
    have parada : q.escreveEntrega = false := cala.2
    simpa [parada] using post.2
  | _ => exact post.2

theorem cala_faz {o : Ato} (cala : o.Cala cena) : Cala cena (faz o) := by
  intro escrita v
  refine (meets_ask ..).mpr ⟨.inl cala, fun answer v' post => ?_⟩
  obtain ⟨⟨a, answered, -⟩, same⟩ := caneta_cala cala post
  exact ⟨⟨a, answered⟩, same⟩

theorem cala_ouve {o : Ato} {g : o.Res → Fluxo β} {Q : Except String β → Bool → Prop}
    (cala : o.Cala cena) (rest : ∀ a, o.Traz cena a → Meets (caneta cena escrita) (g a) Q v) :
    Meets (caneta cena escrita) (faz o >>= g) Q v := by
  rw [meets_bind]
  refine (meets_ask ..).mpr ⟨.inl cala, fun answer v' post => ?_⟩
  obtain ⟨⟨a, rfl, tells⟩, rfl⟩ := caneta_cala cala post
  exact rest a tells

theorem cala_segue {o : Ato} {g : o.Res → Fluxo β} (cala : o.Cala cena)
    (rest : ∀ a, Cala cena (g a)) : Cala cena (faz o >>= g) :=
  fun escrita v => cala_ouve cala fun a _ => rest a escrita v

theorem cala_ite {b : Prop} [Decidable b] {f g : Fluxo α} (sim : Cala cena f) (nao : Cala cena g) :
    Cala cena (if b then f else g) := by
  split
  · exact sim
  · exact nao

/-- The one statement of the handler that writes a delivery. -/
theorem caneta_escreve {c : Chat} {q : SqlBot} {g : q.Res → Fluxo β}
    {Q : Except String β → Bool → Prop} (accepted : q.recusa = none)
    (writes : q.escreveEntrega = true) (mine : escrita q)
    (rest : ∀ a, Meets (caneta cena escrita) (g a) Q true) :
    Meets (caneta cena escrita) (consulta c q >>= g) Q false := by
  rw [meets_bind]
  refine (meets_ask ..).mpr ⟨.inr ⟨rfl, accepted, writes, mine⟩, ?_⟩
  rintro answer v' ⟨⟨a, rfl, -⟩, view⟩
  simp only [writes, Bool.or_true] at view
  subst view
  exact rest a

theorem meets_obter {inicio : Inicio} {g : Nat → Fluxo β} {Q : Except String β → Bool → Prop}
    (rest : Meets (caneta cena escrita) (g cena.sessao) Q v) :
    Meets (caneta cena escrita) (obter cena.chat inicio >>= g) Q v := by
  rw [obter, bind_assoc]
  apply cala_ouve (o := .get cena.chat) trivial
  intro found here
  rw [here rfl]
  exact rest

theorem cala_guardado {campos : List Campo} (plain : campos.all Campo.brando = true) :
    Cala cena (faz (.atribuir cena.chat cena.sessao campos) >>= fun _ =>
      faz (.set cena.chat cena.sessao)) :=
  cala_segue plain fun _ => cala_faz ⟨rfl, rfl⟩

theorem cala_enviarMensagem {mensagem : String} (plain : avisaErro mensagem = false) :
    Cala cena (enviarMensagem cena.chat mensagem) := by
  apply cala_handle
  refine cala_segue plain fun id escrita v => ?_
  exact meets_obter (cala_guardado rfl escrita v)

theorem cala_listarPedidosPendentes (usuarioId : Option Nat) :
    Cala cena (listarPedidosPendentes cena.chat (enviarMensagem cena.chat) usuarioId) := by
  apply cala_handle
  refine cala_segue ⟨rfl, rfl⟩ fun pedidos => ?_
  apply cala_ite
  · exact cala_enviarMensagem (by decide)
  · exact cala_enviarMensagem (by simp [avisaErro, Texto.startsWith, List.isPrefixOf, toString])

/-- The route is not open, or something is left on the street. -/
theorem cala_verificarFinalizar (open_left : cena.rumo.1 = true → cena.restam) :
    Cala cena (verificarFinalizarRotaAutomaticamente cena.chat (enviarMensagem cena.chat)
      cena.sessao) := by
  apply cala_handle
  intro escrita v
  refine cala_ouve (o := .ler cena.chat cena.sessao) trivial fun sessao known => ?_
  refine cala_ouve (o := .query cena.chat (.selectEntregas sessao.usuarioId)) ⟨rfl, rfl⟩ ?_
  intro pedidosPendentes left
  refine cala_ouve (o := .ler cena.chat cena.sessao) trivial fun sessao' known' => ?_
  have other : ¬ (pedidosPendentes = [] ∧ sessao'.rotaAtiva = true) := fun ⟨nobody, active⟩ =>
    left (congrArg Prod.snd (known rfl rfl))
      (open_left ((congrArg Prod.fst (known' rfl rfl)).symm.trans active)) nobody
  rw [if_neg other]
  apply cala_ite
  · exact cala_enviarMensagem (by simp [avisaErro, Texto.startsWith, List.isPrefixOf, toString])
  · exact cala_pure ()

theorem cala_menuPadrao :
    Cala cena (menuPadrao cena.chat (enviarMensagem cena.chat) cena.sessao) := by
  refine cala_segue trivial fun sessaoAtual => ?_
  apply cala_ite (cala_pure ())
  apply cala_ite (cala_enviarMensagem (by decide))
  apply cala_ite (cala_enviarMensagem (by decide))
  apply cala_bind
  · exact cala_ite (cala_enviarMensagem (by decide)) (cala_pure ())
  · exact fun _ => cala_guardado rfl

theorem cala_organizarSessao {texto data : Texto} (outro : texto ≠ "organizar_rota".toList)
    (iniciar : data ≠ "iniciar_rota".toList) (finalizar : data ≠ "finalizar_rota".toList)
    (cancelar : data ≠ "cancelar_rota".toList) :
    Cala cena (organizarSessao cena.chat cena.sessao (enviarMensagem cena.chat)
      { texto := texto, data := some data }) := by
  refine cala_segue ⟨rfl, rfl⟩ fun _ => ?_
  simp only [outro, iniciar, finalizar, cancelar, Option.some.injEq, or_self, if_false]
  refine cala_segue trivial fun sessaoAtual => ?_
  split
  · contradiction
  · contradiction
  · exact cala_pure false

end Calls

section Presses

variable {cena : Cena} {c : Chat} {r : Nat} {id : Nat} {motivo : Motivo} {data x : Texto}

theorem trim_cons {a : Char} (solid : espaco a = false) (x : Texto) :
    ∃ y, Texto.trim (a :: x) = a :: y := by
  have kept : (a :: x).dropWhile espaco = a :: x := by simp [solid]
  rw [Texto.trim, kept, List.reverse_cons, List.dropWhile_append]
  split
  · exact ⟨[], by simp [solid]⟩
  · exact ⟨(x.reverse.dropWhile espaco).reverse, by simp⟩

/-- The button of a reason is known to the route, whoever offered it. -/
theorem ramoOrganizar_motivo (enviar : String → Fluxo Unit)
    (reason : data = "justificativa".toList ++ '_' :: x) :
    ramoOrganizar c r enviar data = some (justificar c r enviar data) := by
  subst reason
  simp [ramoOrganizar, Texto.startsWith, List.isPrefixOf]

theorem meets_justificar :
    Meets (caneta cena fun q => ∃ t, q = .justificar t motivo.texto (.num id))
      (justificar cena.chat cena.sessao (enviarMensagemWrapper cena.chat)
        (Oferta.negarPedido.data id motivo))
      (fun answer v => (∃ a, answer = .ok a) ∧ v = true) false := by
  have reason : String.ofList ((Texto.split (Oferta.negarPedido.data id motivo))[1]?.getD []) =
      motivo.texto := by
    simp [split_negarPedido]
  rw [justificar, pedidoDoBotao_negarPedido, reason]
  refine cala_antes (cala_faz trivial) fun _ => cala_antes (cala_faz trivial) fun t => ?_
  refine caneta_escreve rfl rfl ⟨t, rfl⟩ fun _ => ?_
  refine cala_bind ?_ (fun _ => cala_guardado rfl) _ true
  exact cala_segue (by simp [Ato.Cala, avisaErro, Texto.startsWith, List.isPrefixOf, toString])
    fun _ => cala_pure ()

theorem meets_callbackEntrega :
    Meets (caneta cena fun q => ∃ t, q = .justificar t motivo.texto (.num id))
      (callbackEntrega cena.chat (some (Oferta.negarPedido.data id motivo))) (fun _ v => v = true)
      false := by
  apply meets_obter
  simp only [tratarCallbackOrganizarRota,
    ramoOrganizar_motivo (enviarMensagemWrapper cena.chat) (data_negarPedido id motivo)]
  rw [meets_bind, meets_handle, meets_bind]
  apply meets_mono meets_justificar
  rintro answer v ⟨⟨a, rfl⟩, rfl⟩
  exact rfl

theorem meets_falhaJustificada {pid : IdSql} (known : pid ≠ .nan)
    (open_left : cena.rumo.1 = true → cena.restam) :
    Meets (caneta cena fun q =>
        q = .falharEntrega (String.ofList (Texto.remover "justificativa_".toList data)) pid)
      (falhaJustificada cena.chat (enviarMensagem cena.chat) cena.sessao cena.sessao data pid)
      (fun answer v => (∃ a, answer = .ok a) ∧ v = true) false := by
  have accepted (justificativa : String) : (SqlBot.falharEntrega justificativa pid).recusa = none ∧
      (SqlBot.falharPedido pid).recusa = none := by
    cases pid with
    | nan => exact absurd rfl known
    | _ => exact ⟨rfl, rfl⟩
  apply meets_sem_erro (J := fun v => v = true)
  refine cala_antes (cala_faz ⟨rfl, rfl⟩) fun _ => ?_
  refine caneta_escreve (accepted _).1 rfl rfl fun _ => ?_
  refine cala_segue (o := .query cena.chat (.falharPedido pid)) ⟨(accepted "").2, rfl⟩ (fun _ => ?_)
    _ true
  refine cala_segue ⟨rfl, rfl⟩ fun _ => ?_
  apply cala_bind (cala_enviarMensagem (by
    simp [avisaErro, Texto.startsWith, List.isPrefixOf, toString]))
  intro _
  refine cala_segue trivial fun sessao => ?_
  apply cala_bind (cala_listarPedidosPendentes _)
  intro _
  apply cala_bind (cala_verificarFinalizar open_left)
  exact fun _ => cala_guardado rfl

/-- The listener of `chatbot.js` from where it read the session of a courier. -/
def painelDoMotivo (c : Chat) (r : Nat) (data : Texto) (s : Sessao) : Fluxo Unit :=
  if s.etapa = some .falhaJustificativa then
    falhaJustificada c (enviarMensagem c) r r data s.pedidoId
  else do
    let handledByOrganizarRota ← organizarSessao c r (enviarMensagem c)
      { texto := Texto.trim data, data := some data }
    if handledByOrganizarRota then pure () else menuPadrao c (enviarMensagem c) r

/-- A command that begins otherwise is not asked for. -/
theorem pede_outro {a : Char} {y : Texto} (comando : String) (first : data = a :: x)
    (trimmed : Texto.trim data = a :: y) (apart : comando.toList.head? ≠ some a) :
    Entrada.pede { texto := Texto.trim data, data := some data } comando = false := by
  simp only [Entrada.pede, Bool.or_eq_false_iff, decide_eq_false_iff_not, Option.some.injEq]
  constructor
  · intro same
    exact apart (by rw [← same, trimmed, List.head?_cons])
  · intro same
    exact apart (by rw [← same, first, List.head?_cons])

variable {m : Mundo} {s : Sessao}

/-- The panel of a reason: the pending justification, or what it does not know. -/
theorem painel_motivo (reason : data = "justificativa".toList ++ '_' :: x)
    (enviar : String → Fluxo Unit) :
    ∃ seguir : Sessao → Fluxo Unit,
      painel c enviar r r { texto := Texto.trim data, data := some data } =
        faz (.ler c r) >>= seguir ∧
      ∀ s, seguir s = if s.etapa = some .falhaJustificativa then
          falhaJustificada c enviar r r data s.pedidoId
        else delegar c enviar r { texto := Texto.trim data, data := some data } := by
  obtain ⟨y, trimmed⟩ := trim_cons (a := 'j') (by decide) ("ustificativa".toList ++ '_' :: x)
  have first : data = 'j' :: ("ustificativa".toList ++ '_' :: x) := reason
  rw [← first] at trimmed
  have reasons : Texto.startsWith data "justificativa_".toList = true := by
    simp [first, Texto.startsWith]
  have other (comando : String) (apart : comando.toList.head? ≠ some 'j') :=
    pede_outro comando first trimmed apart
  have voltar := other "voltar_menu" (by decide)
  have sair := other "sair" (by decide)
  have ajuda := other "ajuda" (by decide)
  have pedidos := other "submenu_pedidos" (by decide)
  have organizar := other "submenu_organizar_rota" (by decide)
  have iniciar := other "iniciar_rota" (by decide)
  have finalizar := other "finalizar_rota" (by decide)
  have lista := other "lista" (by decide)
  have todos := other "pedidos" (by decide)
  have valores := other "valores_receber" (by decide)
  refine ⟨_, rfl, fun s => ?_⟩
  simp only [voltar, sair, ajuda, pedidos, organizar, iniciar, finalizar, lista, todos, valores,
    Bool.false_eq_true, if_false, false_and]
  by_cases pending : s.etapa = some .falhaJustificativa
  · simp only [pending, reasons, if_true]
  · rw [if_neg pending]
    split
    next here _ => exact absurd here pending
    next => rfl

theorem settle_painel (reason : data = "justificativa".toList ++ '_' :: x)
    (stored : (m.conversas c).sessao = some r) (shown : (m.conversas c).objetos r = s)
    (h : String → Fluxo Unit) :
    (botoes c).settle ((painel c (enviarMensagem c) r r
        { texto := Texto.trim data, data := some data }).handle h) m =
      (botoes c).settle ((painelDoMotivo c r data s).handle h) m := by
  obtain ⟨seguir, here, goes⟩ := painel_motivo (c := c) (r := r) reason (enviarMensagem c)
  have lido : (botoes c).settle ((faz (.ler c r) >>= seguir).handle h) m =
      (botoes c).settle ((seguir s).handle h) m := by
    simp [System.settle, botoes, Ato.sync, Prog.handle, Ato.exec, Ato.infalivel, Ato.sem, shown]
  rw [here, lido, goes, painelDoMotivo]
  by_cases pending : s.etapa = some .falhaJustificativa
  · rw [if_pos pending, if_pos pending]
  · rw [if_neg pending, if_neg pending]
    simp [delegar, tratarOrganizarRota, System.settle, botoes, Ato.sync, Prog.handle, Ato.exec,
      Ato.infalivel, Ato.sem, stored]

theorem settle_callbackChat (reason : data = "justificativa".toList ++ '_' :: x)
    (stored : (m.conversas c).sessao = some r) (shown : (m.conversas c).objetos r = s)
    (entrou : s.acesso.Entrou m.db.agora) :
    ∃ m', m'.db = m.db ∧ m'.falhas = m.falhas ∧ (m'.conversas c).sessao = some r ∧
      (m'.conversas c).objetos r = s ∧
      (botoes c).settle (callbackChat c (some data)) m =
        (botoes c).settle ((painelDoMotivo c r data s).handle fun _ =>
          enviarMensagem c "⚠️ *Erro ao processar ação. Tente novamente.*") m' := by
  obtain ⟨setor, autenticado, hoje⟩ := entrou
  have setor' : s.setor = some .entrega := setor
  have autenticado' : s.autenticado = true := autenticado
  have hoje' : s.data = some (dia m.db.agora) := hoje
  have some_data : data ≠ [] := by simp [reason]
  let m' := (m.conversa c (·.anota [.botao data])).conversa c (·.anota [.chamou r .entrega])
  have found : (m'.conversas c).sessao = some r := by simp [m', stored]
  have same : (m'.conversas c).objetos r = s := by simp [m', shown]
  refine ⟨m', rfl, rfl, found, same, ?_⟩
  rw [← settle_painel reason found same]
  simp only [callbackChat, Option.getD_some, some_data, if_false, obter, sessaoDeHoje,
    callbackNaSessao, tratarEntrega]
  simp [System.settle, botoes, Ato.sync, Prog.handle, Ato.exec, Ato.infalivel, Ato.sem, stored,
    shown, setor', autenticado', hoje', m']

end Presses

end IceClube
