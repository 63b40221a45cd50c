import IceClube.Cadastro
import IceClube.Ocorrencias

/-! A handler followed call by call: where every call is answered, how it goes on and which
messages reach the chat on the way; elsewhere, what is behind it once a call of some kind is
made. -/
namespace IceClube

open Coop Prog

def EnviaTexto (c : Chat) (texto : String) (o : Ato) (m : Mundo) : Prop :=
  (∃ teclado, o = .sendMessage c texto teclado) ∧ m.alcanca = true

instance (c : Chat) (texto : String) (o : Ato) (m : Mundo) : Decidable (EnviaTexto c texto o m) :=
  decidable_of_iff ((match o with
    | .sendMessage c' texto' _ => c' = c && texto' = texto
    | _ => false) = true ∧ m.alcanca = true) <| and_congr_left' <| by cases o <;> simp

/-- The one program goes on as the other does, and no message reached the chat until then. -/
structure Segue {α : Type} (c : Chat) (f : Fluxo α) (m : Mundo) (g : Fluxo α) (m' : Mundo) :
    Prop where
  run : f.run Ato.exec m = g.run Ato.exec m'
  envia : ∀ texto, Ocorre (EnviaTexto c texto) f m ↔ Ocorre (EnviaTexto c texto) g m'
  ocorre : ∀ {P : Ato → Mundo → Prop}, Ocorre P g m' → Ocorre P f m

section Segue

variable {α β : Type} {c : Chat} {m m' m'' : Mundo} {o : Ato}

theorem Segue.trans {f g h : Fluxo α} (first : Segue c f m g m') (later : Segue c g m' h m'') :
    Segue c f m h m'' :=
  ⟨first.run.trans later.run, fun texto => (first.envia texto).trans (later.envia texto),
    fun made => first.ocorre (later.ocorre made)⟩

theorem Segue.refl (f : Fluxo α) (m : Mundo) : Segue c f m f m := ⟨rfl, fun _ => Iff.rfl, id⟩

theorem Segue.bind {f g : Fluxo α} (goes : Segue c f m g m') (k : α → Fluxo β) :
    Segue c (f >>= k) m (g >>= k) m' := by
  refine ⟨?_, fun texto => ?_, fun made => ?_⟩
  · rw [run_bind, run_bind, goes.run]
  · rw [ocorre_bind, ocorre_bind, goes.envia, goes.run]
  · rw [ocorre_bind] at made ⊢
    rw [goes.run]
    exact made.imp_left goes.ocorre

theorem Segue.handle {f g : Fluxo α} (goes : Segue c f m g m') (h : String → Fluxo α) :
    Segue c (f.handle h) m (g.handle h) m' := by
  refine ⟨?_, fun texto => ?_, fun made => ?_⟩
  · rw [run_handle, run_handle, goes.run]
  · rw [ocorre_handle, ocorre_handle, goes.envia, goes.run]
  · rw [ocorre_handle] at made ⊢
    rw [goes.run]
    exact made.imp_left goes.ocorre

theorem alcanca_calmo (calm : m.falhas = []) : m.alcanca = true := by
  rw [Mundo.alcanca, Mundo.falha, calm]
  rfl

theorem segue_exec {a : o.Res} (answer : o.exec m = (.ok a, m')) (f : o.Res → Fluxo α)
    (silent : ∀ texto teclado, o ≠ .sendMessage c texto teclado) :
    Segue c (faz o >>= f) m (f a) m' := by
  refine ⟨(faz_ok (P := fun _ _ => True) answer f).1, fun texto => ?_, fun made =>
    (faz_ok answer f).2.mpr (.inr made)⟩
  rw [(faz_ok answer f).2]
  exact or_iff_right fun sent => sent.1.elim (silent texto)

theorem segue_sem {a : o.Res} (calm : m.falhas = []) (answer : o.sem m = (.ok a, m'))
    (f : o.Res → Fluxo α) (silent : ∀ texto teclado, o ≠ .sendMessage c texto teclado) :
    Segue c (faz o >>= f) m (f a) m' :=
  segue_exec ((Ato.exec_calmo o calm).trans answer) f silent

theorem segue_ler {r : Nat} (f : Sessao → Fluxo α) :
    Segue c (faz (.ler c r) >>= f) m (f ((m.conversas c).objetos r)) m :=
  segue_exec (o := .ler c r) (Ato.exec_infalivel rfl m) f fun _ _ same => by cases same

theorem segue_atribuir {r : Nat} {campos : List Campo} (f : Unit → Fluxo α) :
    Segue c (faz (.atribuir c r campos) >>= f) m (f ()) (m.conversa c (·.atribui r campos)) :=
  segue_exec (o := .atribuir c r campos) (Ato.exec_infalivel rfl m) f fun _ _ same => by cases same

theorem segue_grava {r : Nat} {campos : List Campo} (f : Unit → Fluxo α) :
    Segue c (faz (.atribuir c r campos) >>= fun _ => faz (.set c r) >>= f) m (f ())
      (m.grava c r campos) :=
  (segue_atribuir _).trans <|
    segue_exec (o := .set c r) (Ato.exec_infalivel rfl _) f fun _ _ same => by cases same

/-- Few assignments change the courier of the session. -/
theorem usuarioId_grava {r : Nat} {campos : List Campo} (harmless : campos.all Campo.inocuo = true) :
    (((m.grava c r campos).conversas c).objetos r).usuarioId =
      ((m.conversas c).objetos r).usuarioId := by
  rw [Mundo.grava, Mundo.conversas_conversa, Conversa.objetos_guarda, Mundo.conversas_conversa,
    Conversa.objetos_atribui]
  exact congrArg Sessao.Acesso.usuarioId (acesso_atribuirTodos harmless _)

theorem segue_answer (calm : m.falhas = []) (f : Unit → Fluxo α) :
    Segue c (faz (.answerCallbackQuery c) >>= f) m (f ()) m :=
  segue_sem (o := .answerCallbackQuery c) calm rfl f fun _ _ same => by cases same

theorem segue_responder (calm : m.falhas = []) (e : Entrada) (f : Unit → Fluxo α) :
    Segue c (responderBotao c e >>= f) m (f ()) m := by
  rw [responderBotao]
  split
  · exact segue_answer calm f
  · exact .refl _ _

theorem segue_consulta {q : SqlBot} (f : q.Res → Fluxo α) (calm : m.falhas = [])
    (accepted : q.recusa = none) :
    Segue c (consulta c q >>= f) m (f (q.sem m.db).1) (m.aplica c q) := by
  refine segue_sem (o := .query c q) calm ?_ f fun _ _ same => by cases same
  simp only [Ato.sem, accepted]
  rfl

theorem run_wrapper (texto : String) (calm : m.falhas = []) :
    (enviarMensagemWrapper c texto).run Ato.exec m = (.ok (), m.seguinte) := by
  rw [enviarMensagemWrapper, run_calmo _ calm]
  rfl

end Segue

section Banco

def Ato.Le : Ato → Prop
  | .query _ q => ∀ db, (q.sem db).2 = db
  | .updateComprovante .. => False
  | _ => True

variable {α β : Type} {c : Chat} {m : Mundo}

theorem db_exec {o : Ato} (reads : o.Le) (m : Mundo) : (o.exec m).2.db = m.db := by
  have kept (falhas : List Falha) : (o.sem (m.comFalhas falhas)).2.db = m.db := by
    cases o with
    | updateComprovante => exact reads.elim
    | query c q =>
      rw [Ato.sem]
      split
      · rfl
      · exact reads m.db
    | _ => rfl
  exact Ato.exec_regra (R := fun _ m' => m'.db = m.db) kept (fun _ _ _ => rfl) fun _ falhas _ =>
    kept falhas

theorem db_run {f : Fluxo α} (calls : f.Calls Ato.Le) (m : Mundo) :
    (f.run Ato.exec m).2.db = m.db :=
  trace_invariant (fun w : Mundo => w.db = m.db)
    (fun x member kept => (db_exec (calls_trace calls m x member) x.2).trans kept) rfl

theorem mem_entregasDe {u : Option Nat} {db : Db} {status : List StatusEntrega} {id : Nat} {e : Entrega} :
    (id, e) ∈ db.entregasDe status u ↔ db.entregas.get id = some e ∧
      db.pedidoValido e.pedidoId = true ∧ e.status ∈ status ∧ e.de u = true := by
  rw [Db.entregasDe, List.mem_filter, Table.mem_rows]
  simp [and_assoc]

/-- A message to the chat is one call that counts. -/
theorem calls_enviarMensagem {P : Ato → Prop} (texto : String) (sends : P (.sendMessage c texto []))
    (gets : P (.get c)) (makes : ∀ inicio, P (.novo c inicio))
    (writes : ∀ r campos, P (.atribuir c r campos)) (stores : ∀ r, P (.set c r)) :
    (enviarMensagem c texto).Calls P := by
  refine calls_handle (calls_bind ((calls_ask _).mpr sends) fun id => ?_) fun _ => calls_done ()
  refine calls_bind (calls_bind ((calls_ask _).mpr gets) fun found => ?_) fun r =>
    calls_bind ((calls_ask _).mpr (writes r _)) fun _ => (calls_ask _).mpr (stores r)
  cases found with
  | some r => exact calls_done r
  | none => exact (calls_ask _).mpr (makes _)

end Banco

theorem take_append {a b : String} {n : Nat} (enough : n ≤ a.toList.length) :
    (a ++ b).toList.take n = a.toList.take n := by
  rw [String.toList_append, List.take_append_of_le_length enough]

section Painel

variable {c : Chat} {P : Ato → Prop}

/-- What a call of a handler of the panel is, when it is neither a statement nor a wait for
Telegram other than a message. -/
structure DoPainel (c : Chat) (P : Ato → Prop) : Prop where
  envia : ∀ texto teclado, P (.sendMessage c texto teclado)
  responde : P (.answerCallbackQuery c)
  pega : P (.get c)
  cria : ∀ inicio, P (.novo c inicio)
  le : ∀ r, P (.ler c r)
  atribui : ∀ r campos, P (.atribuir c r campos)
  guarda : ∀ r, P (.set c r)

theorem DoPainel.mensagem (panel : DoPainel c P) (texto : String) :
    (enviarMensagem c texto).Calls P :=
  calls_enviarMensagem texto (panel.envia texto []) panel.pega panel.cria panel.atribui panel.guarda

theorem DoPainel.grava (panel : DoPainel c P) (r : Nat) (campos : List Campo) :
    (faz (.atribuir c r campos) >>= fun _ => faz (.set c r)).Calls P :=
  calls_bind ((calls_ask _).mpr (panel.atribui _ _)) fun _ => (calls_ask _).mpr (panel.guarda _)

theorem calls_responderBotao (answers : P (.answerCallbackQuery c)) (e : Entrada) :
    (responderBotao c e).Calls P := by
  rw [responderBotao]
  split
  · exact (calls_ask _).mpr answers
  · exact calls_done ()

theorem doPainel_of (other : ∀ o, (∀ q, o ≠ .query c q) → P o) : DoPainel c P where
  envia _ _ := other _ fun _ same => by cases same
  responde := other _ fun _ same => by cases same
  pega := other _ fun _ same => by cases same
  cria _ := other _ fun _ same => by cases same
  le _ := other _ fun _ same => by cases same
  atribui _ _ := other _ fun _ same => by cases same
  guarda _ := other _ fun _ same => by cases same

theorem doPainel_le : DoPainel c Ato.Le :=
  ⟨fun _ _ => trivial, trivial, trivial, fun _ => trivial, fun _ => trivial, fun _ _ => trivial,
    fun _ => trivial⟩

end Painel

section Alcance

variable {α β : Type} {c : Chat} {m : Mundo} {P : Ato → Mundo → Prop}

/-- What a call of the kind `P` tells of the way to it: `g` runs on from `m'` to the same end. -/
structure Passou (P : Ato → Mundo → Prop) (f : Fluxo α) (m : Mundo) (g : Fluxo α) (m' : Mundo) :
    Prop where
  run : f.run Ato.exec m = g.run Ato.exec m'
  ocorre : Ocorre P g m'

theorem Passou.trans {f g h : Fluxo α} {m' m'' : Mundo} (first : Passou P f m g m')
    (later : Passou P g m' h m'') : Passou P f m h m'' :=
  ⟨first.run.trans later.run, later.ocorre⟩

theorem passou_faz {o : Ato} {f : o.Res → Fluxo α} (told : Ocorre P (faz o >>= f) m)
    (other : ¬ P o m) :
    ∃ a m', o.exec m = (.ok a, m') ∧ Passou P (faz o >>= f) m (f a) m' := by
  rcases answer : o.exec m with ⟨_ | a, m'⟩
  · exact absurd ((faz_error answer f).2.mp told) other
  · exact ⟨a, m', rfl, (faz_ok (P := P) answer f).1, ((faz_ok answer f).2.mp told).resolve_left other⟩

theorem passou_ler {r : Nat} {f : Sessao → Fluxo α} (told : Ocorre P (faz (.ler c r) >>= f) m)
    (other : ¬ P (.ler c r) m) :
    Passou P (faz (.ler c r) >>= f) m (f ((m.conversas c).objetos r)) m := by
  have answer : Ato.exec (.ler c r) m = (.ok ((m.conversas c).objetos r), m) :=
    Ato.exec_infalivel rfl m
  exact ⟨(faz_ok (P := P) answer f).1, ((faz_ok answer f).2.mp told).resolve_left other⟩

theorem passou_grava {r : Nat} {campos : List Campo} {f : Unit → Fluxo α}
    (told : Ocorre P (faz (.atribuir c r campos) >>= fun _ => faz (.set c r) >>= f) m)
    (assigned : ∀ m, ¬ P (.atribuir c r campos) m) (stored : ∀ m, ¬ P (.set c r) m) :
    Passou P (faz (.atribuir c r campos) >>= fun _ => faz (.set c r) >>= f) m (f ())
      (m.grava c r campos) := by
  have first : Ato.exec (.atribuir c r campos) m = (.ok (), m.conversa c (·.atribui r campos)) :=
    Ato.exec_infalivel rfl m
  have second : Ato.exec (.set c r) (m.conversa c (·.atribui r campos)) =
      (.ok (), m.grava c r campos) := Ato.exec_infalivel rfl _
  have behind := ((faz_ok first _).2.mp told).resolve_left (assigned m)
  refine ⟨(faz_ok (P := P) first _).1.trans (faz_ok (P := P) second f).1, ?_⟩
  exact ((faz_ok second f).2.mp behind).resolve_left (stored _)

theorem passou_consulta {q : SqlBot} {f : q.Res → Fluxo α} (told : Ocorre P (consulta c q >>= f) m)
    (other : ¬ P (.query c q) m) :
    ∃ m', Passou P (consulta c q >>= f) m (f (q.sem m.db).1) m' ∧ m'.db = (q.sem m.db).2 ∧
      (m'.conversas c).objetos = (m.conversas c).objetos := by
  obtain ⟨a, m', answer, passed⟩ := passou_faz told other
  have objects := objetos_exec (c := c) (o := .query c q) rfl m
  rw [answer] at objects
  have effect : a = (q.sem m.db).1 ∧ m'.db = (q.sem m.db).2 := by
    have ends := Ato.exec_regra (o := .query c q) (m := m)
      (R := fun answer w => ∀ a, answer = .ok a → a = (q.sem m.db).1 ∧ w.db = (q.sem m.db).2)
      (fun falhas a done => by
        cases refused : q.recusa with
        | some erro =>
          simp only [Ato.sem, refused] at done
          cases done
        | none =>
          simp only [Ato.sem, refused, Except.ok.injEq] at done ⊢
          exact ⟨done.symm, rfl⟩)
      (fun _ _ _ a done => by cases done) (fun _ _ _ a done => by cases done)
    rw [answer] at ends
    exact ends a rfl
  rw [effect.1] at passed
  exact ⟨m', passed, effect.2, objects⟩

/-- What is made behind a part finds that it returned. -/
theorem passou_bind {f : Fluxo α} {g : α → Fluxo β} (told : Ocorre P (f >>= g) m)
    (other : ¬ Ocorre P f m) :
    ∃ a m', f.run Ato.exec m = (.ok a, m') ∧ Passou P (f >>= g) m (g a) m' := by
  obtain ⟨a, m', run, made⟩ := ((ocorre_bind m).mp told).resolve_left other
  exact ⟨a, m', run, (ocorre_bind_ok (P := P) run).1, made⟩

theorem passou_responder {e : Entrada} {f : Unit → Fluxo α}
    (told : Ocorre P (responderBotao c e >>= f) m) (other : ∀ m, ¬ P (.answerCallbackQuery c) m) :
    ∃ m', Passou P (responderBotao c e >>= f) m (f ()) m' ∧ m'.db = m.db ∧
      (m'.conversas c).objetos = (m.conversas c).objetos := by
  have silent := ocorre_calls (calls_responderBotao (c := c) (P := fun o => ∀ m, ¬ P o m) other e) m
  obtain ⟨_, m', run, passed⟩ := passou_bind told silent
  have db := db_run (calls_responderBotao (c := c) (P := Ato.Le) trivial e) m
  have objects := objetos_run (c := c)
    (calls_responderBotao (c := c) (P := fun o => o.mudaObjeto = false) rfl e) m
  rw [run] at db objects
  exact ⟨m', passed, db, objects⟩

/-- A handler that only reads leaves what its body left. -/
theorem db_handle {f : Fluxo α} {h : String → Fluxo α} (reads : ∀ e, (h e).Calls Ato.Le) :
    ((f.handle h).run Ato.exec m).2.db = (f.run Ato.exec m).2.db := by
  rw [run_handle]
  rcases f.run Ato.exec m with ⟨answer, m'⟩
  cases answer with
  | ok a => rfl
  | error e => exact db_run (reads e) m'

end Alcance

end IceClube
