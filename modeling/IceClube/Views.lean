import IceClube.Pool

/-! The calls of a run, and how an invariant is carried through one: every task keeps a
contract seen through a view of its own, and the views together with the state and the
calls made so far satisfy the invariant. -/
namespace Coop

open Prog

variable {Req Env ε Op α S V : Type} {Res : Op → Type}

/-- A waiting call that a run executed: its task, and the state it met. -/
structure Entry (Op S : Type) where
  task : Nat
  op : Op
  state : S

def Config.entries (c : Config ε Res α S) : Action Req Env → List (Entry Op S)
  | .arrive _ => []
  | .step task =>
    match c.tasks[task]? with
    | some (.call o _) => [⟨task, o, c.state⟩]
    | _ => []
  | .drift _ => []

section Lawful

variable {A : Type} {law : List A → A → Prop}

def Lawful (law : List A → A → Prop) : List A → List A → Prop
  | _, [] => True
  | past, e :: rest => law past e ∧ Lawful law (past ++ [e]) rest

theorem lawful_append {past first second : List A} :
    Lawful law past (first ++ second) ↔
      Lawful law past first ∧ Lawful law (past ++ first) second := by
  induction first generalizing past with
  | nil => simp [Lawful]
  | cons e rest ih => simp only [List.cons_append, Lawful, ih, List.append_assoc, and_assoc,
      List.nil_append]

theorem lawful_iff {past l : List A} :
    Lawful law past l ↔ ∀ first e rest, l = first ++ e :: rest → law (past ++ first) e := by
  constructor
  · rintro lawful first e rest rfl
    exact (lawful_append.mp lawful).2.1
  · intro all
    induction l generalizing past with
    | nil => trivial
    | cons e rest ih =>
      refine ⟨by simpa using all [] e rest rfl, ih fun first e' rest' split => ?_⟩
      rw [List.append_assoc]
      exact all (e :: first) e' rest' (by rw [split]; rfl)

instance (law : List A → A → Prop) [∀ past e, Decidable (law past e)] :
    ∀ past l, Decidable (Lawful law past l)
  | _, [] => isTrue trivial
  | past, e :: rest =>
    have := instDecidableLawful law (past ++ [e]) rest
    inferInstanceAs (Decidable (law past e ∧ Lawful law (past ++ [e]) rest))

end Lawful

namespace System

variable (M : System Req Env ε Res α S)

def log : List (Action Req Env) → Config ε Res α S → List (Entry Op S)
  | [], _ => []
  | a :: rest, c => c.entries a ++ log rest (M.advance a c)

theorem log_append (first second : List (Action Req Env)) (c : Config ε Res α S) :
    M.log (first ++ second) c = M.log first c ++ M.log second (M.execute first c) := by
  induction first generalizing c with
  | nil => rfl
  | cons a rest ih => simp only [List.cons_append, log, execute, ih, List.append_assoc]

/-- A field that only waiting calls change is told by the log, if each call keeps it so. -/
theorem log_tells {γ : Type} {M : System Req Env ε Res α S} (field : S → γ)
    (frame : ∀ o s, M.sync o = true → field (M.exec o s).2 = field s)
    (still : ∀ change s, field (M.drift change s) = field s) {tell : List (Entry Op S) → γ}
    (step : ∀ past (e : Entry Op S), field e.state = tell past →
      field (M.exec e.op e.state).2 = tell (past ++ [e]))
    {past : List (Entry Op S)} {actions : List (Action Req Env)} {c : Config ε Res α S}
    (told : field c.state = tell past) :
    Lawful (fun past e => field e.state = tell past) past (M.log actions c) := by
  induction actions generalizing past c with
  | nil => trivial
  | cons a rest ih =>
    have frame' := advance_frame field frame a c
    rw [log, lawful_append]
    cases a with
    | arrive request => exact ⟨trivial, ih (by simpa [Config.entries] using frame'.trans told)⟩
    | drift change =>
      have told' := frame'.trans ((still change c.state).trans told)
      exact ⟨trivial, ih (by simpa [Config.entries] using told')⟩
    | step task =>
      simp only [Config.entries, Config.issued] at frame' ⊢
      cases found : c.tasks[task]? with
      | none =>
        simp only [found] at frame'
        exact ⟨trivial, ih (by simpa using frame'.trans told)⟩
      | some p =>
        cases p with
        | call o next =>
          simp only [found] at frame'
          exact ⟨⟨told, trivial⟩, ih (frame'.trans (step past ⟨task, o, c.state⟩ told))⟩
        | _ =>
          simp only [found] at frame'
          exact ⟨trivial, ih (by simpa using frame'.trans told)⟩

variable (K : Contract ε Res V) (quiet : V → Prop)
  (J : List (Entry Op S) → S → List V → Prop) (law : List (Entry Op S) → Entry Op S → Prop)

/-- All views but one are of tasks that wait. -/
def Others (views : List V) (task : Nat) : Prop :=
  ∀ other v, other ≠ task → views[other]? = some v → quiet v

/-- The calls keep the invariant: one that yields where it is lawful, one that does not
before any other task runs. -/
structure Keeps : Prop where
  waits : ∀ o v, M.sync o = false → K.pre o v → quiet v
  inside : ∀ l s views task o v, M.sync o = true → views[task]? = some v →
    Others quiet views task → K.pre o v → J l s views →
    ∃ v', K.post o v (M.exec o s).1 v' ∧ J l (M.exec o s).2 (views.set task v')
  across : ∀ l s views task o v, M.sync o = false → views[task]? = some v →
    Others quiet views task → K.pre o v → J l s views → law l ⟨task, o, s⟩ →
    ∃ v', K.post o v (M.exec o s).1 v' ∧
      J (l ++ [⟨task, o, s⟩]) (M.exec o s).2 (views.set task v')
  starts : ∀ request, ∀ p ∈ M.listeners request, ∀ l s views, J l s views →
    ∃ v, Meets K p (fun _ => quiet) v ∧ J l s (views ++ [v])
  drifts : ∀ l s views change, J l s views → J l (M.drift change s) views

def Waiting : Prog ε Res α → Prop
  | .call o _ => M.sync o = false
  | _ => True

def Seen (l : List (Entry Op S)) (c : Config ε Res α S) : Prop :=
  ∃ views : List V, views.length = c.tasks.length ∧
    (∀ (task : Nat) p v, c.tasks[task]? = some p → views[task]? = some v →
      Meets K p (fun _ => quiet) v ∧ quiet v ∧ Waiting M p) ∧ J l c.state views

variable {M K quiet J law}

theorem settle_seen (keeps : Keeps M K quiet J law) {l : List (Entry Op S)} {task : Nat}
    {p : Prog ε Res α} {s : S} {views : List V} {v : V} (view : views[task]? = some v)
    (others : Others quiet views task) (meets : Meets K p (fun _ => quiet) v)
    (invariant : J l s views) :
    ∃ v', (Meets K (M.settle p s).1 (fun _ => quiet) v' ∧ quiet v' ∧ Waiting M (M.settle p s).1) ∧
      J l (M.settle p s).2 (views.set task v') := by
  have same {v : V} {views : List V} (view : views[task]? = some v) : views.set task v = views := by
    obtain ⟨bound, equal⟩ := List.getElem?_eq_some_iff.mp view
    rw [← equal, List.set_getElem_self]
  induction p generalizing s views v with
  | done a => exact ⟨v, ⟨meets, meets, trivial⟩, by rwa [same view]⟩
  | fail e => exact ⟨v, ⟨meets, meets, trivial⟩, by rwa [same view]⟩
  | call o next ih =>
    rw [settle]
    split
    next sync =>
      obtain ⟨v', post, invariant'⟩ :=
        keeps.inside l s views task o v sync view others meets.1 invariant
      have bound : task < views.length := (List.getElem?_eq_some_iff.mp view).1
      obtain ⟨v'', settled, after⟩ := ih (M.exec o s).1 (s := (M.exec o s).2)
        (List.getElem?_set_self bound) (fun other w distinct found => others other w distinct
          (by rwa [List.getElem?_set_ne (Ne.symm distinct)] at found)) (meets.2 _ v' post) invariant'
      rw [List.set_set] at after
      exact ⟨v'', settled, after⟩
    next async =>
      have yields : M.sync o = false := by simpa using async
      exact ⟨v, ⟨meets, keeps.waits o v yields meets.1, yields⟩, by rwa [same view]⟩

theorem enter_seen (keeps : Keeps M K quiet J law) {l : List (Entry Op S)} {request : Req}
    {ps : List (Prog ε Res α)} (listeners : ∀ p ∈ ps, p ∈ M.listeners request)
    {c : Config ε Res α S} (seen : Seen M K quiet J l c) : Seen M K quiet J l (M.enter ps c) := by
  induction ps generalizing c with
  | nil => exact seen
  | cons p rest ih =>
    refine ih (fun q member => listeners q (List.mem_cons_of_mem _ member)) ?_
    obtain ⟨views, lengths, tasks, invariant⟩ := seen
    obtain ⟨v, meets, invariant⟩ :=
      keeps.starts request p (listeners p List.mem_cons_self) l c.state views invariant
    have others : Others quiet (views ++ [v]) views.length := by
      intro other w distinct found
      have inside : other < views.length := by
        have := (List.getElem?_eq_some_iff.mp found).1
        simp only [List.length_append, List.length_singleton] at this
        omega
      rw [List.getElem?_append_left inside] at found
      exact (tasks other _ w (List.getElem?_eq_getElem (lengths ▸ inside)) found).2.1
    have view : (views ++ [v])[views.length]? = some v := List.getElem?_concat_length
    obtain ⟨v', settled, after⟩ := settle_seen keeps view others meets invariant
    rw [List.set_append_right _ _ (Nat.le_refl _), Nat.sub_self, List.set_cons_zero] at after
    refine ⟨views ++ [v'], by simp [lengths], fun task q w atTask found => ?_, after⟩
    rcases Nat.lt_or_ge task views.length with old | new
    · rw [List.getElem?_append_left old] at found
      rw [List.getElem?_append_left (lengths ▸ old)] at atTask
      exact tasks task q w atTask found
    · rw [List.getElem?_append_right new] at found
      rw [List.getElem?_append_right (lengths ▸ new), ← lengths] at atTask
      rw [List.getElem?_singleton] at found atTask
      split at found
      next here =>
        rw [if_pos here] at atTask
        cases found
        cases atTask
        exact settled
      next => cases found

/-- A lawful step keeps the invariant. -/
theorem advance_seen (keeps : Keeps M K quiet J law) {l : List (Entry Op S)}
    {c : Config ε Res α S} (a : Action Req Env) (seen : Seen M K quiet J l c)
    (lawful : Lawful law l (c.entries a)) : Seen M K quiet J (l ++ c.entries a) (M.advance a c) := by
  cases a with
  | arrive request =>
    rw [Config.entries, List.append_nil]
    exact enter_seen keeps (fun p member => member) seen
  | drift change =>
    obtain ⟨views, lengths, tasks, invariant⟩ := seen
    rw [Config.entries, List.append_nil]
    exact ⟨views, lengths, tasks, keeps.drifts l c.state views change invariant⟩
  | step task =>
    rw [Config.entries] at lawful ⊢
    rw [advance, resume]
    cases found : c.tasks[task]? with
    | none => simpa using seen
    | some p =>
      cases p with
      | done a => simpa using seen
      | fail e => simpa using seen
      | call o next =>
        simp only [found, Lawful, and_true] at lawful ⊢
        obtain ⟨views, lengths, tasks, invariant⟩ := seen
        have bound : task < views.length := lengths ▸ (List.getElem?_eq_some_iff.mp found).1
        have view := List.getElem?_eq_getElem bound
        have others : Others quiet views task := by
          intro other w distinct there
          have inside := (List.getElem?_eq_some_iff.mp there).1
          exact (tasks other _ w (List.getElem?_eq_getElem (lengths ▸ inside)) there).2.1
        obtain ⟨meets, -, yields⟩ := tasks task _ _ found view
        obtain ⟨v', post, invariant'⟩ :=
          keeps.across l c.state views task o _ yields view others meets.1 invariant lawful
        have others' : Others quiet (views.set task v') task := fun other w distinct there =>
          others other w distinct (by rwa [List.getElem?_set_ne (Ne.symm distinct)] at there)
        obtain ⟨v'', settled, after⟩ := settle_seen keeps (List.getElem?_set_self bound) others'
          (meets.2 _ v' post) invariant'
        rw [List.set_set] at after
        refine ⟨views.set task v'', by simp [lengths], fun other q w there found' => ?_, after⟩
        by_cases here : other = task
        · subst here
          rw [List.getElem?_set_self bound] at found'
          rw [List.getElem?_set_self (lengths ▸ bound)] at there
          cases found'
          cases there
          exact settled
        · rw [List.getElem?_set_ne (Ne.symm here)] at found' there
          exact tasks other q w there found'

theorem execute_seen (keeps : Keeps M K quiet J law) {l : List (Entry Op S)}
    {actions : List (Action Req Env)} {c : Config ε Res α S} (seen : Seen M K quiet J l c)
    (lawful : Lawful law l (M.log actions c)) :
    Seen M K quiet J (l ++ M.log actions c) (M.execute actions c) := by
  induction actions generalizing l c with
  | nil => simpa [log, execute] using seen
  | cons a rest ih =>
    rw [log, lawful_append] at lawful
    rw [log, ← List.append_assoc]
    exact ih (advance_seen keeps a seen lawful.1) lawful.2

end System
end Coop
