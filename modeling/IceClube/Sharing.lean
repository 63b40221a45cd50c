import Mathlib.Logic.Function.Basic
import IceClube.Statements

/-! Programs that work on one store side by side. Each is seen through its own steps and
through the store as it finds it. What each of them promises of its steps, and bears of the
steps of the others, all of them together keep. -/
namespace Coop

open Prog

/-- A program over a store of type `D`. -/
structure Worker (D : Type) where
  Conf : Type
  Act : Type
  advance : Act → Conf → Conf
  store : Conf → D
  setStore : D → Conf → Conf
  store_set : ∀ d c, store (setStore d c) = d

namespace Worker

variable {D : Type}

def execute (p : Worker D) : List p.Act → p.Conf → p.Conf
  | [], c => c
  | a :: rest, c => execute p rest (p.advance a c)

theorem execute_append {p : Worker D} (first second : List p.Act) (c : p.Conf) :
    p.execute (first ++ second) c = p.execute second (p.execute first c) := by
  induction first generalizing c with
  | nil => rfl
  | cons a rest ih => exact ih _

section Crew

variable {ι : Type} [DecidableEq ι]

/-- Where one of the programs is replaced, the others find its store. -/
theorem store_update (p : ι → Worker D) (c : ∀ i, (p i).Conf) (i : ι) (next : (p i).Conf) (j : ι) :
    (p j).store (Function.update (fun j => (p j).setStore ((p i).store next) (c j)) i next j) =
      (p i).store next := by
  by_cases same : j = i
  · subst same
    rw [Function.update_self]
  · rw [Function.update_of_ne same, (p j).store_set]

/-- Programs that find the same store: a step of one is seen by all others at once. -/
def crew (p : ι → Worker D) : Worker D where
  Conf := {c : (∀ i, (p i).Conf) × D // ∀ i, (p i).store (c.1 i) = c.2}
  Act := (i : ι) × (p i).Act
  advance a c :=
    let next := (p a.1).advance a.2 (c.1.1 a.1)
    let stored := (p a.1).store next
    ⟨(Function.update (fun i => (p i).setStore stored (c.1.1 i)) a.1 next, stored),
      store_update p c.1.1 a.1 next⟩
  store c := c.1.2
  setStore d c := ⟨(fun i => (p i).setStore d (c.1.1 i), d), fun i => (p i).store_set d _⟩
  store_set _ _ := rfl

def gather (p : ι → Worker D) (each : ∀ i, (p i).Conf) (d : D) : (crew p).Conf :=
  ⟨(fun i => (p i).setStore d (each i), d), fun i => (p i).store_set d _⟩

end Crew

variable (R : D → D → Prop) (good : D → Prop)

/-- Every step relates the store by `R` and leaves it good, if it was good and `inv` held; and
no step of others that does the same ends `inv`. -/
structure Respects (p : Worker D) (inv : p.Conf → Prop) : Prop where
  step : ∀ a c, good (p.store c) → inv c →
    R (p.store c) (p.store (p.advance a c)) ∧ good (p.store (p.advance a c)) ∧
      inv (p.advance a c)
  bears : ∀ d c, R (p.store c) d → good d → inv c → inv (p.setStore d c)

variable {R good}

theorem respects_crew {ι : Type} [DecidableEq ι] {p : ι → Worker D}
    {inv : ∀ i, (p i).Conf → Prop} (each : ∀ i, (p i).Respects R good (inv i)) :
    (crew p).Respects R good fun c => ∀ i, inv i (c.1.1 i) := by
  constructor
  case step =>
    rintro ⟨i, a⟩ ⟨⟨c, d⟩, same⟩ stored known
    have met : (p i).store (c i) = d := same i
    have here : good ((p i).store (c i)) := met ▸ stored
    obtain ⟨related, stored', known'⟩ := (each i).step a (c i) here (known i)
    refine ⟨met ▸ related, stored', fun j => ?_⟩
    by_cases mine : j = i
    · subst mine
      simpa [crew] using known'
    · have seen : R ((p j).store (c j)) ((p i).store ((p i).advance a (c i))) := by
        rw [show (p j).store (c j) = d from same j, ← met]
        exact related
      simpa [crew, Function.update_of_ne mine] using
        (each j).bears _ (c j) seen stored' (known j)
  case bears =>
    rintro d ⟨⟨c, e⟩, same⟩ related stored known i
    have seen : R ((p i).store (c i)) d := (same i).symm ▸ related
    exact (each i).bears d (c i) seen stored (known i)

/-- What every step respects, a run respects. -/
theorem respects_execute {p : Worker D} {inv : p.Conf → Prop} (respects : p.Respects R good inv)
    (refl : ∀ d, R d d) (trans : ∀ a b c, R a b → R b c → R a c) (acts : List p.Act)
    {c : p.Conf} (stored : good (p.store c)) (known : inv c) :
    R (p.store c) (p.store (p.execute acts c)) ∧ good (p.store (p.execute acts c)) ∧
      inv (p.execute acts c) := by
  induction acts generalizing c with
  | nil => exact ⟨refl _, stored, known⟩
  | cons a rest ih =>
    obtain ⟨related, stored', known'⟩ := respects.step a c stored known
    obtain ⟨later, final⟩ := ih stored' known'
    exact ⟨trans _ _ _ related later, final⟩

section Quiet

/-- What a program promises of its quiet steps beyond what it promises of all. -/
def Keeps (S : D → D → Prop) (good : D → Prop) (p : Worker D) (inv : p.Conf → Prop)
    (quiet : p.Conf → p.Act → Prop) : Prop :=
  ∀ a c, good (p.store c) → inv c → quiet c a → S (p.store c) (p.store (p.advance a c))

/-- All steps of a run are quiet where they are taken. -/
def Runs (p : Worker D) (quiet : p.Conf → p.Act → Prop) : List p.Act → p.Conf → Prop
  | [], _ => True
  | a :: rest, c => quiet c a ∧ Runs p quiet rest (p.advance a c)

variable {S : D → D → Prop}

theorem keeps_crew {ι : Type} [DecidableEq ι] {p : ι → Worker D} {inv : ∀ i, (p i).Conf → Prop}
    {quiet : ∀ i, (p i).Conf → (p i).Act → Prop}
    (each : ∀ i, Keeps S good (p i) (inv i) (quiet i)) :
    Keeps S good (crew p) (fun c => ∀ i, inv i (c.1.1 i)) fun c a => quiet a.1 (c.1.1 a.1) a.2 := by
  rintro ⟨i, a⟩ ⟨⟨c, d⟩, same⟩ stored known calm
  have met : (p i).store (c i) = d := same i
  have here : good ((p i).store (c i)) := met ▸ stored
  exact met ▸ each i a (c i) here (known i) calm

/-- What the quiet steps keep, a run of them keeps. -/
theorem keeps_execute {p : Worker D} {inv : p.Conf → Prop} {quiet : p.Conf → p.Act → Prop}
    (respects : p.Respects R good inv) (keeps : Keeps S good p inv quiet) (refl : ∀ d, S d d)
    (trans : ∀ a b c, S a b → S b c → S a c) (acts : List p.Act) {c : p.Conf}
    (stored : good (p.store c)) (known : inv c) (calm : p.Runs quiet acts c) :
    S (p.store c) (p.store (p.execute acts c)) := by
  induction acts generalizing c with
  | nil => exact refl _
  | cons a rest ih =>
    obtain ⟨-, stored', known'⟩ := respects.step a c stored known
    exact trans _ _ _ (keeps a c stored known calm.1) (ih stored' known' calm.2)

end Quiet

section Undoing

/-- A program some of whose steps undo what was done: they leave the store as any of the allowed
functions makes it. -/
def undoing (p : Worker D) (undoes : p.Conf → p.Act → Bool) (free : D → D → Prop) : Worker D where
  Conf := p.Conf
  Act := p.Act × {f : D → D // ∀ d, free d (f d)}
  advance a c :=
    let next := p.advance a.1 c
    if undoes c a.1 then p.setStore (a.2.val (p.store next)) next else next
  store := p.store
  setStore := p.setStore
  store_set := p.store_set

variable {p : Worker D} {inv : p.Conf → Prop} {undoes : p.Conf → p.Act → Bool} {free : D → D → Prop}

theorem respects_undoing (respects : p.Respects R good inv)
    (trans : ∀ a b c, R a b → R b c → R a c)
    (allowed : ∀ d d', free d d' → good d → R d d' ∧ good d') :
    (undoing p undoes free).Respects R good inv := by
  constructor
  case step =>
    rintro ⟨a, f⟩ c stored known
    obtain ⟨related, stored', known'⟩ := respects.step a c stored known
    obtain ⟨undone, stored''⟩ := allowed _ _ (f.property (p.store (p.advance a c))) stored'
    simp only [undoing]
    split
    · rw [p.store_set]
      exact ⟨trans _ _ _ related undone, stored'', respects.bears _ _ undone stored'' known'⟩
    · exact ⟨related, stored', known'⟩
  case bears => exact respects.bears

/-- The other steps keep what they kept. -/
theorem keeps_undoing {S : D → D → Prop}
    (keeps : Keeps S good p inv fun _ _ => True) :
    Keeps S good (undoing p undoes free) inv fun c a => undoes c a.1 = false := by
  rintro ⟨a, f⟩ c stored known calm
  simp only [undoing, show undoes c a = false from calm, Bool.false_eq_true, if_false]
  exact keeps a c stored known trivial

end Undoing

section OfSystem

variable {Req Env ε Op α S V : Type} {Res : Op → Type} (M : System Req Env ε Res α S)
  (get : S → D) (set : D → S → S) (get_set : ∀ d s, get (set d s) = d)

def ofSystem : Worker D where
  Conf := Config ε Res α S
  Act := Action Req Env
  advance := M.advance
  store c := get c.state
  setStore d c := ⟨set d c.state, c.tasks⟩
  store_set d c := get_set d c.state

variable (K : Contract ε Res V) (known : V → D → Prop)

/-- Every task keeps the contract, given what it knows of the store. -/
def Informed (d : D) (tasks : List (Prog ε Res α)) : Prop :=
  ∀ p ∈ tasks, ∃ v, known v d ∧ Meets K p (fun _ _ => True) v

/-- What a task knows stays so under the steps of the others; a call that the contract allows
relates the store by `R`, leaves it good and tells what the contract says. -/
structure Guarantees (R : D → D → Prop) (good : D → Prop) : Prop where
  refl : ∀ d, R d d
  trans : ∀ a b c, R a b → R b c → R a c
  stable : ∀ v d d', known v d → R d d' → known v d'
  call : ∀ o s v, good (get s) → known v (get s) → K.pre o v →
    R (get s) (get (M.exec o s).2) ∧ good (get (M.exec o s).2) ∧
      ∃ v', K.post o v (M.exec o s).1 v' ∧ known v' (get (M.exec o s).2)
  starts : ∀ request, ∀ p ∈ M.listeners request,
    ∃ v, (∀ d, known v d) ∧ Meets K p (fun _ _ => True) v
  drifts : ∀ change s, good (get s) →
    R (get s) (get (M.drift change s)) ∧ good (get (M.drift change s))

variable {M get set get_set K known}

/-- Tasks that need to know nothing. -/
theorem guarantees_calls {P : Op → Prop} (refl : ∀ d, R d d)
    (trans : ∀ a b c, R a b → R b c → R a c)
    (only : ∀ request, ∀ p ∈ M.listeners request, p.Calls P)
    (call : ∀ o s, P o → good (get s) →
      R (get s) (get (M.exec o s).2) ∧ good (get (M.exec o s).2))
    (drifts : ∀ change s, good (get s) →
      R (get s) (get (M.drift change s)) ∧ good (get (M.drift change s))) :
    Guarantees M get (⟨fun o _ => P o, fun _ _ _ _ => True⟩ : Contract ε Res Unit)
      (fun _ _ => True) R good where
  refl := refl
  trans := trans
  stable _ _ _ known _ := known
  call o s _ stored _ sent :=
    ⟨(call o s sent stored).1, (call o s sent stored).2, (), trivial, trivial⟩
  starts request p member := ⟨(), fun _ => trivial, only request p member⟩
  drifts := drifts

theorem informed_mono (guarantees : Guarantees M get K known R good) {d d' : D}
    {tasks : List (Prog ε Res α)} (informed : Informed K known d tasks) (related : R d d') :
    Informed K known d' tasks := by
  intro p member
  obtain ⟨v, knows, meets⟩ := informed p member
  exact ⟨v, guarantees.stable v d d' knows related, meets⟩

/-- A weaker relation that leaves the tasks what they know. -/
theorem Guarantees.weaken {R' : D → D → Prop} (guarantees : Guarantees M get K known R good)
    (refl : ∀ d, R' d d) (trans : ∀ a b c, R' a b → R' b c → R' a c)
    (weaker : ∀ d d', R d d' → R' d d') (stable : ∀ v d d', known v d → R' d d' → known v d') :
    Guarantees M get K known R' good where
  refl := refl
  trans := trans
  stable := stable
  call o s v stored knows sent :=
    have sent := guarantees.call o s v stored knows sent
    ⟨weaker _ _ sent.1, sent.2⟩
  starts := guarantees.starts
  drifts change s stored :=
    have drift := guarantees.drifts change s stored
    ⟨weaker _ _ drift.1, drift.2⟩

/-- A task that runs on until it yields. -/
theorem settle_respects (guarantees : Guarantees M get K known R good) {p : Prog ε Res α} {s : S}
    {v : V} (stored : good (get s)) (knows : known v (get s))
    (meets : Meets K p (fun _ _ => True) v) :
    R (get s) (get (M.settle p s).2) ∧ good (get (M.settle p s).2) ∧
      ∃ v', known v' (get (M.settle p s).2) ∧ Meets K (M.settle p s).1 (fun _ _ => True) v' := by
  induction p generalizing s v with
  | done a => exact ⟨guarantees.refl _, stored, v, knows, meets⟩
  | fail e => exact ⟨guarantees.refl _, stored, v, knows, meets⟩
  | call o next ih =>
    rw [System.settle]
    split
    next =>
      obtain ⟨related, stored', v', post, knows'⟩ :=
        guarantees.call o s v stored knows meets.1
      obtain ⟨later, final⟩ := ih _ stored' knows' (meets.2 _ v' post)
      exact ⟨guarantees.trans _ _ _ related later, final⟩
    next => exact ⟨guarantees.refl _, stored, v, knows, meets⟩

theorem enter_respects (guarantees : Guarantees M get K known R good) {ps : List (Prog ε Res α)}
    (ready : ∀ p ∈ ps, ∃ v, (∀ d, known v d) ∧ Meets K p (fun _ _ => True) v)
    {c : Config ε Res α S} (stored : good (get c.state))
    (informed : Informed K known (get c.state) c.tasks) :
    R (get c.state) (get (M.enter ps c).state) ∧ good (get (M.enter ps c).state) ∧
      Informed K known (get (M.enter ps c).state) (M.enter ps c).tasks := by
  induction ps generalizing c with
  | nil => exact ⟨guarantees.refl _, stored, informed⟩
  | cons p rest ih =>
    obtain ⟨v, knows, meets⟩ := ready p List.mem_cons_self
    obtain ⟨related, stored', v', knows', meets'⟩ :=
      settle_respects guarantees stored (knows _) meets
    have informed' : Informed K known (get (M.settle p c.state).2)
        (c.tasks ++ [(M.settle p c.state).1]) := by
      intro q member
      rcases List.mem_append.mp member with old | new
      · exact informed_mono guarantees informed related q old
      · rw [List.mem_singleton.mp new]
        exact ⟨v', knows', meets'⟩
    obtain ⟨later, final⟩ := ih (c := ⟨_, _⟩)
      (fun q member => ready q (List.mem_cons_of_mem _ member)) stored' informed'
    exact ⟨guarantees.trans _ _ _ related later, final⟩

theorem resume_respects (guarantees : Guarantees M get K known R good) (task : Nat)
    {c : Config ε Res α S} (stored : good (get c.state))
    (informed : Informed K known (get c.state) c.tasks) :
    R (get c.state) (get (M.resume task c).state) ∧ good (get (M.resume task c).state) ∧
      Informed K known (get (M.resume task c).state) (M.resume task c).tasks := by
  rw [System.resume]
  cases found : c.tasks[task]? with
  | none => exact ⟨guarantees.refl _, stored, informed⟩
  | some p =>
    cases p with
    | done a => exact ⟨guarantees.refl _, stored, informed⟩
    | fail e => exact ⟨guarantees.refl _, stored, informed⟩
    | call o next =>
      obtain ⟨v, knows, meets⟩ := informed _ (List.mem_of_getElem? found)
      obtain ⟨related, stored', v', post, knows'⟩ :=
        guarantees.call o c.state v stored knows meets.1
      obtain ⟨later, stored'', v'', knows'', meets''⟩ :=
        settle_respects guarantees stored' knows' (meets.2 _ v' post)
      have across := guarantees.trans _ _ _ related later
      refine ⟨across, stored'', fun q member => ?_⟩
      rcases List.mem_or_eq_of_mem_set member with old | rfl
      · exact informed_mono guarantees informed across q old
      · exact ⟨v'', knows'', meets''⟩

/-- Tasks that guarantee their calls make a program that respects the store. -/
theorem respects_ofSystem (guarantees : Guarantees M get K known R good) :
    (ofSystem M get set get_set).Respects R good fun c =>
      Informed K known (get c.state) c.tasks := by
  constructor
  case step =>
    intro a c stored informed
    cases a with
    | arrive request =>
      exact enter_respects guarantees (guarantees.starts request) stored informed
    | step task => exact resume_respects guarantees task stored informed
    | drift change =>
      obtain ⟨related, stored'⟩ := guarantees.drifts change c.state stored
      exact ⟨related, stored', informed_mono guarantees informed related⟩
  case bears =>
    intro d c related _ informed
    have same : get (set d c.state) = d := get_set d c.state
    change Informed K known (get (set d c.state)) c.tasks
    rw [same]
    exact informed_mono guarantees informed related

theorem execute_ofSystem (acts : List (Action Req Env)) (c : Config ε Res α S) :
    (ofSystem M get set get_set).execute acts c = M.execute acts c := by
  induction acts generalizing c with
  | nil => rfl
  | cons a rest ih => exact ih _

/-- With a weaker relation too, from where no task is under way. -/
theorem respects_idle {R' : D → D → Prop} (guarantees : Guarantees M get K known R good)
    (refl : ∀ d, R' d d) (trans : ∀ a b c, R' a b → R' b c → R' a c)
    (weaker : ∀ d d', R d d' → R' d d') (stable : ∀ v d d', known v d → R' d d' → known v d') :
    ∃ inv : (ofSystem M get set get_set).Conf → Prop,
      (ofSystem M get set get_set).Respects R' good inv ∧
        Keeps R good (ofSystem M get set get_set) inv (fun _ _ => True) ∧
        ∀ c : Config ε Res α S, c.tasks = [] → inv c := by
  refine ⟨_, respects_ofSystem (guarantees.weaken refl trans weaker stable),
    fun a c stored known _ => ((respects_ofSystem guarantees).step a c stored known).1,
    fun c idle p member => ?_⟩
  rw [idle] at member
  exact absurd member List.not_mem_nil

/-- A run of a single system that holds nothing but the store. -/
theorem execute_good {M : System Req Env ε Res α D} {K : Contract ε Res V}
    {known : V → D → Prop} (guarantees : Guarantees M id K known R good)
    (acts : List (Action Req Env)) {d : D} (stored : good d) :
    R d (M.execute acts ⟨d, []⟩).state ∧ good (M.execute acts ⟨d, []⟩).state := by
  have respects : (ofSystem M id (fun d _ => d) fun _ _ => rfl).Respects R good _ :=
    respects_ofSystem guarantees
  obtain ⟨related, final, -⟩ := respects_execute respects guarantees.refl guarantees.trans acts
    (c := ⟨d, []⟩) stored fun _ member => absurd member List.not_mem_nil
  rw [execute_ofSystem] at related final
  exact ⟨related, final⟩

end OfSystem

section Autocommit

variable {Req Env ε Op α S : Type} {Res : Op → Type} {sem : (o : Op) → S → Res o × S}
  {rejection : ε} {handler : Req → Prog ε Res α} {drift : Env → S → S} {R : D → D → Prop}
  {good : D → Prop}

/-- What a statement keeps, a statement that may be rejected keeps. -/
theorem faulty_keeps {Q : S → Prop} (o : Op) {w : Faulty S} (before : Q w.state)
    (after : Q (sem o w.state).2) : Q (Faulty.exec sem rejection o w).2.state := by
  cases fault : w.faults.headD false with
  | true =>
    rw [Faulty.exec_rejected o fault]
    exact before
  | false =>
    rw [Faulty.exec_answered o fault]
    exact after

theorem guarantees_autocommit (get : S → D) {P : Op → Prop} (refl : ∀ d, R d d)
    (trans : ∀ a b c, R a b → R b c → R a c) (only : ∀ request, (handler request).Calls P)
    (statement : ∀ o s, P o → good (get s) →
      R (get s) (get (sem o s).2) ∧ good (get (sem o s).2))
    (drifts : ∀ change s, good (get s) →
      R (get s) (get (drift change s)) ∧ good (get (drift change s))) :
    Guarantees (autocommit sem rejection handler drift) (fun w => get w.state)
      (⟨fun o _ => P o, fun _ _ _ _ => True⟩ : Contract ε Res Unit) (fun _ _ => True) R good :=
  guarantees_calls refl trans
    (fun request _ member => List.mem_singleton.mp member ▸ only request)
    (fun o w sent stored => faulty_keeps (Q := fun s => R (get w.state) (get s) ∧ good (get s)) o
      ⟨refl _, stored⟩ (statement o w.state sent stored))
    fun change w stored => drifts change w.state stored

end Autocommit
end Worker
end Coop
