import IceClube.Program

/-! Cooperative interleaving of programs over one shared state. A request starts its
listeners; a scheduled task executes the call it waits on and then runs on, through
synchronous calls, up to its next waiting point. Any schedule is allowed. -/
namespace Coop

variable {Req Env ε Op α S : Type} {Res : Op → Type}

structure Config (ε : Type) {Op : Type} (Res : Op → Type) (α S : Type) where
  state : S
  tasks : List (Prog ε Res α)

inductive Action (Req Env : Type) where
  | arrive (request : Req)
  | step (task : Nat)
  | drift (change : Env)

def Config.issued (c : Config ε Res α S) : Action Req Env → Option Op
  | .step task =>
    match c.tasks[task]? with
    | some (.call o _) => some o
    | _ => none
  | _ => none

theorem issued_calls {P : Op → Prop} {c : Config ε Res α S} {a : Action Req Env} {o : Op}
    (waiting : ∀ p ∈ c.tasks, p.Calls P) (issued : c.issued a = some o) : P o := by
  cases a with
  | arrive request => simp [Config.issued] at issued
  | drift change => simp [Config.issued] at issued
  | step task =>
    simp only [Config.issued] at issued
    cases found : c.tasks[task]? with
    | none => simp [found] at issued
    | some p =>
      have calls := waiting p (List.mem_of_getElem? found)
      cases p with
      | done b => simp [found] at issued
      | fail e => simp [found] at issued
      | call o' next =>
        simp only [found, Option.some.injEq] at issued
        exact issued ▸ calls.1

/-- `sync` marks the calls that do not yield; `drift` is what others do to the state. -/
structure System (Req Env ε : Type) {Op : Type} (Res : Op → Type) (α S : Type) where
  exec : Exec ε Res S
  sync : Op → Bool
  listeners : Req → List (Prog ε Res α)
  drift : Env → S → S

namespace System

variable (M : System Req Env ε Res α S)

/-- Run on through synchronous calls. -/
def settle : Prog ε Res α → S → Prog ε Res α × S
  | .call o next, s =>
    if M.sync o then settle (next (M.exec o s).1) (M.exec o s).2 else (.call o next, s)
  | .done a, s => (.done a, s)
  | .fail e, s => (.fail e, s)

def enter : List (Prog ε Res α) → Config ε Res α S → Config ε Res α S
  | [], c => c
  | p :: rest, c => enter rest ⟨(M.settle p c.state).2, c.tasks ++ [(M.settle p c.state).1]⟩

/-- The scheduled task takes one call; finished tasks and missing ones stutter. -/
def resume (task : Nat) (c : Config ε Res α S) : Config ε Res α S :=
  match c.tasks[task]? with
  | some (.call o next) =>
    let answer := M.exec o c.state
    let settled := M.settle (next answer.1) answer.2
    ⟨settled.2, c.tasks.set task settled.1⟩
  | _ => c

def advance : Action Req Env → Config ε Res α S → Config ε Res α S
  | .arrive request, c => M.enter (M.listeners request) c
  | .step task, c => M.resume task c
  | .drift change, c => ⟨M.drift change c.state, c.tasks⟩

def execute : List (Action Req Env) → Config ε Res α S → Config ε Res α S
  | [], c => c
  | a :: rest, c => execute rest (M.advance a c)

/-- Every step of the run obeys a law about the configuration it starts from. -/
def Runs (law : Config ε Res α S → Action Req Env → Prop) :
    List (Action Req Env) → Config ε Res α S → Prop
  | [], _ => True
  | a :: rest, c => law c a ∧ Runs law rest (M.advance a c)

variable {M}

theorem execute_append (first second : List (Action Req Env)) (c : Config ε Res α S) :
    M.execute (first ++ second) c = M.execute second (M.execute first c) := by
  induction first generalizing c with
  | nil => rfl
  | cons a rest ih => exact ih _

theorem runs_append {law : Config ε Res α S → Action Req Env → Prop}
    {first second : List (Action Req Env)} {c : Config ε Res α S} :
    M.Runs law (first ++ second) c ↔
      M.Runs law first c ∧ M.Runs law second (M.execute first c) := by
  induction first generalizing c with
  | nil => simp [Runs, execute]
  | cons a rest ih => simp only [List.cons_append, Runs, execute, ih, and_assoc]

/-- An invariant kept by every lawful step holds after a lawful run. -/
theorem runs_invariant {law : Config ε Res α S → Action Req Env → Prop}
    {I : Config ε Res α S → Prop}
    (kept : ∀ c a, I c → law c a → I (M.advance a c))
    {actions : List (Action Req Env)} {c : Config ε Res α S}
    (initial : I c) (runs : M.Runs law actions c) : I (M.execute actions c) := by
  induction actions generalizing c with
  | nil => exact initial
  | cons a rest ih => exact ih (kept c a initial runs.1) runs.2

theorem runs_mono {law law' : Config ε Res α S → Action Req Env → Prop}
    (weaker : ∀ c a, law c a → law' c a) {actions : List (Action Req Env)}
    {c : Config ε Res α S} (runs : M.Runs law actions c) : M.Runs law' actions c := by
  induction actions generalizing c with
  | nil => trivial
  | cons a rest ih => exact ⟨weaker c a runs.1, ih runs.2⟩

theorem runs_iff {law law' : Config ε Res α S → Action Req Env → Prop}
    (same : ∀ c a, law c a ↔ law' c a) {actions : List (Action Req Env)}
    {c : Config ε Res α S} : M.Runs law actions c ↔ M.Runs law' actions c :=
  ⟨runs_mono fun c a => (same c a).mp, runs_mono fun c a => (same c a).mpr⟩

theorem runs_and {law law' : Config ε Res α S → Action Req Env → Prop}
    {actions : List (Action Req Env)} {c : Config ε Res α S} :
    M.Runs law actions c ∧ M.Runs law' actions c ↔
      M.Runs (fun c a => law c a ∧ law' c a) actions c := by
  induction actions generalizing c with
  | nil => simp [Runs]
  | cons a rest ih => rw [Runs, Runs, Runs, ← ih, and_and_and_comm]

/-- Two laws that agree wherever an invariant holds have the same lawful runs, when
either of them keeps the invariant. -/
theorem runs_congr {law law' : Config ε Res α S → Action Req Env → Prop}
    {I : Config ε Res α S → Prop}
    (same : ∀ c a, I c → (law c a ↔ law' c a))
    (kept : ∀ c a, I c → law c a → I (M.advance a c))
    {actions : List (Action Req Env)} {c : Config ε Res α S} (initial : I c) :
    M.Runs law actions c ↔ M.Runs law' actions c := by
  induction actions generalizing c with
  | nil => exact Iff.rfl
  | cons a rest ih =>
    constructor
    · rintro ⟨head, tail⟩
      exact ⟨(same c a initial).mp head, (ih (kept c a initial head)).mp tail⟩
    · rintro ⟨head, tail⟩
      have head := (same c a initial).mpr head
      exact ⟨head, (ih (kept c a initial head)).mpr tail⟩

/-- A preorder holds between any two moments of a run exactly when every step keeps it. -/
theorem runs_preorder {R : S → S → Prop} (refl : ∀ s, R s s)
    (trans : ∀ a b c, R a b → R b c → R a c) {actions : List (Action Req Env)}
    {c : Config ε Res α S} :
    (∀ pre mid post, actions = pre ++ mid ++ post →
      R (M.execute pre c).state (M.execute (pre ++ mid) c).state) ↔
    M.Runs (fun c a => R c.state (M.advance a c).state) actions c := by
  constructor
  · intro all
    induction actions generalizing c with
    | nil => trivial
    | cons a rest ih =>
      refine ⟨all [] [a] rest rfl, ih fun pre mid post split => ?_⟩
      exact all (a :: pre) mid post (by rw [split]; rfl)
  · rintro runs pre mid post rfl
    rw [execute_append]
    have middle := (runs_append.mp (runs_append.mp runs).1).2
    generalize M.execute pre c = d at middle ⊢
    clear runs
    induction mid generalizing d with
    | nil => exact refl _
    | cons a rest ih => exact trans _ _ _ middle.1 (ih _ middle.2)

/-- A state predicate that holds at the start holds at every moment of a run exactly
when every step ends in it. -/
theorem runs_always {I : S → Prop} {actions : List (Action Req Env)} {c : Config ε Res α S}
    (initial : I c.state) :
    (∀ pre post, actions = pre ++ post → I (M.execute pre c).state) ↔
    M.Runs (fun c a => I (M.advance a c).state) actions c := by
  constructor
  · intro all
    induction actions generalizing c with
    | nil => trivial
    | cons a rest ih =>
      have next := all [a] rest rfl
      refine ⟨next, ih next fun pre post split => ?_⟩
      exact all (a :: pre) post (by rw [split]; rfl)
  · rintro runs pre post rfl
    exact runs_invariant (I := fun c => I c.state) (fun _ _ _ kept => kept) initial
      (runs_append.mp runs).1

/-- The same by a condition that decides each step from a state satisfying `I`. -/
theorem always_iff_runs {I : S → Prop} {cond : Config ε Res α S → Action Req Env → Prop}
    (decides : ∀ c a, I c.state → (I (M.advance a c).state ↔ cond c a))
    {actions : List (Action Req Env)} {c : Config ε Res α S} :
    (∀ pre post, actions = pre ++ post → I (M.execute pre c).state) ↔
      I c.state ∧ M.Runs cond actions c := by
  have agree (initial : I c.state) :
      M.Runs (fun c a => I (M.advance a c).state) actions c ↔ M.Runs cond actions c :=
    runs_congr (I := fun c => I c.state) decides (fun _ _ _ kept => kept) initial
  constructor
  · intro always
    have initial := always [] actions rfl
    exact ⟨initial, (agree initial).mp ((runs_always initial).mp always)⟩
  · rintro ⟨initial, runs⟩
    exact (runs_always initial).mpr ((agree initial).mpr runs)

section Frame

variable {γ : Type} (field : S → γ)
  (frame : ∀ o s, M.sync o = true → field (M.exec o s).2 = field s)
include frame

theorem settle_frame (p : Prog ε Res α) (s : S) : field (M.settle p s).2 = field s := by
  induction p generalizing s with
  | done a => rfl
  | fail e => rfl
  | call o next ih =>
    rw [settle]
    split
    next sync => rw [ih, frame o s sync]
    next => rfl

theorem enter_frame (ps : List (Prog ε Res α)) (c : Config ε Res α S) :
    field (M.enter ps c).state = field c.state := by
  induction ps generalizing c with
  | nil => rfl
  | cons p rest ih => rw [enter, ih, settle_frame field frame]

/-- What synchronous calls leave alone, a step changes by the one call it executes. -/
theorem advance_frame (a : Action Req Env) (c : Config ε Res α S) :
    field (M.advance a c).state =
      match a, c.issued a with
      | .drift change, _ => field (M.drift change c.state)
      | _, some o => field (M.exec o c.state).2
      | _, none => field c.state := by
  cases a with
  | arrive request => exact enter_frame field frame _ _
  | drift change => rfl
  | step task =>
    simp only [advance, resume, Config.issued]
    cases c.tasks[task]? with
    | none => rfl
    | some p =>
      cases p with
      | done b => rfl
      | fail e => rfl
      | call o next => exact settle_frame field frame _ _

end Frame

section Async

variable (async : ∀ o, M.sync o = false)
include async

theorem settle_async (p : Prog ε Res α) (s : S) : M.settle p s = (p, s) := by
  cases p <;> simp [settle, async]

theorem enter_state_async (ps : List (Prog ε Res α)) (c : Config ε Res α S) :
    (M.enter ps c).state = c.state := by
  induction ps generalizing c with
  | nil => rfl
  | cons p rest ih => rw [enter, ih, settle_async async]

/-- Without synchronous calls a step of the system is one call. -/
theorem advance_state_async (a : Action Req Env) (c : Config ε Res α S) :
    (M.advance a c).state =
      match a, c.issued a with
      | .drift change, _ => M.drift change c.state
      | _, some o => (M.exec o c.state).2
      | _, none => c.state := by
  cases a with
  | arrive request => exact enter_state_async async _ _
  | drift change => rfl
  | step task =>
    simp only [advance, resume, Config.issued]
    cases c.tasks[task]? with
    | none => rfl
    | some p => cases p <;> simp [settle_async async]

/-- What every environment change keeps, a step keeps exactly if the call that it issues does. -/
theorem step_iff_async {P : S → Prop} {C : Op → Prop} {a : Action Req Env} {c : Config ε Res α S}
    (stay : P c.state) (drifts : ∀ change, P (M.drift change c.state))
    (decides : ∀ o, c.issued a = some o → (P (M.exec o c.state).2 ↔ C o)) :
    P (M.advance a c).state ↔ ∀ o, c.issued a = some o → C o := by
  rw [advance_state_async async]
  cases issued : c.issued a with
  | none =>
    refine iff_of_true ?_ fun o called => by cases called
    cases a with
    | drift change => exact drifts change
    | _ => exact stay
  | some o =>
    have only : P (M.exec o c.state).2 ↔ ∀ o', some o = some o' → C o' := by
      rw [decides o issued]
      exact ⟨fun holds _ same => Option.some.inj same ▸ holds, fun all => all o rfl⟩
    cases a with
    | drift change => cases issued
    | _ => exact only

theorem calls_advance {P : Op → Prop}
    (listens : ∀ request, ∀ p ∈ M.listeners request, p.Calls P)
    {c : Config ε Res α S} (waiting : ∀ p ∈ c.tasks, p.Calls P) (a : Action Req Env) :
    ∀ p ∈ (M.advance a c).tasks, p.Calls P := by
  cases a with
  | drift change => exact waiting
  | arrive request =>
    have started : ∀ (ps : List (Prog ε Res α)) (c : Config ε Res α S),
        (∀ p ∈ ps, p.Calls P) → (∀ p ∈ c.tasks, p.Calls P) →
          ∀ p ∈ (M.enter ps c).tasks, p.Calls P := by
      intro ps
      induction ps with
      | nil => exact fun _ _ tasks => tasks
      | cons p rest ih =>
        intro c new tasks
        refine ih _ (fun q member => new q (List.mem_cons_of_mem _ member)) fun q member => ?_
        rw [settle_async async, List.mem_append, List.mem_singleton] at member
        rcases member with old | rfl
        · exact tasks q old
        · exact new q List.mem_cons_self
    exact started _ _ (listens request) waiting
  | step task =>
    rw [advance, resume]
    cases found : c.tasks[task]? with
    | none => exact waiting
    | some p =>
      have calls := waiting p (List.mem_of_getElem? found)
      cases p with
      | done b => exact waiting
      | fail e => exact waiting
      | call o next =>
        intro q member
        simp only [settle_async async] at member
        rcases List.mem_or_eq_of_mem_set member with old | rfl
        · exact waiting q old
        · exact Prog.calls_next calls _

end Async

section Serial

variable (serial : ∀ o, M.sync o = true)
include serial

theorem settle_serial (p : Prog ε Res α) (s : S) :
    (M.settle p s).1.Ended ∧ (M.settle p s).2 = (p.run M.exec s).2 := by
  induction p generalizing s with
  | done a => exact ⟨trivial, rfl⟩
  | fail e => exact ⟨trivial, rfl⟩
  | call o next ih =>
    rw [settle, if_pos (serial o)]
    exact ih _ _

theorem enter_serial (ps : List (Prog ε Res α)) {c : Config ε Res α S}
    (ended : ∀ p ∈ c.tasks, p.Ended) :
    (∀ p ∈ (M.enter ps c).tasks, p.Ended) ∧
      (M.enter ps c).state = ps.foldl (fun s p => (p.run M.exec s).2) c.state := by
  induction ps generalizing c with
  | nil => exact ⟨ended, rfl⟩
  | cons p rest ih =>
    obtain ⟨settled, state⟩ := settle_serial serial p c.state
    have ⟨tasks, final⟩ := ih (c := ⟨(M.settle p c.state).2, c.tasks ++ [(M.settle p c.state).1]⟩)
      (by simpa [or_imp, forall_and] using ⟨ended, settled⟩)
    exact ⟨tasks, final.trans (by rw [state]; rfl)⟩

/-- When no call yields, each request runs to its end at once. -/
theorem advance_serial {c : Config ε Res α S} (ended : ∀ p ∈ c.tasks, p.Ended)
    (a : Action Req Env) :
    (∀ p ∈ (M.advance a c).tasks, p.Ended) ∧
      (M.advance a c).state =
        match a with
        | .arrive request =>
          (M.listeners request).foldl (fun s p => (p.run M.exec s).2) c.state
        | .step _ => c.state
        | .drift change => M.drift change c.state := by
  cases a with
  | arrive request => exact enter_serial serial _ ended
  | drift change => exact ⟨ended, rfl⟩
  | step task =>
    rw [advance, resume]
    cases found : c.tasks[task]? with
    | none => exact ⟨ended, rfl⟩
    | some p =>
      have finished := ended p (List.mem_of_getElem? found)
      cases p with
      | done b => exact ⟨ended, rfl⟩
      | fail e => exact ⟨ended, rfl⟩
      | call o next => exact finished.elim

end Serial
end System
end Coop
