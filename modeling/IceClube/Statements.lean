import IceClube.Faulty
import IceClube.Pool

/-! Servers whose programs send one autocommitted statement at a time. A step is one
statement on the database, or it leaves the database alone. -/
namespace Coop

variable {Req Env ε Op α S : Type} {Res : Op → Type}

/-- One program for each request, over statements of the meaning `sem`. -/
def autocommit (sem : (o : Op) → S → Res o × S) (rejection : ε)
    (handler : Req → Prog ε Res α) (drift : Env → S → S) :
    System Req Env ε Res α (Faulty S) where
  exec := Faulty.exec sem rejection
  sync _ := false
  listeners request := [handler request]
  drift change w := ⟨drift change w.state, w.faults⟩

/-- The statement that a step executes without rejection, if any. -/
def Config.effect (c : Config ε Res α (Faulty S)) (a : Action Req Env) : Option Op :=
  (c.issued a).filter fun _ => !c.state.faults.headD false

namespace Prog

theorem calls_mono {P Q : Op → Prop} (weaker : ∀ o, P o → Q o) {p : Prog ε Res α}
    (calls : p.Calls P) : p.Calls Q :=
  meets_weaken calls (fun o _ => weaker o) fun _ _ _ _ _ _ => trivial

theorem calls_any (p : Prog ε Res α) : p.Calls fun _ => True := by
  induction p with
  | done a => trivial
  | fail e => trivial
  | call o next ih => exact ⟨trivial, fun answer _ _ => ih answer⟩

end Prog

namespace System

variable {M : System Req Env ε Res α S}

/-- A condition decides each step from a state satisfying `I`, where every configuration of
the run satisfies `J`. -/
theorem always_iff_runs_within {I : S → Prop} {J : Config ε Res α S → Prop}
    {cond : Config ε Res α S → Action Req Env → Prop}
    (kept : ∀ c a, J c → J (M.advance a c))
    (decides : ∀ c a, J c → I c.state → (I (M.advance a c).state ↔ cond c a))
    {actions : List (Action Req Env)} {c : Config ε Res α S} (start : J c) :
    (∀ pre post, actions = pre ++ post → I (M.execute pre c).state) ↔
      I c.state ∧ M.Runs cond actions c := by
  have agree (initial : I c.state) :
      M.Runs (fun c a => I (M.advance a c).state) actions c ↔ M.Runs cond actions c := by
    apply runs_congr (I := fun c => J c ∧ I c.state) (fun c a both => decides c a both.1 both.2)
    · intro c a both next
      exact ⟨kept c a both.1, next⟩
    · exact ⟨start, initial⟩
  constructor
  · intro always
    have initial := always [] actions rfl
    exact ⟨initial, (agree initial).mp ((runs_always initial).mp always)⟩
  · rintro ⟨initial, runs⟩
    exact (runs_always initial).mpr ((agree initial).mpr runs)

end System

namespace Autocommit

variable {sem : (o : Op) → S → Res o × S} {rejection : ε} {handler : Req → Prog ε Res α}
  {drift : Env → S → S}

theorem state_advance (c : Config ε Res α (Faulty S)) (a : Action Req Env) :
    ((autocommit sem rejection handler drift).advance a c).state.state =
      match a, c.effect a with
      | .drift change, _ => drift change c.state.state
      | _, some o => (sem o c.state.state).2
      | _, none => c.state.state := by
  have step := System.advance_state_async (M := autocommit sem rejection handler drift)
    (fun _ => rfl) a c
  rw [step, Config.effect]
  cases a with
  | drift change => rfl
  | arrive request => rfl
  | step task =>
    cases issued : c.issued (.step task : Action Req Env) with
    | none => rfl
    | some o =>
      cases fault : c.state.faults.headD false with
      | true =>
        simp only [autocommit, Faulty.exec_rejected o fault]
        rfl
      | false =>
        simp only [autocommit, Faulty.exec_answered o fault]
        rfl

theorem effect_calls {P : Op → Prop} {c : Config ε Res α (Faulty S)} {a : Action Req Env} {o : Op}
    (waiting : ∀ p ∈ c.tasks, p.Calls P) (effect : c.effect a = some o) : P o :=
  issued_calls waiting (Option.filter_eq_some_iff.mp effect).1

theorem step_iff {I : S → Prop} {C : Op → Prop} {c : Config ε Res α (Faulty S)}
    {a : Action Req Env} (initial : I c.state.state)
    (drifts : ∀ change, I (drift change c.state.state))
    (decides : ∀ o, c.effect a = some o → (I (sem o c.state.state).2 ↔ C o)) :
    I ((autocommit sem rejection handler drift).advance a c).state.state ↔
      ∀ o, c.effect a = some o → C o := by
  rw [state_advance]
  cases a with
  | drift change => exact iff_of_true (drifts change) (by simp [Config.effect, Config.issued])
  | arrive request => exact iff_of_true initial (by simp [Config.effect, Config.issued])
  | step task =>
    cases effect : c.effect (.step task : Action Req Env) with
    | none => exact iff_of_true initial (by simp)
    | some o =>
      rw [decides o effect]
      simp

/-- A property of the database holds at every moment of a run exactly when it holds at the
start and every statement that takes effect keeps it, where only statements `P` are sent. -/
theorem always_iff_of_calls {I : S → Prop} {C : Op → S → Prop} {P : Op → Prop}
    (only : ∀ request, (handler request).Calls P)
    (drifts : ∀ change s, I s → I (drift change s))
    (decides : ∀ o s, P o → I s → (I (sem o s).2 ↔ C o s))
    {actions : List (Action Req Env)} {c : Config ε Res α (Faulty S)}
    (waiting : ∀ p ∈ c.tasks, p.Calls P) :
    (∀ pre post, actions = pre ++ post →
        I ((autocommit sem rejection handler drift).execute pre c).state.state) ↔
      I c.state.state ∧ (autocommit sem rejection handler drift).Runs
        (fun c a => ∀ o, c.effect a = some o → C o c.state.state) actions c := by
  apply System.always_iff_runs_within (M := autocommit sem rejection handler drift)
    (I := fun w => I w.state) (J := fun c => ∀ p ∈ c.tasks, p.Calls P)
  · intro c a waiting
    exact System.calls_advance (M := autocommit sem rejection handler drift) (fun _ => rfl)
      (fun request p member => List.mem_singleton.mp member ▸ only request) waiting a
  · intro c a waiting initial
    apply step_iff initial (fun change => drifts change _ initial)
    intro o effect
    exact decides o _ (effect_calls waiting effect) initial
  · exact waiting

theorem always_iff {I : S → Prop} {C : Op → S → Prop}
    (drifts : ∀ change s, I s → I (drift change s))
    (decides : ∀ o s, I s → (I (sem o s).2 ↔ C o s))
    {actions : List (Action Req Env)} {c : Config ε Res α (Faulty S)} :
    (∀ pre post, actions = pre ++ post →
        I ((autocommit sem rejection handler drift).execute pre c).state.state) ↔
      I c.state.state ∧ (autocommit sem rejection handler drift).Runs
        (fun c a => ∀ o, c.effect a = some o → C o c.state.state) actions c :=
  always_iff_of_calls (fun _ => Prog.calls_any _) drifts (fun o s _ => decides o s)
    fun p _ => Prog.calls_any p

end Autocommit
end Coop
