import IceClube.Program

/-! Calls that may be rejected. A list of faults decides, call by call, whether the next
one is rejected; a rejected call leaves the state alone. -/
namespace Coop

variable {ε Op S α β : Type} {Res : Op → Type}

structure Faulty (S : Type) where
  state : S
  faults : List Bool

/-- The meaning of the calls when none is rejected. -/
def Reliable (sem : (o : Op) → S → Res o × S) : Exec ε Res S :=
  fun o s => (.ok (sem o s).1, (sem o s).2)

def Faulty.exec (sem : (o : Op) → S → Res o × S) (rejection : ε) : Exec ε Res (Faulty S) :=
  fun o w =>
    if w.faults.headD false then (.error rejection, ⟨w.state, w.faults.tail⟩)
    else (.ok (sem o w.state).1, ⟨(sem o w.state).2, w.faults.tail⟩)

variable {sem : (o : Op) → S → Res o × S} {rejection : ε}

theorem Faulty.exec_rejected (o : Op) {w : Faulty S} (fault : w.faults.headD false = true) :
    Faulty.exec sem rejection o w = (.error rejection, ⟨w.state, w.faults.tail⟩) := if_pos fault

theorem Faulty.exec_answered (o : Op) {w : Faulty S} (fault : w.faults.headD false = false) :
    Faulty.exec sem rejection o w =
      (.ok (sem o w.state).1, ⟨(sem o w.state).2, w.faults.tail⟩) := by
  rw [Faulty.exec, fault]
  rfl

namespace Prog

@[simp] theorem run_reliable (o : Op) (next : Except ε (Res o) → Prog ε Res α) (s : S) :
    (call o next).run (Reliable sem) s =
      (next (.ok (sem o s).1)).run (Reliable sem) (sem o s).2 := rfl

theorem run_ask_reliable {o : Op} {s : S} (f : Res o → Prog ε Res α) :
    (ask o >>= f).run (Reliable sem) s = (f (sem o s).1).run (Reliable sem) (sem o s).2 := rfl

theorem run_ask_rejected {o : Op} {w : Faulty S} (fault : w.faults.headD false = true)
    (f : Res o → Prog ε Res α) :
    (ask o >>= f).run (Faulty.exec sem rejection) w =
      (.error rejection, ⟨w.state, w.faults.tail⟩) := by
  rw [ask, bind_call, run, Faulty.exec_rejected o fault]
  rfl

theorem run_ask_answered {o : Op} {w : Faulty S} (fault : w.faults.headD false = false)
    (f : Res o → Prog ε Res α) :
    (ask o >>= f).run (Faulty.exec sem rejection) w =
      (f (sem o w.state).1).run (Faulty.exec sem rejection)
        ⟨(sem o w.state).2, w.faults.tail⟩ := by
  rw [ask, bind_call, run, Faulty.exec_answered o fault]
  rfl

variable (sem) in
def steps : Prog ε Res α → S → Nat
  | done _, _ => 0
  | fail _, _ => 0
  | call o next, s => steps (next (.ok (sem o s).1)) (sem o s).2 + 1

/-- Every rejection is thrown, none is handled. -/
def Fragile : Prog ε Res α → Prop
  | done _ => True
  | fail _ => True
  | call _ next => (∀ e, next (.error e) = fail e) ∧ ∀ a, Fragile (next (.ok a))

theorem fragile_ask (o : Op) : Fragile (ask o : Prog ε Res (Res o)) :=
  ⟨fun _ => rfl, fun _ => trivial⟩

theorem fragile_bind {p : Prog ε Res α} {f : α → Prog ε Res β}
    (first : Fragile p) (rest : ∀ a, Fragile (f a)) : Fragile (p >>= f) := by
  induction p with
  | done a => exact rest a
  | fail e => trivial
  | call o next ih =>
    refine ⟨fun e => ?_, fun a => ih _ (first.2 a)⟩
    show (next (.error e) >>= f) = fail e
    rw [first.1 e, bind_fail]

theorem fragile_each {f : β → Prog ε Res Unit} (body : ∀ x, Fragile (f x)) (xs : List β) :
    Fragile (each f xs) := by
  induction xs with
  | nil => trivial
  | cons x xs ih => exact fragile_bind (body x) fun _ => ih

/-- No rejection among the next `n` calls. -/
def Calm (n : Nat) (faults : List Bool) : Prop := ∀ b ∈ faults.take n, b = false

@[simp] theorem calm_zero (faults : List Bool) : Calm 0 faults := by simp [Calm]

@[simp] theorem calm_nil (n : Nat) : Calm n [] := by simp [Calm]

theorem calm_succ (n : Nat) (faults : List Bool) :
    Calm (n + 1) faults ↔ faults.headD false = false ∧ Calm n faults.tail := by
  cases faults <;> simp [Calm]

/-- A fragile program returns exactly when its run without rejections does and meets none. -/
theorem run_fragile {p : Prog ε Res α} (fragile : Fragile p) (w : Faulty S) (a : α) :
    (p.run (Faulty.exec sem rejection) w).1 = .ok a ↔
      Calm (p.steps sem w.state) w.faults ∧ (p.run (Reliable sem) w.state).1 = .ok a := by
  induction p generalizing w with
  | done b => simp [run, steps]
  | fail e => simp [run]
  | call o next ih =>
    rw [steps, calm_succ, run]
    cases fault : w.faults.headD false with
    | true =>
      rw [Faulty.exec_rejected o fault, fragile.1]
      simp [run]
    | false =>
      rw [Faulty.exec_answered o fault,
        ih (.ok (sem o w.state).1) (fragile.2 _) ⟨(sem o w.state).2, w.faults.tail⟩]
      simp [run, Reliable]

/-- Without a rejection the state evolves as in the run without rejections. -/
theorem run_calm {p : Prog ε Res α} (rejection : ε) (w : Faulty S)
    (calm : Calm (p.steps sem w.state) w.faults) :
    (p.run (Faulty.exec sem rejection) w).1 = (p.run (Reliable sem) w.state).1 ∧
      (p.run (Faulty.exec sem rejection) w).2.state = (p.run (Reliable sem) w.state).2 := by
  induction p generalizing w with
  | done b => exact ⟨rfl, rfl⟩
  | fail e => exact ⟨rfl, rfl⟩
  | call o next ih =>
    rw [steps, calm_succ] at calm
    rw [run, Faulty.exec_answered o calm.1]
    exact ih (.ok (sem o w.state).1) ⟨(sem o w.state).2, w.faults.tail⟩ calm.2

/-- Which of the next `n` calls is the first to be rejected. -/
def firstFault : Nat → List Bool → Option Nat
  | 0, _ => none
  | n + 1, faults => if faults.headD false then some 0 else (firstFault n faults.tail).map (· + 1)

@[simp] theorem firstFault_zero (faults : List Bool) : firstFault 0 faults = none := rfl

theorem firstFault_rejected {n : Nat} {faults : List Bool} (fault : faults.headD false = true) :
    firstFault (n + 1) faults = some 0 := if_pos fault

theorem firstFault_answered {n : Nat} {faults : List Bool} (fault : faults.headD false = false) :
    firstFault (n + 1) faults = (firstFault n faults.tail).map (· + 1) := by
  rw [firstFault, fault]
  rfl

end Prog
end Coop
