/-! Programs that reach the outside world only through calls. A call is answered
or rejected, and a rejection travels to the nearest handler of the program. Neither
the calls nor their meaning are fixed here. -/
namespace Coop

inductive Prog (ε : Type) {Op : Type} (Res : Op → Type) (α : Type) where
  | done (a : α)
  | fail (e : ε)
  | call (o : Op) (next : Except ε (Res o) → Prog ε Res α)

variable {ε Op S α β : Type} {Res : Op → Type}

namespace Prog

def bind : Prog ε Res α → (α → Prog ε Res β) → Prog ε Res β
  | done a, f => f a
  | fail e, _ => fail e
  | call o next, f => call o fun answer => (next answer).bind f

def handle : Prog ε Res α → (ε → Prog ε Res α) → Prog ε Res α
  | done a, _ => done a
  | fail e, h => h e
  | call o next, h => call o fun answer => (next answer).handle h

instance : Monad (Prog ε Res) where
  pure := done
  bind := bind

def answered : Except ε α → Prog ε Res α
  | .ok a => done a
  | .error e => fail e

/-- One call whose rejection is thrown. -/
@[simp] def ask (o : Op) : Prog ε Res (Res o) := call o answered

/-- A loop without early exit. -/
def each (f : β → Prog ε Res Unit) : List β → Prog ε Res Unit
  | [] => done ()
  | x :: xs => f x >>= fun _ => each f xs

@[simp] theorem answered_ok (a : α) :
    (answered (.ok a) : Prog ε Res α) = done a := rfl
@[simp] theorem answered_error (e : ε) :
    (answered (.error e) : Prog ε Res α) = fail e := rfl
@[simp] theorem pure_eq (a : α) : (pure a : Prog ε Res α) = done a := rfl
@[simp] theorem bind_done (a : α) (f : α → Prog ε Res β) : (done a >>= f) = f a := rfl
@[simp] theorem bind_fail (e : ε) (f : α → Prog ε Res β) : (fail e >>= f) = fail e := rfl
@[simp] theorem bind_call (o : Op) (next : Except ε (Res o) → Prog ε Res α)
    (f : α → Prog ε Res β) : (call o next >>= f) = call o fun answer => next answer >>= f := rfl

theorem bind_assoc {γ : Type} (p : Prog ε Res α) (f : α → Prog ε Res β)
    (g : β → Prog ε Res γ) : (p >>= f) >>= g = p >>= fun a => f a >>= g := by
  induction p with
  | done a => rfl
  | fail e => rfl
  | call o next ih => exact congrArg (call o) (funext fun answer => ih answer)

end Prog

def Prog.Ended : Prog ε Res α → Prop
  | .call .. => False
  | _ => True

/-- The meaning of every call on a state. -/
abbrev Exec (ε : Type) {Op : Type} (Res : Op → Type) (S : Type) :=
  (o : Op) → S → Except ε (Res o) × S

namespace Prog

variable (exec : Exec ε Res S)

@[simp] def run : Prog ε Res α → S → Except ε α × S
  | done a, s => (.ok a, s)
  | fail e, s => (.error e, s)
  | call o next, s => run (next (exec o s).1) (exec o s).2

def trace : Prog ε Res α → S → List (Op × S)
  | call o next, s => (o, s) :: trace (next (exec o s).1) (exec o s).2
  | _, _ => []

variable {exec}

/-- A run of two parts is a run of the first and, where it returns, of the second. -/
theorem run_bind {p : Prog ε Res α} {f : α → Prog ε Res β} (s : S) :
    (p >>= f).run exec s =
      match p.run exec s with
      | (.ok a, s') => (f a).run exec s'
      | (.error e, s') => (.error e, s') := by
  induction p generalizing s with
  | done a => rfl
  | fail e => rfl
  | call o next ih => exact ih _ _

theorem trace_bind {p : Prog ε Res α} {f : α → Prog ε Res β} (s : S) :
    (p >>= f).trace exec s = p.trace exec s ++
      match p.run exec s with
      | (.ok a, s') => (f a).trace exec s'
      | (.error _, _) => [] := by
  induction p generalizing s with
  | done a => rfl
  | fail e => rfl
  | call o next ih => exact congrArg ((o, s) :: ·) (ih _ _)

theorem run_handle {p : Prog ε Res α} {h : ε → Prog ε Res α} (s : S) :
    (p.handle h).run exec s =
      match p.run exec s with
      | (.ok a, s') => (.ok a, s')
      | (.error e, s') => (h e).run exec s' := by
  induction p generalizing s with
  | done a => rfl
  | fail e => rfl
  | call o next ih => exact ih _ _

theorem trace_handle {p : Prog ε Res α} {h : ε → Prog ε Res α} (s : S) :
    (p.handle h).trace exec s = p.trace exec s ++
      match p.run exec s with
      | (.ok _, _) => []
      | (.error e, s') => (h e).trace exec s' := by
  induction p generalizing s with
  | done a => rfl
  | fail e => rfl
  | call o next ih => exact congrArg ((o, s) :: ·) (ih _ _)

/-- What every call of a run keeps, the run keeps. -/
theorem trace_invariant (J : S → Prop) {p : Prog ε Res α} {s : S}
    (step : ∀ x ∈ p.trace exec s, J x.2 → J (exec x.1 x.2).2) (start : J s) :
    J (p.run exec s).2 := by
  induction p generalizing s with
  | done a => exact start
  | fail e => exact start
  | call o next ih =>
    have first : J (exec o s).2 := step (o, s) List.mem_cons_self start
    exact ih _ (fun x later => step x (List.mem_cons_of_mem _ later)) first

end Prog

/-- What a program owes at each call and may assume of the answer, told over a view of
the state of its own. -/
structure Contract (ε : Type) {Op : Type} (Res : Op → Type) (V : Type) where
  pre : Op → V → Prop
  post : (o : Op) → V → Except ε (Res o) → V → Prop

namespace Prog

variable {V : Type} (K : Contract ε Res V)

/-- The program keeps the contract and ends in `Q`, whatever the contract lets the
answers be. -/
def Meets : Prog ε Res α → (Except ε α → V → Prop) → V → Prop
  | done a, Q, v => Q (.ok a) v
  | fail e, Q, v => Q (.error e) v
  | call o next, Q, v =>
    K.pre o v ∧ ∀ answer v', K.post o v answer v' → Meets (next answer) Q v'

/-- The postcondition of a first part followed by `f`. -/
def Then (f : α → Prog ε Res β) (Q : Except ε β → V → Prop) : Except ε α → V → Prop
  | .ok a, v => Meets K (f a) Q v
  | .error e, v => Q (.error e) v

/-- The postcondition of a guarded part whose rejections go to `h`. -/
def Catch (h : ε → Prog ε Res α) (Q : Except ε α → V → Prop) : Except ε α → V → Prop
  | .ok a, v => Q (.ok a) v
  | .error e, v => Meets K (h e) Q v

variable {K}

@[simp] theorem then_ok (f : α → Prog ε Res β) (Q : Except ε β → V → Prop) (a : α) (v : V) :
    Then K f Q (.ok a) v ↔ Meets K (f a) Q v := Iff.rfl

@[simp] theorem then_error (f : α → Prog ε Res β) (Q : Except ε β → V → Prop) (e : ε) (v : V) :
    Then K f Q (.error e) v ↔ Q (.error e) v := Iff.rfl

@[simp] theorem catch_ok (h : ε → Prog ε Res α) (Q : Except ε α → V → Prop) (a : α) (v : V) :
    Catch K h Q (.ok a) v ↔ Q (.ok a) v := Iff.rfl

@[simp] theorem catch_error (h : ε → Prog ε Res α) (Q : Except ε α → V → Prop) (e : ε) (v : V) :
    Catch K h Q (.error e) v ↔ Meets K (h e) Q v := Iff.rfl

@[simp] theorem meets_done (a : α) (Q : Except ε α → V → Prop) (v : V) :
    Meets K (done a : Prog ε Res α) Q v ↔ Q (.ok a) v := Iff.rfl

@[simp] theorem meets_fail (e : ε) (Q : Except ε α → V → Prop) (v : V) :
    Meets K (fail e : Prog ε Res α) Q v ↔ Q (.error e) v := Iff.rfl

theorem meets_call (o : Op) (next : Except ε (Res o) → Prog ε Res α)
    (Q : Except ε α → V → Prop) (v : V) :
    Meets K (call o next) Q v ↔
      K.pre o v ∧ ∀ answer v', K.post o v answer v' → Meets K (next answer) Q v' := Iff.rfl

@[simp] theorem meets_bind (p : Prog ε Res α) (f : α → Prog ε Res β)
    (Q : Except ε β → V → Prop) (v : V) :
    Meets K (p >>= f) Q v ↔ Meets K p (Then K f Q) v := by
  induction p generalizing v with
  | done a => rfl
  | fail e => rfl
  | call o next ih =>
    rw [bind_call, meets_call, meets_call]
    exact and_congr_right fun _ => forall_congr' fun answer => forall_congr' fun v' =>
      forall_congr' fun _ => ih _ _

@[simp] theorem meets_handle (p : Prog ε Res α) (h : ε → Prog ε Res α)
    (Q : Except ε α → V → Prop) (v : V) :
    Meets K (p.handle h) Q v ↔ Meets K p (Catch K h Q) v := by
  induction p generalizing v with
  | done a => rfl
  | fail e => rfl
  | call o next ih =>
    exact and_congr_right fun _ => forall_congr' fun answer => forall_congr' fun v' =>
      forall_congr' fun _ => ih _ _

theorem meets_ask (o : Op) (Q : Except ε (Res o) → V → Prop) (v : V) :
    Meets K (ask o) Q v ↔
      K.pre o v ∧ ∀ answer v', K.post o v answer v' → Q answer v' := by
  refine and_congr_right fun _ => forall_congr' fun answer => ?_
  cases answer <;> rfl

theorem meets_mono {p : Prog ε Res α} {Q Q' : Except ε α → V → Prop} {v : V}
    (h : Meets K p Q v) (weaker : ∀ r v', Q r v' → Q' r v') : Meets K p Q' v := by
  induction p generalizing v with
  | done a => exact weaker _ _ h
  | fail e => exact weaker _ _ h
  | call o next ih => exact ⟨h.1, fun answer v' post => ih _ (h.2 answer v' post)⟩

/-- A loop keeps what each turn keeps. -/
theorem meets_each {f : β → Prog ε Res Unit} {J : V → Prop} {xs : List β}
    (turn : ∀ x ∈ xs, ∀ v, J v → Meets K (f x) (fun _ => J) v) (v : V) (initial : J v) :
    Meets K (each f xs) (fun _ => J) v := by
  induction xs generalizing v with
  | nil => exact initial
  | cons x xs ih =>
    rw [each, meets_bind]
    refine meets_mono (turn x List.mem_cons_self v initial) fun r v' kept => ?_
    cases r with
    | error e => exact kept
    | ok _ => exact ih (fun y member => turn y (List.mem_cons_of_mem _ member)) v' kept

theorem meets_weaken {K' : Contract ε Res V} {p : Prog ε Res α}
    {Q : Except ε α → V → Prop} {v : V} (h : Meets K p Q v)
    (pre : ∀ o v, K.pre o v → K'.pre o v)
    (post : ∀ o v answer v', K.pre o v → K'.post o v answer v' → K.post o v answer v') :
    Meets K' p Q v := by
  induction p generalizing v with
  | done a => exact h
  | fail e => exact h
  | call o next ih =>
    exact ⟨pre o v h.1, fun answer v' after => ih _ (h.2 answer v' (post o v answer v' h.1 after))⟩

/-- An execution that honours the contract ends in the postcondition, seen through `sees`. -/
theorem meets_run (sees : S → V → Prop)
    (honours : ∀ o s v, sees s v → K.pre o v →
      ∃ v', K.post o v (exec o s).1 v' ∧ sees (exec o s).2 v')
    {p : Prog ε Res α} {Q : Except ε α → V → Prop} {s : S} {v : V}
    (h : Meets K p Q v) (seen : sees s v) :
    ∃ v', Q (p.run exec s).1 v' ∧ sees (p.run exec s).2 v' := by
  induction p generalizing s v with
  | done a => exact ⟨v, h, seen⟩
  | fail e => exact ⟨v, h, seen⟩
  | call o next ih =>
    obtain ⟨v', post, seen'⟩ := honours o s v seen h.1
    exact ih _ (h.2 _ v' post) seen'

section Within

variable {exec : Exec ε Res S} {sees : S → V → Prop} (good : S → Prop)
  (back : ∀ o s, good (exec o s).2 → good s)
include back

/-- What calls cannot undo held at the start of a run, if it holds at the end. -/
theorem run_back {p : Prog ε Res α} {s : S} (final : good (p.run exec s).2) : good s := by
  induction p generalizing s with
  | done a => exact final
  | fail e => exact final
  | call o next ih => exact back o s (ih _ final)

variable (honours : ∀ o s v, sees s v → K.pre o v → good (exec o s).2 →
  ∃ v', K.post o v (exec o s).1 v' ∧ sees (exec o s).2 v')
include honours

/-- The same where what the run ends in is known beforehand, of calls that cannot undo it. -/
theorem meets_run_within {p : Prog ε Res α} {Q : Except ε α → V → Prop} {s : S} {v : V}
    (h : Meets K p Q v) (seen : sees s v) (final : good (p.run exec s).2) :
    ∃ v', Q (p.run exec s).1 v' ∧ sees (p.run exec s).2 v' := by
  induction p generalizing s v with
  | done a => exact ⟨v, h, seen⟩
  | fail e => exact ⟨v, h, seen⟩
  | call o next ih =>
    obtain ⟨v', post, seen'⟩ := honours o s v seen h.1 (run_back good back final)
    exact ih _ (h.2 _ v' post) seen' final

/-- And every call of the run is made in a view that owes it. -/
theorem meets_trace_within {p : Prog ε Res α} {Q : Except ε α → V → Prop} {s : S} {v : V}
    (h : Meets K p Q v) (seen : sees s v) (final : good (p.run exec s).2) :
    ∀ x ∈ p.trace exec s, ∃ v, sees x.2 v ∧ K.pre x.1 v := by
  induction p generalizing s v with
  | done a => simp [trace]
  | fail e => simp [trace]
  | call o next ih =>
    obtain ⟨v', post, seen'⟩ := honours o s v seen h.1 (run_back good back final)
    intro x member
    rcases List.mem_cons.mp member with rfl | later
    · exact ⟨v, seen, h.1⟩
    · exact ih _ (h.2 _ v' post) seen' final x later

end Within

/-- A contract is met too through a view that follows it call by call. -/
theorem meets_simulate {W : Type} {K' : Contract ε Res W} {sim : V → W → Prop}
    (follows : ∀ o v w, sim v w → K.pre o v → K'.pre o w ∧
      ∀ answer w', K'.post o w answer w' → ∃ v', K.post o v answer v' ∧ sim v' w')
    {p : Prog ε Res α} {Q : Except ε α → V → Prop} {v : V} {w : W}
    (h : Meets K p Q v) (similar : sim v w) :
    Meets K' p (fun r w' => ∃ v', Q r v' ∧ sim v' w') w := by
  induction p generalizing v w with
  | done a => exact ⟨v, h, similar⟩
  | fail e => exact ⟨v, h, similar⟩
  | call o next ih =>
    obtain ⟨pre, after⟩ := follows o v w similar h.1
    refine ⟨pre, fun answer w' post => ?_⟩
    obtain ⟨v', post', similar'⟩ := after answer w' post
    exact ih _ (h.2 answer v' post') similar'

/-- Every call a program can make, whatever it is answered, satisfies `P`. -/
def Calls (P : Op → Prop) (p : Prog ε Res α) : Prop :=
  Meets (V := Unit) ⟨fun o _ => P o, fun _ _ _ _ => True⟩ p (fun _ _ => True) ()

variable {P : Op → Prop}

theorem calls_bind {p : Prog ε Res α} {f : α → Prog ε Res β}
    (first : Calls P p) (rest : ∀ a, Calls P (f a)) : Calls P (p >>= f) := by
  rw [Calls, meets_bind]
  refine meets_mono first fun r _ _ => ?_
  cases r with
  | ok a => exact rest a
  | error e => trivial

theorem calls_handle {p : Prog ε Res α} {h : ε → Prog ε Res α}
    (body : Calls P p) (handler : ∀ e, Calls P (h e)) : Calls P (p.handle h) := by
  rw [Calls, meets_handle]
  refine meets_mono body fun r _ _ => ?_
  cases r with
  | ok a => trivial
  | error e => exact handler e

@[simp] theorem calls_done (a : α) : Calls P (done a : Prog ε Res α) := trivial
@[simp] theorem calls_fail (e : ε) : Calls P (fail e : Prog ε Res α) := trivial

theorem calls_ask (o : Op) : Calls P (ask o : Prog ε Res (Res o)) ↔ P o := by
  rw [Calls, meets_ask]
  exact and_iff_left fun _ _ _ => trivial

theorem calls_next {o : Op} {next : Except ε (Res o) → Prog ε Res α}
    (h : Calls P (call o next)) (answer : Except ε (Res o)) : Calls P (next answer) :=
  h.2 answer () trivial

theorem calls_trace {exec : Exec ε Res S} {p : Prog ε Res α} (h : Calls P p) (s : S) :
    ∀ x ∈ p.trace exec s, P x.1 := by
  induction p generalizing s with
  | done a => simp [trace]
  | fail e => simp [trace]
  | call o next ih =>
    intro x member
    rcases List.mem_cons.mp member with rfl | later
    · exact h.1
    · exact ih _ (calls_next h _) _ x later

theorem calls_each {f : β → Prog ε Res Unit} (body : ∀ x, Calls P (f x)) (xs : List β) :
    Calls P (each f xs) := by
  induction xs with
  | nil => trivial
  | cons x xs ih => exact calls_bind (body x) fun _ => ih

theorem calls_frame {J : V → Prop} {p : Prog ε Res α} (calls : Calls P p)
    (step : ∀ o v, P o → J v → K.pre o v ∧ ∀ answer v', K.post o v answer v' → J v')
    {v : V} (initial : J v) : Meets K p (fun _ => J) v := by
  induction p generalizing v with
  | done a => exact initial
  | fail e => exact initial
  | call o next ih =>
    obtain ⟨pre, post⟩ := step o v calls.1 initial
    exact ⟨pre, fun answer v' after => ih answer (calls_next calls answer) (post answer v' after)⟩

end Prog
end Coop
