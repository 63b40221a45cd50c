import Mathlib.Data.List.Forall2
import IceClube.Pool

/-! Each task of a run is what is left of the program of the request that started it, in the
order of arrival. What holds of the program of every request and stays so call by call holds of
the tasks, each for its own request. -/
namespace Coop

open Prog

variable {Req Env ε Op α S : Type} {Res : Op → Type}

namespace Prog

section Obeys

variable {β : Type} {K : Contract ε Res Unit}

/-- The program keeps a contract that needs no view, however it ends. -/
def Obeys (K : Contract ε Res Unit) (p : Prog ε Res α) : Prop := Meets K p (fun _ _ => True) ()

theorem obeys_pure (a : α) : Obeys K (pure a : Prog ε Res α) := trivial

theorem obeys_fail (e : ε) : Obeys K (fail e : Prog ε Res α) := trivial

theorem obeys_ask {o : Op} (allowed : K.pre o ()) : Obeys K (ask o : Prog ε Res (Res o)) :=
  (meets_ask ..).mpr ⟨allowed, fun _ _ _ => trivial⟩

theorem obeys_bind {p : Prog ε Res α} {f : α → Prog ε Res β} (first : Obeys K p)
    (rest : ∀ a, Obeys K (f a)) : Obeys K (p >>= f) := by
  rw [Obeys, meets_bind]
  refine meets_mono first fun r _ _ => ?_
  cases r with
  | ok a => exact rest a
  | error e => trivial

theorem obeys_call {o : Op} {f : Res o → Prog ε Res β} (allowed : K.pre o ())
    (rest : ∀ a, K.post o () (.ok a) () → Obeys K (f a)) : Obeys K (ask o >>= f) := by
  rw [Obeys, meets_bind]
  refine (meets_ask ..).mpr ⟨allowed, fun answer _ post => ?_⟩
  cases answer with
  | ok a => exact rest a post
  | error e => trivial

theorem obeys_handle {p : Prog ε Res α} {h : ε → Prog ε Res α} (body : Obeys K p)
    (handler : ∀ e, Obeys K (h e)) : Obeys K (p.handle h) := by
  rw [Obeys, meets_handle]
  refine meets_mono body fun r _ _ => ?_
  cases r with
  | ok a => trivial
  | error e => exact handler e

theorem obeys_ite {b : Prop} [Decidable b] {p q : Prog ε Res α} (yes : b → Obeys K p)
    (no : ¬ b → Obeys K q) : Obeys K (if b then p else q) := by
  split
  · exact yes ‹_›
  · exact no ‹_›

theorem obeys_each {f : β → Prog ε Res Unit} {xs : List β} (turn : ∀ x ∈ xs, Obeys K (f x)) :
    Obeys K (each f xs) :=
  meets_each (J := fun _ => True) (fun x member _ _ => turn x member) () trivial

end Obeys
end Prog

def arrivals : List (Action Req Env) → List Req
  | [] => []
  | .arrive request :: rest => request :: arrivals rest
  | _ :: rest => arrivals rest

theorem arrivals_cons (a : Action Req Env) (rest : List (Action Req Env)) :
    arrivals (a :: rest) = arrivals [a] ++ arrivals rest := by
  cases a <;> rfl

namespace System

variable {M : System Req Env ε Res α S} {P : Req → Prog ε Res α → Prop}
  {law : Config ε Res α S → Action Req Env → Prop}

theorem forall₂_set {β γ : Type} {R : β → γ → Prop} {bs : List β} {cs : List γ} {i : Nat} {x : γ}
    (all : List.Forall₂ R bs cs) (here : ∀ b, bs[i]? = some b → R b x) :
    List.Forall₂ R bs (cs.set i x) := by
  induction all generalizing i with
  | nil => exact .nil
  | cons head tail ih =>
    cases i with
    | zero => exact .cons (here _ rfl) tail
    | succ i => exact .cons head (ih fun b found => here b found)

theorem forall₂_get {β γ : Type} {R : β → γ → Prop} {bs : List β} {cs : List γ} {i : Nat} {b : β}
    {c : γ} (all : List.Forall₂ R bs cs) (left : bs[i]? = some b) (right : cs[i]? = some c) :
    R b c := by
  obtain ⟨bound, rfl⟩ := List.getElem?_eq_some_iff.mp left
  obtain ⟨bound', rfl⟩ := List.getElem?_eq_some_iff.mp right
  exact all.get bound bound'

section Tasks

variable (sync : ∀ request o next s, M.sync o = true → P request (.call o next) →
  P request (next (M.exec o s).1))
include sync

theorem settle_keeps {request : Req} {p : Prog ε Res α} (s : S) (start : P request p) :
    P request (M.settle p s).1 := by
  induction p generalizing s with
  | done a => exact start
  | fail e => exact start
  | call o next ih =>
    rw [settle]
    split
    next immediate => exact ih _ _ (sync request o next s immediate start)
    next => exact start

variable {program : Req → Prog ε Res α} (one : ∀ request, M.listeners request = [program request])
  (starts : ∀ request, P request (program request))
  (step : ∀ request o next c a, law c a → c.issued a = some o → P request (.call o next) →
    P request (next (M.exec o c.state).1))
include one starts step

theorem advance_forall₂ {requests : List Req} {c : Config ε Res α S} {a : Action Req Env}
    (lawful : law c a) (tasks : List.Forall₂ P requests c.tasks) :
    List.Forall₂ P (requests ++ arrivals [a]) (M.advance a c).tasks := by
  cases a with
  | drift change => simpa [arrivals, advance] using tasks
  | arrive request =>
    simp only [advance, one, enter]
    exact List.rel_append tasks (.cons (settle_keeps sync c.state (starts request)) .nil)
  | step task =>
    simp only [arrivals, List.append_nil, advance, resume]
    cases found : c.tasks[task]? with
    | none => exact tasks
    | some p =>
      cases p with
      | done b => exact tasks
      | fail e => exact tasks
      | call o next =>
        have issued : c.issued (.step task : Action Req Env) = some o := by
          simp [Config.issued, found]
        refine forall₂_set tasks fun request mine => settle_keeps sync _ ?_
        exact step request o next c _ lawful issued (forall₂_get tasks mine found)

theorem execute_forall₂ {requests : List Req} {actions : List (Action Req Env)}
    {c : Config ε Res α S} (lawful : M.Runs law actions c)
    (tasks : List.Forall₂ P requests c.tasks) :
    List.Forall₂ P (requests ++ arrivals actions) (M.execute actions c).tasks := by
  induction actions generalizing requests c with
  | nil => simpa [arrivals, execute] using tasks
  | cons a rest ih =>
    have next := advance_forall₂ sync one starts step lawful.1 tasks
    rw [arrivals_cons, ← List.append_assoc]
    exact ih lawful.2 next

end Tasks

theorem runs_any (actions : List (Action Req Env)) (c : Config ε Res α S) :
    M.Runs (fun _ _ => True) actions c := by
  induction actions generalizing c with
  | nil => trivial
  | cons a rest ih => exact ⟨trivial, ih _⟩

/-- A task that has ended, where every program keeps a contract that the answers of the run
honour. -/
theorem ended_meets {K : Contract ε Res Unit} {Q : Req → Except ε α → Prop}
    {program : Req → Prog ε Res α} (one : ∀ request, M.listeners request = [program request])
    (meets : ∀ request, Meets K (program request) (fun r _ => Q request r) ())
    {actions : List (Action Req Env)} {s : S} (lawful : M.Runs law actions ⟨s, []⟩)
    (sync : ∀ o s, M.sync o = true → K.post o () (M.exec o s).1 ())
    (step : ∀ c a o, law c a → c.issued a = some o → K.post o () (M.exec o c.state).1 ()) {i : Nat}
    {request : Req} (arrived : (arrivals actions)[i]? = some request) {e : ε}
    (failed : (M.execute actions ⟨s, []⟩).tasks[i]? = some (.fail e)) : Q request (.error e) := by
  have tasks := execute_forall₂ (M := M)
    (P := fun request p => Meets K p (fun r _ => Q request r) ())
    (fun _ o next s immediate met => met.2 _ () (sync o s immediate)) one meets
    (fun _ o next c a lawful issued met => met.2 _ () (step c a o lawful issued)) lawful .nil
  exact forall₂_get (R := fun request p => Meets K p (fun r _ => Q request r) ()) tasks arrived
    failed

/-- The request whose program a step runs, after the actions `past`. -/
def author (past : List (Action Req Env)) : Action Req Env → Option Req
  | .arrive request => some request
  | .step task => (arrivals past)[task]?
  | .drift _ => none

section Foreign

variable {K : Req → Contract ε Res Unit} {program : Req → Prog ε Res α} {γ : Type} (field : S → γ)
  (foreign : Req → Prop) (one : ∀ request, M.listeners request = [program request])
  (starts : ∀ request, Obeys (K request) (program request))
  (answers : ∀ request o s, (K request).pre o () → (K request).post o () (M.exec o s).1 ())
  (kept : ∀ request o s, foreign request → (K request).pre o () → field (M.exec o s).2 = field s)
  (drifts : ∀ change s, field (M.drift change s) = field s)

include answers kept in
theorem settle_foreign {request : Req} (other : foreign request) {p : Prog ε Res α}
    (obeys : Obeys (K request) p) (s : S) : field (M.settle p s).2 = field s := by
  induction p generalizing s with
  | done a => rfl
  | fail e => rfl
  | call o next ih =>
    rw [settle]
    split
    · exact (ih _ (obeys.2 _ () (answers request o s obeys.1)) _).trans
        (kept request o s other obeys.1)
    · rfl

include one starts answers kept drifts in
/-- A step of a program that leaves a part of the state alone. -/
theorem advance_foreign {past : List (Action Req Env)} {s : S} {a : Action Req Env}
    (other : ∀ request ∈ author past a, foreign request) :
    field (M.advance a (M.execute past ⟨s, []⟩)).state = field (M.execute past ⟨s, []⟩).state := by
  cases a with
  | drift change => exact drifts change _
  | arrive request =>
    simp only [advance, one, enter]
    exact settle_foreign field foreign answers kept (other request rfl) (starts request) _
  | step task =>
    have tasks := execute_forall₂ (M := M)
      (P := fun request p => Obeys (K request) p)
      (fun request o next s _ obeys => obeys.2 _ () (answers request o s obeys.1)) one starts
      (fun request o next c _ _ _ obeys => obeys.2 _ () (answers request o c.state obeys.1))
      (runs_any past ⟨s, []⟩) .nil
    simp only [advance, resume]
    cases found : (M.execute past ⟨s, []⟩).tasks[task]? with
    | none => rfl
    | some p =>
      cases p with
      | done b => rfl
      | fail e => rfl
      | call o next =>
        have bound : task < (arrivals past).length := by
          rw [← List.nil_append (arrivals past), tasks.length_eq]
          exact (List.getElem?_eq_some_iff.mp found).1
        have arrived := List.getElem?_eq_getElem bound
        have obeys : Obeys (K (arrivals past)[task]) (.call o next) :=
          forall₂_get (R := fun request p => Obeys (K request) p) tasks arrived found
        have mine := other _ arrived
        exact (settle_foreign field foreign answers kept mine
          (obeys.2 _ () (answers _ o _ obeys.1)) _).trans (kept _ o _ mine obeys.1)

include one starts answers kept drifts in
/-- A stretch of a run in which only such programs take steps. -/
theorem execute_foreign (past : List (Action Req Env)) {s : S} (rest : List (Action Req Env))
    (others : ∀ first a last, rest = first ++ a :: last →
      ∀ request ∈ author (past ++ first) a, foreign request) :
    field (M.execute (past ++ rest) ⟨s, []⟩).state = field (M.execute past ⟨s, []⟩).state := by
  induction rest generalizing past with
  | nil => rw [List.append_nil]
  | cons a rest ih =>
    have next := ih (past ++ [a]) fun first b last split request mine =>
      others (a :: first) b last (by rw [split]; rfl) request (by simpa using mine)
    have here := advance_foreign (s := s) field foreign one starts answers kept drifts
      (others [] a rest rfl)
    rw [List.append_nil] at here
    rw [List.append_cons, next, execute_append]
    exact here

end Foreign
end System
end Coop
