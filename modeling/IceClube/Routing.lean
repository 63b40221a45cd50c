import Mathlib.Data.List.Basic
import Mathlib.Tactic.Common

/-! Tables of path patterns of which the first match answers. A pattern that an earlier one
covers never answers; one that shares no path with the earlier ones answers all of its own. -/
namespace Routing

variable {σ : Type} [DecidableEq σ]

inductive Piece (σ : Type) where
  | lit (s : σ)
  | param
  deriving DecidableEq, Repr

abbrev Pattern (σ : Type) := List (Piece σ)

namespace Pattern

def accepts : Pattern σ → List σ → Bool
  | [], [] => true
  | .lit a :: p, s :: path => a = s && accepts p path
  | .param :: p, _ :: path => accepts p path
  | _, _ => false

def covers : Pattern σ → Pattern σ → Bool
  | [], [] => true
  | .lit a :: p, .lit b :: q => a = b && covers p q
  | .param :: p, _ :: q => covers p q
  | _, _ => false

def apart : Pattern σ → Pattern σ → Bool
  | [], [] => false
  | .lit a :: p, .lit b :: q => a ≠ b || apart p q
  | _ :: p, _ :: q => apart p q
  | _, _ => true

theorem accepts_of_covers {p q : Pattern σ} {path : List σ} (covered : p.covers q = true)
    (accepted : q.accepts path = true) : p.accepts path = true := by
  induction p generalizing q path with
  | nil =>
    cases q with
    | nil => exact accepted
    | cons => cases covered
  | cons piece p ih =>
    cases q with
    | nil => cases piece <;> cases covered
    | cons other q =>
      cases path with
      | nil => cases other <;> cases accepted
      | cons s path =>
        cases piece <;> cases other <;>
          simp only [covers, accepts, Bool.and_eq_true, decide_eq_true_eq] at covered accepted ⊢
        · exact ⟨covered.1.trans accepted.1, ih covered.2 accepted.2⟩
        · cases covered
        · exact ih covered accepted.2
        · exact ih covered accepted

theorem not_accepts_of_apart {p q : Pattern σ} {path : List σ} (split : p.apart q = true)
    (accepted : q.accepts path = true) : p.accepts path = false := by
  induction p generalizing q path with
  | nil =>
    cases q with
    | nil => cases split
    | cons other q =>
      cases path with
      | nil => cases other <;> cases accepted
      | cons s path => rfl
  | cons piece p ih =>
    cases path with
    | nil => cases piece <;> rfl
    | cons s path =>
      cases q with
      | nil => cases accepted
      | cons other q =>
        cases piece <;> cases other <;>
          simp only [apart, accepts, Bool.and_eq_true, Bool.or_eq_true, Bool.and_eq_false_iff,
            decide_eq_true_eq, decide_eq_false_iff_not] at split accepted ⊢
        · rcases split with differ | split
          · exact .inl fun same => differ (same.trans accepted.1.symm)
          · exact .inr (ih split accepted.2)
        · exact .inr (ih split accepted)
        · exact ih split accepted.2
        · exact ih split accepted

end Pattern

def dispatch (table : List (Pattern σ)) (path : List σ) : Option Nat :=
  table.findIdx? (·.accepts path)

variable {table : List (Pattern σ)} {i : Nat} {q : Pattern σ}

theorem dispatch_eq_some {path : List σ} (found : table[i]? = some q) :
    dispatch table path = some i ↔
      q.accepts path = true ∧ ∀ p ∈ table.take i, p.accepts path = false := by
  obtain ⟨bound, rfl⟩ := List.getElem?_eq_some_iff.mp found
  rw [dispatch, List.findIdx?_eq_some_iff_getElem]
  constructor
  · rintro ⟨_, accepted, before⟩
    refine ⟨accepted, fun p member => ?_⟩
    obtain ⟨j, bound', rfl⟩ := List.mem_iff_getElem.mp member
    rw [List.length_take] at bound'
    simpa using before j (Nat.lt_of_lt_of_le bound' (Nat.min_le_left _ _))
  · rintro ⟨accepted, before⟩
    refine ⟨bound, accepted, fun j earlier => ?_⟩
    have member : table[j] ∈ table.take i := by
      rw [List.mem_take_iff_getElem]
      exact ⟨j, by omega, rfl⟩
    simpa using before _ member

theorem dispatch_ne_of_covers (found : table[i]? = some q) {p : Pattern σ}
    (earlier : p ∈ table.take i) (covered : p.covers q = true) (path : List σ) :
    dispatch table path ≠ some i := by
  intro answered
  obtain ⟨accepted, before⟩ := (dispatch_eq_some found).mp answered
  have both := before p earlier
  rw [Pattern.accepts_of_covers covered accepted] at both
  cases both

theorem dispatch_iff_of_apart (found : table[i]? = some q)
    (apart : ∀ p ∈ table.take i, p.apart q = true) (path : List σ) :
    dispatch table path = some i ↔ q.accepts path = true := by
  rw [dispatch_eq_some found]
  exact and_iff_left_of_imp fun accepted p earlier =>
    Pattern.not_accepts_of_apart (apart p earlier) accepted

end Routing
