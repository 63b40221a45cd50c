import Mathlib.Algebra.BigOperators.Group.List.Basic
import Mathlib.Algebra.Ring.Nat

/-! Statements that are put together from filters: each filter that is given adds a clause and the
values of its placeholders, to a statement and to another one that counts. -/
namespace Placeholders

variable {C Val Row : Type}

/-- A clause with its number of placeholders, and what it tests once they are filled. -/
structure Clause (Val Row : Type) where
  holes : Nat
  test : List Val → Row → Bool

def holds : List (Clause Val Row) → List Val → Row → Bool
  | [], _, _ => true
  | c :: cs, values, row => c.test (values.take c.holes) row && holds cs (values.drop c.holes) row

def holes (cs : List (Clause Val Row)) : Nat := (cs.map Clause.holes).sum

structure Filter (C Val : Type) where
  given : Bool
  clause : C
  params : List Val
  countParams : List Val

def clauses (fs : List (Filter C Val)) : List C := (fs.filter Filter.given).map Filter.clause

def params (fs : List (Filter C Val)) : List Val := (fs.filter Filter.given).flatMap Filter.params

def countParams (fs : List (Filter C Val)) : List Val :=
  (fs.filter Filter.given).flatMap Filter.countParams

def Aligned (sem : C → Clause Val Row) (f : Filter C Val) : Prop :=
  f.params.length = (sem f.clause).holes

variable {sem : C → Clause Val Row} {fs : List (Filter C Val)}

/-- The values of aligned filters fill the placeholders of their clauses. -/
theorem holes_clauses (aligned : ∀ f ∈ fs, Aligned sem f) :
    holes ((clauses fs).map sem) = (params fs).length := by
  induction fs with
  | nil => rfl
  | cons f fs ih =>
    have rest := ih fun f member => aligned f (List.mem_cons_of_mem _ member)
    have first := aligned f List.mem_cons_self
    cases given : f.given with
    | false => simpa [clauses, params, given] using rest
    | true =>
      simp only [clauses, params, holes, given, List.filter_cons_of_pos, List.map_cons, List.sum_cons,
        List.flatMap_cons, List.length_append] at rest ⊢
      rw [rest, first]

/-- Aligned filters admit the rows that each given one admits, whatever values follow. -/
theorem holds_clauses (aligned : ∀ f ∈ fs, Aligned sem f) (more : List Val) (row : Row) :
    holds ((clauses fs).map sem) (params fs ++ more) row =
      fs.all fun f => !f.given || (sem f.clause).test f.params row := by
  induction fs with
  | nil => rfl
  | cons f fs ih =>
    have rest := ih fun f member => aligned f (List.mem_cons_of_mem _ member)
    have first : f.params.length = (sem f.clause).holes := aligned f List.mem_cons_self
    rw [List.all_cons]
    cases given : f.given with
    | false => simpa [clauses, params, given] using rest
    | true =>
      simp only [clauses, params, given, List.filter_cons_of_pos, List.map_cons, List.flatMap_cons,
        List.append_assoc, holds, ← first, List.take_left, List.drop_left, Bool.not_true,
        Bool.false_or] at rest ⊢
      rw [rest]

theorem params_append (fs gs : List (Filter C Val)) : params (fs ++ gs) = params fs ++ params gs := by
  simp [params]

theorem countParams_append (fs gs : List (Filter C Val)) :
    countParams (fs ++ gs) = countParams fs ++ countParams gs := by
  simp [countParams]

/-- Filters that bring the same values to both statements. -/
theorem countParams_eq (same : ∀ f ∈ fs, f.countParams = f.params) : countParams fs = params fs :=
  List.flatMap_congr fun f member => same f (List.mem_of_mem_filter member)

end Placeholders
