import Mathlib.Algebra.BigOperators.Group.List.Basic
import Mathlib.Algebra.Ring.Nat
import Mathlib.Data.List.AList

/-! Objects whose fields are numbers assigned one after the other: a later assignment
overwrites an earlier one, and some names cannot be assigned. -/
namespace Fields

variable {κ : Type}

abbrev Object (κ : Type) := AList fun _ : κ => Nat

def total (o : Object κ) : Nat := (o.entries.map (·.2)).sum

@[simp] theorem total_empty : total (∅ : Object κ) = 0 := rfl

variable [DecidableEq κ]

def set (settable : κ → Bool) (o : Object κ) (k : κ) (n : Nat) : Object κ :=
  if settable k then o.insert k n else o

def assign (settable : κ → Bool) (o : Object κ) (pairs : List (κ × Nat)) : Object κ :=
  pairs.foldl (fun o p => set settable o p.1 p.2) o

/-- The value of a field, 0 where it is absent. -/
def value (o : Object κ) (k : κ) : Nat := (o.lookup k).getD 0

variable {settable : κ → Bool} {o : Object κ} {pairs : List (κ × Nat)} {k : κ} {n : Nat}

@[simp] theorem assign_nil : assign settable o [] = o := rfl

@[simp] theorem assign_cons (p : κ × Nat) :
    assign settable o (p :: pairs) = assign settable (set settable o p.1 p.2) pairs := rfl

section Total

theorem sum_kerase (k : κ) (l : List (Σ _ : κ, Nat)) :
    (l.map (·.2)).sum = (l.dlookup k).getD 0 + ((l.kerase k).map (·.2)).sum := by
  induction l with
  | nil => simp
  | cons s l ih =>
    by_cases here : k = s.1
    · obtain ⟨_, n⟩ := s
      cases here
      simp
    · rw [List.dlookup_cons_ne l s here, List.kerase_cons_ne here]
      simp only [List.map_cons, List.sum_cons]
      omega

/-- What an assignment overwrites is lost. -/
theorem total_insert (o : Object κ) (k : κ) (n : Nat) :
    total (o.insert k n) + value o k = n + total o := by
  have old := sum_kerase k o.entries
  have new : total (o.insert k n) = n + ((o.entries.kerase k).map (·.2)).sum := rfl
  rw [new, total, value, AList.lookup]
  omega

theorem total_set_le (settable : κ → Bool) (o : Object κ) (k : κ) (n : Nat) :
    total (set settable o k n) ≤ total o + n := by
  have kept := total_insert o k n
  rw [set]
  split <;> omega

theorem total_assign_le (settable : κ → Bool) (o : Object κ) (pairs : List (κ × Nat)) :
    total (assign settable o pairs) ≤ total o + (pairs.map (·.2)).sum := by
  induction pairs generalizing o with
  | nil => simp
  | cons p pairs ih =>
    have first := total_set_le settable o p.1 p.2
    have rest := ih (set settable o p.1 p.2)
    simp only [assign_cons, List.map_cons, List.sum_cons]
    omega

def Positive (o : Object κ) : Prop := ∀ k ∈ o, 0 < value o k

theorem positive_empty : Positive (∅ : Object κ) :=
  fun k inside => absurd inside (AList.notMem_empty k)

theorem Positive.set (positive : Positive o) (settable : κ → Bool) (k : κ) (some_n : 0 < n) :
    Positive (set settable o k n) := by
  rw [Fields.set]
  split
  · intro k' inside
    by_cases same : k' = k
    · rw [value, same, AList.lookup_insert]
      exact some_n
    · rw [value, AList.lookup_insert_ne same]
      exact positive k' ((AList.mem_insert o).mp inside |>.resolve_left same)
  · exact positive

/-- Nothing is lost just where the field is new and can be assigned. -/
theorem total_set_eq_iff (positive : Positive o) (settable : κ → Bool) (k : κ) (some_n : 0 < n) :
    total (set settable o k n) = total o + n ↔ settable k ∧ k ∉ o := by
  have kept := total_insert o k n
  rw [set]
  by_cases may : settable k
  · have absent : k ∉ o ↔ value o k = 0 := by
      refine ⟨fun absent => ?_, fun zero inside => (positive k inside).ne' zero⟩
      rw [value, AList.lookup_eq_none.mpr absent]
      rfl
    rw [if_pos may, absent]
    simp only [may, true_and]
    omega
  · rw [if_neg may]
    simp only [may, Bool.false_eq_true, false_and, iff_false]
    omega

/-- The fields add up to what was assigned just where each one was assigned once. -/
theorem total_assign_eq_iff (positive : Positive o) (counted : ∀ p ∈ pairs, 0 < p.2) :
    total (assign settable o pairs) = total o + (pairs.map (·.2)).sum ↔
      (pairs.map (·.1)).Nodup ∧ ∀ p ∈ pairs, settable p.1 ∧ p.1 ∉ o := by
  induction pairs generalizing o with
  | nil => simp
  | cons p pairs ih =>
    rw [List.forall_mem_cons] at counted
    have first := total_set_eq_iff positive settable p.1 counted.1
    have bound := total_set_le settable o p.1 p.2
    have later := ih (positive.set settable p.1 counted.1) counted.2
    have most := total_assign_le settable (set settable o p.1 p.2) pairs
    simp only [assign_cons, List.map_cons, List.sum_cons, List.nodup_cons, List.forall_mem_cons]
    by_cases new : settable p.1 ∧ p.1 ∉ o
    · have fresh : (∀ q ∈ pairs, settable q.1 ∧ q.1 ∉ set settable o p.1 p.2) ↔
          (∀ q ∈ pairs, settable q.1 ∧ q.1 ∉ o) ∧ p.1 ∉ pairs.map (·.1) := by
        rw [set, if_pos new.1]
        simp only [AList.mem_insert, List.mem_map]
        constructor
        · exact fun apart => ⟨fun q member => ⟨(apart q member).1, fun old =>
            (apart q member).2 (.inr old)⟩, fun ⟨q, member, same⟩ => (apart q member).2 (.inl same)⟩
        · exact fun ⟨apart, own⟩ q member => ⟨(apart q member).1, fun old =>
            old.elim (fun same => own ⟨q, member, same⟩) (apart q member).2⟩
      rw [fresh, first.mpr new, Nat.add_assoc] at later
      rw [later]
      tauto
    · have lost : total (set settable o p.1 p.2) ≠ total o + p.2 := mt first.mp new
      exact iff_of_false (by omega) fun whole => new whole.2.1

end Total

section Value

theorem value_assign_of_notMem (absent : k ∉ pairs.map (·.1)) :
    value (assign settable o pairs) k = value o k := by
  induction pairs generalizing o with
  | nil => rfl
  | cons p pairs ih =>
    rw [List.map_cons, List.mem_cons, not_or] at absent
    rw [assign_cons, ih absent.2, set]
    split
    · rw [value, AList.lookup_insert_ne absent.1, value]
    · rfl

theorem value_assign (distinct : (pairs.map (·.1)).Nodup) (may : settable k)
    (member : (k, n) ∈ pairs) : value (assign settable o pairs) k = n := by
  induction pairs generalizing o with
  | nil => cases member
  | cons p pairs ih =>
    rw [List.map_cons, List.nodup_cons] at distinct
    rcases List.mem_cons.mp member with rfl | later
    · rw [assign_cons, value_assign_of_notMem distinct.1, set, if_pos may, value,
        AList.lookup_insert]
      rfl
    · exact ih distinct.2 later

end Value
end Fields
