import Mathlib.Data.List.Sort
import IceClube.Joins

/-! Sums over the groups of a list, and the first of a list by a score: `SUM … GROUP BY` and
`ORDER BY … DESC LIMIT`. -/
namespace Ranking

open Joins

variable {α κ β : Type}

section Sums

variable [DecidableEq κ] [AddCommMonoid β] (key : α → κ) (value : α → β)

/-- The rows of one key more or less. -/
theorem sum_filter_key (rows : List α) (k : κ) :
    ((rows.filter fun row => key row = k).map value).sum +
      ((rows.filter fun row => key row ≠ k).map value).sum = (rows.map value).sum := by
  induction rows with
  | nil => simp
  | cons row rows ih =>
    by_cases same : key row = k
    · simp [same, ← ih, add_assoc]
    · simp [same, ← ih, add_left_comm]

/-- The sums of the groups sum up to the sum of the rows. -/
theorem sum_groupBy (rows : List α) :
    ((groupBy key rows).map fun g => (g.map value).sum).sum = (rows.map value).sum := by
  have keyed (keys : List κ) (distinct : keys.Nodup) (all : ∀ row ∈ rows, key row ∈ keys) :
      (keys.map fun k => ((rows.filter fun row => key row = k).map value).sum).sum =
        (rows.map value).sum := by
    induction keys generalizing rows with
    | nil =>
      obtain rfl : rows = [] := List.eq_nil_iff_forall_not_mem.mpr fun row member =>
        absurd (all row member) List.not_mem_nil
      rfl
    | cons k keys ih =>
      rw [List.nodup_cons] at distinct
      have others := ih (rows.filter fun row => key row ≠ k) distinct.2 fun row member => by
        obtain ⟨member, other⟩ := List.mem_filter.mp member
        exact (List.mem_cons.mp (all row member)).resolve_left (of_decide_eq_true other)
      rw [List.map_cons, List.sum_cons, ← sum_filter_key key value rows k, ← others]
      congr 2
      refine List.map_congr_left fun other member => ?_
      have apart : other ≠ k := fun same => distinct.1 (same ▸ member)
      rw [List.filter_filter]
      refine congrArg (fun l => (List.map value l).sum) (List.filter_congr fun row _ => ?_)
      by_cases own : key row = other <;> simp [own, apart]
  rw [groupBy, List.map_map]
  exact keyed _ (List.nodup_dedup _) fun row member =>
    List.mem_dedup.mpr (List.mem_map_of_mem member)

end Sums

section Heads

variable {γ δ : Type} [DecidableEq κ] {key : α → κ} {rows : List α}

/-- A row is made of the first row of each group and the group; what it tells by the key alone. -/
theorem heads_groupBy {f : α → List α → γ} {h : γ → δ} {H : κ → δ}
    (same : ∀ a ∈ rows, h (f a (rows.filter fun row => key row = key a)) = H (key a)) :
    ((groupBy key rows).filterMap fun g => g.head?.map (f · g)).map h =
      (rows.map key).dedup.map H := by
  have keyed (keys : List κ) (all : ∀ k ∈ keys, k ∈ rows.map key) :
      ((keys.map fun k => rows.filter fun row => key row = k).filterMap fun g =>
        g.head?.map (f · g)).map h = keys.map H := by
    induction keys with
    | nil => rfl
    | cons k keys ih =>
      rw [List.forall_mem_cons] at all
      obtain ⟨row, member, rfl⟩ := List.mem_map.mp all.1
      have inside : row ∈ rows.filter fun other => key other = key row :=
        List.mem_filter.mpr ⟨member, decide_eq_true rfl⟩
      obtain ⟨a, rest, group⟩ := List.exists_cons_of_ne_nil (List.ne_nil_of_mem inside)
      have own : a ∈ rows.filter fun other => key other = key row := by
        rw [group]
        exact List.mem_cons_self
      obtain ⟨there, equal⟩ := List.mem_filter.mp own
      have told := same a there
      rw [of_decide_eq_true equal] at told
      have head : (rows.filter fun other => key other = key row).head? = some a := by
        rw [group, List.head?_cons]
      rw [List.map_cons, List.filterMap_cons_some (by rw [head, Option.map_some]), List.map_cons,
        told, ih all.2, List.map_cons]
  exact keyed _ fun k member => List.mem_dedup.mp member

/-- Every such row is of a group and a row of it. -/
theorem mem_heads {f : α → List α → γ} {c : γ}
    (member : c ∈ (groupBy key rows).filterMap fun g => g.head?.map (f · g)) :
    ∃ a ∈ rows, c = f a (rows.filter fun row => key row = key a) := by
  obtain ⟨g, inside, made⟩ := List.mem_filterMap.mp member
  obtain ⟨a, head, rfl⟩ := Option.map_eq_some_iff.mp made
  obtain ⟨row, -, rfl⟩ := mem_groupBy.mp inside
  obtain ⟨there, equal⟩ := List.mem_filter.mp (List.mem_of_head? head)
  exact ⟨a, there, by rw [of_decide_eq_true equal]⟩

end Heads

section First

variable [LinearOrder β] (score : α → β) (n : Nat)

/-- Highest score first; equal scores stay in their order. -/
def ranked (l : List α) : List α := l.insertionSort fun a b => score b ≤ score a

def first (l : List α) : List α := (ranked score l).take n

/-- These are the first `n`, highest first, and those left out score no higher. -/
structure First (l top : List α) : Prop where
  few : top.length = min n l.length
  sorted : top.Pairwise fun a b => score b ≤ score a
  best : ∃ others, (top ++ others).Perm l ∧ ∀ a ∈ top, ∀ b ∈ others, score b ≤ score a

theorem first_spec (l : List α) : First score n l (first score n l) := by
  have sorted : (ranked score l).Pairwise fun a b => score b ≤ score a := by
    have : Std.Total fun a b : α => score b ≤ score a := ⟨fun a b => le_total _ _⟩
    have : IsTrans α fun a b : α => score b ≤ score a := ⟨fun _ _ _ ab bc => bc.trans ab⟩
    exact List.pairwise_insertionSort _ l
  have split : first score n l ++ (ranked score l).drop n = ranked score l :=
    List.take_append_drop n _
  have parts := sorted
  rw [← split, List.pairwise_append] at parts
  refine ⟨?_, parts.1, (ranked score l).drop n, ?_, parts.2.2⟩
  · rw [first, List.length_take, ranked, List.length_insertionSort]
  · rw [split]
    exact List.perm_insertionSort _ l

end First
end Ranking
