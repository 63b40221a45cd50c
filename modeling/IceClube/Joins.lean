import Mathlib.Algebra.BigOperators.Group.List.Basic
import Mathlib.Algebra.BigOperators.Group.List.Lemmas
import Mathlib.Algebra.Ring.Nat
import Mathlib.Data.List.Dedup

/-! Left joins of lists of rows, and the groups of their rows by a key. -/
namespace Joins

variable {α β γ κ : Type}

/-- The matches of a row, or NULL where there is none. -/
def optional : List β → List (Option β)
  | [] => [none]
  | b :: bs => (b :: bs).map some

def leftJoin (on : α → β → Bool) (left : List α) (right : List β) : List (α × Option β) :=
  left.flatMap fun a => (optional (right.filter (on a))).map fun b => (a, b)

/-- `GROUP BY`: the rows of each key that occurs. -/
def groupBy [DecidableEq κ] (key : α → κ) (rows : List α) : List (List α) :=
  (rows.map key).dedup.map fun k => rows.filter fun row => key row = k

section LeftJoin

variable {on : α → β → Bool} {left : List α} {right : List β}

theorem optional_ne_nil (bs : List β) : optional bs ≠ [] := by
  cases bs <;> simp [optional]

theorem length_optional (bs : List β) : (optional bs).length = max 1 bs.length := by
  cases bs with
  | nil => rfl
  | cons b bs =>
    simp only [optional, List.length_map, List.length_cons]
    omega

theorem filterMap_optional (f : β → Option γ) (bs : List β) :
    (optional bs).filterMap (fun b => b.bind f) = bs.filterMap f := by
  cases bs with
  | nil => rfl
  | cons b bs => simp [optional, List.filterMap_cons, List.filterMap_map]

/-- Where the row without a match gives nothing, the matches alone give all. -/
theorem flatMap_optional {f : Option β → List γ} (null : f none = []) (bs : List β) :
    (optional bs).flatMap f = bs.flatMap fun b => f (some b) := by
  cases bs with
  | nil => simp [optional, null]
  | cons b bs => simp [optional, List.flatMap_map]

theorem mem_leftJoin {row : α × Option β} (member : row ∈ leftJoin on left right) : row.1 ∈ left := by
  obtain ⟨a, here, inside⟩ := List.mem_flatMap.mp member
  obtain ⟨b, -, rfl⟩ := List.mem_map.mp inside
  exact here

theorem leftJoin_ne_nil (some_row : left ≠ []) : leftJoin on left right ≠ [] := by
  obtain ⟨a, left, rfl⟩ := List.exists_cons_of_ne_nil some_row
  simp [leftJoin, optional_ne_nil]

theorem length_leftJoin :
    (leftJoin on left right).length = (left.map fun a => max 1 (right.filter (on a)).length).sum := by
  simp only [leftJoin, List.length_flatMap, List.length_map, length_optional]

/-- It has as many rows as the left table just where no row has two matches. -/
theorem length_leftJoin_eq_iff :
    (leftJoin on left right).length = left.length ↔
      ∀ a ∈ left, (right.filter (on a)).length ≤ 1 := by
  rw [length_leftJoin]
  induction left with
  | nil => simp
  | cons a left ih =>
    have enough : left.length ≤ (left.map fun a => max 1 (right.filter (on a)).length).sum := by
      have each : ∀ n ∈ left.map fun a => max 1 (right.filter (on a)).length, 1 ≤ n := by
        intro n member
        obtain ⟨a, -, rfl⟩ := List.mem_map.mp member
        exact Nat.le_max_left ..
      simpa using List.length_le_sum_of_one_le _ each
    rw [List.forall_mem_cons, ← ih, List.map_cons, List.sum_cons, List.length_cons]
    omega

theorem leftJoin_singleton (a : α) :
    leftJoin on [a] right = (optional (right.filter (on a))).map fun b => (a, b) :=
  List.flatMap_singleton ..

/-- A join goes on row by row. -/
theorem leftJoin_flatMap (f : γ → List α) (xs : List γ) :
    leftJoin on (xs.flatMap f) right = xs.flatMap fun x => leftJoin on (f x) right := by
  rw [leftJoin, List.flatMap_assoc]
  rfl

theorem leftJoin_rows (left : List α) :
    leftJoin on left right = left.flatMap fun a => leftJoin on [a] right := by
  rw [← leftJoin_flatMap, List.flatMap_singleton']

end LeftJoin

section Parts

theorem filterMap_same (xs : List α) (b : Option β) :
    xs.filterMap (fun _ => b) = b.toList.flatMap (List.replicate xs.length) := by
  cases b with
  | none => simp
  | some b => simp [List.map_const']

/-- Parts that all begin alike begin as the first one does. -/
theorem head_parts {xs : List α} {f : α → List β} {b : Option β} (some_part : xs ≠ [])
    (same : ∀ x ∈ xs, (f x).head? = b) : (xs.flatMap f).head? = b := by
  rw [List.head?_flatMap]
  obtain ⟨x, xs, rfl⟩ := List.exists_cons_of_ne_nil some_part
  rw [List.forall_mem_cons] at same
  cases b with
  | none =>
    rw [List.findSome?_cons, same.1]
    exact List.findSome?_eq_none_iff.mpr same.2
  | some b => rw [List.findSome?_cons, same.1]

/-- Each value over and over, or all of them over and over: only the order differs. -/
theorem perm_repeated (xs : List α) (n : Nat) :
    (xs.flatMap (List.replicate n)).Perm (List.replicate n xs).flatten := by
  induction n with
  | zero => simp
  | succ n ih =>
    have split := List.flatMap_append_perm xs (fun x => [x]) (List.replicate n)
    rw [List.flatMap_singleton'] at split
    rw [List.replicate_succ, List.flatten_cons]
    exact split.symm.trans (ih.append_left xs)

end Parts

section Groups

variable {f : γ → List α} {xs : List γ}

/-- A condition that looks at one table only takes whole parts of the join. -/
theorem filter_flatMap_part {p : α → Bool} {q : γ → Bool}
    (same : ∀ x ∈ xs, ∀ a ∈ f x, p a = q x) :
    (xs.flatMap f).filter p = (xs.filter q).flatMap f := by
  induction xs with
  | nil => rfl
  | cons x xs ih =>
    have rest := ih fun y member => same y (List.mem_cons_of_mem _ member)
    have first := same x List.mem_cons_self
    rw [List.flatMap_cons, List.filter_append, rest]
    cases keep : q x with
    | true =>
      rw [List.filter_cons_of_pos keep, List.flatMap_cons,
        List.filter_eq_self.mpr fun a member => (first a member).trans keep]
    | false =>
      rw [List.filter_cons_of_neg (by simp [keep]),
        List.filter_eq_nil_iff.mpr fun a member => by simp [first a member, keep], List.nil_append]

theorem filter_leftJoin {on : α → β → Bool} {left : List α} {right : List β} (p : α → Bool) :
    (leftJoin on left right).filter (fun row => p row.1) = leftJoin on (left.filter p) right := by
  refine filter_flatMap_part fun a _ row inside => ?_
  obtain ⟨b, -, rfl⟩ := List.mem_map.mp inside
  rfl

variable {key : α → κ} {k : γ → κ}

theorem map_key_part {x : γ} (same : ∀ a ∈ f x, key a = k x) :
    (f x).map key = List.replicate (f x).length (k x) :=
  List.eq_replicate_iff.mpr ⟨List.length_map _, by simpa using same⟩

variable [DecidableEq κ]

theorem filter_key {x : γ} (distinct : (xs.map k).Nodup) (member : x ∈ xs) :
    xs.filter (fun y => k y = k x) = [x] := by
  induction xs with
  | nil => cases member
  | cons y xs ih =>
    rw [List.map_cons, List.nodup_cons] at distinct
    rcases List.mem_cons.mp member with rfl | later
    · have others : xs.filter (fun y => k y = k x) = [] := by
        refine List.filter_eq_nil_iff.mpr fun y inside same => ?_
        exact distinct.1 (of_decide_eq_true same ▸ List.mem_map_of_mem inside)
      rw [List.filter_cons_of_pos (by simp), others]
    · have other : k y ≠ k x := fun same => distinct.1 (same ▸ List.mem_map_of_mem later)
      rw [List.filter_cons_of_neg (by simpa using other), ih distinct.2 later]

theorem dedup_keys (same : ∀ x ∈ xs, ∀ a ∈ f x, key a = k x) (some_row : ∀ x ∈ xs, f x ≠ [])
    (distinct : (xs.map k).Nodup) : ((xs.flatMap f).map key).dedup = xs.map k := by
  induction xs with
  | nil => rfl
  | cons x xs ih =>
    rw [List.map_cons, List.nodup_cons] at distinct
    rw [List.forall_mem_cons] at same some_row
    have apart : List.Disjoint ((f x).map key) ((xs.flatMap f).map key) := by
      intro c first later
      rw [map_key_part same.1] at first
      obtain ⟨a, inside, rfl⟩ := List.mem_map.mp later
      obtain ⟨y, member, row⟩ := List.mem_flatMap.mp inside
      rw [same.2 y member a row] at first
      exact distinct.1 (List.eq_of_mem_replicate first ▸ List.mem_map_of_mem member)
    rw [List.flatMap_cons, List.map_append, apart.dedup_append, ih same.2 some_row.2 distinct.2,
      map_key_part same.1, List.replicate_dedup fun none_there => some_row.1 <|
        List.length_eq_zero_iff.mp none_there]
    rfl

/-- Where each part has rows and a key of its own, the parts are the groups. -/
theorem groupBy_flatMap (same : ∀ x ∈ xs, ∀ a ∈ f x, key a = k x) (some_row : ∀ x ∈ xs, f x ≠ [])
    (distinct : (xs.map k).Nodup) : groupBy key (xs.flatMap f) = xs.map f := by
  rw [groupBy, dedup_keys same some_row distinct, List.map_map]
  refine List.map_congr_left fun x member => ?_
  have part : (xs.flatMap f).filter (fun a => key a = k x) =
      (xs.filter fun y => k y = k x).flatMap f := by
    refine filter_flatMap_part fun y inside a row => ?_
    rw [same y inside a row]
  rw [Function.comp_apply, part, filter_key distinct member, List.flatMap_singleton]

theorem length_groupBy (rows : List α) : (groupBy key rows).length = (rows.map key).dedup.length :=
  List.length_map _

theorem mem_groupBy {rows g : List α} :
    g ∈ groupBy key rows ↔ ∃ row ∈ rows, g = rows.filter fun other => key other = key row := by
  simp only [groupBy, List.mem_map, List.mem_dedup]
  constructor
  · rintro ⟨_, ⟨row, member, rfl⟩, rfl⟩
    exact ⟨row, member, rfl⟩
  · rintro ⟨row, member, rfl⟩
    exact ⟨key row, ⟨row, member, rfl⟩, rfl⟩

theorem length_group (rows : List α) (c : κ) :
    (rows.filter fun row => key row = c).length = (rows.map key).count c := by
  rw [List.count, List.countP_map, List.countP_eq_length_filter]
  rfl

theorem sum_length_groupBy (rows : List α) :
    ((groupBy key rows).map List.length).sum = rows.length := by
  have whole := List.sum_map_count_dedup_eq_length (rows.map key)
  rw [List.length_map] at whole
  rw [groupBy, List.map_map, ← whole]
  exact congrArg List.sum (List.map_congr_left fun c _ => length_group rows c)

/-- What is told of the groups tells them apart just where rows told alike have one key. -/
theorem nodup_map_groupBy {f : List α → γ} {rows : List α} :
    ((groupBy key rows).map f).Nodup ↔ ∀ a ∈ rows, ∀ b ∈ rows,
      f (rows.filter fun row => key row = key a) = f (rows.filter fun row => key row = key b) →
        key a = key b := by
  rw [groupBy, List.map_map, List.nodup_map_iff_inj_on (List.nodup_dedup _)]
  simp only [List.mem_dedup, List.mem_map, Function.comp_apply, forall_exists_index, and_imp,
    forall_apply_eq_imp_iff₂]

end Groups

section Distinct

variable [DecidableEq κ]

/-- `COUNT(DISTINCT …)`: NULL is not counted. -/
def countDistinct (column : α → Option κ) (rows : List α) : Nat := (rows.filterMap column).dedup.length

/-- Only the group of NULL is not among the values that are counted. -/
theorem length_groupBy_option (column : α → Option κ) (rows : List α) :
    (groupBy column rows).length =
      countDistinct column rows + if ∃ row ∈ rows, column row = none then 1 else 0 := by
  rw [length_groupBy, countDistinct]
  induction rows with
  | nil => rfl
  | cons row rows ih =>
    rw [List.map_cons]
    cases value : column row with
    | none =>
      have here : ∃ r ∈ row :: rows, column r = none := ⟨row, List.mem_cons_self, value⟩
      rw [List.filterMap_cons_none value, if_pos here]
      by_cases null : ∃ r ∈ rows, column r = none
      · rw [List.dedup_cons_of_mem (List.mem_map.mpr null), ih, if_pos null]
      · rw [List.dedup_cons_of_notMem (fun inside => null (List.mem_map.mp inside)),
          List.length_cons, ih, if_neg null]
    | some k =>
      have rest : (∃ r ∈ row :: rows, column r = none) ↔ ∃ r ∈ rows, column r = none := by
        simp [value]
      have known : some k ∈ rows.map column ↔ k ∈ rows.filterMap column := by simp
      simp only [List.filterMap_cons_some value, rest]
      by_cases old : k ∈ rows.filterMap column
      · rw [List.dedup_cons_of_mem (known.mpr old), List.dedup_cons_of_mem old, ih]
      · rw [List.dedup_cons_of_notMem (mt known.mp old), List.dedup_cons_of_notMem old,
          List.length_cons, List.length_cons, ih]
        omega

end Distinct
end Joins
