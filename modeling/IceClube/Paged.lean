import Mathlib.Algebra.Order.Floor.Ring
import Mathlib.Algebra.Order.Floor.Semiring
import Mathlib.Algebra.Order.Ring.Rat
import Mathlib.Data.List.Sort
import Mathlib.Data.Rat.Floor

/-! A list that is handed out in pages: sorted by a key, cut at an offset, and counted apart.
Statements whose placeholders are filled from a list of values. -/
namespace Paged

section Pages

variable {α : Type}

/-- The rows of `LIMIT limit OFFSET offset`. -/
def cut (limit offset : Nat) (rows : List α) : List α := (rows.drop offset).take limit

/-- Page number `n` of pages of `limit` rows; the first is number one. -/
def page (limit : Nat) (rows : List α) (n : Nat) : List α := cut limit ((n - 1) * limit) rows

/-- The pages `1 .. last` one after the other are the list, and there is nothing beyond. -/
structure Partition (pages : Nat → List α) (last : Nat) (rows : List α) : Prop where
  all : (List.range last).flatMap (fun i => pages (i + 1)) = rows
  full : rows ≠ [] → pages last ≠ []
  beyond : ∀ n, last < n → pages n = []

variable {limit last n : Nat} {rows : List α}

theorem page_succ (i : Nat) : page limit rows (i + 1) = cut limit (i * limit) rows := rfl

/-- The first pages are the first rows. -/
theorem flatMap_pages (n : Nat) :
    (List.range n).flatMap (fun i => page limit rows (i + 1)) = rows.take (n * limit) := by
  induction n with
  | zero => simp
  | succ n ih =>
    rw [List.range_succ, List.flatMap_append, ih, List.flatMap_singleton, page_succ, cut,
      ← List.take_add, Nat.succ_mul]

/-- Beyond the rows a limit or an offset makes no difference. -/
theorem cut_congr {limit' offset offset' : Nat}
    (limits : min limit rows.length = min limit' rows.length)
    (offsets : min offset rows.length = min offset' rows.length) :
    cut limit offset rows = cut limit' offset' rows := by
  rw [cut, cut, List.drop_eq_drop_iff.mpr offsets, List.take_eq_take_iff, List.length_drop]
  omega

theorem page_eq_nil (before : rows.length ≤ (n - 1) * limit) : page limit rows n = [] := by
  rw [page, cut, List.drop_eq_nil_of_le before, List.take_nil]

theorem page_ne_nil (positive : 0 < limit) (before : (n - 1) * limit < rows.length) :
    page limit rows n ≠ [] := by
  rw [page, cut, ← List.length_pos_iff, List.length_take, List.length_drop]
  omega

/-- The pages of a list, up to the first empty one, tell the list. -/
theorem Partition.eq_of_page {pages : Nat → List α} {rows' : List α}
    (whole : Partition pages last rows') (positive : 0 < limit)
    (same : ∀ n, 1 ≤ n → n ≤ last + 1 → pages n = page limit rows n) : rows' = rows := by
  have enough : rows.length ≤ last * limit := by
    by_contra! more
    refine page_ne_nil (n := last + 1) positive (by simpa using more) ?_
    rw [← same _ (Nat.le_add_left 1 last) le_rfl, whole.beyond _ (Nat.lt_succ_self last)]
  have numbered : (List.range last).flatMap (fun i => pages (i + 1)) =
      (List.range last).flatMap fun i => page limit rows (i + 1) := by
    refine List.flatMap_congr fun i member => same _ (Nat.le_add_left 1 i) ?_
    have below := List.mem_range.mp member
    omega
  rw [← whole.all, numbered, flatMap_pages, List.take_of_length_le enough]

/-- The number of pages is the least that holds the rows. -/
theorem partition_page (positive : 0 < limit) (holds : rows.length ≤ last * limit)
    (least : (last - 1) * limit < rows.length ∨ rows = [] ∧ last = 0) :
    Partition (page limit rows) last rows where
  all := by rw [flatMap_pages, List.take_of_length_le holds]
  full some_row := page_ne_nil positive (least.resolve_right fun none_there => some_row none_there.1)
  beyond n later := by
    refine page_eq_nil (holds.trans (Nat.mul_le_mul_right limit ?_))
    omega

/-- Rounding the quotient up gives that number. -/
theorem partition_ceil (positive : 0 < limit) (rows : List α) :
    Partition (page limit rows) ⌈(rows.length : ℚ) / limit⌉₊ rows := by
  have above : (0 : ℚ) < limit := by exact_mod_cast positive
  refine partition_page positive ?_ ?_
  · have enough := (div_le_iff₀ above).mp (Nat.le_ceil ((rows.length : ℚ) / limit))
    exact_mod_cast enough
  · by_cases empty : rows = []
    · exact .inr ⟨empty, by simp [empty]⟩
    · have some_row : 0 < rows.length := List.length_pos_iff.mpr empty
      have ceil_pos : 0 < ⌈(rows.length : ℚ) / limit⌉₊ :=
        Nat.ceil_pos.mpr (div_pos (by exact_mod_cast some_row) above)
      have below := Nat.ceil_lt_add_one (div_nonneg (Nat.cast_nonneg rows.length) above.le)
      left
      have cast : ((⌈(rows.length : ℚ) / limit⌉₊ - 1 : Nat) : ℚ) < (rows.length : ℚ) / limit := by
        rw [Nat.cast_sub ceil_pos, Nat.cast_one]
        linarith
      have product := (lt_div_iff₀ above).mp cast
      exact_mod_cast product

end Pages

section Sorted

variable {α κ : Type} [LinearOrder κ] (key : α → κ) (rank : α → Nat)

/-- Sorted by a key; rows that it leaves equal come by their rank. -/
def sortOn (rows : List α) : List α :=
  rows.insertionSort fun a b => key a < key b ∨ key a = key b ∧ rank a ≤ rank b

theorem perm_sortOn (rows : List α) : (sortOn key rank rows).Perm rows :=
  List.perm_insertionSort _ _

theorem pairwise_sortOn (rows : List α) :
    (sortOn key rank rows).Pairwise fun a b => key a ≤ key b := by
  let before (a b : α) : Prop := key a < key b ∨ key a = key b ∧ rank a ≤ rank b
  have total : Std.Total before := ⟨fun a b => by
    rcases lt_trichotomy (key a) (key b) with less | same | more
    · exact .inl (.inl less)
    · exact (Nat.le_total (rank a) (rank b)).imp (fun low => .inr ⟨same, low⟩)
        fun low => .inr ⟨same.symm, low⟩
    · exact .inr (.inl more)⟩
  have trans : IsTrans α before := ⟨fun a b c first second => by
    rcases first with less | ⟨same, low⟩ <;> rcases second with less' | ⟨same', low'⟩
    · exact .inl (less.trans less')
    · exact .inl (same' ▸ less)
    · exact .inl (same ▸ less')
    · exact .inr ⟨same.trans same', low.trans low'⟩⟩
  refine (List.pairwise_insertionSort before rows).imp fun {a b} first => ?_
  exact first.elim le_of_lt fun same => same.1.le

end Sorted
end Paged
