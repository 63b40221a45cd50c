import Mathlib.Data.List.Nodup
import Mathlib.Data.List.Range
import Mathlib.Data.List.Sort
import IceClube.Table

/-! Keys of tables. A key may be absent from a row; it is unique when no two rows have the
same. Deletion of one row, and rows in the order of a column. -/
namespace Table

variable {α κ : Type}

def erase (t : Table α) (id : Nat) : Table α where
  get other := if other = id then none else t.get other
  next := t.next
  fresh other beyond := by
    split
    · rfl
    · exact t.fresh other beyond

theorem get_erase (t : Table α) (id other : Nat) :
    (t.erase id).get other = if other = id then none else t.get other := rfl

def Free (key : α → Option κ) (t : Table α) (k : κ) (except : Option Nat) : Prop :=
  ∀ i a, t.get i = some a → some i ≠ except → key a ≠ some k

def UniqueKey (key : α → Option κ) (t : Table α) : Prop :=
  ∀ i j a b k, t.get i = some a → t.get j = some b → key a = some k → key b = some k → i = j

variable {key : α → Option κ} {t : Table α}

theorem uniqueKey_empty : (empty : Table α).UniqueKey key := by
  intro i j a b k first
  simp at first

theorem uniqueKey_insert (unique : t.UniqueKey key) (row : α) :
    (t.insert row).UniqueKey key ↔ ∀ k, key row = some k → t.Free key k none := by
  constructor
  · intro all k own i a found _ same
    have new : (t.insert row).get t.next = some row := by rw [get_insert, if_pos rfl]
    have old := get_insert_of_get row found
    have := all i t.next a row k old new same own
    have := lt_next found
    omega
  · intro free i j a b k first second left right
    rw [get_insert] at first second
    split at first
    next here =>
      obtain rfl := Option.some.inj first
      split at second
      next there => exact here.trans there.symm
      next => exact absurd right (free k left j b second (by simp))
    next =>
      split at second
      next =>
        obtain rfl := Option.some.inj second
        exact absurd left (free k right i a first (by simp))
      next => exact unique i j a b k first second left right

/-- So does a row that is rewritten when no other row has its new key. -/
theorem uniqueKey_modify (unique : t.UniqueKey key) (id : Nat) (f : α → α) :
    (t.modify id f).UniqueKey key ↔
      ∀ old, t.get id = some old → ∀ k, key (f old) = some k → t.Free key k (some id) := by
  constructor
  · intro all old found k own i a other apart same
    have apart : i ≠ id := by simpa using apart
    have changed : (t.modify id f).get id = some (f old) := by
      rw [get_modify, if_pos rfl, found, Option.map_some]
    have kept : (t.modify id f).get i = some a := by rw [get_modify, if_neg apart, other]
    exact apart (all i id a (f old) k kept changed same own)
  · intro free i j a b k first second left right
    rw [get_modify] at first second
    split at first
    next here =>
      obtain ⟨old, found, rfl⟩ := Option.map_eq_some_iff.mp first
      split at second
      next there => exact here.trans there.symm
      next apart =>
        have free := free old (here ▸ found) k left j b second (by simpa using apart)
        exact absurd right free
    next apart =>
      split at second
      next there =>
        obtain ⟨old, found, rfl⟩ := Option.map_eq_some_iff.mp second
        have free := free old (there ▸ found) k right i a first (by simpa using apart)
        exact absurd left free
      next => exact unique i j a b k first second left right

theorem rows_insert (t : Table α) (row : α) : (t.insert row).rows = t.rows ++ [(t.next, row)] := by
  have old : ∀ id ∈ List.range t.next,
      ((t.insert row).get id).map (id, ·) = (t.get id).map (id, ·) := by
    intro id before
    rw [get_insert, if_neg (Nat.ne_of_lt (List.mem_range.mp before))]
  have new : ((t.insert row).get t.next).map (t.next, ·) = some (t.next, row) := by
    rw [get_insert, if_pos rfl, Option.map_some]
  rw [rows, next_insert, List.range_succ, List.filterMap_append, List.filterMap_congr old,
    List.filterMap_cons, new]
  rfl

/-- Rows inserted one by one come last, in their order and with identifiers of their own. -/
theorem rows_foldl_insert (t : Table α) (news : List α) :
    ∃ pairs, (news.foldl insert t).rows = t.rows ++ pairs ∧ pairs.map Prod.snd = news ∧
      ∀ x ∈ pairs, t.get x.1 = none := by
  induction news generalizing t with
  | nil => exact ⟨[], by simp⟩
  | cons row news ih =>
    obtain ⟨pairs, rows, values, absent⟩ := ih (t.insert row)
    refine ⟨(t.next, row) :: pairs, ?_, by simp [values], ?_⟩
    · simp [rows, rows_insert]
    · intro x member
      rcases List.mem_cons.mp member with rfl | later
      · exact get_next t
      · cases old : t.get x.1 with
        | none => rfl
        | some a =>
          have kept := get_insert_of_get row old
          simp [absent x later] at kept

theorem rows_insertAll (t : Table α) (news : List α) :
    (news.foldl insert t).rows.map Prod.snd = t.rows.map Prod.snd ++ news := by
  obtain ⟨pairs, rows, values, -⟩ := rows_foldl_insert t news
  rw [rows, List.map_append, values]

theorem next_insertAll (t : Table α) (news : List α) :
    (news.foldl insert t).next = t.next + news.length := by
  induction news generalizing t with
  | nil => rfl
  | cons row news ih =>
    rw [List.foldl_cons, ih, next_insert, List.length_cons]
    omega

/-- The rows of a kind that a table did not have before. -/
theorem length_novas (t : Table α) (news : List α) (p : α → Bool) :
    ((news.foldl insert t).rows.filter fun x => (t.get x.1).isNone && p x.2).length =
      news.countP p := by
  obtain ⟨pairs, rows, values, absent⟩ := rows_foldl_insert t news
  have old : t.rows.filter (fun x => (t.get x.1).isNone && p x.2) = [] := by
    apply List.filter_eq_nil_iff.mpr
    intro x member
    simp [mem_rows.mp member]
  have new : pairs.filter (fun x => (t.get x.1).isNone && p x.2) =
      pairs.filter fun x => p x.2 := by
    apply List.filter_congr
    intro x member
    simp [absent x member]
  rw [rows, List.filter_append, old, new, List.nil_append, ← values, List.countP_map,
    List.countP_eq_length_filter]
  rfl

theorem get_insertAll_of_get {t : Table α} {old : α} {id : Nat} (news : List α)
    (h : t.get id = some old) : (news.foldl insert t).get id = some old := by
  induction news generalizing t with
  | nil => exact h
  | cons row news ih => exact ih (get_insert_of_get row h)

theorem nodup_rows (t : Table α) : t.rows.Nodup := by
  apply List.Nodup.filterMap
  · intro i j row first second
    obtain ⟨_, _, rfl⟩ := Option.map_eq_some_iff.mp first
    obtain ⟨_, _, same⟩ := Option.map_eq_some_iff.mp second
    exact (congrArg Prod.fst same).symm
  · exact List.nodup_range

theorem nodup_ids (t : Table α) : (t.rows.map (·.1)).Nodup := by
  refine t.nodup_rows.map_on fun x left y right same => Prod.ext same ?_
  have found := mem_rows.mp left
  rw [same, mem_rows.mp right] at found
  exact (Option.some.inj found).symm

/-- A query by a unique key finds one row at most. -/
theorem UniqueKey.length_le_one [DecidableEq κ] (unique : t.UniqueKey key) (k : κ) :
    (t.rows.filter fun row => key row.2 = some k).length ≤ 1 := by
  have nodup := t.nodup_rows.filter fun row => key row.2 = some k
  have same : ∀ x ∈ t.rows.filter (fun row => key row.2 = some k),
      ∀ y ∈ t.rows.filter (fun row => key row.2 = some k), x = y := by
    intro x left y right
    simp only [List.mem_filter, decide_eq_true_eq] at left right
    have ids := unique x.1 y.1 x.2 y.2 k (mem_rows.mp left.1) (mem_rows.mp right.1)
      left.2 right.2
    have rows := mem_rows.mp left.1
    rw [ids, mem_rows.mp right.1] at rows
    exact Prod.ext ids (Option.some.inj rows).symm
  revert nodup same
  cases t.rows.filter fun row => key row.2 = some k with
  | nil => simp
  | cons x rest =>
    cases rest with
    | nil => simp
    | cons y rest =>
      intro nodup same
      have := same x (by simp) y (by simp)
      simp [this] at nodup

/-- `ORDER BY column DESC`: NULL comes last, and `rank` orders the rows that are left equal. -/
def orderDesc (rank : Nat → Nat) (column : α → Option Nat) (rows : List (Nat × α)) :
    List (Nat × α) :=
  let value (row : Nat × α) : Nat := (column row.2).elim 0 (· + 1)
  rows.insertionSort fun p q =>
    value q < value p ∨ (value q = value p ∧ rank p.1 ≤ rank q.1)

theorem perm_orderDesc (rank : Nat → Nat) (column : α → Option Nat) (rows : List (Nat × α)) :
    (orderDesc rank column rows).Perm rows := List.perm_insertionSort _ _

end Table
