/-! Tables keyed by an automatically increasing identifier. A table is a finite
partial function: no row sits at or beyond the next identifier, so an insertion
never meets an existing row. -/

structure Table (α : Type) where
  get : Nat → Option α
  next : Nat
  fresh : ∀ id, next ≤ id → get id = none

namespace Table

variable {α : Type}

/-- Identifiers start at one, as AUTO_INCREMENT columns do. -/
def empty : Table α := ⟨fun _ => none, 1, fun _ _ => rfl⟩

def insert (t : Table α) (row : α) : Table α where
  get id := if id = t.next then some row else t.get id
  next := t.next + 1
  fresh id beyond := by
    rw [if_neg (by omega)]
    exact t.fresh id (by omega)

/-- Rewrite every row, knowing its identifier. -/
def alter (t : Table α) (f : Nat → α → α) : Table α where
  get id := (t.get id).map (f id)
  next := t.next
  fresh id beyond := by rw [t.fresh id beyond, Option.map_none]

def modify (t : Table α) (id : Nat) (f : α → α) : Table α :=
  t.alter fun other row => if other = id then f row else row

/-- The same rows, with the identifiers below `next` given out. -/
def reserva (t : Table α) (next : Nat) : Table α where
  get := t.get
  next := max t.next next
  fresh id beyond := t.fresh id (Nat.le_trans (Nat.le_max_left _ _) beyond)

def rows (t : Table α) : List (Nat × α) :=
  (List.range t.next).filterMap fun id => (t.get id).map (id, ·)

def ofList (rows : List α) : Table α := rows.foldl insert empty

@[simp] theorem get_empty (id : Nat) : (empty : Table α).get id = none := rfl

theorem get_insert (t : Table α) (row : α) (id : Nat) :
    (t.insert row).get id = if id = t.next then some row else t.get id := rfl

@[simp] theorem get_alter (t : Table α) (f : Nat → α → α) (id : Nat) :
    (t.alter f).get id = (t.get id).map (f id) := rfl

theorem get_modify (t : Table α) (id other : Nat) (f : α → α) :
    (t.modify id f).get other = if other = id then (t.get other).map f else t.get other := by
  simp only [modify, get_alter]
  split <;> simp

theorem modify_ausente {t : Table α} {id : Nat} {f : α → α} (missing : t.get id = none) :
    t.modify id f = t := by
  have rows : (t.modify id f).get = t.get := by
    funext other
    rw [get_modify]
    split
    next same => rw [same, missing, Option.map_none]
    next => rfl
  cases t
  simp only [modify, alter, mk.injEq] at rows ⊢
  exact ⟨rows, trivial⟩

@[simp] theorem get_reserva (t : Table α) (next id : Nat) : (t.reserva next).get id = t.get id := rfl

@[simp] theorem reserva_self (t : Table α) : t.reserva t.next = t := by
  simp [reserva]

@[simp] theorem next_insert (t : Table α) (row : α) : (t.insert row).next = t.next + 1 := rfl
@[simp] theorem next_alter (t : Table α) (f : Nat → α → α) : (t.alter f).next = t.next := rfl
@[simp] theorem next_modify (t : Table α) (id : Nat) (f : α → α) :
    (t.modify id f).next = t.next := rfl

theorem lt_next {t : Table α} {id : Nat} {row : α} (h : t.get id = some row) : id < t.next := by
  apply Nat.lt_of_not_le
  intro beyond
  rw [t.fresh id beyond] at h
  contradiction

@[simp] theorem get_next (t : Table α) : t.get t.next = none := t.fresh _ (Nat.le_refl _)

theorem mem_rows {t : Table α} {id : Nat} {row : α} :
    (id, row) ∈ t.rows ↔ t.get id = some row := by
  simp only [rows, List.mem_filterMap, List.mem_range, Option.map_eq_some_iff, Prod.mk.injEq]
  constructor
  · rintro ⟨_, _, _, found, rfl, rfl⟩
    exact found
  · intro found
    exact ⟨id, lt_next found, row, found, rfl, rfl⟩

theorem rows_alter (t : Table α) (f : Nat → α → α) :
    (t.alter f).rows = t.rows.map fun row => (row.1, f row.1 row.2) := by
  simp only [rows, next_alter, get_alter, List.map_filterMap]
  congr 1
  funext id
  cases t.get id <;> rfl

theorem get_insert_of_get {t : Table α} {old : α} {id : Nat} (row : α)
    (h : t.get id = some old) :
    (t.insert row).get id = some old := by
  rw [get_insert, if_neg (Nat.ne_of_lt (lt_next h)), h]

end Table
