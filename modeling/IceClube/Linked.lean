import IceClube.Keys

/-! Rows that name rows of a table, with no foreign key to hold them: which writes to the table
leave every name a row, and what an inner join shows of them. -/
namespace Table

variable {α β γ : Type}

/-- Give a row another identifier; the next one is beyond it. -/
def move (t : Table α) (id new : Nat) (f : α → α) : Table α where
  get other := if other = new then (t.get id).map f else if other = id then none else t.get other
  next := max t.next (new + 1)
  fresh other beyond := by
    rw [if_neg (by omega)]
    split
    · rfl
    · exact t.fresh other (by omega)

theorem get_move (t : Table α) (id new other : Nat) (f : α → α) : (t.move id new f).get other =
    if other = new then (t.get id).map f else if other = id then none else t.get other := rfl

def Linked (t : Table α) (key : β → Nat) (refs : List β) : Prop :=
  ∀ b ∈ refs, (t.get (key b)).isSome = true

instance (t : Table α) (key : β → Nat) (refs : List β) : Decidable (t.Linked key refs) :=
  inferInstanceAs (Decidable (∀ b ∈ refs, _))

variable {t t' : Table α} {key : β → Nat} {refs more : List β}

theorem Linked.mono (linked : t.Linked key refs) (fewer : ∀ b ∈ more, b ∈ refs) :
    t.Linked key more := fun b member => linked b (fewer b member)

theorem linked_congr (same : ∀ id, (t'.get id).isSome = (t.get id).isSome) :
    t'.Linked key refs ↔ t.Linked key refs := by
  simp only [Linked, same]

theorem linked_append : t.Linked key (refs ++ more) ↔ t.Linked key refs ∧ t.Linked key more := by
  simp only [Linked, List.mem_append, or_imp, forall_and]

theorem isSome_modify (t : Table α) (id other : Nat) (f : α → α) :
    ((t.modify id f).get other).isSome = (t.get other).isSome := by
  rw [get_modify]
  split <;> simp

theorem Linked.insert (linked : t.Linked key refs) (row : α) : (t.insert row).Linked key refs := by
  intro b member
  rw [get_insert]
  split
  · rfl
  · exact linked b member

theorem linked_erase (linked : t.Linked key refs) (id : Nat) :
    (t.erase id).Linked key refs ↔ ∀ b ∈ refs, key b ≠ id := by
  refine forall₂_congr fun b member => ?_
  rw [get_erase]
  split
  next same => simp [same]
  next other => simp [other, linked b member]

/-- Only the names of the old identifier are lost. -/
theorem linked_move (linked : t.Linked key refs) {id new : Nat} (f : α → α)
    (found : (t.get id).isSome = true) (apart : new ≠ id) :
    (t.move id new f).Linked key refs ↔ ∀ b ∈ refs, key b ≠ id := by
  refine forall₂_congr fun b member => ?_
  rw [get_move]
  split
  next here => simp [here, found, apart]
  next =>
    split
    next same => simp [same]
    next other => simp [other, linked b member]

end Table
