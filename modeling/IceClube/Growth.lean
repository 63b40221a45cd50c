import Mathlib.Data.Option.Basic
import IceClube.Table

/-! Tables whose rows are never deleted and change only as a relation on rows allows. In one
that grows there may be new rows; in one that evolves there are none. -/
namespace Table

variable {α β : Type}

def Grows (r : α → α → Prop) (t t' : Table α) : Prop :=
  ∀ id a, t.get id = some a → ∃ a', t'.get id = some a' ∧ r a a'

def Evolves (r : α → α → Prop) (t t' : Table α) : Prop :=
  ∀ id, Option.Rel r (t.get id) (t'.get id)

variable {r : α → α → Prop} {t t' t'' : Table α}

theorem evolves_alter {f : Nat → α → α} (each : ∀ id a, r a (f id a)) :
    Evolves r t (t.alter f) := by
  intro id
  rw [get_alter]
  cases t.get id with
  | none => exact .none
  | some a => exact .some (each id a)

theorem evolves_refl (refl : ∀ a, r a a) (t : Table α) : Evolves r t t := by
  intro id
  cases t.get id with
  | none => exact .none
  | some a => exact .some (refl a)

theorem evolves_modify (refl : ∀ a, r a a) {id : Nat} {f : α → α} (changed : ∀ a, r a (f a)) :
    Evolves r t (t.modify id f) :=
  evolves_alter fun other a => by
    split
    · exact changed a
    · exact refl a

theorem Evolves.grows (evolves : Evolves r t t') : Grows r t t' := by
  intro id a found
  have related := evolves id
  rw [found] at related
  cases row : t'.get id with
  | none =>
    rw [row] at related
    cases related
  | some a' =>
    rw [row] at related
    cases related with
    | some changed => exact ⟨a', rfl, changed⟩

/-- Every row of the later table comes from a row of the earlier one. -/
theorem Evolves.back (evolves : Evolves r t t') {id : Nat} {a' : α} (found : t'.get id = some a') :
    ∃ a, t.get id = some a ∧ r a a' := by
  have related := evolves id
  rw [found] at related
  cases row : t.get id with
  | none =>
    rw [row] at related
    cases related
  | some a =>
    rw [row] at related
    cases related with
    | some changed => exact ⟨a, rfl, changed⟩

theorem Grows.mono {r' : α → α → Prop} (weaker : ∀ a a', r a a' → r' a a') (grows : Grows r t t') :
    Grows r' t t' := by
  intro id a found
  obtain ⟨a', later, changed⟩ := grows id a found
  exact ⟨a', later, weaker a a' changed⟩

theorem Evolves.mono {r' : α → α → Prop} (weaker : ∀ a a', r a a' → r' a a')
    (evolves : Evolves r t t') : Evolves r' t t' := by
  intro id
  have related := evolves id
  generalize t.get id = before, t'.get id = after at related ⊢
  cases related with
  | none => exact .none
  | some changed => exact .some (weaker _ _ changed)

theorem grows_refl (refl : ∀ a, r a a) (t : Table α) : Grows r t t := (evolves_refl refl t).grows

theorem Grows.trans (trans : ∀ a b c, r a b → r b c → r a c) (first : Grows r t t')
    (second : Grows r t' t'') : Grows r t t'' := by
  intro id a found
  obtain ⟨b, between, ab⟩ := first id a found
  obtain ⟨c, final, bc⟩ := second id b between
  exact ⟨c, final, trans a b c ab bc⟩

theorem grows_insert (refl : ∀ a, r a a) (t : Table α) (row : α) : Grows r t (t.insert row) :=
  fun _ a found => ⟨a, get_insert_of_get row found, refl a⟩

theorem get_insert_eq_some {row a : α} {id : Nat} :
    (t.insert row).get id = some a ↔ id = t.next ∧ a = row ∨ t.get id = some a := by
  rw [get_insert]
  constructor
  · split
    next new => exact fun eq => .inl ⟨new, (Option.some.inj eq).symm⟩
    next => exact .inr
  · rintro (⟨rfl, rfl⟩ | old)
    · exact if_pos rfl
    · exact get_insert_of_get row old

theorem filter_rows {t t' : Table α} {p : α → Bool}
    (same : ∀ n, (t.get n).filter p = (t'.get n).filter p) :
    t.rows.filter (fun row => p row.2) = t'.rows.filter fun row => p row.2 := by
  have upTo {t : Table α} {last : Nat} (beyond : t.next ≤ last) :
      t.rows = (List.range last).filterMap fun id => (t.get id).map (id, ·) := by
    induction beyond with
    | refl => rfl
    | step beyond ih => simp [List.range_succ, List.filterMap_append, ← ih, t.fresh _ beyond]
  rw [upTo (Nat.le_max_left t.next t'.next), upTo (Nat.le_max_right t.next t'.next),
    List.filter_filterMap, List.filter_filterMap]
  congr 1
  funext id
  rw [Option.filter_map, Option.filter_map]
  exact congrArg (Option.map (id, ·)) (same id)

end Table
