import Mathlib.Data.List.Perm.Basic
import Mathlib.Order.Lattice

/-! The first of the least among items of which some have no value, and the tours that take
one item after the other in this way. -/
namespace Greedy

variable {α β γ ρ : Type}

section First

variable [LinearOrder β]

/-- One more item: it replaces the best so far only with a smaller value. -/
def better (i : Nat) (a : α) (value : Option β) (best : Option (Nat × α × β)) :
    Option (Nat × α × β) :=
  match value, best with
  | none, _ => best
  | some d, none => some (i, a, d)
  | some d, some (j, b, least) => if d < least then some (i, a, d) else some (j, b, least)

def scan : Nat → List (α × Option β) → Option (Nat × α × β) → Option (Nat × α × β)
  | _, [], best => best
  | i, (a, value) :: rest, best => scan (i + 1) rest (better i a value best)

/-- The item at this position is the first of those with the least value. -/
structure First (items : List (α × Option β)) (i : Nat) (a : α) (d : β) : Prop where
  here : items[i]? = some (a, some d)
  least : ∀ (j : Nat) b e, items[j]? = some (b, some e) → d ≤ e
  before : ∀ (j : Nat) b e, j < i → items[j]? = some (b, some e) → d < e

def Found (items : List (α × Option β)) : Option (Nat × α × β) → Prop
  | none => ∀ item ∈ items, item.2 = none
  | some (i, a, d) => First items i a d

variable {items rest : List (α × Option β)} {best : Option (Nat × α × β)}

theorem First.lt {i : Nat} {a : α} {d : β} (first : First items i a d) : i < items.length :=
  (List.getElem?_eq_some_iff.mp first.here).1

/-- A position of a longer list is an old one or the new one. -/
theorem getElem?_concat {item new : α} {l : List α} {j : Nat}
    (found : (l ++ [new])[j]? = some item) :
    (j < l.length ∧ l[j]? = some item) ∨ (j = l.length ∧ new = item) := by
  rcases Nat.lt_trichotomy j l.length with old | here | beyond
  · rw [List.getElem?_append_left old] at found
    exact .inl ⟨old, found⟩
  · subst here
    rw [List.getElem?_concat_length, Option.some.injEq] at found
    exact .inr ⟨rfl, found⟩
  · rw [List.getElem?_eq_none (by rw [List.length_append, List.length_singleton]; omega)] at found
    contradiction

/-- An item that is no better leaves the first of the least where it is. -/
theorem First.concat {i : Nat} {a b : α} {d : β} {value : Option β} (first : First items i a d)
    (worse : ∀ e, value = some e → d ≤ e) : First (items ++ [(b, value)]) i a d where
  here := by rw [List.getElem?_append_left first.lt, first.here]
  least j c e found := by
    rcases getElem?_concat found with ⟨_, old⟩ | ⟨_, new⟩
    · exact first.least j c e old
    · exact worse e (congrArg Prod.snd new)
  before j c e earlier found := by
    rcases getElem?_concat found with ⟨_, old⟩ | ⟨here, _⟩
    · exact first.before j c e earlier old
    · have := first.lt
      omega

theorem First.new {a : α} {d : β} (smaller : ∀ (j : Nat) b e, items[j]? = some (b, some e) → d < e) :
    First (items ++ [(a, some d)]) items.length a d where
  here := List.getElem?_concat_length
  least j b e found := by
    rcases getElem?_concat found with ⟨_, old⟩ | ⟨_, new⟩
    · exact (smaller j b e old).le
    · exact (Option.some.inj (congrArg Prod.snd new)).le
  before j b e earlier found := by
    rcases getElem?_concat found with ⟨_, old⟩ | ⟨here, _⟩
    · exact smaller j b e old
    · omega

theorem found_concat (found : Found items best) (a : α) (value : Option β) :
    Found (items ++ [(a, value)]) (better items.length a value best) := by
  cases best with
  | none =>
    cases value with
    | none =>
      intro item member
      rcases List.mem_append.mp member with old | new
      · exact found item old
      · rw [List.mem_singleton.mp new]
    | some d =>
      refine First.new fun j b e here => ?_
      have missing := found _ (List.mem_of_getElem? here)
      cases missing
  | some best =>
    obtain ⟨j, b, least⟩ := best
    cases value with
    | none => exact First.concat found fun e same => by cases same
    | some d =>
      by_cases smaller : d < least
      · have replaced : better items.length a (some d) (some (j, b, least)) =
            some (items.length, a, d) := if_pos smaller
        rw [replaced]
        exact First.new fun k c e here => smaller.trans_le (found.least k c e here)
      · have kept : better items.length a (some d) (some (j, b, least)) = some (j, b, least) :=
          if_neg smaller
        rw [kept]
        refine First.concat found fun e same => ?_
        rw [← Option.some.inj same]
        exact not_lt.mp smaller

theorem found_scan (found : Found items best) :
    Found (items ++ rest) (scan items.length rest best) := by
  induction rest generalizing items best with
  | nil => rwa [List.append_nil]
  | cons item rest ih =>
    obtain ⟨a, value⟩ := item
    have step := ih (found_concat found a value)
    rwa [List.append_assoc, List.length_append, List.length_singleton] at step

end First

section Tour

/-- One round: where it starts, the items that are left and an answer for each. -/
structure Round (γ α ρ : Type) where
  place : γ
  left : List α
  answers : List ρ

variable [LinearOrder β] (place : α → γ) (value : ρ → Option β)

/-- In each round the first of the least is taken, and the next starts there. The tour ends
when nothing is left, or in a round without a value. -/
inductive Tour : γ → List α → List (Round γ α ρ) → List α → Prop
  | ended (here : γ) : Tour here [] [] []
  | stuck {here : γ} {left : List α} {answers : List ρ} (some_left : left ≠ [])
      (asked : answers.length = left.length) (missing : ∀ d ∈ answers, value d = none) :
      Tour here left [⟨here, left, answers⟩] []
  | go {here : γ} {left : List α} {answers : List ρ} {i : Nat} {a : α} {d : β}
      {rounds : List (Round γ α ρ)} {route : List α} (asked : answers.length = left.length)
      (first : First (left.zip (answers.map value)) i a d)
      (later : Tour (place a) (left.eraseIdx i) rounds route) :
      Tour here left (⟨here, left, answers⟩ :: rounds) (a :: route)

variable {place value} {here : γ} {left route : List α} {rounds : List (Round γ α ρ)}
  {answers : List ρ}

theorem First.getElem? {i : Nat} {a : α} {d : β}
    (first : First (left.zip (answers.map value)) i a d) : left[i]? = some a := by
  have here := first.here
  rw [List.getElem?_zip_eq_some] at here
  exact here.1

theorem First.length_eraseIdx {i : Nat} {a : α} {d : β}
    (first : First (left.zip (answers.map value)) i a d) :
    (left.eraseIdx i).length + 1 = left.length := by
  have bound := (List.getElem?_eq_some_iff.mp first.getElem?).1
  rw [List.length_eraseIdx_of_lt bound]
  omega

theorem First.perm {i : Nat} {a : α} {d : β}
    (first : First (left.zip (answers.map value)) i a d) :
    (a :: left.eraseIdx i).Perm left := by
  obtain ⟨bound, rfl⟩ := List.getElem?_eq_some_iff.mp first.getElem?
  exact List.getElem_cons_eraseIdx_perm bound

theorem missing_of_found (asked : answers.length = left.length)
    (found : Found (left.zip (answers.map value)) none) : ∀ d ∈ answers, value d = none := by
  intro d member
  have values : (left.zip (answers.map value)).map Prod.snd = answers.map value :=
    List.map_snd_zip (by rw [List.length_map, asked])
  have here : value d ∈ (left.zip (answers.map value)).map Prod.snd := by
    rw [values]
    exact List.mem_map_of_mem member
  obtain ⟨item, inside, same⟩ := List.mem_map.mp here
  exact same.symm.trans (found item inside)

/-- There are no more rounds than items. -/
theorem Tour.length_rounds (tour : Tour place value here left rounds route) :
    rounds.length ≤ left.length := by
  induction tour with
  | ended => exact Nat.le_refl _
  | stuck some_left => exact List.length_pos_iff.mpr some_left
  | go asked first later ih =>
    have := first.length_eraseIdx
    simp only [List.length_cons]
    omega

/-- Each item is visited or missing, and none is visited twice. -/
theorem Tour.perm (tour : Tour place value here left rounds route) :
    ∃ missed, (route ++ missed).Perm left := by
  induction tour with
  | ended => exact ⟨[], .nil⟩
  | stuck => exact ⟨_, .refl _⟩
  | go asked first later ih =>
    obtain ⟨missed, perm⟩ := ih
    exact ⟨missed, (perm.cons _).trans first.perm⟩

/-- A tour that misses an item ends in a round without a value. -/
theorem Tour.stopped (tour : Tour place value here left rounds route)
    (short : route.length < left.length) :
    ∃ round, rounds[route.length]? = some round ∧ rounds.length = route.length + 1 ∧
      ∀ d ∈ round.answers, value d = none := by
  induction tour with
  | ended => exact absurd short (Nat.lt_irrefl _)
  | stuck some_left asked missing => exact ⟨_, rfl, rfl, missing⟩
  | go asked first later ih =>
    have shorter := first.length_eraseIdx
    obtain ⟨round, last, length, missing⟩ := ih (by simp only [List.length_cons] at short; omega)
    exact ⟨round, last, congrArg (· + 1) length, missing⟩

/-- The tour visits every item exactly if every round has a value. -/
theorem Tour.complete_iff (tour : Tour place value here left rounds route) :
    route.Perm left ↔ ∀ round ∈ rounds, ∃ d ∈ round.answers, value d ≠ none := by
  induction tour with
  | ended => simp
  | stuck some_left asked missing =>
    refine iff_of_false (fun perm => some_left (List.nil_perm.mp perm)) fun every => ?_
    obtain ⟨d, member, there⟩ := every _ List.mem_cons_self
    exact there (missing d member)
  | @go here left answers i a d rounds route asked first later ih =>
    have valued : ∃ d ∈ answers, value d ≠ none := by
      have found := first.here
      rw [List.getElem?_zip_eq_some, List.getElem?_map, Option.map_eq_some_iff] at found
      obtain ⟨-, answer, member, same⟩ := found
      exact ⟨answer, List.mem_of_getElem? member, by simp [same]⟩
    have step : (a :: route).Perm left ↔ route.Perm (left.eraseIdx i) :=
      ⟨fun perm => (perm.trans first.perm.symm).cons_inv, fun perm => (perm.cons a).trans first.perm⟩
    rw [step, ih]
    simp only [List.mem_cons, forall_eq_or_imp, valued, true_and]

end Tour
end Greedy
