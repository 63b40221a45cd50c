import Mathlib.Data.Int.Range
import Mathlib.Tactic.Common

/-! A strip of numbers in which a sign stands wherever numbers are left out. -/
namespace Elision

inductive Link where
  | number (n : Int)
  | gap
deriving DecidableEq, Repr

def numbers : List Link → List Int
  | [] => []
  | .number n :: links => n :: numbers links
  | .gap :: links => numbers links

def between (a b : Int) : List Link := if a + 1 < b then [.gap] else []

def elide : List Int → List Link
  | [] => []
  | [a] => [.number a]
  | a :: b :: l => .number a :: between a b ++ elide (b :: l)

section Numbers

@[simp] theorem numbers_nil : numbers [] = [] := rfl

@[simp] theorem numbers_number (n : Int) (links : List Link) :
    numbers (.number n :: links) = n :: numbers links := rfl

@[simp] theorem numbers_gap (links : List Link) : numbers (.gap :: links) = numbers links := rfl

@[simp] theorem numbers_append (links more : List Link) :
    numbers (links ++ more) = numbers links ++ numbers more := by
  induction links with
  | nil => rfl
  | cons link links ih => cases link <;> simp [ih]

@[simp] theorem numbers_map (l : List Int) : numbers (l.map .number) = l := by
  induction l with
  | nil => rfl
  | cons a l ih => rw [List.map_cons, numbers_number, ih]

@[simp] theorem numbers_between (a b : Int) : numbers (between a b) = [] := by
  rw [between]
  split <;> rfl

@[simp] theorem numbers_elide (l : List Int) : numbers (elide l) = l := by
  fun_induction elide l with
  | case1 => rfl
  | case2 a => rfl
  | case3 a b l ih => simp [ih]

/-- What stands before the first number is determined. -/
theorem before_number {m m' : List Link} {a b : Int} {rest rest' : List Link}
    (bare : numbers m = []) (bare' : numbers m' = [])
    (same : m ++ .number a :: rest = m' ++ .number b :: rest') :
    m = m' ∧ a = b ∧ rest = rest' := by
  induction m generalizing m' with
  | nil =>
    rcases m' with _ | ⟨_ | _, m'⟩
    · simpa using same
    · simp at bare'
    · simp at same
  | cons link m ih =>
    rcases link with _ | _
    · simp at bare
    rcases m' with _ | ⟨_ | _, m'⟩
    · simp at same
    · simp at bare'
    · rw [numbers_gap] at bare bare'
      obtain ⟨rfl, numbered⟩ := ih bare bare' (List.cons.inj same).2
      exact ⟨rfl, numbered⟩

end Numbers

section Neighbours

theorem head?_elide (a : Int) (l : List Int) : (elide (a :: l)).head? = some (.number a) := by
  cases l <;> rfl

/-- Between neighbouring numbers stands the sign where a number is left out, and nothing
where none is. -/
theorem between_neighbours {l : List Int} {before m after : List Link} {a b : Int}
    (bare : numbers m = []) (here : elide l = before ++ .number a :: (m ++ .number b :: after)) :
    m = between a b := by
  fun_induction elide l generalizing before with
  | case1 => simp at here
  | case2 c =>
    rcases before with _ | ⟨_, before⟩ <;> simp at here
  | case3 c d l ih =>
    rcases before with _ | ⟨link, before⟩
    · -- the first of the two is the head of the list
      obtain ⟨head, tail⟩ := List.cons.inj here
      obtain ⟨after', starts⟩ := List.head?_eq_some_iff.mp (head?_elide d l)
      rw [starts] at tail
      obtain ⟨rfl, rfl, -⟩ := before_number (numbers_between c d) bare tail
      rw [Link.number.inj head]
    · have tail : between c d ++ elide (d :: l) =
          before ++ .number a :: (m ++ .number b :: after) := (List.cons.inj here).2
      rw [between] at tail
      split at tail
      · -- a number is not the sign, so the sign is behind what comes before
        rcases before with _ | ⟨_, before⟩
        · simp at tail
        · exact ih (List.cons.inj tail).2
      · exact ih tail

theorem head?_elide_ne (l : List Int) : (elide l).head? ≠ some .gap := by
  rcases l with _ | ⟨a, l⟩
  · simp [elide]
  · simp [head?_elide]

theorem getLast?_elide_ne (l : List Int) : (elide l).getLast? ≠ some .gap := by
  fun_induction elide l with
  | case1 => simp
  | case2 a => simp
  | case3 a b l ih =>
    obtain ⟨rest, starts⟩ := List.head?_eq_some_iff.mp (head?_elide b l)
    rw [List.getLast?_append]
    rw [starts] at ih ⊢
    rw [List.getLast?_cons] at ih ⊢
    exact ih

end Neighbours

section Parts

theorem elide_append {l m : List Int} (some_l : l ≠ []) (some_m : m ≠ []) :
    elide (l ++ m) = elide l ++ between (l.getLast some_l) (m.head some_m) ++ elide m := by
  fun_induction elide l with
  | case1 => exact absurd rfl some_l
  | case2 a =>
    obtain ⟨b, m, rfl⟩ := List.exists_cons_of_ne_nil some_m
    rfl
  | case3 a b l ih =>
    have later := ih (List.cons_ne_nil b l)
    simp only [List.cons_append, elide, List.append_assoc] at later ⊢
    rw [List.getLast_cons (List.cons_ne_nil b l), later]

theorem range_cons {a b : Int} (lt : a < b) : Int.range a b = a :: Int.range (a + 1) b := by
  obtain ⟨n, size⟩ : ∃ n, (b - a).toNat = n + 1 := ⟨(b - a).toNat - 1, by omega⟩
  have rest : (b - (a + 1)).toNat = n := by omega
  rw [Int.range, Int.range, size, rest, List.range_succ_eq_map, List.map_cons, List.map_map]
  refine congrArg₂ List.cons (by simp) (List.map_congr_left fun i _ => ?_)
  change a + ((i + 1 : Nat) : Int) = a + 1 + i
  omega

theorem range_eq_nil {a b : Int} (le : b ≤ a) : Int.range a b = [] := by
  rw [Int.range, Int.toNat_of_nonpos (by omega)]
  rfl

theorem length_range (a b : Int) : (Int.range a b).length = (b - a).toNat := by
  simp [Int.range]

theorem range_ne_nil {a b : Int} (lt : a < b) : Int.range a b ≠ [] := by
  rw [range_cons lt]
  exact List.cons_ne_nil _ _

theorem head_range {a b : Int} (lt : a < b) : (Int.range a b).head (range_ne_nil lt) = a := by
  simp [range_cons lt]

theorem getLast_range {a b : Int} (lt : a < b) :
    (Int.range a b).getLast (range_ne_nil lt) = b - 1 := by
  rw [List.getLast_eq_getElem]
  simp only [Int.range, List.getElem_map, List.getElem_range, List.length_map, List.length_range]
  omega

theorem increasing_range (a b : Int) : (Int.range a b).Pairwise (· < ·) := by
  rw [Int.range, List.pairwise_map]
  refine List.pairwise_lt_range.imp fun lt => ?_
  omega

/-- In a run of numbers none is left out. -/
theorem elide_range (a b : Int) : elide (Int.range a b) = (Int.range a b).map .number := by
  obtain ⟨n, size⟩ : ∃ n, (b - a).toNat = n := ⟨_, rfl⟩
  induction n generalizing a with
  | zero => rw [range_eq_nil (by omega), elide, List.map_nil]
  | succ n ih =>
    rw [range_cons (show a < b by omega)]
    have later := ih (a + 1) (by omega)
    rcases eq_or_lt_of_le (show a + 1 ≤ b by omega) with last | more
    · rw [range_eq_nil (by omega)]
      rfl
    · rw [range_cons more] at later ⊢
      rw [elide, later, between, if_neg (lt_irrefl _), List.map_cons]
      rfl

end Parts

end Elision
