import Mathlib.Tactic.Common

/-! The proleptic Gregorian calendar: dates and day numbers, which count from 1970-01-01. -/
namespace Calendar

def leap (year : Int) : Bool := year % 4 = 0 && (year % 100 ≠ 0 || year % 400 = 0)

def monthDays (leap : Bool) : Nat → Nat
  | 2 => if leap then 29 else 28
  | 4 | 6 | 9 | 11 => 30
  | _ => 31

def daysBefore (leap : Bool) : Nat → Nat
  | 0 | 1 => 0
  | month + 2 => daysBefore leap (month + 1) + monthDays leap (month + 1)

def yearStart (year : Int) : Int :=
  365 * (year - 1970) + (year - 1969) / 4 - (year - 1901) / 100 + (year - 1601) / 400

@[ext] structure Date where
  year : Int
  month : Nat
  day : Nat
  month_pos : 1 ≤ month
  month_le : month ≤ 12
  day_pos : 1 ≤ day
  day_le : day ≤ monthDays (leap year) month
deriving DecidableEq, Repr

/-- The date of three numbers, where there is one. -/
def date? (year : Int) (month day : Nat) : Option Date :=
  if valid : (1 ≤ month ∧ month ≤ 12) ∧ 1 ≤ day ∧ day ≤ monthDays (leap year) month then
    some ⟨year, month, day, valid.1.1, valid.1.2, valid.2.1, valid.2.2⟩
  else none

def dayNumber (d : Date) : Int :=
  yearStart d.year + daysBefore (leap d.year) d.month + (d.day - 1)

/-- The year of a day: the mean length of a year tells it but for one. -/
def yearOf (n : Int) : Int :=
  let near := 1970 + 400 * n / 146097
  if n < yearStart near then near - 1 else if yearStart (near + 1) ≤ n then near + 1 else near

/-- The month that holds the `k`th day from its start on, and the day in it, both from 0. -/
def monthFrom (leap : Bool) (month : Nat) : Nat → Nat → Nat × Nat
  | 0, k => (month, k)
  | later + 1, k =>
    if k < monthDays leap month then (month, k)
    else monthFrom leap (month + 1) later (k - monthDays leap month)

theorem date?_eq_some_iff {year : Int} {month day : Nat} {d : Date} :
    date? year month day = some d ↔ d.year = year ∧ d.month = month ∧ d.day = day := by
  rw [date?]
  split
  next valid =>
    rw [Option.some.injEq, Date.ext_iff]
    simp only [eq_comm]
  next invalid =>
    refine iff_of_false (fun none_there => by cases none_there) ?_
    rintro ⟨rfl, rfl, rfl⟩
    exact invalid ⟨⟨d.month_pos, d.month_le⟩, d.day_pos, d.day_le⟩

section Years

theorem yearStart_succ (year : Int) :
    yearStart (year + 1) = yearStart year + if leap year then 366 else 365 := by
  simp only [yearStart, leap, Bool.and_eq_true, Bool.or_eq_true, decide_eq_true_eq]
  split <;> omega

theorem yearStart_mono {year year' : Int} (le : year ≤ year') :
    yearStart year ≤ yearStart year' := by
  simp only [yearStart]
  omega

/-- The year of a day starts before it, and the next one does not. -/
theorem yearOf_spec (n : Int) : yearStart (yearOf n) ≤ n ∧ n < yearStart (yearOf n + 1) := by
  have early : yearStart (1970 + 400 * n / 146097 - 1) ≤ n := by
    simp only [yearStart]
    omega
  have late : n < yearStart (1970 + 400 * n / 146097 + 1 + 1) := by
    simp only [yearStart]
    omega
  simp only [yearOf]
  split
  next before => exact ⟨early, by rwa [Int.sub_add_cancel]⟩
  next start =>
    split
    next behind => exact ⟨behind, late⟩
    next inside => exact ⟨Int.not_lt.mp start, Int.not_le.mp inside⟩

end Years
section Months

variable (isLeap : Bool) {month month' : Nat}

theorem daysBefore_succ (pos : 1 ≤ month) :
    daysBefore isLeap (month + 1) = daysBefore isLeap month + monthDays isLeap month := by
  obtain ⟨m, rfl⟩ := Nat.exists_eq_add_of_le' pos
  rfl

theorem daysBefore_thirteen : daysBefore isLeap 13 = if isLeap then 366 else 365 := by
  cases isLeap <;> rfl

theorem daysBefore_mono (pos : 1 ≤ month) (le : month ≤ month') :
    daysBefore isLeap month ≤ daysBefore isLeap month' := by
  obtain ⟨later, rfl⟩ := Nat.exists_eq_add_of_le le
  induction later with
  | zero => exact Nat.le_refl _
  | succ later ih =>
    rw [← Nat.add_assoc, daysBefore_succ isLeap (Nat.le_add_right_of_le pos)]
    exact Nat.le_add_right_of_le (ih (Nat.le_add_right _ _))

/-- Walking through the months keeps the day, and the walk ends in the month that holds it. -/
theorem monthFrom_spec (later k : Nat) (pos : 1 ≤ month) :
    let found := monthFrom isLeap month later k
    daysBefore isLeap found.1 + found.2 = daysBefore isLeap month + k ∧
      month ≤ found.1 ∧ found.1 ≤ month + later ∧
      (daysBefore isLeap month + k < daysBefore isLeap (month + later + 1) →
        found.2 < monthDays isLeap found.1) := by
  induction later generalizing month k with
  | zero =>
    refine ⟨rfl, Nat.le_refl _, Nat.le_refl _, fun within => ?_⟩
    rw [Nat.add_zero, daysBefore_succ isLeap pos] at within
    exact Nat.lt_of_add_lt_add_left within
  | succ later ih =>
    rw [monthFrom]
    split
    next inside => exact ⟨rfl, Nat.le_refl _, Nat.le_add_right _ _, fun _ => inside⟩
    next beyond =>
      obtain ⟨same, after, last, holds⟩ :=
        ih (k - monthDays isLeap month) (Nat.le_add_left 1 month)
      have rest : daysBefore isLeap (month + 1) + (k - monthDays isLeap month) =
          daysBefore isLeap month + k := by
        rw [daysBefore_succ isLeap pos]
        omega
      rw [rest] at same holds
      refine ⟨same, Nat.le_of_succ_le after, Nat.le_trans last (by omega), fun within => holds ?_⟩
      rwa [Nat.add_right_comm month 1 later, Nat.add_assoc month later 1]

end Months

section DayNumbers

theorem Date.dayNumber_bounds (d : Date) :
    yearStart d.year ≤ dayNumber d ∧ dayNumber d < yearStart (d.year + 1) := by
  have here := daysBefore_succ (leap d.year) d.month_pos
  have last := daysBefore_mono (leap d.year) (Nat.succ_pos d.month)
    (Nat.succ_le_succ d.month_le)
  rw [daysBefore_thirteen] at last
  have := d.day_pos
  have := d.day_le
  rw [yearStart_succ, dayNumber]
  split <;> simp_all <;> omega

def inYear (n : Int) : Nat × Nat :=
  monthFrom (leap (yearOf n)) 1 11 (n - yearStart (yearOf n)).toNat

theorem inYear_spec (n : Int) :
    yearStart (yearOf n) + daysBefore (leap (yearOf n)) (inYear n).1 + (inYear n).2 = n ∧
      1 ≤ (inYear n).1 ∧ (inYear n).1 ≤ 12 ∧
      (inYear n).2 < monthDays (leap (yearOf n)) (inYear n).1 := by
  obtain ⟨walk, after, last, holds⟩ := monthFrom_spec (leap (yearOf n)) 11
    (n - yearStart (yearOf n)).toNat (Nat.le_refl 1)
  change daysBefore (leap (yearOf n)) (inYear n).1 + (inYear n).2 = 0 + _ at walk
  obtain ⟨start, finish⟩ := yearOf_spec n
  refine ⟨by omega, after, last, holds ?_⟩
  change 0 + _ < daysBefore (leap (yearOf n)) 13
  rw [daysBefore_thirteen]
  rw [yearStart_succ] at finish
  split at finish <;> simp_all <;> omega

/-- The date of a day. -/
def ofDayNumber (n : Int) : Date where
  year := yearOf n
  month := (inYear n).1
  day := (inYear n).2 + 1
  month_pos := (inYear_spec n).2.1
  month_le := (inYear_spec n).2.2.1
  day_pos := Nat.succ_pos _
  day_le := (inYear_spec n).2.2.2

@[simp] theorem dayNumber_ofDayNumber (n : Int) : dayNumber (ofDayNumber n) = n := by
  have parts := (inYear_spec n).1
  change yearStart (yearOf n) + daysBefore (leap (yearOf n)) (inYear n).1 +
    (((inYear n).2 + 1 : Nat) - 1 : Int) = n
  omega

/-- A day of a year is in one month. -/
theorem month_unique (isLeap : Bool) {month month' : Nat} (day day' : Nat) (pos : 1 ≤ month)
    (pos' : 1 ≤ month') (inside : day < monthDays isLeap month)
    (inside' : day' < monthDays isLeap month')
    (same : daysBefore isLeap month + day = daysBefore isLeap month' + day') : month = month' := by
  have next := daysBefore_succ isLeap pos
  have next' := daysBefore_succ isLeap pos'
  rcases Nat.lt_trichotomy month month' with before | equal | after
  · have := daysBefore_mono isLeap (Nat.le_add_left 1 month) before
    omega
  · exact equal
  · have := daysBefore_mono isLeap (Nat.le_add_left 1 month') after
    omega

theorem dayNumber_injective {d d' : Date} (same : dayNumber d = dayNumber d') : d = d' := by
  obtain ⟨start, finish⟩ := d.dayNumber_bounds
  obtain ⟨start', finish'⟩ := d'.dayNumber_bounds
  have years : d.year = d'.year := by
    rcases Int.lt_trichotomy d.year d'.year with before | equal | after
    · have := yearStart_mono (Int.add_one_le_of_lt before)
      omega
    · exact equal
    · have := yearStart_mono (Int.add_one_le_of_lt after)
      omega
  obtain ⟨year, month, day, month_pos, _, day_pos, day_le⟩ := d
  obtain ⟨_, month', day', month_pos', _, day_pos', day_le'⟩ := d'
  cases years
  simp only [dayNumber] at same
  obtain rfl := month_unique (leap year) (day - 1) (day' - 1) month_pos month_pos'
    (by omega) (by omega) (by omega)
  obtain rfl : day = day' := by omega
  rfl

@[simp] theorem ofDayNumber_dayNumber (d : Date) : ofDayNumber (dayNumber d) = d :=
  dayNumber_injective (dayNumber_ofDayNumber _)

end DayNumbers
end Calendar
