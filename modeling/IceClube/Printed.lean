import IceClube.Double

/-! The decimal that is printed for a double: of those that round to it one of the fewest digits,
and of these the closest. -/
namespace Double

/-- The nearest number of `k` significant digits. -/
def rounded (k : ℕ) (q : ℚ) : ℚ :=
  roundEven (q / 10 ^ (Int.log 10 q + 1 - k)) * 10 ^ (Int.log 10 q + 1 - k)

/-- Seventeen digits are enough for any double. -/
def printed (q : ℚ) : ℚ :=
  (((List.range 17).map fun k => rounded (k + 1) q).find? fun r => nearest r = q).getD q

def leading (q : ℚ) : ℤ := ⌊printed q / 10 ^ Int.log 10 (printed q)⌋

section Printed

variable {q : ℚ} {n : ℕ}

theorem nearest_printed (double : nearest q = q) : nearest (printed q) = q := by
  rw [printed]
  cases found : List.find? _ _ with
  | none => exact double
  | some r =>
    have rounds := List.find?_some found
    rwa [decide_eq_true_eq] at rounds

theorem printed_cases (q : ℚ) : printed q = q ∨ ∃ k, printed q = rounded k q := by
  rw [printed]
  cases found : List.find? _ _ with
  | none => exact .inl rfl
  | some r =>
    obtain ⟨k, -, rfl⟩ := List.mem_map.mp (List.mem_of_find?_eq_some found)
    exact .inr ⟨k + 1, rfl⟩

theorem printed_nonneg (nonneg : 0 ≤ q) : 0 ≤ printed q := by
  rcases printed_cases q with same | ⟨k, same⟩
  · rw [same]
    exact nonneg
  · have unit : (0 : ℚ) < 10 ^ (Int.log 10 q + 1 - k) := zpow_pos (by norm_num) _
    have digits : (0 : ℤ) ≤ roundEven (q / 10 ^ (Int.log 10 q + 1 - k)) :=
      le_roundEven (by simpa using div_nonneg nonneg unit.le)
    rw [same, rounded]
    exact mul_nonneg (by exact_mod_cast digits) unit.le

theorem printed_pos (double : nearest q = q) (positive : 0 < q) : 0 < printed q := by
  refine (printed_nonneg positive.le).lt_of_ne fun zero => ?_
  have same := nearest_printed double
  rw [← zero, nearest_zero] at same
  exact positive.ne same

theorem printed_whole (n : ℕ) : ∃ m : ℕ, printed n = m := by
  rcases printed_cases n with same | ⟨k, same⟩
  · exact ⟨n, same⟩
  have nonneg := printed_nonneg n.cast_nonneg
  suffices whole : ∃ m : ℤ, printed n = m by
    obtain ⟨m, same⟩ := whole
    rw [same] at nonneg
    obtain ⟨m, rfl⟩ := Int.eq_ofNat_of_zero_le (Int.cast_nonneg_iff.mp nonneg)
    exact ⟨m, by exact_mod_cast same⟩
  rw [same, rounded]
  rcases le_total 0 (Int.log 10 (n : ℚ) + 1 - k) with coarse | fine
  · obtain ⟨e, digits⟩ := Int.eq_ofNat_of_zero_le coarse
    rw [digits, zpow_natCast]
    exact ⟨roundEven (n / 10 ^ e) * 10 ^ e, by push_cast; ring⟩
  · obtain ⟨e, digits⟩ := Int.exists_eq_neg_ofNat fine
    rw [digits, zpow_neg, zpow_natCast, div_inv_eq_mul]
    have whole : (n : ℚ) * 10 ^ e = (n * 10 ^ e : ℤ) := by push_cast; ring
    rw [whole, roundEven_intCast, ← whole, mul_assoc, mul_inv_cancel₀ (by positivity), mul_one]
    exact ⟨n, (Int.cast_natCast n).symm⟩

theorem printed_natCast (small : n < 2 ^ 53) : printed n = n := by
  obtain ⟨m, same⟩ := printed_whole n
  have back := nearest_printed (nearest_natCast small)
  rw [same] at back ⊢
  by_cases less : m < 2 ^ 53
  · rwa [nearest_natCast less] at back
  · have large : (2 : ℚ) ^ 53 ≤ n := by
      rw [← back, ← nearest_pow (by decide : 53 ≤ 1024)]
      exact nearest_mono (by positivity) (by exact_mod_cast not_lt.mp less)
    exact absurd small (not_lt.mpr (by exact_mod_cast large))

/-- Nor is the decimal of a double smaller than a small natural number if the double is not. -/
theorem natCast_le_printed (small : n < 2 ^ 53) (double : nearest q = q) (le : (n : ℚ) ≤ q) :
    (n : ℚ) ≤ printed q := by
  by_contra! less
  have down : q ≤ n := by
    have order := nearest_mono (printed_nonneg (n.cast_nonneg.trans le)) less.le
    rwa [nearest_printed double, nearest_natCast small] at order
  obtain rfl : q = n := le_antisymm down le
  exact less.ne (printed_natCast small)

/-- The decimal of a double is below a power of two that is printed no smaller just when the
double is. -/
theorem printed_lt_pow {k : ℕ} (bound : k ≤ 1024) (above : (2 : ℚ) ^ k ≤ printed (2 ^ k))
    (nonneg : 0 ≤ q) (double : nearest q = q) : printed q < 2 ^ k ↔ q < 2 ^ k := by
  have power := nearest_pow bound
  constructor
  · intro less
    have order := nearest_mono (printed_nonneg nonneg) less.le
    rw [nearest_printed double, power] at order
    refine order.lt_of_ne fun same => ?_
    rw [same] at less
    exact absurd less (not_lt.mpr above)
  · intro less
    by_contra! large
    have order := nearest_mono (pow_nonneg two_pos.le k) large
    rw [nearest_printed double, power] at order
    exact absurd less (not_lt.mpr order)

/-- A natural number, as a double and as its decimal, is told from no number below 2^53. -/
theorem min_printed {t : ℕ} (small : t < 2 ^ 53) (n : ℕ) :
    min ⌊printed (nearest n)⌋.toNat t = min n t := by
  by_cases less : n < 2 ^ 53
  · rw [nearest_natCast less, printed_natCast less, Int.floor_natCast, Int.toNat_natCast]
  · have le : t ≤ n := by omega
    have kept : (t : ℚ) ≤ nearest n := by
      rw [← nearest_natCast small]
      exact nearest_mono t.cast_nonneg (by exact_mod_cast le)
    have decimal := natCast_le_printed small (nearest_nearest n.cast_nonneg) kept
    have floor : (t : ℤ) ≤ ⌊printed (nearest n)⌋ := Int.le_floor.mpr (by exact_mod_cast decimal)
    omega

theorem leading_digit (double : nearest q = q) (positive : 0 < q) :
    1 ≤ leading q ∧ leading q < 10 := by
  have decimal := printed_pos double positive
  have unit : (0 : ℚ) < 10 ^ Int.log 10 (printed q) := zpow_pos (by norm_num) _
  have low := Int.zpow_log_le_self (R := ℚ) (b := 10) (by decide) decimal
  have high := Int.lt_zpow_succ_log_self (R := ℚ) (b := 10) (by decide) (printed q)
  constructor
  · rw [leading, Int.le_floor, Int.cast_one, le_div_iff₀ unit, one_mul]
    exact_mod_cast low
  · rw [leading, Int.floor_lt, div_lt_iff₀ unit, Int.cast_ofNat, mul_comm,
      ← zpow_add_one₀ (by norm_num)]
    exact_mod_cast high

end Printed
end Double
