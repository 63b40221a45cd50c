import Mathlib.Data.Int.Log
import Mathlib.Data.Rat.Floor
import Mathlib.Tactic.FieldSimp
import Mathlib.Tactic.Linarith
import Mathlib.Tactic.Positivity
import Mathlib.Tactic.Ring

/-! Rationals rounded to doubles: 53 bits, the nearest one, of two the even one. What is too large
is infinite, and `infinity` stands for that. -/
namespace Double

/-- The nearest integer, of two the even one. -/
def roundEven (q : ℚ) : ℤ :=
  if q - ⌊q⌋ < 1 / 2 then ⌊q⌋
  else if 1 / 2 < q - ⌊q⌋ then ⌊q⌋ + 1
  else if ⌊q⌋ % 2 = 0 then ⌊q⌋
  else ⌊q⌋ + 1

/-- No double is as large. -/
def infinity : ℚ := 2 ^ 1024

def exponent (q : ℚ) : ℤ := max (Int.log 2 |q| - 52) (-1074)

def ulp (q : ℚ) : ℚ := 2 ^ exponent q

def unbounded (q : ℚ) : ℚ := roundEven (q / ulp q) * ulp q

def nearest (q : ℚ) : ℚ := max (-infinity) (min (unbounded q) infinity)

section Integers

variable {q r : ℚ}

theorem roundEven_near (q : ℚ) : |(roundEven q : ℚ) - q| ≤ 1 / 2 := by
  have low := Int.floor_le q
  have high := Int.lt_floor_add_one q
  rw [roundEven, abs_le]
  split
  · constructor <;> linarith
  · split
    · push_cast
      constructor <;> linarith
    · split
      · constructor <;> linarith
      · push_cast
        constructor <;> linarith

theorem roundEven_intCast (n : ℤ) : roundEven n = n := by
  rw [roundEven, Int.floor_intCast, sub_self, if_pos (by norm_num)]

theorem roundEven_mono (le : q ≤ r) : roundEven q ≤ roundEven r := by
  by_contra! less
  have step : (roundEven r : ℚ) + 1 ≤ roundEven q := by exact_mod_cast less
  have near := abs_le.mp (roundEven_near q)
  have near' := abs_le.mp (roundEven_near r)
  have same : q = r := by linarith
  rw [same] at less
  exact lt_irrefl _ less

theorem roundEven_le {n : ℤ} (le : q ≤ n) : roundEven q ≤ n :=
  (roundEven_mono le).trans_eq (roundEven_intCast n)

theorem le_roundEven {n : ℤ} (le : (n : ℚ) ≤ q) : n ≤ roundEven q :=
  (roundEven_intCast n).symm.trans_le (roundEven_mono le)

end Integers

section Powers

variable {q r : ℚ} {k : ℤ}

theorem ulp_pos (q : ℚ) : 0 < ulp q := zpow_pos two_pos _

/-- A power of two that is no smaller than the last bit is a multiple of it. -/
theorem pow_div_ulp (above : exponent q ≤ k) : ∃ n : ℤ, (2 : ℚ) ^ k / ulp q = n := by
  refine ⟨2 ^ (k - exponent q).toNat, ?_⟩
  rw [ulp, ← zpow_sub₀ two_ne_zero, Int.cast_pow, Int.cast_ofNat, ← zpow_natCast,
    Int.toNat_of_nonneg (by omega)]

theorem unbounded_le (above : exponent q ≤ k) (le : q ≤ 2 ^ k) : unbounded q ≤ 2 ^ k := by
  obtain ⟨n, whole⟩ := pow_div_ulp above
  have rounded : roundEven (q / ulp q) ≤ n :=
    roundEven_le (whole ▸ div_le_div_of_nonneg_right le (ulp_pos q).le)
  rw [unbounded, ← div_mul_cancel₀ ((2 : ℚ) ^ k) (ulp_pos q).ne', whole]
  exact mul_le_mul_of_nonneg_right (by exact_mod_cast rounded) (ulp_pos q).le

theorem le_unbounded (above : exponent q ≤ k) (le : (2 : ℚ) ^ k ≤ q) : 2 ^ k ≤ unbounded q := by
  obtain ⟨n, whole⟩ := pow_div_ulp above
  have rounded : n ≤ roundEven (q / ulp q) :=
    le_roundEven (whole ▸ div_le_div_of_nonneg_right le (ulp_pos q).le)
  rw [unbounded, ← div_mul_cancel₀ ((2 : ℚ) ^ k) (ulp_pos q).ne', whole]
  exact mul_le_mul_of_nonneg_right (by exact_mod_cast rounded) (ulp_pos q).le

end Powers

section Order

variable {q r : ℚ}

theorem unbounded_nonneg (nonneg : 0 ≤ q) : 0 ≤ unbounded q := by
  have rounded : (0 : ℤ) ≤ roundEven (q / ulp q) :=
    le_roundEven (by simpa using div_nonneg nonneg (ulp_pos q).le)
  exact mul_nonneg (by exact_mod_cast rounded) (ulp_pos q).le

theorem unbounded_mono (nonneg : 0 ≤ q) (le : q ≤ r) : unbounded q ≤ unbounded r := by
  rcases nonneg.eq_or_lt with rfl | positive
  · have zero : unbounded 0 = 0 := by
      rw [unbounded, zero_div, show roundEven 0 = 0 from roundEven_intCast 0, Int.cast_zero, zero_mul]
    exact zero.trans_le (unbounded_nonneg le)
  have logs : Int.log 2 |q| ≤ Int.log 2 |r| := by
    rw [abs_of_nonneg nonneg, abs_of_nonneg (nonneg.trans le)]
    exact Int.log_mono_right positive le
  have positive' : 0 < |r| := abs_pos.mpr (positive.trans_le le).ne'
  have order : exponent q ≤ exponent r := max_le_max (sub_le_sub_right logs 52) le_rfl
  rcases order.eq_or_lt with same | finer
  · rw [unbounded, unbounded, ulp, ulp, same]
    have rounded := roundEven_mono (div_le_div_of_nonneg_right le (ulp_pos r).le)
    exact mul_le_mul_of_nonneg_right (by exact_mod_cast rounded) (ulp_pos r).le
  -- a power of two stands between them
  · have binade : Int.log 2 |q| + 1 ≤ Int.log 2 |r| := by
      rw [exponent, exponent] at finer
      omega
    have top : exponent r ≤ Int.log 2 |r| := by
      rw [exponent, exponent] at finer
      rw [exponent]
      omega
    have below : q ≤ (2 : ℚ) ^ Int.log 2 |r| := by
      have strict := Int.lt_zpow_succ_log_self (R := ℚ) (b := 2) (by decide) |q|
      calc q ≤ |q| := le_abs_self q
        _ ≤ (2 : ℚ) ^ (Int.log 2 |q| + 1) := by exact_mod_cast strict.le
        _ ≤ (2 : ℚ) ^ Int.log 2 |r| := zpow_le_zpow_right₀ one_le_two binade
    have above : (2 : ℚ) ^ Int.log 2 |r| ≤ r := by
      have least := Int.zpow_log_le_self (R := ℚ) (b := 2) (by decide) positive'
      rw [abs_of_nonneg (nonneg.trans le)] at least ⊢
      exact_mod_cast least
    exact (unbounded_le (finer.le.trans top) below).trans (le_unbounded top above)

theorem nearest_mono (nonneg : 0 ≤ q) (le : q ≤ r) : nearest q ≤ nearest r :=
  max_le_max le_rfl (min_le_min (unbounded_mono nonneg le) le_rfl)

theorem nearest_nonneg (nonneg : 0 ≤ q) : 0 ≤ nearest q :=
  le_max_of_le_right (le_min (unbounded_nonneg nonneg) (pow_nonneg two_pos.le _))

theorem nearest_le_infinity (q : ℚ) : nearest q ≤ infinity :=
  max_le ((neg_nonpos.mpr (pow_nonneg two_pos.le _)).trans (pow_nonneg two_pos.le _)) (min_le_right _ _)

/-- A finite double is what an unbounded one would be. -/
theorem nearest_of_finite (nonneg : 0 ≤ q) (finite : nearest q < infinity) :
    nearest q = unbounded q ∧ unbounded q < infinity := by
  have upper : min (unbounded q) infinity < infinity := (le_max_right _ _).trans_lt finite
  have small : unbounded q < infinity := by simpa using upper
  refine ⟨?_, small⟩
  rw [nearest, min_eq_left small.le, max_eq_right]
  exact (neg_nonpos.mpr (pow_nonneg two_pos.le _)).trans (unbounded_nonneg nonneg)

end Order

section Exact

variable {q r : ℚ}

theorem nearest_natCast {n : ℕ} (small : n < 2 ^ 53) : nearest n = n := by
  have fits : exponent n ≤ 0 := by
    rw [exponent, abs_of_nonneg n.cast_nonneg, Int.log_natCast]
    have log : Nat.log 2 n < 53 := Nat.log_lt_of_lt_pow' (by decide) small
    omega
  have whole : (n : ℚ) / ulp n = ((n : ℤ) * 2 ^ (-exponent n).toNat : ℤ) := by
    rw [ulp, div_eq_mul_inv, ← zpow_neg]
    push_cast
    rw [← zpow_natCast, Int.toNat_of_nonneg (by omega)]
  have same : unbounded n = n := by
    rw [unbounded, whole, roundEven_intCast, ← whole, div_mul_cancel₀ _ (ulp_pos _).ne']
  have bounded : (n : ℚ) ≤ infinity := by
    have small : (n : ℚ) ≤ 2 ^ 53 := by exact_mod_cast small.le
    exact small.trans (pow_le_pow_right₀ one_le_two (by decide))
  rw [nearest, same, min_eq_left bounded, max_eq_right]
  exact (neg_nonpos.mpr (pow_nonneg two_pos.le _)).trans n.cast_nonneg

end Exact

section Again

variable {q : ℚ}

theorem nearest_zero : nearest 0 = 0 := by simpa using nearest_natCast (n := 0) (by decide)

theorem unbounded_of_multiple {n e : ℤ} (whole : q = n * 2 ^ e) (fine : exponent q ≤ e) :
    unbounded q = q := by
  obtain ⟨m, steps⟩ := pow_div_ulp fine
  have multiple : q / ulp q = (n * m : ℤ) := by
    rw [Int.cast_mul, ← steps, ← mul_div_assoc, ← whole]
  rw [unbounded, multiple, roundEven_intCast, ← multiple, div_mul_cancel₀ _ (ulp_pos q).ne']

theorem unbounded_pow {k : ℤ} (above : -1074 ≤ k) : unbounded (2 ^ k) = 2 ^ k := by
  refine unbounded_of_multiple (n := 1) (e := k) (by rw [Int.cast_one, one_mul]) ?_
  rw [exponent, abs_of_pos (zpow_pos two_pos k)]
  have log : Int.log 2 ((2 : ℚ) ^ k) = k := by exact_mod_cast Int.log_zpow (R := ℚ) one_lt_two k
  rw [log]
  omega

/-- Neither infinite limit cuts a number in between. -/
theorem nearest_of_le (nonneg : 0 ≤ unbounded q) (bounded : unbounded q ≤ infinity) :
    nearest q = unbounded q := by
  rw [nearest, min_eq_left bounded, max_eq_right]
  exact (neg_nonpos.mpr (pow_nonneg two_pos.le _)).trans nonneg

theorem nearest_pow {k : ℕ} (bound : k ≤ 1024) : nearest (2 ^ k) = 2 ^ k := by
  have same : unbounded ((2 : ℚ) ^ k) = 2 ^ k := by
    exact_mod_cast unbounded_pow (k := (k : ℤ)) (by omega)
  rw [nearest_of_le, same]
  · rw [same]
    exact pow_nonneg two_pos.le k
  · rw [same]
    exact pow_le_pow_right₀ one_le_two bound

theorem unbounded_unbounded (nonneg : 0 ≤ q) : unbounded (unbounded q) = unbounded q := by
  have above : -1074 ≤ exponent q := le_max_right _ _
  have nonneg' := unbounded_nonneg nonneg
  have below : q ≤ (2 : ℚ) ^ (exponent q + 53) := by
    have strict := Int.lt_zpow_succ_log_self (R := ℚ) (b := 2) (by decide) |q|
    have larger : Int.log 2 |q| + 1 ≤ exponent q + 53 := by
      rw [exponent]
      omega
    calc q ≤ |q| := le_abs_self q
      _ ≤ (2 : ℚ) ^ (Int.log 2 |q| + 1) := by exact_mod_cast strict.le
      _ ≤ (2 : ℚ) ^ (exponent q + 53) := zpow_le_zpow_right₀ one_le_two larger
  rcases (unbounded_le (by omega) below).eq_or_lt with carried | less
  · rw [carried]
    exact unbounded_pow (by omega)
  rcases nonneg'.eq_or_lt with zero | positive
  · rw [← zero, unbounded, zero_div, show roundEven 0 = 0 from roundEven_intCast 0, Int.cast_zero,
      zero_mul]
  · refine unbounded_of_multiple (n := roundEven (q / ulp q)) (e := exponent q) rfl ?_
    have log := (Int.lt_zpow_iff_log_lt (R := ℚ) (b := 2) (by decide) positive).mp
      (by exact_mod_cast less)
    rw [exponent, abs_of_pos positive]
    omega

theorem nearest_nearest (nonneg : 0 ≤ q) : nearest (nearest q) = nearest q := by
  rcases (nearest_le_infinity q).eq_or_lt with infinite | finite
  · rw [infinite]
    exact nearest_pow le_rfl
  · obtain ⟨same, small⟩ := nearest_of_finite nonneg finite
    have again := unbounded_unbounded nonneg
    rw [same, nearest_of_le (again.symm ▸ unbounded_nonneg nonneg) (again.symm ▸ small.le), again]

end Again

section Gap

variable {q r : ℚ} {k : ℤ}

theorem unbounded_near (q : ℚ) : |unbounded q - q| ≤ ulp q / 2 := by
  have near := roundEven_near (q / ulp q)
  have scaled : unbounded q - q = (roundEven (q / ulp q) - q / ulp q) * ulp q := by
    rw [sub_mul, div_mul_cancel₀ _ (ulp_pos q).ne', unbounded]
  rw [scaled, abs_mul, abs_of_pos (ulp_pos q)]
  calc _ ≤ 1 / 2 * ulp q := mul_le_mul_of_nonneg_right near (ulp_pos q).le
    _ = ulp q / 2 := by ring

/-- Below a power of two the last bit is worth no more than 53 bits less. -/
theorem exponent_le (nonneg : 0 ≤ q) (small : q < 2 ^ k) (above : 1 ≤ k) :
    exponent q ≤ k - 53 := by
  rw [exponent, abs_of_nonneg nonneg]
  rcases nonneg.eq_or_lt with rfl | positive
  · rw [Int.log_zero_right]
    omega
  · have log := (Int.lt_zpow_iff_log_lt (R := ℚ) (b := 2) (by decide) positive).mp
      (by exact_mod_cast small)
    omega

/-- Numbers further apart than the last bit can tell are told apart. -/
theorem nearest_lt_of_gap (nonneg : 0 ≤ q) (small : r < 2 ^ k) (above : 1 ≤ k) (bound : k ≤ 1023)
    (gap : q + 2 ^ (k - 53) < r) : nearest q < nearest r := by
  have step : (0 : ℚ) < 2 ^ (k - 53) := zpow_pos two_pos _
  have positive : 0 ≤ r := by linarith
  have fine {x : ℚ} (nonneg : 0 ≤ x) (small : x < 2 ^ k) : ulp x ≤ 2 ^ (k - 53) :=
    zpow_le_zpow_right₀ one_le_two (exponent_le nonneg small above)
  have less : unbounded q < unbounded r := by
    have near := abs_le.mp (unbounded_near q)
    have near' := abs_le.mp (unbounded_near r)
    have first := fine nonneg (by linarith)
    have second := fine positive small
    linarith
  have top : unbounded r ≤ 2 ^ k := by
    refine unbounded_le ?_ small.le
    have exponent := exponent_le positive small above
    omega
  have finite : (2 : ℚ) ^ k < infinity := by
    rw [infinity, ← zpow_natCast]
    exact zpow_lt_zpow_right₀ one_lt_two (by omega)
  have same (x : ℚ) (nonneg : 0 ≤ x) (le : unbounded x ≤ unbounded r) : nearest x = unbounded x := by
    rw [nearest, min_eq_left (le.trans (top.trans finite.le)), max_eq_right]
    exact (neg_nonpos.mpr (pow_nonneg two_pos.le _)).trans (unbounded_nonneg nonneg)
  rw [same q nonneg less.le, same r positive le_rfl]
  exact less

end Gap

section Quotients

theorem nearest_pos {q : ℚ} (some_there : (2 : ℚ) ^ (-1074 : ℤ) ≤ q) : 0 < nearest q := by
  have least : (2 : ℚ) ^ (-1074 : ℤ) ≤ unbounded q := by
    rw [← unbounded_pow le_rfl]
    exact unbounded_mono (zpow_nonneg two_pos.le _) some_there
  have positive : 0 < unbounded q := (zpow_pos two_pos _).trans_le least
  exact lt_max_of_lt_right (lt_min positive (pow_pos two_pos _))

/-- A natural number below a quotient stays below it. -/
theorem lt_nearest_div {t l j : ℕ} (few : t < 2 ^ 52) (positive : 0 < l) (less : l < t)
    (below : (j : ℚ) < t / l) : (j : ℚ) < nearest (t / l) := by
  have unit : (0 : ℚ) < l := by exact_mod_cast positive
  have one_lt : (1 : ℚ) < t / l := (one_lt_div unit).mpr (by exact_mod_cast less)
  have quotient : (0 : ℚ) < t / l := one_pos.trans one_lt
  have small_j : j < 2 ^ 53 := by
    have product : (j : ℚ) * l < t := (lt_div_iff₀ unit).mp below
    have product : j * l < t := by exact_mod_cast product
    exact (Nat.le_mul_of_pos_right j positive).trans_lt (product.trans (few.trans (by decide)))
  have step : (j : ℚ) + 1 / l ≤ t / l := by
    have product : (j : ℚ) * l < t := (lt_div_iff₀ unit).mp below
    have product : j * l + 1 ≤ t := by exact_mod_cast product
    rw [← mul_div_cancel_right₀ (j : ℚ) unit.ne', ← add_div]
    exact div_le_div_of_nonneg_right (by exact_mod_cast product) unit.le
  have low := Int.zpow_log_le_self (R := ℚ) (b := 2) (by decide) quotient
  have high := Int.lt_zpow_succ_log_self (R := ℚ) (b := 2) (by decide) ((t : ℚ) / l)
  have log_nonneg : 0 ≤ Int.log 2 ((t : ℚ) / l) := by
    rw [← Int.log_one_right (R := ℚ) 2]
    exact Int.log_mono_right one_pos one_lt.le
  have log_small : Int.log 2 ((t : ℚ) / l) < 52 := by
    refine (Int.lt_zpow_iff_log_lt (R := ℚ) (b := 2) (by decide) quotient).mp ?_
    have size : (t : ℚ) / l ≤ t := div_le_self t.cast_nonneg (by exact_mod_cast positive)
    exact size.trans_lt (by exact_mod_cast few)
  have bit : (2 : ℚ) ^ (Int.log 2 ((t : ℚ) / l) + 1 - 53) < 1 / l := by
    have shift : (2 : ℚ) ^ (Int.log 2 ((t : ℚ) / l) + 1 - 53) =
        2 ^ Int.log 2 ((t : ℚ) / l) / 2 ^ 52 := by
      rw [show Int.log 2 ((t : ℚ) / l) + 1 - 53 = Int.log 2 ((t : ℚ) / l) - (52 : ℕ) by omega,
        zpow_sub₀ two_ne_zero, zpow_natCast]
    have few : (t : ℚ) < 2 ^ 52 := by exact_mod_cast few
    calc (2 : ℚ) ^ (Int.log 2 ((t : ℚ) / l) + 1 - 53)
        = 2 ^ Int.log 2 ((t : ℚ) / l) / 2 ^ 52 := shift
      _ ≤ t / l / 2 ^ 52 := div_le_div_of_nonneg_right (by exact_mod_cast low) (by positivity)
      _ = t / 2 ^ 52 / l := div_right_comm ..
      _ < 1 / l := div_lt_div_of_pos_right ((div_lt_one (by positivity)).mpr few) unit
  rw [← nearest_natCast small_j]
  refine nearest_lt_of_gap j.cast_nonneg (by exact_mod_cast high) (by omega) (by omega) ?_
  linarith

theorem ceil_div_of_lt {t l : ℕ} (few : t < 2 ^ 52) (positive : 0 < l) (less : l < t) :
    ⌈nearest (t / nearest l)⌉ = ⌈(t : ℚ) / l⌉ := by
  have unit : (0 : ℚ) < l := by exact_mod_cast positive
  have small : t < 2 ^ 53 := few.trans (by decide)
  rw [nearest_natCast (less.trans small)]
  have quotient : (1 : ℚ) < t / l := (one_lt_div unit).mpr (by exact_mod_cast less)
  have size : (t : ℚ) / l ≤ t := div_le_self t.cast_nonneg (by exact_mod_cast positive)
  obtain ⟨k, ceil⟩ := Int.eq_ofNat_of_zero_le (Int.ceil_nonneg (one_pos.trans quotient).le)
  have bounds := Int.ceil_eq_iff.mp ceil
  rw [Int.cast_natCast] at bounds
  obtain ⟨j, rfl⟩ : ∃ j, k = j + 1 := Nat.exists_eq_add_one.mpr <| by
    by_contra! zero
    rw [Nat.le_zero.mp zero, Nat.cast_zero] at bounds
    linarith [bounds.2]
  have top : j + 1 < 2 ^ 53 := by
    have reached : ((j + 1 : ℕ) : ℚ) < t + 1 := by linarith [bounds.1]
    have reached : j + 1 < t + 1 := by exact_mod_cast reached
    omega
  rw [ceil, Int.ceil_eq_iff, Int.cast_natCast]
  have below : (j : ℚ) < t / l := by
    have least := bounds.1
    push_cast at least
    linarith
  constructor
  · push_cast
    linarith [lt_nearest_div few positive less below]
  · rw [← nearest_natCast top]
    exact nearest_mono (one_pos.trans quotient).le bounds.2

/-- Neither rounding makes the quotient zero, or takes it beyond one. -/
theorem ceil_div_of_le {t l : ℕ} (few : t < 2 ^ 52) (positive : 0 < t) (le : t ≤ l) :
    ⌈nearest (t / nearest l)⌉ = ⌈(t : ℚ) / l⌉ := by
  have some_there : (1 : ℚ) ≤ t := by exact_mod_cast positive
  have le : (t : ℚ) ≤ l := by exact_mod_cast le
  have unit : (0 : ℚ) < l := by linarith
  have divisor : (t : ℚ) ≤ nearest l := by
    rw [← nearest_natCast (few.trans (by decide))]
    exact nearest_mono t.cast_nonneg le
  have positive : 0 < nearest l := one_pos.trans_le (some_there.trans divisor)
  have ceil : ⌈(t : ℚ) / l⌉ = 1 := by
    rw [Int.ceil_eq_iff, Int.cast_one, sub_self]
    exact ⟨div_pos (by linarith) unit, (div_le_one unit).mpr le⟩
  rw [ceil, Int.ceil_eq_iff, Int.cast_one, sub_self]
  constructor
  · refine nearest_pos ?_
    have tiny : (2 : ℚ) ^ (-1074 : ℤ) ≤ 1 / infinity := by
      rw [infinity, one_div, ← zpow_natCast, ← zpow_neg]
      exact zpow_le_zpow_right₀ one_le_two (by decide)
    calc (2 : ℚ) ^ (-1074 : ℤ) ≤ 1 / infinity := tiny
      _ ≤ 1 / nearest l := one_div_le_one_div_of_le positive (nearest_le_infinity _)
      _ ≤ t / nearest l := div_le_div_of_nonneg_right some_there positive.le
  · have one : nearest 1 = 1 := by exact_mod_cast nearest_natCast (n := 1) (by decide)
    rw [← one]
    exact nearest_mono (div_nonneg t.cast_nonneg positive.le) ((div_le_one positive).mpr divisor)

/-- Rounded up, a quotient of a small number is what it is of doubles. -/
theorem ceil_div {t l : ℕ} (few : t < 2 ^ 52) (positive : 0 < l) :
    ⌈nearest (t / nearest l)⌉ = ⌈(t : ℚ) / l⌉ := by
  rcases Nat.eq_zero_or_pos t with rfl | some_there
  · rw [Nat.cast_zero, zero_div, zero_div, nearest_zero]
  · rcases Nat.lt_or_ge l t with less | le
    · exact ceil_div_of_lt few positive less
    · exact ceil_div_of_le few some_there le

end Quotients
end Double
