import ServiceClient.Proofs.Rounding

/-!
The text of a floating point number is read as that number. The grid of seventeen digits is fine
enough for one of the two points next to a number to be read as it (`onGrid?_found`), so the search
for digits ends with some that are (`search_covers`). `floating?_text` carries this through the
layout of the digits to the reader.
-/

namespace ServiceClient

namespace Binary64

/-! ## Powers of ten -/

theorem ten_zpow_pos (n : Int) : (0 : ℚ) < 10 ^ n := zpow_pos (by norm_num) n

theorem ten_zpow_add (m n : Int) : (10 : ℚ) ^ (m + n) = 10 ^ m * 10 ^ n :=
  zpow_add₀ (by norm_num) m n

theorem ten_zpow_neg_lt {m n : Nat} (less : Nat.pow 2 m < Nat.pow 10 n) :
    (10 : ℚ) ^ (-(n : Int)) < 2 ^ (-(m : Int)) := by
  rw [zpow_neg, zpow_neg, zpow_natCast, zpow_natCast]
  exact inv_strictAnti₀ (by positivity) (by exact_mod_cast less)

theorem natCast_lt_ten_zpow {a n : Nat} (less : a * 2 < Nat.pow 10 n) :
    (a : ℚ) * 2 < 10 ^ (n : Int) := by
  rw [zpow_natCast]
  exact_mod_cast less

/-- A positive number has as many digits as powers of ten go into it. -/
theorem toDigits_bounds {n : Nat} (positive : 0 < n) :
    (10 : ℚ) ^ (((Nat.toDigits 10 n).length : Int) - 1) ≤ n ∧
      (n : ℚ) + 1 ≤ 10 ^ ((Nat.toDigits 10 n).length : Int) := by
  obtain ⟨size, same⟩ : ∃ size, (Nat.toDigits 10 n).length = size + 1 :=
    Nat.exists_eq_add_one.mpr Nat.length_toDigits_pos
  have high : n < 10 ^ (size + 1) :=
    (Nat.length_toDigits_le_iff (by decide) (Nat.succ_pos size)).mp same.le
  have low : 10 ^ size ≤ n := by
    rcases Nat.eq_zero_or_pos size with rfl | some
    · exact positive
    · by_contra below
      have fewer :=
        (Nat.length_toDigits_le_iff (b := 10) (by decide) some).mpr (Nat.not_le.mp below)
      omega
  rw [same]
  constructor
  · have cast : ((size + 1 : Nat) : Int) - 1 = (size : Nat) := by omega
    rw [cast, zpow_natCast]
    exact_mod_cast low
  · rw [zpow_natCast]
    exact_mod_cast high

/-- A ratio lies between its whole part and the next number. -/
theorem whole_bounds {a b : Nat} (b_pos : 0 < b) :
    ((a / b : Nat) : ℚ) ≤ a / b ∧ (a / b : ℚ) < (a / b : Nat) + 1 := by
  have b_pos' : (0 : ℚ) < b := by exact_mod_cast b_pos
  constructor
  · rw [le_div_iff₀ b_pos']
    exact_mod_cast Nat.div_mul_le_self a b
  · rw [div_lt_iff₀ b_pos', mul_comm]
    exact_mod_cast Nat.lt_mul_div_succ a b_pos

/-- The decimal point of a ratio stands behind its first digit that counts. -/
theorem decimalPoint_bounds {num den : Nat} (num_pos : 0 < num) (den_pos : 0 < den) :
    (10 : ℚ) ^ (decimalPoint num den - 1) ≤ num / den ∧
      (num / den : ℚ) < 10 ^ decimalPoint num den := by
  have num_pos' : (0 : ℚ) < num := by exact_mod_cast num_pos
  have den_pos' : (0 : ℚ) < den := by exact_mod_cast den_pos
  unfold decimalPoint
  split
  · rename_i large
    obtain ⟨low, high⟩ := toDigits_bounds (Nat.div_pos large den_pos)
    obtain ⟨whole, next⟩ := whole_bounds (a := num) den_pos
    exact ⟨low.trans whole, next.trans_le high⟩
  · rename_i small
    obtain ⟨low, high⟩ := toDigits_bounds (Nat.div_pos (Nat.not_le.mp small).le num_pos)
    obtain ⟨whole, next⟩ := whole_bounds (a := den) num_pos
    obtain ⟨size, same⟩ : ∃ size, (Nat.toDigits 10 (den / num)).length = size + 1 :=
      Nat.exists_eq_add_one.mpr Nat.length_toDigits_pos
    rw [same] at low high ⊢
    -- the reciprocal lies between two powers of ten, so the ratio does
    have above : (10 : ℚ) ^ (-(size : Int) - 1) < num / den := by
      have split : (-(size : Int) - 1) = -((size + 1 : Nat) : Int) := by omega
      rw [split, zpow_neg, ← inv_div]
      exact inv_strictAnti₀ (div_pos den_pos' num_pos') (next.trans_le high)
    have below : (num / den : ℚ) ≤ 10 ^ (-(size : Int)) := by
      have cast : ((size + 1 : Nat) : Int) - 1 = size := by omega
      rw [cast] at low
      rw [zpow_neg, ← inv_div]
      exact inv_anti₀ (ten_zpow_pos size) (low.trans whole)
    have power : den = num * Nat.pow 10 (size + 1 - 1) ↔
        (num / den : ℚ) = 10 ^ (-(size : Int)) := by
      rw [Nat.add_sub_cancel, zpow_neg, zpow_natCast, div_eq_iff den_pos'.ne', inv_mul_eq_div,
        eq_div_iff (by positivity), eq_comm]
      exact_mod_cast Iff.rfl
    dsimp only
    split
    · rename_i exact
      have same : 2 - ((size + 1 : Nat) : Int) - 1 = -size := by omega
      have next : 2 - ((size + 1 : Nat) : Int) = -size + 1 := by omega
      rw [same, next, power.mp exact]
      exact ⟨le_rfl, zpow_lt_zpow_right₀ (by norm_num) (by omega)⟩
    · rename_i inexact
      have same : 1 - ((size + 1 : Nat) : Int) - 1 = -size - 1 := by omega
      have next : 1 - ((size + 1 : Nat) : Int) = -size := by omega
      rw [same, next]
      exact ⟨above.le, lt_of_le_of_ne below (power.not.mp inexact)⟩

namespace Scaled

variable {s : Scaled}

/-! ## The search for digits -/

theorem Proper.value_pos (proper : s.Proper) : 0 < s.value :=
  mul_pos (by exact_mod_cast proper.positive) (two_zpow_pos s.place)

/-- What is so near to a number that seventeen digits tell them apart no longer is read as it. -/
theorem covers_of_near (proper : s.Proper) {y : ℚ}
    (near : |y - s.value| ≤ s.value / (2 * 10 ^ 16)) : s.Covers y := by
  have positive := proper.value_pos
  have unit := two_zpow_pos (s.place - 2)
  have half : (s.mantissa / 2 ^ 52 : ℚ) ≤ 2 := by
    have small : (s.mantissa : ℚ) < 2 ^ 53 := by exact_mod_cast proper.small
    rw [div_le_iff₀ (by positivity)]
    exact small.le.trans_eq (by norm_num)
  have quarters : s.value = 4 * s.mantissa * 2 ^ (s.place - 2) := by
    have split : s.place = 2 + (s.place - 2) := by omega
    rw [value, split, two_zpow_add, ← split]
    norm_num
    ring
  have low : (s.lowQuarter : ℚ) ≤ 4 * s.mantissa - s.mantissa / 2 ^ 52 := by
    have some := proper.positive
    unfold lowQuarter
    split
    · rename_i power
      simp only [Bool.and_eq_true, decide_eq_true_eq] at power
      rw [power.1]
      norm_num
    · rw [Nat.cast_sub (by omega)]
      push_cast
      linarith
  have margin : s.value / (2 * 10 ^ 16) < s.mantissa / 2 ^ 52 * 2 ^ (s.place - 2) := by
    have some : (0 : ℚ) < s.mantissa := by exact_mod_cast proper.positive
    have product := mul_pos some unit
    rw [quarters]
    norm_num
    linarith
  obtain ⟨below, above⟩ := abs_le.mp near
  have strictLow : s.lowQuarter * 2 ^ (s.place - 2) < y := by
    have := mul_le_mul_of_nonneg_right low unit.le
    linarith
  have strictHigh : y < (4 * s.mantissa + 2) * 2 ^ (s.place - 2) := by
    have := mul_le_mul_of_nonneg_right half unit.le
    linarith
  unfold Covers
  split
  · exact ⟨strictLow.le, strictHigh.le⟩
  · exact ⟨strictLow, strictHigh⟩

/-- Of two points around a number, so near to each other, one is read as it. -/
theorem covers_either (proper : s.Proper) {x step : ℚ} (lower : x ≤ s.value)
    (upper : s.value < x + step) (fine : step ≤ s.value / 10 ^ 16) :
    s.Covers x ∨ s.Covers (x + step) := by
  have positive := proper.value_pos
  rcases le_total (s.value - x) (step / 2) with close | far
  · exact .inl (covers_of_near proper (abs_le.mpr ⟨by linarith, by linarith⟩))
  · exact .inr (covers_of_near proper (abs_le.mpr ⟨by linarith, by linarith⟩))

section

variable {point : Int} {count k : Nat}

/-- The points of a decimal grid as ratios. -/
theorem reads_grid_iff :
    s.reads (k * (powerRatio 10 (point - count)).1) (powerRatio 10 (point - count)).2 = true ↔
      s.Covers (k * 10 ^ (point - count)) := by
  obtain ⟨-, den_pos⟩ := powerRatio_pos (show 0 < 10 by decide) (point - count)
  have ratio := powerRatio_div (show 0 < 10 by decide) (point - count)
  push_cast at ratio
  rw [reads_iff den_pos, Nat.cast_mul, mul_div_assoc, ratio]

/-- What is found on a grid is read as the number. -/
theorem onGrid?_covers (found : s.onGrid? point count = some k) :
    s.Covers (k * 10 ^ (point - count)) := by
  rw [← reads_grid_iff]
  unfold onGrid? at found
  dsimp only at found
  split at found
  · rename_i below above
    split at found
    · exact Option.some.inj found ▸ below
    · exact Option.some.inj found ▸ above
  · rename_i below _
    exact Option.some.inj found ▸ below
  · rename_i _ above
    exact Option.some.inj found ▸ above
  · cases found

/-- A number stands between two points of each grid. -/
theorem grid_bounds (s : Scaled) (point : Int) (count : Nat) :
    ∃ below, s.mantissa * (powerRatio 2 s.place).1 * (powerRatio 10 (point - count)).2 /
        ((powerRatio 2 s.place).2 * (powerRatio 10 (point - count)).1) = below ∧
      below * 10 ^ (point - count) ≤ s.value ∧
      s.value < ((below + 1 : Nat) : ℚ) * 10 ^ (point - count) := by
  obtain ⟨gridNum_pos, gridDen_pos⟩ := powerRatio_pos (show 0 < 10 by decide) (point - count)
  obtain ⟨-, q_pos⟩ := powerRatio_pos (show 0 < 2 by decide) s.place
  have place := powerRatio_eq (show 0 < 2 by decide) s.place
  have grid := powerRatio_eq (show 0 < 10 by decide) (point - count)
  have unit := ten_zpow_pos (point - count)
  obtain ⟨low, high⟩ := whole_bounds
    (a := s.mantissa * (powerRatio 2 s.place).1 * (powerRatio 10 (point - count)).2)
    (Nat.mul_pos q_pos gridNum_pos)
  have ratio : ((s.mantissa * (powerRatio 2 s.place).1 * (powerRatio 10 (point - count)).2 : Nat) /
      ((powerRatio 2 s.place).2 * (powerRatio 10 (point - count)).1 : Nat) : ℚ) =
        s.value / 10 ^ (point - count) := by
    have gridDen : ((powerRatio 10 (point - count)).2 : ℚ) ≠ 0 := by exact_mod_cast gridDen_pos.ne'
    have q : ((powerRatio 2 s.place).2 : ℚ) ≠ 0 := by exact_mod_cast q_pos.ne'
    push_cast at place grid ⊢
    rw [place, grid, value]
    field_simp
  rw [ratio] at low high
  exact ⟨_, rfl, (le_div_iff₀ unit).mp low, by exact_mod_cast (div_lt_iff₀ unit).mp high⟩

/-- Seventeen digits are enough. -/
theorem onGrid?_found (proper : s.Proper) (low : 10 ^ (point - 1) ≤ s.value) :
    ∃ k, s.onGrid? point 17 = some k := by
  obtain ⟨below, isBelow, lower, upper⟩ := grid_bounds s point 17
  have fine : (10 : ℚ) ^ (point - (17 : Nat)) ≤ s.value / 10 ^ 16 := by
    have split : point - 1 = 16 + (point - (17 : Nat)) := by omega
    rw [split, ten_zpow_add] at low
    rw [le_div_iff₀ (by positivity), mul_comm]
    exact_mod_cast low
  have next : ((below + 1 : Nat) : ℚ) * 10 ^ (point - (17 : Nat)) =
      below * 10 ^ (point - (17 : Nat)) + 10 ^ (point - (17 : Nat)) := by
    push_cast
    ring
  have either := covers_either proper lower (upper.trans_eq next) fine
  rw [← next, ← reads_grid_iff, ← reads_grid_iff] at either
  unfold onGrid?
  dsimp only
  rw [isBelow]
  split
  · split <;> exact ⟨_, rfl⟩
  · exact ⟨_, rfl⟩
  · exact ⟨_, rfl⟩
  · rename_i notBelow notAbove
    rcases either with reads | reads
    · exact absurd (reads.symm.trans notBelow) (by decide)
    · exact absurd (reads.symm.trans notAbove) (by decide)

/-- The search, which ends with seventeen digits at the latest, ends with digits that are read as
the number. -/
theorem search_covers (proper : s.Proper) (low : 10 ^ (point - 1) ≤ s.value) {tries : Nat}
    (some : 0 < tries) (last : count + tries = 18) :
    s.Covers ((s.search point tries count).1 * 10 ^ (point - (s.search point tries count).2)) := by
  induction tries generalizing count with
  | zero => cases some
  | succ tries ih =>
    unfold search
    split
    · exact onGrid?_covers ‹_›
    · rename_i missed
      rcases Nat.eq_zero_or_pos tries with rfl | more
      · obtain rfl : count = 17 := by omega
        obtain ⟨k, found⟩ := onGrid?_found proper low
        exact absurd (missed.symm.trans found) (by simp)
      · exact ih more (by omega)

end

/-- Without the zeros at their end digits denote the same number, if its decimal point stays. -/
theorem dropZeros_value (ds : List Char) (n : Int) :
    (digitsValue (dropZeros ds) : ℚ) * 10 ^ (n - (dropZeros ds).length) =
      digitsValue ds * 10 ^ (n - ds.length) := by
  obtain ⟨zeros, same⟩ : ∃ zeros, ds = dropZeros ds ++ List.replicate zeros '0' := by
    refine ⟨(ds.reverse.takeWhile (· == '0')).length, ?_⟩
    have zeros : ds.reverse.takeWhile (· == '0') =
        List.replicate (ds.reverse.takeWhile (· == '0')).length '0' := by
      refine List.eq_replicate_length.mpr fun c member => ?_
      simpa using List.all_eq_true.mp List.all_takeWhile c member
    rw [← List.reverse_inj, List.reverse_append, List.reverse_replicate, dropZeros,
      List.reverse_reverse, ← zeros, List.takeWhile_append_dropWhile]
  have size := congrArg List.length same
  rw [List.length_append, List.length_replicate] at size
  have value : digitsValue ds = 10 ^ zeros * digitsValue (dropZeros ds) := by
    conv_lhs => rw [same]
    rw [digitsValue_append, digitsValue_zeros, List.length_replicate, Nat.add_zero]
  have split : n - (dropZeros ds).length = zeros + (n - ds.length) := by omega
  rw [value, split, ten_zpow_add, zpow_natCast]
  push_cast
  ring

/-- The shortest digits of a number are read as it. -/
theorem shortestDigits_covers (proper : s.Proper) :
    s.Covers (digitsValue (shortestDigits s).1 *
      10 ^ ((shortestDigits s).2 - (shortestDigits s).1.length)) := by
  obtain ⟨p_pos, q_pos⟩ := powerRatio_pos (show 0 < 2 by decide) s.place
  have place := powerRatio_div (show 0 < 2 by decide) s.place
  obtain ⟨low, -⟩ := decimalPoint_bounds (Nat.mul_pos proper.positive p_pos) q_pos
  push_cast at place
  rw [Nat.cast_mul, mul_div_assoc, place] at low
  have covers := search_covers proper low (show 0 < 17 by decide) (show 1 + 17 = 18 from rfl)
  unfold shortestDigits
  dsimp only
  rw [dropZeros_value, digitsValue_toDigits]
  have exponent (point size count : Int) : point + size - count - size = point - count := by omega
  rw [exponent]
  exact covers

/-! ## The number behind a text -/

theorem Proper.value_bounds (proper : s.Proper) :
    s.value < 2 ^ (s.place + 53) ∧ (s.place = minExponent ∨ 2 ^ (s.place + 52) ≤ s.value) := by
  have unit := two_zpow_pos s.place
  have small : (s.mantissa : ℚ) < 2 ^ (53 : Int) := by exact_mod_cast proper.small
  constructor
  · rw [add_comm, two_zpow_add]
    exact mul_lt_mul_of_pos_right small unit
  · refine proper.full.imp_right fun full => ?_
    have full : (2 : ℚ) ^ (52 : Int) ≤ s.mantissa := by exact_mod_cast full
    rw [add_comm, two_zpow_add]
    exact mul_le_mul_of_nonneg_right full unit.le

/-- A dyadic number with the value of a number of the format stands on its grid. -/
theorem ofDyadic_eq (proper : s.Proper) {n : Nat} {k : Int} (odd : n % 2 = 1)
    (same : (n : ℚ) * 2 ^ (-k) = s.value) : ofDyadic n k = s := by
  obtain ⟨low, high⟩ := log2_bounds (n := n) (by omega)
  obtain ⟨above, below⟩ := proper.value_bounds
  have place : max ((n.log2 : Int) - k - 52) minExponent = s.place := by
    refine proper.place_eq ?_ ?_ above below
    · rw [← same, sub_eq_add_neg, two_zpow_add]
      exact mul_le_mul_of_nonneg_right low (two_zpow_pos _).le
    · have split : (n.log2 : Int) - k + 1 = n.log2 + 1 + -k := by omega
      rw [← same, split, two_zpow_add]
      exact mul_lt_mul_of_pos_right high (two_zpow_pos _)
  have mantissa : (n : ℚ) * 2 ^ (-k - s.place) = s.mantissa := by
    have unit := (two_zpow_pos s.place).ne'
    have split : -k = -k - s.place + s.place := by omega
    rw [split, two_zpow_add, ← mul_assoc, value] at same
    exact mul_right_cancel₀ unit same
  have whole : 0 ≤ -k - s.place := by
    -- an odd number is not a multiple of a power of two
    by_contra negative
    obtain ⟨j, shift⟩ := Int.eq_ofNat_of_zero_le (a := k + s.place - 1) (by omega)
    have split : -k - s.place = -((j + 1 : Nat) : Int) := by omega
    rw [split, zpow_neg, zpow_natCast, ← div_eq_mul_inv, div_eq_iff (by positivity)] at mantissa
    have mantissa : n = s.mantissa * 2 ^ (j + 1) := by exact_mod_cast mantissa
    rw [mantissa, Nat.pow_succ, ← Nat.mul_assoc, Nat.mul_mod_left] at odd
    cases odd
  obtain ⟨j, shift⟩ := Int.eq_ofNat_of_zero_le whole
  rw [shift, zpow_natCast] at mantissa
  have mantissa : n * 2 ^ j = s.mantissa := by exact_mod_cast mantissa
  unfold ofDyadic
  dsimp only
  rw [place, shift, Int.toNat_natCast]
  exact congrArg (Scaled.mk · s.place) mantissa

/-- A multiple of a unit has the size and the sign of what it is equal to. -/
theorem size_and_sign {n : Int} {unit size : ℚ} {negative : Bool} (unit_pos : 0 < unit)
    (positive : 0 < size) (same : n * unit = if negative then -size else size) :
    n.natAbs * unit = size ∧ decide (n < 0) = negative := by
  cases negative with
  | false =>
    have same : (n : ℚ) * unit = size := same
    have above : (0 : ℚ) < n := (mul_pos_iff_of_pos_right unit_pos).mp (same ▸ positive)
    have above : 0 < n := by exact_mod_cast above
    have magnitude : (n.natAbs : Int) = n := by omega
    refine ⟨?_, decide_eq_false (by omega)⟩
    rw [← Int.cast_natCast, magnitude, same]
  | true =>
    have opposite : ((-n : Int) : ℚ) * unit = size := by
      rw [Int.cast_neg, neg_mul, same, if_pos rfl, neg_neg]
    have below : (0 : ℚ) < (-n : Int) :=
      (mul_pos_iff_of_pos_right unit_pos).mp (opposite ▸ positive)
    have below : 0 < -n := by exact_mod_cast below
    have magnitude : (n.natAbs : Int) = -n := by omega
    refine ⟨?_, decide_eq_true (by omega)⟩
    rw [← Int.cast_natCast, magnitude, opposite]

/-- The text of a number is that of its shortest digits, with its sign. -/
theorem toBinary64_text (proper : s.Proper) (negative : Bool) :
    ∃ t : DecimalText, t.Proper ∧ (s.toBinary64 negative).text = String.ofList t.chars ∧
      t.Writes negative (shortestDigits s).1 (shortestDigits s).2 := by
  have positive := proper.value_pos
  have exact : (Dyadic.ofIntWithPrec (signedInt negative s.mantissa) (-s.place)).toRat =
      signedInt negative s.mantissa * 2 ^ s.place := by
    rw [Dyadic.toRat_ofIntWithPrec_eq_mul_two_pow, neg_neg]
  have signed : (signedInt negative s.mantissa : ℚ) * 2 ^ s.place =
      if negative then -s.value else s.value := by
    cases negative <;> simp [signedInt, value]
  rw [signed] at exact
  unfold toBinary64
  cases same : Dyadic.ofIntWithPrec (signedInt negative s.mantissa) (-s.place) with
  | zero =>
    rw [same, Dyadic.zero_eq, Dyadic.toRat_zero] at exact
    cases negative <;> simp at exact <;> linarith
  | ofOdd n k odd =>
    rw [same, Dyadic.toRat_ofOdd_eq_mul_two_pow] at exact
    obtain ⟨size, sign⟩ := size_and_sign (two_zpow_pos (-k)) positive exact
    rw [← ofDyadic_eq proper (by omega) size]
    obtain ⟨t, properText, -, chars, writes⟩ := layOut_laidOut
      (shortestDigits_significant (s := ofDyadic n.natAbs k) (ofDyadic_pos (by omega) k))
      (shortestDigits (ofDyadic n.natAbs k)).2 (decide (n < 0))
    refine ⟨t, properText, ?_, sign ▸ writes⟩
    rw [chars, text]
    simp only [DecimalText.signChars, decide_eq_true_eq]

end Scaled

/-! ## Reading -/

section

variable {s : Scaled} {negative : Bool} {digits : Nat} {exponent : Int}

/-- The powers at which reading stops are beyond the numbers of the format. -/
theorem Scaled.Covers.within (proper : s.Proper) {y : ℚ} (covers : s.Covers y) :
    (10 : ℚ) ^ (-330 : Int) < y ∧ y < 10 ^ (310 : Int) := by
  obtain ⟨low, high, -⟩ := covers.bounds proper
  have unit := two_zpow_pos s.place
  have some : (1 : ℚ) ≤ s.mantissa := by exact_mod_cast proper.positive
  constructor
  · have least : (2 : ℚ) ^ (-1075 : Int) ≤ 2 ^ s.place / 2 := by
      have reach : (-1075 : Int) + 1 ≤ s.place := proper.least
      have power := two_zpow_le reach
      rw [two_zpow_add, zpow_one] at power
      linarith
    have compare : (10 : ℚ) ^ (-330 : Int) < 2 ^ (-1075 : Int) :=
      ten_zpow_neg_lt (m := 1075) (n := 330) (by decide +kernel)
    have := mul_le_mul_of_nonneg_right some unit.le
    linarith
  · have compare : ((Nat.pow 2 1024 : Nat) : ℚ) * 2 < 10 ^ (310 : Int) :=
      natCast_lt_ten_zpow (n := 310) (by decide +kernel)
    have bounded := proper.bounded
    have := mul_le_mul_of_nonneg_right some unit.le
    rw [Scaled.value] at bounded
    refine lt_trans ?_ compare
    generalize ((Nat.pow 2 1024 : Nat) : ℚ) = limit at bounded
    linarith

/-- Digits and an exponent that denote a number which is read as one of the format are read as
it. -/
theorem ofDecimal_covered (proper : s.Proper) (covers : s.Covers (digits * 10 ^ exponent)) :
    ofDecimal negative digits exponent = s.toBinary64 negative := by
  obtain ⟨above, below⟩ := covers.within proper
  have unit := ten_zpow_pos exponent
  have some : 0 < digits := by
    have positive := (ten_zpow_pos (-330)).trans above
    exact_mod_cast (mul_pos_iff_of_pos_right unit).mp positive
  obtain ⟨low, high⟩ := toDigits_bounds some
  have notSmall : -330 < ((Nat.toDigits 10 digits).length : Int) + exponent := by
    refine (zpow_lt_zpow_iff_right₀ (a := (10 : ℚ)) (by norm_num)).mp (above.trans ?_)
    rw [ten_zpow_add]
    exact mul_lt_mul_of_pos_right (by linarith) unit
  have notLarge : ((Nat.toDigits 10 digits).length : Int) - 1 + exponent < 310 := by
    refine (zpow_lt_zpow_iff_right₀ (a := (10 : ℚ)) (by norm_num)).mp (lt_of_le_of_lt ?_ below)
    rw [ten_zpow_add]
    exact mul_le_mul_of_nonneg_right low unit.le
  obtain ⟨p_pos, q_pos⟩ := powerRatio_pos (show 0 < 10 by decide) exponent
  have ratio := powerRatio_div (show 0 < 10 by decide) exponent
  push_cast at ratio
  unfold ofDecimal
  dsimp only
  rw [if_neg (by simp; omega), if_neg (by omega)]
  refine ofRatio_covered proper (Nat.mul_pos some p_pos) q_pos ?_
  rwa [Nat.cast_mul, mul_div_assoc, ratio]

theorem floating?_toBinary64 (proper : s.Proper) :
    floating? (s.toBinary64 negative).text = some (s.toBinary64 negative) := by
  obtain ⟨t, properText, text, rfl, zeros, value, exponent⟩ := s.toBinary64_text proper negative
  have covers := s.shortestDigits_covers proper
  rw [text, floating?_chars properText, Numeral.toBinary64]
  refine congrArg some (ofDecimal_covered proper ?_)
  change s.Covers ((digitsValue (t.whole ++ t.fraction) : Nat) *
    10 ^ (t.toNumeral.exponent - t.fraction.length))
  have split : (shortestDigits s).2 - (shortestDigits s).1.length =
    zeros + ((shortestDigits s).2 - (shortestDigits s).1.length - zeros) := by omega
  rw [split, ten_zpow_add, zpow_natCast, ← mul_assoc] at covers
  rw [value, exponent]
  exact_mod_cast covers

end

theorem floating?_signedZero (negative : Bool) :
    floating? (signedZero negative).text = some (signedZero negative) := by
  cases negative <;> rfl

theorem floating?_infinite (negative : Bool) :
    floating? (infinite negative).text = some (infinite negative) := by
  cases negative <;> rfl

/-- Every number that decimal digits are rounded to is read from its text. -/
theorem floating?_text (negative : Bool) (digits : Nat) (exponent : Int) :
    floating? (ofDecimal negative digits exponent).text =
      some (ofDecimal negative digits exponent) := by
  unfold ofDecimal
  dsimp only
  split
  · exact floating?_signedZero negative
  split
  · exact floating?_infinite negative
  · obtain ⟨-, den_pos⟩ := powerRatio_pos (show 0 < 10 by decide) exponent
    rcases ofRatio_cases negative (digits * (powerRatio 10 exponent).1) den_pos with
      zero | infinite | ⟨s, proper, rounded⟩
    · rw [zero]
      exact floating?_signedZero negative
    · rw [infinite]
      exact floating?_infinite negative
    · rw [rounded]
      exact floating?_toBinary64 proper

end Binary64
end ServiceClient
