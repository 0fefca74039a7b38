import Mathlib.Algebra.Order.Field.Power
import Mathlib.Data.Rat.Cast.Order
import Mathlib.Tactic.FieldSimp
import Mathlib.Tactic.Linarith
import Mathlib.Tactic.NormNum
import Mathlib.Tactic.Positivity
import Mathlib.Tactic.Ring
import ServiceClient.Proofs.NumberText

/-!
Rounding to floating point numbers. A positive number of the format is a mantissa at a binary place
(`Scaled.Proper`), and the ratios that round to it are an interval around it (`Scaled.Covers`).
`ofRatio_covered` says that every ratio of this interval is rounded to the number, and
`ofRatio_proper` that rounding gives nothing but such numbers, zeros and infinities.
-/

namespace ServiceClient

/-! ## Quotients -/

/-- A rounded quotient is at most half a unit away. -/
theorem divNearest_bounds {a b : Nat} (positive : 0 < b) :
    2 * a ≤ (2 * divNearest a b + 1) * b ∧ 2 * divNearest a b * b ≤ 2 * a + b := by
  have division := Nat.div_add_mod a b
  have remainder := Nat.mod_lt a positive
  unfold divNearest
  generalize a / b = q at *
  generalize a % b = r at *
  have parity : q % 2 = 0 ∨ q % 2 = 1 := Nat.mod_two_eq_zero_or_one q
  dsimp only
  split
  · constructor <;> nlinarith
  split
  · constructor <;> nlinarith
  · rcases parity with even | odd
    · rw [even]
      constructor <;> nlinarith
    · rw [odd]
      constructor <;> nlinarith

/-- A fraction within half a unit of a number, and nearer if that is odd, is rounded to it. -/
theorem divNearest_of_near {a b k : Nat} (positive : 0 < b) (low : 2 * k * b ≤ 2 * a + b)
    (high : 2 * a ≤ (2 * k + 1) * b)
    (strict : k % 2 = 1 → 2 * k * b < 2 * a + b ∧ 2 * a < (2 * k + 1) * b) :
    divNearest a b = k := by
  have division := Nat.div_add_mod a b
  have remainder := Nat.mod_lt a positive
  unfold divNearest
  generalize a / b = q at *
  generalize a % b = r at *
  have atMost : k ≤ q + 1 := by
    by_contra above
    have above : q + 2 ≤ k := by omega
    have := Nat.mul_le_mul_right b above
    nlinarith
  have atLeast : q ≤ k := by
    by_contra below
    have below : k + 1 ≤ q := by omega
    have := Nat.mul_le_mul_right b below
    nlinarith
  have parity : k % 2 = 1 ∨ k % 2 = 0 := by omega
  dsimp only
  obtain rfl | rfl : k = q ∨ k = q + 1 := by omega
  · have half : 2 * r ≤ b := by nlinarith
    split
    · rfl
    · have tie : 2 * r = b := by omega
      rw [if_neg (by omega)]
      rcases parity with odd | even
      · obtain ⟨-, below⟩ := strict odd
        nlinarith
      · omega
  · have half : b ≤ 2 * r := by nlinarith
    rw [if_neg (by omega)]
    split
    · rfl
    · have tie : 2 * r = b := by omega
      rcases parity with odd | even
      · obtain ⟨above, -⟩ := strict odd
        nlinarith
      · omega

/-- A quotient that is at most half a unit away from a number, and less if that is odd, is rounded
to it. -/
theorem divNearest_eq {a b k : Nat} (positive : 0 < b) {y : ℚ} (quotient : (a : ℚ) = y * b)
    (low : k - 1 / 2 ≤ y) (high : y ≤ k + 1 / 2)
    (strict : k % 2 = 1 → k - 1 / 2 < y ∧ y < k + 1 / 2) : divNearest a b = k := by
  have unit : (0 : ℚ) < b := by exact_mod_cast positive
  have low : (2 * k * b : ℚ) ≤ 2 * a + b := by nlinarith
  have high : (2 * a : ℚ) ≤ (2 * k + 1) * b := by nlinarith
  refine divNearest_of_near positive (by exact_mod_cast low) (by exact_mod_cast high) ?_
  intro odd
  obtain ⟨above, below⟩ := strict odd
  have above : (2 * k * b : ℚ) < 2 * a + b := by nlinarith
  have below : (2 * a : ℚ) < (2 * k + 1) * b := by nlinarith
  exact ⟨by exact_mod_cast above, by exact_mod_cast below⟩

namespace Binary64

/-! ## Powers -/

theorem powerRatio_eq {base : Nat} (positive : 0 < base) (exponent : Int) :
    ((powerRatio base exponent).1 : ℚ) = base ^ exponent * (powerRatio base exponent).2 := by
  have nonzero : (base : ℚ) ≠ 0 := by exact_mod_cast positive.ne'
  unfold powerRatio
  split
  · rename_i nonneg
    obtain ⟨n, rfl⟩ := Int.eq_ofNat_of_zero_le nonneg
    simp
  · rename_i negative
    obtain ⟨n, same⟩ := Int.eq_ofNat_of_zero_le (a := -exponent) (by omega)
    obtain rfl : exponent = -(n : Int) := by omega
    simp [nonzero]

theorem powerRatio_div {base : Nat} (positive : 0 < base) (exponent : Int) :
    ((powerRatio base exponent).1 / (powerRatio base exponent).2 : ℚ) = base ^ exponent := by
  have den_pos : (0 : ℚ) < (powerRatio base exponent).2 := by
    exact_mod_cast (powerRatio_pos positive exponent).2
  rw [powerRatio_eq positive, mul_div_cancel_right₀ _ den_pos.ne']

section

variable (k num : Nat) {den p q : Nat} {r : ℚ}

/-- Ratios are compared by products. -/
theorem mul_le_ratio_iff (den_pos : 0 < den) (q_pos : 0 < q) (ratio : (p : ℚ) = r * q) :
    k * (den * p) ≤ num * q ↔ k * r ≤ (num / den : ℚ) := by
  have den_pos : (0 : ℚ) < den := by exact_mod_cast den_pos
  have q_pos : (0 : ℚ) < q := by exact_mod_cast q_pos
  have cast : k * (den * p) ≤ num * q ↔ (k * r * den) * q ≤ (num * q : ℚ) := by
    rw [mul_assoc, mul_assoc, mul_left_comm r, ← ratio]
    exact_mod_cast Iff.rfl
  rw [cast, mul_le_mul_iff_left₀ q_pos, le_div_iff₀ den_pos]

theorem ratio_le_mul_iff (den_pos : 0 < den) (q_pos : 0 < q) (ratio : (p : ℚ) = r * q) :
    num * q ≤ k * (den * p) ↔ (num / den : ℚ) ≤ k * r := by
  have den_pos : (0 : ℚ) < den := by exact_mod_cast den_pos
  have q_pos : (0 : ℚ) < q := by exact_mod_cast q_pos
  have cast : num * q ≤ k * (den * p) ↔ (num * q : ℚ) ≤ (k * r * den) * q := by
    rw [mul_assoc (k * r), mul_assoc (k : ℚ), mul_left_comm r, ← ratio]
    exact_mod_cast Iff.rfl
  rw [cast, mul_le_mul_iff_left₀ q_pos, div_le_iff₀ den_pos]

end

theorem two_zpow_pos (n : Int) : (0 : ℚ) < 2 ^ n := zpow_pos (by norm_num) n

theorem two_zpow_le {m n : Int} (le : m ≤ n) : (2 : ℚ) ^ m ≤ 2 ^ n :=
  zpow_le_zpow_right₀ (by norm_num) le

theorem lt_of_two_zpow_lt {m n : Int} (less : (2 : ℚ) ^ m < 2 ^ n) : m < n :=
  (zpow_lt_zpow_iff_right₀ (by norm_num)).mp less

theorem two_zpow_add (m n : Int) : (2 : ℚ) ^ (m + n) = 2 ^ m * 2 ^ n :=
  zpow_add₀ (by norm_num) m n

theorem two_zpow_double (n : Int) : (2 : ℚ) ^ n = 2 * 2 ^ (n - 1) := by
  rw [← zpow_one_add₀ (by norm_num), add_sub_cancel]

/-- A natural number lies between the power of two of its logarithm and the next. -/
theorem log2_bounds {n : Nat} (positive : 0 < n) :
    (2 : ℚ) ^ (n.log2 : Int) ≤ n ∧ (n : ℚ) < 2 ^ ((n.log2 : Int) + 1) := by
  have low : 2 ^ n.log2 ≤ n := Nat.log2_self_le positive.ne'
  have high : n < 2 ^ (n.log2 + 1) := Nat.lt_log2_self
  constructor
  · rw [zpow_natCast]
    exact_mod_cast low
  · have cast : ((n.log2 : Int) + 1) = ((n.log2 + 1 : Nat) : Int) := by push_cast; rfl
    rw [cast, zpow_natCast]
    exact_mod_cast high

/-- A ratio lies between the power of two of its binade and the next. -/
theorem binade_bounds {num den : Nat} (num_pos : 0 < num) (den_pos : 0 < den) :
    (2 : ℚ) ^ binade num den ≤ num / den ∧ (num / den : ℚ) < 2 ^ (binade num den + 1) := by
  obtain ⟨numLow, numHigh⟩ := log2_bounds num_pos
  obtain ⟨denLow, denHigh⟩ := log2_bounds den_pos
  have unit : (0 : ℚ) < den := by exact_mod_cast den_pos
  set guess : Int := (num.log2 : Int) - den.log2 with isGuess
  have below : (num / den : ℚ) < 2 ^ (guess + 1) := by
    rw [div_lt_iff₀ unit]
    refine numHigh.trans_le ?_
    have split : (num.log2 : Int) + 1 = (guess + 1) + den.log2 := by omega
    rw [split, two_zpow_add]
    exact mul_le_mul_of_nonneg_left denLow (two_zpow_pos _).le
  have above : (2 : ℚ) ^ (guess - 1) ≤ num / den := by
    rw [le_div_iff₀ unit]
    refine le_trans ?_ numLow
    have split : (num.log2 : Int) = (guess - 1) + ((den.log2 : Int) + 1) := by omega
    rw [split, two_zpow_add]
    exact mul_le_mul_of_nonneg_left denHigh.le (two_zpow_pos _).le
  have reached_iff : (powerRatio 2 guess).1 * den ≤ num * (powerRatio 2 guess).2 ↔
      (2 : ℚ) ^ guess ≤ num / den := by
    have compare := mul_le_ratio_iff 1 num den_pos
      (powerRatio_pos (by decide) guess).2 (powerRatio_eq (show 0 < 2 by decide) guess)
    rw [Nat.one_mul, Nat.cast_one, one_mul, Nat.mul_comm den] at compare
    exact compare
  unfold binade
  dsimp only
  rw [← isGuess]
  split
  · rename_i reached
    exact ⟨reached_iff.mp reached, below⟩
  · rename_i missed
    refine ⟨above, ?_⟩
    rw [sub_add_cancel]
    exact lt_of_not_ge (reached_iff.not.mp missed)

/-! ## Numbers of the format -/

namespace Scaled

variable {s : Scaled}

def value (s : Scaled) : ℚ := s.mantissa * 2 ^ s.place

/-- A positive number of the format, on the binary grid of its size. -/
structure Proper (s : Scaled) : Prop where
  positive : 0 < s.mantissa
  small : s.mantissa < 2 ^ 53
  least : minExponent ≤ s.place
  full : s.place = minExponent ∨ 2 ^ 52 ≤ s.mantissa
  bounded : s.value < (Nat.pow 2 1024 : Nat)

/-- The least number that is read as this one, in quarters of a place. -/
def lowQuarter (s : Scaled) : Nat :=
  if s.mantissa = Nat.pow 2 52 && s.place ≠ minExponent then 4 * s.mantissa - 1
  else 4 * s.mantissa - 2

/-- Whether a number is read as this one: it lies within half a place, the ends included for an even
mantissa. -/
def Covers (s : Scaled) (y : ℚ) : Prop :=
  if s.mantissa % 2 = 0 then
    s.lowQuarter * 2 ^ (s.place - 2) ≤ y ∧ y ≤ (4 * s.mantissa + 2) * 2 ^ (s.place - 2)
  else s.lowQuarter * 2 ^ (s.place - 2) < y ∧ y < (4 * s.mantissa + 2) * 2 ^ (s.place - 2)

theorem reads_iff {num den : Nat} (den_pos : 0 < den) :
    s.reads num den = true ↔ s.Covers (num / den) := by
  have ratio := powerRatio_eq (show 0 < 2 by decide) (s.place - 2)
  have q_pos := (powerRatio_pos (show 0 < 2 by decide) (s.place - 2)).2
  have low := mul_le_ratio_iff s.lowQuarter num den_pos q_pos ratio
  have belowLow := ratio_le_mul_iff s.lowQuarter num den_pos q_pos ratio
  have high := ratio_le_mul_iff (4 * s.mantissa + 2) num den_pos q_pos ratio
  have aboveHigh := mul_le_ratio_iff (4 * s.mantissa + 2) num den_pos q_pos ratio
  push_cast at low belowLow high aboveHigh
  unfold reads Covers
  dsimp only
  change (if s.mantissa % 2 = 0 then decide (s.lowQuarter * _ ≤ _) && _
    else decide (s.lowQuarter * _ < _) && _) = true ↔ _
  split
  · rw [Bool.and_eq_true, decide_eq_true_eq, decide_eq_true_eq, low, high]
  · rw [Bool.and_eq_true, decide_eq_true_eq, decide_eq_true_eq, ← not_le, ← not_le, ← not_le,
      ← not_le, belowLow, aboveHigh]

/-- What is read as a number is at most half a place away, and less if its mantissa is odd. -/
theorem Covers.bounds (proper : s.Proper) {y : ℚ} (covers : s.Covers y) :
    (s.mantissa - 1 / 2) * 2 ^ s.place ≤ y ∧ y ≤ (s.mantissa + 1 / 2) * 2 ^ s.place ∧
      (s.mantissa % 2 = 1 →
        (s.mantissa - 1 / 2) * 2 ^ s.place < y ∧ y < (s.mantissa + 1 / 2) * 2 ^ s.place) := by
  have positive := proper.positive
  have quarter : (2 : ℚ) ^ s.place = 4 * 2 ^ (s.place - 2) := by
    have split : s.place = 2 + (s.place - 2) := by omega
    rw [split, two_zpow_add]
    norm_num
  have low : 4 * (s.mantissa : ℚ) - 2 ≤ s.lowQuarter := by
    have low : 4 * s.mantissa ≤ s.lowQuarter + 2 := by
      unfold lowQuarter
      split <;> omega
    have low : (4 * s.mantissa : ℚ) ≤ s.lowQuarter + 2 := by exact_mod_cast low
    linarith
  have unit := two_zpow_pos (s.place - 2)
  have low := mul_le_mul_of_nonneg_right low unit.le
  rw [quarter]
  unfold Covers at covers
  split at covers
  · refine ⟨by linarith [covers.1], by linarith [covers.2], fun odd => by omega⟩
  · have below : (s.mantissa - 1 / 2) * (4 * 2 ^ (s.place - 2)) < y := by linarith [covers.1]
    have above : y < (s.mantissa + 1 / 2) * (4 * 2 ^ (s.place - 2)) := by linarith [covers.2]
    exact ⟨below.le, above.le, fun _ => ⟨below, above⟩⟩

/-- A number of the format stands on the grid that belongs to the binade of each number between the
powers of two around its own. -/
theorem Proper.place_eq (proper : s.Proper) {y : ℚ} {b : Int} (low : 2 ^ b ≤ y)
    (high : y < 2 ^ (b + 1)) (above : y < 2 ^ (s.place + 53))
    (below : s.place = minExponent ∨ 2 ^ (s.place + 52) ≤ y) :
    max (b - 52) minExponent = s.place := by
  have atMost : b < s.place + 53 := lt_of_two_zpow_lt (low.trans_lt above)
  have least := proper.least
  rcases below with least' | below
  · omega
  · have atLeast : s.place + 52 < b + 1 := lt_of_two_zpow_lt (below.trans_lt high)
    omega

/-- The number next to a ratio, on the grid that belongs to it. -/
def nearest (num den : Nat) : Scaled :=
  let (p, q) := powerRatio 2 (placeExponent num den)
  ⟨divNearest (num * q) (den * p), placeExponent num den⟩

/-- The floating point number with this value and a sign. -/
def toBinary64 (negative : Bool) (s : Scaled) : Binary64 :=
  .finite (Dyadic.ofIntWithPrec (signedInt negative s.mantissa) (-s.place))

section

variable {num den : Nat}

/-- A ratio in units of the place it is rounded to. -/
theorem nearest_quotient (num : Nat) (den_pos : 0 < den) :
    ∃ a b : Nat, 0 < b ∧ (nearest num den).mantissa = divNearest a b ∧
      (a : ℚ) = num / den / 2 ^ (nearest num den).place * b := by
  have den_ne : (den : ℚ) ≠ 0 := by exact_mod_cast den_pos.ne'
  obtain ⟨p_pos, q_pos⟩ := powerRatio_pos (show 0 < 2 by decide) (placeExponent num den)
  have ratio := powerRatio_eq (show 0 < 2 by decide) (placeExponent num den)
  have unit := (two_zpow_pos (placeExponent num den)).ne'
  refine ⟨_, _, Nat.mul_pos den_pos p_pos, rfl, ?_⟩
  change ((num * (powerRatio 2 (placeExponent num den)).2 : Nat) : ℚ) =
    num / den / 2 ^ placeExponent num den *
      ((den * (powerRatio 2 (placeExponent num den)).1 : Nat) : ℚ)
  push_cast at ratio ⊢
  rw [ratio]
  field_simp

theorem nearest_place : (nearest num den).place = max (binade num den - 52) minExponent := rfl

/-- A ratio is rounded to a mantissa that is at most half a unit away, and less if that is odd. -/
theorem nearest_eq {place : Int} {m : Nat} (den_pos : 0 < den)
    (samePlace : (nearest num den).place = place) (low : (m - 1 / 2) * 2 ^ place ≤ (num / den : ℚ))
    (high : (num / den : ℚ) ≤ (m + 1 / 2) * 2 ^ place)
    (strict : m % 2 = 1 → (m - 1 / 2) * 2 ^ place < (num / den : ℚ) ∧
      (num / den : ℚ) < (m + 1 / 2) * 2 ^ place) : nearest num den = ⟨m, place⟩ := by
  obtain ⟨a, b, b_pos, mantissa, quotient⟩ := nearest_quotient num den_pos
  rw [samePlace] at quotient
  have unit := two_zpow_pos place
  have rounded : divNearest a b = m := by
    refine divNearest_eq b_pos quotient ((le_div_iff₀ unit).mpr low) ((div_le_iff₀ unit).mpr high)
      fun odd => ?_
    exact ⟨(lt_div_iff₀ unit).mpr (strict odd).1, (div_lt_iff₀ unit).mpr (strict odd).2⟩
  calc nearest num den = ⟨(nearest num den).mantissa, (nearest num den).place⟩ := rfl
    _ = ⟨m, place⟩ := by rw [mantissa, rounded, samePlace]

/-- Of the numbers with a place of their own, only a power of two is read below its binade, and then
from a ratio at most half a unit of the finer grid there away. -/
theorem Covers.below (proper : s.Proper) {y : ℚ} (covers : s.Covers y)
    (coarse : s.place ≠ minExponent) (below : y < 2 ^ (s.place + 52)) :
    s.mantissa = 2 ^ 52 ∧ (2 ^ 53 - 1 / 2) * 2 ^ (s.place - 1) ≤ y := by
  have mantissa : s.mantissa = 2 ^ 52 := by
    have full := proper.full.resolve_left coarse
    have close := (covers.bounds proper).1.trans_lt below
    rw [add_comm, two_zpow_add, mul_lt_mul_iff_left₀ (two_zpow_pos s.place)] at close
    norm_num at close
    have close : (s.mantissa : ℚ) < 2 ^ 52 + 1 := by linarith
    have close : s.mantissa < 2 ^ 52 + 1 := by exact_mod_cast close
    omega
  have even : s.mantissa % 2 = 0 := by rw [mantissa]; rfl
  have quarter : s.lowQuarter = 2 ^ 54 - 1 := by simp [lowQuarter, mantissa, coarse]
  have half : (2 : ℚ) ^ (s.place - 1) = 2 * 2 ^ (s.place - 2) := by
    rw [two_zpow_double, sub_sub]
    norm_num
  refine ⟨mantissa, ?_⟩
  rw [Covers, if_pos even, quarter] at covers
  have atLeast := covers.1
  rw [half]
  norm_num at atLeast ⊢
  linarith

/-- A ratio just below a power of two is read as that power: it is rounded to it on the finer grid
of the binade below. -/
theorem nearest_below (proper : s.Proper) (num_pos : 0 < num) (den_pos : 0 < den)
    (covers : s.Covers (num / den)) (coarse : s.place ≠ minExponent)
    (below : (num / den : ℚ) < 2 ^ (s.place + 52)) :
    s.mantissa = 2 ^ 52 ∧ nearest num den = ⟨2 ^ 53, s.place - 1⟩ := by
  obtain ⟨low, high⟩ := binade_bounds num_pos den_pos
  obtain ⟨mantissa, near⟩ := covers.below proper coarse below
  have finer : (nearest num den).place = s.place - 1 := by
    have least := proper.least
    have atMost : binade num den < s.place + 52 := lt_of_two_zpow_lt (low.trans_lt below)
    have atLeast : s.place + 51 < binade num den + 1 := by
      refine lt_of_two_zpow_lt (lt_of_le_of_lt ?_ high)
      have split : s.place + 51 = 52 + (s.place - 1) := by omega
      rw [split, two_zpow_add]
      refine le_trans ?_ near
      have unit := two_zpow_pos (s.place - 1)
      norm_num
      nlinarith
    rw [nearest_place]
    omega
  refine ⟨mantissa, nearest_eq den_pos finer (by exact_mod_cast near) ?_ fun odd => ?_⟩
  · rw [add_comm, two_zpow_add, two_zpow_double s.place] at below
    have unit := two_zpow_pos (s.place - 1)
    norm_num at below ⊢
    nlinarith
  · exact absurd odd (by decide)

/-- A ratio that is read as a number is rounded to it. -/
theorem nearest_covered (proper : s.Proper) (num_pos : 0 < num) (den_pos : 0 < den)
    (covers : s.Covers (num / den)) : (nearest num den).value = s.value := by
  have unit := two_zpow_pos s.place
  by_cases own : s.place = minExponent ∨ 2 ^ (s.place + 52) ≤ (num / den : ℚ)
  · obtain ⟨low, high⟩ := binade_bounds num_pos den_pos
    obtain ⟨closeLow, closeHigh, strict⟩ := covers.bounds proper
    have above : (num / den : ℚ) < 2 ^ (s.place + 53) := by
      have small : (s.mantissa : ℚ) + 1 ≤ 2 ^ 53 := by exact_mod_cast proper.small
      rw [add_comm, two_zpow_add]
      refine closeHigh.trans_lt ((mul_lt_mul_iff_left₀ unit).mpr ?_)
      norm_num at small ⊢
      linarith
    have samePlace := nearest_place.trans (proper.place_eq low high above own)
    rw [nearest_eq den_pos samePlace closeLow closeHigh strict]
  · obtain ⟨coarse, below⟩ := not_or.mp own
    obtain ⟨mantissa, rounded⟩ := nearest_below proper num_pos den_pos covers coarse
      (not_le.mp below)
    rw [rounded, value, value, mantissa, two_zpow_double s.place]
    norm_num
    ring

/-- A ratio is rounded to a mantissa of at most 53 bits or to a power of two, and to one of 53 bits
unless it is on the finest grid. -/
theorem nearest_mantissa (num_pos : 0 < num) (den_pos : 0 < den) :
    (nearest num den).mantissa ≤ 2 ^ 53 ∧
      ((nearest num den).place = minExponent ∨ 2 ^ 52 ≤ (nearest num den).mantissa) := by
  obtain ⟨a, b, b_pos, mantissa, quotient⟩ := nearest_quotient num den_pos
  obtain ⟨low, high⟩ := binade_bounds num_pos den_pos
  have place := @nearest_place num den
  obtain ⟨roundLow, roundHigh⟩ := divNearest_bounds (a := a) b_pos
  rw [← mantissa] at roundLow roundHigh
  set s := nearest num den
  have unit := two_zpow_pos s.place
  have b_pos' : (0 : ℚ) < b := by exact_mod_cast b_pos
  constructor
  · have below : (num / den / 2 ^ s.place : ℚ) < 2 ^ 53 := by
      have reach : binade num den + 1 ≤ 53 + s.place := by omega
      have below := high.trans_le (two_zpow_le reach)
      rw [two_zpow_add] at below
      rw [div_lt_iff₀ unit]
      exact_mod_cast below
    have below : (a : ℚ) < 2 ^ 53 * b := quotient ▸ mul_lt_mul_of_pos_right below b_pos'
    have below : a < 2 ^ 53 * b := by exact_mod_cast below
    by_contra above
    have := Nat.mul_le_mul_right b (Nat.not_le.mp above)
    nlinarith
  · refine or_iff_not_imp_left.mpr fun coarse => ?_
    have reach : 52 + s.place ≤ binade num den := by omega
    have above := (two_zpow_le reach).trans low
    rw [two_zpow_add, ← le_div_iff₀ unit] at above
    have above : (2 ^ 52 * b : ℚ) ≤ a :=
      quotient ▸ mul_le_mul_of_nonneg_right (by exact_mod_cast above) b_pos'.le
    have above : 2 ^ 52 * b ≤ a := by exact_mod_cast above
    by_contra below
    have := Nat.mul_le_mul_right b (Nat.not_le.mp below)
    nlinarith

/-- A ratio is rounded to zero, to a number of the format, or beyond all of them. -/
theorem nearest_cases (num_pos : 0 < num) (den_pos : 0 < den) :
    (nearest num den).mantissa = 0 ∨ ((Nat.pow 2 1024 : Nat) : ℚ) ≤ (nearest num den).value ∨
      ∃ s : Scaled, s.Proper ∧ s.value = (nearest num den).value := by
  obtain ⟨atMost, atLeast⟩ := nearest_mantissa num_pos den_pos
  have place := @nearest_place num den
  set s := nearest num den
  by_cases zero : s.mantissa = 0
  · exact .inl zero
  by_cases beyond : ((Nat.pow 2 1024 : Nat) : ℚ) ≤ s.value
  · exact .inr (.inl beyond)
  refine .inr (.inr ?_)
  rcases Nat.lt_or_eq_of_le atMost with less | full
  · exact ⟨s, ⟨Nat.pos_of_ne_zero zero, less, by omega, atLeast, not_le.mp beyond⟩, rfl⟩
  · -- a mantissa that was rounded up to a power of two moves to the next grid
    have same : (⟨2 ^ 52, s.place + 1⟩ : Scaled).value = s.value := by
      rw [value, value, full, two_zpow_add]
      norm_num
      ring
    exact ⟨_, ⟨by norm_num, by norm_num, by dsimp only; omega, .inr le_rfl,
      same ▸ not_le.mp beyond⟩, same⟩

end

/-- Numbers of one value are one floating point number. -/
theorem toBinary64_eq {s s' : Scaled} (same : s.value = s'.value) (negative : Bool) :
    s.toBinary64 negative = s'.toBinary64 negative := by
  refine congrArg Binary64.finite (Dyadic.toRat_inj.mp ?_)
  rw [Dyadic.toRat_ofIntWithPrec_eq_mul_two_pow, Dyadic.toRat_ofIntWithPrec_eq_mul_two_pow, neg_neg,
    neg_neg]
  unfold value at same
  cases negative <;> simp [signedInt, same]

end Scaled

section

variable {negative : Bool} {num den : Nat}

/-- The zero with a sign. -/
def signedZero (negative : Bool) : Binary64 := if negative then .negativeZero else .finite 0

/-- Rounding finds the nearest number on the grid, unless that is beyond the format. -/
theorem ofRatio_eq (num_pos : 0 < num) :
    ofRatio negative num den =
      if (Scaled.nearest num den).mantissa = 0 then signedZero negative
      else if ((Nat.pow 2 1024 : Nat) : ℚ) ≤ (Scaled.nearest num den).value then .infinite negative
      else (Scaled.nearest num den).toBinary64 negative := by
  obtain ⟨-, q_pos⟩ := powerRatio_pos (show 0 < 2 by decide) (placeExponent num den)
  have ratio := powerRatio_div (show 0 < 2 by decide) (placeExponent num den)
  push_cast at ratio
  unfold ofRatio
  generalize Nat.pow 2 1024 = limit
  have overflow : limit ≤ (Scaled.nearest num den).mantissa *
      (powerRatio 2 (placeExponent num den)).1 / (powerRatio 2 (placeExponent num den)).2 ↔
        (limit : ℚ) ≤ (Scaled.nearest num den).value := by
    have q_pos' : (0 : ℚ) < (powerRatio 2 (placeExponent num den)).2 := by exact_mod_cast q_pos
    have place : (Scaled.nearest num den).place = placeExponent num den := rfl
    rw [Nat.le_div_iff_mul_le q_pos, Scaled.value, place, ← ratio, mul_div_assoc',
      le_div_iff₀ q_pos']
    exact_mod_cast Iff.rfl
  rw [if_neg num_pos.ne']
  exact if_congr Iff.rfl rfl (if_congr overflow rfl rfl)

/-- A ratio that is read as a number is rounded to it. -/
theorem ofRatio_covered {s : Scaled} (proper : s.Proper) (num_pos : 0 < num) (den_pos : 0 < den)
    (covers : s.Covers (num / den)) : ofRatio negative num den = s.toBinary64 negative := by
  have same := Scaled.nearest_covered proper num_pos den_pos covers
  have positive : 0 < s.value :=
    mul_pos (by exact_mod_cast proper.positive) (two_zpow_pos s.place)
  have nonzero : (Scaled.nearest num den).mantissa ≠ 0 := by
    intro zero
    rw [← same, Scaled.value, zero] at positive
    simp at positive
  rw [ofRatio_eq num_pos, if_neg nonzero, if_neg (same ▸ not_le.mpr proper.bounded),
    Scaled.toBinary64_eq same]

/-- What rounding gives: a zero, an infinity, or a number of the format. -/
theorem ofRatio_cases (negative : Bool) (num : Nat) (den_pos : 0 < den) :
    ofRatio negative num den = signedZero negative ∨ ofRatio negative num den = .infinite negative ∨
      ∃ s : Scaled, s.Proper ∧ ofRatio negative num den = s.toBinary64 negative := by
  rcases Nat.eq_zero_or_pos num with rfl | num_pos
  · exact .inl rfl
  rw [ofRatio_eq num_pos]
  split
  · exact .inl rfl
  rename_i nonzero
  split
  · exact .inr (.inl rfl)
  rename_i within
  rcases Scaled.nearest_cases num_pos den_pos with zero | beyond | ⟨s, proper, same⟩
  · exact absurd zero nonzero
  · exact absurd beyond within
  · exact .inr (.inr ⟨s, proper, Scaled.toBinary64_eq same.symm negative⟩)

end

end Binary64
end ServiceClient
