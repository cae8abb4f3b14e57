import Mathlib.Algebra.Order.Field.Power
import Mathlib.Algebra.Order.Ring.Abs
import Mathlib.Data.Rat.Cast.Order
import Mathlib.Tactic.Linarith
import Mathlib.Tactic.NormNum
import Mathlib.Tactic.Positivity
import Mathlib.Tactic.Ring
import MapStyle.Number.Binary64

/-!
# Rounding to doubles

The double that is made of a quotient or a decimal is the nearest one of all doubles, or an infinity
from a certain magnitude on.  Halfway between two doubles it is the one with an even mantissa.

* `Binary64.RoundsTo` says what it is to be the double nearest to a magnitude, and
  `Binary64.IsNearest.unique` that there is only one.
* `Binary64.ofRatio_rounds` and `Binary64.ofDecimal_rounds` say that the two ways to make a double
  give that one.
* `Binary64.toInt?_eq_some_iff` says when a double denotes an integer.
-/

namespace MapStyle.Binary64

/-! ## Doubles as rational numbers -/

/-- A magnitude in units of a power of two. -/
def magnitude (mantissa : Nat) (exponent : Int) : ℚ := mantissa * 2 ^ exponent

/-- The magnitudes that finite doubles have. -/
structure IsDouble (mantissa : Nat) (exponent : Int) : Prop where
  mantissa : mantissa < 2 ^ 53
  least : -1074 ≤ exponent
  greatest : exponent ≤ 971

/-- The magnitude from which on an infinity is nearest: it is halfway between the greatest double
and the power of two that would be next. -/
def overflowBound : ℚ := magnitude (2 ^ 54 - 1) 970

/-- A mantissa has all its binary digits, unless no smaller units are left. -/
def IsFilled (mantissa : Nat) (exponent : Int) : Prop := exponent = -1074 ∨ 2 ^ 52 ≤ mantissa

/-- The finite double whose magnitude is nearest to a number: no other one is nearer, and if another
one is as near, the mantissa of this one is even. -/
structure IsNearest (x : ℚ) (mantissa : Nat) (exponent : Int) : Prop where
  double : IsDouble mantissa exponent
  filled : IsFilled mantissa exponent
  nearest : ∀ m e, IsDouble m e → |x - magnitude mantissa exponent| ≤ |x - magnitude m e|
  even : ∀ m e, IsDouble m e → |x - magnitude m e| = |x - magnitude mantissa exponent| →
    magnitude m e ≠ magnitude mantissa exponent → mantissa % 2 = 0

/-- The double with a sign that is nearest to a magnitude. -/
inductive RoundsTo (negative : Bool) (x : ℚ) : Binary64 → Prop
  | infinite : overflowBound ≤ x → RoundsTo negative x (.infinite negative)
  | finite {mantissa : Nat} {exponent : Int} : x < overflowBound → IsNearest x mantissa exponent →
    RoundsTo negative x (.finite negative mantissa exponent)

/-! ## The nearest natural number -/

/-- Two integers are at least one apart. -/
theorem one_le_distances (x : ℚ) {n k : ℤ} (other : k ≠ n) : 1 ≤ |x - n| + |x - k| := by
  have apart : (1 : ℤ) ≤ |n - k| := by
    have := abs_pos.mpr (sub_ne_zero.mpr other.symm)
    omega
  have apart' : (1 : ℚ) ≤ |(n : ℚ) - k| := by exact_mod_cast apart
  have around := abs_sub_le (n : ℚ) x k
  rw [abs_sub_comm (n : ℚ) x] at around
  exact apart'.trans around

/-- No integer is nearer than one that is at most a half away. -/
theorem nearest_of_half {x : ℚ} {n : ℤ} (half : |x - n| ≤ 1 / 2) (k : ℤ) : |x - n| ≤ |x - k| := by
  by_cases same : k = n
  · rw [same]
  · have apart := one_le_distances x same
    linarith

/-- Another integer is as near only halfway between the two. -/
theorem eq_half_of_same {x : ℚ} {n k : ℤ} (half : |x - n| ≤ 1 / 2) (other : k ≠ n)
    (same : |x - k| = |x - n|) : |x - n| = 1 / 2 := by
  have apart := one_le_distances x other
  linarith

section Division

variable {n d c : Nat}

/-- A quotient is rounded down or up, whichever is nearer, and to the even number halfway. -/
theorem divNearestEven_cases (n : Nat) (pos : 0 < d) :
    ∃ q r, n = d * q + r ∧ r < d ∧
      (divNearestEven n d = q ∧ (2 * r < d ∨ 2 * r = d ∧ q % 2 = 0) ∨
        divNearestEven n d = q + 1 ∧ (d < 2 * r ∨ 2 * r = d ∧ q % 2 = 1)) := by
  refine ⟨n / d, n % d, (Nat.div_add_mod n d).symm, Nat.mod_lt n pos, ?_⟩
  unfold divNearestEven
  dsimp only
  split_ifs <;> omega

theorem divNearestEven_bounds (n : Nat) (pos : 0 < d) :
    2 * n ≤ (2 * divNearestEven n d + 1) * d ∧ 2 * divNearestEven n d * d ≤ 2 * n + d := by
  obtain ⟨q, r, rfl, small, ⟨rounded, near⟩ | ⟨rounded, near⟩⟩ := divNearestEven_cases n pos
  · rw [rounded]
    have low : 2 * r ≤ d := by omega
    constructor <;> linarith
  · rw [rounded]
    have high : d ≤ 2 * r := by omega
    constructor <;> linarith

/-- The rounded quotient is at most a half away. -/
theorem abs_sub_divNearestEven_le (n : Nat) (pos : 0 < d) :
    |(n : ℚ) / d - (divNearestEven n d : ℤ)| ≤ 1 / 2 := by
  obtain ⟨above, below⟩ := divNearestEven_bounds n pos
  have pos' : (0 : ℚ) < d := by exact_mod_cast pos
  have above' : 2 * ((n : ℚ) / d) ≤ 2 * divNearestEven n d + 1 := by
    rw [← mul_div_assoc, div_le_iff₀ pos']
    exact_mod_cast above
  have below' : (2 * divNearestEven n d : ℚ) ≤ 2 * (n / d) + 1 := by
    rw [← mul_div_assoc, ← div_self pos'.ne', ← add_div, le_div_iff₀ pos']
    exact_mod_cast below
  rw [Int.cast_natCast, abs_le]
  constructor <;> linarith

/-- Halfway between two numbers the even one is taken. -/
theorem divNearestEven_even (pos : 0 < d)
    (halfway : 2 * n = (2 * divNearestEven n d + 1) * d ∨ 2 * divNearestEven n d * d = 2 * n + d) :
    divNearestEven n d % 2 = 0 := by
  obtain ⟨q, r, rfl, small, ⟨rounded, near⟩ | ⟨rounded, near⟩⟩ := divNearestEven_cases n pos
  · rw [rounded] at halfway ⊢
    have middle : 2 * r = d ∨ 2 * r + d = 0 :=
      halfway.imp (fun up => by linarith) (fun down => by linarith)
    omega
  · rw [rounded] at halfway ⊢
    have middle : 2 * r = 3 * d ∨ 2 * r = d :=
      halfway.imp (fun up => by linarith) (fun down => by linarith)
    omega

theorem divNearestEven_even_of_half (pos : 0 < d)
    (half : |(n : ℚ) / d - (divNearestEven n d : ℤ)| = 1 / 2) : divNearestEven n d % 2 = 0 := by
  have pos' : (d : ℚ) ≠ 0 := by exact_mod_cast pos.ne'
  have scaled : (n : ℚ) / d * d = n := div_mul_cancel₀ _ pos'
  refine divNearestEven_even pos ?_
  rw [Int.cast_natCast] at half
  rcases eq_or_eq_neg_of_abs_eq half with up | down
  · left
    have whole : (2 * n : ℚ) = (2 * divNearestEven n d + 1) * d := by
      rw [← scaled, sub_eq_iff_eq_add.mp up]
      ring
    exact_mod_cast whole
  · right
    have whole : (2 * divNearestEven n d * d : ℚ) = 2 * n + d := by
      rw [← scaled, sub_eq_iff_eq_add.mp down]
      ring
    exact_mod_cast whole

/-- From an odd number a quotient is rounded up as soon as it is halfway to the next one. -/
theorem lt_divNearestEven_iff (odd : c % 2 = 1) (pos : 0 < d) :
    c < divNearestEven n d ↔ (2 * c + 1) * d ≤ 2 * n := by
  obtain ⟨q, r, rfl, small, rounded⟩ := divNearestEven_cases n pos
  have odds : (2 * c + 1) * d = 2 * (d * c) + d := by ring
  rw [odds]
  rcases Nat.lt_trichotomy c q with less | rfl | more
  · have room : d * (c + 1) ≤ d * q := Nat.mul_le_mul_left d less
    rw [Nat.mul_succ] at room
    exact iff_of_true (by omega) (by omega)
  · omega
  · have room : d * (q + 1) ≤ d * c := Nat.mul_le_mul_left d more
    rw [Nat.mul_succ] at room
    exact iff_of_false (by omega) (by omega)

end Division

/-! ## Powers -/

theorem zpow_of_neg (base : ℚ) {e : Int} (negative : e < 0) : base ^ e = (base ^ e.natAbs)⁻¹ := by
  obtain ⟨k, rfl⟩ : ∃ k : Nat, e = -k := ⟨e.natAbs, by omega⟩
  rw [zpow_neg, zpow_natCast, Int.natAbs_neg, Int.natAbs_natCast]

theorem zpow_of_not_neg (base : ℚ) {e : Int} (natural : ¬ e < 0) : base ^ e = base ^ e.natAbs := by
  obtain ⟨k, rfl⟩ : ∃ k : Nat, e = k := ⟨e.natAbs, by omega⟩
  rw [zpow_natCast, Int.natAbs_natCast]

section Units

variable {n d : Nat}

/-- A quotient in units of a power of two is a quotient again. -/
theorem mantissaAt_eq (n : Nat) (pos : 0 < d) (e : Int) :
    ∃ n' d', 0 < d' ∧ mantissaAt n d e = divNearestEven n' d' ∧
      (n' : ℚ) / d' = (n : ℚ) / d / 2 ^ e := by
  by_cases negative : e < 0
  · refine ⟨n * 2 ^ e.natAbs, d, pos, if_pos negative, ?_⟩
    rw [zpow_of_neg 2 negative, div_inv_eq_mul, Nat.cast_mul, Nat.cast_pow, Nat.cast_ofNat,
      mul_div_right_comm]
  · refine ⟨n, d * 2 ^ e.natAbs, Nat.mul_pos pos (Nat.two_pow_pos _), if_neg negative, ?_⟩
    rw [zpow_of_not_neg 2 negative, div_div, Nat.cast_mul, Nat.cast_pow, Nat.cast_ofNat]

theorem reachesPower_iff (n : Nat) (pos : 0 < d) (k : Int) :
    reachesPower n d k = true ↔ (2 : ℚ) ^ k ≤ n / d := by
  have pos' : (0 : ℚ) < d := by exact_mod_cast pos
  have unit : (0 : ℚ) < 2 ^ k.natAbs := by positivity
  unfold reachesPower
  split_ifs with negative
  · have moved : d ≤ n * 2 ^ k.natAbs ↔ (2 : ℚ) ^ k ≤ n / d := by
      rw [zpow_of_neg 2 negative, le_div_iff₀ pos', inv_mul_le_iff₀ unit, mul_comm]
      exact_mod_cast Iff.rfl
    exact decide_eq_true_iff.trans moved
  · have moved : d * 2 ^ k.natAbs ≤ n ↔ (2 : ℚ) ^ k ≤ n / d := by
      rw [zpow_of_not_neg 2 negative, le_div_iff₀ pos', mul_comm]
      exact_mod_cast Iff.rfl
    exact decide_eq_true_iff.trans moved

/-- The power of two below a quotient. -/
theorem floorLog2_bounds (posN : 0 < n) (pos : 0 < d) :
    (2 : ℚ) ^ floorLog2 n d ≤ n / d ∧ (n : ℚ) / d < 2 ^ (floorLog2 n d + 1) := by
  have pos' : (0 : ℚ) < d := by exact_mod_cast pos
  have two : (2 : ℚ) ≠ 0 := by norm_num
  have belowN : (2 : ℚ) ^ (n.log2 : Int) ≤ n := by exact_mod_cast Nat.log2_self_le posN.ne'
  have aboveN : (n : ℚ) < 2 ^ ((n.log2 : Int) + 1) := by exact_mod_cast Nat.lt_log2_self
  have belowD : (2 : ℚ) ^ (d.log2 : Int) ≤ d := by exact_mod_cast Nat.log2_self_le pos.ne'
  have aboveD : (d : ℚ) < 2 ^ ((d.log2 : Int) + 1) := by exact_mod_cast Nat.lt_log2_self
  -- the two logarithms leave two candidates, of which one comparison picks the right one
  have low : (2 : ℚ) ^ ((n.log2 : Int) - d.log2 - 1) ≤ n / d := by
    rw [sub_sub, zpow_sub₀ two]
    exact div_le_div₀ n.cast_nonneg belowN pos' aboveD.le
  have high : (n : ℚ) / d < 2 ^ ((n.log2 : Int) - d.log2 + 1) := by
    rw [sub_add_eq_add_sub, zpow_sub₀ two]
    exact div_lt_div₀ aboveN belowD (by positivity) (by positivity)
  unfold floorLog2
  dsimp only
  split_ifs with reaches
  · exact ⟨(reachesPower_iff n pos _).mp reaches, high⟩
  · refine ⟨low, ?_⟩
    rw [reachesPower_iff n pos, not_le] at reaches
    rwa [sub_add_cancel]

end Units

/-! ## The nearest double -/

theorem magnitude_le_magnitude {m m' : Nat} (le : m ≤ m') (e : Int) :
    magnitude m e ≤ magnitude m' e :=
  mul_le_mul_of_nonneg_right (by exact_mod_cast le) (zpow_nonneg (by norm_num) e)

/-- A magnitude in smaller units. -/
theorem magnitude_add (m : Nat) (e : Int) (k : Nat) :
    magnitude m (e + k) = magnitude (m * 2 ^ k) e := by
  rw [magnitude, magnitude, zpow_add₀ (by norm_num), zpow_natCast, Nat.cast_mul, Nat.cast_pow,
    Nat.cast_ofNat]
  ring

theorem magnitude_two_pow (k : Nat) (e : Int) : magnitude (2 ^ k) e = 2 ^ ((k : Int) + e) := by
  rw [magnitude, zpow_add₀ (by norm_num), zpow_natCast, Nat.cast_pow, Nat.cast_ofNat]

theorem lt_of_magnitude_lt {m m' : Nat} {e : Int} (less : magnitude m e < magnitude m' e) :
    m < m' := by
  by_contra notLess
  exact absurd less (not_lt.mpr (magnitude_le_magnitude (not_lt.mp notLess) e))

/-- A double in smaller units lies below those with all their digits. -/
theorem magnitude_le_of_lt {m : Nat} {e e' : Int} (double : IsDouble m e') (coarser : e' < e) :
    magnitude m e' ≤ magnitude (2 ^ 52) e := by
  obtain ⟨k, rfl⟩ := Int.le.dest coarser
  rw [add_assoc, ← Nat.cast_one, ← Nat.cast_add, magnitude_add]
  have enough : 2 ^ 53 ≤ 2 ^ 52 * 2 ^ (1 + k) := by
    rw [← pow_add]
    exact Nat.pow_le_pow_right (by decide) (by omega)
  exact magnitude_le_magnitude (double.mantissa.le.trans enough) e'

/-- A distance in units. -/
theorem abs_sub_magnitude (x : ℚ) (m : Nat) (e : Int) :
    |x - magnitude m e| = |x / 2 ^ e - (m : ℤ)| * 2 ^ e := by
  have unit : (0 : ℚ) < 2 ^ e := by positivity
  rw [← abs_of_pos unit, ← abs_mul, abs_of_pos unit, sub_mul, div_mul_cancel₀ x unit.ne', magnitude,
    Int.cast_natCast]

/-- What the mantissa of a quotient is: rounded in the units of an exponent, in which the quotient
has at most fifty-three binary digits, and no fewer unless the exponent is the least one. -/
structure InUnits (x : ℚ) (m : Nat) (e : Int) : Prop where
  half : |x / 2 ^ e - (m : ℤ)| ≤ 1 / 2
  even : |x / 2 ^ e - (m : ℤ)| = 1 / 2 → m % 2 = 0
  full : 2 ^ 53 ≤ m ↔ (2 ^ 54 - 1) / 2 ≤ x / 2 ^ e
  least : -1074 ≤ e
  digits : x < magnitude (2 ^ 53) e
  noFewer : e = -1074 ∨ magnitude (2 ^ 52) e ≤ x

namespace InUnits

variable {x : ℚ} {m : Nat} {e : Int}

theorem le_full (units : InUnits x m e) : m ≤ 2 ^ 53 := by
  have unit : (0 : ℚ) < 2 ^ e := by positivity
  have below : x / 2 ^ e < 2 ^ 53 := by
    rw [div_lt_iff₀ unit]
    exact_mod_cast units.digits
  have near := (abs_le.mp units.half).1
  rw [Int.cast_natCast] at near
  have small : (m : ℚ) < 2 ^ 53 + 1 := by linarith
  exact Nat.lt_succ_iff.mp (by exact_mod_cast small)

theorem filled (units : InUnits x m e) : IsFilled m e := by
  have unit : (0 : ℚ) < 2 ^ e := by positivity
  refine units.noFewer.imp id fun above => ?_
  have above' : (2 ^ 52 : ℚ) ≤ x / 2 ^ e := by
    rw [le_div_iff₀ unit]
    exact_mod_cast above
  have near := (abs_le.mp units.half).2
  rw [Int.cast_natCast] at near
  have great : (2 ^ 52 : ℚ) < m + 1 := by linarith
  exact Nat.lt_succ_iff.mp (by exact_mod_cast great)

/-- No magnitude in the same units is nearer. -/
theorem nearest_in_units (units : InUnits x m e) (k : Nat) :
    |x - magnitude m e| ≤ |x - magnitude k e| := by
  rw [abs_sub_magnitude, abs_sub_magnitude]
  exact mul_le_mul_of_nonneg_right (nearest_of_half units.half k) (by positivity)

/-- If another magnitude in the same units is as near, the mantissa is even. -/
theorem even_in_units (units : InUnits x m e) {k : Nat} (other : magnitude k e ≠ magnitude m e)
    (same : |x - magnitude k e| = |x - magnitude m e|) : m % 2 = 0 := by
  have unit : (0 : ℚ) < 2 ^ e := by positivity
  have differ : (k : ℤ) ≠ m := by
    intro equal
    exact other (by rw [Int.ofNat_inj.mp equal])
  rw [abs_sub_magnitude, abs_sub_magnitude] at same
  exact units.even (eq_half_of_same units.half differ (mul_right_cancel₀ unit.ne' same))

/-- A double in smaller units is no nearer than the least one with all its digits in these. -/
theorem coarser_no_nearer (units : InUnits x m e) {m' : Nat} {e' : Int} (double : IsDouble m' e')
    (coarser : e' < e) :
    magnitude m' e' ≤ magnitude (2 ^ 52) e ∧ magnitude (2 ^ 52) e ≤ x := by
  refine ⟨magnitude_le_of_lt double coarser, ?_⟩
  rcases units.noFewer with atLeast | above
  · have := double.least
    omega
  · exact above

/-- In these units the mantissa is nearest among all doubles. -/
theorem nearest (units : InUnits x m e) (m' : Nat) (e' : Int) (double : IsDouble m' e') :
    |x - magnitude m e| ≤ |x - magnitude m' e'| := by
  rcases le_or_gt e e' with finer | coarser
  · obtain ⟨k, rfl⟩ := Int.le.dest finer
    rw [magnitude_add]
    exact units.nearest_in_units _
  · obtain ⟨below, above⟩ := units.coarser_no_nearer double coarser
    have near := units.nearest_in_units (2 ^ 52)
    rw [abs_of_nonneg (sub_nonneg.mpr above)] at near
    rw [abs_of_nonneg (sub_nonneg.mpr (below.trans above))]
    linarith

/-- If another double is as near, the mantissa is even. -/
theorem even_of_same (units : InUnits x m e) (m' : Nat) (e' : Int) (double : IsDouble m' e')
    (same : |x - magnitude m' e'| = |x - magnitude m e|)
    (other : magnitude m' e' ≠ magnitude m e) : m % 2 = 0 := by
  rcases le_or_gt e e' with finer | coarser
  · obtain ⟨k, rfl⟩ := Int.le.dest finer
    rw [magnitude_add] at same other
    exact units.even_in_units other same
  -- the only double in smaller units that can be as near is one in these as well
  · obtain ⟨below, above⟩ := units.coarser_no_nearer double coarser
    have near := units.nearest_in_units (2 ^ 52)
    have equal : magnitude m' e' = magnitude (2 ^ 52) e := by
      rw [← same, abs_of_nonneg (sub_nonneg.mpr above),
        abs_of_nonneg (sub_nonneg.mpr (below.trans above))] at near
      linarith
    rw [equal] at same other
    exact units.even_in_units other same

/-- The mantissa is at most half a unit away. -/
theorem error (units : InUnits x m e) : |x - magnitude m e| ≤ 2 ^ e / 2 := by
  have unit : (0 : ℚ) < 2 ^ e := by positivity
  have half := mul_le_mul_of_nonneg_right units.half unit.le
  rw [abs_sub_magnitude]
  linarith

/-- Short of an overflow there is a double that has the magnitude of the mantissa. -/
theorem exists_double (units : InUnits x m e) (within : e < 971) :
    ∃ m' e', IsDouble m' e' ∧ magnitude m' e' = magnitude m e := by
  rcases Nat.lt_or_eq_of_le units.le_full with less | rfl
  · exact ⟨m, e, ⟨less, units.least, within.le⟩, rfl⟩
  · refine ⟨2 ^ 52, e + 1, ⟨by decide, ?_, within⟩, ?_⟩
    · have := units.least
      omega
    · rw [← Nat.cast_one, magnitude_add, ← pow_add]

theorem overflows (units : InUnits x m e) (beyond : 971 < e) : overflowBound ≤ x := by
  have above : magnitude (2 ^ 52) e ≤ x := by
    rcases units.noFewer with atLeast | above
    · omega
    · exact above
  obtain ⟨k, rfl⟩ : ∃ k : Nat, e = 970 + (2 + k : Nat) := ⟨(e - 972).natAbs, by omega⟩
  have enough : 2 ^ 54 - 1 ≤ 2 ^ 52 * 2 ^ (2 + k) := by
    rw [← pow_add]
    exact (Nat.sub_le _ _).trans (Nat.pow_le_pow_right (by decide) (by omega))
  rw [magnitude_add] at above
  exact (magnitude_le_magnitude enough 970).trans above

theorem not_overflows (units : InUnits x m e) (within : e < 971) : x < overflowBound := by
  obtain ⟨k, same⟩ : ∃ k : Nat, (970 : Int) = e + k := ⟨(970 - e).natAbs, by omega⟩
  have enough : 2 ^ 53 ≤ (2 ^ 54 - 1) * 2 ^ k :=
    (by decide : 2 ^ 53 ≤ 2 ^ 54 - 1).trans (Nat.le_mul_of_pos_right _ (Nat.two_pow_pos k))
  rw [overflowBound, same, magnitude_add]
  exact units.digits.trans_le (magnitude_le_magnitude enough e)

theorem overflows_iff (units : InUnits x m 971) : overflowBound ≤ x ↔ 2 ^ 53 ≤ m := by
  have unit : (0 : ℚ) < 2 ^ (971 : Int) := by positivity
  have bound : ((2 ^ 54 - 1) / 2 : ℚ) * 2 ^ (971 : Int) = overflowBound := by
    have next : (971 : Int) = 970 + 1 := rfl
    have cast : ((2 ^ 54 - 1 : Nat) : ℚ) = 2 ^ 54 - 1 := by norm_num
    rw [overflowBound, magnitude, next, zpow_add_one₀ (by norm_num), cast]
    ring
  rw [units.full, le_div_iff₀ unit, bound]

end InUnits

section Quotients

variable {n d : Nat}

/-- The exponent that a quotient is given. -/
def exponentOf (n d : Nat) : Int := max leastExponent (floorLog2 n d - (precision - 1))

theorem inUnits_mantissaAt (posN : 0 < n) (pos : 0 < d) :
    InUnits (n / d) (mantissaAt n d (exponentOf n d)) (exponentOf n d) := by
  obtain ⟨below, above⟩ := floorLog2_bounds posN pos
  obtain ⟨n', d', pos', rounded, scaled⟩ := mantissaAt_eq n pos (exponentOf n d)
  have exponent : exponentOf n d = max (-1074) (floorLog2 n d - 52) := rfl
  generalize exponentOf n d = e at *
  generalize floorLog2 n d = k at *
  rw [rounded]
  constructor
  · rw [← scaled]
    exact abs_sub_divNearestEven_le n' pos'
  · rw [← scaled]
    exact divNearestEven_even_of_half pos'
  · have pos'' : (0 : ℚ) < d' := by exact_mod_cast pos'
    have up := lt_divNearestEven_iff (n := n') (c := 2 ^ 53 - 1) (by decide) pos'
    have next : 2 * (2 ^ 53 - 1) + 1 = 2 ^ 54 - 1 := by decide
    have cast : ((2 ^ 54 - 1 : Nat) : ℚ) = 2 ^ 54 - 1 := by norm_num
    rw [next, ← Nat.cast_le (α := ℚ), Nat.cast_mul, Nat.cast_mul, cast] at up
    rw [← scaled, le_div_iff₀ pos'']
    refine Iff.trans (by omega) (up.trans ?_)
    rw [Nat.cast_ofNat]
    constructor <;> intro le <;> linarith
  · omega
  · rw [magnitude_two_pow]
    exact above.trans_le (zpow_le_zpow_right₀ one_le_two (by omega))
  · rcases max_choice (-1074) (k - 52) with atLeast | normal
    · exact Or.inl (exponent.trans atLeast)
    · right
      rw [magnitude_two_pow, exponent, normal]
      have same : ((52 : Nat) : Int) + (k - 52) = k := by omega
      rwa [same]

theorem isDouble_zero : IsDouble 0 leastExponent := ⟨by decide, by decide, by decide⟩

theorem magnitude_zero (e : Int) : magnitude 0 e = 0 := by
  rw [magnitude, Nat.cast_zero, zero_mul]

theorem overflowBound_pos : 0 < overflowBound :=
  mul_pos (by norm_num) (by positivity)

/-- Zero is nearest to itself. -/
theorem zero_rounds (negative : Bool) : RoundsTo negative 0 (zero negative) := by
  refine .finite overflowBound_pos ⟨isDouble_zero, Or.inl rfl, fun m e _ => ?_, fun _ _ _ _ _ => rfl⟩
  rw [magnitude_zero, sub_zero, abs_zero]
  exact abs_nonneg _

/-- The double that is made of a quotient is the nearest to it. -/
theorem ofRatio_rounds (negative : Bool) (n : Nat) (pos : 0 < d) :
    RoundsTo negative (n / d) (ofRatio negative n d) := by
  by_cases isZero : n = 0
  · rw [isZero, ofRatio, if_pos rfl, Nat.cast_zero, zero_div]
    exact zero_rounds negative
  have units := inUnits_mantissaAt (Nat.pos_of_ne_zero isZero) pos
  have definition : ofRatio negative n d =
      if mantissaAt n d (exponentOf n d) = 2 ^ 53 then
        if exponentOf n d + 1 ≤ 971 then .finite negative (2 ^ 52) (exponentOf n d + 1)
        else .infinite negative
      else if exponentOf n d ≤ 971 then
        .finite negative (mantissaAt n d (exponentOf n d)) (exponentOf n d)
      else .infinite negative := if_neg isZero
  rw [definition]
  generalize mantissaAt n d (exponentOf n d) = m at *
  generalize exponentOf n d = e at *
  have bounded := units.le_full
  have least := units.least
  split_ifs with full fits fits
  -- a mantissa that is rounded up to the next power of two is the least one in units twice as great
  · have double : IsDouble (2 ^ 52) (e + 1) := ⟨by decide, by omega, fits⟩
    have same : magnitude (2 ^ 52) (e + 1) = magnitude m e := by
      rw [full, ← Nat.cast_one, magnitude_add, ← pow_add]
    refine .finite (units.not_overflows (by omega))
      ⟨double, Or.inr le_rfl, fun m' e' double' => ?_, fun _ _ _ _ _ => rfl⟩
    rw [same]
    exact units.nearest m' e' double'
  · rcases eq_or_ne e 971 with rfl | other
    · exact .infinite (units.overflows_iff.mpr full.ge)
    · exact .infinite (units.overflows (by omega))
  · have double : IsDouble m e := ⟨lt_of_le_of_ne bounded full, least, fits⟩
    refine .finite ?_ ⟨double, units.filled, units.nearest, units.even_of_same⟩
    rcases eq_or_ne e 971 with rfl | other
    · exact not_le.mp fun beyond => full (le_antisymm bounded (units.overflows_iff.mp beyond))
    · exact units.not_overflows (by omega)
  · exact .infinite (units.overflows (by omega))

/-! ## Decimals -/

/-- A power of ten is greater than the power of two with thrice the exponent. -/
theorem two_pow_le_ten_pow {i j : Nat} (le : i ≤ 3 * j) : (2 : ℚ) ^ i ≤ 10 ^ j :=
  calc (2 : ℚ) ^ i ≤ 2 ^ (3 * j) := pow_le_pow_right₀ one_le_two le
    _ = (2 ^ 3) ^ j := pow_mul 2 3 j
    _ ≤ 10 ^ j := pow_le_pow_left₀ (by norm_num) (by norm_num) j

theorem overflowBound_le_ten_pow : overflowBound ≤ 10 ^ 400 := by
  refine (magnitude_le_magnitude (Nat.sub_le (2 ^ 54) 1) 970).trans ?_
  have exponent : ((54 : Nat) : Int) + 970 = (1024 : Nat) := by decide
  rw [magnitude_two_pow, exponent, zpow_natCast]
  exact two_pow_le_ten_pow (by decide)

theorem ten_pow_lt_overflowBound : (10 : ℚ) ^ 300 < overflowBound := by
  have thousand : (10 : ℚ) ^ 300 ≤ 2 ^ 1000 :=
    calc (10 : ℚ) ^ 300 = (10 ^ 3) ^ 100 := pow_mul 10 3 100
      _ ≤ (2 ^ 10) ^ 100 := pow_le_pow_left₀ (by norm_num) (by norm_num) 100
      _ = 2 ^ 1000 := (pow_mul 2 10 100).symm
  have exponent : ((53 : Nat) : Int) + 970 = (1023 : Nat) := by decide
  have greater : (2 : ℚ) ^ 1023 ≤ overflowBound := by
    rw [← zpow_natCast, ← exponent, ← magnitude_two_pow]
    exact magnitude_le_magnitude (by decide) 970
  exact (thousand.trans_lt (pow_lt_pow_right₀ one_lt_two (by decide))).trans_le greater

/-- Up to half of the least positive magnitude zero is nearest. -/
theorem zero_rounds_of_le (negative : Bool) {x : ℚ} (nonneg : 0 ≤ x)
    (small : 2 * x ≤ magnitude 1 leastExponent) : RoundsTo negative x (zero negative) := by
  have least : ∀ {m e}, m ≠ 0 → leastExponent ≤ e → magnitude 1 leastExponent ≤ magnitude m e := by
    intro m e nonzero within
    obtain ⟨k, rfl⟩ := Int.le.dest within
    rw [magnitude_add]
    exact magnitude_le_magnitude
      (Nat.mul_pos (Nat.pos_of_ne_zero nonzero) (Nat.two_pow_pos k)) leastExponent
  have below : x < overflowBound := by
    have atMost : magnitude 1 leastExponent ≤ overflowBound := least (by decide) (by decide)
    have positive := overflowBound_pos
    linarith
  refine .finite below ⟨isDouble_zero, Or.inl rfl, fun m e double => ?_, fun _ _ _ _ _ => rfl⟩
  rw [magnitude_zero, sub_zero, abs_of_nonneg nonneg]
  rcases eq_or_ne m 0 with rfl | nonzero
  · rw [magnitude_zero, sub_zero, abs_of_nonneg nonneg]
  · have atLeast := least nonzero double.least
    exact le_abs.mpr (Or.inr (by linarith))

/-- By its binary digits a number has at most so many decimal ones. -/
theorem le_ten_pow_log2 (n : Nat) : (n : ℚ) ≤ 10 ^ (n.log2 / 3 + 1) := by
  have bits : (n : ℚ) < 2 ^ (n.log2 + 1) := by exact_mod_cast Nat.lt_log2_self
  exact bits.le.trans (two_pow_le_ten_pow (by omega))

theorem ten_zpow_le_least : (10 : ℚ) ^ (-400 : Int) ≤ magnitude 1 leastExponent := by
  have two : leastExponent = -((1074 : Nat) : Int) := rfl
  have ten : (-400 : Int) = -((400 : Nat) : Int) := rfl
  rw [magnitude, Nat.cast_one, one_mul, two, ten, zpow_neg, zpow_neg, zpow_natCast, zpow_natCast]
  exact inv_anti₀ (by positivity) (two_pow_le_ten_pow (by decide))

section Reach

variable {digits : Nat} {exponent : Int}

/-- A decimal out of reach above all doubles. -/
theorem overflowBound_le_decimal (nonzero : digits ≠ 0) (great : decimalReach < exponent) :
    overflowBound ≤ digits * 10 ^ exponent := by
  have positive : (1 : ℚ) ≤ digits := by exact_mod_cast Nat.pos_of_ne_zero nonzero
  have reach : (10 : ℚ) ^ 400 ≤ 10 ^ exponent := by
    rw [← zpow_natCast]
    exact zpow_le_zpow_right₀ (by norm_num) great.le
  exact overflowBound_le_ten_pow.trans
    (reach.trans (le_mul_of_one_le_left (by positivity) positive))

/-- A decimal out of reach below all doubles but zero. -/
theorem two_mul_decimal_le (small : exponent + digits.log2 / 3 + 1 < -decimalReach) :
    2 * ((digits : ℚ) * 10 ^ exponent) ≤ magnitude 1 leastExponent := by
  have ten : (10 : ℚ) ≠ 0 := by norm_num
  have reach : decimalReach = 400 := rfl
  have tiny : (digits : ℚ) * 10 ^ exponent ≤ 10 ^ (-401 : Int) :=
    calc (digits : ℚ) * 10 ^ exponent
        ≤ 10 ^ (digits.log2 / 3 + 1) * 10 ^ exponent :=
          mul_le_mul_of_nonneg_right (le_ten_pow_log2 digits) (by positivity)
      _ = 10 ^ (((digits.log2 / 3 + 1 : Nat) : Int) + exponent) := by
          rw [zpow_add₀ ten, zpow_natCast]
      _ ≤ 10 ^ (-401 : Int) := zpow_le_zpow_right₀ (by norm_num) (by push_cast; omega)
  have next : (10 : ℚ) ^ (-400 : Int) = 10 ^ (-401 : Int) * 10 := by
    have step : (-400 : Int) = -401 + 1 := rfl
    rw [step, zpow_add_one₀ ten]
  have least := ten_zpow_le_least
  have positive : (0 : ℚ) < 10 ^ (-401 : Int) := by positivity
  linarith

end Reach

/-- The double that is made of a decimal is the nearest to it. -/
theorem ofDecimal_rounds (negative : Bool) (digits : Nat) (exponent : Int) :
    RoundsTo negative (digits * 10 ^ exponent) (ofDecimal negative digits exponent) := by
  unfold ofDecimal
  split_ifs with isZero isGreat isSmall isFraction
  · rw [isZero, Nat.cast_zero, zero_mul]
    exact zero_rounds negative
  · exact .infinite (overflowBound_le_decimal isZero isGreat)
  · exact zero_rounds_of_le negative (by positivity) (two_mul_decimal_le isSmall)
  · have rounds := ofRatio_rounds negative digits (Nat.pow_pos (n := exponent.natAbs)
      (by decide : 0 < 10))
    rw [zpow_of_neg 10 isFraction, ← div_eq_mul_inv]
    rw [Nat.cast_pow, Nat.cast_ofNat] at rounds
    exact rounds
  · have rounds := ofRatio_rounds negative (digits * 10 ^ exponent.natAbs) Nat.one_pos
    rw [zpow_of_not_neg 10 isFraction]
    rw [Nat.cast_one, div_one, Nat.cast_mul, Nat.cast_pow, Nat.cast_ofNat] at rounds
    exact rounds

end Quotients

/-! ## One nearest double -/

section Unique

variable {x : ℚ} {m m' : Nat} {e e' : Int}

/-- Doubles with all their digits are the same if their magnitudes are. -/
theorem eq_of_magnitude_eq (double : IsDouble m e) (double' : IsDouble m' e')
    (filled : IsFilled m e) (filled' : IsFilled m' e') (same : magnitude m e = magnitude m' e') :
    m = m' ∧ e = e' := by
  wlog finer : e ≤ e' generalizing m e m' e'
  · exact (this double' double filled' filled same.symm (by omega)).imp Eq.symm Eq.symm
  obtain ⟨k, rfl⟩ := Int.le.dest finer
  rw [magnitude_add, magnitude, magnitude,
    mul_left_inj' (zpow_ne_zero e two_ne_zero), Nat.cast_inj] at same
  cases k with
  | zero =>
      rw [Nat.pow_zero, Nat.mul_one] at same
      exact ⟨same, by rw [Nat.cast_zero, add_zero]⟩
  | succ k =>
      have least := double.least
      have great : 2 ^ 52 ≤ m' := filled'.resolve_left (by omega)
      have enough : 2 ^ 53 ≤ m' * 2 ^ (k + 1) :=
        calc 2 ^ 53 = 2 ^ 52 * 2 ^ 1 := (pow_add 2 52 1)
          _ ≤ m' * 2 ^ (k + 1) :=
            Nat.mul_le_mul great (Nat.pow_le_pow_right (by decide) (by omega))
      have less := double.mantissa
      omega

/-- A greater double is no less than the next one in the same units. -/
theorem magnitude_succ_le (filled : IsFilled m e) (double' : IsDouble m' e')
    (less : magnitude m e < magnitude m' e') : magnitude (m + 1) e ≤ magnitude m' e' := by
  rcases le_or_gt e e' with finer | coarser
  · obtain ⟨k, rfl⟩ := Int.le.dest finer
    rw [magnitude_add] at less ⊢
    exact magnitude_le_magnitude (lt_of_magnitude_lt less) e
  · have least := double'.least
    have great : 2 ^ 52 ≤ m := filled.resolve_left (by omega)
    have atMost := (magnitude_le_of_lt double' coarser).trans (magnitude_le_magnitude great e)
    exact absurd less (not_lt.mpr atMost)

/-- Of two numbers that are as near, none in between is as near. -/
theorem abs_sub_lt_of_between {a b c : ℚ} (same : |x - a| = |x - b|) (above : a < c) (below : c < b) :
    |x - c| < |x - a| := by
  rcases abs_eq_abs.mp same with equal | opposite
  · linarith
  · have middle : x - a = (b - a) / 2 := by linarith
    rw [middle, abs_of_pos (by linarith : (0 : ℚ) < (b - a) / 2), abs_lt]
    constructor <;> linarith

/-- There is only one magnitude that is nearest. -/
theorem IsNearest.magnitude_unique (near : IsNearest x m e) (near' : IsNearest x m' e') :
    magnitude m e = magnitude m' e' := by
  by_contra differ
  wlog less : magnitude m e < magnitude m' e' generalizing m e m' e'
  · exact this near' near (Ne.symm differ) (lt_of_le_of_ne (not_lt.mp less) (Ne.symm differ))
  have same : |x - magnitude m e| = |x - magnitude m' e'| :=
    le_antisymm (near.nearest m' e' near'.double) (near'.nearest m e near.double)
  have even := near.even m' e' near'.double same.symm (Ne.symm differ)
  have even' := near'.even m e near.double same differ
  -- both mantissas are even, so the double after the lower one lies in between, and is nearer
  have next : IsDouble (m + 1) e := by
    have less := near.double.mantissa
    exact ⟨by omega, near.double.least, near.double.greatest⟩
  have filled : IsFilled (m + 1) e := near.filled.imp id fun great => great.trans m.le_succ
  have above : magnitude m e < magnitude (m + 1) e := by
    rw [magnitude, magnitude]
    exact mul_lt_mul_of_pos_right (by exact_mod_cast m.lt_succ_self) (by positivity)
  rcases (magnitude_succ_le near.filled near'.double less).eq_or_lt with equal | between
  · have := (eq_of_magnitude_eq next near'.double filled near'.filled equal).1
    omega
  · have nearer := abs_sub_lt_of_between same above between
    exact absurd (near.nearest (m + 1) e next) (not_le.mpr nearer)

/-- There is only one double that is nearest. -/
theorem IsNearest.unique (near : IsNearest x m e) (near' : IsNearest x m' e') : m = m' ∧ e = e' :=
  eq_of_magnitude_eq near.double near'.double near.filled near'.filled (near.magnitude_unique near')

end Unique

/-! ## Integers -/

/-- A finite double denotes an integer just if its magnitude is a natural number. -/
theorem toInt?_eq_some_iff {negative : Bool} {m : Nat} {e k : Int} :
    (finite negative m e).toInt? = some k ↔
      ∃ n : Nat, magnitude m e = n ∧ k = signed negative n := by
  by_cases below : e < 0
  · have definition : (finite negative m e).toInt? =
        if m % 2 ^ e.natAbs = 0 then some (signed negative (m / 2 ^ e.natAbs)) else none :=
      if_neg (Int.not_le.mpr below)
    have unit : (0 : ℚ) < ((2 ^ e.natAbs : Nat) : ℚ) := by exact_mod_cast Nat.two_pow_pos _
    have natural : ∀ n : Nat, magnitude m e = n ↔ m = n * 2 ^ e.natAbs := by
      intro n
      rw [magnitude, zpow_of_neg 2 below, ← div_eq_mul_inv, ← Nat.cast_ofNat, ← Nat.cast_pow,
        div_eq_iff unit.ne', ← Nat.cast_mul, Nat.cast_inj]
    simp only [natural]
    rw [definition]
    split_ifs with divides
    · rw [Option.some_inj]
      constructor
      · rintro rfl
        exact ⟨_, (Nat.div_mul_cancel (Nat.dvd_of_mod_eq_zero divides)).symm, rfl⟩
      · rintro ⟨n, rfl, rfl⟩
        rw [Nat.mul_div_cancel n (Nat.two_pow_pos _)]
    · refine iff_of_false nofun ?_
      rintro ⟨n, rfl, -⟩
      exact divides (Nat.mul_mod_left n _)
  · have definition : (finite negative m e).toInt? = some (signed negative (m * 2 ^ e.natAbs)) :=
      if_pos (Int.not_lt.mp below)
    have natural : ∀ n : Nat, magnitude m e = n ↔ m * 2 ^ e.natAbs = n := by
      intro n
      rw [magnitude, zpow_of_not_neg 2 below, ← Nat.cast_ofNat, ← Nat.cast_pow, ← Nat.cast_mul,
        Nat.cast_inj]
    simp only [natural]
    rw [definition, Option.some_inj]
    constructor
    · rintro rfl
      exact ⟨_, rfl, rfl⟩
    · rintro ⟨n, rfl, rfl⟩
      rfl

/-- A magnitude that a finite double has. -/
def IsMagnitude (x : ℚ) : Prop := ∃ m e, IsDouble m e ∧ x = magnitude m e

/-- Natural numbers of at most fifty-three binary digits, and the next one, are magnitudes. -/
theorem isMagnitude_of_le {n : Nat} (small : n ≤ 2 ^ 53) : IsMagnitude n := by
  rcases Nat.lt_or_eq_of_le small with less | rfl
  · refine ⟨n, 0, ⟨less, by decide, by decide⟩, ?_⟩
    rw [magnitude, zpow_zero, mul_one]
  · refine ⟨2 ^ 52, 1, ⟨by decide, by decide, by decide⟩, ?_⟩
    rw [magnitude_two_pow]
    norm_num

/-- A magnitude that is not small is a natural number. -/
theorem exists_nat_of_isDouble {m : Nat} {e : Int} (double : IsDouble m e)
    (great : 2 ^ 53 ≤ magnitude m e) : ∃ n : Nat, magnitude m e = n := by
  have natural : 0 ≤ e := by
    by_contra below
    have atMost : magnitude m e ≤ m := by
      refine mul_le_of_le_one_right m.cast_nonneg ?_
      exact zpow_le_one_of_nonpos₀ one_le_two (by omega)
    have less : (m : ℚ) < 2 ^ 53 := by exact_mod_cast double.mantissa
    linarith
  obtain ⟨k, rfl⟩ := Int.eq_ofNat_of_zero_le natural
  refine ⟨m * 2 ^ k, ?_⟩
  rw [magnitude, zpow_natCast, Nat.cast_mul, Nat.cast_pow, Nat.cast_ofNat]

/-- A double that is nearest to a magnitude has it, if any has. -/
theorem IsNearest.magnitude_eq {x : ℚ} {m : Nat} {e : Int} (near : IsNearest x m e)
    (isMagnitude : IsMagnitude x) : magnitude m e = x := by
  obtain ⟨m', e', double, same⟩ := isMagnitude
  have none := near.nearest m' e' double
  rw [← same, sub_self, abs_zero, abs_nonpos_iff, sub_eq_zero] at none
  exact none.symm

/-- The double nearest to a natural number is one. -/
theorem IsNearest.exists_nat {n m : Nat} {e : Int} (near : IsNearest n m e) :
    ∃ k : Nat, magnitude m e = k := by
  rcases Nat.le_total n (2 ^ 53) with small | great
  · exact ⟨n, near.magnitude_eq (isMagnitude_of_le small)⟩
  · refine exists_nat_of_isDouble near.double ?_
    obtain ⟨m', e', double, same⟩ := isMagnitude_of_le (le_refl (2 ^ 53))
    have great' : (2 ^ 53 : ℚ) ≤ n := by exact_mod_cast great
    have nearer := near.nearest m' e' double
    rw [← same, Nat.cast_pow, Nat.cast_ofNat, abs_of_nonneg (sub_nonneg.mpr great')] at nearer
    have below := (abs_le.mp nearer).2
    linarith

section Fractions

variable {digits places m : Nat} {e : Int}

/-- In the units that a decimal fraction with few digits is rounded in, half a unit is less than its
last place. -/
theorem InUnits.half_unit_lt (few : digits < 2 ^ 53) (short : places ≤ 323)
    (units : InUnits ((digits : ℚ) / (10 ^ places : Nat)) m e) :
    e < 971 ∧ (2 : ℚ) ^ e / 2 < 1 / (10 ^ places : Nat) := by
  have few' : (digits : ℚ) < 2 ^ 53 := by exact_mod_cast few
  have tens : (1 : ℚ) ≤ (10 ^ places : Nat) := by exact_mod_cast Nat.one_le_pow _ _ (by decide)
  have tens' : (0 : ℚ) < (10 ^ places : Nat) := by linarith
  rcases units.noFewer with rfl | above
  · have longest : (10 ^ places : Nat) < 2 ^ 1074 :=
      (Nat.pow_le_pow_right (by decide) short).trans_lt (by decide +kernel)
    have longest' : ((10 ^ places : Nat) : ℚ) < 2 ^ 1074 := by exact_mod_cast longest
    have least : (2 : ℚ) ^ (-1074 : Int) = 1 / 2 ^ 1074 := by
      rw [zpow_neg, one_div]
      rfl
    refine ⟨by decide, ?_⟩
    rw [least]
    exact (half_lt_self (by positivity)).trans (one_div_lt_one_div_of_lt tens' longest')
  · rw [Binary64.magnitude, le_div_iff₀ tens', Nat.cast_pow, Nat.cast_ofNat] at above
    have product : (2 : ℚ) ^ e * (10 ^ places : Nat) < 2 := by linarith
    have step : (0 : ℚ) < 2 ^ e := by positivity
    have small : (2 : ℚ) ^ e < 2 ^ (1 : Int) :=
      (le_mul_of_one_le_right step.le tens).trans_lt (product.trans_eq (zpow_one 2).symm)
    refine ⟨((zpow_lt_zpow_iff_right₀ one_lt_two).mp small).trans (by decide), ?_⟩
    rw [lt_div_iff₀ tens']
    linarith

/-- A decimal fraction that is nearer to an integer than its last place is that integer. -/
theorem eq_mul_of_abs_sub_lt {k : Nat}
    (close : |(digits : ℚ) / (10 ^ places : Nat) - k| < 1 / (10 ^ places : Nat)) :
    digits = k * 10 ^ places := by
  have tens : (0 : ℚ) < (10 ^ places : Nat) := by exact_mod_cast Nat.pow_pos (by decide)
  rw [lt_div_iff₀ tens, ← abs_of_pos tens, ← abs_mul, abs_of_pos tens, sub_mul,
    div_mul_cancel₀ _ tens.ne', ← Nat.cast_mul] at close
  have apart : |(digits : ℤ) - (k * 10 ^ places : Nat)| < 1 := by exact_mod_cast close
  exact Int.ofNat_inj.mp (sub_eq_zero.mp (Int.abs_lt_one_iff.mp apart))

/-- A decimal fraction with few digits that is no integer is not rounded to one: it is too far from
all integers. -/
theorem IsNearest.eq_mul {k : Nat} (positive : 0 < digits) (few : digits < 2 ^ 53)
    (short : places ≤ 323) (near : IsNearest ((digits : ℚ) / (10 ^ places : Nat)) m e)
    (natural : magnitude m e = k) : digits = k * 10 ^ places := by
  have units := inUnits_mantissaAt positive (Nat.pow_pos (n := places) (by decide : 0 < 10))
  obtain ⟨within, fine⟩ := units.half_unit_lt few short
  obtain ⟨m', e', double, same⟩ := units.exists_double within
  have atMost := near.nearest m' e' double
  rw [same, natural] at atMost
  exact eq_mul_of_abs_sub_lt ((atMost.trans units.error).trans_lt fine)

end Fractions

end MapStyle.Binary64
