/-
# Suffrage.Proofs.Decimal -- decimals as rational numbers

`Decimal.toRat` is the number that a decimal stands for, and the order of decimals is the
order of these numbers.

Powers and shares are worked out on whole numbers of `10^-18`.  `Decimal.IsFixed d k` says
that `d` is `k` of them and has no digit beyond, so nothing is lost when `d` is brought to
that form again.  Each operation has one equation in these terms, with the range in which
it succeeds: sums, differences and multiples are exact, quotients and products are cut
toward zero (`Decimal.wholePart`).
-/
import Suffrage.Decimal.Fixed
import Suffrage.Decimal.Sum
import Suffrage.Proofs.Result
import Mathlib.Data.Rat.Floor
import Mathlib.Tactic.FieldSimp
import Mathlib.Tactic.Linarith
import Mathlib.Tactic.Positivity
import Mathlib.Tactic.Ring

namespace Suffrage

set_option autoImplicit false

namespace Radix

theorem ten_add (a b : Nat) : ten (a + b) = ten a * ten b := Nat.pow_add 10 a b

theorem ten_mul_ten_sub {a b : Nat} (le : a ≤ b) : ten a * ten (b - a) = ten b := by
  rw [← ten_add, Nat.add_sub_cancel' le]

theorem ten_cast_pos (places : Nat) : (0 : Int) < ten places := Int.natCast_pos.2 (ten_pos places)

theorem ten_cast_mul_ten_sub {a b : Nat} (le : a ≤ b) :
    (ten a : Int) * ten (b - a) = ten b := by
  rw [← Int.natCast_mul, ten_mul_ten_sub le]

/-- More digits make no fewer units. -/
theorem natAbs_le_mul_ten (n : Int) (places : Nat) : n.natAbs ≤ (n * ten places).natAbs := by
  rw [Int.natAbs_mul, Int.natAbs_natCast]
  exact Nat.le_mul_of_pos_right _ (ten_pos places)

theorem ten_le_ten {a b : Nat} (le : a ≤ b) : ten a ≤ ten b := Nat.pow_le_pow_right (by decide) le

end Radix

namespace Decimal

open Radix (ten)

/-! ## Values -/

/-- The number that a decimal stands for. -/
def toRat (d : Decimal) : ℚ := d.units / (ten d.scale : ℚ)

theorem ten_rat_pos (places : Nat) : (0 : ℚ) < ten places := by
  exact_mod_cast Radix.ten_pos places

theorem ten_rat (places : Nat) : (ten places : ℚ) = 10 ^ places := Nat.cast_pow 10 places

theorem ten_fixedPlaces : (ten fixedPlaces : ℚ) = 10 ^ 18 := ten_rat 18

theorem toRat_zero : zero.toRat = 0 := by simp [toRat, zero, units]

theorem toRat_one : one.toRat = 1 := by simp [toRat, one, units, Radix.ten_zero]

theorem le_iff_toRat_le {a b : Decimal} : a ≤ b ↔ a.toRat ≤ b.toRat := by
  rw [toRat, toRat, div_le_div_iff₀ (ten_rat_pos _) (ten_rat_pos _), le_def, unitsBeside,
    unitsBeside]
  exact_mod_cast Iff.rfl

theorem lt_iff_toRat_lt {a b : Decimal} : a < b ↔ a.toRat < b.toRat := by
  rw [toRat, toRat, div_lt_div_iff₀ (ten_rat_pos _) (ten_rat_pos _), lt_def, unitsBeside,
    unitsBeside]
  exact_mod_cast Iff.rfl

theorem same_iff_toRat_eq {a b : Decimal} : a.same b = true ↔ a.toRat = b.toRat := by
  rw [toRat, toRat, div_eq_div_iff (ten_rat_pos _).ne' (ten_rat_pos _).ne', same, beq_iff_eq,
    unitsBeside, unitsBeside]
  exact_mod_cast Iff.rfl

theorem isPositiveFraction_iff {d : Decimal} :
    d.isPositiveFraction = true ↔ 0 < d.toRat ∧ d.toRat ≤ 1 := by
  simp [isPositiveFraction, lt_iff_toRat_lt, le_iff_toRat_le, toRat_zero, toRat_one]

theorem isFraction_iff {d : Decimal} : d.isFraction = true ↔ 0 ≤ d.toRat ∧ d.toRat ≤ 1 := by
  simp [isFraction, le_iff_toRat_le, toRat_zero, toRat_one]

theorem units_nonneg_iff {d : Decimal} : 0 ≤ d.units ↔ 0 ≤ d.toRat := by
  rw [toRat, le_div_iff₀ (ten_rat_pos _), zero_mul]
  exact_mod_cast Iff.rfl

/-! ## Cutting and stripping digits -/

theorem truncate_of_le {d : Decimal} {places : Nat} (le : d.scale ≤ places) :
    d.truncate places = d := by
  unfold truncate
  rw [dif_neg (by omega)]

theorem units_truncate {d : Decimal} {places : Nat} (beyond : places < d.scale) :
    (d.truncate places).units = d.units.tdiv (ten (d.scale - places)) := by
  unfold truncate
  rw [dif_pos beyond]
  unfold units
  dsimp only
  split
  · rw [Int.neg_tdiv, ← Int.ofNat_tdiv]
  · rw [← Int.ofNat_tdiv]

/-- The whole part of a number: the fraction is cut, toward zero. -/
def wholePart (x : ℚ) : ℤ := if 0 ≤ x then ⌊x⌋ else ⌈x⌉

theorem wholePart_of_nonneg {x : ℚ} (nonneg : 0 ≤ x) : wholePart x = ⌊x⌋ := if_pos nonneg

theorem wholePart_intCast (n : ℤ) : wholePart n = n := by
  unfold wholePart
  rw [Int.floor_intCast, Int.ceil_intCast, ite_self]

theorem wholePart_neg (x : ℚ) : wholePart (-x) = -wholePart x := by
  unfold wholePart
  rcases lt_trichotomy x 0 with below | rfl | above
  · rw [if_pos (by linarith), if_neg (not_le.2 below), Int.floor_neg]
  · simp
  · rw [if_neg (by linarith), if_pos above.le, Int.ceil_neg]

/-- To cut a number before it is divided makes no difference once the quotient is cut. -/
theorem wholePart_div (x : ℚ) (n : ℕ) : wholePart (x / n) = (wholePart x).tdiv n := by
  have cut {y : ℚ} (nonneg : 0 ≤ y) : wholePart (y / n) = (wholePart y).tdiv n := by
    rw [wholePart_of_nonneg nonneg, wholePart_of_nonneg (by positivity), Int.floor_div_natCast,
      Int.tdiv_eq_ediv_of_nonneg (Int.floor_nonneg.2 nonneg)]
  rcases le_total 0 x with nonneg | below
  · exact cut nonneg
  · have mirrored := cut (neg_nonneg.2 below)
    rwa [neg_div, wholePart_neg, wholePart_neg, Int.neg_tdiv, neg_inj] at mirrored

theorem stripZeros_value (scale magnitude : Nat) :
    (stripZeros scale magnitude).1 * ten (scale - (stripZeros scale magnitude).2) = magnitude := by
  induction scale generalizing magnitude with
  | zero => simp [stripZeros, Radix.ten_zero]
  | succ scale ih =>
      simp only [stripZeros]
      split
      · rename_i divides
        have bound := (stripZeros_bounds scale (magnitude / 10)).2
        rw [Nat.succ_sub bound, Radix.ten_succ, ← Nat.mul_assoc, ih]
        exact Nat.div_mul_cancel (Nat.dvd_of_mod_eq_zero divides)
      · simp [Radix.ten_zero]

theorem scale_normalize_le (d : Decimal) : d.normalize.scale ≤ d.scale :=
  (stripZeros_bounds d.scale d.magnitude).2

theorem units_normalize (d : Decimal) :
    d.normalize.units * ten (d.scale - d.normalize.scale) = d.units := by
  have size : d.normalize.magnitude * ten (d.scale - d.normalize.scale) = d.magnitude :=
    stripZeros_value d.scale d.magnitude
  have sign : d.normalize.units =
      if d.canonical.negative then -(d.normalize.magnitude : Int) else d.normalize.magnitude := rfl
  rw [← d.units_canonical, sign, units]
  split
  · rw [Int.neg_mul, ← Int.natCast_mul, size]
    rfl
  · rw [← Int.natCast_mul, size]
    rfl

/-! ## Whole numbers of `10^-18` -/

/-- The decimal is `k` times `10^-18`, and has no digit beyond. -/
structure IsFixed (d : Decimal) (k : Int) : Prop where
  scale_le : d.scale ≤ fixedPlaces
  units_mul : d.units * ten (fixedPlaces - d.scale) = k

namespace IsFixed

variable {d a b : Decimal} {k j : Int}

theorem fixedUnits (fixed : d.IsFixed k) : d.fixedUnits = k := by
  unfold Decimal.fixedUnits
  rw [truncate_of_le fixed.scale_le]
  exact fixed.units_mul

theorem toFixed (fixed : d.IsFixed k) (fits : k.natAbs ≤ maxUnits) : d.toFixed = .ok k := by
  unfold Decimal.toFixed
  rw [fixed.fixedUnits, if_pos fits]

theorem toRat (fixed : d.IsFixed k) : d.toRat = k / (ten fixedPlaces : ℚ) := by
  have whole := Radix.ten_mul_ten_sub fixed.scale_le
  rw [Decimal.toRat, ← fixed.units_mul, ← whole]
  have := ten_rat_pos d.scale
  have := ten_rat_pos (fixedPlaces - d.scale)
  push_cast
  field_simp

/-- Fewer digits are needed for fewer units. -/
theorem natAbs_units_le (fixed : d.IsFixed k) : d.units.natAbs ≤ k.natAbs := by
  rw [← fixed.units_mul]
  exact Radix.natAbs_le_mul_ten ..

theorem isZero_iff (fixed : d.IsFixed k) : d.isZero = true ↔ k = 0 := by
  have positive := Radix.ten_cast_pos (fixedPlaces - d.scale)
  have none_ : d.isZero = true ↔ d.units = 0 := by
    rw [← Int.natAbs_eq_zero, units_natAbs, isZero, beq_iff_eq]
  rw [none_, ← fixed.units_mul, Int.mul_eq_zero, or_iff_left positive.ne']

theorem normalize (fixed : d.IsFixed k) : d.normalize.IsFixed k where
  scale_le := Nat.le_trans d.scale_normalize_le fixed.scale_le
  units_mul := by
    have split : fixedPlaces - d.normalize.scale =
        (d.scale - d.normalize.scale) + (fixedPlaces - d.scale) := by
      have := d.scale_normalize_le
      have := fixed.scale_le
      omega
    rw [split, Radix.ten_add, Int.natCast_mul, ← Int.mul_assoc, units_normalize, fixed.units_mul]

theorem zero : Decimal.zero.IsFixed 0 := ⟨Nat.zero_le _, rfl⟩

end IsFixed

/-- A number of units that fits makes a decimal. -/
theorem ofUnits?_isSome {units : Int} {scale : Nat} (fits : units.natAbs ≤ maxUnits)
    (place : scale ≤ maxScale) : ∃ d, ofUnits? units scale = some d := by
  unfold ofUnits? make?
  rw [dif_pos ⟨fits, place⟩]
  exact ⟨_, rfl⟩

theorem ofFixed_ok {k : Int} (fits : k.natAbs ≤ maxUnits) :
    ∃ d, ofFixed k = .ok d ∧ d.IsFixed k := by
  obtain ⟨d, made⟩ := ofUnits?_isSome fits (show fixedPlaces ≤ maxScale by decide)
  obtain ⟨units, scale⟩ := ofUnits?_eq_some made
  have fixed : d.IsFixed k := by
    refine ⟨Nat.le_of_eq scale, ?_⟩
    rw [units, scale, Nat.sub_self, Radix.ten_zero]
    exact Int.mul_one k
  refine ⟨d.normalize, ?_, fixed.normalize⟩
  unfold ofFixed
  rw [made]

theorem fitsWord_of_natAbs_lt {n : Int} (fits : n.natAbs < Radix.two 127) : fitsWord n = true := by
  unfold fitsWord
  simp only [Bool.and_eq_true, decide_eq_true_eq]
  omega

/-! ## Sums and differences -/

/-- The units of `d` at a larger scale. -/
def unitsAt (d : Decimal) (scale : Nat) : Int := d.units * ten (scale - d.scale)

theorem toRat_unitsAt (d : Decimal) {scale : Nat} (le : d.scale ≤ scale) :
    d.toRat = d.unitsAt scale / (ten scale : ℚ) := by
  have := ten_rat_pos d.scale
  have := ten_rat_pos (scale - d.scale)
  rw [toRat, unitsAt, ← Radix.ten_mul_ten_sub le]
  push_cast
  field_simp

theorem units_of_isZero {d : Decimal} (none_ : d.isZero = true) : d.units = 0 := by
  rw [← Int.natAbs_eq_zero, units_natAbs]
  exact eq_of_beq none_

theorem toRat_of_isZero {d : Decimal} (none_ : d.isZero = true) : d.toRat = 0 := by
  rw [toRat, units_of_isZero none_, Int.cast_zero, zero_div]

theorem isZero_iff_toRat_eq {d : Decimal} : d.isZero = true ↔ d.toRat = 0 := by
  refine ⟨toRat_of_isZero, fun zero => ?_⟩
  rw [toRat, div_eq_zero_iff, or_iff_left (ten_rat_pos _).ne', Int.cast_eq_zero] at zero
  rw [isZero, ← units_natAbs, zero]
  rfl

/-- A number that fits without any fractional digit fits at some scale. -/
theorem fit?_ok {units : Int} {scale : Nat}
    (fits : (roundHalfEven units scale).natAbs ≤ maxUnits) :
    ∃ d dropped, fit? units scale = some d ∧ dropped ≤ scale ∧
      d.units = roundHalfEven units dropped ∧ d.scale = scale - dropped := by
  unfold fit?
  have some_ : ((List.range (scale + 1)).findSome? fun dropped =>
      ofUnits? (roundHalfEven units dropped) (scale - dropped)).isSome = true := by
    rw [List.findSome?_isSome_iff]
    refine ⟨scale, by simp, ?_⟩
    rw [Nat.sub_self]
    obtain ⟨d, made⟩ := ofUnits?_isSome fits (Nat.zero_le maxScale)
    exact Option.isSome_iff_exists.2 ⟨d, made⟩
  obtain ⟨d, found⟩ := Option.isSome_iff_exists.1 some_
  obtain ⟨dropped, inside, made⟩ := List.exists_of_findSome?_eq_some found
  have le : dropped ≤ scale := Nat.le_of_lt_succ (List.mem_range.1 inside)
  obtain ⟨units, place⟩ := ofUnits?_eq_some made
  exact ⟨d, dropped, found, le, units, place⟩

/-- The sum is exact if it fits at the larger scale. -/
theorem add?_exact {a b : Decimal} (fits : (a.unitsAt (max a.scale b.scale)
    + b.unitsAt (max a.scale b.scale)).natAbs ≤ maxUnits) :
    ∃ c, a.add? b = some c ∧ c.toRat = a.toRat + b.toRat ∧ c.scale ≤ max a.scale b.scale := by
  unfold add?
  split
  · rename_i none_
    exact ⟨b, rfl, by rw [toRat_of_isZero none_, zero_add], Nat.le_max_right ..⟩
  · split
    · rename_i none_
      exact ⟨a, rfl, by rw [toRat_of_isZero none_, add_zero], Nat.le_max_left ..⟩
    · have place : max a.scale b.scale ≤ maxScale := Nat.max_le.2 ⟨a.scale_le, b.scale_le⟩
      obtain ⟨c, made⟩ := ofUnits?_isSome fits place
      obtain ⟨units, scale⟩ := ofUnits?_eq_some made
      refine ⟨c, fit?_eq_of_ofUnits? made, ?_, Nat.le_of_eq scale⟩
      rw [toRat_unitsAt a (Nat.le_max_left _ b.scale), toRat_unitsAt b (Nat.le_max_right a.scale _),
        toRat, units, scale, Int.cast_add, add_div]

theorem units_neg (d : Decimal) : d.neg.units = -d.units := by
  rw [neg, units_canonical]
  unfold units
  cases d.negative <;> simp

theorem toRat_neg (d : Decimal) : d.neg.toRat = -d.toRat := by
  rw [toRat, toRat, units_neg, Int.cast_neg, neg_div]
  rfl

theorem sub?_exact {a b : Decimal} (fits : (a.unitsAt (max a.scale b.scale)
    - b.unitsAt (max a.scale b.scale)).natAbs ≤ maxUnits) :
    ∃ c, a.sub? b = some c ∧ c.toRat = a.toRat - b.toRat ∧ c.scale ≤ max a.scale b.scale := by
  have same : b.neg.unitsAt (max a.scale b.neg.scale) = -b.unitsAt (max a.scale b.scale) := by
    rw [unitsAt, units_neg, Int.neg_mul]
    rfl
  obtain ⟨c, sum, value, scale⟩ := add?_exact (a := a) (b := b.neg) (by
    rw [same, ← Int.sub_eq_add_neg]
    exact fits)
  exact ⟨c, sum, by rw [value, toRat_neg, sub_eq_add_neg], scale⟩

namespace IsFixed

variable {a b d : Decimal} {j k : Int}

theorem of_toRat (place : d.scale ≤ fixedPlaces) (value : d.toRat = k / (ten fixedPlaces : ℚ)) :
    d.IsFixed k := by
  refine ⟨place, ?_⟩
  rw [toRat_unitsAt d place, div_left_inj' (ten_rat_pos _).ne'] at value
  exact_mod_cast value

theorem neg (fixed : d.IsFixed k) : d.neg.IsFixed (-k) := by
  refine ⟨fixed.scale_le, ?_⟩
  rw [units_neg, Int.neg_mul]
  exact congrArg Neg.neg fixed.units_mul

/-- What fits at eighteen digits fits at the larger of the two scales. -/
theorem unitsAt_le (left : a.IsFixed j) (right : b.IsFixed k) (fits : (j + k).natAbs ≤ maxUnits) :
    (a.unitsAt (max a.scale b.scale) + b.unitsAt (max a.scale b.scale)).natAbs ≤ maxUnits := by
  have place : max a.scale b.scale ≤ fixedPlaces := Nat.max_le.2 ⟨left.scale_le, right.scale_le⟩
  have raise (d : Decimal) (le : d.scale ≤ max a.scale b.scale) :
      d.unitsAt (max a.scale b.scale) * ten (fixedPlaces - max a.scale b.scale) =
        d.units * ten (fixedPlaces - d.scale) := by
    have digits : fixedPlaces - d.scale =
        (max a.scale b.scale - d.scale) + (fixedPlaces - max a.scale b.scale) := by omega
    rw [unitsAt, digits, Radix.ten_add, Int.natCast_mul, Int.mul_assoc]
  have whole : (a.unitsAt (max a.scale b.scale) + b.unitsAt (max a.scale b.scale)) *
      ten (fixedPlaces - max a.scale b.scale) = j + k := by
    rw [Int.add_mul, raise a (Nat.le_max_left ..), raise b (Nat.le_max_right ..), left.units_mul,
      right.units_mul]
  rw [← whole] at fits
  exact (Radix.natAbs_le_mul_ten ..).trans fits

theorem add? (left : a.IsFixed j) (right : b.IsFixed k) (fits : (j + k).natAbs ≤ maxUnits) :
    ∃ c, a.add? b = some c ∧ c.IsFixed (j + k) := by
  obtain ⟨c, sum, value, scale⟩ := add?_exact (left.unitsAt_le right fits)
  refine ⟨c, sum, of_toRat (scale.trans (Nat.max_le.2 ⟨left.scale_le, right.scale_le⟩)) ?_⟩
  rw [value, left.toRat, right.toRat, Int.cast_add, add_div]

theorem sub? (left : a.IsFixed j) (right : b.IsFixed k) (fits : (j - k).natAbs ≤ maxUnits) :
    ∃ c, a.sub? b = some c ∧ c.IsFixed (j - k) := by
  rw [Int.sub_eq_add_neg] at fits ⊢
  exact left.add? right.neg fits

end IsFixed

/-! ## Multiples, quotients and products -/

namespace IsFixed

variable {d a b : Decimal} {j k : Int}

theorem multiple (fixed : d.IsFixed k) (n : Nat) (fitsUnits : k.natAbs ≤ maxUnits)
    (fits : (k * n).natAbs ≤ maxUnits) : ∃ e, d.multiple n = .ok e ∧ e.IsFixed (k * n) := by
  obtain ⟨e, made, exact_⟩ := ofFixed_ok fits
  refine ⟨e, ?_, exact_⟩
  have word : fitsWord (k * n) = true :=
    fitsWord_of_natAbs_lt (Nat.lt_of_le_of_lt fits (by decide))
  unfold Decimal.multiple
  rw [fixed.toFixed fitsUnits]
  simp [word, made]

end IsFixed

/-- Digits beyond the eighteenth are cut toward zero. -/
theorem fixedUnits_eq_wholePart (d : Decimal) :
    d.fixedUnits = wholePart (d.toRat * ten fixedPlaces) := by
  have unit := ten_rat_pos fixedPlaces
  by_cases short : d.scale ≤ fixedPlaces
  · rw [toRat_unitsAt d short, div_mul_cancel₀ _ unit.ne', wholePart_intCast, fixedUnits,
      truncate_of_le short]
    rfl
  · have beyond : fixedPlaces < d.scale := Nat.lt_of_not_le short
    have place : (d.truncate fixedPlaces).scale = fixedPlaces := by
      unfold truncate
      rw [dif_pos beyond]
    have value : d.toRat * ten fixedPlaces = d.units / (ten (d.scale - fixedPlaces) : ℕ) := by
      have rest := ten_rat_pos (d.scale - fixedPlaces)
      rw [toRat, ← Radix.ten_mul_ten_sub beyond.le]
      push_cast
      field_simp
    rw [fixedUnits, place, Nat.sub_self, Radix.ten_zero, units_truncate beyond, value,
      wholePart_div, wholePart_intCast]
    exact Int.mul_one _

/-- A number of at least zero is cut to the units below it. -/
theorem fixedUnits_eq_floor {d : Decimal} (nonneg : 0 ≤ d.toRat) :
    d.fixedUnits = ⌊d.toRat * ten fixedPlaces⌋ := by
  have unit := ten_rat_pos fixedPlaces
  rw [fixedUnits_eq_wholePart, wholePart_of_nonneg (by positivity)]

/-- A quotient is cut to the units below it. -/
theorem quotient_ok {d : Decimal} {n : Nat} (positive : n ≠ 0)
    (fits : d.fixedUnits.natAbs ≤ maxUnits) :
    ∃ e, d.quotient n = .ok e ∧ e.IsFixed (d.fixedUnits.tdiv n) := by
  obtain ⟨e, made, fixed⟩ := ofFixed_ok (Nat.le_trans (Int.natAbs_tdiv_le_natAbs ..) fits)
  refine ⟨e, ?_, fixed⟩
  unfold quotient toFixed
  rw [if_neg positive, if_pos fits]
  exact made

theorem ratio_ok {part whole : Nat} (positive : whole ≠ 0)
    (fits : part * ten fixedPlaces ≤ maxUnits) :
    ∃ e, ratio part whole = .ok e ∧ e.IsFixed (part * ten fixedPlaces / whole : Nat) := by
  have small : part ≤ maxUnits :=
    Nat.le_trans (Nat.le_mul_of_pos_right _ (Radix.ten_pos _)) fits
  have made : ofNat? part = some ⟨false, part, 0, small, Nat.zero_le _⟩ := by
    unfold ofNat? make?
    rw [dif_pos ⟨small, Nat.zero_le _⟩]
  have fixed : (⟨false, part, 0, small, Nat.zero_le _⟩ : Decimal).IsFixed
      (part * ten fixedPlaces : Nat) := ⟨Nat.zero_le _, (Int.natCast_mul ..).symm⟩
  obtain ⟨e, quotient, exact_⟩ := quotient_ok (d := ⟨false, part, 0, small, Nat.zero_le _⟩)
    positive (by rwa [fixed.fixedUnits, Int.natAbs_natCast])
  refine ⟨e, ?_, ?_⟩
  · unfold ratio
    rw [made]
    exact quotient
  · rwa [fixed.fixedUnits, ← Int.ofNat_tdiv] at exact_

namespace IsFixed

variable {a b : Decimal} {j k : Int}

theorem product (left : a.IsFixed j) (right : b.IsFixed k) (fitsUnits : j.natAbs ≤ maxUnits)
    (fitsWord : (j * k).natAbs < Radix.two 127)
    (fits : ((j * k).tdiv (ten fixedPlaces)).natAbs ≤ maxUnits) :
    ∃ e, a.product b = .ok e ∧ e.IsFixed ((j * k).tdiv (ten fixedPlaces)) := by
  have word : Decimal.fitsWord (j * b.units) = true := by
    refine fitsWord_of_natAbs_lt (Nat.lt_of_le_of_lt ?_ fitsWord)
    rw [Int.natAbs_mul, Int.natAbs_mul]
    exact Nat.mul_le_mul_left _ right.natAbs_units_le
  have cut : (j * b.units).tdiv (ten b.scale) = (j * k).tdiv (ten fixedPlaces) := by
    rw [← right.units_mul, ← Int.mul_assoc, ← Radix.ten_cast_mul_ten_sub right.scale_le,
      Int.mul_tdiv_mul_of_pos_left _ _ (Radix.ten_cast_pos _)]
  obtain ⟨e, made, fixed⟩ := ofFixed_ok fits
  refine ⟨e, ?_, fixed⟩
  unfold Decimal.product
  rw [left.toFixed fitsUnits]
  simp [word, cut, made]

end IsFixed

end Decimal

end Suffrage
