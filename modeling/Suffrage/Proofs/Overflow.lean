/-
# Suffrage.Proofs.Overflow -- the word on the way to a product

A product multiplies whole numbers in a word of 128 bits and then drops as many digits as its
second operand has.  On the way it is larger than its result by that power of ten, whatever the
values are.

* Behind up to nine digits there is always room: a result of 96 bits comes from a word of less than
  127 (`Decimal.fitsWord_of_few`).
* From ten digits on there are operands that fit, with a product that fits, and no result.  Trailing
  zeros are enough: `1 * 1.0000000000000000000000000000` is refused (`product_by_one_overflows`).
-/
import Suffrage.Proofs.Truncation

namespace Suffrage

set_option autoImplicit false

open Decimal (maxUnits Representable cut)
open Radix (ten)

namespace Decimal

theorem fitsWord_iff {n : ℤ} : fitsWord n = true ↔ -2 ^ 127 ≤ n ∧ n < 2 ^ 127 := by
  unfold fitsWord
  rw [Bool.and_eq_true, decide_eq_true_eq, decide_eq_true_eq]
  rfl

/-- Up to nine digits are dropped from a word to leave 96 bits. -/
theorem fitsWord_of_few {n : ℤ} {places : Nat} (few : places ≤ 9)
    (fits : (n.tdiv (ten places)).natAbs ≤ maxUnits) : fitsWord n = true := by
  rw [Int.natAbs_tdiv, Int.natAbs_natCast] at fits
  refine fitsWord_of_natAbs_lt ?_
  calc n.natAbs < (maxUnits + 1) * ten places :=
        (Nat.div_lt_iff_lt_mul (Radix.ten_pos _)).1 (Nat.lt_succ_of_le fits)
    _ ≤ (maxUnits + 1) * ten 9 := Nat.mul_le_mul_left _ (Radix.ten_le_ten few)
    _ < Radix.two 127 := by decide

variable {a b : Decimal}

theorem product_given_iff :
    (∃ e, a.product b = .ok e) ↔
      Representable (cut a.toRat) ∧ Representable (cut (cut a.toRat * b.toRat)) ∧
        fitsWord (a.fixedUnits * b.units) = true := by
  simp only [product_ok_iff, exists_and_left, ofFixed_ok_iff, cut_product, representable_iff]
  rw [and_comm (a := fitsWord _ = true)]

/-- What the word holds is the exact product with all of its digits. -/
theorem word_eq (a b : Decimal) :
    ((a.fixedUnits * b.units : ℤ) : ℚ) = cut a.toRat * b.toRat * 10 ^ (18 + b.scale) := by
  have unit : (10 : ℚ) ^ 18 ≠ 0 := by positivity
  have unit' : (10 : ℚ) ^ b.scale ≠ 0 := by positivity
  rw [cut_toRat, toRat, ten_fixedPlaces, ten_rat, pow_add]
  push_cast
  field_simp

/-- An operand that fits and is refused was too large for the word. -/
theorem product_refused (fits : Representable (cut a.toRat))
    (wide : ¬fitsWord (a.fixedUnits * b.units) = true) :
    a.product b = .error (.arithmetic (a.render ++ " * " ++ b.render ++ " overflows")) := by
  rw [cut_toRat, representable_iff] at fits
  unfold product toFixed
  rw [if_pos fits, Result.bind_ok, if_neg wide]

/-- Ten thousand million. -/
def tenBillion : Decimal := ⟨false, 10000000000, 0, by decide, Nat.zero_le _⟩

/-- Two, with this many zeros behind the point. -/
def twoAt (places : Nat) (le : places ≤ maxScale) : Decimal :=
  { negative := false
    magnitude := 2 * ten places
    scale := places
    magnitude_le := (Nat.mul_le_mul_left 2 (Radix.ten_le_ten le)).trans (by decide)
    scale_le := le }

/-- From ten places on, twice the number is too large for the word. -/
theorem tenBillion_product_twoAt {places : Nat} (many : 10 ≤ places) (le : places ≤ maxScale) :
    Representable (cut tenBillion.toRat) ∧
      Representable (cut (cut tenBillion.toRat * (twoAt places le).toRat)) ∧
      ¬fitsWord (tenBillion.fixedUnits * (twoAt places le).units) = true := by
  have operand : tenBillion.fixedUnits = (ten 28 : ℤ) := by decide
  have factor : (twoAt places le).units = 2 * (ten places : ℤ) := rfl
  have scale : (twoAt places le).scale = places := rfl
  have positive := Radix.ten_cast_pos places
  refine ⟨?_, ?_, ?_⟩
  · rw [cut_toRat, representable_iff, operand]
    decide
  · rw [cut_product, representable_iff, operand, factor, scale, ← Int.mul_assoc,
      Int.mul_tdiv_cancel _ positive.ne']
    decide
  · have large : (ten 10 : ℤ) ≤ ten places := by exact_mod_cast Radix.ten_le_ten many
    have beyond : (2 : ℤ) ^ 127 ≤ ten 28 * (2 * ten 10) := by decide
    have step : (ten 28 : ℤ) * (2 * ten 10) ≤ ten 28 * (2 * ten places) :=
      Int.mul_le_mul_of_nonneg_left (by omega) (by decide)
    rw [operand, factor, fitsWord_iff]
    omega

end Decimal

/-- A product is given exactly when its first operand and its result fit 96 bits at eighteen digits,
and the exact product with all digits of both fits a word of 128 bits.  Operands with a result that
fits, and no room in the word, exist for every scale of the second operand from ten on, and for no
smaller one. -/
theorem product_overflow_exact (a b : Decimal) (places : Nat) :
    ((∃ e, a.product b = .ok e) ↔
      Representable (cut a.toRat) ∧ Representable (cut (cut a.toRat * b.toRat)) ∧
      -2 ^ 127 ≤ cut a.toRat * b.toRat * 10 ^ (18 + b.scale) ∧
      cut a.toRat * b.toRat * 10 ^ (18 + b.scale) < 2 ^ 127) ∧
    ((∃ c d : Decimal, d.scale = places ∧ Representable (cut c.toRat) ∧
      Representable (cut (cut c.toRat * d.toRat)) ∧
      c.product d = .error (.arithmetic (c.render ++ " * " ++ d.render ++ " overflows"))) ↔
      10 ≤ places ∧ places ≤ 28) := by
  constructor
  · rw [Decimal.product_given_iff, Decimal.fitsWord_iff, ← Decimal.word_eq]
    norm_cast
  · constructor
    · rintro ⟨c, d, rfl, fits, fits', refused⟩
      refine ⟨Nat.lt_of_not_le fun few => ?_, d.scale_le⟩
      have small := fits'
      rw [Decimal.cut_product, Decimal.representable_iff] at small
      obtain ⟨e, ok⟩ := Decimal.product_given_iff.2
        ⟨fits, fits', Decimal.fitsWord_of_few few small⟩
      rw [ok] at refused
      cases refused
    · rintro ⟨many, le⟩
      obtain ⟨fits, fits', wide⟩ := Decimal.tenBillion_product_twoAt many le
      exact ⟨.tenBillion, .twoAt places le, rfl, fits, fits', Decimal.product_refused fits wide⟩

/-- One, written with all the zeros that a decimal can have. -/
def Decimal.longOne : Decimal :=
  ⟨false, 10000000000000000000000000000, maxScale, by decide, Nat.le_refl _⟩

theorem product_by_one_overflows :
    Representable (cut Decimal.one.toRat) ∧
    Representable (cut (cut Decimal.one.toRat * Decimal.longOne.toRat)) ∧
    Decimal.one.product .longOne =
      .error (.arithmetic "1 * 1.0000000000000000000000000000 overflows") := by
  refine ⟨?_, ?_, by decide +kernel⟩
  · rw [Decimal.cut_toRat, Decimal.representable_iff]
    decide
  · rw [Decimal.cut_product, Decimal.representable_iff]
    decide +kernel

end Suffrage
