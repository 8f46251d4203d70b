/-
# Suffrage.Proofs.Truncation -- arithmetic cut at eighteen digits

Quotients, multiples and products are the exact numbers, cut toward zero at eighteen fractional
digits (`Decimal.cut`).

* A quotient cuts its operand, divides, and cuts again.  One cut at the end gives the same number
  (`Decimal.wholePart_div`), so digits beyond the eighteenth do no harm.
* A multiple is exact once its operand is cut.
* A product cuts its first operand and then the exact product; operands of no more than eighteen
  digits may be exchanged.

A result is given exactly when the operand and the result fit 96 bits at eighteen digits
(`Decimal.Representable`); for a product the bound on the way is a matter of its own.  Every result
is trimmed, and a trimmed decimal is determined by its value (`Decimal.Trimmed.eq_of_toRat`): equal
results are the same decimal, down to the scale.
-/
import Suffrage.Proofs.Places

namespace Suffrage

set_option autoImplicit false

open Decimal (fixedPlaces maxUnits)
open Radix (ten)

namespace Decimal

/-! ## Trimmed decimals -/

/-- No digit can be dropped: the last fractional digit is not zero, and a zero has no sign. -/
structure Trimmed (d : Decimal) : Prop where
  last : d.scale = 0 ∨ d.magnitude % 10 ≠ 0
  unsigned : d.magnitude = 0 → d.negative = false

theorem trimmed_normalize (d : Decimal) : d.normalize.Trimmed where
  last := stripZeros_last d.scale d.magnitude
  unsigned := by
    intro none_
    have whole : d.normalize.magnitude * ten (d.scale - d.normalize.scale) = d.magnitude :=
      stripZeros_value d.scale d.magnitude
    have zero : d.magnitude = 0 := by rw [← whole, none_, Nat.zero_mul]
    show (d.negative && d.magnitude != 0) = false
    simp [zero]

theorem stripZeros_of_last {scale magnitude : Nat} (last : scale = 0 ∨ magnitude % 10 ≠ 0) :
    stripZeros scale magnitude = (magnitude, scale) := by
  cases scale with
  | zero => rfl
  | succ scale =>
      rcases last with none_ | last
      · cases none_
      · rw [stripZeros, if_neg last]

theorem canonical_of_unsigned {d : Decimal} (unsigned : d.magnitude = 0 → d.negative = false) :
    d.canonical = d := by
  obtain ⟨negative, magnitude, scale, _, _⟩ := d
  cases magnitude with
  | zero =>
      have positive : negative = false := unsigned rfl
      subst positive
      rfl
  | succ n => simp [canonical]

theorem Trimmed.normalize {d : Decimal} (trimmed : d.Trimmed) : d.normalize = d := by
  have sign : d.canonical.negative = d.negative := by rw [canonical_of_unsigned trimmed.unsigned]
  obtain ⟨negative, magnitude, scale, _, _⟩ := d
  simp only [Decimal.normalize, stripZeros_of_last trimmed.last, sign]

/-- The digits that a number needs are a matter of its value. -/
theorem significantPlaces_eq_of_toRat {d e : Decimal} (same : d.toRat = e.toRat) :
    d.significantPlaces = e.significantPlaces := by
  have le {d e : Decimal} (same : d.toRat = e.toRat) :
      d.significantPlaces ≤ e.significantPlaces := by
    obtain ⟨k, whole⟩ := wholeAt_iff.2 (Nat.le_refl e.significantPlaces)
    exact wholeAt_iff.1 ⟨k, by rw [same, whole]⟩
  exact Nat.le_antisymm (le same) (le same.symm)

/-- A trimmed decimal is determined by its value. -/
theorem Trimmed.eq_of_toRat {d e : Decimal} (left : d.Trimmed) (right : e.Trimmed)
    (same : d.toRat = e.toRat) : d = e := by
  have scales : d.scale = e.scale := by
    have := significantPlaces_eq_of_toRat same
    rwa [significantPlaces, significantPlaces, left.normalize, right.normalize] at this
  have units : d.units = e.units := by
    rw [toRat, toRat, scales, div_left_inj' (ten_rat_pos _).ne'] at same
    exact_mod_cast same
  have parts : some d.canonical = some e.canonical := by
    rw [← ofUnits?_units, ← ofUnits?_units, units, scales]
  rw [canonical_of_unsigned left.unsigned, canonical_of_unsigned right.unsigned] at parts
  exact Option.some.inj parts

/-! ## Cut numbers -/

/-- `x` cut toward zero at eighteen fractional digits. -/
def cut (x : ℚ) : ℚ := wholePart (x * 10 ^ 18) / 10 ^ 18

/-- At eighteen fractional digits `x` needs no more than 96 bits. -/
def Representable (x : ℚ) : Prop := |x| * 10 ^ 18 ≤ 2 ^ 96 - 1

theorem cut_eq {x : ℚ} {k : ℤ} (whole : wholePart (x * ten fixedPlaces) = k) :
    cut x = k / ten fixedPlaces := by
  rw [cut, ← ten_fixedPlaces, whole]

theorem cut_toRat (d : Decimal) : cut d.toRat = d.fixedUnits / ten fixedPlaces :=
  cut_eq d.fixedUnits_eq_wholePart.symm

theorem representable_iff {k : ℤ} :
    Representable (k / ten fixedPlaces) ↔ k.natAbs ≤ maxUnits := by
  have unit := ten_rat_pos fixedPlaces
  have size : |(k : ℚ) / ten fixedPlaces| * ten fixedPlaces = k.natAbs := by
    rw [abs_div, abs_of_pos unit, div_mul_cancel₀ _ unit.ne', Nat.cast_natAbs, Int.cast_abs]
  have limit : (2 : ℚ) ^ 96 - 1 = maxUnits := by norm_num [maxUnits]
  rw [Representable, ← ten_fixedPlaces, size, limit]
  exact Nat.cast_le

/-- A number of no more than eighteen digits is not cut. -/
theorem cut_of_short {d : Decimal} (short : d.significantPlaces ≤ fixedPlaces) :
    cut d.toRat = d.toRat := by
  obtain ⟨k, whole⟩ := wholeAt_iff.2 short
  have unit : (10 : ℚ) ^ 18 ≠ 0 := by positivity
  have whole' : d.toRat * 10 ^ 18 = k := whole
  rw [cut, whole', wholePart_intCast, ← whole', mul_div_cancel_right₀ _ unit]

theorem cut_quotient (d : Decimal) (n : Nat) :
    cut (d.toRat / n) = (d.fixedUnits.tdiv n : ℤ) / (ten fixedPlaces : ℚ) := by
  refine cut_eq ?_
  rw [div_mul_eq_mul_div, wholePart_div, ← fixedUnits_eq_wholePart]

theorem cut_product (a b : Decimal) :
    cut (cut a.toRat * b.toRat) =
      ((a.fixedUnits * b.units).tdiv (ten b.scale) : ℤ) / (ten fixedPlaces : ℚ) := by
  have unit := ten_rat_pos fixedPlaces
  have exact_ : a.fixedUnits / (ten fixedPlaces : ℚ) * b.toRat * ten fixedPlaces =
      (a.fixedUnits * b.units : ℤ) / (ten b.scale : ℕ) := by
    rw [toRat]
    push_cast
    field_simp
  rw [cut_toRat]
  refine cut_eq ?_
  rw [exact_, wholePart_div, wholePart_intCast]

/-! ## Results -/

theorem ofFixed_ok_iff {k : ℤ} : (∃ e, ofFixed k = .ok e) ↔ k.natAbs ≤ maxUnits := by
  constructor
  · rintro ⟨e, ok⟩
    unfold ofFixed ofUnits? make? at ok
    split at ok
    · rename_i made
      split at made
      · rename_i bounds
        exact bounds.1
      · cases made
    · split at ok <;> cases ok
  · intro fits
    obtain ⟨e, ok, -⟩ := ofFixed_ok fits
    exact ⟨e, ok⟩

theorem of_ofFixed_ok {k : ℤ} {e : Decimal} (ok : ofFixed k = .ok e) :
    e.toRat = k / ten fixedPlaces ∧ e.Trimmed := by
  obtain ⟨e', ok', fixed⟩ := ofFixed_ok (ofFixed_ok_iff.1 ⟨e, ok⟩)
  rw [ok] at ok'
  cases ok'
  refine ⟨fixed.toRat, ?_⟩
  unfold ofFixed at ok
  split at ok
  · cases ok
    exact trimmed_normalize _
  · split at ok <;> cases ok

variable {a b d e : Decimal} {n : Nat}

theorem toFixed_bind_ok_iff {next : ℤ → Except ValueError Decimal} :
    d.toFixed.bind next = .ok e ↔ Representable (cut d.toRat) ∧ next d.fixedUnits = .ok e := by
  rw [cut_toRat, representable_iff]
  unfold toFixed
  by_cases fits : d.fixedUnits.natAbs ≤ maxUnits
  · rw [if_pos fits, Result.bind_ok, and_iff_right fits]
  · rw [if_neg fits]
    exact iff_of_false nofun fun both => fits both.1

theorem quotient_ok_iff :
    d.quotient n = .ok e ↔
      (0 < n ∧ Representable (cut d.toRat)) ∧ ofFixed (d.fixedUnits.tdiv n) = .ok e := by
  unfold quotient
  by_cases zero : n = 0
  · simp [zero]
  · rw [if_neg zero, toFixed_bind_ok_iff, and_iff_right (Nat.pos_of_ne_zero zero)]

/-- A result of 96 bits is small enough for the product on the way. -/
theorem multiple_ok_iff :
    d.multiple n = .ok e ↔
      Representable (cut d.toRat) ∧ ofFixed (d.fixedUnits * n) = .ok e := by
  unfold multiple
  rw [toFixed_bind_ok_iff]
  refine and_congr_right fun _ => ?_
  by_cases word : fitsWord (d.fixedUnits * n) = true
  · rw [if_pos word]
  · rw [if_neg word]
    refine iff_of_false nofun fun ok => word (fitsWord_of_natAbs_lt ?_)
    exact (ofFixed_ok_iff.1 ⟨e, ok⟩).trans_lt (by decide)

theorem product_ok_iff :
    a.product b = .ok e ↔
      Representable (cut a.toRat) ∧ fitsWord (a.fixedUnits * b.units) = true ∧
        ofFixed ((a.fixedUnits * b.units).tdiv (ten b.scale)) = .ok e := by
  unfold product
  rw [toFixed_bind_ok_iff]
  refine and_congr_right fun _ => ?_
  by_cases word : fitsWord (a.fixedUnits * b.units) = true
  · rw [if_pos word, and_iff_right word]
  · rw [if_neg word]
    exact iff_of_false nofun fun both => word both.1

/-- A quotient that is given is the exact one, cut once. -/
theorem of_quotient_ok (ok : d.quotient n = .ok e) :
    e.toRat = cut (d.toRat / n) ∧ e.Trimmed := by
  rw [cut_quotient]
  exact of_ofFixed_ok (quotient_ok_iff.1 ok).2

theorem of_multiple_ok (ok : d.multiple n = .ok e) :
    e.toRat = cut d.toRat * n ∧ e.Trimmed := by
  obtain ⟨value, trimmed⟩ := of_ofFixed_ok (multiple_ok_iff.1 ok).2
  refine ⟨?_, trimmed⟩
  rw [value, cut_toRat, Int.cast_mul, Int.cast_natCast, mul_div_right_comm]

theorem of_product_ok (ok : a.product b = .ok e) :
    e.toRat = cut (cut a.toRat * b.toRat) ∧ e.Trimmed := by
  rw [cut_product]
  exact of_ofFixed_ok (product_ok_iff.1 ok).2.2

theorem quotient_given_iff :
    (∃ e, d.quotient n = .ok e) ↔ 0 < n ∧ Representable (cut d.toRat) := by
  simp only [quotient_ok_iff, exists_and_left, ofFixed_ok_iff]
  refine and_iff_left_of_imp fun ⟨_, fits⟩ => ?_
  rw [cut_toRat, representable_iff] at fits
  exact (Int.natAbs_tdiv_le_natAbs d.fixedUnits n).trans fits

theorem multiple_given_iff :
    (∃ e, d.multiple n = .ok e) ↔
      Representable (cut d.toRat) ∧ Representable (cut d.toRat * n) := by
  have times : cut d.toRat * n = (d.fixedUnits * n : ℤ) / (ten fixedPlaces : ℚ) := by
    rw [cut_toRat, Int.cast_mul, Int.cast_natCast, mul_div_right_comm]
  simp only [multiple_ok_iff, exists_and_left, ofFixed_ok_iff, times, representable_iff]

/-- Operands of no more than eighteen digits may be exchanged. -/
theorem product_comm_of_short {e' : Decimal} (shortLeft : a.significantPlaces ≤ fixedPlaces)
    (shortRight : b.significantPlaces ≤ fixedPlaces) (ok : a.product b = .ok e)
    (ok' : b.product a = .ok e') : e = e' := by
  obtain ⟨value, trimmed⟩ := of_product_ok ok
  obtain ⟨value', trimmed'⟩ := of_product_ok ok'
  refine trimmed.eq_of_toRat trimmed' ?_
  rw [value, value', cut_of_short shortLeft, cut_of_short shortRight, mul_comm]

end Decimal

open Decimal (Representable cut)

/-- Quotients, multiples and products of any decimals are exact numbers cut toward zero at eighteen
digits, and trimmed.  A quotient is given unless the divisor is zero or the operand does not fit at
eighteen digits, a multiple if operand and result fit. -/
theorem fixed_arithmetic_exact (d a b : Decimal) (n : Nat) :
    ((∃ e, d.quotient n = .ok e) ↔ 0 < n ∧ Representable (cut d.toRat)) ∧
    (∀ e, d.quotient n = .ok e → e.toRat = cut (d.toRat / n) ∧ e.Trimmed) ∧
    ((∃ e, d.multiple n = .ok e) ↔
      Representable (cut d.toRat) ∧ Representable (cut d.toRat * n)) ∧
    (∀ e, d.multiple n = .ok e → e.toRat = cut d.toRat * n ∧ e.Trimmed) ∧
    (∀ e, a.product b = .ok e → e.toRat = cut (cut a.toRat * b.toRat) ∧ e.Trimmed) ∧
    (a.significantPlaces ≤ 18 → b.significantPlaces ≤ 18 →
      ∀ e e', a.product b = .ok e → b.product a = .ok e' → e = e') :=
  ⟨Decimal.quotient_given_iff, fun _ => Decimal.of_quotient_ok, Decimal.multiple_given_iff,
    fun _ => Decimal.of_multiple_ok, fun _ => Decimal.of_product_ok,
    fun shortLeft shortRight _ _ => Decimal.product_comm_of_short shortLeft shortRight⟩

/-- A little below minus two, in the last digit that a decimal can have. -/
def Decimal.belowMinusTwo : Decimal :=
  ⟨true, 20000000000000000000000000001, maxScale, by decide, Nat.le_refl _⟩

/-- A third at eighteen digits. -/
def Decimal.shortThird : Decimal := ⟨false, 333333333333333333, 18, by decide, by decide⟩

/-- The quotient of a negative number is cut toward zero, and half a third loses its last digit in
either order. -/
theorem fixed_arithmetic_exact_sample :
    (∃ e, Decimal.belowMinusTwo.quotient 3 = .ok e ∧ e.magnitude = 666666666666666666 ∧
      e.toRat = cut (Decimal.belowMinusTwo.toRat / (3 : ℕ))) ∧
    Decimal.half.significantPlaces ≤ 18 ∧ Decimal.shortThird.significantPlaces ≤ 18 ∧
    ∃ e, Decimal.half.product .shortThird = .ok e ∧ Decimal.shortThird.product .half = .ok e ∧
      e.magnitude = 166666666666666666 := by
  obtain ⟨-, quotient, -, -, -, exchange⟩ :=
    fixed_arithmetic_exact .belowMinusTwo .half .shortThird 3
  have short : Decimal.half.significantPlaces ≤ 18 := by decide
  have short' : Decimal.shortThird.significantPlaces ≤ 18 := by decide +kernel
  have divided : Decimal.belowMinusTwo.quotient 3 =
      .ok ⟨true, 666666666666666666, 18, by decide, by decide⟩ := by decide +kernel
  have forth : Decimal.half.product .shortThird =
      .ok ⟨false, 166666666666666666, 18, by decide, by decide⟩ := by decide +kernel
  obtain ⟨e, back⟩ : ∃ e, Decimal.shortThird.product .half = .ok e :=
    ⟨⟨false, 166666666666666666, 18, by decide, by decide⟩, by decide +kernel⟩
  refine ⟨⟨_, divided, rfl, (quotient _ divided).1⟩, short, short', _, forth, ?_, rfl⟩
  rw [exchange short short' _ _ forth back, back]

end Suffrage
