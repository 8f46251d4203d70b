/-
# Suffrage.Proofs.Rendering -- a written decimal reads back

`Decimal.render` writes a decimal with all its places, and `Decimal.read?` keeps the places that are
written.  So the decimal comes back with its magnitude and its scale, and with its sign unless it is
a zero (`Decimal.read?_render`).  The text itself keeps the sign of a zero, so no two decimals are
written alike (`Decimal.render_inj`).

The reader takes the digits one by one (`readDigits_cons`).  After the digits of `n` it has read `n`
units, before the point (`readDigits_numeral`) and behind it (`readDigits_fixedDigits`).
-/
import Mathlib.Tactic.IntervalCases
import Suffrage.Decimal.Text

namespace Suffrage

set_option autoImplicit false

/-! ## Digits -/

namespace Text

theorem digitChar_eq_of_lt_ten : ∀ d < 10, digitChar d = d.digitChar := by decide

theorem digit?_digitChar : ∀ d < 10, digit? (digitChar d) = some d := by decide

/-- A numeral ends with the units, and what stands before them is a numeral or nothing. -/
theorem numeral_eq (n : Nat) :
    numeral n = (if n < 10 then [] else numeral (n / 10)) ++ [digitChar (n % 10)] := by
  rw [digitChar_eq_of_lt_ten _ (Nat.mod_lt n (by decide)), numeral]
  by_cases small : n < 10
  · rw [if_pos small, Nat.toDigits_of_lt_base small, Nat.mod_eq_of_lt small, List.nil_append]
  · rw [if_neg small, Nat.toDigits_of_base_le (by decide) (Nat.not_lt.1 small), numeral]

/-- The first character of a numeral is a digit. -/
theorem exists_numeral_eq_cons (n : Nat) : ∃ d < 10, ∃ rest, numeral n = digitChar d :: rest := by
  induction n using Nat.strong_induction_on with
  | _ n ih =>
      rw [numeral_eq]
      by_cases small : n < 10
      · exact ⟨n % 10, Nat.mod_lt n (by decide), [], by rw [if_pos small, List.nil_append]⟩
      · obtain ⟨d, below, rest, first⟩ := ih (n / 10) (by omega)
        exact ⟨d, below, rest ++ [digitChar (n % 10)], by
          rw [if_neg small, first, List.cons_append]⟩

end Text

namespace Decimal

open Text (digitChar fixedDigits numeral)

/-! ## Reading the digits -/

/-- One more digit is read if the units and the places have room for it. -/
theorem readDigits_cons {p : Progress} {d : Nat} (rest : List Char) (digit : d < 10)
    (fits : 10 * p.units + d ≤ maxUnits) (room : p.places < maxScale) :
    readDigits p (digitChar d :: rest) =
      readDigits
        { units := 10 * p.units + d
          places := if p.point then p.places + 1 else 0
          point := p.point
          started := true } rest := by
  have open' : (p.isFull || decide (maxUnits < 10 * p.units + d)) = false := by
    simp [Progress.isFull]
    omega
  rw [readDigits, Text.digit?_digitChar d digit]
  simp only [open', Bool.false_eq_true, if_false]

/-- Before the point. -/
theorem readDigits_numeral (n : Nat) (rest : List Char) (fits : n ≤ maxUnits) :
    readDigits ⟨0, 0, false, false⟩ (numeral n ++ rest) = readDigits ⟨n, 0, false, true⟩ rest := by
  induction n using Nat.strong_induction_on generalizing rest with
  | _ n ih =>
      have units : 10 * (n / 10) + n % 10 = n := Nat.div_add_mod n 10
      have last : n % 10 < 10 := Nat.mod_lt n (by decide)
      rw [Text.numeral_eq, List.append_assoc, List.singleton_append]
      by_cases small : n < 10
      · rw [if_pos small, List.nil_append, Nat.mod_eq_of_lt small,
          readDigits_cons rest small (by simpa using fits) (show 0 < maxScale by decide)]
        simp
      · rw [if_neg small, ih (n / 10) (by omega) _ (by omega),
          readDigits_cons rest last (by simpa only [units] using fits)
            (show 0 < maxScale by decide)]
        simp only [units, Bool.false_eq_true, if_false]

/-- Behind the point.  The digits of `n` above the lowest `width` have been read before. -/
theorem readDigits_fixedDigits (n width places : Nat) (rest : List Char) (fits : n ≤ maxUnits)
    (room : places + width ≤ maxScale) :
    readDigits ⟨n / Radix.ten width, places, true, true⟩ (fixedDigits 10 width n ++ rest) =
      readDigits ⟨n, places + width, true, true⟩ rest := by
  induction width generalizing places with
  | zero => simp [fixedDigits, Radix.ten_zero]
  | succ width ih =>
      have units : 10 * (n / Radix.ten (width + 1)) + n / Radix.ten width % 10 =
          n / Radix.ten width := Radix.div_pow_succ 10 n width
      have fits' : n / Radix.ten width ≤ maxUnits := (Nat.div_le_self _ _).trans fits
      rw [fixedDigits, List.cons_append, ← Radix.ten,
        readDigits_cons _ (Nat.mod_lt _ (by decide)) (by simpa only [units] using fits')
          (by simp only; omega)]
      simp only [units, if_true]
      rw [ih (places + 1) (by omega), Nat.add_right_comm, Nat.add_assoc]

theorem readDigits_renderDigits (n scale : Nat) (fits : n ≤ maxUnits) (room : scale ≤ maxScale) :
    readDigits ⟨0, 0, false, false⟩ (renderDigits n scale) = .ok (n, scale) := by
  unfold renderDigits
  split
  next whole =>
    rw [← List.append_nil (numeral n), readDigits_numeral n [] fits, whole]
    rfl
  next =>
    rw [readDigits_numeral _ _ ((Nat.div_le_self _ _).trans fits)]
    have point : readDigits ⟨n / Radix.ten scale, 0, false, true⟩ ('.' :: fixedDigits 10 scale n) =
        readDigits ⟨n / Radix.ten scale, 0, true, true⟩ (fixedDigits 10 scale n ++ []) := by
      rw [List.append_nil]
      rfl
    rw [point, readDigits_fixedDigits n scale 0 [] fits (by omega), Nat.zero_add]
    rfl

/-! ## The whole text -/

theorem assemble_eq (d : Decimal) :
    assemble d.negative (d.magnitude, d.scale) = .ok d.canonical := by
  rw [assemble, make?, dif_pos ⟨d.magnitude_le, d.scale_le⟩]

/-- Before any point there is a digit. -/
theorem exists_renderDigits_eq_cons (n scale : Nat) :
    ∃ d < 10, ∃ rest, renderDigits n scale = digitChar d :: rest := by
  unfold renderDigits
  split
  · exact Text.exists_numeral_eq_cons n
  · obtain ⟨d, below, rest, first⟩ := Text.exists_numeral_eq_cons (n / Radix.ten scale)
    exact ⟨d, below, _, by rw [first, List.cons_append]⟩

/-- Digits without a sign are a number without a sign. -/
theorem readPlain_renderDigits (n scale : Nat) :
    readPlain (renderDigits n scale) =
      (readDigits ⟨0, 0, false, false⟩ (renderDigits n scale)).bind (assemble false) := by
  obtain ⟨d, below, rest, first⟩ := exists_renderDigits_eq_cons n scale
  rw [first]
  interval_cases d <;> rfl

theorem readPlain_renderChars (d : Decimal) : readPlain d.renderChars = .ok d.canonical := by
  have digits := readDigits_renderDigits d.magnitude d.scale d.magnitude_le d.scale_le
  have whole := assemble_eq d
  unfold renderChars
  cases sign : d.negative with
  | false =>
      rw [sign] at whole
      simp only [Bool.false_eq_true, if_false]
      rw [readPlain_renderDigits, digits]
      exact whole
  | true =>
      rw [sign] at whole
      simp only [if_true, readPlain]
      rw [digits]
      exact whole

/-- A written decimal reads back, and only a zero loses its sign. -/
theorem read?_render (d : Decimal) : read? d.render = some d.canonical := by
  rw [read?, read, render, String.toList_ofList, readChars, readPlain_renderChars]
  rfl

/-! ## No two decimals are written alike -/

/-- A written decimal begins with a minus sign exactly if the decimal has one. -/
theorem head?_renderChars (d : Decimal) : d.renderChars.head? = some '-' ↔ d.negative = true := by
  unfold renderChars
  cases d.negative with
  | true => simp
  | false =>
      obtain ⟨digit, below, rest, first⟩ := exists_renderDigits_eq_cons d.magnitude d.scale
      have apart : ∀ digit < 10, digitChar digit ≠ '-' := by decide
      simp [first, apart digit below]

/-- Reading back gives the digits and the places, and the first character the sign, which a zero
shows as well. -/
theorem render_inj {d e : Decimal} (same : d.render = e.render) : d = e := by
  have canonical : d.canonical = e.canonical := by
    rw [← Option.some_inj, ← read?_render, ← read?_render, same]
  have sign : d.negative = e.negative := by
    rw [Bool.eq_iff_iff, ← head?_renderChars, ← head?_renderChars, String.ofList_inj.1 same]
  have magnitude := congrArg Decimal.magnitude canonical
  have scale := congrArg Decimal.scale canonical
  simp only [Decimal.canonical] at magnitude scale
  rw [← Option.some_inj, ← make?_self, ← make?_self, sign, magnitude, scale]

end Decimal

end Suffrage
