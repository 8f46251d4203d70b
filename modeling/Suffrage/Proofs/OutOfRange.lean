/-
# Suffrage.Proofs.OutOfRange -- what arithmetic at eighteen digits refuses

Quotients, multiples, products and whole-number results are refused for one reason: a number on the
way is too large for its place, or is negative where only a size can be reported
(`Decimal.OutOfRange`).  No divisor of a tally is zero, so its failures never speak of a division
by zero (`Decimal.OutOfRange.not_divided`).
-/
import Suffrage.Proofs.Decimal

namespace Suffrage

set_option autoImplicit false

open Radix (ten)

namespace Decimal

/-- The failures that are due to a number out of its range. -/
inductive OutOfRange : ValueError → Prop where
  /-- An operand needs more than 96 bits at eighteen digits. -/
  | operand (d : Decimal) (wide : maxUnits < d.fixedUnits.natAbs) :
      OutOfRange (doesNotFit d.render fixedPlaces)
  /-- A count is beyond all decimals. -/
  | count (n : Nat) (wide : maxUnits < n) : OutOfRange (doesNotFit (toString n) fixedPlaces)
  /-- A multiple leaves the word of 128 bits. -/
  | multiple (d : Decimal) (n : Nat) (wide : ¬fitsWord (d.fixedUnits * n) = true) :
      OutOfRange (.arithmetic (d.render ++ " * " ++ toString n ++ " overflows"))
  /-- A product leaves the word of 128 bits. -/
  | product (a b : Decimal) (wide : ¬fitsWord (a.fixedUnits * b.units) = true) :
      OutOfRange (.arithmetic (a.render ++ " * " ++ b.render ++ " overflows"))
  | above : OutOfRange (.arithmetic "Number exceeds maximum value that can be represented.")
  | below : OutOfRange (.arithmetic "Number less than minimum value that can be represented.")
  | negative (d : Decimal) (below : d.toRat < 0) :
      OutOfRange (.arithmetic ("cannot scale negative " ++ d.render))
  /-- A value that is raised to a whole number needs more than 96 bits. -/
  | raised (d : Decimal) (places : Nat) (wide : (maxUnits : ℚ) < d.toRat * 10 ^ places) :
      OutOfRange (doesNotFit d.render places)

/-! ## Failing operations -/

variable {a b d : Decimal} {n : Nat} {e : ValueError}

theorem outOfRange_of_ofFixed {k : ℤ} (failed : ofFixed k = .error e) : OutOfRange e := by
  unfold ofFixed at failed
  split at failed
  · cases failed
  · split at failed
    · cases failed
      exact .above
    · cases failed
      exact .below

/-- What is computed from the units of an operand fails for the operand or on its own. -/
theorem outOfRange_of_bind {next : ℤ → Except ValueError Decimal}
    (failed : d.toFixed.bind next = .error e)
    (rest : next d.fixedUnits = .error e → OutOfRange e) : OutOfRange e := by
  unfold toFixed at failed
  split at failed
  · exact rest failed
  · rename_i wide
    cases failed
    exact .operand d (Nat.lt_of_not_le wide)

theorem outOfRange_of_quotient (divisor : n ≠ 0) (failed : d.quotient n = .error e) :
    OutOfRange e := by
  unfold quotient at failed
  rw [if_neg divisor] at failed
  exact outOfRange_of_bind failed outOfRange_of_ofFixed

theorem outOfRange_of_multiple (failed : d.multiple n = .error e) : OutOfRange e := by
  refine outOfRange_of_bind failed fun failed => ?_
  split at failed
  · exact outOfRange_of_ofFixed failed
  · rename_i wide
    cases failed
    exact .multiple d n wide

theorem outOfRange_of_product (failed : a.product b = .error e) : OutOfRange e := by
  refine outOfRange_of_bind failed fun failed => ?_
  split at failed
  · exact outOfRange_of_ofFixed failed
  · rename_i wide
    cases failed
    exact .product a b wide

theorem outOfRange_of_ratio {part whole : Nat} (divisor : whole ≠ 0)
    (failed : ratio part whole = .error e) : OutOfRange e := by
  unfold ratio at failed
  split at failed
  · exact outOfRange_of_quotient divisor failed
  · rename_i none_
    cases failed
    unfold ofNat? make? at none_
    split at none_
    · cases none_
    · rename_i wide
      exact .count part (Nat.lt_of_not_le fun le => wide ⟨le, Nat.zero_le _⟩)

/-! ## The texts -/

theorem isDigit_digitChar : ∀ n < 10, (Text.digitChar n).isDigit = true := by decide

theorem isDigit_of_mem_fixedDigits {width : Nat} {c : Char}
    (inside : c ∈ Text.fixedDigits 10 width n) : c.isDigit = true := by
  induction width with
  | zero => cases inside
  | succ width ih =>
      rcases List.mem_cons.1 inside with rfl | later
      · exact isDigit_digitChar _ (Nat.mod_lt _ (by decide))
      · exact ih later

/-- A decimal is written with digits, a point and a minus sign. -/
theorem mem_renderChars {c : Char} (inside : c ∈ d.renderChars) :
    c.isDigit = true ∨ c = '.' ∨ c = '-' := by
  have digits {c : Char} {n : Nat} (inside : c ∈ Text.numeral n) : c.isDigit = true :=
    Nat.isDigit_of_mem_toDigits (by decide) (Nat.le_refl 10) inside
  have unsigned {n scale : Nat} (inside : c ∈ renderDigits n scale) :
      c.isDigit = true ∨ c = '.' ∨ c = '-' := by
    unfold renderDigits at inside
    split at inside
    · exact .inl (digits inside)
    · rcases List.mem_append.1 inside with whole | fraction
      · exact .inl (digits whole)
      · rcases List.mem_cons.1 fraction with point | digit
        · exact .inr (.inl point)
        · exact .inl (isDigit_of_mem_fixedDigits digit)
  unfold renderChars at inside
  split at inside
  · rcases List.mem_cons.1 inside with minus | later
    · exact .inr (.inr minus)
    · exact unsigned later
  · exact unsigned inside

namespace OutOfRange

/-- The last characters of the texts tell them from that of a division by zero. -/
theorem arithmetic (out : OutOfRange e) :
    ∃ detail : String, e = .arithmetic detail ∧ detail.toList.getLast? ≠ some 'o' := by
  have ending (text last : String) (other : last.toList.getLast? ≠ some 'o')
      (some_ : last.toList.getLast? ≠ none) : (text ++ last).toList.getLast? ≠ some 'o' := by
    rw [String.toList_append, List.getLast?_append]
    cases found : last.toList.getLast? with
    | none => exact absurd found some_
    | some c => rwa [Option.some_or, ← found]
  cases out with
  | operand d => exact ⟨_, rfl, ending _ _ (by decide) (by decide)⟩
  | count n => exact ⟨_, rfl, ending _ _ (by decide) (by decide)⟩
  | multiple d n => exact ⟨_, rfl, ending _ _ (by decide) (by decide)⟩
  | product a b => exact ⟨_, rfl, ending _ _ (by decide) (by decide)⟩
  | above => exact ⟨_, rfl, by decide⟩
  | below => exact ⟨_, rfl, by decide⟩
  | raised d places => exact ⟨_, rfl, ending _ _ (by decide) (by decide)⟩
  | negative d =>
      refine ⟨_, rfl, fun same => ?_⟩
      rw [String.toList_append, List.getLast?_append, render, String.toList_ofList] at same
      cases found : d.renderChars.getLast? with
      | none =>
          rw [found] at same
          exact absurd same (by decide)
      | some c =>
          rw [found, Option.some_or, Option.some.injEq] at same
          subst same
          exact absurd (mem_renderChars (List.mem_of_getLast? found)) (by decide)

theorem not_divided {detail : String} (out : OutOfRange (.arithmetic detail)) (dividend : Decimal) :
    detail ≠ dividend.render ++ " divided by zero" := by
  obtain ⟨_, same, last⟩ := out.arithmetic
  cases same
  rintro rfl
  refine last ?_
  rw [String.toList_append, List.getLast?_append]
  rfl

end OutOfRange

end Decimal

end Suffrage
