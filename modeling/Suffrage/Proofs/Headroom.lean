/-
# Suffrage.Proofs.Headroom -- a decision never breaks off

Quotients, multiples and products are checked, but sums and differences are left to callers that
know that they fit: one that does not would break the decision off.  For any powers, counts and
thresholds whatever they all fit:

* Numbers of 96 bits at eighteen digits stay below `10^11`, and every operand of a sum comes from at
  most eight of them (`Decimal.resultBound`).
* A sum that needs more than 96 bits drops digits and rounds.  Rounding keeps within whole bounds
  (`Decimal.roundHalfEven_le`), so the bounds of the operands add up (`Decimal.IsWithin.add?`).
* Nothing is divided by zero: a tier without ballots to divide by has no share.

So a decision is made, or it is refused because some number left its range (`Tally.Yields`).
-/
import Suffrage.Proofs.Outcome
import Suffrage.Proofs.Truncation

namespace Suffrage

set_option autoImplicit false

open Decimal (OutOfRange maxUnits)
open Radix (ten)

namespace Decimal

/-! ## Rounded numbers keep within whole bounds -/

/-- Rounding gives the number below or the one above, the latter only if a rest is cut. -/
theorem roundHalfEven_cases (n : ℤ) (places : Nat) :
    roundHalfEven n places = n / ten places ∨
      roundHalfEven n places = n / ten places + 1 ∧ 0 < n % ten places := by
  have positive := Radix.ten_cast_pos places
  unfold roundHalfEven
  dsimp only
  split
  · exact .inl rfl
  · split
    · exact .inr ⟨rfl, by omega⟩
    · split
      · exact .inl rfl
      · exact .inr ⟨rfl, by omega⟩

theorem roundHalfEven_le {n bound : ℤ} {places : Nat} (le : n ≤ bound * ten places) :
    roundHalfEven n places ≤ bound := by
  have positive := Radix.ten_cast_pos places
  have parts := Int.mul_ediv_add_emod n (ten places)
  rcases roundHalfEven_cases n places with down | ⟨up, rest⟩
  · rw [down]
    exact Int.ediv_le_of_le_mul positive le
  · rw [up]
    have below : (ten places : ℤ) * (n / ten places) < ten places * bound := by
      rw [Int.mul_comm (ten places : ℤ) bound]
      omega
    exact Int.lt_of_mul_lt_mul_left below positive.le

theorem le_roundHalfEven {n bound : ℤ} {places : Nat} (le : bound * ten places ≤ n) :
    bound ≤ roundHalfEven n places := by
  have below : bound ≤ n / ten places := Int.le_ediv_of_mul_le (Radix.ten_cast_pos places) le
  rcases roundHalfEven_cases n places with down | ⟨up, -⟩ <;> omega

/-! ## Sums of bounded numbers -/

/-- The size of the number is no more than `n`. -/
def IsWithin (d : Decimal) (n : Nat) : Prop := |d.toRat| ≤ n

variable {a b d : Decimal} {m n : Nat}

theorem isWithin_iff :
    d.IsWithin n ↔ -(n * ten d.scale : ℤ) ≤ d.units ∧ d.units ≤ n * ten d.scale := by
  rw [IsWithin, toRat, abs_div, abs_of_pos (ten_rat_pos _), div_le_iff₀ (ten_rat_pos _), abs_le]
  exact_mod_cast Iff.rfl

theorem isWithin_zero (n : Nat) : zero.IsWithin n := by
  simp [IsWithin, toRat_zero]

theorem IsWithin.mono (within : d.IsWithin m) (le : m ≤ n) : d.IsWithin n :=
  within.trans (by exact_mod_cast le)

theorem IsWithin.neg (within : d.IsWithin n) : d.neg.IsWithin n := by
  rwa [IsWithin, toRat_neg, abs_neg]

/-- A bounded number fits, once enough digits are dropped, and keeps its bound. -/
theorem fit?_within {units : ℤ} {scale : Nat} (lower : -(n * ten scale : ℤ) ≤ units)
    (upper : units ≤ n * ten scale) (room : n ≤ maxUnits) :
    ∃ d, fit? units scale = some d ∧ d.IsWithin n := by
  have within {dropped : Nat} (le : dropped ≤ scale) :
      -(n * ten (scale - dropped) : ℤ) ≤ roundHalfEven units dropped ∧
        roundHalfEven units dropped ≤ n * ten (scale - dropped) := by
    have split : (n * ten scale : ℤ) = n * ten (scale - dropped) * ten dropped := by
      rw [Int.mul_assoc, Int.mul_comm (ten (scale - dropped) : ℤ), Radix.ten_cast_mul_ten_sub le]
    rw [split] at lower upper
    exact ⟨le_roundHalfEven (by rwa [Int.neg_mul]), roundHalfEven_le upper⟩
  have whole := within (Nat.le_refl scale)
  rw [Nat.sub_self, Radix.ten_zero] at whole
  obtain ⟨d, dropped, found, le, units, place⟩ :=
    fit?_ok (show (roundHalfEven units scale).natAbs ≤ maxUnits by omega)
  refine ⟨d, found, isWithin_iff.2 ?_⟩
  rw [units, place]
  exact within le

/-- The sum of bounded numbers fits, and the bounds add up. -/
theorem IsWithin.add? (left : a.IsWithin m) (right : b.IsWithin n) (room : m + n ≤ maxUnits) :
    ∃ c, a.add? b = some c ∧ c.IsWithin (m + n) := by
  unfold Decimal.add?
  split
  · exact ⟨b, rfl, right.mono (Nat.le_add_left ..)⟩
  · split
    · exact ⟨a, rfl, left.mono (Nat.le_add_right ..)⟩
    · have raise {d : Decimal} {k : Nat} (within : d.IsWithin k)
          (le : d.scale ≤ max a.scale b.scale) :
          -(k * ten (max a.scale b.scale) : ℤ) ≤ d.unitsAt (max a.scale b.scale) ∧
            d.unitsAt (max a.scale b.scale) ≤ k * ten (max a.scale b.scale) := by
        obtain ⟨lower, upper⟩ := isWithin_iff.1 within
        have positive := Radix.ten_cast_pos (max a.scale b.scale - d.scale)
        rw [unitsAt, ← Radix.ten_cast_mul_ten_sub le, ← Int.mul_assoc, ← Int.neg_mul]
        exact ⟨Int.mul_le_mul_of_nonneg_right lower positive.le,
          Int.mul_le_mul_of_nonneg_right upper positive.le⟩
      obtain ⟨lower, upper⟩ := raise left (Nat.le_max_left ..)
      obtain ⟨lower', upper'⟩ := raise right (Nat.le_max_right ..)
      refine fit?_within ?_ ?_ room
      · rw [Int.natCast_add, Int.add_mul, Int.neg_add]
        exact Int.add_le_add lower lower'
      · rw [Int.natCast_add, Int.add_mul]
        exact Int.add_le_add upper upper'

/-- More than any number of 96 bits at eighteen digits. -/
def resultBound : Nat := 100000000000

theorem isWithin_of_ofFixed {k : ℤ} (ok : ofFixed k = .ok d) : d.IsWithin resultBound := by
  have fits : |(k : ℚ)| ≤ maxUnits := by
    have fits := ofFixed_ok_iff.1 ⟨d, ok⟩
    rw [← Int.cast_abs, Int.abs_eq_natAbs]
    exact_mod_cast fits
  have large : (maxUnits : ℚ) ≤ resultBound * ten fixedPlaces := by
    exact_mod_cast (show maxUnits ≤ resultBound * ten fixedPlaces by decide)
  rw [IsWithin, (of_ofFixed_ok ok).1, abs_div, abs_of_pos (ten_rat_pos _),
    div_le_iff₀ (ten_rat_pos _)]
  exact fits.trans large

end Decimal

namespace Tally

open Decimal (resultBound)

/-! ## Computations that never break off -/

/-- The computation gives a result with this property, or is refused for a number out of range. -/
def Yields {α : Type} (x : Except Failure α) (property : α → Prop) : Prop :=
  (∃ a, x = .ok a ∧ property a) ∨ ∃ cause, OutOfRange cause ∧ x = .error (.ofValue cause)

namespace Yields

variable {α β : Type} {property : α → Prop} {property' : β → Prop}

theorem ok {a : α} (holds : property a) : Yields (.ok a) property := .inl ⟨a, rfl, holds⟩

theorem bind {x : Except Failure α} {next : α → Except Failure β} (first : Yields x property)
    (rest : ∀ a, property a → Yields (next a) property') : Yields (x >>= next) property' := by
  obtain ⟨a, rfl, holds⟩ | ⟨cause, out, rfl⟩ := first
  · exact rest a holds
  · exact .inr ⟨cause, out, rfl⟩

/-- A checked operation, whose failures are turned into refusals. -/
theorem of_value {x : Except ValueError α} (result : ∀ a, x = .ok a → property a)
    (failure : ∀ e, x = .error e → OutOfRange e) :
    Yields (x.mapError Failure.ofValue) property := by
  cases x with
  | ok a => exact .inl ⟨a, rfl, result a rfl⟩
  | error e => exact .inr ⟨e, failure e rfl, rfl⟩

end Yields

variable {a b : Decimal} {m n : Nat}

theorem yields_plus (left : a.IsWithin m) (right : b.IsWithin n) (room : m + n ≤ maxUnits) :
    Yields (a.plus b) (·.IsWithin (m + n)) := by
  obtain ⟨c, sum, within⟩ := left.add? right room
  rw [Decimal.plus, sum]
  exact .ok within

theorem yields_minus (left : a.IsWithin m) (right : b.IsWithin n) (room : m + n ≤ maxUnits) :
    Yields (a.minus b) (·.IsWithin (m + n)) := by
  obtain ⟨c, difference, within⟩ := left.add? right.neg room
  rw [Decimal.minus, Decimal.sub?, difference]
  exact .ok within

theorem yields_multiple (d : Decimal) (n : Nat) :
    Yields ((d.multiple n).mapError Failure.ofValue) (·.IsWithin resultBound) :=
  .of_value (fun _ ok => Decimal.isWithin_of_ofFixed (Decimal.multiple_ok_iff.1 ok).2)
    fun _ => Decimal.outOfRange_of_multiple

/-- Where there is nothing to divide by, nothing is divided. -/
theorem yields_share (part whole : Nat) (power : Decimal) :
    Yields (share part whole power) (·.IsWithin resultBound) := by
  unfold share
  split
  · exact .ok (Decimal.isWithin_zero _)
  · rename_i divisor
    refine .of_value (fun d ok => ?_) fun e failed => ?_
    · obtain ⟨r, -, product⟩ := Result.of_bind_ok ok
      exact Decimal.isWithin_of_ofFixed (Decimal.product_ok_iff.1 product).2.2
    · cases ratio : Decimal.ratio part whole with
      | ok r =>
          rw [ratio] at failed
          exact Decimal.outOfRange_of_product failed
      | error e' =>
          rw [ratio] at failed
          cases failed
          exact Decimal.outOfRange_of_ratio divisor ratio

/-! ## The steps of a decision -/

variable (power : Power) (guardians members : Tier) (rules : Rules)

theorem yields_weighted (c : Choice) :
    Yields (weighted power guardians members c) (·.IsWithin (resultBound + resultBound)) :=
  (yields_multiple ..).bind fun _ left => (yields_multiple ..).bind fun _ right =>
    yields_plus left right (by decide)

/-- Twice the largest number needs more than 96 bits at eighteen digits, and one digit less. -/
example :
    let largest : Decimal := ⟨false, maxUnits, 18, by decide, by decide⟩
    weighted ⟨largest, largest⟩ (.ofEntries [(.yes, 1)]) (.ofEntries [(.yes, 1)]) .yes =
      .ok ⟨false, 15845632502852867518708790067, 17, by decide, by decide⟩ := by
  decide +kernel

theorem yields_combine :
    Yields (combine power guardians members) fun result =>
      result.1.abstain.IsWithin (2 * resultBound) ∧ result.2.IsWithin (8 * resultBound) := by
  have each := yields_weighted power guardians members
  unfold combine
  refine (each .yes).bind fun yes withinYes => ?_
  refine (yields_plus (Decimal.isWithin_zero 0) withinYes (by decide)).bind fun one withinOne => ?_
  refine (each .abstain).bind fun abstain withinAbstain => ?_
  refine (yields_plus withinOne withinAbstain (by decide)).bind fun two withinTwo => ?_
  refine (each .no).bind fun no withinNo => ?_
  refine (yields_plus withinTwo withinNo (by decide)).bind fun three withinThree => ?_
  refine (each .noWithVeto).bind fun veto withinVeto => ?_
  refine (yields_plus withinThree withinVeto (by decide)).bind fun total withinTotal => ?_
  exact .ok ⟨withinAbstain, withinTotal⟩

theorem yields_scaleResults (values : Choice.Table Decimal) :
    Yields (scaleResults values) fun _ => True := by
  obtain ⟨result, ok, -⟩ | ⟨e, refused, out, -⟩ := scaleResults_cases values
  · exact .inl ⟨result, ok, trivial⟩
  · exact .inr ⟨e, out, refused⟩

theorem yields_judge {combined : Shares Decimal} {total : Decimal}
    (withinAbstain : combined.abstain.IsWithin (2 * resultBound))
    (withinTotal : total.IsWithin (8 * resultBound)) :
    Yields (judge power guardians members rules combined total) fun _ => True := by
  unfold judge
  split
  · exact .ok trivial
  refine (yields_minus withinTotal withinAbstain (by decide)).bind fun rest _ => ?_
  split
  · exact .ok trivial
  refine (yields_share ..).bind fun veto within => ?_
  refine (yields_share ..).bind fun veto' within' => ?_
  refine (yields_plus within within' (by decide)).bind fun vetoes _ => ?_
  split
  · exact .ok trivial
  refine (yields_share ..).bind fun yes within => ?_
  refine (yields_share ..).bind fun yes' within' => ?_
  refine (yields_plus within within' (by decide)).bind fun yeses _ => ?_
  split
  · exact .ok trivial
  · exact .ok trivial

theorem yields_outcome : Yields (outcome power guardians members rules) fun _ => True := by
  unfold outcome
  refine (yields_combine power guardians members).bind fun ⟨combined, total⟩ within => ?_
  refine (yields_scaleResults combined.toTable).bind fun result _ => ?_
  refine (yields_judge power guardians members rules within.1 within.2).bind fun decision _ => ?_
  exact .ok trivial

theorem count_le_total (tier : Tier) (c : Choice) : tier.count c ≤ tier.total := by
  rw [tier.total_eq_counts]
  cases c <;> omega

end Tally

/-- For every power, all counts and all rules, with numbers of any sign, scale and size: no choice
has more ballots than its tier, so the ballots other than abstentions can be counted; and a decision
is made, or it is refused as a broken invariant because a number left its range.  No sum or
difference breaks it off, and nothing is divided by zero. -/
theorem decision_never_breaks_off (power : Power) (guardians members : Tier) (rules : Rules) :
    (guardians.count .abstain ≤ guardians.total ∧ members.count .abstain ≤ members.total) ∧
    ((∃ outcome, Tally.outcome power guardians members rules = .ok outcome) ∨
      ∃ detail, Tally.outcome power guardians members rules =
          .error (.refused (.brokenInvariant detail)) ∧
        OutOfRange (.arithmetic detail) ∧
        ∀ dividend : Decimal, detail ≠ dividend.render ++ " divided by zero") := by
  refine ⟨⟨Tally.count_le_total guardians _, Tally.count_le_total members _⟩, ?_⟩
  obtain ⟨outcome, ok, -⟩ | ⟨cause, out, refused⟩ :=
    Tally.yields_outcome power guardians members rules
  · exact .inl ⟨outcome, ok⟩
  · obtain ⟨detail, rfl, -⟩ := out.arithmetic
    exact .inr ⟨detail, refused, out, out.not_divided⟩

end Suffrage
