/-
# Suffrage.Proofs.Allocation -- the whole budget is handed out, up to dust

A split gives every ballot of a tier the same whole number of `10^-18`.  What it cannot hand out
is dust: each ballot of a tier misses less than one such unit of its exact share, however many
digits the weight has.  The digits of the weight beyond the eighteenth are cut once, in the
quotient: one minus the weight is exact at any scale (`Power.rest_ok`), so nothing is lost before
the division.

Where every member of the electorate votes, the tally adds up what both tiers hand out, which is at
most one, and more than one without a unit for each member.
-/
import Suffrage.Proofs.Outcome

namespace Suffrage

set_option autoImplicit false

open Decimal (fixedPlaces maxUnits)
open Radix (ten)

/-- A whole number of `10^-18` between 0 and 1. -/
structure Decimal.IsShare (d : Decimal) : Prop where
  whole : ∃ k : Nat, d.toRat = k / 10 ^ 18
  nonneg : 0 ≤ d.toRat
  le_one : d.toRat ≤ 1

theorem Decimal.IsFixed.isShare {d : Decimal} {k : Nat} (fixed : d.IsFixed k)
    (le : k ≤ ten fixedPlaces) : d.IsShare := by
  have unit := ten_rat_pos fixedPlaces
  have value : d.toRat = k / (ten fixedPlaces : ℚ) := by rw [fixed.toRat, Int.cast_natCast]
  refine ⟨⟨k, by rw [value, ten_fixedPlaces]⟩, ?_, ?_⟩
  · rw [value]
    positivity
  · rw [value, div_le_one unit]
    exact_mod_cast le

/-- Of a budget for `n` ballots less than `n` units remain. -/
theorem Undercuts.dust {k n : Nat} {budget : ℚ} (near : Undercuts k (budget / n) 1)
    (some_ : n ≠ 0) :
    0 ≤ budget - n * (k / ten fixedPlaces) ∧
      budget - n * (k / ten fixedPlaces) < n / ten fixedPlaces := by
  have count : (0 : ℚ) < n := by exact_mod_cast Nat.pos_of_ne_zero some_
  have unit := Decimal.ten_rat_pos fixedPlaces
  obtain ⟨le, lt⟩ := near
  rw [div_mul_eq_mul_div, le_div_iff₀ count] at le
  rw [div_mul_eq_mul_div, div_lt_iff₀ count] at lt
  rw [mul_div_assoc', sub_nonneg, div_le_iff₀ unit, sub_lt_iff_lt_add, ← add_div, lt_div_iff₀ unit]
  constructor <;> linarith

namespace Power

/-- What a split hands out and what it keeps back, in exact numbers. -/
structure Spends (power : Power) (electorate guardians : Nat) (weight : ℚ) : Prop where
  guardian : power.guardian.IsShare
  member : power.member.IsShare
  guardians_le : 0 ≤ weight - guardians * power.guardian.toRat
  guardians_dust : weight - guardians * power.guardian.toRat < guardians / 10 ^ 18
  members_le : guardians < electorate →
    0 ≤ (1 - weight) - (electorate - guardians) * power.member.toRat
  members_dust : guardians < electorate →
    (1 - weight) - (electorate - guardians) * power.member.toRat <
      (electorate - guardians) / 10 ^ 18
  nobody : guardians = electorate → power.member = .zero
  le_one : guardians * power.guardian.toRat + (electorate - guardians) * power.member.toRat ≤ 1
  near_one : guardians < electorate → 1 - electorate / 10 ^ 18 <
    guardians * power.guardian.toRat + (electorate - guardians) * power.member.toRat

/-- A tier without members has no power to give. -/
theorem member_of_alone {guardians : Nat} {weight : Decimal} {power : Power}
    (ok : allocate guardians guardians weight = .ok power) : power.member = .zero := by
  obtain ⟨fraction, someone, -⟩ := of_allocate_ok ok
  unfold allocate at ok
  simp only [fraction, someone, Nat.lt_irrefl, Nat.sub_self, ite_true, ite_false, Bool.not_true,
    Bool.false_eq_true, Result.pure_eq, Result.ok_bind] at ok
  obtain ⟨guardian, -, rest⟩ := Result.of_bind_ok ok
  cases rest
  rfl

theorem spends_of_allocate_ok {electorate guardians : Nat} {weight : Decimal} {power : Power}
    (ok : allocate electorate guardians weight = .ok power) :
    power.Spends electorate guardians weight.toRat := by
  obtain ⟨fraction, someone, enough⟩ := of_allocate_ok ok
  obtain ⟨g, m, within⟩ := within_of_allocate_ok ok
  have others : ((electorate - guardians : Nat) : ℚ) = electorate - guardians := by
    push_cast [enough]
    rfl
  obtain ⟨guardiansLe, guardiansDust⟩ := within.guardian_near.dust someone
  rw [← within.guardian_toRat] at guardiansLe guardiansDust
  have membersDust (more : guardians < electorate) :=
    within.member_near.dust (Nat.sub_ne_zero_of_lt more)
  rw [← within.member_toRat, others] at membersDust
  rw [Decimal.ten_fixedPlaces] at guardiansDust membersDust
  have nobody (same : guardians = electorate) : power.member = .zero := by
    subst same
    exact member_of_alone ok
  refine ⟨within.guardian.isShare within.guardian_le, within.member.isShare within.member_le,
    guardiansLe, guardiansDust, fun more => (membersDust more).1, fun more => (membersDust more).2,
    nobody, ?_, fun more => ?_⟩
  · have part := within.members_le (Nat.le_refl _)
    rw [others] at part
    linarith
  · obtain ⟨-, dust⟩ := membersDust more
    rw [sub_div] at dust
    linarith

/-- A fraction is split or the numbers are refused; nothing overflows. -/
theorem refused_of_allocate_error {electorate guardians : Nat} {weight : Decimal}
    {failure : Failure} (fraction : weight.isFraction = true)
    (failed : allocate electorate guardians weight = .error failure) :
    ∃ text, failure = .refused (.brokenInvariant text) := by
  by_cases numbers : guardians ≠ 0 ∧ guardians ≤ electorate
  · obtain ⟨power, g, m, ok, -⟩ := allocate_ok fraction numbers.1 numbers.2
    rw [ok] at failed
    cases failed
  · unfold allocate at failed
    by_cases someone : guardians = 0
    · rw [fraction, if_pos someone] at failed
      cases failed
      exact ⟨_, rfl⟩
    · have fewer : electorate < guardians := by omega
      rw [fraction, if_neg someone, if_pos fewer] at failed
      cases failed
      exact ⟨_, rfl⟩

end Power

/-- For every weight in `[0, 1]`, whatever its scale, and for every two numbers: there is a split if
there are guardians, and no more of them than members of the electorate; else the numbers are
refused.  It hands out both budgets up to dust and never more, and a full turnout casts all that is
handed out. -/
theorem allocation_exact (electorate guardians : Nat) (weight : Decimal)
    (range : 0 ≤ weight.toRat ∧ weight.toRat ≤ 1) :
    ((∃ power, Power.allocate electorate guardians weight = .ok power) ↔
      1 ≤ guardians ∧ guardians ≤ electorate) ∧
    (∀ failure, Power.allocate electorate guardians weight = .error failure →
      ∃ text, failure = .refused (.brokenInvariant text)) ∧
    ∀ power, Power.allocate electorate guardians weight = .ok power →
      power.Spends electorate guardians weight.toRat ∧
      ∀ gs ms : Tier, gs.total = guardians → ms.total = electorate - guardians →
        gs.count .unspecified = 0 → ms.count .unspecified = 0 →
        ∃ combined total, Tally.combine power gs ms = .ok (combined, total) ∧
          total.toRat = guardians * power.guardian.toRat +
            (electorate - guardians) * power.member.toRat := by
  have fraction : weight.isFraction = true := Decimal.isFraction_iff.2 range
  refine ⟨⟨?_, ?_⟩, fun failure => Power.refused_of_allocate_error fraction, fun power ok => ?_⟩
  · rintro ⟨power, ok⟩
    obtain ⟨-, someone, enough⟩ := Power.of_allocate_ok ok
    exact ⟨Nat.one_le_iff_ne_zero.2 someone, enough⟩
  · rintro ⟨someone, enough⟩
    obtain ⟨power, _, _, ok, -⟩ :=
      Power.allocate_ok fraction (Nat.one_le_iff_ne_zero.1 someone) enough
    exact ⟨power, ok⟩
  · refine ⟨Power.spends_of_allocate_ok ok, fun gs ms full full' noneLeft noneLeft' => ?_⟩
    obtain ⟨-, -, enough⟩ := Power.of_allocate_ok ok
    obtain ⟨g, m, within⟩ := Power.within_of_allocate_ok ok
    obtain ⟨combined, total, run, -, -, parts⟩ :=
      within.combine_ok full.le full'.le noneLeft noneLeft'
    refine ⟨combined, total, run, ?_⟩
    rw [parts, full, full']
    push_cast [enough]
    ring

/-- A third, to the last digit that a weight can have. -/
def Decimal.third : Decimal := ⟨false, 3333333333333333333333333333, 28, by decide, by decide⟩

/-- Three guardians and four others: both quotients are cut. -/
theorem allocation_exact_third :
    Power.allocate 7 3 .third = .ok
      ⟨⟨false, 166666666666666666, 18, by decide, by decide⟩,
        ⟨false, 111111111111111111, 18, by decide, by decide⟩⟩ ∧
    Power.Spends ⟨⟨false, 166666666666666666, 18, by decide, by decide⟩,
      ⟨false, 111111111111111111, 18, by decide, by decide⟩⟩ 7 3 Decimal.third.toRat := by
  have ok : Power.allocate 7 3 .third = .ok
      ⟨⟨false, 166666666666666666, 18, by decide, by decide⟩,
        ⟨false, 111111111111111111, 18, by decide, by decide⟩⟩ := by
    decide +kernel
  have range : 0 ≤ Decimal.third.toRat ∧ Decimal.third.toRat ≤ 1 :=
    Decimal.isFraction_iff.1 (by decide)
  obtain ⟨-, -, exact_⟩ := allocation_exact 7 3 .third range
  exact ⟨ok, (exact_ _ ok).1⟩

end Suffrage
