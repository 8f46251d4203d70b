/-
# Suffrage.Proofs.Power -- no tier hands out more than its budget

The power of a guardian ballot is the weight divided by the number of guardians, that of a
member ballot the rest divided by the number of the others.  Both are cut at eighteen
digits, so all ballots of a tier together weigh at most what the tier was given, and none
weighs less than its share by a whole unit of `10^-18` (`Power.Within`).  The split succeeds for
every weight in `[0, 1]`, as soon as there is a guardian and no more guardians than members of
the electorate.
-/
import Suffrage.Power
import Suffrage.Proofs.Decimal

namespace Suffrage

set_option autoImplicit false

open Decimal (IsFixed fixedPlaces maxUnits)
open Radix (ten)

/-- `k` whole numbers of `10^-18` are no more than `x`, and less than `slack` of them are
missing. -/
structure Undercuts (k : Nat) (x slack : ℚ) : Prop where
  le : (k : ℚ) ≤ x * ten fixedPlaces
  lt : x * ten fixedPlaces < k + slack

theorem Undercuts.div_le {k : Nat} {x slack : ℚ} (near : Undercuts k x slack) :
    k / (ten fixedPlaces : ℚ) ≤ x :=
  (div_le_iff₀ (Decimal.ten_rat_pos _)).2 near.le

namespace Decimal

theorem isFraction_of_isPositiveFraction {d : Decimal} (range : d.isPositiveFraction = true) :
    d.isFraction = true := by
  obtain ⟨positive, le⟩ := isPositiveFraction_iff.1 range
  exact isFraction_iff.2 ⟨positive.le, le⟩

theorem fixedUnits_natAbs_le {d : Decimal} (fraction : d.isFraction = true) :
    d.fixedUnits.natAbs ≤ ten fixedPlaces := by
  obtain ⟨nonneg, le⟩ := isFraction_iff.1 fraction
  have positive := ten_rat_pos fixedPlaces
  have lower : 0 ≤ d.fixedUnits := by
    rw [fixedUnits_eq_floor nonneg]
    exact Int.floor_nonneg.2 (by positivity)
  have upper : d.fixedUnits ≤ ten fixedPlaces := by
    rw [fixedUnits_eq_floor nonneg]
    refine Int.floor_le_iff.2 ?_
    push_cast
    nlinarith
  omega

/-- Equal shares of a fraction never add up to more than the fraction, and each of them is cut by
less than one unit. -/
theorem quotient_budget {d : Decimal} {n : Nat} (fraction : d.isFraction = true)
    (positive : n ≠ 0) :
    ∃ e, ∃ k : Nat, d.quotient n = .ok e ∧ e.IsFixed k ∧
      (k * n : ℚ) ≤ d.toRat * ten fixedPlaces ∧ Undercuts k (d.toRat / n) 1 := by
  have small := fixedUnits_natAbs_le fraction
  obtain ⟨nonneg, -⟩ := isFraction_iff.1 fraction
  have floor := fixedUnits_eq_floor nonneg
  have above : 0 ≤ d.toRat * ten fixedPlaces := by
    have := ten_rat_pos fixedPlaces
    positivity
  have below : 0 ≤ d.fixedUnits := floor ▸ Int.floor_nonneg.2 above
  obtain ⟨u, whole⟩ := Int.eq_ofNat_of_zero_le below
  obtain ⟨e, quotient, fixed⟩ := quotient_ok positive (small.trans (by decide))
  have count : (0 : ℚ) < n := by exact_mod_cast Nat.pos_of_ne_zero positive
  have budget : ((u / n : Nat) * n : ℚ) ≤ d.toRat * ten fixedPlaces := by
    have le : (u : ℚ) ≤ d.toRat * ten fixedPlaces := by
      have := Int.floor_le (d.toRat * ten fixedPlaces)
      rwa [← floor, whole, Int.cast_natCast] at this
    refine le_trans ?_ le
    exact_mod_cast Nat.div_mul_le_self u n
  refine ⟨e, u / n, quotient, ?_, budget, ?_, ?_⟩
  · rwa [whole, ← Int.ofNat_tdiv] at fixed
  · rwa [div_mul_eq_mul_div, le_div_iff₀ count]
  · have lt : d.toRat * ten fixedPlaces < u + 1 := by
      have := Int.lt_floor_add_one (d.toRat * ten fixedPlaces)
      rwa [← floor, whole, Int.cast_natCast] at this
    have next : (u + 1 : ℚ) ≤ ((u / n : Nat) + 1) * n := by
      exact_mod_cast Nat.lt_mul_of_div_lt (Nat.lt_succ_self _) (Nat.pos_of_ne_zero positive)
    rw [div_mul_eq_mul_div, div_lt_iff₀ count]
    exact lt.trans_le next

end Decimal

namespace Power

/-- Whole numbers of `10^-18` for one ballot of each tier, within the budgets of the tiers and
less than one below equal shares of them.  A tier without members has shares of zero. -/
structure Within (power : Power) (weight : Decimal) (guardians others g m : Nat) : Prop where
  guardian : power.guardian.IsFixed g
  member : power.member.IsFixed m
  guardian_mul_le : (g * guardians : ℚ) ≤ weight.toRat * ten fixedPlaces
  member_mul_le : (m * others : ℚ) ≤ (1 - weight.toRat) * ten fixedPlaces
  guardian_le : g ≤ ten fixedPlaces
  member_le : m ≤ ten fixedPlaces
  guardian_near : Undercuts g (weight.toRat / guardians) 1
  member_near : Undercuts m ((1 - weight.toRat) / others) 1

namespace Within

variable {power : Power} {weight : Decimal} {guardians others g m : Nat}

theorem guardian_toRat (within : power.Within weight guardians others g m) :
    power.guardian.toRat = g / (ten fixedPlaces : ℚ) := by
  rw [within.guardian.toRat, Int.cast_natCast]

theorem member_toRat (within : power.Within weight guardians others g m) :
    power.member.toRat = m / (ten fixedPlaces : ℚ) := by
  rw [within.member.toRat, Int.cast_natCast]

/-- As many ballots as there are guardians weigh no more than the weight. -/
theorem guardians_le (within : power.Within weight guardians others g m) {counted : Nat}
    (le : counted ≤ guardians) : power.guardian.toRat * counted ≤ weight.toRat := by
  rw [within.guardian_toRat, div_mul_eq_mul_div, div_le_iff₀ (Decimal.ten_rat_pos _)]
  refine le_trans ?_ within.guardian_mul_le
  exact_mod_cast Nat.mul_le_mul_left g le

/-- As many ballots as there are other members weigh no more than the rest. -/
theorem members_le (within : power.Within weight guardians others g m) {counted : Nat}
    (le : counted ≤ others) : power.member.toRat * counted ≤ 1 - weight.toRat := by
  rw [within.member_toRat, div_mul_eq_mul_div, div_le_iff₀ (Decimal.ten_rat_pos _)]
  refine le_trans ?_ within.member_mul_le
  exact_mod_cast Nat.mul_le_mul_left m le

/-- Both tiers together hand out one whole power at most. -/
theorem sum_le (within : power.Within weight guardians others g m) {counted counted' : Nat}
    (le : counted ≤ guardians) (le' : counted' ≤ others) :
    g * counted + m * counted' ≤ ten fixedPlaces := by
  have left := within.guardians_le le
  have right := within.members_le le'
  rw [within.guardian_toRat, div_mul_eq_mul_div, div_le_iff₀ (Decimal.ten_rat_pos _)] at left
  rw [within.member_toRat, div_mul_eq_mul_div, div_le_iff₀ (Decimal.ten_rat_pos _)] at right
  have sum : (g * counted + m * counted' : ℚ) ≤ ten fixedPlaces := by linarith
  exact_mod_cast sum

end Within

/-- One minus a fraction is exact, and a fraction. -/
theorem rest_ok {weight : Decimal} (fraction : weight.isFraction = true) :
    ∃ rest, Decimal.one.minus weight = .ok rest ∧ rest.isFraction = true ∧
      rest.toRat = 1 - weight.toRat := by
  obtain ⟨nonneg, le⟩ := Decimal.isFraction_iff.1 fraction
  have zeroScale : Decimal.one.scale = 0 := rfl
  have oneUnits : Decimal.one.unitsAt weight.scale = ten weight.scale := Int.one_mul _
  have lower : 0 ≤ weight.units := Decimal.units_nonneg_iff.2 nonneg
  have upper : weight.units ≤ ten weight.scale := by
    rw [Decimal.toRat, div_le_one (Decimal.ten_rat_pos _)] at le
    exact_mod_cast le
  obtain ⟨rest, difference, value, -⟩ := Decimal.sub?_exact (a := .one) (b := weight) (by
    have own : weight.unitsAt weight.scale = weight.units := by
      rw [Decimal.unitsAt, Nat.sub_self, Radix.ten_zero]
      exact Int.mul_one _
    have room : ten weight.scale ≤ maxUnits :=
      (Radix.ten_le_ten weight.scale_le).trans (by decide)
    rw [zeroScale, Nat.max_eq_right (Nat.zero_le _), oneUnits, own]
    omega)
  rw [Decimal.toRat_one] at value
  refine ⟨rest, ?_, ?_, value⟩
  · rw [Decimal.minus, difference]
  · rw [Decimal.isFraction_iff, value]
    constructor <;> linarith

theorem le_ten_of_mul_le {k n : Nat} {budget : ℚ} (positive : n ≠ 0)
    (le : (k * n : ℚ) ≤ budget * ten fixedPlaces) (fraction : budget ≤ 1) :
    k ≤ ten fixedPlaces := by
  have one_le : (1 : ℚ) ≤ n := by exact_mod_cast Nat.one_le_iff_ne_zero.2 positive
  have unit := Decimal.ten_rat_pos fixedPlaces
  have bound : (k : ℚ) ≤ ten fixedPlaces := by
    have nonneg : (0 : ℚ) ≤ k := by positivity
    nlinarith
  exact_mod_cast bound

theorem allocate_ok {electorate guardians : Nat} {weight : Decimal}
    (fraction : weight.isFraction = true) (some_ : guardians ≠ 0)
    (enough : guardians ≤ electorate) :
    ∃ power g m, allocate electorate guardians weight = .ok power ∧
      power.Within weight guardians (electorate - guardians) g m := by
  obtain ⟨nonneg, le⟩ := Decimal.isFraction_iff.1 fraction
  obtain ⟨guardian, g, quotient, fixed, budget, near⟩ := Decimal.quotient_budget fraction some_
  have noFewer : ¬electorate < guardians := Nat.not_lt.2 enough
  by_cases alone : electorate - guardians = 0
  · refine ⟨⟨.zero, guardian⟩, g, 0, ?_, fixed, .zero, budget, ?_,
      le_ten_of_mul_le some_ budget le, Nat.zero_le _, near, ?_⟩
    · simp [allocate, fraction, some_, noFewer, alone, quotient]
    · have unit := Decimal.ten_rat_pos fixedPlaces
      have rest : 0 ≤ 1 - weight.toRat := by linarith
      rw [Nat.cast_zero, zero_mul]
      positivity
    · constructor <;> simp [alone]
  · obtain ⟨rest, difference, fraction', value⟩ := rest_ok fraction
    obtain ⟨member, m, quotient', fixed', budget', near'⟩ :=
      Decimal.quotient_budget fraction' alone
    rw [value] at budget' near'
    refine ⟨⟨member, guardian⟩, g, m, ?_, fixed, fixed', budget, budget',
      le_ten_of_mul_le some_ budget le, le_ten_of_mul_le alone budget' (by linarith), near, near'⟩
    simp [allocate, fraction, some_, noFewer, alone, difference, quotient, quotient']

/-- A split succeeds for a fraction, a guardian, and no more guardians than members only. -/
theorem of_allocate_ok {electorate guardians : Nat} {weight : Decimal} {power : Power}
    (ok : allocate electorate guardians weight = .ok power) :
    weight.isFraction = true ∧ guardians ≠ 0 ∧ guardians ≤ electorate := by
  unfold allocate at ok
  cases fraction : weight.isFraction with
  | false =>
      rw [fraction] at ok
      cases ok
  | true =>
      by_cases none_ : guardians = 0
      · simp [fraction, none_] at ok
      · by_cases fewer : electorate < guardians
        · simp [fraction, none_, fewer] at ok
        · exact ⟨rfl, none_, Nat.not_lt.1 fewer⟩

/-- Whatever has been split keeps within the budgets. -/
theorem within_of_allocate_ok {electorate guardians : Nat} {weight : Decimal} {power : Power}
    (ok : allocate electorate guardians weight = .ok power) :
    ∃ g m, power.Within weight guardians (electorate - guardians) g m := by
  obtain ⟨fraction, someone, enough⟩ := of_allocate_ok ok
  obtain ⟨power', g, m, split, within⟩ := allocate_ok fraction someone enough
  rw [ok] at split
  cases split
  exact ⟨g, m, within⟩

end Power

end Suffrage
