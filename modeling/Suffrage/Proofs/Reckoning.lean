/-
# Suffrage.Proofs.Reckoning -- a decision in whole numbers

A tally works on decimals of differing scales: it adds and multiplies them, cuts what has too many
digits, drops trailing zeros, and compares what is left with thresholds of any scale.  None of that
is visible in the outcome.  With the powers of one ballot as whole numbers of `10^-18`, `reckon`
adds and multiplies natural numbers and rounds down in two places only, and the first comparison
that applies decides (`Reckoning.decision`).

Every outcome is the reckoned one (`outcome_reckoned`): nothing is rounded in what is cast, and the
decision is the same for all counts and all rules, as long as no more ballots are counted than the
largest electorate has members.  Replicas that agree on the counts agree on the outcome.
-/
import Suffrage.Proofs.Outcome

namespace Suffrage

set_option autoImplicit false

open Decimal (IsFixed fixedPlaces maxUnits)
open Radix (ten)

namespace Tally

/-! ## The reckoning -/

/-- The part of the power `p` that falls to `part` of the `whole` ballots of a tier: the fraction in
whole numbers of `10^-18`, rounded down, times the power, rounded down again.  Nothing falls to a
part of no ballots. -/
def fallsTo (part whole p : Nat) : Nat :=
  if whole = 0 then 0 else 10 ^ 18 * part / whole * p / 10 ^ 18

/-- What two tiers come to, in whole numbers of `10^-18`. -/
structure Reckoning where
  cast : Choice → Nat
  veto : Nat
  yes : Nat

/-- The reckoning at `g` for a guardian's ballot and `m` for another member's. -/
def reckon (guardians members : Tier) (g m : Nat) : Reckoning where
  cast c := g * guardians.count c + m * members.count c
  veto := fallsTo (guardians.count .noWithVeto) (guardians.total - guardians.count .abstain) g
    + fallsTo (members.count .noWithVeto) (members.total - members.count .abstain) m
  yes := fallsTo (guardians.count .yes) guardians.total g
    + fallsTo (members.count .yes) members.total m

namespace Reckoning

/-- What is cast for all choices together. -/
def total (r : Reckoning) : Nat := (Choice.recognized.map r.cast).sum

/-- The first step that applies gives the decision. -/
def decision (r : Reckoning) (rules : Rules) : Decision :=
  if r.total < 10 ^ 18 * rules.quorum.toRat then .quorumNotMet
  else if r.total = r.cast .abstain then .allAbstained
  else if 10 ^ 18 * rules.vetoThreshold.toRat < r.veto then .vetoed
  else if 10 ^ 18 * rules.threshold.toRat < r.yes then .passed
  else .rejected

end Reckoning

/-! ## Decimals and whole numbers -/

theorem unit_eq : ten fixedPlaces = 10 ^ 18 := rfl

theorem shareUnits_eq_fallsTo (part whole p : Nat) :
    shareUnits part whole p = fallsTo part whole p := by
  unfold shareUnits fallsTo
  rw [unit_eq, Nat.mul_comm part]
  split
  · rename_i none_
    rw [none_, Nat.div_zero, Nat.zero_mul, Nat.zero_div]
  · rfl

variable {power : Power} {guardians members : Tier} {g m : Nat}

theorem castInAll_eq_total :
    castInAll guardians members g m = (reckon guardians members g m).total := by
  simp only [Reckoning.total, Choice.recognized, List.map_cons, List.map_nil, List.sum_cons,
    List.sum_nil, castInAll, castFor, reckon]
  omega

theorem vetoUnits_eq : vetoUnits guardians members g m = (reckon guardians members g m).veto := by
  unfold vetoUnits
  rw [shareUnits_eq_fallsTo, shareUnits_eq_fallsTo]
  rfl

theorem yesUnits_eq : yesUnits guardians members g m = (reckon guardians members g m).yes := by
  unfold yesUnits
  rw [shareUnits_eq_fallsTo, shareUnits_eq_fallsTo]
  rfl

/-- A whole number of `10^-18` is below a threshold exactly if it is below so many of them. -/
theorem units_lt_iff {k : Nat} {t : ℚ} : k / (ten fixedPlaces : ℚ) < t ↔ k < 10 ^ 18 * t := by
  rw [div_lt_iff₀ (Decimal.ten_rat_pos _), mul_comm, unit_eq]
  push_cast
  rfl

theorem lt_units_iff {k : Nat} {t : ℚ} : t < k / (ten fixedPlaces : ℚ) ↔ 10 ^ 18 * t < k := by
  rw [lt_div_iff₀ (Decimal.ten_rat_pos _), mul_comm, unit_eq]
  push_cast
  rfl

/-- Each of the four comparisons comes out alike. -/
theorem decision_reckoned (rules : Rules) :
    rules.decision (amounts guardians members g m) =
      (reckon guardians members g m).decision rules := by
  have abstainLe := castFor_le_castInAll guardians members g m (c := .abstain) (by decide)
  have abstained : (amounts guardians members g m).nonAbstain = 0 ↔
      (reckon guardians members g m).total = (reckon guardians members g m).cast .abstain := by
    rw [amounts, div_eq_zero_iff, or_iff_left (Decimal.ten_rat_pos _).ne', Nat.cast_eq_zero,
      Nat.sub_eq_zero_iff_le, ← castInAll_eq_total]
    exact ⟨fun le => Nat.le_antisymm le abstainLe, Nat.le_of_eq⟩
  unfold Rules.decision Reckoning.decision
  simp only [abstained]
  simp only [amounts, units_lt_iff, lt_units_iff, castInAll_eq_total, vetoUnits_eq, yesUnits_eq]

/-- The verdicts of an outcome follow from its decision. -/
theorem verdicts_of_outcome_ok {rules : Rules} {result : Outcome}
    (ok : outcome power guardians members rules = .ok result) :
    result.passes = result.decision.passes ∧
      result.burnsDeposit = result.decision.burns rules := by
  obtain ⟨⟨combined, total⟩, -, ok⟩ := Result.of_bind_ok ok
  obtain ⟨scaled, -, ok⟩ := Result.of_bind_ok ok
  obtain ⟨decision, -, ok⟩ := Result.of_bind_ok ok
  cases ok
  exact ⟨rfl, rfl⟩

end Tally

theorem Decision.passes_iff {decision : Decision} :
    decision.passes = true ↔ decision = .passed := by
  cases decision <;> simp [passes]

theorem Decision.burns_iff {decision : Decision} {rules : Rules} :
    decision.burns rules = true ↔
      decision = .quorumNotMet ∧ rules.burnOnQuorum = true ∨
        decision = .vetoed ∧ rules.burnOnVeto = true := by
  cases decision <;> simp [burns]

/-! ## Outcomes -/

/-- The outcome is what has been reckoned: the power cast without any rounding, the decision, and
what follows from it. -/
structure Outcome.Reckoned (outcome : Outcome) (reckoning : Tally.Reckoning) (rules : Rules) :
    Prop where
  combined : ∀ c d, outcome.combined.toTable.get? c = some d →
    d.toRat = reckoning.cast c / 10 ^ 18
  total : outcome.totalPower.toRat = reckoning.total / 10 ^ 18
  decision : outcome.decision = reckoning.decision rules
  passes : outcome.passes = true ↔ outcome.decision = .passed
  burns : outcome.burnsDeposit = true ↔
    outcome.decision = .quorumNotMet ∧ rules.burnOnQuorum = true ∨
      outcome.decision = .vetoed ∧ rules.burnOnVeto = true

/-- The powers that have been allocated are whole numbers of `10^-18`, and with these every tally of
no more ballots than the largest electorate has members has the outcome that is reckoned. -/
theorem outcome_reckoned {electorate guardians : Nat} {weight : Decimal} {power : Power}
    (split : Power.allocate electorate guardians weight = .ok power) :
    ∃ g m : Nat, 10 ^ 18 * power.guardian.toRat = g ∧ 10 ^ 18 * power.member.toRat = m ∧
      ∀ ofGuardians ofMembers rules, ofGuardians.total + ofMembers.total ≤ 79228162514 →
        ∃ outcome, Tally.outcome power ofGuardians ofMembers rules = .ok outcome ∧
          outcome.Reckoned (Tally.reckon ofGuardians ofMembers g m) rules := by
  have unit : (ten fixedPlaces : ℚ) = 10 ^ 18 := by exact_mod_cast Tally.unit_eq
  obtain ⟨g, m, within⟩ := Power.within_of_allocate_ok split
  refine ⟨g, m, ?_, ?_, fun ofGuardians ofMembers rules few => ?_⟩
  · rw [within.guardian_toRat, unit, mul_div_cancel₀ _ (by positivity)]
  · rw [within.member_toRat, unit, mul_div_cancel₀ _ (by positivity)]
  · have whole : g * ofGuardians.total + m * ofMembers.total ≤ maxUnits :=
      calc g * ofGuardians.total + m * ofMembers.total
          ≤ ten fixedPlaces * ofGuardians.total + ten fixedPlaces * ofMembers.total :=
            Nat.add_le_add (Nat.mul_le_mul_right _ within.guardian_le)
              (Nat.mul_le_mul_right _ within.member_le)
        _ = (ofGuardians.total + ofMembers.total) * ten fixedPlaces := by ring
        _ ≤ maxUnits := Tally.ratio_fits few
    obtain ⟨outcome, decided, decision⟩ := Tally.outcome_ok rules within.guardian within.member
      within.guardian_le within.member_le whole
      (Tally.ratio_fits ((Nat.le_add_right ..).trans few))
      (Tally.ratio_fits ((Nat.le_add_left ..).trans few))
    obtain ⟨combined, total, run, each, sum⟩ := Tally.combine_ok within.guardian within.member
      ⟨within.guardian_le.trans (by decide), within.member_le.trans (by decide)⟩
      ((Tally.castInAll_le ofGuardians ofMembers g m).trans whole)
    rw [Tally.of_outcome_ok decided] at run
    cases run
    obtain ⟨passes, burns⟩ := Tally.verdicts_of_outcome_ok decided
    refine ⟨outcome, decided, ?_, ?_, ?_, ?_, ?_⟩
    · intro c d found
      rw [(each c d found).toRat, unit, Int.cast_natCast]
      rfl
    · rw [sum.toRat, unit, Int.cast_natCast, Tally.castInAll_eq_total]
    · exact decision.trans (Tally.decision_reckoned rules)
    · rw [passes]
      exact Decision.passes_iff
    · rw [burns]
      exact Decision.burns_iff

/-- Half of the power is shared by three members.  A sixth is cut, so two units of `10^-18` are
never cast, although everybody votes. -/
theorem outcome_reckoned_of_sixths :
    ∃ power outcome, Power.allocate 4 1 .half = .ok power ∧
      Tally.outcome power (.ofEntries [(.yes, 1)]) (.ofEntries [(.yes, 1), (.no, 2)]) .default =
        .ok outcome ∧
      outcome.totalPower.toRat = 999999999999999998 / 10 ^ 18 ∧ outcome.decision = .passed := by
  obtain ⟨power, split, guardian, member⟩ : ∃ power, Power.allocate 4 1 .half = .ok power ∧
      10 ^ 18 * power.guardian.toRat = (500000000000000000 : Nat) ∧
      10 ^ 18 * power.member.toRat = (166666666666666666 : Nat) :=
    ⟨⟨⟨false, 166666666666666666, 18, by decide, by decide⟩, .half⟩, by decide +kernel,
      by decide +kernel, by decide +kernel⟩
  obtain ⟨g, m, sameG, sameM, each⟩ := outcome_reckoned split
  have exactG : 500000000000000000 = g := by exact_mod_cast guardian.symm.trans sameG
  have exactM : 166666666666666666 = m := by exact_mod_cast member.symm.trans sameM
  subst exactG exactM
  obtain ⟨outcome, decided, reckoned⟩ :=
    each (.ofEntries [(.yes, 1)]) (.ofEntries [(.yes, 1), (.no, 2)]) .default (by decide)
  refine ⟨power, outcome, split, decided, ?_, ?_⟩
  · rw [reckoned.total]
    decide +kernel
  · rw [reckoned.decision]
    decide +kernel

end Suffrage
