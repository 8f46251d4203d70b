/-
# Suffrage.Proofs.Scaling -- the whole numbers of a report

What a report shows as whole numbers are the powers themselves, on one common scale and to the last
digit (`Tally.Scales`).  A table of any values may hold one that cannot be raised so far, but this
happens to no tally: its powers have at most eighteen digits, and add up to one at most
(`Outcome.Scaled`).
-/
import Suffrage.Proofs.Tally

namespace Suffrage

set_option autoImplicit false

open Suffrage.Action (Holds)
open Decimal (maxUnits)

/-! ## The whole numbers of a tally -/

/-- An outcome reports its powers, raised. -/
theorem Tally.scaled_of_outcome_ok {power : Power} {gs ms : Tier} {rules : Rules}
    {outcome : Outcome} (ok : Tally.outcome power gs ms rules = .ok outcome) :
    Tally.scaleResults outcome.combined.toTable = .ok outcome.result := by
  obtain ⟨⟨combined, total⟩, -, ok⟩ := Result.of_bind_ok ok
  obtain ⟨result, scaled, ok⟩ := Result.of_bind_ok ok
  obtain ⟨decision, -, ok⟩ := Result.of_bind_ok ok
  cases ok
  exact scaled

/-- The whole numbers of an outcome need no more than eighteen places, and add up to all that was
cast. -/
structure Outcome.Scaled (outcome : Outcome) : Prop where
  result : Tally.scaleResults outcome.combined.toTable = .ok outcome.result
  places_le : Tally.commonPlaces outcome.combined.toTable ≤ 18
  sum : (outcome.result.yes + outcome.result.abstain + outcome.result.no +
      outcome.result.noWithVeto : ℚ) =
    outcome.totalPower.toRat * 10 ^ Tally.commonPlaces outcome.combined.toTable

theorem Power.Within.outcome_scaled {power : Power} {weight : Decimal} {guardians others g m : Nat}
    (within : power.Within weight guardians others g m) {gs ms : Tier}
    (guardiansFit : gs.total ≤ guardians) (membersFit : ms.total ≤ others)
    (noneLeft : gs.count .unspecified = 0) (noneLeft' : ms.count .unspecified = 0)
    {rules : Rules} {outcome : Outcome}
    (decided : Tally.outcome power gs ms rules = .ok outcome) : outcome.Scaled := by
  obtain ⟨combined, total, run, each, sum, -⟩ :=
    within.combine_ok guardiansFit membersFit noneLeft noneLeft'
  rw [Tally.of_outcome_ok decided] at run
  cases run
  have result := Tally.scaled_of_outcome_ok decided
  refine ⟨result, (Tally.commonPlaces_spec fun v inside => ?_).1, ?_⟩
  · obtain ⟨c, found⟩ := Choice.Table.mem_values.1 inside
    exact (each c v found).normalize.scale_le
  · have exact_ := (Tally.scales_of_scaleResults_ok result).exact_
    have whole : outcome.totalPower.toRat = outcome.combined.yes.toRat +
        outcome.combined.abstain.toRat + outcome.combined.no.toRat +
          outcome.combined.noWithVeto.toRat := by
      rw [sum.toRat, (each .yes _ rfl).toRat, (each .abstain _ rfl).toRat, (each .no _ rfl).toRat,
        (each .noWithVeto _ rfl).toRat, ← Tally.castInAll_eq noneLeft noneLeft', Tally.castInAll]
      push_cast
      ring
    rw [exact_ .yes _ rfl, exact_ .abstain _ rfl, exact_ .no _ rfl, exact_ .noWithVeto _ rfl, whole]
    simp only [Tally.amount, Shares.toTable, Choice.Table.get?, Option.getD_some]
    ring

theorem Store.Coherent.scaled_of_tally_ok {founded : Prop} {s : Store}
    (coherent : s.Coherent founded) {journal : List Event} {rules : Rules} {proposal : ProposalId}
    {outcome : Outcome}
    (ok : ((Assembly.tally rules proposal).runOn ⟨s, [], journal⟩).1 = .ok outcome) :
    outcome.Scaled := by
  cases found : s.settings? with
  | none =>
      rw [runOn_tally_unsettled found journal rules proposal] at ok
      cases ok
  | some record =>
      rw [coherent.runOn_tally found journal rules proposal] at ok
      obtain ⟨power, split, rest⟩ := Result.of_bind_ok ok
      obtain ⟨report, collect, decided⟩ := Result.of_bind_ok rest
      obtain ⟨g, m, within⟩ := Power.within_of_allocate_ok split
      obtain ⟨guardians, members, noneLeft, noneLeft'⟩ := coherent.collected_le found collect
      exact within.outcome_scaled guardians (by omega) noneLeft noneLeft' decided

/-- The whole numbers of a report are exact: they are the values, raised by the least power of ten
that makes all of them whole, in the same order and in the same ratios; and values are refused only
where one of them is negative or too large to be raised.

Tallies are never refused for this.  The whole numbers of a tally add up to all the power that was
cast, raised by no more than eighteen places. -/
theorem scaling_exact :
    (∀ values : Choice.Table Decimal, ∃ places,
      IsLeast {d : Nat | ∀ c v, values.get? c = some v → ∃ k : ℤ, v.toRat * 10 ^ d = k} places ∧
      (∀ result, Tally.scaleResults values = .ok result →
        (∀ c n, result.toTable.get? c = some n →
          (n : ℚ) = Tally.amount values c * 10 ^ places) ∧
        ∀ c d m n, result.toTable.get? c = some m → result.toTable.get? d = some n →
          (m ≤ n ↔ Tally.amount values c ≤ Tally.amount values d) ∧
            (m / n : ℚ) = Tally.amount values c / Tally.amount values d) ∧
      ((∃ e, Tally.scaleResults values = .error e) ↔ ∃ c ∈ Choice.recognized,
        Tally.amount values c < 0 ∨ 2 ^ 96 - 1 < Tally.amount values c * 10 ^ places)) ∧
    ∀ calls rules proposal outcome,
      ((Assembly.tally rules proposal).runOn (Host.fresh.after calls)).1 = .ok outcome →
      ∃ places ≤ 18,
        IsLeast {d : Nat | ∀ c v, outcome.combined.toTable.get? c = some v →
          ∃ k : ℤ, v.toRat * 10 ^ d = k} places ∧
        Tally.scaleResults outcome.combined.toTable = .ok outcome.result ∧
        (outcome.result.yes + outcome.result.abstain + outcome.result.no +
          outcome.result.noWithVeto : ℚ) = outcome.totalPower.toRat * 10 ^ places := by
  constructor
  · intro values
    have limit : (maxUnits : ℚ) = 2 ^ 96 - 1 := by norm_num [maxUnits]
    refine ⟨Tally.commonPlaces values, Tally.isLeast_commonPlaces values, fun result ok => ?_, ?_⟩
    · have scales := Tally.scales_of_scaleResults_ok ok
      refine ⟨scales.exact_, fun c d m n foundC foundD => ?_⟩
      exact ⟨scales.le_iff foundC foundD, scales.div_eq foundC foundD⟩
    · rw [← limit]
      exact Tally.scaleResults_refused_iff
  · intro calls rules proposal outcome ok
    have start : Holds (Store.Coherent False) (Host.fresh.after calls) :=
      Store.Coherent.fresh_after calls
    generalize Host.fresh.after calls = h at ok start
    obtain ⟨s, outages, journal⟩ := h
    obtain ⟨rfl, coherent⟩ := start
    have scaled := coherent.scaled_of_tally_ok ok
    exact ⟨_, scaled.places_le, Tally.isLeast_commonPlaces _, scaled.result, scaled.sum⟩

/-- A half, an eighth, and a tenth that is not reported. -/
def Choice.Table.mixed : Choice.Table Decimal :=
  { unspecified := Decimal.read? "0.1"
    yes := Decimal.read? "0.50"
    no := Decimal.read? "0.125" }

/-- Three places make all of them whole; and of a session with one ballot for half of the power,
five tenths are reported. -/
theorem scaling_exact_mixed :
    Tally.scaleResults .mixed = .ok ⟨500, 0, 125, 0⟩ ∧
    ((500 : Nat) / (125 : Nat) : ℚ) = Tally.amount .mixed .yes / Tally.amount .mixed .no ∧
    ∃ places ≤ 18, ((5 : Nat) + (0 : Nat) + (0 : Nat) + (0 : Nat) : ℚ) =
      Decimal.half.toRat * 10 ^ places := by
  have ok : Tally.scaleResults .mixed = .ok ⟨500, 0, 125, 0⟩ := by decide +kernel
  have run : ((Assembly.tally .default ⟨1⟩).runOn (Host.fresh.after sampleSession)).1 =
      .ok ⟨.rejected, false, false, ⟨.half, .zero, .zero, .zero⟩, .half, ⟨5, 0, 0, 0⟩⟩ := by
    decide +kernel
  obtain ⟨tables, tallies⟩ := scaling_exact
  obtain ⟨_, -, exact_, -⟩ := tables .mixed
  obtain ⟨places, few, -, -, sum⟩ := tallies _ _ _ _ run
  exact ⟨ok, ((exact_ _ ok).2 .yes .no 500 125 rfl rfl).2, places, few, sum⟩

end Suffrage
