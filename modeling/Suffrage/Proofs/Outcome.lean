/-
# Suffrage.Proofs.Outcome -- the arithmetic of a decision

A tally adds up at most one whole power, since the ballots of a tier weigh no more than
its budget (`combine_ok`).  Nothing on the way leaves the range of decimals: the power cast
for a choice has at most eighteen digits and is at most 1, and so is every share.

The only bound that counts have to keep is that of `Decimal.ratio`, which brings a count
to eighteen digits before it divides (`outcome_ok`, `Tally.maxElectorate`).  The decision is then
the one that exact arithmetic makes on the amounts computed (`Rules.decision`).
-/
import Suffrage.Proofs.Places
import Suffrage.Proofs.Power

namespace Suffrage

set_option autoImplicit false

open Decimal (IsFixed fixedPlaces maxUnits)
open Radix (ten)

namespace Tally

variable {power : Power} {guardians members : Tier} {g m : Nat}

/-! ## The power cast -/

/-- The recognized choices are counted within the total. -/
theorem recognized_le_total (t : Tier) :
    t.count .yes + t.count .abstain + t.count .no + t.count .noWithVeto ≤ t.total := by
  rw [t.total_eq_counts]
  omega

theorem plus_ok {a b : Decimal} {j k : Nat} (left : a.IsFixed j) (right : b.IsFixed k)
    (fits : j + k ≤ maxUnits) : ∃ c, a.plus b = .ok c ∧ c.IsFixed (j + k : Nat) := by
  obtain ⟨c, sum, fixed⟩ := left.add? right (by omega)
  refine ⟨c, ?_, by exact_mod_cast fixed⟩
  rw [Decimal.plus, sum]

theorem weighted_ok {c : Choice} (guardian : power.guardian.IsFixed g)
    (member : power.member.IsFixed m) (small : g ≤ maxUnits ∧ m ≤ maxUnits)
    (fits : g * guardians.count c + m * members.count c ≤ maxUnits) :
    ∃ d, weighted power guardians members c = .ok d ∧
      d.IsFixed (g * guardians.count c + m * members.count c : Nat) := by
  obtain ⟨a, multiple, fixed⟩ := guardian.multiple (guardians.count c) (by omega)
    (by rw [← Int.natCast_mul]; omega)
  obtain ⟨b, multiple', fixed'⟩ := member.multiple (members.count c) (by omega)
    (by rw [← Int.natCast_mul]; omega)
  rw [← Int.natCast_mul] at fixed fixed'
  obtain ⟨d, sum, exact_⟩ := plus_ok fixed fixed' fits
  refine ⟨d, ?_, exact_⟩
  simp [weighted, multiple, multiple', sum]

/-- The power cast for a choice, in whole numbers of `10^-18`. -/
def castFor (guardians members : Tier) (g m : Nat) (c : Choice) : Nat :=
  g * guardians.count c + m * members.count c

/-- The power cast for all choices, in whole numbers of `10^-18`. -/
def castInAll (guardians members : Tier) (g m : Nat) : Nat :=
  castFor guardians members g m .yes + castFor guardians members g m .abstain
    + castFor guardians members g m .no + castFor guardians members g m .noWithVeto

/-- No choice has more power than its tiers have ballots for. -/
theorem castInAll_le (guardians members : Tier) (g m : Nat) :
    castInAll guardians members g m ≤ g * guardians.total + m * members.total := by
  have left := Nat.mul_le_mul_left g (recognized_le_total guardians)
  have right := Nat.mul_le_mul_left m (recognized_le_total members)
  unfold castInAll castFor
  linarith

/-- If only recognized choices are counted, all ballots of both tiers are cast. -/
theorem castInAll_eq (noneLeft : guardians.count .unspecified = 0)
    (noneLeft' : members.count .unspecified = 0) (g m : Nat) :
    castInAll guardians members g m = g * guardians.total + m * members.total := by
  rw [guardians.total_eq_counts, members.total_eq_counts, noneLeft, noneLeft', castInAll]
  unfold castFor
  ring

/-- Each choice has its exact power, and so has the sum. -/
theorem combine_ok (guardian : power.guardian.IsFixed g) (member : power.member.IsFixed m)
    (small : g ≤ maxUnits ∧ m ≤ maxUnits)
    (fits : castInAll guardians members g m ≤ maxUnits) :
    ∃ combined total, combine power guardians members = .ok (combined, total) ∧
      (∀ c d, combined.toTable.get? c = some d → d.IsFixed (castFor guardians members g m c)) ∧
      total.IsFixed (castInAll guardians members g m) := by
  unfold castInAll at fits
  have each (c : Choice) (le : castFor guardians members g m c ≤ maxUnits) :=
    weighted_ok (c := c) guardian member small le
  obtain ⟨yes, runYes, fixedYes⟩ := each .yes (by omega)
  obtain ⟨abstain, runAbstain, fixedAbstain⟩ := each .abstain (by omega)
  obtain ⟨no, runNo, fixedNo⟩ := each .no (by omega)
  obtain ⟨veto, runVeto, fixedVeto⟩ := each .noWithVeto (by omega)
  rw [← castFor] at fixedYes fixedAbstain fixedNo fixedVeto
  have none_ : Decimal.zero.IsFixed (0 : Nat) := .zero
  obtain ⟨one, sumOne, fixedOne⟩ := plus_ok none_ fixedYes (by omega)
  obtain ⟨two, sumTwo, fixedTwo⟩ := plus_ok fixedOne fixedAbstain (by omega)
  obtain ⟨three, sumThree, fixedThree⟩ := plus_ok fixedTwo fixedNo (by omega)
  obtain ⟨total, sumTotal, fixedTotal⟩ := plus_ok fixedThree fixedVeto (by omega)
  refine ⟨⟨yes, abstain, no, veto⟩, total, ?_, ?_, ?_⟩
  · simp [combine, runYes, runAbstain, runNo, runVeto, sumOne, sumTwo, sumThree, sumTotal]
  · intro c d found
    cases c <;> cases found <;> assumption
  · rwa [Nat.zero_add] at fixedTotal

/-! ## The decision -/

/-- Members of the largest electorate whose ballots have a ratio. -/
def maxElectorate : Nat := 79228162514

theorem ratio_fits {count : Nat} (few : count ≤ maxElectorate) :
    count * ten fixedPlaces ≤ maxUnits :=
  (Nat.mul_le_mul_right _ few).trans (by decide)

/-- A share of a tier in whole numbers of `10^-18`: the fraction is cut first, then its product
with the power of one ballot.  A tier without ballots has none. -/
def shareUnits (part whole p : Nat) : Nat := part * ten fixedPlaces / whole * p / ten fixedPlaces

theorem ratio_le {part whole : Nat} (le : part ≤ whole) :
    part * ten fixedPlaces / whole ≤ ten fixedPlaces :=
  Nat.div_le_of_le_mul (Nat.mul_le_mul_right _ le)

/-- A whole tier of one mind comes to the power of one of its ballots, and no tier to more. -/
theorem shareUnits_le {part whole : Nat} (le : part ≤ whole) (p : Nat) :
    shareUnits part whole p ≤ p :=
  Nat.div_le_of_le_mul (Nat.mul_le_mul_right p (ratio_le le))

/-- A share of a tier is a fraction of the power of one ballot. -/
theorem share_ok {part whole p : Nat} {ballot : Decimal} (fixed : ballot.IsFixed p)
    (le : part ≤ whole) (ballotLe : p ≤ ten fixedPlaces)
    (fits : part * ten fixedPlaces ≤ maxUnits) :
    ∃ d, share part whole ballot = .ok d ∧ d.IsFixed (shareUnits part whole p) := by
  by_cases none_ : whole = 0
  · have nothing : shareUnits part whole p = 0 := by simp [shareUnits, none_]
    exact ⟨.zero, by rw [share, if_pos none_], nothing ▸ .zero⟩
  · obtain ⟨r, ratio, exact_⟩ := Decimal.ratio_ok none_ fits
    have fraction := ratio_le le
    have small := (shareUnits_le le p).trans ballotLe
    unfold shareUnits at small ⊢
    generalize part * ten fixedPlaces / whole = q at exact_ fraction small ⊢
    have cut : ((q : Int) * p).tdiv (ten fixedPlaces) = (q * p / ten fixedPlaces : Nat) := by
      rw [← Int.natCast_mul, ← Int.ofNat_tdiv]
    have square : q * p ≤ ten fixedPlaces * ten fixedPlaces := Nat.mul_le_mul fraction ballotLe
    have fitsWord : ((q : Int) * p).natAbs < Radix.two 127 := by
      rw [← Int.natCast_mul, Int.natAbs_natCast]
      exact square.trans_lt (by decide)
    have fitsResult : (((q : Int) * p).tdiv (ten fixedPlaces)).natAbs ≤ maxUnits := by
      rw [cut, Int.natAbs_natCast]
      exact small.trans (by decide)
    obtain ⟨d, product, exact'⟩ := exact_.product fixed (fraction.trans (by decide)) fitsWord
      fitsResult
    rw [cut] at exact'
    exact ⟨d, by simp [share, none_, ratio, product], exact'⟩

/-- What the vetoes of both tiers come to, in whole numbers of `10^-18`. -/
def vetoUnits (guardians members : Tier) (g m : Nat) : Nat :=
  shareUnits (guardians.count .noWithVeto) guardians.nonAbstain g
    + shareUnits (members.count .noWithVeto) members.nonAbstain m

/-- What the yes ballots of both tiers come to, in whole numbers of `10^-18`. -/
def yesUnits (guardians members : Tier) (g m : Nat) : Nat :=
  shareUnits (guardians.count .yes) guardians.total g
    + shareUnits (members.count .yes) members.total m

/-- What a tally is decided on: the power cast in all, the part of it that is no abstention, and
the weighted shares of vetoes and of yes. -/
structure Amounts where
  total : ℚ
  nonAbstain : ℚ
  veto : ℚ
  yes : ℚ
  deriving DecidableEq

/-- The amounts that come of whole numbers of `10^-18` for one ballot of each tier. -/
def amounts (guardians members : Tier) (g m : Nat) : Amounts where
  total := castInAll guardians members g m / (ten fixedPlaces : ℚ)
  nonAbstain := (castInAll guardians members g m - castFor guardians members g m .abstain : Nat)
    / (ten fixedPlaces : ℚ)
  veto := vetoUnits guardians members g m / (ten fixedPlaces : ℚ)
  yes := yesUnits guardians members g m / (ten fixedPlaces : ℚ)

end Tally

/-- The decision on exact numbers: the first step that applies decides. -/
def Rules.decision (rules : Rules) (amounts : Tally.Amounts) : Decision :=
  if amounts.total < rules.quorum.toRat then .quorumNotMet
  else if amounts.nonAbstain = 0 then .allAbstained
  else if rules.vetoThreshold.toRat < amounts.veto then .vetoed
  else if rules.threshold.toRat < amounts.yes then .passed
  else .rejected

namespace Tally

variable {power : Power} {guardians members : Tier} {g m : Nat}

/-- The parts of a tier that have a share are parts. -/
theorem parts_le (tier : Tier) : tier.count .noWithVeto ≤ tier.nonAbstain ∧
    tier.nonAbstain ≤ tier.total ∧ tier.count .yes ≤ tier.total := by
  have := recognized_le_total tier
  unfold Tier.nonAbstain
  omega

/-- The power of the abstentions is part of the power cast. -/
theorem castFor_le_castInAll (guardians members : Tier) (g m : Nat) {c : Choice}
    (recognized : c ≠ .unspecified) :
    castFor guardians members g m c ≤ castInAll guardians members g m := by
  unfold castInAll
  cases c with
  | unspecified => exact absurd rfl recognized
  | yes => omega
  | abstain => omega
  | no => omega
  | noWithVeto => omega

/-- With counts that have a ratio every step can be computed, and the decision is that on the
amounts computed. -/
theorem judge_ok {combined : Shares Decimal} {total : Decimal} (rules : Rules)
    (guardian : power.guardian.IsFixed g) (member : power.member.IsFixed m)
    (guardianLe : g ≤ ten fixedPlaces) (memberLe : m ≤ ten fixedPlaces)
    (totalFixed : total.IsFixed (castInAll guardians members g m))
    (abstainFixed : combined.abstain.IsFixed (castFor guardians members g m .abstain))
    (totalLe : castInAll guardians members g m ≤ maxUnits)
    (guardiansFit : guardians.total * ten fixedPlaces ≤ maxUnits)
    (membersFit : members.total * ten fixedPlaces ≤ maxUnits) :
    judge power guardians members rules combined total =
      .ok (rules.decision (amounts guardians members g m)) := by
  have twice : ten fixedPlaces + ten fixedPlaces ≤ maxUnits := by decide
  have abstainLe := castFor_le_castInAll guardians members g m (c := .abstain) (by decide)
  obtain ⟨rest, difference, fixedRest⟩ := totalFixed.sub? abstainFixed (by omega)
  obtain ⟨vetoPart, rest_le, yesPart⟩ := parts_le guardians
  obtain ⟨vetoPart', rest_le', yesPart'⟩ := parts_le members
  have fits {part : Nat} (le : part ≤ guardians.total) : part * ten fixedPlaces ≤ maxUnits :=
    (Nat.mul_le_mul_right _ le).trans guardiansFit
  have fits' {part : Nat} (le : part ≤ members.total) : part * ten fixedPlaces ≤ maxUnits :=
    (Nat.mul_le_mul_right _ le).trans membersFit
  obtain ⟨veto, runVeto, fixedVeto⟩ :=
    share_ok guardian vetoPart guardianLe (fits (vetoPart.trans rest_le))
  obtain ⟨veto', runVeto', fixedVeto'⟩ :=
    share_ok member vetoPart' memberLe (fits' (vetoPart'.trans rest_le'))
  obtain ⟨yes, runYes, fixedYes⟩ := share_ok guardian yesPart guardianLe (fits yesPart)
  obtain ⟨yes', runYes', fixedYes'⟩ := share_ok member yesPart' memberLe (fits' yesPart')
  have vetoLe := shareUnits_le vetoPart g
  have vetoLe' := shareUnits_le vetoPart' m
  have yesLe := shareUnits_le yesPart g
  have yesLe' := shareUnits_le yesPart' m
  obtain ⟨vetoes, sumVeto, fixedVetoes⟩ := plus_ok fixedVeto fixedVeto' (by omega)
  obtain ⟨yeses, sumYes, fixedYeses⟩ := plus_ok fixedYes fixedYes' (by omega)
  have quorum : total < rules.quorum ↔
      (amounts guardians members g m).total < rules.quorum.toRat := by
    rw [Decimal.lt_iff_toRat_lt, totalFixed.toRat, Int.cast_natCast]
    rfl
  have abstained : rest.isZero = true ↔ (amounts guardians members g m).nonAbstain = 0 := by
    rw [← Int.ofNat_sub abstainLe] at fixedRest
    rw [fixedRest.isZero_iff, amounts, div_eq_zero_iff,
      or_iff_left (Decimal.ten_rat_pos _).ne']
    exact_mod_cast Iff.rfl
  have vetoed : rules.vetoThreshold < vetoes ↔
      rules.vetoThreshold.toRat < (amounts guardians members g m).veto := by
    rw [Decimal.lt_iff_toRat_lt, fixedVetoes.toRat, Int.cast_natCast]
    rfl
  have passed : rules.threshold < yeses ↔
      rules.threshold.toRat < (amounts guardians members g m).yes := by
    rw [Decimal.lt_iff_toRat_lt, fixedYeses.toRat, Int.cast_natCast]
    rfl
  unfold judge Rules.decision
  simp only [Decimal.minus, difference, vetoShare, runVeto, runVeto', yesShare, runYes, runYes',
    sumVeto, sumYes, Result.ok_bind, Result.pure_eq, quorum, abstained, vetoed, passed]
  split_ifs <;> rfl

/-- Counts within the budgets of their tiers, and small enough for a ratio, have an outcome, and
it is decided on the amounts computed. -/
theorem outcome_ok (rules : Rules) (guardian : power.guardian.IsFixed g)
    (member : power.member.IsFixed m) (guardianLe : g ≤ ten fixedPlaces)
    (memberLe : m ≤ ten fixedPlaces)
    (fits : g * guardians.total + m * members.total ≤ maxUnits)
    (guardiansFit : guardians.total * ten fixedPlaces ≤ maxUnits)
    (membersFit : members.total * ten fixedPlaces ≤ maxUnits) :
    ∃ result, outcome power guardians members rules = .ok result ∧
      result.decision = rules.decision (amounts guardians members g m) := by
  have whole := (castInAll_le guardians members g m).trans fits
  have small : g ≤ maxUnits ∧ m ≤ maxUnits :=
    ⟨guardianLe.trans (by decide), memberLe.trans (by decide)⟩
  obtain ⟨combined, total, run, each, sum⟩ := combine_ok guardian member small whole
  obtain ⟨result, scaled⟩ := scaleResults_ok fun c d found => by
    refine ⟨each c d found, (castFor_le_castInAll guardians members g m ?_).trans whole⟩
    rintro rfl
    cases found
  have judged := judge_ok rules guardian member guardianLe memberLe sum
    (each .abstain combined.abstain rfl) whole guardiansFit membersFit
  generalize rules.decision _ = decision at judged ⊢
  refine ⟨⟨decision, decision.passes, decision.burns rules, combined, total, result⟩, ?_, rfl⟩
  simp [outcome, run, scaled, judged]

/-- An outcome reports the powers that were combined. -/
theorem of_outcome_ok {rules : Rules} {result : Outcome}
    (ok : outcome power guardians members rules = .ok result) :
    combine power guardians members = .ok (result.combined, result.totalPower) := by
  obtain ⟨⟨combined, total⟩, run, rest⟩ := Result.of_bind_ok ok
  obtain ⟨scaled, -, rest⟩ := Result.of_bind_ok rest
  obtain ⟨decision, -, rest⟩ := Result.of_bind_ok rest
  cases rest
  exact run

end Tally

/-- Ballots within the numbers of guardians and of other members have an outcome. -/
theorem Power.Within.outcome_ok {power : Power} {weight : Decimal} {guardians others g m : Nat}
    (within : power.Within weight guardians others g m)
    (few : guardians + others ≤ Tally.maxElectorate) (rules : Rules) {gs ms : Tier}
    (guardiansFit : gs.total ≤ guardians) (membersFit : ms.total ≤ others) :
    ∃ outcome, Tally.outcome power gs ms rules = .ok outcome ∧
      outcome.decision = rules.decision (Tally.amounts gs ms g m) := by
  have whole : g * gs.total + m * ms.total ≤ maxUnits :=
    (within.sum_le guardiansFit membersFit).trans (by decide)
  exact Tally.outcome_ok rules within.guardian within.member within.guardian_le within.member_le
    whole (Tally.ratio_fits (by omega)) (Tally.ratio_fits (by omega))

/-- Ballots within the numbers of guardians and of other members have an exact power for each
choice, and together what both tiers hand out for them. -/
theorem Power.Within.combine_ok {power : Power} {weight : Decimal} {guardians others g m : Nat}
    (within : power.Within weight guardians others g m) {gs ms : Tier}
    (guardiansFit : gs.total ≤ guardians) (membersFit : ms.total ≤ others)
    (noneLeft : gs.count .unspecified = 0) (noneLeft' : ms.count .unspecified = 0) :
    ∃ combined total, Tally.combine power gs ms = .ok (combined, total) ∧
      (∀ c d, combined.toTable.get? c = some d → d.IsFixed (Tally.castFor gs ms g m c)) ∧
      total.IsFixed (g * gs.total + m * ms.total : Nat) ∧
      total.toRat = power.guardian.toRat * gs.total + power.member.toRat * ms.total := by
  have small : g ≤ maxUnits ∧ m ≤ maxUnits :=
    ⟨within.guardian_le.trans (by decide), within.member_le.trans (by decide)⟩
  have whole := Tally.castInAll_eq noneLeft noneLeft' g m
  have fits : Tally.castInAll gs ms g m ≤ maxUnits := by
    rw [whole]
    exact (within.sum_le guardiansFit membersFit).trans (by decide)
  obtain ⟨combined, total, run, each, sum⟩ :=
    Tally.combine_ok within.guardian within.member small fits
  rw [whole] at sum
  refine ⟨combined, total, run, each, sum, ?_⟩
  rw [sum.toRat, within.guardian_toRat, within.member_toRat]
  push_cast
  ring

end Suffrage
