/-
# Suffrage.Tally -- the decision on a proposal

A tally is decided in four steps, the first that applies giving the decision: too little
power cast misses the quorum; nothing but abstentions decides nothing; a weighted share of
vetoes above the veto threshold vetoes; a weighted share of yes above the threshold
passes.  What remains is rejected.

A tier's share is its fraction of ballots times the power of one of its ballots.  All
comparisons are made on decimals truncated at eighteen digits; the whole numbers of the
report (`scaleResults`) are computed for display only.
-/
import Suffrage.Collection
import Suffrage.Guardians
import Suffrage.Power
import Suffrage.Rules

namespace Suffrage

set_option autoImplicit false

inductive Decision where
  | quorumNotMet
  | allAbstained
  | vetoed
  | rejected
  | passed
  deriving DecidableEq, Repr

namespace Decision

/-- The name shown in messages and reports. -/
def label : Decision → String
  | .quorumNotMet => "quorum_not_met"
  | .allAbstained => "all_abstained"
  | .vetoed => "vetoed"
  | .rejected => "rejected"
  | .passed => "passed"

/-- The name used in records. -/
def tag : Decision → String
  | .quorumNotMet => "QuorumNotMet"
  | .allAbstained => "AllAbstained"
  | .vetoed => "Vetoed"
  | .rejected => "Rejected"
  | .passed => "Passed"

/-- Whether the proposal passes. -/
def passes : Decision → Bool
  | .passed => true
  | _ => false

/-- Whether the deposit is burned. -/
def burns (rules : Rules) : Decision → Bool
  | .quorumNotMet => rules.burnOnQuorum
  | .vetoed => rules.burnOnVeto
  | _ => false

end Decision

/-- One value for each recognized choice. -/
structure Shares (α : Type) where
  yes : α
  abstain : α
  no : α
  noWithVeto : α
  deriving DecidableEq, Repr

def Shares.toTable {α : Type} (s : Shares α) : Choice.Table α :=
  { yes := some s.yes
    abstain := some s.abstain
    no := some s.no
    noWithVeto := some s.noWithVeto }

structure Outcome where
  decision : Decision
  passes : Bool
  burnsDeposit : Bool
  /-- Weighted power cast for each choice. -/
  combined : Shares Decimal
  totalPower : Decimal
  /-- `combined` as whole numbers of one common unit. -/
  result : Shares Nat
  deriving DecidableEq, Repr

namespace Tally

/-! ## Whole-number results -/

/-- The most significant fractional digits among the values. -/
def commonPlaces (values : Choice.Table Decimal) : Nat :=
  (values.values.map Decimal.significantPlaces).foldl max 0

/-- Scales every value by the same power of ten, the smallest that makes all of them
whole.  A choice without a value counts as zero. -/
def scaleResults (values : Choice.Table Decimal) : Except Failure (Shares Nat) := do
  let places := commonPlaces values
  let scaled (c : Choice) :=
    (((values.get? c).getD .zero).scaledInteger places).mapError Failure.ofValue
  let yes ← scaled .yes
  let abstain ← scaled .abstain
  let no ← scaled .no
  let noWithVeto ← scaled .noWithVeto
  return { yes, abstain, no, noWithVeto }

/-! ## The decision -/

/-- The power cast for a choice in both tiers. -/
def weighted (power : Power) (guardians members : Tier) (c : Choice) : Except Failure Decimal := do
  let fromGuardians ← (power.guardian.multiple (guardians.count c)).mapError Failure.ofValue
  let fromMembers ← (power.member.multiple (members.count c)).mapError Failure.ofValue
  fromGuardians.plus fromMembers

/-- The power cast for each choice, and in all. -/
def combine (power : Power) (guardians members : Tier) :
    Except Failure (Shares Decimal × Decimal) := do
  let yes ← weighted power guardians members .yes
  let total ← Decimal.zero.plus yes
  let abstain ← weighted power guardians members .abstain
  let total ← total.plus abstain
  let no ← weighted power guardians members .no
  let total ← total.plus no
  let noWithVeto ← weighted power guardians members .noWithVeto
  let total ← total.plus noWithVeto
  return ({ yes, abstain, no, noWithVeto }, total)

/-- `part / whole * power`; zero where nothing was cast. -/
def share (part whole : Nat) (power : Decimal) : Except Failure Decimal :=
  if whole = 0 then .ok .zero
  else (do (← Decimal.ratio part whole).product power : Except ValueError Decimal).mapError
    Failure.ofValue

/-- The vetoes of a tier among its ballots other than abstentions. -/
def vetoShare (tier : Tier) (power : Decimal) : Except Failure Decimal :=
  share (tier.count .noWithVeto) tier.nonAbstain power

/-- The yes ballots of a tier among all of its ballots. -/
def yesShare (tier : Tier) (power : Decimal) : Except Failure Decimal :=
  share (tier.count .yes) tier.total power

/-- The first step that applies gives the decision. -/
def judge (power : Power) (guardians members : Tier) (rules : Rules)
    (combined : Shares Decimal) (total : Decimal) : Except Failure Decision := do
  if total < rules.quorum then return .quorumNotMet
  if (← total.minus combined.abstain).isZero then return .allAbstained
  let veto ← (← vetoShare guardians power.guardian).plus (← vetoShare members power.member)
  if rules.vetoThreshold < veto then return .vetoed
  let yes ← (← yesShare guardians power.guardian).plus (← yesShare members power.member)
  if rules.threshold < yes then return .passed
  return .rejected

/-- The outcome of collected counts. -/
def outcome (power : Power) (guardians members : Tier) (rules : Rules) :
    Except Failure Outcome := do
  let (combined, totalPower) ← combine power guardians members
  let result ← scaleResults combined.toTable
  let decision ← judge power guardians members rules combined totalPower
  return {
    decision
    passes := decision.passes
    burnsDeposit := decision.burns rules
    combined
    totalPower
    result }

/-! ## The tally of a proposal -/

/-- The power of one ballot, from the roll and the guardian list. -/
def power : Action Host Power := do
  let electorate ← Roll.standingCount .electorate
  let guardians ← Guardians.confirmed
  let weight ← Guardians.weight
  Action.lift (Power.allocate electorate.toNat guardians.length weight)

/-- Collects and decides the ballots on a proposal. -/
def tally {σ : Type} (box : BallotBox σ) (rules : Rules) (proposal : ProposalId) :
    Action σ Outcome := do
  let power ← box.onHost power
  let report ← Collection.collect box proposal
  Action.lift (outcome power report.guardians report.members rules)

end Tally

end Suffrage
