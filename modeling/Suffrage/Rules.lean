/-
# Suffrage.Rules -- the thresholds of a tally

A tally needs a quorum of the total power, fails above the veto threshold and passes
above the approval threshold.  Each is a fraction; `Rules.validate` names the first that
is not.  Two switches say when the deposit is burned.
-/
import Suffrage.Decimal.Text

namespace Suffrage

set_option autoImplicit false

structure Rules where
  /-- Least total power that must be cast. -/
  quorum : Decimal
  /-- Weighted share of yes that must be exceeded to pass. -/
  threshold : Decimal
  /-- Weighted share of vetoes above which the proposal is vetoed. -/
  vetoThreshold : Decimal
  /-- Burn the deposit when the quorum is missed. -/
  burnOnQuorum : Bool
  /-- Burn the deposit when the proposal is vetoed. -/
  burnOnVeto : Bool
  deriving DecidableEq, Repr

namespace Rules

def defaultQuorum : Decimal := ⟨false, 334, 3, by decide, by decide⟩

def defaultThreshold : Decimal := .half

def defaultVetoThreshold : Decimal := defaultQuorum

def default : Rules :=
  { quorum := defaultQuorum
    threshold := defaultThreshold
    vetoThreshold := defaultVetoThreshold
    burnOnQuorum := false
    burnOnVeto := false }

/-- The thresholds are equal as numbers, and the switches are equal. -/
def same (a b : Rules) : Bool :=
  a.quorum.same b.quorum && a.threshold.same b.threshold
    && a.vetoThreshold.same b.vetoThreshold
    && a.burnOnQuorum == b.burnOnQuorum && a.burnOnVeto == b.burnOnVeto

/-- Checks the fractions in the order quorum, threshold, veto threshold. -/
def validate (rules : Rules) : Except ValueError Unit :=
  let fractions :=
    [("quorum", rules.quorum), ("threshold", rules.threshold),
     ("veto_threshold", rules.vetoThreshold)]
  match fractions.find? (!·.2.isFraction) with
  | none => .ok ()
  | some (name, value) =>
      .error (.rules (name ++ " must be within [0, 1], got " ++ value.render))

end Rules

end Suffrage
