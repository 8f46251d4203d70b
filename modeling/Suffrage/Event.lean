/-
# Suffrage.Event -- what the outside world is told

Every change of the roll, of the guardian list and of their weight is announced by one
event, in the order in which the changes are made.
-/
import Suffrage.Address
import Suffrage.Decimal.Basic

namespace Suffrage

set_option autoImplicit false

inductive Event where
  | memberEnrolled (member : Address)
  /-- The operator is an address, or the name of what made the change. -/
  | standingChanged (member : Address) (previous current : Standing) (operator : String)
  | memberApproved (member approver : Address)
  | guardiansAdded (guardians : List Address)
  | guardiansRemoved (guardians : List Address)
  | weightChanged (previous new : Decimal)
  deriving DecidableEq, Repr

namespace Event

def name : Event → String
  | .memberEnrolled .. => "member_enrolled"
  | .standingChanged .. => "member_status_changed"
  | .memberApproved .. => "member_approved"
  | .guardiansAdded .. => "guardians_added"
  | .guardiansRemoved .. => "guardians_removed"
  | .weightChanged .. => "total_voting_weight_changed"

end Event

end Suffrage
