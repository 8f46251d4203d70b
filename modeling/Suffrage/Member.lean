/-
# Suffrage.Member -- records of the roll

A member record holds an address, its standing and a guardian flag.  The flag means
something only in the electorate: `Member.normalized` drops it anywhere else.
-/
import Suffrage.Address

namespace Suffrage

set_option autoImplicit false

structure Member where
  address : Address
  standing : Standing
  isGuardian : Bool
  deriving DecidableEq, Repr

namespace Member

/-- The record of a new enrolment. -/
def pending (address : Address) : Member :=
  { address, standing := .pendingApproval, isGuardian := false }

/-- Without a flag that the standing does not back. -/
def normalized (m : Member) : Member :=
  { m with isGuardian := m.isGuardian && m.standing == .electorate }

end Member

end Suffrage
