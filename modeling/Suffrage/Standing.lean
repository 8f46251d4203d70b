/-
# Suffrage.Standing -- where an enrolled address stands

Enrolment puts an address on the roll as pending; a guardian's approval moves it into
the electorate.  There is no way back and no shortcut: `Standing.mayBecome` holds of
the two steps forward and of nothing else.  Only the electorate votes.
-/

namespace Suffrage

set_option autoImplicit false

inductive Standing where
  | unset
  | pendingApproval
  | electorate
  deriving DecidableEq, Repr, Inhabited

namespace Standing

/-- Every standing, in the order of its code. -/
def all : List Standing := [.unset, .pendingApproval, .electorate]

/-- The one-byte code that stands for it in storage keys. -/
def code : Standing → UInt8
  | .unset => 0
  | .pendingApproval => 1
  | .electorate => 2

theorem code_inj {s t : Standing} (same : s.code = t.code) : s = t := by
  cases s <;> cases t <;> first | rfl | (revert same; decide)

/-- The two steps forward. -/
def mayBecome : Standing → Standing → Bool
  | .unset, .pendingApproval => true
  | .pendingApproval, .electorate => true
  | _, _ => false

/-- The standings that may come next, in the order of their codes. -/
def successors (s : Standing) : List Standing := all.filter s.mayBecome

def mayVote : Standing → Bool
  | .electorate => true
  | _ => false

/-- The name shown in messages. -/
def label : Standing → String
  | .unset => "unset"
  | .pendingApproval => "pending_approval"
  | .electorate => "electorate"

/-- The name used in records. -/
def tag : Standing → String
  | .unset => "Unset"
  | .pendingApproval => "PendingApproval"
  | .electorate => "Electorate"

def ofTag? (name : String) : Option Standing := all.find? (·.tag == name)

theorem ofTag?_tag (s : Standing) : ofTag? s.tag = some s := by cases s <;> decide

end Standing

end Suffrage
