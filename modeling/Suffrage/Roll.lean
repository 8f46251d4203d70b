/-
# Suffrage.Roll -- the electoral roll

The roll is one record per enrolled address and a counter for each standing beside a
counter of all members.  `enroll` and `transition` write a record and its counters in one
go, after every check, so the counters of the standings add up to the member counter.

Records are read without a guardian flag that their standing does not back (`find?`).
-/
import Suffrage.Host

namespace Suffrage.Roll

set_option autoImplicit false

/-- The record of an address. -/
def find? (address : Address) : Action Host (Option Member) := do
  return (← Host.readMember address).map Member.normalized

/-- The record of an address that must have one. -/
def require (address : Address) : Action Host Member := do
  match ← find? address with
  | some member => pure member
  | none => Action.refuse (.unknownMember address.text)

def isMember (address : Address) : Action Host Bool := Host.hasMember address

/-! ## Counters -/

def maxCount : UInt64 := 18446744073709551615

/-- One more, unless the counter is full. -/
def increment (count : UInt64) (what : String) : Except Failure UInt64 :=
  if count = maxCount then .error (.refused (.brokenInvariant (what ++ " overflow")))
  else .ok (count + 1)

/-- The sum, or the largest count when the sum is larger. -/
def saturatingAdd (a b : UInt64) : UInt64 :=
  if a.toNat + b.toNat ≤ maxCount.toNat then a + b else maxCount

def memberCount : Action Host UInt64 := Host.readMemberCount

def standingCount (standing : Standing) : Action Host UInt64 := Host.readStandingCount standing

/-- Adds the counters of the listed standings to `sum`. -/
def sumCounts (sum : UInt64) : List Standing → Action Host UInt64
  | [] => pure sum
  | standing :: rest => do
      let count ← standingCount standing
      sumCounts (saturatingAdd sum count) rest

/-- Checks that the counters of the standings add up to the member counter. -/
def checkCounts : Action Host Unit := do
  let sum ← sumCounts 0 Standing.all
  let total ← memberCount
  if sum ≠ total then
    Action.refuse (.brokenInvariant
      ("status counts sum to " ++ toString sum ++ " but member count is " ++ toString total))

/-! ## Changes -/

/-- Puts a new address on the roll, pending approval. -/
def enroll (address : Address) : Action Host Member := do
  if ← isMember address then Action.refuse (.alreadyEnrolled address.text)
  let member := Member.pending address
  let total ← Action.lift (increment (← memberCount) "member count")
  let pending ← Action.lift (increment (← standingCount member.standing) "pending count")
  Host.writeMember member
  Host.writeMemberCount total
  Host.writeStandingCount member.standing pending
  Host.announce (.memberEnrolled address)
  return member

/-- One member less of a standing that `address` holds. -/
def decrement (count : UInt64) (standing : Standing) (address : Address) : Except Failure UInt64 :=
  if count = 0 then
    .error (.refused (.brokenInvariant
      (standing.label ++ " count is zero while " ++ address.text ++ " holds it")))
  else .ok (count - 1)

/-- Moves a member one step forward; the operator is who made the move. -/
def transition (address : Address) (next : Standing) (operator : String) : Action Host Member := do
  let member ← require address
  let previous := member.standing
  if !previous.mayBecome next then Action.refuse (.forbiddenTransition previous next)
  let left ← Action.lift (decrement (← standingCount previous) previous address)
  let joined ← Action.lift (increment (← standingCount next) "status count")
  let moved := { member with standing := next }
  Host.writeMember moved
  Host.writeStandingCount previous left
  Host.writeStandingCount next joined
  Host.announce (.standingChanged address previous next operator)
  return moved

/-- Sets or clears the guardian flag, whatever the standing. -/
def setGuardianFlag (address : Address) (flag : Bool) : Action Host Unit := do
  match ← Host.readMember address with
  | some member => Host.writeMember { member with isGuardian := flag }
  | none => Action.refuse (.unknownMember address.text)

/-! ## Nicknames -/

def setNickname (address : Address) (text : String) : Action Host Unit := do
  if !(← isMember address) then Action.refuse (.unknownMember address.text)
  Host.writeNickname address text

def nickname? (address : Address) : Action Host (Option String) := Host.readNickname address

end Suffrage.Roll
