/-
# Suffrage.Motion.Enact -- carrying out an approved motion

Only guardians may move changes.  Each demand is checked as a whole before the first
write, so a motion that is refused leaves nothing behind: the batch of addresses is read,
then every candidate is looked up in order, and only then are flags and list written.
-/
import Suffrage.Guardians
import Suffrage.Motion

namespace Suffrage.Motion

set_option autoImplicit false

/-- The creator of a motion, who must be a guardian. -/
def authorize (creator : String) : Action Host Address := do
  let address ← Action.lift ((Address.parse creator).mapError fun e =>
    .refused (.invalidAddress ("invalid creator address: " ++ e.message)))
  if !(← Guardians.isGuardian address) then
    Action.refuse (.unauthorized ("creator is not a guardian: " ++ address.text))
  return address

/-- Reads addresses that must be well-formed and distinct; `seen` come before them. -/
def readDistinct (seen : List Address) : List String → Except Refusal (List Address)
  | [] => .ok []
  | raw :: rest => do
      if raw.isEmpty then throw (.invalidAddress "empty guardian address")
      let address ← (Address.parse raw).mapError fun e =>
        .invalidAddress ("invalid guardian address: " ++ e.message)
      if seen.contains address then
        throw (.invalidRequest ("duplicate guardian address: " ++ address.text))
      return address :: (← readDistinct (address :: seen) rest)

/-- Reads a batch that must not be empty. -/
def readBatch (action : String) (raw : List String) : Except Refusal (List Address) :=
  if raw.isEmpty then .error (.invalidRequest ("no guardians to " ++ action))
  else readDistinct [] raw

/-- A member who may become a guardian: in the electorate and none yet. -/
def checkEligible (candidate : Address) : Action Host Unit := do
  match ← Roll.find? candidate with
  | none => Action.refuse (.unknownMember ("no member at this address: " ++ candidate.text))
  | some member =>
      if member.standing ≠ .electorate then
        Action.refuse (.unauthorized ("member is not active: " ++ candidate.text))
      if member.isGuardian then
        Action.refuse (.unauthorized ("member is already a guardian: " ++ candidate.text))

/-- A member who may stop being a guardian. -/
def checkServing (candidate : Address) : Action Host Unit := do
  if !(← Roll.isMember candidate) then
    Action.refuse (.unknownMember ("no member at this address: " ++ candidate.text))
  if !(← Guardians.isGuardian candidate) then
    Action.refuse (.invalidRequest ("member is not a guardian: " ++ candidate.text))

/-- Runs a check on one candidate after another. -/
def checkAll (check : Address → Action Host Unit) : List Address → Action Host Unit
  | [] => pure ()
  | candidate :: rest => do
      check candidate
      checkAll check rest

/-- Makes guardians of a batch of members and returns it. -/
def addGuardians (creator : String) (raw : List String) : Action Host (List Address) := do
  let _ ← authorize creator
  let candidates ← Action.lift ((readBatch "add" raw).mapError .refused)
  checkAll checkEligible candidates
  Guardians.attach candidates
  Host.announce (.guardiansAdded candidates)
  return candidates

/-- Makes ordinary members of a batch of guardians and returns it.  Someone must be left. -/
def removeGuardians (creator : String) (raw : List String) : Action Host (List Address) := do
  let _ ← authorize creator
  let candidates ← Action.lift ((readBatch "remove" raw).mapError .refused)
  checkAll checkServing candidates
  if ((← Guardians.confirmed).filter (!candidates.contains ·)).isEmpty then
    Action.refuse (.invalidRequest "cannot remove every guardian")
  Guardians.detach candidates
  Host.announce (.guardiansRemoved candidates)
  return candidates

/-- Gives the guardians another weight. -/
def setWeight (creator : String) (weight : Decimal) : Action Host Unit := do
  let _ ← authorize creator
  let previous ← Guardians.setWeight weight
  Host.announce (.weightChanged previous weight)

/-- Carries out what a motion demands; returns the addresses that it concerned. -/
def enact (m : Motion) : Action Host (List Address) :=
  match m.demand with
  | .addGuardians addresses => addGuardians m.creator addresses
  | .removeGuardians addresses => removeGuardians m.creator addresses
  | .setWeight weight => do
      setWeight m.creator weight
      return []

end Suffrage.Motion
