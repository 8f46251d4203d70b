/-
# Suffrage.Assembly -- the operations that the host calls

The assembly is the electorate seen from outside: addresses come in as text, proposals as
numbers, and everything is kept by the host.  `found` runs once and starts the electorate;
after that members are enrolled, approved by guardians, and vote, and motions that have
been approved elsewhere are carried out.
-/
import Suffrage.Genesis
import Suffrage.Motion.Enact
import Suffrage.Tally

namespace Suffrage.Assembly

set_option autoImplicit false

/-- The operator of the changes that the genesis makes. -/
def genesisOperator : String := "genesis"

/-- Enrolls a new address, pending approval.  An empty nickname counts as none. -/
def enroll (address : String) (nickname : Option String) : Action Host Member := do
  let address ← Action.value (Address.parse address)
  let member ← Roll.enroll address
  match nickname.filter (!·.isEmpty) with
  | some text => Roll.setNickname address text
  | none => pure ()
  return member

/-- A guardian admits a pending member to the electorate. -/
def approve (approver member : String) : Action Host Member := do
  let approver ← Action.value (Address.parse approver)
  let member ← Action.value (Address.parse member)
  if !(← Guardians.isGuardian approver) then
    Action.refuse (.unauthorized ("approver is not a guardian: " ++ approver.text))
  let approved ← Roll.transition member .electorate approver.text
  Host.announce (.memberApproved member approver)
  return approved

/-- Tallies the ballots that the host keeps. -/
def tally (rules : Rules) (proposal : ProposalId) : Action Host Outcome :=
  Tally.tally .store rules proposal

/-- Enrolls founders and moves each into the electorate at once. -/
def admitAll : List Founder → Action Host (List Address)
  | [] => pure []
  | founder :: rest => do
      let member ← enroll founder.address founder.nickname
      let _ ← Roll.transition member.address .electorate genesisOperator
      return member.address :: (← admitAll rest)

/-- Starts the electorate: writes the weight, admits the founders, and makes guardians of
the first of them. -/
def found (genesis : Genesis) : Action Host Unit := do
  Action.lift (genesis.validate.mapError .refused)
  if ← Guardians.isInitialized then
    Action.refuse (.invalidRequest "genesis has already been applied")
  Guardians.setUp genesis.weight
  let admitted ← admitAll genesis.founders
  Guardians.attach (admitted.take genesis.guardians.length)

end Suffrage.Assembly
