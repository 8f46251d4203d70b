/-
# Suffrage.Json.Write -- records as JSON

Every record is an object with all of its members in a fixed order; only the nickname of
a founder is left out when there is none.  Decimals are texts, so that their scale is
kept.  An event carries its name in the member `type`; a motion is an object with one
member, named for what it demands.
-/
import Suffrage.Ballot
import Suffrage.Event
import Suffrage.Genesis
import Suffrage.Json
import Suffrage.Member
import Suffrage.Motion
import Suffrage.Settings

namespace Suffrage

set_option autoImplicit false

def Decimal.toJson (d : Decimal) : Json := .text d.render

def Address.toJson (a : Address) : Json := .text a.text

def addressesToJson (addresses : List Address) : Json := .array (addresses.map Address.toJson)

def ProposalId.toJson (p : ProposalId) : Json := .word p.number

def Standing.toJson (s : Standing) : Json := .text s.tag

def Choice.toJson (c : Choice) : Json := .text c.tag

def WeightedChoice.toJson (w : WeightedChoice) : Json :=
  .object [("option", w.choice.toJson), ("weight", w.weight.toJson)]

def Ballot.toJson (b : Ballot) : Json :=
  .object [
    ("proposal_id", b.proposal.toJson),
    ("voter", b.voter.toJson),
    ("options", .array (b.options.map WeightedChoice.toJson))]

def Member.toJson (m : Member) : Json :=
  .object [
    ("address", m.address.toJson),
    ("status", m.standing.toJson),
    ("is_guardian", .flag m.isGuardian)]

def Settings.toJson (s : Settings) : Json :=
  .object [
    ("guardians", addressesToJson s.guardians),
    ("total_voting_weight", s.weight.toJson)]

def Rules.toJson (r : Rules) : Json :=
  .object [
    ("quorum", r.quorum.toJson),
    ("threshold", r.threshold.toJson),
    ("veto_threshold", r.vetoThreshold.toJson),
    ("burn_vote_quorum", .flag r.burnOnQuorum),
    ("burn_vote_veto", .flag r.burnOnVeto)]

def Founder.toJson (f : Founder) : Json :=
  .object (("address", .text f.address) ::
    match f.nickname with
    | some nickname => [("nickname", .text nickname)]
    | none => [])

def Genesis.toJson (g : Genesis) : Json :=
  .object [
    ("total_voting_weight", g.weight.toJson),
    ("guardians", .array (g.guardians.map Founder.toJson)),
    ("members", .array (g.members.map Founder.toJson)),
    ("tally", g.rules.toJson)]

/-- The member that holds the demand itself. -/
def Demand.toMember : Demand → String × Json
  | .addGuardians addresses => ("guardians_to_add", .texts addresses)
  | .removeGuardians addresses => ("guardians_to_remove", .texts addresses)
  | .setWeight weight => ("new_total_voting_weight", weight.toJson)

def Motion.toJson (m : Motion) : Json :=
  .object [(m.demand.tag, .object [
    ("title", .text m.title),
    ("description", .text m.description),
    ("creator", .text m.creator),
    m.demand.toMember])]

/-- The members of an event beside its type. -/
def Event.toMembers : Event → List (String × Json)
  | .memberEnrolled member => [("member", member.toJson)]
  | .standingChanged member previous current operator => [
      ("member", member.toJson),
      ("previous_status", previous.toJson),
      ("status", current.toJson),
      ("operator", .text operator)]
  | .memberApproved member approver => [("member", member.toJson), ("approver", approver.toJson)]
  | .guardiansAdded guardians => [("guardians", addressesToJson guardians)]
  | .guardiansRemoved guardians => [("guardians", addressesToJson guardians)]
  | .weightChanged previous new => [("previous", previous.toJson), ("new", new.toJson)]

def Event.toJson (e : Event) : Json := .object (("type", .text e.name) :: e.toMembers)

end Suffrage
