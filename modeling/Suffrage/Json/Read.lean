/-
# Suffrage.Json.Read -- records from JSON

The readers undo `Suffrage.Json.Write` and accept a little more: members in any order,
members that the record does not have, and a record written as an array of its members'
values.  A decimal must be a text.  A constant may be an object that maps its name to
null, or inside an event to an empty object.  Addresses are taken as they stand.
-/
import Suffrage.Dialect
import Suffrage.Json.Write

namespace Suffrage

set_option autoImplicit false

/-! ## Parts of records -/

def Decimal.ofJson? (v : Json) : Option Decimal := v.text?.bind Decimal.read?

def Address.ofJson? (v : Json) : Option Address := v.text?.map Address.mk

def ProposalId.ofJson? (v : Json) : Option ProposalId := v.word?.map ProposalId.mk

def Standing.ofJson? (v : Json) : Option Standing := v.constant?.bind Standing.ofTag?

def Choice.ofJson? (v : Json) : Option Choice := v.constant?.bind Choice.ofTag?

/-- A look-up in an object, or in an array that is no longer than the record. -/
def Json.record? (names : List String) : Json → Option (String → Option Json)
  | .object members => some fun name => members.lookup name
  | .array items =>
      if items.length ≤ names.length then some (Dialect.positional names items) else none
  | _ => none

/-- How JSON shows the parts of records. -/
def Dialect.json : Dialect Json where
  text? := Json.text?
  flag? := Json.flag?
  decimal? := Decimal.ofJson?
  items? := Json.items?
  isNull := Json.isNull
  record? := Json.record?

open Dialect (required)

def Json.list? {α : Type} (read : Json → Option α) (v : Json) : Option (List α) :=
  Dialect.json.list? read v

/-! ## Records -/

def WeightedChoice.ofJson? (v : Json) : Option WeightedChoice := do
  let member ← v.record? ["option", "weight"]
  let choice ← required Choice.ofJson? (member "option")
  let weight ← required Decimal.ofJson? (member "weight")
  return { choice, weight }

def Ballot.ofJson? (v : Json) : Option Ballot := do
  let member ← v.record? ["proposal_id", "voter", "options"]
  let proposal ← required ProposalId.ofJson? (member "proposal_id")
  let voter ← required Address.ofJson? (member "voter")
  let options ← required (Json.list? WeightedChoice.ofJson?) (member "options")
  return { proposal, voter, options }

def Member.ofJson? (v : Json) : Option Member := do
  let member ← v.record? ["address", "status", "is_guardian"]
  let address ← required Address.ofJson? (member "address")
  let standing ← required Standing.ofJson? (member "status")
  let isGuardian ← required Json.flag? (member "is_guardian")
  return { address, standing, isGuardian }

def Settings.ofJson? (v : Json) : Option Settings := do
  let member ← v.record? ["guardians", "total_voting_weight"]
  let guardians ← required (Json.list? Address.ofJson?) (member "guardians")
  let weight ← required Decimal.ofJson? (member "total_voting_weight")
  return { guardians, weight }

def Rules.ofJson? (v : Json) : Option Rules := Dialect.json.rules? v

def Founder.ofJson? (v : Json) : Option Founder := Dialect.json.founder? v

def Genesis.ofJson? (v : Json) : Option Genesis := Dialect.json.genesis? v

/-! ## Motions -/

/-- A motion whose demand is read from the member `name`. -/
def Motion.withDemand? (name : String) (demand : Json → Option Demand) (v : Json) :
    Option Motion := do
  let member ← v.record? ["title", "description", "creator", name]
  let title ← required Json.text? (member "title")
  let description ← required Json.text? (member "description")
  let creator ← required Json.text? (member "creator")
  let demand ← required demand (member name)
  return { title, description, creator, demand }

def Motion.ofJson? : Json → Option Motion
  | .object [("AddGuardians", v)] =>
      withDemand? "guardians_to_add" (fun v => (v.list? Json.text?).map .addGuardians) v
  | .object [("RemoveGuardians", v)] =>
      withDemand? "guardians_to_remove" (fun v => (v.list? Json.text?).map .removeGuardians) v
  | .object [("UpdateTotalVotingWeight", v)] =>
      withDemand? "new_total_voting_weight" (fun v => (Decimal.ofJson? v).map .setWeight) v
  | _ => none

/-! ## Events -/

/-- A standing as an event may name it. -/
def Standing.ofEventJson? (v : Json) : Option Standing := v.lenientConstant?.bind Standing.ofTag?

/-- The event of a name, with the other members looked up in `v`. -/
def Event.named? (name : String) (v : Json) : Option Event :=
  match name with
  | "member_enrolled" => do
      let member ← v.record? ["member"]
      return .memberEnrolled (← required Address.ofJson? (member "member"))
  | "member_status_changed" => do
      let member ← v.record? ["member", "previous_status", "status", "operator"]
      let address ← required Address.ofJson? (member "member")
      let previous ← required Standing.ofEventJson? (member "previous_status")
      let current ← required Standing.ofEventJson? (member "status")
      let operator ← required Json.text? (member "operator")
      return .standingChanged address previous current operator
  | "member_approved" => do
      let member ← v.record? ["member", "approver"]
      let address ← required Address.ofJson? (member "member")
      let approver ← required Address.ofJson? (member "approver")
      return .memberApproved address approver
  | "guardians_added" => do
      let member ← v.record? ["guardians"]
      return .guardiansAdded (← required (Json.list? Address.ofJson?) (member "guardians"))
  | "guardians_removed" => do
      let member ← v.record? ["guardians"]
      return .guardiansRemoved (← required (Json.list? Address.ofJson?) (member "guardians"))
  | "total_voting_weight_changed" => do
      let member ← v.record? ["previous", "new"]
      let previous ← required Decimal.ofJson? (member "previous")
      let new ← required Decimal.ofJson? (member "new")
      return .weightChanged previous new
  | _ => none

/-- An event: an object with its type among the members, or an array that starts with
the type. -/
def Event.ofJson? : Json → Option Event
  | .object members => do
      let name ← required Json.text? (members.lookup "type")
      named? name (.object members)
  | .array (.text name :: items) => named? name (.array items)
  | _ => none

end Suffrage
