/-
# Suffrage.Host -- what surrounds the electorate

The host keeps the store and the journal of events.  It offers the store as services,
each of which may be out of order: a service in `outages` fails before it does anything.

Operations are actions on the host.  An action that fails keeps what it had written up to
that point; nothing is rolled back.
-/
import Suffrage.Event
import Suffrage.Store.Records

namespace Suffrage

set_option autoImplicit false

/-- A service of the store that operations call. -/
inductive Service where
  | readMember
  | writeMember
  | hasMember
  | readMemberCount
  | writeMemberCount
  | readStandingCount
  | writeStandingCount
  | readNickname
  | writeNickname
  | readSettings
  | writeSettings
  | readBallots
  | markBallot
  deriving DecidableEq, Repr

structure Host where
  store : Store
  /-- Services that fail, and how; the first entry for a service counts. -/
  outages : List (Service × StorageError)
  /-- What has been announced, oldest first. -/
  journal : List Event
  deriving DecidableEq, Repr

/-- An operation on a state: it may change the state and then fail. -/
abbrev Action (σ α : Type) : Type := ExceptT Failure (StateM σ) α

namespace Action

variable {σ α : Type}

def refuse (reason : Refusal) : Action σ α := throw (.refused reason)

/-- A computation without effects as an action. -/
def lift (result : Except Failure α) : Action σ α := ExceptT.mk (pure result)

/-- A computation on values; its error becomes a refusal. -/
def value (result : Except ValueError α) : Action σ α := lift (result.mapError Failure.ofValue)

end Action

namespace Host

/-- An empty store, no outage, nothing announced. -/
def fresh : Host := { store := .empty, outages := [], journal := [] }

/-- Puts a service out of order, whatever it did before. -/
def withOutage (h : Host) (service : Service) (e : StorageError) : Host :=
  { h with outages := (service, e) :: h.outages }

/-- Puts every service back in order. -/
def withoutOutages (h : Host) : Host := { h with outages := [] }

/-- Starts a new journal. -/
def withoutJournal (h : Host) : Host := { h with journal := [] }

variable {α : Type}

def outage? (h : Host) (service : Service) : Option StorageError :=
  (h.outages.find? (·.1 == service)).map (·.2)

/-- Calls a service: it fails if it is out of order, and else acts on the store. -/
def serve (service : Service) (act : Store → α × Store) : Action Host α := do
  let h ← get
  match h.outage? service with
  | some e => throw (Failure.ofStorage e)
  | none =>
      let (result, store) := act h.store
      set { h with store }
      pure result

def reading (service : Service) (look : Store → α) : Action Host α :=
  serve service fun s => (look s, s)

def writing (service : Service) (change : Store → Store) : Action Host Unit :=
  serve service fun s => ((), change s)

/-- Appends an event to the journal. -/
def announce (event : Event) : Action Host Unit :=
  modify fun h => { h with journal := h.journal ++ [event] }

/-! ## The services -/

def readMember (address : Address) : Action Host (Option Member) :=
  reading .readMember (·.member? address)

def writeMember (record : Member) : Action Host Unit :=
  writing .writeMember (·.putMember record)

def hasMember (address : Address) : Action Host Bool :=
  reading .hasMember (·.hasMember address)

/-- Whether a member is stored, found out by reading the record. -/
def canReadMember (address : Address) : Action Host Bool := do
  return (← readMember address).isSome

def readMemberCount : Action Host UInt64 := reading .readMemberCount (·.memberCount)

def writeMemberCount (count : UInt64) : Action Host Unit :=
  writing .writeMemberCount (·.setMemberCount count)

def readStandingCount (standing : Standing) : Action Host UInt64 :=
  reading .readStandingCount (·.standingCount standing)

def writeStandingCount (standing : Standing) (count : UInt64) : Action Host Unit :=
  writing .writeStandingCount (·.setStandingCount standing count)

def readNickname (address : Address) : Action Host (Option String) :=
  reading .readNickname (·.nickname? address)

def writeNickname (address : Address) (text : String) : Action Host Unit :=
  writing .writeNickname (·.putNickname address text)

def readSettings : Action Host (Option Settings) := reading .readSettings (·.settings?)

def writeSettings (record : Settings) : Action Host Unit :=
  writing .writeSettings (·.putSettings record)

def readBallots (proposal : ProposalId) : Action Host (List Ballot) :=
  reading .readBallots (·.ballots proposal)

def markBallot (proposal : ProposalId) (voter : Address) : Action Host Unit :=
  writing .markBallot (·.mark proposal voter)

end Host

end Suffrage
