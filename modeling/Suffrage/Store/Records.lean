/-
# Suffrage.Store.Records -- the records that the store holds

Typed access to the store: members and their nicknames, the counters of the roll, the
settings, ballots, and the markers of ballots that may be removed.  A counter that was
never written reads as zero.  The decimals of the settings and of a ballot are kept in
their canonical form.

Ballots are removed in two steps.  `mark` records that a voter's ballot has been
processed; `sweep` later takes out every marked ballot together with its marker.
-/
import Suffrage.Store.Basic

namespace Suffrage.Store

set_option autoImplicit false

/-! ## Members and counters -/

def member? (s : Store) (address : Address) : Option Member :=
  match s.find? (.member address) with
  | some (.member record) => some record
  | _ => none

def putMember (s : Store) (record : Member) : Store := s.insert (.member record)

def hasMember (s : Store) (address : Address) : Bool := (s.find? (.member address)).isSome

def memberCount (s : Store) : UInt64 :=
  match s.find? .memberCount with
  | some (.memberCount count) => count
  | _ => 0

def setMemberCount (s : Store) (count : UInt64) : Store := s.insert (.memberCount count)

def standingCount (s : Store) (standing : Standing) : UInt64 :=
  match s.find? (.standingCount standing) with
  | some (.standingCount _ count) => count
  | _ => 0

def setStandingCount (s : Store) (standing : Standing) (count : UInt64) : Store :=
  s.insert (.standingCount standing count)

def nickname? (s : Store) (address : Address) : Option String :=
  match s.find? (.nickname address) with
  | some (.nickname _ text) => some text
  | _ => none

def putNickname (s : Store) (address : Address) (text : String) : Store :=
  s.insert (.nickname address text)

/-! ## Settings -/

def settings? (s : Store) : Option Settings :=
  match s.find? .settings with
  | some (.settings record) => some record
  | _ => none

def putSettings (s : Store) (record : Settings) : Store := s.insert (.settings record.canonical)

/-! ## Ballots -/

/-- Stores a ballot in the place of an earlier one by the same voter. -/
def cast (s : Store) (ballot : Ballot) : Store := s.insert (.ballot ballot.canonical)

/-- The ballots on a proposal, in the order of their voters. -/
def ballots (s : Store) (proposal : ProposalId) : List Ballot :=
  (s.scan (Key.ballotsOn proposal)).filterMap fun
    | .ballot record => some record
    | _ => none

def mark (s : Store) (proposal : ProposalId) (voter : Address) : Store :=
  s.insert (.marker proposal voter)

/-- The voters whose ballots on a proposal may be removed, in order. -/
def marked (s : Store) (proposal : ProposalId) : List Address :=
  (s.scan (Key.markersOn proposal)).filterMap fun
    | .marker _ voter => some voter
    | _ => none

/-- Takes out one voter's ballot and its marker; counts the ballot. -/
def sweepVoter (proposal : ProposalId) (swept : Nat × Store) (voter : Address) : Nat × Store :=
  let count := if (swept.2.find? (.ballot proposal voter)).isSome then swept.1 + 1 else swept.1
  (count, (swept.2.erase (.ballot proposal voter)).erase (.marker proposal voter))

/-- Takes out every marked ballot on a proposal, and the markers; says how many ballots
there were. -/
def sweep (s : Store) (proposal : ProposalId) : Nat × Store :=
  (s.marked proposal).foldl (sweepVoter proposal) (0, s)

end Suffrage.Store
