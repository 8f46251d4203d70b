/-
# Suffrage.Collection -- collecting the ballots on a proposal

Ballots come from a `BallotBox`, which may be the host's own store or any other keeper of
ballots; the roll is always the host's.  `collect` goes through them in the order of their
voters.  The first ballot of a voter counts if it is for this proposal, its voter is in
the electorate, and it makes one choice; every other ballot is discarded with its reason.

Each ballot is marked for deletion once it has been judged, counted or not.  Only a
failing service or a defect ends the collection.
-/
import Suffrage.Roll
import Suffrage.Tier

namespace Suffrage

set_option autoImplicit false

/-- Where ballots are kept, as seen from a state `σ` that includes the host. -/
structure BallotBox (σ : Type) where
  /-- The ballots on a proposal. -/
  ballots : ProposalId → Action σ (List Ballot)
  /-- Records that a voter's ballot has been processed and may be removed. -/
  mark : ProposalId → Address → Action σ Unit
  /-- Runs an action on the host. -/
  onHost : {α : Type} → Action Host α → Action σ α

/-- The host's own store as a ballot box. -/
def BallotBox.store : BallotBox Host where
  ballots := Host.readBallots
  mark := Host.markBallot
  onHost := id

/-- A host beside a list of the voters marked so far. -/
structure Marked where
  host : Host
  voters : List Address

/-- A box that holds the same ballots for every proposal and lists the voters it is told
to mark.  It refuses to mark the voter `stuck`. -/
def BallotBox.listed (ballots : List Ballot) (stuck : Option Address) : BallotBox Marked where
  ballots := fun _ => pure ballots
  mark := fun _ voter =>
    if stuck = some voter then throw (Failure.ofStorage (.backend "mark refused"))
    else modify fun s => { s with voters := s.voters ++ [voter] }
  onHost := fun act => ExceptT.mk fun s =>
    let (result, host) := act.run s.host
    (result, { s with host })

/-- What becomes of a ballot. -/
inductive Verdict where
  | counted (choice : Choice) (byGuardian : Bool)
  | discarded (reason : Refusal)
  deriving DecidableEq, Repr

/-- A ballot that was not counted, and why. -/
structure Discarded where
  voter : Address
  reason : Refusal
  deriving DecidableEq, Repr

structure Collection where
  guardians : Tier
  members : Tier
  discarded : List Discarded
  deriving DecidableEq, Repr

namespace Collection

def empty : Collection := { guardians := .fresh, members := .fresh, discarded := [] }

/-- Ballots counted in either tier. -/
def counted (c : Collection) : Nat := c.guardians.total + c.members.total

def record (c : Collection) (voter : Address) : Verdict → Collection
  | .counted choice true => { c with guardians := c.guardians.increment choice }
  | .counted choice false => { c with members := c.members.increment choice }
  | .discarded reason => { c with discarded := c.discarded ++ [{ voter, reason }] }

/-- The choice of a voter's only ballot, and whether the voter is a guardian. -/
def classify (proposal : ProposalId) (ballot : Ballot) : Action Host (Choice × Bool) := do
  if ballot.proposal ≠ proposal then
    Action.refuse (.malformedVote ("ballot is for proposal " ++ toString ballot.proposal))
  let member ← Roll.require ballot.voter
  if !member.standing.mayVote then
    Action.refuse (.unauthorized
      ("member is not eligible to vote: status " ++ member.standing.label))
  let choice ← Action.lift (Ballot.soleChoice ballot.options)
  return (choice, member.isGuardian)

/-- A refusal becomes the reason for discarding, unless a service failed. -/
def verdictOf : Except Failure (Choice × Bool) → Except Failure Verdict
  | .ok (choice, byGuardian) => .ok (.counted choice byGuardian)
  | .error (.refused reason) =>
      if reason.isStorage then .error (.refused reason) else .ok (.discarded reason)
  | .error (.defect cause) => .error (.defect cause)

/-- Judges one ballot; `repeated` says that its voter has been seen before. -/
def judge (proposal : ProposalId) (repeated : Bool) (ballot : Ballot) : Action Host Verdict :=
  if repeated then
    pure (.discarded (.malformedVote "voter already has a ballot on this proposal"))
  else
    ExceptT.mk (verdictOf <$> (classify proposal ballot).run)

variable {σ : Type}

/-- Judges and marks one ballot after another. -/
def collectFrom (box : BallotBox σ) (proposal : ProposalId) :
    Option Address → Collection → List Ballot → Action σ Collection
  | _, report, [] => pure report
  | previous, report, ballot :: rest => do
      let repeated := decide (previous = some ballot.voter)
      let verdict ← box.onHost (judge proposal repeated ballot)
      box.mark proposal ballot.voter
      collectFrom box proposal (some ballot.voter) (report.record ballot.voter verdict) rest

/-- In the order of the voters; ballots of one voter keep their order. -/
def inVoterOrder (ballots : List Ballot) : List Ballot :=
  ballots.mergeSort fun a b => a.voter.precedes b.voter

/-- Judges every ballot on a proposal. -/
def collect (box : BallotBox σ) (proposal : ProposalId) : Action σ Collection := do
  collectFrom box proposal none .empty (inVoterOrder (← box.ballots proposal))

end Collection

end Suffrage
