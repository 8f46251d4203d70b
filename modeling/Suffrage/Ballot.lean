/-
# Suffrage.Ballot -- ballots as they were cast

A ballot lists choices with weights.  It counts only if it names exactly one recognized
choice: every weight is 0 or 1 and they sum to 1.  `Ballot.soleChoice` finds that choice
or says why there is none; split ballots are refused outright, never counted in part.
-/
import Suffrage.Address
import Suffrage.Choice
import Suffrage.Decimal.Sum
import Suffrage.Decimal.Text
import Suffrage.ProposalId

namespace Suffrage

set_option autoImplicit false

structure WeightedChoice where
  choice : Choice
  weight : Decimal
  deriving DecidableEq, Repr

structure Ballot where
  proposal : ProposalId
  voter : Address
  options : List WeightedChoice
  deriving DecidableEq, Repr

namespace Ballot

/-- The same ballot, with the canonical forms of the weights. -/
def canonical (b : Ballot) : Ballot :=
  { b with options := b.options.map fun entry => { entry with weight := entry.weight.canonical } }

/-- One choice at full weight. -/
def single (proposal : ProposalId) (voter : Address) (choice : Choice) : Ballot :=
  { proposal, voter, options := [{ choice, weight := .one }] }

/-- Adds up the weights and remembers the last choice of weight 1, up to the first
weight that is neither 0 nor 1. -/
def sumWeights (total : Decimal) (chosen : Option Choice) :
    List WeightedChoice → Except Failure (Decimal × Option Choice)
  | [] => .ok (total, chosen)
  | entry :: rest =>
      let full := entry.weight.same .one
      if full || entry.weight.isZero then
        match total.add? entry.weight with
        | some sum => sumWeights sum (if full then some entry.choice else chosen) rest
        | none => .error (.defect ⟨"Addition overflowed"⟩)
      else
        .error (.refused (.malformedVote
          ("option " ++ entry.choice.label ++ "'s weight is invalid: " ++ entry.weight.render)))

/-- The one choice of a valid ballot. -/
def soleChoice (options : List WeightedChoice) : Except Failure Choice := do
  let (total, chosen) ← sumWeights .zero none options
  if !total.same .one then
    throw (.refused (.malformedVote ("total weighting must be exactly 1, got " ++ total.render)))
  match chosen with
  | some choice =>
      if choice.isRecognized then pure choice
      else throw (.refused (.malformedVote "ballot has no recognized choice"))
  | none => throw (.refused (.malformedVote "ballot has no recognized choice"))

end Ballot

end Suffrage
