/-
# Suffrage.Genesis -- how an electorate begins

A genesis configuration names the weight of the guardians, the founding guardians and the
other founding members, and the rules of a tally.  `Genesis.validate` refuses one that
would start the electorate in a broken state.
-/
import Suffrage.Address
import Suffrage.Rules

namespace Suffrage

set_option autoImplicit false

/-- A founding member, as written in the configuration. -/
structure Founder where
  address : String
  nickname : Option String
  deriving DecidableEq, Repr

structure Genesis where
  weight : Decimal
  guardians : List Founder
  members : List Founder
  rules : Rules
  deriving DecidableEq, Repr

namespace Genesis

def defaultWeight : Decimal := .half

/-- The founders are equal, and the weight and the rules are equal as numbers. -/
def same (a b : Genesis) : Bool :=
  a.weight.same b.weight && a.guardians == b.guardians && a.members == b.members
    && a.rules.same b.rules

/-- Every founder, guardians first. -/
def founders (g : Genesis) : List Founder := g.guardians ++ g.members

/-- The addresses of the founders are well-formed and distinct; `seen` come before them. -/
def checkFounders (seen : List Address) : List Founder → Except Refusal Unit
  | [] => .ok ()
  | founder :: rest => do
      let address ← (Address.parse founder.address).mapError fun e => .configuration e.message
      if seen.contains address then
        throw (.configuration ("address listed twice: " ++ founder.address))
      checkFounders (address :: seen) rest

/-- Checks the weight, the guardians, the rules and the addresses, in this order. -/
def validate (g : Genesis) : Except Refusal Unit := do
  if !g.weight.isPositiveFraction then
    throw (.configuration
      ("total_voting_weight must be within (0, 1], got " ++ g.weight.render))
  if g.guardians.isEmpty then
    throw (.configuration "at least one guardian is required")
  g.rules.validate.mapError fun e => .configuration e.message
  checkFounders [] g.founders

end Genesis

end Suffrage
