/-
# Suffrage.Settings -- the guardian list and its weight

The settings keep the guardians in the order in which they were added, and the fraction
of all voting power that they share.  The list repeats what the flags on the member
records say; the records decide.
-/
import Suffrage.Address
import Suffrage.Decimal.Basic

namespace Suffrage

set_option autoImplicit false

structure Settings where
  guardians : List Address
  weight : Decimal
  deriving DecidableEq, Repr

namespace Settings

/-- The same settings, with the canonical form of the weight. -/
def canonical (s : Settings) : Settings := { s with weight := s.weight.canonical }

/-- No guardian yet. -/
def fresh (weight : Decimal) : Settings := { guardians := [], weight }

def contains (s : Settings) (a : Address) : Bool := s.guardians.contains a

/-- Appends each address that is not listed yet. -/
def add (s : Settings) (addresses : List Address) : Settings :=
  addresses.foldl
    (fun s a => if s.contains a then s else { s with guardians := s.guardians ++ [a] }) s

/-- Drops every listed address that occurs in `addresses`. -/
def remove (s : Settings) (addresses : List Address) : Settings :=
  { s with guardians := s.guardians.filter (!addresses.contains ·) }

end Settings

end Suffrage
