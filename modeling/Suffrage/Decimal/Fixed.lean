/-
# Suffrage.Decimal.Fixed -- arithmetic at eighteen fractional digits

Quotients and products of powers and fractions are truncated toward zero at eighteen
fractional digits.  The work is done on whole numbers of `10^-18` (`toFixed`), so every
replica computes the same digits; the result is brought back by `ofFixed`, which
normalizes it.

Each step has its own bound, and each bound its own failure: an operand that needs more
than 96 bits at eighteen digits, a product that leaves 128 bits on the way, a result
that leaves 96 bits.
-/
import Suffrage.Decimal.Basic
import Suffrage.Decimal.Text

namespace Suffrage.Decimal

set_option autoImplicit false

/-- Fractional digits that quotients and products keep. -/
def fixedPlaces : Nat := 18

/-- The numbers that a 128-bit signed word holds. -/
def fitsWord (n : Int) : Bool := -(Radix.two 127 : Int) ≤ n && n < Radix.two 127

def doesNotFit (value : String) (places : Nat) : ValueError :=
  .arithmetic (value ++ " does not fit at " ++ toString places ++ " fractional digits")

/-- `d` cut at eighteen digits, as a whole number of `10^-18`. -/
def fixedUnits (d : Decimal) : Int :=
  let cut := d.truncate fixedPlaces
  cut.units * Radix.ten (fixedPlaces - cut.scale)

/-- `fixedUnits`, when it fits 96 bits. -/
def toFixed (d : Decimal) : Except ValueError Int :=
  if d.fixedUnits.natAbs ≤ maxUnits then .ok d.fixedUnits
  else .error (doesNotFit d.render fixedPlaces)

/-- The normalized decimal of a whole number of `10^-18`. -/
def ofFixed (n : Int) : Except ValueError Decimal :=
  match ofUnits? n fixedPlaces with
  | some d => .ok d.normalize
  | none =>
      if 0 ≤ n then .error (.arithmetic "Number exceeds maximum value that can be represented.")
      else .error (.arithmetic "Number less than minimum value that can be represented.")

/-- `d / n`, truncated at eighteen digits. -/
def quotient (d : Decimal) (n : Nat) : Except ValueError Decimal :=
  if n = 0 then .error (.arithmetic (d.render ++ " divided by zero"))
  else d.toFixed.bind fun u => ofFixed (u.tdiv n)

/-- `part / whole`, truncated at eighteen digits. -/
def ratio (part whole : Nat) : Except ValueError Decimal :=
  match ofNat? part with
  | some d => d.quotient whole
  | none => .error (doesNotFit (toString part) fixedPlaces)

/-- `a * b`, truncated at eighteen digits.  Only `a` is cut beforehand; `b` keeps its
own scale. -/
def product (a b : Decimal) : Except ValueError Decimal :=
  a.toFixed.bind fun u =>
    if fitsWord (u * b.units) then ofFixed ((u * b.units).tdiv (Radix.ten b.scale))
    else .error (.arithmetic (a.render ++ " * " ++ b.render ++ " overflows"))

/-- `d * n`, exact for a `d` of at most eighteen fractional digits. -/
def multiple (d : Decimal) (n : Nat) : Except ValueError Decimal :=
  d.toFixed.bind fun u =>
    if fitsWord (u * n) then ofFixed (u * n)
    else .error (.arithmetic (d.render ++ " * " ++ toString n ++ " overflows"))

/-- `units * 10^k`, when it fits 96 bits.  Zero is raised by no more than the largest
scale, and nothing else can be raised further. -/
def raise? (units : Int) (k : Nat) : Option Int :=
  if k ≤ maxScale then
    if (units * Radix.ten k).natAbs ≤ maxUnits then some (units * Radix.ten k) else none
  else none

/-- `d * 10^places` cut to a whole number.  Negative numbers are refused, and so is a
result beyond 96 bits. -/
def scaledInteger (d : Decimal) (places : Nat) : Except ValueError Nat :=
  let cut := d.normalize.truncate places
  if d.units < 0 then .error (.arithmetic ("cannot scale negative " ++ d.render))
  else
    match raise? cut.units (places - cut.scale) with
    | some n => .ok n.toNat
    | none => .error (doesNotFit d.render places)

end Suffrage.Decimal
