/-
# Suffrage.Decimal.Binary64 -- binary floating-point literals as decimals

A floating-point literal stands for the binary64 number nearest to it (`nearest?`), and
that number stands for the shortest decimal that reads back as it (`shortest`).  Both
are computed on whole numbers: every finite binary64 number is a multiple of `2^-1074`,
so a magnitude is a mantissa and a number of doublings of that unit.

Of the decimals that read back, those with the fewest digits are looked for on the
coarsest grid that holds one; of two on that grid the nearer is taken, and the larger
one on a tie.
-/
import Suffrage.Decimal.Text

namespace Suffrage

set_option autoImplicit false

/-- The magnitude `mantissa * 2^doublings * 2^-1074`. -/
structure Binary64 where
  mantissa : Nat
  doublings : Nat
  deriving DecidableEq, Repr

namespace Binary64

/-- `numerator / denominator` to the nearest whole number, a tie to the even one. -/
def roundQuotient (numerator denominator : Nat) : Nat :=
  let quotient := numerator / denominator
  let twice := 2 * (numerator % denominator)
  if twice < denominator then quotient
  else if denominator < twice then quotient + 1
  else if quotient % 2 = 0 then quotient else quotient + 1

/-- The binary64 magnitude nearest to `numerator / denominator`; none beyond the
largest finite one. -/
def nearest? (numerator denominator : Nat) : Option Binary64 :=
  let ulps := numerator * Radix.two 1074
  let doublings := (ulps / denominator).log2 - 52
  let mantissa := roundQuotient ulps (denominator * Radix.two doublings)
  let rounded : Binary64 :=
    if mantissa < Radix.two 53 then { mantissa, doublings }
    else { mantissa := mantissa / 2, doublings := doublings + 1 }
  if rounded.doublings ≤ 2045 then some rounded else none

/-- Four times the magnitude, in units of `2^-1074`. -/
def quadruple (x : Binary64) : Nat := 4 * x.mantissa * Radix.two x.doublings

/-- Four times the ends of the interval whose points read back as `x`.  Below a power
of two the neighbour is half as far away. -/
def readsBack (x : Binary64) : Nat × Nat :=
  let below := if x.mantissa = Radix.two 52 ∧ x.doublings ≠ 0 then 1 else 2
  ((4 * x.mantissa - below) * Radix.two x.doublings, (4 * x.mantissa + 2) * Radix.two x.doublings)

/-- The decimal with `n` on the grid of step `10^k` that reads back as `x`, if the grid
holds one.  The ends of the interval belong to it when the mantissa is even. -/
def onGrid? (x : Binary64) (k : Int) : Option Nat :=
  let step := Radix.ten k.toNat * Radix.two 1076
  let scale := Radix.ten (-k).toNat
  let low := x.readsBack.1 * scale
  let high := x.readsBack.2 * scale
  let inside (n : Nat) : Bool :=
    if x.mantissa % 2 = 0 then low ≤ n * step && n * step ≤ high
    else low < n * step && n * step < high
  let below := x.quadruple * scale / step
  match inside below, inside (below + 1) with
  | true, true =>
      if 2 * x.quadruple * scale < (2 * below + 1) * step then some below else some (below + 1)
  | true, false => some below
  | false, true => some (below + 1)
  | false, false => none

/-- The shortest decimal `n * 10^k` that reads back as `x`. -/
def shortest (x : Binary64) : Nat × Int :=
  if x.mantissa = 0 then (0, 0)
  else
    ((List.range 640).findSome? fun (i : Nat) =>
      let k : Int := 310 - i
      (x.onGrid? k).map fun n => (n, k)).getD (0, 0)

/-- The digits of `shortest`, written without an exponent. -/
def render (x : Binary64) : List Char :=
  let digits := x.shortest
  if 0 ≤ digits.2 then Text.numeral (digits.1 * Radix.ten digits.2.toNat)
  else Decimal.renderDigits digits.1 (-digits.2).toNat

/-- The magnitude that the literal `digits * 10^exponent` stands for.  Exponents far out
of reach are told apart by the length of the literal alone. -/
def ofLiteral? (digits : Nat) (exponent : Int) : Option Binary64 :=
  let reach := (Text.numeral digits).length + exponent
  if digits = 0 ∨ reach < -400 then some { mantissa := 0, doublings := 0 }
  else if 400 < reach then none
  else nearest? (digits * Radix.ten exponent.toNat) (Radix.ten (-exponent).toNat)

end Binary64

/-- The decimal that a binary64 number stands for, if it fits. -/
def Decimal.ofBinary64? (negative : Bool) (x : Binary64) : Option Decimal :=
  (readChars (if negative then '-' :: x.render else x.render)).toOption

end Suffrage
