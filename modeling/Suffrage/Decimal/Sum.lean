/-
# Suffrage.Decimal.Sum -- addition and subtraction

The sum of two numbers other than zero is exact at the larger of their scales.  When it
needs more than 96 bits there, the fewest low digits are dropped that let it fit, the
last kept digit rounded to nearest with ties to even (`fit?`).  Zero is neutral whatever
its scale: it leaves the other operand, scale and sign included.
-/
import Suffrage.Decimal.Basic

namespace Suffrage.Decimal

set_option autoImplicit false

/-- `n / 10^k` to the nearest whole number, a tie to the even one. -/
def roundHalfEven (n : Int) (k : Nat) : Int :=
  let quotient := n / Radix.ten k
  let twice := 2 * (n % Radix.ten k)
  if twice < Radix.ten k then quotient
  else if Radix.ten k < twice then quotient + 1
  else if quotient % 2 = 0 then quotient else quotient + 1

/-- The number `units * 10^-scale`, rounded by as few digits as it takes to fit. -/
def fit? (units : Int) (scale : Nat) : Option Decimal :=
  (List.range (scale + 1)).findSome? fun dropped =>
    ofUnits? (roundHalfEven units dropped) (scale - dropped)

/-- The sum, if it fits. -/
def add? (a b : Decimal) : Option Decimal :=
  if a.isZero then some b
  else if b.isZero then some a
  else
    let scale := max a.scale b.scale
    fit? (a.units * Radix.ten (scale - a.scale) + b.units * Radix.ten (scale - b.scale)) scale

/-- The difference, if it fits. -/
def sub? (a b : Decimal) : Option Decimal := add? a b.neg

theorem roundHalfEven_zero (n : Int) : roundHalfEven n 0 = n := by
  simp [roundHalfEven, Radix.ten_zero]

/-- A sum that fits at the larger scale is exact. -/
theorem fit?_eq_of_ofUnits? {units : Int} {scale : Nat} {d : Decimal}
    (fits : ofUnits? units scale = some d) : fit? units scale = some d := by
  simp [fit?, List.range_succ_eq_map, roundHalfEven_zero, fits]

end Suffrage.Decimal
