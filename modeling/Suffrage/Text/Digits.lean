/-
# Suffrage.Text.Digits -- digits and numerals

Numerals are handled as lists of characters.  `digit?` and `hexDigit?` read one digit,
`fixedDigits` writes a number in a field of given width, `numeral` writes it in as many
digits as it needs.  Only ASCII digits are digits here.
-/
import Suffrage.Radix

namespace Suffrage.Text

set_option autoImplicit false

/-- The value of an ASCII decimal digit. -/
def digit? (c : Char) : Option Nat :=
  if '0' ≤ c ∧ c ≤ '9' then some (c.toNat - '0'.toNat) else none

/-- The value of an ASCII hexadecimal digit, in either case. -/
def hexDigit? (c : Char) : Option Nat :=
  if '0' ≤ c ∧ c ≤ '9' then some (c.toNat - '0'.toNat)
  else if 'a' ≤ c ∧ c ≤ 'f' then some (c.toNat - 'a'.toNat + 10)
  else if 'A' ≤ c ∧ c ≤ 'F' then some (c.toNat - 'A'.toNat + 10)
  else none

/-- The character of a digit, upper case above nine. -/
def digitChar (n : Nat) : Char :=
  if n < 10 then Char.ofNat ('0'.toNat + n) else Char.ofNat ('A'.toNat + (n - 10))

/-- The low `width` digits of `n` in `base`, leading zeros kept. -/
def fixedDigits (base : Nat) : (width : Nat) → Nat → List Char
  | 0, _ => []
  | width + 1, n => digitChar (n / Radix.pow base width % base) :: fixedDigits base width n

/-- The decimal numeral of `n`, without leading zeros. -/
def numeral (n : Nat) : List Char := Nat.toDigits 10 n

/-- The number that a list of digits in `base` denotes; none when it is empty or a
character is no digit under `digit`. -/
def readNumeral? (base : Nat) (digit : Char → Option Nat) : List Char → Option Nat
  | [] => none
  | cs => cs.foldlM (fun n c => (digit c).map (base * n + ·)) 0

end Suffrage.Text
