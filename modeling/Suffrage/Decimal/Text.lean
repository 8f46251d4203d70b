/-
# Suffrage.Decimal.Text -- the written form of a decimal

`render` writes an optional minus sign, at least one digit before the point and exactly
`scale` digits after it.  `read` accepts that form and more: a plus sign, separators `_`
after the first digit, missing digits on one side of the point, digits beyond the
capacity (rounded away from zero at a half), and a decimal exponent.

Reading keeps the scale that was written, so `render` and `read` undo each other, except
for the sign of a zero: `-0.0` reads as `0.0`.  Only a negative number that a negative
exponent rounds to nothing is read as a zero with a sign.
-/
import Suffrage.Decimal.Basic
import Suffrage.Error
import Suffrage.Text.Blank
import Suffrage.Text.Digits

namespace Suffrage.Decimal

set_option autoImplicit false

open Text (digit? fixedDigits numeral readNumeral?)

/-! ## Writing -/

/-- The digits of `n * 10^-scale`, without a sign. -/
def renderDigits (n scale : Nat) : List Char :=
  if scale = 0 then numeral n
  else numeral (n / Radix.ten scale) ++ '.' :: fixedDigits 10 scale n

def renderChars (d : Decimal) : List Char :=
  if d.negative then '-' :: renderDigits d.magnitude d.scale
  else renderDigits d.magnitude d.scale

def render (d : Decimal) : String := String.ofList d.renderChars

instance : ToString Decimal := ⟨render⟩

/-! ## Reading -/

/-- Why a text is no decimal. -/
inductive ReadError where
  | empty
  | noDigits
  | secondPoint
  | leadingSeparator
  | unknownCharacter
  | tooManyDigits
  | roundingOverflow
  | malformedExponent
  | scaleTooLarge (scale : Nat)
  | tooLarge
  deriving DecidableEq, Repr

def ReadError.message : ReadError → String
  | .empty => "Invalid decimal: empty"
  | .noDigits => "Invalid decimal: no digits found"
  | .secondPoint => "Invalid decimal: two decimal points"
  | .leadingSeparator => "Invalid decimal: must start lead with a number"
  | .unknownCharacter => "Invalid decimal: unknown character"
  | .tooManyDigits => "Invalid decimal: overflow from too many digits"
  | .roundingOverflow => "Invalid decimal: overflow from mantissa after rounding"
  | .malformedExponent => "Failed to parse"
  | .scaleTooLarge scale =>
      "Scale exceeds the maximum precision allowed: " ++ toString scale ++ " > "
        ++ toString maxScale
  | .tooLarge => "Number exceeds maximum value that can be represented."

/-- What has been read of a plain number. -/
structure Progress where
  units : Nat
  places : Nat
  point : Bool
  started : Bool

/-- From this many units on, the next digit may leave a 64-bit word. -/
def Progress.wordLimit : Nat := UInt64.size / 10 - 255

/-- Whether the last digit was added beyond a 64-bit word. -/
def Progress.isWide (p : Progress) : Bool := wordLimit ≤ p.units / 10

/-- Whether the places are used up. -/
def Progress.isFull (p : Progress) : Bool := p.places == maxScale

/-- Digits and separators only may follow once the capacity is used up. -/
def checkTail : List Char → Except ReadError Unit
  | [] => .ok ()
  | c :: rest =>
      if (digit? c).isSome || c == '_' then checkTail rest
      else if c = '.' then .error .secondPoint
      else .error .unknownCharacter

/-- Rounds at the first digit that no longer fits: from five on it counts one more unit,
and a unit too many gives up one place. -/
def roundOff (p : Progress) (digit : Nat) : Except ReadError (Nat × Nat) :=
  if digit < 5 then .ok (p.units, p.places)
  else if p.units + 1 ≤ maxUnits then .ok (p.units + 1, p.places)
  else if p.places = 0 then .error .roundingOverflow
  else .ok ((p.units + 5) / 10, p.places - 1)

/-- Reads the digits of a plain number: its units and its fractional places.  The first
digit beyond the capacity rounds the number and ends it.  Once the places are used up a
separator ends it too, unless the units are wide. -/
def readDigits (p : Progress) : List Char → Except ReadError (Nat × Nat)
  | [] => if p.started then .ok (p.units, p.places) else .error .noDigits
  | c :: rest =>
      match digit? c with
      | some d =>
          if p.isFull || maxUnits < 10 * p.units + d then
            if p.point then do
              let number ← roundOff p d
              checkTail rest
              return number
            else .error .tooManyDigits
          else
            readDigits
              { units := 10 * p.units + d
                places := if p.point then p.places + 1 else 0
                point := p.point
                started := true } rest
      | none =>
          if c = '.' then
            if p.point then .error .secondPoint else readDigits { p with point := true } rest
          else if c = '_' then
            if !p.started then .error .leadingSeparator
            else if p.isFull && !p.isWide then do
              checkTail rest
              return (p.units, p.places)
            else readDigits p rest
          else .error .unknownCharacter

/-- The decimal of these units and places, negated if asked; a zero has no sign. -/
def assemble (negative : Bool) (number : Nat × Nat) : Except ReadError Decimal :=
  match make? negative number.1 number.2 with
  | some d => .ok d.canonical
  | none => .error .tooLarge

/-- A number without an exponent. -/
def readPlain (cs : List Char) : Except ReadError Decimal :=
  let start : Progress := { units := 0, places := 0, point := false, started := false }
  match cs with
  | [] => .error .empty
  | '-' :: rest => (readDigits start rest).bind (assemble true)
  | '+' :: rest => (readDigits start rest).bind (assemble false)
  | cs => (readDigits start cs).bind (assemble false)

/-- The digits of an exponent: a 32-bit number with an optional plus sign. -/
def readExponent (cs : List Char) : Except ReadError Nat :=
  let digits := match cs with
    | '+' :: rest => rest
    | cs => cs
  match readNumeral? 10 digit? digits with
  | some n => if n < UInt32.size then .ok n else .error .malformedExponent
  | none => .error .malformedExponent

/-- `magnitude / 10^k` to the nearest, a tie to the larger. -/
def roundHalfUp (magnitude k : Nat) : Nat :=
  (2 * magnitude + Radix.ten k) / (2 * Radix.ten k)

/-- `d * 10^-x`: the scale grows by `x`, after rounding to what is left of it.  The sign
stays even if nothing else does. -/
def shiftDown (d : Decimal) (x : Nat) : Except ReadError Decimal :=
  let rounded :=
    if d.scale + x ≤ maxScale then make? d.negative d.magnitude (d.scale + x)
    else if x ≤ maxScale then
      make? d.negative (roundHalfUp d.magnitude (d.scale + x - maxScale)) maxScale
    else none
  match rounded with
  | some r => .ok r
  | none => .error (.scaleTooLarge x)

/-- `d * 10^x`: the scale shrinks by `x`; a whole number gains digits. -/
def shiftUp (d : Decimal) (x : Nat) : Except ReadError Decimal :=
  if maxScale < x then .error (.scaleTooLarge x)
  else
    let magnitude := d.magnitude * Radix.ten (x - d.scale)
    match make? d.negative magnitude (d.scale - x) with
    | some r => .ok r
    | none => .error .tooLarge

def isExponentMark (c : Char) : Bool := c == 'e' || c == 'E'

/-- A number with an exponent, split at the first mark. -/
def readScientific (cs : List Char) : Except ReadError Decimal := do
  let base ← readPlain (cs.takeWhile (!isExponentMark ·))
  match (cs.dropWhile (!isExponentMark ·)).drop 1 with
  | '-' :: digits => shiftDown base (← readExponent digits)
  | digits => shiftUp base (← readExponent digits)

/-- A plain number, or else one with an exponent. -/
def readChars (cs : List Char) : Except ReadError Decimal :=
  match readPlain cs with
  | .ok d => .ok d
  | .error e => if cs.any isExponentMark then readScientific cs else .error e

def read (s : String) : Except ReadError Decimal := readChars s.toList

/-- The decimal that a text denotes, if it denotes one. -/
def read? (s : String) : Option Decimal := (read s).toOption

/-- Reads a decimal with blanks around it; the refusal quotes the whole text. -/
def parse (raw : String) : Except ValueError Decimal :=
  match readChars (Text.trim raw.toList) with
  | .ok d => .ok d
  | .error e => .error (.decimal (raw ++ ": " ++ e.message))

end Suffrage.Decimal
