/-
# Suffrage.Toml.Scalar -- numbers, dates and constants

A value that is neither quoted nor bracketed is a run of letters, digits, signs, points
and colons; only a date and its time may stand apart by one space.  The run as a whole
must be a number, a moment or a constant:

* integers fit 64 bits with a sign; in another base they have no sign;
* single underscores may stand between digits, and decimal integers start with no zero;
* a floating-point number has digits on both sides of its point; one above the largest
  finite number is refused, one below the smallest counts as infinite;
* dates and times are those of the calendar and the clock, a leap second included.
-/
import Suffrage.Toml.Value

namespace Suffrage.Toml

set_option autoImplicit false

open Text (digit? hexDigit? readNumeral?)

/-! ## Numbers -/

/-- A numeral without the underscores between its digits. -/
def separated? (digit : Char → Option Nat) : List Char → Option (List Char)
  | [] => none
  | [c] => if (digit c).isSome then some [c] else none
  | c :: '_' :: rest =>
      if (digit c).isSome then (separated? digit rest).map (c :: ·) else none
  | c :: rest => if (digit c).isSome then (separated? digit rest).map (c :: ·) else none

/-- The number that a numeral with underscores denotes. -/
def numeral? (base : Nat) (digit : Char → Option Nat) (cs : List Char) : Option Nat :=
  (separated? digit cs).bind (readNumeral? base digit)

def signed (negative : Bool) (n : Nat) : Int := if negative then -(n : Int) else n

def integer? (n : Int) : Option Toml :=
  if -(Radix.two 63 : Int) ≤ n ∧ n < Radix.two 63 then some (.integer n) else none

/-- A digit below `base`. -/
def digitBelow? (base : Nat) (c : Char) : Option Nat := (digit? c).filter (· < base)

/-- An optional sign and what follows. -/
def splitSign : List Char → Bool × List Char
  | '-' :: rest => (true, rest)
  | '+' :: rest => (false, rest)
  | cs => (false, cs)

def isNumeralChar (c : Char) : Bool := (digit? c).isSome || c == '_'

/-- The fraction after a whole part: its digits, and what follows. -/
def fraction? : List Char → Option (List Char × List Char)
  | '.' :: rest =>
      (separated? digit? (rest.takeWhile isNumeralChar)).map fun digits =>
        (digits, rest.dropWhile isNumeralChar)
  | cs => some ([], cs)

/-- The exponent that ends a number. -/
def exponent? : List Char → Option Int
  | [] => some 0
  | c :: rest =>
      if c = 'e' ∨ c = 'E' then
        (numeral? 10 digit? (splitSign rest).2).map (signed (splitSign rest).1)
      else none

/-- The floating-point number of some digits and an exponent. -/
def float? (negative : Bool) (digits : List Char) (exponent : Int) : Option Toml :=
  (readNumeral? 10 digit? digits).bind fun n =>
    match Binary64.ofLiteral? n exponent with
    | some magnitude => some (.float negative magnitude)
    | none => if negative then some .nonFinite else none

/-- A decimal number without its sign. -/
def unsigned? (negative : Bool) (cs : List Char) : Option Toml := do
  if cs = ['i', 'n', 'f'] ∨ cs = ['n', 'a', 'n'] then return .nonFinite
  let whole ← separated? digit? (cs.takeWhile isNumeralChar)
  if whole.head? = some '0' ∧ whole.length ≠ 1 then none
  match cs.dropWhile isNumeralChar with
  | [] => (readNumeral? 10 digit? whole).bind fun n => integer? (signed negative n)
  | rest =>
      let (digits, rest) ← fraction? rest
      let exponent ← exponent? rest
      float? negative (whole ++ digits) (exponent - digits.length)

def number? : List Char → Option Toml
  | '0' :: 'x' :: digits => (numeral? 16 hexDigit? digits).bind (integer? ·)
  | '0' :: 'o' :: digits => (numeral? 8 (digitBelow? 8) digits).bind (integer? ·)
  | '0' :: 'b' :: digits => (numeral? 2 (digitBelow? 2) digits).bind (integer? ·)
  | cs => unsigned? (splitSign cs).1 (splitSign cs).2

/-! ## Moments -/

/-- A number of exactly two digits within bounds. -/
def pairWithin (low high : Nat) (a b : Char) : Bool :=
  match digit? a, digit? b with
  | some a, some b => low ≤ 10 * a + b && 10 * a + b ≤ high
  | _, _ => false

def isLeapYear (year : Nat) : Bool := year % 4 == 0 && (year % 100 != 0 || year % 400 == 0)

def daysIn (year month : Nat) : Nat :=
  if month = 2 then if isLeapYear year then 29 else 28
  else if month = 4 ∨ month = 6 ∨ month = 9 ∨ month = 11 then 30
  else 31

/-- A date: year, month and day. -/
def isDate : List Char → Bool
  | [y₁, y₂, y₃, y₄, '-', m₁, m₂, '-', d₁, d₂] =>
      match readNumeral? 10 digit? [y₁, y₂, y₃, y₄], readNumeral? 10 digit? [m₁, m₂] with
      | some year, some month =>
          1 ≤ month && month ≤ 12 && pairWithin 1 (daysIn year month) d₁ d₂
      | _, _ => false
  | _ => false

/-- An offset from universal time. -/
def isOffset : List Char → Bool
  | ['Z'] => true
  | ['z'] => true
  | [s, h₁, h₂, ':', m₁, m₂] =>
      (s == '+' || s == '-') && pairWithin 0 23 h₁ h₂ && pairWithin 0 59 m₁ m₂
  | _ => false

/-- The fraction of a second and then what `ending` accepts. -/
def endsTime (ending : List Char → Bool) : List Char → Bool
  | '.' :: c :: rest =>
      (digit? c).isSome && ending (rest.dropWhile fun c => (digit? c).isSome)
  | cs => ending cs

/-- A time of day and then what `ending` accepts. -/
def isTime (ending : List Char → Bool) : List Char → Bool
  | h₁ :: h₂ :: ':' :: m₁ :: m₂ :: ':' :: s₁ :: s₂ :: rest =>
      pairWithin 0 23 h₁ h₂ && pairWithin 0 59 m₁ m₂ && pairWithin 0 60 s₁ s₂ &&
        endsTime ending rest
  | _ => false

/-- A time of day after a date, with an optional offset. -/
def isTimeOfDate : List Char → Bool := isTime fun cs => cs.isEmpty || isOffset cs

/-- A date, a time of day, or a date with its time. -/
def isMoment (cs : List Char) : Bool :=
  isDate cs || isTime List.isEmpty cs ||
    (isDate (cs.take 10) &&
      match cs.drop 10 with
      | c :: time => (c == 'T' || c == 't') && isTimeOfDate time
      | [] => false)

/-! ## Runs -/

def isRunChar (c : Char) : Bool :=
  c.isAlphanum || c == '+' || c == '-' || c == '.' || c == '_' || c == ':'

/-- The value of a run. -/
def run? (cs : List Char) : Option Toml :=
  if cs = ['t', 'r', 'u', 'e'] then some (.flag true)
  else if cs = ['f', 'a', 'l', 's', 'e'] then some (.flag false)
  else if isMoment cs then some .moment
  else number? cs

/-- A value without quotes or brackets, and what follows it. -/
def readScalar? (cs : List Char) : Option (Toml × List Char) :=
  let first := cs.takeWhile isRunChar
  let rest := cs.dropWhile isRunChar
  match rest with
  | ' ' :: after =>
      if isDate first && isTimeOfDate (after.takeWhile isRunChar) then
        some (.moment, after.dropWhile isRunChar)
      else (run? first).map fun v => (v, rest)
  | _ => (run? first).map fun v => (v, rest)

end Suffrage.Toml
