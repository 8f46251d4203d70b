/-
# Suffrage.Logging.Filter -- which log lines are written

A filter is a list of directives parted by commas, each a level, a target, or a target and
its level; a target may be narrowed to a span and its fields in brackets.

The parts of a directive are told apart in its text without the blanks around it, and then
cut out of the text with them, at the same byte positions (`cut?`).  So blanks before a
part shift it, and blanks after a level belong to the level.
-/
import Suffrage.Logging.Pattern.Read
import Suffrage.Text.Blank

namespace Suffrage.Filter

set_option autoImplicit false

/-! ## Byte positions -/

/-- The bytes that a text takes in UTF-8. -/
def byteLength (cs : List Char) : Nat := cs.foldr (fun c n => c.utf8Size + n) 0

/-- What comes after the first bytes; nothing if they end inside a character. -/
def dropBytes? : (bytes : Nat) → List Char → Option (List Char)
  | 0, cs => some cs
  | _ + 1, [] => none
  | bytes + 1, c :: rest =>
      if c.utf8Size ≤ bytes + 1 then dropBytes? (bytes + 1 - c.utf8Size) rest else none

/-- The first bytes; nothing if they end inside a character. -/
def takeBytes? : (bytes : Nat) → List Char → Option (List Char)
  | 0, _ => some []
  | _ + 1, [] => none
  | bytes + 1, c :: rest =>
      if c.utf8Size ≤ bytes + 1 then (takeBytes? (bytes + 1 - c.utf8Size) rest).map (c :: ·)
      else none

/-- The bytes of a text from `start` to `stop`. -/
def cut? (start stop : Nat) (cs : List Char) : Option (List Char) :=
  (dropBytes? start cs).bind (takeBytes? (stop - start))

/-! ## Levels -/

def levelNames : List String := ["trace", "debug", "info", "warn", "error", "off"]

/-- A level, by name in any case or by number. -/
def isLevel (cs : List Char) : Bool :=
  levelNames.contains (String.ofList (cs.map Char.toLower)) ||
    match Text.readNumeral? 10 Text.digit? (if cs.head? = some '+' then cs.tail else cs) with
    | some n => n ≤ 5
    | none => false

/-- The level of a target, from byte `start` to the end of the directive; left out,
everything is logged. -/
def endsInLevel (directive : List Char) (start : Nat) : Bool :=
  match dropBytes? start directive with
  | some level => level.isEmpty || isLevel level
  | none => false

/-! ## Fields -/

/-- The exponent of a number: nothing, or a mark and digits with an optional sign. -/
def isExponent : List Char → Bool
  | [] => true
  | mark :: rest =>
      let digits := if rest.head? = some '+' ∨ rest.head? = some '-' then rest.tail else rest
      mark.toLower == 'e' && !digits.isEmpty && digits.all Char.isDigit

/-- A number without a sign: digits with an optional point and exponent, or a word for what
is no finite number. -/
def isMagnitude (cs : List Char) : Bool :=
  let whole := cs.takeWhile Char.isDigit
  let rest := cs.dropWhile Char.isDigit
  let places := if rest.head? = some '.' then rest.tail else []
  let after := if rest.head? = some '.' then places.dropWhile Char.isDigit else rest
  ["inf", "infinity", "nan"].contains (String.ofList (cs.map Char.toLower)) ||
    (!(whole ++ places.takeWhile Char.isDigit).isEmpty && isExponent after)

def isNumber (cs : List Char) : Bool :=
  isMagnitude (if cs.head? = some '+' ∨ cs.head? = some '-' then cs.tail else cs)

/-- A field by its name, or by its name and its value: a number or a usable pattern.  A
second equals sign ends the value. -/
def isField (cs : List Char) : Bool :=
  !cs.isEmpty &&
    match cs.dropWhile (· != '=') with
    | _ :: rest =>
        let value := rest.takeWhile (· != '=')
        isNumber value || (Pattern.read? value).any Pattern.isUsable
    | [] => true

/-! ## Directives -/

/-- What may follow a target in brackets, at byte `start`. -/
def followsTarget (directive : List Char) (start : Nat) : List Char → Bool
  | [] => true
  | '=' :: _ => endsInLevel directive (start + 1)
  | _ => false

/-- The field of a span, from byte `start` on, and what follows it. -/
def isBraced (directive : List Char) (start : Nat) (cs : List Char) : Bool :=
  let stop := start + byteLength (cs.takeWhile (· != '\x7d'))
  (cut? start stop directive).any isField &&
    match cs.dropWhile (· != '\x7d') with
    | _ :: ']' :: rest => followsTarget directive (stop + 2) rest
    | _ => false

/-- A span from byte `start` on, after the opening bracket, and what follows it. -/
def isSpan (directive : List Char) (start : Nat) (cs : List Char) : Bool :=
  let isEnd (c : Char) : Bool := c == ']' || c == '\x7b'
  let next := start + byteLength (cs.takeWhile (!isEnd ·)) + 1
  match cs.dropWhile (!isEnd ·) with
  | ']' :: rest => followsTarget directive next rest
  | _ :: rest => isBraced directive next rest
  | [] => false

/-- A target starts with a letter, a digit or one of three marks. -/
def isTarget : List Char → Bool
  | [] => false
  | c :: _ => Text.isAlphanumeric c || c == '-' || c == ':' || c == '_'

def isDirective (directive : List Char) : Bool :=
  let isEnd (c : Char) : Bool := c == '=' || c == '['
  let trimmed := Text.trim directive
  let target := trimmed.takeWhile (!isEnd ·)
  let next := byteLength target + 1
  match trimmed.dropWhile (!isEnd ·) with
  | [] => isTarget target
  | '=' :: _ => isTarget target && endsInLevel directive next
  | _ :: span => (target.isEmpty || isTarget target) && isSpan directive next span

/-- A list of directives, empty ones skipped. -/
def isWellFormed (filter : String) : Bool :=
  ((filter.toList.splitOn ',').filter (!·.isEmpty)).all isDirective

end Suffrage.Filter
