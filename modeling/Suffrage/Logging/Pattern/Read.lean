/-
# Suffrage.Logging.Pattern.Read -- regular expressions from text

`Pattern.read?` reads an expression.  Flags change the modes from where they stand to the
end of their group, or within the group that they open.  In verbose mode blanks and
comments are skipped between the signs of an expression and inside classes, and also
between the digits of an escape, but not inside names, flags and names of classes.

There is no counted repetition: where an expression stands, a closing brace ends it.  Back
references, looking around and properties of characters are refused.
-/
import Suffrage.Logging.Pattern
import Suffrage.Text.Alphanumeric
import Suffrage.Text.Blank
import Suffrage.Text.Digits

namespace Suffrage.Pattern

set_option autoImplicit false

/-! ## Blanks and comments -/

/-- Drops blanks, and comments up to the end of their line; `inComment` if the text starts
inside one. -/
def dropSpace (inComment : Bool) : List Char → List Char
  | [] => []
  | c :: rest =>
      if inComment then dropSpace (c != '\n') rest
      else if Text.isBlank c then dropSpace false rest
      else if c = '#' then dropSpace true rest
      else c :: rest

/-- The text from the next sign on. -/
def advance (modes : Modes) (cs : List Char) : List Char :=
  if modes.verbose then dropSpace false cs else cs

/-- The character that decides whether a dash before `cs` makes a range: the next one,
beyond blanks and one number sign in verbose mode. -/
def peek (modes : Modes) (cs : List Char) : Option Char :=
  if modes.verbose then
    match cs.dropWhile Text.isBlank with
    | '#' :: rest => (rest.dropWhile Text.isBlank).head?.or cs.head?
    | c :: _ => some c
    | [] => cs.head?
  else cs.head?

/-! ## Escapes -/

/-- Reads a code point of `width` hexadecimal digits. -/
def code? (modes : Modes) : (width value : Nat) → List Char → Option (Nat × List Char)
  | 0, value, cs => some (value, cs)
  | width + 1, value, cs =>
      match advance modes cs with
      | c :: rest => (Text.hexDigit? c).bind fun d => code? modes width (16 * value + d) rest
      | [] => none

/-- Reads a character by its code point in `width` digits. -/
def coded? (modes : Modes) (width : Nat) (cs : List Char) : Option (Atom × List Char) :=
  match code? modes width 0 cs with
  | some (code, rest) =>
      if code.isValidChar then some (.literal (Char.ofNat code) (width == 2), rest) else none
  | none => none

/-- Control characters with a letter of their own. -/
def controls : List (Char × Char) :=
  [('a', '\x07'), ('f', '\x0C'), ('t', '\t'), ('n', '\n'), ('r', '\r'), ('v', '\x0B')]

/-- The characters that a backslash takes literally: ASCII, no letters and digits, and no
angle brackets. -/
def isEscapable (c : Char) : Bool := isAscii c && !c.isAlphanum && c != '<' && c != '>'

/-- Reads what follows a backslash. -/
def escape? (modes : Modes) : List Char → Option (Atom × List Char)
  | [] => none
  | 'x' :: rest => coded? modes 2 rest
  | 'u' :: rest => coded? modes 4 rest
  | 'U' :: rest => coded? modes 8 rest
  | c :: rest =>
      if "dsw".contains c then some (.shorthand false, rest)
      else if "DSW".contains c then some (.shorthand true, rest)
      else if "Az".contains c then some (.edge, rest)
      else if "bB<>".contains c then some (.wordEdge, rest)
      else if isEscapable c then some (.literal c false, rest)
      else (controls.lookup c).map fun control => (.literal control false, rest)

/-- Reads one character or escape that stands for itself. -/
def atom? (modes : Modes) : List Char → Option (Atom × List Char)
  | [] => none
  | '\\' :: rest => escape? modes rest
  | '.' :: rest => some (.dot, rest)
  | '^' :: rest => some (.edge, rest)
  | '$' :: rest => some (.edge, rest)
  | c :: rest => some (.literal c false, rest)

/-! ## Classes -/

/-- Inside a class only a backslash is special. -/
def element? (modes : Modes) : List Char → Option (Atom × List Char)
  | [] => none
  | '\\' :: rest => escape? modes rest
  | c :: rest => some (.literal c false, rest)

/-- An atom as a member of a class. -/
def Member.ofAtom? : Atom → Option Member
  | .literal c _ => some (.literal c)
  | .shorthand negated => some (.shorthand negated)
  | _ => none

/-- Reads one member, or all characters from one to another.  A dash before the closing
bracket or before another dash makes no range. -/
def member? (modes : Modes) (cs : List Char) : Option (Member × List Char) := do
  let (low, rest) ← element? modes cs
  let single := (Member.ofAtom? low).map fun m => (m, rest)
  match advance modes rest with
  | '-' :: next =>
      if peek modes next = some ']' ∨ peek modes next = some '-' then single
      else
        match low, ← element? modes (advance modes next) with
        | .literal low _, (.literal high _, after) =>
            if low ≤ high then some (.range low high, after) else none
        | _, _ => none
  | _ => single

def classNames : List String :=
  ["alnum", "alpha", "ascii", "blank", "cntrl", "digit", "graph", "lower", "print", "punct",
   "space", "upper", "word", "xdigit"]

/-- Reads the name of a class after its opening bracket: it stands between colons, a
complement marked by a caret. -/
def named? : List Char → Option (Member × List Char)
  | ':' :: cs =>
      let negated := cs.head? == some '^'
      let name := if negated then cs.tail else cs
      match name.dropWhile (· != ':') with
      | _ :: ']' :: rest =>
          if classNames.contains (String.ofList (name.takeWhile (· != ':'))) then
            some (.named negated, rest)
          else none
      | _ => none
  | _ => none

/-- How far the start of a class has been read: at its first character a closing bracket
stands for itself, and there and after other dashes so does a dash. -/
inductive Opening where
  | first
  | dashes
  | past
  deriving DecidableEq, Repr

/-- The class after the operands so far. -/
def Class.combine (left : Option Class) (parts : List Class) : Class :=
  match left with
  | some c => .combination c (.ofParts parts.reverse)
  | none => .ofParts parts.reverse

/-- Reads a class up to its closing bracket, `left` being the operands so far and `parts`
the members of the last one, in reverse. -/
def readClass? (modes : Modes) : (fuel : Nat) → Opening → (left : Option Class) →
    (parts : List Class) → List Char → Option (Class × List Char)
  | 0, _, _, _, _ => none
  | fuel + 1, opening, left, parts, cs =>
      match opening, advance modes cs with
      | _, [] => none
      | .first, ']' :: rest =>
          readClass? modes fuel .past left (.member (.literal ']') :: parts) rest
      | .first, '-' :: rest =>
          readClass? modes fuel .dashes left (.member (.literal '-') :: parts) rest
      | .dashes, '-' :: rest =>
          readClass? modes fuel .dashes left (.member (.literal '-') :: parts) rest
      | _, ']' :: rest => some (Class.combine left parts, rest)
      | _, '[' :: rest =>
          match named? rest with
          | some (m, rest) => readClass? modes fuel .past left (.member m :: parts) rest
          | none =>
              let start := advance modes rest
              let negated := start.head? == some '^'
              match readClass? modes fuel .first none [] (if negated then start.tail else start) with
              | some (inside, rest) =>
                  readClass? modes fuel .past left (.bracket negated inside :: parts) rest
              | none => none
      | _, '&' :: '&' :: rest =>
          readClass? modes fuel .past (some (Class.combine left parts)) [] rest
      | _, '-' :: '-' :: rest =>
          readClass? modes fuel .past (some (Class.combine left parts)) [] rest
      | _, '~' :: '~' :: rest =>
          readClass? modes fuel .past (some (Class.combine left parts)) [] rest
      | _, cs =>
          match member? modes cs with
          | some (m, rest) => readClass? modes fuel .past left (.member m :: parts) rest
          | none => none

/-- Reads a class after its opening bracket.  Each step takes a character, so there are no
more steps than characters. -/
def class? (modes : Modes) (cs : List Char) : Option (Class × List Char) :=
  let start := advance modes cs
  let negated := start.head? == some '^'
  (readClass? modes (cs.length + 1) .first none []
    (if negated then start.tail else start)).map fun c => (.bracket negated c.1, c.2)

/-! ## Groups -/

def isNameChar (c : Char) : Bool :=
  Text.isAlphanumeric c || c == '_' || c == '.' || c == '[' || c == ']'

/-- The name of a group: it starts with a letter or an underscore. -/
def isName : List Char → Bool
  | [] => false
  | c :: rest => (Text.isLetter c || c == '_') && rest.all isNameChar

/-- Flags to set, and after one minus sign flags to clear. -/
def isFlags (cs : List Char) : Bool :=
  cs.all ("imsUuRx-".contains ·) && allDistinct cs && cs.getLast? != some '-'

/-- The modes after a list of flags; `value` is what they are set to. -/
def Modes.change (modes : Modes) (value : Bool) : List Char → Modes
  | [] => modes
  | '-' :: rest => modes.change false rest
  | 'i' :: rest => { modes with ignoreCase := value }.change value rest
  | 'u' :: rest => { modes with unicode := value }.change value rest
  | 'x' :: rest => { modes with verbose := value }.change value rest
  | _ :: rest => modes.change value rest

/-- What an opening parenthesis starts, and the modes from there on. -/
inductive Start where
  | group (name : Option (List Char)) (modes : Modes)
  | directive (modes : Modes)

/-- Reads the name of a group after the opening angle bracket. -/
def namedGroup? (modes : Modes) (cs : List Char) : Option (Start × List Char) :=
  let name := cs.takeWhile (· != '>')
  match cs.dropWhile (· != '>') with
  | _ :: rest => if isName name then some (.group (some name) modes, rest) else none
  | [] => none

/-- Reads flags, for a group that they open or for the group that they stand in. -/
def flagged? (modes : Modes) (cs : List Char) : Option (Start × List Char) :=
  let isEnd (c : Char) : Bool := c == ':' || c == ')'
  let flags := cs.takeWhile (!isEnd ·)
  let changed := modes.change true flags
  match cs.dropWhile (!isEnd ·) with
  | ':' :: rest => if isFlags flags then some (.group none changed, rest) else none
  | _ :: rest =>
      if isFlags flags && !flags.isEmpty then some (.directive changed, rest) else none
  | [] => none

/-- Reads what follows an opening parenthesis. -/
def start? (modes : Modes) (cs : List Char) : Option (Start × List Char) :=
  match advance modes cs with
  | '?' :: '<' :: rest => namedGroup? modes rest
  | '?' :: 'P' :: '<' :: rest => namedGroup? modes rest
  | '?' :: rest => flagged? modes rest
  | rest => some (.group none modes, rest)

/-! ## Expressions -/

/-- A question mark right after a repetition belongs to it. -/
def dropLazy (cs : List Char) : List Char := if cs.head? = some '?' then cs.tail else cs

def isRepetition (c : Char) : Bool := c == '?' || c == '*' || c == '+'

/-- Reads an expression up to a closing parenthesis or the end, `branches` being the
branches so far and `parts` the parts of the last one, both in reverse. -/
def readBranches? : (fuel : Nat) → Modes → (branches parts : List Pattern) → List Char →
    Option (Pattern × List Char)
  | 0, _, _, _, _ => none
  | fuel + 1, modes, branches, parts, cs =>
      let branch := Pattern.ofParts parts.reverse
      let whole := Pattern.ofBranches (branch :: branches).reverse
      match advance modes cs with
      | [] => some (whole, [])
      | ')' :: rest => some (whole, ')' :: rest)
      | '|' :: rest => readBranches? fuel modes (branch :: branches) [] rest
      | '(' :: rest =>
          match start? modes rest with
          | some (.directive changed, rest) =>
              readBranches? fuel changed branches (.directive :: parts) rest
          | some (.group name inner, rest) =>
              match readBranches? fuel inner [] [] rest with
              | some (body, ')' :: rest) =>
                  readBranches? fuel modes branches (.group name body :: parts) rest
              | _ => none
          | none => none
      | '[' :: rest =>
          match class? modes rest with
          | some (c, rest) => readBranches? fuel modes branches (.oneOf modes c :: parts) rest
          | none => none
      | '\x7b' :: _ => none
      | c :: rest =>
          if isRepetition c then
            match parts with
            | p :: before =>
                if p.isRepeatable then
                  readBranches? fuel modes branches (.repetition p :: before) (dropLazy rest)
                else none
            | [] => none
          else
            match atom? modes (c :: rest) with
            | some (a, rest) => readBranches? fuel modes branches (.atom modes a :: parts) rest
            | none => none

/-- The expression that a text is.  Each step takes a character, so there are no more steps
than characters. -/
def read? (cs : List Char) : Option Pattern :=
  match readBranches? (cs.length + 1) .standard [] [] cs with
  | some (p, []) => some p
  | _ => none

end Suffrage.Pattern
