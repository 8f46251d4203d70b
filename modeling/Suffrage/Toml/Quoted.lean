/-
# Suffrage.Toml.Quoted -- quoted text

Text stands between double quotes, where a backslash starts an escape, or between single
quotes, where nothing does.  Tripled quotes hold text of several lines; a line end right
after the opening ones is dropped, and up to two quotes may stand before the closing ones.

Line ends are read as line feeds, whatever they were.  Control characters other than tabs
and line ends must be escaped.  In text of several lines a backslash at the end of a line
takes out the line end and the blanks after it.

`readBasic` and `readLiteral` read what follows the opening quotes and return the text and
what comes after the closing quotes.
-/
import Suffrage.Text.Digits

namespace Suffrage.Toml

set_option autoImplicit false

/-- Characters that text may not hold unescaped. -/
def isControl (c : Char) : Bool := (c.toNat < 0x20 && c != '\t' && c != '\n') || c.toNat == 0x7F

def isSpace (c : Char) : Bool := c == ' ' || c == '\t'

/-- Whether the rest of a text goes on with a line feed. -/
def startsLine (cs : List Char) : Bool := cs.head? == some '\n'

/-- The character of a code point, surrogates excluded. -/
def charOf? (n : Nat) : Option Char :=
  if n < 0xD800 ∨ (0xDFFF < n ∧ n < 0x110000) then some (Char.ofNat n) else none

/-- The character that a one-letter escape stands for. -/
def unescape? : Char → Option Char
  | 'b' => some '\x08'
  | 't' => some '\t'
  | 'n' => some '\n'
  | 'f' => some '\x0C'
  | 'r' => some '\r'
  | '"' => some '"'
  | '\\' => some '\\'
  | _ => none

/-! ## Double quotes -/

/-- What the characters read so far leave open. -/
inductive Mode where
  | plain
  /-- After a backslash. -/
  | escaped
  /-- In the digits of a code point, `left + 1` of them to come. -/
  | code (left value : Nat)
  /-- In blanks after a backslash; `ended` once the line has ended. -/
  | folding (ended : Bool)
  deriving DecidableEq, Repr

/-- What to do with one character. -/
inductive Step where
  | keep (c : Char) (mode : Mode)
  | skip (mode : Mode)
  /-- The text ends with these characters. -/
  | close (last rest : List Char)
  | refuse

/-- The step at a double quote in text of several lines. -/
def closeLines : List Char → Step
  | '"' :: '"' :: '"' :: '"' :: rest => .close ['"', '"'] rest
  | '"' :: '"' :: '"' :: rest => .close ['"'] rest
  | '"' :: '"' :: rest => .close [] rest
  | _ => .keep '"' .plain

def stepPlain (lines : Bool) (c : Char) (rest : List Char) : Step :=
  if c = '"' then if lines then closeLines rest else .close [] rest
  else if c = '\\' then .skip .escaped
  else if c = '\n' then if lines then .keep c .plain else .refuse
  else if c = '\r' then if lines && startsLine rest then .skip .plain else .refuse
  else if isControl c then .refuse
  else .keep c .plain

def stepFolding (lines ended : Bool) (c : Char) (rest : List Char) : Step :=
  if isSpace c then .skip (.folding ended)
  else if c = '\n' then .skip (.folding true)
  else if c = '\r' && startsLine rest then .skip (.folding ended)
  else if ended then stepPlain lines c rest
  else .refuse

def stepEscaped (lines : Bool) (c : Char) (rest : List Char) : Step :=
  if c = 'u' then .skip (.code 3 0)
  else if c = 'U' then .skip (.code 7 0)
  else
    match unescape? c with
    | some plain => .keep plain .plain
    | none => if lines then stepFolding lines false c rest else .refuse

def stepCode (left value : Nat) (c : Char) : Step :=
  match Text.hexDigit? c with
  | none => .refuse
  | some digit =>
      if left = 0 then
        match charOf? (16 * value + digit) with
        | some plain => .keep plain .plain
        | none => .refuse
      else .skip (.code (left - 1) (16 * value + digit))

def step (lines : Bool) (mode : Mode) (c : Char) (rest : List Char) : Step :=
  match mode with
  | .plain => stepPlain lines c rest
  | .escaped => stepEscaped lines c rest
  | .code left value => stepCode left value c
  | .folding ended => stepFolding lines ended c rest

/-- Text between double quotes, after the opening ones. -/
def readBasic (lines : Bool) : Mode → List Char → Option (List Char × List Char)
  | _, [] => none
  | mode, c :: rest =>
      match step lines mode c rest with
      | .keep plain next => (readBasic lines next rest).map fun r => (plain :: r.1, r.2)
      | .skip next => readBasic lines next rest
      | .close last rest => some (last, rest)
      | .refuse => none

/-! ## Single quotes -/

/-- Text of one line between single quotes, after the opening one. -/
def readLiteral : List Char → Option (List Char × List Char)
  | [] => none
  | '\'' :: rest => some ([], rest)
  | c :: rest =>
      if c = '\n' || isControl c then none
      else (readLiteral rest).map fun r => (c :: r.1, r.2)

/-- Text of several lines between single quotes, after the opening ones. -/
def readLiteralLines : List Char → Option (List Char × List Char)
  | [] => none
  | '\'' :: '\'' :: '\'' :: '\'' :: '\'' :: rest => some (['\'', '\''], rest)
  | '\'' :: '\'' :: '\'' :: '\'' :: rest => some (['\''], rest)
  | '\'' :: '\'' :: '\'' :: rest => some ([], rest)
  | '\r' :: '\n' :: rest => (readLiteralLines rest).map fun r => ('\n' :: r.1, r.2)
  | c :: rest =>
      if isControl c then none
      else (readLiteralLines rest).map fun r => (c :: r.1, r.2)

/-! ## Either -/

/-- Drops a line end that follows the opening quotes. -/
def dropLineEnd : List Char → List Char
  | '\n' :: rest => rest
  | '\r' :: '\n' :: rest => rest
  | cs => cs

/-- Text of one line, with its quotes. -/
def readLine? : List Char → Option (List Char × List Char)
  | '"' :: rest => readBasic false .plain rest
  | '\'' :: rest => readLiteral rest
  | _ => none

/-- Any quoted text, with its quotes. -/
def readQuoted? : List Char → Option (List Char × List Char)
  | '"' :: '"' :: '"' :: rest => readBasic true .plain (dropLineEnd rest)
  | '\'' :: '\'' :: '\'' :: rest => readLiteralLines (dropLineEnd rest)
  | cs => readLine? cs

end Suffrage.Toml
