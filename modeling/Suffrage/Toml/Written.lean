/-
# Suffrage.Toml.Written -- quoted text as it is written

`write` takes the first of these forms that can hold the text:

1. between double quotes, if it has no backslash, no double quote and no line end;
2. between single quotes, if it has no single quote and no line end;
3. between tripled double quotes, if it has no backslash and no three of them in a row;
4. between tripled single quotes, if it has no three of them in a row;
5. with escapes, between double quotes, tripled if it has a line end.

A control character leaves only the last form.  Between double quotes a tab is written as
an escape.  Tripled quotes are followed by a line end if the text has one.
-/
import Suffrage.Toml.Quoted

namespace Suffrage.Toml

set_option autoImplicit false

inductive Form where
  | basic
  | literal
  | basicLines
  | literalLines
  | escaped (lines : Bool)
  deriving DecidableEq, Repr

/-- Whether `c` stands three times in a row somewhere. -/
def hasTriple (c : Char) : List Char → Bool
  | a :: b :: d :: rest => (a == c && b == c && d == c) || hasTriple c (b :: d :: rest)
  | _ => false

def Form.of (cs : List Char) : Form :=
  let lines := cs.contains '\n'
  let control := cs.any isControl
  let backslash := cs.contains '\\'
  if !control && !backslash && !cs.contains '"' && !lines then .basic
  else if !control && !cs.contains '\'' && !lines then .literal
  else if !control && !backslash && !hasTriple '"' cs then .basicLines
  else if !control && !hasTriple '\'' cs then .literalLines
  else .escaped lines

/-- The escape of a character that must have one.  A line end needs none in text of
several lines, and quotes are dealt with apart. -/
def escape? (lines : Bool) (c : Char) : Option (List Char) :=
  if c = '\x08' then some ['\\', 'b']
  else if c = '\t' then some ['\\', 't']
  else if c = '\n' then if lines then none else some ['\\', 'n']
  else if c = '\x0C' then some ['\\', 'f']
  else if c = '\r' then some ['\\', 'r']
  else if c = '\\' then some ['\\', '\\']
  else if isControl c then some ('\\' :: 'u' :: Text.fixedDigits 16 4 c.toNat)
  else none

/-- Text with escapes.  `free` more double quotes may stand here before one must be
escaped. -/
def escapeFrom (lines : Bool) (free : Nat) : List Char → List Char
  | [] => []
  | c :: rest =>
      let all := if lines then 2 else 0
      if c = '"' then
        if free = 0 then '\\' :: '"' :: escapeFrom lines all rest
        else '"' :: escapeFrom lines (free - 1) rest
      else (escape? lines c).getD [c] ++ escapeFrom lines all rest

def escapeAll (lines : Bool) (cs : List Char) : List Char :=
  escapeFrom lines (if lines then 2 else 0) cs

def tripled (quote : Char) : List Char := [quote, quote, quote]

/-- The opening quotes of text of several lines. -/
def opening (quote : Char) (cs : List Char) : List Char :=
  if cs.contains '\n' then tripled quote ++ ['\n'] else tripled quote

/-- Text in a form that can hold it, with its quotes. -/
def Form.write (cs : List Char) : Form → List Char
  | .basic => '"' :: (escapeAll false cs ++ ['"'])
  | .literal => '\'' :: (cs ++ ['\''])
  | .basicLines => opening '"' cs ++ escapeAll true cs ++ tripled '"'
  | .literalLines => opening '\'' cs ++ cs ++ tripled '\''
  | .escaped false => '"' :: (escapeAll false cs ++ ['"'])
  | .escaped true => opening '"' cs ++ escapeAll true cs ++ tripled '"'

/-- Quoted text. -/
def write (s : String) : String := String.ofList ((Form.of s.toList).write s.toList)

end Suffrage.Toml
