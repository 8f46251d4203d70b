/-
# Suffrage.Toml.Document -- reading a document

A document is read line by line: blank lines and comments, headers in one or two pairs of
brackets, and assignments.  Keys are bare words or quoted, with points between the steps of
a dotted key.  Arrays may go over several lines and end with a comma; inline tables may do
neither.  Values may be nested in at most `maxDepth` brackets and braces.

The loops over lines, array items and table members take fuel.  Each turn consumes a
character, so the length of the text is enough.
-/
import Suffrage.Toml.Build
import Suffrage.Toml.Quoted
import Suffrage.Toml.Scalar

namespace Suffrage.Toml

set_option autoImplicit false

/-! ## Blanks and comments -/

def skipSpaces (cs : List Char) : List Char := cs.dropWhile isSpace

/-- Drops a line end; a document may end without one. -/
def lineEnd? : List Char → Option (List Char)
  | [] => some []
  | '\n' :: rest => some rest
  | '\r' :: '\n' :: rest => some rest
  | _ => none

def isCommentChar (c : Char) : Bool := c != '\n' && !isControl c

/-- Drops what may end a line: blanks, a comment, the line end. -/
def endLine? (cs : List Char) : Option (List Char) :=
  match skipSpaces cs with
  | '#' :: rest => lineEnd? (rest.dropWhile isCommentChar)
  | rest => lineEnd? rest

/-- Drops blanks, line ends and whole comments.  `comment` says that one has begun. -/
def skipLines? : (comment : Bool) → List Char → Option (List Char)
  | comment, [] => if comment then none else some []
  | comment, c :: rest =>
      if c = '\n' then skipLines? false rest
      else if c = '\r' then if startsLine rest then skipLines? false rest else none
      else if comment then if isCommentChar c then skipLines? true rest else none
      else if isSpace c then skipLines? false rest
      else if c = '#' then skipLines? true rest
      else some (c :: rest)

/-! ## Keys -/

def isBareChar (c : Char) : Bool := c.isAlphanum || c == '-' || c == '_'

/-- One step of a key. -/
def readStep? (cs : List Char) : Option (String × List Char) :=
  match readLine? cs with
  | some (quoted, rest) => some (String.ofList quoted, rest)
  | none =>
      match cs.takeWhile isBareChar with
      | [] => none
      | word => some (String.ofList word, cs.dropWhile isBareChar)

/-- A key of at most `limit` steps, with blanks around each: the steps before the last
one, and the last one. -/
def readKey? : (limit : Nat) → List Char → Option ((List String × String) × List Char)
  | 0, _ => none
  | limit + 1, cs => do
      let (step, rest) ← readStep? (skipSpaces cs)
      match skipSpaces rest with
      | '.' :: rest =>
          let ((path, name), rest) ← readKey? limit rest
          return ((step :: path, name), rest)
      | rest => return (([], step), rest)

/-- The largest number of brackets and braces around a value, and of steps in a key. -/
def maxDepth : Nat := 79

/-! ## Values -/

/-- The items after an opening bracket. -/
def readItems? (value? : List Char → Option (Toml × List Char)) :
    (fuel : Nat) → List Char → Option (List Toml × List Char)
  | 0, _ => none
  | fuel + 1, cs => do
      match ← skipLines? false cs with
      | ']' :: rest => return ([], rest)
      | cs =>
          let (item, rest) ← value? cs
          match ← skipLines? false rest with
          | ']' :: rest => return ([item], rest)
          | ',' :: rest =>
              let (items, rest) ← readItems? value? fuel rest
              return (item :: items, rest)
          | _ => none

/-- A key, an equals sign and a value. -/
def readAssignment? (value? : List Char → Option (Toml × List Char)) (cs : List Char) :
    Option ((List String × String × Toml) × List Char) := do
  let ((path, name), rest) ← readKey? maxDepth cs
  match rest with
  | '=' :: rest =>
      let (value, rest) ← value? (skipSpaces rest)
      return ((path, name, value), rest)
  | _ => none

/-- The members up to a closing brace, at least one of them. -/
def readMembers? (value? : List Char → Option (Toml × List Char)) :
    (fuel : Nat) → List Char → Option (List (List String × String × Toml) × List Char)
  | 0, _ => none
  | fuel + 1, cs => do
      let (member, rest) ← readAssignment? value? cs
      match skipSpaces rest with
      | '}' :: rest => return ([member], rest)
      | ',' :: rest =>
          let (members, rest) ← readMembers? value? fuel rest
          return (member :: members, rest)
      | _ => none

/-- The table after an opening brace. -/
def readInline? (value? : List Char → Option (Toml × List Char)) (cs : List Char) :
    Option (Toml × List Char) :=
  match skipSpaces cs with
  | '}' :: rest => some (.table .inline [], rest)
  | cs => do
      let (members, rest) ← readMembers? value? cs.length cs
      return (← inlineTable? [] members, rest)

/-- A value with at most `depth` brackets and braces around its parts. -/
def readValue? : (depth : Nat) → List Char → Option (Toml × List Char)
  | _, '"' :: rest =>
      (readQuoted? ('"' :: rest)).map fun r => (.text (String.ofList r.1), r.2)
  | _, '\'' :: rest =>
      (readQuoted? ('\'' :: rest)).map fun r => (.text (String.ofList r.1), r.2)
  | 0, '[' :: _ => none
  | 0, '{' :: _ => none
  | depth + 1, '[' :: rest =>
      (readItems? (readValue? depth) rest.length rest).map fun r => (.array false r.1, r.2)
  | depth + 1, '{' :: rest => readInline? (readValue? depth) rest
  | _, cs => readScalar? cs

/-! ## Lines -/

/-- A header: the path, the name, and what follows the brackets. -/
def readHeader? (closing : List Char) (cs : List Char) :
    Option ((List String × String) × List Char) := do
  let (key, rest) ← readKey? maxDepth cs
  if closing.isPrefixOf rest then return (key, rest.drop closing.length) else none

/-- The statement on a line, if the line holds one, and what follows on the line. -/
def readStatement? : List Char → Option (Option Statement × List Char)
  | '[' :: '[' :: rest =>
      (readHeader? [']', ']'] rest).map fun r => (some (.openItem r.1.1 r.1.2), r.2)
  | '[' :: rest => (readHeader? [']'] rest).map fun r => (some (.openTable r.1.1 r.1.2), r.2)
  | cs =>
      match cs with
      | '#' :: _ | '\n' :: _ | '\r' :: _ => some (none, cs)
      | _ =>
          (readAssignment? (readValue? maxDepth) cs).map fun r =>
            (some (.assign r.1.1 r.1.2.1 r.1.2.2), r.2)

/-- The statements of a document. -/
def readStatements? : (fuel : Nat) → List Char → Option (List Statement)
  | 0, _ => none
  | fuel + 1, cs => do
      match skipSpaces cs with
      | [] => return []
      | cs =>
          let (statement, rest) ← readStatement? cs
          let rest ← endLine? rest
          let statements ← readStatements? fuel rest
          return statement.toList ++ statements

/-- Drops a byte order mark. -/
def dropMark : List Char → List Char
  | '\uFEFF' :: rest => rest
  | cs => cs

/-- Reads a document. -/
def parse? (s : String) : Option Toml :=
  let cs := dropMark s.toList
  (readStatements? (cs.length + 1) cs).bind build?

end Suffrage.Toml
