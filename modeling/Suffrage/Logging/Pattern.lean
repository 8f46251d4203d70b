/-
# Suffrage.Logging.Pattern -- regular expressions and which of them are usable

A filter may compare a field with a regular expression.  It is compared by a finite
automaton that knows the properties of ASCII characters only, so not every expression is
usable (`Pattern.isUsable`).  Read as Unicode, an expression may not ignore case, name a
class by a letter, or ask for the edge of a word.  Read as bytes, it may not match a part
of a character: no dot, no complement of a class, no byte beyond ASCII.

Besides, no two groups share a name, and nothing is nested deeper than
`Pattern.depthLimit`.
-/

namespace Suffrage

set_option autoImplicit false

namespace Pattern

/-- The flags that decide how an expression is read. -/
structure Modes where
  ignoreCase : Bool
  /-- Whether a text is a sequence of characters, and not of bytes. -/
  unicode : Bool
  /-- Whether blanks and comments are skipped. -/
  verbose : Bool
  deriving DecidableEq, Repr

def Modes.standard : Modes := { ignoreCase := false, unicode := true, verbose := false }

def isAscii (c : Char) : Bool := c.toNat < 0x80

/-! ## Classes of characters -/

inductive Member where
  | literal (c : Char)
  | range (low high : Char)
  /-- Digits, blanks or word characters, or the complement of one of these. -/
  | shorthand (negated : Bool)
  /-- A class with a name between colons, or its complement. -/
  | named (negated : Bool)
  deriving DecidableEq, Repr

def Member.isUsable (modes : Modes) : Member → Bool
  | .literal c => if modes.unicode then !modes.ignoreCase else isAscii c
  | .range low high => if modes.unicode then !modes.ignoreCase else isAscii low && isAscii high
  | .shorthand negated => !modes.unicode && !negated
  | .named negated => if modes.unicode then !modes.ignoreCase else !negated

inductive Class where
  | empty
  | member (m : Member)
  | bracket (negated : Bool) (inside : Class)
  | union (parts : List Class)
  /-- An intersection or a difference. -/
  | combination (left right : Class)

namespace Class

/-- The parts together; one part alone is no union. -/
def ofParts : List Class → Class
  | [] => .empty
  | [c] => c
  | parts => .union parts

mutual

def depth : Class → Nat
  | .empty => 0
  | .member _ => 0
  | .bracket _ inside => inside.depth + 1
  | .union parts => depthOfAll parts + 1
  | .combination left right => max left.depth right.depth + 1

def depthOfAll : List Class → Nat
  | [] => 0
  | c :: rest => max c.depth (depthOfAll rest)

end

mutual

def isUsable (modes : Modes) : Class → Bool
  | .empty => true
  | .member m => m.isUsable modes
  | .bracket negated inside => (modes.unicode || !negated) && inside.isUsable modes
  | .union parts => areUsable modes parts
  | .combination left right => left.isUsable modes && right.isUsable modes

def areUsable (modes : Modes) : List Class → Bool
  | [] => true
  | c :: rest => c.isUsable modes && areUsable modes rest

end

end Class

/-! ## Atoms -/

inductive Atom where
  /-- One character; `byte` if it is written as the two digits of a byte. -/
  | literal (c : Char) (byte : Bool)
  /-- Any character. -/
  | dot
  /-- The start or the end of the text or of a line. -/
  | edge
  /-- The edge of a word, or anything but one. -/
  | wordEdge
  /-- Digits, blanks or word characters, or the complement of one of these. -/
  | shorthand (negated : Bool)
  deriving DecidableEq, Repr

def Atom.isUsable (modes : Modes) : Atom → Bool
  | .literal c byte => if modes.unicode then !modes.ignoreCase else isAscii c || !byte
  | .dot => modes.unicode
  | .edge => true
  | .wordEdge => !modes.unicode
  | .shorthand negated => !modes.unicode && !negated

end Pattern

/-! ## Expressions -/

/-- A regular expression.  Atoms and classes carry the modes that are in force where they
stand. -/
inductive Pattern where
  | empty
  /-- A change of the modes. -/
  | directive
  | atom (modes : Pattern.Modes) (a : Pattern.Atom)
  | oneOf (modes : Pattern.Modes) (c : Pattern.Class)
  | repetition (body : Pattern)
  | group (name : Option (List Char)) (body : Pattern)
  | sequence (parts : List Pattern)
  | choice (branches : List Pattern)

namespace Pattern

/-- The parts one after another; one part alone is no sequence. -/
def ofParts : List Pattern → Pattern
  | [] => .empty
  | [p] => p
  | parts => .sequence parts

/-- One of the branches; one branch alone is no choice. -/
def ofBranches : List Pattern → Pattern
  | [p] => p
  | branches => .choice branches

/-- Whether a repetition may follow. -/
def isRepeatable : Pattern → Bool
  | .empty => false
  | .directive => false
  | _ => true

/-- How deep expressions may be nested. -/
def depthLimit : Nat := 250

mutual

def depth : Pattern → Nat
  | .empty => 0
  | .directive => 0
  | .atom _ _ => 0
  | .oneOf _ c => c.depth
  | .repetition body => body.depth + 1
  | .group _ body => body.depth + 1
  | .sequence parts => depthOfAll parts + 1
  | .choice branches => depthOfAll branches + 1

def depthOfAll : List Pattern → Nat
  | [] => 0
  | p :: rest => max p.depth (depthOfAll rest)

end

mutual

/-- The names of the groups, in order. -/
def names : Pattern → List (List Char)
  | .empty => []
  | .directive => []
  | .atom _ _ => []
  | .oneOf _ _ => []
  | .repetition body => body.names
  | .group name body => name.toList ++ body.names
  | .sequence parts => namesOfAll parts
  | .choice branches => namesOfAll branches

def namesOfAll : List Pattern → List (List Char)
  | [] => []
  | p :: rest => p.names ++ namesOfAll rest

end

mutual

/-- Whether every atom and every class is usable where it stands. -/
def hasUsableLeaves : Pattern → Bool
  | .empty => true
  | .directive => true
  | .atom modes a => a.isUsable modes
  | .oneOf modes c => c.isUsable modes
  | .repetition body => body.hasUsableLeaves
  | .group _ body => body.hasUsableLeaves
  | .sequence parts => haveUsableLeaves parts
  | .choice branches => haveUsableLeaves branches

def haveUsableLeaves : List Pattern → Bool
  | [] => true
  | p :: rest => p.hasUsableLeaves && haveUsableLeaves rest

end

/-- No two of the items are equal. -/
def allDistinct {α : Type} [BEq α] : List α → Bool
  | [] => true
  | x :: rest => !rest.contains x && allDistinct rest

def isUsable (p : Pattern) : Bool :=
  p.hasUsableLeaves && allDistinct p.names && decide (p.depth ≤ depthLimit)

end Pattern

end Suffrage
