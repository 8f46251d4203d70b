/-
# Suffrage.Json -- JSON values

The values that records are exchanged as.  A number is `mantissa * 10^-exponent`; the
members of an object keep the order in which they were written, and a look-up finds the
first of a name.
-/

namespace Suffrage

set_option autoImplicit false

inductive Json where
  | null
  | flag (value : Bool)
  | number (mantissa : Int) (exponent : Nat)
  | text (value : String)
  | array (items : List Json)
  | object (members : List (String × Json))
  deriving Repr, Inhabited

namespace Json

def isNull : Json → Bool
  | .null => true
  | _ => false

def text? : Json → Option String
  | .text value => some value
  | _ => none

def flag? : Json → Option Bool
  | .flag value => some value
  | _ => none

def items? : Json → Option (List Json)
  | .array items => some items
  | _ => none

/-- A whole number that fits 64 bits. -/
def word? : Json → Option UInt64
  | .number mantissa 0 =>
      if 0 ≤ mantissa ∧ mantissa < UInt64.size then some (UInt64.ofNat mantissa.toNat) else none
  | _ => none

/-- The name of a constant: the name itself, or an object that maps it to null. -/
def constant? : Json → Option String
  | .text name => some name
  | .object [(name, .null)] => some name
  | _ => none

/-- The name of a constant where an empty object may take the place of the null. -/
def lenientConstant? : Json → Option String
  | .object [(name, .object [])] => some name
  | v => v.constant?

def word (n : UInt64) : Json := .number n.toNat 0

def natural (n : Nat) : Json := .number n 0

def texts (items : List String) : Json := .array (items.map .text)

/-- The text or null. -/
def textOrNull : Option String → Json
  | some value => .text value
  | none => .null

theorem word?_word (n : UInt64) : word? (word n) = some n := by
  have bound : n.toNat < UInt64.size := n.toNat_lt
  simp only [word, word?]
  rw [if_pos ⟨by omega, by omega⟩]
  simp

end Json

end Suffrage
