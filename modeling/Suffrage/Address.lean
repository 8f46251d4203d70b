/-
# Suffrage.Address -- member addresses

An address is `civ_` followed by one to sixty-four lower-case ASCII letters or digits.
`Address.parse` is the way in for text from outside.  Records that come from storage
hold whatever text was stored, so well-formedness is a test (`isWellFormed`) and not
part of the type.

Addresses are ordered by their bytes, the same on every replica.
-/
import Suffrage.Error
import Suffrage.Text.Bytes

namespace Suffrage

set_option autoImplicit false

structure Address where
  text : String
  deriving DecidableEq, Repr, Inhabited

namespace Address

/-- The largest number of characters after `civ_`. -/
def maxBody : Nat := 64

def isBodyChar (c : Char) : Bool := ('a' ≤ c && c ≤ 'z') || ('0' ≤ c && c ≤ '9')

def isWellFormedText (cs : List Char) : Bool :=
  match cs with
  | 'c' :: 'i' :: 'v' :: '_' :: body =>
      !body.isEmpty && body.length ≤ maxBody && body.all isBodyChar
  | _ => false

def isWellFormed (a : Address) : Bool := isWellFormedText a.text.toList

/-- Reads an address from outside. -/
def parse (raw : String) : Except ValueError Address :=
  if raw.isEmpty then .error (.address "empty address")
  else if isWellFormedText raw.toList then .ok ⟨raw⟩
  else .error (.address raw)

/-- The address that the caller vouches for; a malformed one stops the caller. -/
def vouched (raw : String) : Except Defect Address :=
  if isWellFormedText raw.toList then .ok ⟨raw⟩
  else .error ⟨"malformed member address: " ++ raw⟩

instance : ToString Address := ⟨text⟩

def bytes (a : Address) : Text.Bytes := Text.utf8 a.text

theorem bytes_inj {a b : Address} (same : a.bytes = b.bytes) : a = b := by
  cases a; cases b; exact congrArg Address.mk (Text.utf8_inj same)

/-- At or before, in byte order. -/
def precedes (a b : Address) : Bool := a.bytes ≤ b.bytes

/-- In byte order. -/
def sort (addresses : List Address) : List Address := addresses.mergeSort precedes

theorem parse_eq_ok_iff {raw : String} {a : Address} :
    parse raw = .ok a ↔ a = ⟨raw⟩ ∧ a.isWellFormed = true := by
  unfold parse isWellFormed
  split
  · rename_i empty
    constructor
    · intro h; cases h
    · rintro ⟨rfl, wellFormed⟩
      rw [String.isEmpty_iff] at empty
      subst empty
      exact absurd wellFormed (by decide)
  · split
    · constructor
      · intro h; cases h; exact ⟨rfl, ‹_›⟩
      · rintro ⟨rfl, -⟩; rfl
    · constructor
      · intro h; cases h
      · rintro ⟨rfl, wellFormed⟩; exact absurd wellFormed ‹_›

end Address

end Suffrage
