/-
# Suffrage.Store.Basic -- the ordered store

The store is a list of entries in strictly ascending order of their keys' bytes; the
order stands in the type.  An entry determines its key, so what is found under a key is
always of the kind that the key names.  `Store.insert` puts an entry in the place of the
one with its key, `Store.erase` takes out what a key leads to.

`Store.scan` visits the entries whose keys start with given bytes, in order.
-/
import Suffrage.Ballot
import Suffrage.Member
import Suffrage.Settings
import Suffrage.Store.Key

namespace Suffrage

set_option autoImplicit false

inductive Entry where
  | member (record : Member)
  | nickname (address : Address) (text : String)
  | memberCount (count : UInt64)
  | standingCount (standing : Standing) (count : UInt64)
  | settings (record : Settings)
  | marker (proposal : ProposalId) (voter : Address)
  | ballot (record : Ballot)
  deriving DecidableEq, Repr

def Entry.key : Entry → Key
  | .member record => .member record.address
  | .nickname address _ => .nickname address
  | .memberCount _ => .memberCount
  | .standingCount standing _ => .standingCount standing
  | .settings _ => .settings
  | .marker proposal voter => .marker proposal voter
  | .ballot record => .ballot record.proposal record.voter

/-- Strictly before, in the order of the key bytes. -/
def Entry.Before (a b : Entry) : Prop := a.key.bytes < b.key.bytes

structure Store where
  entries : List Entry
  ordered : entries.Pairwise Entry.Before
  deriving DecidableEq, Repr

namespace Store

open Text (Bytes)

instance : Inhabited Store := ⟨[], .nil⟩

def empty : Store := default

def size (s : Store) : Nat := s.entries.length

def find? (s : Store) (k : Key) : Option Entry :=
  s.entries.find? (·.key.bytes == k.bytes)

/-! ## Writing -/

def insertInto (e : Entry) : List Entry → List Entry
  | [] => [e]
  | x :: rest =>
      if e.key.bytes < x.key.bytes then e :: x :: rest
      else if x.key.bytes < e.key.bytes then x :: insertInto e rest
      else e :: rest

theorem mem_insertInto {e y : Entry} {entries : List Entry} (member : y ∈ insertInto e entries) :
    y = e ∨ y ∈ entries := by
  induction entries with
  | nil => simpa [insertInto] using member
  | cons x rest ih =>
      simp only [insertInto] at member
      split at member
      · simpa using member
      · split at member
        · rcases List.mem_cons.1 member with rfl | inRest
          · simp
          · rcases ih inRest with h | h
            · exact Or.inl h
            · exact Or.inr (List.mem_cons_of_mem _ h)
        · rcases List.mem_cons.1 member with rfl | inRest
          · simp
          · exact Or.inr (List.mem_cons_of_mem _ inRest)

theorem before_trans {a b c : Entry} (first : a.Before b) (second : b.Before c) : a.Before c :=
  List.lt_trans first second

/-- Two keys of which neither comes first have the same bytes. -/
theorem bytes_eq_of_not_lt {a b : Bytes} (notBelow : ¬ a < b) (notAbove : ¬ b < a) : a = b :=
  Std.le_antisymm (Std.not_lt.mp notAbove) (Std.not_lt.mp notBelow)

theorem ordered_insertInto (e : Entry) {entries : List Entry}
    (ordered : entries.Pairwise Entry.Before) : (insertInto e entries).Pairwise Entry.Before := by
  induction entries with
  | nil => simp [insertInto]
  | cons x rest ih =>
      obtain ⟨first, tail⟩ := List.pairwise_cons.1 ordered
      simp only [insertInto]
      split
      · rename_i below
        refine List.pairwise_cons.2 ⟨?_, ordered⟩
        intro y member
        rcases List.mem_cons.1 member with rfl | inRest
        · exact below
        · exact before_trans below (first y inRest)
      · split
        · rename_i above
          refine List.pairwise_cons.2 ⟨?_, ih tail⟩
          intro y member
          rcases mem_insertInto member with rfl | inRest
          · exact above
          · exact first y inRest
        · rename_i notBelow notAbove
          have same := bytes_eq_of_not_lt notBelow notAbove
          refine List.pairwise_cons.2 ⟨?_, tail⟩
          intro y inRest
          have := first y inRest
          unfold Entry.Before at this ⊢
          rwa [same]

/-- Puts an entry under its key, in the place of what was there. -/
def insert (s : Store) (e : Entry) : Store :=
  { entries := insertInto e s.entries, ordered := ordered_insertInto e s.ordered }

/-- Takes out what the key leads to. -/
def erase (s : Store) (k : Key) : Store :=
  { entries := s.entries.filter (·.key.bytes != k.bytes), ordered := s.ordered.filter _ }

/-! ## Scanning -/

/-- The entries whose keys start with `lead`, in order. -/
def scan (s : Store) (lead : Bytes) : List Entry := Text.scan (·.key.bytes) lead s.entries

end Store

end Suffrage
