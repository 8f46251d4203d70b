/-
# Suffrage.Choice -- what a ballot can say

Four choices are counted, in the order of `Choice.recognized`; `unspecified` stands for
none and is never counted.  A `Choice.Table` holds at most one value for each of the
five and lists them in the order of the choices.
-/

namespace Suffrage

set_option autoImplicit false

inductive Choice where
  | unspecified
  | yes
  | abstain
  | no
  | noWithVeto
  deriving DecidableEq, Repr, Inhabited

namespace Choice

def all : List Choice := [.unspecified, .yes, .abstain, .no, .noWithVeto]

/-- The choices that are counted, in reporting order. -/
def recognized : List Choice := [.yes, .abstain, .no, .noWithVeto]

def isRecognized (c : Choice) : Bool := recognized.contains c

/-- The place in reporting order. -/
def rank? (c : Choice) : Option Nat := recognized.idxOf? c

/-- The name shown in messages and reports. -/
def label : Choice → String
  | .unspecified => "unspecified"
  | .yes => "yes"
  | .abstain => "abstain"
  | .no => "no"
  | .noWithVeto => "no_with_veto"

/-- The name used in records. -/
def tag : Choice → String
  | .unspecified => "Unspecified"
  | .yes => "Yes"
  | .abstain => "Abstain"
  | .no => "No"
  | .noWithVeto => "NoWithVeto"

def ofTag? (name : String) : Option Choice := all.find? (·.tag == name)

theorem ofTag?_tag (c : Choice) : ofTag? c.tag = some c := by cases c <;> decide

/-- At most one value for each choice. -/
structure Table (α : Type) where
  unspecified : Option α := none
  yes : Option α := none
  abstain : Option α := none
  no : Option α := none
  noWithVeto : Option α := none
  deriving DecidableEq, Repr

namespace Table

variable {α : Type}

def empty : Table α := {}

def get? (t : Table α) : Choice → Option α
  | .unspecified => t.unspecified
  | .yes => t.yes
  | .abstain => t.abstain
  | .no => t.no
  | .noWithVeto => t.noWithVeto

def insert (t : Table α) (c : Choice) (value : α) : Table α :=
  match c with
  | .unspecified => { t with unspecified := some value }
  | .yes => { t with yes := some value }
  | .abstain => { t with abstain := some value }
  | .no => { t with no := some value }
  | .noWithVeto => { t with noWithVeto := some value }

/-- A later entry replaces an earlier one. -/
def insertAll (t : Table α) (entries : List (Choice × α)) : Table α :=
  entries.foldl (fun t entry => t.insert entry.1 entry.2) t

/-- The entries in the order of the choices. -/
def toList (t : Table α) : List (Choice × α) :=
  all.filterMap fun c => (t.get? c).map fun value => (c, value)

def values (t : Table α) : List α := t.toList.map (·.2)

theorem get?_insert (t : Table α) (c d : Choice) (value : α) :
    (t.insert c value).get? d = if d = c then some value else t.get? d := by
  cases c <;> cases d <;> rfl

end Table

end Choice

end Suffrage
