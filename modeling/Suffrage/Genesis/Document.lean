/-
# Suffrage.Genesis.Document -- the genesis configuration as a TOML document

`Genesis.ofToml?` reads a configuration: every part may be left out, numbers may be
written as text or as TOML numbers, and what is not known is skipped.  `Genesis.toToml`
writes every part: the weight first, then a table for each founder, then the rules.
Decimals are written as text, so that their scale is kept.
-/
import Suffrage.Dialect
import Suffrage.Text.Bytes
import Suffrage.Toml.Document
import Suffrage.Toml.Written

namespace Suffrage

set_option autoImplicit false

/-! ## Reading -/

def Decimal.ofToml? : Toml → Option Decimal
  | .text value => Decimal.read? value
  | .integer value => Decimal.ofUnits? value 0
  | .float negative magnitude => Decimal.ofBinary64? negative magnitude
  | _ => none

namespace Toml

def text? : Toml → Option String
  | .text value => some value
  | _ => none

def flag? : Toml → Option Bool
  | .flag value => some value
  | _ => none

def items? : Toml → Option (List Toml)
  | .array _ items => some items
  | _ => none

/-- A look-up in a table or an array.  A moment counts as a table without the names that
are asked for. -/
def record? (names : List String) : Toml → Option (String → Option Toml)
  | .table _ members => some fun name => members.lookup name
  | .array _ items => some (Dialect.positional names items)
  | .moment => some fun _ => none
  | _ => none

end Toml

/-- How TOML shows the parts of records. -/
def Dialect.toml : Dialect Toml where
  text? := Toml.text?
  flag? := Toml.flag?
  decimal? := Decimal.ofToml?
  items? := Toml.items?
  isNull := fun _ => false
  record? := Toml.record?

def Genesis.ofToml? (document : String) : Option Genesis :=
  (Toml.parse? document).bind Dialect.toml.genesis?

/-- Reads a document in UTF-8. -/
def Genesis.ofFile? (content : Text.Bytes) : Option Genesis :=
  (String.fromUTF8? ⟨content.toArray⟩).bind Genesis.ofToml?

/-! ## Writing -/

namespace Toml

def assignment (name value : String) : String := name ++ " = " ++ value ++ "\n"

def textLine (name value : String) : String := assignment name (write value)

def decimalLine (name : String) (value : Decimal) : String := textLine name value.render

def flagLine (name : String) (value : Bool) : String :=
  assignment name (if value then "true" else "false")

end Toml

open Toml (assignment textLine decimalLine flagLine)

/-- A table of the founders called `name`. -/
def Founder.toToml (name : String) (f : Founder) : String :=
  "\n[[" ++ name ++ "]]\n" ++ textLine "address" f.address
    ++ (match f.nickname with
        | some nickname => textLine "nickname" nickname
        | none => "")

/-- The line that stands for a list of founders without any. -/
def noFounders (name : String) (founders : List Founder) : String :=
  if founders.isEmpty then assignment name "[]" else ""

def Rules.toToml (r : Rules) : String :=
  "\n[tally]\n"
    ++ decimalLine "quorum" r.quorum
    ++ decimalLine "threshold" r.threshold
    ++ decimalLine "veto_threshold" r.vetoThreshold
    ++ flagLine "burn_vote_quorum" r.burnOnQuorum
    ++ flagLine "burn_vote_veto" r.burnOnVeto

def Genesis.toToml (g : Genesis) : String :=
  decimalLine "total_voting_weight" g.weight
    ++ noFounders "guardians" g.guardians
    ++ noFounders "members" g.members
    ++ String.join (g.guardians.map (Founder.toToml "guardians"))
    ++ String.join (g.members.map (Founder.toToml "members"))
    ++ g.rules.toToml

end Suffrage
