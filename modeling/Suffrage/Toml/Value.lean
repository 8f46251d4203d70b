/-
# Suffrage.Toml.Value -- TOML values

What a document holds.  Integers keep their value, floating-point numbers the binary64
number that they stand for; of a date or time only its presence is kept.  A table
remembers how it came about, because that decides whether it may be opened again:

* an `inline` table is closed with its brace;
* a `header` table has had its header;
* an `implied` table lies on the way to a header's table and may get a header of its own;
* a `dotted` table comes from a dotted key and grows by further dotted keys.

An array grows by headers or is closed with its bracket.
-/
import Suffrage.Decimal.Binary64

namespace Suffrage

set_option autoImplicit false

namespace Toml

/-- How a table came about. -/
inductive Origin where
  | inline
  | header
  | implied
  | dotted
  deriving DecidableEq, Repr

end Toml

inductive Toml where
  | text (value : String)
  | integer (value : Int)
  | float (negative : Bool) (magnitude : Binary64)
  /-- An infinity, or not a number. -/
  | nonFinite
  | flag (value : Bool)
  /-- A date, a time, or both. -/
  | moment
  | array (byHeaders : Bool) (items : List Toml)
  | table (origin : Toml.Origin) (members : List (String × Toml))
  deriving Repr, Inhabited

namespace Toml

abbrev Members := List (String × Toml)

/-- The members with another value for one name that is there. -/
def replace (name : String) (value : Toml) (members : Members) : Members :=
  members.map fun member => if member.1 = name then (name, value) else member

end Toml

end Suffrage
