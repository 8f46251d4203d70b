/-
# Suffrage.Toml.Build -- tables from headers and keys

A document is a list of statements: headers that open a table or append one to an array of
tables, and assignments into the table opened last.  Each statement is carried out on the
members of the whole document, at the end of a path of names (`underHeader`).  A name is
given once, and a table is opened once.
-/
import Suffrage.Toml.Value

namespace Suffrage.Toml

set_option autoImplicit false

inductive Statement where
  | openTable (path : List String) (name : String)
  | openItem (path : List String) (name : String)
  | assign (path : List String) (name : String) (value : Toml)
  deriving Repr

/-- Changes the members at the end of a header's path.  A missing step becomes an implied
table, a step through an array of tables goes to its last one. -/
def underHeader (change : Members → Option Members) : List String → Members → Option Members
  | [], members => change members
  | name :: path, members =>
      match members.lookup name with
      | none =>
          (underHeader change path []).map fun inner =>
            members ++ [(name, .table .implied inner)]
      | some (.table .inline _) => none
      | some (.table origin inner) =>
          (underHeader change path inner).map fun inner =>
            replace name (.table origin inner) members
      | some (.array true items) =>
          match items.getLast? with
          | some (.table origin inner) =>
              (underHeader change path inner).map fun inner =>
                replace name (.array true (items.dropLast ++ [.table origin inner])) members
          | _ => none
      | some _ => none

/-- Opens a new table, or one that was only implied. -/
def openTable (name : String) (members : Members) : Option Members :=
  match members.lookup name with
  | none => some (members ++ [(name, .table .header [])])
  | some (.table .implied inner) => some (replace name (.table .header inner) members)
  | some _ => none

/-- Appends a new table to an array of tables. -/
def openItem (name : String) (members : Members) : Option Members :=
  match members.lookup name with
  | none => some (members ++ [(name, .array true [.table .header []])])
  | some (.array true items) =>
      some (replace name (.array true (items ++ [.table .header []])) members)
  | some _ => none

/-- Assigns under a dotted key.  `allowed` says whether the table reached so far takes an
assignment: one that was reached by a step must itself come from a dotted key. -/
def assign (name : String) (value : Toml) :
    (allowed : Bool) → List String → Members → Option Members
  | allowed, [], members =>
      if allowed && (members.lookup name).isNone then some (members ++ [(name, value)]) else none
  | _, step :: path, members =>
      match members.lookup step with
      | none =>
          (assign name value true path []).map fun inner =>
            members ++ [(step, .table .dotted inner)]
      | some (.table .dotted inner) =>
          (assign name value true path inner).map fun inner =>
            replace step (.table .dotted inner) members
      | some (.table .implied inner) =>
          (assign name value false path inner).map fun inner =>
            replace step (.table .implied inner) members
      | some (.array true items) =>
          match items.getLast? with
          | some (.table origin inner) =>
              (assign name value false path inner).map fun inner =>
                replace step (.array true (items.dropLast ++ [.table origin inner])) members
          | _ => none
      | some _ => none

/-- An inline table from its assignments. -/
def inlineTable? (members : Members) : List (List String × String × Toml) → Option Toml
  | [] => some (.table .inline members)
  | (path, name, value) :: rest =>
      (assign name value true path members).bind fun members => inlineTable? members rest

/-- Carries out statements; `current` is the path of the table opened last. -/
def buildFrom (current : List String) (members : Members) : List Statement → Option Members
  | [] => some members
  | .openTable path name :: rest =>
      (underHeader (openTable name) path members).bind fun members =>
        buildFrom (path ++ [name]) members rest
  | .openItem path name :: rest =>
      (underHeader (openItem name) path members).bind fun members =>
        buildFrom (path ++ [name]) members rest
  | .assign path name value :: rest =>
      (underHeader (assign name value true path) current members).bind fun members =>
        buildFrom current members rest

/-- The document that the statements make. -/
def build? (statements : List Statement) : Option Toml :=
  (buildFrom [] [] statements).map (.table .header)

end Suffrage.Toml
