/-
# Suffrage.Motion -- proposals about the electorate itself

A motion asks for one of three changes: more guardians, fewer guardians, or another
weight for them.  `Motion.validate` is what can be checked without state, when the motion
is submitted; `Suffrage.Motion.Enact` carries an approved motion out.
-/
import Suffrage.Decimal.Text

namespace Suffrage

set_option autoImplicit false

/-- What a motion asks for.  Addresses stand as they were written. -/
inductive Demand where
  | addGuardians (addresses : List String)
  | removeGuardians (addresses : List String)
  | setWeight (weight : Decimal)
  deriving DecidableEq, Repr

structure Motion where
  title : String
  description : String
  creator : String
  demand : Demand
  deriving DecidableEq, Repr

/-- The name used in records. -/
def Demand.tag : Demand → String
  | .addGuardians _ => "AddGuardians"
  | .removeGuardians _ => "RemoveGuardians"
  | .setWeight _ => "UpdateTotalVotingWeight"

namespace Motion

/-- Checks that need no state: a creator, and a demand that is not empty or out of range. -/
def validate (m : Motion) : Except Refusal Unit :=
  if m.creator.isEmpty then .error (.invalidAddress "creator address cannot be empty")
  else
    match m.demand with
    | .addGuardians addresses =>
        if addresses.isEmpty then .error (.invalidRequest "no guardians to add") else .ok ()
    | .removeGuardians addresses =>
        if addresses.isEmpty then .error (.invalidRequest "no guardians to remove") else .ok ()
    | .setWeight weight =>
        if weight.isPositiveFraction then .ok ()
        else .error (.invalidRequest
          ("total voting weight must be within (0, 1], got " ++ weight.render))

/-- One line of a description: a label padded to a common width, and a text. -/
def line (width : Nat) (label text : String) : String :=
  "  " ++ label ++ String.ofList (List.replicate (width - label.length) ' ') ++ text ++ "\n"

def describeLines (heading : String) (width : Nat) (m : Motion) (label text : String) : String :=
  heading ++ " Proposal:\n"
    ++ line width "Title:" m.title
    ++ line width "Description:" m.description
    ++ line width label text

/-- The motion in words, one item a line, the texts in one column. -/
def describe (m : Motion) : String :=
  match m.demand with
  | .addGuardians addresses =>
      describeLines "Add Guardians" 20 m "Guardians to Add:" (", ".intercalate addresses)
  | .removeGuardians addresses =>
      describeLines "Remove Guardians" 21 m "Guardians to Remove:" (", ".intercalate addresses)
  | .setWeight weight =>
      describeLines "Update Total Voting Weight" 25 m "New Total Voting Weight:" weight.render

end Motion

end Suffrage
