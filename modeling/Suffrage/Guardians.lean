/-
# Suffrage.Guardians -- the guardians and their weight

Guardians are electorate members whose records carry the guardian flag.  The settings
list them in the order in which they were added; a listed address counts only as long as
its record confirms it (`confirmed`).  `attach` and `detach` change the flags and the list
together, `reconcile` drops from the list what the records do not confirm.
-/
import Suffrage.Roll

namespace Suffrage.Guardians

set_option autoImplicit false

/-- The settings, which must have been written. -/
def settings : Action Host Settings := do
  match ← Host.readSettings with
  | some record => pure record
  | none => Action.refuse (.brokenInvariant "democracy settings have not been initialized")

def isInitialized : Action Host Bool := do
  return (← Host.readSettings).isSome

/-- A weight lies above 0 and is at most 1. -/
def checkWeight (weight : Decimal) : Except Refusal Unit :=
  if weight.isPositiveFraction then .ok ()
  else .error (.invalidRequest
    ("total voting weight must be within (0, 1], got " ++ weight.render))

/-- Writes the first settings: this weight and no guardian. -/
def setUp (weight : Decimal) : Action Host Unit := do
  Action.lift ((checkWeight weight).mapError .refused)
  Host.writeSettings (.fresh weight)

/-- Whether the record of an address says that it is a guardian. -/
def isGuardian (address : Address) : Action Host Bool := do
  return (← Roll.find? address).any fun m => m.isGuardian && m.standing == .electorate

/-- Those of the addresses that are guardians, in order. -/
def confirmedAmong : List Address → Action Host (List Address)
  | [] => pure []
  | address :: rest => do
      let holds ← isGuardian address
      let others ← confirmedAmong rest
      return if holds then address :: others else others

/-- The listed guardians that their records confirm. -/
def confirmed : Action Host (List Address) := do
  confirmedAmong (← settings).guardians

def weight : Action Host Decimal := do
  return (← settings).weight

/-- Replaces the weight and returns the previous one. -/
def setWeight (weight : Decimal) : Action Host Decimal := do
  Action.lift ((checkWeight weight).mapError .refused)
  let record ← settings
  Host.writeSettings { record with weight }
  return record.weight

/-- Writes the same flag on each record. -/
def flagAll (flag : Bool) : List Address → Action Host Unit
  | [] => pure ()
  | address :: rest => do
      Roll.setGuardianFlag address flag
      flagAll flag rest

/-- Makes guardians of the addresses.  The caller has checked that they may be. -/
def attach (addresses : List Address) : Action Host Unit := do
  let record ← settings
  flagAll true addresses
  Host.writeSettings (record.add addresses)

/-- Makes ordinary members of the addresses. -/
def detach (addresses : List Address) : Action Host Unit := do
  let record ← settings
  flagAll false addresses
  Host.writeSettings (record.remove addresses)

/-- Drops from the list what the records do not confirm, and returns it. -/
def reconcile : Action Host (List Address) := do
  let record ← settings
  let kept ← confirmed
  let dropped := record.guardians.filter (!kept.contains ·)
  if !dropped.isEmpty then
    Host.writeSettings { record with guardians := kept }
  return dropped

end Suffrage.Guardians
