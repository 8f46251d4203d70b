/-
# Suffrage.Logging -- choosing what is logged, and how

Log lines are written for people or as JSON, and a filter says which are written.  Only
the first call installs a logger; a later one is checked like the first and changes
nothing.
-/
import Suffrage.Logging.Filter

namespace Suffrage

set_option autoImplicit false

inductive LogFormat where
  | human
  | json
  deriving DecidableEq, Repr

inductive LoggingError where
  | unknownFormat (name : String)
  | malformedFilter
  deriving DecidableEq, Repr

def LoggingError.message : LoggingError → String
  | .unknownFormat name =>
      "unknown log format: " ++ name ++ " (expected \"human\" or \"json\")"
  | .malformedFilter => "invalid log filter"

def LogFormat.ofName (name : String) : Except LoggingError LogFormat :=
  if name = "human" then .ok .human
  else if name = "json" then .ok .json
  else .error (.unknownFormat name)

namespace Logging

/-- Checks the format and then the filter.  Says whether this call installs the logger:
it does unless one is `installed` already. -/
def install (installed : Bool) (format filter : String) : Except LoggingError Bool := do
  let _ ← LogFormat.ofName format
  if !Filter.isWellFormed filter then throw .malformedFilter
  return !installed

end Logging

end Suffrage
