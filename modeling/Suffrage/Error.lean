/-
# Suffrage.Error -- why an operation is refused

Three layers of causes.  `ValueError` is a value that cannot be built or computed,
`StorageError` a failure reported by the store, `Refusal` the answer of an operation on
the electorate.  A value error turns into a refusal by `Refusal.ofValue`, which keeps
the text and changes the class.  Each layer has one function `message` that holds all
of its wording.

`Refusal.isFatal` marks the refusals after which the host must not go on, because
state that the library relies on is already broken.  A `Defect` is worse: the caller broke
a promise, and the call stops without an answer.
-/
import Suffrage.Standing

namespace Suffrage

set_option autoImplicit false

/-- A value that is malformed, out of range, or beyond the arithmetic. -/
inductive ValueError where
  | address (text : String)
  | arithmetic (detail : String)
  | decimal (detail : String)
  | rules (detail : String)
  deriving DecidableEq, Repr

def ValueError.message : ValueError → String
  | .address text => s!"invalid member address: {text}"
  | .arithmetic detail => s!"decimal arithmetic overflow: {detail}"
  | .decimal detail => s!"invalid decimal: {detail}"
  | .rules detail => s!"invalid tally parameters: {detail}"

/-- A failure that the store reports. -/
inductive StorageError where
  | notFound (detail : String)
  | duplicate (detail : String)
  | backend (detail : String)
  | serialization (detail : String)
  | corruption (detail : String)
  deriving DecidableEq, Repr

def StorageError.message : StorageError → String
  | .notFound detail => s!"key not found: {detail}"
  | .duplicate detail => s!"duplicate key: {detail}"
  | .backend detail => s!"storage backend error: {detail}"
  | .serialization detail => s!"serialization error: {detail}"
  | .corruption detail => s!"database is corrupted: {detail}"

/-- Why an operation on the electorate is refused. -/
inductive Refusal where
  | invalidAddress (detail : String)
  | unauthorized (detail : String)
  | unknownMember (detail : String)
  | alreadyEnrolled (address : String)
  | forbiddenTransition (previous next : Standing)
  | invalidRequest (detail : String)
  | malformedVote (detail : String)
  | brokenInvariant (detail : String)
  | configuration (detail : String)
  | storage (cause : StorageError)
  deriving DecidableEq, Repr

namespace Refusal

def message : Refusal → String
  | .invalidAddress detail => s!"invalid address: {detail}"
  | .unauthorized detail => s!"unauthorized: {detail}"
  | .unknownMember detail => s!"member not found: {detail}"
  | .alreadyEnrolled address => s!"account {address} has already been enrolled"
  | .forbiddenTransition previous next =>
      "membership status transition " ++ previous.label ++ " -> " ++ next.label ++ " is not allowed"
  | .invalidRequest detail => s!"invalid request: {detail}"
  | .malformedVote detail => s!"malformed vote: {detail}"
  | .brokenInvariant detail => s!"configuration invariant violated: {detail}"
  | .configuration detail => s!"configuration error: {detail}"
  | .storage cause => "storage error: " ++ cause.message

/-- The state that the library relies on is already broken. -/
def isFatal : Refusal → Bool
  | .brokenInvariant _ => true
  | .storage (.corruption _) => true
  | _ => false

def isStorage : Refusal → Bool
  | .storage _ => true
  | _ => false

/-- A value error as an answer: the detail is kept, arithmetic counts as broken state. -/
def ofValue : ValueError → Refusal
  | .address text => .invalidAddress text
  | .arithmetic detail => .brokenInvariant detail
  | .decimal detail => .invalidRequest detail
  | .rules detail => .invalidRequest detail

end Refusal

/-- A broken promise of the caller. -/
structure Defect where
  message : String
  deriving DecidableEq, Repr

/-- How a call ends without a result. -/
inductive Failure where
  | refused (reason : Refusal)
  | defect (cause : Defect)
  deriving DecidableEq, Repr

/-- A value error as the failure of an operation. -/
def Failure.ofValue (e : ValueError) : Failure := .refused (.ofValue e)

/-- A failure of the store as the failure of an operation. -/
def Failure.ofStorage (e : StorageError) : Failure := .refused (.storage e)

end Suffrage
