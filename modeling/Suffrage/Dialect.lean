/-
# Suffrage.Dialect -- reading records from documents

A record is written in one of several document formats, and each format shows texts,
decimals, lists and records in its own way.  A `Dialect` says how; the readers of the
genesis configuration are written once over it.

A member that has a default may be absent, but not null.  Only an optional member may be
null.  Members that the record does not have are skipped.
-/
import Suffrage.Genesis

namespace Suffrage

set_option autoImplicit false

/-- How a format with values `V` shows the parts of a record. -/
structure Dialect (V : Type) where
  text? : V → Option String
  flag? : V → Option Bool
  decimal? : V → Option Decimal
  items? : V → Option (List V)
  isNull : V → Bool
  /-- The look-up of members in a record that has members of these names, in this order. -/
  record? : (names : List String) → V → Option (String → Option V)

namespace Dialect

variable {V α : Type}

/-- The look-up in a record whose members are written without names, in order. -/
def positional (names : List String) (items : List V) (name : String) : Option V :=
  (names.idxOf? name).bind (items[·]?)

/-! ## Members -/

/-- A member that must be there. -/
def required (read : V → Option α) (member : Option V) : Option α := member.bind read

/-- A member that has a default. -/
def orElse (read : V → Option α) (default : α) : Option V → Option α
  | none => some default
  | some v => read v

/-- A member that may be absent or null. -/
def optional (d : Dialect V) (read : V → Option α) : Option V → Option (Option α)
  | none => some none
  | some v => if d.isNull v then some none else (read v).map some

def list? (d : Dialect V) (read : V → Option α) (v : V) : Option (List α) :=
  (d.items? v).bind (·.mapM read)

/-! ## The genesis configuration -/

def rulesMembers : List String :=
  ["quorum", "threshold", "veto_threshold", "burn_vote_quorum", "burn_vote_veto"]

def rules? (d : Dialect V) (v : V) : Option Rules := do
  let member ← d.record? rulesMembers v
  let quorum ← orElse d.decimal? Rules.defaultQuorum (member "quorum")
  let threshold ← orElse d.decimal? Rules.defaultThreshold (member "threshold")
  let vetoThreshold ← orElse d.decimal? Rules.defaultVetoThreshold (member "veto_threshold")
  let burnOnQuorum ← orElse d.flag? false (member "burn_vote_quorum")
  let burnOnVeto ← orElse d.flag? false (member "burn_vote_veto")
  return { quorum, threshold, vetoThreshold, burnOnQuorum, burnOnVeto }

def founderMembers : List String := ["address", "nickname"]

def founder? (d : Dialect V) (v : V) : Option Founder := do
  let member ← d.record? founderMembers v
  let address ← required d.text? (member "address")
  let nickname ← d.optional d.text? (member "nickname")
  return { address, nickname }

def genesisMembers : List String := ["total_voting_weight", "guardians", "members", "tally"]

def genesis? (d : Dialect V) (v : V) : Option Genesis := do
  let member ← d.record? genesisMembers v
  let weight ← orElse d.decimal? Genesis.defaultWeight (member "total_voting_weight")
  let guardians ← orElse (d.list? d.founder?) [] (member "guardians")
  let members ← orElse (d.list? d.founder?) [] (member "members")
  let rules ← orElse d.rules? Rules.default (member "tally")
  return { weight, guardians, members, rules }

end Dialect

end Suffrage
