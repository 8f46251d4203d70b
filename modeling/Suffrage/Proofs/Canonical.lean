/-
# Suffrage.Proofs.Canonical -- records with plain zeros

Documents hold decimals in their written form, and a written zero reads back without its minus
sign.  What a document gives back of a record is its canonical form: the record with
`Decimal.canonical` of each of its decimals and all else as it was.  It is the record itself exactly
if none of its decimals is a zero with a sign (`Event.canonical_eq_self_iff` and its siblings).
-/
import Suffrage.Ballot
import Suffrage.Event
import Suffrage.Genesis
import Suffrage.Motion
import Suffrage.Settings

namespace Suffrage

set_option autoImplicit false

namespace Decimal

/-- A zero that carries a minus sign. -/
def IsSignedZero (d : Decimal) : Prop := d.negative = true ∧ d.magnitude = 0

theorem canonical_eq_self_iff {d : Decimal} : d.canonical = d ↔ ¬d.IsSignedZero := by
  obtain ⟨negative, magnitude, scale, _, _⟩ := d
  cases negative <;> simp [canonical, IsSignedZero]

theorem same_canonical (d : Decimal) : d.canonical.same d = true := by
  rw [same, unitsBeside, unitsBeside, units_canonical, beq_iff_eq]
  rfl

end Decimal

/-! ## Canonical forms -/

def Rules.canonical (r : Rules) : Rules :=
  { r with
    quorum := r.quorum.canonical
    threshold := r.threshold.canonical
    vetoThreshold := r.vetoThreshold.canonical }

/-- The same configuration, its zeros without a sign. -/
def Genesis.canonical (g : Genesis) : Genesis :=
  { g with weight := g.weight.canonical, rules := g.rules.canonical }

theorem Genesis.same_canonical (g : Genesis) : g.canonical.same g = true := by
  simp [same, canonical, Rules.same, Rules.canonical, Decimal.same_canonical]

def Demand.canonical : Demand → Demand
  | .setWeight weight => .setWeight weight.canonical
  | demand => demand

def Motion.canonical (m : Motion) : Motion := { m with demand := m.demand.canonical }

def Event.canonical : Event → Event
  | .weightChanged previous new => .weightChanged previous.canonical new.canonical
  | event => event

def WeightedChoice.canonical (w : WeightedChoice) : WeightedChoice :=
  { w with weight := w.weight.canonical }

theorem Ballot.canonical_eq (b : Ballot) :
    b.canonical = { b with options := b.options.map WeightedChoice.canonical } := rfl

/-! ## The decimals of a record -/

def Rules.decimals (r : Rules) : List Decimal := [r.quorum, r.threshold, r.vetoThreshold]

def Genesis.decimals (g : Genesis) : List Decimal := g.weight :: g.rules.decimals

def Settings.decimals (s : Settings) : List Decimal := [s.weight]

def Demand.decimals : Demand → List Decimal
  | .setWeight weight => [weight]
  | _ => []

def Motion.decimals (m : Motion) : List Decimal := m.demand.decimals

def Event.decimals : Event → List Decimal
  | .weightChanged previous new => [previous, new]
  | _ => []

def Ballot.decimals (b : Ballot) : List Decimal := b.options.map WeightedChoice.weight

theorem Rules.canonical_eq_self_iff {r : Rules} :
    r.canonical = r ↔ ∀ d ∈ r.decimals, ¬d.IsSignedZero := by
  obtain ⟨_, _, _, _, _⟩ := r
  simp [canonical, decimals, Decimal.canonical_eq_self_iff]

theorem Genesis.canonical_eq_self_iff {g : Genesis} :
    g.canonical = g ↔ ∀ d ∈ g.decimals, ¬d.IsSignedZero := by
  obtain ⟨_, _, _, _⟩ := g
  simp [canonical, decimals, Decimal.canonical_eq_self_iff, Rules.canonical_eq_self_iff]

theorem Settings.canonical_eq_self_iff {s : Settings} :
    s.canonical = s ↔ ∀ d ∈ s.decimals, ¬d.IsSignedZero := by
  obtain ⟨_, _⟩ := s
  simp [canonical, decimals, Decimal.canonical_eq_self_iff]

theorem Motion.canonical_eq_self_iff {m : Motion} :
    m.canonical = m ↔ ∀ d ∈ m.decimals, ¬d.IsSignedZero := by
  obtain ⟨_, _, _, demand⟩ := m
  cases demand <;>
    simp [canonical, decimals, Demand.canonical, Demand.decimals, Decimal.canonical_eq_self_iff]

theorem Event.canonical_eq_self_iff {e : Event} :
    e.canonical = e ↔ ∀ d ∈ e.decimals, ¬d.IsSignedZero := by
  cases e <;> simp [canonical, decimals, Decimal.canonical_eq_self_iff]

theorem Ballot.canonical_eq_self_iff {b : Ballot} :
    b.canonical = b ↔ ∀ d ∈ b.decimals, ¬d.IsSignedZero := by
  obtain ⟨proposal, voter, options⟩ := b
  have entry {w : WeightedChoice} : w.canonical = w ↔ ¬w.weight.IsSignedZero := by
    obtain ⟨_, _⟩ := w
    simp [WeightedChoice.canonical, Decimal.canonical_eq_self_iff]
  have same : options.map WeightedChoice.canonical = options ↔
      ∀ w ∈ options, w.canonical = w := by
    rw [← List.map_inj_left, List.map_id']
  simp [canonical_eq, decimals, same, entry]

end Suffrage
