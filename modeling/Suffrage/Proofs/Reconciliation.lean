/-
# Suffrage.Proofs.Reconciliation -- trimming the guardian list

A listed address counts as a guardian only if its record says so.  `Guardians.reconcile` writes
down what every reader of the list works out anyway: the entries that the records do not confirm are
dropped, and the others keep their order (`Store.reconciled`).

No store is excluded here.  The list may name addresses without a record, without a flag or outside
the electorate, and may name one twice; a second entry of a confirmed address stays.

Nobody who asks for the guardians can tell the difference (`Store.isGuardian_reconciled`,
`Guardians.runOn_confirmed`), and a tally reads the list through the records, so it comes to the
same result (`Tally.decided_reconciled`).  The weight is written as it was read.  A stored weight
has no sign on a zero, and if it had one the sign would be dropped, which no tally notices
(`Power.allocate_canonical`).
-/
import Suffrage.Proofs.Coherence
import Suffrage.Proofs.Marking
import Suffrage.Proofs.Truncation

namespace Suffrage

set_option autoImplicit false

/-! ## The sign of a zero -/

namespace Decimal

theorem isFraction_canonical (d : Decimal) : d.canonical.isFraction = d.isFraction := by
  unfold isFraction
  simp only [le_def, unitsBeside, units_canonical]
  rfl

theorem neg_canonical (d : Decimal) : d.canonical.neg = d.neg := by
  obtain ⟨negative, magnitude, scale, _, _⟩ := d
  cases magnitude <;> simp [neg, canonical]

end Decimal

/-- The sign of a zero makes no difference to the power that a weight gives. -/
theorem Power.allocate_canonical (electorate guardians : Nat) (weight : Decimal) :
    allocate electorate guardians weight.canonical = allocate electorate guardians weight := by
  by_cases zero : weight.magnitude = 0
  · have fraction : weight.isFraction = true := by
      simp [Decimal.isFraction, Decimal.le_def, Decimal.unitsBeside, Decimal.units, zero,
        Decimal.zero, Decimal.one]
    have fixed (d : Decimal) (none_ : d.magnitude = 0) : d.toFixed = .ok 0 := by
      have nothing : d.fixedUnits = 0 := by
        simp [Decimal.fixedUnits, Decimal.truncate, Decimal.units, none_]
        split <;> simp [none_]
      rw [Decimal.toFixed, nothing, if_pos (by decide)]
    unfold allocate
    by_cases someone : guardians = 0
    · simp [Decimal.isFraction_canonical, fraction, someone]
    · simp [Decimal.isFraction_canonical, fraction, someone, Decimal.minus, Decimal.sub?,
        Decimal.neg_canonical, Decimal.quotient, fixed weight zero, fixed weight.canonical zero]
  · rw [Decimal.canonical_of_unsigned fun none_ => absurd none_ zero]

/-! ## The store after a reconciliation -/

namespace Store

variable {s : Store} {record : Settings}

/-- The store with the list that the records confirm; nothing is written if they confirm it all. -/
def reconciled (s : Store) : Store :=
  if (s.listed.filter (!s.isGuardian ·)).isEmpty then s
  else s.putSettings { s.settled with guardians := s.listed.filter s.isGuardian }

theorem find?_reconciled {k : Key} (apart : k ≠ .settings) : s.reconciled.find? k = s.find? k := by
  unfold reconciled
  split
  · rfl
  · exact (find?_insert s _ k).trans (if_neg (Ne.symm apart))

theorem member?_reconciled (s : Store) (a : Address) : s.reconciled.member? a = s.member? a := by
  unfold member?
  rw [find?_reconciled (by simp)]

theorem isGuardian_reconciled (s : Store) : s.reconciled.isGuardian = s.isGuardian := by
  funext a
  exact isGuardian_congr (s.member?_reconciled a)

/-- The list is the confirmed one, and the weight is as it was, but for the sign of a zero. -/
theorem settings?_reconciled (found : s.settings? = some record) :
    ∃ weight, s.reconciled.settings? =
        some { guardians := record.guardians.filter s.isGuardian, weight } ∧
      (weight = record.weight ∨ weight = record.weight.canonical) := by
  have listed : s.listed = record.guardians := listed_of_settings? found
  unfold reconciled
  rw [listed]
  split
  · rename_i confirmed
    refine ⟨record.weight, ?_, .inl rfl⟩
    have all : record.guardians.filter s.isGuardian = record.guardians := by
      refine List.filter_eq_self.2 fun a inside => ?_
      have none_ := List.filter_eq_nil_iff.1 (List.isEmpty_iff.1 confirmed) a inside
      simpa using none_
    rw [found, all]
  · refine ⟨record.weight.canonical, ?_, .inr rfl⟩
    rw [settings?_putSettings, settled_of_settings? found]
    rfl

end Store

theorem Guardians.runOn_reconcile_settled {s : Store} {record : Settings}
    (found : s.settings? = some record) (journal : List Event) :
    reconcile.runOn ⟨s, [], journal⟩ =
      (.ok (record.guardians.filter (!s.isGuardian ·)), ⟨s.reconciled, [], journal⟩) := by
  rw [runOn_reconcile, found]
  simp only [Store.reconciled, Store.listed_of_settings? found, Store.settled_of_settings? found]

/-- A tally reads the list as the records confirm it. -/
theorem Tally.decided_reconciled (s : Store) (rules : Rules) (proposal : ProposalId) :
    decided s.reconciled rules proposal = decided s rules proposal := by
  have count : s.reconciled.standingCount .electorate = s.standingCount .electorate := by
    unfold Store.standingCount
    rw [Store.find?_reconciled (by simp)]
  have power : split s.reconciled = split s := by
    cases found : s.settings? with
    | none =>
        have still : s.reconciled = s := by
          rw [Store.reconciled, Store.Coherent.listed_of_unset found]
          rfl
        rw [still]
    | some record =>
        obtain ⟨weight, now, same⟩ := Store.settings?_reconciled found
        have twice : (record.guardians.filter s.isGuardian).filter s.isGuardian =
            record.guardians.filter s.isGuardian := by
          simp [List.filter_filter]
        unfold split
        rw [now, found, count, s.isGuardian_reconciled]
        simp only [twice]
        rcases same with rfl | rfl
        · rfl
        · exact Power.allocate_canonical ..
  have ballots : s.reconciled.ballots proposal = s.ballots proposal :=
    Store.ballots_congr fun voter => Store.find?_reconciled (by simp)
  unfold decided
  rw [power, ballots]
  simp only [Collection.collected_of_records s.member?_reconciled]

/-! ## What a reconciliation does -/

/-- The guardian list has become `kept`, and that is all that has changed in the store.  The weight
is as it was, as far as a store keeps weights: the sign of a zero is not kept. -/
structure Host.Relisted (before after : Host) (kept : List Address) : Prop where
  settings : ∃ record weight, before.store.settings? = some record ∧
    after.store.settings? = some { guardians := kept, weight } ∧
    weight.canonical = record.weight.canonical ∧
    (record.weight.canonical = record.weight → weight = record.weight)
  /-- Records, counters, nicknames, ballots and markers. -/
  elsewhere : ∀ k : Key, k ≠ .settings → after.store.find? k = before.store.find? k
  outages : after.outages = before.outages
  journal : after.journal = before.journal

/-- Whatever the list and the records are: a reconciliation answers with the listed addresses that
are no guardians, in the order of the list, and leaves the confirmed ones listed.  Nothing else
changes; everyone is a guardian who was one before, and the confirmed guardians, a second
reconciliation and every tally say so. -/
theorem reconciliation_trims (s : Store) (journal : List Event) {record : Settings}
    (found : s.settings? = some record) :
    let h : Host := ⟨s, [], journal⟩
    ∃ kept t,
      Guardians.confirmed.runOn h = (.ok kept, h) ∧
      (∀ a, (Guardians.isGuardian a).runOn h = (.ok (s.isGuardian a), h)) ∧
      Guardians.reconcile.runOn h = (.ok (record.guardians.filter (!s.isGuardian ·)), t) ∧
      h.Relisted t kept ∧
      Guardians.confirmed.runOn t = (.ok kept, t) ∧
      (∀ a, (Guardians.isGuardian a).runOn t = (.ok (s.isGuardian a), t)) ∧
      Guardians.reconcile.runOn t = (.ok [], t) ∧
      ∀ rules proposal, ((Assembly.tally rules proposal).runOn t).1 =
        ((Assembly.tally rules proposal).runOn h).1 := by
  intro h
  obtain ⟨weight, now, same⟩ := Store.settings?_reconciled found
  have twice : (record.guardians.filter s.isGuardian).filter s.isGuardian =
      record.guardians.filter s.isGuardian := by
    simp [List.filter_filter]
  have nothing : (record.guardians.filter s.isGuardian).filter (!s.isGuardian ·) = [] := by
    simp [List.filter_filter]
  refine ⟨record.guardians.filter s.isGuardian, ⟨s.reconciled, [], journal⟩, ?_, ?_, ?_, ?_, ?_,
    ?_, ?_, ?_⟩
  · rw [Guardians.runOn_confirmed, found]
  · exact Guardians.runOn_isGuardian s journal
  · exact Guardians.runOn_reconcile_settled found journal
  · refine ⟨⟨record, weight, found, now, ?_, fun unsigned => ?_⟩, fun k apart =>
      Store.find?_reconciled apart, rfl, rfl⟩
    · rcases same with rfl | rfl
      · rfl
      · exact Decimal.canonical_canonical _
    · rcases same with rfl | rfl
      · rfl
      · exact unsigned
  · rw [Guardians.runOn_confirmed, now, s.isGuardian_reconciled]
    simp only [twice]
  · intro a
    rw [Guardians.runOn_isGuardian, s.isGuardian_reconciled]
  · have still : s.reconciled.reconciled = s.reconciled := by
      rw [Store.reconciled, Store.listed_of_settings? now, s.isGuardian_reconciled, nothing]
      rfl
    rw [Guardians.runOn_reconcile_settled now, s.isGuardian_reconciled, nothing, still]
  · intro rules proposal
    obtain ⟨_, -, before, -⟩ := Tally.runOn_tally s journal rules proposal
    obtain ⟨_, -, after, -⟩ := Tally.runOn_tally s.reconciled journal rules proposal
    rw [before, after]
    exact Tally.decided_reconciled s rules proposal

/-- A list with a stranger, a guardian twice, a flagged member outside the electorate, and a member
without a flag. -/
def Settings.drifted : Settings where
  guardians := [⟨"civ_x"⟩, ⟨"civ_a"⟩, ⟨"civ_p"⟩, ⟨"civ_a"⟩, ⟨"civ_d"⟩]
  weight := .half

def Store.drifted : Store :=
  [⟨⟨"civ_a"⟩, .electorate, true⟩, ⟨⟨"civ_p"⟩, .pendingApproval, true⟩,
    ⟨⟨"civ_d"⟩, .electorate, false⟩].foldl putMember (Store.empty.putSettings .drifted)

/-- The guardian stays listed twice, and the others are dropped in their order. -/
theorem reconciliation_trims_drifted :
    Store.drifted.settings? = some .drifted ∧
    (Guardians.reconcile.runOn ⟨.drifted, [], []⟩).1 =
      .ok [⟨"civ_x"⟩, ⟨"civ_p"⟩, ⟨"civ_d"⟩] ∧
    (Guardians.confirmed.runOn (Guardians.reconcile.runOn ⟨.drifted, [], []⟩).2).1 =
      .ok [⟨"civ_a"⟩, ⟨"civ_a"⟩] := by
  have found : Store.drifted.settings? = some .drifted := by decide +kernel
  have dropped : Settings.drifted.guardians.filter (!Store.drifted.isGuardian ·) =
      [⟨"civ_x"⟩, ⟨"civ_p"⟩, ⟨"civ_d"⟩] := by
    decide +kernel
  have confirmed : (Guardians.confirmed.runOn ⟨Store.drifted, [], []⟩).1 =
      .ok [⟨"civ_a"⟩, ⟨"civ_a"⟩] := by
    decide +kernel
  obtain ⟨kept, t, before, -, run, -, after, -⟩ := reconciliation_trims Store.drifted [] found
  rw [before] at confirmed
  cases confirmed
  refine ⟨found, ?_, ?_⟩
  · rw [run, dropped]
  · rw [run, after]

end Suffrage
