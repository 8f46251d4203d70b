/-
# Suffrage.Proofs.Appointment -- what makes guardians of a batch

A motion for more guardians succeeds exactly if its creator is a confirmed guardian and the batch is
one of eligible members.  It makes guardians of these, in the order in which they are named, and
leaves everything else as it was (`appointment_exact`).

What it changes is stated as `Host.Regrouped`, which says of every key of the store what is found
there afterwards:

* the records of the batch have the flag, the others are as they were;
* the settings list the guardians in their new order, with the weight of before;
* under every other key is what was there.

The record of a new guardian is written before the list.  That the two agree again in the end rests
on `Store.Coherent`, and so does the answer of `Guardians.confirmed`.
-/
import Suffrage.Proofs.Established
import Suffrage.Proofs.Refusal

namespace Suffrage

set_option autoImplicit false

open Suffrage.Action (Holds)

/-- The text is the address of somebody whom the guardian list and the records confirm. -/
def Host.Confirms (h : Host) (creator : String) : Prop :=
  (⟨creator⟩ : Address).isWellFormed = true ∧
    ∃ serving, Guardians.confirmed.runOn h = (.ok serving, h) ∧ ⟨creator⟩ ∈ serving

/-- The members of a batch are guardians afterwards, or none, who were not so before; `relist` is
what this does to the guardian list.  Nothing else in the store has changed. -/
structure Host.Regrouped (before after : Host) (batch : List Address) (serves : Bool)
    (relist : List Address → List Address) : Prop where
  confirmed : ∃ serving, Guardians.confirmed.runOn before = (.ok serving, before) ∧
    Guardians.confirmed.runOn after = (.ok (relist serving), after)
  turned : ∀ a ∈ batch, (Guardians.isGuardian a).runOn before = (.ok (!serves), before) ∧
    (Guardians.isGuardian a).runOn after = (.ok serves, after)
  others : ∀ a, a ∉ batch →
    ((Guardians.isGuardian a).runOn after).1 = ((Guardians.isGuardian a).runOn before).1
  records : ∀ a, after.store.member? a = (before.store.member? a).map fun m =>
    if a ∈ batch then { m with isGuardian := serves } else m
  settings : ∃ record, before.store.settings? = some record ∧
    after.store.settings? = some { record with guardians := relist record.guardians }
  /-- Counters, nicknames, ballots and markers. -/
  elsewhere : ∀ k : Key, (∀ a, k ≠ .member a) → k ≠ .settings →
    after.store.find? k = before.store.find? k
  outages : after.outages = before.outages

namespace Store.Coherent

variable {founded : Prop} {s t : Store} (coherent : s.Coherent founded)
include coherent

/-- Where list and flags agree, the confirmed guardians are those with a flag. -/
theorem confirms_iff (journal : List Event) (creator : String) :
    Host.Confirms ⟨s, [], journal⟩ creator ↔ s.Authorizes creator := by
  refine and_congr_right fun _ => ?_
  cases found : s.settings? with
  | none =>
      constructor
      · rintro ⟨serving, run, -⟩
        rw [Guardians.runOn_confirmed, found] at run
        cases run
      · intro serves
        have listed := (coherent.listed_iff ⟨creator⟩).2 serves
        rw [listed_of_unset found] at listed
        cases listed
  | some record =>
      have run := coherent.runOn_confirmed found journal
      rw [← coherent.listed_iff, listed_of_settings? found]
      constructor
      · rintro ⟨serving, run', inside⟩
        cases run.symm.trans run'
        exact inside
      · intro inside
        exact ⟨record.guardians, run, inside⟩

/-- It is enough to look at the records, the settings and the other keys: what the operations answer
follows from these. -/
theorem regrouped (coherent' : t.Coherent founded) {record : Settings} {batch : List Address}
    {serves : Bool} {relist : List Address → List Address} {journal journal' : List Event}
    (active : ∀ a ∈ batch, ∃ m, s.member? a = some m ∧ m.standing = .electorate ∧
      m.isGuardian = !serves)
    (records : ∀ a, t.member? a =
      (s.member? a).map fun m => if a ∈ batch then { m with isGuardian := serves } else m)
    (found : s.settings? = some record)
    (found' : t.settings? = some { record with guardians := relist record.guardians })
    (elsewhere : ∀ k : Key, (∀ a, k ≠ .member a) → k ≠ .settings → t.find? k = s.find? k) :
    Host.Regrouped ⟨s, [], journal⟩ ⟨t, [], journal'⟩ batch serves relist where
  confirmed := ⟨record.guardians, coherent.runOn_confirmed found journal,
    coherent'.runOn_confirmed found' journal'⟩
  turned a inside := by
    obtain ⟨m, here, electorate, flag⟩ := active a inside
    rw [Guardians.runOn_isGuardian, Guardians.runOn_isGuardian]
    simp [isGuardian, records, here, inside, electorate, flag]
  others a outside := by
    have same : t.member? a = s.member? a := by simp [records, outside]
    rw [Guardians.runOn_isGuardian, Guardians.runOn_isGuardian, isGuardian_congr same]
  records := records
  settings := ⟨record, found, found'⟩
  elsewhere := elsewhere
  outages := rfl

/-- Eligible members are appointed, and that is all. -/
theorem regrouped_attached {batch : List Address} (settled : s.settings?.isSome = true)
    (distinct : batch.Nodup) (eligible : ∀ a ∈ batch, s.Eligible a)
    (journal journal' : List Event) :
    Host.Regrouped ⟨s, [], journal⟩ ⟨s.attached batch, [], journal'⟩ batch true (· ++ batch) := by
  have found := settings?_of_isSome settled
  apply coherent.regrouped (coherent.attached settled eligible)
  · exact eligible
  · exact s.member?_attached batch
  · exact found
  · exact coherent.settings?_attached found distinct eligible
  · exact s.find?_attached batch

end Store.Coherent

/-- A batch with a guardian in it is refused. -/
theorem Motion.addGuardians_refused {founded : Prop} {h : Host}
    (holds : Holds (Store.Coherent founded) h) (creator : String) {raw : List String}
    (serving : ∃ a ∈ batchOf raw, h.store.isGuardian a = true) :
    ∃ e, (addGuardians creator raw).runOn h = (.error e, h) := by
  obtain ⟨s, outages, journal⟩ := h
  obtain ⟨rfl, coherent⟩ := holds
  obtain ⟨⟨-, -, eligible⟩, -⟩ | ⟨-, refused⟩ :=
    coherent.decides_addGuardians journal creator raw
  · obtain ⟨a, inside, serves⟩ := serving
    exact absurd ((coherent.listed_iff a).2 serves) (coherent.not_listed (eligible a inside))
  · exact refused

/-- At any time of a session a motion for more guardians succeeds exactly if its creator is a
confirmed guardian, its addresses are distinct and well-formed and at least one, and each has the
record of a member of the electorate who is no guardian.  It then returns the batch in its order,
appends it to the guardian list, sets the flags of the batch, announces it once, and changes nothing
else.

The same motion fails if it is made again, and as long as one of the batch is a guardian. -/
theorem appointment_exact (calls : List Call) (creator : String) (raw : List String) :
    let h := Host.fresh.after calls
    let run := (Motion.addGuardians creator raw).runOn h
    ((∃ batch, run.1 = .ok batch) ↔
      h.Confirms creator ∧ Motion.IsBatch raw ∧ ∀ a ∈ Motion.batchOf raw, h.store.Eligible a) ∧
    ∀ batch, run.1 = .ok batch →
      batch = Motion.batchOf raw ∧
      h.Regrouped run.2 batch true (· ++ batch) ∧
      run.2.journal = h.journal ++ [.guardiansAdded batch] ∧
      (∃ e, (Motion.addGuardians creator raw).runOn run.2 = (.error e, run.2)) ∧
      ∀ more, (∃ a ∈ batch, (run.2.after more).store.isGuardian a = true) →
        ∃ e, (Motion.addGuardians creator raw).runOn (run.2.after more) =
          (.error e, run.2.after more) := by
  intro h run
  have start : Holds (Store.Coherent False) h := Store.Coherent.fresh_after calls
  have same : (Motion.addGuardians creator raw).runOn h = run := rfl
  clear_value run h
  subst same
  obtain ⟨s, outages, journal⟩ := h
  obtain ⟨rfl, coherent⟩ := start
  rw [coherent.confirms_iff]
  obtain ⟨⟨authorized, batch, eligible⟩, run⟩ | ⟨unfit, e, run⟩ :=
    coherent.decides_addGuardians journal creator raw
  · have settled := coherent.settings?_of_authorizes authorized
    have regrouped := coherent.regrouped_attached settled batch.nodup eligible journal
      (journal ++ [.guardiansAdded (Motion.batchOf raw)])
    have holds : Holds (Store.Coherent False) ⟨s.attached (Motion.batchOf raw), [],
        journal ++ [.guardiansAdded (Motion.batchOf raw)]⟩ :=
      ⟨rfl, coherent.attached settled eligible⟩
    rw [run]
    refine ⟨⟨fun _ => ⟨authorized, batch, eligible⟩, fun _ => ⟨_, rfl⟩⟩, fun answer ok => ?_⟩
    cases ok
    refine ⟨rfl, regrouped, rfl, ?_, fun more serving => ?_⟩
    · obtain ⟨a, inside⟩ := batch.exists_mem
      have serves := (regrouped.turned a inside).2
      rw [Guardians.runOn_isGuardian] at serves
      exact Motion.addGuardians_refused holds creator
        ⟨a, inside, Except.ok.inj (congrArg Prod.fst serves)⟩
    · exact Motion.addGuardians_refused (Store.Coherent.after more holds) creator serving
  · rw [run]
    refine ⟨⟨?_, fun fits => absurd fits unfit⟩, ?_⟩
    · rintro ⟨answer, ok⟩
      cases ok
    · intro answer ok
      cases ok

/-- The guardian of a pair appoints the other member. -/
theorem appointment_exact_pair :
    let h := Host.fresh.after [.found .pair]
    let run := (Motion.addGuardians "civ_one" ["civ_two"]).runOn h
    run.1 = .ok [⟨"civ_two"⟩] ∧
      h.Regrouped run.2 [⟨"civ_two"⟩] true (· ++ [⟨"civ_two"⟩]) ∧
      run.2.journal = h.journal ++ [.guardiansAdded [⟨"civ_two"⟩]] ∧
      ∃ e, (Motion.addGuardians "civ_one" ["civ_two"]).runOn run.2 = (.error e, run.2) := by
  have ok : ((Motion.addGuardians "civ_one" ["civ_two"]).runOn
      (Host.fresh.after [.found .pair])).1 = .ok [⟨"civ_two"⟩] := by
    decide +kernel
  obtain ⟨-, regrouped, journal, again, -⟩ :=
    (appointment_exact [.found .pair] "civ_one" ["civ_two"]).2 _ ok
  dsimp only
  exact ⟨ok, regrouped, journal, again⟩

end Suffrage
