/-
# Suffrage.Proofs.Dismissal -- what makes ordinary members of guardians

A motion for fewer guardians succeeds exactly if its creator is a confirmed guardian and the batch
is of confirmed guardians, but not of all of them (`Host.Dismissible`).  The creator may be in it.
The batch loses its flags and its places on the list, and nothing else changes (`Host.Regrouped`):

* those who are left keep their order, and there is somebody left;
* who is dismissed stays in the electorate;
* counters, nicknames, ballots, markers and the weight are as they were.

A dismissal is the inverse of an appointment.  The batch of an appointment had no flags before and
was not on the list, so dismissing it leads back to the very store that the appointment began with
(`Store.Coherent.detached_attached`); only the journal tells of the two motions.
-/
import Suffrage.Proofs.Appointment
import Suffrage.Proofs.Tally

namespace Suffrage

set_option autoImplicit false

open Suffrage.Action (Holds)

/-- The batch is of guardians whom the list and the records confirm, and some other one is left. -/
def Host.Dismissible (h : Host) (batch : List Address) : Prop :=
  ∃ serving, Guardians.confirmed.runOn h = (.ok serving, h) ∧
    (∀ a ∈ batch, a ∈ serving) ∧ ∃ a ∈ serving, a ∉ batch

/-! ## What a dismissal writes -/

namespace Store

namespace Coherent

variable {s : Store} {founded : Prop} (coherent : s.Coherent founded)
include coherent

/-- Where list and flags agree, the confirmed guardians are those with a flag. -/
theorem dismissible_iff (journal : List Event) (batch : List Address) :
    Host.Dismissible ⟨s, [], journal⟩ batch ↔
      (∀ a ∈ batch, s.isGuardian a = true) ∧ s.Spares batch := by
  constructor
  · rintro ⟨serving, run, inside, a, listed, outside⟩
    rw [Guardians.runOn_confirmed] at run
    cases found : s.settings? with
    | none =>
        rw [found] at run
        cases run
    | some record =>
        rw [found] at run
        cases run
        refine ⟨fun b member => (List.mem_filter.1 (inside b member)).2, a, ?_, ?_, outside⟩
        · rw [listed_of_settings? found]
          exact (List.mem_filter.1 listed).1
        · exact (List.mem_filter.1 listed).2
  · rintro ⟨serving, a, listed, -, outside⟩
    have settled := (coherent.strengthen (List.ne_nil_of_mem listed)).settings?_isSome
    refine ⟨s.listed, coherent.runOn_confirmed (settings?_of_isSome settled) journal, ?_, a, listed,
      outside⟩
    intro b inside
    exact (coherent.listed_iff b).2 (serving b inside)

/-- Guardians are dismissed, and that is all. -/
theorem regrouped_detached {batch : List Address} (settled : s.settings?.isSome = true)
    (serving : ∀ a ∈ batch, s.isGuardian a = true) (spares : s.Spares batch)
    (journal journal' : List Event) :
    Host.Regrouped ⟨s, [], journal⟩ ⟨s.detached batch, [], journal'⟩ batch false
      (List.filter fun a => !batch.contains a) := by
  have found := settings?_of_isSome settled
  apply coherent.regrouped (coherent.detached settled spares)
  · intro a inside
    obtain ⟨m, here, flag, active⟩ := isGuardian_iff.1 (serving a inside)
    exact ⟨m, here, active, flag⟩
  · exact s.member?_detached batch
  · exact found
  · exact coherent.settings?_detached found batch
  · exact s.find?_detached batch

/-! ## There and back -/

/-- An appointment adds its batch to the guardians. -/
theorem isGuardian_attached {batch : List Address} (settled : s.settings?.isSome = true)
    (eligible : ∀ a ∈ batch, s.Eligible a) (a : Address) :
    (s.attached batch).isGuardian a = true ↔ s.isGuardian a = true ∨ a ∈ batch := by
  rw [← (coherent.attached settled eligible).listed_iff, ← coherent.listed_iff, Store.attached,
    listed_putSettings, Settings.mem_add]
  rfl

/-- A batch that is appointed and dismissed leaves no trace in the store. -/
theorem detached_attached {batch : List Address} (settled : s.settings?.isSome = true)
    (distinct : batch.Nodup) (eligible : ∀ a ∈ batch, s.Eligible a) :
    (s.attached batch).detached batch = s := by
  have found := settings?_of_isSome settled
  have appointed := coherent.settings?_attached found distinct eligible
  have listed : ∀ a ∈ batch, a ∉ s.settled.guardians := by
    intro a inside
    exact coherent.not_listed (eligible a inside)
  have relisted : (s.settled.guardians ++ batch).filter (fun a => !batch.contains a) =
      s.settled.guardians := by
    rw [List.filter_append, List.filter_eq_self.2, List.filter_eq_nil_iff.2, List.append_nil]
    · intro a inside
      simp [inside]
    · intro a old
      have outside : a ∉ batch := fun inside => listed a inside old
      simp [outside]
  have settings : ((s.attached batch).detached batch).settings? = s.settings? := by
    rw [(coherent.attached settled eligible).settings?_detached appointed, found, Settings.remove,
      relisted]
  have members (a : Address) : ((s.attached batch).detached batch).member? a = s.member? a := by
    rw [member?_detached, member?_attached, Option.map_map]
    by_cases inside : a ∈ batch
    · obtain ⟨m, here, -, unflagged⟩ := eligible a inside
      simp only [here, Option.map_some, Function.comp_apply, if_pos inside]
      rw [← unflagged]
    · cases s.member? a <;> simp [inside]
  apply eq_of_records members settings
  intro k other apart
  rw [find?_detached _ batch k other apart, find?_attached s batch k other apart]

/-- Who has appointed a batch may dismiss it, and is left himself. -/
theorem runOn_removeGuardians_attached {creator : String} {raw : List String}
    (authorized : s.Authorizes creator) (batch : Motion.IsBatch raw)
    (eligible : ∀ a ∈ Motion.batchOf raw, s.Eligible a) (journal : List Event) :
    (Motion.removeGuardians creator raw).runOn ⟨s.attached (Motion.batchOf raw), [], journal⟩ =
      (.ok (Motion.batchOf raw),
        ⟨s, [], journal ++ [.guardiansRemoved (Motion.batchOf raw)]⟩) := by
  have settled := coherent.settings?_of_authorizes authorized
  have appointed := coherent.attached settled eligible
  have serves := coherent.isGuardian_attached settled eligible
  have outside : ⟨creator⟩ ∉ Motion.batchOf raw := by
    intro inside
    exact coherent.not_listed (eligible _ inside) ((coherent.listed_iff _).2 authorized.2)
  have left : (s.attached (Motion.batchOf raw)).isGuardian ⟨creator⟩ = true :=
    (serves _).2 (.inl authorized.2)
  obtain ⟨-, run⟩ | ⟨unfit, -⟩ := appointed.decides_removeGuardians journal creator raw
  · rw [run, coherent.detached_attached settled batch.nodup eligible]
  · refine absurd ⟨⟨authorized.1, left⟩, batch, ?_, ?_⟩ unfit
    · intro a inside
      exact (serves a).2 (.inr inside)
    · exact ⟨⟨creator⟩, (appointed.listed_iff _).2 left, left, outside⟩

end Coherent

end Store

/-- A founded session has a confirmed guardian at any later time. -/
theorem Host.staffed_after {calls : List Call} (founds : Host.fresh.Founds calls)
    (more : List Call) :
    let h := (Host.fresh.after calls).after more
    ∃ remaining, Guardians.confirmed.runOn h = (.ok remaining, h) ∧ remaining ≠ [] := by
  intro h
  have governed : Holds (Store.Coherent True) h :=
    Store.Coherent.after more (coherent_of_founds founds)
  clear_value h
  obtain ⟨s, outages, journal⟩ := h
  obtain ⟨rfl, coherent⟩ := governed
  have found := Store.settings?_of_isSome coherent.settings?_isSome
  exact ⟨_, coherent.runOn_confirmed found journal, coherent.staffed trivial⟩

/-- At any time of a session a motion for fewer guardians succeeds exactly if its creator is a
confirmed guardian, its addresses are distinct and well-formed and at least one, each of them is a
confirmed guardian, and some confirmed guardian is not among them.  It then returns the batch in its
order, drops it from the guardian list, clears the flags of the batch, announces it once, and
changes nothing else.  The members of the batch stay in the electorate.

So a session that has been founded has a guardian ever after.  And what an appointment does to the
store is undone by the dismissal of the same batch in the name of the same creator, which cannot
fail. -/
theorem dismissal_exact (calls : List Call) (creator : String) (raw : List String) :
    let h := Host.fresh.after calls
    let run := (Motion.removeGuardians creator raw).runOn h
    ((∃ batch, run.1 = .ok batch) ↔
      h.Confirms creator ∧ Motion.IsBatch raw ∧ h.Dismissible (Motion.batchOf raw)) ∧
    (∀ batch, run.1 = .ok batch →
      batch = Motion.batchOf raw ∧
      h.Regrouped run.2 batch false (List.filter fun a => !batch.contains a) ∧
      (∃ remaining, Guardians.confirmed.runOn run.2 = (.ok remaining, run.2) ∧ remaining ≠ []) ∧
      (∀ a ∈ batch, ∃ m, run.2.store.member? a = some m ∧ m.standing = .electorate) ∧
      run.2.journal = h.journal ++ [.guardiansRemoved batch]) ∧
    (Host.fresh.Founds calls → ∀ more, ∃ remaining,
      Guardians.confirmed.runOn (h.after more) = (.ok remaining, h.after more) ∧
        remaining ≠ []) ∧
    ∀ batch appointed, (Motion.addGuardians creator raw).runOn h = (.ok batch, appointed) →
      (Motion.removeGuardians creator raw).runOn appointed =
        (.ok batch,
          { h with journal := h.journal ++ [.guardiansAdded batch, .guardiansRemoved batch] }) := by
  intro h run
  have start : Holds (Store.Coherent False) h := Store.Coherent.fresh_after calls
  have founded (founds : Host.fresh.Founds calls) (more : List Call) :
      ∃ remaining, Guardians.confirmed.runOn (h.after more) = (.ok remaining, h.after more) ∧
        remaining ≠ [] := Host.staffed_after founds more
  have same : (Motion.removeGuardians creator raw).runOn h = run := rfl
  clear_value run h
  subst same
  refine ⟨?_, ?_, founded, ?_⟩
  all_goals
    obtain ⟨s, outages, journal⟩ := h
    obtain ⟨rfl, coherent⟩ := start
  · rw [coherent.confirms_iff, coherent.dismissible_iff]
    obtain ⟨fits, run⟩ | ⟨unfit, e, run⟩ := coherent.decides_removeGuardians journal creator raw
    · rw [run]
      exact ⟨fun _ => fits, fun _ => ⟨_, rfl⟩⟩
    · rw [run]
      refine ⟨?_, fun fits => absurd fits unfit⟩
      rintro ⟨answer, ok⟩
      cases ok
  · intro answer ok
    obtain ⟨⟨authorized, batch, serving, spares⟩, run⟩ | ⟨-, e, run⟩ :=
      coherent.decides_removeGuardians journal creator raw
    · rw [run] at ok ⊢
      cases ok
      have settled := coherent.settings?_of_authorizes authorized
      have after := coherent.detached settled spares
      have found := coherent.settings?_detached (Store.settings?_of_isSome settled)
        (Motion.batchOf raw)
      refine ⟨rfl, coherent.regrouped_detached settled serving spares journal _, ?_, ?_, rfl⟩
      · refine ⟨_, after.runOn_confirmed found _, ?_⟩
        obtain ⟨a, listed, -, outside⟩ := spares
        apply List.ne_nil_of_mem (a := a)
        simpa [Settings.remove, outside] using show a ∈ s.settled.guardians from listed
      · intro a inside
        obtain ⟨m, here, -, active⟩ := Store.isGuardian_iff.1 (serving a inside)
        refine ⟨{ m with isGuardian := false }, ?_, active⟩
        show (s.detached (Motion.batchOf raw)).member? a = _
        simp [Store.member?_detached, here, inside]
    · rw [run] at ok
      cases ok
  · intro answer appointed run
    obtain ⟨⟨authorized, batch, eligible⟩, added⟩ | ⟨-, e, refused⟩ :=
      coherent.decides_addGuardians journal creator raw
    · cases added.symm.trans run
      rw [coherent.runOn_removeGuardians_attached authorized batch eligible, List.append_assoc]
      rfl
    · cases refused.symm.trans run

/-- Two guardians and another member. -/
def Genesis.duo : Genesis :=
  { Genesis.pair with
    guardians := [⟨"civ_one", none⟩, ⟨"civ_two", none⟩]
    members := [⟨"civ_three", none⟩] }

/-- One of two guardians dismisses himself, or appoints a third and thinks better of it. -/
theorem dismissal_exact_duo :
    let h := Host.fresh.after [.found .duo]
    let run := (Motion.removeGuardians "civ_one" ["civ_one"]).runOn h
    run.1 = .ok [⟨"civ_one"⟩] ∧
      h.Regrouped run.2 [⟨"civ_one"⟩] false
        (List.filter fun a => !List.contains [⟨"civ_one"⟩] a) ∧
      run.2.journal = h.journal ++ [.guardiansRemoved [⟨"civ_one"⟩]] ∧
      (∀ more, ∃ remaining,
        Guardians.confirmed.runOn (h.after more) = (.ok remaining, h.after more) ∧
          remaining ≠ []) ∧
      ∃ appointed,
        (Motion.addGuardians "civ_one" ["civ_three"]).runOn h =
          (.ok [⟨"civ_three"⟩], appointed) ∧
        (Motion.removeGuardians "civ_one" ["civ_three"]).runOn appointed =
          (.ok [⟨"civ_three"⟩],
            { h with
              journal := h.journal ++
                [.guardiansAdded [⟨"civ_three"⟩], .guardiansRemoved [⟨"civ_three"⟩]] }) := by
  have ok : ((Motion.removeGuardians "civ_one" ["civ_one"]).runOn
      (Host.fresh.after [.found .duo])).1 = .ok [⟨"civ_one"⟩] := by
    decide +kernel
  have founds : Host.fresh.Founds [.found .duo] := ⟨[], .duo, [], rfl, by decide +kernel⟩
  have added : ((Motion.addGuardians "civ_one" ["civ_three"]).runOn
      (Host.fresh.after [.found .duo])).1 = .ok [⟨"civ_three"⟩] := by
    decide +kernel
  obtain ⟨-, dismissed, staffed, -⟩ := dismissal_exact [.found .duo] "civ_one" ["civ_one"]
  obtain ⟨-, -, -, undone⟩ := dismissal_exact [.found .duo] "civ_one" ["civ_three"]
  generalize Host.fresh.after [.found .duo] = h at ok added dismissed staffed undone ⊢
  obtain ⟨-, regrouped, -, -, journal⟩ := dismissed _ ok
  have appointed : (Motion.addGuardians "civ_one" ["civ_three"]).runOn h =
      (.ok [⟨"civ_three"⟩], ((Motion.addGuardians "civ_one" ["civ_three"]).runOn h).2) :=
    Prod.ext added rfl
  exact ⟨ok, regrouped, journal, staffed founds, _, appointed, undone _ _ appointed⟩

end Suffrage
