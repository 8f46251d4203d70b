/-
# Suffrage.Proofs.Strays -- guardians whom the list does not name

The guardian list and the flags drift apart in two directions.  A listed address may have lost its
record's backing, and a flagged member of the electorate may be missing from the list
(`Store.Stray`).  `Guardians.reconcile` mends the first only: it drops entries and adds none.  So a
reconciled list names exactly the guardians if nobody strays, and else fewer.

Who strays?  Most operations that write a flag write the list beside it, or write no flag that
counts.  Two leave the list alone (`Operation.FlagsAlone`): the bare flag of a member of the
electorate, and a batch that breaks off after some of its flags have been written.  By induction on
the operations, each stray goes back to one of them (`Host.stray_after`).

The operations are all those on the roll and on the guardian set, after the settings have been
written for the first time.  None of them lists an address twice (`Store.Enlisted`).
-/
import Suffrage.Proofs.Ceiling
import Suffrage.Proofs.Established
import Suffrage.Proofs.Flags
import Suffrage.Proofs.Reconciliation

namespace Suffrage

set_option autoImplicit false

/-! ## Strays -/

namespace Store

/-- A guardian by its record, whom the list does not name. -/
def Stray (s : Store) (a : Address) : Prop := s.isGuardian a = true ∧ a ∉ s.listed

/-- There are settings, with a weight in `(0, 1]`, and nobody is listed twice. -/
structure Enlisted (s : Store) : Prop where
  settled : s.settings?.isSome = true
  distinct : s.listed.Nodup
  weighed : ∀ record, s.settings? = some record → record.weight.isPositiveFraction = true

/-- From one store to the other nobody goes astray without a cause. -/
structure Drifts (s t : Store) (cause : Address → Prop) : Prop where
  enlisted : t.Enlisted
  strays : ∀ a, t.Stray a → s.Stray a ∨ cause a

variable {s t : Store} {cause : Address → Prop} {batch : List Address}

theorem Enlisted.congr (enlisted : s.Enlisted) (same : t.settings? = s.settings?) : t.Enlisted where
  settled := same ▸ enlisted.settled
  distinct := listed_congr same ▸ enlisted.distinct
  weighed record found := enlisted.weighed record (same ▸ found)

/-- Settings with the weight of before may list anyone once. -/
theorem Enlisted.putSettings {record : Settings} (distinct : record.guardians.Nodup)
    (range : record.weight.isPositiveFraction = true) : (t.putSettings record).Enlisted where
  settled := by rw [settings?_putSettings]; rfl
  distinct := by rwa [listed_putSettings]
  weighed := weighed_putSettings t range

theorem Enlisted.range (enlisted : s.Enlisted) :
    s.settled.weight.isPositiveFraction = true :=
  enlisted.weighed _ (settings?_of_isSome enlisted.settled)

/-- A flag that is set anew lies in the batch. -/
theorem of_isGuardian_flagged {flag : Bool} {a : Address}
    (serves : (s.flagged flag batch).isGuardian a = true) :
    s.isGuardian a = true ∨ flag = true ∧ a ∈ batch := by
  obtain ⟨r, found, flagged, active⟩ := isGuardian_iff.1 serves
  rw [member?_flagged] at found
  obtain ⟨m, old, rfl⟩ := Option.map_eq_some_iff.1 found
  by_cases inside : a ∈ batch
  · rw [if_pos inside] at flagged
    exact .inr ⟨flagged, inside⟩
  · rw [if_neg inside] at flagged active
    exact .inl (isGuardian_iff.2 ⟨m, old, flagged, active⟩)

theorem settings?_flagged (s : Store) (flag : Bool) (batch : List Address) :
    (s.flagged flag batch).settings? = s.settings? := by
  unfold settings?
  rw [find?_flagged s flag batch (by simp)]

/-! ### What the changes of a store make of strays -/

namespace Drifts

theorem refl (enlisted : s.Enlisted) : s.Drifts s cause := ⟨enlisted, fun _ stray => .inl stray⟩

/-- Records are written, and each new guardian has a cause. -/
theorem of_records (enlisted : s.Enlisted) (same : t.settings? = s.settings?)
    (serves : ∀ a, t.isGuardian a = true → s.isGuardian a = true ∨ cause a) : s.Drifts t cause := by
  refine ⟨enlisted.congr same, ?_⟩
  rintro a ⟨now, outside⟩
  rw [listed_congr same] at outside
  rcases serves a now with before | reason
  · exact .inl ⟨before, outside⟩
  · exact .inr reason

/-- One record is written, and it makes no guardian. -/
theorem of_record (enlisted : s.Enlisted) (same : t.settings? = s.settings?) {a : Address}
    {m : Member} (member? : ∀ b, t.member? b = if a = b then some m else s.member? b)
    (idle : (m.isGuardian && m.standing == .electorate) = false) : s.Drifts t cause := by
  refine of_records enlisted same fun b serves => .inl ?_
  by_cases here : a = b
  · subst here
    simp [isGuardian, member?, idle] at serves
  · rwa [isGuardian_congr (s := s) (by rw [member?, if_neg here])] at serves

theorem reweighted (enlisted : s.Enlisted) {weight : Decimal}
    (range : weight.isPositiveFraction = true) : s.Drifts (s.reweighted weight) cause := by
  refine ⟨.putSettings enlisted.distinct range, ?_⟩
  rintro a ⟨serves, outside⟩
  rw [Store.reweighted, listed_putSettings] at outside
  exact .inl ⟨isGuardian_congr (member?_putSettings s _ a) ▸ serves, outside⟩

/-- Whoever is flagged is listed. -/
theorem attached (enlisted : s.Enlisted) : s.Drifts (s.attached batch) cause := by
  refine ⟨.putSettings (Settings.nodup_add enlisted.distinct batch) ?_, ?_⟩
  · rw [Settings.weight_add]
    exact enlisted.range
  · rintro a ⟨serves, outside⟩
    rw [Store.attached, listed_putSettings, Settings.mem_add, not_or] at outside
    rw [Store.attached, isGuardian_congr (member?_putSettings _ _ a)] at serves
    rcases of_isGuardian_flagged serves with before | ⟨-, inside⟩
    · exact .inl ⟨before, outside.1⟩
    · exact absurd inside outside.2

/-- Whoever leaves the list has lost the flag. -/
theorem detached (enlisted : s.Enlisted) : s.Drifts (s.detached batch) cause := by
  refine ⟨.putSettings (enlisted.distinct.filter _) enlisted.range, ?_⟩
  rintro a ⟨serves, outside⟩
  obtain ⟨r, found, flagged, active⟩ := isGuardian_iff.1 serves
  rw [member?_detached] at found
  obtain ⟨m, old, rfl⟩ := Option.map_eq_some_iff.1 found
  by_cases inside : a ∈ batch
  · simp [inside] at flagged
  · rw [if_neg inside] at flagged active
    refine .inl ⟨isGuardian_iff.2 ⟨m, old, flagged, active⟩, fun listed => outside ?_⟩
    rw [Store.detached, listed_putSettings]
    exact List.mem_filter.2 ⟨listed, by simpa using inside⟩

/-- Whoever is dropped from the list is no guardian. -/
theorem reconciled (enlisted : s.Enlisted) : s.Drifts s.reconciled cause := by
  constructor
  · unfold Store.reconciled
    split
    · exact enlisted
    · exact .putSettings (enlisted.distinct.filter _) enlisted.range
  · rintro a ⟨serves, outside⟩
    rw [s.isGuardian_reconciled] at serves
    refine .inl ⟨serves, fun listed => outside ?_⟩
    obtain ⟨weight, now, -⟩ := settings?_reconciled (settings?_of_isSome enlisted.settled)
    rw [listed_of_settings? now]
    exact List.mem_filter.2 ⟨listed, serves⟩

end Drifts

end Store

open Store (Drifts Enlisted)

/-! ## What the operations do -/

/-- All flags are written, or some of them, and then the first that cannot be written ends it. -/
theorem Guardians.runOn_flagAll_cases (flag : Bool) (batch : List Address) (s : Store)
    (journal : List Event) :
    (flagAll flag batch).runOn ⟨s, [], journal⟩ =
        (.ok (), ⟨s.flagged flag batch, [], journal⟩) ∨
      ∃ e written, (∀ a ∈ written, a ∈ batch) ∧
        (flagAll flag batch).runOn ⟨s, [], journal⟩ =
          (.error e, ⟨s.flagged flag written, [], journal⟩) := by
  induction batch generalizing s with
  | nil => exact .inl rfl
  | cons a rest ih =>
      simp only [flagAll, Action.runOn_bind, Roll.runOn_setGuardianFlag, Store.flagged]
      cases found : s.member? a with
      | none => exact .inr ⟨_, [], by simp, rfl⟩
      | some m =>
          simp only [Action.andThen_ok]
          obtain run | ⟨e, written, inside, run⟩ := ih (s.putMember { m with isGuardian := flag })
          · exact .inl run
          · refine .inr ⟨e, a :: written, ?_, ?_⟩
            · intro b member
              rcases List.mem_cons.1 member with rfl | later
              · exact List.mem_cons_self
              · exact List.mem_cons_of_mem _ (inside b later)
            · rw [run, Store.flagged, found]

/-- A batch is written whole, or some of its flags are written and the list is as it was. -/
theorem Guardians.runOn_batch_cases {s : Store} (enlisted : s.Enlisted) (journal : List Event)
    (flag : Bool) (batch : List Address) (list : Settings → Settings) :
    let run := (do
      let record ← Guardians.settings
      Guardians.flagAll flag batch
      Host.writeSettings (list record) : Action Host Unit).runOn ⟨s, [], journal⟩
    run = (.ok (), ⟨(s.flagged flag batch).putSettings (list s.settled), [], journal⟩) ∨
      ∃ e written, (∀ a ∈ written, a ∈ batch) ∧
        run = (.error e, ⟨s.flagged flag written, [], journal⟩) := by
  simp only [Action.runOn_bind, runOn_settings, Store.settings?_of_isSome enlisted.settled,
    Action.andThen_ok]
  obtain run | ⟨e, written, inside, run⟩ := runOn_flagAll_cases flag batch s journal
  · exact .inl (by rw [run]; rfl)
  · exact .inr ⟨e, written, inside, by rw [run]; rfl⟩

/-- The operation writes the flag of a member and leaves the list alone. -/
inductive Operation.FlagsAlone (a : Address) (h : Host) : Operation → Prop where
  /-- The bare flag of a member of the electorate. -/
  | bare {m : Member} (found : h.store.member? a = some m) (active : m.standing = .electorate) :
      FlagsAlone a h (.setFlag a true)
  /-- A batch that breaks off. -/
  | brokenOff {batch : List Address} {e : Failure} (inside : a ∈ batch)
      (failed : ((Guardians.attach batch).runOn h).1 = .error e) : FlagsAlone a h (.attach batch)

namespace Operation

/-- An operation on the roll or on the guardian set, and no fresh start of the settings. -/
def isLater (op : Operation) : Prop := op.isDirect = true ∧ ∀ weight, op ≠ .setUp weight

variable {s : Store} (enlisted : s.Enlisted) (journal : List Event)
include enlisted

theorem drifts_register (a : Address) (cause : Address → Prop) :
    s.Drifts ((Roll.enroll a).runOn ⟨s, [], journal⟩).2.store cause := by
  rw [Roll.runOn_enroll]
  split
  · exact .refl enlisted
  split
  · exact .refl enlisted
  split
  · exact .refl enlisted
  · exact .of_record enlisted (s.settings?_enrolled a) (s.member?_enrolled a) rfl

/-- A record that moves is read without a flag before it is in the electorate. -/
theorem drifts_move (a : Address) (next : Standing) (operator : String) (cause : Address → Prop) :
    s.Drifts ((Roll.transition a next operator).runOn ⟨s, [], journal⟩).2.store cause := by
  rw [Roll.runOn_transition]
  cases found : s.member? a with
  | none => exact .refl enlisted
  | some m =>
      dsimp only
      split
      · exact .refl enlisted
      rename_i step
      split
      · exact .refl enlisted
      split
      · exact .refl enlisted
      · refine .of_record enlisted (s.settings?_moved _ next) (s.member?_moved _ next) ?_
        rw [show ({ m.normalized with standing := next } : Member).isGuardian =
          m.normalized.isGuardian from rfl, Course.unflagged_of_mayBecome (by simpa using step)]
        rfl

theorem drifts_setFlag (a : Address) (flag : Bool) :
    s.Drifts ((Roll.setGuardianFlag a flag).runOn ⟨s, [], journal⟩).2.store
      fun b => (Operation.setFlag a flag).FlagsAlone b ⟨s, [], journal⟩ := by
  rw [Roll.runOn_setGuardianFlag]
  cases found : s.member? a with
  | none => exact .refl enlisted
  | some m =>
      have place : m.address = a := Store.address_of_member? found
      have written (b : Address) : (s.putMember { m with isGuardian := flag }).member? b =
          if a = b then some { m with isGuardian := flag } else s.member? b :=
        place ▸ s.member?_putMember _ b
      have settings : (s.putMember { m with isGuardian := flag }).settings? = s.settings? :=
        Store.settings?_insert ..
      refine .of_records enlisted settings fun b serves => ?_
      by_cases here : a = b
      · subst here
        obtain ⟨r, now, flagged, active⟩ := Store.isGuardian_iff.1 serves
        rw [written, if_pos rfl] at now
        cases now
        subst flagged
        exact .inr (.bare found active)
      · rw [Store.isGuardian_congr (s := s) (by rw [written, if_neg here])] at serves
        exact .inl serves

theorem drifts_attach (batch : List Address) :
    s.Drifts ((Guardians.attach batch).runOn ⟨s, [], journal⟩).2.store
      fun b => (Operation.attach batch).FlagsAlone b ⟨s, [], journal⟩ := by
  obtain run | ⟨e, written, inside, run⟩ :=
    Guardians.runOn_batch_cases enlisted journal true batch (·.add batch)
  · have run : (Guardians.attach batch).runOn ⟨s, [], journal⟩ =
        (.ok (), ⟨s.attached batch, [], journal⟩) := run
    rw [run]
    exact .attached enlisted
  · have run : (Guardians.attach batch).runOn ⟨s, [], journal⟩ =
        (.error e, ⟨s.flagged true written, [], journal⟩) := run
    rw [run]
    refine .of_records enlisted (s.settings?_flagged true written) fun b serves => ?_
    rcases Store.of_isGuardian_flagged serves with before | ⟨-, member⟩
    · exact .inl before
    · exact .inr (.brokenOff (inside b member) (congrArg Prod.fst run))

/-- A batch of dismissals that breaks off has cleared flags of listed members. -/
theorem drifts_detach (batch : List Address) (cause : Address → Prop) :
    s.Drifts ((Guardians.detach batch).runOn ⟨s, [], journal⟩).2.store cause := by
  obtain run | ⟨e, written, inside, run⟩ :=
    Guardians.runOn_batch_cases enlisted journal false batch (·.remove batch)
  · have run : (Guardians.detach batch).runOn ⟨s, [], journal⟩ =
        (.ok (), ⟨s.detached batch, [], journal⟩) := run
    rw [run]
    exact .detached enlisted
  · have run : (Guardians.detach batch).runOn ⟨s, [], journal⟩ =
        (.error e, ⟨s.flagged false written, [], journal⟩) := run
    rw [run]
    refine .of_records enlisted (s.settings?_flagged false written) fun b serves => .inl ?_
    rcases Store.of_isGuardian_flagged serves with before | ⟨set, -⟩
    · exact before
    · cases set

/-- No operation makes anyone stray but by flagging alone. -/
theorem drifts {op : Operation} (later : op.isLater) :
    s.Drifts (op.act.runOn ⟨s, [], journal⟩).2.store (op.FlagsAlone · ⟨s, [], journal⟩) := by
  cases op with
  | call c => cases later.1
  | setUp weight => exact absurd rfl (later.2 weight)
  | register a =>
      simp only [act, Action.runOn_bind, Action.snd_andThen_pure]
      exact drifts_register enlisted journal a _
  | move a next operator =>
      simp only [act, Action.runOn_bind, Action.snd_andThen_pure]
      exact drifts_move enlisted journal a next operator _
  | setFlag a flag => exact drifts_setFlag enlisted journal a flag
  | name a nickname =>
      simp only [act, Roll.runOn_setNickname]
      split
      · refine .of_records enlisted (Store.settings?_insert ..) fun b serves => .inl ?_
        rwa [Store.isGuardian_congr (s := s) (Store.member?_insert ..)] at serves
      · exact .refl enlisted
  | setWeight weight =>
      simp only [act, Action.runOn_bind, Action.snd_andThen_pure, Guardians.runOn_setWeight]
      split
      · rename_i range
        split
        · exact .reweighted enlisted range
        · exact .refl enlisted
      · exact .refl enlisted
  | attach batch => exact drifts_attach enlisted journal batch
  | detach batch => exact drifts_detach enlisted journal batch _
  | reconcile =>
      simp only [act, Action.runOn_bind, Action.snd_andThen_pure,
        Guardians.runOn_reconcile_settled (Store.settings?_of_isSome enlisted.settled)]
      exact .reconciled enlisted

end Operation

/-- By induction on the operations: whoever strays in the end strayed before, or was flagged alone
on the way. -/
theorem Host.stray_after {operations : List Operation} (later : ∀ op ∈ operations, op.isLater)
    {h : Host} (running : h.outages = []) (enlisted : h.store.Enlisted) :
    let t := h.afterOperations operations
    t.outages = [] ∧ t.store.Enlisted ∧
      ∀ a, t.store.Stray a → h.store.Stray a ∨
        ∃ before op rest, operations = before ++ op :: rest ∧
          op.FlagsAlone a (h.afterOperations before) := by
  induction operations generalizing h with
  | nil => exact ⟨running, enlisted, fun _ stray => .inl stray⟩
  | cons op rest ih =>
      obtain ⟨s, outages, journal⟩ := h
      cases running
      have kind := later op List.mem_cons_self
      have step := Operation.drifts enlisted journal kind
      obtain ⟨outages, last, strays⟩ :=
        ih (fun other inRest => later other (List.mem_cons_of_mem _ inRest))
          (Operation.reaches kind.1 s journal).outages step.enlisted
      refine ⟨outages, last, fun a stray => ?_⟩
      rcases strays a stray with sooner | ⟨before, cause, after, rfl, flags⟩
      · rcases step.strays a sooner with old | flags
        · exact .inl old
        · exact .inr ⟨[], op, rest, rfl, flags⟩
      · exact .inr ⟨op :: before, cause, after, rfl, flags⟩

/-! ## What a reconciliation leaves out -/

/-- The guardians are the listed ones and the strays. -/
theorem Store.Enlisted.servingGuardians_iff {s : Store} (enlisted : s.Enlisted) :
    (s.listed.filter s.isGuardian).length ≤ s.servingGuardians ∧
      ((s.listed.filter s.isGuardian).length = s.servingGuardians ↔ ∀ a, ¬s.Stray a) := by
  have distinct : (s.listed.filter s.isGuardian).Nodup := enlisted.distinct.filter _
  have member (a : Address) : a ∈ s.electors.filter s.isGuardian ↔ s.isGuardian a = true := by
    rw [List.mem_filter, mem_electors]
    refine ⟨And.right, fun serves => ⟨?_, serves⟩⟩
    obtain ⟨m, found, -, active⟩ := isGuardian_iff.1 serves
    exact ⟨m, found, active⟩
  have inside : s.listed.filter s.isGuardian ⊆ s.electors.filter s.isGuardian := fun a listed =>
    (member a).2 (List.mem_filter.1 listed).2
  have fewer : List.Subperm (s.listed.filter s.isGuardian) (s.electors.filter s.isGuardian) :=
    List.subperm_of_subset distinct inside
  refine ⟨fewer.length_le, fun same => ?_, fun none_ => ?_⟩
  · rintro a ⟨serves, outside⟩
    have all := (fewer.perm_of_length_le same.ge).mem_iff.2 ((member a).2 serves)
    exact outside (List.mem_filter.1 all).1
  · refine ((List.perm_ext_iff_of_nodup distinct (s.nodup_electors.filter _)).2 ?_).length_eq
    intro a
    rw [member, List.mem_filter]
    refine ⟨And.right, fun serves => ⟨?_, serves⟩⟩
    by_contra outside
    exact none_ a ⟨serves, outside⟩

/-- A reconciled list names no more and no fewer of the guardians than before. -/
theorem Store.stray_reconciled_iff {s : Store} {record : Settings}
    (found : s.settings? = some record) (a : Address) : s.reconciled.Stray a ↔ s.Stray a := by
  obtain ⟨weight, now, -⟩ := settings?_reconciled found
  unfold Stray
  rw [s.isGuardian_reconciled, listed_of_settings? now, listed_of_settings? found]
  refine and_congr_right fun serves => not_congr ?_
  simp [serves]

/-- A reconciliation succeeds and leaves the records, and the list of those who were listed and
whose records make them guardians.  It is complete exactly if nobody strayed. -/
theorem Store.Enlisted.runOn_reconcile {s : Store} (enlisted : s.Enlisted) (journal : List Event) :
    ∃ record kept dropped t,
      s.settings? = some record ∧
      Guardians.reconcile.runOn ⟨s, [], journal⟩ = (.ok dropped, t) ∧
      t.store.settings? = some { record with guardians := kept } ∧
      (∀ a, t.store.member? a = s.member? a) ∧
      Guardians.confirmed.runOn t = (.ok kept, t) ∧
      kept.Nodup ∧
      (∀ a, a ∈ kept ↔ a ∈ record.guardians ∧ t.store.isGuardian a = true) ∧
      ((∀ a, a ∈ kept ↔ t.store.isGuardian a = true) ↔ ∀ a, ¬s.Stray a) ∧
      kept.length ≤ t.store.servingGuardians ∧
      (kept.length = t.store.servingGuardians ↔ ∀ a, ¬s.Stray a) := by
  obtain ⟨record, found⟩ := Option.isSome_iff_exists.1 enlisted.settled
  obtain ⟨written, now, same⟩ := settings?_reconciled found
  have weight : written = record.weight := by
    rcases same with same | same
    · exact same
    · exact same.trans (Decimal.canonical_of_isPositiveFraction (enlisted.weighed record found))
  subst weight
  have drifts : s.Drifts s.reconciled fun _ => False := .reconciled enlisted
  have tidy : s.reconciled.Enlisted := drifts.enlisted
  have listed : s.reconciled.listed = record.guardians.filter s.isGuardian :=
    listed_of_settings? now
  have confirmed : s.reconciled.listed.filter s.reconciled.isGuardian = s.reconciled.listed := by
    rw [listed, s.isGuardian_reconciled, List.filter_filter]
    simp
  obtain ⟨fewer, all⟩ := tidy.servingGuardians_iff
  simp only [stray_reconciled_iff found] at all
  rw [confirmed] at fewer all
  refine ⟨record, s.reconciled.listed, _, ⟨s.reconciled, [], journal⟩, found,
    Guardians.runOn_reconcile_settled found journal, listed ▸ now, s.member?_reconciled, ?_,
    tidy.distinct, fun a => ?_, ?_, fewer, all⟩
  · rw [Guardians.runOn_confirmed, now]
    simp only [← listed, confirmed]
  · rw [listed, s.isGuardian_reconciled, List.mem_filter]
  · rw [listed, s.isGuardian_reconciled]
    constructor
    · rintro names a ⟨serves, outside⟩
      exact outside (listed_of_settings? found ▸ (List.mem_filter.1 ((names a).2 serves)).1)
    · intro none_ a
      refine ⟨fun inside => (List.mem_filter.1 inside).2, fun serves => ?_⟩
      by_contra outside
      refine none_ a ⟨serves, fun inside => outside ?_⟩
      exact List.mem_filter.2 ⟨listed_of_settings? found ▸ inside, serves⟩

/-- The settings are written for the first time, and then the roll and the guardian set are changed
at will. -/
def Host.setUpThen (weight : Decimal) (operations : List Operation) : Host :=
  Host.fresh.afterOperations (.setUp weight :: operations)

/-- In such a history nobody is listed twice, and each stray has its cause. -/
theorem Host.enlisted_setUpThen {weight : Decimal} {operations : List Operation}
    (range : weight.isPositiveFraction = true) (later : ∀ op ∈ operations, op.isLater) :
    (setUpThen weight operations).outages = [] ∧ (setUpThen weight operations).store.Enlisted ∧
      ∀ a, (setUpThen weight operations).store.Stray a →
        ∃ before op rest, operations = before ++ op :: rest ∧
          op.FlagsAlone a (setUpThen weight before) := by
  have begun : ((Operation.setUp weight).act.runOn Host.fresh).2 =
      ⟨Store.empty.putSettings (.fresh weight), [], []⟩ := by
    show ((Guardians.setUp weight).runOn ⟨.empty, [], []⟩).2 = _
    rw [Guardians.runOn_setUp, if_pos range]
  have history (more : List Operation) : setUpThen weight more =
      afterOperations ⟨Store.empty.putSettings (.fresh weight), [], []⟩ more := by
    rw [← begun]
    rfl
  have first : (Store.empty.putSettings (.fresh weight)).Enlisted :=
    .putSettings List.nodup_nil range
  obtain ⟨outages, enlisted, causes⟩ := stray_after later
    (h := ⟨Store.empty.putSettings (.fresh weight), [], []⟩) rfl first
  rw [← history] at outages enlisted causes
  refine ⟨outages, enlisted, fun a stray => ?_⟩
  rcases causes a stray with ⟨serves, -⟩ | ⟨before, op, rest, split, flags⟩
  · -- At the beginning nobody has a record.
    rw [Store.isGuardian_congr (Store.member?_putSettings ..)] at serves
    cases serves
  · exact ⟨before, op, rest, split, history before ▸ flags⟩

/-- In every such history, failing operations included: a reconciliation succeeds, and leaves the
records as they are and a list without duplicates of those listed addresses whose records make them
guardians.  The list names every guardian, and is as long as there are guardians, exactly if nobody
strayed before; else it is shorter.  Whoever strays was flagged by an operation that left the list
alone. -/
theorem reconciliation_repairs_unless_stray (weight : Decimal) (operations : List Operation)
    (range : weight.isPositiveFraction = true) (later : ∀ op ∈ operations, op.isLater) :
    let h := Host.setUpThen weight operations
    ∃ record kept dropped t,
      h.store.settings? = some record ∧
      Guardians.reconcile.runOn h = (.ok dropped, t) ∧
      t.store.settings? = some { record with guardians := kept } ∧
      (∀ a, t.store.member? a = h.store.member? a) ∧
      Guardians.confirmed.runOn t = (.ok kept, t) ∧
      kept.Nodup ∧
      (∀ a, a ∈ kept ↔ a ∈ record.guardians ∧ t.store.isGuardian a = true) ∧
      ((∀ a, a ∈ kept ↔ t.store.isGuardian a = true) ↔ ∀ a, ¬h.store.Stray a) ∧
      kept.length ≤ t.store.servingGuardians ∧
      (kept.length = t.store.servingGuardians ↔ ∀ a, ¬h.store.Stray a) ∧
      ∀ a, h.store.Stray a → ∃ before op rest, operations = before ++ op :: rest ∧
        op.FlagsAlone a (Host.setUpThen weight before) := by
  intro h
  have history : h.outages = [] ∧ h.store.Enlisted ∧ ∀ a, h.store.Stray a →
      ∃ before op rest, operations = before ++ op :: rest ∧
        op.FlagsAlone a (Host.setUpThen weight before) := Host.enlisted_setUpThen range later
  clear_value h
  obtain ⟨s, _, journal⟩ := h
  obtain ⟨rfl, enlisted, strays⟩ := history
  obtain ⟨record, kept, dropped, t, found, run, now, same, confirmed, distinct, names, complete,
    fewer, all⟩ := enlisted.runOn_reconcile journal
  exact ⟨record, kept, dropped, t, found, run, now, same, confirmed, distinct, names, complete,
    fewer, all, strays⟩

/-- A batch names a member of the electorate and then a stranger. -/
def Operation.brokenBatch : List Operation :=
  [.register ⟨"civ_a"⟩, .move ⟨"civ_a"⟩ .electorate "genesis", .attach [⟨"civ_a"⟩, ⟨"civ_x"⟩]]

/-- The member has gone astray, so the reconciled list is too short, and the batch is the cause. -/
theorem reconciliation_repairs_broken :
    let h := Host.setUpThen .half Operation.brokenBatch
    let t := (Guardians.reconcile.runOn h).2
    h.store.Stray ⟨"civ_a"⟩ ∧
    (∃ kept, Guardians.confirmed.runOn t = (.ok kept, t) ∧
      kept.length < t.store.servingGuardians) ∧
    ∃ before op rest, Operation.brokenBatch = before ++ op :: rest ∧
      op.FlagsAlone ⟨"civ_a"⟩ (Host.setUpThen .half before) := by
  intro h t
  have stray : h.store.Stray ⟨"civ_a"⟩ := ⟨by decide +kernel, by decide +kernel⟩
  have later : ∀ op ∈ Operation.brokenBatch, op.isLater := by
    simp [Operation.brokenBatch, Operation.isLater, Operation.isDirect]
  obtain ⟨record, kept, dropped, u, -, run, -, -, confirmed, -, -, -, fewer, all, causes⟩ :=
    reconciliation_repairs_unless_stray .half Operation.brokenBatch (by decide) later
  have left : t = u := congrArg Prod.snd run
  rw [left]
  refine ⟨stray, ⟨kept, confirmed, lt_of_le_of_ne fewer fun same => ?_⟩, causes _ stray⟩
  exact all.1 same _ stray

/-- A member of the electorate is flagged, and nothing lists it. -/
def Operation.bareFlag : List Operation :=
  [.register ⟨"civ_a"⟩, .move ⟨"civ_a"⟩ .electorate "genesis", .setFlag ⟨"civ_a"⟩ true]

/-- A reconciliation does not make the list match the records: nothing is dropped, the list names
nobody, and the flagged member serves all the same. -/
theorem reconciliation_misses_flagged :
    let h := Host.setUpThen .half Operation.bareFlag
    let t := (Guardians.reconcile.runOn h).2
    (Guardians.reconcile.runOn h).1 = .ok [] ∧
    t.store.settings? = some { guardians := [], weight := .half } ∧
    t.store.member? ⟨"civ_a"⟩ = some ⟨⟨"civ_a"⟩, .electorate, true⟩ ∧
    t.store.servingGuardians = 1 := by
  decide +kernel

end Suffrage
