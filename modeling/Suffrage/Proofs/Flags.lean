/-
# Suffrage.Proofs.Flags -- which guardian flags count

Nothing on the roll stops a flag from being written too early: `Roll.setGuardianFlag` writes it on
the record of a pending member, and `Guardians.attach` lists that member.  Such a flag never comes
into force.  A record is read without a flag that its standing does not back, and a transition
writes back what it has read, so the flag is gone before the member is in the electorate.

To say this of any history, the operations are seen through what they do to records (`Deed`): an
enrolment, a move, or a flag, each only if it succeeds, and the flags of a batch one by one up to
the first that cannot be written.  The deeds determine every record (`Course`):

* there is at most one move into the electorate, and none out of it;
* it leaves the record without a flag;
* from then on the flag is the last one that was written.

So a member serves exactly if it is in the electorate and the last flag that was written since its
promotion is set (`flags_count_since_promotion`).
-/
import Suffrage.Proofs.Coherence
import Mathlib.Data.List.Basic

namespace Suffrage

set_option autoImplicit false

/-! ## Deeds -/

/-- What is done to the record of one address. -/
inductive Deed where
  | enrolled (a : Address)
  | moved (a : Address) (next : Standing)
  | flagged (a : Address) (flag : Bool)
  deriving DecidableEq, Repr

namespace Deed

def address : Deed → Address
  | .enrolled a => a
  | .moved a _ => a
  | .flagged a _ => a

/-- The flag that is written on the record of `a`. -/
def flagOn? (a : Address) : Deed → Option Bool
  | .flagged b flag => if b = a then some flag else none
  | _ => none

/-- A step does its deed if it succeeds. -/
def ifDone {α : Type} (deed : Deed) : Except Failure α → List Deed
  | .ok _ => [deed]
  | .error _ => []

/-- The last flag that is written on the record of `a`. -/
def lastFlag? (a : Address) (deeds : List Deed) : Option Bool :=
  deeds.reverse.findSome? (flagOn? a)

theorem lastFlag?_cons (a : Address) (deed : Deed) (deeds : List Deed) :
    lastFlag? a (deed :: deeds) = (lastFlag? a deeds).or (deed.flagOn? a) := by
  simp [lastFlag?, List.findSome?_append]

/-- The last flag that is written on the record of `a` after its promotion is set. -/
def FlaggedSincePromotion (a : Address) (deeds : List Deed) : Prop :=
  ∃ early since, deeds = early ++ .moved a .electorate :: since ∧ lastFlag? a since = some true

theorem flagOn?_of_ne {a : Address} {deed : Deed} (apart : deed.address ≠ a) :
    deed.flagOn? a = none := by
  cases deed with
  | flagged b flag => exact if_neg apart
  | _ => rfl

end Deed

/-- Flags are written one after another, and the first that cannot be written ends it. -/
def Host.flagDeeds (h : Host) (flag : Bool) : List Address → List Deed
  | [] => []
  | a :: rest =>
      match (Roll.setGuardianFlag a flag).runOn h with
      | (.ok (), t) => .flagged a flag :: t.flagDeeds flag rest
      | (.error _, _) => []

/-- The flags of a batch are written once the settings have been read. -/
def Host.batchDeeds (h : Host) (flag : Bool) (batch : List Address) : List Deed :=
  match Guardians.settings.runOn h with
  | (.ok _, t) => t.flagDeeds flag batch
  | (.error _, _) => []

namespace Operation

/-- The operation is one on the roll or on the guardian set, and no call of the assembly. -/
def isDirect : Operation → Bool
  | .call _ => false
  | _ => true

/-- What a direct operation does to records, as far as it gets. -/
def deeds (h : Host) : Operation → List Deed
  | .register a => Deed.ifDone (.enrolled a) ((Roll.enroll a).runOn h).1
  | .move a next operator =>
      Deed.ifDone (.moved a next) ((Roll.transition a next operator).runOn h).1
  | .setFlag a flag => Deed.ifDone (.flagged a flag) ((Roll.setGuardianFlag a flag).runOn h).1
  | .attach batch => h.batchDeeds true batch
  | .detach batch => h.batchDeeds false batch
  | _ => []

end Operation

/-- What a sequence of operations does to records, failing operations included. -/
def Host.deeds (h : Host) : List Operation → List Deed
  | [] => []
  | op :: rest => op.deeds h ++ (op.act.runOn h).2.deeds rest

/-! ## The course of a record -/

/-- The deeds take the record of `a` from one state to another. -/
inductive Course (a : Address) : Option Member → List Deed → Option Member → Prop where
  | done (r : Option Member) : Course a r [] r
  | enrolled {r : Option Member} {deeds : List Deed}
      (later : Course a (some (.pending a)) deeds r) : Course a none (.enrolled a :: deeds) r
  | moved {m : Member} {next : Standing} {r : Option Member} {deeds : List Deed}
      (step : m.standing.mayBecome next = true)
      (later : Course a (some { m.normalized with standing := next }) deeds r) :
      Course a (some m) (.moved a next :: deeds) r
  | flagged {m : Member} {flag : Bool} {r : Option Member} {deeds : List Deed}
      (later : Course a (some { m with isGuardian := flag }) deeds r) :
      Course a (some m) (.flagged a flag :: deeds) r
  | other {deed : Deed} {r t : Option Member} {deeds : List Deed} (apart : deed.address ≠ a)
      (later : Course a r deeds t) : Course a r (deed :: deeds) t

/-- What becomes of a record that is outside the electorate: it stays there, or it is promoted once,
and has no flag then. -/
inductive Fate (a : Address) (t : Option Member) (deeds : List Deed) : Prop where
  | outside (stays : ∀ m, t = some m → m.standing ≠ .electorate)
      (absent : .moved a .electorate ∉ deeds)
  | promoted (m : Member) (early since : List Deed)
      (split : deeds = early ++ .moved a .electorate :: since)
      (first : .moved a .electorate ∉ early) (active : m.standing = .electorate)
      (unflagged : m.isGuardian = false) (rest : Course a (some m) since t)

theorem Fate.cons {a : Address} {t : Option Member} {deeds : List Deed} {deed : Deed}
    (unlike : .moved a .electorate ≠ deed) (fate : Fate a t deeds) : Fate a t (deed :: deeds) := by
  cases fate with
  | outside stays absent => exact .outside stays (by simp [unlike, absent])
  | promoted m early since split first active unflagged rest =>
      subst split
      exact .promoted m (deed :: early) since rfl (by simp [unlike, first]) active unflagged rest

namespace Course

variable {a : Address} {r t u : Option Member} {deeds more : List Deed}

theorem append (first : Course a r deeds t) (second : Course a t more u) :
    Course a r (deeds ++ more) u := by
  induction first with
  | done r => exact second
  | enrolled _ ih => exact .enrolled (ih second)
  | moved step _ ih => exact .moved step (ih second)
  | flagged _ ih => exact .flagged (ih second)
  | other apart _ ih => exact .other apart (ih second)

/-- In the electorate nothing moves, and the flag is the last one written. -/
theorem of_electorate {m : Member} (course : Course a (some m) deeds t)
    (active : m.standing = .electorate) :
    (∃ m', t = some m' ∧ m'.standing = .electorate ∧
      m'.isGuardian = (Deed.lastFlag? a deeds).getD m.isGuardian) ∧
    ∀ next, .moved a next ∉ deeds := by
  generalize start : some m = r at course
  induction course generalizing m with
  | done r =>
      subst start
      exact ⟨⟨m, rfl, active, rfl⟩, fun _ => List.not_mem_nil⟩
  | enrolled _ _ => cases start
  | moved step _ _ =>
      cases start
      rw [active] at step
      cases step
  | @flagged m₀ flag _ deeds _ ih =>
      cases start
      obtain ⟨⟨m', rfl, active', last⟩, unmoved⟩ :=
        ih (m := { m₀ with isGuardian := flag }) active rfl
      refine ⟨⟨m', rfl, active', ?_⟩, ?_⟩
      · rw [last, Deed.lastFlag?_cons]
        cases Deed.lastFlag? a deeds <;> simp [Deed.flagOn?]
      · intro next
        simpa using unmoved next
  | @other deed _ _ deeds apart _ ih =>
      obtain ⟨⟨m', rfl, active', last⟩, unmoved⟩ := ih active start
      refine ⟨⟨m', rfl, active', ?_⟩, ?_⟩
      · rw [last, Deed.lastFlag?_cons, Deed.flagOn?_of_ne apart, Option.or_none]
      · intro next inside
        rcases List.mem_cons.1 inside with rfl | later
        · exact apart rfl
        · exact unmoved next later

/-- A record that may move is read without a flag. -/
theorem unflagged_of_mayBecome {m : Member} {next : Standing}
    (step : m.standing.mayBecome next = true) : m.normalized.isGuardian = false := by
  obtain ⟨address, standing, flag⟩ := m
  cases standing with
  | electorate => cases step
  | unset => simp [Member.normalized]
  | pendingApproval => simp [Member.normalized]

/-- What a promoted record is worth: it serves if it is flagged afterwards. -/
theorem of_promoted (course : Course a r (.moved a .electorate :: deeds) t) :
    ∃ m, t = some m ∧ m.isGuardian = (Deed.lastFlag? a deeds).getD false := by
  cases course with
  | moved step later =>
      obtain ⟨⟨m, found, -, last⟩, -⟩ := later.of_electorate rfl
      refine ⟨m, found, last.trans ?_⟩
      exact congrArg (Deed.lastFlag? a deeds).getD (unflagged_of_mayBecome step)
  | other apart _ => exact absurd rfl apart

/-- By induction on the course: a deed that promotes nobody only comes before what follows. -/
theorem fate (course : Course a r deeds t)
    (outside : ∀ m, r = some m → m.standing ≠ .electorate) : Fate a t deeds := by
  induction course with
  | done r => exact .outside outside List.not_mem_nil
  | enrolled _ ih =>
      refine .cons (by simp) (ih ?_)
      rintro m same
      cases same
      simp [Member.pending]
  | @moved m next r deeds step rest ih =>
      by_cases promoted : next = .electorate
      · subst promoted
        exact .promoted { m.normalized with standing := .electorate } [] deeds rfl
          List.not_mem_nil rfl (unflagged_of_mayBecome step) rest
      · refine .cons (by simp [Ne.symm promoted]) (ih ?_)
        rintro m same
        cases same
        exact promoted
  | @flagged m flag _ _ _ ih =>
      refine .cons (by simp) (ih ?_)
      rintro m' same
      cases same
      exact outside m rfl
  | other apart _ ih =>
      refine .cons ?_ (ih outside)
      rintro rfl
      exact apart rfl

/-- Of a record that begins with an enrolment, a flag counts if it is the last one since the
promotion. -/
theorem serves_iff (course : Course a none deeds t) :
    (∃ m, t = some m ∧ m.isGuardian = true ∧ m.standing = .electorate) ↔
      (∃ m, t = some m ∧ m.standing = .electorate) ∧ Deed.FlaggedSincePromotion a deeds := by
  cases course.fate nofun with
  | outside stays absent =>
      constructor
      · rintro ⟨m, found, -, active⟩
        exact absurd active (stays m found)
      · rintro ⟨⟨m, found, active⟩, -⟩
        exact absurd active (stays m found)
  | promoted m early since split first active unflagged rest =>
      subst split
      obtain ⟨⟨m', rfl, active', last⟩, unmoved⟩ := rest.of_electorate active
      rw [unflagged] at last
      constructor
      · rintro ⟨_, same, flag, -⟩
        cases same
        refine ⟨⟨m', rfl, active'⟩, early, since, rfl, ?_⟩
        rw [last] at flag
        cases written : Deed.lastFlag? a since with
        | none => simp [written] at flag
        | some value => simpa [written] using flag
      · rintro ⟨-, early', since', same, written⟩
        -- The promotion is found at one place only.
        obtain ⟨-, -, rfl⟩ :=
          (List.append_cons_inj_of_notMem first (unmoved .electorate)).1 same
        refine ⟨m', rfl, ?_, active'⟩
        rw [last, written]
        rfl

end Course

/-! ## What operations do -/

namespace Host

/-- The deeds take every record from what it is in one host to what it is in the other. -/
structure Reaches (h : Host) (deeds : List Deed) (t : Host) : Prop where
  outages : t.outages = []
  course : ∀ a, Course a (h.store.member? a) deeds (t.store.member? a)

namespace Reaches

variable {h t u : Host} {deeds more : List Deed} (s : Store) (journal journal' : List Event)

theorem refl : Reaches ⟨s, [], journal⟩ [] ⟨s, [], journal'⟩ := ⟨rfl, fun a => .done (s.member? a)⟩

theorem append (first : h.Reaches deeds t) (second : t.Reaches more u) :
    h.Reaches (deeds ++ more) u :=
  ⟨second.outages, fun a => (first.course a).append (second.course a)⟩

/-- What does not touch records is no deed. -/
theorem of_same {s t : Store} (same : ∀ a, t.member? a = s.member? a) :
    Reaches ⟨s, [], journal⟩ [] ⟨t, [], journal'⟩ :=
  ⟨rfl, fun a => (same a).symm ▸ .done (s.member? a)⟩

theorem putSettings (record : Settings) :
    Reaches ⟨s, [], journal⟩ [] ⟨s.putSettings record, [], journal⟩ :=
  .of_same journal journal (Store.member?_putSettings s record)

/-- A deed is done to one record. -/
theorem of_record {s t : Store} {deed : Deed} (a : Address) (place : deed.address = a)
    (record : Course a (s.member? a) [deed] (t.member? a))
    (others : ∀ b, a ≠ b → t.member? b = s.member? b) :
    Reaches ⟨s, [], journal⟩ [deed] ⟨t, [], journal'⟩ := by
  refine ⟨rfl, fun b => ?_⟩
  by_cases here : a = b
  · subst here
    exact record
  · show Course b (s.member? b) [deed] (t.member? b)
    rw [others b here]
    exact .other (fun same => here (place.symm.trans same)) (.done _)

theorem enroll (a : Address) :
    Reaches ⟨s, [], journal⟩ (Deed.ifDone (.enrolled a) ((Roll.enroll a).runOn ⟨s, [], journal⟩).1)
      ((Roll.enroll a).runOn ⟨s, [], journal⟩).2 := by
  rw [Roll.runOn_enroll]
  split
  · exact .refl ..
  rename_i absent
  split
  · exact .refl ..
  split
  · exact .refl ..
  · have new : s.member? a = none := by simpa [Store.hasMember_eq] using absent
    refine .of_record journal _ a rfl ?_ fun b apart => ?_
    · rw [Store.member?_enrolled, if_pos rfl, new]
      exact .enrolled (.done _)
    · rw [Store.member?_enrolled, if_neg apart]

theorem transition (a : Address) (next : Standing) (operator : String) :
    Reaches ⟨s, [], journal⟩
      (Deed.ifDone (.moved a next) ((Roll.transition a next operator).runOn ⟨s, [], journal⟩).1)
      ((Roll.transition a next operator).runOn ⟨s, [], journal⟩).2 := by
  rw [Roll.runOn_transition]
  cases found : s.member? a with
  | none => exact .refl ..
  | some m =>
      dsimp only
      split
      · exact .refl ..
      rename_i step
      split
      · exact .refl ..
      split
      · exact .refl ..
      · have place : m.normalized.address = a :=
          show m.address = a from Store.address_of_member? found
        refine .of_record journal _ a rfl ?_ fun b apart => ?_
        · rw [Store.member?_moved, if_pos place, found]
          exact .moved (by simpa using step) (.done _)
        · rw [Store.member?_moved, if_neg fun same => apart (place.symm.trans same)]

theorem setGuardianFlag (a : Address) (flag : Bool) :
    Reaches ⟨s, [], journal⟩
      (Deed.ifDone (.flagged a flag) ((Roll.setGuardianFlag a flag).runOn ⟨s, [], journal⟩).1)
      ((Roll.setGuardianFlag a flag).runOn ⟨s, [], journal⟩).2 := by
  rw [Roll.runOn_setGuardianFlag]
  cases found : s.member? a with
  | none => exact .refl ..
  | some m =>
      have place : m.address = a := Store.address_of_member? found
      refine .of_record journal _ a rfl ?_ fun b apart => ?_
      · rw [Store.member?_putMember, if_pos place, found]
        exact .flagged (.done _)
      · rw [Store.member?_putMember, if_neg fun same => apart (place.symm.trans same)]

/-- By induction on the batch: the flags that are written are the deeds. -/
theorem flagAll (flag : Bool) (batch : List Address) :
    Reaches ⟨s, [], journal⟩ (flagDeeds ⟨s, [], journal⟩ flag batch)
      ((Guardians.flagAll flag batch).runOn ⟨s, [], journal⟩).2 := by
  induction batch generalizing s with
  | nil => exact .refl ..
  | cons a rest ih =>
      have first := setGuardianFlag s journal a flag
      simp only [Guardians.flagAll, flagDeeds, Action.runOn_bind]
      rw [Roll.runOn_setGuardianFlag] at first ⊢
      cases found : s.member? a with
      | none => exact .refl ..
      | some m =>
          rw [found] at first
          exact first.append (ih (s.putMember { m with isGuardian := flag }))

/-- A batch reads the settings, writes the flags, and then the list, which is no deed. -/
theorem batch (flag : Bool) (members : List Address) (list : Settings → Settings) :
    Reaches ⟨s, [], journal⟩ (batchDeeds ⟨s, [], journal⟩ flag members)
      ((do
        let record ← Guardians.settings
        Guardians.flagAll flag members
        Host.writeSettings (list record) : Action Host Unit).runOn ⟨s, [], journal⟩).2 := by
  have flags := flagAll s journal flag members
  simp only [batchDeeds, Action.runOn_bind, Guardians.runOn_settings]
  cases found : s.settings? with
  | none => exact .refl ..
  | some record =>
      simp only [Action.andThen_ok, Action.runOn_bind]
      generalize (Guardians.flagAll flag members).runOn ⟨s, [], journal⟩ = run at flags ⊢
      obtain ⟨answer, t, outages, journal'⟩ := run
      obtain rfl : outages = [] := flags.outages
      cases answer with
      | error e => exact flags
      | ok _ =>
          have listed := flags.append (putSettings t journal' (list record))
          rw [List.append_nil] at listed
          exact listed

end Reaches

end Host

/-- The deeds of a direct operation are all that it does to records. -/
theorem Operation.reaches {op : Operation} (direct : op.isDirect = true) (s : Store)
    (journal : List Event) :
    Host.Reaches ⟨s, [], journal⟩ (op.deeds ⟨s, [], journal⟩)
      (op.act.runOn ⟨s, [], journal⟩).2 := by
  cases op with
  | call c => cases direct
  | register a =>
      simp only [act, Action.runOn_bind, Action.snd_andThen_pure]
      exact .enroll s journal a
  | move a next operator =>
      simp only [act, Action.runOn_bind, Action.snd_andThen_pure]
      exact .transition s journal a next operator
  | setFlag a flag => exact .setGuardianFlag s journal a flag
  | name a nickname =>
      simp only [act, deeds]
      rw [Roll.runOn_setNickname]
      split
      · exact .of_same journal journal fun b => Store.member?_insert ..
      · exact .refl ..
  | setUp weight =>
      simp only [act, deeds]
      rw [Guardians.runOn_setUp]
      split
      · exact .putSettings ..
      · exact .refl ..
  | setWeight weight =>
      simp only [act, deeds, Action.runOn_bind, Action.snd_andThen_pure]
      rw [Guardians.runOn_setWeight]
      split
      · split
        · exact .putSettings ..
        · exact .refl ..
      · exact .refl ..
  | attach members => exact .batch s journal true members _
  | detach members => exact .batch s journal false members _
  | reconcile =>
      simp only [act, deeds, Action.runOn_bind, Action.snd_andThen_pure]
      rw [Guardians.runOn_reconcile]
      cases s.settings? with
      | none => exact .refl ..
      | some record =>
          dsimp only
          split
          · exact .refl ..
          · exact .putSettings ..

/-- By induction on the operations: the deeds are all that is done to records. -/
theorem Host.reaches_afterOperations {operations : List Operation}
    (direct : ∀ op ∈ operations, op.isDirect = true) {h : Host} (running : h.outages = []) :
    h.Reaches (h.deeds operations) (h.afterOperations operations) := by
  induction operations generalizing h with
  | nil =>
      obtain ⟨s, outages, journal⟩ := h
      cases running
      exact .refl ..
  | cons op rest ih =>
      obtain ⟨s, outages, journal⟩ := h
      cases running
      have first := Operation.reaches (direct op List.mem_cons_self) s journal
      exact first.append (ih (fun other inRest => direct other (List.mem_cons_of_mem _ inRest))
        first.outages)

/-! ## Which flags count -/

/-- In every history of the roll and the guardian set, a member serves exactly if it is in the
electorate and the last flag written on its record since its promotion is set.  So whatever was
flagged or listed before, a promoted member does not serve until its record is flagged anew. -/
theorem flags_count_since_promotion (operations : List Operation)
    (direct : ∀ op ∈ operations, op.isDirect = true) (a : Address) :
    let h := Host.fresh.afterOperations operations
    (∃ serves, (Guardians.isGuardian a).runOn h = (.ok serves, h) ∧
      (serves = true ↔
        (∃ m, h.store.member? a = some m ∧ m.standing = .electorate) ∧
          Deed.FlaggedSincePromotion a (Host.fresh.deeds operations))) ∧
    ∀ operator m promoted later,
      (Roll.transition a .electorate operator).runOn h = (.ok m, promoted) →
      (∀ op ∈ later, op.isDirect = true) → Deed.lastFlag? a (promoted.deeds later) = none →
      ((Guardians.isGuardian a).runOn (promoted.afterOperations later)).1 = .ok false ∧
        ∀ serving, (Guardians.confirmed.runOn (promoted.afterOperations later)).1 = .ok serving →
          a ∉ serving := by
  intro h
  have whole : Host.fresh.Reaches (Host.fresh.deeds operations) h :=
    Host.reaches_afterOperations direct rfl
  generalize h = h at whole ⊢
  obtain ⟨s, outages, journal⟩ := h
  obtain rfl : outages = [] := whole.outages
  constructor
  · refine ⟨s.isGuardian a, Guardians.runOn_isGuardian s journal a, ?_⟩
    rw [Store.isGuardian_iff]
    exact (whole.course a).serves_iff
  · intro operator m promoted later moved direct' unwritten
    have step := Host.Reaches.transition s journal a .electorate operator
    rw [moved] at step
    have rest : promoted.Reaches (promoted.deeds later) (promoted.afterOperations later) :=
      Host.reaches_afterOperations direct' step.outages
    have course : Course a (s.member? a) (.moved a .electorate :: promoted.deeds later)
        ((promoted.afterOperations later).store.member? a) := (step.append rest).course a
    obtain ⟨m', found, last⟩ := course.of_promoted
    rw [unwritten] at last
    generalize promoted.afterOperations later = u at rest found ⊢
    obtain ⟨t, outages, journal'⟩ := u
    obtain rfl : outages = [] := rest.outages
    have idle : t.isGuardian a = false := by
      rw [Store.isGuardian, found, Option.any_some, last]
      rfl
    constructor
    · rw [Guardians.runOn_isGuardian, idle]
    · intro serving confirmed inside
      rw [Guardians.runOn_confirmed] at confirmed
      cases settings : t.settings? with
      | none => simp [settings] at confirmed
      | some record =>
          simp only [settings, Except.ok.injEq] at confirmed
          subst confirmed
          simp [idle] at inside

/-- A pending member is flagged, and then listed. -/
def Operation.tooEarly : List Operation :=
  [.setUp .half, .register ⟨"civ_a"⟩, .setFlag ⟨"civ_a"⟩ true, .attach [⟨"civ_a"⟩]]

/-- Promoted afterwards, it does not serve; flagged once more, it does. -/
theorem flags_count_since_promotion_early :
    ((Guardians.isGuardian ⟨"civ_a"⟩).runOn (Host.fresh.afterOperations
      (Operation.tooEarly ++ [.move ⟨"civ_a"⟩ .electorate "civ_x"]))).1 = .ok false ∧
    ((Guardians.isGuardian ⟨"civ_a"⟩).runOn (Host.fresh.afterOperations
      (Operation.tooEarly ++ [.move ⟨"civ_a"⟩ .electorate "civ_x",
        .setFlag ⟨"civ_a"⟩ true]))).1 = .ok true := by
  constructor
  · have ok : ((Roll.transition ⟨"civ_a"⟩ .electorate "civ_x").runOn
        (Host.fresh.afterOperations Operation.tooEarly)).1 =
          .ok ⟨⟨"civ_a"⟩, .electorate, false⟩ := by
      decide +kernel
    obtain ⟨-, idle⟩ :=
      flags_count_since_promotion Operation.tooEarly (by decide) ⟨"civ_a"⟩
    exact (idle "civ_x" _ _ [] (Prod.ext ok rfl) (by simp) rfl).1
  · have written : Host.fresh.deeds (Operation.tooEarly ++ [.move ⟨"civ_a"⟩ .electorate "civ_x",
        .setFlag ⟨"civ_a"⟩ true]) =
          [.enrolled ⟨"civ_a"⟩, .flagged ⟨"civ_a"⟩ true, .flagged ⟨"civ_a"⟩ true] ++
            .moved ⟨"civ_a"⟩ .electorate :: [.flagged ⟨"civ_a"⟩ true] := by
      decide +kernel
    have active : (Host.fresh.afterOperations (Operation.tooEarly ++
        [.move ⟨"civ_a"⟩ .electorate "civ_x", .setFlag ⟨"civ_a"⟩ true])).store.member? ⟨"civ_a"⟩ =
          some ⟨⟨"civ_a"⟩, .electorate, true⟩ := by
      decide +kernel
    obtain ⟨⟨serves, asked, exactly⟩, -⟩ := flags_count_since_promotion (Operation.tooEarly ++
      [.move ⟨"civ_a"⟩ .electorate "civ_x", .setFlag ⟨"civ_a"⟩ true]) (by decide) ⟨"civ_a"⟩
    rw [asked, exactly.2 ⟨⟨_, active, rfl⟩, _, _, written, rfl⟩]

end Suffrage
