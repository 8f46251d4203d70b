/-
# Suffrage.Proofs.Session -- sequences of calls

A host may call the electorate in any order and with any arguments.  `Call` lists what it
may ask of the assembly and of its own ballot store; a call that fails leaves what it had
written, and the session goes on.  `Host.after` is the host when all calls of a list have
been made, and `Host.fresh.after calls` is what a session that starts from nothing leads to.

`Operation` adds the direct operations on the roll and on the guardian set, which no
check of the assembly guards.

A property of the store that every change of the roll, of the settings and of the markers
keeps (`Stable`) is kept by every operation (`Stable.keeps_operation`), whatever the
operation answers.  The ballots that calls bring in are left to each property.  `Steady` is the
part of it that says nothing of marking and sweeping.
-/
import Suffrage.Proofs.Guardians

namespace Suffrage

set_option autoImplicit false

namespace Host

/-- Stores a ballot; no outage stops it. -/
def cast (ballot : Ballot) : Action Host Unit :=
  modify fun h => { h with store := h.store.cast ballot }

/-- Takes out the marked ballots on a proposal; says how many there were. -/
def sweep (proposal : ProposalId) : Action Host Nat :=
  modifyGet fun h =>
    ((h.store.sweep proposal).1, { h with store := (h.store.sweep proposal).2 })

end Host

/-- What a host asks of the assembly, and of its ballots. -/
inductive Call where
  | found (genesis : Genesis)
  | enroll (address : String) (nickname : Option String)
  | approve (approver member : String)
  | enact (motion : Motion)
  | tally (rules : Rules) (proposal : ProposalId)
  | cast (ballot : Ballot)
  | sweep (proposal : ProposalId)
  deriving DecidableEq, Repr

/-- The call as an action; its answer is left out. -/
def Call.act : Call → Action Host Unit
  | .found genesis => Assembly.found genesis
  | .enroll address nickname => do let _ ← Assembly.enroll address nickname
  | .approve approver member => do let _ ← Assembly.approve approver member
  | .enact motion => do let _ ← motion.enact
  | .tally rules proposal => do let _ ← Assembly.tally rules proposal
  | .cast ballot => Host.cast ballot
  | .sweep proposal => do let _ ← Host.sweep proposal

/-- What can be done to the roll and the guardian set, guarded or not. -/
inductive Operation where
  | call (c : Call)
  | register (address : Address)
  | move (address : Address) (next : Standing) (operator : String)
  | setFlag (address : Address) (flag : Bool)
  | name (address : Address) (nickname : String)
  | setUp (weight : Decimal)
  | setWeight (weight : Decimal)
  | attach (addresses : List Address)
  | detach (addresses : List Address)
  | reconcile
  deriving DecidableEq, Repr

/-- The operation as an action; its answer is left out. -/
def Operation.act : Operation → Action Host Unit
  | .call c => c.act
  | .register address => do let _ ← Roll.enroll address
  | .move address next operator => do let _ ← Roll.transition address next operator
  | .setFlag address flag => Roll.setGuardianFlag address flag
  | .name address nickname => Roll.setNickname address nickname
  | .setUp weight => Guardians.setUp weight
  | .setWeight weight => do let _ ← Guardians.setWeight weight
  | .attach addresses => Guardians.attach addresses
  | .detach addresses => Guardians.detach addresses
  | .reconcile => do let _ ← Guardians.reconcile

/-- The host when these calls have been made, the failing ones included. -/
def Host.after (h : Host) (calls : List Call) : Host :=
  calls.foldl (fun h c => (c.act.runOn h).2) h

/-- The host when these operations have been carried out, the failing ones included. -/
def Host.afterOperations (h : Host) (operations : List Operation) : Host :=
  operations.foldl (fun h op => (op.act.runOn h).2) h

/-! ## What reads and checks keep -/

namespace Action.Keeps

variable {P : Store → Prop}

theorem find? (a : Address) : Keeps P (Roll.find? a) :=
  (Keeps.reading _ _).bind fun _ => .pure _

theorem require (a : Address) : Keeps P (Roll.require a) := by
  refine (Keeps.find? a).bind fun m => ?_
  cases m with
  | none => exact .refuse _
  | some m => exact .pure _

theorem isMember (a : Address) : Keeps P (Roll.isMember a) := .reading _ _

theorem standingCount (standing : Standing) : Keeps P (Roll.standingCount standing) :=
  .reading _ _

theorem settings : Keeps P Guardians.settings := by
  refine (Keeps.reading _ _).bind fun record => ?_
  cases record with
  | none => exact .refuse _
  | some record => exact .pure _

theorem isInitialized : Keeps P Guardians.isInitialized :=
  (Keeps.reading _ _).bind fun _ => .pure _

theorem isGuardian (a : Address) : Keeps P (Guardians.isGuardian a) :=
  (Keeps.find? a).bind fun _ => .pure _

theorem confirmedAmong (addresses : List Address) :
    Keeps P (Guardians.confirmedAmong addresses) := by
  induction addresses with
  | nil => exact .pure _
  | cons a rest ih => exact (Keeps.isGuardian a).bind fun _ => ih.bind fun _ => .pure _

theorem confirmed : Keeps P Guardians.confirmed :=
  Keeps.settings.bind fun record => .confirmedAmong record.guardians

theorem weight : Keeps P Guardians.weight := Keeps.settings.bind fun _ => .pure _

theorem authorize (creator : String) : Keeps P (Motion.authorize creator) :=
  (Keeps.lift _).bind fun address => (Keeps.isGuardian address).bind fun _ => .check (.pure _)

theorem checkAll {check : Address → Action Host Unit} (keeps : ∀ a, Keeps P (check a))
    (candidates : List Address) : Keeps P (Motion.checkAll check candidates) := by
  induction candidates with
  | nil => exact .pure _
  | cons a rest ih => exact (keeps a).bind fun _ => ih

theorem checkEligible (a : Address) : Keeps P (Motion.checkEligible a) := by
  refine (Keeps.find? a).bind fun m => ?_
  cases m with
  | none => exact .refuse _
  | some m => exact .check (.ite (.refuse _) (.pure _))

theorem checkServing (a : Address) : Keeps P (Motion.checkServing a) := by
  refine (Keeps.isMember a).bind fun held => .check ?_
  exact (Keeps.isGuardian a).bind fun _ => .ite (.refuse _) (.pure _)

/-! ## What the assembly keeps -/

theorem assemblyEnroll (enroll : ∀ a, Keeps P (Roll.enroll a))
    (name : ∀ a text, Keeps P (Roll.setNickname a text)) (address : String)
    (nickname : Option String) : Keeps P (Assembly.enroll address nickname) := by
  refine (Keeps.value _).bind fun a => (enroll a).bind fun member => ?_
  cases nickname.filter (!·.isEmpty) with
  | none => exact .pure _
  | some text => exact (name a text).bind fun _ => .pure _

theorem approve (transition : ∀ a next operator, Keeps P (Roll.transition a next operator))
    (approver member : String) : Keeps P (Assembly.approve approver member) := by
  refine (Keeps.value _).bind fun guardian => (Keeps.value _).bind fun candidate =>
    (Keeps.isGuardian guardian).bind fun _ => .check ?_
  exact (transition _ _ _).bind fun _ => (Keeps.announce _).bind fun _ => .pure _

theorem admitAll (enroll : ∀ a, Keeps P (Roll.enroll a))
    (transition : ∀ a next operator, Keeps P (Roll.transition a next operator))
    (name : ∀ a text, Keeps P (Roll.setNickname a text)) (founders : List Founder) :
    Keeps P (Assembly.admitAll founders) := by
  induction founders with
  | nil => exact .pure _
  | cons founder rest ih =>
      exact (Keeps.assemblyEnroll enroll name _ _).bind fun _ =>
        (transition _ _ _).bind fun _ => ih.bind fun _ => .pure _

theorem classify (proposal : ProposalId) (ballot : Ballot) :
    Keeps P (Collection.classify proposal ballot) := by
  refine .check ((Keeps.require ballot.voter).bind fun m => .check ?_)
  exact (Keeps.lift _).bind fun _ => .pure _

theorem judge (proposal : ProposalId) (repeated : Bool) (ballot : Ballot) :
    Keeps P (Collection.judge proposal repeated ballot) :=
  .ite (.pure _) (.reread _ (.classify proposal ballot))

theorem collectFrom {proposal : ProposalId} {ballots : List Ballot}
    (mark : ∀ ballot ∈ ballots, ∀ s, P s → P (s.mark proposal ballot.voter))
    (previous : Option Address) (report : Collection) :
    Keeps P (Collection.collectFrom .store proposal previous report ballots) := by
  induction ballots generalizing previous report with
  | nil => exact .pure _
  | cons ballot rest ih =>
      exact (Keeps.judge proposal _ ballot).bind fun _ =>
        (Keeps.writing (mark ballot List.mem_cons_self)).bind fun _ =>
          ih (fun other inRest => mark other (List.mem_cons_of_mem _ inRest)) _ _

theorem power : Keeps P Tally.power :=
  (Keeps.standingCount _).bind fun _ => Keeps.confirmed.bind fun _ =>
    Keeps.weight.bind fun _ => .lift _

/-- A tally writes markers only, and only for the voters of the ballots that it reads. -/
theorem tally {rules : Rules} {proposal : ProposalId}
    (mark : ∀ s, P s → ∀ ballot ∈ s.ballots proposal, ∀ t, P t → P (t.mark proposal ballot.voter)) :
    Keeps P (Assembly.tally rules proposal) := by
  refine Keeps.power.bind fun _ => Keeps.bind ?_ fun _ => .lift _
  refine .intro fun s journal holds => ?_
  have each : ∀ ballot ∈ Collection.inVoterOrder (s.ballots proposal), ∀ t, P t →
      P (t.mark proposal ballot.voter) :=
    fun ballot inside => mark s holds ballot (List.mem_mergeSort.1 inside)
  exact Keeps.collectFrom each none .empty ⟨s, [], journal⟩ ⟨rfl, holds⟩

end Action.Keeps

/-! ## What every operation keeps -/

open Suffrage.Action (Keeps)

/-- Every change of the roll and of the settings keeps `P`. -/
structure Steady (P : Store → Prop) : Prop where
  enroll : ∀ a, Keeps P (Roll.enroll a)
  transition : ∀ a next operator, Keeps P (Roll.transition a next operator)
  setGuardianFlag : ∀ a flag, Keeps P (Roll.setGuardianFlag a flag)
  setNickname : ∀ a text, Keeps P (Roll.setNickname a text)
  putSettings : ∀ s record, P s → P (s.putSettings record)

/-- Marking and sweeping keep `P` too. -/
structure Stable (P : Store → Prop) : Prop extends Steady P where
  mark : ∀ s proposal voter, P s → P (s.mark proposal voter)
  sweep : ∀ s proposal, P s → P (s.sweep proposal).2

namespace Steady

variable {P : Store → Prop} (steady : Steady P)
include steady

theorem keeps_writeSettings (record : Settings) : Keeps P (Host.writeSettings record) :=
  .writing fun s => steady.putSettings s record

theorem keeps_flagAll (flag : Bool) (addresses : List Address) :
    Keeps P (Guardians.flagAll flag addresses) := by
  induction addresses with
  | nil => exact .pure _
  | cons a rest ih => exact (steady.setGuardianFlag a flag).bind fun _ => ih

theorem keeps_attach (addresses : List Address) : Keeps P (Guardians.attach addresses) :=
  Keeps.settings.bind fun _ => (steady.keeps_flagAll true addresses).bind fun _ =>
    steady.keeps_writeSettings _

theorem keeps_detach (addresses : List Address) : Keeps P (Guardians.detach addresses) :=
  Keeps.settings.bind fun _ => (steady.keeps_flagAll false addresses).bind fun _ =>
    steady.keeps_writeSettings _

theorem keeps_setUp (weight : Decimal) : Keeps P (Guardians.setUp weight) :=
  (Keeps.lift _).bind fun _ => steady.keeps_writeSettings _

theorem keeps_setWeight (weight : Decimal) : Keeps P (Guardians.setWeight weight) :=
  (Keeps.lift _).bind fun _ => Keeps.settings.bind fun _ =>
    (steady.keeps_writeSettings _).bind fun _ => .pure _

theorem keeps_reconcile : Keeps P Guardians.reconcile := by
  refine Keeps.settings.bind fun record => Keeps.confirmed.bind fun kept => ?_
  exact .ite ((steady.keeps_writeSettings _).bind fun _ => .pure _) (.pure _)

theorem keeps_enact (motion : Motion) : Keeps P motion.enact := by
  unfold Motion.enact
  cases motion.demand with
  | addGuardians raw =>
      exact (Keeps.authorize _).bind fun _ => (Keeps.lift _).bind fun candidates =>
        (Keeps.checkAll .checkEligible candidates).bind fun _ =>
          (steady.keeps_attach candidates).bind fun _ => (Keeps.announce _).bind fun _ => .pure _
  | removeGuardians raw =>
      refine (Keeps.authorize _).bind fun _ => (Keeps.lift _).bind fun candidates =>
        (Keeps.checkAll .checkServing candidates).bind fun _ =>
          Keeps.confirmed.bind fun _ => .check ?_
      exact (steady.keeps_detach candidates).bind fun _ => (Keeps.announce _).bind fun _ => .pure _
  | setWeight weight =>
      exact ((Keeps.authorize _).bind fun _ => (steady.keeps_setWeight weight).bind fun _ =>
        Keeps.announce _).bind fun _ => .pure _

theorem keeps_found (genesis : Genesis) : Keeps P (Assembly.found genesis) := by
  refine (Keeps.lift _).bind fun _ => Keeps.isInitialized.bind fun _ => .check ?_
  exact (steady.keeps_setUp _).bind fun _ =>
    (Keeps.admitAll steady.enroll steady.transition steady.setNickname _).bind fun _ =>
      steady.keeps_attach _

theorem keeps_assemblyEnroll (address : String) (nickname : Option String) :
    Keeps P (Assembly.enroll address nickname) :=
  .assemblyEnroll steady.enroll steady.setNickname address nickname

theorem keeps_approve (approver member : String) : Keeps P (Assembly.approve approver member) :=
  .approve steady.transition approver member

end Steady

namespace Stable

variable {P : Store → Prop} (stable : Stable P)
include stable

/-- What every change keeps is kept by every call that brings in no ballot against it. -/
theorem keeps_call (c : Call) (cast : ∀ ballot, c = .cast ballot → ∀ s, P s → P (s.cast ballot)) :
    Keeps P c.act := by
  cases c with
  | found genesis => exact stable.keeps_found genesis
  | enroll address nickname =>
      exact (stable.keeps_assemblyEnroll address nickname).bind fun _ => .pure _
  | approve approver member => exact (stable.keeps_approve approver member).bind fun _ => .pure _
  | enact motion => exact (stable.keeps_enact motion).bind fun _ => .pure _
  | tally rules proposal =>
      refine (Keeps.tally fun s _ ballot _ => ?_).bind fun _ => .pure _
      exact fun t => stable.mark t proposal ballot.voter
  | cast ballot => exact fun h holds => ⟨holds.1, cast ballot rfl h.store holds.2⟩
  | sweep proposal => exact fun h holds => ⟨holds.1, stable.sweep h.store proposal holds.2⟩

theorem keeps_operation (op : Operation)
    (cast : ∀ ballot, op = .call (.cast ballot) → ∀ s, P s → P (s.cast ballot)) :
    Keeps P op.act := by
  cases op with
  | call c => exact stable.keeps_call c fun ballot same => cast ballot (same ▸ rfl)
  | register address => exact (stable.enroll address).bind fun _ => .pure _
  | move address next operator =>
      exact (stable.transition address next operator).bind fun _ => .pure _
  | setFlag address flag => exact stable.setGuardianFlag address flag
  | name address nickname => exact stable.setNickname address nickname
  | setUp weight => exact stable.keeps_setUp weight
  | setWeight weight => exact (stable.keeps_setWeight weight).bind fun _ => .pure _
  | attach addresses => exact stable.keeps_attach addresses
  | detach addresses => exact stable.keeps_detach addresses
  | reconcile => exact stable.keeps_reconcile.bind fun _ => .pure _

end Stable

/-! ## What no write touches -/

/-- Whether an entry is a ballot. -/
def Entry.isBallot : Entry → Bool
  | .ballot _ => true
  | _ => false

/-- It is enough to look at single entries that are written. -/
theorem Steady.of_writes {P : Store → Prop}
    (write : ∀ s (e : Entry), e.key.ofBallot = false → P s → P (s.insert e)) : Steady P where
  enroll a :=
    (Keeps.isMember a).bind fun _ => .check <|
      (Keeps.reading .readMemberCount _).bind fun _ => (Keeps.lift _).bind fun _ =>
        (Keeps.standingCount _).bind fun _ => (Keeps.lift _).bind fun _ =>
          (Keeps.writing fun s => write s _ rfl).bind fun _ =>
            (Keeps.writing fun s => write s _ rfl).bind fun _ =>
              (Keeps.writing fun s => write s _ rfl).bind fun _ =>
                (Keeps.announce _).bind fun _ => .pure _
  transition a next operator :=
    (Keeps.require a).bind fun m => .check <|
      (Keeps.standingCount _).bind fun _ => (Keeps.lift _).bind fun _ =>
        (Keeps.standingCount _).bind fun _ => (Keeps.lift _).bind fun _ =>
          (Keeps.writing fun s => write s _ rfl).bind fun _ =>
            (Keeps.writing fun s => write s _ rfl).bind fun _ =>
              (Keeps.writing fun s => write s _ rfl).bind fun _ =>
                (Keeps.announce _).bind fun _ => .pure _
  setGuardianFlag a flag := by
    refine (Keeps.reading .readMember _).bind fun m => ?_
    cases m with
    | none => exact .refuse _
    | some m => exact .writing fun s => write s _ rfl
  setNickname a text := (Keeps.isMember a).bind fun _ => .check (.writing fun s => write s _ rfl)
  putSettings s _ := write s _ rfl

/-- The roll and the settings are written apart from the ballots and their markers. -/
theorem steady_sameBallots (s : Store) : Steady s.SameBallots :=
  .of_writes fun _ _ kind same => same.insert kind

/-- Beside them it is enough to look at keys that are taken out. -/
theorem Stable.of_writes {P : Store → Prop}
    (write : ∀ s (e : Entry), e.isBallot = false → P s → P (s.insert e))
    (erase : ∀ s k, P s → P (s.erase k)) : Stable P where
  toSteady := .of_writes fun s e kind => write s e (by cases e <;> first | rfl | cases kind)
  mark s _ _ := write s _ rfl
  sweep s proposal holds := by
    unfold Store.sweep
    generalize s.marked proposal = voters
    suffices all : ∀ n (t : Store), P t → P (voters.foldl (Store.sweepVoter proposal) (n, t)).2 from
      all 0 s holds
    induction voters with
    | nil => exact fun _ _ kept => kept
    | cons voter rest ih => exact fun n t kept => ih _ _ (erase _ _ (erase t _ kept))

/-! ## Sequences -/

theorem Host.after_append (h : Host) (calls more : List Call) :
    h.after (calls ++ more) = (h.after calls).after more := List.foldl_append ..

variable {P : Store → Prop}

/-- What each of the calls keeps holds after all of them. -/
theorem holds_after {calls : List Call} (keeps : ∀ c ∈ calls, Keeps P c.act) {h : Host}
    (start : Action.Holds P h) : Action.Holds P (h.after calls) := by
  induction calls generalizing h with
  | nil => exact start
  | cons c rest ih =>
      exact ih (fun d inRest => keeps d (List.mem_cons_of_mem _ inRest))
        (keeps c List.mem_cons_self h start)

theorem holds_afterOperations {operations : List Operation}
    (keeps : ∀ op ∈ operations, Keeps P op.act) {h : Host} (start : Action.Holds P h) :
    Action.Holds P (h.afterOperations operations) := by
  induction operations generalizing h with
  | nil => exact start
  | cons op rest ih =>
      exact ih (fun o inRest => keeps o (List.mem_cons_of_mem _ inRest))
        (keeps op List.mem_cons_self h start)

end Suffrage
