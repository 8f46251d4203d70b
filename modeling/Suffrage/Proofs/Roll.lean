/-
# Suffrage.Proofs.Roll -- the counters of the roll are exact

Every change of the roll is one equation for its whole run on a host without outages
(`Roll.runOn_enroll`, `Roll.runOn_transition`, `Roll.runOn_setGuardianFlag`): the checks in
their order, each with its refusal and an untouched host, and then all writes at once.

`Store.Counted` says that the member counter is the number of records and that the counter
of each standing is the number of records of that standing.  An enrolment adds a record
where there was none, a transition moves one record between two standings, and neither
counter of a transition can be at its limit, since a member is there to be moved.
-/
import Suffrage.Proofs.Action
import Suffrage.Proofs.Store

namespace Suffrage

set_option autoImplicit false

/-! ## Changes of the roll, as functions on the store -/

namespace Store

/-- The store with a new pending member. -/
def enrolled (s : Store) (a : Address) : Store :=
  ((s.putMember (.pending a)).setMemberCount (s.memberCount + 1)).setStandingCount
    .pendingApproval (s.standingCount .pendingApproval + 1)

/-- The store with a member moved to the next standing. -/
def moved (s : Store) (m : Member) (next : Standing) : Store :=
  ((s.putMember { m with standing := next }).setStandingCount m.standing
    (s.standingCount m.standing - 1)).setStandingCount next (s.standingCount next + 1)

/-- The counters of these standings, added up without a limit. -/
def totalOf (s : Store) : List Standing → Nat
  | [] => 0
  | standing :: rest => (s.standingCount standing).toNat + s.totalOf rest

variable (s : Store)

theorem memberCount_enrolled (a : Address) : (s.enrolled a).memberCount = s.memberCount + 1 := by
  simp [enrolled, setStandingCount, setMemberCount, memberCount_insert]

theorem standingCount_enrolled (a : Address) (standing : Standing) :
    (s.enrolled a).standingCount standing =
      if Standing.pendingApproval = standing then s.standingCount .pendingApproval + 1
      else s.standingCount standing := by
  simp [enrolled, setStandingCount, setMemberCount, putMember, standingCount_insert]

theorem memberCount_moved (m : Member) (next : Standing) :
    (s.moved m next).memberCount = s.memberCount := by
  simp [moved, setStandingCount, putMember, memberCount_insert]

theorem standingCount_moved (m : Member) (next standing : Standing) :
    (s.moved m next).standingCount standing =
      if next = standing then s.standingCount next + 1
      else if m.standing = standing then s.standingCount m.standing - 1
      else s.standingCount standing := by
  simp [moved, setStandingCount, putMember, standingCount_insert]

end Store

namespace Roll

variable (s : Store) (journal : List Event)

@[simp] theorem runOn_find? (a : Address) :
    (find? a).runOn ⟨s, [], journal⟩ =
      (.ok ((s.member? a).map Member.normalized), ⟨s, [], journal⟩) := by
  simp [find?, Host.readMember]

@[simp] theorem runOn_require (a : Address) :
    (require a).runOn ⟨s, [], journal⟩ =
      match s.member? a with
      | some m => (.ok m.normalized, ⟨s, [], journal⟩)
      | none => (.error (.refused (.unknownMember a.text)), ⟨s, [], journal⟩) := by
  cases found : s.member? a <;> simp [require, found]

@[simp] theorem runOn_isMember (a : Address) :
    (isMember a).runOn ⟨s, [], journal⟩ = (.ok (s.hasMember a), ⟨s, [], journal⟩) := by
  simp [isMember, Host.hasMember]

@[simp] theorem runOn_memberCount :
    memberCount.runOn ⟨s, [], journal⟩ = (.ok s.memberCount, ⟨s, [], journal⟩) := by
  simp [memberCount, Host.readMemberCount]

@[simp] theorem runOn_standingCount (standing : Standing) :
    (standingCount standing).runOn ⟨s, [], journal⟩ =
      (.ok (s.standingCount standing), ⟨s, [], journal⟩) := by
  simp [standingCount, Host.readStandingCount]

/-- An enrolment checks the address and both counters, and then writes. -/
theorem runOn_enroll (a : Address) :
    (enroll a).runOn ⟨s, [], journal⟩ =
      if s.hasMember a then
        (.error (.refused (.alreadyEnrolled a.text)), ⟨s, [], journal⟩)
      else if s.memberCount = maxCount then
        (.error (.refused (.brokenInvariant "member count overflow")), ⟨s, [], journal⟩)
      else if s.standingCount .pendingApproval = maxCount then
        (.error (.refused (.brokenInvariant "pending count overflow")), ⟨s, [], journal⟩)
      else (.ok (.pending a), ⟨s.enrolled a, [], journal ++ [.memberEnrolled a]⟩) := by
  simp only [enroll, Action.runOn_bind, runOn_isMember, Action.andThen_ok]
  split
  · rfl
  · simp only [Action.runOn_bind, runOn_memberCount, Action.andThen_ok, Action.runOn_lift,
      increment]
    split
    · rfl
    · simp only [Action.andThen_ok, Action.runOn_bind, runOn_standingCount, Action.runOn_lift,
        Member.pending]
      split
      · rfl
      · rfl

/-- A transition checks the member, the step and both counters, and then writes. -/
theorem runOn_transition (a : Address) (next : Standing) (operator : String) :
    (transition a next operator).runOn ⟨s, [], journal⟩ =
      match s.member? a with
      | none => (.error (.refused (.unknownMember a.text)), ⟨s, [], journal⟩)
      | some m =>
          if !m.standing.mayBecome next then
            (.error (.refused (.forbiddenTransition m.standing next)), ⟨s, [], journal⟩)
          else if s.standingCount m.standing = 0 then
            (.error (.refused (.brokenInvariant
              (m.standing.label ++ " count is zero while " ++ a.text ++ " holds it"))),
              ⟨s, [], journal⟩)
          else if s.standingCount next = maxCount then
            (.error (.refused (.brokenInvariant "status count overflow")), ⟨s, [], journal⟩)
          else
            (.ok { m.normalized with standing := next },
              ⟨s.moved m.normalized next, [],
                journal ++ [.standingChanged a m.standing next operator]⟩) := by
  cases found : s.member? a with
  | none => simp [transition, found]
  | some m =>
      simp only [transition, Action.runOn_bind, runOn_require, found, Action.andThen_ok]
      split
      · simp_all [Member.normalized]
      · simp only [Action.runOn_bind, runOn_standingCount, Action.andThen_ok, Action.runOn_lift,
          decrement, Member.normalized]
        split
        · simp_all [Member.normalized]
        · simp only [Action.andThen_ok, Action.runOn_bind, runOn_standingCount,
            Action.runOn_lift, increment]
          split
          · simp_all [Member.normalized]
          · simp_all [Member.normalized, Host.writeMember, Host.writeStandingCount, Store.moved]

theorem runOn_setGuardianFlag (a : Address) (flag : Bool) :
    (setGuardianFlag a flag).runOn ⟨s, [], journal⟩ =
      match s.member? a with
      | none => (.error (.refused (.unknownMember a.text)), ⟨s, [], journal⟩)
      | some m => (.ok (), ⟨s.putMember { m with isGuardian := flag }, [], journal⟩) := by
  cases found : s.member? a <;>
    simp [setGuardianFlag, Host.readMember, Host.writeMember, found]

theorem runOn_setNickname (a : Address) (text : String) :
    (setNickname a text).runOn ⟨s, [], journal⟩ =
      if s.hasMember a then (.ok (), ⟨s.putNickname a text, [], journal⟩)
      else (.error (.refused (.unknownMember a.text)), ⟨s, [], journal⟩) := by
  cases held : s.hasMember a <;> simp [setNickname, Host.writeNickname, held]

theorem le_maxCount (count : UInt64) : count.toNat ≤ maxCount.toNat := by
  have limit := UInt64.toNat_lt count
  simp only [maxCount, UInt64.reduceToNat]
  omega

/-- The sum of two counters, cut at the limit. -/
theorem toNat_saturatingAdd (a b : UInt64) :
    (saturatingAdd a b).toNat = min (a.toNat + b.toNat) maxCount.toNat := by
  unfold saturatingAdd
  split
  · rename_i fits
    rw [UInt64.toNat_add, Nat.min_eq_left fits]
    simp only [maxCount, UInt64.reduceToNat] at fits
    omega
  · rename_i beyond
    rw [Nat.min_eq_right (Nat.le_of_not_le beyond)]

/-- Adding up reads one counter after another.  A sum at the limit stays there, so it is the whole
sum that is cut. -/
theorem runOn_sumCounts (sum : UInt64) (standings : List Standing) :
    ∃ total, (sumCounts sum standings).runOn ⟨s, [], journal⟩ = (.ok total, ⟨s, [], journal⟩) ∧
      total.toNat = min (sum.toNat + s.totalOf standings) maxCount.toNat := by
  induction standings generalizing sum with
  | nil => exact ⟨sum, rfl, (Nat.min_eq_left (le_maxCount sum)).symm⟩
  | cons standing rest ih =>
      obtain ⟨total, run, cut⟩ := ih (saturatingAdd sum (s.standingCount standing))
      refine ⟨total, ?_, ?_⟩
      · rw [sumCounts, Action.runOn_bind, runOn_standingCount, Action.andThen_ok, run]
      · rw [cut, toNat_saturatingAdd, Store.totalOf]
        omega

/-- The check adds up the counters of the standings and compares. -/
theorem runOn_checkCounts :
    ∃ sum : UInt64, sum.toNat = min (s.totalOf Standing.all) maxCount.toNat ∧
      checkCounts.runOn ⟨s, [], journal⟩ =
        if sum = s.memberCount then (.ok (), ⟨s, [], journal⟩)
        else (.error (.refused (.brokenInvariant ("status counts sum to " ++ toString sum
          ++ " but member count is " ++ toString s.memberCount))), ⟨s, [], journal⟩) := by
  obtain ⟨sum, run, cut⟩ := runOn_sumCounts s journal 0 Standing.all
  refine ⟨sum, by simpa using cut, ?_⟩
  simp only [checkCounts, Action.runOn_bind, run, Action.andThen_ok, runOn_memberCount]
  split <;> simp_all

end Roll

/-! ## Exact counters -/

namespace Roll

theorem toNat_succ {count : UInt64} (room : count ≠ maxCount) :
    (count + 1).toNat = count.toNat + 1 := by
  have limit := UInt64.toNat_lt count
  have below : count.toNat ≠ maxCount.toNat := fun same => room (UInt64.toNat_inj.1 same)
  rw [UInt64.toNat_add]
  simp only [maxCount, UInt64.reduceToNat] at below ⊢
  omega

theorem toNat_pred {count : UInt64} (some_ : count ≠ 0) :
    (count - 1).toNat = count.toNat - 1 := by
  have above : count.toNat ≠ (0 : UInt64).toNat := fun same => some_ (UInt64.toNat_inj.1 same)
  rw [UInt64.toNat_sub_of_le]
  · rfl
  · rw [UInt64.le_iff_toNat_le]
    simp only [UInt64.reduceToNat] at above ⊢
    omega

end Roll

namespace Store

/-- Records of a standing. -/
def population (s : Store) (standing : Standing) : Nat := s.members.countP (·.standing == standing)

/-- Every member has one of the three standings. -/
theorem length_members (s : Store) :
    s.members.length =
      s.population .unset + s.population .pendingApproval + s.population .electorate := by
  unfold population
  induction s.members with
  | nil => rfl
  | cons m rest ih =>
      simp only [List.length_cons, List.countP_cons, ih]
      cases m.standing <;> simp <;> omega

theorem population_putMember (s : Store) (m : Member) (standing : Standing) :
    (s.putMember m).population standing
        + (s.member? m.address).toList.countP (·.standing == standing) =
      s.population standing + if m.standing = standing then 1 else 0 := by
  have split := s.countP_members_putMember m (·.standing == standing)
  simpa [population, List.countP_cons] using split

theorem length_members_putMember (s : Store) (m : Member) :
    (s.putMember m).members.length + (s.member? m.address).toList.length =
      s.members.length + 1 := by
  have split := s.countP_members_putMember m fun _ => true
  simpa using split

/-- The counters are what they count. -/
structure Counted (s : Store) : Prop where
  total : s.memberCount.toNat = s.members.length
  each : ∀ standing, (s.standingCount standing).toNat = s.population standing

namespace Counted

variable {s : Store}

theorem empty : Counted .empty := ⟨rfl, fun _ => rfl⟩

/-- Only records and counters matter. -/
theorem congr {t : Store} (counted : Counted s) (members : t.members.Perm s.members)
    (total : t.memberCount = s.memberCount)
    (each : ∀ standing, t.standingCount standing = s.standingCount standing) : Counted t where
  total := by rw [total, counted.total, members.length_eq]
  each standing := by rw [each, counted.each, population, population, members.countP_eq]

theorem of_sameRoll {t : Store} (counted : Counted s) (same : SameRoll s t) : Counted t :=
  counted.congr same.members same.memberCount same.standingCount

theorem putNickname (counted : Counted s) (a : Address) (text : String) :
    Counted (s.putNickname a text) :=
  counted.congr (members_perm fun _ => member?_insert ..) (memberCount_insert ..)
    fun _ => standingCount_insert ..

theorem putSettings (counted : Counted s) (record : Settings) : Counted (s.putSettings record) :=
  counted.congr (members_perm fun _ => member?_insert ..) (memberCount_insert ..)
    fun _ => standingCount_insert ..

/-- Rewriting a record keeps the counters exact as long as it keeps the standing. -/
theorem putMember {m r : Member} (counted : Counted s) (found : s.member? m.address = some r)
    (same : m.standing = r.standing) : Counted (s.putMember m) where
  total := by
    have split := s.length_members_putMember m
    have before := counted.total
    have count : (s.putMember m).memberCount = s.memberCount := memberCount_insert ..
    rw [found] at split
    simp only [Option.toList_some, List.length_singleton] at split
    rw [count]
    omega
  each standing := by
    have split := s.population_putMember m standing
    have before := counted.each standing
    have count : (s.putMember m).standingCount standing = s.standingCount standing :=
      standingCount_insert ..
    rw [found] at split
    simp only [Option.toList_some, List.countP_singleton, beq_iff_eq, same] at split
    rw [count]
    omega

/-- A flag counts nowhere. -/
theorem putFlag {a : Address} {m : Member} (counted : Counted s) (found : s.member? a = some m)
    (flag : Bool) : Counted (s.putMember { m with isGuardian := flag }) := by
  have here := member?_address found
  exact counted.putMember (m := { m with isGuardian := flag }) here rfl

/-- A new pending member is counted once among all and once among the pending. -/
theorem enrolled {a : Address} (counted : Counted s) (fresh : s.member? a = none)
    (room : s.memberCount ≠ Roll.maxCount)
    (roomPending : s.standingCount .pendingApproval ≠ Roll.maxCount) :
    Counted (s.enrolled a) := by
  have members : (s.enrolled a).members.Perm (s.putMember (.pending a)).members :=
    members_perm fun b => by simp [Store.enrolled, setStandingCount, setMemberCount, member?_insert]
  constructor
  · have split := s.length_members_putMember (.pending a)
    have before := counted.total
    rw [show (Member.pending a).address = a from rfl, fresh, Option.toList_none,
      List.length_nil] at split
    rw [memberCount_enrolled, Roll.toNat_succ room, members.length_eq]
    omega
  · intro standing
    have split := s.population_putMember (.pending a) standing
    have before := counted.each standing
    rw [show (Member.pending a).address = a from rfl, fresh, Option.toList_none, List.countP_nil,
      show (Member.pending a).standing = .pendingApproval from rfl] at split
    rw [standingCount_enrolled, population, members.countP_eq, ← population]
    by_cases here : Standing.pendingApproval = standing
    · subst here
      rw [if_pos rfl] at split ⊢
      rw [Roll.toNat_succ roomPending]
      omega
    · rw [if_neg here] at split ⊢
      omega

/-- A move takes one member from a standing and adds it to another. -/
theorem moved {m r : Member} {next : Standing} (counted : Counted s)
    (found : s.member? m.address = some r) (same : m.standing = r.standing)
    (apart : m.standing ≠ next) (some_ : s.standingCount m.standing ≠ 0)
    (room : s.standingCount next ≠ Roll.maxCount) : Counted (s.moved m next) := by
  have members : (s.moved m next).members.Perm (s.putMember { m with standing := next }).members :=
    members_perm fun b => by simp [Store.moved, setStandingCount, member?_insert]
  constructor
  · have split := s.length_members_putMember { m with standing := next }
    have before := counted.total
    rw [found, Option.toList_some, List.length_singleton] at split
    rw [memberCount_moved, members.length_eq]
    omega
  · intro standing
    have split := s.population_putMember { m with standing := next } standing
    have before := counted.each standing
    rw [found, Option.toList_some, List.countP_singleton] at split
    simp only [beq_iff_eq, ← same] at split
    rw [standingCount_moved, population, members.countP_eq, ← population]
    by_cases joined : next = standing
    · subst joined
      rw [if_pos rfl] at split ⊢
      rw [if_neg apart] at split
      rw [Roll.toNat_succ room]
      omega
    · rw [if_neg joined] at split ⊢
      by_cases left : m.standing = standing
      · subst left
        rw [if_pos rfl] at split ⊢
        rw [Roll.toNat_pred some_]
        omega
      · rw [if_neg left] at split ⊢
        omega

/-- Exact counters pass the check. -/
theorem runOn_checkCounts (counted : Counted s) (journal : List Event) :
    Roll.checkCounts.runOn ⟨s, [], journal⟩ = (.ok (), ⟨s, [], journal⟩) := by
  obtain ⟨sum, cut, run⟩ := Roll.runOn_checkCounts s journal
  have whole : s.totalOf Standing.all = s.memberCount.toNat := by
    simp [Standing.all, totalOf, counted.each, counted.total, s.length_members, Nat.add_assoc]
  rw [whole, Nat.min_eq_left (Roll.le_maxCount _), UInt64.toNat_inj] at cut
  rw [run, if_pos cut]

/-- A member that may move is counted where it stands, and the counter of the standing it
moves to has room for it. -/
theorem room_to_move {m : Member} {next : Standing} {a : Address} (counted : Counted s)
    (found : s.member? a = some m) (apart : m.standing ≠ next) :
    s.standingCount m.standing ≠ 0 ∧ s.standingCount next ≠ Roll.maxCount := by
  have held : m ∈ s.members := mem_members.2 (member?_address found)
  have here : 0 < s.population m.standing :=
    List.countP_pos_iff.2 ⟨m, held, by simp⟩
  have both : s.population m.standing + s.population next ≤ s.members.length := by
    have all := s.length_members
    cases from_ : m.standing <;> cases into : next <;> simp_all <;> omega
  rw [← counted.each] at here
  rw [← counted.each, ← counted.each, ← counted.total] at both
  have limit := UInt64.toNat_lt s.memberCount
  constructor
  · intro none_
    rw [none_] at here
    simp at here
  · intro full
    rw [full] at both
    simp only [Roll.maxCount, UInt64.reduceToNat] at both
    omega

theorem standing_ne_of_mayBecome {standing next : Standing}
    (step : standing.mayBecome next = true) : standing ≠ next := by
  rintro rfl
  cases standing <;> cases step

/-- With exact counters a transition is refused only for the member or for the step. -/
theorem transition_cases (counted : Counted s) (journal : List Event) (a : Address)
    (next : Standing) (operator : String) :
    (s.member? a = none ∧
      (Roll.transition a next operator).runOn ⟨s, [], journal⟩ =
        (.error (.refused (.unknownMember a.text)), ⟨s, [], journal⟩)) ∨
    (∃ m, s.member? a = some m ∧ m.standing.mayBecome next = false ∧
      (Roll.transition a next operator).runOn ⟨s, [], journal⟩ =
        (.error (.refused (.forbiddenTransition m.standing next)), ⟨s, [], journal⟩)) ∨
    (∃ m, s.member? a = some m ∧ m.standing.mayBecome next = true ∧
      Counted (s.moved m.normalized next) ∧
      (Roll.transition a next operator).runOn ⟨s, [], journal⟩ =
        (.ok { m.normalized with standing := next },
          ⟨s.moved m.normalized next, [],
            journal ++ [.standingChanged a m.standing next operator]⟩)) := by
  rw [Roll.runOn_transition]
  cases found : s.member? a with
  | none => exact .inl ⟨rfl, rfl⟩
  | some m =>
      cases step : m.standing.mayBecome next with
      | false => exact .inr (.inl ⟨m, rfl, step, by simp [step]⟩)
      | true =>
          have apart := standing_ne_of_mayBecome step
          obtain ⟨some_, room⟩ := counted.room_to_move found apart
          have found' : s.member? m.normalized.address = some m := member?_address found
          exact .inr (.inr ⟨m, rfl, step, counted.moved found' rfl apart some_ room,
            by simp [step, some_, room]⟩)

end Counted

end Store

/-! ## Operations that keep the counters exact -/

namespace Roll

open Suffrage.Action (Keeps)
open Store (Counted)

variable {P : Store → Prop}

/-- An enrolment adds a pending member, or nothing. -/
theorem keeps_enroll_of {a : Address}
    (keeps : ∀ s, P s → s.member? a = none → s.memberCount ≠ maxCount →
      s.standingCount .pendingApproval ≠ maxCount → P (s.enrolled a)) : Keeps P (enroll a) := by
  refine .intro fun s journal holds => ?_
  rw [runOn_enroll]
  split
  · exact ⟨rfl, holds⟩
  · rename_i new
    split
    · exact ⟨rfl, holds⟩
    · rename_i room
      split
      · exact ⟨rfl, holds⟩
      · rename_i roomPending
        have fresh : s.member? a = none := by simpa [Store.hasMember_eq] using new
        exact ⟨rfl, keeps s holds fresh room roomPending⟩

/-- With exact counters a transition moves a member that may move, or nothing. -/
theorem keeps_transition_of {a : Address} {next : Standing} {operator : String}
    (counted : ∀ s, P s → Counted s)
    (keeps : ∀ s m, P s → s.member? a = some m → m.standing.mayBecome next = true →
      Counted (s.moved m.normalized next) → P (s.moved m.normalized next)) :
    Keeps P (transition a next operator) := by
  refine .intro fun s journal holds => ?_
  obtain ⟨-, run⟩ | ⟨m, -, -, run⟩ | ⟨m, found, step, after, run⟩ :=
    (counted s holds).transition_cases journal a next operator
  · exact run ▸ ⟨rfl, holds⟩
  · exact run ▸ ⟨rfl, holds⟩
  · exact run ▸ ⟨rfl, keeps s m holds found step after⟩

/-- Only who is on the roll gets a nickname. -/
theorem keeps_setNickname_of {a : Address} {text : String}
    (keeps : ∀ s, P s → s.hasMember a = true → P (s.putNickname a text)) :
    Keeps P (setNickname a text) := by
  refine .intro fun s journal holds => ?_
  rw [runOn_setNickname]
  split
  · rename_i held
    exact ⟨rfl, keeps s holds held⟩
  · exact ⟨rfl, holds⟩

theorem keeps_enroll (a : Address) : Keeps Counted (enroll a) :=
  keeps_enroll_of fun _ counted => counted.enrolled

theorem keeps_transition (a : Address) (next : Standing) (operator : String) :
    Keeps Counted (transition a next operator) :=
  keeps_transition_of (fun _ counted => counted) fun _ _ _ _ _ after => after

theorem keeps_setGuardianFlag (a : Address) (flag : Bool) :
    Keeps Counted (setGuardianFlag a flag) := by
  refine .intro fun s journal counted => ?_
  rw [runOn_setGuardianFlag]
  cases found : s.member? a with
  | none => exact ⟨rfl, counted⟩
  | some m =>
      exact ⟨rfl, counted.putFlag found flag⟩

theorem keeps_setNickname (a : Address) (text : String) : Keeps Counted (setNickname a text) :=
  keeps_setNickname_of fun _ counted _ => counted.putNickname a text

end Roll

end Suffrage
