/-
# Suffrage.Proofs.Outsiders -- outsiders do not reach a tally

A tally reads the settings, the counter of the electorate, and the ballots with the records of
their voters; a ballot by anyone else than a member of the electorate is discarded, whatever it
says.  `Store.SameElectorate` says that two stores agree on what is left: the settings, the
counter, the records of the electorate and its ballots.

Two runs on such stores go through different ballots, since those of outsiders stand between the
others.  Leaving out what is discarded does not change what the tiers count (`tiers_outsiders`),
and what remains is the same list in both runs (`electorate_ballots`), so the tallies are the same
(`Store.SameElectorate.tally`).

Whatever outsiders may call keeps the electorate the same: enrolments are pending, their ballots
are their own, and without a guardian nothing is approved and no motion carried out.
-/
import Suffrage.Proofs.Founding
import Suffrage.Proofs.Tally

namespace Suffrage

set_option autoImplicit false

open Suffrage.Action (Decides Holds Keeps)

/-! ## The same electorate -/

namespace Store

/-- The stores agree in the settings, and in the counter, the records and the ballots of the
electorate. -/
structure SameElectorate (s t : Store) : Prop where
  settings? : t.settings? = s.settings?
  count : t.standingCount .electorate = s.standingCount .electorate
  records : ∀ a m, m.standing = .electorate → (t.member? a = some m ↔ s.member? a = some m)
  ballots : ∀ p, ∀ a ∈ s.electors, t.find? (.ballot p a) = s.find? (.ballot p a)

namespace SameElectorate

variable {s t u : Store}

theorem mem_electors (same : SameElectorate s t) {a : Address} :
    a ∈ t.electors ↔ a ∈ s.electors := by
  rw [Store.mem_electors, Store.mem_electors]
  constructor
  · rintro ⟨m, found, active⟩
    exact ⟨m, (same.records a m active).1 found, active⟩
  · rintro ⟨m, found, active⟩
    exact ⟨m, (same.records a m active).2 found, active⟩

theorem isGuardian (same : SameElectorate s t) (a : Address) :
    t.isGuardian a = s.isGuardian a := by
  rw [Bool.eq_iff_iff, isGuardian_iff, isGuardian_iff]
  constructor
  · rintro ⟨m, found, flag, active⟩
    exact ⟨m, (same.records a m active).1 found, flag, active⟩
  · rintro ⟨m, found, flag, active⟩
    exact ⟨m, (same.records a m active).2 found, flag, active⟩

theorem refl (s : Store) : SameElectorate s s where
  settings? := rfl
  count := rfl
  records _ _ _ := Iff.rfl
  ballots _ _ _ := rfl

theorem trans (first : SameElectorate s t) (second : SameElectorate t u) : SameElectorate s u where
  settings? := second.settings?.trans first.settings?
  count := second.count.trans first.count
  records a m active := (second.records a m active).trans (first.records a m active)
  ballots p a inside :=
    (second.ballots p a (first.mem_electors.2 inside)).trans (first.ballots p a inside)

/-- A new address is pending: it has no part in the electorate. -/
theorem enrolled {a : Address} (fresh : s.member? a = none) : SameElectorate s (s.enrolled a) where
  settings? := s.settings?_enrolled a
  count := by
    simp [Store.enrolled, setStandingCount, setMemberCount, putMember, standingCount_insert]
  records b m active := by
    rw [member?_enrolled]
    split
    · rename_i here
      subst here
      constructor
      · intro found
        cases found
        cases active
      · intro found
        rw [fresh] at found
        cases found
    · rfl
  ballots p b _ := by
    simp [Store.enrolled, setStandingCount, setMemberCount, putMember, find?_insert, Entry.key]

theorem named (a : Address) (nickname : Option String) :
    SameElectorate s (s.named a nickname) where
  settings? := s.settings?_named a nickname
  count := by
    unfold Store.named
    split
    · exact standingCount_insert ..
    · rfl
  records b m _ := by rw [member?_named]
  ballots p b _ := by
    unfold Store.named
    split
    · simp [putNickname, find?_insert, Entry.key]
    · rfl

/-- A ballot stands under the key of its own voter. -/
theorem cast {ballot : Ballot} (outside : ballot.voter ∉ s.electors) :
    SameElectorate s (s.cast ballot) where
  settings? := (SameRoll.cast s ballot).settings?
  count := (SameRoll.cast s ballot).standingCount .electorate
  records a m _ := by rw [(SameRoll.cast s ballot).member?]
  ballots p a inside := by
    have apart : (Entry.ballot ballot.canonical).key ≠ .ballot p a := by
      intro place
      have voter : ballot.voter = a := (Key.ballot.inj place).2
      exact outside (voter ▸ inside)
    rw [Store.cast, find?_insert, if_neg apart]

end SameElectorate

end Store

/-! ## Two collections -/

namespace Collection

variable {s t : Store} {proposal : ProposalId}

/-- What the tiers of a report count. -/
def tiers (result : Except Failure Collection) : Except Failure (Tier × Tier) :=
  result.map fun report => (report.guardians, report.members)

/-- A ballot of an outsider is discarded before its choice is looked at. -/
theorem judged_outsider {ballot : Ballot} (outside : ballot.voter ∉ s.electors)
    (repeated : Bool) : ∃ reason, judged s proposal repeated ballot = .ok (.discarded reason) := by
  have unfit : ∃ reason, Unfit s proposal ballot reason := by
    by_cases same : ballot.proposal = proposal
    · cases found : s.member? ballot.voter with
      | none => exact ⟨_, .unknown same found⟩
      | some m =>
          refine ⟨_, .ineligible same m found fun active => outside ?_⟩
          exact Store.mem_electors.2 ⟨m, found, active⟩
    · exact ⟨_, .foreign same⟩
  obtain ⟨reason, unfit⟩ := unfit
  cases repeated with
  | true => exact ⟨_, rfl⟩
  | false => exact ⟨reason, unfit.verdict⟩

/-- A ballot of the electorate is judged alike wherever the electorate is the same. -/
theorem judged_elector (same : s.SameElectorate t) {ballot : Ballot}
    (inside : ballot.voter ∈ s.electors) (repeated : Bool) :
    judged t proposal repeated ballot = judged s proposal repeated ballot := by
  obtain ⟨m, found, active⟩ := Store.mem_electors.1 inside
  unfold judged classified
  rw [same.isGuardian, found, (same.records ballot.voter m active).2 found]

theorem collected_congr (same : s.SameElectorate t) {ballots : List Ballot}
    (inside : ∀ b ∈ ballots, b.voter ∈ s.electors) (previous : Option Address)
    (report : Collection) :
    collected t proposal previous report ballots = collected s proposal previous report ballots := by
  induction ballots generalizing previous report with
  | nil => rfl
  | cons ballot rest ih =>
      have later := ih fun b inRest => inside b (List.mem_cons_of_mem _ inRest)
      unfold collected
      rw [judged_elector same (inside ballot List.mem_cons_self)]
      cases judged s proposal (decide (previous = some ballot.voter)) ballot with
      | error e => rfl
      | ok verdict => exact later _ _

/-- The tiers of a report depend on the tiers before and the verdict. -/
theorem tiers_record {report report' : Collection} (guardians : report.guardians = report'.guardians)
    (members : report.members = report'.members) (voter : Address) (verdict : Verdict) :
    (report.record voter verdict).guardians = (report'.record voter verdict).guardians ∧
      (report.record voter verdict).members = (report'.record voter verdict).members := by
  cases verdict with
  | discarded reason => exact ⟨guardians, members⟩
  | counted choice byGuardian =>
      cases byGuardian with
      | true => exact ⟨congrArg (·.increment choice) guardians, members⟩
      | false => exact ⟨guardians, congrArg (·.increment choice) members⟩

/-- If every voter has one ballot, the tiers count what they count without the ballots of
outsiders. -/
theorem tiers_outsiders {ballots : List Ballot} (distinct : (ballots.map (·.voter)).Nodup)
    {previous previous' : Option Address} (new : ∀ b ∈ ballots, previous ≠ some b.voter)
    (new' : ∀ b ∈ ballots, previous' ≠ some b.voter) {report report' : Collection}
    (guardians : report.guardians = report'.guardians) (members : report.members = report'.members) :
    tiers (collected s proposal previous report ballots) =
      tiers (collected s proposal previous' report'
        (ballots.filter fun b => b.voter ∈ s.electors)) := by
  induction ballots generalizing previous previous' report report' with
  | nil => exact congrArg Except.ok (Prod.ext guardians members)
  | cons ballot rest ih =>
      obtain ⟨apart, distinct'⟩ := List.nodup_cons.1 distinct
      have next : ∀ b ∈ rest, some ballot.voter ≠ some b.voter := by
        intro b inRest again
        refine apart (List.mem_map.2 ⟨b, inRest, ?_⟩)
        exact (Option.some.inj again).symm
      have later' : ∀ b ∈ rest, previous' ≠ some b.voter := fun b inRest =>
        new' b (List.mem_cons_of_mem _ inRest)
      have once : decide (previous = some ballot.voter) = false :=
        decide_eq_false (new ballot List.mem_cons_self)
      have once' : decide (previous' = some ballot.voter) = false :=
        decide_eq_false (new' ballot List.mem_cons_self)
      by_cases inside : ballot.voter ∈ s.electors
      · rw [List.filter_cons_of_pos (by simpa using inside)]
        unfold collected
        rw [once, once']
        cases judged s proposal false ballot with
        | error e => rfl
        | ok verdict =>
            obtain ⟨guardians', members'⟩ :=
              tiers_record guardians members ballot.voter verdict
            exact ih distinct' next next guardians' members'
      · rw [List.filter_cons_of_neg (by simpa using inside)]
        obtain ⟨reason, run⟩ := @judged_outsider s proposal ballot inside false
        rw [collected, once, run]
        exact ih distinct' next later' guardians members

/-- In the order of their voters the ballots of the electorate are the same. -/
theorem electorate_ballots (same : s.SameElectorate t) (proposal : ProposalId) :
    (inVoterOrder (t.ballots proposal)).filter (fun b => b.voter ∈ s.electors) =
      (inVoterOrder (s.ballots proposal)).filter (fun b => b.voter ∈ s.electors) := by
  have nodup (u : Store) : (inVoterOrder (u.ballots proposal)).Nodup :=
    (List.mergeSort_perm ..).nodup_iff.2 (u.nodup_voters proposal).of_map
  refine List.Perm.eq_of_pairwise (fun a b inT inS before after => ?_)
    ((sorted_inVoterOrder _).filter _) ((sorted_inVoterOrder _).filter _) ?_
  · rw [List.mem_filter, inVoterOrder, List.mem_mergeSort, Store.mem_ballots] at inT inS
    obtain ⟨foundT, electorT⟩ := inT
    have voter : a.voter = b.voter := Address.precedes_antisymm before after
    rw [same.ballots proposal a.voter (of_decide_eq_true electorT), voter, inS.1] at foundT
    cases foundT
    rfl
  · refine (List.perm_ext_iff_of_nodup ((nodup t).filter _) ((nodup s).filter _)).2 fun b => ?_
    simp only [List.mem_filter, inVoterOrder, List.mem_mergeSort, decide_eq_true_eq,
      Store.mem_ballots]
    constructor
    · rintro ⟨found, inside⟩
      exact ⟨(same.ballots proposal b.voter inside).symm.trans found, inside⟩
    · rintro ⟨found, inside⟩
      exact ⟨(same.ballots proposal b.voter inside).trans found, inside⟩

/-- The tiers count the same where the electorate is the same. -/
theorem tiers_collected (same : s.SameElectorate t) (proposal : ProposalId) :
    tiers (collected t proposal none .empty (inVoterOrder (t.ballots proposal))) =
      tiers (collected s proposal none .empty (inVoterOrder (s.ballots proposal))) := by
  have distinct (u : Store) : ((inVoterOrder (u.ballots proposal)).map (·.voter)).Nodup :=
    ((List.mergeSort_perm ..).map _).nodup_iff.2 (u.nodup_voters proposal)
  have skip (u : Store) :
      tiers (collected u proposal none .empty (inVoterOrder (u.ballots proposal))) =
        tiers (collected u proposal none .empty
          ((inVoterOrder (u.ballots proposal)).filter fun b => b.voter ∈ u.electors)) :=
    tiers_outsiders (distinct u) (fun _ _ none_ => by cases none_)
      (fun _ _ none_ => by cases none_) rfl rfl
  have electors : (fun b : Ballot => decide (b.voter ∈ t.electors)) =
      fun b => decide (b.voter ∈ s.electors) := by
    funext b
    rw [decide_eq_decide]
    exact same.mem_electors
  rw [skip t, skip s, electors, electorate_ballots same]
  refine congrArg tiers (collected_congr same (fun b inside => ?_) none .empty)
  exact of_decide_eq_true (List.mem_filter.1 inside).2

end Collection

/-- Where the electorate is the same, a tally has the same result. -/
theorem Store.SameElectorate.tally {founded founded' : Prop} {s t : Store}
    (same : s.SameElectorate t) (coherent : s.Coherent founded) (coherent' : t.Coherent founded')
    (journal journal' : List Event) (rules : Rules) (proposal : ProposalId) :
    ((Assembly.tally rules proposal).runOn ⟨t, [], journal'⟩).1 =
      ((Assembly.tally rules proposal).runOn ⟨s, [], journal⟩).1 := by
  cases found : s.settings? with
  | none =>
      rw [Coherent.runOn_tally_unsettled found,
        Coherent.runOn_tally_unsettled (same.settings?.trans found)]
  | some record =>
      -- Of a report only the tiers are used.
      have ofTiers (power : Power) (result : Except Failure Collection) :
          (result >>= fun report =>
            Tally.outcome power report.guardians report.members rules) =
          (Collection.tiers result >>= fun tiers =>
            Tally.outcome power tiers.1 tiers.2 rules) := by
        cases result <;> rfl
      rw [coherent.runOn_tally found, coherent'.runOn_tally (same.settings?.trans found),
        same.count]
      simp only [ofTiers, Collection.tiers_collected same]

/-! ## What outsiders may call -/

/-- The call is open to everyone, or comes from somebody who does not have in `s` what it takes:
a ballot by no member of the electorate, an approval or a motion by no guardian. -/
def Call.ByOutsider (s : Store) : Call → Prop
  | .enroll _ _ => True
  | .cast ballot => ballot.voter ∉ s.electors
  | .approve approver _ => s.isGuardian ⟨approver⟩ = false
  | .enact motion => s.isGuardian ⟨motion.creator⟩ = false
  | .found _ => False
  | .tally _ _ => False
  | .sweep _ => False

instance (s : Store) : DecidablePred (Call.ByOutsider s) := fun c => by
  cases c <;> unfold Call.ByOutsider <;> infer_instance

section Refused

variable {s : Store} (journal : List Event)

/-- Without a guardian nothing is approved. -/
theorem Assembly.approve_refused {approver : String} (outside : s.isGuardian ⟨approver⟩ = false)
    (member : String) :
    ∃ e, (approve approver member).runOn ⟨s, [], journal⟩ = (.error e, ⟨s, [], journal⟩) := by
  unfold approve
  cases parsed : Address.parse approver with
  | error e => exact ⟨Failure.ofValue e, rfl⟩
  | ok a =>
      obtain ⟨rfl, -⟩ := Address.parse_eq_ok_iff.1 parsed
      cases parsed' : Address.parse member with
      | error e => exact ⟨Failure.ofValue e, rfl⟩
      | ok b => exact ⟨_, by simp [outside]; rfl⟩

/-- Without a guardian no motion is carried out, whatever it demands. -/
theorem Motion.enact_refused {motion : Motion} (outside : s.isGuardian ⟨motion.creator⟩ = false) :
    ∃ e, motion.enact.runOn ⟨s, [], journal⟩ = (.error e, ⟨s, [], journal⟩) := by
  have unauthorized : ¬s.Authorizes motion.creator := by
    rintro ⟨-, serves⟩
    rw [outside] at serves
    cases serves
  unfold enact
  cases motion.demand with
  | addGuardians raw =>
      obtain ⟨⟨allowed, -⟩, -⟩ | ⟨-, refused⟩ :=
        decides_addGuardians s journal motion.creator raw
      · exact absurd allowed unauthorized
      · exact refused
  | removeGuardians raw =>
      obtain ⟨⟨allowed, -⟩, -⟩ | ⟨-, refused⟩ :=
        decides_removeGuardians s journal motion.creator raw
      · exact absurd allowed unauthorized
      · exact refused
  | setWeight weight =>
      obtain ⟨⟨allowed, -⟩, -⟩ | ⟨-, e, refused⟩ :=
        decides_setWeight s journal motion.creator weight
      · exact absurd allowed unauthorized
      · exact ⟨e, by simp only [Action.runOn_bind, refused, Action.andThen_error]⟩

end Refused

/-- A call by an outsider keeps the electorate the same, whatever others have called before. -/
theorem Store.Coherent.keeps_byOutsider {founded : Prop} {s : Store} {c : Call}
    (outside : c.ByOutsider s) : Keeps (fun t => t.Coherent founded ∧ s.SameElectorate t) c.act := by
  refine .intro fun t journal ⟨coherent, same⟩ => ?_
  obtain ⟨quiet, coherent'⟩ := Coherent.keeps_call c ⟨t, [], journal⟩ ⟨rfl, coherent⟩
  refine ⟨quiet, coherent', ?_⟩
  cases c with
  | found genesis => cases outside
  | tally rules proposal => cases outside
  | sweep proposal => cases outside
  | cast ballot =>
      refine same.trans (.cast fun inside => outside ?_)
      exact same.mem_electors.1 inside
  | approve approver member =>
      obtain ⟨e, run⟩ := Assembly.approve_refused journal
        ((same.isGuardian ⟨approver⟩).trans outside) member
      simp only [Call.act, Action.runOn_bind, run, Action.andThen_error]
      exact same
  | enact motion =>
      obtain ⟨e, run⟩ := Motion.enact_refused journal
        ((same.isGuardian ⟨motion.creator⟩).trans outside)
      simp only [Call.act, Action.runOn_bind, run, Action.andThen_error]
      exact same
  | enroll address nickname =>
      simp only [Call.act, Action.runOn_bind]
      obtain ⟨⟨-, fresh, -⟩, run⟩ | ⟨-, e, run⟩ :=
        Assembly.decides_enroll journal coherent.counted ⟨address⟩ nickname
      · rw [run]
        exact (same.trans (.enrolled fresh)).trans (.named ⟨address⟩ nickname)
      · rw [run]
        exact same

/-- Whatever outsiders call, in any number and order, the guardians, their weight, the electorate
and its counter stay as they were, and every tally has the result that it had. -/
theorem outsiders_leave_tallies (calls more : List Call)
    (outside : ∀ c ∈ more, c.ByOutsider (Host.fresh.after calls).store) :
    let h := Host.fresh.after calls
    let later := h.after more
    later.store.settings? = h.store.settings? ∧
    (Guardians.confirmed.runOn later).1 = (Guardians.confirmed.runOn h).1 ∧
    (Guardians.weight.runOn later).1 = (Guardians.weight.runOn h).1 ∧
    (∀ a, a ∈ later.store.electors ↔ a ∈ h.store.electors) ∧
    ((Roll.standingCount .electorate).runOn later).1 =
      ((Roll.standingCount .electorate).runOn h).1 ∧
    ∀ rules proposal, ((Assembly.tally rules proposal).runOn later).1 =
      ((Assembly.tally rules proposal).runOn h).1 := by
  intro h later
  have start : Holds (Store.Coherent False) h := Store.Coherent.fresh_after calls
  have after : Holds (fun t => t.Coherent False ∧ h.store.SameElectorate t) later :=
    holds_after (fun c inside => Store.Coherent.keeps_byOutsider (outside c inside))
      ⟨start.1, start.2, .refl h.store⟩
  clear_value later h
  obtain ⟨s, outages, journal⟩ := h
  obtain ⟨t, outages', journal'⟩ := later
  obtain ⟨rfl, coherent⟩ := start
  obtain ⟨rfl, coherent', same⟩ := after
  refine ⟨same.settings?, ?_, ?_, fun a => same.mem_electors, ?_, fun rules proposal => ?_⟩
  · have serves : t.isGuardian = s.isGuardian := funext same.isGuardian
    rw [Guardians.runOn_confirmed, Guardians.runOn_confirmed, same.settings?, serves]
    cases s.settings? <;> rfl
  · rw [Guardians.runOn_weight, Guardians.runOn_weight, same.settings?]
    cases s.settings? <;> rfl
  · simp only [Roll.runOn_standingCount, same.count]
  · exact same.tally coherent coherent' journal journal' rules proposal

/-- What an outsider of the sample session tries: to vote, to be approved by a member who is no
guardian, and to change the weight. -/
def sampleIntrusion : List Call :=
  [.enroll "civ_six" none, .cast (.single ⟨1⟩ ⟨"civ_six"⟩ .noWithVeto),
   .approve "civ_two" "civ_six",
   .enact { title := "", description := "", creator := "civ_six", demand := .setWeight .one }]

theorem outsiders_leave_sample :
    ((Assembly.tally .default ⟨1⟩).runOn
      ((Host.fresh.after sampleSession).after sampleIntrusion)).1 =
    ((Assembly.tally .default ⟨1⟩).runOn (Host.fresh.after sampleSession)).1 := by
  obtain ⟨-, -, -, -, -, tallies⟩ :=
    outsiders_leave_tallies sampleSession sampleIntrusion (by decide +kernel)
  exact tallies .default ⟨1⟩

end Suffrage
