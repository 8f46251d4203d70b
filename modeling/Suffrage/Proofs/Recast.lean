/-
# Suffrage.Proofs.Recast -- voting yes does not defeat a proposal

A voter has one ballot on a proposal, and casting another one puts it in the place of the first.
Who may not vote changes nothing by that.  For a member of the electorate the tier of the voter gets
one ballot for the choice: a new one if there was none before that counted, and otherwise the ballot
that was there is turned (`Collection.gains_cast`).

So whoever votes yes brings the counts where a proposal that passes still does
(`yes_never_defeats`).
-/
import Suffrage.Proofs.Holdings
import Suffrage.Proofs.Report
import Suffrage.Proofs.Swing
import Suffrage.Proofs.Tally

namespace Suffrage

set_option autoImplicit false

open Suffrage.Action (Holds)

/-- The ballot, in the form in which it is stored, makes this choice. -/
def Ballot.IsFor (b : Ballot) (choice : Choice) : Prop :=
  soleChoice b.canonical.options = .ok choice

theorem Ballot.isFor_single (proposal : ProposalId) (voter : Address) {choice : Choice}
    (recognized : choice.isRecognized = true) : (single proposal voter choice).IsFor choice := by
  cases choice with
  | unspecified => cases recognized
  | _ => rfl

namespace Collection

variable {s : Store} {proposal : ProposalId}

/-! ## Counting one ballot of each voter -/

/-- What a ballot adds to a tier if its voter has no other. -/
def voteIn (s : Store) (proposal : ProposalId) (byGuardian : Bool) (b : Ballot) : Option Choice :=
  match classified s proposal b with
  | .ok (choice, serves) => if serves = byGuardian then some choice else none
  | .error _ => none

theorem voteIn_eq_some_iff {byGuardian : Bool} {b : Ballot} {choice : Choice} :
    voteIn s proposal byGuardian b = some choice ↔
      classified s proposal b = .ok (choice, byGuardian) := by
  unfold voteIn
  cases classified s proposal b with
  | error e => simp
  | ok pair =>
      obtain ⟨c, serves⟩ := pair
      by_cases same : serves = byGuardian <;> simp [same]

/-- If no voter has two ballots, each of them counts for itself. -/
theorem count_tier_collected {ballots : List Ballot} (distinct : (ballots.map (·.voter)).Nodup)
    {previous : Option Address} (new : ∀ b ∈ ballots, previous ≠ some b.voter)
    {report result : Collection}
    (run : collected s proposal previous report ballots = .ok result)
    (choice : Choice) (byGuardian : Bool) :
    (result.tier byGuardian).count choice = (report.tier byGuardian).count choice +
      ballots.countP fun b => voteIn s proposal byGuardian b = some choice := by
  induction ballots generalizing previous report with
  | nil =>
      cases run
      rfl
  | cons ballot rest ih =>
      obtain ⟨apart, distinct'⟩ := List.nodup_cons.1 distinct
      have next : ∀ b ∈ rest, some ballot.voter ≠ some b.voter := by
        intro b inRest again
        refine apart (List.mem_map.2 ⟨b, inRest, ?_⟩)
        exact (Option.some.inj again).symm
      have once : decide (previous = some ballot.voter) = false :=
        decide_eq_false (new ballot List.mem_cons_self)
      rw [collected, once] at run
      cases verdict : judged s proposal false ballot with
      | error e =>
          rw [verdict] at run
          cases run
      | ok v =>
          rw [verdict] at run
          have adds : v = .counted choice byGuardian ↔
              voteIn s proposal byGuardian ballot = some choice := by
            rw [voteIn_eq_some_iff]
            constructor
            · rintro rfl
              exact of_verdictOf_counted verdict
            · intro counts
              have same : verdictOf (classified s proposal ballot) = .ok v := verdict
              rw [counts] at same
              exact (Except.ok.inj same).symm
          rw [ih distinct' next run, count_tier_record, List.countP_cons]
          simp only [adds, decide_eq_true_eq]
          omega

/-- The tiers of a report on stored ballots. -/
theorem count_tier_ballots {report : Collection}
    (run : collected s proposal none .empty (inVoterOrder (s.ballots proposal)) = .ok report)
    (choice : Choice) (byGuardian : Bool) :
    (report.tier byGuardian).count choice =
      (s.ballots proposal).countP fun b => voteIn s proposal byGuardian b = some choice := by
  have perm : (inVoterOrder (s.ballots proposal)).Perm (s.ballots proposal) :=
    List.mergeSort_perm ..
  have distinct : ((inVoterOrder (s.ballots proposal)).map (·.voter)).Nodup :=
    (perm.map _).nodup_iff.2 (s.nodup_voters proposal)
  rw [count_tier_collected distinct (by simp) run, count_tier_empty, Nat.zero_add, perm.countP_eq]

end Collection

/-! ## The ballots after a cast -/

namespace Store

variable (s : Store) (b : Ballot)

/-- The ballots of all voters but one. -/
def ballotsOfOthers (p : ProposalId) (a : Address) : List Ballot :=
  (s.ballots p).filter (·.voter ≠ a)

theorem nodup_ballots (p : ProposalId) : (s.ballots p).Nodup := (s.nodup_voters p).of_map

/-- The new ballot stands in the place of the one before, if there was one. -/
theorem ballots_cast_perm : ((s.cast b).ballots b.proposal).Perm
    (b.canonical :: s.ballotsOfOthers b.proposal b.voter) := by
  have apart : b.canonical ∉ s.ballotsOfOthers b.proposal b.voter := by
    simp [ballotsOfOthers, Ballot.canonical]
  refine (List.perm_ext_iff_of_nodup (nodup_ballots _ _)
    (List.nodup_cons.2 ⟨apart, (nodup_ballots _ _).filter _⟩)).2 fun x => ?_
  have written := s.mem_ballots_write (.cast b) b.proposal x
  refine written.trans ?_
  by_cases own : b.voter = x.voter
  · simp [own, ballotsOfOthers, eq_comm]
  · have other : x ≠ b.canonical := by
      rintro rfl
      exact own rfl
    simp [own, ballotsOfOthers, other, Ne.symm own]

/-- A voter has one ballot or none. -/
theorem ballots_perm_cases (p : ProposalId) (a : Address) :
    (s.ballots p).Perm (s.ballotsOfOthers p a) ∨
      ∃ old, old.voter = a ∧ (s.ballots p).Perm (old :: s.ballotsOfOthers p a) := by
  by_cases voted : ∃ old ∈ s.ballots p, old.voter = a
  · obtain ⟨old, inside, rfl⟩ := voted
    have apart : old ∉ s.ballotsOfOthers p old.voter := by simp [ballotsOfOthers]
    refine .inr ⟨old, rfl, (List.perm_ext_iff_of_nodup (nodup_ballots _ _)
      (List.nodup_cons.2 ⟨apart, (nodup_ballots _ _).filter _⟩)).2 fun x => ?_⟩
    constructor
    · intro inside'
      by_cases own : x.voter = old.voter
      · exact List.mem_cons.2 (.inl
          (List.inj_on_of_nodup_map (s.nodup_voters p) inside' inside own))
      · exact List.mem_cons_of_mem _ (List.mem_filter.2 ⟨inside', decide_eq_true own⟩)
    · intro either
      rcases List.mem_cons.1 either with rfl | other
      · exact inside
      · exact List.mem_of_mem_filter other
  · left
    have all : s.ballotsOfOthers p a = s.ballots p := by
      refine List.filter_eq_self.2 fun x inside => decide_eq_true fun own => ?_
      exact voted ⟨x, inside, own⟩
    rw [all]

end Store

/-! ## What a cast does to the tiers -/

namespace Collection

variable {s : Store} {b : Ballot} {choice : Choice}

theorem voteIn_of_sameRoll {t : Store} (same : s.SameRoll t) (proposal : ProposalId)
    (byGuardian : Bool) : voteIn t proposal byGuardian = voteIn s proposal byGuardian := by
  funext x
  unfold voteIn classified Store.isGuardian
  rw [same.member?]

/-- The new ballot counts for what it says, or not at all. -/
theorem voteIn_isFor (cast : b.IsFor choice) (byGuardian : Bool) :
    voteIn s b.proposal byGuardian b.canonical = none ∨
      voteIn s b.proposal byGuardian b.canonical = some choice := by
  cases counts : voteIn s b.proposal byGuardian b.canonical with
  | none => exact .inl rfl
  | some c =>
      obtain ⟨-, -, sole⟩ := classified_ok_iff.1 (voteIn_eq_some_iff.1 counts)
      rw [cast] at sole
      cases sole
      exact .inr rfl

/-- Whose earlier ballot counts in a tier may vote there, so the new one counts there too. -/
theorem voteIn_of_replaced (cast : b.IsFor choice) {old : Ballot} (same : old.voter = b.voter)
    {byGuardian : Bool} {c : Choice} (counts : voteIn s b.proposal byGuardian old = some c) :
    voteIn s b.proposal byGuardian b.canonical = some choice := by
  obtain ⟨-, eligible, -⟩ := classified_ok_iff.1 (voteIn_eq_some_iff.1 counts)
  rw [same] at eligible
  exact voteIn_eq_some_iff.2 (classified_ok_iff.2 ⟨rfl, eligible, cast⟩)

/-- Casting a ballot gives its choice one ballot in the tier of a voter who may vote, new or turned,
and changes no count otherwise. -/
theorem gains_cast (cast : b.IsFor choice) {report report' : Collection}
    (run : collected s b.proposal none .empty (inVoterOrder (s.ballots b.proposal)) = .ok report)
    (run' : collected (s.cast b) b.proposal none .empty
      (inVoterOrder ((s.cast b).ballots b.proposal)) = .ok report') (byGuardian : Bool) :
    (report.tier byGuardian).Gains choice (report'.tier byGuardian) := by
  have after (d : Choice) := count_tier_ballots run' d byGuardian
  have before (d : Choice) := count_tier_ballots run d byGuardian
  simp only [voteIn_of_sameRoll (.cast s b), (s.ballots_cast_perm b).countP_eq,
    List.countP_cons, decide_eq_true_eq] at after
  -- What the voter had cast before, if anything: the choice that is lost in this tier.
  obtain ⟨lost, counts, turned⟩ : ∃ lost : Option Choice,
      (∀ d, (report.tier byGuardian).count d =
        (s.ballotsOfOthers b.proposal b.voter).countP
          (fun x => voteIn s b.proposal byGuardian x = some d) + if lost = some d then 1 else 0) ∧
      ∀ c, lost = some c → voteIn s b.proposal byGuardian b.canonical = some choice := by
    rcases s.ballots_perm_cases b.proposal b.voter with perm | ⟨old, same, perm⟩
    · refine ⟨none, fun d => ?_, nofun⟩
      rw [before, perm.countP_eq]
      rfl
    · refine ⟨voteIn s b.proposal byGuardian old, fun d => ?_,
        fun c => voteIn_of_replaced cast same⟩
      rw [before, perm.countP_eq, List.countP_cons]
      simp only [decide_eq_true_eq]
  rcases voteIn_isFor cast byGuardian with none_ | counted
  · have nothing : lost = none := by
      cases lost with
      | none => rfl
      | some c =>
          rw [turned c rfl] at none_
          cases none_
    refine .inr ⟨choice, fun d => ?_⟩
    rw [after, counts, none_, nothing]
  · cases lost with
    | none =>
        refine .inl fun d => ?_
        rw [after, counts, counted]
        simp [eq_comm]
    | some c =>
        refine .inr ⟨c, fun d => ?_⟩
        rw [after, counts, counted]
        simp only [Option.some.injEq, eq_comm (a := d)]
        omega

end Collection

/-! ## Tallies after a cast -/

/-- Where a proposal passes it still does after one more voter has voted yes. -/
theorem Store.Coherent.passes_after_cast {founded : Prop} {s : Store}
    (coherent : s.Coherent founded) (brief : s.Brief)
    (few : s.population .electorate ≤ Tally.maxElectorate) (journal : List Event) {rules : Rules}
    {b : Ballot} (short : b.Brief) (yes : b.IsFor .yes) {outcome : Outcome}
    (ok : ((Assembly.tally rules b.proposal).runOn ⟨s, [], journal⟩).1 = .ok outcome)
    (passed : outcome.decision = .passed) :
    ∃ outcome', ((Assembly.tally rules b.proposal).runOn ⟨s.cast b, [], journal⟩).1 = .ok outcome' ∧
      outcome'.decision = .passed := by
  have same : s.SameRoll (s.cast b) := .cast s b
  have coherent' := coherent.of_sameRoll same
  cases found : s.settings? with
  | none =>
      rw [runOn_tally_unsettled found] at ok
      cases ok
  | some record =>
      have found' : (s.cast b).settings? = some record := same.settings?.trans found
      rw [coherent.runOn_tally found] at ok
      obtain ⟨power, split, ok⟩ := Result.of_bind_ok ok
      obtain ⟨report, collect, ok⟩ := Result.of_bind_ok ok
      have short' : ∀ x ∈ Collection.inVoterOrder ((s.cast b).ballots b.proposal), x.Brief :=
        fun x inside => (brief.cast short).ballots b.proposal x (List.mem_mergeSort.1 inside)
      obtain ⟨report', collect'⟩ := Collection.collected_ok (s := s.cast b) b.proposal short'
        none .empty
      obtain ⟨guardians, members, -⟩ := coherent.collected_le found collect
      obtain ⟨guardians', members', -⟩ := coherent'.collected_le found' collect'
      rw [same.standingCount] at members'
      have whole := coherent.counted.each .electorate
      obtain ⟨g, m, within⟩ := Power.within_of_allocate_ok split
      have few' : record.guardians.length + ((s.standingCount .electorate).toNat
          - record.guardians.length) ≤ Tally.maxElectorate := by omega
      have backsGs : report.guardians.Backs report'.guardians :=
        .of_gains (Collection.gains_cast yes collect collect' true)
      have backsMs : report.members.Backs report'.members :=
        .of_gains (Collection.gains_cast yes collect collect' false)
      obtain ⟨after, decided, passes⟩ := within.outcome_stands few' guardians
        (Nat.le_sub_of_add_le' members) guardians' (Nat.le_sub_of_add_le' members')
        (Tally.decision_passed_of_backs backsGs backsMs) ok passed
      refine ⟨after, ?_, passes⟩
      rw [coherent'.runOn_tally found', same.standingCount, split]
      simp only [Result.ok_bind, collect', decided]

/-- The same for any number of voters. -/
theorem passes_after_casts {founded : Prop} {h : Host} (holds : Holds (Store.Coherent founded) h)
    (brief : Holds Store.Brief h) (few : h.store.population .electorate ≤ Tally.maxElectorate)
    {rules : Rules} {proposal : ProposalId} {outcome : Outcome}
    (ok : ((Assembly.tally rules proposal).runOn h).1 = .ok outcome)
    (passed : outcome.decision = .passed) {ballots : List Ballot}
    (yes : ∀ b ∈ ballots, b.proposal = proposal ∧ b.Brief ∧ b.IsFor .yes) :
    ∃ outcome',
      ((Assembly.tally rules proposal).runOn (h.after (ballots.map .cast))).1 = .ok outcome' ∧
        outcome'.decision = .passed := by
  induction ballots generalizing h outcome with
  | nil => exact ⟨outcome, ok, passed⟩
  | cons b rest ih =>
      obtain ⟨s, outages, journal⟩ := h
      obtain ⟨rfl, coherent⟩ := holds
      obtain ⟨rfl, short, isFor⟩ := yes b List.mem_cons_self
      obtain ⟨next, ok', passed'⟩ :=
        coherent.passes_after_cast brief.2 few journal short isFor ok passed
      have same : s.SameRoll (s.cast b) := .cast s b
      have few' : (s.cast b).population .electorate ≤ Tally.maxElectorate :=
        (same.members.countP_eq _).trans_le few
      exact ih (h := ⟨s.cast b, [], journal⟩) ⟨rfl, coherent.of_sameRoll same⟩
        ⟨rfl, brief.2.cast short⟩ few' ok' passed' fun x inRest =>
          yes x (List.mem_cons_of_mem _ inRest)

/-- If a tally decides that a proposal passes, it still does on counts with any number of ballots
more for yes, cast in addition or turned from another choice, in either tier, as long as no tier has
more ballots than members.

So nobody defeats a proposal by voting yes: at any time of a session a proposal that passes still
does after any voters, whoever they are and whatever they had cast before, have voted yes on it. -/
theorem yes_never_defeats :
    (∀ {electorate guardians : Nat} {weight : Decimal}, 1 ≤ guardians → guardians ≤ electorate →
      electorate ≤ 79228162514 → 0 ≤ weight.toRat ∧ weight.toRat ≤ 1 →
      ∃ power, Power.allocate electorate guardians weight = .ok power ∧
        ∀ rules (gs ms gs' ms' : Tier), gs'.total ≤ guardians → ms'.total ≤ electorate - guardians →
          Relation.ReflTransGen (Tier.Gains .yes) gs gs' →
          Relation.ReflTransGen (Tier.Gains .yes) ms ms' →
          ∀ outcome, Tally.outcome power gs ms rules = .ok outcome → outcome.decision = .passed →
            ∃ outcome', Tally.outcome power gs' ms' rules = .ok outcome' ∧
              outcome'.decision = .passed) ∧
    ∀ calls, (∀ b, .cast b ∈ calls → b.Brief) →
      (Host.fresh.after calls).store.population .electorate ≤ 79228162514 →
      ∀ rules proposal outcome,
        ((Assembly.tally rules proposal).runOn (Host.fresh.after calls)).1 = .ok outcome →
        outcome.decision = .passed →
        ∀ ballots : List Ballot, (∀ b ∈ ballots, b.proposal = proposal ∧ b.Brief ∧ b.IsFor .yes) →
          ∃ outcome', ((Assembly.tally rules proposal).runOn
              ((Host.fresh.after calls).after (ballots.map .cast))).1 = .ok outcome' ∧
            outcome'.decision = .passed := by
  constructor
  · intro electorate guardians weight someone enough few fraction
    obtain ⟨power, split, stands⟩ :=
      Power.decision_stands someone enough few fraction .passed
    refine ⟨power, split, fun rules gs ms gs' ms' fitsGs fitsMs gainsGs gainsMs => ?_⟩
    have backsGs := Tier.Backs.of_many gainsGs
    have backsMs := Tier.Backs.of_many gainsMs
    apply stands rules gs ms gs' ms' fitsGs fitsMs backsGs.toGrows backsMs.toGrows
    intro g m passed
    exact Tally.decision_passed_of_backs backsGs backsMs passed
  · intro calls brief few rules proposal outcome ok passed ballots yes
    have coherent := Store.Coherent.fresh_after calls
    exact passes_after_casts coherent (brief_after brief) few ok passed yes

/-- The guardian, who has nine tenths of the power, is for the proposal. -/
def supportSession : List Call :=
  [.found { weight := ⟨false, 9, 1, Nat.le_of_ble_eq_true rfl, Nat.le_of_ble_eq_true rfl⟩,
            guardians := [⟨"civ_one", none⟩], members := [⟨"civ_two", none⟩], rules := .default },
   .cast (.single ⟨1⟩ ⟨"civ_one"⟩ .yes)]

/-- In the counts a member turns from no to yes.  In the session everybody votes yes, the guardian
for a second time and somebody from outside as well. -/
theorem yes_never_defeats_support :
    let quarter : Decimal := ⟨false, 25, 2, by decide, by decide⟩
    let more : List Ballot := [.single ⟨1⟩ ⟨"civ_two"⟩ .yes, .single ⟨1⟩ ⟨"civ_one"⟩ .yes,
      .single ⟨1⟩ ⟨"civ_four"⟩ .yes]
    Power.allocate 3 1 .half = .ok ⟨quarter, .half⟩ ∧
      (∃ outcome, Tally.outcome ⟨quarter, .half⟩ (.ofEntries [(.yes, 1)]) (.ofEntries [(.yes, 2)])
        .default = .ok outcome ∧ outcome.decision = .passed) ∧
      ∃ outcome, ((Assembly.tally .default ⟨1⟩).runOn
          ((Host.fresh.after supportSession).after (more.map .cast))).1 = .ok outcome ∧
        outcome.decision = .passed := by
  intro quarter more
  have fraction : Decimal.half.isFraction = true := by decide
  have quarters : Power.allocate 3 1 .half = .ok ⟨quarter, .half⟩ := by decide +kernel
  refine ⟨quarters, ?_, ?_⟩
  · obtain ⟨power, split, stands⟩ :=
      yes_never_defeats.1 (Nat.le_refl 1) (by decide : 1 ≤ 3) (by decide)
        (Decimal.isFraction_iff.1 fraction)
    cases split.symm.trans quarters
    have turns : (Tier.ofEntries [(.yes, 1), (.no, 1)]).Turns .no .yes (.ofEntries [(.yes, 2)]) :=
      fun d => by cases d <;> rfl
    have before : Tally.outcome ⟨quarter, .half⟩ (.ofEntries [(.yes, 1)])
        (.ofEntries [(.yes, 1), (.no, 1)]) .default =
          .ok ⟨.passed, true, false, ⟨⟨false, 75, 2, by decide, by decide⟩, .zero, quarter, .zero⟩,
            ⟨false, 100, 2, by decide, by decide⟩, ⟨75, 0, 25, 0⟩⟩ := by
      decide +kernel
    exact stands .default _ _ _ _ (by decide) (by decide) .refl (.single (.inr ⟨.no, turns⟩)) _
      before rfl
  · have short (a : Address) (c : Choice) : (Ballot.single ⟨1⟩ a c).Brief :=
      (by decide : 1 < UInt64.size)
    have brief : ∀ b, .cast b ∈ supportSession → b.Brief := by
      intro b inside
      simp only [supportSession, List.mem_cons, Call.cast.injEq, reduceCtorEq, List.not_mem_nil,
        or_false, false_or] at inside
      subst inside
      exact short ..
    have few : (Host.fresh.after supportSession).store.population .electorate ≤ 79228162514 := by
      decide +kernel
    have before : ((Assembly.tally .default ⟨1⟩).runOn (Host.fresh.after supportSession)).1 =
        .ok ⟨.passed, true, false, ⟨⟨false, 9, 1, by decide, by decide⟩, .zero, .zero, .zero⟩,
          ⟨false, 9, 1, by decide, by decide⟩, ⟨9, 0, 0, 0⟩⟩ := by
      decide +kernel
    refine yes_never_defeats.2 supportSession brief few .default ⟨1⟩ _ before rfl more
      fun b inside => ?_
    simp only [more, List.mem_cons, List.not_mem_nil, or_false] at inside
    rcases inside with rfl | rfl | rfl <;> exact ⟨rfl, short .., Ballot.isFor_single _ _ rfl⟩

end Suffrage
