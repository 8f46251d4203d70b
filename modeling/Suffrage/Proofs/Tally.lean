/-
# Suffrage.Proofs.Tally -- tallies of a session

A tally needs three things of the store: settings with a weight in `(0, 1]`, a guardian on
the list, and no more of them than members of the electorate.  A founded session has them
at any time (`Store.Coherent`), so its tallies succeed, as long as the electorate is not
too large for a ratio of counts (`Tally.maxElectorate`).

The power of one ballot is fixed by the length of the guardian list and by the counter of
the electorate, while ballots are put into tiers by the flags on the records.  Because list,
counter and flags agree, no tier counts more ballots than its budget was divided by
(`Store.Coherent.counts_le`), and no tally hands out more than one whole power
(`Tally.Accounted`).
-/
import Suffrage.Proofs.Assembly
import Suffrage.Proofs.Collection
import Suffrage.Proofs.Outcome

namespace Suffrage

set_option autoImplicit false

open Suffrage.Action (Holds Keeps)
open Decimal (IsFixed fixedPlaces maxUnits)
open Radix (ten)

/-! ## Stored ballots -/

namespace Store

/-- Every stored ballot is one that a machine can hold. -/
def Brief (s : Store) : Prop := ∀ b, Entry.ballot b ∈ s.entries → b.Brief

namespace Brief

theorem insert {s : Store} (brief : s.Brief) {e : Entry} (kept : ∀ b, e = .ballot b → b.Brief) :
    (s.insert e).Brief := by
  intro b inside
  rcases mem_insertInto inside with same | old
  · exact kept b same.symm
  · exact brief b old

theorem erase {s : Store} (brief : s.Brief) (k : Key) : (s.erase k).Brief :=
  fun b inside => brief b (List.mem_of_mem_filter inside)

theorem cast {s : Store} (brief : s.Brief) {ballot : Ballot} (short : ballot.Brief) :
    (s.cast ballot).Brief := by
  refine brief.insert fun b same => ?_
  cases same
  unfold Ballot.Brief Ballot.canonical
  rwa [List.length_map]

theorem ballots {s : Store} (brief : s.Brief) (proposal : ProposalId) :
    ∀ b ∈ s.ballots proposal, b.Brief := by
  intro b inside
  have found := mem_ballots.1 inside
  have place := key_of_find? found
  exact brief b (mem_entries_iff.2 (place.symm ▸ found))

theorem stable : Stable Brief := by
  refine .of_writes (fun s e other brief => brief.insert fun b same => ?_) fun s k brief =>
    brief.erase k
  subst same
  cases other

end Brief

end Store

/-! ## What a tier counts -/

namespace Store

variable {s : Store}

/-- The addresses of the members of the electorate. -/
def electors (s : Store) : List Address :=
  (s.members.filter (·.standing == .electorate)).map (·.address)

theorem mem_electors {a : Address} :
    a ∈ s.electors ↔ ∃ m, s.member? a = some m ∧ m.standing = .electorate := by
  unfold electors
  simp only [List.mem_map, List.mem_filter, mem_members, beq_iff_eq]
  constructor
  · rintro ⟨m, ⟨found, active⟩, rfl⟩
    exact ⟨m, found, active⟩
  · rintro ⟨m, found, active⟩
    have place := address_of_member? found
    exact ⟨m, ⟨by rwa [place], active⟩, place⟩

theorem length_electors : s.electors.length = s.population .electorate := by
  rw [electors, List.length_map, population, List.countP_eq_length_filter]

namespace Coherent

variable {founded : Prop}

theorem length_listed_le (coherent : s.Coherent founded) :
    s.listed.length ≤ (s.standingCount .electorate).toNat := by
  rw [coherent.counted.each, ← length_electors]
  refine coherent.distinct.length_le_of_subset fun a inside => ?_
  obtain ⟨m, found, -, active⟩ := isGuardian_iff.1 ((coherent.listed_iff a).1 inside)
  exact mem_electors.2 ⟨m, found, active⟩

/-- Among distinct members of the electorate there are no more guardians than listed, and no
more others than the counter leaves. -/
theorem counts_le (coherent : s.Coherent founded) {voters : List Address}
    (distinct : voters.Nodup)
    (active : ∀ a ∈ voters, ∃ m, s.member? a = some m ∧ m.standing = .electorate) :
    voters.countP s.isGuardian ≤ s.listed.length ∧
      s.listed.length + voters.countP (!s.isGuardian ·) ≤
        (s.standingCount .electorate).toNat := by
  constructor
  · rw [List.countP_eq_length_filter]
    refine (distinct.filter _).length_le_of_subset fun a inside => ?_
    exact (coherent.listed_iff a).2 (List.mem_filter.1 inside).2
  · rw [coherent.counted.each, ← length_electors, List.countP_eq_length_filter,
      ← List.length_append]
    refine List.Nodup.length_le_of_subset ?_ fun a inside => ?_
    · refine List.nodup_append.2 ⟨coherent.distinct, distinct.filter _, ?_⟩
      rintro a listed _ other rfl
      have serves := (coherent.listed_iff a).1 listed
      simp [serves] at other
    · rcases List.mem_append.1 inside with listed | other
      · obtain ⟨m, found, -, active⟩ := isGuardian_iff.1 ((coherent.listed_iff a).1 listed)
        exact mem_electors.2 ⟨m, found, active⟩
      · exact mem_electors.2 (active a (List.mem_filter.1 other).1)

/-! ## The run of a tally -/

theorem runOn_power {record : Settings} (coherent : s.Coherent founded)
    (found : s.settings? = some record) (journal : List Event) :
    Tally.power.runOn ⟨s, [], journal⟩ =
      (Power.allocate (s.standingCount .electorate).toNat record.guardians.length record.weight,
        ⟨s, [], journal⟩) := by
  simp only [Tally.power, Action.runOn_bind, Roll.runOn_standingCount, Action.andThen_ok,
    coherent.runOn_confirmed found journal, Guardians.runOn_weight, found, Action.runOn_lift]

/-- A tally splits the power, collects the ballots, and decides. -/
theorem runOn_tally {record : Settings} (coherent : s.Coherent founded)
    (found : s.settings? = some record) (journal : List Event) (rules : Rules)
    (proposal : ProposalId) :
    ((Assembly.tally rules proposal).runOn ⟨s, [], journal⟩).1 = (do
      let power ← Power.allocate (s.standingCount .electorate).toNat record.guardians.length
        record.weight
      let report ← Collection.collected s proposal none .empty
        (Collection.inVoterOrder (s.ballots proposal))
      Tally.outcome power report.guardians report.members rules) := by
  have steps : Assembly.tally rules proposal = (do
      let power ← Tally.power
      let report ← Collection.collect .store proposal
      Action.lift (Tally.outcome power report.guardians report.members rules)) := rfl
  obtain ⟨u, -, collect⟩ := Collection.runOn_collect proposal journal s
  rw [steps, Action.runOn_bind, coherent.runOn_power found journal]
  cases Power.allocate (s.standingCount .electorate).toNat record.guardians.length
    record.weight with
  | error e => rfl
  | ok power =>
      rw [Action.andThen_ok, Action.runOn_bind, collect]
      cases Collection.collected s proposal none .empty
        (Collection.inVoterOrder (s.ballots proposal)) with
      | error e => rfl
      | ok report => rfl

/-- Without settings there is no weight to split. -/
theorem runOn_tally_unsettled (none_ : s.settings? = none) (journal : List Event) (rules : Rules)
    (proposal : ProposalId) :
    ((Assembly.tally rules proposal).runOn ⟨s, [], journal⟩).1 = .error Guardians.unsettled := by
  simp [Assembly.tally, Tally.tally, Tally.power, BallotBox.store, none_]

/-- No tier counts more ballots than its budget is divided by, and only recognized choices. -/
theorem collected_le {record : Settings} {proposal : ProposalId} {report : Collection}
    (coherent : s.Coherent founded) (found : s.settings? = some record)
    (run : Collection.collected s proposal none .empty
      (Collection.inVoterOrder (s.ballots proposal)) = .ok report) :
    report.guardians.total ≤ record.guardians.length ∧
      record.guardians.length + report.members.total ≤ (s.standingCount .electorate).toNat ∧
      report.guardians.count .unspecified = 0 ∧ report.members.count .unspecified = 0 := by
  obtain ⟨voters, counts⟩ := Collection.collected_counts proposal
    (Collection.sorted_inVoterOrder _) (fun p none_ => by cases none_) run
  have le := coherent.counts_le counts.distinct counts.active
  have guardians : report.guardians.total = voters.countP s.isGuardian :=
    counts.guardians.trans (Nat.zero_add _)
  have members : report.members.total = voters.countP (!s.isGuardian ·) :=
    counts.members.trans (Nat.zero_add _)
  rw [guardians, members, ← listed_of_settings? found]
  exact ⟨le.1, le.2, counts.recognized.1, counts.recognized.2⟩

end Coherent

end Store

/-! ## Tallies succeed -/

/-- A founded electorate that is not too large can tally any proposal. -/
theorem Store.Coherent.tally_ok {s : Store} (coherent : s.Coherent True) (brief : s.Brief)
    (few : s.population .electorate ≤ Tally.maxElectorate) (journal : List Event) (rules : Rules)
    (proposal : ProposalId) :
    ∃ outcome, ((Assembly.tally rules proposal).runOn ⟨s, [], journal⟩).1 = .ok outcome := by
  have found := settings?_of_isSome coherent.settings?_isSome
  have someone : s.settled.guardians.length ≠ 0 := fun none_ =>
    coherent.staffed trivial (List.length_eq_zero_iff.1 none_)
  have enough : s.settled.guardians.length ≤ (s.standingCount .electorate).toNat :=
    coherent.length_listed_le
  obtain ⟨power, g, m, split, within⟩ := Power.allocate_ok
    (Decimal.isFraction_of_isPositiveFraction (coherent.weighed _ found)) someone enough
  have short : ∀ b ∈ Collection.inVoterOrder (s.ballots proposal), b.Brief := fun b inside =>
    brief.ballots proposal b (List.mem_mergeSort.1 inside)
  obtain ⟨report, collect⟩ := Collection.collected_ok proposal short none .empty
  obtain ⟨guardians, members, -⟩ := coherent.collected_le found collect
  have few' := coherent.counted.each .electorate ▸ few
  have whole : g * report.guardians.total + m * report.members.total ≤ maxUnits :=
    (within.sum_le guardians (by omega)).trans (by decide)
  obtain ⟨outcome, decided, -⟩ := Tally.outcome_ok rules within.guardian within.member
    within.guardian_le within.member_le whole (Tally.ratio_fits (by omega))
    (Tally.ratio_fits (by omega))
  refine ⟨outcome, ?_⟩
  rw [coherent.runOn_tally found journal rules proposal, split]
  simp only [Result.ok_bind, collect, decided]

/-- Some founding among the calls succeeds. -/
def Host.Founds (h : Host) (calls : List Call) : Prop :=
  ∃ before genesis rest, calls = before ++ .found genesis :: rest ∧
    ((Assembly.found genesis).runOn (h.after before)).1 = .ok ()

/-- From a successful founding on, someone is on the list. -/
theorem coherent_of_founds {calls : List Call} (founds : Host.fresh.Founds calls) :
    Holds (Store.Coherent True) (Host.fresh.after calls) := by
  obtain ⟨before, genesis, rest, rfl, ok⟩ := founds
  rw [Host.after_append]
  refine Store.Coherent.after rest ?_
  have start := Store.Coherent.fresh_after before
  generalize Host.fresh.after before = h at ok start
  obtain ⟨s, outages, journal⟩ := h
  obtain ⟨rfl, coherent⟩ := start
  obtain ⟨⟨quiet, coherent'⟩, someone⟩ := Assembly.found_coherent genesis journal coherent
  exact ⟨quiet, coherent'.strengthen (someone ok)⟩

/-- Sessions store no ballot that is longer than those cast. -/
theorem brief_after {calls : List Call} (brief : ∀ ballot, .cast ballot ∈ calls → ballot.Brief) :
    Holds Store.Brief (Host.fresh.after calls) := by
  refine holds_after (fun c inside => ?_) ⟨rfl, fun b stored => by cases stored⟩
  refine Store.Brief.stable.keeps_call c fun ballot same s kept => ?_
  subst same
  exact kept.cast (brief ballot inside)

/-- Once a founding has succeeded, every tally does, whatever has been called in between and
whatever the rules: settings exist, their weight is in `(0, 1]`, the listed guardians are
confirmed, and there are some, but no more than members of the electorate. -/
theorem tally_succeeds (calls : List Call) (founds : Host.fresh.Founds calls)
    (brief : ∀ ballot, .cast ballot ∈ calls → ballot.Brief)
    (few : (Host.fresh.after calls).store.population .electorate ≤ 79228162514)
    (rules : Rules) (proposal : ProposalId) :
    let h := Host.fresh.after calls
    (∃ record, h.store.settings? = some record ∧
      (0 < record.weight.toRat ∧ record.weight.toRat ≤ 1) ∧
      Guardians.confirmed.runOn h = (.ok record.guardians, h) ∧
      record.guardians ≠ [] ∧
      record.guardians.length ≤ (h.store.standingCount .electorate).toNat) ∧
    ∃ outcome, ((Assembly.tally rules proposal).runOn h).1 = .ok outcome := by
  intro h
  have governed : Holds (Store.Coherent True) h := coherent_of_founds founds
  have short : Holds Store.Brief h := brief_after brief
  have few' : h.store.population .electorate ≤ Tally.maxElectorate := few
  clear_value h
  obtain ⟨s, outages, journal⟩ := h
  obtain ⟨rfl, coherent⟩ := governed
  have found := Store.settings?_of_isSome coherent.settings?_isSome
  refine ⟨⟨s.settled, found, ?_, ?_, ?_, ?_⟩, ?_⟩
  · exact Decimal.isPositiveFraction_iff.1 (coherent.weighed _ found)
  · exact coherent.runOn_confirmed found journal
  · exact coherent.staffed trivial
  · exact coherent.length_listed_le
  · exact coherent.tally_ok short.2 few' journal rules proposal

/-- Two founders, of whom the guardian votes. -/
def sampleSession : List Call :=
  [.found { weight := .half, guardians := [⟨"civ_one", none⟩], members := [⟨"civ_two", none⟩],
            rules := .default },
   .cast (.single ⟨1⟩ ⟨"civ_one"⟩ .yes)]

theorem tally_succeeds_sample :
    ∃ outcome, ((Assembly.tally .default ⟨1⟩).runOn (Host.fresh.after sampleSession)).1 =
      .ok outcome := by
  refine (tally_succeeds sampleSession ⟨[], _, _, rfl, by decide +kernel⟩ ?_ (by decide +kernel)
    .default ⟨1⟩).2
  intro ballot inside
  simp only [sampleSession, List.mem_cons, Call.cast.injEq, reduceCtorEq, List.not_mem_nil,
    or_false, false_or] at inside
  subst inside
  exact (by decide : 1 < UInt64.size)

/-! ## Tallies stay within the budgets -/

/-- What a tally hands out: the exact sum over both tiers, each within its budget, because
neither counts more ballots than its budget was divided by. -/
structure Tally.Accounted (s : Store) (record : Settings) (power : Power) (report : Collection)
    (outcome : Outcome) : Prop where
  /-- The power of a choice is that of the ballots that made it. -/
  combined : ∀ c d, outcome.combined.toTable.get? c = some d →
    d.toRat = power.guardian.toRat * report.guardians.count c
      + power.member.toRat * report.members.count c
  combined_nonneg : ∀ c d, outcome.combined.toTable.get? c = some d → 0 ≤ d.toRat
  /-- The total has a part of the guardians and a part of the other members. -/
  total : outcome.totalPower.toRat = power.guardian.toRat * report.guardians.total
    + power.member.toRat * report.members.total
  guardians_le : power.guardian.toRat * report.guardians.total ≤ record.weight.toRat
  members_le : power.member.toRat * report.members.total ≤ 1 - record.weight.toRat
  total_nonneg : 0 ≤ outcome.totalPower.toRat
  total_le_one : outcome.totalPower.toRat ≤ 1
  guardians_count_le : report.guardians.total ≤ record.guardians.length
  members_count_le : report.members.total ≤
    (s.standingCount .electorate).toNat - record.guardians.length

theorem Store.Coherent.accounted {founded : Prop} {s : Store} {record : Settings} {power : Power}
    {report : Collection} {outcome : Outcome} {rules : Rules} {proposal : ProposalId}
    (coherent : s.Coherent founded) (found : s.settings? = some record)
    (split : Power.allocate (s.standingCount .electorate).toNat record.guardians.length
      record.weight = .ok power)
    (collect : Collection.collected s proposal none .empty
      (Collection.inVoterOrder (s.ballots proposal)) = .ok report)
    (decided : Tally.outcome power report.guardians report.members rules = .ok outcome) :
    Tally.Accounted s record power report outcome := by
  obtain ⟨g, m, within⟩ := Power.within_of_allocate_ok split
  obtain ⟨guardians, members, none_, none_'⟩ := coherent.collected_le found collect
  have members' : report.members.total ≤
      (s.standingCount .electorate).toNat - record.guardians.length := by omega
  obtain ⟨combined, total, run, each, sum, parts⟩ :=
    within.combine_ok guardians members' none_ none_'
  rw [Tally.of_outcome_ok decided] at run
  cases run
  have guardiansLe := within.guardians_le guardians
  have membersLe := within.members_le members'
  have unit := Decimal.ten_rat_pos fixedPlaces
  refine ⟨fun c d value => ?_, fun c d value => ?_, parts, guardiansLe, membersLe, ?_, ?_,
    guardians, members'⟩
  · rw [(each c d value).toRat, within.guardian_toRat, within.member_toRat, Tally.castFor]
    push_cast
    ring
  · rw [(each c d value).toRat, Int.cast_natCast]
    positivity
  · rw [sum.toRat, Int.cast_natCast]
    positivity
  · linarith

/-- Whatever was called before and whatever ballots were cast: a tally that succeeds has
settings, powers and counts that account for its outcome. -/
theorem tally_within_budget (calls : List Call) (rules : Rules) (proposal : ProposalId)
    (outcome : Outcome)
    (ok : ((Assembly.tally rules proposal).runOn (Host.fresh.after calls)).1 = .ok outcome) :
    let h := Host.fresh.after calls
    ∃ record power report,
      h.store.settings? = some record ∧
      Guardians.confirmed.runOn h = (.ok record.guardians, h) ∧
      (Tally.power.runOn h).1 = .ok power ∧
      ((Collection.collect .store proposal).runOn h).1 = .ok report ∧
      Tally.Accounted h.store record power report outcome := by
  intro h
  have start : Holds (Store.Coherent False) h := Store.Coherent.fresh_after calls
  have ok' : ((Assembly.tally rules proposal).runOn h).1 = .ok outcome := ok
  clear_value h
  obtain ⟨s, outages, journal⟩ := h
  obtain ⟨rfl, coherent⟩ := start
  cases found : s.settings? with
  | none =>
      rw [Store.Coherent.runOn_tally_unsettled found journal rules proposal] at ok'
      cases ok'
  | some record =>
      have split := coherent.runOn_power found journal
      obtain ⟨u, -, collect⟩ := Collection.runOn_collect proposal journal s
      rw [coherent.runOn_tally found journal rules proposal] at ok'
      obtain ⟨power, allocated, rest⟩ := Result.of_bind_ok ok'
      obtain ⟨report, reported, decided⟩ := Result.of_bind_ok rest
      rw [allocated] at split
      rw [reported] at collect
      exact ⟨record, power, report, rfl, coherent.runOn_confirmed found journal,
        congrArg Prod.fst split, congrArg Prod.fst collect,
        coherent.accounted found allocated reported decided⟩

theorem tally_within_budget_sample :
    ∃ record power report, Tally.Accounted (Host.fresh.after sampleSession).store record power
      report ⟨.rejected, false, false, ⟨.half, .zero, .zero, .zero⟩, .half, ⟨5, 0, 0, 0⟩⟩ := by
  obtain ⟨record, power, report, -, -, -, -, accounted⟩ :=
    tally_within_budget sampleSession .default ⟨1⟩
      ⟨.rejected, false, false, ⟨.half, .zero, .zero, .zero⟩, .half, ⟨5, 0, 0, 0⟩⟩
      (by decide +kernel)
  exact ⟨record, power, report, accounted⟩

end Suffrage
