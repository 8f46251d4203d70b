/-
# Suffrage.Proofs.Report -- what a report says of each ballot

A box hands over its ballots in any order, and the collection goes through them in the order of
their voters, looking at no more than the voter before.  The report is nevertheless a statement
about the ballots as they were handed over, one by one: `CountsAt` and `RejectedAt` say of each
index what becomes of the ballot there, and `Collection.Accounts` that a report is just that.

What links the two is the order of indices that the sorting goes through (`votingOrder`).
Sorting keeps the order of what compares equal, so in it the indices of one voter are adjacent
and ascend, and a ballot is the first of its voter exactly if the voter before is another.

If no voter has two ballots, the order of the voters leaves no choice: every arrangement of the
ballots has the same report (`report_exact`).
-/
import Mathlib.Data.Set.Card
import Suffrage.Proofs.Collection

namespace Suffrage

set_option autoImplicit false

open List (finRange)

namespace Collection

variable (s : Store) (proposal : ProposalId) (ballots : List Ballot)

/-! ## What becomes of a ballot -/

/-- No ballot before index `i` is by its voter. -/
def IsFirst (i : Fin ballots.length) : Prop := ∀ j < i, ballots[j].voter ≠ ballots[i].voter

instance (i : Fin ballots.length) : Decidable (IsFirst ballots i) := Nat.decidableForallFin _

/-- The ballot at index `i` counts under a choice, in the tier of guardians or in the other. -/
structure CountsAt (i : Fin ballots.length) (choice : Choice) (byGuardian : Bool) : Prop where
  first : IsFirst ballots i
  proposal : ballots[i].proposal = proposal
  eligible : ∃ m, s.member? ballots[i].voter = some m ∧ m.normalized.standing = .electorate ∧
    m.normalized.isGuardian = byGuardian
  sole : Ballot.soleChoice ballots[i].options = .ok choice

/-- The ballot at index `i` does not count: it is not the first of its voter, or unfit by itself. -/
inductive RejectedAt (i : Fin ballots.length) : Refusal → Prop where
  | repeated (again : ¬IsFirst ballots i) :
      RejectedAt i (.malformedVote "voter already has a ballot on this proposal")
  | unfit (first : IsFirst ballots i) {reason : Refusal}
      (unfit : Unfit s proposal ballots[i] reason) : RejectedAt i reason

/-- One of the two tiers. -/
def tier (report : Collection) (byGuardian : Bool) : Tier :=
  if byGuardian then report.guardians else report.members

/-- The report is what the ballots come to, one by one: each tier counts the ballots that count in
it under each choice, and every other ballot is discarded once, in the order of the voters. -/
structure Accounts (report : Collection) : Prop where
  counts : ∀ choice byGuardian, (report.tier byGuardian).count choice =
    {i | CountsAt s proposal ballots i choice byGuardian}.ncard
  discarded : ∃ others : List (Fin ballots.length), others.Nodup ∧
    (∀ i, i ∈ others ↔ ¬∃ choice byGuardian, CountsAt s proposal ballots i choice byGuardian) ∧
    List.Forall₂ (fun i d => d.voter = ballots[i].voter ∧ RejectedAt s proposal ballots i d.reason)
      others report.discarded
  ascending : report.discarded.Pairwise fun a b => a.voter.precedes b.voter = true
  whole : report.counted + report.discarded.length = ballots.length

/-! ## The order of the voters -/

/-- The indices of the ballots in the order of their voters. -/
def votingOrder : List (Fin ballots.length) :=
  (finRange ballots.length).mergeSort fun i j => ballots[i].voter.precedes ballots[j].voter

theorem map_votingOrder : (votingOrder ballots).map (ballots[·]) = inVoterOrder ballots := by
  have each : (finRange ballots.length).map (ballots[·]) = ballots := List.map_getElem_finRange ..
  have sorted := List.map_mergeSort (f := fun i : Fin ballots.length => ballots[i])
    (l := finRange ballots.length) (r := fun i j => ballots[i].voter.precedes ballots[j].voter)
    (s := fun a b => a.voter.precedes b.voter) fun _ _ _ _ => rfl
  rwa [each] at sorted

theorem votingOrder_perm : (votingOrder ballots).Perm (finRange ballots.length) :=
  List.mergeSort_perm ..

theorem mem_votingOrder (i : Fin ballots.length) : i ∈ votingOrder ballots :=
  (votingOrder_perm ballots).mem_iff.2 (List.mem_finRange i)

theorem nodup_votingOrder : (votingOrder ballots).Nodup :=
  (votingOrder_perm ballots).nodup_iff.2 (List.nodup_finRange _)

/-- The voters ascend, and for one voter the indices do. -/
theorem pairwise_votingOrder : (votingOrder ballots).Pairwise fun i j =>
    ballots[i].voter.precedes ballots[j].voter = true ∧
      (ballots[i].voter = ballots[j].voter → i < j) := by
  let le (i j : Fin ballots.length) : Bool := ballots[i].voter.precedes ballots[j].voter
  -- Beside its own place in the list every index settles ties by itself.
  have tagged : votingOrder ballots =
      ((finRange ballots.length).zipIdx.mergeSort (List.zipIdxLE le)).map (·.1) :=
    List.mergeSort_zipIdx.symm
  have sorted := List.pairwise_mergeSort
    (@List.zipIdxLE_trans _ le fun _ _ _ => Address.precedes_trans)
    (@List.zipIdxLE_total _ le fun _ _ => Address.precedes_total ..)
    (finRange ballots.length).zipIdx
  have place {x : Fin ballots.length × Nat}
      (inside : x ∈ (finRange ballots.length).zipIdx.mergeSort (List.zipIdxLE le)) :
      x.1.val = x.2 := by
    have found := List.mem_zipIdx_iff_getElem?.1 (List.mem_mergeSort.1 inside)
    obtain ⟨_, same⟩ := List.getElem?_eq_some_iff.1 found
    rw [← same, List.getElem_finRange]
    rfl
  have ascending : (votingOrder ballots).Pairwise fun i j =>
      le i j = true ∧ (ballots[i].voter = ballots[j].voter → i ≤ j) := by
    rw [tagged, List.pairwise_map]
    refine sorted.imp_of_mem fun {x y} inside inside' before => ?_
    unfold List.zipIdxLE at before
    split at before
    · rename_i forward
      refine ⟨forward, fun same => ?_⟩
      have backward : le y.1 x.1 = true := by
        show ballots[y.1].voter.precedes ballots[x.1].voter = true
        rw [same]
        exact Address.precedes_refl _
      rw [if_pos backward] at before
      rw [Fin.le_def, place inside, place inside']
      exact of_decide_eq_true before
    · cases before
  refine (ascending.and (nodup_votingOrder ballots)).imp fun {i j} both => ?_
  exact ⟨both.1.1, fun same => lt_of_le_of_ne (both.1.2 same) both.2⟩

/-- Whoever has a ballot at an earlier index has one earlier in the voting order, and conversely. -/
theorem not_isFirst_iff {earlier later : List (Fin ballots.length)} {i : Fin ballots.length}
    (whole : earlier ++ i :: later = votingOrder ballots) :
    ¬IsFirst ballots i ↔ ∃ j ∈ earlier, ballots[j].voter = ballots[i].voter := by
  have sorted := pairwise_votingOrder ballots
  rw [← whole, List.pairwise_append, List.pairwise_cons] at sorted
  obtain ⟨-, ⟨after, -⟩, before⟩ := sorted
  constructor
  · intro again
    by_contra apart
    refine again fun j smaller same => apart ⟨j, ?_, same⟩
    have inside : j ∈ earlier ++ i :: later := whole ▸ mem_votingOrder ballots j
    rcases List.mem_append.1 inside with inEarlier | inRest
    · exact inEarlier
    · rcases List.mem_cons.1 inRest with rfl | inLater
      · exact absurd smaller (lt_irrefl j)
      · exact absurd smaller (not_lt.2 ((after j inLater).2 same.symm).le)
  · rintro ⟨j, inside, same⟩ first
    exact first j ((before j inside i List.mem_cons_self).2 same) same

/-! ## Judging by the index -/

/-- The judgement of the ballot at index `i`. -/
def judgedAt (i : Fin ballots.length) : Except Failure Verdict :=
  judged s proposal (!decide (IsFirst ballots i)) ballots[i]

variable {s proposal ballots} {i : Fin ballots.length}

theorem judgedAt_of_isFirst (first : IsFirst ballots i) :
    judgedAt s proposal ballots i = verdictOf (classified s proposal ballots[i]) := by
  simp [judgedAt, judged, first]

theorem judgedAt_of_repeated (again : ¬IsFirst ballots i) : judgedAt s proposal ballots i =
    .ok (.discarded (.malformedVote "voter already has a ballot on this proposal")) := by
  simp [judgedAt, judged, again]

theorem judgedAt_counted_iff {choice : Choice} {byGuardian : Bool} :
    judgedAt s proposal ballots i = .ok (.counted choice byGuardian) ↔
      CountsAt s proposal ballots i choice byGuardian := by
  by_cases first : IsFirst ballots i
  · rw [judgedAt_of_isFirst first]
    constructor
    · intro counted
      obtain ⟨same, eligible, sole⟩ := classified_ok_iff.1 (of_verdictOf_counted counted)
      exact ⟨first, same, eligible, sole⟩
    · rintro ⟨-, same, eligible, sole⟩
      rw [classified_ok_iff.2 ⟨same, eligible, sole⟩]
      rfl
  · rw [judgedAt_of_repeated first]
    constructor
    · intro counted
      cases counted
    · rintro ⟨again, -, -, -⟩
      exact absurd again first

/-- A brief ballot counts or is rejected, and the verdict says so. -/
theorem judgedAt_cases (brief : ballots[i].Brief) :
    (∃ choice byGuardian, judgedAt s proposal ballots i = .ok (.counted choice byGuardian)) ∨
      ∃ reason, judgedAt s proposal ballots i = .ok (.discarded reason) ∧
        RejectedAt s proposal ballots i reason := by
  by_cases first : IsFirst ballots i
  · rw [judgedAt_of_isFirst first]
    obtain ⟨choice, byGuardian, run⟩ | ⟨reason, unfit⟩ := classified_cases s proposal brief
    · exact .inl ⟨choice, byGuardian, congrArg verdictOf run⟩
    · exact .inr ⟨reason, unfit.verdict, .unfit first unfit⟩
  · exact .inr ⟨_, judgedAt_of_repeated first, .repeated first⟩

/-! ## From the order of the voters to the report -/

variable {verdict : Fin ballots.length → Verdict}

/-- The report with these verdicts on the ballots at these indices. -/
def recorded (verdict : Fin ballots.length → Verdict) (report : Collection)
    (indices : List (Fin ballots.length)) : Collection :=
  indices.foldl (fun r i => r.record ballots[i].voter (verdict i)) report

/-- Going through the voting order, it is enough to compare each voter with the one before: what
has been seen of a voter still to come is the voter before. -/
theorem collected_later (each : ∀ i, judgedAt s proposal ballots i = .ok (verdict i))
    {earlier later : List (Fin ballots.length)} (whole : earlier ++ later = votingOrder ballots)
    {previous : Option Address}
    (seen : ∀ i ∈ later, (∃ j ∈ earlier, ballots[j].voter = ballots[i].voter) ↔
      previous = some ballots[i].voter)
    (before : ∀ p, previous = some p → ∀ i ∈ later, p.precedes ballots[i].voter = true)
    (report : Collection) :
    collected s proposal previous report (later.map (ballots[·])) =
      .ok (recorded verdict report later) := by
  induction later generalizing earlier previous report with
  | nil => rfl
  | cons i rest ih =>
      have sorted := pairwise_votingOrder ballots
      rw [← whole, List.pairwise_append, List.pairwise_cons] at sorted
      have after (k : Fin ballots.length) (inside : k ∈ rest) :
          ballots[i].voter.precedes ballots[k].voter = true := (sorted.2.1.1 k inside).1
      have repeated : decide (previous = some ballots[i].voter) = !decide (IsFirst ballots i) := by
        rw [← decide_not, decide_eq_decide, ← seen i List.mem_cons_self]
        exact (not_isFirst_iff ballots whole).symm
      have judged_ : judged s proposal (decide (previous = some ballots[i].voter)) ballots[i] =
          .ok (verdict i) := by
        rw [repeated]
        exact each i
      rw [List.map_cons, collected, judged_]
      have whole' : (earlier ++ [i]) ++ rest = votingOrder ballots := by simpa using whole
      refine ih whole' (fun k inside => ?_) (fun p same k inside => ?_) _
      · constructor
        · rintro ⟨j, inEarlier, same⟩
          rcases List.mem_append.1 inEarlier with earlier_ | last
          · have again := (seen k (List.mem_cons_of_mem _ inside)).1 ⟨j, earlier_, same⟩
            exact congrArg some (Address.precedes_antisymm (after k inside)
              (before _ again i List.mem_cons_self))
          · rw [List.mem_singleton.1 last] at same
            exact congrArg some same
        · intro same
          exact ⟨i, by simp, Option.some.inj same⟩
      · cases same
        exact after k inside

/-- The collection records the verdicts in the voting order. -/
theorem collected_eq_recorded (each : ∀ i, judgedAt s proposal ballots i = .ok (verdict i)) :
    collected s proposal none .empty (inVoterOrder ballots) =
      .ok (recorded verdict .empty (votingOrder ballots)) := by
  have whole : [] ++ votingOrder ballots = votingOrder ballots := rfl
  rw [← map_votingOrder]
  exact collected_later each whole (by simp) (by simp) .empty

/-! ## What is recorded -/

@[simp] theorem count_tier_empty (choice : Choice) (byGuardian : Bool) :
    (empty.tier byGuardian).count choice = 0 := by
  cases byGuardian <;> cases choice <;> rfl

theorem count_tier_record (report : Collection) (voter : Address) (verdict : Verdict)
    (choice : Choice) (byGuardian : Bool) :
    ((report.record voter verdict).tier byGuardian).count choice =
      (report.tier byGuardian).count choice +
        if verdict = .counted choice byGuardian then 1 else 0 := by
  cases verdict with
  | discarded reason => rfl
  | counted c serves =>
      cases serves <;> cases byGuardian <;> simp [record, tier, Tier.count_increment, eq_comm]

section Recorded

variable (verdict : Fin ballots.length → Verdict) (indices : List (Fin ballots.length))
  (report : Collection)

theorem count_tier_recorded (choice : Choice) (byGuardian : Bool) :
    ((recorded verdict report indices).tier byGuardian).count choice =
      (report.tier byGuardian).count choice +
        indices.countP fun i => verdict i = .counted choice byGuardian := by
  induction indices generalizing report with
  | nil => rfl
  | cons i rest ih =>
      have later := ih (report.record ballots[i].voter (verdict i))
      rw [count_tier_record] at later
      rw [List.countP_cons]
      simp only [decide_eq_true_eq]
      exact later.trans (by omega)

/-- What a verdict adds to the ballots discarded. -/
def discard? (i : Fin ballots.length) : Option Discarded :=
  match verdict i with
  | .counted _ _ => none
  | .discarded reason => some { voter := ballots[i].voter, reason }

theorem discarded_recorded :
    (recorded verdict report indices).discarded =
      report.discarded ++ indices.filterMap (discard? verdict) := by
  induction indices generalizing report with
  | nil => exact (List.append_nil _).symm
  | cons i rest ih =>
      have later := ih (report.record ballots[i].voter (verdict i))
      refine later.trans ?_
      cases found : verdict i with
      | counted c g => cases g <;> simp [record, discard?, found]
      | discarded reason => simp [record, discard?, found]

/-- Every verdict makes the report larger by one. -/
theorem size_recorded :
    (recorded verdict report indices).counted + (recorded verdict report indices).discarded.length =
      report.counted + report.discarded.length + indices.length := by
  induction indices generalizing report with
  | nil => rfl
  | cons i rest ih =>
      have step : (report.record ballots[i].voter (verdict i)).counted +
          (report.record ballots[i].voter (verdict i)).discarded.length =
            report.counted + report.discarded.length + 1 := by
        cases verdict i with
        | discarded reason => simp [record, counted, Nat.add_assoc]
        | counted c g =>
            cases g <;> simp [record, counted, Tier.total_increment] <;> omega
      have later := ih (report.record ballots[i].voter (verdict i))
      rw [List.length_cons]
      exact later.trans (by omega)

end Recorded

/-- Counting along the voting order counts every index once. -/
theorem countP_votingOrder (p : Fin ballots.length → Prop) [DecidablePred p] :
    (votingOrder ballots).countP (fun i => p i) = {i | p i}.ncard := by
  have all : {i | p i} = ((votingOrder ballots).filter fun i => p i).toFinset := by
    ext i
    simp [mem_votingOrder]
  rw [all, Set.ncard_coe_finset, List.toFinset_card_of_nodup ((nodup_votingOrder _).filter _),
    List.countP_eq_length_filter]

theorem discard?_eq_some_iff {i : Fin ballots.length} {d : Discarded} :
    discard? verdict i = some d ↔
      d.voter = ballots[i].voter ∧ verdict i = .discarded d.reason := by
  unfold discard?
  cases verdict i with
  | counted c g => simp
  | discarded reason =>
      obtain ⟨voter, reason'⟩ := d
      simp [eq_comm]

/-- Each index with something to discard stands for one entry. -/
theorem forall₂_discard? (indices : List (Fin ballots.length)) :
    List.Forall₂ (fun i d => discard? verdict i = some d)
      (indices.filter fun i => (discard? verdict i).isSome)
      (indices.filterMap (discard? verdict)) := by
  induction indices with
  | nil => exact .nil
  | cons i rest ih =>
      cases found : discard? verdict i with
      | none => simpa [found] using ih
      | some d => simpa [found] using ih

theorem accounts_recorded (each : ∀ i, judgedAt s proposal ballots i = .ok (verdict i))
    (reasons : ∀ i reason, verdict i = .discarded reason → RejectedAt s proposal ballots i reason) :
    (recorded verdict .empty (votingOrder ballots)).Accounts s proposal ballots := by
  have counts (i : Fin ballots.length) (choice : Choice) (byGuardian : Bool) :
      verdict i = .counted choice byGuardian ↔
        CountsAt s proposal ballots i choice byGuardian := by
    rw [← judgedAt_counted_iff, each i, Except.ok.injEq]
  have list : (recorded verdict .empty (votingOrder ballots)).discarded =
      (votingOrder ballots).filterMap (discard? verdict) := discarded_recorded ..
  constructor
  · intro choice byGuardian
    rw [count_tier_recorded, count_tier_empty, Nat.zero_add, countP_votingOrder]
    simp only [counts]
  · refine ⟨(votingOrder ballots).filter fun i => (discard? verdict i).isSome,
      (nodup_votingOrder ballots).filter _, fun i => ?_, ?_⟩
    · simp only [List.mem_filter, mem_votingOrder, true_and, ← counts]
      cases found : verdict i with
      | counted c g => simp [discard?, found]
      | discarded reason => simp [discard?, found]
    · rw [list]
      refine (forall₂_discard? _).imp fun i d entry => ?_
      obtain ⟨voter, reason⟩ := discard?_eq_some_iff.1 entry
      exact ⟨voter, reasons i d.reason reason⟩
  · rw [list, List.pairwise_filterMap]
    refine (pairwise_votingOrder ballots).imp fun {i j} before d entry d' entry' => ?_
    rw [(discard?_eq_some_iff.1 entry).1, (discard?_eq_some_iff.1 entry').1]
    exact before.1
  · rw [size_recorded, (votingOrder_perm ballots).length_eq, List.length_finRange]
    exact Nat.zero_add _

/-- Brief ballots have verdicts, all of them, and the report that accounts for them. -/
theorem collected_accounts (s : Store) (proposal : ProposalId) {ballots : List Ballot}
    (brief : ∀ b ∈ ballots, b.Brief) :
    ∃ report, collected s proposal none .empty (inVoterOrder ballots) = .ok report ∧
      report.Accounts s proposal ballots := by
  have verdicts (i : Fin ballots.length) : ∃ v, judgedAt s proposal ballots i = .ok v ∧
      ∀ reason, v = .discarded reason → RejectedAt s proposal ballots i reason := by
    obtain ⟨choice, byGuardian, run⟩ | ⟨reason, run, rejected⟩ :=
      @judgedAt_cases s proposal ballots i (brief ballots[i] (List.getElem_mem _))
    · exact ⟨_, run, fun _ other => by cases other⟩
    · exact ⟨_, run, fun _ same => by cases same; exact rejected⟩
  choose verdict each reasons using verdicts
  exact ⟨_, collected_eq_recorded each, accounts_recorded each reasons⟩

/-- Distinct voters leave no choice of order. -/
theorem inVoterOrder_eq_of_perm {ballots arranged : List Ballot}
    (distinct : (ballots.map (·.voter)).Nodup) (same : arranged.Perm ballots) :
    inVoterOrder arranged = inVoterOrder ballots := by
  have perm : (inVoterOrder arranged).Perm (inVoterOrder ballots) :=
    (List.mergeSort_perm ..).trans (same.trans (List.mergeSort_perm ..).symm)
  refine perm.eq_of_pairwise (fun a b inside inside' before after => ?_)
    (sorted_inVoterOrder arranged) (sorted_inVoterOrder ballots)
  have inBallots : a ∈ ballots := same.mem_iff.1 (List.mem_mergeSort.1 inside)
  exact List.inj_on_of_nodup_map distinct inBallots (List.mem_mergeSort.1 inside')
    (Address.precedes_antisymm before after)

end Collection

/-- Whatever a box hands over, in any order, repeated or not: if the records can be read and the
voters marked, the collection ends with a report that accounts for each ballot, and has marked the
voter of every ballot.  If no voter has two ballots, any box that hands them over in any order has
the same report. -/
theorem report_exact {σ : Type} {box : BallotBox σ} {host : σ → Host} {ready : σ → Prop}
    {s : Store} {proposal : ProposalId} {ballots : List Ballot}
    (reliable : box.Reliable host ready s proposal ballots) (brief : ∀ b ∈ ballots, b.Brief)
    {x y : σ} (offers : (box.ballots proposal).runOn x = (.ok ballots, y)) (now : ready y) :
    ∃ report, report.Accounts s proposal ballots ∧
      (∃ (voters : List Address) (z : σ), voters.Perm (ballots.map (·.voter)) ∧
        (forM voters (box.mark proposal)).runOn y = (.ok (), z) ∧
        (Collection.collect box proposal).runOn x = (.ok report, z)) ∧
      ((ballots.map (·.voter)).Nodup → ∀ arranged, arranged.Perm ballots →
        ∀ {σ' : Type} {box' : BallotBox σ'} {host' : σ' → Host} {ready' : σ' → Prop},
        box'.Reliable host' ready' s proposal arranged →
        ∀ {x' y' : σ'}, (box'.ballots proposal).runOn x' = (.ok arranged, y') → ready' y' →
        ((Collection.collect box' proposal).runOn x').1 = .ok report) := by
  obtain ⟨report, collect, accounts⟩ := Collection.collected_accounts s proposal brief
  obtain ⟨z, -, run, marks⟩ := Collection.runOn_collect_of_offers proposal reliable offers now
  refine ⟨report, accounts, ⟨(Collection.inVoterOrder ballots).map (·.voter), z,
    (List.mergeSort_perm ..).map _, marks report collect, collect ▸ run⟩, ?_⟩
  intro distinct arranged same σ' box' host' ready' reliable' x' y' offers' now'
  obtain ⟨z', -, run', -⟩ := Collection.runOn_collect_of_offers proposal reliable' offers' now'
  rw [run', Collection.inVoterOrder_eq_of_perm distinct same]
  exact collect

/-- A guardian and another member of the electorate. -/
def sampleRoll : Store :=
  (Store.empty.putMember ⟨⟨"civ_one"⟩, .electorate, true⟩).putMember
    ⟨⟨"civ_two"⟩, .electorate, false⟩

/-- Their ballots, out of order, with one for another proposal and a second one of a voter. -/
def sampleBallots : List Ballot :=
  [.single ⟨1⟩ ⟨"civ_two"⟩ .no, .single ⟨2⟩ ⟨"civ_ten"⟩ .yes, .single ⟨1⟩ ⟨"civ_one"⟩ .yes,
   .single ⟨1⟩ ⟨"civ_two"⟩ .yes]

theorem report_exact_sample :
    ∃ report, report.Accounts sampleRoll ⟨1⟩ sampleBallots ∧
      ((Collection.collect (.listed sampleBallots none) ⟨1⟩).runOn
        ⟨⟨sampleRoll, [], []⟩, []⟩).1 = .ok report := by
  have brief : ∀ b ∈ sampleBallots, b.Brief := by
    simp only [sampleBallots, List.mem_cons, List.not_mem_nil, or_false]
    rintro b (rfl | rfl | rfl | rfl) <;> exact (by decide : 1 < UInt64.size)
  obtain ⟨report, accounts, ⟨voters, z, -, -, run⟩, -⟩ :=
    report_exact (BallotBox.reliable_listed sampleRoll [] ⟨1⟩ sampleBallots) brief
      (x := ⟨⟨sampleRoll, [], []⟩, []⟩) rfl rfl
  exact ⟨report, accounts, congrArg Prod.fst run⟩

end Suffrage
