/-
# Suffrage.Proofs.Collection -- one voter, one ballot, one tier

The collection of ballots is a function of the records of their voters
(`Collection.collected`), whatever box the ballots come from, as long as the records can be read
and the voters marked (`BallotBox.Reliable`); all that it does is to mark voters.  It breaks off
only for a defect, and brief ballots have none (`collected_ok`): they count, or they are unfit
for one reason (`Unfit`).

Ballots come in the order of their voters, so those of one voter stand side by side, and
comparing each with the voter before it is enough to count every voter once.  What the
tiers count is therefore distinct guardians and distinct other members of the electorate
(`Collection.Counts`).
-/
import Suffrage.Collection
import Suffrage.Proofs.Ballot
import Suffrage.Proofs.Guardians

namespace Suffrage

set_option autoImplicit false

/-! ## The order of addresses -/

namespace Address

theorem precedes_total (a b : Address) : (a.precedes b || b.precedes a) = true := by
  rw [Bool.or_eq_true, precedes, precedes, decide_eq_true_iff, decide_eq_true_iff]
  exact List.le_total a.bytes b.bytes

theorem precedes_refl (a : Address) : a.precedes a = true := by
  simpa using precedes_total a a

theorem precedes_trans {a b c : Address} (first : a.precedes b = true)
    (second : b.precedes c = true) : a.precedes c = true :=
  decide_eq_true (List.le_trans (of_decide_eq_true first) (of_decide_eq_true second))

theorem precedes_antisymm {a b : Address} (first : a.precedes b = true)
    (second : b.precedes a = true) : a = b :=
  bytes_inj (List.le_antisymm (of_decide_eq_true first) (of_decide_eq_true second))

end Address

/-! ## Tiers -/

namespace Tier

theorem total_increment (t : Tier) (c : Choice) : (t.increment c).total = t.total + 1 := by
  simp only [total_eq_counts, count_increment]
  cases c <;> simp <;> omega

theorem count_unspecified_increment (t : Tier) {c : Choice} (recognized : c.isRecognized = true) :
    (t.increment c).count .unspecified = t.count .unspecified := by
  have apart : Choice.unspecified ≠ c := by
    rintro rfl
    cases recognized
  rw [count_increment, if_neg apart, Nat.add_zero]

end Tier

namespace Collection

/-! ## Judging as a function of the store -/

/-- The choice of a ballot and the tier of its voter, as the store has it. -/
def classified (s : Store) (proposal : ProposalId) (ballot : Ballot) :
    Except Failure (Choice × Bool) :=
  if ballot.proposal ≠ proposal then
    .error (.refused (.malformedVote ("ballot is for proposal " ++ toString ballot.proposal)))
  else
    match s.member? ballot.voter with
    | none => .error (.refused (.unknownMember ballot.voter.text))
    | some m =>
        if m.standing.mayVote then
          (Ballot.soleChoice ballot.options).map fun choice => (choice, s.isGuardian ballot.voter)
        else
          .error (.refused (.unauthorized
            ("member is not eligible to vote: status " ++ m.standing.label)))

def judged (s : Store) (proposal : ProposalId) (repeated : Bool) (ballot : Ballot) :
    Except Failure Verdict :=
  if repeated then
    .ok (.discarded (.malformedVote "voter already has a ballot on this proposal"))
  else verdictOf (classified s proposal ballot)

/-- The report of the ballots, one after another. -/
def collected (s : Store) (proposal : ProposalId) :
    Option Address → Collection → List Ballot → Except Failure Collection
  | _, report, [] => .ok report
  | previous, report, ballot :: rest =>
      match judged s proposal (decide (previous = some ballot.voter)) ballot with
      | .ok verdict =>
          collected s proposal (some ballot.voter) (report.record ballot.voter verdict) rest
      | .error e => .error e

/-! ## Ballots that count, and others -/

section Classified

variable {s : Store} {proposal : ProposalId} {ballot : Ballot} {m : Member}

theorem classified_of_foreign (other : ballot.proposal ≠ proposal) :
    classified s proposal ballot =
      .error (.refused (.malformedVote ("ballot is for proposal " ++ toString ballot.proposal))) :=
  if_pos other

theorem classified_of_unknown (same : ballot.proposal = proposal)
    (missing : s.member? ballot.voter = none) :
    classified s proposal ballot = .error (.refused (.unknownMember ballot.voter.text)) := by
  rw [classified, if_neg (not_not.2 same), missing]

theorem classified_of_ineligible (same : ballot.proposal = proposal)
    (found : s.member? ballot.voter = some m) (outside : m.normalized.standing ≠ .electorate) :
    classified s proposal ballot = .error (.refused (.unauthorized
      ("member is not eligible to vote: status " ++ m.normalized.standing.label))) := by
  have mayNot : m.standing.mayVote = false := by
    cases standing : m.standing with
    | electorate => exact absurd standing outside
    | _ => rfl
  rw [classified, if_neg (not_not.2 same), found]
  simp only [mayNot, Bool.false_eq_true, if_false]
  rfl

theorem classified_of_eligible (same : ballot.proposal = proposal)
    (found : s.member? ballot.voter = some m) (eligible : m.normalized.standing = .electorate) :
    classified s proposal ballot =
      (Ballot.soleChoice ballot.options).map fun choice => (choice, m.normalized.isGuardian) := by
  have may : m.standing = .electorate := eligible
  rw [classified, if_neg (not_not.2 same), found]
  simp [may, Standing.mayVote, Store.isGuardian, found, Member.normalized]

theorem classified_ok_iff {choice : Choice} {byGuardian : Bool} :
    classified s proposal ballot = .ok (choice, byGuardian) ↔
      ballot.proposal = proposal ∧
      (∃ m, s.member? ballot.voter = some m ∧ m.normalized.standing = .electorate ∧
        m.normalized.isGuardian = byGuardian) ∧
      Ballot.soleChoice ballot.options = .ok choice := by
  constructor
  · intro run
    by_cases same : ballot.proposal = proposal
    · cases found : s.member? ballot.voter with
      | none =>
          rw [classified_of_unknown same found] at run
          cases run
      | some m =>
          by_cases eligible : m.normalized.standing = .electorate
          · rw [classified_of_eligible same found eligible] at run
            cases sole : Ballot.soleChoice ballot.options with
            | error e =>
                rw [sole] at run
                cases run
            | ok c =>
                rw [sole] at run
                cases run
                exact ⟨same, ⟨m, rfl, eligible, rfl⟩, rfl⟩
          · rw [classified_of_ineligible same found eligible] at run
            cases run
    · rw [classified_of_foreign same] at run
      cases run
  · rintro ⟨same, ⟨m, found, eligible, rfl⟩, sole⟩
    rw [classified_of_eligible same found eligible, sole]
    rfl

/-- The ballot does not count, even if its voter has no other, and the first condition that it
misses says why. -/
inductive Unfit (s : Store) (proposal : ProposalId) (ballot : Ballot) : Refusal → Prop where
  | foreign (other : ballot.proposal ≠ proposal) :
      Unfit s proposal ballot
        (.malformedVote ("ballot is for proposal " ++ toString ballot.proposal))
  | unknown (same : ballot.proposal = proposal) (missing : s.member? ballot.voter = none) :
      Unfit s proposal ballot (.unknownMember ballot.voter.text)
  | ineligible (same : ballot.proposal = proposal) (m : Member)
      (found : s.member? ballot.voter = some m) (outside : m.normalized.standing ≠ .electorate) :
      Unfit s proposal ballot (.unauthorized
        ("member is not eligible to vote: status " ++ m.normalized.standing.label))
  | malformed (same : ballot.proposal = proposal) (m : Member)
      (found : s.member? ballot.voter = some m) (eligible : m.normalized.standing = .electorate)
      (detail : String)
      (split : Ballot.soleChoice ballot.options = .error (.refused (.malformedVote detail))) :
      Unfit s proposal ballot (.malformedVote detail)

/-- Whatever makes a ballot unfit, it is discarded for that, and the collection goes on. -/
theorem Unfit.verdict {reason : Refusal} (unfit : Unfit s proposal ballot reason) :
    verdictOf (classified s proposal ballot) = .ok (.discarded reason) := by
  cases unfit with
  | foreign other => rw [classified_of_foreign other]; rfl
  | unknown same missing => rw [classified_of_unknown same missing]; rfl
  | ineligible same m found outside =>
      rw [classified_of_ineligible same found outside]
      rfl
  | malformed same m found eligible detail split =>
      rw [classified_of_eligible same found eligible, split]
      rfl

/-- A brief ballot counts or is unfit. -/
theorem classified_cases (s : Store) (proposal : ProposalId) (brief : ballot.Brief) :
    (∃ choice byGuardian, classified s proposal ballot = .ok (choice, byGuardian)) ∨
      ∃ reason, Unfit s proposal ballot reason := by
  by_cases same : ballot.proposal = proposal
  · cases found : s.member? ballot.voter with
    | none => exact .inr ⟨_, .unknown same found⟩
    | some m =>
        by_cases eligible : m.normalized.standing = .electorate
        · obtain ⟨choice, sole⟩ | ⟨detail, split⟩ := Ballot.soleChoice_cases brief.length_le
          · rw [classified_of_eligible same found eligible, sole]
            exact .inl ⟨choice, m.normalized.isGuardian, rfl⟩
          · exact .inr ⟨_, .malformed same m found eligible detail split⟩
        · exact .inr ⟨_, .ineligible same m found eligible⟩
  · exact .inr ⟨_, .foreign same⟩

end Classified

end Collection

/-! ## Boxes to rely on -/

/-- A box that can mark the voters of these ballots, beside a host that has the records of `s`.
That holds of every state that is `ready`, and stays so. -/
structure BallotBox.Reliable {σ : Type} (box : BallotBox σ) (host : σ → Host) (ready : σ → Prop)
    (s : Store) (proposal : ProposalId) (ballots : List Ballot) : Prop where
  reads : ∀ {x}, ready x → ∀ a, (Host.readMember a).runOn (host x) = (.ok (s.member? a), host x)
  /-- An action that leaves the host as it is leaves the box as it is. -/
  answers : ∀ {x}, ready x → ∀ {α : Type} (act : Action Host α),
    (act.runOn (host x)).2 = host x → (box.onHost act).runOn x = ((act.runOn (host x)).1, x)
  marks : ∀ {x}, ready x → ∀ b ∈ ballots,
    ∃ y, ready y ∧ (box.mark proposal b.voter).runOn x = (.ok (), y)

/-- The host's own store is reliable, since marking leaves all records. -/
theorem BallotBox.reliable_store (s : Store) (journal : List Event) (proposal : ProposalId)
    (ballots : List Ballot) :
    BallotBox.store.Reliable id (fun h => ∃ t, s.SameRoll t ∧ h = ⟨t, [], journal⟩) s proposal
      ballots where
  reads := by
    rintro x ⟨t, same, rfl⟩ a
    rw [← same.member?]
    rfl
  answers := by
    intro x _ α act still
    exact Prod.ext rfl still
  marks := by
    rintro x ⟨t, same, rfl⟩ b _
    exact ⟨_, ⟨_, same.trans (Store.SameRoll.mark t proposal b.voter), rfl⟩, rfl⟩

/-- The listed ballots are reliable on a host without outages, if no marking is refused. -/
theorem BallotBox.reliable_listed (s : Store) (journal : List Event) (proposal : ProposalId)
    (ballots : List Ballot) :
    (BallotBox.listed ballots none).Reliable Marked.host (fun x => x.host = ⟨s, [], journal⟩) s
      proposal ballots where
  reads := by
    intro x same a
    rw [same]
    rfl
  answers := by
    intro x _ α act still
    exact Prod.ext rfl (congrArg (Marked.mk · x.voters) still)
  marks := by
    intro x same b _
    exact ⟨{ x with voters := x.voters ++ [b.voter] }, same, rfl⟩

namespace Collection

variable {s : Store} (proposal : ProposalId)

theorem runOn_classify {h : Host}
    (reads : ∀ a, (Host.readMember a).runOn h = (.ok (s.member? a), h)) (ballot : Ballot) :
    (classify proposal ballot).runOn h = (classified s proposal ballot, h) := by
  unfold classify classified
  split
  · rfl
  · unfold Store.isGuardian
    simp only [Roll.require, Roll.find?, Action.runOn_bind, reads, Action.andThen_ok,
      Action.runOn_pure]
    cases found : s.member? ballot.voter with
    | none => rfl
    | some m =>
        cases standing : m.standing.mayVote with
        | false => simp [Member.normalized, standing]
        | true => cases Ballot.soleChoice ballot.options <;>
            simp [Member.normalized, standing, Except.map]

theorem runOn_judge {h : Host}
    (reads : ∀ a, (Host.readMember a).runOn h = (.ok (s.member? a), h)) (repeated : Bool)
    (ballot : Ballot) :
    (judge proposal repeated ballot).runOn h = (judged s proposal repeated ballot, h) := by
  cases repeated with
  | true => rfl
  | false =>
      have run := runOn_classify proposal reads ballot
      simp only [judge, judged, Bool.false_eq_true, if_false, Action.runOn_reread, run]

/-- The collection follows the records that the host has, and all it does is to mark the voters,
one after another: all of them, unless it breaks off. -/
theorem runOn_collectFrom {σ : Type} {box : BallotBox σ} {host : σ → Host} {ready : σ → Prop}
    {ballots rest : List Ballot} (reliable : box.Reliable host ready s proposal ballots)
    (inside : ∀ b ∈ rest, b ∈ ballots) (previous : Option Address) (report : Collection) {x : σ}
    (now : ready x) :
    ∃ y, ready y ∧ (collectFrom box proposal previous report rest).runOn x =
        (collected s proposal previous report rest, y) ∧
      ∀ result, collected s proposal previous report rest = .ok result →
        (forM (rest.map (·.voter)) (box.mark proposal)).runOn x = (.ok (), y) := by
  induction rest generalizing previous report x with
  | nil => exact ⟨x, now, rfl, fun _ _ => rfl⟩
  | cons ballot rest ih =>
      have run : (box.onHost (judge proposal (decide (previous = some ballot.voter)) ballot)).runOn x
          = (judged s proposal (decide (previous = some ballot.voter)) ballot, x) := by
        have run := runOn_judge proposal (reliable.reads now)
          (decide (previous = some ballot.voter)) ballot
        rw [reliable.answers now _ (congrArg Prod.snd run), run]
      unfold collected
      cases verdict : judged s proposal (decide (previous = some ballot.voter)) ballot with
      | error e =>
          rw [verdict] at run
          refine ⟨x, now, ?_, fun _ broken => by cases broken⟩
          simp only [collectFrom, Action.runOn_bind, run, Action.andThen_error]
      | ok v =>
          rw [verdict] at run
          obtain ⟨y, later, mark⟩ := reliable.marks now ballot (inside ballot List.mem_cons_self)
          obtain ⟨z, last, runRest, marksRest⟩ :=
            ih (fun b inRest => inside b (List.mem_cons_of_mem _ inRest)) (some ballot.voter)
              (report.record ballot.voter v) later
          refine ⟨z, last, ?_, fun result whole => ?_⟩
          · simp only [collectFrom, Action.runOn_bind, run, mark, Action.andThen_ok]
            exact runRest
          · simp only [List.map_cons, List.forM_cons, Action.runOn_bind, mark, Action.andThen_ok]
            exact marksRest result whole

/-- What a box offers is collected in the order of the voters. -/
theorem runOn_collect_of_offers {σ : Type} {box : BallotBox σ} {host : σ → Host}
    {ready : σ → Prop} {ballots : List Ballot}
    (reliable : box.Reliable host ready s proposal ballots) {x y : σ}
    (offers : (box.ballots proposal).runOn x = (.ok ballots, y)) (now : ready y) :
    ∃ z, ready z ∧ (collect box proposal).runOn x =
        (collected s proposal none .empty (inVoterOrder ballots), z) ∧
      ∀ result, collected s proposal none .empty (inVoterOrder ballots) = .ok result →
        (forM ((inVoterOrder ballots).map (·.voter)) (box.mark proposal)).runOn y = (.ok (), z) := by
  have inside : ∀ b ∈ inVoterOrder ballots, b ∈ ballots := fun b => List.mem_mergeSort.1
  obtain ⟨z, last, run, marks⟩ :=
    runOn_collectFrom proposal reliable inside none .empty now
  refine ⟨z, last, ?_, marks⟩
  simp only [collect, Action.runOn_bind, offers, Action.andThen_ok]
  exact run

theorem runOn_collect (journal : List Event) (s : Store) :
    ∃ u, s.SameRoll u ∧
      (collect .store proposal).runOn ⟨s, [], journal⟩ =
        (collected s proposal none .empty (inVoterOrder (s.ballots proposal)),
          ⟨u, [], journal⟩) := by
  obtain ⟨z, ⟨u, same, rfl⟩, run, -⟩ := runOn_collect_of_offers proposal
    (BallotBox.reliable_store s journal proposal (s.ballots proposal)) (x := ⟨s, [], journal⟩) rfl
    ⟨s, .refl s, rfl⟩
  exact ⟨u, same, run⟩

/-! ## Nothing breaks off -/

/-- A brief ballot is counted or discarded. -/
theorem judged_ok {ballot : Ballot} (brief : ballot.Brief) (repeated : Bool) :
    ∃ verdict, judged s proposal repeated ballot = .ok verdict := by
  cases repeated with
  | true => exact ⟨_, rfl⟩
  | false =>
      obtain ⟨choice, byGuardian, run⟩ | ⟨reason, unfit⟩ := classified_cases s proposal brief
      · exact ⟨.counted choice byGuardian, congrArg verdictOf run⟩
      · exact ⟨.discarded reason, unfit.verdict⟩

theorem collected_ok {ballots : List Ballot} (brief : ∀ b ∈ ballots, b.Brief)
    (previous : Option Address) (report : Collection) :
    ∃ result, collected s proposal previous report ballots = .ok result := by
  induction ballots generalizing previous report with
  | nil => exact ⟨report, rfl⟩
  | cons ballot rest ih =>
      obtain ⟨verdict, run⟩ := judged_ok (s := s) proposal (brief ballot List.mem_cons_self)
        (decide (previous = some ballot.voter))
      unfold collected
      rw [run]
      exact ih (fun b inRest => brief b (List.mem_cons_of_mem _ inRest)) _ _

/-! ## Who is counted -/

theorem of_verdictOf_counted {result : Except Failure (Choice × Bool)} {choice : Choice}
    {byGuardian : Bool} (run : verdictOf result = .ok (.counted choice byGuardian)) :
    result = .ok (choice, byGuardian) := by
  cases result with
  | ok pair =>
      cases run
      rfl
  | error e =>
      cases e with
      | refused reason =>
          simp only [verdictOf] at run
          split at run <;> cases run
      | defect cause => cases run

/-- What is classified is a recognized choice of a member of the electorate. -/
theorem of_classified_ok {ballot : Ballot} {choice : Choice} {byGuardian : Bool}
    (run : classified s proposal ballot = .ok (choice, byGuardian)) :
    byGuardian = s.isGuardian ballot.voter ∧ choice.isRecognized = true ∧
      ∃ m, s.member? ballot.voter = some m ∧ m.standing = .electorate := by
  obtain ⟨-, ⟨m, found, active, rfl⟩, sole⟩ := classified_ok_iff.1 run
  refine ⟨?_, Ballot.isRecognized_of_soleChoice sole, m, found, active⟩
  rw [Store.isGuardian, found]
  rfl

/-- Only a first ballot of a member of the electorate counts, and in the tier of its voter. -/
theorem of_judged_counted {repeated : Bool} {ballot : Ballot} {choice : Choice} {byGuardian : Bool}
    (run : judged s proposal repeated ballot = .ok (.counted choice byGuardian)) :
    repeated = false ∧ byGuardian = s.isGuardian ballot.voter ∧ choice.isRecognized = true ∧
      ∃ m, s.member? ballot.voter = some m ∧ m.standing = .electorate := by
  cases repeated with
  | true => cases run
  | false => exact ⟨rfl, of_classified_ok proposal (of_verdictOf_counted run)⟩

/-- The voters that a report counts beyond an earlier one: distinct members of the electorate,
each in its tier, and none of them voted before. -/
structure Counts (s : Store) (previous : Option Address) (ballots : List Ballot)
    (before after : Collection) (voters : List Address) : Prop where
  guardians : after.guardians.total = before.guardians.total + voters.countP s.isGuardian
  members : after.members.total = before.members.total + voters.countP (!s.isGuardian ·)
  distinct : voters.Nodup
  active : ∀ a ∈ voters, ∃ m, s.member? a = some m ∧ m.standing = .electorate
  voted : ∀ a ∈ voters, previous ≠ some a ∧ ∃ b ∈ ballots, b.voter = a
  recognized : after.guardians.count .unspecified = before.guardians.count .unspecified ∧
    after.members.count .unspecified = before.members.count .unspecified

/-- Whoever is counted after a ballot is not its voter, and came after the voter before it. -/
theorem voted_cons {ballot : Ballot} {rest : List Ballot} {previous : Option Address}
    {voters : List Address} (first : ∀ b ∈ rest, ballot.voter.precedes b.voter = true)
    (before : ∀ p, previous = some p → p.precedes ballot.voter = true)
    (voted : ∀ a ∈ voters, some ballot.voter ≠ some a ∧ ∃ b ∈ rest, b.voter = a) :
    ∀ a ∈ voters, previous ≠ some a ∧ ∃ b ∈ ballot :: rest, b.voter = a := by
  intro a inside
  obtain ⟨apart, b, member, rfl⟩ := voted a inside
  refine ⟨fun again => apart ?_, b, List.mem_cons_of_mem _ member, rfl⟩
  rw [Address.precedes_antisymm (first b member) (before b.voter again)]

/-- A ballot that is counted adds its voter. -/
theorem Counts.cons {ballot : Ballot} {rest : List Ballot} {previous : Option Address}
    {report result : Collection} {voters : List Address} {choice : Choice}
    (counts : Counts s (some ballot.voter) rest
      (report.record ballot.voter (.counted choice (s.isGuardian ballot.voter))) result voters)
    (fresh : previous ≠ some ballot.voter) (recognized : choice.isRecognized = true)
    (active : ∃ m, s.member? ballot.voter = some m ∧ m.standing = .electorate)
    (outside : ∀ a ∈ voters, previous ≠ some a ∧ ∃ b ∈ ballot :: rest, b.voter = a) :
    Counts s previous (ballot :: rest) report result (ballot.voter :: voters) where
  guardians := by
    rw [counts.guardians, List.countP_cons]
    cases s.isGuardian ballot.voter with
    | true =>
        simp [record, Tier.total_increment]
        omega
    | false => simp [record]
  members := by
    rw [counts.members, List.countP_cons]
    cases s.isGuardian ballot.voter with
    | true => simp [record]
    | false =>
        simp [record, Tier.total_increment]
        omega
  distinct := List.nodup_cons.2 ⟨fun again => (counts.voted _ again).1 rfl, counts.distinct⟩
  active a inside := by
    rcases List.mem_cons.1 inside with rfl | inRest
    · exact active
    · exact counts.active a inRest
  voted a inside := by
    rcases List.mem_cons.1 inside with rfl | inRest
    · exact ⟨fresh, ballot, List.mem_cons_self, rfl⟩
    · exact outside a inRest
  recognized := by
    rw [counts.recognized.1, counts.recognized.2]
    cases s.isGuardian ballot.voter with
    | true => exact ⟨Tier.count_unspecified_increment _ recognized, rfl⟩
    | false => exact ⟨rfl, Tier.count_unspecified_increment _ recognized⟩

theorem collected_counts {ballots : List Ballot} {previous : Option Address}
    {report result : Collection}
    (sorted : ballots.Pairwise fun a b => a.voter.precedes b.voter = true)
    (before : ∀ p, previous = some p → ∀ b ∈ ballots, p.precedes b.voter = true)
    (run : collected s proposal previous report ballots = .ok result) :
    ∃ voters, Counts s previous ballots report result voters := by
  induction ballots generalizing previous report with
  | nil =>
      cases run
      exact ⟨[], rfl, rfl, List.nodup_nil, by simp, by simp, rfl, rfl⟩
  | cons ballot rest ih =>
      obtain ⟨first, sorted'⟩ := List.pairwise_cons.1 sorted
      have next : ∀ p, some ballot.voter = some p → ∀ b ∈ rest, p.precedes b.voter = true := by
        rintro p same b member
        cases same
        exact first b member
      unfold collected at run
      cases verdict : judged s proposal (decide (previous = some ballot.voter)) ballot with
      | error e =>
          rw [verdict] at run
          cases run
      | ok v =>
          rw [verdict] at run
          obtain ⟨voters, counts⟩ := ih sorted' next run
          have outside := voted_cons first
            (fun p same => before p same ballot List.mem_cons_self) counts.voted
          cases v with
          | discarded reason =>
              exact ⟨voters, counts.guardians, counts.members, counts.distinct, counts.active,
                outside, counts.recognized⟩
          | counted choice byGuardian =>
              obtain ⟨fresh, rfl, recognized, active⟩ := of_judged_counted proposal verdict
              exact ⟨ballot.voter :: voters,
                counts.cons (of_decide_eq_false fresh) recognized active outside⟩

/-- Sorting puts the ballots in the order of their voters. -/
theorem sorted_inVoterOrder (ballots : List Ballot) :
    (inVoterOrder ballots).Pairwise fun a b => a.voter.precedes b.voter = true := by
  unfold inVoterOrder
  refine List.pairwise_mergeSort ?_ ?_ ballots
  · intro a b c
    exact Address.precedes_trans
  · intro a b
    exact Address.precedes_total a.voter b.voter

end Collection

end Suffrage
