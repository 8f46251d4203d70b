/-
# Suffrage.Proofs.Marking -- what a tally reads and what it writes

A tally reads the settings, the counter of the electorate, the records of the voters and the
ballots on its proposal; its outcome is a function of these (`Tally.decided`).  It writes markers
and nothing else, each for the voter of a ballot that it has read (`Tally.runOn_tally`):

* all of them, if it comes to an outcome;
* some of them, if it breaks off.

A marker is nothing that a tally reads, and writing one again changes nothing
(`Store.markAll_of_marked`).  So a tally can be repeated, and the tallies of different proposals
do not meet.  No store is excluded here: list, flags and counters may disagree.
-/
import Suffrage.Proofs.Collection

namespace Suffrage

set_option autoImplicit false

namespace Store

/-! ## Many markers -/

/-- The store with a marker for each of the voters. -/
def markAll (s : Store) (p : ProposalId) (voters : List Address) : Store :=
  voters.foldl (·.mark p ·) s

variable {s : Store} {p : ProposalId} {voters : List Address}

theorem markAll_concat (s : Store) (p : ProposalId) (voters : List Address) (a : Address) :
    s.markAll p (voters ++ [a]) = (s.markAll p voters).mark p a := by
  simp [markAll]

theorem find?_markAll_of_ne {k : Key} (apart : ∀ a ∈ voters, k ≠ .marker p a) :
    (s.markAll p voters).find? k = s.find? k := by
  induction voters generalizing s with
  | nil => rfl
  | cons a rest ih =>
      have later : ∀ b ∈ rest, k ≠ .marker p b := fun b inRest =>
        apart b (List.mem_cons_of_mem _ inRest)
      have here : Entry.key (.marker p a) ≠ k := (apart a List.mem_cons_self).symm
      calc ((s.mark p a).markAll p rest).find? k
          = (s.mark p a).find? k := ih later
        _ = s.find? k := by rw [mark, find?_insert, if_neg here]

theorem find?_markAll_of_mem {a : Address} (inside : a ∈ voters) :
    (s.markAll p voters).find? (.marker p a) = some (.marker p a) := by
  induction voters generalizing s with
  | nil => cases inside
  | cons b rest ih =>
      show ((s.mark p b).markAll p rest).find? _ = _
      by_cases later : a ∈ rest
      · exact ih later
      · -- The marker is written first, and what follows is under other keys.
        have here : a = b := (List.mem_cons.1 inside).resolve_right later
        subst here
        rw [find?_markAll_of_ne, mark, find?_insert]
        · exact if_pos rfl
        · intro c inRest same
          cases same
          exact later inRest

theorem sameRoll_markAll (s : Store) (p : ProposalId) (voters : List Address) :
    s.SameRoll (s.markAll p voters) := by
  intro k apart
  apply find?_markAll_of_ne
  rintro a - rfl
  cases apart

theorem ballots_markAll (s : Store) (p q : ProposalId) (voters : List Address) :
    (s.markAll p voters).ballots q = s.ballots q := by
  apply ballots_congr
  intro voter
  apply find?_markAll_of_ne
  intro a _
  simp

theorem marked_markAll_of_ne {q : ProposalId} (other : q ≠ p) (s : Store)
    (voters : List Address) : (s.markAll p voters).marked q = s.marked q := by
  apply marked_congr
  intro voter
  apply find?_markAll_of_ne
  intro a _ same
  exact other (Key.marker.inj same).1

theorem mem_marked_markAll {a : Address} :
    a ∈ (s.markAll p voters).marked p ↔ a ∈ s.marked p ∨ a ∈ voters := by
  rw [mem_marked, mem_marked]
  by_cases inside : a ∈ voters
  · simp [find?_markAll_of_mem inside, inside]
  · rw [find?_markAll_of_ne]
    · simp [inside]
    · intro b member same
      cases same
      exact inside member

/-- Marking the marked changes nothing. -/
theorem markAll_of_marked (marked : ∀ a ∈ voters, a ∈ s.marked p) : s.markAll p voters = s := by
  apply eq_of_find?
  intro k
  by_cases here : ∃ a ∈ voters, k = .marker p a
  · obtain ⟨a, inside, rfl⟩ := here
    rw [find?_markAll_of_mem inside, mem_marked.1 (marked a inside)]
  · apply find?_markAll_of_ne
    intro a inside same
    exact here ⟨a, inside, same⟩

/-- A key leads to what it led to before, or to a new marker for one of the voters. -/
theorem find?_markAll_cases (s : Store) (p : ProposalId) (voters : List Address) (k : Key) :
    (s.markAll p voters).find? k = s.find? k ∨
      ∃ a ∈ voters, k = .marker p a ∧ s.find? k = none ∧
        (s.markAll p voters).find? k = some (.marker p a) := by
  by_cases here : ∃ a ∈ voters, k = .marker p a
  · obtain ⟨a, inside, rfl⟩ := here
    have now : (s.markAll p voters).find? (.marker p a) = some (.marker p a) :=
      find?_markAll_of_mem inside
    rcases s.find?_marker_cases p a with absent | old
    · exact .inr ⟨a, inside, rfl, absent, now⟩
    · exact .inl (now.trans old.symm)
  · refine .inl (find?_markAll_of_ne fun a inside same => ?_)
    exact here ⟨a, inside, same⟩

end Store

/-! ## What a tally reads -/

namespace Collection

/-- A report depends on the records of the voters only. -/
theorem collected_of_records {s t : Store} (same : ∀ a, t.member? a = s.member? a)
    (proposal : ProposalId) (previous : Option Address) (report : Collection)
    (ballots : List Ballot) :
    collected t proposal previous report ballots =
      collected s proposal previous report ballots := by
  have judgedAlike (repeated : Bool) (ballot : Ballot) :
      judged t proposal repeated ballot = judged s proposal repeated ballot := by
    unfold judged classified Store.isGuardian
    rw [same]
  induction ballots generalizing previous report with
  | nil => rfl
  | cons ballot rest ih =>
      unfold collected
      rw [judgedAlike]
      cases judged s proposal (decide (previous = some ballot.voter)) ballot with
      | error e => rfl
      | ok verdict => exact ih _ _

end Collection

namespace Tally

/-- The power of one ballot, as the store has it. -/
def split (s : Store) : Except Failure Power :=
  match s.settings? with
  | some record =>
      Power.allocate (s.standingCount .electorate).toNat
        (record.guardians.filter s.isGuardian).length record.weight
  | none => .error Guardians.unsettled

/-- The outcome of a tally, as the store has it. -/
def decided (s : Store) (rules : Rules) (proposal : ProposalId) : Except Failure Outcome := do
  let power ← split s
  let report ← Collection.collected s proposal none .empty
    (Collection.inVoterOrder (s.ballots proposal))
  outcome power report.guardians report.members rules

theorem split_of_sameRoll {s t : Store} (same : s.SameRoll t) : split t = split s := by
  have flags : t.isGuardian = s.isGuardian := by
    funext a
    exact Store.isGuardian_congr (same.member? a)
  unfold split
  rw [same.settings?, same.standingCount, flags]

/-- Markers are not read. -/
theorem decided_markAll (s : Store) (p q : ProposalId) (voters : List Address) (rules : Rules) :
    decided (s.markAll p voters) rules q = decided s rules q := by
  have same := s.sameRoll_markAll p voters
  unfold decided
  rw [split_of_sameRoll same, s.ballots_markAll]
  simp only [Collection.collected_of_records same.member?]

/-! ## What a tally writes -/

variable (s : Store) (journal : List Event) (rules : Rules) (p : ProposalId)

theorem runOn_power : power.runOn ⟨s, [], journal⟩ = (split s, ⟨s, [], journal⟩) := by
  cases found : s.settings? <;> simp [power, split, found]

theorem runOn_markAll (voters : List Address) (t : Store) :
    (forM voters (BallotBox.store.mark p)).runOn ⟨t, [], journal⟩ =
      (.ok (), ⟨t.markAll p voters, [], journal⟩) := by
  induction voters generalizing t with
  | nil => rfl
  | cons a rest ih =>
      have mark : (BallotBox.store.mark p a).runOn ⟨t, [], journal⟩ =
          (.ok (), ⟨t.mark p a, [], journal⟩) :=
        Host.runOn_writing t journal .markBallot (·.mark p a)
      rw [List.forM_cons, Action.runOn_bind, mark, Action.andThen_ok, ih]
      rfl

/-- The store as a ballot box where voters of its ballots have been marked. -/
theorem reliable_marked : BallotBox.store.Reliable id
    (fun h => ∃ voters, (∀ a ∈ voters, ∃ b ∈ s.ballots p, b.voter = a) ∧
      h = ⟨s.markAll p voters, [], journal⟩) s p (s.ballots p) where
  reads := by
    rintro x ⟨voters, -, rfl⟩ a
    rw [← (s.sameRoll_markAll p voters).member?]
    rfl
  answers := by
    intro x _ α act still
    exact Prod.ext rfl still
  marks := by
    rintro x ⟨voters, read, rfl⟩ b inside
    refine ⟨_, ⟨voters ++ [b.voter], ?_, rfl⟩, ?_⟩
    · intro a member
      rcases List.mem_append.1 member with earlier | last
      · exact read a earlier
      · exact ⟨b, inside, (List.mem_singleton.1 last).symm⟩
    · rw [s.markAll_concat]
      rfl

/-- The collection marks voters of the ballots, all of them if it comes to a report. -/
theorem runOn_collect :
    ∃ voters, (∀ a ∈ voters, ∃ b ∈ s.ballots p, b.voter = a) ∧
      (Collection.collect .store p).runOn ⟨s, [], journal⟩ =
        (Collection.collected s p none .empty (Collection.inVoterOrder (s.ballots p)),
          ⟨s.markAll p voters, [], journal⟩) ∧
      ∀ report,
        Collection.collected s p none .empty (Collection.inVoterOrder (s.ballots p)) = .ok report →
        ∀ b ∈ s.ballots p, b.voter ∈ voters := by
  obtain ⟨x, ⟨voters, read, rfl⟩, run, marks⟩ := Collection.runOn_collect_of_offers p
    (reliable_marked s journal p) (x := ⟨s, [], journal⟩) rfl ⟨[], nofun, rfl⟩
  cases ended : Collection.collected s p none .empty (Collection.inVoterOrder (s.ballots p)) with
  | error e =>
      rw [ended] at run
      exact ⟨voters, read, run, fun _ broken => by cases broken⟩
  | ok report =>
      rw [ended] at run
      have all := (marks report ended).symm.trans (runOn_markAll journal p _ s)
      rw [(Prod.mk.inj all).2] at run
      refine ⟨(Collection.inVoterOrder (s.ballots p)).map (·.voter), ?_, run, ?_⟩
      · intro a inside
        obtain ⟨b, member, voter⟩ := List.mem_map.1 inside
        exact ⟨b, List.mem_mergeSort.1 member, voter⟩
      · intro _ _ b inside
        exact List.mem_map.2 ⟨b, List.mem_mergeSort.2 inside, rfl⟩

/-- The one equation for the run of a tally. -/
theorem runOn_tally :
    ∃ voters, (∀ a ∈ voters, ∃ b ∈ s.ballots p, b.voter = a) ∧
      (Assembly.tally rules p).runOn ⟨s, [], journal⟩ =
        (decided s rules p, ⟨s.markAll p voters, [], journal⟩) ∧
      ∀ outcome, decided s rules p = .ok outcome → ∀ b ∈ s.ballots p, b.voter ∈ voters := by
  have steps : Assembly.tally rules p = (do
      let power ← Tally.power
      let report ← Collection.collect .store p
      Action.lift (outcome power report.guardians report.members rules)) := rfl
  obtain ⟨voters, read, collect, all⟩ := runOn_collect s journal p
  rw [steps, Action.runOn_bind, runOn_power]
  unfold decided
  cases split s with
  | error e => exact ⟨[], by simp, rfl, fun _ broken => by cases broken⟩
  | ok power =>
      rw [Result.ok_bind]
      refine ⟨voters, read, ?_, ?_⟩
      · rw [Action.andThen_ok, Action.runOn_bind, collect]
        cases Collection.collected s p none .empty
          (Collection.inVoterOrder (s.ballots p)) with
        | error e => rfl
        | ok report => rfl
      · intro outcome ok
        obtain ⟨report, reported, -⟩ := Result.of_bind_ok ok
        exact all report reported

variable {s p}

/-- Where every voter of its ballots is marked, a tally changes nothing. -/
theorem runOn_tally_of_marked (marked : ∀ b ∈ s.ballots p, b.voter ∈ s.marked p) :
    (Assembly.tally rules p).runOn ⟨s, [], journal⟩ = (decided s rules p, ⟨s, [], journal⟩) := by
  obtain ⟨voters, read, run, -⟩ := runOn_tally s journal rules p
  rw [run, Store.markAll_of_marked]
  intro a inside
  obtain ⟨b, held, rfl⟩ := read a inside
  exact marked b held

end Tally

/-- Whatever the store holds, however a tally of `p` ends: it leaves the journal, and under every
key what was there before, but for new markers of voters with a ballot on `p`.  If it comes to an
outcome, the voter of every such ballot is marked, and a second tally comes to the same outcome
and changes nothing.  The ballots, the markers and the tally of any other proposal are as they
were. -/
theorem tally_only_marks (s : Store) (journal : List Event) (rules : Rules) (p : ProposalId) :
    let h : Host := ⟨s, [], journal⟩
    let result := ((Assembly.tally rules p).runOn h).1
    let t := ((Assembly.tally rules p).runOn h).2
    (t.outages = [] ∧ t.journal = journal ∧
      ∀ k, t.store.find? k = s.find? k ∨
        ∃ b ∈ s.ballots p, k = .marker p b.voter ∧ s.find? k = none ∧
          t.store.find? k = some (.marker p b.voter)) ∧
    (∀ outcome, result = .ok outcome →
      (∀ a, a ∈ t.store.marked p ↔ a ∈ s.marked p ∨ ∃ b ∈ s.ballots p, b.voter = a) ∧
      (Assembly.tally rules p).runOn t = (.ok outcome, t)) ∧
    ∀ q, q ≠ p →
      t.store.ballots q = s.ballots q ∧ t.store.marked q = s.marked q ∧
      ∀ rules', ((Assembly.tally rules' q).runOn t).1 =
        ((Assembly.tally rules' q).runOn h).1 := by
  intro h result t
  obtain ⟨voters, read, run, all⟩ := Tally.runOn_tally s journal rules p
  have ended : result = Tally.decided s rules p := congrArg Prod.fst run
  have left : t = ⟨s.markAll p voters, [], journal⟩ := congrArg Prod.snd run
  clear_value result t
  subst left
  refine ⟨⟨rfl, rfl, ?_⟩, ?_, ?_⟩
  · intro k
    rcases s.find?_markAll_cases p voters k with same | ⟨a, inside, place, absent, now⟩
    · exact .inl same
    · obtain ⟨b, held, rfl⟩ := read a inside
      exact .inr ⟨b, held, place, absent, now⟩
  · intro outcome ok
    have decided := ended.symm.trans ok
    have marked : ∀ b ∈ s.ballots p, b.voter ∈ voters := all outcome decided
    constructor
    · intro a
      rw [Store.mem_marked_markAll]
      refine or_congr_right ⟨read a, ?_⟩
      rintro ⟨b, inside, rfl⟩
      exact marked b inside
    · -- The second tally reads the same ballots, whose voters are marked by now.
      rw [Tally.runOn_tally_of_marked, Tally.decided_markAll, decided]
      intro b held
      rw [s.ballots_markAll] at held
      exact Store.mem_marked_markAll.2 (.inr (marked b held))
  · intro q other
    refine ⟨s.ballots_markAll p q voters, Store.marked_markAll_of_ne other s voters, ?_⟩
    intro rules'
    obtain ⟨_, -, before, -⟩ := Tally.runOn_tally s journal rules' q
    obtain ⟨_, -, after, -⟩ := Tally.runOn_tally (s.markAll p voters) journal rules' q
    rw [before, after]
    exact Tally.decided_markAll s p q voters rules'

end Suffrage
