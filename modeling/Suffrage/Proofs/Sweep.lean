/-
# Suffrage.Proofs.Sweep -- what a sweep takes out

A sweep goes through the marked voters of a proposal and takes out the ballot and the marker of
each.  Seen key by key (`Store.find?_sweep`) it takes out exactly these, so the ballots that stay
are those whose voters are not marked (`Store.mem_ballots_sweep`), nobody is marked any more
(`Store.mem_marked_sweep`), and no other proposal is touched.  The answer of a sweep is the
number of ballots that were there for marked voters (`Store.count_sweep`).
-/
import Suffrage.Proofs.Store

namespace Suffrage

set_option autoImplicit false

/-- The voter whose ballot or marker on the proposal the key leads to. -/
def Key.voterOn? (proposal : ProposalId) : Key → Option Address
  | .marker p voter => if p = proposal then some voter else none
  | .ballot p voter => if p = proposal then some voter else none
  | _ => none

theorem Key.voterOn?_eq_some_iff {proposal : ProposalId} {k : Key} {voter : Address} :
    k.voterOn? proposal = some voter ↔ k = .ballot proposal voter ∨ k = .marker proposal voter := by
  cases k <;> simp [voterOn?]

namespace Store

variable (s : Store) (p : ProposalId)

/-! ## One voter after another -/

theorem find?_sweepVoter (n : Nat) (voter : Address) (k : Key) :
    (sweepVoter p (n, s) voter).2.find? k =
      if k.voterOn? p = some voter then none else s.find? k := by
  show ((s.erase (.ballot p voter)).erase (.marker p voter)).find? k = _
  simp only [find?_erase, Key.voterOn?_eq_some_iff, eq_comm (b := k)]
  by_cases marker : k = .marker p voter <;> by_cases ballot : k = .ballot p voter <;>
    simp [marker, ballot]

theorem count_sweepVoter (n : Nat) (voter : Address) :
    (sweepVoter p (n, s) voter).1 =
      n + if (s.find? (.ballot p voter)).isSome = true then 1 else 0 := by
  show (if (s.find? (.ballot p voter)).isSome = true then n + 1 else n) = _
  split <;> rfl

theorem find?_sweepAll (voters : List Address) (n : Nat) (k : Key) :
    (voters.foldl (sweepVoter p) (n, s)).2.find? k =
      if ∃ voter ∈ voters, k.voterOn? p = some voter then none else s.find? k := by
  induction voters generalizing s n with
  | nil => simp
  | cons voter rest ih =>
      rw [List.foldl_cons, ih, find?_sweepVoter]
      by_cases here : k.voterOn? p = some voter <;> simp [here]

/-- Of voters who are all different, those are counted that have a ballot. -/
theorem count_sweepAll {voters : List Address} (distinct : voters.Nodup) (n : Nat) :
    (voters.foldl (sweepVoter p) (n, s)).1 =
      n + voters.countP fun a => (s.find? (.ballot p a)).isSome := by
  induction voters generalizing s n with
  | nil => rfl
  | cons voter rest ih =>
      obtain ⟨outside, distinct'⟩ := List.nodup_cons.1 distinct
      have later : rest.countP (fun a =>
          ((sweepVoter p (n, s) voter).2.find? (.ballot p a)).isSome) =
            rest.countP fun a => (s.find? (.ballot p a)).isSome := by
        refine List.countP_congr fun a inRest => ?_
        have apart : a ≠ voter := fun same => outside (same ▸ inRest)
        rw [find?_sweepVoter, if_neg]
        simpa [Key.voterOn?] using apart
      rw [List.foldl_cons, ih _ distinct', later, count_sweepVoter, List.countP_cons]
      omega

/-! ## The whole sweep -/

/-- The ballots and the markers of the marked voters are taken out, and nothing else. -/
theorem find?_sweep (k : Key) :
    (s.sweep p).2.find? k =
      if ∃ voter ∈ s.marked p, k.voterOn? p = some voter then none else s.find? k :=
  s.find?_sweepAll p (s.marked p) 0 k

theorem find?_ballot_sweep (q : ProposalId) (a : Address) :
    (s.sweep p).2.find? (.ballot q a) =
      if q = p ∧ a ∈ s.marked p then none else s.find? (.ballot q a) := by
  rw [find?_sweep]
  by_cases same : q = p <;> simp [Key.voterOn?, same]

theorem find?_marker_sweep (q : ProposalId) (a : Address) :
    (s.sweep p).2.find? (.marker q a) = if q = p then none else s.find? (.marker q a) := by
  rw [find?_sweep]
  by_cases same : q = p
  · subst same
    by_cases marked : a ∈ s.marked q
    · simp [Key.voterOn?, marked]
    · have absent : s.find? (.marker q a) = none :=
        (s.find?_marker_cases q a).resolve_right fun found => marked (mem_marked.2 found)
      simp [Key.voterOn?, marked, absent]
  · simp [Key.voterOn?, same]

/-- A ballot stays unless it is on the proposal and its voter is marked. -/
theorem mem_ballots_sweep {q : ProposalId} {b : Ballot} :
    b ∈ (s.sweep p).2.ballots q ↔ b ∈ s.ballots q ∧ ¬(q = p ∧ b.voter ∈ s.marked p) := by
  rw [mem_ballots, mem_ballots, find?_ballot_sweep]
  split
  · rename_i gone
    simp [gone]
  · rename_i stays
    exact (and_iff_left stays).symm

/-- Nobody is marked on the proposal any more. -/
theorem mem_marked_sweep {q : ProposalId} {a : Address} :
    a ∈ (s.sweep p).2.marked q ↔ a ∈ s.marked q ∧ q ≠ p := by
  rw [mem_marked, mem_marked, find?_marker_sweep]
  split
  · rename_i same
    simp [same]
  · rename_i apart
    exact (and_iff_left apart).symm

theorem nodup_marked : (s.marked p).Nodup := by
  refine (s.pairwise_marked p).imp fun {a b} below same => ?_
  subst same
  exact List.lt_irrefl _ below

/-- The answer is the number of ballots whose voters are marked. -/
theorem count_sweep : (s.sweep p).1 = (s.ballots p).countP fun b => b.voter ∈ s.marked p := by
  have counted : (s.sweep p).1 = (s.marked p).countP fun a => (s.find? (.ballot p a)).isSome := by
    have count := s.count_sweepAll p (s.nodup_marked p) 0
    rwa [Nat.zero_add] at count
  -- Both sides count the voters that are marked and have a ballot.
  have voters : ((s.marked p).filter fun a => (s.find? (.ballot p a)).isSome).Perm
      (((s.ballots p).map (·.voter)).filter fun a => a ∈ s.marked p) := by
    refine (List.perm_ext_iff_of_nodup ((s.nodup_marked p).filter _)
      ((s.nodup_voters p).filter _)).2 fun a => ?_
    simp only [List.mem_filter, List.mem_map, decide_eq_true_eq]
    constructor
    · rintro ⟨marked, held⟩
      obtain ⟨e, found⟩ := Option.isSome_iff_exists.1 held
      have place := key_of_find? found
      cases e with
      | ballot b =>
          obtain ⟨-, rfl⟩ := Key.ballot.inj place
          exact ⟨⟨b, mem_ballots.2 found, rfl⟩, marked⟩
      | _ => cases place
    · rintro ⟨⟨b, inside, rfl⟩, marked⟩
      exact ⟨marked, by rw [mem_ballots.1 inside]; rfl⟩
  rw [counted, List.countP_eq_length_filter, voters.length_eq, List.filter_map, List.length_map,
    List.countP_eq_length_filter]
  rfl

end Store

end Suffrage
