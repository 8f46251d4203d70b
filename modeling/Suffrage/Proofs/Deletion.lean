/-
# Suffrage.Proofs.Deletion -- which ballots a sweep takes

Ballots are removed in two steps.  A tally marks the voters of the ballots that it reads, and a
later sweep takes out what the marked voters have cast.  Call by call (`Call.trace`):

* casting writes one ballot and no marker;
* a tally writes markers, for voters of ballots that it has read on its proposal;
* a sweep takes away all markers of its proposal, and ballots;
* no other call touches either.

So a ballot survives a sweep, unless since the last sweep a tally has read it, or has read a
ballot of its voter that it has replaced since (`sweep_takes_read_or_recast`).

The second case is a loss.  A marker names a voter and not a ballot, and casting leaves it
standing: a ballot cast between the tally and the sweep in the place of one that was read goes
with it, although no tally has seen it (`sweep_takes_unread_ballot`).
-/
import Mathlib.Data.List.Induction
import Suffrage.Proofs.Founding
import Suffrage.Proofs.Holdings

namespace Suffrage

set_option autoImplicit false

open Suffrage.Action (Keeps Holds)

namespace Store

/-- The ballots are as before, and so are the markers, but for voters with a ballot on the
proposal. -/
structure MarkedOn (p : ProposalId) (s t : Store) : Prop where
  ballots : ∀ q b, b ∈ t.ballots q ↔ b ∈ s.ballots q
  marked : ∀ q a, a ∈ t.marked q → a ∈ s.marked q ∨ q = p ∧ ∃ b ∈ s.ballots p, b.voter = a

namespace MarkedOn

variable {p : ProposalId} {s t : Store}

theorem refl (p : ProposalId) (s : Store) : MarkedOn p s s where
  ballots _ _ := .rfl
  marked _ _ old := .inl old

theorem mark (since : MarkedOn p s t) {b : Ballot} (inside : b ∈ s.ballots p) :
    MarkedOn p s (t.mark p b.voter) where
  ballots q c := (t.mem_ballots_write (.mark p b.voter) q c).trans (since.ballots q c)
  marked q a now := by
    rcases (t.mem_marked_write (.mark p b.voter) q a).1 now with ⟨rfl, rfl⟩ | old
    · exact .inr ⟨rfl, b, inside, rfl⟩
    · exact since.marked q a old

end MarkedOn

/-- A tally marks nobody else, however it ends. -/
theorem keeps_tally (rules : Rules) (p : ProposalId) (s : Store) :
    Keeps (s.MarkedOn p) (Assembly.tally rules p) :=
  Keeps.tally fun _ before b inside _ since => since.mark ((before.ballots p b).1 inside)

end Store

/-! ## One call -/

/-- What a call may do to the ballots and the markers. -/
theorem Call.trace (c : Call) {h : Host} (quiet : h.outages = []) :
    let t := (c.act.runOn h).2.store
    h.store.SameBallots t ∨
      (∃ rules p, c = .tally rules p ∧ h.store.MarkedOn p t) ∨
      (∃ b, c = .cast b ∧ t = h.store.cast b) ∨
      ∃ p, c = .sweep p ∧ t = (h.store.sweep p).2 := by
  intro t
  have steady : Steady h.store.SameBallots := steady_sameBallots h.store
  have start : Holds h.store.SameBallots h := ⟨quiet, .refl h.store⟩
  cases c with
  | found genesis => exact .inl (steady.keeps_found genesis h start).2
  | enroll address nickname =>
      have keeps : Keeps h.store.SameBallots (Call.enroll address nickname).act :=
        (steady.keeps_assemblyEnroll address nickname).bind fun _ => .pure _
      exact .inl (keeps h start).2
  | approve approver member =>
      have keeps : Keeps h.store.SameBallots (Call.approve approver member).act :=
        (steady.keeps_approve approver member).bind fun _ => .pure _
      exact .inl (keeps h start).2
  | enact motion =>
      have keeps : Keeps h.store.SameBallots (Call.enact motion).act :=
        (steady.keeps_enact motion).bind fun _ => .pure _
      exact .inl (keeps h start).2
  | tally rules p =>
      have keeps : Keeps (h.store.MarkedOn p) (Call.tally rules p).act :=
        (h.store.keeps_tally rules p).bind fun _ => .pure _
      exact .inr (.inl ⟨rules, p, rfl, (keeps h ⟨quiet, .refl p h.store⟩).2⟩)
  | cast b => exact .inr (.inr (.inl ⟨b, rfl, rfl⟩))
  | sweep p => exact .inr (.inr (.inr ⟨p, rfl, rfl⟩))

section Step

variable {c : Call} {h : Host} {p : ProposalId} {b : Ballot} {a : Address}

/-- A ballot has been there before the call, or the call has cast it. -/
theorem mem_ballots_of_call (quiet : h.outages = [])
    (after : b ∈ (c.act.runOn h).2.store.ballots p) :
    b ∈ h.store.ballots p ∨ ∃ d, c = .cast d ∧ d.canonical = b := by
  rcases c.trace quiet with same | ⟨rules, q, rfl, since⟩ | ⟨d, rfl, written⟩ | ⟨q, rfl, written⟩
  · exact .inl (same.mem_ballots.1 after)
  · exact .inl ((since.ballots p b).1 after)
  · rw [written] at after
    rcases (h.store.mem_ballots_write_iff (.cast d) p b).1 after with ⟨d', same, -, stored⟩ | old
    · cases same
      exact .inr ⟨d, rfl, stored⟩
    · exact .inl old.1
  · rw [written, Store.mem_ballots_sweep] at after
    exact .inl after.1

/-- A voter has been marked before the call, which is no sweep of the proposal, or the call is a
tally of it and has read a ballot of that voter. -/
theorem mem_marked_of_call (quiet : h.outages = [])
    (after : a ∈ (c.act.runOn h).2.store.marked p) :
    (a ∈ h.store.marked p ∧ c ≠ .sweep p) ∨
      ∃ rules, c = .tally rules p ∧ ∃ b ∈ h.store.ballots p, b.voter = a := by
  rcases c.trace quiet with same | ⟨rules, q, rfl, since⟩ | ⟨d, rfl, written⟩ | ⟨q, rfl, written⟩
  · refine .inl ⟨same.mem_marked.1 after, ?_⟩
    rintro rfl
    have unmarked := (h.store.mem_marked_sweep p).1 after
    exact unmarked.2 rfl
  · rcases since.marked p a after with old | ⟨rfl, read⟩
    · exact .inl ⟨old, nofun⟩
    · exact .inr ⟨rules, rfl, read⟩
  · rw [written] at after
    have old := (h.store.mem_marked_write (.cast d) p a).1 after
    exact .inl ⟨old, nofun⟩
  · rw [written, Store.mem_marked_sweep] at after
    refine .inl ⟨after.1, ?_⟩
    intro same
    cases same
    exact after.2 rfl

end Step

/-! ## Sessions -/

/-- A tally of the proposal has read the ballot, and the calls made later have not swept it. -/
def ReadBefore (calls later : List Call) (p : ProposalId) (b : Ballot) : Prop :=
  ∃ before rules, calls = before ++ .tally rules p :: later ∧
    b ∈ (Host.fresh.after before).store.ballots p ∧ Call.sweep p ∉ later

theorem ReadBefore.concat {calls later : List Call} {p : ProposalId} {b : Ballot}
    (read : ReadBefore calls later p b) {c : Call} (kept : c ≠ .sweep p) :
    ReadBefore (calls ++ [c]) (later ++ [c]) p b := by
  obtain ⟨before, rules, rfl, held, unswept⟩ := read
  refine ⟨before, rules, by simp, held, ?_⟩
  intro inside
  rcases List.mem_append.1 inside with old | last
  · exact unswept old
  · exact kept (List.mem_singleton.1 last).symm

/-- Ballots of one voter on one proposal are the same ballot. -/
theorem Store.ballot_unique {s : Store} {p : ProposalId} {b c : Ballot} (first : b ∈ s.ballots p)
    (second : c ∈ s.ballots p) (same : b.voter = c.voter) : b = c := by
  have found := Store.mem_ballots.1 first
  rw [same, Store.mem_ballots.1 second] at found
  cases found
  rfl

/-- Who is marked has been read, and what that voter has on the proposal now was read then or has
been cast later. -/
theorem read_of_marked (calls : List Call) {p : ProposalId} {a : Address}
    (marked : a ∈ (Host.fresh.after calls).store.marked p) :
    ∃ later old, ReadBefore calls later p old ∧ old.voter = a ∧
      ∀ b ∈ (Host.fresh.after calls).store.ballots p, b.voter = a →
        b = old ∨ ∃ d, Call.cast d ∈ later ∧ d.canonical = b := by
  induction calls using List.reverseRecOn with
  | nil =>
      have found := Store.mem_marked.1 marked
      cases found
  | append_singleton calls c ih =>
      have quiet : (Host.fresh.after calls).outages = [] :=
        (Store.Coherent.fresh_after calls).1
      have step : Host.fresh.after (calls ++ [c]) = (c.act.runOn (Host.fresh.after calls)).2 :=
        Host.after_append ..
      rw [step] at marked ⊢
      rcases mem_marked_of_call quiet marked with ⟨before, kept⟩ | ⟨rules, rfl, old, held, voter⟩
      · obtain ⟨later, old, read, voter, each⟩ := ih before
        refine ⟨later ++ [c], old, read.concat kept, voter, ?_⟩
        intro b now same
        rcases mem_ballots_of_call quiet now with earlier | ⟨d, rfl, stored⟩
        · rcases each b earlier same with here | ⟨d, cast, stored⟩
          · exact .inl here
          · exact .inr ⟨d, List.mem_append_left _ cast, stored⟩
        · exact .inr ⟨d, List.mem_append_right _ List.mem_cons_self, stored⟩
      · refine ⟨[], old, ⟨calls, rules, rfl, held, List.not_mem_nil⟩, voter, ?_⟩
        intro b now same
        rcases mem_ballots_of_call quiet now with earlier | ⟨d, other, -⟩
        · exact .inl (Store.ballot_unique earlier held (same.trans voter.symm))
        · cases other

/-- At any time of a session a sweep leaves exactly the ballots of voters who are not marked.  A
ballot that it takes was read by a tally of the proposal since the last sweep, or has been cast
since then in the place of one that was. -/
theorem sweep_takes_read_or_recast (calls : List Call) (p : ProposalId) :
    let s := (Host.fresh.after calls).store
    (∀ b, b ∈ (s.sweep p).2.ballots p ↔ b ∈ s.ballots p ∧ b.voter ∉ s.marked p) ∧
      ∀ b ∈ s.ballots p, b ∈ (s.sweep p).2.ballots p ∨
        ∃ later old, ReadBefore calls later p old ∧ old.voter = b.voter ∧
          (b = old ∨ ∃ d, Call.cast d ∈ later ∧ d.canonical = b) := by
  intro s
  have stays (b : Ballot) :
      b ∈ (s.sweep p).2.ballots p ↔ b ∈ s.ballots p ∧ b.voter ∉ s.marked p := by
    rw [Store.mem_ballots_sweep]
    simp
  refine ⟨stays, ?_⟩
  intro b held
  by_cases marked : b.voter ∈ s.marked p
  · obtain ⟨later, old, read, voter, each⟩ := read_of_marked calls marked
    exact .inr ⟨later, old, read, voter, each b held rfl⟩
  · exact .inl ((stays b).2 ⟨held, marked⟩)

/-- The second ballot of `civ_two` is cast after the only tally, and the sweep takes it. -/
theorem sweep_takes_unread_ballot :
    let p : ProposalId := ⟨1⟩
    let recast : Ballot := .single p ⟨"civ_two"⟩ .no
    let calls : List Call :=
      [.found .pair, .cast (.single p ⟨"civ_two"⟩ .yes), .tally .default p, .cast recast]
    let s := (Host.fresh.after calls).store
    s.ballots p = [recast] ∧ (s.sweep p).1 = 1 ∧ (s.sweep p).2.ballots p = [] ∧
      ∀ later, ¬ReadBefore calls later p recast := by
  intro p recast calls s
  refine ⟨by decide +kernel, by decide +kernel, by decide +kernel, ?_⟩
  rintro later ⟨before, rules, split, held, -⟩
  -- There is one tally among the calls, and the ballots that it read are those of the first two.
  have first : before = calls.take 2 := by
    rcases before with _ | ⟨c, _ | ⟨d, _ | ⟨e, _ | ⟨f, rest⟩⟩⟩⟩ <;> simp [calls] at split
    simp [calls, split]
  have unread : recast ∉ (Host.fresh.after (calls.take 2)).store.ballots p := by decide +kernel
  exact unread (first ▸ held)

end Suffrage
