/-
# Suffrage.Proofs.Counters -- the counters after any sequence of operations

`Store.Counted` is kept by every operation on the roll and on the guardian set, guarded or
not, and whatever it answers: the counters change in `Roll.enroll` and `Roll.transition`
only, and everything else writes other keys.  So the counters of a host that started fresh
are exact at any time, the check of the counters passes, and no transition finds a counter
that does not fit the members.
-/
import Suffrage.Proofs.Session

namespace Suffrage

set_option autoImplicit false

namespace Store

theorem stable_counted : Stable Counted where
  enroll := Roll.keeps_enroll
  transition := Roll.keeps_transition
  setGuardianFlag := Roll.keeps_setGuardianFlag
  setNickname := Roll.keeps_setNickname
  putSettings _ record counted := counted.putSettings record
  mark s proposal voter counted := counted.of_sameRoll (SameRoll.mark s proposal voter)
  sweep s proposal counted := counted.of_sameRoll (SameRoll.sweep s proposal)

end Store

open Suffrage.Action (Holds)
open Store (Counted)

/-- A sequence of operations of any kind leaves the counters exact. -/
theorem counted_afterOperations (operations : List Operation) :
    Holds Counted (Host.fresh.afterOperations operations) := by
  refine holds_afterOperations (fun op _ => ?_) ⟨rfl, Counted.empty⟩
  refine Store.stable_counted.keeps_operation op fun ballot _ s counted => ?_
  exact counted.of_sameRoll (Store.SameRoll.cast s ballot)

/-- No refusal of a transition says that the counters are broken. -/
theorem Store.Counted.transition_consistent {s : Store} (counted : Counted s)
    (journal : List Event) (a : Address) (next : Standing) (operator detail : String) :
    ((Roll.transition a next operator).runOn ⟨s, [], journal⟩).1 ≠
      .error (.refused (.brokenInvariant detail)) := by
  obtain ⟨-, run⟩ | ⟨m, -, -, run⟩ | ⟨m, -, -, -, run⟩ :=
    counted.transition_cases journal a next operator
  · rw [run]
    simp
  · rw [run]
    simp
  · rw [run]
    simp

/-- At any time the member counter is the number of stored records, and the counter of each
standing is the number of records of that standing.  So the counters pass their check, and
no transition is refused because of a counter. -/
theorem counters_exact (operations : List Operation) :
    let h := Host.fresh.afterOperations operations
    h.store.memberCount.toNat = h.store.members.length ∧
    (∀ standing, (h.store.standingCount standing).toNat =
      h.store.members.countP (·.standing == standing)) ∧
    Roll.checkCounts.runOn h = (.ok (), h) ∧
    ∀ a next operator detail, ((Roll.transition a next operator).runOn h).1 ≠
      .error (.refused (.brokenInvariant detail)) := by
  intro h
  have holds : Holds Counted h := counted_afterOperations operations
  clear_value h
  obtain ⟨s, outages, journal⟩ := h
  obtain ⟨rfl, counted⟩ := holds
  refine ⟨counted.total, counted.each, counted.runOn_checkCounts journal, ?_⟩
  exact counted.transition_consistent journal

end Suffrage
