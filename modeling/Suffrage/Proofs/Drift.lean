/-
# Suffrage.Proofs.Drift -- what the check of the counters finds

`Roll.checkCounts` compares the counters of the standings with the member counter.  It adds them up
in 64 bits and cuts a sum that is larger (`Roll.runOn_checkCounts`), so it judges the store as the
exact sum does, except where the member counter itself is at its limit: there every larger sum
looks the same and passes (`drift_found_below_limit`).

Nothing is assumed of the store: the counters are whatever was written, and zero where nothing was.
-/
import Suffrage.Proofs.Roll

namespace Suffrage

set_option autoImplicit false

namespace Store

/-- The counters of the standings add up to the member counter. -/
def Balanced (s : Store) : Prop := s.totalOf Standing.all = s.memberCount.toNat

/-- The member counter is at its limit, and the counters of the standings add up to more. -/
def Overrun (s : Store) : Prop :=
  s.memberCount = Roll.maxCount ∧ Roll.maxCount.toNat < s.totalOf Standing.all

/-- A sum that was cut is the member counter in these two cases. -/
theorem cut_eq_memberCount_iff {s : Store} {sum : UInt64}
    (cut : sum.toNat = min (s.totalOf Standing.all) Roll.maxCount.toNat) :
    sum = s.memberCount ↔ s.Balanced ∨ s.Overrun := by
  have limit := Roll.le_maxCount s.memberCount
  rw [Balanced, Overrun, ← UInt64.toNat_inj, ← UInt64.toNat_inj, cut]
  omega

end Store

/-- The check of the counters passes if they add up, and also where the member counter is at its
limit and the sum beyond it.  In every other store it is refused as a broken invariant, after which
the host must not go on.  It never changes anything. -/
theorem drift_found_below_limit (s : Store) (journal : List Event) :
    let h : Host := ⟨s, [], journal⟩
    (s.Balanced ∨ s.Overrun) ∧ Roll.checkCounts.runOn h = (.ok (), h) ∨
    ¬(s.Balanced ∨ s.Overrun) ∧ ∃ detail,
      Roll.checkCounts.runOn h = (.error (.refused (.brokenInvariant detail)), h) ∧
      (Refusal.brokenInvariant detail).isFatal = true := by
  intro h
  obtain ⟨sum, cut, run⟩ := Roll.runOn_checkCounts s journal
  have judged := Store.cut_eq_memberCount_iff cut
  by_cases same : sum = s.memberCount
  · rw [if_pos same] at run
    exact .inl ⟨judged.1 same, run⟩
  · rw [if_neg same] at run
    exact .inr ⟨fun passes => same (judged.2 passes), _, run, rfl⟩

/-- A store with `2^64 - 1` unset members, one pending and `2^64 - 1` in all passes the check,
although the standings count one more. -/
theorem overrun_passes_unseen :
    let s := ((Store.empty.setStandingCount .unset Roll.maxCount).setStandingCount
      .pendingApproval 1).setMemberCount Roll.maxCount
    s.totalOf Standing.all = s.memberCount.toNat + 1 ∧
      Roll.checkCounts.runOn ⟨s, [], []⟩ = (.ok (), ⟨s, [], []⟩) := by
  exact ⟨by decide, rfl⟩

end Suffrage
