/-
# Suffrage.Proofs.KeyOrder -- the order of keys and what a scan finds in it

The store is read in the order of the key bytes.  A proposal number is written in eight bytes, the
most significant first, so it sorts as the number does, and what follows it counts only between
equal numbers (`ProposalId.bytes_append_lt_iff`).  So keys that are filed by proposal stand by
proposal and then by voter (`Key.ByProposal.lt_iff`).

A scan begins at the first key that is not before the given bytes and ends at the first that does
not start with them.  Keys that start alike stand together, so nothing is missed, and the order is
kept.
-/
import Suffrage.Proofs.Key

namespace Suffrage

set_option autoImplicit false

/-- Proposals sort by number, and what follows the same number sorts by itself. -/
theorem ProposalId.bytes_append_lt_iff {p q : ProposalId} {tail tail' : Text.Bytes} :
    p.bytes ++ tail < q.bytes ++ tail' ↔ p.number < q.number ∨ p = q ∧ tail < tail' := by
  have numbers : p.bytes < q.bytes ↔ p.number < q.number := by
    rw [UInt64.lt_iff_toNat_lt]
    exact Text.bigEndian_lt_iff (UInt64.toNat_lt p.number) (UInt64.toNat_lt q.number)
  have same : p.bytes = q.bytes ↔ p = q := ⟨bytes_inj, congrArg bytes⟩
  rw [Text.append_lt_append_iff ((length_bytes p).trans (length_bytes q).symm), numbers, same]

/-- So do the keys of a kind that is filed by proposal. -/
theorem Key.ByProposal.lt_iff {kind : ProposalId → Address → Key} {tag : UInt8}
    (filed : ByProposal kind tag) {p q : ProposalId} {v w : Address} :
    (kind p v).bytes < (kind q w).bytes ↔ p.number < q.number ∨ p = q ∧ v.bytes < w.bytes := by
  rw [filed.bytes_kind, filed.bytes_kind, List.cons_append, List.cons_append,
    List.cons_lt_cons_iff, ProposalId.bytes_append_lt_iff]
  simp only [UInt8.lt_irrefl, false_or, true_and]

/-- Keys tell apart what they lead to, and ballots and markers stand by proposal and voter.

* No two items of the store have a key in common.
* Ballots sort by the number of their proposal and then by the bytes of their voter, and so do
  markers.
* What starts like the ballots on a proposal is a ballot on that proposal, and so for markers.
* In any list that ascends in its keys, a scan finds the items whose keys start with the given
  bytes and no others.  It keeps the strict order, so each comes once. -/
theorem keys_apart_and_in_order :
    (∀ k l : Key, k.bytes = l.bytes ↔ k = l) ∧
    (∀ p q v w, (Key.ballot p v).bytes < (Key.ballot q w).bytes ↔
      p.number < q.number ∨ p = q ∧ v.bytes < w.bytes) ∧
    (∀ p q v w, (Key.marker p v).bytes < (Key.marker q w).bytes ↔
      p.number < q.number ∨ p = q ∧ v.bytes < w.bytes) ∧
    (∀ p q w, Key.ballotsOn p <+: (Key.ballot q w).bytes ↔ q = p) ∧
    (∀ p q w, Key.markersOn p <+: (Key.marker q w).bytes ↔ q = p) ∧
    ∀ (α : Type) (key : α → Text.Bytes) (items : List α),
      items.Pairwise (fun a b => key a < key b) → ∀ lead,
        (∀ x, x ∈ Text.scan key lead items ↔ x ∈ items ∧ lead <+: key x) ∧
        (Text.scan key lead items).Pairwise fun a b => key a < key b := by
  refine ⟨fun _ _ => Key.bytes_eq_iff, fun _ _ _ _ => Key.byProposal_ballot.lt_iff,
    fun _ _ _ _ => Key.byProposal_marker.lt_iff,
    fun _ _ _ => Key.byProposal_ballot.prefix_kind_iff,
    fun _ _ _ => Key.byProposal_marker.prefix_kind_iff, ?_⟩
  intro α key items ordered lead
  exact ⟨Text.mem_scan_iff ordered lead, Text.pairwise_scan ordered lead⟩

/-- Around the keys that start with `07 01`: one before them, one that ends early, one after. -/
theorem keys_in_order_sample :
    let items : List Text.Bytes := [[6, 255], [7], [7, 1], [7, 1, 0], [7, 1, 255], [7, 2]]
    items.Pairwise (· < ·) ∧ Text.scan id [7, 1] items = [[7, 1], [7, 1, 0], [7, 1, 255]] ∧
      (∀ x, x ∈ Text.scan id [7, 1] items ↔ x ∈ items ∧ [7, 1] <+: x) ∧
      (Text.scan id [7, 1] items).Pairwise (· < ·) := by
  intro items
  have ordered : items.Pairwise (· < ·) := by decide
  obtain ⟨-, -, -, -, -, scans⟩ := keys_apart_and_in_order
  exact ⟨ordered, by decide, scans _ id items ordered [7, 1]⟩

end Suffrage
