/-
# Suffrage.Proofs.Key -- keys have different bytes

What the store holds is told apart by the bytes of its key alone, so two keys must never
share them (`Key.bytes_inj`).  The first byte separates the kinds.  Within a kind, the
number of a proposal takes eight bytes whatever it is, and the tail of a nickname key is
always the same, so the address is what is left.

In the order of the bytes numbers of one width sort as numbers (`Text.bigEndian_lt_iff`), and what
follows beginnings of one length counts only if they are the same (`Text.append_lt_append_iff`).
Keys that start alike stand together in it, so a scan finds all of them (`Text.scan_eq_filter`).

Ballots and markers are filed by proposal (`Key.ByProposal`): the byte of the kind and the number of
a proposal begin the keys on that proposal and no others (`Key.ByProposal.isPrefix_iff`).
-/
import Suffrage.Store.Key

namespace Suffrage

set_option autoImplicit false

namespace Text

/-! ### Numbers and beginnings in the order of the bytes -/

/-- Numbers compare by their leading digit, and then by the rest. -/
theorem div_mod_lt_iff (n m base : Nat) :
    n / base < m / base ∨ n / base = m / base ∧ n % base < m % base ↔ n < m := by
  have left := Nat.div_add_mod n base
  have right := Nat.div_add_mod m base
  constructor
  · rintro (lead | ⟨lead, rest⟩)
    · exact Nat.lt_of_div_lt_div lead
    · rw [lead] at left
      omega
  · intro below
    rcases Nat.lt_or_eq_of_le (Nat.div_le_div_right (c := base) (Nat.le_of_lt below)) with lead | lead
    · exact .inl lead
    · rw [lead] at left
      exact .inr ⟨lead, by omega⟩

/-- The order of the bytes is the order of the numbers. -/
theorem bigEndian_lt_iff {width n m : Nat} (fitsLeft : n < Radix.pow 256 width)
    (fitsRight : m < Radix.pow 256 width) : bigEndian width n < bigEndian width m ↔ n < m := by
  induction width generalizing n m with
  | zero =>
      rw [Radix.pow_zero] at fitsLeft fitsRight
      simp only [bigEndian, List.lt_irrefl, false_iff]
      omega
  | succ width ih =>
      have positive : 0 < Radix.pow 256 width := Radix.pow_pos (by decide) width
      rw [Radix.pow_succ] at fitsLeft fitsRight
      have leadLeft : n / Radix.pow 256 width < 256 := Nat.div_lt_of_lt_mul fitsLeft
      have leadRight : m / Radix.pow 256 width < 256 := Nat.div_lt_of_lt_mul fitsRight
      rw [bigEndian, bigEndian, List.cons_lt_cons_iff,
        ih (Nat.mod_lt n positive) (Nat.mod_lt m positive), UInt8.lt_iff_toNat_lt,
        ← UInt8.toNat_inj, UInt8.toNat_ofNat_of_lt' leadLeft, UInt8.toNat_ofNat_of_lt' leadRight,
        div_mod_lt_iff]

theorem bigEndian_inj {width n m : Nat} (fitsLeft : n < Radix.pow 256 width)
    (fitsRight : m < Radix.pow 256 width) (same : bigEndian width n = bigEndian width m) :
    n = m := by
  have apart : ¬bigEndian width n < bigEndian width m := same ▸ List.lt_irrefl _
  have apart' : ¬bigEndian width m < bigEndian width n := same ▸ List.lt_irrefl _
  rw [bigEndian_lt_iff fitsLeft fitsRight] at apart
  rw [bigEndian_lt_iff fitsRight fitsLeft] at apart'
  exact Nat.le_antisymm (Nat.not_lt.1 apart') (Nat.not_lt.1 apart)

/-- Behind beginnings of one length, what follows counts only if they are the same. -/
theorem append_lt_append_iff {lead lead' a b : Bytes} (level : lead.length = lead'.length) :
    lead ++ a < lead' ++ b ↔ lead < lead' ∨ lead = lead' ∧ a < b := by
  induction lead generalizing lead' with
  | nil =>
      rw [List.length_eq_zero_iff.1 level.symm]
      simp
  | cons x rest ih =>
      cases lead' with
      | nil => cases level
      | cons y others =>
          rw [List.cons_append, List.cons_append, List.cons_lt_cons_iff, List.cons_lt_cons_iff,
            ih (Nat.succ.inj level), List.cons.injEq, and_or_left, or_assoc, and_assoc]

/-! ### Scans -/

/-- What starts with `lead` does not come before it. -/
theorem not_lt_of_isPrefix {lead key : Bytes} (starts : lead <+: key) : ¬key < lead := by
  obtain ⟨tail, rfl⟩ := starts
  have compared : lead ++ tail < lead ++ [] ↔ lead < lead ∨ lead = lead ∧ tail < [] :=
    append_lt_append_iff rfl
  rw [List.append_nil] at compared
  intro below
  rcases compared.1 below with smaller | ⟨-, smaller⟩
  · exact List.lt_irrefl lead smaller
  · exact List.not_lt_nil tail smaller

/-- Between `lead` and what starts with it there is nothing that does not. -/
theorem isPrefix_of_between {lead key later : Bytes} (notBefore : ¬key < lead)
    (before : key < later) (starts : lead <+: later) : lead <+: key := by
  obtain ⟨tail, rfl⟩ := starts
  induction lead generalizing key with
  | nil => exact List.nil_prefix
  | cons x rest ih =>
      cases key with
      | nil => exact absurd (List.nil_lt_cons ..) notBefore
      | cons y others =>
          rw [List.cons_lt_cons_iff, not_or] at notBefore
          rw [List.cons_append, List.cons_lt_cons_iff] at before
          rcases before with smaller | ⟨rfl, smaller⟩
          · exact absurd smaller notBefore.1
          · rw [List.cons_prefix_cons]
            exact ⟨rfl, ih (fun below => notBefore.2 ⟨rfl, below⟩) smaller⟩

/-- Where nothing that satisfies `p` comes after something that does not, what satisfies `p`
stands in front. -/
theorem takeWhile_eq_filter {α : Type} {p : α → Bool} {items : List α}
    (closed : items.Pairwise fun a b => p b = true → p a = true) :
    items.takeWhile p = items.filter p := by
  induction items with
  | nil => rfl
  | cons x rest ih =>
      obtain ⟨first, closed'⟩ := List.pairwise_cons.1 closed
      by_cases holds : p x = true
      · rw [List.takeWhile_cons_of_pos holds, List.filter_cons_of_pos holds, ih closed']
      · rw [List.takeWhile_cons_of_neg holds, List.filter_cons_of_neg holds, eq_comm,
          List.filter_eq_nil_iff]
        exact fun y inside later => holds (first y inside later)

/-- A scan of ordered items finds every item whose key starts with `lead`. -/
theorem scan_eq_filter {α : Type} {key : α → Bytes} {items : List α}
    (ordered : items.Pairwise fun a b => key a < key b) (lead : Bytes) :
    scan key lead items = items.filter fun x => lead.isPrefixOf (key x) := by
  unfold scan
  induction items with
  | nil => rfl
  | cons x rest ih =>
      obtain ⟨first, sorted⟩ := List.pairwise_cons.1 ordered
      by_cases below : key x < lead
      · have apart : lead.isPrefixOf (key x) = false := by
          rw [Bool.eq_false_iff, ne_eq, List.isPrefixOf_iff_prefix]
          exact fun starts => not_lt_of_isPrefix starts below
        rw [List.dropWhile_cons_of_pos (by simpa using below), ih sorted]
        simp [apart]
      · rw [List.dropWhile_cons_of_neg (by simpa using below)]
        -- Nothing from here on is before `lead`, since the keys ascend.
        have notBefore : ∀ y ∈ x :: rest, ¬key y < lead := by
          intro y inside before
          rcases List.mem_cons.1 inside with rfl | later
          · exact below before
          · exact below (List.lt_trans (first y later) before)
        refine takeWhile_eq_filter (ordered.imp_of_mem fun {a b} inside _ before starts => ?_)
        rw [List.isPrefixOf_iff_prefix] at starts ⊢
        exact isPrefix_of_between (notBefore a inside) before starts

/-- A scan finds what starts with `lead`, and nothing else. -/
theorem mem_scan_iff {α : Type} {key : α → Bytes} {items : List α}
    (ordered : items.Pairwise fun a b => key a < key b) (lead : Bytes) (x : α) :
    x ∈ scan key lead items ↔ x ∈ items ∧ lead <+: key x := by
  rw [scan_eq_filter ordered, List.mem_filter, List.isPrefixOf_iff_prefix]

/-- What a scan finds is in the order of the keys. -/
theorem pairwise_scan {α : Type} {key : α → Bytes} {items : List α}
    (ordered : items.Pairwise fun a b => key a < key b) (lead : Bytes) :
    (scan key lead items).Pairwise fun a b => key a < key b := by
  rw [scan_eq_filter ordered]
  exact ordered.filter _

/-- Lists in the strict order of their bytes are the same if their items are. -/
theorem eq_of_mem_iff {α : Type} {key : α → Bytes} {items others : List α}
    (ordered : items.Pairwise fun a b => key a < key b)
    (ordered' : others.Pairwise fun a b => key a < key b)
    (same : ∀ x, x ∈ items ↔ x ∈ others) : items = others := by
  have nodup {list : List α} (ascends : list.Pairwise fun a b => key a < key b) : list.Nodup := by
    refine ascends.imp fun {a b} below again => ?_
    subst again
    exact List.lt_irrefl _ below
  have perm : items.Perm others :=
    (List.perm_ext_iff_of_nodup (nodup ordered) (nodup ordered')).2 same
  refine perm.eq_of_pairwise (fun a b _ _ below above => ?_) ordered ordered'
  exact absurd (List.lt_trans below above) (List.lt_irrefl _)

end Text

namespace ProposalId

theorem length_bytes (p : ProposalId) : p.bytes.length = 8 := Text.length_bigEndian 8 _

theorem bytes_inj {p q : ProposalId} (same : p.bytes = q.bytes) : p = q := by
  have numbers := Text.bigEndian_inj (UInt64.toNat_lt p.number) (UInt64.toNat_lt q.number) same
  exact congrArg ProposalId.mk (UInt64.toNat_inj.1 numbers)

/-- What starts with a proposal's number determines the number and what follows it. -/
theorem bytes_append_inj {p q : ProposalId} {tail tail' : Text.Bytes}
    (same : p.bytes ++ tail = q.bytes ++ tail') : p = q ∧ tail = tail' := by
  obtain ⟨numbers, tails⟩ :=
    List.append_inj same ((length_bytes p).trans (length_bytes q).symm)
  exact ⟨bytes_inj numbers, tails⟩

end ProposalId

namespace Key

/-- The byte that says what a key leads to. -/
def lead : Key → UInt8
  | .member _ => 0x01
  | .nickname _ => 0x02
  | .memberCount => 0x03
  | .standingCount _ => 0x04
  | .settings => 0x05
  | .marker _ _ => 0x06
  | .ballot _ _ => 0x07

theorem head?_bytes (k : Key) : k.bytes.head? = some k.lead := by cases k <;> rfl

/-- No two keys have the same bytes. -/
theorem bytes_inj {k l : Key} (same : k.bytes = l.bytes) : k = l := by
  have leads : k.lead = l.lead := by
    rw [← Option.some_inj, ← head?_bytes, ← head?_bytes, same]
  -- Keys of different kinds differ in the first byte; seven pairs of one kind are left.
  cases k <;> cases l <;> simp [lead] at leads
  case member.member a b => rw [Address.bytes_inj (List.cons.inj same).2]
  case nickname.nickname a b =>
      rw [Address.bytes_inj (List.append_cancel_right (List.cons.inj same).2)]
  case memberCount.memberCount => rfl
  case standingCount.standingCount s t =>
      rw [Standing.code_inj (List.cons.inj (List.cons.inj same).2).1]
  case settings.settings => rfl
  case marker.marker p a q b =>
      obtain ⟨rfl, voters⟩ := ProposalId.bytes_append_inj (List.cons.inj same).2
      rw [Address.bytes_inj voters]
  case ballot.ballot p a q b =>
      obtain ⟨rfl, voters⟩ := ProposalId.bytes_append_inj (List.cons.inj same).2
      rw [Address.bytes_inj voters]

theorem bytes_eq_iff {k l : Key} : k.bytes = l.bytes ↔ k = l :=
  ⟨bytes_inj, fun same => same ▸ rfl⟩

/-- The first byte of a key says of which kind it is. -/
theorem lead_of_isPrefix {b : UInt8} {tail : Text.Bytes} {k : Key}
    (starts : b :: tail <+: k.bytes) : k.lead = b := by
  obtain ⟨rest, same⟩ := starts
  rw [← Option.some_inj, ← head?_bytes, ← same]
  rfl

/-! ### Keys filed by proposal -/

/-- The keys that begin with the byte `tag`, and behind it hold the number of a proposal and then a
voter. -/
structure ByProposal (kind : ProposalId → Address → Key) (tag : UInt8) : Prop where
  bytes_kind : ∀ p voter, (kind p voter).bytes = tag :: p.bytes ++ voter.bytes
  kind_of_lead : ∀ k, k.lead = tag → ∃ p voter, k = kind p voter

theorem byProposal_ballot : ByProposal ballot 0x07 where
  bytes_kind _ _ := rfl
  kind_of_lead k lead := by
    cases k with
    | ballot p voter => exact ⟨p, voter, rfl⟩
    | _ => cases lead

theorem byProposal_marker : ByProposal marker 0x06 where
  bytes_kind _ _ := rfl
  kind_of_lead k lead := by
    cases k with
    | marker p voter => exact ⟨p, voter, rfl⟩
    | _ => cases lead

section ByProposal

variable {kind : ProposalId → Address → Key} {tag : UInt8} (filed : ByProposal kind tag)
  {p q : ProposalId} {w : Address}

include filed

/-- A key of the kind starts with the tag and the number of `p` exactly if it is on `p`. -/
theorem ByProposal.prefix_kind_iff : tag :: p.bytes <+: (kind q w).bytes ↔ q = p := by
  rw [filed.bytes_kind, List.cons_append, List.cons_prefix_cons, and_iff_right rfl]
  constructor
  · rintro ⟨tail, same⟩
    exact (ProposalId.bytes_append_inj same).1.symm
  · rintro rfl
    exact List.prefix_append ..

/-- Of all keys those of the kind on `p` start so. -/
theorem ByProposal.isPrefix_iff {k : Key} :
    tag :: p.bytes <+: k.bytes ↔ ∃ voter, k = kind p voter := by
  constructor
  · intro starts
    obtain ⟨q, voter, rfl⟩ := filed.kind_of_lead k (lead_of_isPrefix starts)
    obtain rfl := filed.prefix_kind_iff.1 starts
    exact ⟨voter, rfl⟩
  · rintro ⟨voter, rfl⟩
    exact filed.prefix_kind_iff.2 rfl

end ByProposal

/-- Behind a common beginning, voters stand in the order of their bytes. -/
theorem lt_of_append_lt {lead a b : Text.Bytes} (below : lead ++ a < lead ++ b) : a < b := by
  rcases (Text.append_lt_append_iff rfl).1 below with smaller | ⟨-, rest⟩
  · exact absurd smaller (List.lt_irrefl lead)
  · exact rest

end Key

end Suffrage
