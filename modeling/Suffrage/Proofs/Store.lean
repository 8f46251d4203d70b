/-
# Suffrage.Proofs.Store -- what a store holds after a write

A key leads to one entry at most, so a write is seen under its own key and nowhere else
(`Store.find?_insert`, `Store.find?_erase`).  Each typed read has one equation for a write
of any kind (`member?_insert`, `settings?_insert`, ...), which says at once what the write
changes and what it leaves alone.

`Store.members` lists the records of the roll.  A written record takes the place of the one
that its address had, and how many records satisfy a condition changes by these two
(`countP_members_putMember`).

The ballots and the markers on a proposal are each a reading of a scan (`Store.Reading`): it gives
what is stored under the keys of the proposal, in the order of the voters.
-/
import Suffrage.Proofs.Key
import Suffrage.Store.Records

namespace Suffrage

set_option autoImplicit false

/-- The member record that an entry holds, if it holds one. -/
def Entry.record? : Entry → Option Member
  | .member record => some record
  | _ => none

/-- Whether a key leads to a ballot or to the marker of one. -/
def Key.ofBallot : Key → Bool
  | .marker _ _ => true
  | .ballot _ _ => true
  | _ => false

namespace Store

/-! ## One key -/

theorem find?_insertInto (e : Entry) (k : Key) (entries : List Entry) :
    (insertInto e entries).find? (·.key.bytes == k.bytes) =
      if e.key = k then some e else entries.find? (·.key.bytes == k.bytes) := by
  induction entries with
  | nil =>
      by_cases same : e.key = k
      · simp [insertInto, same]
      · simp [insertInto, same, Key.bytes_eq_iff]
  | cons x rest ih =>
      simp only [insertInto]
      split
      · by_cases same : e.key = k
        · simp [same]
        · simp [same, Key.bytes_eq_iff]
      · split
        · rename_i above
          by_cases here : x.key = k
          · have apart : e.key ≠ k := by
              rintro rfl
              rw [here] at above
              exact List.lt_irrefl _ above
            simp [here, apart]
          · simp [here, Key.bytes_eq_iff, ih]
        · rename_i notBelow notAbove
          have place := Key.bytes_inj (bytes_eq_of_not_lt notBelow notAbove)
          by_cases same : e.key = k
          · simp [same]
          · simp [same, Key.bytes_eq_iff, ← place]

theorem find?_insert (s : Store) (e : Entry) (k : Key) :
    (s.insert e).find? k = if e.key = k then some e else s.find? k :=
  find?_insertInto e k s.entries

theorem find?_erase (s : Store) (k l : Key) :
    (s.erase k).find? l = if k = l then none else s.find? l := by
  unfold find? erase
  simp only [List.find?_filter]
  split
  · rename_i same
    subst same
    simp
  · rename_i apart
    congr 1
    funext e
    by_cases here : e.key = l
    · simp [here, Key.bytes_eq_iff, Ne.symm apart]
    · simp [here, Key.bytes_eq_iff]

theorem key_of_find? {s : Store} {k : Key} {e : Entry} (found : s.find? k = some e) :
    e.key = k := by
  have := List.find?_some found
  simpa [Key.bytes_eq_iff] using this

/-- An entry is held exactly if its key leads to it. -/
theorem mem_entries_iff {s : Store} {e : Entry} : e ∈ s.entries ↔ s.find? e.key = some e := by
  constructor
  · intro held
    unfold find?
    obtain ⟨entries, ordered⟩ := s
    induction entries with
    | nil => cases held
    | cons x rest ih =>
        obtain ⟨first, tail⟩ := List.pairwise_cons.1 ordered
        rcases List.mem_cons.1 held with rfl | later
        · simp
        · have apart : x.key ≠ e.key := by
            intro same
            have before : x.key.bytes < e.key.bytes := first e later
            rw [same] at before
            exact List.lt_irrefl _ before
          simpa [apart, Key.bytes_eq_iff] using ih tail later
  · exact List.mem_of_find?_eq_some

/-- A store is what its keys lead to. -/
theorem eq_of_find? {s t : Store} (same : ∀ k, s.find? k = t.find? k) : s = t := by
  have entries : s.entries = t.entries := by
    refine Text.eq_of_mem_iff s.ordered t.ordered fun e => ?_
    rw [mem_entries_iff, mem_entries_iff, same]
  cases s
  cases t
  cases entries
  rfl

/-! ## Typed reads after a write -/

theorem member?_eq_some_iff {s : Store} {a : Address} {m : Member} :
    s.member? a = some m ↔ s.find? (.member a) = some (.member m) := by
  unfold member?
  constructor
  · intro found
    split at found
    · cases found
      assumption
    · cases found
  · intro found
    rw [found]

theorem address_of_member? {s : Store} {a : Address} {m : Member} (found : s.member? a = some m) :
    m.address = a := by
  have := key_of_find? (member?_eq_some_iff.1 found)
  simpa [Entry.key] using this

theorem member?_address {s : Store} {a : Address} {m : Member} (found : s.member? a = some m) :
    s.member? m.address = some m := by
  rwa [address_of_member? found]

theorem hasMember_eq (s : Store) (a : Address) : s.hasMember a = (s.member? a).isSome := by
  unfold hasMember member?
  cases found : s.find? (.member a) with
  | none => rfl
  | some e =>
      have key := key_of_find? found
      cases e <;> simp_all [Entry.key]

theorem find?_member (s : Store) (a : Address) :
    s.find? (.member a) = (s.member? a).map Entry.member := by
  cases found : s.find? (.member a) with
  | none => simp [member?, found]
  | some e =>
      have place := key_of_find? found
      cases e <;> simp_all [member?, Entry.key]

theorem find?_settings (s : Store) : s.find? .settings = s.settings?.map Entry.settings := by
  cases found : s.find? .settings with
  | none => simp [settings?, found]
  | some e =>
      have place := key_of_find? found
      cases e <;> simp_all [settings?, Entry.key]

/-- Stores are one if they have the same records, the same settings, and the same elsewhere. -/
theorem eq_of_records {s t : Store} (members : ∀ a, t.member? a = s.member? a)
    (settings : t.settings? = s.settings?)
    (elsewhere : ∀ k : Key, (∀ a, k ≠ .member a) → k ≠ .settings → t.find? k = s.find? k) :
    t = s := by
  apply eq_of_find?
  intro k
  cases k with
  | member a => rw [find?_member, find?_member, members]
  | settings => rw [find?_settings, find?_settings, settings]
  | _ => exact elsewhere _ (by simp) (by simp)

theorem member?_insert (s : Store) (e : Entry) (a : Address) :
    (s.insert e).member? a =
      match e with
      | .member m => if m.address = a then some m else s.member? a
      | _ => s.member? a := by
  unfold member?
  rw [find?_insert]
  cases e with
  | member m => by_cases here : m.address = a <;> simp [Entry.key, here]
  | _ => simp [Entry.key]

theorem memberCount_insert (s : Store) (e : Entry) :
    (s.insert e).memberCount =
      match e with
      | .memberCount n => n
      | _ => s.memberCount := by
  unfold memberCount
  rw [find?_insert]
  cases e <;> simp [Entry.key]

theorem standingCount_insert (s : Store) (e : Entry) (standing : Standing) :
    (s.insert e).standingCount standing =
      match e with
      | .standingCount other n => if other = standing then n else s.standingCount standing
      | _ => s.standingCount standing := by
  unfold standingCount
  rw [find?_insert]
  cases e with
  | standingCount other n => by_cases here : other = standing <;> simp [Entry.key, here]
  | _ => simp [Entry.key]

theorem settings?_insert (s : Store) (e : Entry) :
    (s.insert e).settings? =
      match e with
      | .settings record => some record
      | _ => s.settings? := by
  unfold settings?
  rw [find?_insert]
  cases e <;> simp [Entry.key]

theorem nickname?_insert (s : Store) (e : Entry) (a : Address) :
    (s.insert e).nickname? a =
      match e with
      | .nickname b text => if b = a then some text else s.nickname? a
      | _ => s.nickname? a := by
  unfold nickname?
  rw [find?_insert]
  cases e with
  | nickname b text => by_cases here : b = a <;> simp [Entry.key, here]
  | _ => simp [Entry.key]

/-! ## The records of the roll -/

/-- Every stored member record, in the order of the addresses. -/
def members (s : Store) : List Member := s.entries.filterMap Entry.record?

theorem mem_members {s : Store} {m : Member} : m ∈ s.members ↔ s.member? m.address = some m := by
  rw [member?_eq_some_iff]
  constructor
  · intro held
    obtain ⟨e, inside, record⟩ := List.mem_filterMap.1 held
    cases e with
    | member r =>
        cases record
        exact mem_entries_iff.1 inside
    | _ => cases record
  · intro found
    exact List.mem_filterMap.2 ⟨_, List.mem_of_find?_eq_some found, rfl⟩

/-- No address has two records. -/
theorem pairwise_members (s : Store) : s.members.Pairwise (·.address ≠ ·.address) := by
  refine List.Pairwise.filterMap _ ?_ s.ordered
  intro a b before m fromA n fromB same
  cases a with
  | member r =>
      cases b with
      | member t =>
          cases fromA
          cases fromB
          simp only [Entry.Before, Entry.key, same] at before
          exact List.lt_irrefl _ before
      | _ => cases fromB
  | _ => cases fromA

theorem nodup_members (s : Store) : s.members.Nodup :=
  s.pairwise_members.imp fun apart same => apart (congrArg Member.address same)

/-- Two stores with the same records list them in some order. -/
theorem members_perm {s t : Store} (same : ∀ a, s.member? a = t.member? a) :
    s.members.Perm t.members :=
  (List.perm_ext_iff_of_nodup s.nodup_members t.nodup_members).2 fun m => by
    rw [mem_members, mem_members, same]

/-- The records are that of one address, if it has one, and those of the others. -/
theorem members_perm_split (s : Store) (a : Address) :
    s.members.Perm ((s.member? a).toList ++ s.members.filter (·.address != a)) := by
  refine (List.perm_ext_iff_of_nodup s.nodup_members ?_).2 fun m => ?_
  · refine List.nodup_append.2 ⟨?_, s.nodup_members.filter _, ?_⟩
    · cases s.member? a <;> simp
    · rintro m found _ other rfl
      have here := address_of_member? (Option.mem_toList.1 found)
      simp [here] at other
  · rw [List.mem_append, Option.mem_toList, List.mem_filter, mem_members]
    constructor
    · intro held
      by_cases here : m.address = a
      · exact .inl (here ▸ held)
      · exact .inr ⟨held, by simpa using here⟩
    · rintro (found | ⟨held, -⟩)
      · rwa [address_of_member? found]
      · exact held

theorem countP_members_split (s : Store) (a : Address) (p : Member → Bool) :
    s.members.countP p =
      (s.member? a).toList.countP p + (s.members.filter (·.address != a)).countP p := by
  rw [(s.members_perm_split a).countP_eq, List.countP_append]

/-- A written record takes the place of the one that its address had. -/
theorem members_putMember (s : Store) (m : Member) :
    (s.putMember m).members.Perm (m :: s.members.filter (·.address != m.address)) := by
  refine (List.perm_ext_iff_of_nodup (nodup_members _) ?_).2 fun x => ?_
  · refine List.nodup_cons.2 ⟨?_, s.nodup_members.filter _⟩
    simp
  · rw [mem_members, putMember, member?_insert, List.mem_cons, List.mem_filter, mem_members]
    by_cases here : x.address = m.address
    · simp [here, eq_comm]
    · have apart : x ≠ m := fun same => here (congrArg Member.address same)
      simp [here, Ne.symm here, apart]

theorem countP_members_putMember (s : Store) (m : Member) (p : Member → Bool) :
    (s.putMember m).members.countP p + (s.member? m.address).toList.countP p =
      s.members.countP p + [m].countP p := by
  have before := s.countP_members_split m.address p
  have after := (s.members_putMember m).countP_eq p
  rw [← List.singleton_append, List.countP_append] at after
  omega

/-! ## The ballots on a proposal, and their markers -/

theorem mem_scan {s : Store} {lead : Text.Bytes} {e : Entry} :
    e ∈ s.scan lead ↔ s.find? e.key = some e ∧ lead <+: e.key.bytes := by
  rw [scan, Text.mem_scan_iff s.ordered, mem_entries_iff]

/-- How a scan for `lead` is read: the items that start so are each some `entry x`, under the key
`place x`, and what follows `lead` in it is the voter of `x`. -/
structure Reading {α : Type} (lead : Text.Bytes) (read : Entry → Option α) (entry : α → Entry)
    (place : α → Key) (voter : α → Address) : Prop where
  read_iff : ∀ e x, lead <+: e.key.bytes ∧ read e = some x ↔ e = entry x ∧ e.key = place x
  bytes_place : ∀ x, (place x).bytes = lead ++ (voter x).bytes

namespace Reading

variable {α : Type} {lead : Text.Bytes} {read : Entry → Option α} {entry : α → Entry}
  {place : α → Key} {voter : α → Address} (reading : Reading lead read entry place voter)

include reading

/-- What is read is what is stored under its key. -/
theorem mem_iff {s : Store} {x : α} :
    x ∈ (s.scan lead).filterMap read ↔ s.find? (place x) = some (entry x) := by
  rw [List.mem_filterMap]
  constructor
  · rintro ⟨e, inside, isRead⟩
    obtain ⟨found, starts⟩ := mem_scan.1 inside
    obtain ⟨rfl, key⟩ := (reading.read_iff e x).1 ⟨starts, isRead⟩
    rwa [key] at found
  · intro found
    have key := key_of_find? found
    obtain ⟨starts, isRead⟩ := (reading.read_iff _ x).2 ⟨rfl, key⟩
    exact ⟨entry x, mem_scan.2 ⟨by rwa [key], starts⟩, isRead⟩

/-- It is read in the order of the voters. -/
theorem pairwise (s : Store) :
    ((s.scan lead).filterMap read).Pairwise fun x y => (voter x).bytes < (voter y).bytes := by
  have starting : (s.scan lead).Pairwise fun a b => lead <+: a.key.bytes ∧
      lead <+: b.key.bytes ∧ a.Before b := by
    refine (Text.pairwise_scan s.ordered lead).imp_of_mem fun {a b} inA inB before => ?_
    exact ⟨(mem_scan.1 inA).2, (mem_scan.1 inB).2, before⟩
  refine List.Pairwise.filterMap _ ?_ starting
  rintro a b ⟨startsA, startsB, before⟩ x fromA y fromB
  unfold Entry.Before at before
  rw [((reading.read_iff a x).1 ⟨startsA, fromA⟩).2, ((reading.read_iff b y).1 ⟨startsB, fromB⟩).2,
    reading.bytes_place, reading.bytes_place] at before
  exact Key.lt_of_append_lt before

/-- The same is read where the keys lead to the same. -/
theorem congr {s t : Store} (same : ∀ x, t.find? (place x) = s.find? (place x)) :
    (t.scan lead).filterMap read = (s.scan lead).filterMap read := by
  refine Text.eq_of_mem_iff (reading.pairwise t) (reading.pairwise s) fun x => ?_
  rw [reading.mem_iff, reading.mem_iff, same]

end Reading

theorem reading_ballots (p : ProposalId) :
    Reading (Key.ballotsOn p) (fun | .ballot record => some record | _ => none) Entry.ballot
      (fun b => .ballot p b.voter) Ballot.voter where
  read_iff e b := by
    rw [Key.ballotsOn, Key.byProposal_ballot.isPrefix_iff]
    constructor
    · rintro ⟨⟨voter, key⟩, isRead⟩
      cases e with
      | ballot record =>
          cases isRead
          obtain ⟨rfl, rfl⟩ := Key.ballot.inj key
          exact ⟨rfl, rfl⟩
      | _ => cases isRead
    · rintro ⟨rfl, key⟩
      exact ⟨⟨b.voter, key⟩, rfl⟩
  bytes_place _ := rfl

theorem reading_marked (p : ProposalId) :
    Reading (Key.markersOn p) (fun | .marker _ voter => some voter | _ => none) (.marker p)
      (.marker p) id where
  read_iff e a := by
    rw [Key.markersOn, Key.byProposal_marker.isPrefix_iff]
    constructor
    · rintro ⟨⟨voter, key⟩, isRead⟩
      cases e with
      | marker q b =>
          cases isRead
          obtain ⟨rfl, rfl⟩ := Key.marker.inj key
          exact ⟨rfl, rfl⟩
      | _ => cases isRead
    · rintro ⟨rfl, key⟩
      exact ⟨⟨a, key⟩, rfl⟩
  bytes_place _ := rfl

/-- The ballots on a proposal are those stored under its keys. -/
theorem mem_ballots {s : Store} {p : ProposalId} {b : Ballot} :
    b ∈ s.ballots p ↔ s.find? (.ballot p b.voter) = some (.ballot b) :=
  (reading_ballots p).mem_iff

/-- A voter is marked exactly if the marker is stored. -/
theorem mem_marked {s : Store} {p : ProposalId} {a : Address} :
    a ∈ s.marked p ↔ s.find? (.marker p a) = some (.marker p a) :=
  (reading_marked p).mem_iff

/-- Under the key of a marker there is that marker or nothing. -/
theorem find?_marker_cases (s : Store) (p : ProposalId) (a : Address) :
    s.find? (.marker p a) = none ∨ s.find? (.marker p a) = some (.marker p a) := by
  cases found : s.find? (.marker p a) with
  | none => exact .inl rfl
  | some e =>
      have place := key_of_find? found
      cases e with
      | marker q b =>
          obtain ⟨rfl, rfl⟩ := Key.marker.inj place
          exact .inr rfl
      | _ => cases place

/-- Ballots on a proposal come in the order of their voters. -/
theorem pairwise_ballots (s : Store) (p : ProposalId) :
    (s.ballots p).Pairwise fun a b => a.voter.bytes < b.voter.bytes :=
  (reading_ballots p).pairwise s

/-- Marked voters come in the order of their addresses. -/
theorem pairwise_marked (s : Store) (p : ProposalId) :
    (s.marked p).Pairwise fun a b => a.bytes < b.bytes :=
  (reading_marked p).pairwise s

/-- The ballots on a proposal are the same where their keys lead to the same. -/
theorem ballots_congr {s t : Store} {p : ProposalId}
    (same : ∀ voter, t.find? (.ballot p voter) = s.find? (.ballot p voter)) :
    t.ballots p = s.ballots p :=
  (reading_ballots p).congr fun b => same b.voter

/-- So are the markers. -/
theorem marked_congr {s t : Store} {p : ProposalId}
    (same : ∀ voter, t.find? (.marker p voter) = s.find? (.marker p voter)) :
    t.marked p = s.marked p :=
  (reading_marked p).congr same

/-- No voter has two ballots on a proposal. -/
theorem nodup_voters (s : Store) (p : ProposalId) : ((s.ballots p).map (·.voter)).Nodup := by
  rw [List.Nodup, List.pairwise_map]
  refine (s.pairwise_ballots p).imp fun {a b} below same => ?_
  rw [same] at below
  exact List.lt_irrefl _ below

/-! ## Ballots and markers stand apart -/

/-- The stores differ in ballots and their markers at most. -/
def SameRoll (s t : Store) : Prop := ∀ k : Key, k.ofBallot = false → t.find? k = s.find? k

namespace SameRoll

variable {s t u : Store}

theorem refl (s : Store) : SameRoll s s := fun _ _ => rfl

theorem trans (first : SameRoll s t) (second : SameRoll t u) : SameRoll s u :=
  fun k apart => (second k apart).trans (first k apart)

theorem insert (s : Store) {e : Entry} (kind : e.key.ofBallot = true) :
    SameRoll s (s.insert e) := by
  intro k apart
  rw [find?_insert, if_neg]
  rintro rfl
  rw [kind] at apart
  cases apart

theorem erase (s : Store) {k : Key} (kind : k.ofBallot = true) : SameRoll s (s.erase k) := by
  intro l apart
  rw [find?_erase, if_neg]
  rintro rfl
  rw [kind] at apart
  cases apart

theorem cast (s : Store) (ballot : Ballot) : SameRoll s (s.cast ballot) := insert s rfl

theorem mark (s : Store) (proposal : ProposalId) (voter : Address) :
    SameRoll s (s.mark proposal voter) := insert s rfl

theorem sweep (s : Store) (proposal : ProposalId) : SameRoll s (s.sweep proposal).2 := by
  unfold Store.sweep
  generalize s.marked proposal = voters
  -- The voters are taken out one after another, whatever has been counted.
  suffices all : ∀ n (t : Store), SameRoll t (voters.foldl (sweepVoter proposal) (n, t)).2 from
    all 0 s
  induction voters with
  | nil => exact fun _ t => refl t
  | cons voter rest ih =>
      intro n t
      exact ((erase t rfl).trans (erase _ rfl)).trans (ih _ _)

theorem member? (same : SameRoll s t) (a : Address) : t.member? a = s.member? a := by
  unfold Store.member?
  rw [same _ rfl]

theorem memberCount (same : SameRoll s t) : t.memberCount = s.memberCount := by
  unfold Store.memberCount
  rw [same _ rfl]

theorem standingCount (same : SameRoll s t) (standing : Standing) :
    t.standingCount standing = s.standingCount standing := by
  unfold Store.standingCount
  rw [same _ rfl]

theorem settings? (same : SameRoll s t) : t.settings? = s.settings? := by
  unfold Store.settings?
  rw [same _ rfl]

theorem nickname? (same : SameRoll s t) (a : Address) : t.nickname? a = s.nickname? a := by
  unfold Store.nickname?
  rw [same _ rfl]

theorem members (same : SameRoll s t) : t.members.Perm s.members := members_perm same.member?

end SameRoll

/-- The stores have the same ballots and markers. -/
def SameBallots (s t : Store) : Prop := ∀ k : Key, k.ofBallot = true → t.find? k = s.find? k

namespace SameBallots

variable {s t : Store}

theorem refl (s : Store) : SameBallots s s := fun _ _ => rfl

theorem insert (same : SameBallots s t) {e : Entry} (kind : e.key.ofBallot = false) :
    SameBallots s (t.insert e) := by
  intro k apart
  rw [find?_insert, if_neg]
  · exact same k apart
  · rintro rfl
    rw [kind] at apart
    cases apart

theorem mem_ballots (same : SameBallots s t) {p : ProposalId} {b : Ballot} :
    b ∈ t.ballots p ↔ b ∈ s.ballots p := by
  rw [Store.mem_ballots, Store.mem_ballots, same _ rfl]

theorem mem_marked (same : SameBallots s t) {p : ProposalId} {a : Address} :
    a ∈ t.marked p ↔ a ∈ s.marked p := by
  rw [Store.mem_marked, Store.mem_marked, same _ rfl]

end SameBallots

end Store

end Suffrage
