/-
# Suffrage.Proofs.Holdings -- the store is a family of independent maps

All that a store holds lies in one list, ordered by the bytes of the keys, and ballots and
markers are read by scans of that list.  Seen through its typed reads it is something simpler:
a map from addresses to records, one to nicknames, some counters, the settings, and for each
proposal and voter a ballot and a marker (`Holdings`).

A `Write` is one change that a host can make to the store.  It changes one of the maps at one
place; only a sweep empties several places, all of them on its proposal (`Holdings.write`).
`Store.Shows` says that every read of a store answers from given maps.  Each write keeps that
(`Store.Shows.write`), so it holds of every store that writes have built (`Store.written_shows`),
whatever the addresses: keys of different items have different bytes, and a scan finds all keys
that start alike and no others.  Every read is then what the last write has put in its place
(`store_shows_last_writes`).

Decimals are stored as texts, so settings and ballots come back in their canonical form.
-/
import Mathlib.Data.List.Induction
import Mathlib.Logic.Function.Basic
import Suffrage.Proofs.Sweep

namespace Suffrage

set_option autoImplicit false

/-- A change that a host can make to its store. -/
inductive Write where
  | member (record : Member)
  | nickname (address : Address) (text : String)
  | memberCount (count : UInt64)
  | standingCount (standing : Standing) (count : UInt64)
  | settings (record : Settings)
  | cast (ballot : Ballot)
  | mark (proposal : ProposalId) (voter : Address)
  | sweep (proposal : ProposalId)
  deriving DecidableEq, Repr

namespace Store

def write (s : Store) : Write → Store
  | .member record => s.putMember record
  | .nickname address text => s.putNickname address text
  | .memberCount count => s.setMemberCount count
  | .standingCount standing count => s.setStandingCount standing count
  | .settings record => s.putSettings record
  | .cast ballot => s.cast ballot
  | .mark proposal voter => s.mark proposal voter
  | .sweep proposal => (s.sweep proposal).2

/-! ## Reads after a write -/

variable (s : Store) (w : Write)

theorem member?_write (a : Address) :
    (s.write w).member? a =
      match w with
      | .member m => if m.address = a then some m else s.member? a
      | _ => s.member? a := by
  cases w with
  | sweep p => exact (SameRoll.sweep s p).member? a
  | _ => exact member?_insert ..

theorem nickname?_write (a : Address) :
    (s.write w).nickname? a =
      match w with
      | .nickname b text => if b = a then some text else s.nickname? a
      | _ => s.nickname? a := by
  cases w with
  | sweep p => exact (SameRoll.sweep s p).nickname? a
  | _ => exact nickname?_insert ..

theorem memberCount_write :
    (s.write w).memberCount =
      match w with
      | .memberCount n => n
      | _ => s.memberCount := by
  cases w with
  | sweep p => exact (SameRoll.sweep s p).memberCount
  | _ => exact memberCount_insert ..

theorem standingCount_write (standing : Standing) :
    (s.write w).standingCount standing =
      match w with
      | .standingCount other n => if other = standing then n else s.standingCount standing
      | _ => s.standingCount standing := by
  cases w with
  | sweep p => exact (SameRoll.sweep s p).standingCount standing
  | _ => exact standingCount_insert ..

theorem settings?_write :
    (s.write w).settings? =
      match w with
      | .settings record => some record.canonical
      | _ => s.settings? := by
  cases w with
  | sweep p => exact (SameRoll.sweep s p).settings?
  | _ => exact settings?_insert ..

theorem mem_ballots_write (p : ProposalId) (b : Ballot) :
    b ∈ (s.write w).ballots p ↔
      match w with
      | .cast c =>
          if c.proposal = p ∧ c.voter = b.voter then c.canonical = b else b ∈ s.ballots p
      | .sweep q => b ∈ s.ballots p ∧ ¬(p = q ∧ b.voter ∈ s.marked q)
      | _ => b ∈ s.ballots p := by
  cases w with
  | sweep q => exact s.mem_ballots_sweep q
  | cast c =>
      rw [mem_ballots, mem_ballots, write, Store.cast, find?_insert]
      by_cases here : c.proposal = p ∧ c.voter = b.voter <;>
        simp [Entry.key, Ballot.canonical, here]
  | _ => simp [mem_ballots, write, putMember, putNickname, setMemberCount, setStandingCount,
      putSettings, Store.mark, find?_insert, Entry.key]

theorem mem_marked_write (p : ProposalId) (a : Address) :
    a ∈ (s.write w).marked p ↔
      match w with
      | .mark q voter => (q = p ∧ voter = a) ∨ a ∈ s.marked p
      | .sweep q => a ∈ s.marked p ∧ p ≠ q
      | _ => a ∈ s.marked p := by
  cases w with
  | sweep q => exact s.mem_marked_sweep q
  | mark q voter =>
      rw [mem_marked, mem_marked, write, Store.mark, find?_insert]
      by_cases here : q = p ∧ voter = a <;> simp [Entry.key, here]
  | _ => simp [mem_marked, write, putMember, putNickname, setMemberCount, setStandingCount,
      putSettings, Store.cast, find?_insert, Entry.key]

end Store

/-! ## The maps -/

/-- What a store holds, one map for each kind of data. -/
structure Holdings where
  member : Address → Option Member
  nickname : Address → Option String
  memberCount : UInt64
  standingCount : Standing → UInt64
  settings : Option Settings
  ballot : ProposalId × Address → Option Ballot
  marked : ProposalId × Address → Bool

namespace Holdings

open Function (update)

/-- Nothing has been written; counters are zero. -/
def nothing : Holdings where
  member _ := none
  nickname _ := none
  memberCount := 0
  standingCount _ := 0
  settings := none
  ballot _ := none
  marked _ := false

/-- A write changes one map at one place.  A sweep empties the ballots of the voters who are
marked on the proposal, and all its markers. -/
def write (held : Holdings) : Write → Holdings
  | .member record => { held with member := update held.member record.address (some record) }
  | .nickname address text => { held with nickname := update held.nickname address (some text) }
  | .memberCount count => { held with memberCount := count }
  | .standingCount standing count =>
      { held with standingCount := update held.standingCount standing count }
  | .settings record => { held with settings := some record }
  | .cast ballot =>
      { held with ballot := update held.ballot (ballot.proposal, ballot.voter) (some ballot) }
  | .mark proposal voter => { held with marked := update held.marked (proposal, voter) true }
  | .sweep proposal =>
      { held with
        ballot := fun place =>
          if place.1 = proposal ∧ held.marked place = true then none else held.ballot place
        marked := fun place => if place.1 = proposal then false else held.marked place }

end Holdings

/-! ## A store shows its maps -/

namespace Store

/-- Every read of the store answers from the maps. -/
structure Shows (s : Store) (held : Holdings) : Prop where
  member : ∀ a, s.member? a = held.member a
  hasMember : ∀ a, s.hasMember a = (held.member a).isSome
  nickname : ∀ a, s.nickname? a = held.nickname a
  memberCount : s.memberCount = held.memberCount
  standingCount : ∀ standing, s.standingCount standing = held.standingCount standing
  settings : s.settings? = held.settings.map Settings.canonical
  ballots : ∀ p b, b ∈ s.ballots p ↔ (held.ballot (p, b.voter)).map Ballot.canonical = some b
  ballots_ascend : ∀ p, (s.ballots p).Pairwise fun a b => a.voter.bytes < b.voter.bytes
  marked : ∀ p a, a ∈ s.marked p ↔ held.marked (p, a) = true
  marked_ascend : ∀ p, (s.marked p).Pairwise fun a b => a.bytes < b.bytes
  /-- A sweep says how many ballots there are of marked voters. -/
  sweep : ∀ p, (s.sweep p).1 = (s.ballots p).countP fun b => held.marked (p, b.voter)

namespace Shows

variable {s : Store} {held : Holdings}

/-- The order and the answer of a sweep are the same for all stores; presence of a record is too. -/
theorem of_reads (member : ∀ a, s.member? a = held.member a)
    (nickname : ∀ a, s.nickname? a = held.nickname a) (memberCount : s.memberCount = held.memberCount)
    (standingCount : ∀ standing, s.standingCount standing = held.standingCount standing)
    (settings : s.settings? = held.settings.map Settings.canonical)
    (ballots : ∀ p b, b ∈ s.ballots p ↔ (held.ballot (p, b.voter)).map Ballot.canonical = some b)
    (marked : ∀ p a, a ∈ s.marked p ↔ held.marked (p, a) = true) : s.Shows held where
  member := member
  hasMember a := by rw [hasMember_eq, member]
  nickname := nickname
  memberCount := memberCount
  standingCount := standingCount
  settings := settings
  ballots := ballots
  ballots_ascend := s.pairwise_ballots
  marked := marked
  marked_ascend := s.pairwise_marked
  sweep p := by
    rw [count_sweep]
    refine List.countP_congr fun b _ => ?_
    rw [decide_eq_true_iff, marked]

theorem empty : Shows .empty .nothing := by
  refine of_reads (fun _ => rfl) (fun _ => rfl) rfl (fun _ => rfl) rfl ?_ ?_
  · intro p b
    rw [mem_ballots]
    exact iff_of_false nofun nofun
  · intro p a
    rw [mem_marked]
    exact iff_of_false nofun nofun

/-- A write does to the store what it does to the maps. -/
theorem write (shown : s.Shows held) (w : Write) : (s.write w).Shows (held.write w) := by
  apply of_reads
  · intro a
    rw [member?_write, shown.member]
    cases w with
    | member m => exact (if_congr eq_comm rfl rfl).trans (Function.update_apply ..).symm
    | _ => rfl
  · intro a
    rw [nickname?_write, shown.nickname]
    cases w with
    | nickname b text => exact (if_congr eq_comm rfl rfl).trans (Function.update_apply ..).symm
    | _ => rfl
  · rw [memberCount_write, shown.memberCount]
    cases w <;> rfl
  · intro standing
    rw [standingCount_write, shown.standingCount]
    cases w with
    | standingCount other n =>
        exact (if_congr eq_comm rfl rfl).trans (Function.update_apply ..).symm
    | _ => rfl
  · rw [settings?_write, shown.settings]
    cases w <;> rfl
  · intro p b
    rw [mem_ballots_write]
    cases w with
    | cast c =>
        by_cases here : c.proposal = p ∧ c.voter = b.voter
        · simp [Holdings.write, here]
        · have apart : (p, b.voter) ≠ (c.proposal, c.voter) := fun same =>
            here ⟨(congrArg Prod.fst same).symm, (congrArg Prod.snd same).symm⟩
          simp [Holdings.write, here, Function.update_of_ne apart, shown.ballots]
    | sweep q =>
        have marked := shown.marked q b.voter
        by_cases gone : p = q ∧ held.marked (q, b.voter) = true
        · obtain ⟨rfl, held'⟩ := gone
          simp [Holdings.write, marked.2 held', held']
        · have stays : ¬(p = q ∧ held.marked (p, b.voter) = true) := by
            rintro ⟨rfl, held'⟩
            exact gone ⟨rfl, held'⟩
          simp only [Holdings.write, marked, gone, stays, if_false, not_false_eq_true, and_true]
          exact shown.ballots p b
    | _ => exact shown.ballots p b
  · intro p a
    rw [mem_marked_write]
    cases w with
    | mark q voter =>
        rw [shown.marked]
        by_cases here : q = p ∧ voter = a
        · simp [Holdings.write, here]
        · have apart : (p, a) ≠ (q, voter) := fun same =>
            here ⟨(congrArg Prod.fst same).symm, (congrArg Prod.snd same).symm⟩
          simp [Holdings.write, here, Function.update_of_ne apart]
    | sweep q =>
        rw [shown.marked]
        by_cases same : p = q <;> simp [Holdings.write, same]
    | _ => exact shown.marked p a

end Shows

end Store

/-! ## The last write -/

namespace Write

/-- What the last of the writes gives, among those that give anything. -/
def last? {α : Type} (given : Write → Option α) (writes : List Write) : Option α :=
  writes.reverse.findSome? given

/-- A reading that each write either sets or leaves alone is what the last write has set. -/
theorem foldl_eq_last {σ α : Type} {step : σ → Write → σ} (read : σ → α)
    (given : Write → Option α) (law : ∀ s w, read (step s w) = (given w).getD (read s))
    (writes : List Write) (s : σ) :
    read (writes.foldl step s) = (last? given writes).getD (read s) := by
  induction writes generalizing s with
  | nil => rfl
  | cons w rest ih =>
      rw [List.foldl_cons, ih, law, last?, last?, List.reverse_cons, List.findSome?_append]
      cases rest.reverse.findSome? given with
      | some a => rfl
      | none => cases set : given w <;> simp [List.findSome?, set]

def recordOf (a : Address) : Write → Option (Option Member)
  | .member m => if m.address = a then some (some m) else none
  | _ => none

def nicknameOf (a : Address) : Write → Option (Option String)
  | .nickname b text => if b = a then some (some text) else none
  | _ => none

def total : Write → Option UInt64
  | .memberCount n => some n
  | _ => none

def countOf (standing : Standing) : Write → Option UInt64
  | .standingCount other n => if other = standing then some n else none
  | _ => none

def record : Write → Option (Option Settings)
  | .settings record => some (some record.canonical)
  | _ => none

/-- Marking sets the marker of one voter, and a sweep of the proposal takes it away. -/
def markOf (p : ProposalId) (a : Address) : Write → Option Bool
  | .mark q voter => if q = p ∧ voter = a then some true else none
  | .sweep q => if q = p then some false else none
  | _ => none

/-- The write ends the stay of a ballot: its voter casts another one on the proposal, or the
proposal is swept while the voter is marked. -/
def Unseats (s : Store) (p : ProposalId) (a : Address) : Write → Prop
  | .cast c => c.proposal = p ∧ c.voter = a
  | .sweep q => q = p ∧ a ∈ s.marked p
  | _ => False

end Write

namespace Store

/-- The store that the writes build from nothing. -/
def written (writes : List Write) : Store := writes.foldl write .empty

variable (writes : List Write)

theorem written_concat (w : Write) : written (writes ++ [w]) = (written writes).write w :=
  List.foldl_append ..

theorem written_shows : (written writes).Shows (writes.foldl Holdings.write .nothing) := by
  induction writes using List.reverseRecOn with
  | nil => exact .empty
  | append_singleton before w ih =>
      rw [written_concat, List.foldl_append]
      exact ih.write w

theorem member?_written (a : Address) :
    (written writes).member? a = (Write.last? (Write.recordOf a) writes).getD none := by
  refine Write.foldl_eq_last (fun t : Store => t.member? a) _ ?_ writes .empty
  intro t w
  rw [member?_write]
  cases w with
  | member m => by_cases here : m.address = a <;> simp [Write.recordOf, here]
  | _ => rfl

theorem nickname?_written (a : Address) :
    (written writes).nickname? a = (Write.last? (Write.nicknameOf a) writes).getD none := by
  refine Write.foldl_eq_last (fun t : Store => t.nickname? a) _ ?_ writes .empty
  intro t w
  rw [nickname?_write]
  cases w with
  | nickname b text => by_cases here : b = a <;> simp [Write.nicknameOf, here]
  | _ => rfl

theorem memberCount_written :
    (written writes).memberCount = (Write.last? Write.total writes).getD 0 := by
  refine Write.foldl_eq_last (fun t : Store => t.memberCount) _ ?_ writes .empty
  intro t w
  rw [memberCount_write]
  cases w <;> rfl

theorem standingCount_written (standing : Standing) :
    (written writes).standingCount standing =
      (Write.last? (Write.countOf standing) writes).getD 0 := by
  refine Write.foldl_eq_last (fun t : Store => t.standingCount standing) _ ?_ writes .empty
  intro t w
  rw [standingCount_write]
  cases w with
  | standingCount other n => by_cases here : other = standing <;> simp [Write.countOf, here]
  | _ => rfl

theorem settings?_written :
    (written writes).settings? = (Write.last? Write.record writes).getD none := by
  refine Write.foldl_eq_last (fun t : Store => t.settings?) _ ?_ writes .empty
  intro t w
  rw [settings?_write]
  cases w <;> rfl

theorem mem_marked_written (p : ProposalId) (a : Address) :
    decide (a ∈ (written writes).marked p) =
      (Write.last? (Write.markOf p a) writes).getD false := by
  refine Write.foldl_eq_last (fun t : Store => decide (a ∈ t.marked p)) _ ?_ writes .empty
  intro t w
  rw [← Bool.coe_iff_coe, decide_eq_true_iff, mem_marked_write]
  cases w with
  | mark q voter => by_cases here : q = p ∧ voter = a <;> simp [Write.markOf, here]
  | sweep q =>
      by_cases same : q = p
      · simp [Write.markOf, same]
      · simp [Write.markOf, same, Ne.symm same]
  | _ => simp [Write.markOf]

/-- After a write, a ballot on a proposal is the one just cast, or one that is not unseated. -/
theorem mem_ballots_write_iff (s : Store) (w : Write) (p : ProposalId) (b : Ballot) :
    b ∈ (s.write w).ballots p ↔
      (∃ c, w = .cast c ∧ c.proposal = p ∧ c.canonical = b) ∨
        (b ∈ s.ballots p ∧ ¬w.Unseats s p b.voter) := by
  rw [mem_ballots_write]
  cases w with
  | cast c =>
      show (if c.proposal = p ∧ c.voter = b.voter then _ else _) ↔ _
      by_cases here : c.proposal = p ∧ c.voter = b.voter
      · rw [if_pos here]
        constructor
        · intro stored
          exact .inl ⟨c, rfl, here.1, stored⟩
        · rintro (⟨d, same, -, stored⟩ | ⟨-, seated⟩)
          · cases same
            exact stored
          · exact absurd here seated
      · rw [if_neg here]
        constructor
        · intro old
          exact .inr ⟨old, here⟩
        · rintro (⟨d, same, there, rfl⟩ | ⟨old, -⟩)
          · cases same
            exact absurd ⟨there, rfl⟩ here
          · exact old
  | sweep q =>
      constructor
      · rintro ⟨old, stays⟩
        refine .inr ⟨old, ?_⟩
        rintro ⟨rfl, marked⟩
        exact stays ⟨rfl, marked⟩
      · rintro (⟨d, same, -⟩ | ⟨old, seated⟩)
        · cases same
        · refine ⟨old, ?_⟩
          rintro ⟨rfl, marked⟩
          exact seated ⟨rfl, marked⟩
  | _ => simp [Write.Unseats]

/-- A ballot is held exactly if it was cast, and nothing written since has unseated it. -/
theorem mem_ballots_written (p : ProposalId) (b : Ballot) :
    b ∈ (written writes).ballots p ↔
      ∃ before c later, writes = before ++ .cast c :: later ∧ c.proposal = p ∧ c.canonical = b ∧
        ∀ between w rest, later = between ++ w :: rest →
          ¬w.Unseats (written (before ++ .cast c :: between)) p b.voter := by
  induction writes using List.reverseRecOn with
  | nil =>
      refine iff_of_false ?_ (by rintro ⟨before, c, later, ends, -⟩; simp at ends)
      rw [mem_ballots]
      rintro ⟨⟩
  | append_singleton writes w ih =>
      rw [written_concat, mem_ballots_write_iff, ih]
      constructor
      · rintro (⟨c, rfl, place, stored⟩ | ⟨⟨before, c, later, rfl, place, stored, seated⟩, last⟩)
        · refine ⟨writes, c, [], rfl, place, stored, fun between w rest ends => ?_⟩
          simp at ends
        · refine ⟨before, c, later ++ [w], by simp, place, stored, fun between v rest ends => ?_⟩
          -- The write in question is one of the earlier ones or the last.
          rcases List.eq_nil_or_concat rest with rfl | ⟨front, v', rfl⟩
          · obtain ⟨rfl, same⟩ := List.append_inj' ends rfl
            cases same
            exact last
          · have split : later ++ [w] = (between ++ v :: front) ++ [v'] := by simp [ends]
            exact seated between v front (List.append_inj' split rfl).1
      · rintro ⟨before, c, later, ends, place, stored, seated⟩
        rcases List.eq_nil_or_concat later with rfl | ⟨front, v, rfl⟩
        · obtain ⟨-, same⟩ := List.append_inj' ends rfl
          cases same
          exact .inl ⟨c, rfl, place, stored⟩
        · have split : writes ++ [w] = (before ++ .cast c :: front) ++ [v] := by simp [ends]
          obtain ⟨rfl, same⟩ := List.append_inj' split rfl
          cases same
          refine .inr ⟨⟨before, c, front, rfl, place, stored, fun between x rest inner => ?_⟩,
            seated front w [] (by simp)⟩
          exact seated between x (rest ++ [w]) (by simp [inner])

end Store

/-- Whatever is written, in whatever order and under whatever addresses, every read of the store
answers from independent maps, one for each kind of data; so it gives what has been written last
for exactly its place, and nothing or zero where nothing has been written.  Of the ballots, those
are held that were cast and that no later ballot and no sweep has unseated. -/
theorem store_shows_last_writes (writes : List Write) :
    let s := Store.written writes
    s.Shows (writes.foldl Holdings.write .nothing) ∧
    (∀ a, s.member? a = (Write.last? (Write.recordOf a) writes).getD none) ∧
    (∀ a, s.nickname? a = (Write.last? (Write.nicknameOf a) writes).getD none) ∧
    s.memberCount = (Write.last? Write.total writes).getD 0 ∧
    (∀ standing, s.standingCount standing = (Write.last? (Write.countOf standing) writes).getD 0) ∧
    s.settings? = (Write.last? Write.record writes).getD none ∧
    (∀ p a, decide (a ∈ s.marked p) = (Write.last? (Write.markOf p a) writes).getD false) ∧
    ∀ p b, b ∈ s.ballots p ↔
      ∃ before c later, writes = before ++ .cast c :: later ∧ c.proposal = p ∧ c.canonical = b ∧
        ∀ between w rest, later = between ++ w :: rest →
          ¬w.Unseats (.written (before ++ .cast c :: between)) p b.voter := by
  intro s
  refine ⟨Store.written_shows writes, ?_, ?_, ?_, ?_, ?_, ?_, ?_⟩
  · exact Store.member?_written writes
  · exact Store.nickname?_written writes
  · exact Store.memberCount_written writes
  · exact Store.standingCount_written writes
  · exact Store.settings?_written writes
  · exact Store.mem_marked_written writes
  · exact Store.mem_ballots_written writes

end Suffrage
