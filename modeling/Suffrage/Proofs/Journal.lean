/-
# Suffrage.Proofs.Journal -- the journal tells what has happened

Whoever keeps a copy of the electorate has only the journal to keep it by.  `View` is such a
copy: the standing of each address, the guardian list in its order, and the weight.
`View.apply` is what the reader of an event does to it.

A call other than a founding announces at most one change (`Call.Announces`), and the copy
follows the store through it:

* an enrolment, an approval, an appointment, a dismissal and a new weight have an event each;
* an approval has a second one, which names the guardian and changes nothing;
* a call that is refused, and all that is done with ballots, announces nothing.

So a copy that is right at any time of a session stays right, event by event, and what an event
says of the time before it is what was held then (`journal_replays`).

A founding is left out on purpose.  It announces its members, but neither the weight nor the
guardians that it starts with, so a copy has to be taken when it is over.
-/
import Mathlib.Data.List.Induction
import Suffrage.Proofs.Marking
import Suffrage.Proofs.Refusal

namespace Suffrage

set_option autoImplicit false

open Suffrage.Action (Decides Holds)

/-! ## Copies of the electorate -/

/-- The standing of each address that has been enrolled. -/
abbrev Register := Address → Option Standing

/-- The register with another standing for an address. -/
def Register.put (r : Register) (a : Address) (standing : Standing) : Register :=
  fun b => if a = b then some standing else r b

@[simp] theorem Register.put_self (r : Register) (a : Address) (standing : Standing) :
    r.put a standing a = some standing := if_pos rfl

theorem Register.put_of_ne (r : Register) {a b : Address} {standing : Standing} (apart : a ≠ b) :
    r.put a standing b = r b := if_neg apart

/-- What a reader of the journal knows. -/
structure View where
  standing : Register
  /-- The guardians, in the order in which they were added. -/
  guardians : List Address
  weight : Option Decimal

/-- The view after an event. -/
def View.apply (v : View) : Event → View
  | .memberEnrolled a => { v with standing := v.standing.put a .pendingApproval }
  | .standingChanged a _ current _ => { v with standing := v.standing.put a current }
  | .memberApproved _ _ => v
  | .guardiansAdded batch => { v with guardians := v.guardians ++ batch }
  | .guardiansRemoved batch => { v with guardians := v.guardians.filter (!batch.contains ·) }
  | .weightChanged _ new => { v with weight := some new }

/-- What the event says of the time before it is what the view has. -/
def Event.Fits (v : View) : Event → Prop
  | .memberEnrolled a => v.standing a = none
  | .standingChanged a previous _ _ => v.standing a = some previous
  | .weightChanged previous _ => v.weight = some previous
  | _ => True

namespace Store

/-- The standings as the roll has them. -/
def register (s : Store) : Register := fun a => (s.member? a).map (·.standing)

def view (s : Store) : View where
  standing := s.register
  guardians := s.listed
  weight := s.settings?.map (·.weight)

/-! ## The views of changed stores -/

variable {s t : Store}

theorem register_of_member? {a : Address} {m : Member} (found : s.member? a = some m) :
    s.register a = some m.standing := by
  rw [register, found]
  rfl

theorem register_of_absent {a : Address} (absent : s.member? a = none) : s.register a = none := by
  rw [register, absent]
  rfl

/-- Records and settings make up the view. -/
theorem view_congr (member? : ∀ a, t.member? a = s.member? a)
    (settings? : t.settings? = s.settings?) : t.view = s.view := by
  have standing : t.register = s.register := by
    funext a
    rw [register, register, member?]
  unfold view
  rw [standing, listed_congr settings?, settings?]

theorem view_of_sameRoll (same : s.SameRoll t) : t.view = s.view :=
  view_congr same.member? same.settings?

theorem view_named (s : Store) (a : Address) (nickname : Option String) :
    (s.named a nickname).view = s.view :=
  view_congr (s.member?_named a nickname) (s.settings?_named a nickname)

theorem register_enrolled (s : Store) (a : Address) :
    (s.enrolled a).register = s.register.put a .pendingApproval := by
  funext b
  unfold register Register.put
  rw [member?_enrolled]
  split <;> rfl

theorem register_moved (s : Store) (m : Member) (next : Standing) :
    (s.moved m next).register = s.register.put m.address next := by
  funext b
  unfold register Register.put
  rw [member?_moved]
  split <;> rfl

/-- A flag is no standing. -/
theorem register_flagged (s : Store) (flag : Bool) (batch : List Address) :
    (s.flagged flag batch).register = s.register := by
  funext a
  unfold register
  rw [member?_flagged, Option.map_map]
  congr 1
  funext m
  by_cases inside : a ∈ batch <;> simp [inside]

theorem register_putSettings (s : Store) (record : Settings) :
    (s.putSettings record).register = s.register := by
  funext a
  unfold register
  rw [member?_putSettings]

theorem view_enrolled (s : Store) (a : Address) :
    (s.enrolled a).view = s.view.apply (.memberEnrolled a) := by
  have settings := s.settings?_enrolled a
  unfold view View.apply
  rw [register_enrolled, listed_congr settings, settings]

theorem view_moved (s : Store) (m : Member) (previous next : Standing) (operator : String) :
    (s.moved m next).view =
      s.view.apply (.standingChanged m.address previous next operator) := by
  have settings := s.settings?_moved m next
  unfold view View.apply
  rw [register_moved, listed_congr settings, settings]

/-- Settings in the range are read as they were written. -/
theorem view_putSettings (s : Store) {record : Settings}
    (range : record.weight.isPositiveFraction = true) :
    (s.putSettings record).view =
      { standing := s.register, guardians := record.guardians, weight := some record.weight } := by
  unfold view
  rw [register_putSettings, listed_putSettings, settings?_putSettings]
  simp [Settings.canonical, Decimal.canonical_of_isPositiveFraction range]

/-- The view where there are settings. -/
theorem view_of_settings? (settled : s.settings?.isSome = true) :
    s.view =
      { standing := s.register, guardians := s.listed, weight := some s.settled.weight } := by
  unfold view
  rw [settings?_of_isSome settled]
  rfl

namespace Coherent

variable {founded : Prop} (coherent : s.Coherent founded) (settled : s.settings?.isSome = true)
include coherent settled

theorem weight_settled : s.settled.weight.isPositiveFraction = true :=
  coherent.weighed s.settled (settings?_of_isSome settled)

/-- Eligible members are not listed yet, so the list grows by the whole batch. -/
theorem view_attached {batch : List Address} (distinct : batch.Nodup)
    (eligible : ∀ a ∈ batch, s.Eligible a) :
    (s.attached batch).view = s.view.apply (.guardiansAdded batch) := by
  have new : ∀ a ∈ batch, a ∉ s.settled.guardians := fun a inside =>
    coherent.not_listed (eligible a inside)
  have range : (s.settled.add batch).weight.isPositiveFraction = true := by
    rw [Settings.weight_add]
    exact coherent.weight_settled settled
  rw [Store.attached, view_putSettings _ range, register_flagged, Settings.weight_add,
    Settings.guardians_add distinct new, view_of_settings? settled]
  rfl

theorem view_detached (batch : List Address) :
    (s.detached batch).view = s.view.apply (.guardiansRemoved batch) := by
  have range : (s.settled.remove batch).weight.isPositiveFraction = true :=
    coherent.weight_settled settled
  rw [Store.detached, view_putSettings _ range, register_flagged, view_of_settings? settled]
  rfl

omit coherent in
theorem view_reweighted {weight : Decimal} (range : weight.isPositiveFraction = true) :
    (s.reweighted weight).view = s.view.apply (.weightChanged s.settled.weight weight) := by
  have range' : ({ s.settled with weight } : Settings).weight.isPositiveFraction = true := range
  rw [Store.reweighted, view_putSettings _ range', view_of_settings? settled]
  rfl

end Coherent

end Store

/-! ## One call -/

/-- What a call announces that takes `s` to `t`, unless it is a founding. -/
inductive Call.Announces (s t : Store) : Call → List Event → Prop where
  | nothing {c : Call} (same : t.view = s.view) : Announces s t c []
  | enrolment {address : String} {nickname : Option String}
      (fresh : s.register ⟨address⟩ = none)
      (now : t.view = s.view.apply (.memberEnrolled ⟨address⟩)) :
      Announces s t (.enroll address nickname) [.memberEnrolled ⟨address⟩]
  | approval {approver member : String} (guardian : s.isGuardian ⟨approver⟩ = true)
      (pending : s.register ⟨member⟩ = some .pendingApproval)
      (now : t.view =
        s.view.apply (.standingChanged ⟨member⟩ .pendingApproval .electorate approver)) :
      Announces s t (.approve approver member)
        [.standingChanged ⟨member⟩ .pendingApproval .electorate approver,
          .memberApproved ⟨member⟩ ⟨approver⟩]
  | appointment {motion : Motion} {batch : List Address}
      (now : t.view = s.view.apply (.guardiansAdded batch)) :
      Announces s t (.enact motion) [.guardiansAdded batch]
  | dismissal {motion : Motion} {batch : List Address}
      (now : t.view = s.view.apply (.guardiansRemoved batch)) :
      Announces s t (.enact motion) [.guardiansRemoved batch]
  | reweighting {motion : Motion} {previous weight : Decimal}
      (held : s.view.weight = some previous)
      (now : t.view = s.view.apply (.weightChanged previous weight)) :
      Announces s t (.enact motion) [.weightChanged previous weight]

namespace Call.Announces

variable {s t : Store} {c : Call} {own : List Event}

/-- The events lead from one view to the other. -/
theorem replay (told : c.Announces s t own) : own.foldl View.apply s.view = t.view := by
  cases told with
  | nothing same => exact same.symm
  | enrolment _ now => exact now.symm
  | approval _ _ now => exact now.symm
  | appointment now => exact now.symm
  | dismissal now => exact now.symm
  | reweighting _ now => exact now.symm

/-- The only event of a call. -/
theorem of_singleton {x e : Event} {earlier later : List Event}
    (split : [x] = earlier ++ e :: later) : earlier = [] ∧ e = x := by
  cases earlier with
  | nil => exact ⟨rfl, (List.cons.inj split).1.symm⟩
  | cons y rest =>
      have short := congrArg List.length split
      simp at short

/-- An event says what the store held before the call, and a member is approved right after the
change that the approver has made. -/
theorem fits (told : c.Announces s t own) {earlier later : List Event} {e : Event}
    (split : own = earlier ++ e :: later) :
    e.Fits s.view ∧ e.Fits (earlier.foldl View.apply s.view) ∧
      ∀ member approver, e = .memberApproved member approver →
        ∃ previous current,
          earlier = [.standingChanged member previous current approver.text] := by
  cases told with
  | nothing _ => exact absurd split.symm (by simp)
  | enrolment fresh _ =>
      obtain ⟨rfl, rfl⟩ := of_singleton split
      exact ⟨fresh, fresh, nofun⟩
  | approval _ pending _ =>
      cases earlier with
      | nil =>
          obtain ⟨rfl, -⟩ := List.cons.inj split
          exact ⟨pending, pending, nofun⟩
      | cons first rest =>
          obtain ⟨rfl, split'⟩ := List.cons.inj split
          obtain ⟨rfl, rfl⟩ := of_singleton split'
          refine ⟨trivial, trivial, ?_⟩
          intro member approver same
          cases same
          exact ⟨_, _, rfl⟩
  | appointment _ =>
      obtain ⟨rfl, rfl⟩ := of_singleton split
      exact ⟨trivial, trivial, nofun⟩
  | dismissal _ =>
      obtain ⟨rfl, rfl⟩ := of_singleton split
      exact ⟨trivial, trivial, nofun⟩
  | reweighting held _ =>
      obtain ⟨rfl, rfl⟩ := of_singleton split
      exact ⟨held, held, nofun⟩

end Call.Announces

/-- What follows a call that has been decided. -/
theorem Action.Decides.leaves {α : Type} {p : Prop} {x : Action Host α} {s t : Store}
    {journal own : List Event} {a : α} {P : Store → List Event → Prop}
    (decides : Decides p x ⟨s, [], journal⟩ a ⟨t, [], journal ++ own⟩) (done : p → P t own)
    (refused : P s []) :
    ∃ u told, (x.runOn ⟨s, [], journal⟩).2 = ⟨u, [], journal ++ told⟩ ∧ P u told := by
  obtain ⟨holds, run⟩ | ⟨-, e, run⟩ := decides
  · exact ⟨t, own, congrArg Prod.snd run, done holds⟩
  · refine ⟨s, [], ?_, refused⟩
    rw [run, List.append_nil]

namespace Store.Coherent

variable {founded : Prop} {s : Store} (coherent : s.Coherent founded) (journal : List Event)
include coherent

theorem announces_enact (motion : Motion) :
    ∃ t own, ((Call.enact motion).act.runOn ⟨s, [], journal⟩).2 = ⟨t, [], journal ++ own⟩ ∧
      (Call.enact motion).Announces s t own := by
  have run : (Call.enact motion).act.runOn ⟨s, [], journal⟩ =
      (motion.demand.act motion.creator).runOn ⟨s, [], journal⟩ := motion.runOn_enact _
  rw [run]
  have decides := coherent.decides_demand journal motion.creator motion.demand
  cases demand : motion.demand with
  | addGuardians raw =>
      rw [demand] at decides
      refine decides.leaves (fun fits => ?_) (.nothing rfl)
      obtain ⟨authorized, batch, eligible⟩ := fits
      exact .appointment
        (coherent.view_attached (coherent.settings?_of_authorizes authorized) batch.nodup eligible)
  | removeGuardians raw =>
      rw [demand] at decides
      refine decides.leaves (fun fits => ?_) (.nothing rfl)
      exact .dismissal (coherent.view_detached (coherent.settings?_of_authorizes fits.1) _)
  | setWeight weight =>
      rw [demand] at decides
      refine decides.leaves (fun fits => ?_) (.nothing rfl)
      have settled := coherent.settings?_of_authorizes fits.1
      refine .reweighting ?_ (view_reweighted settled fits.2)
      rw [view_of_settings? settled]

/-- Every call but a founding announces what it has changed, and nothing else. -/
theorem announces (c : Call) (unfounding : ∀ genesis, c ≠ .found genesis) :
    ∃ t own, (c.act.runOn ⟨s, [], journal⟩).2 = ⟨t, [], journal ++ own⟩ ∧ c.Announces s t own := by
  -- What leaves the roll as it is, and announces nothing.
  have silent {t : Store} (same : s.SameRoll t) (run : (c.act.runOn ⟨s, [], journal⟩).2 =
      ⟨t, [], journal⟩) : ∃ t own,
        (c.act.runOn ⟨s, [], journal⟩).2 = ⟨t, [], journal ++ own⟩ ∧ c.Announces s t own :=
    ⟨t, [], by rw [run, List.append_nil], .nothing (view_of_sameRoll same)⟩
  cases c with
  | found genesis => exact absurd rfl (unfounding genesis)
  | enroll address nickname =>
      have decides : Decides _ (Call.enroll address nickname).act ⟨s, [], journal⟩ () _ :=
        (Assembly.decides_enroll journal coherent.counted ⟨address⟩ nickname).andThen fun _ => rfl
      refine decides.leaves (fun fits => ?_) (.nothing rfl)
      obtain ⟨-, fresh, -⟩ := fits
      exact .enrolment (register_of_absent fresh)
        ((view_named ..).trans (view_enrolled s ⟨address⟩))
  | approve approver member =>
      have decides : Decides _ (Call.approve approver member).act ⟨s, [], journal⟩ () _ :=
        (coherent.decides_approve journal ⟨approver⟩ ⟨member⟩).andThen fun _ => rfl
      refine decides.leaves (fun fits => ?_) (.nothing rfl)
      obtain ⟨-, -, guardian, pending⟩ := fits
      exact .approval guardian (register_of_member? pending) (view_moved ..)
  | enact motion => exact coherent.announces_enact journal motion
  | tally rules p =>
      obtain ⟨voters, -, run, -⟩ := Tally.runOn_tally s journal rules p
      refine silent (s.sameRoll_markAll p voters) ?_
      show ((Assembly.tally rules p >>= fun _ => pure ()).runOn _).2 = _
      rw [Action.runOn_bind, Action.snd_andThen_pure, run]
  | cast ballot => exact silent (SameRoll.cast s ballot) rfl
  | sweep p => exact silent (SameRoll.sweep s p) rfl

end Store.Coherent

theorem Call.announces {founded : Prop} {h : Host} (start : Holds (Store.Coherent founded) h)
    (c : Call) (unfounding : ∀ genesis, c ≠ .found genesis) :
    ∃ own, (c.act.runOn h).2.journal = h.journal ++ own ∧
      c.Announces h.store (c.act.runOn h).2.store own := by
  obtain ⟨s, outages, journal⟩ := h
  obtain ⟨rfl, coherent⟩ := start
  obtain ⟨t, own, run, told⟩ := coherent.announces journal c unfounding
  rw [run]
  exact ⟨own, rfl, told⟩

/-! ## Sessions -/

/-- An item of two lists together is an item of the first or of the second. -/
theorem split_append {α : Type} {xs ys earlier later : List α} {x : α}
    (split : xs ++ ys = earlier ++ x :: later) :
    (∃ rest, xs = earlier ++ x :: rest ∧ later = rest ++ ys) ∨
      ∃ rest, earlier = xs ++ rest ∧ ys = rest ++ x :: later := by
  rcases List.append_eq_append_iff.1 split with ⟨rest, before, after⟩ | ⟨rest, before, after⟩
  · exact .inr ⟨rest, before, after⟩
  · cases rest with
    | nil => exact .inr ⟨[], by simpa using before.symm, after.symm⟩
    | cons y others =>
        obtain ⟨rfl, rfl⟩ := List.cons.inj after
        exact .inl ⟨others, before, rfl⟩

/-- A host that follows another by these calls has announced these events, and they lead from the
view of the one to the view of the other.  Each event says what was held just before it, in the
view that the events before it lead to as well as in the store before the call that announced it.
A member is approved right after the change that the approver has made. -/
structure Replays (h : Host) (more : List Call) (events : List Event) : Prop where
  journal : (h.after more).journal = h.journal ++ events
  view : events.foldl View.apply h.store.view = (h.after more).store.view
  each : ∀ earlier e later, events = earlier ++ e :: later →
    e.Fits (earlier.foldl View.apply h.store.view) ∧
    (∀ member approver, e = .memberApproved member approver → ∃ before previous current,
      earlier = before ++ [.standingChanged member previous current approver.text]) ∧
    ∃ before c after, more = before ++ c :: after ∧
      (h.after before).journal <+: h.journal ++ earlier ∧
      h.journal ++ earlier ++ [e] <+: (h.after (before ++ [c])).journal ∧
      e.Fits (h.after before).store.view

theorem Replays.nil (h : Host) : Replays h [] [] where
  journal := (List.append_nil _).symm
  view := rfl
  each earlier e later split := absurd split.symm (by simp)

/-- One call more, with what it announces. -/
theorem Replays.concat {h : Host} {more : List Call} {events own : List Event} {c : Call}
    (before : Replays h more events)
    (journal : (h.after (more ++ [c])).journal = (h.after more).journal ++ own)
    (told : c.Announces (h.after more).store (h.after (more ++ [c])).store own) :
    Replays h (more ++ [c]) (events ++ own) where
  journal := by rw [journal, before.journal, List.append_assoc]
  view := by rw [List.foldl_append, before.view, told.replay]
  each := by
    intro earlier e later split
    rcases split_append split with ⟨rest, old, rfl⟩ | ⟨rest, rfl, fromOwn⟩
    · obtain ⟨fits, approved, prior, d, after, rfl, sooner, upTo, held⟩ :=
        before.each earlier e rest old
      exact ⟨fits, approved, prior, d, after ++ [c], by simp, sooner, upTo, held⟩
    · -- The event is one of the last call.
      obtain ⟨held, fits, approved⟩ := told.fits fromOwn
      refine ⟨?_, ?_, more, c, [], rfl, ?_, ?_, held⟩
      · rw [List.foldl_append, before.view]
        exact fits
      · intro member approver same
        obtain ⟨previous, current, rfl⟩ := approved member approver same
        exact ⟨events, previous, current, rfl⟩
      · rw [before.journal, ← List.append_assoc]
        exact List.prefix_append _ _
      · refine ⟨later, ?_⟩
        rw [journal, before.journal, fromOwn]
        simp

/-- From any time of a session on, and as long as no founding is called, the journal goes on with
events that a copy of the electorate can be kept by: each of them fits, and together they lead to
the standings, the guardian list and the weight that are there in the end. -/
theorem journal_replays (calls more : List Call) (unfounding : ∀ genesis, .found genesis ∉ more) :
    ∃ events, Replays (Host.fresh.after calls) more events := by
  induction more using List.reverseRecOn with
  | nil => exact ⟨[], .nil _⟩
  | append_singleton more c ih =>
      obtain ⟨events, before⟩ := ih fun genesis inside =>
        unfounding genesis (List.mem_append_left _ inside)
      have step : (Host.fresh.after calls).after (more ++ [c]) =
          (c.act.runOn ((Host.fresh.after calls).after more)).2 := Host.after_append ..
      have start : Holds (Store.Coherent False) ((Host.fresh.after calls).after more) := by
        rw [← Host.after_append]
        exact Store.Coherent.fresh_after _
      have other : ∀ genesis, c ≠ .found genesis := by
        rintro genesis rfl
        exact unfounding genesis (by simp)
      obtain ⟨own, journal, told⟩ := c.announces start other
      rw [← step] at journal told
      exact ⟨events ++ own, before.concat journal told⟩

/-- Two founders admit a third member and change the weight; a tally and a repeated approval have
nothing to tell. -/
def pairContinued : List Call :=
  [.enroll "civ_three" none, .approve "civ_one" "civ_three", .tally .default ⟨1⟩,
   .approve "civ_one" "civ_three", .enact ⟨"all", "", "civ_one", .setWeight .one⟩]

theorem journal_replays_pair :
    Replays (Host.fresh.after [.found .pair]) pairContinued
      [.memberEnrolled ⟨"civ_three"⟩,
        .standingChanged ⟨"civ_three"⟩ .pendingApproval .electorate "civ_one",
        .memberApproved ⟨"civ_three"⟩ ⟨"civ_one"⟩, .weightChanged .half .one] := by
  obtain ⟨events, replays⟩ := journal_replays [.found .pair] pairContinued (by simp [pairContinued])
  have told : ((Host.fresh.after [.found .pair]).after pairContinued).journal =
      (Host.fresh.after [.found .pair]).journal ++
        [.memberEnrolled ⟨"civ_three"⟩,
          .standingChanged ⟨"civ_three"⟩ .pendingApproval .electorate "civ_one",
          .memberApproved ⟨"civ_three"⟩ ⟨"civ_one"⟩, .weightChanged .half .one] := by
    decide +kernel
  have same := List.append_cancel_left (replays.journal.symm.trans told)
  rwa [same] at replays

end Suffrage
