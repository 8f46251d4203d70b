/-
# Suffrage.Proofs.Lifecycle -- the way of a member into the electorate

An address comes onto the roll by an enrolment and into the electorate by a promotion, and there
is no third change of a standing.  `Leads` says that events take a register of standings from one
state to another in such steps, each announced as it is made.  Every call leads from the register
that it finds to the one that it leaves (`Call.leads`), a founding that breaks off included.

What the journal says of one address is therefore determined by its standing (`Trail`): nothing,
an enrolment, or an enrolment and a promotion.  Two calls promote (`Call.Promotes`):

* a founding, for its founders;
* an approval by a guardian, who is in the electorate already and so never the one promoted.

The promotion that the journal has for a member leads back to the call that made it
(`promoted_by_call`).
-/
import Suffrage.Proofs.Journal

namespace Suffrage

set_option autoImplicit false

open Suffrage.Action (Holds)

/-- Whether the event tells of the standing of the address. -/
def Event.concerns (a : Address) : Event → Bool
  | .memberEnrolled b => b == a
  | .standingChanged b _ _ _ => b == a
  | _ => false

/-! ## Registers of standings -/

/-- The events enrol new addresses and promote pending ones, one after another; an event that
concerns no address changes nothing. -/
inductive Leads : Register → List Event → Register → Prop where
  | done (r : Register) : Leads r [] r
  | enrol {r t : Register} {a : Address} {events : List Event} (fresh : r a = none)
      (later : Leads (r.put a .pendingApproval) events t) :
      Leads r (.memberEnrolled a :: events) t
  | promote {r t : Register} {a : Address} {operator : String} {events : List Event}
      (pending : r a = some .pendingApproval) (later : Leads (r.put a .electorate) events t) :
      Leads r (.standingChanged a .pendingApproval .electorate operator :: events) t
  | other {r t : Register} {e : Event} {events : List Event}
      (apart : ∀ a, e.concerns a = false) (later : Leads r events t) : Leads r (e :: events) t

namespace Leads

variable {r t u : Register} {events more : List Event}

theorem append (first : Leads r events t) (second : Leads t more u) :
    Leads r (events ++ more) u := by
  induction first with
  | done r => exact second
  | enrol fresh _ ih => exact .enrol fresh (ih second)
  | promote pending _ ih => exact .promote pending (ih second)
  | other apart _ ih => exact .other apart (ih second)

/-- Who is on the register stays on it, and moves forward if at all. -/
theorem keeps (leads : Leads r events t) {a : Address} {standing : Standing}
    (held : r a = some standing) :
    t a = some standing ∨ standing = .pendingApproval ∧ t a = some .electorate := by
  induction leads generalizing standing with
  | done r => exact .inl held
  | @enrol r t b events fresh _ ih =>
      have apart : b ≠ a := by
        rintro rfl
        rw [fresh] at held
        cases held
      exact ih ((r.put_of_ne apart).trans held)
  | @promote r t b operator events pending _ ih =>
      by_cases here : b = a
      · subst here
        rw [pending] at held
        cases held
        rcases ih (r.put_self b .electorate) with now | ⟨moved, -⟩
        · exact .inr ⟨rfl, now⟩
        · cases moved
      · exact ih ((r.put_of_ne here).trans held)
  | other _ _ ih => exact ih held

/-- A record is kept, under its address. -/
theorem keeps_record {s s' : Store} (leads : Leads s.register events s'.register) {a : Address}
    {m : Member} (found : s.member? a = some m) :
    ∃ m', s'.member? a = some m' ∧ m'.address = a ∧
      (m'.standing = m.standing ∨ m.standing = .pendingApproval ∧ m'.standing = .electorate) := by
  have kept : ∃ now, s'.register a = some now ∧
      (now = m.standing ∨ m.standing = .pendingApproval ∧ now = .electorate) := by
    rcases leads.keeps (Store.register_of_member? found) with now | ⟨pending, now⟩
    · exact ⟨_, now, .inl rfl⟩
    · exact ⟨_, now, .inr ⟨pending, rfl⟩⟩
  obtain ⟨now, registered, moved⟩ := kept
  obtain ⟨m', found', rfl⟩ := Option.map_eq_some_iff.1 registered
  exact ⟨m', found', Store.address_of_member? found', moved⟩

end Leads

/-! ## The trail of an address -/

/-- What the journal says of an address of this standing. -/
inductive Trail (a : Address) : Option Standing → List Event → Prop where
  | absent : Trail a none []
  | enrolled : Trail a (some .pendingApproval) [.memberEnrolled a]
  | promoted (operator : String) : Trail a (some .electorate)
      [.memberEnrolled a, .standingChanged a .pendingApproval .electorate operator]

namespace Trail

variable {a : Address} {events : List Event}

theorem standing_cases {standing : Standing} (trail : Trail a (some standing) events) :
    standing = .pendingApproval ∨ standing = .electorate := by
  cases trail with
  | enrolled => exact .inl rfl
  | promoted operator => exact .inr rfl

theorem of_electorate (trail : Trail a (some .electorate) events) : ∃ operator,
    events = [.memberEnrolled a, .standingChanged a .pendingApproval .electorate operator] := by
  cases trail with
  | promoted operator => exact ⟨operator, rfl⟩

end Trail

/-- Whatever leads from one register to another goes on with every trail. -/
theorem Leads.trail {r t : Register} {events past : List Event} {a : Address}
    (leads : Leads r events t) (before : Trail a (r a) past) :
    Trail a (t a) (past ++ events.filter (·.concerns a)) := by
  induction leads generalizing past with
  | done r => simpa using before
  | @enrol r t b events fresh _ ih =>
      by_cases here : b = a
      · subst here
        rw [fresh] at before
        cases before
        have now : Trail b (r.put b .pendingApproval b) [.memberEnrolled b] := by
          rw [Register.put_self]
          exact .enrolled
        simpa [Event.concerns] using ih now
      · rw [← r.put_of_ne here] at before
        simpa [Event.concerns, here] using ih before
  | @promote r t b operator events pending _ ih =>
      by_cases here : b = a
      · subst here
        rw [pending] at before
        cases before
        have now : Trail b (r.put b .electorate b)
            [.memberEnrolled b, .standingChanged b .pendingApproval .electorate operator] := by
          rw [Register.put_self]
          exact .promoted operator
        simpa [Event.concerns] using ih now
      · rw [← r.put_of_ne here] at before
        simpa [Event.concerns, here] using ih before
  | other apart _ ih =>
      rw [List.filter_cons_of_neg]
      · exact ih before
      · simp [apart a]

/-! ## Foundings -/

namespace Assembly

variable {s : Store} (journal : List Event)

theorem register_seated (s : Store) (f : Founder) :
    (s.seated f).register =
      (s.register.put f.member .pendingApproval).put f.member .electorate := by
  have named : ((s.enrolled f.member).named f.member f.nickname).register =
      (s.enrolled f.member).register := congrArg View.standing (Store.view_named ..)
  rw [Store.seated, Store.register_moved, named, Store.register_enrolled]
  rfl

/-- Founders are admitted in two steps each; wherever the admission breaks off, it has announced
what it has done. -/
theorem admitAll_leads (founders : List Founder) (counted : s.Counted) :
    ∃ t own, ((admitAll founders).runOn ⟨s, [], journal⟩).2 = ⟨t, [], journal ++ own⟩ ∧
      Leads s.register own t.register ∧
      ∀ a previous current operator, .standingChanged a previous current operator ∈ own →
        operator = genesisOperator := by
  induction founders generalizing s journal with
  | nil => exact ⟨s, [], by simp [admitAll], .done _, by simp⟩
  | cons f rest ih =>
      obtain ⟨⟨fresh, -⟩, counted', run⟩ | ⟨-, e, run⟩ :=
        admitAll_cons_cases journal counted f rest
      · obtain ⟨t, own, left, leads, named⟩ := ih (journal ++ f.events) counted'
        refine ⟨t, f.events ++ own, ?_, ?_, ?_⟩
        · rw [run, Action.snd_andThen_pure, left, List.append_assoc]
        · rw [register_seated] at leads
          exact .enrol (Store.register_of_absent fresh) (.promote (Register.put_self ..) leads)
        · intro a previous current operator inside
          rcases List.mem_append.1 inside with first | later
          · have own : a = f.member ∧ previous = .pendingApproval ∧ current = .electorate ∧
                operator = genesisOperator := by simpa [Founder.events] using first
            exact own.2.2.2
          · exact named a previous current operator later
      · rw [run]
        exact ⟨s, [], by simp, .done _, by simp⟩

/-- Whatever becomes of a founding, it has announced the standings that it leaves. -/
theorem found_leads {founded : Prop} (coherent : s.Coherent founded) (genesis : Genesis) :
    ∃ t own, ((found genesis).runOn ⟨s, [], journal⟩).2 = ⟨t, [], journal ++ own⟩ ∧
      Leads s.register own t.register ∧
      ∀ a previous current operator, .standingChanged a previous current operator ∈ own →
        operator = genesisOperator := by
  by_cases begins : genesis.validate = .ok () ∧ s.settings? = none
  · have counted := coherent.counted.putSettings (Settings.fresh genesis.weight)
    obtain ⟨t, own, left, leads, named⟩ :=
      admitAll_leads (s := s.putSettings (.fresh genesis.weight)) journal genesis.founders counted
    rw [Store.register_putSettings] at leads
    rw [runOn_found journal begins.1 begins.2]
    cases run : (admitAll genesis.founders).runOn
        ⟨s.putSettings (.fresh genesis.weight), [], journal⟩ with
    | mk result u =>
        rw [run] at left
        cases left
        cases result with
        | error e => exact ⟨t, own, rfl, leads, named⟩
        | ok admitted =>
            obtain ⟨-, after, -⟩ := of_admitAll_ok run
            have settled : t.settings?.isSome = true := by
              rw [after.settings?, Store.settings?_putSettings]
              rfl
            have held : ∀ a ∈ admitted.take genesis.guardians.length, (t.member? a).isSome := by
              intro a inside
              obtain ⟨m, found, -⟩ := after.eligible a (List.mem_of_mem_take inside)
              simp [found]
            refine ⟨t.attached (admitted.take genesis.guardians.length), own, ?_, ?_, named⟩
            · rw [Action.andThen_ok, Guardians.runOn_attach _ _ settled held]
            · rw [Store.attached, Store.register_putSettings, Store.register_flagged]
              exact leads
  · obtain ⟨e, run⟩ := found_refused journal begins
    rw [run]
    exact ⟨s, [], by simp, .done _, by simp⟩

end Assembly

/-! ## One call -/

/-- The call, which announces `own`, moves `a` into the electorate in the name of this operator: it
founds the electorate, or it approves `a` for a confirmed guardian other than `a`. -/
inductive Call.Promotes (h : Host) (own : List Event) (a : Address) (operator : String) :
    Call → Prop where
  | founding {genesis : Genesis} (named : operator = Assembly.genesisOperator) :
      Promotes h own a operator (.found genesis)
  | approval {guardians : List Address}
      (confirmed : Guardians.confirmed.runOn h = (.ok guardians, h))
      (serves : ⟨operator⟩ ∈ guardians) (apart : ⟨operator⟩ ≠ a)
      (announced : own = [.standingChanged a .pendingApproval .electorate operator,
        .memberApproved a ⟨operator⟩]) :
      Promotes h own a operator (.approve operator a.text)

/-- What a call other than a founding announces leads from register to register. -/
theorem Call.Announces.leads {s t : Store} {c : Call} {own : List Event}
    (told : c.Announces s t own) : Leads s.register own t.register := by
  have standing : (own.foldl View.apply s.view).standing = t.register :=
    congrArg View.standing told.replay
  rw [← standing]
  cases told with
  | nothing _ => exact .done _
  | enrolment fresh _ => exact .enrol fresh (.done _)
  | approval _ pending _ => exact .promote pending (.other (fun _ => rfl) (.done _))
  | appointment _ => exact .other (fun _ => rfl) (.done _)
  | dismissal _ => exact .other (fun _ => rfl) (.done _)
  | reweighting _ _ => exact .other (fun _ => rfl) (.done _)

/-- A guardian is confirmed, and is not somebody who waits for approval. -/
theorem Store.Coherent.promotes {founded : Prop} {s : Store} (coherent : s.Coherent founded)
    (journal : List Event) {approver : String} {a : Address}
    (guardian : s.isGuardian ⟨approver⟩ = true) (pending : s.register a = some .pendingApproval) :
    (Call.approve approver a.text).Promotes ⟨s, [], journal⟩
      [.standingChanged a .pendingApproval .electorate approver, .memberApproved a ⟨approver⟩]
      a approver := by
  have listed := (coherent.listed_iff ⟨approver⟩).2 guardian
  have settled := (coherent.strengthen (List.ne_nil_of_mem listed)).settings?_isSome
  refine .approval (coherent.runOn_confirmed (settings?_of_isSome settled) journal) listed ?_ rfl
  rintro rfl
  obtain ⟨m, found, -, active⟩ := isGuardian_iff.1 guardian
  rw [register_of_member? found] at pending
  cases active.symm.trans (Option.some.inj pending)

/-- Every call leads from the register that it finds to the one that it leaves, and makes the
promotions that it announces. -/
theorem Call.leads {founded : Prop} {h : Host} (start : Holds (Store.Coherent founded) h)
    (c : Call) :
    ∃ own, (c.act.runOn h).2.journal = h.journal ++ own ∧
      Leads h.store.register own (c.act.runOn h).2.store.register ∧
      ∀ a previous current operator, .standingChanged a previous current operator ∈ own →
        c.Promotes h own a operator := by
  by_cases founding : ∃ genesis, c = .found genesis
  · obtain ⟨genesis, rfl⟩ := founding
    obtain ⟨s, outages, journal⟩ := h
    obtain ⟨rfl, coherent⟩ := start
    obtain ⟨t, own, left, leads, named⟩ := Assembly.found_leads journal coherent genesis
    have run : ((Call.found genesis).act.runOn ⟨s, [], journal⟩).2 = ⟨t, [], journal ++ own⟩ := left
    rw [run]
    exact ⟨own, rfl, leads, fun a previous current operator inside =>
      .founding (named a previous current operator inside)⟩
  · have other : ∀ genesis, c ≠ .found genesis := fun genesis same => founding ⟨genesis, same⟩
    obtain ⟨own, journal, told⟩ := c.announces start other
    refine ⟨own, journal, told.leads, ?_⟩
    intro a previous current operator inside
    cases told with
    | approval guardian pending _ =>
        simp only [List.mem_cons, Event.standingChanged.injEq, reduceCtorEq, List.not_mem_nil,
          or_false] at inside
        obtain ⟨rfl, -, -, rfl⟩ := inside
        obtain ⟨s, outages, past⟩ := h
        obtain ⟨rfl, coherent⟩ := start
        exact coherent.promotes past guardian pending
    | _ => simp at inside

/-! ## Sessions -/

/-- At any time of a session, the calls that follow lead on from its register. -/
theorem Host.leads_after {founded : Prop} {h : Host} (start : Holds (Store.Coherent founded) h)
    (more : List Call) :
    ∃ events, (h.after more).journal = h.journal ++ events ∧
      Leads h.store.register events (h.after more).store.register := by
  induction more generalizing h with
  | nil => exact ⟨[], by simp [Host.after], .done _⟩
  | cons c rest ih =>
      obtain ⟨own, journal, leads, -⟩ := c.leads start
      obtain ⟨events, journal', leads'⟩ := ih (Store.Coherent.keeps_call c h start)
      refine ⟨own ++ events, ?_, leads.append leads'⟩
      rw [← List.append_assoc, ← journal]
      exact journal'

/-- The journal holds the trail of every address. -/
theorem trail_after (calls : List Call) (a : Address) :
    Trail a ((Host.fresh.after calls).store.register a)
      ((Host.fresh.after calls).journal.filter (·.concerns a)) := by
  have start : Holds (Store.Coherent False) Host.fresh := ⟨rfl, .empty⟩
  obtain ⟨events, journal, leads⟩ := Host.leads_after start calls
  rw [journal]
  exact leads.trail .absent

/-- A promotion in the journal has been announced by a call that made it. -/
theorem promoted_by_call (calls : List Call) {a : Address} {previous current : Standing}
    {operator : String}
    (told : .standingChanged a previous current operator ∈ (Host.fresh.after calls).journal) :
    ∃ before c after own, calls = before ++ c :: after ∧
      (Host.fresh.after (before ++ [c])).journal = (Host.fresh.after before).journal ++ own ∧
      .standingChanged a previous current operator ∈ own ∧
      c.Promotes (Host.fresh.after before) own a operator := by
  induction calls using List.reverseRecOn with
  | nil => cases told
  | append_singleton calls c ih =>
      obtain ⟨own, journal, -, promotes⟩ := c.leads (Store.Coherent.fresh_after calls)
      have step : Host.fresh.after (calls ++ [c]) = (c.act.runOn (Host.fresh.after calls)).2 :=
        Host.after_append ..
      rw [← step] at journal
      rw [journal] at told
      rcases List.mem_append.1 told with old | new
      · obtain ⟨before, d, after, own', rfl, journal', inside, promotes'⟩ := ih old
        exact ⟨before, d, after ++ [c], own', by simp, journal', inside, promotes'⟩
      · exact ⟨calls, c, [], own, rfl, journal, new, promotes a previous current operator new⟩

/-- Over any session: every record stands under its own address, pending or in the electorate.
From any time on, no record is lost, and its standing stays or takes the one step that is left;
new records begin as pending, the step by step account being in the journal.  Of a member of the
electorate the journal has one enrolment and after it one promotion, and nothing else that
concerns its standing.  The promotion was made by the genesis, or by a guardian other than the
member. -/
theorem membership_only_advances (calls : List Call) :
    let h := Host.fresh.after calls
    (∀ a m, h.store.member? a = some m →
      m.address = a ∧ (m.standing = .pendingApproval ∨ m.standing = .electorate)) ∧
    (∀ before after, calls = before ++ after →
      let u := Host.fresh.after before
      (∃ events, h.journal = u.journal ++ events ∧
        Leads u.store.register events h.store.register) ∧
      ∀ a m, u.store.member? a = some m → ∃ m', h.store.member? a = some m' ∧ m'.address = a ∧
        (m'.standing = m.standing ∨
          m.standing = .pendingApproval ∧ m'.standing = .electorate)) ∧
    ∀ a m, h.store.member? a = some m → m.standing = .electorate →
      ∃ operator,
        h.journal.filter (·.concerns a) =
          [.memberEnrolled a, .standingChanged a .pendingApproval .electorate operator] ∧
        ∃ before c after own, calls = before ++ c :: after ∧
          (Host.fresh.after (before ++ [c])).journal = (Host.fresh.after before).journal ++ own ∧
          .standingChanged a .pendingApproval .electorate operator ∈ own ∧
          c.Promotes (Host.fresh.after before) own a operator := by
  intro h
  have trail {a : Address} {m : Member} (found : h.store.member? a = some m) :
      Trail a (some m.standing) (h.journal.filter (·.concerns a)) :=
    Store.register_of_member? found ▸ trail_after calls a
  refine ⟨?_, ?_, ?_⟩
  · intro a m found
    exact ⟨Store.address_of_member? found, (trail found).standing_cases⟩
  · intro before after split u
    obtain ⟨events, journal, leads⟩ :=
      Host.leads_after (Store.Coherent.fresh_after before) after
    have same : u.after after = h := by
      rw [← Host.after_append, ← split]
    rw [same] at journal leads
    exact ⟨⟨events, journal, leads⟩, fun a m found => leads.keeps_record found⟩
  · intro a m found active
    have trail := trail found
    rw [active] at trail
    obtain ⟨operator, told⟩ := trail.of_electorate
    have inside : .standingChanged a .pendingApproval .electorate operator ∈
        h.journal.filter (·.concerns a) := by
      rw [told]
      simp
    exact ⟨operator, told, promoted_by_call calls (List.mem_of_mem_filter inside)⟩

end Suffrage
