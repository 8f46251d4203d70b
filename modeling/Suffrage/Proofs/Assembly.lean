/-
# Suffrage.Proofs.Assembly -- what the calls of a session keep

Every call leaves a coherent store coherent, whatever it answers.  The changes of the roll
do so one by one, and a motion does because it makes all of its checks before its first
write.  Only the founding writes in steps that may stop half-way: the settings are written
first and list nobody, founders are then admitted without flags, and the flags and the list
come last, when all admissions have succeeded (`Store.Admitted`).

So whoever asks for the guardians gets the stored list, at any time of a session.
-/
import Suffrage.Proofs.Coherence

namespace Suffrage

set_option autoImplicit false

open Suffrage.Action (Holds Keeps)

/-! ## Changes of the roll that succeed -/

namespace Roll

variable {s : Store} {journal : List Event} {h : Host} {m : Member}

theorem of_enroll_ok {a : Address} (run : (enroll a).runOn ⟨s, [], journal⟩ = (.ok m, h)) :
    s.member? a = none ∧ m = .pending a ∧ h.outages = [] ∧ h.store = s.enrolled a := by
  rw [runOn_enroll] at run
  split at run
  · cases run
  · rename_i new
    split at run
    · cases run
    · split at run
      · cases run
      · cases run
        exact ⟨by simpa [Store.hasMember_eq] using new, rfl, rfl, rfl⟩

theorem of_transition_ok {a : Address} {next : Standing} {operator : String}
    (run : (transition a next operator).runOn ⟨s, [], journal⟩ = (.ok m, h)) :
    ∃ r, s.member? a = some r ∧ h.outages = [] ∧ h.store = s.moved r.normalized next := by
  rw [runOn_transition] at run
  cases found : s.member? a with
  | none =>
      rw [found] at run
      cases run
  | some r =>
      rw [found] at run
      simp only at run
      split at run
      · cases run
      · split at run
        · cases run
        · split at run
          · cases run
          · cases run
            exact ⟨r, rfl, rfl, rfl⟩

end Roll

namespace Assembly

/-- A successful enrolment adds one pending member and perhaps a nickname. -/
theorem of_enroll_ok {s : Store} {journal : List Event} {h : Host} {address : String}
    {nickname : Option String} {m : Member}
    (run : (enroll address nickname).runOn ⟨s, [], journal⟩ = (.ok m, h)) :
    s.member? m.address = none ∧ h.outages = [] ∧ h.store.settings? = s.settings? ∧
    ∀ b, h.store.member? b =
      if m.address = b then some (.pending m.address) else s.member? b := by
  obtain ⟨a, u, parsed, run⟩ := Action.of_bind_ok run
  cases (congrArg Prod.snd parsed : (⟨s, [], journal⟩ : Host) = u)
  obtain ⟨r, ⟨t, outages, journal'⟩, enrolled, run⟩ := Action.of_bind_ok run
  obtain ⟨fresh, rfl, rfl, written⟩ := Roll.of_enroll_ok enrolled
  simp only at written
  subst written
  cases named : nickname.filter (!·.isEmpty) with
  | none =>
      rw [named] at run
      cases run
      exact ⟨fresh, rfl, s.settings?_enrolled a, s.member?_enrolled a⟩
  | some text =>
      rw [named] at run
      simp only [Action.runOn_bind, Roll.runOn_setNickname] at run
      split at run
      · cases run
        refine ⟨fresh, rfl, ?_, fun b => ?_⟩
        · exact (Store.settings?_insert ..).trans (s.settings?_enrolled a)
        · exact (Store.member?_insert ..).trans (s.member?_enrolled a b)
      · cases run

end Assembly

/-! ## Admission of the founders -/

namespace Store

/-- The addresses are new members of the electorate; all else is as before. -/
structure Admitted (s t : Store) (addresses : List Address) : Prop where
  fresh : ∀ a ∈ addresses, s.member? a = none
  distinct : addresses.Nodup
  eligible : ∀ a ∈ addresses, t.Eligible a
  others : ∀ a, a ∉ addresses → t.member? a = s.member? a
  settings? : t.settings? = s.settings?

namespace Admitted

variable {s t u : Store}

theorem nil (s : Store) : Admitted s s [] where
  fresh := by simp
  distinct := List.nodup_nil
  eligible := by simp
  others _ _ := rfl
  settings? := rfl

/-- A new member is pending first, and moves into the electorate next. -/
theorem one {a : Address} (fresh : s.member? a = none)
    (records : ∀ b, t.member? b = if a = b then some (.pending a) else s.member? b)
    (settings? : t.settings? = s.settings?) :
    Admitted s (t.moved (Member.pending a).normalized .electorate) [a] where
  fresh := by simpa using fresh
  distinct := by simp
  eligible b here := by
    rw [List.mem_singleton] at here
    subst here
    refine ⟨{ Member.pending b with standing := .electorate }, ?_, rfl, rfl⟩
    rw [member?_moved]
    exact if_pos rfl
  others b apart := by
    rw [List.mem_singleton] at apart
    have elsewhere : a ≠ b := Ne.symm apart
    rw [member?_moved, records, if_neg elsewhere]
    exact if_neg elsewhere
  settings? := (settings?_moved _ _ _).trans settings?

theorem cons {a : Address} {rest : List Address} (first : Admitted s t [a])
    (later : Admitted t u rest) : Admitted s u (a :: rest) := by
  obtain ⟨m, found, active, unflagged⟩ := first.eligible a (by simp)
  have outside : a ∉ rest := by
    intro inside
    rw [later.fresh a inside] at found
    cases found
  refine ⟨?_, List.nodup_cons.2 ⟨outside, later.distinct⟩, ?_, ?_,
    later.settings?.trans first.settings?⟩
  · intro b inside
    rcases List.mem_cons.1 inside with rfl | inRest
    · exact first.fresh b (by simp)
    · have apart : b ∉ [a] := by
        intro here
        rw [List.mem_singleton] at here
        subst here
        exact outside inRest
      rw [← first.others b apart]
      exact later.fresh b inRest
  · intro b inside
    rcases List.mem_cons.1 inside with rfl | inRest
    · exact ⟨m, (later.others b outside).trans found, active, unflagged⟩
    · exact later.eligible b inRest
  · intro b outside
    rw [List.mem_cons, not_or] at outside
    rw [later.others b outside.2, first.others b (by simpa using outside.1)]

end Admitted

end Store

namespace Assembly

/-- If all founders are admitted, each of them is a new member of the electorate. -/
theorem of_admitAll_ok {founders : List Founder} {s : Store} {journal : List Event} {h : Host}
    {admitted : List Address}
    (run : (admitAll founders).runOn ⟨s, [], journal⟩ = (.ok admitted, h)) :
    h.outages = [] ∧ s.Admitted h.store admitted ∧ admitted.length = founders.length := by
  induction founders generalizing s journal admitted with
  | nil =>
      cases run
      exact ⟨rfl, .nil s, rfl⟩
  | cons founder rest ih =>
      obtain ⟨m, ⟨t, outages, journal'⟩, enrolled, run⟩ := Action.of_bind_ok run
      obtain ⟨fresh, rfl, settings, records⟩ := of_enroll_ok enrolled
      obtain ⟨m', ⟨u, outages, journal''⟩, moved, run⟩ := Action.of_bind_ok run
      obtain ⟨r, found, rfl, rfl⟩ := Roll.of_transition_ok moved
      obtain ⟨others, h', later, run⟩ := Action.of_bind_ok run
      cases run
      obtain ⟨quiet, after, length⟩ := ih later
      rw [records, if_pos rfl] at found
      cases found
      exact ⟨quiet, (Store.Admitted.one fresh records settings).cons after, by simp [length]⟩

end Assembly

/-! ## What each call keeps -/

namespace Store.Coherent

variable {founded : Prop}

theorem keeps_enroll (a : Address) : Keeps (Coherent founded) (Roll.enroll a) :=
  Roll.keeps_enroll_of fun _ coherent => coherent.enrolled

theorem keeps_transition (a : Address) (next : Standing) (operator : String) :
    Keeps (Coherent founded) (Roll.transition a next operator) :=
  Roll.keeps_transition_of (fun _ coherent => coherent.counted) fun _ _ coherent => coherent.moved

theorem keeps_setNickname (a : Address) (text : String) :
    Keeps (Coherent founded) (Roll.setNickname a text) :=
  Roll.keeps_setNickname_of fun _ coherent _ => coherent.putNickname a text

theorem keeps_enact (motion : Motion) : Keeps (Coherent founded) motion.enact := by
  unfold Motion.enact
  cases motion.demand with
  | addGuardians raw =>
      refine .intro fun s journal coherent => ?_
      refine (Motion.decides_addGuardians s journal motion.creator raw).holds coherent ?_
      rintro ⟨-, -, eligible, settled⟩
      exact coherent.attached settled eligible
  | removeGuardians raw =>
      refine .intro fun s journal coherent => ?_
      refine (Motion.decides_removeGuardians s journal motion.creator raw).holds coherent ?_
      rintro ⟨-, -, -, settled, spares⟩
      exact coherent.detached settled spares
  | setWeight weight =>
      refine Keeps.bind (.intro fun s journal coherent => ?_) fun _ => .pure _
      refine (Motion.decides_setWeight s journal motion.creator weight).holds coherent ?_
      rintro ⟨-, range, -⟩
      exact coherent.reweighted range

end Store.Coherent

/-! ## The founding -/

/-- A genesis that passes its check names a guardian. -/
theorem Genesis.guardians_ne_nil {genesis : Genesis} (valid : genesis.validate = .ok ()) :
    genesis.guardians ≠ [] := by
  intro none_
  unfold validate at valid
  cases range : genesis.weight.isPositiveFraction <;>
    simp [range, none_] at valid

theorem Store.listed_attached_ne_nil (s : Store) {batch : List Address} (some_ : batch ≠ []) :
    (s.attached batch).listed ≠ [] := by
  obtain ⟨a, inside⟩ := List.exists_mem_of_ne_nil _ some_
  refine List.ne_nil_of_mem (a := a) ?_
  rw [attached, listed_putSettings, Settings.mem_add]
  exact .inr inside

namespace Assembly

open Store (Coherent)

/-- The admissions may stop half-way; the first of the founders are appointed only after all
of them. -/
theorem appoint_coherent {founded : Prop} {s : Store} (journal : List Event)
    (coherent : s.Coherent founded) (settled : s.settings?.isSome = true)
    {founders : List Founder} {count : Nat} (positive : 0 < count)
    (enough : count ≤ founders.length) :
    let run := (admitAll founders >>= fun admitted => Guardians.attach (admitted.take count)).runOn
      ⟨s, [], journal⟩
    Holds (Coherent founded) run.2 ∧ (run.1 = .ok () → run.2.store.listed ≠ []) := by
  intro run
  have kept := Keeps.admitAll Coherent.keeps_enroll Coherent.keeps_transition
    Coherent.keeps_setNickname founders ⟨s, [], journal⟩ ⟨rfl, coherent⟩
  have whole : run = Action.andThen (fun admitted => Guardians.attach (admitted.take count))
    ((admitAll founders).runOn ⟨s, [], journal⟩) := Action.runOn_bind ..
  rw [whole]
  cases admission : (admitAll founders).runOn ⟨s, [], journal⟩ with
  | mk result h =>
      rw [admission] at kept
      cases result with
      | error e => exact ⟨kept, fun ok => by cases ok⟩
      | ok admitted =>
          obtain ⟨-, after, length⟩ := of_admitAll_ok admission
          obtain ⟨t, outages, journal'⟩ := h
          obtain ⟨rfl, coherent'⟩ := kept
          have eligible : ∀ a ∈ admitted.take count, t.Eligible a := fun a inside =>
            after.eligible a (List.mem_of_mem_take inside)
          have held : ∀ a ∈ admitted.take count, (t.member? a).isSome := fun a inside => by
            obtain ⟨m, found, -⟩ := eligible a inside
            simp [found]
          have settled' : t.settings?.isSome = true := after.settings? ▸ settled
          have some_ : admitted.take count ≠ [] := by
            rw [← List.length_pos_iff, List.length_take]
            omega
          rw [Action.andThen_ok, Guardians.runOn_attach t journal' settled' held]
          exact ⟨⟨rfl, coherent'.attached settled' eligible⟩,
            fun _ => t.listed_attached_ne_nil some_⟩

/-- A founding keeps the store coherent at every step; if it succeeds, someone is listed. -/
theorem found_coherent {founded : Prop} (genesis : Genesis) {s : Store} (journal : List Event)
    (coherent : s.Coherent founded) :
    Holds (Coherent founded) ((found genesis).runOn ⟨s, [], journal⟩).2 ∧
      (((found genesis).runOn ⟨s, [], journal⟩).1 = .ok () →
        ((found genesis).runOn ⟨s, [], journal⟩).2.store.listed ≠ []) := by
  simp only [found, Action.runOn_bind, Action.runOn_lift]
  cases valid : genesis.validate with
  | error e => exact ⟨⟨rfl, coherent⟩, fun ok => by cases ok⟩
  | ok _ =>
      simp only [Result.mapError_ok, Action.andThen_ok, Action.runOn_bind,
        Guardians.runOn_isInitialized]
      cases unset_ : s.settings? with
      | some record => exact ⟨⟨rfl, coherent⟩, fun ok => by cases ok⟩
      | none =>
          simp only [Option.isSome_none, Bool.false_eq_true, if_false, Action.runOn_bind,
            Guardians.runOn_setUp]
          cases range : genesis.weight.isPositiveFraction with
          | false => exact ⟨⟨rfl, coherent⟩, fun ok => by cases ok⟩
          | true =>
              have start := coherent.setUp unset_ range
              have some_ := Genesis.guardians_ne_nil valid
              have settled := congrArg Option.isSome
                (s.settings?_putSettings (.fresh genesis.weight))
              refine appoint_coherent journal start settled (List.length_pos_iff.2 some_) ?_
              simp [Genesis.founders]

end Assembly

/-! ## Sessions -/

namespace Store.Coherent

variable {founded : Prop}

theorem keeps_call (c : Call) : Keeps (Coherent founded) c.act := by
  cases c with
  | found genesis =>
      exact .intro fun s journal coherent =>
        (Assembly.found_coherent genesis journal coherent).1
  | enroll address nickname =>
      exact (Keeps.assemblyEnroll keeps_enroll keeps_setNickname address nickname).bind
        fun _ => .pure _
  | approve approver member =>
      exact (Keeps.approve keeps_transition approver member).bind fun _ => .pure _
  | enact motion => exact (keeps_enact motion).bind fun _ => .pure _
  | tally rules proposal =>
      refine (Keeps.tally fun s _ ballot _ => ?_).bind fun _ => .pure _
      exact fun t coherent => coherent.of_sameRoll (SameRoll.mark t proposal ballot.voter)
  | cast ballot =>
      exact fun h holds => ⟨holds.1, holds.2.of_sameRoll (SameRoll.cast h.store ballot)⟩
  | sweep proposal =>
      exact fun h holds => ⟨holds.1, holds.2.of_sameRoll (SameRoll.sweep h.store proposal)⟩

/-- Coherence outlives any calls. -/
theorem after (calls : List Call) {h : Host} (start : Holds (Coherent founded) h) :
    Holds (Coherent founded) (h.after calls) :=
  holds_after (fun c _ => keeps_call c) start

theorem fresh_after (calls : List Call) : Holds (Coherent False) (Host.fresh.after calls) :=
  after calls ⟨rfl, .empty⟩

/-- The confirmed guardians are the listed ones. -/
theorem runOn_confirmed {s : Store} {record : Settings} (coherent : s.Coherent founded)
    (found : s.settings? = some record) (journal : List Event) :
    Guardians.confirmed.runOn ⟨s, [], journal⟩ = (.ok record.guardians, ⟨s, [], journal⟩) := by
  have all : record.guardians.filter s.isGuardian = record.guardians := by
    refine List.filter_eq_self.2 fun a inside => (coherent.listed_iff a).1 ?_
    rwa [listed_of_settings? found]
  rw [Guardians.runOn_confirmed, found]
  simp only [all]

/-- There is nothing to reconcile. -/
theorem runOn_reconcile {s : Store} {record : Settings} (coherent : s.Coherent founded)
    (found : s.settings? = some record) (journal : List Event) :
    Guardians.reconcile.runOn ⟨s, [], journal⟩ = (.ok [], ⟨s, [], journal⟩) := by
  have dropped : (record.guardians.filter fun a => !s.isGuardian a) = [] := by
    refine List.filter_eq_nil_iff.2 fun a inside => ?_
    have serves := (coherent.listed_iff a).1 (listed_of_settings? found ▸ inside)
    simp [serves]
  rw [Guardians.runOn_reconcile, found]
  simp [dropped]

end Store.Coherent

/-- Whatever the calls and their answers: the stored list has no duplicates and names
exactly the flagged members of the electorate, nobody else carries a flag, and every way to
ask for the guardians agrees with the list. -/
theorem guardian_list_exact (calls : List Call) :
    let h := Host.fresh.after calls
    (∀ record, h.store.settings? = some record →
      record.guardians.Nodup ∧
      (∀ a, a ∈ record.guardians ↔
        ∃ m, h.store.member? a = some m ∧ m.isGuardian = true ∧ m.standing = .electorate) ∧
      Guardians.confirmed.runOn h = (.ok record.guardians, h) ∧
      Guardians.reconcile.runOn h = (.ok [], h) ∧
      ∀ a, (Guardians.isGuardian a).runOn h = (.ok (decide (a ∈ record.guardians)), h)) ∧
    ∀ a m, h.store.member? a = some m → m.isGuardian = true → m.standing = .electorate := by
  intro h
  have holds : Holds (Store.Coherent False) h := Store.Coherent.fresh_after calls
  clear_value h
  obtain ⟨s, outages, journal⟩ := h
  obtain ⟨rfl, coherent⟩ := holds
  refine ⟨fun record found => ?_, coherent.backed⟩
  have listed : s.listed = record.guardians := Store.listed_of_settings? found
  have serves (a : Address) : a ∈ record.guardians ↔ s.isGuardian a = true :=
    listed ▸ coherent.listed_iff a
  refine ⟨listed ▸ coherent.distinct, fun a => (serves a).trans Store.isGuardian_iff,
    coherent.runOn_confirmed found journal, coherent.runOn_reconcile found journal, fun a => ?_⟩
  rw [Guardians.runOn_isGuardian]
  congr 2
  exact Bool.eq_iff_iff.2 (by simp [serves])

end Suffrage
