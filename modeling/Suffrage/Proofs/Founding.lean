/-
# Suffrage.Proofs.Founding -- what a founding leaves behind

A genesis that passes its check names distinct well-formed addresses, so nothing but the roll
can stop the admission of its founders: an address that has a record already, or a member
counter without room for all of them (`Store.Admits`).  If the roll admits them, they are
admitted one after another, each with its two events (`Assembly.admitAll_cases`).

If it does not, the founding stops half-way.  The settings have been written by then, they
list nobody, and nothing takes them back, so the electorate can never be founded
(`founding_decided`).  Every other refusal comes before the first write.
-/
import Mathlib.Control.Monad.Basic
import Suffrage.Proofs.Assembly

namespace Suffrage

set_option autoImplicit false

open Suffrage.Action (Decides Holds)

/-- The address that a founder has on the roll. -/
def Founder.member (f : Founder) : Address := ⟨f.address⟩

theorem Member.address_pending (a : Address) : (Member.pending a).address = a := rfl

/-- What the admission of a founder announces. -/
def Founder.events (f : Founder) : List Event :=
  [.memberEnrolled f.member,
   .standingChanged f.member .pendingApproval .electorate Assembly.genesisOperator]

/-- Of distinct founders the first has another address than those who follow. -/
theorem Founder.apart_of_nodup {f : Founder} {rest : List Founder}
    (distinct : ((f :: rest).map Founder.member).Nodup) :
    (∀ g ∈ rest, f.member ≠ g.member) ∧ (rest.map Founder.member).Nodup := by
  obtain ⟨outside, distinct'⟩ := List.nodup_cons.1 distinct
  refine ⟨?_, distinct'⟩
  intro g inRest same
  exact outside (same ▸ List.mem_map_of_mem inRest)

/-! ## The genesis -/

namespace Genesis

/-- The founders pass their check exactly if their addresses are well-formed and distinct. -/
theorem checkFounders_decides (seen : List Address) (founders : List Founder) :
    (Motion.IsDistinct seen (founders.map (·.address)) ∧ checkFounders seen founders = .ok ()) ∨
      (¬Motion.IsDistinct seen (founders.map (·.address)) ∧
        ∃ e, checkFounders seen founders = .error e) := by
  induction founders generalizing seen with
  | nil => exact .inl ⟨⟨List.nodup_nil, by simp⟩, rfl⟩
  | cons founder rest ih =>
      rw [List.map_cons, Motion.isDistinct_cons]
      by_cases wellFormed : (⟨founder.address⟩ : Address).isWellFormed = true
      · have parsed := Motion.parse_of_wellFormed wellFormed
        by_cases repeated : (⟨founder.address⟩ : Address) ∈ seen
        · refine .inr ⟨fun all => all.2.1 repeated, ?_⟩
          exact ⟨_, by simp [checkFounders, parsed, repeated]; rfl⟩
        · have step : checkFounders seen (founder :: rest) =
              checkFounders (⟨founder.address⟩ :: seen) rest := by
            simp [checkFounders, parsed, repeated]
          rw [step]
          obtain ⟨distinct, ok⟩ | ⟨fails, error⟩ := ih (⟨founder.address⟩ :: seen)
          · exact .inl ⟨⟨wellFormed, repeated, distinct⟩, ok⟩
          · exact .inr ⟨fun all => fails all.2.2, error⟩
      · obtain ⟨e, parsed⟩ := Motion.parse_of_malformed wellFormed
        refine .inr ⟨fun all => wellFormed all.1, ?_⟩
        exact ⟨_, by simp [checkFounders, parsed]; rfl⟩

/-- What a valid genesis says of its founders. -/
structure Sound (genesis : Genesis) : Prop where
  range : genesis.weight.isPositiveFraction = true
  distinct : (genesis.founders.map Founder.member).Nodup
  wellFormed : ∀ f ∈ genesis.founders, f.member.isWellFormed = true

theorem sound_of_validate {genesis : Genesis} (valid : genesis.validate = .ok ()) :
    genesis.Sound := by
  unfold validate at valid
  cases range : genesis.weight.isPositiveFraction with
  | false => simp [range] at valid
  | true =>
      cases none_ : genesis.guardians.isEmpty with
      | true => simp [range, none_] at valid
      | false =>
          cases rules : genesis.rules.validate with
          | error e => simp [range, none_, rules] at valid
          | ok _ =>
              simp only [range, none_, rules, Bool.not_true, Bool.false_eq_true, if_false,
                Result.mapError_ok, Result.ok_bind] at valid
              obtain ⟨distinct, -⟩ | ⟨-, e, error⟩ := checkFounders_decides [] genesis.founders
              · have apart := List.pairwise_map.1 distinct.1
                refine ⟨range, List.pairwise_map.2 ?_, fun f inside => ?_⟩
                · exact apart.imp fun differ same => differ (Address.mk.inj same)
                · exact (distinct.2 f.address (List.mem_map_of_mem inside)).1
              · rw [error] at valid
                cases valid

end Genesis

/-! ## New members of the electorate -/

namespace Store

/-- The store with a nickname, if there is one; an empty nickname is none. -/
def named (s : Store) (a : Address) (nickname : Option String) : Store :=
  match nickname.filter (!·.isEmpty) with
  | some text => s.putNickname a text
  | none => s

/-- The store with a founder in the electorate. -/
def seated (s : Store) (f : Founder) : Store :=
  ((s.enrolled f.member).named f.member f.nickname).moved (.pending f.member) .electorate

/-- The roll has no record of the founders, and room for all of them. -/
structure Admits (s : Store) (founders : List Founder) : Prop where
  vacant : ∀ f ∈ founders, s.member? f.member = none
  room : s.memberCount.toNat + founders.length ≤ Roll.maxCount.toNat

variable (s : Store)

theorem member?_named (a : Address) (nickname : Option String) (b : Address) :
    (s.named a nickname).member? b = s.member? b := by
  unfold named
  split
  · exact member?_insert ..
  · rfl

theorem settings?_named (a : Address) (nickname : Option String) :
    (s.named a nickname).settings? = s.settings? := by
  unfold named
  split
  · exact settings?_insert ..
  · rfl

theorem memberCount_named (a : Address) (nickname : Option String) :
    (s.named a nickname).memberCount = s.memberCount := by
  unfold named
  split
  · exact memberCount_insert ..
  · rfl

theorem Counted.named {s : Store} (counted : s.Counted) (a : Address) (nickname : Option String) :
    (s.named a nickname).Counted := by
  unfold Store.named
  split
  · exact counted.putNickname a _
  · exact counted

theorem memberCount_seated (f : Founder) : (s.seated f).memberCount = s.memberCount + 1 := by
  rw [seated, memberCount_moved, memberCount_named, memberCount_enrolled]

theorem settings?_seated (f : Founder) : (s.seated f).settings? = s.settings? := by
  rw [seated, settings?_moved, settings?_named, settings?_enrolled]

theorem member?_seated_of_ne {f : Founder} {a : Address} (apart : f.member ≠ a) :
    (s.seated f).member? a = s.member? a := by
  have elsewhere : (Member.pending f.member).address ≠ a := apart
  rw [seated, member?_moved, if_neg elsewhere, member?_named, member?_enrolled, if_neg apart]

/-- The roll admits founders one by one. -/
theorem admits_cons {s : Store} {f : Founder} {rest : List Founder}
    (apart : ∀ g ∈ rest, f.member ≠ g.member) :
    s.Admits (f :: rest) ↔
      (s.member? f.member = none ∧ s.memberCount ≠ Roll.maxCount) ∧ (s.seated f).Admits rest := by
  have later (g : Founder) (inRest : g ∈ rest) :
      (s.seated f).member? g.member = s.member? g.member :=
    s.member?_seated_of_ne (apart g inRest)
  constructor
  · rintro ⟨vacant, room⟩
    rw [List.length_cons] at room
    have notFull : s.memberCount ≠ Roll.maxCount := by
      intro full
      rw [full] at room
      omega
    refine ⟨⟨vacant f List.mem_cons_self, notFull⟩, fun g inRest => ?_, ?_⟩
    · rw [later g inRest]
      exact vacant g (List.mem_cons_of_mem _ inRest)
    · rw [memberCount_seated, Roll.toNat_succ notFull]
      omega
  · rintro ⟨⟨fresh, notFull⟩, vacant, room⟩
    rw [memberCount_seated, Roll.toNat_succ notFull] at room
    refine ⟨fun g inside => ?_, ?_⟩
    · rcases List.mem_cons.1 inside with rfl | inRest
      · exact fresh
      · rw [← later g inRest]
        exact vacant g inRest
    · rw [List.length_cons]
      omega

/-- No standing has more members than there are in all. -/
theorem Counted.standing_room {s : Store} (counted : s.Counted)
    (room : s.memberCount ≠ Roll.maxCount) (standing : Standing) :
    s.standingCount standing ≠ Roll.maxCount := by
  intro full
  have each := counted.each standing
  have total := counted.total
  have parts := s.length_members
  have limit := UInt64.toNat_lt s.memberCount
  have below : s.memberCount.toNat ≠ Roll.maxCount.toNat := fun same =>
    room (UInt64.toNat_inj.1 same)
  rw [full] at each
  simp only [Roll.maxCount, UInt64.reduceToNat] at each below
  cases standing <;> omega

end Store

/-! ## Admission -/

namespace Assembly

variable {s : Store} (journal : List Event)

theorem decides_parse (a : Address) (h : Host) :
    Decides (a.isWellFormed = true) (Action.value (Address.parse a.text)) h a h := by
  by_cases wellFormed : a.isWellFormed = true
  · exact .inl ⟨wellFormed, by simp [Motion.parse_of_wellFormed wellFormed]⟩
  · obtain ⟨e, parsed⟩ := Motion.parse_of_malformed wellFormed
    exact .inr ⟨wellFormed, Failure.ofValue e, by simp [parsed]⟩

/-- An enrolment needs a well-formed address without a record, and room on the roll. -/
theorem decides_enroll (counted : s.Counted) (a : Address) (nickname : Option String) :
    Decides (a.isWellFormed = true ∧ s.member? a = none ∧ s.memberCount ≠ Roll.maxCount)
      (enroll a.text nickname) ⟨s, [], journal⟩ (.pending a)
      ⟨(s.enrolled a).named a nickname, [], journal ++ [.memberEnrolled a]⟩ := by
  have register : Decides (s.member? a = none ∧ s.memberCount ≠ Roll.maxCount)
      (Roll.enroll a) ⟨s, [], journal⟩ (.pending a)
      ⟨s.enrolled a, [], journal ++ [.memberEnrolled a]⟩ := by
    unfold Decides
    rw [Roll.runOn_enroll, Store.hasMember_eq]
    cases found : s.member? a with
    | some m => exact .inr ⟨by simp, _, rfl⟩
    | none =>
        by_cases full : s.memberCount = Roll.maxCount
        · exact .inr ⟨fun both => both.2 full, _, by simp [full]; rfl⟩
        · have pending := counted.standing_room full .pendingApproval
          exact .inl ⟨⟨rfl, full⟩, by simp [full, pending]⟩
  have held : (s.enrolled a).hasMember a = true := by
    rw [Store.hasMember_eq, Store.member?_enrolled, if_pos rfl]
    rfl
  refine (decides_parse a _).bind fun _ => register.andThen fun _ => ?_
  unfold Store.named
  cases nickname.filter (!·.isEmpty) with
  | none => rfl
  | some text => simp [Roll.runOn_setNickname, held]

/-- What is admitted has been enrolled, and a member just enrolled can be moved. -/
theorem runOn_admit (counted : s.Counted) {f : Founder} (fresh : s.member? f.member = none)
    (room : s.memberCount ≠ Roll.maxCount) :
    (s.seated f).Counted ∧
      (Roll.transition f.member .electorate genesisOperator).runOn
          ⟨(s.enrolled f.member).named f.member f.nickname, [], journal⟩ =
        (.ok { Member.pending f.member with standing := .electorate },
          ⟨s.seated f, [], journal ++
            [.standingChanged f.member .pendingApproval .electorate genesisOperator]⟩) := by
  have enrolled : ((s.enrolled f.member).named f.member f.nickname).Counted :=
    (counted.enrolled fresh room (counted.standing_room room _)).named f.member f.nickname
  have found : ((s.enrolled f.member).named f.member f.nickname).member? f.member =
      some (.pending f.member) := by
    rw [Store.member?_named, Store.member?_enrolled, if_pos rfl]
  obtain ⟨none_, -⟩ | ⟨m, held, refused, -⟩ | ⟨m, held, -, after, run⟩ :=
    enrolled.transition_cases journal f.member .electorate genesisOperator
  · rw [found] at none_
    cases none_
  · rw [found] at held
    cases held
    cases refused
  · rw [found] at held
    cases held
    exact ⟨after, run⟩

/-- The first founder is admitted and the others follow, or the roll refuses the first and is
left as it was. -/
theorem admitAll_cons_cases (counted : s.Counted) (f : Founder) (rest : List Founder) :
    ((s.member? f.member = none ∧ s.memberCount ≠ Roll.maxCount) ∧ (s.seated f).Counted ∧
      (admitAll (f :: rest)).runOn ⟨s, [], journal⟩ =
        Action.andThen (fun others => pure (f.member :: others))
          ((admitAll rest).runOn ⟨s.seated f, [], journal ++ f.events⟩)) ∨
    (¬(f.member.isWellFormed = true ∧ s.member? f.member = none ∧
        s.memberCount ≠ Roll.maxCount) ∧
      ∃ e, (admitAll (f :: rest)).runOn ⟨s, [], journal⟩ = (.error e, ⟨s, [], journal⟩)) := by
  have steps : admitAll (f :: rest) = (do
      let member ← enroll f.member.text f.nickname
      let _ ← Roll.transition member.address .electorate genesisOperator
      return member.address :: (← admitAll rest)) := rfl
  rw [steps, Action.runOn_bind]
  obtain ⟨⟨-, fresh, room⟩, enrolled⟩ | ⟨refused, e, enrolled⟩ :=
    decides_enroll journal counted f.member f.nickname
  · obtain ⟨counted', moved⟩ := runOn_admit (journal ++ [.memberEnrolled f.member]) counted
      fresh room
    refine .inl ⟨⟨fresh, room⟩, counted', ?_⟩
    rw [enrolled, Action.andThen_ok, Action.runOn_bind, Member.address_pending, moved,
      Action.andThen_ok, Action.runOn_bind, List.append_assoc]
    rfl
  · refine .inr ⟨refused, e, ?_⟩
    rw [enrolled, Action.andThen_error]

/-- Founders that the roll admits are admitted in order; otherwise the admission stops, and
the settings are as they were. -/
theorem admitAll_cases {founders : List Founder} (counted : s.Counted)
    (distinct : (founders.map Founder.member).Nodup)
    (wellFormed : ∀ f ∈ founders, f.member.isWellFormed = true) :
    (s.Admits founders ∧
      (admitAll founders).runOn ⟨s, [], journal⟩ =
        (.ok (founders.map Founder.member),
          ⟨founders.foldl Store.seated s, [], journal ++ founders.flatMap Founder.events⟩)) ∨
    (¬s.Admits founders ∧ ∃ e t journal',
      (admitAll founders).runOn ⟨s, [], journal⟩ = (.error e, ⟨t, [], journal'⟩) ∧
        t.settings? = s.settings?) := by
  induction founders generalizing s journal with
  | nil =>
      have limit := UInt64.toNat_lt s.memberCount
      refine .inl ⟨⟨by simp, ?_⟩, by simp [admitAll]⟩
      simp only [Roll.maxCount, UInt64.reduceToNat, List.length_nil]
      omega
  | cons f rest ih =>
      obtain ⟨apart, distinct'⟩ := Founder.apart_of_nodup distinct
      rw [Store.admits_cons apart]
      have later (g : Founder) (inRest : g ∈ rest) := wellFormed g (List.mem_cons_of_mem _ inRest)
      obtain ⟨⟨fresh, room⟩, counted', run⟩ | ⟨refused, e, run⟩ :=
        admitAll_cons_cases journal counted f rest
      · rw [run]
        obtain ⟨admits, run'⟩ | ⟨fails, e, t, journal', run', settings⟩ :=
          ih (s := s.seated f) _ counted' distinct' later
        · rw [run']
          exact .inl ⟨⟨⟨fresh, room⟩, admits⟩, by simp⟩
        · rw [run']
          refine .inr ⟨fun all => fails all.2, e, t, journal', rfl, ?_⟩
          rw [settings, Store.settings?_seated]
      · rw [run]
        refine .inr ⟨fun all => refused ⟨wellFormed f List.mem_cons_self, all.1⟩, ?_⟩
        exact ⟨e, s, journal, rfl, rfl⟩

end Assembly

/-! ## The founding -/

theorem Store.admits_putSettings {s : Store} {record : Settings} {founders : List Founder} :
    (s.putSettings record).Admits founders ↔ s.Admits founders := by
  have count : (s.putSettings record).memberCount = s.memberCount := memberCount_insert ..
  constructor
  · rintro ⟨vacant, room⟩
    exact ⟨fun f inside => s.member?_putSettings record _ ▸ vacant f inside, count ▸ room⟩
  · rintro ⟨vacant, room⟩
    refine ⟨fun f inside => ?_, count.symm ▸ room⟩
    rw [member?_putSettings]
    exact vacant f inside

namespace Assembly

variable {s : Store} (journal : List Event)

/-- Settings with the weight are written first; what follows is admission and appointment. -/
theorem runOn_found {genesis : Genesis} (valid : genesis.validate = .ok ())
    (unset_ : s.settings? = none) :
    (found genesis).runOn ⟨s, [], journal⟩ =
      Action.andThen (fun admitted => Guardians.attach (admitted.take genesis.guardians.length))
        ((admitAll genesis.founders).runOn
          ⟨s.putSettings (.fresh genesis.weight), [], journal⟩) := by
  have range := (Genesis.sound_of_validate valid).range
  simp [found, valid, unset_, Guardians.runOn_setUp, range]

/-- An invalid genesis is refused, and so is any other once there are settings. -/
theorem found_refused {genesis : Genesis}
    (never : ¬(genesis.validate = .ok () ∧ s.settings? = none)) :
    ∃ e, (found genesis).runOn ⟨s, [], journal⟩ = (.error e, ⟨s, [], journal⟩) := by
  cases valid : genesis.validate with
  | error e => exact ⟨.refused e, by simp [found, valid]⟩
  | ok _ =>
      cases settled : s.settings? with
      | none => exact absurd ⟨valid, settled⟩ never
      | some record => exact ⟨_, by simp [found, valid, settled]; rfl⟩

/-- Where the roll admits the founders, the founding is carried out in full. -/
theorem found_completed (counted : s.Counted) {genesis : Genesis}
    (valid : genesis.validate = .ok ()) (unset_ : s.settings? = none)
    (admits : s.Admits genesis.founders) :
    (found genesis).runOn ⟨s, [], journal⟩ =
      (.ok (), ⟨(genesis.founders.foldl Store.seated
          (s.putSettings (.fresh genesis.weight))).attached (genesis.guardians.map Founder.member),
        [], journal ++ genesis.founders.flatMap Founder.events⟩) := by
  have sound := Genesis.sound_of_validate valid
  have counted' : (s.putSettings (.fresh genesis.weight)).Counted := counted.putSettings _
  obtain ⟨-, run⟩ | ⟨fails, -⟩ :=
    admitAll_cases journal counted' sound.distinct sound.wellFormed
  · obtain ⟨-, after, -⟩ := of_admitAll_ok run
    have first : (genesis.founders.map Founder.member).take genesis.guardians.length =
        genesis.guardians.map Founder.member := by
      rw [Genesis.founders, List.map_append]
      exact List.take_left' (List.length_map ..)
    have held : ∀ a ∈ genesis.guardians.map Founder.member, ((genesis.founders.foldl Store.seated
        (s.putSettings (.fresh genesis.weight))).member? a).isSome := by
      intro a inside
      have founder : a ∈ genesis.founders.map Founder.member := by
        rw [Genesis.founders, List.map_append]
        exact List.mem_append_left _ inside
      obtain ⟨m, found, -⟩ := after.eligible a founder
      simp [found]
    have settled : (genesis.founders.foldl Store.seated
        (s.putSettings (.fresh genesis.weight))).settings?.isSome = true := by
      rw [after.settings?, Store.settings?_putSettings]
      rfl
    rw [runOn_found journal valid unset_, run, Action.andThen_ok, first,
      Guardians.runOn_attach _ _ settled held]
  · exact absurd (Store.admits_putSettings.2 admits) fails

/-- Where it does not, the founding breaks off and its first settings stay. -/
theorem found_stranded (counted : s.Counted) {genesis : Genesis}
    (valid : genesis.validate = .ok ()) (unset_ : s.settings? = none)
    (refused : ¬s.Admits genesis.founders) :
    ∃ e t journal', (found genesis).runOn ⟨s, [], journal⟩ = (.error e, ⟨t, [], journal'⟩) ∧
      t.settings? = some (Settings.fresh genesis.weight).canonical := by
  have sound := Genesis.sound_of_validate valid
  have counted' : (s.putSettings (.fresh genesis.weight)).Counted := counted.putSettings _
  obtain ⟨admits, -⟩ | ⟨-, e, t, journal', run, settings⟩ :=
    admitAll_cases journal counted' sound.distinct sound.wellFormed
  · exact absurd (Store.admits_putSettings.1 admits) refused
  · refine ⟨e, t, journal', ?_, settings.trans (s.settings?_putSettings _)⟩
    rw [runOn_found journal valid unset_, run, Action.andThen_error]

end Assembly

/-- At any time of a session a founding comes to one of three ends.  It succeeds, if the genesis
is valid, nothing has been set up, and the roll admits the founders.  It is refused and nothing
changes, if the genesis is invalid or settings exist.  Otherwise it fails half-way: settings
without a guardian stay behind, and every later founding is refused. -/
theorem founding_decided (calls : List Call) (genesis : Genesis) :
    let h := Host.fresh.after calls
    let run := (Assembly.found genesis).runOn h
    let begins := genesis.validate = .ok () ∧ h.store.settings? = none
    (begins ∧ h.store.Admits genesis.founders ∧ run.1 = .ok ()) ∨
    (¬begins ∧ ∃ e, run = (.error e, h)) ∨
    (begins ∧ ¬h.store.Admits genesis.founders ∧ (∃ e, run.1 = .error e) ∧
      run.2.store.settings? = some (Settings.fresh genesis.weight).canonical ∧
      ∀ later, ∃ e, (Assembly.found later).runOn run.2 = (.error e, run.2)) := by
  intro h run begins
  have start : Holds (Store.Coherent False) h := Store.Coherent.fresh_after calls
  have same : (Assembly.found genesis).runOn h = run := rfl
  have named : (genesis.validate = .ok () ∧ h.store.settings? = none) = begins := rfl
  clear_value run begins h
  subst same named
  obtain ⟨s, outages, journal⟩ := h
  obtain ⟨rfl, coherent⟩ := start
  by_cases begins : genesis.validate = .ok () ∧ s.settings? = none
  · by_cases admits : s.Admits genesis.founders
    · have completed := Assembly.found_completed journal coherent.counted begins.1 begins.2 admits
      exact .inl ⟨begins, admits, congrArg Prod.fst completed⟩
    · obtain ⟨e, t, journal', run, settings⟩ :=
        Assembly.found_stranded journal coherent.counted begins.1 begins.2 admits
      rw [run]
      refine .inr (.inr ⟨begins, admits, ⟨e, rfl⟩, settings, fun later => ?_⟩)
      refine Assembly.found_refused journal' fun again => ?_
      rw [settings] at again
      cases again.2
  · exact .inr (.inl ⟨begins, Assembly.found_refused journal begins⟩)

/-- One guardian and one other member. -/
def Genesis.pair : Genesis :=
  { weight := .half, guardians := [⟨"civ_one", none⟩], members := [⟨"civ_two", none⟩],
    rules := .default }

/-- A founder who is on the roll already stops the founding of two when the first of them has
been admitted; nobody is a guardian, and no other genesis can be applied. -/
theorem founding_of_pair_strands :
    let h := Host.fresh.after [.enroll "civ_two" none]
    let run := (Assembly.found .pair).runOn h
    run.1 = .error (.refused (.alreadyEnrolled "civ_two")) ∧ run.2 ≠ h ∧
      h.store.settings? = none ∧ run.2.store.settings? = some ⟨[], .half⟩ ∧
      ((Assembly.found { Genesis.pair with members := [] }).runOn run.2).1 =
        .error (.refused (.invalidRequest "genesis has already been applied")) := by
  decide +kernel

end Suffrage
