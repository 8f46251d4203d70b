/-
# Suffrage.Proofs.Established -- what a founding establishes

A founding that succeeds writes the electorate of its genesis and nothing else
(`Genesis.Established`): the settings, for each founder a record, two events and the nickname if
there is one, and the counters that go with them.  Records and nicknames of others stay.

The proof goes founder by founder through `Store.seated`, and the guardians are appointed last.
It rests on two invariants of a session: nobody has a nickname without being on the roll
(`Store.Nicknamed`), and nobody is a guardian before there are settings (`Store.Coherent`).

From then on there is always somebody on the list of guardians.  So the settings stay, and
every later founding is refused (`founding_establishes`).
-/
import Suffrage.Proofs.Founding

namespace Suffrage

set_option autoImplicit false

open Suffrage.Action (Holds Keeps)

/-! ## Nicknames belong to members -/

namespace Store

/-- Who is not on the roll has no nickname; the counters are exact. -/
structure Nicknamed (s : Store) : Prop where
  counted : s.Counted
  vacant : ∀ a, s.member? a = none → s.nickname? a = none

namespace Nicknamed

variable {s t : Store}

theorem empty : Nicknamed .empty := ⟨.empty, fun _ _ => rfl⟩

theorem congr (named : s.Nicknamed) (counted : t.Counted)
    (member? : ∀ a, t.member? a = s.member? a) (nickname? : ∀ a, t.nickname? a = s.nickname? a) :
    t.Nicknamed where
  counted := counted
  vacant a none_ := (nickname? a).trans (named.vacant a (member? a ▸ none_))

theorem of_sameRoll (named : s.Nicknamed) (same : SameRoll s t) : t.Nicknamed :=
  named.congr (named.counted.of_sameRoll same) same.member? same.nickname?

/-- A record may be added or changed. -/
theorem replace {a : Address} {m : Member} (named : s.Nicknamed) (counted : t.Counted)
    (member? : ∀ b, t.member? b = if a = b then some m else s.member? b)
    (nickname? : ∀ b, t.nickname? b = s.nickname? b) : t.Nicknamed where
  counted := counted
  vacant b none_ := by
    rw [member?] at none_
    split at none_
    · cases none_
    · exact (nickname? b).trans (named.vacant b none_)

end Nicknamed

variable (s : Store)

theorem nickname?_enrolled (a b : Address) : (s.enrolled a).nickname? b = s.nickname? b := by
  simp [enrolled, setStandingCount, setMemberCount, putMember, nickname?_insert]

theorem nickname?_moved (m : Member) (next : Standing) (b : Address) :
    (s.moved m next).nickname? b = s.nickname? b := by
  simp [moved, setStandingCount, putMember, nickname?_insert]

theorem stable_nicknamed : Stable Nicknamed where
  enroll a := Roll.keeps_enroll_of fun s named fresh room roomPending =>
    named.replace (named.counted.enrolled fresh room roomPending) (s.member?_enrolled a)
      (s.nickname?_enrolled a)
  transition a next operator :=
    Roll.keeps_transition_of (fun _ named => named.counted) fun s m named _ _ counted =>
      named.replace counted (s.member?_moved m.normalized next) (s.nickname?_moved _ next)
  setGuardianFlag a flag := .intro fun s journal named => by
    rw [Roll.runOn_setGuardianFlag]
    cases found : s.member? a with
    | none => exact ⟨rfl, named⟩
    | some m =>
        have counted := named.counted.putFlag found flag
        exact ⟨rfl, named.replace counted (s.member?_putMember _) fun _ => nickname?_insert ..⟩
  setNickname a text := Roll.keeps_setNickname_of fun s named held => by
    refine ⟨named.counted.putNickname a text, fun b none_ => ?_⟩
    have member : (s.putNickname a text).member? b = s.member? b := member?_insert ..
    have nickname : (s.putNickname a text).nickname? b =
        if a = b then some text else s.nickname? b := nickname?_insert ..
    have apart : a ≠ b := by
      rintro rfl
      rw [hasMember_eq, ← member, none_] at held
      cases held
    rw [nickname, if_neg apart]
    exact named.vacant b (member ▸ none_)
  putSettings s record named :=
    named.congr (named.counted.putSettings record) (s.member?_putSettings record)
      fun _ => nickname?_insert ..
  mark s proposal voter named := named.of_sameRoll (SameRoll.mark s proposal voter)
  sweep s proposal named := named.of_sameRoll (SameRoll.sweep s proposal)

theorem Nicknamed.fresh_after (calls : List Call) : Holds Nicknamed (Host.fresh.after calls) := by
  refine holds_after (fun c _ => ?_) ⟨rfl, .empty⟩
  apply stable_nicknamed.keeps_call c
  intro ballot _ s named
  exact named.of_sameRoll (SameRoll.cast s ballot)

/-! ## One founder -/

theorem nickname?_named (a : Address) (nickname : Option String) (b : Address) :
    (s.named a nickname).nickname? b =
      if a = b then (nickname.filter (!·.isEmpty)).or (s.nickname? b) else s.nickname? b := by
  unfold named
  cases nickname.filter (!·.isEmpty) with
  | none => simp
  | some text => exact nickname?_insert ..

theorem nickname?_seated (f : Founder) (b : Address) :
    (s.seated f).nickname? b =
      if f.member = b then (f.nickname.filter (!·.isEmpty)).or (s.nickname? b)
      else s.nickname? b := by
  rw [seated, nickname?_moved, nickname?_named, nickname?_enrolled]

theorem standingCount_named (a : Address) (nickname : Option String) (standing : Standing) :
    (s.named a nickname).standingCount standing = s.standingCount standing := by
  unfold named
  split
  · exact standingCount_insert ..
  · rfl

/-- Between enrolment and admission the founder is counted among the pending. -/
theorem standingCount_seated (f : Founder) (standing : Standing) :
    (s.seated f).standingCount standing =
      if standing = .electorate then s.standingCount .electorate + 1
      else s.standingCount standing := by
  rw [seated, standingCount_moved]
  cases standing with
  | unset => simp [standingCount_named, standingCount_enrolled, Member.pending]
  | pendingApproval =>
      simp [standingCount_named, standingCount_enrolled, Member.pending]
  | electorate => simp [standingCount_named, standingCount_enrolled]

/-! ## All founders -/

theorem nickname?_seatAll_of_not_mem {founders : List Founder} {a : Address}
    (outside : a ∉ founders.map Founder.member) :
    (founders.foldl seated s).nickname? a = s.nickname? a := by
  induction founders generalizing s with
  | nil => rfl
  | cons f rest ih =>
      rw [List.map_cons, List.mem_cons, not_or] at outside
      rw [List.foldl_cons, ih _ outside.2, nickname?_seated, if_neg (Ne.symm outside.1)]

/-- Each founder has the nickname that the genesis gives, if it gives one. -/
theorem nickname?_seatAll {founders : List Founder} (distinct : (founders.map Founder.member).Nodup)
    {f : Founder} (inside : f ∈ founders) (none_ : s.nickname? f.member = none) :
    (founders.foldl seated s).nickname? f.member = f.nickname.filter (!·.isEmpty) := by
  induction founders generalizing s with
  | nil => cases inside
  | cons g rest ih =>
      obtain ⟨outside, distinct'⟩ := List.nodup_cons.1 distinct
      rw [List.foldl_cons]
      rcases List.mem_cons.1 inside with rfl | inRest
      · rw [nickname?_seatAll_of_not_mem _ outside, nickname?_seated, if_pos rfl, none_,
          Option.or_none]
      · have apart := (Founder.apart_of_nodup distinct).1 f inRest
        apply ih _ distinct' inRest
        rw [nickname?_seated, if_neg apart, none_]

/-- The counters of all members and of the electorate go up by the number of founders. -/
theorem counts_seatAll {s : Store} {founders : List Founder} (counted : s.Counted)
    (distinct : (founders.map Founder.member).Nodup) (admits : s.Admits founders) :
    (founders.foldl seated s).memberCount.toNat = s.memberCount.toNat + founders.length ∧
      ∀ standing, ((founders.foldl seated s).standingCount standing).toNat =
        (s.standingCount standing).toNat + if standing = .electorate then founders.length else 0 := by
  induction founders generalizing s with
  | nil => simp
  | cons f rest ih =>
      obtain ⟨apart, distinct'⟩ := Founder.apart_of_nodup distinct
      obtain ⟨⟨fresh, room⟩, admits'⟩ := (admits_cons apart).1 admits
      have counted' := (Assembly.runOn_admit [] counted fresh room).1
      obtain ⟨total, each⟩ := ih counted' distinct' admits'
      rw [List.foldl_cons, List.length_cons]
      constructor
      · rw [total, memberCount_seated, Roll.toNat_succ room]
        omega
      · intro standing
        rw [each, standingCount_seated]
        split
        · rename_i here
          rw [Roll.toNat_succ (counted.standing_room room _), here]
          omega
        · rfl

/-- What the admission of all founders does to their records. -/
theorem admitted_seatAll {s : Store} {founders : List Founder} (counted : s.Counted)
    (distinct : (founders.map Founder.member).Nodup)
    (wellFormed : ∀ f ∈ founders, f.member.isWellFormed = true) (admits : s.Admits founders) :
    s.Admitted (founders.foldl seated s) (founders.map Founder.member) := by
  obtain ⟨-, run⟩ | ⟨refused, -⟩ := Assembly.admitAll_cases [] counted distinct wellFormed
  · obtain ⟨-, admitted, -⟩ := Assembly.of_admitAll_ok run
    exact admitted
  · exact absurd admits refused

theorem Admitted.record {s t : Store} {addresses : List Address} (admitted : s.Admitted t addresses)
    {a : Address} (inside : a ∈ addresses) :
    t.member? a = some { address := a, standing := .electorate, isGuardian := false } := by
  obtain ⟨m, found, active, unflagged⟩ := admitted.eligible a inside
  have place := address_of_member? found
  obtain ⟨address, standing, isGuardian⟩ := m
  cases place
  cases active
  cases unflagged
  exact found

/-! ## The appointment -/

/-- Flags are written into records only. -/
theorem find?_flagged (flag : Bool) (batch : List Address) {k : Key} (other : ∀ a, k ≠ .member a) :
    (s.flagged flag batch).find? k = s.find? k := by
  induction batch generalizing s with
  | nil => rfl
  | cons a rest ih =>
      simp only [flagged]
      cases s.member? a with
      | none => exact ih s
      | some m =>
          rw [ih]
          exact (find?_insert s _ k).trans (if_neg (Ne.symm (other _)))

/-- Flags and a list are written to records and settings only. -/
theorem find?_relisted (flag : Bool) (batch : List Address) (record : Settings) (k : Key)
    (other : ∀ a, k ≠ .member a) (apart : k ≠ .settings) :
    ((s.flagged flag batch).putSettings record).find? k = s.find? k := by
  have written : (Entry.settings record.canonical).key ≠ k := Ne.symm apart
  rw [putSettings, find?_insert, if_neg written, find?_flagged s flag batch other]

theorem find?_attached (batch : List Address) (k : Key) (other : ∀ a, k ≠ .member a)
    (apart : k ≠ .settings) : (s.attached batch).find? k = s.find? k :=
  s.find?_relisted true batch _ k other apart

theorem find?_detached (batch : List Address) (k : Key) (other : ∀ a, k ≠ .member a)
    (apart : k ≠ .settings) : (s.detached batch).find? k = s.find? k :=
  s.find?_relisted false batch _ k other apart

theorem nickname?_attached (batch : List Address) (a : Address) :
    (s.attached batch).nickname? a = s.nickname? a := by
  unfold nickname?
  rw [find?_attached s batch (.nickname a) (by simp) (by simp)]

theorem memberCount_attached (batch : List Address) :
    (s.attached batch).memberCount = s.memberCount := by
  unfold memberCount
  rw [find?_attached s batch .memberCount (by simp) (by simp)]

theorem standingCount_attached (batch : List Address) (standing : Standing) :
    (s.attached batch).standingCount standing = s.standingCount standing := by
  unfold standingCount
  rw [find?_attached s batch (.standingCount standing) (by simp) (by simp)]

end Store

/-- Who carries a flag is on the list, and nobody else is. -/
theorem Store.Coherent.flagged_iff {founded : Prop} {s : Store} (coherent : s.Coherent founded)
    (a : Address) : (∃ m, s.member? a = some m ∧ m.isGuardian = true) ↔ a ∈ s.listed := by
  rw [coherent.listed_iff, isGuardian_iff]
  constructor
  · rintro ⟨m, found, flag⟩
    exact ⟨m, found, flag, coherent.backed a m found flag⟩
  · rintro ⟨m, found, flag, -⟩
    exact ⟨m, found, flag⟩

/-! ## The founding -/

/-- The guardians of a genesis are its first founders. -/
theorem Genesis.Sound.distinct_guardians {genesis : Genesis} (sound : genesis.Sound) :
    (genesis.guardians.map Founder.member).Nodup := by
  have all := sound.distinct
  rw [founders, List.map_append] at all
  exact (List.nodup_append.1 all).1

theorem Genesis.guardian_founder {genesis : Genesis} {a : Address}
    (inside : a ∈ genesis.guardians.map Founder.member) :
    a ∈ genesis.founders.map Founder.member := by
  rw [founders, List.map_append]
  exact List.mem_append_left _ inside

namespace Store

/-- The store with the electorate of a genesis. -/
def founded (s : Store) (genesis : Genesis) : Store :=
  (genesis.founders.foldl seated (s.putSettings (.fresh genesis.weight))).attached
    (genesis.guardians.map Founder.member)

section Founded

variable {s : Store} {genesis : Genesis} (counted : s.Counted) (sound : genesis.Sound)
  (admits : s.Admits genesis.founders)
include counted sound admits

theorem admitted_founders :
    (s.putSettings (.fresh genesis.weight)).Admitted
      (genesis.founders.foldl seated (s.putSettings (.fresh genesis.weight)))
      (genesis.founders.map Founder.member) :=
  admitted_seatAll (counted.putSettings _) sound.distinct sound.wellFormed
    (admits_putSettings.2 admits)

theorem settings?_founded :
    (s.founded genesis).settings? = some
      { guardians := genesis.guardians.map Founder.member, weight := genesis.weight.canonical } := by
  have admitted := admitted_founders counted sound admits
  have settled : (genesis.founders.foldl seated (s.putSettings (.fresh genesis.weight))).settled =
      (Settings.fresh genesis.weight).canonical :=
    settled_of_settings? (admitted.settings?.trans (s.settings?_putSettings _))
  have guardians : ((Settings.fresh genesis.weight).canonical.add
      (genesis.guardians.map Founder.member)).guardians = genesis.guardians.map Founder.member :=
    Settings.guardians_add sound.distinct_guardians fun _ _ => List.not_mem_nil
  rw [founded, attached, settings?_putSettings, settled, Settings.canonical, guardians,
    Settings.weight_add, Settings.canonical, Decimal.canonical_canonical]
  rfl

theorem member?_founded {f : Founder} (inside : f ∈ genesis.founders) :
    (s.founded genesis).member? f.member = some
      { address := f.member
        standing := .electorate
        isGuardian := decide (f.member ∈ genesis.guardians.map Founder.member) } := by
  have admitted := admitted_founders counted sound admits
  rw [founded, member?_attached, admitted.record (List.mem_map_of_mem inside), Option.map_some]
  split
  · rename_i guardian
    rw [decide_eq_true guardian]
  · rename_i ordinary
    rw [decide_eq_false ordinary]

theorem member?_founded_of_not_mem {a : Address}
    (outside : a ∉ genesis.founders.map Founder.member) :
    (s.founded genesis).member? a = s.member? a := by
  have admitted := admitted_founders counted sound admits
  have ordinary : a ∉ genesis.guardians.map Founder.member := fun guardian =>
    outside (Genesis.guardian_founder guardian)
  rw [founded, member?_attached, admitted.others a outside, member?_putSettings]
  simp [ordinary]

theorem memberCount_founded :
    (s.founded genesis).memberCount.toNat = s.memberCount.toNat + genesis.founders.length := by
  have counts := counts_seatAll (counted.putSettings (.fresh genesis.weight)) sound.distinct
    (admits_putSettings.2 admits)
  have first : (s.putSettings (.fresh genesis.weight)).memberCount = s.memberCount :=
    memberCount_insert ..
  rw [founded, memberCount_attached, counts.1, first]

theorem standingCount_founded (standing : Standing) :
    ((s.founded genesis).standingCount standing).toNat =
      (s.standingCount standing).toNat +
        if standing = .electorate then genesis.founders.length else 0 := by
  have counts := counts_seatAll (counted.putSettings (.fresh genesis.weight)) sound.distinct
    (admits_putSettings.2 admits)
  have first : (s.putSettings (.fresh genesis.weight)).standingCount standing =
      s.standingCount standing := standingCount_insert ..
  rw [founded, standingCount_attached, counts.2, first]

omit counted in
theorem nickname?_founded (named : s.Nicknamed) {f : Founder} (inside : f ∈ genesis.founders) :
    (s.founded genesis).nickname? f.member = f.nickname.filter (!·.isEmpty) := by
  rw [founded, nickname?_attached]
  apply nickname?_seatAll _ sound.distinct inside
  exact (nickname?_insert ..).trans (named.vacant f.member (admits.vacant f inside))

omit counted sound admits in
theorem nickname?_founded_of_not_mem {a : Address}
    (outside : a ∉ genesis.founders.map Founder.member) :
    (s.founded genesis).nickname? a = s.nickname? a := by
  rw [founded, nickname?_attached, nickname?_seatAll_of_not_mem _ outside]
  exact nickname?_insert ..

end Founded

end Store

/-- The electorate of a genesis has been added to what was there before. -/
structure Genesis.Established (genesis : Genesis) (before after : Host) : Prop where
  settings : after.store.settings? =
    some { guardians := genesis.guardians.map Founder.member, weight := genesis.weight.canonical }
  /-- Every founder is in the electorate, the guardians with the flag. -/
  founders : ∀ f ∈ genesis.founders, after.store.member? f.member =
    some { address := f.member
           standing := .electorate
           isGuardian := decide (f.member ∈ genesis.guardians.map Founder.member) }
  others : ∀ a, a ∉ genesis.founders.map Founder.member →
    after.store.member? a = before.store.member? a
  /-- On the whole roll nobody else carries a flag. -/
  flags : ∀ a, (∃ m, after.store.member? a = some m ∧ m.isGuardian = true) ↔
    a ∈ genesis.guardians.map Founder.member
  memberCount : after.store.memberCount.toNat =
    before.store.memberCount.toNat + genesis.founders.length
  standingCount : ∀ standing, (after.store.standingCount standing).toNat =
    (before.store.standingCount standing).toNat +
      if standing = .electorate then genesis.founders.length else 0
  /-- An empty nickname is none. -/
  nicknames : ∀ f ∈ genesis.founders,
    after.store.nickname? f.member = f.nickname.filter (!·.isEmpty)
  otherNicknames : ∀ a, a ∉ genesis.founders.map Founder.member →
    after.store.nickname? a = before.store.nickname? a
  ballots : before.store.SameBallots after.store
  journal : after.journal = before.journal ++ genesis.founders.flatMap Founder.events

namespace Assembly

variable {founded : Prop} {s : Store} (journal : List Event)

/-- Where nothing has been set up and the roll admits the founders, a valid genesis is
established. -/
theorem found_established (coherent : s.Coherent founded) (named : s.Nicknamed) {genesis : Genesis}
    (valid : genesis.validate = .ok ()) (unset_ : s.settings? = none)
    (admits : s.Admits genesis.founders) :
    genesis.Established ⟨s, [], journal⟩ ((found genesis).runOn ⟨s, [], journal⟩).2 := by
  have sound := Genesis.sound_of_validate valid
  have counted := coherent.counted
  have run : (found genesis).runOn ⟨s, [], journal⟩ =
      (.ok (), ⟨s.founded genesis, [], journal ++ genesis.founders.flatMap Founder.events⟩) :=
    found_completed journal counted valid unset_ admits
  have after := (found_coherent genesis journal coherent).1.2
  have ballots := (steady_sameBallots s).keeps_found genesis ⟨s, [], journal⟩ ⟨rfl, .refl s⟩
  have settings := Store.settings?_founded counted sound admits
  rw [run] at after ballots ⊢
  exact {
    settings
    founders := fun f => Store.member?_founded counted sound admits
    others := fun a => Store.member?_founded_of_not_mem counted sound admits
    flags := fun a => by
      rw [after.flagged_iff, Store.listed_of_settings? settings]
    memberCount := Store.memberCount_founded counted sound admits
    standingCount := Store.standingCount_founded counted sound admits
    nicknames := fun f => Store.nickname?_founded sound admits named
    otherNicknames := fun a => Store.nickname?_founded_of_not_mem
    ballots := ballots.2
    journal := rfl }

/-- An electorate with somebody on the list cannot be founded again. -/
theorem found_again_refused {h : Host} (holds : Holds (Store.Coherent True) h) (genesis : Genesis) :
    ∃ e, (found genesis).runOn h = (.error e, h) := by
  obtain ⟨s, outages, journal⟩ := h
  obtain ⟨rfl, coherent⟩ := holds
  apply found_refused journal
  rintro ⟨-, unset_⟩
  have settled := coherent.settings?_isSome
  rw [unset_] at settled
  cases settled

end Assembly

/-- Before anything has been set up, and where the roll admits its founders, a genesis is applied
exactly if it is valid.  The founding then establishes its electorate beside what was there before,
and at any later time of the session every founding is refused and changes nothing. -/
theorem founding_establishes (calls : List Call) (genesis : Genesis)
    (unset_ : (Host.fresh.after calls).store.settings? = none)
    (admits : (Host.fresh.after calls).store.Admits genesis.founders) :
    let h := Host.fresh.after calls
    let run := (Assembly.found genesis).runOn h
    (run.1 = .ok () ↔ genesis.validate = .ok ()) ∧
      (run.1 = .ok () → genesis.Established h run.2 ∧
        ∀ more later, ∃ e,
          (Assembly.found later).runOn (run.2.after more) = (.error e, run.2.after more)) := by
  intro h run
  have start : Holds (Store.Coherent False) h := Store.Coherent.fresh_after calls
  have named : Holds Store.Nicknamed h := Store.Nicknamed.fresh_after calls
  have same : (Assembly.found genesis).runOn h = run := rfl
  change h.store.settings? = none at unset_
  change h.store.Admits genesis.founders at admits
  clear_value run h
  subst same
  obtain ⟨s, outages, journal⟩ := h
  obtain ⟨rfl, coherent⟩ := start
  have applied : ((Assembly.found genesis).runOn ⟨s, [], journal⟩).1 = .ok () ↔
      genesis.validate = .ok () := by
    constructor
    · intro ok
      by_contra invalid
      have never : ¬(genesis.validate = .ok () ∧ s.settings? = none) := fun begins =>
        invalid begins.1
      obtain ⟨e, run⟩ := Assembly.found_refused journal never
      rw [run] at ok
      cases ok
    · intro valid
      exact congrArg Prod.fst
        (Assembly.found_completed journal coherent.counted valid unset_ admits)
  refine ⟨applied, fun ok => ⟨?_, fun more later => ?_⟩⟩
  · exact Assembly.found_established journal coherent named.2 (applied.1 ok) unset_ admits
  · obtain ⟨⟨quiet, after⟩, someone⟩ := Assembly.found_coherent genesis journal coherent
    have always := Store.Coherent.after more ⟨quiet, after.strengthen (someone ok)⟩
    exact Assembly.found_again_refused always later

/-- One guardian and two other members, one of them with a nickname and one with an empty one. -/
def Genesis.trio : Genesis :=
  { Genesis.pair with members := [⟨"civ_two", some "second"⟩, ⟨"civ_three", some ""⟩] }

/-- Three founders join a pending member. -/
theorem founding_establishes_trio :
    let calls : List Call := [.enroll "civ_four" (some "fourth")]
    let h := Host.fresh.after calls
    let run := (Assembly.found .trio).runOn h
    h.store.settings? = none ∧ h.store.Admits Genesis.trio.founders ∧ run.1 = .ok () ∧
      Genesis.trio.Established h run.2 ∧
      ∀ more later, ∃ e,
        (Assembly.found later).runOn (run.2.after more) = (.error e, run.2.after more) := by
  intro calls h run
  have unset_ : h.store.settings? = none := by decide +kernel
  have admits : h.store.Admits Genesis.trio.founders := ⟨by decide +kernel, by decide +kernel⟩
  have valid : Genesis.trio.validate = .ok () := by decide +kernel
  obtain ⟨applied, established⟩ := founding_establishes calls .trio unset_ admits
  have ok : run.1 = .ok () := applied.2 valid
  exact ⟨unset_, admits, ok, established ok⟩

end Suffrage
