/-
# Suffrage.Proofs.Coherence -- the list and the flags tell one story

Who is a guardian is stored twice, as a flag on the member record and as an entry of the
settings list.  `Store.Coherent` says that the two agree: the list has no duplicates and
names exactly the flagged members of the electorate, and nobody else carries a flag.  It
also says that the counters are exact and that the stored weight lies in `(0, 1]`.

A change of the roll adds or rewrites one record that carries no flag, before and after
(`Coherent.replace`).  A batch is flagged and listed, or neither (`Coherent.attached`,
`Coherent.detached`), as long as the checks of the motions have passed.

Once an electorate has been founded someone is on the list.  The parameter `founded` says
whether that is part of the story, so one proof covers the time before and after.
-/
import Suffrage.Proofs.Motion
import Suffrage.Proofs.Session

namespace Suffrage

set_option autoImplicit false

/-- Dropping the sign of a zero does not move a number out of the range, or into it. -/
theorem Decimal.isPositiveFraction_canonical (d : Decimal) :
    d.canonical.isPositiveFraction = d.isPositiveFraction := by
  unfold isPositiveFraction
  simp only [lt_def, le_def, unitsBeside, units_canonical]
  rfl

/-- A number in the range is no zero, so it has no sign to drop. -/
theorem Decimal.canonical_of_isPositiveFraction {d : Decimal}
    (range : d.isPositiveFraction = true) : d.canonical = d := by
  obtain ⟨negative, magnitude, scale, _, _⟩ := d
  cases negative with
  | false => rfl
  | true =>
      simp [isPositiveFraction, lt_def, unitsBeside, units, zero, Radix.ten_zero] at range
      omega

/-! ## Lists -/

namespace Settings

theorem mem_add (record : Settings) (batch : List Address) (a : Address) :
    a ∈ (record.add batch).guardians ↔ a ∈ record.guardians ∨ a ∈ batch := by
  unfold add
  induction batch generalizing record with
  | nil => simp
  | cons b rest ih =>
      rw [List.foldl_cons, ih]
      split
      · rename_i listed
        have inside : b ∈ record.guardians := by simpa [contains] using listed
        constructor
        · rintro (old | later)
          · exact .inl old
          · exact .inr (List.mem_cons_of_mem _ later)
        · rintro (old | new)
          · exact .inl old
          · rcases List.mem_cons.1 new with rfl | later
            · exact .inl inside
            · exact .inr later
      · simp [or_assoc]

theorem nodup_add {record : Settings} (distinct : record.guardians.Nodup) (batch : List Address) :
    (record.add batch).guardians.Nodup := by
  unfold add
  induction batch generalizing record with
  | nil => exact distinct
  | cons b rest ih =>
      rw [List.foldl_cons]
      split
      · exact ih distinct
      · rename_i absent
        refine ih (List.nodup_append.2 ⟨distinct, by simp, ?_⟩)
        rintro a old _ new rfl
        rw [List.mem_singleton] at new
        subst new
        exact absent (by simpa [contains] using old)

theorem weight_add (record : Settings) (batch : List Address) :
    (record.add batch).weight = record.weight := by
  unfold add
  induction batch generalizing record with
  | nil => rfl
  | cons b rest ih =>
      rw [List.foldl_cons, ih]
      split <;> rfl

/-- Addresses that are distinct and not listed yet are listed in their order. -/
theorem guardians_add {record : Settings} {batch : List Address} (distinct : batch.Nodup)
    (new : ∀ a ∈ batch, a ∉ record.guardians) :
    (record.add batch).guardians = record.guardians ++ batch := by
  unfold add
  induction batch generalizing record with
  | nil => simp
  | cons a rest ih =>
      obtain ⟨outside, distinct'⟩ := List.nodup_cons.1 distinct
      have absent : ¬record.contains a = true := by
        simpa [contains] using new a List.mem_cons_self
      rw [List.foldl_cons, if_neg absent, ih distinct']
      · simp
      · intro b inRest listed
        rcases List.mem_append.1 listed with old | here
        · exact new b (List.mem_cons_of_mem _ inRest) old
        · rw [List.mem_singleton] at here
          subst here
          exact outside inRest

end Settings

/-! ## Reads after the changes of the roll -/

namespace Store

variable (s : Store)

theorem member?_enrolled (a b : Address) :
    (s.enrolled a).member? b = if a = b then some (.pending a) else s.member? b := by
  simp [enrolled, setStandingCount, setMemberCount, putMember, member?_insert, Member.pending]

theorem settings?_enrolled (a : Address) : (s.enrolled a).settings? = s.settings? := by
  simp [enrolled, setStandingCount, setMemberCount, putMember, settings?_insert]

theorem member?_moved (m : Member) (next : Standing) (b : Address) :
    (s.moved m next).member? b =
      if m.address = b then some { m with standing := next } else s.member? b := by
  simp [moved, setStandingCount, putMember, member?_insert]

theorem settings?_moved (m : Member) (next : Standing) :
    (s.moved m next).settings? = s.settings? := by
  simp [moved, setStandingCount, putMember, settings?_insert]

theorem settings?_putSettings (record : Settings) :
    (s.putSettings record).settings? = some record.canonical := by
  simp [putSettings, settings?_insert]

theorem listed_congr {s t : Store} (same : t.settings? = s.settings?) : t.listed = s.listed := by
  unfold listed settled
  rw [same]

theorem listed_putSettings (record : Settings) :
    (s.putSettings record).listed = record.guardians := by
  rw [listed_of_settings? (settings?_putSettings s record)]
  rfl

/-- Settings with a weight in the range may be written. -/
theorem weighed_putSettings {record : Settings} (range : record.weight.isPositiveFraction = true) :
    ∀ written, (s.putSettings record).settings? = some written →
      written.weight.isPositiveFraction = true := by
  intro written found
  rw [settings?_putSettings] at found
  cases found
  exact (Decimal.isPositiveFraction_canonical record.weight).trans range

theorem member?_attached (batch : List Address) (a : Address) :
    (s.attached batch).member? a =
      (s.member? a).map fun m => if a ∈ batch then { m with isGuardian := true } else m := by
  rw [attached, member?_putSettings, member?_flagged]

theorem member?_detached (batch : List Address) (a : Address) :
    (s.detached batch).member? a =
      (s.member? a).map fun m => if a ∈ batch then { m with isGuardian := false } else m := by
  rw [detached, member?_putSettings, member?_flagged]

theorem counted_flagged {s : Store} (flag : Bool) (batch : List Address) (counted : s.Counted) :
    (s.flagged flag batch).Counted := by
  induction batch generalizing s with
  | nil => exact counted
  | cons a rest ih =>
      simp only [flagged]
      cases found : s.member? a with
      | none => exact ih counted
      | some m => exact ih (counted.putFlag found flag)

/-! ## Coherent stores -/

/-- Records, counters and settings agree; someone is listed once the electorate is founded. -/
structure Coherent (founded : Prop) (s : Store) : Prop where
  counted : s.Counted
  /-- Only a member of the electorate carries the flag. -/
  backed : ∀ a m, s.member? a = some m → m.isGuardian = true → m.standing = .electorate
  distinct : s.listed.Nodup
  listed_iff : ∀ a, a ∈ s.listed ↔ s.isGuardian a = true
  weighed : ∀ record, s.settings? = some record → record.weight.isPositiveFraction = true
  staffed : founded → s.listed ≠ []

namespace Coherent

variable {founded : Prop} {s t : Store}

theorem empty : Coherent False .empty where
  counted := .empty
  backed _ _ found := by cases found
  distinct := List.nodup_nil
  listed_iff a := by
    show a ∈ ([] : List Address) ↔ false = true
    simp
  weighed _ found := by cases found
  staffed := False.elim

/-- An electorate with someone on the list may count as founded. -/
theorem strengthen (coherent : s.Coherent founded) (someone : s.listed ≠ []) : s.Coherent True :=
  { coherent with staffed := fun _ => someone }

/-- Where nothing has been set up, nobody is a guardian. -/
theorem listed_of_unset (unset_ : s.settings? = none) : s.listed = [] := by
  rw [listed, settled, unset_]
  rfl

theorem settings?_isSome (coherent : s.Coherent True) : s.settings?.isSome = true := by
  cases found : s.settings? with
  | some record => rfl
  | none => exact absurd (listed_of_unset found) (coherent.staffed trivial)

/-- Records and settings are all that matters beside the counters. -/
theorem congr (coherent : s.Coherent founded) (counted : t.Counted)
    (member? : ∀ a, t.member? a = s.member? a) (settings? : t.settings? = s.settings?) :
    t.Coherent founded where
  counted := counted
  backed a m found := coherent.backed a m (member? a ▸ found)
  distinct := listed_congr settings? ▸ coherent.distinct
  listed_iff a := by
    rw [listed_congr settings?, isGuardian_congr (member? a)]
    exact coherent.listed_iff a
  weighed record found := coherent.weighed record (settings? ▸ found)
  staffed now := listed_congr settings? ▸ coherent.staffed now

theorem of_sameRoll (coherent : s.Coherent founded) (same : SameRoll s t) : t.Coherent founded :=
  coherent.congr (coherent.counted.of_sameRoll same) same.member? same.settings?

theorem putNickname (coherent : s.Coherent founded) (a : Address) (text : String) :
    (s.putNickname a text).Coherent founded :=
  coherent.congr (coherent.counted.putNickname a text) (fun _ => member?_insert ..)
    (settings?_insert ..)

/-- An address that is no guardian gets a record without a flag. -/
theorem replace {a : Address} {m : Member} (coherent : s.Coherent founded) (counted : t.Counted)
    (member? : ∀ b, t.member? b = if a = b then some m else s.member? b)
    (settings? : t.settings? = s.settings?) (before : s.isGuardian a = false)
    (after : m.isGuardian = false) : t.Coherent founded where
  counted := counted
  backed b r found flag := by
    rw [member?] at found
    split at found
    · cases found
      rw [after] at flag
      cases flag
    · exact coherent.backed b r found flag
  distinct := listed_congr settings? ▸ coherent.distinct
  listed_iff b := by
    have same : t.isGuardian b = s.isGuardian b := by
      by_cases here : a = b
      · subst here
        rw [before]
        simp [isGuardian, member?, after]
      · exact isGuardian_congr (by rw [member?, if_neg here])
    rw [listed_congr settings?, same]
    exact coherent.listed_iff b
  weighed record found := coherent.weighed record (settings? ▸ found)
  staffed now := listed_congr settings? ▸ coherent.staffed now

theorem enrolled {a : Address} (coherent : s.Coherent founded) (fresh : s.member? a = none)
    (room : s.memberCount ≠ Roll.maxCount)
    (roomPending : s.standingCount .pendingApproval ≠ Roll.maxCount) :
    (s.enrolled a).Coherent founded := by
  refine coherent.replace (coherent.counted.enrolled fresh room roomPending) (s.member?_enrolled a)
    (s.settings?_enrolled a) ?_ rfl
  simp [isGuardian, fresh]

/-- Whoever may still move is not in the electorate, and carries no flag. -/
theorem unflagged_of_mayBecome {a : Address} {m : Member} {next : Standing}
    (coherent : s.Coherent founded) (found : s.member? a = some m)
    (step : m.standing.mayBecome next = true) : m.isGuardian = false := by
  cases flag : m.isGuardian with
  | false => rfl
  | true =>
      rw [coherent.backed a m found flag] at step
      cases step

theorem moved {a : Address} {m : Member} {next : Standing} (coherent : s.Coherent founded)
    (found : s.member? a = some m) (step : m.standing.mayBecome next = true)
    (counted : (s.moved m.normalized next).Counted) :
    (s.moved m.normalized next).Coherent founded := by
  have flag := coherent.unflagged_of_mayBecome found step
  have place : m.address = a := address_of_member? found
  refine coherent.replace counted (fun b => place ▸ s.member?_moved m.normalized next b)
    (s.settings?_moved _ next) ?_ ?_
  · simp [isGuardian, found, flag]
  · simp [Member.normalized, flag]

/-! ### Changes of the settings -/

/-- Settings that list the same guardians may be written with any weight in the range. -/
theorem putSettings {record : Settings} (coherent : s.Coherent founded)
    (same : record.guardians = s.listed) (range : record.weight.isPositiveFraction = true) :
    (s.putSettings record).Coherent founded where
  counted := coherent.counted.putSettings _
  backed a m found := coherent.backed a m (member?_putSettings s _ a ▸ found)
  distinct := by
    rw [listed_putSettings, same]
    exact coherent.distinct
  listed_iff a := by
    rw [listed_putSettings, same, isGuardian_congr (member?_putSettings s _ a)]
    exact coherent.listed_iff a
  weighed := weighed_putSettings s range
  staffed now := by
    rw [listed_putSettings, same]
    exact coherent.staffed now

/-- The first settings list nobody. -/
theorem setUp {weight : Decimal} (coherent : s.Coherent founded) (unset_ : s.settings? = none)
    (range : weight.isPositiveFraction = true) : (s.putSettings (.fresh weight)).Coherent founded :=
  coherent.putSettings (listed_of_unset unset_).symm range

theorem reweighted {weight : Decimal} (coherent : s.Coherent founded)
    (range : weight.isPositiveFraction = true) : (s.reweighted weight).Coherent founded :=
  coherent.putSettings rfl range

/-! ### Batches -/

/-- Who may become a guardian is on no list yet. -/
theorem not_listed {a : Address} (coherent : s.Coherent founded) (eligible : s.Eligible a) :
    a ∉ s.listed := by
  intro listed
  obtain ⟨m, found, -, unflagged⟩ := eligible
  obtain ⟨r, same, flagged, -⟩ := isGuardian_iff.1 ((coherent.listed_iff a).1 listed)
  rw [found] at same
  cases same
  rw [unflagged] at flagged
  cases flagged

/-- Eligible members are appended to the list in their order; the weight is written as it was. -/
theorem settings?_attached {record : Settings} {batch : List Address}
    (coherent : s.Coherent founded) (found : s.settings? = some record) (distinct : batch.Nodup)
    (eligible : ∀ a ∈ batch, s.Eligible a) :
    (s.attached batch).settings? =
      some { record with guardians := record.guardians ++ batch } := by
  have new : ∀ a ∈ batch, a ∉ record.guardians := fun a inside =>
    listed_of_settings? found ▸ coherent.not_listed (eligible a inside)
  have weight := Decimal.canonical_of_isPositiveFraction (coherent.weighed record found)
  rw [Store.attached, settings?_putSettings, settled_of_settings? found, Settings.canonical,
    Settings.weight_add, weight, Settings.guardians_add distinct new]

/-- The others keep their order; the weight is written as it was. -/
theorem settings?_detached {record : Settings} (coherent : s.Coherent founded)
    (found : s.settings? = some record) (batch : List Address) :
    (s.detached batch).settings? = some (record.remove batch) := by
  have weight := Decimal.canonical_of_isPositiveFraction (coherent.weighed record found)
  rw [Store.detached, settings?_putSettings, settled_of_settings? found]
  show some { record.remove batch with weight := record.weight.canonical } = _
  rw [weight]
  rfl

theorem attached {batch : List Address} (coherent : s.Coherent founded)
    (settled : s.settings?.isSome = true) (eligible : ∀ a ∈ batch, s.Eligible a) :
    (s.attached batch).Coherent founded where
  counted := (counted_flagged true batch coherent.counted).putSettings _
  backed a r found flag := by
    rw [member?_attached] at found
    obtain ⟨m, old, rfl⟩ := Option.map_eq_some_iff.1 found
    split at flag
    · rename_i inside
      obtain ⟨r, same, active, -⟩ := eligible a inside
      rw [same] at old
      cases old
      simpa [inside] using active
    · rename_i outside
      simpa [outside] using coherent.backed a m old flag
  distinct := by
    rw [Store.attached, listed_putSettings]
    exact Settings.nodup_add coherent.distinct batch
  listed_iff a := by
    rw [Store.attached, listed_putSettings, Settings.mem_add, ← Store.attached]
    have old := coherent.listed_iff a
    rw [listed] at old
    by_cases inside : a ∈ batch
    · obtain ⟨m, found, active, -⟩ := eligible a inside
      simp [inside, isGuardian, member?_attached, found, active]
    · rw [isGuardian_congr (s := s), old]
      · simp [inside]
      · simp [member?_attached, inside]
  weighed := by
    refine weighed_putSettings _ ?_
    rw [Settings.weight_add]
    exact coherent.weighed _ (settings?_of_isSome settled)
  staffed now := by
    obtain ⟨a, inside⟩ := List.exists_mem_of_ne_nil _ (coherent.staffed now)
    refine List.ne_nil_of_mem (a := a) ?_
    rw [Store.attached, listed_putSettings, Settings.mem_add]
    exact .inl inside

theorem detached {batch : List Address} (coherent : s.Coherent founded)
    (settled : s.settings?.isSome = true) (spares : s.Spares batch) :
    (s.detached batch).Coherent founded where
  counted := (counted_flagged false batch coherent.counted).putSettings _
  backed a r found flag := by
    rw [member?_detached] at found
    obtain ⟨m, old, rfl⟩ := Option.map_eq_some_iff.1 found
    split at flag
    · cases flag
    · rename_i outside
      simpa [outside] using coherent.backed a m old flag
  distinct := by
    rw [Store.detached, listed_putSettings]
    exact coherent.distinct.filter _
  listed_iff a := by
    rw [Store.detached, listed_putSettings, ← Store.detached]
    have old := coherent.listed_iff a
    rw [listed] at old
    by_cases inside : a ∈ batch
    · cases found : s.member? a with
      | none => simp [Settings.remove, inside, isGuardian, member?_detached, found]
      | some m => simp [Settings.remove, inside, isGuardian, member?_detached, found]
    · rw [isGuardian_congr (s := s), ← old]
      · simp [Settings.remove, inside]
      · simp [member?_detached, inside]
  weighed := weighed_putSettings _ (coherent.weighed s.settled (settings?_of_isSome settled))
  staffed _ := by
    obtain ⟨a, inside, -, outside⟩ := spares
    refine List.ne_nil_of_mem (a := a) ?_
    rw [Store.detached, listed_putSettings]
    simpa [Settings.remove, outside, listed] using inside

end Coherent

end Store

end Suffrage
