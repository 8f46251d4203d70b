/-
# Suffrage.Proofs.Guardians -- the guardian list and the flags

Each operation on the guardian set is one equation for its run on a host without outages.
Reads are functions of the store: `Store.isGuardian` looks at one record, and the confirmed
guardians are the listed ones that pass it.

`attach` and `detach` write the flags first and the list last.  Where every address has a
record the flags can be written (`runOn_flagAll`), and the two operations are the store
functions `Store.attached` and `Store.detached`.
-/
import Suffrage.Proofs.Roll

namespace Suffrage

set_option autoImplicit false

namespace Store

/-- Whether the record of an address says that it is a guardian. -/
def isGuardian (s : Store) (a : Address) : Bool :=
  (s.member? a).any fun m => m.isGuardian && m.standing == .electorate

/-- The store with the same flag on each of the records. -/
def flagged (flag : Bool) (s : Store) : List Address → Store
  | [] => s
  | a :: rest =>
      match s.member? a with
      | some m => flagged flag (s.putMember { m with isGuardian := flag }) rest
      | none => flagged flag s rest

/-- The settings; where there are none yet, an empty list that weighs nothing. -/
def settled (s : Store) : Settings := s.settings?.getD (.fresh .zero)

/-- The addresses on the guardian list. -/
def listed (s : Store) : List Address := s.settled.guardians

/-- The store with a batch flagged and listed. -/
def attached (s : Store) (batch : List Address) : Store :=
  (s.flagged true batch).putSettings (s.settled.add batch)

/-- The store with a batch neither flagged nor listed. -/
def detached (s : Store) (batch : List Address) : Store :=
  (s.flagged false batch).putSettings (s.settled.remove batch)

/-- The store with another weight. -/
def reweighted (s : Store) (weight : Decimal) : Store :=
  s.putSettings { s.settled with weight }

theorem settled_of_settings? {s : Store} {record : Settings} (found : s.settings? = some record) :
    s.settled = record := by
  rw [settled, found, Option.getD_some]

theorem listed_of_settings? {s : Store} {record : Settings} (found : s.settings? = some record) :
    s.listed = record.guardians := by
  rw [listed, settled_of_settings? found]

theorem settings?_of_isSome {s : Store} (found : s.settings?.isSome = true) :
    s.settings? = some s.settled := by
  obtain ⟨record, found⟩ := Option.isSome_iff_exists.1 found
  rw [settled_of_settings? found, found]

theorem isGuardian_iff {s : Store} {a : Address} :
    s.isGuardian a = true ↔
      ∃ m, s.member? a = some m ∧ m.isGuardian = true ∧ m.standing = .electorate := by
  unfold isGuardian
  rw [Option.any_eq_true]
  simp

theorem isGuardian_congr {s t : Store} {a : Address} (same : t.member? a = s.member? a) :
    t.isGuardian a = s.isGuardian a := by
  unfold isGuardian
  rw [same]

/-! ## Records after flags have been written -/

theorem member?_putMember (s : Store) (m : Member) (a : Address) :
    (s.putMember m).member? a = if m.address = a then some m else s.member? a :=
  member?_insert ..

theorem member?_putSettings (s : Store) (record : Settings) (a : Address) :
    (s.putSettings record).member? a = s.member? a :=
  member?_insert ..

/-- A record has the new flag if its address is listed, and is otherwise as it was. -/
theorem member?_flagged (flag : Bool) (batch : List Address) (s : Store) (a : Address) :
    (s.flagged flag batch).member? a =
      (s.member? a).map fun m => if a ∈ batch then { m with isGuardian := flag } else m := by
  induction batch generalizing s with
  | nil => simp [flagged]
  | cons b rest ih =>
      simp only [flagged]
      cases found : s.member? b with
      | none =>
          rw [ih]
          by_cases here : a = b
          · subst here
            simp [found]
          · simp [here]
      | some m =>
          have place := address_of_member? found
          simp only [ih, member?_putMember, place]
          by_cases here : b = a
          · subst here
            simp [found, place]
          · simp [here, Ne.symm here]

end Store

namespace Guardians

variable (s : Store) (journal : List Event)

/-- The refusal of what needs settings before there are any. -/
def unsettled : Failure :=
  .refused (.brokenInvariant "democracy settings have not been initialized")

@[simp] theorem runOn_settings :
    settings.runOn ⟨s, [], journal⟩ =
      match s.settings? with
      | some record => (.ok record, ⟨s, [], journal⟩)
      | none => (.error unsettled, ⟨s, [], journal⟩) := by
  cases found : s.settings? <;> simp [settings, Host.readSettings, found, unsettled]

@[simp] theorem runOn_isInitialized :
    isInitialized.runOn ⟨s, [], journal⟩ = (.ok s.settings?.isSome, ⟨s, [], journal⟩) := by
  simp [isInitialized, Host.readSettings]

@[simp] theorem runOn_isGuardian (a : Address) :
    (isGuardian a).runOn ⟨s, [], journal⟩ = (.ok (s.isGuardian a), ⟨s, [], journal⟩) := by
  simp only [isGuardian, Action.runOn_bind, Roll.runOn_find?, Action.andThen_ok,
    Action.runOn_pure, Store.isGuardian]
  cases s.member? a with
  | none => rfl
  | some m => simp [Member.normalized]

@[simp] theorem runOn_confirmedAmong (addresses : List Address) :
    (confirmedAmong addresses).runOn ⟨s, [], journal⟩ =
      (.ok (addresses.filter s.isGuardian), ⟨s, [], journal⟩) := by
  induction addresses with
  | nil => rfl
  | cons a rest ih =>
      simp only [confirmedAmong, Action.runOn_bind, runOn_isGuardian, Action.andThen_ok, ih,
        Action.runOn_pure, List.filter_cons]

@[simp] theorem runOn_confirmed :
    confirmed.runOn ⟨s, [], journal⟩ =
      match s.settings? with
      | some record => (.ok (record.guardians.filter s.isGuardian), ⟨s, [], journal⟩)
      | none => (.error unsettled, ⟨s, [], journal⟩) := by
  cases found : s.settings? <;> simp [confirmed, found]

@[simp] theorem runOn_weight :
    weight.runOn ⟨s, [], journal⟩ =
      match s.settings? with
      | some record => (.ok record.weight, ⟨s, [], journal⟩)
      | none => (.error unsettled, ⟨s, [], journal⟩) := by
  cases found : s.settings? <;> simp [weight, found]

/-- The refusal of a weight outside `(0, 1]`. -/
def badWeight (weight : Decimal) : Failure :=
  .refused (.invalidRequest ("total voting weight must be within (0, 1], got " ++ weight.render))

theorem runOn_setUp (weight : Decimal) :
    (setUp weight).runOn ⟨s, [], journal⟩ =
      if weight.isPositiveFraction then
        (.ok (), ⟨s.putSettings (.fresh weight), [], journal⟩)
      else (.error (badWeight weight), ⟨s, [], journal⟩) := by
  cases range : weight.isPositiveFraction <;>
    simp [setUp, checkWeight, Host.writeSettings, badWeight, range]

theorem runOn_setWeight (weight : Decimal) :
    (setWeight weight).runOn ⟨s, [], journal⟩ =
      if weight.isPositiveFraction then
        if s.settings?.isSome then
          (.ok s.settled.weight, ⟨s.reweighted weight, [], journal⟩)
        else (.error unsettled, ⟨s, [], journal⟩)
      else (.error (badWeight weight), ⟨s, [], journal⟩) := by
  cases range : weight.isPositiveFraction <;> cases found : s.settings? <;>
    simp [setWeight, checkWeight, Host.writeSettings, badWeight, range, found,
      Store.reweighted, Store.settled]

/-- Where every address has a record, the flags are written one after another. -/
theorem runOn_flagAll (flag : Bool) (batch : List Address) (s : Store)
    (held : ∀ a ∈ batch, (s.member? a).isSome) :
    (flagAll flag batch).runOn ⟨s, [], journal⟩ =
      (.ok (), ⟨s.flagged flag batch, [], journal⟩) := by
  induction batch generalizing s with
  | nil => rfl
  | cons a rest ih =>
      obtain ⟨m, found⟩ := Option.isSome_iff_exists.1 (held a List.mem_cons_self)
      simp only [flagAll, Action.runOn_bind, Roll.runOn_setGuardianFlag, found,
        Action.andThen_ok, Store.flagged]
      refine ih _ fun b inRest => ?_
      rw [Store.member?_putMember]
      split
      · rfl
      · exact held b (List.mem_cons_of_mem _ inRest)

theorem runOn_attach {batch : List Address} (found : s.settings?.isSome = true)
    (held : ∀ a ∈ batch, (s.member? a).isSome) :
    (attach batch).runOn ⟨s, [], journal⟩ = (.ok (), ⟨s.attached batch, [], journal⟩) := by
  simp [attach, Store.settings?_of_isSome found, runOn_flagAll journal true batch s held,
    Host.writeSettings, Store.attached]

theorem runOn_detach {batch : List Address} (found : s.settings?.isSome = true)
    (held : ∀ a ∈ batch, (s.member? a).isSome) :
    (detach batch).runOn ⟨s, [], journal⟩ = (.ok (), ⟨s.detached batch, [], journal⟩) := by
  simp [detach, Store.settings?_of_isSome found, runOn_flagAll journal false batch s held,
    Host.writeSettings, Store.detached]

/-- What the records do not confirm is dropped; nothing is written if all is confirmed. -/
theorem runOn_reconcile :
    reconcile.runOn ⟨s, [], journal⟩ =
      match s.settings? with
      | none => (.error unsettled, ⟨s, [], journal⟩)
      | some record =>
          let dropped := record.guardians.filter fun a => !s.isGuardian a
          (.ok dropped, ⟨if dropped.isEmpty then s else
            s.putSettings { record with guardians := record.guardians.filter s.isGuardian },
            [], journal⟩) := by
  cases found : s.settings? with
  | none => simp [reconcile, found]
  | some record =>
      have dropped : (record.guardians.filter fun a =>
          !(record.guardians.filter s.isGuardian).contains a) =
            record.guardians.filter fun a => !s.isGuardian a := by
        refine List.filter_congr fun a listed => ?_
        simp [listed]
      simp only [reconcile, Action.runOn_bind, runOn_settings, found, Action.andThen_ok,
        runOn_confirmed, dropped]
      cases (record.guardians.filter fun a => !s.isGuardian a).isEmpty <;>
        simp [Host.writeSettings]

end Guardians

end Suffrage
