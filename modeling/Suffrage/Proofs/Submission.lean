/-
# Suffrage.Proofs.Submission -- what is refused at submission fails in the end

A motion is checked twice.  `Motion.validate` looks at its text when it is submitted, and
`Motion.enact` checks everything, the state included, when it is carried out.  The second check
covers the first: what `validate` refuses is never carried out, whatever the host holds and
whichever of its services are out of order (`submission_agrees`).

The two look in different orders.  Carrying out begins with the creator (`Motion.authorize`), whose
text must be the address of a guardian, and an empty text is none.  Only then comes the demand, and
its first check is the one made at submission (`Motion.runOn_enact_of_invalid`).  So if the creator
is a guardian, both refuse with the same words.
-/
import Suffrage.Proofs.Motion

namespace Suffrage

set_option autoImplicit false

/-! ## Looking changes nothing -/

section Looking

variable {α : Type} (h : Host)

@[simp] theorem Host.snd_runOn_reading (service : Service) (look : Store → α) :
    ((Host.reading service look).runOn h).2 = h := by
  have looked : (get : Action Host Host).runOn h = (.ok h, h) := rfl
  rw [Host.reading, Host.serve, Action.runOn_bind, looked, Action.andThen_ok]
  split <;> rfl

@[simp] theorem Guardians.snd_runOn_isGuardian (a : Address) :
    ((Guardians.isGuardian a).runOn h).2 = h := by
  simp [Guardians.isGuardian, Roll.find?, Host.readMember]

end Looking

namespace Motion

variable {h : Host} {m : Motion} {a : Address} {reason : Refusal}

/-! ## The creator comes first -/

/-- A creator is refused, or is found to be a guardian.  The host stays as it is. -/
theorem authorize_cases (h : Host) (creator : String) :
    (∃ failure, (authorize creator).runOn h = (.error failure, h)) ∨
      ∃ a, (authorize creator).runOn h = (.ok a, h) := by
  cases parsed : Address.parse creator with
  | error e => exact .inl ⟨_, by simp [authorize, parsed]; rfl⟩
  | ok a =>
      have stays := Guardians.snd_runOn_isGuardian h a
      cases looked : (Guardians.isGuardian a).runOn h with
      | mk answer t =>
          obtain rfl : t = h := by simpa [looked] using stays
          match answer with
          | .error failure => exact .inl ⟨failure, by simp [authorize, parsed, looked]⟩
          | .ok false => exact .inl ⟨_, by simp [authorize, parsed, looked]; rfl⟩
          | .ok true => exact .inr ⟨a, by simp [authorize, parsed, looked]⟩

/-- The creator is authorized if the address is one and its record says so. -/
theorem runOn_authorize_of_guardian (parsed : Address.parse m.creator = .ok a)
    (serves : (Guardians.isGuardian a).runOn h = (.ok true, h)) :
    (authorize m.creator).runOn h = (.ok a, h) := by
  simp [authorize, parsed, serves]

/-- Who is authorized is somebody. -/
theorem creator_of_authorized (authorized : (authorize m.creator).runOn h = (.ok a, h)) :
    m.creator.isEmpty = false := by
  cases empty : m.creator.isEmpty with
  | false => rfl
  | true =>
      have malformed : Address.parse m.creator = .error (.address "empty address") := by
        rw [Address.parse, if_pos empty]
      simp [authorize, malformed] at authorized

/-- Nothing is looked at before the creator. -/
theorem runOn_enact_of_unauthorized {failure : Failure}
    (refused : (authorize m.creator).runOn h = (.error failure, h)) :
    m.enact.runOn h = (.error failure, h) := by
  obtain ⟨title, description, creator, demand⟩ := m
  cases demand with
  | addGuardians addresses => simp [enact, addGuardians, refused]
  | removeGuardians addresses => simp [enact, removeGuardians, refused]
  | setWeight weight => simp [enact, setWeight, refused]

/-! ## The demand comes next -/

/-- What is wrong with a demand by itself: an empty batch, or a weight out of range. -/
def flaw? : Demand → Option String
  | .addGuardians addresses => if addresses.isEmpty then some "no guardians to add" else none
  | .removeGuardians addresses => if addresses.isEmpty then some "no guardians to remove" else none
  | .setWeight weight =>
      if weight.isPositiveFraction then none
      else some ("total voting weight must be within (0, 1], got " ++ weight.render)

/-- At submission a motion of somebody is refused for its flaw. -/
theorem flaw?_of_validate (somebody : m.creator.isEmpty = false)
    (invalid : m.validate = .error reason) :
    ∃ detail, reason = .invalidRequest detail ∧ flaw? m.demand = some detail := by
  rw [validate, if_neg (by simp [somebody])] at invalid
  cases demand : m.demand with
  | addGuardians addresses =>
      simp only [demand] at invalid
      split at invalid <;> cases invalid
      rename_i empty
      exact ⟨_, rfl, if_pos empty⟩
  | removeGuardians addresses =>
      simp only [demand] at invalid
      split at invalid <;> cases invalid
      rename_i empty
      exact ⟨_, rfl, if_pos empty⟩
  | setWeight weight =>
      simp only [demand] at invalid
      split at invalid <;> cases invalid
      rename_i outside
      exact ⟨_, rfl, if_neg outside⟩

/-- A flaw is what an authorized creator is told, and nothing else has been looked at. -/
theorem runOn_enact_of_flaw {detail : String}
    (authorized : (authorize m.creator).runOn h = (.ok a, h))
    (flaw : flaw? m.demand = some detail) :
    m.enact.runOn h = (.error (.refused (.invalidRequest detail)), h) := by
  obtain ⟨title, description, creator, demand⟩ := m
  cases demand with
  | addGuardians addresses =>
      obtain ⟨empty, rfl⟩ : addresses.isEmpty = true ∧ "no guardians to add" = detail := by
        simpa [flaw?] using flaw
      simp [enact, addGuardians, authorized, readBatch, empty]
  | removeGuardians addresses =>
      obtain ⟨empty, rfl⟩ : addresses.isEmpty = true ∧ "no guardians to remove" = detail := by
        simpa [flaw?] using flaw
      simp [enact, removeGuardians, authorized, readBatch, empty]
  | setWeight weight =>
      obtain ⟨outside, rfl⟩ : weight.isPositiveFraction = false ∧
          "total voting weight must be within (0, 1], got " ++ weight.render = detail := by
        simpa [flaw?] using flaw
      simp [enact, setWeight, authorized, Guardians.setWeight, Guardians.checkWeight, outside]

/-- What is refused at submission is refused in the end, and the host stays as it is. -/
theorem runOn_enact_of_invalid (h : Host) (invalid : m.validate = .error reason) :
    ∃ failure, m.enact.runOn h = (.error failure, h) := by
  obtain ⟨failure, refused⟩ | ⟨a, authorized⟩ := authorize_cases h m.creator
  · exact ⟨failure, runOn_enact_of_unauthorized refused⟩
  · obtain ⟨detail, -, flaw⟩ := flaw?_of_validate (creator_of_authorized authorized) invalid
    exact ⟨_, runOn_enact_of_flaw authorized flaw⟩

end Motion

open Motion

/-- The check at submission and the execution of a motion agree, on every host.

* A motion that is carried out passes the check.
* A motion that fails the check fails when it is carried out, and changes nothing.
* If moreover its creator is a guardian, both fail with the same invalid request. -/
theorem submission_agrees (m : Motion) (h : Host) :
    (∀ addresses t, m.enact.runOn h = (.ok addresses, t) → m.validate = .ok ()) ∧
      ∀ reason, m.validate = .error reason →
        (∃ failure, m.enact.runOn h = (.error failure, h)) ∧
          ∀ a, Address.parse m.creator = .ok a →
            (Guardians.isGuardian a).runOn h = (.ok true, h) →
              ∃ detail, reason = .invalidRequest detail ∧
                m.enact.runOn h = (.error (.refused (.invalidRequest detail)), h) := by
  refine ⟨fun addresses t success => ?_, fun reason invalid => ⟨?_, fun a parsed serves => ?_⟩⟩
  · cases checked : m.validate with
    | ok done => rfl
    | error reason =>
        obtain ⟨failure, run⟩ := runOn_enact_of_invalid h checked
        rw [run] at success
        cases success
  · exact runOn_enact_of_invalid h invalid
  · have authorized := runOn_authorize_of_guardian parsed serves
    obtain ⟨detail, rfl, flaw⟩ := flaw?_of_validate (creator_of_authorized authorized) invalid
    exact ⟨detail, rfl, runOn_enact_of_flaw authorized flaw⟩

/-- A motion that would leave the guardians without any weight. -/
def Motion.weightless : Motion where
  title := "Weight"
  description := ""
  creator := "civ_a"
  demand := .setWeight .zero

/-- A guardian is told the same both times, although no settings have been written. -/
theorem submission_agrees_weightless :
    let h : Host := ⟨Store.empty.putMember ⟨⟨"civ_a"⟩, .electorate, true⟩, [], []⟩
    let reason : Refusal :=
      .invalidRequest "total voting weight must be within (0, 1], got 0"
    Motion.weightless.validate = .error reason ∧
      Motion.weightless.enact.runOn h = (.error (.refused reason), h) := by
  intro h reason
  have invalid : Motion.weightless.validate = .error reason := by rfl
  have parsed : Address.parse Motion.weightless.creator = .ok ⟨"civ_a"⟩ := by rfl
  have serves : (Guardians.isGuardian ⟨"civ_a"⟩).runOn h = (.ok true, h) := by rfl
  obtain ⟨detail, same, run⟩ := ((submission_agrees .weightless h).2 _ invalid).2 _ parsed serves
  rw [same]
  exact ⟨same ▸ invalid, run⟩

end Suffrage
