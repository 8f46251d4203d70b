/-
# Suffrage.Proofs.Refusal -- what is refused changes nothing

An enrolment, an approval and a demand about the guardians each make all their checks before
their first write.  `Request.Admissible` is the condition on the store that they check, and
`Request.effect` is all that they do to the host if it holds.  At any time of a session a
request has its whole effect, or it is refused and the host is as it was, the journal
included (`refusal_changes_nothing`).

The writes themselves call operations that could fail.  In the store of a session they do not:

* its counters are exact, so the move of a pending member finds room and somebody to count;
* it has settings wherever it has a guardian;
* every candidate that has passed the checks has a record.
-/
import Suffrage.Proofs.Founding

namespace Suffrage

set_option autoImplicit false

open Suffrage.Action (Decides Holds)

theorem Standing.pending_of_mayBecome {standing : Standing}
    (step : standing.mayBecome .electorate = true) : standing = .pendingApproval := by
  cases standing with
  | unset => cases step
  | pendingApproval => rfl
  | electorate => cases step

/-! ## Demands -/

namespace Demand

/-- The demand carried out for its creator; the answer is left out. -/
def act (creator : String) : Demand → Action Host Unit
  | .addGuardians raw => do let _ ← Motion.addGuardians creator raw
  | .removeGuardians raw => do let _ ← Motion.removeGuardians creator raw
  | .setWeight weight => Motion.setWeight creator weight

/-- What the demand asks of the records, whoever its creator is. -/
def Fits (s : Store) : Demand → Prop
  | .addGuardians raw => Motion.IsBatch raw ∧ ∀ a ∈ Motion.batchOf raw, s.Eligible a
  | .removeGuardians raw =>
      Motion.IsBatch raw ∧ (∀ a ∈ Motion.batchOf raw, s.isGuardian a = true) ∧
        s.Spares (Motion.batchOf raw)
  | .setWeight weight => weight.isPositiveFraction = true

/-- The host with the demand carried out. -/
def effect (h : Host) : Demand → Host
  | .addGuardians raw =>
      { h with
        store := h.store.attached (Motion.batchOf raw)
        journal := h.journal ++ [.guardiansAdded (Motion.batchOf raw)] }
  | .removeGuardians raw =>
      { h with
        store := h.store.detached (Motion.batchOf raw)
        journal := h.journal ++ [.guardiansRemoved (Motion.batchOf raw)] }
  | .setWeight weight =>
      { h with
        store := h.store.reweighted weight
        journal := h.journal ++ [.weightChanged h.store.settled.weight weight] }

end Demand

namespace Store.Coherent

variable {founded : Prop} {s : Store} (coherent : s.Coherent founded) (journal : List Event)
include coherent

/-- Who is a guardian is listed, so there are settings. -/
theorem settings?_of_authorizes {creator : String} (authorized : s.Authorizes creator) :
    s.settings?.isSome = true := by
  have listed := (coherent.listed_iff ⟨creator⟩).2 authorized.2
  exact (coherent.strengthen (List.ne_nil_of_mem listed)).settings?_isSome

/-- More guardians: the creator is one, and each of a batch is eligible. -/
theorem decides_addGuardians (creator : String) (raw : List String) :
    Decides (s.Authorizes creator ∧ Motion.IsBatch raw ∧ ∀ a ∈ Motion.batchOf raw, s.Eligible a)
      (Motion.addGuardians creator raw) ⟨s, [], journal⟩ (Motion.batchOf raw)
      ⟨s.attached (Motion.batchOf raw), [], journal ++ [.guardiansAdded (Motion.batchOf raw)]⟩ := by
  refine (Motion.decides_addGuardians s journal creator raw).congr ?_
  constructor
  · rintro ⟨authorized, batch, eligible, -⟩
    exact ⟨authorized, batch, eligible⟩
  · rintro ⟨authorized, batch, eligible⟩
    exact ⟨authorized, batch, eligible, coherent.settings?_of_authorizes authorized⟩

/-- Fewer guardians: the creator is one, each of a batch is one, and some other one is left. -/
theorem decides_removeGuardians (creator : String) (raw : List String) :
    Decides (s.Authorizes creator ∧ Motion.IsBatch raw ∧
        (∀ a ∈ Motion.batchOf raw, s.isGuardian a = true) ∧ s.Spares (Motion.batchOf raw))
      (Motion.removeGuardians creator raw) ⟨s, [], journal⟩ (Motion.batchOf raw)
      ⟨s.detached (Motion.batchOf raw), [],
        journal ++ [.guardiansRemoved (Motion.batchOf raw)]⟩ := by
  refine (Motion.decides_removeGuardians s journal creator raw).congr ?_
  constructor
  · rintro ⟨authorized, batch, serving, -, spares⟩
    exact ⟨authorized, batch, serving, spares⟩
  · rintro ⟨authorized, batch, serving, spares⟩
    exact ⟨authorized, batch, serving, coherent.settings?_of_authorizes authorized, spares⟩

theorem decides_demand (creator : String) (demand : Demand) :
    Decides (s.Authorizes creator ∧ demand.Fits s) (demand.act creator) ⟨s, [], journal⟩ ()
      (demand.effect ⟨s, [], journal⟩) := by
  cases demand with
  | addGuardians raw =>
      exact (coherent.decides_addGuardians journal creator raw).andThen fun _ => rfl
  | removeGuardians raw =>
      exact (coherent.decides_removeGuardians journal creator raw).andThen fun _ => rfl
  | setWeight weight =>
      refine (Motion.decides_setWeight s journal creator weight).congr ?_
      constructor
      · rintro ⟨authorized, range, -⟩
        exact ⟨authorized, range⟩
      · rintro ⟨authorized, range⟩
        exact ⟨authorized, range, coherent.settings?_of_authorizes authorized⟩

/-! ## Approvals -/

/-- Only a pending member moves into the electorate, and nothing else stops the move. -/
theorem decides_promotion (a : Address) (operator : String) :
    Decides (s.member? a = some (.pending a)) (Roll.transition a .electorate operator)
      ⟨s, [], journal⟩ { Member.pending a with standing := .electorate }
      ⟨s.moved (.pending a) .electorate, [],
        journal ++ [.standingChanged a .pendingApproval .electorate operator]⟩ := by
  obtain ⟨none_, run⟩ | ⟨m, found, refused, run⟩ | ⟨m, found, step, -, run⟩ :=
    coherent.counted.transition_cases journal a .electorate operator
  · refine .inr ⟨fun pending => ?_, _, run⟩
    rw [none_] at pending
    cases pending
  · refine .inr ⟨fun pending => ?_, _, run⟩
    rw [found] at pending
    cases pending
    cases refused
  · have pending : m = .pending a := by
      have place := address_of_member? found
      have flag := coherent.unflagged_of_mayBecome found step
      have standing := Standing.pending_of_mayBecome step
      obtain ⟨address, standing', isGuardian⟩ := m
      cases place
      cases flag
      cases standing
      rfl
    subst pending
    exact .inl ⟨found, run⟩

/-- An approval needs a guardian and a pending member. -/
theorem decides_approve (approver member : Address) :
    Decides (approver.isWellFormed = true ∧ member.isWellFormed = true ∧
        s.isGuardian approver = true ∧ s.member? member = some (.pending member))
      (Assembly.approve approver.text member.text) ⟨s, [], journal⟩
      { Member.pending member with standing := .electorate }
      ⟨s.moved (.pending member) .electorate, [],
        journal ++ [.standingChanged member .pendingApproval .electorate approver.text,
          .memberApproved member approver]⟩ := by
  refine (Assembly.decides_parse approver _).bind fun _ =>
    (Assembly.decides_parse member _).bind fun _ => ?_
  apply Decides.read (Guardians.runOn_isGuardian s journal approver)
  have promotion := coherent.decides_promotion journal member approver.text
  refine (Decides.check fun _ => promotion.andThen fun _ => ?_).congr ?_
  · simp
  · simp

end Store.Coherent

/-! ## Requests -/

/-- What can be asked of an electorate once it is there. -/
inductive Request where
  | enroll (address : String) (nickname : Option String)
  | approve (approver member : String)
  | carryOut (creator : String) (demand : Demand)
  | enact (motion : Motion)
  deriving DecidableEq, Repr

namespace Request

/-- The request as an action; its answer is left out. -/
def act : Request → Action Host Unit
  | .enroll address nickname => do let _ ← Assembly.enroll address nickname
  | .approve approver member => do let _ ← Assembly.approve approver member
  | .carryOut creator demand => demand.act creator
  | .enact motion => do let _ ← motion.enact

/-- What the request needs of the store. -/
def Admissible (s : Store) : Request → Prop
  | .enroll address _ =>
      (⟨address⟩ : Address).isWellFormed = true ∧ s.member? ⟨address⟩ = none ∧
        s.memberCount ≠ Roll.maxCount
  | .approve approver member =>
      (⟨approver⟩ : Address).isWellFormed = true ∧ (⟨member⟩ : Address).isWellFormed = true ∧
        s.isGuardian ⟨approver⟩ = true ∧ s.member? ⟨member⟩ = some (.pending ⟨member⟩)
  | .carryOut creator demand => s.Authorizes creator ∧ demand.Fits s
  | .enact motion => s.Authorizes motion.creator ∧ motion.demand.Fits s

/-- The host with the request carried out. -/
def effect (h : Host) : Request → Host
  | .enroll address nickname =>
      { h with
        store := (h.store.enrolled ⟨address⟩).named ⟨address⟩ nickname
        journal := h.journal ++ [.memberEnrolled ⟨address⟩] }
  | .approve approver member =>
      { h with
        store := h.store.moved (.pending ⟨member⟩) .electorate
        journal := h.journal ++
          [.standingChanged ⟨member⟩ .pendingApproval .electorate approver,
            .memberApproved ⟨member⟩ ⟨approver⟩] }
  | .carryOut _ demand => demand.effect h
  | .enact motion => motion.demand.effect h

end Request

/-- A motion carries out its demand for its creator. -/
theorem Motion.runOn_enact (motion : Motion) (h : Host) :
    (Request.enact motion).act.runOn h = (motion.demand.act motion.creator).runOn h := by
  obtain ⟨title, description, creator, demand⟩ := motion
  cases demand with
  | addGuardians raw => rfl
  | removeGuardians raw => rfl
  | setWeight weight =>
      show ((Motion.setWeight creator weight >>= fun _ => pure []) >>= fun _ => pure ()).runOn h =
        (Motion.setWeight creator weight).runOn h
      rw [Action.runOn_bind, Action.runOn_bind]
      obtain ⟨result, t⟩ := (Motion.setWeight creator weight).runOn h
      cases result <;> rfl

/-- At any time of a session a request either has its whole effect, exactly if the store admits
it, or it is refused and leaves the host as it was: records, counters, nicknames, settings,
ballots, markers and the journal.  It does not matter which check refuses it, or where in a batch
the candidate stands that does not pass. -/
theorem refusal_changes_nothing (calls : List Call) (request : Request) :
    let h := Host.fresh.after calls
    (request.Admissible h.store ∧ request.act.runOn h = (.ok (), request.effect h)) ∨
      (¬request.Admissible h.store ∧ ∃ e, request.act.runOn h = (.error e, h)) := by
  intro h
  have start : Holds (Store.Coherent False) h := Store.Coherent.fresh_after calls
  clear_value h
  obtain ⟨s, outages, journal⟩ := h
  obtain ⟨rfl, coherent⟩ := start
  show Decides (request.Admissible s) request.act ⟨s, [], journal⟩ () _
  cases request with
  | enroll address nickname =>
      exact (Assembly.decides_enroll journal coherent.counted ⟨address⟩ nickname).andThen
        fun _ => rfl
  | approve approver member =>
      exact (coherent.decides_approve journal ⟨approver⟩ ⟨member⟩).andThen fun _ => rfl
  | carryOut creator demand => exact coherent.decides_demand journal creator demand
  | enact motion =>
      unfold Decides
      rw [motion.runOn_enact]
      exact coherent.decides_demand journal motion.creator motion.demand

end Suffrage
