/-
# Suffrage.Proofs.Motion -- a motion is carried out whole or not at all

Every handler makes all its checks before its first write.  What it checks is one
condition on the store and the request, and it succeeds exactly if that holds; otherwise
neither the store nor the journal changes (`decides_addGuardians`,
`decides_removeGuardians`, `decides_setWeight`).

The conditions are `Store.Authorizes` for the creator, `IsBatch` for the addresses as they
were written, and one condition on the record of each candidate.
-/
import Suffrage.Proofs.Guardians

namespace Suffrage

set_option autoImplicit false

namespace Store

/-- The text is the address of a guardian. -/
def Authorizes (s : Store) (creator : String) : Prop :=
  (⟨creator⟩ : Address).isWellFormed = true ∧ s.isGuardian ⟨creator⟩ = true

/-- A member who may become a guardian. -/
def Eligible (s : Store) (a : Address) : Prop :=
  ∃ m, s.member? a = some m ∧ m.standing = .electorate ∧ m.isGuardian = false

/-- Some guardian on the list is not in the batch. -/
def Spares (s : Store) (batch : List Address) : Prop :=
  ∃ a ∈ s.listed, s.isGuardian a = true ∧ a ∉ batch

end Store

namespace Motion

open Suffrage.Action (Decides)

variable (s : Store) (journal : List Event)

/-- Distinct well-formed addresses, and at least one. -/
def IsBatch (raw : List String) : Prop :=
  raw ≠ [] ∧ raw.Nodup ∧ ∀ text ∈ raw, (⟨text⟩ : Address).isWellFormed = true

/-- The addresses that a batch names. -/
def batchOf (raw : List String) : List Address := raw.map Address.mk

theorem IsBatch.nodup {raw : List String} (batch : IsBatch raw) : (batchOf raw).Nodup :=
  List.pairwise_map.2 (batch.2.1.imp fun apart same => apart (Address.mk.inj same))

theorem IsBatch.exists_mem {raw : List String} (batch : IsBatch raw) : ∃ a, a ∈ batchOf raw := by
  obtain ⟨text, inside⟩ := List.exists_mem_of_ne_nil raw batch.1
  exact ⟨⟨text⟩, List.mem_map_of_mem inside⟩

/-! ## Reading a batch -/

theorem parse_of_wellFormed {text : String} (wellFormed : (⟨text⟩ : Address).isWellFormed = true) :
    Address.parse text = .ok ⟨text⟩ :=
  Address.parse_eq_ok_iff.2 ⟨rfl, wellFormed⟩

theorem parse_of_malformed {text : String}
    (malformed : ¬(⟨text⟩ : Address).isWellFormed = true) : ∃ e, Address.parse text = .error e := by
  cases parsed : Address.parse text with
  | error e => exact ⟨e, rfl⟩
  | ok a =>
      obtain ⟨rfl, wellFormed⟩ := Address.parse_eq_ok_iff.1 parsed
      exact absurd wellFormed malformed

/-- Distinct well-formed addresses, none of which has been seen. -/
def IsDistinct (seen : List Address) (raw : List String) : Prop :=
  raw.Nodup ∧ ∀ text ∈ raw, (⟨text⟩ : Address).isWellFormed = true ∧ ⟨text⟩ ∉ seen

theorem isDistinct_cons {seen : List Address} {text : String} {rest : List String} :
    IsDistinct seen (text :: rest) ↔
      (⟨text⟩ : Address).isWellFormed = true ∧ ⟨text⟩ ∉ seen ∧
        IsDistinct (⟨text⟩ :: seen) rest := by
  constructor
  · rintro ⟨distinct, each⟩
    obtain ⟨outside, distinct⟩ := List.nodup_cons.1 distinct
    obtain ⟨wellFormed, new⟩ := each text List.mem_cons_self
    refine ⟨wellFormed, new, distinct, fun other inRest => ?_⟩
    obtain ⟨wellFormed', new'⟩ := each other (List.mem_cons_of_mem _ inRest)
    refine ⟨wellFormed', fun old => ?_⟩
    rcases List.mem_cons.1 old with same | old
    · exact outside (Address.mk.inj same ▸ inRest)
    · exact new' old
  · rintro ⟨wellFormed, new, distinct, each⟩
    refine ⟨List.nodup_cons.2 ⟨fun inRest => ?_, distinct⟩, fun other inside => ?_⟩
    · exact (each text inRest).2 List.mem_cons_self
    · rcases List.mem_cons.1 inside with rfl | inRest
      · exact ⟨wellFormed, new⟩
      · exact ⟨(each other inRest).1, fun old =>
          (each other inRest).2 (List.mem_cons_of_mem _ old)⟩

/-- One address is read: it may be malformed, or repeated, or the reading goes on. -/
theorem readDistinct_cons (seen : List Address) (text : String) (rest : List String) :
    if (⟨text⟩ : Address).isWellFormed = true ∧ ⟨text⟩ ∉ seen then
      readDistinct seen (text :: rest) =
        (readDistinct (⟨text⟩ :: seen) rest).map (⟨text⟩ :: ·)
    else ∃ e, readDistinct seen (text :: rest) = .error e := by
  by_cases wellFormed : (⟨text⟩ : Address).isWellFormed = true
  · have parsed := parse_of_wellFormed wellFormed
    have notEmpty : text.isEmpty = false := by
      cases empty : text.isEmpty with
      | false => rfl
      | true => simp [Address.parse, empty] at parsed
    by_cases repeated : (⟨text⟩ : Address) ∈ seen
    · rw [if_neg fun both => both.2 repeated]
      exact ⟨_, by simp [readDistinct, notEmpty, parsed, repeated]; rfl⟩
    · rw [if_pos ⟨wellFormed, repeated⟩]
      cases later : readDistinct (⟨text⟩ :: seen) rest <;>
        simp [readDistinct, notEmpty, parsed, repeated, later, Except.map]
  · rw [if_neg fun both => wellFormed both.1]
    obtain ⟨e, parsed⟩ := parse_of_malformed wellFormed
    cases empty : text.isEmpty with
    | true => exact ⟨_, by simp [readDistinct, empty]; rfl⟩
    | false => exact ⟨_, by simp [readDistinct, empty, parsed]; rfl⟩

theorem readDistinct_decides (seen : List Address) (raw : List String) :
    (IsDistinct seen raw ∧ readDistinct seen raw = .ok (batchOf raw)) ∨
      (¬IsDistinct seen raw ∧ ∃ e, readDistinct seen raw = .error e) := by
  induction raw generalizing seen with
  | nil => exact .inl ⟨⟨List.nodup_nil, by simp⟩, rfl⟩
  | cons text rest ih =>
      have step := readDistinct_cons seen text rest
      split at step
      · rename_i accepted
        rw [isDistinct_cons, step]
        obtain ⟨distinct, read⟩ | ⟨fails, e, read⟩ := ih (⟨text⟩ :: seen)
        · exact .inl ⟨⟨accepted.1, accepted.2, distinct⟩, by rw [read]; rfl⟩
        · exact .inr ⟨fun all => fails all.2.2, e, by rw [read]; rfl⟩
      · rename_i rejected
        refine .inr ⟨fun all => rejected ?_, step⟩
        obtain ⟨wellFormed, new, -⟩ := isDistinct_cons.1 all
        exact ⟨wellFormed, new⟩

theorem decides_readBatch (action : String) (raw : List String) (h : Host) :
    Decides (IsBatch raw) (Action.lift ((readBatch action raw).mapError Failure.refused)) h
      (batchOf raw) h := by
  refine .lift ?_
  unfold readBatch IsBatch
  cases raw with
  | nil => exact .inr ⟨fun batch => batch.1 rfl, _, rfl⟩
  | cons text rest =>
      obtain ⟨⟨distinct, each⟩, read⟩ | ⟨fails, e, read⟩ := readDistinct_decides [] (text :: rest)
      · refine .inl ⟨⟨List.cons_ne_nil _ _, distinct, fun t member => (each t member).1⟩, ?_⟩
        simp [read]
      · refine .inr ⟨fun batch => fails ⟨batch.2.1, fun t member => ⟨batch.2.2 t member, by simp⟩⟩,
          ?_⟩
        exact ⟨.refused e, by simp [read]⟩

/-! ## Checks -/

theorem decides_authorize (creator : String) :
    Decides (s.Authorizes creator) (authorize creator) ⟨s, [], journal⟩ ⟨creator⟩
      ⟨s, [], journal⟩ := by
  refine .bind (a := ⟨creator⟩) (.lift ?_) fun _ => ?_
  · by_cases wellFormed : (⟨creator⟩ : Address).isWellFormed = true
    · exact .inl ⟨wellFormed, by rw [parse_of_wellFormed wellFormed]; rfl⟩
    · obtain ⟨e, parsed⟩ := parse_of_malformed wellFormed
      exact .inr ⟨wellFormed, _, by rw [parsed]; rfl⟩
  · refine .read (Guardians.runOn_isGuardian s journal ⟨creator⟩) ?_
    refine .congr (.check (q := True) fun _ => .inl ⟨trivial, rfl⟩) ?_
    simp

theorem decides_checkEligible (a : Address) :
    Decides (s.Eligible a) (checkEligible a) ⟨s, [], journal⟩ () ⟨s, [], journal⟩ := by
  refine .read (Roll.runOn_find? s journal a) ?_
  unfold Store.Eligible
  cases found : s.member? a with
  | none => exact .inr ⟨by simp, _, rfl⟩
  | some m =>
      by_cases active : m.standing = .electorate
      · cases flag : m.isGuardian with
        | true => exact .inr ⟨by simp [flag], _, by simp [Member.normalized, active, flag]; rfl⟩
        | false => exact .inl ⟨⟨m, rfl, active, flag⟩, by simp [Member.normalized, active, flag]⟩
      · exact .inr ⟨by simp [active], _, by simp [Member.normalized, active]; rfl⟩

theorem decides_checkServing (a : Address) :
    Decides (s.isGuardian a = true) (checkServing a) ⟨s, [], journal⟩ () ⟨s, [], journal⟩ := by
  refine .congr (.read (Roll.runOn_isMember s journal a) (.check (q := s.isGuardian a = true)
    fun _ => .read (Guardians.runOn_isGuardian s journal a) ?_)) ?_
  · cases serves : s.isGuardian a with
    | true => exact .inl ⟨rfl, rfl⟩
    | false => exact .inr ⟨by simp, _, rfl⟩
  · rw [Store.hasMember_eq]
    refine ⟨And.right, fun serves => ⟨?_, serves⟩⟩
    obtain ⟨m, found, -⟩ := Store.isGuardian_iff.1 serves
    simp [found]

/-- A batch passes a check exactly if each of its members does. -/
theorem decides_checkAll {check : Address → Action Host Unit} {p : Address → Prop} {h : Host}
    (each : ∀ a, Decides (p a) (check a) h () h) (batch : List Address) :
    Decides (∀ a ∈ batch, p a) (checkAll check batch) h () h := by
  induction batch with
  | nil => exact .inl ⟨by simp, rfl⟩
  | cons a rest ih => exact .congr (.bind (each a) fun _ => ih) (by simp)

/-! ## The three demands -/

theorem decides_addGuardians (creator : String) (raw : List String) :
    Decides (s.Authorizes creator ∧ IsBatch raw ∧ (∀ a ∈ batchOf raw, s.Eligible a) ∧
        s.settings?.isSome = true)
      (addGuardians creator raw) ⟨s, [], journal⟩ (batchOf raw)
      ⟨s.attached (batchOf raw), [], journal ++ [.guardiansAdded (batchOf raw)]⟩ := by
  refine .bind (decides_authorize s journal creator) fun _ =>
    .bind (decides_readBatch "add" raw _) fun _ =>
      .bind (decides_checkAll (decides_checkEligible s journal) _) fun eligible => ?_
  cases settled : s.settings?.isSome with
  | true =>
      have held : ∀ a ∈ batchOf raw, (s.member? a).isSome := fun a member => by
        obtain ⟨m, found, -⟩ := eligible a member
        simp [found]
      refine .inl ⟨rfl, ?_⟩
      simp [Guardians.runOn_attach s journal settled held]
  | false =>
      refine .inr ⟨by simp, Guardians.unsettled, ?_⟩
      simp [Guardians.attach, Option.isSome_eq_false_iff.1 settled |> Option.isNone_iff_eq_none.1]

theorem decides_removeGuardians (creator : String) (raw : List String) :
    Decides (s.Authorizes creator ∧ IsBatch raw ∧ (∀ a ∈ batchOf raw, s.isGuardian a = true) ∧
        s.settings?.isSome = true ∧ s.Spares (batchOf raw))
      (removeGuardians creator raw) ⟨s, [], journal⟩ (batchOf raw)
      ⟨s.detached (batchOf raw), [], journal ++ [.guardiansRemoved (batchOf raw)]⟩ := by
  refine .bind (decides_authorize s journal creator) fun _ =>
    .bind (decides_readBatch "remove" raw _) fun _ =>
      .bind (decides_checkAll (decides_checkServing s journal) _) fun serving => ?_
  cases settled : s.settings?.isSome with
  | true =>
      have record := Store.settings?_of_isSome settled
      have held : ∀ a ∈ batchOf raw, (s.member? a).isSome := fun a member => by
        obtain ⟨m, found, -⟩ := Store.isGuardian_iff.1 (serving a member)
        simp [found]
      have confirmed := Guardians.runOn_confirmed s journal
      rw [record] at confirmed
      refine .congr (.read confirmed (.check (q := True) fun _ => .inl ⟨trivial, ?_⟩)) ?_
      · simp [Guardians.runOn_detach s journal settled held]
      · simp [Store.Spares, Store.listed, and_comm]
  | false =>
      refine .inr ⟨by simp, Guardians.unsettled, ?_⟩
      simp [Option.isSome_eq_false_iff.1 settled |> Option.isNone_iff_eq_none.1]

theorem decides_setWeight (creator : String) (weight : Decimal) :
    Decides (s.Authorizes creator ∧ weight.isPositiveFraction = true ∧ s.settings?.isSome = true)
      (setWeight creator weight) ⟨s, [], journal⟩ ()
      ⟨s.reweighted weight, [], journal ++ [.weightChanged s.settled.weight weight]⟩ := by
  refine .bind (decides_authorize s journal creator) fun _ => ?_
  unfold Decides
  rw [Action.runOn_bind, Guardians.runOn_setWeight]
  cases range : weight.isPositiveFraction with
  | false => exact .inr ⟨by simp, _, rfl⟩
  | true =>
      cases settled : s.settings?.isSome with
      | false => exact .inr ⟨by simp, _, rfl⟩
      | true => exact .inl ⟨⟨rfl, rfl⟩, rfl⟩

end Motion

end Suffrage
