/-
# Suffrage.Proofs.Action -- how actions run

An action turns a state into a result and another state (`Action.runOn`).  The laws here
take a run apart step by step: a sequence runs its first action and goes on from what that
left (`runOn_bind`), and on a host without outages every service just acts on the store
(`Host.runOn_reading`, `Host.runOn_writing`).

`Action.Decides p` says that an action succeeds exactly if `p` and else changes nothing, an
operation that makes all its checks before its first write.

`Action.Keeps P` says that no run of an action breaks `P` of the store, whatever its
result.  It passes through sequences (`Keeps.bind`), so an invariant that every step keeps
is kept by the operations made of these steps, the failing runs included.
-/
import Suffrage.Assembly
import Suffrage.Proofs.Result

namespace Suffrage

set_option autoImplicit false

namespace Action

variable {σ α β : Type}

/-- The result of an action on a state, and the state it leaves. -/
def runOn (x : Action σ α) (s : σ) : Except Failure α × σ := x.run s

/-- What follows a result: the next action, or the failure as it is. -/
def andThen (next : α → Action σ β) : Except Failure α × σ → Except Failure β × σ
  | (.ok a, s) => (next a).runOn s
  | (.error e, s) => (.error e, s)

@[simp] theorem andThen_ok (next : α → Action σ β) (a : α) (s : σ) :
    andThen next (.ok a, s) = (next a).runOn s := rfl

@[simp] theorem andThen_error (next : α → Action σ β) (e : Failure) (s : σ) :
    andThen next (.error e, s) = (.error e, s) := rfl

@[simp] theorem runOn_pure (a : α) (s : σ) : (pure a : Action σ α).runOn s = (.ok a, s) := rfl

@[simp] theorem runOn_refuse (r : Refusal) (s : σ) :
    (refuse r : Action σ α).runOn s = (.error (.refused r), s) := rfl

@[simp] theorem runOn_lift (r : Except Failure α) (s : σ) :
    (lift r : Action σ α).runOn s = (r, s) := rfl

@[simp] theorem runOn_value (r : Except ValueError α) (s : σ) :
    (value r : Action σ α).runOn s = (r.mapError Failure.ofValue, s) := rfl

@[simp] theorem runOn_bind (x : Action σ α) (next : α → Action σ β) (s : σ) :
    (x >>= next).runOn s = andThen next (x.runOn s) := by
  unfold runOn
  change (match x.run s with
    | (r, s') => (ExceptT.bindCont next r : StateM σ (Except Failure β)) s') = _
  obtain ⟨r, s'⟩ := x.run s
  cases r <;> rfl

@[simp] theorem runOn_map (f : α → β) (x : Action σ α) (s : σ) :
    (f <$> x).runOn s = andThen (fun a => pure (f a)) (x.runOn s) := by
  rw [map_eq_pure_bind, runOn_bind]

/-- Another reading of the result, on the state that the action leaves. -/
@[simp] theorem runOn_reread (read : Except Failure α → Except Failure β) (x : Action σ α) (s : σ) :
    runOn (ExceptT.mk (read <$> x.run)) s = (read (x.runOn s).1, (x.runOn s).2) := rfl

/-- A result that is only looked at leaves the state. -/
@[simp] theorem snd_andThen_pure (f : α → β) (run : Except Failure α × σ) :
    (andThen (fun a => pure (f a)) run).2 = run.2 := by
  obtain ⟨r, s⟩ := run
  cases r <;> rfl

/-- A sequence that succeeds has a first part that succeeds. -/
theorem of_bind_ok {x : Action σ α} {next : α → Action σ β} {s t : σ} {b : β}
    (ok : (x >>= next).runOn s = (.ok b, t)) :
    ∃ a u, x.runOn s = (.ok a, u) ∧ (next a).runOn u = (.ok b, t) := by
  rw [runOn_bind] at ok
  cases first : x.runOn s with
  | mk r u =>
      rw [first] at ok
      cases r with
      | ok a => exact ⟨a, u, rfl, ok⟩
      | error e => cases ok

end Action

/-! ## The services of a host without outages -/

namespace Host

variable {α : Type} (s : Store) (journal : List Event)

@[simp] theorem runOn_reading (service : Service) (look : Store → α) :
    (reading service look).runOn ⟨s, [], journal⟩ = (.ok (look s), ⟨s, [], journal⟩) := rfl

@[simp] theorem runOn_writing (service : Service) (change : Store → Store) :
    (writing service change).runOn ⟨s, [], journal⟩ = (.ok (), ⟨change s, [], journal⟩) := rfl

@[simp] theorem runOn_announce (event : Event) :
    (announce event).runOn ⟨s, [], journal⟩ = (.ok (), ⟨s, [], journal ++ [event]⟩) := rfl

end Host

/-! ## All or nothing -/

namespace Action

variable {α β σ : Type} {p q : Prop} {h t u : σ} {a : α} {b : β}

/-- The action succeeds exactly if `p`, with the result `a` and the state `t`; otherwise it
fails and leaves the state as it was. -/
def Decides (p : Prop) (x : Action σ α) (h : σ) (a : α) (t : σ) : Prop :=
  p ∧ x.runOn h = (.ok a, t) ∨ ¬p ∧ ∃ e, x.runOn h = (.error e, h)

theorem Decides.congr {x : Action σ α} (decides : Decides p x h a t) (same : p ↔ q) :
    Decides q x h a t := by
  rwa [Decides, ← same]

theorem Decides.lift {r : Except Failure α}
    (decides : p ∧ r = .ok a ∨ ¬p ∧ ∃ e, r = .error e) : Decides p (Action.lift r) h a h := by
  obtain ⟨holds, rfl⟩ | ⟨fails, e, rfl⟩ := decides
  · exact .inl ⟨holds, rfl⟩
  · exact .inr ⟨fails, e, rfl⟩

/-- A check before something that decides. -/
theorem Decides.bind {x : Action σ α} {next : α → Action σ β} (first : Decides p x h a h)
    (rest : p → Decides q (next a) h b t) : Decides (p ∧ q) (x >>= next) h b t := by
  unfold Decides
  rw [runOn_bind]
  obtain ⟨holds, run⟩ | ⟨fails, e, run⟩ := first
  · rw [run]
    obtain ⟨holds', run'⟩ | ⟨fails', e, run'⟩ := rest holds
    · exact .inl ⟨⟨holds, holds'⟩, run'⟩
    · exact .inr ⟨fun both => fails' both.2, e, run'⟩
  · rw [run]
    exact .inr ⟨fun both => fails both.1, e, rfl⟩

/-- A read before something that decides. -/
theorem Decides.read {x : Action σ α} {next : α → Action σ β} (run : x.runOn h = (.ok a, h))
    (rest : Decides q (next a) h b t) : Decides q (x >>= next) h b t := by
  unfold Decides
  rw [runOn_bind, run]
  exact rest

/-- After what decides, something that cannot fail. -/
theorem Decides.andThen {x : Action σ α} {next : α → Action σ β} (first : Decides p x h a t)
    (rest : p → (next a).runOn t = (.ok b, u)) : Decides p (x >>= next) h b u := by
  unfold Decides
  rw [runOn_bind]
  obtain ⟨holds, run⟩ | ⟨fails, e, run⟩ := first
  · rw [run]
    exact .inl ⟨holds, rest holds⟩
  · rw [run]
    exact .inr ⟨fails, e, rfl⟩

/-- A condition that refuses, before something that decides. -/
theorem Decides.check {c : Prop} [Decidable c] {r : Refusal} {x : Action σ α}
    (rest : ¬c → Decides q x h a t) :
    Decides (¬c ∧ q) (if c then (Action.refuse r >>= fun _ : Unit => x) else x) h a t := by
  unfold Decides
  split
  · rename_i holds
    exact .inr ⟨fun both => both.1 holds, _, rfl⟩
  · rename_i fails
    obtain ⟨holds, run⟩ | ⟨fails', e, run⟩ := rest fails
    · exact .inl ⟨⟨fails, holds⟩, run⟩
    · exact .inr ⟨fun both => fails' both.2, e, run⟩

end Action

/-! ## What runs keep -/

namespace Action

variable {α β : Type} {P Q : Store → Prop}

/-- No outage, and `P` of the store. -/
def Holds (P : Store → Prop) (h : Host) : Prop := h.outages = [] ∧ P h.store

/-- No run breaks `P` of the store, whatever its result. -/
def Keeps (P : Store → Prop) (x : Action Host α) : Prop :=
  ∀ h, Holds P h → Holds P (x.runOn h).2

/-- It is enough to look at hosts written out. -/
theorem Keeps.intro {x : Action Host α}
    (keeps : ∀ s journal, P s → Holds P (x.runOn ⟨s, [], journal⟩).2) : Keeps P x := by
  rintro ⟨s, outages, journal⟩ ⟨rfl, holds⟩
  exact keeps s journal holds

theorem Keeps.pure (a : α) : Keeps P (pure a) := fun _ holds => holds

theorem Keeps.refuse (r : Refusal) : Keeps P (refuse r : Action Host α) := fun _ holds => holds

theorem Keeps.lift (r : Except Failure α) : Keeps P (lift r) := fun _ holds => holds

theorem Keeps.value (r : Except ValueError α) : Keeps P (value r) := fun _ holds => holds

theorem Keeps.announce (event : Event) : Keeps P (Host.announce event) :=
  fun _ holds => ⟨holds.1, holds.2⟩

theorem Keeps.reading (service : Service) (look : Store → α) :
    Keeps P (Host.reading service look) :=
  .intro fun _ _ holds => ⟨rfl, holds⟩

theorem Keeps.writing {service : Service} {change : Store → Store}
    (keeps : ∀ s, P s → P (change s)) : Keeps P (Host.writing service change) :=
  .intro fun s _ holds => ⟨rfl, keeps s holds⟩

theorem Keeps.bind {x : Action Host α} {next : α → Action Host β} (first : Keeps P x)
    (rest : ∀ a, Keeps P (next a)) : Keeps P (x >>= next) := by
  intro h holds
  rw [runOn_bind]
  have after := first h holds
  cases run : x.runOn h with
  | mk r t =>
      rw [run] at after
      cases r with
      | ok a => exact rest a t after
      | error e => exact after

theorem Keeps.reread {x : Action Host α} (read : Except Failure α → Except Failure β)
    (keeps : Keeps P x) : Keeps P (ExceptT.mk (read <$> x.run) : Action Host β) :=
  fun h holds => keeps h holds

/-- What decides keeps `P` if a success does. -/
theorem Decides.holds {p : Prop} {x : Action Host α} {s t : Store} {journal journal' : List Event}
    {a : α} (decides : Decides p x ⟨s, [], journal⟩ a ⟨t, [], journal'⟩) (before : P s)
    (after : p → P t) : Holds P (x.runOn ⟨s, [], journal⟩).2 := by
  obtain ⟨holds, run⟩ | ⟨-, e, run⟩ := decides
  · rw [run]
    exact ⟨rfl, after holds⟩
  · rw [run]
    exact ⟨rfl, before⟩

theorem Keeps.ite {c : Prop} [Decidable c] {x y : Action Host α} (yes : Keeps P x)
    (no : Keeps P y) : Keeps P (if c then x else y) := by
  split
  · exact yes
  · exact no

/-- A check that may refuse, before something that keeps `P` anyway. -/
theorem Keeps.check {c : Prop} [Decidable c] {r : Refusal} {x : Action Host α}
    (keeps : Keeps P x) :
    Keeps P (if c then (Action.refuse r >>= fun _ : Unit => x) else x) :=
  .ite ((Keeps.refuse r).bind fun _ => keeps) keeps

end Action

end Suffrage
