/-
# Suffrage.Proofs.Result -- computations that may fail

Values, decimals and decisions are computed in `Except`.  The laws here run such a
computation one step at a time once the result of its next step is known, and take apart
one that has succeeded (`Result.of_bind_ok`).
-/
import Suffrage.Error

namespace Suffrage.Result

set_option autoImplicit false

variable {ε ε' α β : Type}

@[simp] theorem ok_bind (a : α) (next : α → Except ε β) :
    (Except.ok a >>= next : Except ε β) = next a := rfl

@[simp] theorem error_bind (e : ε) (next : α → Except ε β) :
    (Except.error e >>= next : Except ε β) = .error e := rfl

@[simp] theorem bind_ok (a : α) (next : α → Except ε β) :
    (Except.ok a : Except ε α).bind next = next a := rfl

@[simp] theorem pure_eq (a : α) : (pure a : Except ε α) = .ok a := rfl

@[simp] theorem throw_eq (e : ε) : (throw e : Except ε α) = .error e := rfl

@[simp] theorem mapError_ok (f : ε → ε') (a : α) :
    (Except.ok a : Except ε α).mapError f = .ok a := rfl

@[simp] theorem mapError_error (f : ε → ε') (e : ε) :
    (Except.error e : Except ε α).mapError f = .error (f e) := rfl

/-- A sequence that succeeds has a first step that succeeds. -/
theorem of_bind_ok {x : Except ε α} {next : α → Except ε β} {b : β}
    (ok : (x >>= next) = .ok b) : ∃ a, x = .ok a ∧ next a = .ok b := by
  cases x with
  | ok a => exact ⟨a, rfl, ok⟩
  | error e => cases ok

end Suffrage.Result
