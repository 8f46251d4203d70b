/-
# Suffrage.Radix -- powers of a base

The digits of a numeral count powers of its base: two for binary numbers, ten for decimal
ones.  The powers are natural numbers, and grow by one factor for each place
(`pow_succ`).
-/

namespace Suffrage.Radix

set_option autoImplicit false

/-- `base` to the power of `places`. -/
def pow (base places : Nat) : Nat := Nat.pow base places

/-- Ten to the power of `places`. -/
def ten (places : Nat) : Nat := pow 10 places

/-- Two to the power of `places`. -/
def two (places : Nat) : Nat := pow 2 places

theorem pow_zero (base : Nat) : pow base 0 = 1 := rfl

theorem pow_succ (base places : Nat) : pow base (places + 1) = pow base places * base := rfl

theorem ten_zero : ten 0 = 1 := rfl

theorem ten_succ (places : Nat) : ten (places + 1) = ten places * 10 := rfl

theorem pow_pos {base : Nat} (positive : 0 < base) (places : Nat) : 0 < pow base places :=
  Nat.pow_pos positive

theorem ten_pos (places : Nat) : 0 < ten places := pow_pos (by decide) places

/-- The digits above the lowest `places`: the next one takes its place behind those before it. -/
theorem div_pow_succ (base n places : Nat) :
    base * (n / pow base (places + 1)) + n / pow base places % base = n / pow base places := by
  rw [pow_succ, ← Nat.div_div_eq_div_mul]
  exact Nat.div_add_mod _ base

end Suffrage.Radix
