/-
# Suffrage.Decimal.Basic -- bounded decimal numbers

Weights, powers and thresholds are decimal numbers `magnitude * 10^-scale` with a sign,
whose magnitude fits 96 bits and whose scale is at most 28.  The scale is part of the
value: `0.5` and `0.50` are two decimals that compare equal.  Both bounds stand in the
type, so an operation that could leave them returns an `Option`.

A zero may carry a minus sign, left by a number that was rounded away.  It compares like
zero and only its written form shows the sign; `canonical` drops it, and so does every
operation that computes a new number.

Order and equality of magnitude are decided on the cross products of units and powers
of ten (`Decimal.le_def`, `Decimal.lt_def`), never on a rounded form.
-/
import Suffrage.Radix

namespace Suffrage

set_option autoImplicit false

/-- The largest number of units, `2^96 - 1`. -/
def Decimal.maxUnits : Nat := 79228162514264337593543950335

/-- The largest number of fractional digits. -/
def Decimal.maxScale : Nat := 28

/-- The number `magnitude * 10^-scale`, negated if `negative`. -/
structure Decimal where
  negative : Bool
  magnitude : Nat
  scale : Nat
  magnitude_le : magnitude ≤ Decimal.maxUnits
  scale_le : scale ≤ Decimal.maxScale
  deriving DecidableEq, Repr

namespace Decimal

/-- The signed number of units of `10^-scale`. -/
def units (d : Decimal) : Int := if d.negative then -(d.magnitude : Int) else d.magnitude

/-- The decimal of these parts, when they are in range. -/
def make? (negative : Bool) (magnitude scale : Nat) : Option Decimal :=
  if h : magnitude ≤ maxUnits ∧ scale ≤ maxScale then
    some { negative, magnitude, scale, magnitude_le := h.1, scale_le := h.2 }
  else none

/-- The decimal of these units at this scale, when both are in range. -/
def ofUnits? (units : Int) (scale : Nat) : Option Decimal :=
  make? (decide (units < 0)) units.natAbs scale

/-- The same number, a zero without a sign. -/
def canonical (d : Decimal) : Decimal := { d with negative := d.negative && d.magnitude != 0 }

theorem units_natAbs (d : Decimal) : d.units.natAbs = d.magnitude := by
  unfold units
  split
  · rw [Int.natAbs_neg]; rfl
  · rfl

theorem units_canonical (d : Decimal) : d.canonical.units = d.units := by
  obtain ⟨negative, magnitude, scale, _, _⟩ := d
  cases negative <;> cases magnitude <;> rfl

theorem canonical_canonical (d : Decimal) : d.canonical.canonical = d.canonical := by
  simp [canonical]

theorem make?_eq_some {negative : Bool} {magnitude scale : Nat} {d : Decimal}
    (made : make? negative magnitude scale = some d) :
    d.negative = negative ∧ d.magnitude = magnitude ∧ d.scale = scale := by
  unfold make? at made
  split at made
  · cases made; exact ⟨rfl, rfl, rfl⟩
  · cases made

theorem make?_self (d : Decimal) : make? d.negative d.magnitude d.scale = some d := by
  simp [make?, d.magnitude_le, d.scale_le]

theorem ofUnits?_eq_some {units : Int} {scale : Nat} {d : Decimal}
    (made : ofUnits? units scale = some d) : d.units = units ∧ d.scale = scale := by
  obtain ⟨sign, size, place⟩ := make?_eq_some made
  refine ⟨?_, place⟩
  unfold Decimal.units
  rw [sign, size]
  split
  · rename_i below
    have := of_decide_eq_true below
    omega
  · rename_i above
    have : ¬ units < 0 := fun below => above (decide_eq_true below)
    omega

/-- Units and scale determine a decimal up to the sign of a zero. -/
theorem ofUnits?_units (d : Decimal) : ofUnits? d.units d.scale = some d.canonical := by
  have sign : decide (d.units < 0) = d.canonical.negative := by
    obtain ⟨negative, magnitude, scale, _, _⟩ := d
    cases negative <;> cases magnitude <;> simp [units, canonical] <;> omega
  unfold ofUnits?
  rw [sign, units_natAbs]
  exact make?_self d.canonical

def zero : Decimal := ⟨false, 0, 0, by decide, by decide⟩

def one : Decimal := ⟨false, 1, 0, by decide, by decide⟩

def half : Decimal := ⟨false, 5, 1, by decide, by decide⟩

/-- A whole number, when it fits. -/
def ofNat? (n : Nat) : Option Decimal := make? false n 0

instance : Inhabited Decimal := ⟨zero⟩

def isZero (d : Decimal) : Bool := d.magnitude == 0

/-- The number with its sign turned; zero has none. -/
def neg (d : Decimal) : Decimal := { d with negative := !d.negative }.canonical

/-! ## Order by magnitude -/

/-- The units of `a` at the sum of the scales of `a` and `b`. -/
def unitsBeside (a b : Decimal) : Int := a.units * Radix.ten b.scale

instance : LE Decimal := ⟨fun a b => a.unitsBeside b ≤ b.unitsBeside a⟩

instance : LT Decimal := ⟨fun a b => a.unitsBeside b < b.unitsBeside a⟩

theorem le_def {a b : Decimal} : a ≤ b ↔ a.unitsBeside b ≤ b.unitsBeside a := Iff.rfl

theorem lt_def {a b : Decimal} : a < b ↔ a.unitsBeside b < b.unitsBeside a := Iff.rfl

instance (a b : Decimal) : Decidable (a ≤ b) :=
  inferInstanceAs (Decidable (a.unitsBeside b ≤ b.unitsBeside a))

instance (a b : Decimal) : Decidable (a < b) :=
  inferInstanceAs (Decidable (a.unitsBeside b < b.unitsBeside a))

/-- Equality of magnitude: `1.0` is the same as `1.000`. -/
def same (a b : Decimal) : Bool := a.unitsBeside b == b.unitsBeside a

/-- `0 ≤ d ≤ 1`. -/
def isFraction (d : Decimal) : Bool := zero ≤ d && d ≤ one

/-- `0 < d ≤ 1`. -/
def isPositiveFraction (d : Decimal) : Bool := zero < d && d ≤ one

/-! ## Changing the scale -/

/-- Cuts the digits beyond `places`, toward zero.  Fewer digits are left as they are. -/
def truncate (d : Decimal) (places : Nat) : Decimal :=
  if h : places < d.scale then
    { negative := d.negative
      magnitude := d.magnitude / Radix.ten (d.scale - places)
      scale := places
      magnitude_le := Nat.le_trans (Nat.div_le_self _ _) d.magnitude_le
      scale_le := Nat.le_trans (Nat.le_of_lt h) d.scale_le }
  else d

/-- Strips one trailing fractional zero after another, at most `scale` of them. -/
def stripZeros : Nat → Nat → Nat × Nat
  | 0, magnitude => (magnitude, 0)
  | scale + 1, magnitude =>
      if magnitude % 10 = 0 then stripZeros scale (magnitude / 10) else (magnitude, scale + 1)

theorem stripZeros_bounds (scale : Nat) (magnitude : Nat) :
    (stripZeros scale magnitude).1 ≤ magnitude ∧ (stripZeros scale magnitude).2 ≤ scale := by
  induction scale generalizing magnitude with
  | zero => exact ⟨Nat.le_refl _, Nat.le_refl _⟩
  | succ scale ih =>
      simp only [stripZeros]
      split
      · have step := ih (magnitude / 10)
        exact ⟨Nat.le_trans step.1 (Nat.div_le_self _ _), Nat.le_succ_of_le step.2⟩
      · exact ⟨Nat.le_refl _, Nat.le_refl _⟩

/-- The same number without trailing fractional zeros; zero becomes `0`. -/
def normalize (d : Decimal) : Decimal :=
  { negative := d.canonical.negative
    magnitude := (stripZeros d.scale d.magnitude).1
    scale := (stripZeros d.scale d.magnitude).2
    magnitude_le := Nat.le_trans (stripZeros_bounds _ _).1 d.magnitude_le
    scale_le := Nat.le_trans (stripZeros_bounds _ _).2 d.scale_le }

/-- Fractional digits that are left once trailing zeros are gone. -/
def significantPlaces (d : Decimal) : Nat := d.normalize.scale

end Decimal

end Suffrage
