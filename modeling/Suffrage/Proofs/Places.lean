/-
# Suffrage.Proofs.Places -- how far values are raised

The whole numbers of a report are values that have all been raised by one power of ten.  Nothing is
cut on the way: the exponent is the least one that makes every value whole
(`Tally.isLeast_commonPlaces`), because a decimal is whole at so many places, and at no fewer, as
are left when its trailing zeros are gone (`Decimal.wholeAt_iff`).  So orders and ratios are those
of the values (`Tally.Scales`).

A value is refused if it is negative or needs more than 96 bits once it is raised
(`Decimal.scaledInteger_cases`).  A value under no recognized choice is not reported, but its
digits count for the exponent, so it can make another one too large.
-/
import Suffrage.Tally
import Suffrage.Proofs.OutOfRange
import Mathlib.Order.Bounds.Basic

namespace Suffrage

set_option autoImplicit false

open Decimal (fixedPlaces maxUnits maxScale)
open Radix (ten)

/-! ## The places that a number needs -/

namespace Decimal

/-- Raised by this power of ten, the number is whole. -/
def WholeAt (d : Decimal) (places : Nat) : Prop := ∃ k : ℤ, d.toRat * 10 ^ places = k

/-- Where a fractional digit is left, the last one is not zero. -/
theorem stripZeros_last (scale magnitude : Nat) :
    (stripZeros scale magnitude).2 = 0 ∨ (stripZeros scale magnitude).1 % 10 ≠ 0 := by
  induction scale generalizing magnitude with
  | zero => exact .inl rfl
  | succ scale ih =>
      simp only [stripZeros]
      split
      · exact ih (magnitude / 10)
      · rename_i last
        exact .inr last

theorem toRat_normalize (d : Decimal) : d.normalize.toRat = d.toRat := by
  rw [toRat_unitsAt d.normalize d.scale_normalize_le, unitsAt, units_normalize]
  rfl

/-- Raised far enough, a number is a whole number of units. -/
theorem toRat_mul_ten {d : Decimal} {places : Nat} (enough : d.significantPlaces ≤ places) :
    d.toRat * 10 ^ places =
      ((d.normalize.units * ten (places - d.normalize.scale) : ℤ) : ℚ) := by
  have unit := ten_rat_pos places
  rw [← toRat_normalize, toRat_unitsAt d.normalize enough, ← ten_rat, div_mul_cancel₀ _ unit.ne']
  rfl

/-- A number is whole at the digits that it needs, and not before. -/
theorem wholeAt_iff {d : Decimal} {places : Nat} :
    d.WholeAt places ↔ d.significantPlaces ≤ places := by
  constructor
  · rintro ⟨k, whole⟩
    by_contra early
    have before : places < d.normalize.scale := Nat.lt_of_not_le early
    obtain ⟨more, place⟩ : ∃ more, d.normalize.scale = places + (more + 1) :=
      ⟨d.normalize.scale - places - 1, by omega⟩
    have shift : d.normalize.units = ten (more + 1) * k := by
      have unit := ten_rat_pos places
      have unit' := ten_rat_pos (more + 1)
      rw [← toRat_normalize, toRat, place, Radix.ten_add, ← ten_rat] at whole
      push_cast at whole
      field_simp at whole
      exact_mod_cast whole
    have divides : 10 ∣ d.normalize.magnitude := by
      rw [← units_natAbs, shift, Radix.ten_succ, Int.natAbs_mul, Int.natAbs_natCast]
      exact (Nat.dvd_mul_left 10 _).mul_right _
    rcases stripZeros_last d.scale d.magnitude with none_ | last
    · have none_' : d.normalize.scale = 0 := none_
      omega
    · exact last (Nat.mod_eq_zero_of_dvd divides)
  · intro enough
    exact ⟨_, toRat_mul_ten enough⟩

/-- At enough places a number is raised exactly, or it is negative or too large. -/
theorem scaledInteger_cases {d : Decimal} {places : Nat} (enough : d.significantPlaces ≤ places)
    (few : places ≤ maxScale) :
    (∃ n : Nat, d.scaledInteger places = .ok n ∧ (n : ℚ) = d.toRat * 10 ^ places ∧
      n ≤ maxUnits) ∨
    ∃ e, d.scaledInteger places = .error e ∧ OutOfRange e ∧
      (d.toRat < 0 ∨ (maxUnits : ℚ) < d.toRat * 10 ^ places) := by
  have value := toRat_mul_ten enough
  have limit : places - d.normalize.scale ≤ maxScale := (Nat.sub_le ..).trans few
  unfold Decimal.scaledInteger raise?
  rw [truncate_of_le (show d.normalize.scale ≤ places from enough)]
  by_cases negative : d.units < 0
  · have below : d.toRat < 0 := by
      rw [← not_le, ← units_nonneg_iff]
      omega
    exact .inr ⟨_, if_pos negative, .negative d below, .inl below⟩
  · have nonneg : 0 ≤ d.toRat := units_nonneg_iff.1 (by omega)
    have whole : (0 : ℚ) ≤ d.toRat * 10 ^ places := by positivity
    rw [value] at whole
    obtain ⟨n, raised⟩ := Int.eq_ofNat_of_zero_le (by exact_mod_cast whole)
    rw [raised, Int.cast_natCast] at value
    rw [if_neg negative, if_pos limit, raised, Int.natAbs_natCast]
    by_cases fits : n ≤ maxUnits
    · rw [if_pos fits]
      exact .inl ⟨n, rfl, value.symm, fits⟩
    · rw [if_neg fits]
      have wide : (maxUnits : ℚ) < d.toRat * 10 ^ places := by
        rw [value]
        exact_mod_cast Nat.lt_of_not_le fits
      exact .inr ⟨_, rfl, .raised d places wide, .inr wide⟩

end Decimal

/-! ## The scale that values have in common -/

theorem Choice.Table.mem_values {α : Type} {t : Choice.Table α} {v : α} :
    v ∈ t.values ↔ ∃ c, t.get? c = some v := by
  simp only [values, toList, List.mem_map, List.mem_filterMap, Option.map_eq_some_iff]
  constructor
  · rintro ⟨_, ⟨c, -, w, found, rfl⟩, rfl⟩
    exact ⟨c, found⟩
  · rintro ⟨c, found⟩
    exact ⟨(c, v), ⟨c, by cases c <;> decide, v, found, rfl⟩, rfl⟩

/-- Every recognized choice is reported. -/
theorem Shares.get?_of_recognized {α : Type} (s : Shares α) {c : Choice}
    (recognized : c ∈ Choice.recognized) : ∃ a, s.toTable.get? c = some a := by
  cases c with
  | unspecified => simp [Choice.recognized] at recognized
  | _ => exact ⟨_, rfl⟩

namespace Tally

/-- The value of a choice; zero if it has none. -/
def amount (values : Choice.Table Decimal) (c : Choice) : ℚ :=
  ((values.get? c).getD .zero).toRat

variable {values : Choice.Table Decimal}

theorem le_foldl_max (places : List Nat) (start : Nat) :
    start ≤ places.foldl max start ∧ ∀ p ∈ places, p ≤ places.foldl max start := by
  induction places generalizing start with
  | nil => simp
  | cons first rest ih =>
      obtain ⟨above, each⟩ := ih (max start first)
      rw [List.foldl_cons]
      refine ⟨(Nat.le_max_left ..).trans above, fun p inside => ?_⟩
      rcases List.mem_cons.1 inside with rfl | later
      · exact (Nat.le_max_right ..).trans above
      · exact each p later

theorem foldl_max_le {places : List Nat} {start bound : Nat} (startLe : start ≤ bound)
    (each : ∀ p ∈ places, p ≤ bound) : places.foldl max start ≤ bound := by
  induction places generalizing start with
  | nil => exact startLe
  | cons first rest ih =>
      refine ih (Nat.max_le.2 ⟨startLe, each first List.mem_cons_self⟩) fun p later => ?_
      exact each p (List.mem_cons_of_mem _ later)

/-- The common digits suffice for each value, and are no more than any bound on all. -/
theorem commonPlaces_spec {values : Choice.Table Decimal} {bound : Nat}
    (each : ∀ d ∈ values.values, d.significantPlaces ≤ bound) :
    commonPlaces values ≤ bound ∧
      ∀ d ∈ values.values, d.significantPlaces ≤ commonPlaces values := by
  unfold commonPlaces
  refine ⟨foldl_max_le (Nat.zero_le _) fun p inside => ?_, fun d inside => ?_⟩
  · obtain ⟨d, member, rfl⟩ := List.mem_map.1 inside
    exact each d member
  · exact (le_foldl_max _ 0).2 _ (List.mem_map_of_mem inside)

/-- No smaller power of ten makes all values whole. -/
theorem isLeast_commonPlaces (values : Choice.Table Decimal) :
    IsLeast {places : Nat | ∀ c v, values.get? c = some v → v.WholeAt places}
      (commonPlaces values) := by
  constructor
  · intro c v found
    have short : ∀ d ∈ values.values, d.significantPlaces ≤ maxScale :=
      fun d _ => d.normalize.scale_le
    obtain ⟨-, enough⟩ := commonPlaces_spec short
    exact Decimal.wholeAt_iff.2 (enough v (Choice.Table.mem_values.2 ⟨c, found⟩))
  · intro places whole
    refine (commonPlaces_spec fun v inside => ?_).1
    obtain ⟨c, found⟩ := Choice.Table.mem_values.1 inside
    exact Decimal.wholeAt_iff.1 (whole c v found)

theorem entry_places_le (values : Choice.Table Decimal) (c : Choice) :
    ((values.get? c).getD .zero).significantPlaces ≤ commonPlaces values := by
  cases found : values.get? c with
  | none => exact Nat.zero_le _
  | some v => exact Decimal.wholeAt_iff.1 ((isLeast_commonPlaces values).1 c v found)

/-- The whole numbers are the values raised. -/
structure Scales (values : Choice.Table Decimal) (result : Shares Nat) : Prop where
  exact_ : ∀ c n, result.toTable.get? c = some n →
    (n : ℚ) = amount values c * 10 ^ commonPlaces values
  fits : ∀ c n, result.toTable.get? c = some n → n ≤ maxUnits

/-- All four values are raised, or the first that cannot be is refused. -/
theorem scaleResults_cases (values : Choice.Table Decimal) :
    (∃ result, scaleResults values = .ok result ∧ Scales values result) ∨
    ∃ e, scaleResults values = .error (.ofValue e) ∧ Decimal.OutOfRange e ∧
      ∃ c ∈ Choice.recognized, amount values c < 0 ∨
        (maxUnits : ℚ) < amount values c * 10 ^ commonPlaces values := by
  have few : commonPlaces values ≤ maxScale :=
    (commonPlaces_spec fun d _ => d.normalize.scale_le).1
  have each (c : Choice) := Decimal.scaledInteger_cases (entry_places_le values c) few
  obtain ⟨yes, runYes, exactYes, fitsYes⟩ | ⟨e, runYes, out, bad⟩ := each .yes
  case inr => exact .inr ⟨e, by simp [scaleResults, runYes], out, .yes, by decide, bad⟩
  obtain ⟨abstain, runAbstain, exactAbstain, fitsAbstain⟩ | ⟨e, runAbstain, out, bad⟩ :=
    each .abstain
  case inr =>
    exact .inr ⟨e, by simp [scaleResults, runYes, runAbstain], out, .abstain, by decide, bad⟩
  obtain ⟨no, runNo, exactNo, fitsNo⟩ | ⟨e, runNo, out, bad⟩ := each .no
  case inr =>
    exact .inr ⟨e, by simp [scaleResults, runYes, runAbstain, runNo], out, .no, by decide, bad⟩
  obtain ⟨veto, runVeto, exactVeto, fitsVeto⟩ | ⟨e, runVeto, out, bad⟩ := each .noWithVeto
  case inr =>
    exact .inr ⟨e, by simp [scaleResults, runYes, runAbstain, runNo, runVeto], out, .noWithVeto,
      by decide, bad⟩
  refine .inl ⟨⟨yes, abstain, no, veto⟩, ?_, ⟨fun c n found => ?_, fun c n found => ?_⟩⟩
  · simp [scaleResults, runYes, runAbstain, runNo, runVeto]
  · cases c <;> cases found <;> assumption
  · cases c <;> cases found <;> assumption

theorem scales_of_scaleResults_ok {result : Shares Nat} (ok : scaleResults values = .ok result) :
    Scales values result := by
  obtain ⟨result', ok', scales⟩ | ⟨e, refused, -⟩ := scaleResults_cases values
  · rw [ok] at ok'
    cases ok'
    exact scales
  · rw [ok] at refused
    cases refused

/-- Powers of at most eighteen digits are raised, if they fit at eighteen. -/
theorem scaleResults_ok {combined : Shares Decimal} {k : Choice → Nat}
    (fixed : ∀ c d, combined.toTable.get? c = some d → d.IsFixed (k c) ∧ k c ≤ maxUnits) :
    ∃ result, scaleResults combined.toTable = .ok result := by
  obtain ⟨result, ok, -⟩ | ⟨e, -, -, c, recognized, bad⟩ := scaleResults_cases combined.toTable
  · exact ⟨result, ok⟩
  · obtain ⟨d, found⟩ := combined.get?_of_recognized recognized
    obtain ⟨exact_, fits⟩ := fixed c d found
    have unit := Decimal.ten_rat_pos fixedPlaces
    have value : amount combined.toTable c = k c / (ten fixedPlaces : ℚ) := by
      rw [amount, found, Option.getD_some, exact_.toRat, Int.cast_natCast]
    have few : commonPlaces combined.toTable ≤ fixedPlaces :=
      (commonPlaces_spec fun v inside => by
        obtain ⟨c, found⟩ := Choice.Table.mem_values.1 inside
        exact (fixed c v found).1.normalize.scale_le).1
    have raise : (10 : ℚ) ^ commonPlaces combined.toTable ≤ ten fixedPlaces := by
      rw [← Decimal.ten_rat]
      exact_mod_cast Radix.ten_le_ten few
    have small : amount combined.toTable c * 10 ^ commonPlaces combined.toTable ≤ maxUnits :=
      calc amount combined.toTable c * 10 ^ commonPlaces combined.toTable
          ≤ k c / (ten fixedPlaces : ℚ) * ten fixedPlaces := by
            rw [value]
            exact mul_le_mul_of_nonneg_left raise (by positivity)
        _ = k c := div_mul_cancel₀ _ unit.ne'
        _ ≤ maxUnits := by exact_mod_cast fits
    rcases bad with negative | large
    · have nonneg : 0 ≤ amount combined.toTable c := by
        rw [value]
        positivity
      exact absurd negative (not_lt.2 nonneg)
    · exact absurd large (not_lt.2 small)

/-- Values are refused for a recognized choice that is negative or becomes too large. -/
theorem scaleResults_refused_iff :
    (∃ e, scaleResults values = .error e) ↔ ∃ c ∈ Choice.recognized, amount values c < 0 ∨
      (maxUnits : ℚ) < amount values c * 10 ^ commonPlaces values := by
  obtain ⟨result, ok, scales⟩ | ⟨e, refused, -, bad⟩ := scaleResults_cases values
  · rw [ok]
    refine iff_of_false nofun ?_
    rintro ⟨c, recognized, bad⟩
    obtain ⟨n, found⟩ := result.get?_of_recognized recognized
    have raised := scales.exact_ c n found
    have fits : (n : ℚ) ≤ maxUnits := by exact_mod_cast scales.fits c n found
    rcases bad with negative | large
    · have unit : (0 : ℚ) < 10 ^ commonPlaces values := by positivity
      have below : (n : ℚ) < 0 := raised ▸ mul_neg_of_neg_of_pos negative unit
      exact absurd below (not_lt.2 (Nat.cast_nonneg n))
    · exact absurd (raised ▸ large) (not_lt.2 fits)
  · exact iff_of_true ⟨_, refused⟩ bad

namespace Scales

variable {result : Shares Nat} {c d : Choice} {m n : Nat}

/-- The whole numbers are ordered as the values are. -/
theorem le_iff (scales : Scales values result) (foundC : result.toTable.get? c = some m)
    (foundD : result.toTable.get? d = some n) : m ≤ n ↔ amount values c ≤ amount values d := by
  have unit : (0 : ℚ) < 10 ^ commonPlaces values := by positivity
  rw [← Nat.cast_le (α := ℚ), scales.exact_ c m foundC, scales.exact_ d n foundD,
    mul_le_mul_iff_left₀ unit]

/-- They are in the same ratio. -/
theorem div_eq (scales : Scales values result) (foundC : result.toTable.get? c = some m)
    (foundD : result.toTable.get? d = some n) :
    (m / n : ℚ) = amount values c / amount values d := by
  have unit : (10 : ℚ) ^ commonPlaces values ≠ 0 := by positivity
  rw [scales.exact_ c m foundC, scales.exact_ d n foundD, mul_div_mul_right _ _ unit]

end Scales

end Tally

end Suffrage
