/-
# Suffrage.Proofs.Accuracy -- what cutting digits can change

A tally cuts in three places: the power of one ballot, the fraction of a tier's ballots, and
the product of the two.  Every cut is downward and by less than one unit of `10^-18`, so an
amount falls short of the exact one by less than a known number of units (`Undercuts`): one for
each ballot of the electorate in the power cast, and three for each tier in a weighted share.

If no exact amount is closer to its threshold than that, every comparison comes out as it does on
exact numbers, and so does the decision (`decision_exact_beyond_margin`).
-/
import Suffrage.Proofs.Outcome

namespace Suffrage

set_option autoImplicit false

open Decimal (IsFixed fixedPlaces maxUnits)
open Radix (ten)

/-! ## Amounts cut to units -/

namespace Undercuts

variable {j k : Nat} {x y slack slack' t : ℚ}

theorem add (left : Undercuts j x slack) (right : Undercuts k y slack') :
    Undercuts (j + k) (x + y) (slack + slack') := by
  obtain ⟨le, lt⟩ := left
  obtain ⟨le', lt'⟩ := right
  constructor
  · push_cast
    linarith
  · push_cast
    linarith

/-- What is missing of the power of one ballot is missing of every ballot.  The larger of the two
parts missing, taken for each of the `n` ballots, is still less than `n`. -/
theorem ballots {a b n : Nat} (guardian : Undercuts j x 1) (member : Undercuts k y 1)
    (few : a + b ≤ n) (some_ : 0 < n) : Undercuts (j * a + k * b) (x * a + y * b) n := by
  obtain ⟨le, lt⟩ := guardian
  obtain ⟨le', lt'⟩ := member
  have count : (0 : ℚ) ≤ a := by positivity
  have count' : (0 : ℚ) ≤ b := by positivity
  constructor
  · push_cast
    nlinarith
  · have few' : (a + b : ℚ) ≤ n := by exact_mod_cast few
    have positive : (0 : ℚ) < n := by exact_mod_cast some_
    let part := max (x * ten fixedPlaces - j) (y * ten fixedPlaces - k)
    have each : x * ten fixedPlaces - j ≤ part := le_max_left ..
    have each' : y * ten fixedPlaces - k ≤ part := le_max_right ..
    have nonneg : 0 ≤ part := le_trans (by linarith) each
    have small : part < 1 := max_lt (by linarith) (by linarith)
    have missing : (x * ten fixedPlaces - j) * a + (y * ten fixedPlaces - k) * b < n :=
      calc (x * ten fixedPlaces - j) * a + (y * ten fixedPlaces - k) * b
          ≤ part * a + part * b :=
            add_le_add (mul_le_mul_of_nonneg_right each count)
              (mul_le_mul_of_nonneg_right each' count')
        _ = part * (a + b) := by ring
        _ ≤ part * n := mul_le_mul_of_nonneg_left few' nonneg
        _ < n := by nlinarith
    push_cast
    linarith

/-! ### Comparisons -/

theorem lt_div (near : Undercuts k x slack) :
    x < k / (ten fixedPlaces : ℚ) + slack / (ten fixedPlaces : ℚ) := by
  rw [← add_div, lt_div_iff₀ (Decimal.ten_rat_pos _)]
  exact near.lt

/-- Beyond the slack an amount is below a threshold whenever the exact one is. -/
theorem lt_iff (near : Undercuts k x slack) (margin : slack / (ten fixedPlaces : ℚ) ≤ |x - t|) :
    k / (ten fixedPlaces : ℚ) < t ↔ x < t := by
  have above := near.lt_div
  constructor
  · intro below
    by_contra notBelow
    rw [abs_of_nonneg (by linarith)] at margin
    linarith
  · exact near.div_le.trans_lt

/-- Beyond the slack an amount is above a threshold whenever the exact one is. -/
theorem gt_iff (near : Undercuts k x slack) (margin : slack / (ten fixedPlaces : ℚ) ≤ |x - t|) :
    t < k / (ten fixedPlaces : ℚ) ↔ t < x := by
  have above := near.lt_div
  constructor
  · intro exceeds
    exact exceeds.trans_le near.div_le
  · intro exceeds
    rw [abs_of_pos (by linarith)] at margin
    linarith

/-- An amount vanishes only with the exact one, if that is zero or as much as the slack. -/
theorem eq_zero_iff (near : Undercuts k x slack)
    (clear : x = 0 ∨ slack / (ten fixedPlaces : ℚ) ≤ x) :
    k / (ten fixedPlaces : ℚ) = 0 ↔ x = 0 := by
  have above := near.lt_div
  have below := near.div_le
  have nonneg : 0 ≤ k / (ten fixedPlaces : ℚ) :=
    div_nonneg k.cast_nonneg (Decimal.ten_rat_pos _).le
  constructor
  · intro vanishes
    rcases clear with none_ | enough
    · exact none_
    · linarith
  · intro none_
    linarith

end Undercuts

namespace Tally

variable {guardians members : Tier} {g m n : Nat} {x y : ℚ}

/-! ## Shares -/

/-- Division of natural numbers cuts the quotient to a whole number. -/
theorem div_cut (a b : Nat) :
    ((a / b : Nat) : ℚ) ≤ a / b ∧ (a : ℚ) / b < (a / b : Nat) + 1 := by
  rw [← Rat.natFloor_natCast_div_natCast a b]
  exact ⟨Nat.floor_le (by positivity), Nat.lt_floor_add_one _⟩

/-- Two factors of at most `unit`, each cut by less than one, have a product that is cut by less
than twice the `unit`: each cut counts once for what the other factor is. -/
theorem product_cut {q p r z unit : ℚ} (nonneg : 0 ≤ q) (nonneg' : 0 ≤ p) (le : q ≤ r)
    (lt : r < q + 1) (small : q ≤ unit) (le' : p ≤ z) (lt' : z < p + 1) (small' : z ≤ unit)
    (positive : 0 < unit) : q * p ≤ r * z ∧ r * z < q * p + 2 * unit := by
  have ofFirst : (r - q) * z < unit := by nlinarith
  have ofSecond : q * (z - p) ≤ unit := by nlinarith
  constructor
  · exact mul_le_mul le le' nonneg' (nonneg.trans le)
  · linarith

/-- A share is cut in the power of a ballot, in the fraction of the ballots, and in the product of
the two, where the first two cuts come to less than two units. -/
theorem undercuts_share {part whole p : Nat} (ballot : Undercuts p x 1) (le_one : x ≤ 1)
    (le : part ≤ whole) : Undercuts (shareUnits part whole p) (x * (part / whole)) 3 := by
  have unit := Decimal.ten_rat_pos fixedPlaces
  obtain ⟨cutFraction, cutFraction'⟩ := div_cut (part * ten fixedPlaces) whole
  have small : ((part * ten fixedPlaces / whole : Nat) : ℚ) ≤ ten fixedPlaces := by
    exact_mod_cast ratio_le le
  have small' : x * ten fixedPlaces ≤ ten fixedPlaces := by nlinarith
  unfold shareUnits
  generalize part * ten fixedPlaces / whole = q at *
  obtain ⟨cut, cut'⟩ := div_cut (q * p) (ten fixedPlaces)
  generalize q * p / ten fixedPlaces = s at *
  push_cast at cutFraction cutFraction' cut cut'
  obtain ⟨product_le, lt_product⟩ := product_cut q.cast_nonneg p.cast_nonneg cutFraction
    cutFraction' small ballot.le ballot.lt small' unit
  have exact_ : x * (part / whole) * ten fixedPlaces =
      (part * ten fixedPlaces / whole) * (x * ten fixedPlaces) / (ten fixedPlaces : ℚ) := by
    field_simp
  constructor
  · rw [exact_]
    exact cut.trans (div_le_div_of_nonneg_right product_le unit.le)
  · have shares : (part * ten fixedPlaces / whole) * (x * ten fixedPlaces) / (ten fixedPlaces : ℚ) <
        q * p / (ten fixedPlaces : ℚ) + 2 := by
      rw [div_lt_iff₀ unit, add_mul, div_mul_cancel₀ _ unit.ne']
      exact lt_product
    rw [exact_]
    linarith

/-! ## The decision on exact amounts -/

/-- The power cast for a choice, at `x` for a guardian's ballot and `y` for another member's. -/
def exactCast (guardians members : Tier) (x y : ℚ) (c : Choice) : ℚ :=
  x * guardians.count c + y * members.count c

/-- The amounts of a tally in which nothing is cut, at `x` for a guardian's ballot and `y` for
another member's.  A tier without ballots has no share, as zero divided by zero is zero. -/
def exactAmounts (guardians members : Tier) (x y : ℚ) : Amounts where
  total := exactCast guardians members x y .yes + exactCast guardians members x y .abstain
    + exactCast guardians members x y .no + exactCast guardians members x y .noWithVeto
  nonAbstain := exactCast guardians members x y .yes + exactCast guardians members x y .no
    + exactCast guardians members x y .noWithVeto
  veto := x * (guardians.count .noWithVeto / guardians.nonAbstain)
    + y * (members.count .noWithVeto / members.nonAbstain)
  yes := x * (guardians.count .yes / guardians.total) + y * (members.count .yes / members.total)

/-- No amount is as close to its threshold as cutting could bring it. -/
structure Amounts.Clear (amounts : Amounts) (rules : Rules) (electorate : Nat) : Prop where
  total : electorate / (10 : ℚ) ^ 18 ≤ |amounts.total - rules.quorum.toRat|
  nonAbstain : amounts.nonAbstain = 0 ∨ electorate / (10 : ℚ) ^ 18 ≤ amounts.nonAbstain
  veto : 6 / (10 : ℚ) ^ 18 ≤ |amounts.veto - rules.vetoThreshold.toRat|
  yes : 6 / (10 : ℚ) ^ 18 ≤ |amounts.yes - rules.threshold.toRat|

section Undercut

variable (guardian : Undercuts g x 1) (member : Undercuts m y 1)
include guardian member

theorem undercuts_total (few : guardians.total + members.total ≤ n) (some_ : 0 < n) :
    Undercuts (castInAll guardians members g m) (exactAmounts guardians members x y).total n := by
  have part := recognized_le_total guardians
  have part' := recognized_le_total members
  have whole := guardian.ballots member (n := n)
    (a := guardians.count .yes + guardians.count .abstain + guardians.count .no
      + guardians.count .noWithVeto)
    (b := members.count .yes + members.count .abstain + members.count .no
      + members.count .noWithVeto) (by omega) some_
  convert whole using 1
  · unfold castInAll castFor
    ring
  · unfold exactAmounts exactCast
    push_cast
    ring

theorem undercuts_nonAbstain (few : guardians.total + members.total ≤ n) (some_ : 0 < n) :
    Undercuts (castInAll guardians members g m - castFor guardians members g m .abstain)
      (exactAmounts guardians members x y).nonAbstain n := by
  have part := recognized_le_total guardians
  have part' := recognized_le_total members
  have whole := guardian.ballots member (n := n)
    (a := guardians.count .yes + guardians.count .no + guardians.count .noWithVeto)
    (b := members.count .yes + members.count .no + members.count .noWithVeto) (by omega) some_
  convert whole using 1
  · rw [castInAll, Nat.sub_eq_iff_eq_add (by omega)]
    unfold castFor
    ring
  · unfold exactAmounts exactCast
    push_cast
    ring

/-- Two shares are cut in less than six units. -/
theorem undercuts_shares {part whole part' whole' : Nat} (le_one : x ≤ 1) (le_one' : y ≤ 1)
    (le : part ≤ whole) (le' : part' ≤ whole') :
    Undercuts (shareUnits part whole g + shareUnits part' whole' m)
      (x * (part / whole) + y * (part' / whole')) 6 := by
  have sum := (undercuts_share guardian le_one le).add (undercuts_share member le_one' le')
  norm_num at sum
  exact sum

theorem undercuts_veto (le_one : x ≤ 1) (le_one' : y ≤ 1) :
    Undercuts (vetoUnits guardians members g m) (exactAmounts guardians members x y).veto 6 :=
  undercuts_shares guardian member le_one le_one' (parts_le guardians).1 (parts_le members).1

theorem undercuts_yes (le_one : x ≤ 1) (le_one' : y ≤ 1) :
    Undercuts (yesUnits guardians members g m) (exactAmounts guardians members x y).yes 6 :=
  undercuts_shares guardian member le_one le_one' (parts_le guardians).2.2 (parts_le members).2.2

/-- With clear amounts all four comparisons come out alike, so the first that applies is the
same. -/
theorem decision_amounts (le_one : x ≤ 1) (le_one' : y ≤ 1)
    (few : guardians.total + members.total ≤ n) (some_ : 0 < n) {rules : Rules}
    (clear : (exactAmounts guardians members x y).Clear rules n) :
    rules.decision (amounts guardians members g m) =
      rules.decision (exactAmounts guardians members x y) := by
  have unit : (ten fixedPlaces : ℚ) = 10 ^ 18 := by exact_mod_cast (by decide : ten 18 = 10 ^ 18)
  obtain ⟨clearTotal, clearRest, clearVeto, clearYes⟩ := clear
  rw [← unit] at clearTotal clearRest clearVeto clearYes
  have quorum := (undercuts_total guardian member few some_).lt_iff clearTotal
  have abstained := (undercuts_nonAbstain guardian member few some_).eq_zero_iff clearRest
  have vetoed := (undercuts_veto guardian member le_one le_one').gt_iff clearVeto
  have passed := (undercuts_yes guardian member le_one le_one').gt_iff clearYes
  unfold Rules.decision
  simp only [amounts, quorum, abstained, vetoed, passed]

end Undercut

end Tally

theorem equalShare_le_one {budget : ℚ} (le_one : budget ≤ 1) (n : Nat) : budget / n ≤ 1 := by
  by_cases none_ : n = 0
  · rw [none_, Nat.cast_zero, div_zero]
    exact zero_le_one
  · have count : (1 : ℚ) ≤ n := by exact_mod_cast Nat.one_le_iff_ne_zero.2 none_
    exact div_le_one_of_le₀ (le_one.trans count) (by positivity)

/-- If no exact amount is close to its threshold, the ballots have an outcome, and its decision is
the one on exact amounts: the weight divided equally among the guardians, the rest among the other
members (to nobody, if there are none), and fractions that are not cut. -/
theorem decision_exact_beyond_margin {electorate guardians : Nat} (someone : 1 ≤ guardians)
    (enough : guardians ≤ electorate) (few : electorate ≤ 79228162514) {weight : Decimal}
    (fraction : 0 ≤ weight.toRat ∧ weight.toRat ≤ 1) (rules : Rules) {ofGuardians ofMembers : Tier}
    (guardiansFit : ofGuardians.total ≤ guardians)
    (membersFit : ofMembers.total ≤ electorate - guardians)
    (clear : (Tally.exactAmounts ofGuardians ofMembers (weight.toRat / guardians)
      ((1 - weight.toRat) / (electorate - guardians : Nat))).Clear rules electorate) :
    ∃ power outcome, Power.allocate electorate guardians weight = .ok power ∧
      Tally.outcome power ofGuardians ofMembers rules = .ok outcome ∧
      outcome.decision = rules.decision
        (Tally.exactAmounts ofGuardians ofMembers (weight.toRat / guardians)
          ((1 - weight.toRat) / (electorate - guardians : Nat))) := by
  obtain ⟨power, g, m, split, within⟩ := Power.allocate_ok
    (Decimal.isFraction_iff.2 fraction) (Nat.one_le_iff_ne_zero.1 someone) enough
  have whole : g * ofGuardians.total + m * ofMembers.total ≤ maxUnits :=
    (within.sum_le guardiansFit membersFit).trans (by decide)
  obtain ⟨outcome, decided, cut⟩ := Tally.outcome_ok rules within.guardian within.member
    within.guardian_le within.member_le whole
    (Tally.ratio_fits (guardiansFit.trans (enough.trans few)))
    (Tally.ratio_fits (membersFit.trans ((Nat.sub_le ..).trans few)))
  refine ⟨power, outcome, split, decided, cut.trans ?_⟩
  exact Tally.decision_amounts within.guardian_near within.member_near
    (equalShare_le_one fraction.2 guardians)
    (equalShare_le_one (by linarith) (electorate - guardians))
    (by omega) (by omega) clear

/-- The power of a member is a sixth, which no decimal is, and still the proposal passes as it
does on exact numbers. -/
theorem decision_exact_of_sixths :
    ∃ power outcome, Power.allocate 4 1 .half = .ok power ∧
      Tally.outcome power (.ofEntries [(.yes, 1)]) (.ofEntries [(.yes, 1), (.no, 2)]) .default =
        .ok outcome ∧
      outcome.decision = .passed := by
  have weight : Decimal.half.toRat = 1 / 2 := by
    norm_num [Decimal.toRat, show Decimal.half.units = 5 from rfl,
      show ten Decimal.half.scale = 10 from rfl]
  have fraction : 0 ≤ Decimal.half.toRat ∧ Decimal.half.toRat ≤ 1 := by
    rw [weight]
    decide +kernel
  have quorum : Rules.defaultQuorum.toRat = 334 / 1000 := by
    norm_num [Decimal.toRat, show Rules.defaultQuorum.units = 334 from rfl,
      show ten Rules.defaultQuorum.scale = 1000 from rfl]
  have exact_ : Tally.exactAmounts (.ofEntries [(.yes, 1)]) (.ofEntries [(.yes, 1), (.no, 2)])
      (Decimal.half.toRat / (1 : Nat)) ((1 - Decimal.half.toRat) / (4 - 1 : Nat)) =
        ⟨1, 1, 0, 5 / 9⟩ := by
    rw [weight]
    decide +kernel
  have clear : Tally.Amounts.Clear ⟨1, 1, 0, 5 / 9⟩ .default 4 := by
    constructor
    · exact quorum ▸ (by decide +kernel : (4 : ℚ) / 10 ^ 18 ≤ |1 - 334 / 1000|)
    · exact .inr (by decide +kernel)
    · exact quorum ▸ (by decide +kernel : (6 : ℚ) / 10 ^ 18 ≤ |0 - 334 / 1000|)
    · exact weight ▸ (by decide +kernel : (6 : ℚ) / 10 ^ 18 ≤ |5 / 9 - 1 / 2|)
  obtain ⟨power, outcome, split, decided, decision⟩ :=
    decision_exact_beyond_margin (by decide) (by decide : 1 ≤ 4) (by decide) fraction .default
      (by decide) (by decide) (exact_ ▸ clear)
  refine ⟨power, outcome, split, decided, decision.trans ?_⟩
  rw [exact_]
  decide +kernel

end Suffrage
