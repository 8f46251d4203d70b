/-
# Suffrage.Proofs.Swing -- what one more ballot can change

Two tallies of the same electorate are compared whose counts differ by single ballots: cast in
addition, or turned from one choice to another (`Tier.Gains`).  Every such change moves all four
steps of the decision, each in one direction only.  With more ballots for yes

* no less power is cast, and no less of it other than for abstentions;
* the vetoes come to no larger a share, and the yes ballots to no smaller one,

so a proposal that passes still does (`Tier.Backs`).  With more vetoes, or more abstentions, which
are in no share of vetoes, the vetoes come to no smaller a share (`Tier.Opposes`), and what is
vetoed stays vetoed.

Rounding down does no harm, since it is monotone, and a fraction of ballots does not fall when its
part and its whole both grow by one (`share_le_of_gain`).
-/
import Mathlib.Logic.Relation
import Suffrage.Proofs.Outcome

namespace Suffrage

set_option autoImplicit false

open Decimal (IsFixed fixedPlaces maxUnits)
open Radix (ten)

namespace Tally

/-! ## Shares -/

variable {part part' whole whole' : Nat}

/-- One ballot more for the part does not lower its share, whether the ballot is new or was for
something else before. -/
theorem share_le_of_gain (le : part ≤ whole) (grows : whole ≤ whole') (once : whole' ≤ whole + 1)
    (p : Nat) : shareUnits part whole p ≤ shareUnits (part + 1) whole' p := by
  refine Nat.div_le_div_right (Nat.mul_le_mul_right p ?_)
  have fraction := ratio_le le
  have below := Nat.div_mul_le_self (part * ten fixedPlaces) whole
  by_cases none_ : whole' = 0
  · have nothing : whole = 0 := by omega
    rw [nothing, Nat.div_zero]
    exact Nat.zero_le _
  · generalize part * ten fixedPlaces / whole = q at fraction below ⊢
    rw [Nat.le_div_iff_mul_le (Nat.pos_of_ne_zero none_)]
    calc q * whole' ≤ q * (whole + 1) := Nat.mul_le_mul_left q once
      _ = q * whole + q := Nat.mul_succ q whole
      _ ≤ part * ten fixedPlaces + ten fixedPlaces := Nat.add_le_add below fraction
      _ = (part + 1) * ten fixedPlaces := (Nat.succ_mul ..).symm

/-- A part that does not grow, of a whole that does not shrink, has no larger share. -/
theorem share_le_of_loss (le : part ≤ whole) (falls : part' ≤ part) (grows : whole ≤ whole')
    (p : Nat) : shareUnits part' whole' p ≤ shareUnits part whole p := by
  refine Nat.div_le_div_right (Nat.mul_le_mul_right p ?_)
  by_cases none_ : whole = 0
  · have nothing : part' = 0 := by omega
    rw [nothing, Nat.zero_mul, Nat.zero_div]
    exact Nat.zero_le _
  · exact Nat.div_le_div (Nat.mul_le_mul_right _ falls) grows none_

end Tally

/-! ## Ballots cast and turned -/

namespace Tier

open Tally (shareUnits share_le_of_gain share_le_of_loss parts_le)

/-- One ballot has been cast for a choice. -/
def Adds (c : Choice) (t t' : Tier) : Prop :=
  ∀ d, t'.count d = t.count d + if d = c then 1 else 0

/-- One ballot has been turned from one choice to another.  If both are the same the tier counts
what it did. -/
def Turns (before after : Choice) (t t' : Tier) : Prop :=
  ∀ d, t'.count d + (if d = before then 1 else 0) = t.count d + if d = after then 1 else 0

/-- A choice has got one ballot, new or turned. -/
def Gains (c : Choice) (t t' : Tier) : Prop := t.Adds c t' ∨ ∃ before, t.Turns before c t'

/-- A change that is no help against a veto: an abstention more, or a veto more, cast or turned. -/
def Hardens (t t' : Tier) : Prop := t.Adds .abstain t' ∨ t.Gains .noWithVeto t'

theorem adds_increment (t : Tier) (c : Choice) : t.Adds c (t.increment c) := count_increment t c

/-- The ballots for recognized choices. -/
def voted (t : Tier) : Nat := t.count .yes + t.count .abstain + t.count .no + t.count .noWithVeto

/-- Those of them that are no abstentions. -/
def spoken (t : Tier) : Nat := t.count .yes + t.count .no + t.count .noWithVeto

theorem nonAbstain_eq_counts (t : Tier) : t.nonAbstain =
    t.count .unspecified + t.count .yes + t.count .no + t.count .noWithVeto := by
  rw [nonAbstain, total_eq_counts]
  omega

/-- A ballot more for a choice, and no more for the others. -/
structure Gained (c : Choice) (t t' : Tier) : Prop where
  count_self : t'.count c = t.count c + 1
  count_le : ∀ d ≠ c, t'.count d ≤ t.count d
  voted_le : t.voted ≤ t'.voted
  spoken_le : t.spoken ≤ t'.spoken
  total_le : t.total ≤ t'.total
  total_le_succ : t'.total ≤ t.total + 1
  nonAbstain_le : t.nonAbstain ≤ t'.nonAbstain
  nonAbstain_le_succ : t'.nonAbstain ≤ t.nonAbstain + 1

variable {t t' t'' : Tier} {c : Choice}

theorem Adds.gained (recognized : c ≠ .unspecified) (speaks : c ≠ .abstain) (adds : t.Adds c t') :
    t.Gained c t' := by
  have unspecified := adds .unspecified
  have yes := adds .yes
  have abstain := adds .abstain
  have no := adds .no
  have veto := adds .noWithVeto
  constructor
  · rw [adds c, if_pos rfl]
  · intro d other
    rw [adds d, if_neg other, Nat.add_zero]
  all_goals
    simp only [voted, spoken, nonAbstain_eq_counts, total_eq_counts]
    cases c <;> simp only [ne_eq, reduceCtorEq, not_true, if_true, if_false] at * <;> omega

/-- Turning a ballot to where it was changes nothing; otherwise the choice has gained one. -/
theorem Turns.gained {before : Choice} (recognized : c ≠ .unspecified) (speaks : c ≠ .abstain)
    (turns : t.Turns before c t') : (∀ d, t'.count d = t.count d) ∨ t.Gained c t' := by
  by_cases same : before = c
  · left
    intro d
    have turned := turns d
    rw [same] at turned
    exact Nat.add_right_cancel turned
  · right
    have unspecified := turns .unspecified
    have yes := turns .yes
    have abstain := turns .abstain
    have no := turns .no
    have veto := turns .noWithVeto
    constructor
    · have turned := turns c
      rwa [if_neg (Ne.symm same), if_pos rfl] at turned
    · intro d other
      have turned := turns d
      rw [if_neg other] at turned
      omega
    all_goals
      simp only [voted, spoken, nonAbstain_eq_counts, total_eq_counts]
      cases c <;> cases before <;>
        simp only [ne_eq, reduceCtorEq, not_true, if_true, if_false] at * <;> omega

/-! ## Tiers that lean the same way -/

/-- No less is cast, with and without the abstentions. -/
structure Grows (t t' : Tier) : Prop where
  voted_le : t.voted ≤ t'.voted
  spoken_le : t.spoken ≤ t'.spoken
  total_le : t.total ≤ t'.total

/-- What passes with the counts of `t` passes with those of `t'`. -/
structure Backs (t t' : Tier) : Prop extends Grows t t' where
  veto_le : ∀ p, shareUnits (t'.count .noWithVeto) t'.nonAbstain p ≤
    shareUnits (t.count .noWithVeto) t.nonAbstain p
  yes_le : ∀ p, shareUnits (t.count .yes) t.total p ≤ shareUnits (t'.count .yes) t'.total p

/-- What is vetoed with the counts of `t` is vetoed with those of `t'`. -/
structure Opposes (t t' : Tier) : Prop extends Grows t t' where
  veto_le : ∀ p, shareUnits (t.count .noWithVeto) t.nonAbstain p ≤
    shareUnits (t'.count .noWithVeto) t'.nonAbstain p

theorem Grows.trans (first : t.Grows t') (second : t'.Grows t'') : t.Grows t'' where
  voted_le := first.voted_le.trans second.voted_le
  spoken_le := first.spoken_le.trans second.spoken_le
  total_le := first.total_le.trans second.total_le

theorem Gained.grows (gained : t.Gained c t') : t.Grows t' where
  voted_le := gained.voted_le
  spoken_le := gained.spoken_le
  total_le := gained.total_le

/-- Equal counts make equal tallies. -/
theorem grows_of_counts (same : ∀ d, t'.count d = t.count d) : t.Grows t' := by
  constructor <;> simp only [voted, spoken, total_eq_counts, same, Nat.le_refl]

theorem nonAbstain_congr (same : ∀ d, d ≠ .abstain → t'.count d = t.count d) :
    t'.nonAbstain = t.nonAbstain := by
  rw [nonAbstain_eq_counts, nonAbstain_eq_counts, same .unspecified (by decide),
    same .yes (by decide), same .no (by decide), same .noWithVeto (by decide)]

theorem total_congr (same : ∀ d, t'.count d = t.count d) : t'.total = t.total := by
  simp only [total_eq_counts, same]

namespace Backs

theorem of_counts (same : ∀ d, t'.count d = t.count d) : t.Backs t' where
  toGrows := grows_of_counts same
  veto_le p := by rw [same, nonAbstain_congr fun d _ => same d]
  yes_le p := by rw [same, total_congr same]

theorem of_gains (gains : t.Gains .yes t') : t.Backs t' := by
  have lean (gained : t.Gained .yes t') : t.Backs t' :=
    { gained.grows with
      veto_le := share_le_of_loss (parts_le t).1 (gained.count_le _ (by decide))
        gained.nonAbstain_le
      yes_le := gained.count_self ▸
        share_le_of_gain (parts_le t).2.2 gained.total_le gained.total_le_succ }
  rcases gains with adds | ⟨before, turns⟩
  · exact lean (adds.gained (by decide) (by decide))
  · rcases turns.gained (by decide) (by decide) with same | gained
    · exact of_counts same
    · exact lean gained

theorem trans (first : t.Backs t') (second : t'.Backs t'') : t.Backs t'' where
  toGrows := first.toGrows.trans second.toGrows
  veto_le p := (second.veto_le p).trans (first.veto_le p)
  yes_le p := (first.yes_le p).trans (second.yes_le p)

/-- Any number of ballots for yes, new or turned. -/
theorem of_many (gains : Relation.ReflTransGen (Gains .yes) t t') : t.Backs t' := by
  induction gains with
  | refl => exact of_counts fun _ => rfl
  | tail _ last ih => exact ih.trans (of_gains last)

end Backs

namespace Opposes

/-- Abstentions are in no share of vetoes. -/
theorem of_abstention (adds : t.Adds .abstain t') : t.Opposes t' := by
  have others : ∀ d, d ≠ .abstain → t'.count d = t.count d := fun d other => by
    rw [adds d, if_neg other, Nat.add_zero]
  have abstain : t'.count .abstain = t.count .abstain + 1 := by rw [adds, if_pos rfl]
  constructor
  · constructor <;>
      simp only [voted, spoken, total_eq_counts, others, ne_eq, reduceCtorEq, not_false_eq_true,
        abstain] <;> omega
  · intro p
    rw [others _ (by decide), nonAbstain_congr others]

theorem of_gains (gains : t.Gains .noWithVeto t') : t.Opposes t' := by
  have lean (gained : t.Gained .noWithVeto t') : t.Opposes t' :=
    { gained.grows with
      veto_le := gained.count_self ▸
        share_le_of_gain (parts_le t).1 gained.nonAbstain_le gained.nonAbstain_le_succ }
  rcases gains with adds | ⟨before, turns⟩
  · exact lean (adds.gained (by decide) (by decide))
  · rcases turns.gained (by decide) (by decide) with same | gained
    · exact ⟨grows_of_counts same, fun p => by rw [same, nonAbstain_congr fun d _ => same d]⟩
    · exact lean gained

theorem trans (first : t.Opposes t') (second : t'.Opposes t'') : t.Opposes t'' where
  toGrows := first.toGrows.trans second.toGrows
  veto_le p := (first.veto_le p).trans (second.veto_le p)

/-- Any number of abstentions and vetoes. -/
theorem of_many (hardens : Relation.ReflTransGen Hardens t t') : t.Opposes t' := by
  induction hardens with
  | refl => exact ⟨grows_of_counts fun _ => rfl, fun _ => Nat.le_refl _⟩
  | tail _ last ih =>
      rcases last with abstention | gains
      · exact ih.trans (of_abstention abstention)
      · exact ih.trans (of_gains gains)

end Opposes

end Tier

/-! ## Decisions -/

namespace Rules

variable {rules : Rules} {amounts : Tally.Amounts}

theorem decision_eq_passed_iff : rules.decision amounts = .passed ↔
    rules.quorum.toRat ≤ amounts.total ∧ amounts.nonAbstain ≠ 0 ∧
      amounts.veto ≤ rules.vetoThreshold.toRat ∧ rules.threshold.toRat < amounts.yes := by
  unfold decision
  split_ifs <;> simp_all

theorem decision_eq_vetoed_iff : rules.decision amounts = .vetoed ↔
    rules.quorum.toRat ≤ amounts.total ∧ amounts.nonAbstain ≠ 0 ∧
      rules.vetoThreshold.toRat < amounts.veto := by
  unfold decision
  split_ifs <;> simp_all

end Rules

namespace Tally

variable {rules : Rules} {gs gs' ms ms' : Tier} {g m : Nat}

theorem castInAll_eq_voted (gs ms : Tier) (g m : Nat) :
    castInAll gs ms g m = g * gs.voted + m * ms.voted := by
  unfold castInAll castFor Tier.voted
  ring

theorem castInAll_sub_abstain (gs ms : Tier) (g m : Nat) :
    castInAll gs ms g m - castFor gs ms g m .abstain = g * gs.spoken + m * ms.spoken := by
  refine Nat.sub_eq_of_eq_add ?_
  unfold castInAll castFor Tier.spoken
  ring

/-- The power of one ballot is the same in both tallies, so the amounts move as the counts do. -/
theorem amounts_grow (guardians : gs.Grows gs') (members : ms.Grows ms') :
    (amounts gs ms g m).total ≤ (amounts gs' ms' g m).total ∧
      ((amounts gs ms g m).nonAbstain ≠ 0 → (amounts gs' ms' g m).nonAbstain ≠ 0) := by
  have unit := Decimal.ten_rat_pos fixedPlaces
  constructor
  · refine div_le_div_of_nonneg_right ?_ unit.le
    rw [castInAll_eq_voted, castInAll_eq_voted]
    exact_mod_cast Nat.add_le_add (Nat.mul_le_mul_left g guardians.voted_le)
      (Nat.mul_le_mul_left m members.voted_le)
  · simp only [amounts, castInAll_sub_abstain, ne_eq, div_eq_zero_iff, unit.ne', or_false,
      Nat.cast_eq_zero]
    have le := Nat.add_le_add (Nat.mul_le_mul_left g guardians.spoken_le)
      (Nat.mul_le_mul_left m members.spoken_le)
    omega

theorem decision_passed_of_backs (guardians : gs.Backs gs') (members : ms.Backs ms')
    (passed : rules.decision (amounts gs ms g m) = .passed) :
    rules.decision (amounts gs' ms' g m) = .passed := by
  have unit := Decimal.ten_rat_pos fixedPlaces
  obtain ⟨total, spoken⟩ := amounts_grow (g := g) (m := m) guardians.toGrows members.toGrows
  obtain ⟨quorum, someone, notVetoed, exceeds⟩ := Rules.decision_eq_passed_iff.1 passed
  refine Rules.decision_eq_passed_iff.2 ⟨quorum.trans total, spoken someone, ?_, ?_⟩
  · refine le_trans (div_le_div_of_nonneg_right ?_ unit.le) notVetoed
    exact_mod_cast Nat.add_le_add (guardians.veto_le g) (members.veto_le m)
  · refine lt_of_lt_of_le exceeds (div_le_div_of_nonneg_right ?_ unit.le)
    exact_mod_cast Nat.add_le_add (guardians.yes_le g) (members.yes_le m)

theorem decision_vetoed_of_opposes (guardians : gs.Opposes gs') (members : ms.Opposes ms')
    (vetoed : rules.decision (amounts gs ms g m) = .vetoed) :
    rules.decision (amounts gs' ms' g m) = .vetoed := by
  have unit := Decimal.ten_rat_pos fixedPlaces
  obtain ⟨total, spoken⟩ := amounts_grow (g := g) (m := m) guardians.toGrows members.toGrows
  obtain ⟨quorum, someone, exceeds⟩ := Rules.decision_eq_vetoed_iff.1 vetoed
  refine Rules.decision_eq_vetoed_iff.2 ⟨quorum.trans total, spoken someone, ?_⟩
  refine lt_of_lt_of_le exceeds (div_le_div_of_nonneg_right ?_ unit.le)
  exact_mod_cast Nat.add_le_add (guardians.veto_le g) (members.veto_le m)

end Tally

/-- A decision that stands on the amounts stands on the ballots, as long as no tier has more of them
than members. -/
theorem Power.Within.outcome_stands {power : Power} {weight : Decimal} {guardians others g m : Nat}
    (within : power.Within weight guardians others g m)
    (few : guardians + others ≤ Tally.maxElectorate) {rules : Rules} {gs ms gs' ms' : Tier}
    (fitsGs : gs.total ≤ guardians) (fitsMs : ms.total ≤ others) (fitsGs' : gs'.total ≤ guardians)
    (fitsMs' : ms'.total ≤ others) {decision : Decision}
    (stands : rules.decision (Tally.amounts gs ms g m) = decision →
      rules.decision (Tally.amounts gs' ms' g m) = decision) {outcome : Outcome}
    (ok : Tally.outcome power gs ms rules = .ok outcome) (before : outcome.decision = decision) :
    ∃ outcome', Tally.outcome power gs' ms' rules = .ok outcome' ∧
      outcome'.decision = decision := by
  obtain ⟨_, decided, onAmounts⟩ := within.outcome_ok few rules fitsGs fitsMs
  obtain ⟨after, decided', onAmounts'⟩ := within.outcome_ok few rules fitsGs' fitsMs'
  rw [ok] at decided
  cases decided
  exact ⟨after, decided', onAmounts'.trans (stands (onAmounts.symm.trans before))⟩

/-- The power of a ballot is allocated once for both tallies.  So it is enough that both tiers grow
and that the decision stands whatever that power is. -/
theorem Power.decision_stands {electorate guardians : Nat} {weight : Decimal}
    (someone : 1 ≤ guardians) (enough : guardians ≤ electorate) (few : electorate ≤ 79228162514)
    (fraction : 0 ≤ weight.toRat ∧ weight.toRat ≤ 1) (decision : Decision) :
    ∃ power, allocate electorate guardians weight = .ok power ∧
      ∀ rules : Rules, ∀ gs ms gs' ms' : Tier,
        gs'.total ≤ guardians → ms'.total ≤ electorate - guardians →
        gs.Grows gs' → ms.Grows ms' →
        (∀ g m, rules.decision (Tally.amounts gs ms g m) = decision →
          rules.decision (Tally.amounts gs' ms' g m) = decision) →
        ∀ outcome, Tally.outcome power gs ms rules = .ok outcome → outcome.decision = decision →
          ∃ outcome', Tally.outcome power gs' ms' rules = .ok outcome' ∧
            outcome'.decision = decision := by
  obtain ⟨power, g, m, split, within⟩ := allocate_ok (Decimal.isFraction_iff.2 fraction)
    (Nat.one_le_iff_ne_zero.1 someone) enough
  have few' : guardians + (electorate - guardians) ≤ Tally.maxElectorate := by
    rwa [Nat.add_sub_cancel' enough]
  refine ⟨power, split, fun rules gs ms gs' ms' fitsGs fitsMs growsGs growsMs stands => ?_⟩
  intro outcome ok before
  exact within.outcome_stands few' (growsGs.total_le.trans fitsGs) (growsMs.total_le.trans fitsMs)
    fitsGs fitsMs (stands g m) ok before

/-- What is vetoed stays vetoed, however many abstentions are cast in addition and however many
vetoes, and whichever ballots are turned into vetoes, in either tier and in any order, as long as no
tier has more ballots than members.  The share of vetoes itself does not depend on the abstentions,
whatever the power of a ballot. -/
theorem veto_stands :
    (∀ {electorate guardians : Nat} {weight : Decimal}, 1 ≤ guardians → guardians ≤ electorate →
      electorate ≤ 79228162514 → 0 ≤ weight.toRat ∧ weight.toRat ≤ 1 →
      ∃ power, Power.allocate electorate guardians weight = .ok power ∧
        ∀ rules (gs ms gs' ms' : Tier), gs'.total ≤ guardians → ms'.total ≤ electorate - guardians →
          Relation.ReflTransGen Tier.Hardens gs gs' → Relation.ReflTransGen Tier.Hardens ms ms' →
          ∀ outcome, Tally.outcome power gs ms rules = .ok outcome → outcome.decision = .vetoed →
            ∃ outcome', Tally.outcome power gs' ms' rules = .ok outcome' ∧
              outcome'.decision = .vetoed) ∧
    ∀ (t t' : Tier) (power : Decimal), (∀ c, c ≠ .abstain → t'.count c = t.count c) →
      Tally.vetoShare t' power = Tally.vetoShare t power := by
  constructor
  · intro electorate guardians weight someone enough few fraction
    obtain ⟨power, split, stands⟩ :=
      Power.decision_stands someone enough few fraction .vetoed
    refine ⟨power, split, fun rules gs ms gs' ms' fitsGs fitsMs hardensGs hardensMs => ?_⟩
    have opposesGs := Tier.Opposes.of_many hardensGs
    have opposesMs := Tier.Opposes.of_many hardensMs
    apply stands rules gs ms gs' ms' fitsGs fitsMs opposesGs.toGrows opposesMs.toGrows
    intro g m vetoed
    exact Tally.decision_vetoed_of_opposes opposesGs opposesMs vetoed
  · intro t t' power same
    unfold Tally.vetoShare
    rw [same _ (by decide), Tier.nonAbstain_congr same]

/-- The guardian has vetoed.  A member turns from yes to a veto and another one abstains. -/
theorem veto_stands_turned :
    let quarter : Decimal := ⟨false, 25, 2, by decide, by decide⟩
    let members := (Tier.ofEntries [(.noWithVeto, 1)]).increment .abstain
    Power.allocate 3 1 .half = .ok ⟨quarter, .half⟩ ∧
      (∃ outcome, Tally.outcome ⟨quarter, .half⟩ (.ofEntries [(.noWithVeto, 1)]) members .default =
        .ok outcome ∧ outcome.decision = .vetoed) ∧
      Tally.vetoShare members quarter =
        Tally.vetoShare (.ofEntries [(.noWithVeto, 1)]) quarter := by
  intro quarter members
  have fraction : Decimal.half.isFraction = true := by decide
  obtain ⟨power, split, stands⟩ :=
    veto_stands.1 (Nat.le_refl 1) (by decide : 1 ≤ 3) (by decide)
      (Decimal.isFraction_iff.1 fraction)
  have quarters : Power.allocate 3 1 .half = .ok ⟨quarter, .half⟩ := by decide +kernel
  cases split.symm.trans quarters
  have turns : (Tier.ofEntries [(.yes, 1)]).Turns .yes .noWithVeto
      (.ofEntries [(.noWithVeto, 1)]) := fun d => by cases d <;> rfl
  have hardens : Relation.ReflTransGen Tier.Hardens (.ofEntries [(.yes, 1)]) members :=
    .tail (.single (.inr (.inr ⟨.yes, turns⟩))) (.inl (Tier.adds_increment _ .abstain))
  have before : Tally.outcome ⟨quarter, .half⟩ (.ofEntries [(.noWithVeto, 1)])
      (.ofEntries [(.yes, 1)]) .default =
        .ok ⟨.vetoed, false, false, ⟨quarter, .zero, .zero, .half⟩,
          ⟨false, 75, 2, by decide, by decide⟩, ⟨25, 0, 0, 50⟩⟩ := by
    decide +kernel
  refine ⟨quarters, stands .default _ _ _ _ (by decide) (by decide) .refl hardens _ before rfl, ?_⟩
  refine veto_stands.2 _ _ quarter fun c spoken => ?_
  rw [Tier.count_increment, if_neg spoken, Nat.add_zero]

end Suffrage
