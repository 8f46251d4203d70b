/-
# Suffrage.Proofs.Ballot -- the choice of a ballot

The weights of a ballot are zeros and ones, at whatever scale they were written, so their
sum is a whole number (`Decimal.IsWhole`).  It never has to be rounded to fit, and it stays
within the range of decimals unless the ballot is longer than any that a machine can hold
(`Ballot.Brief`).

Adding up counts the entries of weight one and keeps the last of them
(`Ballot.sumWeights_spec`).  So a ballot is read exactly when it has one such entry, of a recognized
choice, and nothing but zeros beside it (`Ballot.Sole`); every other ballot is malformed.
-/
import Suffrage.Ballot
import Suffrage.Proofs.Decimal

namespace Suffrage

set_option autoImplicit false

namespace Decimal

open Radix (ten)

/-- The decimal is the whole number `n`, with any number of fractional zeros. -/
def IsWhole (d : Decimal) (n : Nat) : Prop := d.units = n * ten d.scale

theorem isWhole_zero : zero.IsWhole 0 := rfl

theorem isWhole_iff {d : Decimal} {n : Nat} : d.IsWhole n ↔ d.toRat = n := by
  rw [IsWhole, toRat, div_eq_iff (ten_rat_pos _).ne']
  exact_mod_cast Iff.rfl

theorem IsWhole.same_one_iff {d : Decimal} {n : Nat} (whole : d.IsWhole n) :
    d.same .one = true ↔ n = 1 := by
  rw [same_iff_toRat_eq, toRat_one, isWhole_iff.1 whole, Nat.cast_eq_one]

/-- Whole numbers are not rounded when digits are dropped. -/
theorem roundHalfEven_whole {n scale dropped : Nat} (le : dropped ≤ scale) :
    roundHalfEven (n * ten scale) dropped = n * ten (scale - dropped) := by
  have split : (n * ten scale : Int) = n * ten (scale - dropped) * ten dropped := by
    rw [← Radix.ten_cast_mul_ten_sub le]
    ring
  have positive := Radix.ten_cast_pos dropped
  unfold roundHalfEven
  rw [split, Int.mul_emod_left, Int.mul_ediv_cancel _ positive.ne']
  exact if_pos positive

/-- A whole number in the range fits, at some scale. -/
theorem fit?_whole {n scale : Nat} (fits : n ≤ maxUnits) :
    ∃ d, fit? (n * ten scale) scale = some d ∧ d.IsWhole n := by
  -- Without any fractional digit the number itself has to fit.
  have small : (roundHalfEven (n * ten scale) scale).natAbs ≤ maxUnits := by
    rw [roundHalfEven_whole (Nat.le_refl scale), Nat.sub_self, Radix.ten_zero]
    simpa using fits
  obtain ⟨d, dropped, found, le, units, place⟩ := fit?_ok small
  refine ⟨d, found, ?_⟩
  rw [IsWhole, units, place, roundHalfEven_whole le]

theorem IsWhole.add? {a b : Decimal} {m n : Nat} (left : a.IsWhole m) (right : b.IsWhole n)
    (fits : m + n ≤ maxUnits) : ∃ c, a.add? b = some c ∧ c.IsWhole (m + n) := by
  have noUnits {d : Decimal} {k : Nat} (whole : d.IsWhole k) (none_ : d.isZero = true) : k = 0 := by
    have value := isWhole_iff.1 whole
    rw [toRat_of_isZero none_] at value
    exact_mod_cast value.symm
  unfold Decimal.add?
  split
  · rename_i none_
    exact ⟨b, rfl, by rwa [noUnits left none_, Nat.zero_add]⟩
  · split
    · rename_i none_
      exact ⟨a, rfl, by rwa [noUnits right none_, Nat.add_zero]⟩
    · have raise {d : Decimal} {k : Nat} (whole : d.IsWhole k)
          (le : d.scale ≤ max a.scale b.scale) :
          d.units * ten (max a.scale b.scale - d.scale) = k * ten (max a.scale b.scale) := by
        rw [whole, Int.mul_assoc, Radix.ten_cast_mul_ten_sub le]
      simp only [raise left (Nat.le_max_left ..), raise right (Nat.le_max_right ..)]
      rw [← Int.add_mul, ← Int.natCast_add]
      exact fit?_whole fits

end Decimal

namespace Ballot

open Decimal (IsWhole maxUnits)

/-- The options are fewer than a machine word can count, as in any ballot that a machine holds. -/
def Brief (b : Ballot) : Prop := b.options.length < UInt64.size

theorem Brief.length_le {b : Ballot} (brief : b.Brief) : b.options.length ≤ maxUnits :=
  Nat.le_trans (Nat.le_of_lt brief) (by decide)

/-! ## Adding up -/

/-- The weight is zero or one, at any scale. -/
def IsBinary (entry : WeightedChoice) : Prop := entry.weight.toRat = 0 ∨ entry.weight.toRat = 1

/-- The entries of weight one. -/
def full (options : List WeightedChoice) : List WeightedChoice :=
  options.filter (·.weight.toRat = 1)

section Step

variable {total sum : Decimal} {chosen : Option Choice} {entry : WeightedChoice}
  {rest : List WeightedChoice}

theorem not_same_one (other : entry.weight.toRat ≠ 1) : entry.weight.same .one = false := by
  rw [← Bool.not_eq_true, Decimal.same_iff_toRat_eq, Decimal.toRat_one]
  exact other

theorem sumWeights_one (one : entry.weight.toRat = 1)
    (added : total.add? entry.weight = some sum) :
    sumWeights total chosen (entry :: rest) = sumWeights sum (some entry.choice) rest := by
  have full : entry.weight.same .one = true :=
    Decimal.same_iff_toRat_eq.2 (one.trans Decimal.toRat_one.symm)
  simp [sumWeights, full, added]

theorem sumWeights_zero (zero : entry.weight.toRat = 0)
    (added : total.add? entry.weight = some sum) :
    sumWeights total chosen (entry :: rest) = sumWeights sum chosen rest := by
  have other : entry.weight.toRat ≠ 1 := by simp [zero]
  simp [sumWeights, not_same_one other, Decimal.isZero_iff_toRat_eq.2 zero, added]

/-- The first weight that is neither zero nor one is named. -/
theorem sumWeights_odd (odd : ¬IsBinary entry) :
    sumWeights total chosen (entry :: rest) = .error (.refused (.malformedVote
      ("option " ++ entry.choice.label ++ "'s weight is invalid: " ++ entry.weight.render))) := by
  obtain ⟨notZero, notOne⟩ := not_or.1 odd
  have some_ : entry.weight.isZero = false := by
    rw [← Bool.not_eq_true, Decimal.isZero_iff_toRat_eq]
    exact notZero
  simp [sumWeights, not_same_one notOne, some_]

end Step

/-- Adding up counts the entries of weight one and keeps the last of them.  It never leaves the
range; what stops it is a weight that is neither zero nor one. -/
theorem sumWeights_spec {total : Decimal} {n : Nat} (chosen : Option Choice)
    {options : List WeightedChoice} (whole : total.IsWhole n)
    (room : n + options.length ≤ maxUnits) :
    ((∀ entry ∈ options, IsBinary entry) ∧ ∃ sum, sumWeights total chosen options =
        .ok (sum, ((full options).getLast?.map (·.choice)).or chosen) ∧
        sum.IsWhole (n + (full options).length)) ∨
      ((∃ entry ∈ options, ¬IsBinary entry) ∧
        ∃ detail, sumWeights total chosen options = .error (.refused (.malformedVote detail))) := by
  induction options generalizing total n chosen with
  | nil => exact .inl ⟨nofun, total, rfl, whole⟩
  | cons entry rest ih =>
      rw [List.length_cons] at room
      by_cases one : entry.weight.toRat = 1
      · have unit : entry.weight.IsWhole 1 := Decimal.isWhole_iff.2 (one.trans Nat.cast_one.symm)
        have counted : full (entry :: rest) = entry :: full rest := List.filter_cons_of_pos (by simpa)
        obtain ⟨sum, added, whole'⟩ := whole.add? unit (by omega)
        rw [sumWeights_one one added, counted]
        obtain ⟨binary, sum', run, whole''⟩ | ⟨⟨odd, inside, bad⟩, refused⟩ :=
          ih (some entry.choice) whole' (by omega)
        · refine .inl ⟨List.forall_mem_cons.2 ⟨.inr one, binary⟩, sum', ?_, ?_⟩
          · rw [run, List.getLast?_cons]
            cases (full rest).getLast? <;> rfl
          · rwa [List.length_cons, Nat.add_comm _ 1, ← Nat.add_assoc]
        · exact .inr ⟨⟨odd, List.mem_cons_of_mem _ inside, bad⟩, refused⟩
      · have counted : full (entry :: rest) = full rest := List.filter_cons_of_neg (by simpa)
        by_cases zero : entry.weight.toRat = 0
        · have none_ : entry.weight.IsWhole 0 :=
            Decimal.isWhole_iff.2 (zero.trans Nat.cast_zero.symm)
          obtain ⟨sum, added, whole'⟩ := whole.add? none_ (by omega)
          rw [sumWeights_zero zero added, counted]
          obtain ⟨binary, later⟩ | ⟨⟨odd, inside, bad⟩, refused⟩ := ih chosen whole' (by omega)
          · exact .inl ⟨List.forall_mem_cons.2 ⟨.inl zero, binary⟩, later⟩
          · exact .inr ⟨⟨odd, List.mem_cons_of_mem _ inside, bad⟩, refused⟩
        · have odd : ¬IsBinary entry := not_or.2 ⟨zero, one⟩
          exact .inr ⟨⟨entry, List.mem_cons_self, odd⟩, _, sumWeights_odd odd⟩

/-! ## The sole choice -/

/-- Exactly one entry has weight one, for a recognized choice, and all others have weight zero. -/
structure Sole (options : List WeightedChoice) (choice : Choice) : Prop where
  binary : ∀ entry ∈ options, IsBinary entry
  once : options.countP (·.weight.toRat = 1) = 1
  chosen : ∃ entry ∈ options, entry.weight.toRat = 1 ∧ entry.choice = choice
  recognized : choice ≠ .unspecified

theorem isRecognized_iff {choice : Choice} :
    choice.isRecognized = true ↔ choice ≠ .unspecified := by
  cases choice <;> decide

/-- A ballot with one entry of weight one makes the choice of this entry. -/
theorem sole_iff_of_full {options : List WeightedChoice} {entry : WeightedChoice}
    {choice : Choice} (binary : ∀ entry ∈ options, IsBinary entry)
    (single : full options = [entry]) :
    Sole options choice ↔ entry.choice = choice ∧ choice ≠ .unspecified := by
  have mem (other : WeightedChoice) :
      other ∈ options ∧ other.weight.toRat = 1 ↔ other = entry := by
    rw [← List.mem_singleton (b := entry), ← single, full, List.mem_filter, decide_eq_true_eq]
  constructor
  · intro sole
    obtain ⟨other, inside, one, rfl⟩ := sole.chosen
    rw [(mem other).1 ⟨inside, one⟩]
    exact ⟨rfl, (mem other).1 ⟨inside, one⟩ ▸ sole.recognized⟩
  · rintro ⟨rfl, recognized⟩
    obtain ⟨inside, one⟩ := (mem entry).2 rfl
    refine ⟨binary, ?_, ⟨entry, inside, one, rfl⟩, recognized⟩
    rw [List.countP_eq_length_filter]
    exact congrArg List.length single

theorem Sole.unique {options : List WeightedChoice} {choice choice' : Choice}
    (sole : Sole options choice) (sole' : Sole options choice') : choice = choice' := by
  have once : (full options).length = 1 := by
    rw [full, ← List.countP_eq_length_filter]
    exact sole.once
  obtain ⟨entry, single⟩ := List.length_eq_one_iff.1 once
  rw [← ((sole_iff_of_full sole.binary single).1 sole).1]
  exact ((sole_iff_of_full sole.binary single).1 sole').1

/-- A ballot is read as its sole choice, or it has none and is malformed. -/
theorem soleChoice_spec {options : List WeightedChoice} (room : options.length ≤ maxUnits) :
    (∃ choice, soleChoice options = .ok choice ∧ Sole options choice) ∨
      ((∃ detail, soleChoice options = .error (.refused (.malformedVote detail))) ∧
        ∀ choice, ¬Sole options choice) := by
  have room' : 0 + options.length ≤ maxUnits := by omega
  unfold soleChoice
  obtain ⟨binary, sum, run, whole⟩ | ⟨⟨odd, inside, bad⟩, detail, run⟩ :=
    sumWeights_spec none Decimal.isWhole_zero room'
  · rw [Nat.zero_add] at whole
    simp only [run, Result.ok_bind, Result.throw_eq, Result.pure_eq]
    by_cases once : (full options).length = 1
    · obtain ⟨entry, single⟩ := List.length_eq_one_iff.1 once
      have makes (choice : Choice) :
          Sole options choice ↔ entry.choice = choice ∧ choice ≠ .unspecified :=
        sole_iff_of_full binary single
      simp only [whole.same_one_iff.2 once, single]
      cases recognized : entry.choice.isRecognized with
      | true =>
          exact .inl ⟨entry.choice, by simp [recognized],
            (makes _).2 ⟨rfl, isRecognized_iff.1 recognized⟩⟩
      | false =>
          refine .inr ⟨⟨_, by simp [recognized]; rfl⟩, fun choice sole => ?_⟩
          obtain ⟨rfl, some_⟩ := (makes choice).1 sole
          rw [isRecognized_iff.2 some_] at recognized
          cases recognized
    · have other : sum.same .one = false := by
        rw [← Bool.not_eq_true, whole.same_one_iff]
        exact once
      refine .inr ⟨⟨_, by simp [other]; rfl⟩, fun choice sole => once ?_⟩
      rw [full, ← List.countP_eq_length_filter]
      exact sole.once
  · exact .inr ⟨⟨detail, by simp [run]⟩, fun choice sole => bad (sole.binary odd inside)⟩

/-- A ballot makes one choice, or it is malformed. -/
theorem soleChoice_cases {options : List WeightedChoice} (room : options.length ≤ maxUnits) :
    (∃ choice, soleChoice options = .ok choice) ∨
      ∃ detail, soleChoice options = .error (.refused (.malformedVote detail)) := by
  obtain ⟨choice, ok, -⟩ | ⟨refused, -⟩ := soleChoice_spec room
  · exact .inl ⟨choice, ok⟩
  · exact .inr refused

/-- The choice of a ballot is a recognized one. -/
theorem isRecognized_of_soleChoice {options : List WeightedChoice} {choice : Choice}
    (sole : soleChoice options = .ok choice) : choice.isRecognized = true := by
  obtain ⟨⟨sum, chosen⟩, -, rest⟩ := Result.of_bind_ok sole
  simp only [Result.error_bind, Result.throw_eq, Result.pure_eq] at rest
  split at rest
  · cases rest
  · cases chosen with
    | none => cases rest
    | some c =>
        simp only at rest
        split at rest
        · cases rest
          assumption
        · cases rest

/-! ## Ballots with the same entries -/

section Same

variable {options other : List WeightedChoice} {choice : Choice}

/-- The entries that carry weight. -/
def weighed (options : List WeightedChoice) : List WeightedChoice :=
  options.filter (·.weight.toRat ≠ 0)

theorem Sole.perm (perm : other.Perm options) (sole : Sole other choice) : Sole options choice where
  binary entry inside := sole.binary entry (perm.mem_iff.2 inside)
  once := (perm.countP_eq _).symm.trans sole.once
  chosen := by
    obtain ⟨entry, inside, one, same⟩ := sole.chosen
    exact ⟨entry, perm.mem_iff.1 inside, one, same⟩
  recognized := sole.recognized

/-- Entries of weight zero do not matter. -/
theorem sole_weighed_iff : Sole (weighed options) choice ↔ Sole options choice := by
  have mem (entry : WeightedChoice) :
      entry ∈ weighed options ↔ entry ∈ options ∧ entry.weight.toRat ≠ 0 := by
    rw [weighed, List.mem_filter, decide_eq_true_eq]
  have count : (weighed options).countP (·.weight.toRat = 1) =
      options.countP (·.weight.toRat = 1) := by
    rw [weighed, List.countP_filter]
    refine List.countP_congr fun entry _ => ?_
    simp only [Bool.and_eq_true, decide_eq_true_eq, and_iff_left_iff_imp]
    intro one
    simp [one]
  constructor
  · intro sole
    obtain ⟨entry, inside, one, same⟩ := sole.chosen
    refine ⟨fun other inside => ?_, count ▸ sole.once,
      ⟨entry, ((mem entry).1 inside).1, one, same⟩, sole.recognized⟩
    by_cases zero : other.weight.toRat = 0
    · exact .inl zero
    · exact sole.binary other ((mem other).2 ⟨inside, zero⟩)
  · intro sole
    obtain ⟨entry, inside, one, same⟩ := sole.chosen
    exact ⟨fun other inside => sole.binary other ((mem other).1 inside).1, count ▸ sole.once,
      ⟨entry, (mem entry).2 ⟨inside, by simp [one]⟩, one, same⟩, sole.recognized⟩

theorem sole_congr (perm : (weighed other).Perm (weighed options)) :
    Sole other choice ↔ Sole options choice :=
  calc Sole other choice
    _ ↔ Sole (weighed other) choice := sole_weighed_iff.symm
    _ ↔ Sole (weighed options) choice := ⟨.perm perm, .perm perm.symm⟩
    _ ↔ Sole options choice := sole_weighed_iff

/-- The choice that is read is the sole choice. -/
theorem soleChoice_eq_ok_iff (room : options.length ≤ maxUnits) :
    soleChoice options = .ok choice ↔ Sole options choice := by
  obtain ⟨choice', ok, sole⟩ | ⟨⟨detail, refused⟩, noSole⟩ := soleChoice_spec room
  · rw [ok, Except.ok.injEq]
    exact ⟨fun same => same ▸ sole, sole.unique⟩
  · rw [refused]
    exact iff_of_false nofun (noSole choice)

theorem soleChoice_congr (room : other.length ≤ maxUnits) (room' : options.length ≤ maxUnits)
    (perm : (weighed other).Perm (weighed options)) :
    (soleChoice other).toOption = (soleChoice options).toOption := by
  have some_ (options : List WeightedChoice) (choice : Choice) :
      (soleChoice options).toOption = some choice ↔ soleChoice options = .ok choice := by
    cases soleChoice options <;> simp [Except.toOption]
  ext choice
  rw [some_, some_, soleChoice_eq_ok_iff room, soleChoice_eq_ok_iff room', sole_congr perm]

end Same

end Ballot

open Ballot (Sole soleChoice weighed)

/-- A ballot shorter than `2^96` entries is read as the choice of its one entry of weight one, if
all others have weight zero and the choice is recognized; every other ballot is malformed.  Neither
the order of the entries nor entries of weight zero make a difference, but for the text of a
refusal, which names the first weight that is wrong. -/
theorem ballot_choice_exact (options : List WeightedChoice) (room : options.length < 2 ^ 96) :
    (∀ choice, soleChoice options = .ok choice ↔ Sole options choice) ∧
    (∀ failure, soleChoice options = .error failure →
      ∃ detail, failure = .refused (.malformedVote detail)) ∧
    (∀ other : List WeightedChoice, other.Perm options →
      (soleChoice other).toOption = (soleChoice options).toOption) ∧
    ∀ other : List WeightedChoice, other.length < 2 ^ 96 → weighed other = weighed options →
      (soleChoice other).toOption = (soleChoice options).toOption := by
  have small {options : List WeightedChoice} (room : options.length < 2 ^ 96) :
      options.length ≤ Decimal.maxUnits := Nat.le_of_lt_succ room
  refine ⟨fun choice => Ballot.soleChoice_eq_ok_iff (small room), fun failure failed => ?_,
    fun other perm => ?_, fun other room' same => ?_⟩
  · obtain ⟨choice, ok⟩ | ⟨detail, refused⟩ := Ballot.soleChoice_cases (small room)
    · rw [ok] at failed
      cases failed
    · rw [refused] at failed
      cases failed
      exact ⟨detail, rfl⟩
  · exact Ballot.soleChoice_congr (small (perm.length_eq ▸ room)) (small room) (perm.filter _)
  · exact Ballot.soleChoice_congr (small room') (small room) (same ▸ .refl _)

/-- No at full weight, beside a zero, both with fractional digits. -/
def Ballot.padded : List WeightedChoice :=
  [⟨.yes, ⟨false, 0, 2, Nat.zero_le _, by decide⟩⟩,
    ⟨.no, ⟨false, 10000, 4, by decide, by decide⟩⟩]

theorem ballot_choice_exact_padded :
    Ballot.padded.length < 2 ^ 96 ∧ Sole Ballot.padded .no ∧
    (soleChoice Ballot.padded.reverse).toOption = some .no ∧
    (soleChoice (⟨.abstain, .zero⟩ :: Ballot.padded)).toOption = some .no := by
  have room : Ballot.padded.length < 2 ^ 96 := by decide
  have read : soleChoice Ballot.padded = .ok .no := by decide +kernel
  obtain ⟨exact_, -, ordered, zeros⟩ := ballot_choice_exact Ballot.padded room
  refine ⟨room, (exact_ .no).1 read, ?_, ?_⟩
  · rw [ordered _ (List.reverse_perm _), read]
    rfl
  · have skipped : weighed (⟨.abstain, .zero⟩ :: Ballot.padded) = weighed Ballot.padded :=
      List.filter_cons_of_neg (by simp [Decimal.toRat_zero])
    rw [zeros _ (by decide) skipped, read]
    rfl

end Suffrage
