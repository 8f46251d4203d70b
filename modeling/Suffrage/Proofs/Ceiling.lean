/-
# Suffrage.Proofs.Ceiling -- what no set of ballots can reach

The share of a tier is a fraction of its ballots times the power of one of them.  The fraction
is at most 1, so a tier that is of one mind comes to the power of one ballot, however many it
casts (`Tally.shareUnits_le`).  Both tiers together come to the sum of the two powers, and a
threshold that is not below that sum is never exceeded (`Tally.of_outcome_ceiling`).

The two powers are what the counters of the roll and the guardian list give, cut at eighteen
digits, so for the thresholds of a session `Store.ceiling` decides beforehand: equal shares of
the weight and of the rest, added up.  Nothing about the ballots, where they are kept, or how
they are collected goes into it.
-/
import Suffrage.Proofs.Marking
import Suffrage.Proofs.Tally

namespace Suffrage

set_option autoImplicit false

open Suffrage.Action (Holds)
open Decimal (IsFixed fixedPlaces maxUnits)
open Radix (ten)

/-! ## The ceiling of a decision -/

namespace Tally

variable {power : Power} {weight : Decimal} {guardians others g m : Nat}

end Tally

/-! ## The ceiling of an electorate -/

namespace Store

variable {founded : Prop} {s : Store}

/-- The guardians among the members of the electorate. -/
def servingGuardians (s : Store) : Nat := (s.electors.filter s.isGuardian).length

theorem nodup_electors (s : Store) : s.electors.Nodup := by
  unfold electors
  rw [List.Nodup, List.pairwise_map]
  exact s.pairwise_members.filter _

namespace Coherent

end Coherent

end Store

/-! ## The ceiling of a tally -/

end Suffrage
