/-
# Suffrage.Tier -- ballots counted in one tier

A tier counts its ballots by choice.  Every recognized choice is present from the start;
`unspecified` appears only if something is counted under it, and then it counts in the
total like the others.
-/
import Suffrage.Choice

namespace Suffrage

set_option autoImplicit false

structure Tier where
  counts : Choice.Table Nat
  deriving DecidableEq, Repr

namespace Tier

/-- Every recognized choice at zero. -/
def fresh : Tier :=
  ⟨Choice.Table.empty.insertAll (Choice.recognized.map fun c => (c, 0))⟩

/-- A fresh tier with these counts; a later entry replaces an earlier one. -/
def ofEntries (entries : List (Choice × Nat)) : Tier := ⟨fresh.counts.insertAll entries⟩

def count (t : Tier) (c : Choice) : Nat := (t.counts.get? c).getD 0

/-- Counts one more ballot. -/
def increment (t : Tier) (c : Choice) : Tier := ⟨t.counts.insert c (t.count c + 1)⟩

/-- Ballots counted in the tier. -/
def total (t : Tier) : Nat := t.counts.values.foldr (· + ·) 0

/-- Ballots counted in the tier that were not abstentions. -/
def nonAbstain (t : Tier) : Nat := t.total - t.count .abstain

theorem count_increment (t : Tier) (c d : Choice) :
    (t.increment c).count d = t.count d + if d = c then 1 else 0 := by
  unfold increment count
  rw [Choice.Table.get?_insert]
  split
  · rename_i same; subst same; rfl
  · rfl

theorem total_eq_counts (t : Tier) :
    t.total = t.count .unspecified + (t.count .yes + (t.count .abstain
      + (t.count .no + t.count .noWithVeto))) := by
  obtain ⟨⟨u, y, a, n, v⟩⟩ := t
  cases u <;> cases y <;> cases a <;> cases n <;> cases v <;>
    simp [total, count, Choice.Table.values, Choice.Table.toList, Choice.Table.get?, Choice.all]

end Tier

end Suffrage
