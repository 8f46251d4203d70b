/-
# Suffrage.Power -- what one ballot weighs

All voting power is 1.  The guardians share the guardian weight, the other members of the
electorate share the rest, each ballot of a tier weighing the same.  Shares are truncated
at eighteen digits, so a tier may hand out a little less than its budget and never more.
-/
import Suffrage.Decimal.Fixed
import Suffrage.Decimal.Sum
import Suffrage.Error

namespace Suffrage

set_option autoImplicit false

/-- The sum of two decimals, for callers that know that it fits. -/
def Decimal.plus (a b : Decimal) : Except Failure Decimal :=
  match a.add? b with
  | some d => .ok d
  | none => .error (.defect ⟨"Addition overflowed"⟩)

/-- The difference of two decimals, for callers that know that it fits. -/
def Decimal.minus (a b : Decimal) : Except Failure Decimal :=
  match a.sub? b with
  | some d => .ok d
  | none => .error (.defect ⟨"Subtraction overflowed"⟩)

/-- The power of one ballot in either tier. -/
structure Power where
  member : Decimal
  guardian : Decimal
  deriving DecidableEq, Repr

namespace Power

/-- Splits the power between `guardians` guardians and the rest of an electorate of
`electorate` members.  A weight outside `[0, 1]` is a defect: only checked weights reach
the store. -/
def allocate (electorate guardians : Nat) (weight : Decimal) : Except Failure Power := do
  if !weight.isFraction then
    throw (.defect ⟨"invalid total voting weight - must be between 0 and 1, got "
      ++ weight.render⟩)
  if guardians = 0 then
    throw (.refused (.brokenInvariant "no guardians to receive the guardian weight budget"))
  if electorate < guardians then
    throw (.refused (.brokenInvariant
      (toString guardians ++ " guardians but only " ++ toString electorate
        ++ " electorate members")))
  let others := electorate - guardians
  let member ←
    if others = 0 then pure Decimal.zero
    else do
      let rest ← Decimal.one.minus weight
      (rest.quotient others).mapError Failure.ofValue
  let guardian ← (weight.quotient guardians).mapError Failure.ofValue
  return { member, guardian }

end Power

end Suffrage
