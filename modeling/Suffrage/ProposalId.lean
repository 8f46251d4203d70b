/-
# Suffrage.ProposalId -- numbers of proposals

The host numbers proposals with 64-bit words.  In storage keys the number is written
most significant byte first, so keys sort in numeric order.
-/
import Suffrage.Text.Bytes

namespace Suffrage

set_option autoImplicit false

structure ProposalId where
  number : UInt64
  deriving DecidableEq, Repr, Inhabited

namespace ProposalId

def bytes (p : ProposalId) : Text.Bytes := Text.bigEndian 8 p.number.toNat

instance : ToString ProposalId := ⟨fun p => "#" ++ toString p.number⟩

end ProposalId

end Suffrage
