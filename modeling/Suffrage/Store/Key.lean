/-
# Suffrage.Store.Key -- the layout of storage keys

The first byte of a key says what it leads to.  A ballot and a deletion marker carry the
proposal number in eight bytes before the voter, so the ballots on one proposal stand
together, and proposals follow one another in numeric order.  In a nickname key a zero
byte parts the address from the kind of text.
-/
import Suffrage.Address
import Suffrage.ProposalId

namespace Suffrage

set_option autoImplicit false

/-- What the store holds, one key for each item. -/
inductive Key where
  | member (address : Address)
  | nickname (address : Address)
  | memberCount
  | standingCount (standing : Standing)
  | settings
  | marker (proposal : ProposalId) (voter : Address)
  | ballot (proposal : ProposalId) (voter : Address)
  deriving DecidableEq, Repr

namespace Key

open Text (Bytes utf8)

/-- The bytes that every deletion marker on a proposal starts with. -/
def markersOn (proposal : ProposalId) : Bytes := 0x06 :: proposal.bytes

/-- The bytes that every ballot on a proposal starts with. -/
def ballotsOn (proposal : ProposalId) : Bytes := 0x07 :: proposal.bytes

def bytes : Key → Bytes
  | .member address => 0x01 :: address.bytes
  | .nickname address => 0x02 :: (address.bytes ++ 0x00 :: utf8 "nickname")
  | .memberCount => [0x03]
  | .standingCount standing => [0x04, standing.code]
  | .settings => [0x05]
  | .marker proposal voter => markersOn proposal ++ voter.bytes
  | .ballot proposal voter => ballotsOn proposal ++ voter.bytes

end Key

end Suffrage
