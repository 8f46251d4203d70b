/-
# Suffrage -- a two-tier electorate and its tallies

An electorate has guardians and ordinary members.  Members are enrolled and approved, cast
ballots on proposals, and move changes of the guardian tier; a tally weighs the ballots of
the two tiers and decides.
-/
import Suffrage.Assembly
import Suffrage.Genesis.Document
import Suffrage.Json.Read
import Suffrage.Logging
import Suffrage.Proofs.Accuracy
import Suffrage.Proofs.Allocation
import Suffrage.Proofs.Ceiling
import Suffrage.Proofs.Counters
import Suffrage.Proofs.Deletion
import Suffrage.Proofs.Dismissal
import Suffrage.Proofs.Drift
import Suffrage.Proofs.Exchange
import Suffrage.Proofs.Flags
import Suffrage.Proofs.Headroom
import Suffrage.Proofs.KeyOrder
import Suffrage.Proofs.Lifecycle
import Suffrage.Proofs.Outsiders
import Suffrage.Proofs.Overflow
import Suffrage.Proofs.Recast
import Suffrage.Proofs.Reckoning
import Suffrage.Proofs.RoundTrip
import Suffrage.Proofs.Scaling
import Suffrage.Proofs.Strays
import Suffrage.Proofs.Submission
