import Collective.Config.Document
import Collective.Config.Variables
import Collective.Machine
import Collective.Metadata.Document
import Collective.Simulation
import Collective.Proofs.Procedure
import Collective.Proofs.History
import Collective.Proofs.Store.Growth
import Collective.Proofs.Store.Release
import Collective.Proofs.Status.Growth
import Collective.Proofs.Status.Calls
import Collective.Proofs.Execution
import Collective.Proofs.Turn
import Collective.Proofs.Run
import Collective.Proofs.Accounting
import Collective.Proofs.Waiting
import Collective.Proofs.Ledger
import Collective.Proofs.Groups
import Collective.Proofs.Completion
import Collective.Proofs.Selection
import Collective.Proofs.Connections
import Collective.Proofs.Lifecycle
import Collective.Proofs.Footprint
import Collective.Proofs.FirstJoin
import Collective.Proofs.Scheduling
import Collective.Proofs.Ungrouped
import Collective.Proofs.Period
import Collective.Proofs.Rejoin
import Collective.Proofs.Externals
import Collective.Proofs.Slots
import Collective.Proofs.Store.Placement
import Collective.Proofs.BringUp
import Collective.Proofs.Likeness
import Collective.Proofs.Restart
import Collective.Proofs.Numbering
import Collective.Proofs.Discovery
import Collective.Proofs.Needs
import Collective.Proofs.InCharge
import Collective.Proofs.Suitability
import Collective.Proofs.ShutDown
import Collective.Proofs.Handing
import Collective.Proofs.Store.Stopping
import Collective.Proofs.Store.Resuming
import Collective.Proofs.Numerals
import Collective.Proofs.Refusal
import Collective.Proofs.Kinds
import Collective.Proofs.Attempts
import Collective.Proofs.Status.Scratch
import Collective.Proofs.WorkingMemory
import Collective.Proofs.Overflow
import Collective.Proofs.Blocks
import Collective.Proofs.Caller
import Collective.Proofs.Files
import Collective.Proofs.Peers
import Collective.Proofs.Faults
import Collective.Proofs.Nesting
