import Budlum.BudFormat.Delta
import Budlum.BudFormat.Pipe
import Budlum.BudFormat.Shamir
import Budlum.BudL.Storage
import Budlum.BudState.Transactions
import Budlum.BudZero.AirSyscalls
import Budlum.BudZero.Bounds
import Budlum.BudZero.Canonical
import Budlum.BudZero.WordConsistency
import Budlum.Chain.CommitmentOrder
import Budlum.Chain.Completion
import Budlum.Chain.Equivocation
import Budlum.Chain.FailedLock
import Budlum.Chain.FeeEscrow
import Budlum.Chain.Invalidation
import Budlum.Chain.SetHash
import Budlum.Chain.SnapshotRestore
import Budlum.Consensus.EvidencePool
import Budlum.Consensus.FaultProofs
import Budlum.Core.FixedPoint
import Budlum.Core.StateRoot
import Budlum.CrossDomain.AssetLocation
import Budlum.CrossDomain.Binding
import Budlum.CrossDomain.Relaying
import Budlum.Evm.Deposit
import Budlum.Execution.EpochBalances
import Budlum.Execution.Supply
import Budlum.Execution.Validators
import Budlum.Execution.Vesting
import Budlum.Registries.PollenAccess
import Budlum.Registries.VerifierSlashing
import Budlum.Settlement.ProofMarket
