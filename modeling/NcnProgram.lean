import NcnProgram.Voting.Finality
import NcnProgram.Voting.Order
import NcnProgram.Lib.ProRata
import NcnProgram.Lib.Chunked
import NcnProgram.Core.NcnRewardRouter
import NcnProgram.Core.EpochState
import NcnProgram.Core.ConsensusResult
import NcnProgram.Core.Config
import NcnProgram.Core.OperatorVaultRewardRouter
import NcnProgram.Program.Rewards
import NcnProgram.Program.Snapshot
import NcnProgram.Routing.NcnRewards
import NcnProgram.Snapshot.Delegations
import NcnProgram.Routing.OperatorVaultRouter
import NcnProgram.Routing.OperatorVaultRewards
import NcnProgram.Routing.GrowingSnapshot
import NcnProgram.Routing.FeeProgress
import NcnProgram.Program.Config
import NcnProgram.Voting.Frozen
import NcnProgram.Snapshot.Aggregation
import NcnProgram.Voting.Record
import NcnProgram.Closing.Closable
import NcnProgram.Closing.OwnEpoch
import NcnProgram.Phases.Order
import NcnProgram.Phases.VotingProgress
import NcnProgram.Phases.Parameters
import NcnProgram.Snapshot.Fees
import NcnProgram.Snapshot.Progress
import NcnProgram.Program.Addresses
import NcnProgram.Voting.Majority
import NcnProgram.Core.Arithmetic
import NcnProgram.Routing.NcnOneShot
import NcnProgram.Routing.OperatorVaultOneShot
import NcnProgram.Fees.Pool
import NcnProgram.Fees.InForce
import NcnProgram.Snapshot.Vaults
import NcnProgram.Snapshot.Weights
import NcnProgram.Registry.WellFormed
import NcnProgram.Registry.EpochWeights
import NcnProgram.Snapshot.OperatorIndices
import NcnProgram.Voting.Rejected
import NcnProgram.Routing.RouteTables
import NcnProgram.Program.Instruction
import NcnProgram.Closing.Once
import NcnProgram.Routing.Solvency
import NcnProgram.Routing.Payouts
import NcnProgram.Closing.Accepted
import NcnProgram.Phases.Acceptance
import NcnProgram.Phases.History
import NcnProgram.Closing.Conservation
import NcnProgram.Closing.Kept
import NcnProgram.Ncn.Authority
import NcnProgram.Ncn.Ledger
import NcnProgram.Ncn.Tables
import NcnProgram.Ncn.Terms
import NcnProgram.Fees.Shares
