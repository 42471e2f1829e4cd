import NcnProgram.Core.Basic

/-!
# The consensus result

Port of `core/src/consensus_result.rs`: the outcome of an epoch's vote, kept after the ballot box is gone.
A result without consensus has the slot zero.
-/

namespace NcnProgram

/-- The outcome of an epoch's vote (`ConsensusResult`). -/
structure ConsensusResult where
  ncn : Pubkey
  epoch : ℕ
  voteWeight : ℕ
  totalVoteWeight : ℕ
  consensusSlot : ℕ
  bump : UInt8
  weatherStatus : UInt8
deriving DecidableEq

namespace ConsensusResult

/-- `ConsensusResult::new`; `initialize` writes the same values. -/
def new (ncn : Pubkey) (epoch : ℕ) (bump : UInt8) : ConsensusResult :=
  ⟨ncn, epoch, 0, 0, 0, bump, 0⟩

/-- `ConsensusResult::is_consensus_reached`. -/
def isConsensusReached (self : ConsensusResult) : Bool := self.consensusSlot != 0

/-- `ConsensusResult::record_consensus`: once there is a result, only the weight of the winner moves. -/
def recordConsensus (weatherStatus : UInt8) (voteWeight totalVoteWeight consensusSlot : ℕ)
    (self : ConsensusResult) : ConsensusResult :=
  if self.isConsensusReached then { self with voteWeight }
  else { self with weatherStatus, voteWeight, totalVoteWeight, consensusSlot }

variable {self : ConsensusResult}

lemma recordConsensus_of_reached (h : self.isConsensusReached = true) (weatherStatus : UInt8)
    (voteWeight totalVoteWeight consensusSlot : ℕ) :
    self.recordConsensus weatherStatus voteWeight totalVoteWeight consensusSlot = { self with voteWeight } :=
  if_pos h

lemma recordConsensus_of_open (h : self.isConsensusReached = false) (weatherStatus : UInt8)
    (voteWeight totalVoteWeight consensusSlot : ℕ) :
    self.recordConsensus weatherStatus voteWeight totalVoteWeight consensusSlot =
      { self with weatherStatus, voteWeight, totalVoteWeight, consensusSlot } :=
  if_neg (by rw [h]; decide)

end ConsensusResult
end NcnProgram
