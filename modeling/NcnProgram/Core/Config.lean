import NcnProgram.Core.Fees

/-!
# The NCN's configuration

Port of `core/src/config.rs`, with the bounds of `core/src/constants.rs` that the admin's parameters are
checked against.
-/

namespace NcnProgram

/-- `MIN_EPOCHS_BEFORE_STALL`. -/
def minEpochsBeforeStall : ℕ := 1

/-- `MAX_EPOCHS_BEFORE_STALL`. -/
def maxEpochsBeforeStall : ℕ := 50

/-- `MIN_EPOCHS_AFTER_CONSENSUS_BEFORE_CLOSE`. -/
def minEpochsAfterConsensusBeforeClose : ℕ := 10

/-- `MAX_EPOCHS_AFTER_CONSENSUS_BEFORE_CLOSE`. -/
def maxEpochsAfterConsensusBeforeClose : ℕ := 100

/-- `MIN_VALID_SLOTS_AFTER_CONSENSUS`. -/
def minValidSlotsAfterConsensus : ℕ := 1000

/-- `DEFAULT_SLOTS_PER_EPOCH` of the Solana clock. -/
def defaultSlotsPerEpoch : ℕ := 432000

/-- `MAX_VALID_SLOTS_AFTER_CONSENSUS`. -/
def maxValidSlotsAfterConsensus : ℕ := 50 * defaultSlotsPerEpoch

/-- The configuration of an NCN (`Config`). -/
structure Config where
  ncn : Pubkey
  tieBreakerAdmin : Pubkey
  validSlotsAfterConsensus : ℕ
  epochsBeforeStall : ℕ
  epochsAfterConsensusBeforeClose : ℕ
  startingValidEpoch : ℕ
  feeConfig : FeeConfig
  bump : UInt8
deriving DecidableEq

/-- `Config::new`. -/
def Config.new (ncn tieBreakerAdmin : Pubkey) (startingValidEpoch validSlotsAfterConsensus epochsBeforeStall
    epochsAfterConsensusBeforeClose : ℕ) (feeConfig : FeeConfig) (bump : UInt8) : Config :=
  { ncn, tieBreakerAdmin, validSlotsAfterConsensus, epochsBeforeStall, epochsAfterConsensusBeforeClose,
    startingValidEpoch, feeConfig, bump }

/-- The parameters of the configuration are within their bounds. -/
structure Config.Accepted (c : Config) : Prop where
  epochsBeforeStall : minEpochsBeforeStall ≤ c.epochsBeforeStall ∧ c.epochsBeforeStall ≤ maxEpochsBeforeStall
  epochsAfterConsensusBeforeClose :
    minEpochsAfterConsensusBeforeClose ≤ c.epochsAfterConsensusBeforeClose ∧
      c.epochsAfterConsensusBeforeClose ≤ maxEpochsAfterConsensusBeforeClose
  validSlotsAfterConsensus : minValidSlotsAfterConsensus ≤ c.validSlotsAfterConsensus ∧
    c.validSlotsAfterConsensus ≤ maxValidSlotsAfterConsensus

end NcnProgram
