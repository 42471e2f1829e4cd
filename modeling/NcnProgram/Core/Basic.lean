import NcnProgram.Lib.Mut
import NcnProgram.Lib.Machine

/-!
# Keys, errors and constants

The parts of `core/src/error.rs`, `core/src/constants.rs` and the Solana types that the modelled code
uses. A `u64`, `u128` or `u16` of the source is a natural number that every arithmetic step checks against
its width, as the source does with `checked_add` and its kin; the one exception is the stake weight,
whose type carries its bound. `ProgramError` is Solana's error type: the program's own errors enter it
through `custom`. A panic aborts the transaction as an error does, so it is one of them, `panicked`, with the reason
for it (`Panic`).
-/

namespace NcnProgram
open Lib

/-- A Solana public key (`Pubkey`), 32 bytes. -/
abbrev Pubkey := BitVec 256

/-- `Pubkey::default()`, the all-zero key; it is the address of the system program. -/
def Pubkey.default : Pubkey := 0#256

/-- The program's errors that the modelled code raises (`NCNProgramError`). -/
inductive NCNProgramError where
  | noValidBallots
  | denominatorIsZero
  | arithmeticOverflow
  | arithmeticUnderflowError
  | arithmeticFloorError
  | newPreciseNumberError
  | castToImpreciseNumberError
  | castToU64Error
  | incorrectNcnAdmin
  | incorrectNcn
  | feeCapExceeded
  | totalFeesCannotBeZero
  | defaultNcnWallet
  | feeNotActive
  | noOperators
  | incorrectWeightTableAdmin
  | weightNotSet
  | weightTableNotFinalized
  | weightTableAlreadyInitialized
  | tableNotInitialized
  | registryNotInitialized
  | invalidMintForWeightTable
  | vaultOperatorDelegationFinalized
  | operatorFinalized
  | tooManyVaultOperatorDelegations
  | duplicateVaultOperatorDelegation
  | cannotVoteWithZeroStake
  | operatorAlreadyVoted
  | operatorVotesFull
  | ballotTallyFull
  | ballotTallyNotFoundFull
  | consensusAlreadyReached
  | consensusNotReached
  | epochSnapshotNotFinalized
  | votingNotValid
  | tieBreakerAdminInvalid
  | votingNotFinalized
  | tieBreakerNotInPriorVotes
  | invalidOperatorVoter
  | operatorRewardListFull
  | operatorRewardNotFound
  | routerStillRouting
  | invalidEpochsBeforeStall
  | invalidEpochsBeforeClose
  | invalidSlotsAfterConsensus
  | vaultNeedsUpdate
  | vaultNotInRegistry
  | vaultRegistryListFull
  | mintInTable
  | mintEntryNotFound
  | badBallot
  | votingIsNotOver
  | operatorIsNotInSnapshot
  | invalidAccountToCloseDiscriminator
  | cannotCloseAccount
  | cannotCloseAccountAlreadyClosed
  | cannotCloseAccountNotEnoughEpochs
  | cannotCloseAccountNoEnoughAccounts
  | cannotCloseEpochStateAccount
  | invalidNCNFeeWallet
  | epochIsClosingDown
  | markerExists
deriving DecidableEq, Repr

/-- The panics of the modelled code: an index or a `split_at` beyond the end of a slice, and the cast of a number
of more than 128 bits to a `u128`. -/
inductive Panic where
  | outOfBounds
  | castOverflow
deriving DecidableEq, Repr

/-- Solana's `ProgramError`, with the program's own errors as `custom`, a panic as `panicked` and the errors of
the runtime and of the system program that a call to it can end with. -/
inductive ProgramError where
  | custom (e : NCNProgramError)
  | notEnoughAccountKeys
  | invalidAccountData
  | invalidAccountOwner
  | invalidSeeds
  | invalidArgument
  | illegalOwner
  | incorrectProgramId
  | insufficientFunds
  | arithmeticOverflow
  | accountBorrowFailed
  | externalAccountDataModified
  | externalAccountLamportSpend
  | accountAlreadyInUse
  | privilegeEscalation
  | panicked (p : Panic)
deriving DecidableEq, Repr

instance : Coe NCNProgramError ProgramError := ⟨.custom⟩

/-- A method `fn(&mut self, ..) -> Result<α, _>` on a value of type `σ`. -/
abbrev Mut (σ α : Type) := EStateM ProgramError σ α

/-- `u64::MAX`. -/
abbrev u64Max : ℕ := uMax 64

/-- `u16::MAX`. -/
abbrev u16Max : ℕ := uMax 16

/-- The most operators an epoch can hold (`MAX_OPERATORS`). -/
abbrev maxOperators : ℕ := 256

/-- The most vaults an epoch can hold (`MAX_VAULTS`). -/
abbrev maxVaults : ℕ := 64

/-- The sentinel slot of an epoch without consensus (`DEFAULT_CONSENSUS_REACHED_SLOT`). -/
abbrev defaultConsensusReachedSlot : ℕ := u64Max

end NcnProgram
