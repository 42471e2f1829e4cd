import NcnProgram.Program.Lifecycle

/-!
# Closing an account, on the ledger

Port of `program/src/close_epoch_account.rs` with every account that is passed to it chosen by the caller: of
`check_load`, of the accounts' `load` and `load_to_close`, and of `core/src/account_payer.rs`. A `Lifecycle` sees
one epoch whose accounts are the right ones; a `Ledger` holds the accounts of all NCNs and epochs, and those of
other programs.

The data of the program's own accounts are kept decoded, all other data as bytes. Two things of the runtime are
left out. It derives keys from seeds, which is `Runtime.pda` here. And after the instruction it compares every
account that was passed as read-only with what it was before; leaving this out only lets more calls succeed.
-/

namespace NcnProgram
open Lib NCNProgramError

/-! ## Accounts -/

/-- What the keys of the program's accounts are derived from: the kind of the account and its seeds. -/
inductive Address where
  | config (ncn : Pubkey)
  | vaultRegistry (ncn : Pubkey)
  | accountPayer (ncn : Pubkey)
  | epochState (ncn : Pubkey) (epoch : ℕ)
  | single (k : Single) (ncn : Pubkey) (epoch : ℕ)
  | operatorSnapshot (operator ncn : Pubkey) (epoch : ℕ)
  | operatorVaultRewardRouter (operator ncn : Pubkey) (epoch : ℕ)
  | consensusResult (ncn : Pubkey) (epoch : ℕ)
  | ncnRewardReceiver (ncn : Pubkey) (epoch : ℕ)
  | operatorVaultRewardReceiver (operator ncn : Pubkey) (epoch : ℕ)
  | epochMarker (ncn : Pubkey) (epoch : ℕ)
deriving DecidableEq

namespace Address

/-- The NCN that the account belongs to. -/
def ncn : Address → Pubkey
  | config ncn | vaultRegistry ncn | accountPayer ncn => ncn
  | epochState ncn _ | single _ ncn _ | operatorSnapshot _ ncn _ | operatorVaultRewardRouter _ ncn _
  | consensusResult ncn _ | ncnRewardReceiver ncn _ | operatorVaultRewardReceiver _ ncn _
  | epochMarker ncn _ => ncn

/-- The epoch that the account belongs to, if it belongs to one. -/
def epoch : Address → Option ℕ
  | config _ | vaultRegistry _ | accountPayer _ => none
  | epochState _ epoch | single _ _ epoch | operatorSnapshot _ _ epoch | operatorVaultRewardRouter _ _ epoch
  | consensusResult _ epoch | ncnRewardReceiver _ epoch | operatorVaultRewardReceiver _ _ epoch
  | epochMarker _ epoch => some epoch

end Address

/-- The marker of an epoch that has been closed (`EpochMarker`). -/
structure EpochMarker where
  ncn : Pubkey
  epoch : ℕ
  slotClosed : ℕ
deriving DecidableEq

/-- `EpochMarker::SIZE`. -/
def EpochMarker.size : ℕ := 8 + 48

/-- `Config::DISCRIMINATOR`. -/
def Config.discriminator : UInt8 := 0x01

/-- `OperatorSnapshot::DISCRIMINATOR`. -/
def OperatorSnapshot.discriminator : UInt8 := 0x12

/-- `ConsensusResult::DISCRIMINATOR`. -/
def ConsensusResult.discriminator : UInt8 := 0x21

/-- `OperatorVaultRewardRouter::DISCRIMINATOR`. -/
def OperatorVaultRewardRouter.discriminator : UInt8 := 0x41

/-- `EpochState::DISCRIMINATOR`. -/
def EpochState.discriminator : UInt8 := 0x50

/-- `EpochMarker::DISCRIMINATOR`. -/
def EpochMarker.discriminator : UInt8 := 0x51

/-- The discriminators of `WeightTable`, `EpochSnapshot`, `BallotBox` and `NCNRewardRouter`. -/
def Single.discriminator : Single → UInt8
  | .weightTable => 0x10
  | .epochSnapshot => 0x11
  | .ballotBox => 0x20
  | .ncnRewardRouter => 0x40

/-- The data of an account. -/
inductive AccountData where
  | bytes (data : List UInt8)
  | config (c : Config)
  | weightTable (w : WeightTable)
  | epochSnapshot (s : EpochSnapshot)
  | ballotBox (b : BallotBox)
  | ncnRewardRouter (r : NCNRewardRouter)
  | operatorSnapshot (s : OperatorSnapshot)
  | operatorVaultRewardRouter (r : OperatorVaultRewardRouter)
  | consensusResult (r : ConsensusResult)
  | epochState (s : EpochState)
  | epochMarker (m : EpochMarker)

namespace AccountData

/-- The first byte, if there is one. -/
def discriminator : AccountData → Option UInt8
  | bytes data => data.head?
  | config _ => some Config.discriminator
  | weightTable _ => some Single.weightTable.discriminator
  | epochSnapshot _ => some Single.epochSnapshot.discriminator
  | ballotBox _ => some Single.ballotBox.discriminator
  | ncnRewardRouter _ => some Single.ncnRewardRouter.discriminator
  | operatorSnapshot _ => some OperatorSnapshot.discriminator
  | operatorVaultRewardRouter _ => some OperatorVaultRewardRouter.discriminator
  | consensusResult _ => some ConsensusResult.discriminator
  | epochState _ => some EpochState.discriminator
  | epochMarker _ => some EpochMarker.discriminator

/-- `Config::try_from_slice_unchecked`. -/
def toConfig : AccountData → Except ProgramError Config
  | config c => return c
  | _ => throw ProgramError.invalidAccountData

/-- `EpochState::try_from_slice_unchecked_mut`. -/
def toEpochState : AccountData → Except ProgramError EpochState
  | epochState s => return s
  | _ => throw ProgramError.invalidAccountData

/-- `OperatorSnapshot::try_from_slice_unchecked`. -/
def toOperatorSnapshot : AccountData → Except ProgramError OperatorSnapshot
  | operatorSnapshot s => return s
  | _ => throw ProgramError.invalidAccountData

/-- `OperatorVaultRewardRouter::try_from_slice_unchecked`. -/
def toOperatorVaultRewardRouter : AccountData → Except ProgramError OperatorVaultRewardRouter
  | operatorVaultRewardRouter r => return r
  | _ => throw ProgramError.invalidAccountData

end AccountData

/-- An account on the ledger. -/
structure Account where
  lamports : ℕ
  owner : Pubkey
  data : AccountData

/-- The address of the system program, which owns every account that nobody else does. -/
abbrev systemProgramId : Pubkey := .default

/-- What is left of an account that was closed. -/
def Account.empty : Account := ⟨0, systemProgramId, .bytes []⟩

/-- The accounts at all keys. -/
abbrev Ledger := Pubkey → Account

/-- An account as an instruction passes it (`AccountInfo`). -/
structure AccountInfo where
  key : Pubkey
  isWritable : Bool

/-- What the instruction gets from its surroundings: its own key, the derivation of keys, the rent of an account,
the epoch schedule, the current slot, and `Ncn::load` of the restaking program. -/
structure Runtime where
  programId : Pubkey
  pda : Address → Pubkey
  minimumBalance : ℕ → ℕ
  getEpoch : ℕ → ℕ
  slot : ℕ
  loadNcn : Pubkey → Account → Except ProgramError Unit
  programId_ne : programId ≠ systemProgramId

namespace Runtime
variable (rt : Runtime)

/-! ## Loading -/

/-- `check_load`. -/
def checkLoad (owner : Pubkey) (account : AccountInfo) (expectedPda : Pubkey)
    (expectedDiscriminator : Option UInt8) (expectWritable : Bool) : Mut Ledger Unit := do
  let self := (← get) account.key
  ensure (self.owner = owner) ProgramError.invalidAccountOwner
  ensure (account.key = expectedPda) ProgramError.invalidAccountData
  -- empty data are refused with the same error
  ensure (expectedDiscriminator = none ∨ self.data.discriminator = expectedDiscriminator)
    ProgramError.invalidAccountData
  ensure (expectWritable = true → account.isWritable = true) ProgramError.invalidAccountData

/-- `EpochMarker::check_dne`. -/
def checkDne (epochMarker : AccountInfo) (ncn : Pubkey) (epoch : ℕ) : Mut Ledger Unit := do
  ensure (rt.pda (.epochMarker ncn epoch) = epochMarker.key) ProgramError.invalidSeeds
  ensure (((← get) epochMarker.key).data.discriminator = none) (markerExists : ProgramError)

/-! ## Moving lamports -/

/-- Writes one account. -/
def write (key : Pubkey) (account : Account) : Mut Ledger Unit :=
  modify fun l => Function.update l key account

/-- The transfer of the system program. -/
def systemTransfer (source dest : Pubkey) (lamports : ℕ) : Mut Ledger Unit := do
  let self := (← get) source
  ensure (self.data.discriminator = none) ProgramError.invalidArgument
  let left ← okOr (checkedSub self.lamports lamports) ProgramError.insufficientFunds
  ensure (self.owner = systemProgramId) ProgramError.externalAccountLamportSpend
  write source { self with lamports := left }
  let other := (← get) dest
  let total ← okOr (checkedAdd 64 other.lamports lamports) ProgramError.arithmeticOverflow
  write dest { other with lamports := total }

/-- `AccountPayer::transfer`, `NCNRewardReceiver::transfer` and `OperatorVaultRewardReceiver::transfer`: a call to
the system program, which fails on an account whose data the caller has `borrowed`. -/
def transfer (address : Address) (source dest : AccountInfo) (lamports : ℕ) (borrowed : List Pubkey) :
    Mut Ledger Unit := do
  ensure (rt.pda address = source.key) ProgramError.invalidAccountData
  ensure (source.key ∉ borrowed ∧ dest.key ∉ borrowed) ProgramError.accountBorrowFailed
  ensure (source.isWritable = true ∧ dest.isWritable = true) ProgramError.privilegeEscalation
  systemTransfer source.key dest.key lamports

/-- `load` and `close` of `NCNRewardReceiver` and `OperatorVaultRewardReceiver`: all but the rent goes to the fee
wallet, then the rent to the payer. -/
def closeReceiver (address : Address) (receiver feeWallet accountPayer : AccountInfo)
    (borrowed : List Pubkey) : Mut Ledger Unit := do
  checkLoad systemProgramId receiver (rt.pda address) none true
  let minRent := rt.minimumBalance 0
  let deltaLamports := ((← get) receiver.key).lamports - minRent
  if deltaLamports > 0 then
    rt.transfer address receiver feeWallet deltaLamports borrowed
  rt.transfer address receiver accountPayer minRent borrowed

/-- `allocate` and `assign` of the system program: the account gets some bytes of zeros and this program as its
owner. -/
def allocateAndAssign (newAccount : AccountInfo) (space : ℕ) : Mut Ledger Unit := do
  ensure (newAccount.isWritable = true) ProgramError.privilegeEscalation
  let self := (← get) newAccount.key
  ensure (self.data.discriminator = none ∧ self.owner = systemProgramId) ProgramError.accountAlreadyInUse
  write newAccount.key { self with owner := rt.programId, data := .bytes (List.replicate space 0) }

/-- `AccountPayer::pay_and_create_account`. -/
def payAndCreateAccount (ncn : Pubkey) (accountPayer newAccount : AccountInfo) (space : ℕ) :
    Mut Ledger Unit := do
  let requiredLamports := rt.minimumBalance space - ((← get) newAccount.key).lamports
  if requiredLamports > 0 then
    rt.transfer (.accountPayer ncn) accountPayer newAccount requiredLamports []
  rt.allocateAndAssign newAccount (min space maxReallocBytes)

/-- `AccountPayer::close_account`. -/
def closeAccount (accountPayer accountToClose : Pubkey) : Mut Ledger Unit := do
  let self := (← get) accountToClose
  ensure (self.owner = rt.programId) ProgramError.illegalOwner
  let payer := (← get) accountPayer
  let total ← okOr (checkedAdd 64 payer.lamports self.lamports) ProgramError.arithmeticOverflow
  write accountPayer { payer with lamports := total }
  write accountToClose .empty

/-- Runs a method of the epoch state at a key. -/
def onEpochState {α : Type} (key : Pubkey) (x : Mut EpochState α) : Mut Ledger α := do
  let self := (← get) key
  let epochState ← ofExcept self.data.toEpochState
  zoom (fun _ => epochState) (fun st l => Function.update l key { self with data := .epochState st }) x

/-! ## The instruction -/

/-- The accounts that are passed to `process_close_epoch_account`. -/
structure CloseAccounts where
  epochMarker : AccountInfo
  epochState : AccountInfo
  config : AccountInfo
  ncn : AccountInfo
  accountToClose : AccountInfo
  accountPayer : AccountInfo
  systemProgram : AccountInfo
  optionalAccounts : List AccountInfo

/-- The accounts in the order in which they are passed. -/
def CloseAccounts.toList (accs : CloseAccounts) : List AccountInfo :=
  [accs.epochMarker, accs.epochState, accs.config, accs.ncn, accs.accountToClose, accs.accountPayer,
    accs.systemProgram] ++ accs.optionalAccounts

/-- The kinds of accounts that can be closed. -/
inductive ClosableKind where
  | epochState
  | single (k : Single)
  | operatorSnapshot
  | operatorVaultRewardRouter
deriving DecidableEq

/-- The arms of the `match` on the discriminator. -/
def ClosableKind.ofDiscriminator (d : UInt8) : Option ClosableKind :=
  if d = EpochState.discriminator then some .epochState
  else if d = Single.weightTable.discriminator then some (.single .weightTable)
  else if d = Single.epochSnapshot.discriminator then some (.single .epochSnapshot)
  else if d = OperatorSnapshot.discriminator then some .operatorSnapshot
  else if d = Single.ballotBox.discriminator then some (.single .ballotBox)
  else if d = Single.ncnRewardRouter.discriminator then some (.single .ncnRewardRouter)
  else if d = OperatorVaultRewardRouter.discriminator then some .operatorVaultRewardRouter
  else none

/-- The receiver of a router is closed with it. The epoch state and the config are borrowed meanwhile. -/
def closeReceiverOf (accs : CloseAccounts) (config : Config) (address : Address) (borrowed : List Pubkey) :
    Mut Ledger Unit :=
  match accs.optionalAccounts with
  | [ncnFeeWallet, receiver] => do
    ensure (config.feeConfig.ncnFeeWallet = ncnFeeWallet.key) (invalidNCNFeeWallet : ProgramError)
    rt.closeReceiver address receiver ncnFeeWallet accs.accountPayer
      ([accs.epochState.key, accs.config.key] ++ borrowed)
  | _ => throw (cannotCloseAccountNoEnoughAccounts : ProgramError)

/-- One arm of `process_close_epoch_account`. -/
def closeArm (accs : CloseAccounts) (config : Config) (epoch : ℕ) : ClosableKind → Mut Ledger Unit
  | .epochState =>
    -- the state that is checked and marked is the one passed as `epoch_state`
    onEpochState accs.epochState.key do
      ofExcept ((← get).loadToClose accs.ncn.key epoch)
      modify EpochState.closeEpochState
  | .single k => do
    checkLoad rt.programId accs.accountToClose (rt.pda (.single k accs.ncn.key epoch)) (some k.discriminator)
      true
    if k = .ncnRewardRouter then
      rt.closeReceiverOf accs config (.ncnRewardReceiver accs.ncn.key epoch) []
    onEpochState accs.epochState.key (modify (EpochState.closeSingle k))
  | .operatorSnapshot => do
    let snapshot ← ofExcept ((← get) accs.accountToClose.key).data.toOperatorSnapshot
    checkLoad rt.programId accs.accountToClose
      (rt.pda (.operatorSnapshot snapshot.operator accs.ncn.key epoch)) (some OperatorSnapshot.discriminator)
      true
    onEpochState accs.epochState.key (EpochState.closeOperatorSnapshot snapshot.ncnOperatorIndex)
  | .operatorVaultRewardRouter => do
    let router ← ofExcept ((← get) accs.accountToClose.key).data.toOperatorVaultRewardRouter
    checkLoad rt.programId accs.accountToClose
      (rt.pda (.operatorVaultRewardRouter router.operator accs.ncn.key epoch))
      (some OperatorVaultRewardRouter.discriminator) true
    rt.closeReceiverOf accs config (.operatorVaultRewardReceiver router.operator accs.ncn.key epoch)
      [accs.accountToClose.key]
    onEpochState accs.epochState.key (EpochState.closeOperatorVaultRewardRouter router.ncnOperatorIndex)

/-- The end of `process_close_epoch_account` for the epoch state: its marker is created. -/
def createMarker (accs : CloseAccounts) (epoch : ℕ) : Mut Ledger Unit := do
  rt.payAndCreateAccount accs.ncn.key accs.accountPayer accs.epochMarker EpochMarker.size
  let self := (← get) accs.epochMarker.key
  write accs.epochMarker.key { self with data := .epochMarker ⟨accs.ncn.key, epoch, rt.slot⟩ }

/-- `process_close_epoch_account` after the accounts have been taken apart. -/
def closeEpochAccount (accs : CloseAccounts) (epoch : ℕ) : Mut Ledger Unit := do
  ensure (accs.systemProgram.key = systemProgramId) ProgramError.incorrectProgramId
  ofExcept (rt.loadNcn accs.ncn.key ((← get) accs.ncn.key))
  checkLoad rt.programId accs.epochState (rt.pda (.epochState accs.ncn.key epoch))
    (some EpochState.discriminator) false
  checkLoad rt.programId accs.config (rt.pda (.config accs.ncn.key)) (some Config.discriminator) false
  checkLoad systemProgramId accs.accountPayer (rt.pda (.accountPayer accs.ncn.key)) none false
  rt.checkDne accs.epochMarker accs.ncn.key epoch
  let closingEpochState := decide (accs.accountToClose.key = accs.epochState.key)
  let first ← okOr ((← get) accs.accountToClose.key).data.discriminator
    (cannotCloseAccountAlreadyClosed : ProgramError)
  let config ← ofExcept ((← get) accs.config.key).data.toConfig
  onEpochState accs.epochState.key do
    let canClose ← ofExcept ((← get).canCloseEpochAccounts rt.getEpoch
      config.epochsAfterConsensusBeforeClose rt.slot)
    ensure (canClose = true) (cannotCloseAccountNotEnoughEpochs : ProgramError)
    modify EpochState.setIsClosing
  let discriminator := if closingEpochState then EpochState.discriminator else first
  let kind ← okOr (ClosableKind.ofDiscriminator discriminator)
    (invalidAccountToCloseDiscriminator : ProgramError)
  rt.closeArm accs config epoch kind
  if closingEpochState then
    rt.createMarker accs epoch
  rt.closeAccount accs.accountPayer.key accs.accountToClose.key

/-- `process_close_epoch_account`. With fewer than seven accounts `split_at` panics. -/
def processCloseEpochAccount (accounts : List AccountInfo) (epoch : ℕ) : Mut Ledger Unit :=
  match accounts with
  | epochMarker :: epochState :: config :: ncn :: accountToClose :: accountPayer :: systemProgram ::
      optionalAccounts =>
    rt.closeEpochAccount ⟨epochMarker, epochState, config, ncn, accountToClose, accountPayer, systemProgram,
      optionalAccounts⟩ epoch
  | _ => throw (ProgramError.panicked .outOfBounds)

end Runtime
end NcnProgram
