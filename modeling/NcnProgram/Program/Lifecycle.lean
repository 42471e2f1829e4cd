import NcnProgram.Program.Rewards
import NcnProgram.Program.Snapshot
import NcnProgram.Program.Voting
import NcnProgram.Program.Weights

/-!
# The life of an epoch's accounts

Which accounts of an epoch exist, and every instruction that creates, grows or closes one: port of
`program/src/initialize_*.rs`, `program/src/realloc_*.rs` and `program/src/close_epoch_account.rs`, together
with the instructions that only work on accounts that are there. The weight table, the ballot box and the NCN
reward router are allocated by one instruction and get their data from a later one, when they have grown to
their size; the other accounts come with their data.

A `Lifecycle` sees one epoch. An account that does not exist belongs to the system program and is empty. The
lamports of the rent payer and of the fee wallet are not kept: rent is paid by the one and returned to it.
-/

namespace NcnProgram
open Lib NCNProgramError

/-- What the cluster and the restaking program fix: the arithmetic, the rent of an account without data, the
epoch of a slot, which grows without bound, and the indices of the NCN's operators, which are distinct. -/
structure Cluster where
  math : PreciseMath
  minRent : ℕ
  getEpoch : ℕ → ℕ
  index : Pubkey → ℕ
  getEpoch_unbounded : ∀ n, ∃ slot, n ≤ getEpoch slot
  index_injective : Function.Injective index

/-- How far an account has come: it is not there, it has some bytes of zeros, or it has its data. -/
inductive Slot where
  | absent
  | allocated (dataLen : ℕ)
  | initialized
deriving DecidableEq

/-- The accounts that an epoch has one of, besides its state. -/
inductive Single where
  | weightTable
  | epochSnapshot
  | ballotBox
  | ncnRewardRouter
deriving DecidableEq

/-- `MAX_REALLOC_BYTES`, what an account may grow by in one instruction. -/
def maxReallocBytes : ℕ := 10240

/-- `WeightTable::SIZE`. -/
def WeightTable.size : ℕ := 8 + (57 + 64 * 80 + 64 * 112)

/-- `BallotBox::SIZE`. -/
def BallotBox.size : ℕ := 8 + (75 + 256 * 58 + 256 * 28)

/-- `NCNRewardRouter::SIZE`. -/
def NCNRewardRouter.size : ℕ := 8 + (235 + 256 * 40)

/-- `get_new_size`. -/
def getNewSize (currentSize targetSize : ℕ) : Except ProgramError ℕ := do
  let size ← okOr (checkedAdd 64 currentSize maxReallocBytes) ProgramError.arithmeticOverflow
  return min size targetSize

/-- `VaultRegistry::vault_count`, of the registry's list of vaults. -/
def VaultRegistry.vaultCount (vaultList : Table VaultEntry maxVaults) : ℕ :=
  vaultList.toList.countP (!·.isEmpty)

/-- `VaultRegistry::st_mint_count`, of the registry's list of mints. -/
def VaultRegistry.stMintCount (stMintList : Table StMintEntry maxStMints) : ℕ :=
  stMintList.toList.countP (!·.isEmpty)

/-- A table that has just been filled has the mints of the registry, and no weight yet. -/
lemma WeightTable.initialized_ok {ncn : Pubkey} {epoch slot vaultCount : ℕ} {bump : UInt8}
    {vaults : Table VaultEntry maxVaults} {mints : Table StMintEntry maxStMints} {w : WeightTable}
    (h : initialized ncn epoch slot vaultCount bump vaults mints = .ok w) :
    w.vaultCount = vaultCount ∧ 0 < vaultCount ∧ w.weightCount = 0 ∧
      w.mintCount = VaultRegistry.stMintCount mints := by
  obtain ⟨rfl, hpos, _, _⟩ := initialized_eq_ok h
  have hset : ∀ e : StMintEntry, (WeightEntry.new e).isSet = false := fun _ => rfl
  refine ⟨rfl, hpos, ?_, ?_⟩
  · simp [weightCount, Table.map, hset]
  · simp only [mintCount, Table.map, VaultRegistry.stMintCount, List.countP_map]
    rfl

/-- The status of an account that an epoch has one of. -/
def EpochAccountStatus.single (self : EpochAccountStatus) : Single → AccountStatus
  | .weightTable => self.weightTable
  | .epochSnapshot => self.epochSnapshot
  | .ballotBox => self.ballotBox
  | .ncnRewardRouter => self.ncnRewardRouter

/-- The method of the epoch state that marks it as closed. -/
def EpochState.closeSingle : Single → EpochState → EpochState
  | .weightTable => closeWeightTable
  | .epochSnapshot => closeEpochSnapshot
  | .ballotBox => closeBallotBox
  | .ncnRewardRouter => closeNcnRewardRouter

/-- The accounts of one epoch of an NCN, with those that exist. The data in `accounts` of an account that does
not exist means nothing. -/
structure Lifecycle where
  accounts : Epoch
  epoch : ℕ
  epochState : Bool
  single : Single → Slot
  consensusResult : Bool
  epochMarker : Bool

namespace Lifecycle

/-- Runs an instruction on the data of the accounts. -/
def onAccounts {α : Type} (x : Mut Epoch α) : Mut Lifecycle α :=
  zoom (·.accounts) (fun e s => { s with accounts := e }) x

/-- Writes how far an account has come. -/
def setSingle (k : Single) (slot : Slot) (s : Lifecycle) : Lifecycle :=
  { s with single := Function.update s.single k slot }

lemma single_setSingle_ne (k k' : Single) (slot : Slot) (s : Lifecycle) (h : k' ≠ k) :
    (s.setSingle k slot).single k' = s.single k' := Function.update_of_ne h ..

/-- What is there after a write was written. -/
lemma eq_of_setSingle (k : Single) (slot : Slot) (s : Lifecycle) {slot' : Slot}
    (h : (s.setSingle k slot).single k = slot') : slot = slot' :=
  (Function.update_self ..).symm.trans h

/-- What is there after a write of another account was there before. -/
lemma single_of_setSingle_ne (k : Single) (slot : Slot) (s : Lifecycle) {k' : Single} {slot' : Slot}
    (hk : k' ≠ k) (h : (s.setSingle k slot).single k' = slot') : s.single k' = slot' := by
  rwa [single_setSingle_ne k k' slot s hk] at h

lemma single_setSingle (k : Single) (slot : Slot) (s : Lifecycle) :
    (s.setSingle k slot).single = Function.update s.single k slot := rfl

/-! ## Loading -/

/-- `EpochState::load`. -/
def loadEpochState : Mut Lifecycle Unit := do
  ensure ((← get).epochState = true) ProgramError.invalidAccountOwner

/-- `EpochState::load_and_check_is_closing`. -/
def loadAndCheckIsClosing : Mut Lifecycle Unit := do
  let self ← get
  ensure (self.epochState = true) ProgramError.invalidAccountData
  ensure (self.accounts.epochState.isClosing = false) (epochIsClosingDown : ProgramError)

/-- `load` of an account that the epoch has one of: it is there, with its discriminator. -/
def load (k : Single) : Mut Lifecycle Unit := do
  match (← get).single k with
  | .absent => throw ProgramError.invalidAccountOwner
  | .allocated _ => throw ProgramError.invalidAccountData
  | .initialized => return ()

/-- `load_system_account`: the account is not there yet. -/
def loadSystemAccount (k : Single) : Mut Lifecycle Unit := do
  ensure ((← get).single k = .absent) ProgramError.invalidAccountOwner

/-- `ConsensusResult::load`. -/
def loadConsensusResult : Mut Lifecycle Unit := do
  ensure ((← get).consensusResult = true) ProgramError.invalidAccountOwner

/-- `EpochMarker::check_dne`. -/
def checkDne : Mut Lifecycle Unit := do
  ensure ((← get).epochMarker = false) (markerExists : ProgramError)

/-! ## Creating accounts -/

/-- `process_initialize_epoch_state`. -/
def processInitializeEpochState (clock : Clock) (bump : UInt8) : Mut Lifecycle Unit := do
  let self ← get
  ensure (self.epoch ≤ clock.epoch) ProgramError.invalidArgument
  ensure (self.epochState = false) ProgramError.invalidAccountOwner
  checkDne
  ensure (self.accounts.config.startingValidEpoch ≤ self.epoch) ProgramError.invalidArgument
  let epochState := EpochState.initialized self.accounts.config.ncn self.epoch bump clock.slot
  set { self with
    epochState := true
    accounts := { self.accounts with epochState := epochState.updateReallocEpochState } }

/-- `process_initialize_weight_table`. `vaultCount` is the NCN's count of vaults, `vaultList` those of its
registry. -/
def processInitializeWeightTable (vaultCount : ℕ) (vaultList : Table VaultEntry maxVaults) :
    Mut Lifecycle Unit := do
  loadAndCheckIsClosing
  checkDne
  loadSystemAccount .weightTable
  ensure (vaultCount = VaultRegistry.vaultCount vaultList) ProgramError.invalidAccountData
  modify (setSingle .weightTable (.allocated maxReallocBytes))

/-- `process_initialize_epoch_snapshot`. `operatorCount` is the NCN's count of operators. -/
def processInitializeEpochSnapshot (clock : Clock) (bump : UInt8) (operatorCount : ℕ) :
    Mut Lifecycle Unit := do
  loadAndCheckIsClosing
  checkDne
  loadSystemAccount .epochSnapshot
  load .weightTable
  let self ← get
  ensure (self.accounts.weightTable.finalized = true) (weightTableNotFinalized : ProgramError)
  ensure (operatorCount ≠ 0) (noOperators : ProgramError)
  let epochSnapshot := EpochSnapshot.new self.accounts.config.ncn self.epoch bump clock.slot operatorCount
    self.accounts.weightTable.vaultCount (self.accounts.config.feeConfig.currentFees self.epoch)
  set { self.setSingle .epochSnapshot .initialized with
    accounts := { self.accounts with
      epochSnapshot
      epochState := self.accounts.epochState.updateInitializeEpochSnapshot operatorCount } }

/-- `process_initialize_operator_snapshot`. -/
def processInitializeOperatorSnapshot (clock : Clock) (bump : UInt8) (op : NcnOperator) :
    Mut Lifecycle Unit := do
  loadAndCheckIsClosing
  load .epochSnapshot
  checkDne
  onAccounts (Epoch.processInitializeOperatorSnapshot clock bump op)

/-- `process_initialize_ballot_box`, which creates the consensus result as well. -/
def processInitializeBallotBox (bump : UInt8) : Mut Lifecycle Unit := do
  loadSystemAccount .ballotBox
  loadAndCheckIsClosing
  checkDne
  let self ← get
  ensure (self.consensusResult = false) ProgramError.invalidAccountOwner
  set { self.setSingle .ballotBox (.allocated maxReallocBytes) with
    consensusResult := true
    accounts := { self.accounts with consensusResult := .new self.accounts.config.ncn self.epoch bump } }

/-- `process_initialize_ncn_reward_router`, which gives the receiver its rent. -/
def processInitializeNcnRewardRouter (cl : Cluster) : Mut Lifecycle Unit := do
  loadAndCheckIsClosing
  checkDne
  loadSystemAccount .ncnRewardRouter
  modify (setSingle .ncnRewardRouter (.allocated maxReallocBytes))
  onAccounts (Epoch.depositNcn cl.minRent)

/-- `process_initialize_operator_vault_reward_router`. -/
def processInitializeOperatorVaultRewardRouter (cl : Cluster) (clock : Clock) (bump : UInt8)
    (operator : Pubkey) : Mut Lifecycle Unit := do
  loadAndCheckIsClosing
  let self ← get
  let snapshot ← okOr (self.accounts.operatorSnapshot operator) ProgramError.invalidAccountOwner
  ensure ((self.accounts.operatorVaultRewardRouter operator).isNone = true) ProgramError.invalidAccountOwner
  checkDne
  let router := OperatorVaultRewardRouter.new operator snapshot.ncnOperatorIndex self.accounts.config.ncn
    self.epoch bump clock.slot
  onAccounts (modify (Epoch.setOperatorVaultRewardRouter operator router))
  onAccounts (Epoch.depositOperatorVault operator cl.minRent)
  onAccounts (Epoch.onEpochState
    (EpochState.updateReallocOperatorVaultRewardRouter snapshot.ncnOperatorIndex))

/-! ## Growing accounts -/

/-- What the `realloc_*` instructions share: the account grows, and the result says whether it has just got
to its size and is to be given its data. An account of the system program cannot be grown. -/
def realloc (k : Single) (size : ℕ) : Mut Lifecycle Bool := do
  loadEpochState
  match (← get).single k with
  | .absent => throw ProgramError.externalAccountDataModified
  | .allocated dataLen =>
    if dataLen < size then
      let newSize ← ofExcept (getNewSize dataLen size)
      modify (setSingle k (.allocated newSize))
      return decide (size ≤ newSize)
    else
      return true
  | .initialized => return false

/-- `process_realloc_weight_table`. The table is filled from the vault registry. -/
def processReallocWeightTable (clock : Clock) (bump : UInt8) (vaultList : Table VaultEntry maxVaults)
    (stMintList : Table StMintEntry maxStMints) : Mut Lifecycle Unit := do
  if ← realloc .weightTable WeightTable.size then
    let self ← get
    let vaultCount := VaultRegistry.vaultCount vaultList
    let weightTable ← ofExcept (WeightTable.initialized self.accounts.config.ncn self.epoch clock.slot
      vaultCount bump vaultList stMintList)
    set { self.setSingle .weightTable .initialized with
      accounts := { self.accounts with
        weightTable
        epochState := self.accounts.epochState.updateReallocWeightTable vaultCount
          (VaultRegistry.stMintCount stMintList) } }

/-- `process_realloc_ballot_box`. -/
def processReallocBallotBox (clock : Clock) (bump : UInt8) : Mut Lifecycle Unit := do
  if ← realloc .ballotBox BallotBox.size then
    let self ← get
    set { self.setSingle .ballotBox .initialized with
      accounts := { self.accounts with
        ballotBox := .new self.accounts.config.ncn self.epoch bump clock.slot
        epochState := self.accounts.epochState.updateReallocBallotBox } }

/-- `process_realloc_ncn_reward_router`. -/
def processReallocNcnRewardRouter (clock : Clock) (bump : UInt8) : Mut Lifecycle Unit := do
  if ← realloc .ncnRewardRouter NCNRewardRouter.size then
    let self ← get
    set { self.setSingle .ncnRewardRouter .initialized with
      accounts := { self.accounts with
        ncnRewardRouter := .new self.accounts.config.ncn self.epoch bump clock.slot
        epochState := self.accounts.epochState.updateReallocNcnRewardRouter } }

/-! ## Closing accounts -/

/-- An account handed to `process_close_epoch_account` as the one to close: one of this epoch, or the state of
another one. -/
inductive Target where
  | epochState
  | single (k : Single)
  | operatorSnapshot (operator : Pubkey)
  | operatorVaultRewardRouter (operator : Pubkey)
  | otherEpochState

/-- `data_is_empty`, of the account to close. -/
def dataIsEmpty (s : Lifecycle) : Target → Bool
  | .epochState => !s.epochState
  | .single k => s.single k == .absent
  | .operatorSnapshot operator => (s.accounts.operatorSnapshot operator).isNone
  | .operatorVaultRewardRouter operator => (s.accounts.operatorVaultRewardRouter operator).isNone
  | .otherEpochState => false

/-- `NCNRewardReceiver::close` and `OperatorVaultRewardReceiver::close` on the lamports of the receiver: all but
the rent goes to the fee wallet, then the rent to the payer. -/
def closeReceiver (cl : Cluster) (lamports : ℕ) : Except ProgramError ℕ := do
  let delta := lamports - cl.minRent
  okOr (checkedSub (lamports - delta) cl.minRent) ProgramError.insufficientFunds

/-- The arm of `process_close_epoch_account` for the account, followed by the account's end. -/
def closeTarget (cl : Cluster) : Target → Mut Lifecycle Unit
  | .epochState => do
    let self ← get
    ofExcept (self.accounts.epochState.loadToClose self.accounts.config.ncn self.epoch)
    set { self with epochState := false, epochMarker := true }
  | .single k => do
    let self ← get
    ensure (self.single k = .initialized) (invalidAccountToCloseDiscriminator : ProgramError)
    if k = .ncnRewardRouter then
      let lamports ← ofExcept (closeReceiver cl self.accounts.ncnRewardReceiver)
      onAccounts (modify ({ · with ncnRewardReceiver := lamports }))
    onAccounts (Epoch.onEpochState (modify (EpochState.closeSingle k)))
    modify (setSingle k .absent)
  | .operatorSnapshot operator => do
    let self ← get
    let snapshot ← okOr (self.accounts.operatorSnapshot operator) ProgramError.invalidAccountData
    onAccounts (Epoch.onEpochState (EpochState.closeOperatorSnapshot snapshot.ncnOperatorIndex))
    onAccounts (modify fun e => { e with
      operatorSnapshot := Function.update e.operatorSnapshot operator none })
  | .operatorVaultRewardRouter operator => do
    let self ← get
    let router ← okOr (self.accounts.operatorVaultRewardRouter operator) ProgramError.invalidAccountData
    let lamports ← ofExcept (closeReceiver cl (self.accounts.operatorVaultRewardReceiver operator))
    onAccounts (modify (Epoch.setOperatorVaultRewardReceiver operator lamports))
    onAccounts (Epoch.onEpochState
      (EpochState.closeOperatorVaultRewardRouter router.ncnOperatorIndex))
    onAccounts (modify fun e => { e with
      operatorVaultRewardRouter := Function.update e.operatorVaultRewardRouter operator none })
  | .otherEpochState => do
    -- the state that is checked and marked is the one of this epoch
    let self ← get
    ofExcept (self.accounts.epochState.loadToClose self.accounts.config.ncn self.epoch)
    onAccounts (Epoch.onEpochState (modify EpochState.closeEpochState))

/-- `process_close_epoch_account`, with the accounts of this epoch. -/
def processCloseEpochAccount (cl : Cluster) (clock : Clock) (target : Target) : Mut Lifecycle Unit := do
  loadEpochState
  checkDne
  let self ← get
  ensure (self.dataIsEmpty target = false) (cannotCloseAccountAlreadyClosed : ProgramError)
  let canClose ← ofExcept (self.accounts.epochState.canCloseEpochAccounts cl.getEpoch
    self.accounts.config.epochsAfterConsensusBeforeClose clock.slot)
  ensure (canClose = true) (cannotCloseAccountNotEnoughEpochs : ProgramError)
  onAccounts (Epoch.onEpochState (modify EpochState.setIsClosing))
  closeTarget cl target

/-! ## Runs -/

/-- The instructions on an epoch, and lamports that arrive at a reward receiver. -/
inductive Instruction where
  | initializeEpochState (clock : Clock) (bump : UInt8)
  | initializeWeightTable (vaultCount : ℕ) (vaultList : Table VaultEntry maxVaults)
  | reallocWeightTable (clock : Clock) (bump : UInt8) (vaultList : Table VaultEntry maxVaults)
      (stMintList : Table StMintEntry maxStMints)
  | adminSetWeight (clock : Clock) (ncnAdmin admin stMint : Pubkey) (weight : ℕ)
  | setEpochWeights (clock : Clock) (stMintList : Table StMintEntry maxStMints)
  | initializeEpochSnapshot (clock : Clock) (bump : UInt8) (operatorCount : ℕ)
  | initializeOperatorSnapshot (clock : Clock) (bump : UInt8) (operator : Pubkey)
      (operatorIndex operatorFeeBps : ℕ) (isActive : Bool)
  | snapshotVaultOperatorDelegation (clock : Clock) (operator : Pubkey) (v : VaultDelegation)
  | initializeBallotBox (bump : UInt8)
  | reallocBallotBox (clock : Clock) (bump : UInt8)
  | castVote (clock : Clock) (operator voter operatorAdmin : Pubkey) (weatherStatus : UInt8)
  | adminSetTieBreaker (clock : Clock) (tieBreakerAdmin : Pubkey) (weatherStatus : UInt8)
  | adminSetParameters (ncn admin ncnAdmin : Pubkey) (startingValidEpoch epochsBeforeStall
      epochsAfterConsensusBeforeClose validSlotsAfterConsensus : Option ℕ)
  | adminSetNewAdmin (ncn admin ncnAdmin newAdmin : Pubkey)
  | initializeNcnRewardRouter
  | reallocNcnRewardRouter (clock : Clock) (bump : UInt8)
  | initializeOperatorVaultRewardRouter (clock : Clock) (bump : UInt8) (operator : Pubkey)
  | routeNcnRewards (clock : Clock) (maxIterations : ℕ)
  | routeOperatorVaultRewards (operator : Pubkey) (maxIterations : ℕ)
  | distributeNcnRewards (ncnFeeWallet : Pubkey)
  | distributeProtocolRewards (protocolFeeWallet : Pubkey)
  | distributeOperatorVaultRewardRoute (operator : Pubkey)
  | distributeOperatorRewards (operator : Pubkey)
  | distributeVaultRewards (operator vault : Pubkey)
  | depositNcn (lamports : ℕ)
  | depositOperatorVault (operator : Pubkey) (lamports : ℕ)
  | closeEpochAccount (clock : Clock) (target : Target)

/-- Loads the epoch's state and the accounts given, and runs an instruction on the data. -/
def loaded (ks : List Single) (x : Mut Epoch Unit) : Mut Lifecycle Unit := do
  loadEpochState
  ks.forM load
  onAccounts x

/-- What an instruction does. -/
def exec (cl : Cluster) : Instruction → Mut Lifecycle Unit
  | .initializeEpochState clock bump => processInitializeEpochState clock bump
  | .initializeWeightTable vaultCount vaultList => processInitializeWeightTable vaultCount vaultList
  | .reallocWeightTable clock bump vaultList stMintList =>
    processReallocWeightTable clock bump vaultList stMintList
  | .adminSetWeight clock ncnAdmin admin stMint weight =>
    loaded [.weightTable] (Epoch.processAdminSetWeight clock ncnAdmin admin stMint weight)
  | .setEpochWeights clock stMintList =>
    loaded [.weightTable] (Epoch.processSetEpochWeights clock stMintList)
  | .initializeEpochSnapshot clock bump operatorCount =>
    processInitializeEpochSnapshot clock bump operatorCount
  | .initializeOperatorSnapshot clock bump operator operatorIndex operatorFeeBps isActive =>
    processInitializeOperatorSnapshot clock bump
      ⟨operator, operatorIndex, operatorFeeBps, cl.index operator, isActive⟩
  | .snapshotVaultOperatorDelegation clock operator v =>
    loaded [.weightTable, .epochSnapshot]
      (Epoch.processSnapshotVaultOperatorDelegation cl.math clock operator v)
  | .initializeBallotBox bump => processInitializeBallotBox bump
  | .reallocBallotBox clock bump => processReallocBallotBox clock bump
  | .castVote clock operator voter operatorAdmin weatherStatus => do
    loadConsensusResult
    loaded [.ballotBox, .epochSnapshot]
      (Epoch.processCastVote cl.math clock operator voter operatorAdmin weatherStatus)
  | .adminSetTieBreaker clock tieBreakerAdmin weatherStatus =>
    loaded [.ballotBox] (Epoch.processAdminSetTieBreaker clock tieBreakerAdmin weatherStatus)
  | .adminSetParameters ncn admin ncnAdmin startingValidEpoch epochsBeforeStall
      epochsAfterConsensusBeforeClose validSlotsAfterConsensus =>
    onAccounts (Epoch.processAdminSetParameters ncn admin ncnAdmin startingValidEpoch epochsBeforeStall
      epochsAfterConsensusBeforeClose validSlotsAfterConsensus)
  | .adminSetNewAdmin ncn admin ncnAdmin newAdmin =>
    onAccounts (Epoch.processAdminSetNewAdmin ncn admin ncnAdmin newAdmin)
  | .initializeNcnRewardRouter => processInitializeNcnRewardRouter cl
  | .reallocNcnRewardRouter clock bump => processReallocNcnRewardRouter clock bump
  | .initializeOperatorVaultRewardRouter clock bump operator =>
    processInitializeOperatorVaultRewardRouter cl clock bump operator
  | .routeNcnRewards clock maxIterations =>
    loaded [.epochSnapshot, .ncnRewardRouter, .ballotBox]
      (Epoch.processRouteNcnRewards cl.math clock cl.minRent maxIterations)
  | .routeOperatorVaultRewards operator maxIterations =>
    loaded [] (Epoch.processRouteOperatorVaultRewards cl.math cl.minRent operator maxIterations)
  | .distributeNcnRewards ncnFeeWallet =>
    loaded [.ncnRewardRouter] (Epoch.processDistributeNcnRewards ncnFeeWallet)
  | .distributeProtocolRewards protocolFeeWallet =>
    loaded [.ncnRewardRouter] (Epoch.processDistributeProtocolRewards protocolFeeWallet)
  | .distributeOperatorVaultRewardRoute operator =>
    loaded [.ncnRewardRouter] (Epoch.processDistributeOperatorVaultRewardRoute operator)
  | .distributeOperatorRewards operator => loaded [] (Epoch.processDistributeOperatorRewards operator)
  | .distributeVaultRewards operator vault =>
    loaded [] (Epoch.processDistributeVaultRewards operator vault)
  | .depositNcn lamports => onAccounts (Epoch.depositNcn lamports)
  | .depositOperatorVault operator lamports => onAccounts (Epoch.depositOperatorVault operator lamports)
  | .closeEpochAccount clock target => processCloseEpochAccount cl clock target

/-- A successful instruction on the epoch. A close call that names another epoch is none, although it can empty the
account with the state of this one (`Emptied`). -/
def Step (cl : Cluster) (s s' : Lifecycle) : Prop := ∃ i, (exec cl i).run s = .ok () s'

/-- What a close call that names another epoch can do to this one: the account with its state is emptied, and nothing
marks the epoch as closed. -/
def Emptied (s s' : Lifecycle) : Prop := s.epochState = true ∧ s' = { s with epochState := false }

/-- Whatever can happen to the epoch. -/
def StepOrEmptied (cl : Cluster) (s s' : Lifecycle) : Prop := Step cl s s' ∨ Emptied s s'

/-- Nothing of the epoch is there yet. -/
structure Untouched (s : Lifecycle) : Prop where
  epochState : s.epochState = false
  single : ∀ k, s.single k = .absent
  operatorSnapshot : ∀ operator, s.accounts.operatorSnapshot operator = none
  operatorVaultRewardRouter : ∀ operator, s.accounts.operatorVaultRewardRouter operator = none
  consensusResult : s.consensusResult = false
  epochMarker : s.epochMarker = false

/-! ## A small epoch -/

/-- A cluster to compute with, where the operator `7` has the index zero. -/
def smallCluster : Cluster where
  math := splMath
  minRent := 5
  getEpoch slot := slot / defaultSlotsPerEpoch
  index p := (p - 7).toNat
  getEpoch_unbounded n := ⟨n * defaultSlotsPerEpoch, (Nat.mul_div_cancel n (by decide)).ge⟩
  index_injective _ _ h := (BitVec.sub_left_inj 7).1 (BitVec.toNat_inj.1 h)

/-- An epoch before it has any accounts. -/
def small : Lifecycle := ⟨.small 1, 0, false, fun _ => .absent, false, false⟩

lemma small_untouched : small.Untouched :=
  ⟨rfl, fun _ => rfl, fun _ => rfl, fun _ => rfl, rfl, rfl⟩

/-- The whole life of the small epoch up to the closing of its state: one vault, one operator, one vote, and
an NCN reward router or none. -/
def smallRun (router : Bool) : List Instruction :=
  let vaultList := (Table.replicate maxVaults .default).set 0 ⟨11, 21, 1, 1⟩
  let stMintList := (Table.replicate maxStMints .default).set 0 ⟨21, 1⟩
  let close := Instruction.closeEpochAccount ⟨10 * defaultSlotsPerEpoch, 10⟩
  [.initializeEpochState ⟨1, 0⟩ 0, .initializeWeightTable 1 vaultList,
    .reallocWeightTable ⟨1, 0⟩ 0 vaultList stMintList, .reallocWeightTable ⟨1, 0⟩ 0 vaultList stMintList,
    .adminSetWeight ⟨1, 0⟩ 5 5 21 1, .initializeEpochSnapshot ⟨1, 0⟩ 0 1,
    .initializeOperatorSnapshot ⟨1, 0⟩ 0 7 0 0 true,
    .snapshotVaultOperatorDelegation ⟨1, 0⟩ 7 (.small false 5), .initializeBallotBox 0,
    .reallocBallotBox ⟨1, 0⟩ 0, .reallocBallotBox ⟨1, 0⟩ 0, .castVote ⟨10, 0⟩ 7 5 5 1] ++
  (if router then [.initializeNcnRewardRouter, .reallocNcnRewardRouter ⟨10, 0⟩ 0] else []) ++
  [close (.single .weightTable), close (.single .epochSnapshot), close (.single .ballotBox),
    close (.operatorSnapshot 7)] ++
  (if router then [close (.single .ncnRewardRouter)] else [])

/-- The state that the small run leads to. -/
@[irreducible] def smallEnd (router : Bool) : Lifecycle :=
  commit ((smallRun router).forM (exec smallCluster)) small

/-- Every instruction of the small run succeeds. -/
lemma small_run (router : Bool) : Run (Step smallCluster) small (smallEnd router) := by
  have h : Succeeds ((smallRun router).forM (exec smallCluster)) small := by cases router <;> decide +kernel
  unfold smallEnd
  exact Run.of_forM _ h.run_eq

end Lifecycle
end NcnProgram
