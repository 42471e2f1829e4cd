import NcnProgram.Phases.Effect
import NcnProgram.Program.Config
import NcnProgram.Program.VaultRegistry

/-!
# The accounts of an NCN

An NCN has a configuration, a vault registry and the accounts of its epochs, of which several can be live at a time.
This is the whole of what the instructions of `program/src/lib.rs` work on, for one NCN: port of
`program/src/initialize_vault_registry.rs`, `program/src/realloc_vault_registry.rs`,
`program/src/admin_register_st_mint.rs` and `program/src/admin_set_st_mint.rs`, with the creation of the configuration,
the registration of vaults and every instruction on an epoch. An instruction on an epoch reads the registry and the
NCN's account where its accounts are those of the NCN; what it reads there is not up to its caller.

The NCN's own account belongs to the restaking program, which may change it between any two instructions.
-/

namespace NcnProgram
open Lib NCNProgramError

/-- What is read of the NCN's account. -/
structure NcnAccount where
  admin : Pubkey
  ncnProgramAdmin : Pubkey
  weightTableAdmin : Pubkey
  vaultCount : ℕ
  operatorCount : ℕ

/-- `VaultRegistry::SIZE`. -/
def VaultRegistry.size : ℕ := 8 + (33 + 64 * 80 + 64 * 80)

/-- The accounts of an NCN. The data of an account that does not exist means nothing, and neither do the number and
the configuration that an entry of `epochs` carries: `Ncn.view` puts in those of the NCN. -/
structure Ncn where
  ncn : Pubkey
  configured : Bool
  config : Config
  registrySlot : Slot
  vaultRegistry : VaultRegistry
  epochs : ℕ → Lifecycle

namespace Ncn

/-- The accounts of an epoch, with the configuration. -/
def view (epoch : ℕ) (self : Ncn) : Lifecycle :=
  { self.epochs epoch with
    epoch
    accounts := { (self.epochs epoch).accounts with config := self.config } }

/-- Writes the accounts of an epoch, and the configuration. -/
def put (epoch : ℕ) (s : Lifecycle) (self : Ncn) : Ncn :=
  { self with
    config := s.accounts.config
    epochs := Function.update self.epochs epoch s }

/-! ## The configuration and the registry -/

/-- `Config::load`. -/
def loadConfig : Mut Ncn Unit := do
  ensure ((← get).configured = true) ProgramError.invalidAccountOwner

/-- `VaultRegistry::load`. -/
def loadVaultRegistry : Mut Ncn Unit := do
  match (← get).registrySlot with
  | .absent => throw ProgramError.invalidAccountOwner
  | .allocated _ => throw ProgramError.invalidAccountData
  | .initialized => return ()

/-- Loads an account that not every instruction loads. -/
def loadIf (loads : Bool) (load : Mut Ncn Unit) : Mut Ncn Unit := if loads then load else return ()

/-- Runs a method of the vault registry. -/
def onVaultRegistry {α : Type} (x : Mut VaultRegistry α) : Mut Ncn α :=
  zoom (·.vaultRegistry) (fun r s => { s with vaultRegistry := r }) x

/-- `process_admin_initialize_config`. -/
def processAdminInitializeConfig (cl : Cluster) (account : NcnAccount) (clock : Clock) (ncnFeeWallet ncnAdmin
    tieBreakerAdmin : Pubkey) (bump : UInt8) (epochsBeforeStall epochsAfterConsensusBeforeClose
    validSlotsAfterConsensus ncnFeeBps : ℕ) : Mut Ncn Unit := do
  let self ← get
  ensure (self.configured = false) ProgramError.invalidAccountOwner
  let config ← ofExcept (Config.processAdminInitializeConfig cl.math clock self.ncn ncnFeeWallet account.admin
    ncnAdmin tieBreakerAdmin bump epochsBeforeStall epochsAfterConsensusBeforeClose validSlotsAfterConsensus
    ncnFeeBps)
  set { self with configured := true, config }

/-- `process_initialize_vault_registry`. -/
def processInitializeVaultRegistry : Mut Ncn Unit := do
  ensure ((← get).registrySlot = .absent) ProgramError.invalidAccountOwner
  loadConfig
  modify ({ · with registrySlot := .allocated maxReallocBytes })

/-- `process_realloc_vault_registry`. The registry is given its data when it has got to its size. -/
def processReallocVaultRegistry (bump : UInt8) : Mut Ncn Unit := do
  loadConfig
  let self ← get
  match self.registrySlot with
  | .absent => throw ProgramError.externalAccountDataModified
  | .allocated dataLen =>
    let newSize ← ofExcept (if dataLen < VaultRegistry.size then getNewSize dataLen VaultRegistry.size
      else return dataLen)
    if VaultRegistry.size ≤ newSize then
      set { self with registrySlot := .initialized, vaultRegistry := .new self.ncn bump }
    else
      set { self with registrySlot := .allocated newSize }
  | .initialized => return ()

/-- `process_register_vault`. -/
def processRegisterVault (clock : Clock) (vault supportedMint : Pubkey) (vaultIndex : ℕ) : Mut Ncn Unit := do
  loadConfig
  loadVaultRegistry
  onVaultRegistry (VaultRegistry.processRegisterVault clock vault supportedMint vaultIndex)

/-- `process_admin_register_st_mint`. A weight that is not given is zero, which the registry refuses. -/
def processAdminRegisterStMint (account : NcnAccount) (admin stMint : Pubkey) (weight : Option ℕ) :
    Mut Ncn Unit := do
  loadConfig
  loadVaultRegistry
  ensure (account.ncnProgramAdmin = admin) ProgramError.invalidAccountData
  onVaultRegistry (VaultRegistry.registerStMint stMint (weight.getD 0))

/-- `process_admin_set_st_mint`. -/
def processAdminSetStMint (account : NcnAccount) (admin stMint : Pubkey) (weight : Option ℕ) : Mut Ncn Unit := do
  loadConfig
  loadVaultRegistry
  ensure (account.ncnProgramAdmin = admin) ProgramError.invalidAccountData
  onVaultRegistry (VaultRegistry.setStMint stMint weight)

/-! ## The epochs -/

/-- The instruction on an epoch loads the configuration. -/
def loadsConfig : Lifecycle.Instruction → Bool
  | .initializeWeightTable .. | .adminSetWeight .. | .setEpochWeights .. | .initializeNcnRewardRouter
  | .initializeOperatorVaultRewardRouter .. | .routeOperatorVaultRewards .. | .depositNcn ..
  | .depositOperatorVault .. => false
  | _ => true

/-- It loads the vault registry. -/
def loadsVaultRegistry : Lifecycle.Instruction → Bool
  | .initializeWeightTable .. | .reallocWeightTable .. | .setEpochWeights .. => true
  | _ => false

/-- What the instruction reads of the NCN's account and of the registry, and the key of the NCN. -/
def reading (account : NcnAccount) (self : Ncn) : Lifecycle.Instruction → Lifecycle.Instruction
  | .initializeWeightTable _ _ => .initializeWeightTable account.vaultCount self.vaultRegistry.vaultList
  | .reallocWeightTable clock bump _ _ =>
    .reallocWeightTable clock bump self.vaultRegistry.vaultList self.vaultRegistry.stMintList
  | .adminSetWeight clock _ admin stMint weight =>
    .adminSetWeight clock account.weightTableAdmin admin stMint weight
  | .setEpochWeights clock _ => .setEpochWeights clock self.vaultRegistry.stMintList
  | .initializeEpochSnapshot clock bump _ => .initializeEpochSnapshot clock bump account.operatorCount
  | .adminSetParameters _ _ ncnAdmin startingValidEpoch epochsBeforeStall epochsAfterConsensusBeforeClose
      validSlotsAfterConsensus =>
    .adminSetParameters self.ncn account.admin ncnAdmin startingValidEpoch epochsBeforeStall
      epochsAfterConsensusBeforeClose validSlotsAfterConsensus
  | .adminSetNewAdmin _ _ ncnAdmin newAdmin => .adminSetNewAdmin self.ncn account.admin ncnAdmin newAdmin
  | i => i

/-- An instruction on the accounts of an epoch. -/
def processOnEpoch (cl : Cluster) (account : NcnAccount) (epoch : ℕ) (i : Lifecycle.Instruction) :
    Mut Ncn Unit := do
  loadIf (loadsConfig i) loadConfig
  loadIf (loadsVaultRegistry i) loadVaultRegistry
  let self ← get
  zoom (view epoch) (put epoch) (Lifecycle.exec cl (self.reading account i))

/-- The account with the state of an epoch is emptied, and nothing else. -/
def emptyEpochState (victim : ℕ) : Mut Ncn Unit := do
  ensure (((← get).epochs victim).epochState = true) (cannotCloseAccountAlreadyClosed : ProgramError)
  modify fun self => { self with
    epochs := Function.update self.epochs victim { self.epochs victim with epochState := false } }

/-- `process_close_epoch_account` with the state of the epoch `victim` as the account to close, by a call that names
another epoch, or another NCN. -/
def processCloseOtherEpochState (cl : Cluster) (account : NcnAccount) (clock : Clock) (named : Option ℕ)
    (victim : ℕ) : Mut Ncn Unit :=
  match named with
  | some epoch =>
    if epoch = victim then processOnEpoch cl account epoch (.closeEpochAccount clock .epochState)
    else do
      processOnEpoch cl account epoch (.closeEpochAccount clock .otherEpochState)
      emptyEpochState victim
  | none => emptyEpochState victim

/-! ## Calls -/

/-- The instructions. The two on the parameters of the configuration are among those on an epoch, and it does not
matter which is named. -/
inductive Instruction where
  | adminInitializeConfig (clock : Clock) (ncnFeeWallet ncnAdmin tieBreakerAdmin : Pubkey) (bump : UInt8)
      (epochsBeforeStall epochsAfterConsensusBeforeClose validSlotsAfterConsensus ncnFeeBps : ℕ)
  | initializeVaultRegistry
  | reallocVaultRegistry (bump : UInt8)
  | registerVault (clock : Clock) (vault supportedMint : Pubkey) (vaultIndex : ℕ)
  | adminRegisterStMint (admin stMint : Pubkey) (weight : Option ℕ)
  | adminSetStMint (admin stMint : Pubkey) (weight : Option ℕ)
  | onEpoch (epoch : ℕ) (i : Lifecycle.Instruction)
  | closeOtherEpochState (clock : Clock) (named : Option ℕ) (victim : ℕ)

/-- An instruction, and what the NCN's account holds when it is run. -/
structure Call where
  account : NcnAccount
  instruction : Instruction

/-- What a call does. -/
def exec (cl : Cluster) (c : Call) : Mut Ncn Unit :=
  match c.instruction with
  | .adminInitializeConfig clock ncnFeeWallet ncnAdmin tieBreakerAdmin bump epochsBeforeStall
      epochsAfterConsensusBeforeClose validSlotsAfterConsensus ncnFeeBps =>
    processAdminInitializeConfig cl c.account clock ncnFeeWallet ncnAdmin tieBreakerAdmin bump epochsBeforeStall
      epochsAfterConsensusBeforeClose validSlotsAfterConsensus ncnFeeBps
  | .initializeVaultRegistry => processInitializeVaultRegistry
  | .reallocVaultRegistry bump => processReallocVaultRegistry bump
  | .registerVault clock vault supportedMint vaultIndex =>
    processRegisterVault clock vault supportedMint vaultIndex
  | .adminRegisterStMint admin stMint weight => processAdminRegisterStMint c.account admin stMint weight
  | .adminSetStMint admin stMint weight => processAdminSetStMint c.account admin stMint weight
  | .onEpoch epoch i => processOnEpoch cl c.account epoch i
  | .closeOtherEpochState clock named victim => processCloseOtherEpochState cl c.account clock named victim

/-- The slot that an instruction reads off the clock. -/
def Instruction.slot : Instruction → Option ℕ
  | .adminInitializeConfig clock .. | .registerVault clock .. | .closeOtherEpochState clock .. => some clock.slot
  | .onEpoch _ i => i.slot
  | _ => none

/-- The signer of an instruction that is an admin's. -/
def Instruction.adminSigner : Instruction → Option Pubkey
  | .adminInitializeConfig _ _ ncnAdmin .. => some ncnAdmin
  | .adminRegisterStMint admin .. | .adminSetStMint admin .. => some admin
  | .onEpoch _ (.adminSetWeight _ _ weightTableAdmin _ _) => some weightTableAdmin
  | .onEpoch _ (.adminSetTieBreaker _ tieBreakerAdmin _) => some tieBreakerAdmin
  | .onEpoch _ (.adminSetParameters _ _ ncnAdmin ..) | .onEpoch _ (.adminSetNewAdmin _ _ ncnAdmin _) => some ncnAdmin
  | _ => none

/-- The instruction empties the state of the epoch and names another. -/
def Instruction.empties (epoch : ℕ) : Instruction → Bool
  | .closeOtherEpochState _ named victim => victim == epoch && named != some epoch
  | _ => false

/-- Nothing of the NCN is there yet. -/
structure Untouched (s : Ncn) : Prop where
  configured : s.configured = false
  registrySlot : s.registrySlot = .absent
  epochs : ∀ epoch, (s.epochs epoch).Untouched

/-! ## A small NCN -/

/-- An NCN before it has any accounts. -/
def small : Ncn := ⟨1, false, (Epoch.small 1).config, .absent, .new 1 0, fun _ => .small⟩

lemma small_untouched : small.Untouched := ⟨rfl, rfl, fun _ => Lifecycle.small_untouched⟩

/-- Calls on the small NCN, which has the one admin `5`. -/
def smallCalls : List Instruction → List Call := List.map (Call.mk ⟨5, 5, 5, 1, 1⟩)

/-- It gets its configuration, and a registry with one vault. -/
def smallSetup : List Call :=
  smallCalls [.adminInitializeConfig ⟨1, 0⟩ 4 5 5 0 1 10 1000 100, .initializeVaultRegistry, .reallocVaultRegistry 0,
    .adminRegisterStMint 5 21 (some 1), .registerVault ⟨1, 0⟩ 11 21 1]

/-- Two epochs begin at a time, and their weights are set. -/
def smallEpochs : List Call :=
  let vaultList := Table.replicate maxVaults .default
  let stMintList := Table.replicate maxStMints .default
  smallCalls [.onEpoch 0 (.initializeEpochState ⟨1, 1⟩ 0), .onEpoch 1 (.initializeEpochState ⟨1, 1⟩ 0),
    .onEpoch 1 (.initializeWeightTable 0 vaultList), .onEpoch 0 (.initializeWeightTable 0 vaultList),
    .onEpoch 0 (.reallocWeightTable ⟨2, 1⟩ 0 vaultList stMintList),
    .onEpoch 1 (.reallocWeightTable ⟨2, 1⟩ 0 vaultList stMintList),
    .onEpoch 1 (.reallocWeightTable ⟨2, 1⟩ 0 vaultList stMintList),
    .onEpoch 0 (.reallocWeightTable ⟨2, 1⟩ 0 vaultList stMintList), .registerVault ⟨3, 1⟩ 12 21 2,
    .onEpoch 1 (.setEpochWeights ⟨3, 1⟩ stMintList)]

end Ncn
end NcnProgram
