import NcnProgram.Program.Epoch

/-!
# Taking the snapshots

Port of `program/src/initialize_operator_snapshot.rs` and `program/src/snapshot_vault_operator_delegation.rs`.
What the two instructions read from accounts of the restaking and the vault program is given as a record
(`NcnOperator`, `VaultDelegation`). The marker of a closed epoch is not looked at: it exists only when the
epoch state does not.
-/

namespace NcnProgram
open Lib NCNProgramError

/-- What the restaking program says about an operator of the NCN. `isActive` is the opt-in of both sides at
the slot of the transaction. -/
structure NcnOperator where
  operator : Pubkey
  operatorIndex : ℕ
  operatorFeeBps : ℕ
  ncnOperatorIndex : ℕ
  isActive : Bool
deriving DecidableEq

/-- What the vault program says about a vault and its delegation to an operator. A vault is an account of
that program, so its key is not the default one; the tickets and the delegation may be missing. -/
structure VaultDelegation where
  vault : Pubkey
  vault_ne : vault ≠ .default
  vaultIndex : ℕ
  stMint : Pubkey
  isUpdateNeeded : Bool
  ncnVaultActive : Bool
  vaultNcnTicket : Option Bool
  totalSecurity : Option ℕ

/-- A small epoch to compute with: one mint that weighs one, and the two vaults `11` and `12` with it. -/
def Epoch.small (operatorCount : ℕ) : Epoch :=
  let fees : Fees := ⟨0, defaultProtocolFeeBps, 200⟩
  let config : Config := ⟨1, 2, 1000, 10, 10, 0, ⟨FeeConfig.protocolFeeWalletKey, 4, fees, fees⟩, 0⟩
  let vaults : Table VaultEntry maxVaults :=
    ((Table.replicate _ .default).set 0 ⟨11, 21, 1, 1⟩).set 1 ⟨12, 21, 2, 1⟩
  let weights : Table WeightEntry maxStMints := (Table.replicate _ .default).set 0 ⟨⟨21, 1⟩, 1, 1, 1⟩
  .initialized config ⟨1, 0, 1, 2, 0, vaults, weights⟩ 0 1 operatorCount fees

/-- A vault of the small epoch, with both tickets in force, that delegates `security` to the operator. -/
def VaultDelegation.small (second : Bool) (security : ℕ) : VaultDelegation where
  vault := if second then 12 else 11
  vault_ne := by cases second <;> decide
  vaultIndex := if second then 2 else 1
  stMint := 21
  isUpdateNeeded := false
  ncnVaultActive := true
  vaultNcnTicket := some true
  totalSecurity := some security

/-- The stake weight that the instruction registers: nothing unless both tickets are in force and there is a
delegation. -/
def VaultDelegation.totalStakeWeight (math : PreciseMath) (weightTable : WeightTable)
    (v : VaultDelegation) : Except ProgramError ℕ :=
  match v.vaultNcnTicket.getD false && v.ncnVaultActive, v.totalSecurity with
  | true, some totalSecurity =>
    OperatorSnapshot.calculateTotalStakeWeight math totalSecurity weightTable v.stMint
  | _, _ => return 0

namespace Epoch

/-- `process_initialize_operator_snapshot`. -/
def processInitializeOperatorSnapshot (clock : Clock) (bump : UInt8) (op : NcnOperator) :
    Mut Epoch Unit := do
  let self ← get
  ensure (self.epochState.isClosing = false) (epochIsClosingDown : ProgramError)
  ensure ((self.operatorSnapshot op.operator).isNone = true) ProgramError.invalidAccountOwner
  ensure (op.ncnOperatorIndex < self.epochSnapshot.operatorCount) (operatorIsNotInSnapshot : ProgramError)
  let snapshot ← ofExcept (OperatorSnapshot.initialized op.operator self.epochState.ncn
    self.epochState.epoch bump clock.slot op.isActive op.ncnOperatorIndex op.operatorIndex
    op.operatorFeeBps self.epochSnapshot.vaultCount)
  modify (setOperatorSnapshot op.operator snapshot)
  if op.isActive = false then
    onEpochSnapshot (EpochSnapshot.incrementOperatorRegistration clock.slot 0 .default)
  onEpochState (EpochState.updateReallocOperatorSnapshot op.ncnOperatorIndex op.isActive)

/-- `process_snapshot_vault_operator_delegation`. -/
def processSnapshotVaultOperatorDelegation (math : PreciseMath) (clock : Clock) (operator : Pubkey)
    (v : VaultDelegation) : Mut Epoch Unit := do
  let self ← get
  ensure ((self.operatorSnapshot operator).isSome = true) ProgramError.invalidAccountOwner
  ensure (v.isUpdateNeeded = false) (vaultNeedsUpdate : ProgramError)
  ofExcept (self.weightTable.checkRegistryForVault v.vaultIndex)
  let totalStakeWeight ← ofExcept (v.totalStakeWeight math self.weightTable)
  let stakeWeights ← ofExcept (StakeWeights.snapshot totalStakeWeight)
  onOperatorSnapshot operator (OperatorSnapshot.incrementVaultOperatorDelegationRegistration
    clock.slot v.vault v.vaultIndex stakeWeights)
  let snapshot ← okOr ((← get).operatorSnapshot operator) ProgramError.invalidAccountOwner
  if snapshot.finalized then
    onEpochSnapshot (EpochSnapshot.incrementOperatorRegistration clock.slot
      snapshot.validOperatorVaultDelegations snapshot.stakeWeights)
  onEpochState (EpochState.updateSnapshotVaultOperatorDelegation snapshot.ncnOperatorIndex
    snapshot.finalized)

variable {math : PreciseMath} {clock : Clock} {e e' : Epoch}

/-- An operator is counted in the snapshot of the epoch, or nothing happens to it. -/
def CountsIf (counted : Bool) (slot valid : ℕ) (sw : StakeWeights) (s s' : EpochSnapshot) : Prop :=
  if counted then (EpochSnapshot.incrementOperatorRegistration slot valid sw).run s = .ok () s' else s' = s

/-- What counting an operator does to the snapshot of the epoch. -/
lemma CountsIf.spec {counted : Bool} {slot valid : ℕ} {sw : StakeWeights} {s s' : EpochSnapshot}
    (h : CountsIf counted slot valid sw s s') :
    (counted = true → s.finalized = false) ∧ s'.operatorCount = s.operatorCount ∧
      s'.vaultCount = s.vaultCount ∧
      s'.operatorsRegistered = if counted then s.operatorsRegistered + 1 else s.operatorsRegistered := by
  cases counted with
  | false =>
    obtain rfl : s' = s := h
    exact ⟨fun h => (by cases h), rfl, rfl, rfl⟩
  | true =>
    obtain ⟨hopen, hreg, _, _, hcount, hvaults, _⟩ := EpochSnapshot.incrementOperatorRegistration_run_ok h
    exact ⟨fun _ => hopen, hcount, hvaults, hreg⟩

/-- The count does not go back. -/
lemma CountsIf.registered_le {counted : Bool} {slot valid : ℕ} {sw : StakeWeights} {s s' : EpochSnapshot}
    (h : CountsIf counted slot valid sw s s') : s.operatorsRegistered ≤ s'.operatorsRegistered := by
  obtain ⟨_, _, _, hreg⟩ := h.spec
  rw [hreg]
  split <;> omega

/-- What a successful initialization of an operator's snapshot does. -/
lemma processInitializeOperatorSnapshot_run_ok {bump : UInt8} {op : NcnOperator} {u : Unit}
    (h : (processInitializeOperatorSnapshot clock bump op).run e = .ok u e') :
    e.operatorSnapshot op.operator = none ∧ op.ncnOperatorIndex < e.epochSnapshot.operatorCount ∧
      ∃ s es st, OperatorSnapshot.initialized op.operator e.epochState.ncn e.epochState.epoch bump
          clock.slot op.isActive op.ncnOperatorIndex op.operatorIndex op.operatorFeeBps
          e.epochSnapshot.vaultCount = .ok s ∧
        CountsIf (!op.isActive) clock.slot 0 .default e.epochSnapshot es ∧
        (EpochState.updateReallocOperatorSnapshot op.ncnOperatorIndex op.isActive).run e.epochState =
          .ok () st ∧
        e' = { e.setOperatorSnapshot op.operator s with epochSnapshot := es, epochState := st } := by
  obtain ⟨_, _, hg, h⟩ := run_bind_ok.1 h
  cases hg
  obtain ⟨_, _, hg, h⟩ := run_bind_ok.1 h
  obtain ⟨_, rfl⟩ := run_ensure_ok.1 hg
  obtain ⟨_, _, hg, h⟩ := run_bind_ok.1 h
  obtain ⟨hnone, rfl⟩ := run_ensure_ok.1 hg
  obtain ⟨_, _, hg, h⟩ := run_bind_ok.1 h
  obtain ⟨hidx, rfl⟩ := run_ensure_ok.1 hg
  obtain ⟨s, _, hg, h⟩ := run_bind_ok.1 h
  obtain ⟨hs, rfl⟩ := run_ofExcept_ok.1 hg
  obtain ⟨_, _, hg, h⟩ := run_bind_ok.1 h
  cases hg
  refine ⟨Option.isNone_iff_eq_none.1 hnone, hidx, s, ?_⟩
  cases ha : op.isActive with
  | true =>
    rw [ha] at h hs
    rw [if_neg (by decide)] at h
    obtain ⟨st, hst, rfl⟩ := run_zoom_ok.1 h
    exact ⟨e.epochSnapshot, st, hs, rfl, hst, rfl⟩
  | false =>
    rw [ha] at h hs
    rw [if_pos rfl] at h
    obtain ⟨_, _, hg, h⟩ := run_bind_ok.1 h
    obtain ⟨es, hes, rfl⟩ := run_zoom_ok.1 hg
    obtain ⟨st, hst, rfl⟩ := run_zoom_ok.1 h
    exact ⟨es, st, hs, hes, hst, rfl⟩

/-- What a successful registration of a vault's delegation does. -/
lemma processSnapshotVaultOperatorDelegation_run_ok {operator : Pubkey} {v : VaultDelegation} {u : Unit}
    (h : (processSnapshotVaultOperatorDelegation math clock operator v).run e = .ok u e') :
    ∃ s s' sw es st, e.operatorSnapshot operator = some s ∧
      v.totalStakeWeight math e.weightTable = .ok sw.stakeWeight ∧
      (OperatorSnapshot.incrementVaultOperatorDelegationRegistration clock.slot v.vault v.vaultIndex
        sw).run s = .ok () s' ∧
      CountsIf s'.finalized clock.slot s'.validOperatorVaultDelegations s'.stakeWeights e.epochSnapshot es ∧
      (EpochState.updateSnapshotVaultOperatorDelegation s'.ncnOperatorIndex s'.finalized).run
        e.epochState = .ok () st ∧
      e' = { e.setOperatorSnapshot operator s' with epochSnapshot := es, epochState := st } := by
  obtain ⟨_, _, hg, h⟩ := run_bind_ok.1 h
  cases hg
  obtain ⟨_, _, hg, h⟩ := run_bind_ok.1 h
  obtain ⟨_, rfl⟩ := run_ensure_ok.1 hg
  obtain ⟨_, _, hg, h⟩ := run_bind_ok.1 h
  obtain ⟨_, rfl⟩ := run_ensure_ok.1 hg
  obtain ⟨_, _, hg, h⟩ := run_bind_ok.1 h
  obtain ⟨_, rfl⟩ := run_ofExcept_ok.1 hg
  obtain ⟨total, _, hg, h⟩ := run_bind_ok.1 h
  obtain ⟨htotal, rfl⟩ := run_ofExcept_ok.1 hg
  obtain ⟨sw, _, hg, h⟩ := run_bind_ok.1 h
  obtain ⟨hsw, rfl⟩ := run_ofExcept_ok.1 hg
  -- the registration in the operator's snapshot
  obtain ⟨_, _, hz, h⟩ := run_bind_ok.1 h
  obtain ⟨_, _, hg, hz⟩ := run_bind_ok.1 hz
  cases hg
  obtain ⟨s, _, hg, hz⟩ := run_bind_ok.1 hz
  obtain ⟨hs, rfl⟩ := run_okOr_ok.1 hg
  obtain ⟨s', hrun, rfl⟩ := run_zoom_ok.1 hz
  obtain ⟨_, _, hg, h⟩ := run_bind_ok.1 h
  cases hg
  obtain ⟨s'', _, hg, h⟩ := run_bind_ok.1 h
  obtain ⟨hs'', rfl⟩ := run_okOr_ok.1 hg
  obtain rfl : s' = s'' := by
    simpa only [setOperatorSnapshot, Function.update_self, Option.some.injEq] using hs''
  have hweight : total = sw.stakeWeight := by
    unfold StakeWeights.snapshot at hsw
    split at hsw
    · cases hsw; rfl
    · cases hsw
  rw [hweight] at htotal
  refine ⟨s, s', sw, ?_⟩
  cases hf : s'.finalized with
  | true =>
    rw [hf, if_pos rfl] at h
    obtain ⟨_, _, hg, h⟩ := run_bind_ok.1 h
    obtain ⟨es, hes, rfl⟩ := run_zoom_ok.1 hg
    obtain ⟨st, hst, rfl⟩ := run_zoom_ok.1 h
    exact ⟨es, st, hs, htotal, hrun, hes, hst, rfl⟩
  | false =>
    rw [hf, if_neg (by decide)] at h
    obtain ⟨st, hst, rfl⟩ := run_zoom_ok.1 h
    exact ⟨e.epochSnapshot, st, hs, htotal, hrun, rfl, hst, rfl⟩

/-- Only vaults whose index is in the weight table are registered. -/
lemma processSnapshotVaultOperatorDelegation_registry {operator : Pubkey} {v : VaultDelegation} {u : Unit}
    (h : (processSnapshotVaultOperatorDelegation math clock operator v).run e = .ok u e') :
    e.weightTable.checkRegistryForVault v.vaultIndex = .ok () := by
  obtain ⟨_, _, hg, h⟩ := run_bind_ok.1 h
  cases hg
  obtain ⟨_, _, hg, h⟩ := run_bind_ok.1 h
  obtain ⟨_, rfl⟩ := run_ensure_ok.1 hg
  obtain ⟨_, _, hg, h⟩ := run_bind_ok.1 h
  obtain ⟨_, rfl⟩ := run_ensure_ok.1 hg
  obtain ⟨_, _, hg, _⟩ := run_bind_ok.1 h
  exact (run_ofExcept_ok.1 hg).1

end Epoch
end NcnProgram
