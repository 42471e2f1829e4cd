import NcnProgram.Core.Fees
import NcnProgram.Core.StakeWeight
import NcnProgram.Core.WeightTable

/-!
# Snapshots of an epoch

Port of `core/src/epoch_snapshot.rs`: the stake of each operator, vault by vault, and the sums over all
operators. A snapshot of an operator is finalized when every vault has been registered; only then is it
counted in the snapshot of the epoch, which is finalized when every operator has been counted.
-/

namespace NcnProgram
open Lib NCNProgramError

/-- The snapshot of an NCN's epoch (`EpochSnapshot`). -/
structure EpochSnapshot where
  ncn : Pubkey
  epoch : ℕ
  bump : UInt8
  slotCreated : ℕ
  slotFinalized : ℕ
  operatorCount : ℕ
  vaultCount : ℕ
  operatorsRegistered : ℕ
  validOperatorVaultDelegations : ℕ
  stakeWeights : StakeWeights
  fees : Fees
deriving DecidableEq

namespace EpochSnapshot

/-- `EpochSnapshot::new`. -/
def new (ncn : Pubkey) (ncnEpoch : ℕ) (bump : UInt8) (currentSlot operatorCount vaultCount : ℕ)
    (fees : Fees) : EpochSnapshot where
  ncn := ncn
  epoch := ncnEpoch
  bump := bump
  slotCreated := currentSlot
  slotFinalized := 0
  operatorCount := operatorCount
  vaultCount := vaultCount
  operatorsRegistered := 0
  validOperatorVaultDelegations := 0
  stakeWeights := .default
  fees := fees

/-- `EpochSnapshot::finalized`. -/
def finalized (self : EpochSnapshot) : Bool := self.operatorsRegistered == self.operatorCount

/-- `EpochSnapshot::increment_operator_registration`. -/
def incrementOperatorRegistration (currentSlot vaultOperatorDelegations : ℕ)
    (stakeWeight : StakeWeights) : Mut EpochSnapshot Unit := do
  let self ← get
  ensure (self.finalized = false) (operatorFinalized : ProgramError)
  let operatorsRegistered ← okOr (checkedAdd 64 self.operatorsRegistered 1)
    (arithmeticOverflow : ProgramError)
  modify ({ · with operatorsRegistered })
  let validOperatorVaultDelegations ←
    okOr (checkedAdd 64 self.validOperatorVaultDelegations vaultOperatorDelegations)
      (arithmeticOverflow : ProgramError)
  modify ({ · with validOperatorVaultDelegations })
  zoom (·.stakeWeights) (fun w s => { s with stakeWeights := w }) (StakeWeights.increment stakeWeight)
  modify fun s => { s with slotFinalized := if s.finalized then currentSlot else s.slotFinalized }

/-- What a successful registration does. -/
lemma incrementOperatorRegistration_run_ok {slot n : ℕ} {sw : StakeWeights} {s s' : EpochSnapshot}
    {u : Unit} (h : (incrementOperatorRegistration slot n sw).run s = .ok u s') :
    s.finalized = false ∧ s'.operatorsRegistered = s.operatorsRegistered + 1 ∧
      s'.validOperatorVaultDelegations = s.validOperatorVaultDelegations + n ∧
      s'.stakeWeights.stakeWeight = s.stakeWeights.stakeWeight + sw.stakeWeight ∧
      s'.operatorCount = s.operatorCount ∧ s'.vaultCount = s.vaultCount ∧ s'.fees = s.fees := by
  obtain ⟨_, _, hg, h⟩ := run_bind_ok.1 h
  cases hg
  obtain ⟨_, _, e, h⟩ := run_bind_ok.1 h
  obtain ⟨hf, rfl⟩ := run_ensure_ok.1 e
  obtain ⟨k, _, e, h⟩ := run_bind_ok.1 h
  obtain ⟨hk, rfl⟩ := run_okOr_ok.1 e
  obtain ⟨_, _, e, h⟩ := run_bind_ok.1 h
  cases e
  obtain ⟨m, _, e, h⟩ := run_bind_ok.1 h
  obtain ⟨hm, rfl⟩ := run_okOr_ok.1 e
  obtain ⟨_, _, e, h⟩ := run_bind_ok.1 h
  cases e
  obtain ⟨_, _, e, h⟩ := run_bind_ok.1 h
  obtain ⟨w, hw, rfl⟩ := run_zoom_ok.1 e
  have hw' := StakeWeights.increment_run_ok hw
  have hk' := (checkedAdd_eq_some.1 hk).2
  have hm' := (checkedAdd_eq_some.1 hm).2
  cases h
  exact ⟨hf, hk', hm', hw', rfl, rfl, rfl⟩

end EpochSnapshot

/-- The stake of one vault with one operator (`VaultOperatorStakeWeight`). -/
structure VaultOperatorStakeWeight where
  vault : Pubkey
  vaultIndex : ℕ
  stakeWeight : StakeWeights
deriving DecidableEq

/-- `VaultOperatorStakeWeight::default`, a free slot. -/
protected def VaultOperatorStakeWeight.default : VaultOperatorStakeWeight := ⟨.default, u64Max, .default⟩

/-- The snapshot of one operator in an NCN's epoch (`OperatorSnapshot`). -/
structure OperatorSnapshot where
  operator : Pubkey
  ncn : Pubkey
  ncnEpoch : ℕ
  bump : UInt8
  slotCreated : ℕ
  slotFinalized : ℕ
  isActive : Bool
  ncnOperatorIndex : ℕ
  operatorIndex : ℕ
  operatorFeeBps : ℕ
  vaultOperatorDelegationCount : ℕ
  vaultOperatorDelegationsRegistered : ℕ
  validOperatorVaultDelegations : ℕ
  stakeWeights : StakeWeights
  vaultOperatorStakeWeight : Table VaultOperatorStakeWeight maxVaults
deriving DecidableEq

namespace OperatorSnapshot

/-- `OperatorSnapshot::initialize`: an inactive operator has no fee and no vaults to register, and is
finalized at once. -/
def initialized (operator ncn : Pubkey) (ncnEpoch : ℕ) (bump : UInt8) (currentSlot : ℕ)
    (isActive : Bool) (ncnOperatorIndex operatorIndex operatorFeeBps vaultOperatorDelegationCount : ℕ) :
    Except ProgramError OperatorSnapshot := do
  if vaultOperatorDelegationCount > maxVaults then
    throw (tooManyVaultOperatorDelegations : ProgramError)
  return {
    operator := operator
    ncn := ncn
    ncnEpoch := ncnEpoch
    bump := bump
    slotCreated := currentSlot
    slotFinalized := if isActive then 0 else currentSlot
    isActive := isActive
    ncnOperatorIndex := ncnOperatorIndex
    operatorIndex := operatorIndex
    operatorFeeBps := if isActive then operatorFeeBps else 0
    vaultOperatorDelegationCount := if isActive then vaultOperatorDelegationCount else 0
    vaultOperatorDelegationsRegistered := 0
    validOperatorVaultDelegations := 0
    stakeWeights := .default
    vaultOperatorStakeWeight := .replicate _ .default }

/-- `OperatorSnapshot::finalized`. -/
def finalized (self : OperatorSnapshot) : Bool :=
  self.vaultOperatorDelegationsRegistered == self.vaultOperatorDelegationCount

/-- `OperatorSnapshot::contains_vault_index`. -/
def containsVaultIndex (self : OperatorSnapshot) (vaultIndex : ℕ) : Bool :=
  self.vaultOperatorStakeWeight.any (·.vaultIndex == vaultIndex)

/-- `OperatorSnapshot::insert_vault_operator_stake_weight`. -/
def insertVaultOperatorStakeWeight (vault : Pubkey) (vaultIndex : ℕ) (stakeWeights : StakeWeights) :
    Mut OperatorSnapshot Unit := do
  let self ← get
  let next ← okOr (checkedAdd 64 self.vaultOperatorDelegationsRegistered 1)
    (arithmeticOverflow : ProgramError)
  ensure (next ≤ maxVaults) (tooManyVaultOperatorDelegations : ProgramError)
  ensure (self.containsVaultIndex vaultIndex = false) (duplicateVaultOperatorDelegation : ProgramError)
  let entry : VaultOperatorStakeWeight := ⟨vault, vaultIndex, stakeWeights⟩
  set { self with vaultOperatorStakeWeight :=
    self.vaultOperatorStakeWeight.set self.vaultOperatorDelegationsRegistered entry }

/-- `OperatorSnapshot::increment_vault_operator_delegation_registration`. -/
def incrementVaultOperatorDelegationRegistration (currentSlot : ℕ) (vault : Pubkey) (vaultIndex : ℕ)
    (stakeWeights : StakeWeights) : Mut OperatorSnapshot Unit := do
  ensure ((← get).finalized = false) (vaultOperatorDelegationFinalized : ProgramError)
  insertVaultOperatorStakeWeight vault vaultIndex stakeWeights
  let registered ← okOr (checkedAdd 64 (← get).vaultOperatorDelegationsRegistered 1)
    (arithmeticOverflow : ProgramError)
  modify ({ · with vaultOperatorDelegationsRegistered := registered })
  if stakeWeights.stakeWeight > 0 then
    let valid ← okOr (checkedAdd 64 (← get).validOperatorVaultDelegations 1)
      (arithmeticOverflow : ProgramError)
    modify ({ · with validOperatorVaultDelegations := valid })
  zoom (·.stakeWeights) (fun w s => { s with stakeWeights := w }) (StakeWeights.increment stakeWeights)
  modify fun s => { s with slotFinalized := if s.finalized then currentSlot else s.slotFinalized }

/-- What a successful registration does. -/
lemma incrementVaultOperatorDelegationRegistration_run_ok {slot vaultIndex : ℕ} {vault : Pubkey}
    {sw : StakeWeights} {s s' : OperatorSnapshot} {u : Unit}
    (h : (incrementVaultOperatorDelegationRegistration slot vault vaultIndex sw).run s = .ok u s') :
    s.finalized = false ∧ s.vaultOperatorDelegationsRegistered < maxVaults ∧
      s.containsVaultIndex vaultIndex = false ∧
      ∃ w v f, w.stakeWeight = s.stakeWeights.stakeWeight + sw.stakeWeight ∧
        v = s.validOperatorVaultDelegations + (if sw.stakeWeight > 0 then 1 else 0) ∧
        s' = { s with
          slotFinalized := f
          validOperatorVaultDelegations := v
          stakeWeights := w
          vaultOperatorDelegationsRegistered := s.vaultOperatorDelegationsRegistered + 1
          vaultOperatorStakeWeight := s.vaultOperatorStakeWeight.set
            s.vaultOperatorDelegationsRegistered ⟨vault, vaultIndex, sw⟩ } := by
  obtain ⟨_, _, hg, h⟩ := run_bind_ok.1 h
  cases hg
  obtain ⟨_, _, e, h⟩ := run_bind_ok.1 h
  obtain ⟨hf, rfl⟩ := run_ensure_ok.1 e
  obtain ⟨_, s₁, hins, h⟩ := run_bind_ok.1 h
  -- the insertion
  obtain ⟨_, _, hg, hins⟩ := run_bind_ok.1 hins
  cases hg
  obtain ⟨next, _, e, hins⟩ := run_bind_ok.1 hins
  obtain ⟨hnext, rfl⟩ := run_okOr_ok.1 e
  obtain ⟨_, _, e, hins⟩ := run_bind_ok.1 hins
  obtain ⟨hle, rfl⟩ := run_ensure_ok.1 e
  obtain ⟨_, _, e, hins⟩ := run_bind_ok.1 hins
  obtain ⟨hdup, rfl⟩ := run_ensure_ok.1 e
  cases hins
  have hreg : s.vaultOperatorDelegationsRegistered < maxVaults := by
    have := (checkedAdd_eq_some.1 hnext).2
    omega
  refine ⟨hf, hreg, hdup, ?_⟩
  -- the counters
  obtain ⟨_, _, hg, h⟩ := run_bind_ok.1 h
  cases hg
  obtain ⟨k, _, e, h⟩ := run_bind_ok.1 h
  obtain ⟨hk, rfl⟩ := run_okOr_ok.1 e
  rw [(checkedAdd_eq_some.1 hk).2] at h
  obtain ⟨_, _, e, h⟩ := run_bind_ok.1 h
  cases e
  split at h
  · rename_i hpos
    obtain ⟨_, _, hg, h⟩ := run_bind_ok.1 h
    cases hg
    obtain ⟨v, _, e, h⟩ := run_bind_ok.1 h
    obtain ⟨hv, rfl⟩ := run_okOr_ok.1 e
    obtain ⟨_, _, e, h⟩ := run_bind_ok.1 h
    cases e
    obtain ⟨_, _, e, h⟩ := run_bind_ok.1 h
    obtain ⟨w, hw, rfl⟩ := run_zoom_ok.1 e
    cases h
    refine ⟨w, v, _, StakeWeights.increment_run_ok hw, ?_, rfl⟩
    rw [if_pos hpos, (checkedAdd_eq_some.1 hv).2]
  · rename_i hpos
    obtain ⟨_, _, e, h⟩ := run_bind_ok.1 h
    obtain ⟨w, hw, rfl⟩ := run_zoom_ok.1 e
    cases h
    refine ⟨w, s.validOperatorVaultDelegations, _, StakeWeights.increment_run_ok hw, ?_, rfl⟩
    rw [if_neg hpos, Nat.add_zero]

/-- `OperatorSnapshot::calculate_total_stake_weight`; `totalSecurity` is read off the delegation. -/
def calculateTotalStakeWeight (math : PreciseMath) (totalSecurity : ℕ) (weightTable : WeightTable)
    (stMint : Pubkey) : Except ProgramError ℕ := do
  let preciseTotalSecurity ← okOr (math.new totalSecurity) (newPreciseNumberError : ProgramError)
  let preciseWeight ← weightTable.getPreciseWeight math stMint
  let preciseTotalStakeWeight ← okOr (math.checkedMul preciseTotalSecurity preciseWeight)
    (arithmeticOverflow : ProgramError)
  let totalStakeWeight ← okOr (math.toImprecise preciseTotalStakeWeight) (.panicked .castOverflow)
  okOr totalStakeWeight (castToImpreciseNumberError : ProgramError)

/-- The stake weight is the product, cast to a `u128`, also where the word does not fit the intermediate product. -/
lemma calculateTotalStakeWeight_run {math : PreciseMath} (h : math.Documented) {totalSecurity weight : ℕ}
    {weightTable : WeightTable} {stMint : Pubkey} (hs : totalSecurity < 2 ^ 64) (hw : weight < 2 ^ 128)
    (hweight : weightTable.getWeight stMint = .ok weight) :
    calculateTotalStakeWeight math totalSecurity weightTable stMint =
      okOr (asU128 (totalSecurity * weight)) (.panicked .castOverflow : ProgramError) := by
  have hroom := preciseFormat_roomy
  obtain ⟨ps, hps, hvs⟩ := h.new_eq (show totalSecurity < 2 ^ 128 by omega)
  obtain ⟨pw, hpw, hvw⟩ := h.new_eq hw
  -- the product has at most 64 + 128 bits before scaling, so its word fits
  have hle : totalSecurity * weight ≤ 2 ^ 64 * 2 ^ 128 := Nat.mul_le_mul hs.le hw.le
  have hword : totalSecurity * weight * preciseFormat.one + preciseFormat.half < 2 ^ preciseFormat.width := by
    norm_num [preciseFormat, Format.half] at hle ⊢
    omega
  have hmul := h.checkedMul ps pw
  rw [hvs, hvw, Format.mul_ofNat hroom (by omega), Option.map_eq_some_iff] at hmul
  obtain ⟨pm, hpm, hvm⟩ := hmul
  have hnat : preciseFormat.toNat (math.value pm) = some (totalSecurity * weight) := by
    rw [hvm]
    exact Format.toNat_ofNat hroom hword
  have hprecise : weightTable.getPreciseWeight math stMint = pure pw :=
    bind_ok.2 ⟨weight, hweight, by rw [hpw]; rfl⟩
  simp only [calculateTotalStakeWeight, hps, hprecise, hpm, okOr_some, pure_bind]
  obtain hfit | hlarge := Nat.lt_or_ge (totalSecurity * weight) (2 ^ 128)
  · rw [h.toImprecise_eq hnat hfit, asU128_of_lt hfit]
    rfl
  · rw [h.toImprecise_panics hnat hlarge, asU128_of_le hlarge]
    rfl

/-- A product that fits is the stake weight. -/
lemma calculateTotalStakeWeight_eq {math : PreciseMath} (h : math.Documented) {totalSecurity weight : ℕ}
    {weightTable : WeightTable} {stMint : Pubkey} (hs : totalSecurity < 2 ^ 64) (hw : weight < 2 ^ 128)
    (hweight : weightTable.getWeight stMint = .ok weight) (hfit : totalSecurity * weight < 2 ^ 128) :
    calculateTotalStakeWeight math totalSecurity weightTable stMint = .ok (totalSecurity * weight) := by
  rw [calculateTotalStakeWeight_run h hs hw hweight, asU128_of_lt hfit]
  rfl

end OperatorSnapshot
end NcnProgram
