import NcnProgram.Lib.Run
import NcnProgram.Program.Snapshot
import Mathlib.Algebra.BigOperators.Group.List.Basic

/-!
# The delegations in an operator's snapshot

`Registered s ds` says that the snapshot holds the delegations `ds`, in the order in which they were
registered, and that the operator's stake is their sum. A new snapshot holds none, every registration appends
one, and a finalized snapshot takes no more.
-/

namespace NcnProgram
open Lib NCNProgramError

/-- The snapshot holds the delegations `ds`, and the operator's stake is their sum. -/
structure Registered (s : OperatorSnapshot) (ds : List VaultOperatorStakeWeight) : Prop where
  holds : s.vaultOperatorStakeWeight.Holds .default ds
  registered : s.vaultOperatorDelegationsRegistered = ds.length
  stake : s.stakeWeights.stakeWeight = (ds.map (·.stakeWeight.stakeWeight)).sum
  vault_ne : ∀ d ∈ ds, d.vault ≠ .default

namespace OperatorSnapshot
variable {s s' : OperatorSnapshot}

/-- The delegations that have been registered. -/
def registeredDelegations (s : OperatorSnapshot) : List VaultOperatorStakeWeight :=
  s.vaultOperatorStakeWeight.toList.take s.vaultOperatorDelegationsRegistered

/-- One successful registration of a vault. -/
def Step (s s' : OperatorSnapshot) : Prop :=
  ∃ (slot : ℕ) (vault : Pubkey) (vaultIndex : ℕ) (sw : StakeWeights), vault ≠ .default ∧
    (incrementVaultOperatorDelegationRegistration slot vault vaultIndex sw).run s = .ok () s'

/-- A snapshot of the operator that registrations make out of the one that
`process_initialize_operator_snapshot` creates. -/
def Reachable (operator : Pubkey) (s : OperatorSnapshot) : Prop :=
  ∃ clock bump op e e' s₀, op.operator = operator ∧
    (Epoch.processInitializeOperatorSnapshot clock bump op).run e = .ok () e' ∧
    e'.operatorSnapshot operator = some s₀ ∧ Run Step s₀ s

/-- What `initialize` makes: nothing registered, and nothing to register for an inactive operator. -/
lemma initialized_ok {operator ncn : Pubkey} {epoch : ℕ} {bump : UInt8} {slot : ℕ} {isActive : Bool}
    {ncnOperatorIndex operatorIndex feeBps vaultCount : ℕ}
    (h : initialized operator ncn epoch bump slot isActive ncnOperatorIndex operatorIndex feeBps
      vaultCount = .ok s) :
    Registered s [] ∧ s.operator = operator ∧ s.ncnOperatorIndex = ncnOperatorIndex ∧
      s.operatorFeeBps = (if isActive then feeBps else 0) ∧
      s.vaultOperatorDelegationCount = (if isActive then vaultCount else 0) ∧
      s.validOperatorVaultDelegations = 0 ∧ s.isActive = isActive := by
  by_cases hv : vaultCount > maxVaults
  · rw [initialized, if_pos hv] at h
    cases h
  · rw [initialized, if_neg hv] at h
    cases h
    exact ⟨⟨Table.holds_replicate _, rfl, rfl, by simp⟩, rfl, rfl, rfl, rfl, rfl, rfl⟩

end OperatorSnapshot

namespace Registered
variable {s s' : OperatorSnapshot} {ds : List VaultOperatorStakeWeight}

lemma registeredDelegations (h : Registered s ds) : s.registeredDelegations = ds := by
  rw [OperatorSnapshot.registeredDelegations, h.holds, h.registered, List.take_left]

/-- A registration appends its delegation. -/
lemma register (h : Registered s ds) {slot : ℕ} {vault : Pubkey} {vaultIndex : ℕ} {sw : StakeWeights}
    (hne : vault ≠ .default)
    (hrun : (OperatorSnapshot.incrementVaultOperatorDelegationRegistration slot vault vaultIndex sw).run s =
      .ok () s') :
    Registered s' (ds ++ [⟨vault, vaultIndex, sw⟩]) := by
  obtain ⟨_, hroom, _, w, v, f, hw, _, rfl⟩ :=
    OperatorSnapshot.incrementVaultOperatorDelegationRegistration_run_ok hrun
  rw [h.registered] at hroom
  constructor
  case holds =>
    simp only [h.registered]
    exact h.holds.append hroom _
  case registered => simp only [h.registered, List.length_append, List.length_singleton]
  case stake => simp only [hw, h.stake, List.map_append, List.map_singleton, List.sum_append,
    List.sum_singleton]
  case vault_ne => exact forall_mem_append_singleton h.vault_ne hne

end Registered

/-- A registration leaves the fee and the indices alone. -/
lemma OperatorSnapshot.Step.same {s s' : OperatorSnapshot} (h : Step s s') :
    s'.operatorFeeBps = s.operatorFeeBps ∧ s'.ncnOperatorIndex = s.ncnOperatorIndex := by
  obtain ⟨slot, vault, vaultIndex, sw, _, hrun⟩ := h
  obtain ⟨_, _, _, w, v, f, _, _, rfl⟩ := incrementVaultOperatorDelegationRegistration_run_ok hrun
  exact ⟨rfl, rfl⟩

/-- The operator has a snapshot, with a fee within the whole. -/
def OperatorSnapshot.At (operator : Pubkey) (e : Epoch) : Prop :=
  ∃ s, e.operatorSnapshot operator = some s ∧ s.Reachable operator ∧ s.operatorFeeBps ≤ 10000

/-- An operator whose fee is within the whole gets such a snapshot. -/
lemma OperatorSnapshot.At.create {clock : Clock} {bump : UInt8} {op : NcnOperator} {e e' : Epoch}
    (hfee : op.operatorFeeBps ≤ 10000)
    (h : (Epoch.processInitializeOperatorSnapshot clock bump op).run e = .ok () e') :
    OperatorSnapshot.At op.operator e' := by
  obtain ⟨_, _, s, es, st, hs, _, _, rfl⟩ := Epoch.processInitializeOperatorSnapshot_run_ok h
  obtain ⟨_, _, _, hf, _⟩ := initialized_ok hs
  refine ⟨s, Epoch.operatorSnapshot_setOperatorSnapshot, ⟨clock, bump, op, e, _, s, rfl, h,
    Epoch.operatorSnapshot_setOperatorSnapshot, .refl⟩, ?_⟩
  rw [hf]
  split <;> omega

/-- It stays one when a vault is registered. -/
lemma OperatorSnapshot.At.register {math : PreciseMath} {clock : Clock} {operator : Pubkey}
    {v : VaultDelegation} {e e' : Epoch} (h : At operator e)
    (hrun : (Epoch.processSnapshotVaultOperatorDelegation math clock operator v).run e = .ok () e') :
    OperatorSnapshot.At operator e' := by
  obtain ⟨s, hs, ⟨clock₀, bump, op, e₀, e₁, s₀, hop, hinit, hs₀, hsteps⟩, hfee⟩ := h
  obtain ⟨s₁, s', sw, es, st, hs₁, _, hreg, _, _, rfl⟩ :=
    Epoch.processSnapshotVaultOperatorDelegation_run_ok hrun
  obtain rfl : s = s₁ := Option.some.inj (hs.symm.trans hs₁)
  have hstep : Step s s' := ⟨clock.slot, v.vault, v.vaultIndex, sw, v.vault_ne, hreg⟩
  exact ⟨s', Epoch.operatorSnapshot_setOperatorSnapshot,
    ⟨clock₀, bump, op, e₀, e₁, s₀, hop, hinit, hs₀, hsteps.tail hstep⟩, hstep.same.1 ▸ hfee⟩

/-- Every reachable snapshot holds some delegations and has an index that fits. -/
lemma OperatorSnapshot.Reachable.registered {operator : Pubkey} {s : OperatorSnapshot}
    (h : s.Reachable operator) : (∃ ds, Registered s ds) ∧ s.ncnOperatorIndex < maxOperators := by
  obtain ⟨clock, bump, op, e, e', s₀, rfl, hinit, hs₀, hrun⟩ := h
  obtain ⟨_, _, s₁, es, st, hs₁, _, hst, rfl⟩ := Epoch.processInitializeOperatorSnapshot_run_ok hinit
  obtain rfl : s₁ = s₀ := by
    simpa only [Epoch.setOperatorSnapshot, Function.update_self, Option.some.injEq] using hs₀
  obtain ⟨hreg, _, hidx, _⟩ := initialized_ok hs₁
  have hlt := (EpochState.updateReallocOperatorSnapshot_run_ok hst).1
  refine hrun.invariant (I := fun s => (∃ ds, Registered s ds) ∧ s.ncnOperatorIndex < maxOperators)
    ⟨⟨[], hreg⟩, hidx ▸ hlt⟩ ?_
  rintro s s' hstep ⟨⟨ds, h⟩, hlt⟩
  refine ⟨?_, hstep.same.2 ▸ hlt⟩
  obtain ⟨slot, vault, vaultIndex, sw, hne, hreg⟩ := hstep
  exact ⟨_, h.register hne hreg⟩

end NcnProgram
