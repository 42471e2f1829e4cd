import NcnProgram.Lib.Tally
import NcnProgram.Program.VaultRegistry
import NcnProgram.Snapshot.Aggregation

/-!
# A snapshot is finalized when every vault has been counted once

Finalization compares two counters. That they are equal means that all vaults were registered rests on two checks
against two tables: the index of a vault has to be in the weight table, and must not be in the operator's snapshot
yet. `VaultsCounted p w s ds` says what the two checks add up to along a run: the registered delegations `ds` are
of distinct vaults of the table `w`.
-/

namespace NcnProgram
open Lib NCNProgramError

/-- One successful registration of a vault, with some operator. -/
def Epoch.RegistersVault (p : VaultProgram) (math : PreciseMath) (e e' : Epoch) : Prop :=
  ∃ (clock : Clock) (operator : Pubkey) (v : VaultDelegation), v.vault ∈ p.vaults ∧
    v.vaultIndex = p.index v.vault ∧
    (processSnapshotVaultOperatorDelegation math clock operator v).run e = .ok () e'

/-- The registered delegations `ds` are of distinct vaults of the table, and the counters are about them. -/
structure VaultsCounted (p : VaultProgram) (w : WeightTable) (s : OperatorSnapshot)
    (ds : List VaultOperatorStakeWeight) : Prop where
  registered : Registered s ds
  count : s.vaultOperatorDelegationCount = w.vaults.length
  valid : s.validOperatorVaultDelegations = ds.countP (0 < ·.stakeWeight.stakeWeight)
  vault : ∀ d ∈ ds, d.vault ∈ w.vaults ∧ d.vaultIndex = p.index d.vault
  nodup : (ds.map (·.vaultIndex)).Nodup

/-- What a snapshot says about the vaults of a weight table. A registration writes the slot
`vaultOperatorDelegationsRegistered`, of a snapshot that is not finalized. -/
structure OperatorSnapshot.CountsVaults (w : WeightTable) (s : OperatorSnapshot) : Prop where
  entries : s.vaultOperatorStakeWeight.Holds .default s.registeredDelegations
  length : s.registeredDelegations.length = s.vaultOperatorDelegationsRegistered
  distinct : (s.registeredDelegations.map (·.vaultIndex)).Nodup
  listed : ∀ d ∈ s.registeredDelegations, ∃ v ∈ w.vaultRegistry.toList,
    v.isEmpty = false ∧ v.vault = d.vault ∧ v.vaultIndex = d.vaultIndex
  inBounds : s.finalized = false → s.vaultOperatorDelegationsRegistered < maxVaults
  stake : s.stakeWeights.stakeWeight = (s.registeredDelegations.map (·.stakeWeight.stakeWeight)).sum
  valid : s.validOperatorVaultDelegations = s.registeredDelegations.countP (0 < ·.stakeWeight.stakeWeight)
  finalized_iff : s.finalized = true ↔
    ∀ vault, vault ∈ s.registeredDelegations.map (·.vault) ↔ vault ∈ w.vaults

/-- An index in the table is that of one of its vaults. -/
lemma WeightTable.Lists.mem_vaults_of_check {p : VaultProgram} {w : WeightTable} (h : w.Lists p) {vault : Pubkey}
    (hvault : vault ∈ p.vaults) (hcheck : w.checkRegistryForVault (p.index vault) = .ok ()) :
    vault ∈ w.vaults := by
  obtain ⟨hne, v, hv, hindex⟩ := checkRegistryForVault_ok hcheck
  cases hempty : v.isEmpty with
  | true => exact absurd (hindex.symm.trans (h.free v hv hempty)) hne
  | false =>
    obtain ⟨hmem, hidx⟩ := h.entry v hv hempty
    have hsame : v.vault = vault := p.index_injOn hmem hvault (hidx.symm.trans hindex)
    exact WeightTable.mem_vaults.2 ⟨v, hv, hempty, hsame⟩

namespace VaultsCounted
variable {p : VaultProgram} {w : WeightTable} {s s' : OperatorSnapshot} {ds : List VaultOperatorStakeWeight}

/-- The snapshot of an active operator starts with no vault counted. -/
lemma initialized {operator ncn : Pubkey} {epoch : ℕ} {bump : UInt8} {slot ncnOperatorIndex operatorIndex
    feeBps : ℕ} (h : OperatorSnapshot.initialized operator ncn epoch bump slot true ncnOperatorIndex operatorIndex
      feeBps w.vaults.length = .ok s) : VaultsCounted p w s [] := by
  obtain ⟨hreg, _, _, _, hcount, hvalid, _⟩ := OperatorSnapshot.initialized_ok h
  exact ⟨hreg, hcount, hvalid, by simp, List.nodup_nil⟩

/-- Registering a vault of the table counts it. -/
lemma register (h : VaultsCounted p w s ds) {slot : ℕ} {vault : Pubkey} {sw : StakeWeights}
    (hne : vault ≠ .default) (hmem : vault ∈ w.vaults)
    (hrun : (OperatorSnapshot.incrementVaultOperatorDelegationRegistration slot vault (p.index vault) sw).run s =
      .ok () s') :
    VaultsCounted p w s' (ds ++ [⟨vault, p.index vault, sw⟩]) := by
  have hreg := h.registered.register hne hrun
  obtain ⟨_, _, hnew, _, v, _, _, hv, rfl⟩ :=
    OperatorSnapshot.incrementVaultOperatorDelegationRegistration_run_ok hrun
  constructor
  case registered => exact hreg
  case count => exact h.count
  case valid =>
    show v = _
    rw [hv, h.valid, List.countP_append, List.countP_singleton]
    simp only [decide_eq_true_eq]
  case vault => exact forall_mem_append_singleton h.vault ⟨hmem, rfl⟩
  case nodup =>
    apply nodup_map_append_singleton h.nodup
    intro hdup
    obtain ⟨d, hd, hindex⟩ := List.mem_map.1 hdup
    -- the duplicate would have been found in the table of the snapshot
    rw [OperatorSnapshot.containsVaultIndex, Table.any, h.registered.holds, List.any_append,
      Bool.or_eq_false_iff, List.any_eq_false] at hnew
    exact hnew.1 d hd (beq_iff_eq.2 hindex)

/-- The counted vaults are distinct. -/
lemma vaults_nodup (h : VaultsCounted p w s ds) : (ds.map (·.vault)).Nodup := by
  have hindex : ds.map (·.vaultIndex) = (ds.map (·.vault)).map p.index := by
    rw [List.map_map]
    exact List.map_congr_left fun d hd => (h.vault d hd).2
  have hnodup := h.nodup
  rw [hindex] at hnodup
  exact hnodup.of_map

/-- They are vaults of the table. -/
lemma vaults_subset (h : VaultsCounted p w s ds) : ds.map (·.vault) ⊆ w.vaults := by
  intro vault hvault
  obtain ⟨d, hd, rfl⟩ := List.mem_map.1 hvault
  exact (h.vault d hd).1

/-- A vault of the program that was not counted has not been registered. -/
lemma containsVaultIndex_eq_false (h : VaultsCounted p w s ds) (hw : w.Lists p) {vault : Pubkey}
    (hmem : vault ∈ w.vaults) (hnew : vault ∉ ds.map (·.vault)) : s.containsVaultIndex (p.index vault) = false := by
  obtain ⟨v, hv, hempty, rfl⟩ := WeightTable.mem_vaults.1 hmem
  have hvault := (hw.entry v hv hempty).1
  have hfree : (VaultOperatorStakeWeight.default.vaultIndex == p.index v.vault) = false :=
    beq_eq_false_iff_ne.2 (p.index_ne _ hvault).symm
  rw [OperatorSnapshot.containsVaultIndex,
    h.registered.holds.any_eq (p := (·.vaultIndex == p.index v.vault)) hfree, List.any_eq_false]
  intro x hx hindex
  obtain ⟨hx', hxindex⟩ := h.vault x hx
  obtain ⟨u, hu, huempty, huvault⟩ := WeightTable.mem_vaults.1 hx'
  have hin : x.vault ∈ p.vaults := huvault ▸ (hw.entry u hu huempty).1
  have hsame : x.vault = v.vault := p.index_injOn hin hvault (hxindex.symm.trans (beq_iff_eq.1 hindex))
  exact hnew (hsame ▸ List.mem_map_of_mem hx)

/-- A vault is valid only when it is registered. -/
lemma valid_le (h : VaultsCounted p w s ds) :
    s.validOperatorVaultDelegations ≤ s.vaultOperatorDelegationsRegistered := by
  rw [h.valid, h.registered.registered]
  exact List.countP_le_length

/-- A snapshot that is not finalized leaves a vault to register. -/
lemma exists_vault (h : VaultsCounted p w s ds) (hw : w.Lists p) (hopen : s.finalized = false) :
    ∃ vault ∈ w.vaults, vault ∉ ds.map (·.vault) := by
  by_contra! hall
  have hlen := (length_eq_iff_of_subset h.vaults_nodup hw.nodup h.vaults_subset).2 fun vault =>
    ⟨fun hvault => h.vaults_subset hvault, hall vault⟩
  rw [List.length_map] at hlen
  rw [OperatorSnapshot.finalized, beq_eq_false_iff_ne, h.registered.registered, h.count] at hopen
  exact hopen hlen

/-- So the snapshot counts the vaults of the table. -/
lemma countsVaults (h : VaultsCounted p w s ds) (hw : w.Lists p) : s.CountsVaults w := by
  have hds : s.registeredDelegations = ds := h.registered.registeredDelegations
  have hle : ds.length ≤ w.vaults.length := by
    simpa using (List.subperm_of_subset h.vaults_nodup h.vaults_subset).length_le
  have hmax : w.vaults.length ≤ maxVaults := w.vaults_length_le
  constructor
  case entries => exact hds ▸ h.registered.holds
  case length => rw [hds, h.registered.registered]
  case distinct => exact hds ▸ h.nodup
  case listed =>
    intro d hd
    rw [hds] at hd
    obtain ⟨hmem, hindex⟩ := h.vault d hd
    obtain ⟨v, hv, hempty, hvault⟩ := WeightTable.mem_vaults.1 hmem
    refine ⟨v, hv, hempty, hvault, ?_⟩
    rw [(hw.entry v hv hempty).2, hvault, hindex]
  case inBounds =>
    intro hopen
    rw [OperatorSnapshot.finalized, beq_eq_false_iff_ne, h.registered.registered, h.count] at hopen
    rw [h.registered.registered]
    omega
  case stake => rw [hds, h.registered.stake]
  case valid => rw [hds, h.valid]
  case finalized_iff =>
    rw [hds, OperatorSnapshot.finalized, beq_iff_eq, h.registered.registered, h.count,
      ← length_eq_iff_of_subset h.vaults_nodup hw.nodup h.vaults_subset, List.length_map]

end VaultsCounted

/-- A registration with any operator keeps what has been counted for this one, or counts the vault. -/
lemma Epoch.RegistersVault.vaultsCounted {p : VaultProgram} {math : PreciseMath} {operator : Pubkey}
    {w : WeightTable} (hw : w.Lists p) {e e' : Epoch} (hstep : e.RegistersVault p math e')
    (h : e.weightTable = w ∧ ∃ s ds, e.operatorSnapshot operator = some s ∧ VaultsCounted p w s ds) :
    e'.weightTable = w ∧ ∃ s ds, e'.operatorSnapshot operator = some s ∧ VaultsCounted p w s ds := by
  obtain ⟨rfl, s, ds, hs, h⟩ := h
  obtain ⟨clock, other, v, hvault, hindex, hrun⟩ := hstep
  have hcheck := processSnapshotVaultOperatorDelegation_registry hrun
  rw [hindex] at hcheck
  have hmem := hw.mem_vaults_of_check hvault hcheck
  obtain ⟨t, t', sw, es, st, ht, _, hreg, _, _, rfl⟩ := processSnapshotVaultOperatorDelegation_run_ok hrun
  refine ⟨rfl, ?_⟩
  by_cases hsame : operator = other
  · subst hsame
    obtain rfl : s = t := Option.some.inj (hs.symm.trans ht)
    rw [hindex] at hreg
    exact ⟨t', _, operatorSnapshot_setOperatorSnapshot, h.register v.vault_ne hmem hreg⟩
  · exact ⟨s, ds, (operatorSnapshot_setOperatorSnapshot_ne hsame).trans hs, h⟩

/-- However the vaults of a weight table are registered with an active operator, in whatever order and with
whatever is registered for other operators in between, the operator's snapshot counts each vault once and is
finalized exactly when it has counted all of them. -/
theorem finalized_iff_all_vaults_counted {p : VaultProgram} {math : PreciseMath} {e₀ e : Epoch}
    (hw : e₀.weightTable.Lists p) {operator ncn : Pubkey} {epoch : ℕ} {bump : UInt8} {slot ncnOperatorIndex
      operatorIndex feeBps : ℕ} {s₀ : OperatorSnapshot}
    (hinit : OperatorSnapshot.initialized operator ncn epoch bump slot true ncnOperatorIndex operatorIndex feeBps
      e₀.weightTable.vaults.length = .ok s₀)
    (hs₀ : e₀.operatorSnapshot operator = some s₀) (hrun : Run (Epoch.RegistersVault p math) e₀ e) :
    e.weightTable = e₀.weightTable ∧
      ∃ s, e.operatorSnapshot operator = some s ∧ s.CountsVaults e.weightTable := by
  obtain ⟨htable, s, ds, hs, h⟩ := hrun.invariant (I := fun e => e.weightTable = e₀.weightTable ∧
      ∃ s ds, e.operatorSnapshot operator = some s ∧ VaultsCounted p e₀.weightTable s ds)
    ⟨rfl, s₀, [], hs₀, .initialized hinit⟩ fun _ _ hstep h => hstep.vaultsCounted hw h
  refine ⟨htable, s, hs, ?_⟩
  rw [htable]
  exact h.countsVaults hw

/-- The two vaults of the small epoch, as the vault program has them. -/
def VaultProgram.small : VaultProgram where
  vaults := {11, 12}
  index vault := if vault = 11 then 1 else 2
  vault_ne := by
    rintro vault (rfl | rfl) <;> decide
  index_injOn := by
    rintro v (rfl | rfl) w (rfl | rfl) h
    · rfl
    · exact absurd h (by decide)
    · exact absurd h (by decide)
    · rfl
  index_ne := by
    rintro vault (rfl | rfl) <;> decide

/-- An operator to which the first vault of a registry delegates five and the second nothing: with both registered,
the second one first, the snapshot is finalized. -/
theorem finalized_iff_all_vaults_counted_two_vaults :
    ∃ (e : Epoch) (s : OperatorSnapshot),
      Run (Epoch.RegistersVault .small splMath) (commit (Epoch.processInitializeOperatorSnapshot ⟨1, 0⟩ 0
        ⟨7, 0, 0, 0, true⟩) (.small 1)) e ∧ e.operatorSnapshot 7 = some s ∧ s.finalized = true ∧
      s.stakeWeights.stakeWeight = 5 ∧ s.validOperatorVaultDelegations = 1 ∧ s.CountsVaults e.weightTable := by
  let addMint := VaultRegistry.registerStMint 21 1
  let addVault (vault : Pubkey) (index : ℕ) := VaultRegistry.processRegisterVault ⟨1, 0⟩ vault 21 index
  let r₁ := commit addMint (.new 1 0)
  let r₂ := commit (addVault 11 1) r₁
  let r₃ := commit (addVault 12 2) r₂
  have a₁ : addMint.run (.new 1 0) = .ok () r₁ := Succeeds.run_eq (by decide +kernel)
  have a₂ : (addVault 11 1).run r₁ = .ok () r₂ := Succeeds.run_eq (by decide +kernel)
  have a₃ : (addVault 12 2).run r₂ = .ok () r₃ := Succeeds.run_eq (by decide +kernel)
  let create := Epoch.processInitializeOperatorSnapshot ⟨1, 0⟩ 0 ⟨7, 0, 0, 0, true⟩
  let register (v : VaultDelegation) := Epoch.processSnapshotVaultOperatorDelegation splMath ⟨1, 0⟩ 7 v
  let e₀ := commit create (Epoch.small 1)
  let e₁ := commit (register (.small true 0)) e₀
  let e₂ := commit (register (.small false 5)) e₁
  have c₀ : create.run (Epoch.small 1) = .ok () e₀ := Succeeds.run_eq (by decide +kernel)
  have c₁ : (register (.small true 0)).run e₀ = .ok () e₁ := Succeeds.run_eq (by decide +kernel)
  have c₂ : (register (.small false 5)).run e₁ = .ok () e₂ := Succeeds.run_eq (by decide +kernel)
  have hvaults : e₀.weightTable.vaultRegistry = r₃.vaultList := by decide +kernel
  have hlen : (Epoch.small 1).epochSnapshot.vaultCount = e₀.weightTable.vaults.length := by decide +kernel
  have hlast : (e₂.operatorSnapshot 7).map (fun s =>
    (s.finalized, s.stakeWeights.stakeWeight, s.validOperatorVaultDelegations)) = some (true, 5, 1) := by
    decide +kernel
  show ∃ e s, Run _ e₀ e ∧ _
  clear_value r₁ r₂ r₃ e₀ e₁ e₂
  have hlists : e₀.weightTable.Lists .small :=
    .of_registry (((Relation.ReflTransGen.single (.registerStMint 21 1 a₁)).tail
      (.registerVault ⟨1, 0⟩ 11 21 (.inl rfl) (by decide) (by decide) a₂)).tail
      (.registerVault ⟨1, 0⟩ 12 21 (.inr rfl) (by decide) (by decide) a₃)) hvaults
  obtain ⟨_, _, s₀, es, st, hs₀, _, _, he₀⟩ := Epoch.processInitializeOperatorSnapshot_run_ok c₀
  rw [hlen] at hs₀
  have hstart : e₀.operatorSnapshot 7 = some s₀ := by
    rw [he₀]
    exact Function.update_self (7 : Pubkey) (some s₀) (Epoch.small 1).operatorSnapshot
  have hrun : Run (Epoch.RegistersVault .small splMath) e₀ e₂ :=
    (Relation.ReflTransGen.single ⟨⟨1, 0⟩, 7, .small true 0, .inr rfl, rfl, c₁⟩).tail
      ⟨⟨1, 0⟩, 7, .small false 5, .inl rfl, rfl, c₂⟩
  obtain ⟨_, s, hs, hcounts⟩ := finalized_iff_all_vaults_counted hlists hs₀ hstart hrun
  rw [hs, Option.map_some, Option.some.injEq, Prod.mk.injEq, Prod.mk.injEq] at hlast
  obtain ⟨hfin, hstake, hvalid⟩ := hlast
  exact ⟨e₂, s, hrun, hs, hfin, hstake, hvalid, hcounts⟩

end NcnProgram
