import NcnProgram.Core.VaultRegistry
import NcnProgram.Lib.Run
import NcnProgram.Program.Epoch

/-!
# Registering vaults

Port of `program/src/register_vault.rs`. What the vault program promises about its vaults is a `VaultProgram`:
each has an index of its own. However mints and vaults were registered, the vaults of the registry stand in its
first slots, each once and with its index (`VaultRegistry.Lists`), and a weight table filled from it lists the
same vaults (`WeightTable.Lists`).
-/

namespace NcnProgram
open Lib NCNProgramError

/-- The vaults of the vault program. Their keys are those of its accounts, and their indices are distinct and
are not the index of a free slot. -/
structure VaultProgram where
  vaults : Set Pubkey
  index : Pubkey → ℕ
  vault_ne : ∀ vault ∈ vaults, vault ≠ .default
  index_injOn : Set.InjOn index vaults
  index_ne : ∀ vault ∈ vaults, index vault ≠ VaultEntry.emptyVaultIndex

namespace VaultRegistry

/-- `process_register_vault`, with the key, the mint and the index of the vault account. -/
def processRegisterVault (clock : Clock) (vault supportedMint : Pubkey) (vaultIndex : ℕ) :
    Mut VaultRegistry Unit := do
  let self ← get
  ensure (self.hasStMint supportedMint = true) ProgramError.invalidAccountData
  registerVault vault supportedMint vaultIndex clock.slot

/-- One successful change of the registry. -/
inductive Step (p : VaultProgram) : VaultRegistry → VaultRegistry → Prop
  | registerStMint {r r'} (stMint : Pubkey) (weight : ℕ) :
      (registerStMint stMint weight).run r = .ok () r' → Step p r r'
  | setStMint {r r'} (stMint : Pubkey) (weight : Option ℕ) :
      (setStMint stMint weight).run r = .ok () r' → Step p r r'
  | registerVault {r r'} (clock : Clock) (vault supportedMint : Pubkey) : vault ∈ p.vaults →
      supportedMint ≠ .default → clock.slot < u64Max →
      (processRegisterVault clock vault supportedMint (p.index vault)).run r = .ok () r' → Step p r r'

variable {p : VaultProgram} {r r' : VaultRegistry}

/-- An entry of the registry: a vault with its index, of some mint. -/
structure IsEntry (p : VaultProgram) (v : VaultEntry) : Prop where
  vault : v.vault ∈ p.vaults
  vaultIndex : v.vaultIndex = p.index v.vault
  stMint_ne : v.stMint ≠ .default
  isEmpty : v.isEmpty = false

/-- The first slots of the registry are the entries `vs`, of distinct vaults. -/
structure Lists (p : VaultProgram) (r : VaultRegistry) (vs : List VaultEntry) : Prop where
  holds : r.vaultList.Holds .default vs
  nodup : (vs.map (·.vault)).Nodup
  entry : ∀ v ∈ vs, IsEntry p v

namespace Lists
variable {vs : List VaultEntry}

/-- A new registry is empty. -/
lemma new (ncn : Pubkey) (bump : UInt8) : Lists p (new ncn bump) [] :=
  ⟨Table.holds_replicate _, List.nodup_nil, by simp⟩

/-- Registering a vault appends its entry, unless it has one. -/
lemma registerVault (h : Lists p r vs) {clock : Clock} {vault supportedMint : Pubkey} (hvault : vault ∈ p.vaults)
    (hmint : supportedMint ≠ .default) (hslot : clock.slot < u64Max)
    (hrun : (processRegisterVault clock vault supportedMint (p.index vault)).run r = .ok () r') :
    ∃ vs', Lists p r' vs' := by
  obtain ⟨_, _, hg, hrun⟩ := run_bind_ok.1 hrun
  cases hg
  obtain ⟨_, _, hg, hrun⟩ := run_bind_ok.1 hrun
  obtain ⟨_, rfl⟩ := run_ensure_ok.1 hg
  obtain ⟨_, rfl⟩ | ⟨hnew, i, hi, rfl⟩ := registerVault_run_ok hrun
  · exact ⟨vs, h⟩
  have hfree : (VaultEntry.default.vault == vault) = false :=
    beq_eq_false_iff_ne.2 (p.vault_ne vault hvault).symm
  rw [h.holds.any_eq (p := (·.vault == vault)) hfree, List.any_eq_false] at hnew
  have htaken : ∀ v ∈ vs, (v.stMint == VaultEntry.default.stMint) = false :=
    fun v hv => beq_eq_false_iff_ne.2 (h.entry v hv).stMint_ne
  rw [h.holds.findIdx?_free (p := (·.stMint == VaultEntry.default.stMint)) rfl htaken] at hi
  split at hi
  · rename_i hroom
    cases hi
    refine ⟨vs ++ [⟨vault, supportedMint, p.index vault, clock.slot⟩], h.holds.append hroom _, ?_, ?_⟩
    · apply nodup_map_append_singleton h.nodup
      intro hmem
      obtain ⟨v, hv, hsame⟩ := List.mem_map.1 hmem
      exact hnew v hv (beq_iff_eq.2 hsame)
    · apply forall_mem_append_singleton h.entry
      exact ⟨hvault, rfl, hmint, beq_eq_false_iff_ne.2 hslot.ne⟩
  · cases hi

/-- Every change of the registry keeps the list of its vaults in order. -/
lemma step (h : Lists p r vs) (hstep : Step p r r') : ∃ vs', Lists p r' vs' := by
  cases hstep with
  | registerStMint stMint weight hrun =>
    exact ⟨vs, (leaves_registerStMint stMint weight hrun).symm ▸ h.holds, h.nodup, h.entry⟩
  | setStMint stMint weight hrun =>
    exact ⟨vs, (leaves_setStMint stMint weight hrun).symm ▸ h.holds, h.nodup, h.entry⟩
  | registerVault clock vault supportedMint hvault hmint hslot hrun =>
    exact h.registerVault hvault hmint hslot hrun

/-- However mints and vaults were registered, the registry lists its vaults in order. -/
lemma of_run {ncn : Pubkey} {bump : UInt8} (hrun : Run (Step p) (.new ncn bump) r) : ∃ vs, Lists p r vs :=
  hrun.invariant (I := fun r => ∃ vs, Lists p r vs) ⟨[], new ncn bump⟩ fun _ _ hstep ⟨_, h⟩ => h.step hstep

end Lists
end VaultRegistry

namespace WeightTable

/-- The vaults of the table. -/
def vaults (w : WeightTable) : List Pubkey := (w.vaultRegistry.toList.filter (!·.isEmpty)).map (·.vault)

/-- The table lists distinct vaults, each with its index, and its free slots have the index of a free slot. -/
structure Lists (p : VaultProgram) (w : WeightTable) : Prop where
  nodup : w.vaults.Nodup
  entry : ∀ v ∈ w.vaultRegistry.toList, v.isEmpty = false → v.vault ∈ p.vaults ∧ v.vaultIndex = p.index v.vault
  free : ∀ v ∈ w.vaultRegistry.toList, v.isEmpty = true → v.vaultIndex = VaultEntry.emptyVaultIndex

variable {p : VaultProgram} {w : WeightTable}

lemma mem_vaults {vault : Pubkey} :
    vault ∈ w.vaults ↔ ∃ v ∈ w.vaultRegistry.toList, v.isEmpty = false ∧ v.vault = vault := by
  simp [vaults, and_assoc]

/-- There are no more vaults than places for them. -/
lemma vaults_length_le : w.vaults.length ≤ maxVaults := by
  rw [vaults, List.length_map]
  exact (List.length_filter_le _ _).trans_eq w.vaultRegistry.length_eq

/-- The index of a vault of the table is found. -/
lemma Lists.checkRegistryForVault (h : w.Lists p) {vault : Pubkey} (hvault : vault ∈ w.vaults) :
    w.checkRegistryForVault (p.index vault) = .ok () := by
  obtain ⟨v, hv, hempty, rfl⟩ := mem_vaults.1 hvault
  obtain ⟨hmem, hindex⟩ := h.entry v hv hempty
  have hany : ¬w.vaultRegistry.any (·.vaultIndex == p.index v.vault) = false :=
    Bool.not_eq_false _ ▸ List.any_eq_true.2 ⟨v, hv, beq_iff_eq.2 hindex⟩
  rw [WeightTable.checkRegistryForVault, if_neg (p.index_ne _ hmem), if_neg hany]
  rfl

/-- Every table that is filled from a registry lists its vaults. -/
lemma Lists.of_registry {ncn : Pubkey} {bump : UInt8} {r : VaultRegistry}
    (hrun : Run (VaultRegistry.Step p) (.new ncn bump) r) (hw : w.vaultRegistry = r.vaultList) : w.Lists p := by
  obtain ⟨vs, h⟩ := VaultRegistry.Lists.of_run hrun
  have hlist : w.vaultRegistry.toList = vs ++ List.replicate (maxVaults - vs.length) .default :=
    (congrArg Table.toList hw).trans h.holds
  have hfilter : w.vaultRegistry.toList.filter (!·.isEmpty) = vs := by
    rw [hlist, List.filter_append, List.filter_eq_self.2, List.filter_eq_nil_iff.2, List.append_nil]
    · intro v hv
      rw [List.eq_of_mem_replicate hv]
      decide
    · intro v hv
      rw [(h.entry v hv).isEmpty]
      rfl
  have hcases : ∀ v ∈ w.vaultRegistry.toList, v ∈ vs ∨ v = .default := by
    intro v hv
    rw [hlist] at hv
    exact (List.mem_append.1 hv).imp id List.eq_of_mem_replicate
  constructor
  case nodup =>
    rw [vaults, hfilter]
    exact h.nodup
  case entry =>
    intro v hv hfull
    rcases hcases v hv with hv | rfl
    · exact ⟨(h.entry v hv).vault, (h.entry v hv).vaultIndex⟩
    · cases hfull
  case free =>
    intro v hv hempty
    rcases hcases v hv with hv | rfl
    · rw [(h.entry v hv).isEmpty] at hempty
      cases hempty
    · rfl

end WeightTable
end NcnProgram
