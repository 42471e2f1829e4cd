import NcnProgram.Core.WeightTable
import NcnProgram.Lib.Atomic
import NcnProgram.Lib.Frame

/-!
# The vault registry

Port of the methods of `core/src/vault_registry.rs` that change the registry of an NCN: the mints it supports,
each with a weight, and the vaults of those mints. A free slot has the default key as its mint, in both lists;
the weight tables of all epochs start as copies of the two lists.
-/

namespace NcnProgram
open Lib NCNProgramError

/-- The mints and the vaults of an NCN (`VaultRegistry`). -/
structure VaultRegistry where
  ncn : Pubkey
  bump : UInt8
  stMintList : Table StMintEntry maxStMints
  vaultList : Table VaultEntry maxVaults
deriving DecidableEq

namespace VaultRegistry

/-- `VaultRegistry::new` and `initialize`. -/
def new (ncn : Pubkey) (bump : UInt8) : VaultRegistry :=
  ⟨ncn, bump, .replicate _ .default, .replicate _ .default⟩

/-- `VaultRegistry::has_st_mint`. -/
def hasStMint (self : VaultRegistry) (mint : Pubkey) : Bool := self.stMintList.any (·.stMint == mint)

/-- `VaultRegistry::check_st_mint_entry`. -/
def checkStMintEntry (entry : StMintEntry) : Except ProgramError Unit :=
  if entry.weight = 0 then throw (weightNotSet : ProgramError) else return ()

/-- `VaultRegistry::register_st_mint`. -/
def registerStMint (stMint : Pubkey) (weight : ℕ) : Mut VaultRegistry Unit := do
  let self ← get
  ensure (self.hasStMint stMint = false) (mintInTable : ProgramError)
  let i ← okOr (self.stMintList.findIdx? (·.stMint == StMintEntry.default.stMint))
    (vaultRegistryListFull : ProgramError)
  let newMintEntry : StMintEntry := ⟨stMint, weight⟩
  ofExcept (checkStMintEntry newMintEntry)
  modify ({ · with stMintList := self.stMintList.set i newMintEntry })

/-- `VaultRegistry::set_st_mint`. -/
def setStMint (stMint : Pubkey) (weight : Option ℕ) : Mut VaultRegistry Unit := do
  let self ← get
  let i ← okOr (self.stMintList.findIdx? (·.stMint == stMint)) (mintEntryNotFound : ProgramError)
  let mintEntry := (self.stMintList.get? i).getD .default
  let updatedMintEntry := { mintEntry with weight := weight.getD mintEntry.weight }
  ofExcept (checkStMintEntry updatedMintEntry)
  modify ({ · with stMintList := self.stMintList.set i updatedMintEntry })

/-- `VaultRegistry::register_vault`: a vault that is in the list already stays as it is. -/
def registerVault (vault stMint : Pubkey) (vaultIndex currentSlot : ℕ) : Mut VaultRegistry Unit := do
  let self ← get
  if self.vaultList.any (·.vault == vault) then return ()
  else
    let i ← okOr (self.vaultList.findIdx? (·.stMint == VaultEntry.default.stMint))
      (vaultRegistryListFull : ProgramError)
    modify ({ · with vaultList := self.vaultList.set i ⟨vault, stMint, vaultIndex, currentSlot⟩ })

/-- `VaultRegistry::get_mint_entry`. -/
def getMintEntry (self : VaultRegistry) (stMint : Pubkey) : Except ProgramError StMintEntry :=
  okOr (self.stMintList.find? (·.stMint == stMint)) (mintEntryNotFound : ProgramError)

/-- Registering a mint is not about the vaults. -/
lemma leaves_registerStMint (stMint : Pubkey) (weight : ℕ) : Leaves vaultList (registerStMint stMint weight) :=
  .bind .get fun _ => .bind (.ensure _ _) fun _ => .bind (.okOr _ _) fun _ => .bind (.ofExcept _) fun _ =>
    .modify fun _ => rfl

/-- Nor is setting its weight. -/
lemma leaves_setStMint (stMint : Pubkey) (weight : Option ℕ) : Leaves vaultList (setStMint stMint weight) :=
  .bind .get fun _ => .bind (.okOr _ _) fun _ => .bind (.ofExcept _) fun _ => .modify fun _ => rfl

/-- Each of the three methods checks first and writes at its end. -/
lemma atomic_registerStMint (stMint : Pubkey) (weight : ℕ) : Atomic (registerStMint stMint weight) :=
  .bind .get fun _ => .bind (.ensure _ _) fun _ => .bind (.okOr _ _) fun _ => .bind (.ofExcept _) fun _ =>
    .modify _

lemma atomic_setStMint (stMint : Pubkey) (weight : Option ℕ) : Atomic (setStMint stMint weight) :=
  .bind .get fun _ => .bind (.okOr _ _) fun _ => .bind (.ofExcept _) fun _ => .modify _

lemma atomic_registerVault (vault stMint : Pubkey) (vaultIndex slot : ℕ) :
    Atomic (registerVault vault stMint vaultIndex slot) :=
  .bind .get fun _ => .ite (ReadOnly.pure ()).atomic (.bind (.okOr _ _) fun _ => .modify _)

lemma checkStMintEntry_ok {entry : StMintEntry} {u : Unit} (h : checkStMintEntry entry = .ok u) :
    entry.weight ≠ 0 := by
  intro hzero
  rw [checkStMintEntry, if_pos hzero] at h
  cases h

/-- What a successful registration of a mint does: the mint is new, and gets the first slot without one. -/
lemma registerStMint_run_ok {stMint : Pubkey} {weight : ℕ} {r r' : VaultRegistry} {u : Unit}
    (h : (registerStMint stMint weight).run r = .ok u r') :
    r.hasStMint stMint = false ∧ weight ≠ 0 ∧
      ∃ i, r.stMintList.findIdx? (·.stMint == StMintEntry.default.stMint) = some i ∧
        r' = { r with stMintList := r.stMintList.set i ⟨stMint, weight⟩ } := by
  obtain ⟨_, _, hg, h⟩ := run_bind_ok.1 h
  cases hg
  obtain ⟨_, _, hg, h⟩ := run_bind_ok.1 h
  obtain ⟨hnew, rfl⟩ := run_ensure_ok.1 hg
  obtain ⟨i, _, hg, h⟩ := run_bind_ok.1 h
  obtain ⟨hi, rfl⟩ := run_okOr_ok.1 hg
  obtain ⟨_, _, hg, h⟩ := run_bind_ok.1 h
  obtain ⟨hcheck, rfl⟩ := run_ofExcept_ok.1 hg
  cases h
  exact ⟨hnew, checkStMintEntry_ok hcheck, i, hi, rfl⟩

/-- What setting the weight of a mint does: it writes the first entry with the key. -/
lemma setStMint_run_ok {stMint : Pubkey} {weight : Option ℕ} {r r' : VaultRegistry} {u : Unit}
    (h : (setStMint stMint weight).run r = .ok u r') :
    ∃ i entry, r.stMintList.toList[i]? = some entry ∧ entry.stMint = stMint ∧
      weight.getD entry.weight ≠ 0 ∧
      r' = { r with stMintList := r.stMintList.set i { entry with weight := weight.getD entry.weight } } := by
  obtain ⟨_, _, hg, h⟩ := run_bind_ok.1 h
  cases hg
  obtain ⟨i, _, hg, h⟩ := run_bind_ok.1 h
  obtain ⟨hi, rfl⟩ := run_okOr_ok.1 hg
  obtain ⟨_, _, hg, h⟩ := run_bind_ok.1 h
  obtain ⟨hcheck, rfl⟩ := run_ofExcept_ok.1 hg
  cases h
  obtain ⟨entry, hentry, hkey, _⟩ := exists_of_findIdx? hi
  have hget : r.stMintList.get? i = some entry := hentry
  rw [hget] at hcheck ⊢
  exact ⟨i, entry, hentry, beq_iff_eq.1 hkey, checkStMintEntry_ok hcheck, rfl⟩

/-- What a successful registration of a vault does: nothing to a vault that is in the list, and otherwise the
vault gets a slot without a mint. -/
lemma registerVault_run_ok {vault stMint : Pubkey} {vaultIndex slot : ℕ} {r r' : VaultRegistry} {u : Unit}
    (h : (registerVault vault stMint vaultIndex slot).run r = .ok u r') :
    r.vaultList.any (·.vault == vault) = true ∧ r' = r ∨
      r.vaultList.any (·.vault == vault) = false ∧
        ∃ i, r.vaultList.findIdx? (·.stMint == VaultEntry.default.stMint) = some i ∧
          r' = { r with vaultList := r.vaultList.set i ⟨vault, stMint, vaultIndex, slot⟩ } := by
  obtain ⟨_, _, hg, h⟩ := run_bind_ok.1 h
  cases hg
  cases hany : r.vaultList.any (·.vault == vault) with
  | true =>
    rw [hany, if_pos rfl] at h
    cases h
    exact .inl ⟨rfl, rfl⟩
  | false =>
    rw [hany, if_neg Bool.false_ne_true] at h
    obtain ⟨i, _, hg, h⟩ := run_bind_ok.1 h
    obtain ⟨hi, rfl⟩ := run_okOr_ok.1 hg
    cases h
    exact .inr ⟨rfl, i, hi, rfl⟩

end VaultRegistry
end NcnProgram
