import NcnProgram.Core.PreciseNumber
import NcnProgram.Lib.Table

/-!
# The weight table

Port of `core/src/weight_table.rs`, with the entries of `core/src/vault_registry.rs` and
`core/src/weight_entry.rs` it is made of: the vaults of an epoch, and the weight of each mint they support.
An empty vault entry has the slot `u64::MAX`, an empty mint entry the default key, and a weight that was
never set the slot zero.
-/

namespace NcnProgram
open Lib NCNProgramError

/-- The most supported mints (`MAX_ST_MINTS`). -/
abbrev maxStMints : ℕ := 64

/-- A supported mint with its weight (`StMintEntry`). -/
structure StMintEntry where
  stMint : Pubkey
  weight : ℕ
deriving DecidableEq

/-- `StMintEntry::default`. -/
protected def StMintEntry.default : StMintEntry := ⟨.default, 0⟩

/-- `StMintEntry::is_empty`. -/
def StMintEntry.isEmpty (self : StMintEntry) : Bool := self.stMint == .default

/-- A registered vault (`VaultEntry`). -/
structure VaultEntry where
  vault : Pubkey
  stMint : Pubkey
  vaultIndex : ℕ
  slotRegistered : ℕ
deriving DecidableEq

namespace VaultEntry

/-- `VaultEntry::EMPTY_VAULT_INDEX`. -/
def emptyVaultIndex : ℕ := u64Max

/-- `VaultEntry::EMPTY_SLOT_REGISTERED`. -/
def emptySlotRegistered : ℕ := u64Max

/-- `VaultEntry::default`. -/
protected def default : VaultEntry := ⟨.default, .default, emptyVaultIndex, emptySlotRegistered⟩

/-- `VaultEntry::is_empty`. -/
def isEmpty (self : VaultEntry) : Bool := self.slotRegistered == u64Max

end VaultEntry

/-- The weight of one mint in one epoch (`WeightEntry`). -/
structure WeightEntry where
  stMintEntry : StMintEntry
  weight : ℕ
  slotSet : ℕ
  slotUpdated : ℕ
deriving DecidableEq

namespace WeightEntry

/-- `WeightEntry::new`. -/
def new (mintEntry : StMintEntry) : WeightEntry := ⟨mintEntry, 0, 0, 0⟩

/-- `WeightEntry::default`. -/
protected def default : WeightEntry := new .default

/-- `WeightEntry::is_empty`. -/
def isEmpty (self : WeightEntry) : Bool := self.stMintEntry.isEmpty

/-- `WeightEntry::is_set`. -/
def isSet (self : WeightEntry) : Bool := decide (self.slotSet > 0)

/-- `WeightEntry::st_mint`. -/
def stMint (self : WeightEntry) : Pubkey := self.stMintEntry.stMint

/-- `WeightEntry::set_weight`. -/
def setWeight (weight currentSlot : ℕ) (self : WeightEntry) : WeightEntry :=
  { self with
    weight
    slotSet := if self.slotSet = 0 then currentSlot else self.slotSet
    slotUpdated := currentSlot }

/-- A weight that was set stays set. -/
lemma isSet_setWeight {weight slot : ℕ} {self : WeightEntry} (h : self.isSet = true) :
    (self.setWeight weight slot).isSet = true := by
  rw [isSet, decide_eq_true_eq] at h ⊢
  show 0 < if self.slotSet = 0 then slot else self.slotSet
  rw [if_neg (by omega)]
  exact h

/-- After slot zero every weight is set. -/
lemma isSet_setWeight_of_pos {weight slot : ℕ} (h : 0 < slot) (self : WeightEntry) :
    (self.setWeight weight slot).isSet = true := by
  rw [isSet, decide_eq_true_eq]
  show 0 < if self.slotSet = 0 then slot else self.slotSet
  split <;> omega

end WeightEntry

/-- The weight table of an NCN's epoch (`WeightTable`). -/
structure WeightTable where
  ncn : Pubkey
  epoch : ℕ
  slotCreated : ℕ
  vaultCount : ℕ
  bump : UInt8
  vaultRegistry : Table VaultEntry maxVaults
  table : Table WeightEntry maxStMints
deriving DecidableEq

namespace WeightTable

/-- `WeightTable::mint_count` and `st_mint_count`. -/
def mintCount (self : WeightTable) : ℕ := self.table.toList.countP (!·.isEmpty)

/-- `WeightTable::weight_count`. -/
def weightCount (self : WeightTable) : ℕ := self.table.toList.countP (·.isSet)

/-- `WeightTable::vault_entry_count`. -/
def vaultEntryCount (self : WeightTable) : ℕ := self.vaultRegistry.toList.countP (!·.isEmpty)

/-- `WeightTable::vault_registry_initialized`. -/
def vaultRegistryInitialized (self : WeightTable) : Bool := self.vaultCount == self.vaultEntryCount

/-- `WeightTable::table_initialized`. -/
def tableInitialized (self : WeightTable) : Bool := decide (self.mintCount > 0)

/-- `WeightTable::finalized`. -/
def finalized (self : WeightTable) : Bool :=
  self.vaultRegistryInitialized && self.tableInitialized && self.mintCount == self.weightCount

/-- `WeightTable::initialize`: an empty table, then the vaults, then the mints. A registry without vaults
is refused because the empty table already counts as initialized. -/
def initialized (ncn : Pubkey) (ncnEpoch slotCreated vaultCount : ℕ) (bump : UInt8)
    (vaultEntries : Table VaultEntry maxVaults) (mintEntries : Table StMintEntry maxStMints) :
    Except ProgramError WeightTable := do
  let empty : WeightTable :=
    ⟨ncn, ncnEpoch, slotCreated, vaultCount, bump, .replicate _ .default, .replicate _ .default⟩
  if empty.vaultRegistryInitialized then throw (weightTableAlreadyInitialized : ProgramError)
  let withVaults := { empty with vaultRegistry := vaultEntries }
  if withVaults.vaultRegistryInitialized = false then throw (registryNotInitialized : ProgramError)
  if withVaults.tableInitialized then throw (weightTableAlreadyInitialized : ProgramError)
  let withMints := { withVaults with table := mintEntries.map WeightEntry.new }
  if withMints.tableInitialized = false then throw (tableNotInitialized : ProgramError)
  return withMints

/-- What a filled table is: the registry's vaults and mints, some of both, and no weight yet. -/
lemma initialized_eq_ok {ncn : Pubkey} {epoch slot vaultCount : ℕ} {bump : UInt8}
    {vaults : Table VaultEntry maxVaults} {mints : Table StMintEntry maxStMints} {w : WeightTable}
    (h : initialized ncn epoch slot vaultCount bump vaults mints = .ok w) :
    w = ⟨ncn, epoch, slot, vaultCount, bump, vaults, mints.map WeightEntry.new⟩ ∧ 0 < vaultCount ∧
      w.vaultRegistryInitialized = true ∧ w.tableInitialized = true := by
  unfold initialized at h
  dsimp only at h
  split at h
  · cases h
  rename_i hempty
  split at h
  · cases h
  rename_i hvaults
  split at h
  · cases h
  split at h
  · cases h
  rename_i hmints
  cases h
  refine ⟨rfl, ?_, Bool.eq_true_of_not_eq_false hvaults, Bool.eq_true_of_not_eq_false hmints⟩
  have hnone : (List.replicate maxVaults VaultEntry.default).countP (!·.isEmpty) = 0 := by
    simp [VaultEntry.default, VaultEntry.isEmpty, VaultEntry.emptySlotRegistered]
  rw [vaultRegistryInitialized, beq_iff_eq] at hempty
  simp only [vaultEntryCount, Table.replicate, hnone] at hempty
  omega

/-- A registry with a vault and a mint fills a table. -/
lemma initialized_of {ncn : Pubkey} {epoch slot : ℕ} {bump : UInt8} {vaults : Table VaultEntry maxVaults}
    {mints : Table StMintEntry maxStMints} (hvaults : 0 < vaults.toList.countP (!·.isEmpty))
    (hmints : ∃ mint ∈ mints.toList, mint.isEmpty = false) :
    initialized ncn epoch slot (vaults.toList.countP (!·.isEmpty)) bump vaults mints =
      .ok ⟨ncn, epoch, slot, vaults.toList.countP (!·.isEmpty), bump, vaults, mints.map WeightEntry.new⟩ := by
  have hno_vaults : (List.replicate maxVaults VaultEntry.default).countP (!·.isEmpty) = 0 := by
    simp [VaultEntry.default, VaultEntry.isEmpty, VaultEntry.emptySlotRegistered]
  have hno_mints : (List.replicate maxStMints WeightEntry.default).countP (!·.isEmpty) = 0 := by
    simp [WeightEntry.default, WeightEntry.new, WeightEntry.isEmpty, StMintEntry.isEmpty, StMintEntry.default]
  have hcount : 0 < (mints.map WeightEntry.new).toList.countP (!·.isEmpty) := by
    obtain ⟨mint, hmint, hfull⟩ := hmints
    refine List.countP_pos_iff.2 ⟨.new mint, List.mem_map_of_mem hmint, ?_⟩
    rw [WeightEntry.isEmpty, WeightEntry.new, hfull]
    rfl
  unfold initialized
  simp only [vaultRegistryInitialized, tableInitialized, vaultEntryCount, mintCount, Table.replicate, hno_vaults,
    hno_mints, beq_self_eq_true, beq_eq_false_iff_ne.2 hvaults.ne', decide_eq_true hcount, Bool.true_eq_false,
    Bool.false_eq_true, Nat.lt_irrefl, gt_iff_lt, decide_false, if_false]
  rfl

/-- `WeightTable::set_weight`. -/
def setWeight (mint : Pubkey) (weight currentSlot : ℕ) : Mut WeightTable Unit := do
  let self ← get
  match self.table.findIdx? (fun entry => entry.stMint == mint) with
  | some i =>
    let entry := (self.table.get? i).getD .default
    set { self with table := self.table.set i (entry.setWeight weight currentSlot) }
  | none => throw (invalidMintForWeightTable : ProgramError)

/-- `WeightTable::get_mints`. -/
def getMints (self : WeightTable) : List Pubkey := (self.table.toList.filter (!·.isEmpty)).map (·.stMint)

/-- A weight that is set is that of an entry with the mint. -/
lemma setWeight_run_ok {mint : Pubkey} {weight slot : ℕ} {w w' : WeightTable} {u : Unit}
    (h : (setWeight mint weight slot).run w = .ok u w') :
    ∃ i entry, w.table.toList[i]? = some entry ∧ entry.stMint = mint ∧
      w' = { w with table := w.table.set i (entry.setWeight weight slot) } := by
  obtain ⟨_, _, hg, h⟩ := run_bind_ok.1 h
  cases hg
  cases hi : w.table.findIdx? (fun entry => entry.stMint == mint) with
  | none => rw [hi] at h; cases h
  | some i =>
    rw [hi] at h
    cases h
    obtain ⟨entry, hentry, hmint, _⟩ := exists_of_findIdx? hi
    refine ⟨i, entry, hentry, beq_iff_eq.1 hmint, ?_⟩
    rw [show w.table.get? i = some entry from hentry, Option.getD_some]

/-- A weight cannot be set exactly if no entry has the mint. -/
lemma setWeight_fails_iff {mint : Pubkey} {weight slot : ℕ} {w : WeightTable} :
    FailsWith (setWeight mint weight slot) w (invalidMintForWeightTable : ProgramError) ↔
      ∀ entry ∈ w.table.toList, entry.stMint ≠ mint := by
  have hnone : w.table.findIdx? (fun entry => entry.stMint == mint) = none ↔
      ∀ entry ∈ w.table.toList, entry.stMint ≠ mint := by
    simp [Table.findIdx?, List.findIdx?_eq_none_iff]
  rw [← hnone]
  constructor
  · rintro ⟨w', h⟩
    cases hi : w.table.findIdx? (fun entry => entry.stMint == mint) with
    | none => rfl
    | some i =>
      simp only [setWeight, EStateM.run_bind, EStateM.run_get, hi] at h
      cases h
  · intro hi
    refine ⟨w, ?_⟩
    simp only [setWeight, EStateM.run_bind, EStateM.run_get, hi]
    rfl

/-- `WeightTable::get_weight`. -/
def getWeight (self : WeightTable) (mint : Pubkey) : Except ProgramError ℕ := do
  let entry ← okOr (self.table.find? (fun entry => entry.stMint == mint))
    (invalidMintForWeightTable : ProgramError)
  return entry.weight

/-- `WeightTable::get_precise_weight`. -/
def getPreciseWeight (math : PreciseMath) (self : WeightTable) (mint : Pubkey) :
    Except ProgramError math.Number := do
  let weight ← self.getWeight mint
  okOr (math.new weight) (newPreciseNumberError : ProgramError)

/-- `WeightTable::check_registry_for_vault`. -/
def checkRegistryForVault (self : WeightTable) (vaultIndex : ℕ) : Except ProgramError Unit := do
  if vaultIndex = VaultEntry.emptyVaultIndex then throw (vaultNotInRegistry : ProgramError)
  if self.vaultRegistry.any (·.vaultIndex == vaultIndex) = false then
    throw (vaultNotInRegistry : ProgramError)

/-- An index that is found is that of an entry, and not the one of free slots. -/
lemma checkRegistryForVault_ok {w : WeightTable} {vaultIndex : ℕ} {u : Unit}
    (h : w.checkRegistryForVault vaultIndex = .ok u) :
    vaultIndex ≠ VaultEntry.emptyVaultIndex ∧ ∃ v ∈ w.vaultRegistry.toList, v.vaultIndex = vaultIndex := by
  have hne : vaultIndex ≠ VaultEntry.emptyVaultIndex := by
    rintro rfl
    rw [checkRegistryForVault, if_pos rfl] at h
    cases h
  have hany : w.vaultRegistry.any (·.vaultIndex == vaultIndex) = true := by
    apply Bool.eq_true_of_not_eq_false
    intro hnone
    rw [checkRegistryForVault, if_neg hne, if_pos hnone] at h
    cases h
  obtain ⟨v, hv, hi⟩ := List.any_eq_true.1 hany
  exact ⟨hne, v, hv, beq_iff_eq.1 hi⟩

end WeightTable
end NcnProgram
