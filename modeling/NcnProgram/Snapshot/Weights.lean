import NcnProgram.Core.VaultRegistry
import NcnProgram.Lib.Run
import NcnProgram.Lib.Tally
import NcnProgram.Program.Lifecycle

/-!
# When a weight table is finalized

A weight table is finalized when as many of its entries have a weight as have a mint. Nothing in this says that they
are the same entries: `WeightTable::set_weight` looks for the first entry with the key it is given, and the empty
slots of the table have the default key. As long as no weight is set with the default key while there is an empty
slot, only entries with a mint have a weight (`WeightTable.MintsWeighed`), and the table is finalized exactly when
all of them do.
-/

namespace NcnProgram
open Lib NCNProgramError

/-- No empty slot of the table has the key: it is not the default key, or every slot has a mint. -/
def WeightTable.NoEmptySlotHas (w : WeightTable) (key : Pubkey) : Prop :=
  key = .default → ∀ entry ∈ w.table.toList, entry.isEmpty = false

/-- One successful instruction that sets weights, after slot zero. The admin may set the weight of the keys that
`allowed` admits. -/
inductive Epoch.SetsWeights (allowed : WeightTable → Pubkey → Prop) : Epoch → Epoch → Prop
  | adminSetWeight {e e'} (clock : Clock) (ncnWeightTableAdmin weightTableAdmin stMint : Pubkey) (weight : ℕ) :
      0 < clock.slot → allowed e.weightTable stMint →
      (processAdminSetWeight clock ncnWeightTableAdmin weightTableAdmin stMint weight).run e = .ok () e' →
      SetsWeights allowed e e'
  | setEpochWeights {e e'} (clock : Clock) (r : VaultRegistry) : 0 < clock.slot →
      (processSetEpochWeights clock r.stMintList).run e = .ok () e' → SetsWeights allowed e e'

/-- The weight table has just been filled from the registry. -/
def Epoch.FilledFrom (r : VaultRegistry) (e : Epoch) : Prop :=
  ∃ ncn epoch slot bump st,
    WeightTable.initialized ncn epoch slot (VaultRegistry.vaultCount r.vaultList) bump r.vaultList r.stMintList =
      .ok e.weightTable ∧
    e.epochState = EpochState.updateReallocWeightTable (VaultRegistry.vaultCount r.vaultList)
      (VaultRegistry.stMintCount r.stMintList) st

/-- What the weight table and the epoch state say about the weights. An entry is set when a weight was written to
it. -/
structure Epoch.WeightsAgree (e : Epoch) : Prop where
  isSet_iff : ∀ entry ∈ e.weightTable.table.toList, entry.isSet = true ↔ entry ≠ .new entry.stMintEntry
  finalized_iff : e.weightTable.finalized = true ↔
    ∀ entry ∈ e.weightTable.table.toList, entry.isEmpty = false → entry.isSet = true
  unknown_fails : ∀ mint ∉ e.weightTable.getMints, ∀ weight slot,
    FailsWith (WeightTable.setWeight mint weight slot) e.weightTable (invalidMintForWeightTable : ProgramError) ↔
      e.weightTable.NoEmptySlotHas mint
  complete_iff : e.epochState.setWeightProgress.isComplete = true ↔ e.weightTable.finalized = true

namespace WeightTable
variable {w w' : WeightTable} {u : Unit}

/-- Only entries with a mint have a weight, and the others are as they were filled. -/
structure MintsWeighed (w : WeightTable) : Prop where
  vaults : w.vaultRegistryInitialized = true
  mints : w.tableInitialized = true
  set : ∀ entry ∈ w.table.toList, entry.isSet = true → entry.isEmpty = false
  unset : ∀ entry ∈ w.table.toList, entry.isSet = false → entry = .new entry.stMintEntry

namespace MintsWeighed

/-- A table that has just been filled has no weight. -/
lemma initialized {ncn : Pubkey} {epoch slot vaultCount : ℕ} {bump : UInt8}
    {vaults : Table VaultEntry maxVaults} {mints : Table StMintEntry maxStMints}
    (h : WeightTable.initialized ncn epoch slot vaultCount bump vaults mints = .ok w) : MintsWeighed w := by
  obtain ⟨rfl, _, hvaults, hmints⟩ := initialized_eq_ok h
  constructor
  case vaults => exact hvaults
  case mints => exact hmints
  case set =>
    intro entry hentry hset
    obtain ⟨mint, _, rfl⟩ := List.mem_map.1 hentry
    cases hset
  case unset =>
    intro entry hentry _
    obtain ⟨mint, _, rfl⟩ := List.mem_map.1 hentry
    rfl

/-- Setting a weight with a key that no empty slot has. -/
lemma setWeight (h : MintsWeighed w) {mint : Pubkey} {weight slot : ℕ} (hslot : 0 < slot)
    (hkey : w.NoEmptySlotHas mint) (hrun : (WeightTable.setWeight mint weight slot).run w = .ok u w') :
    MintsWeighed w' := by
  have hcount := (setWeight_reweighted hrun).mintCount
  obtain ⟨i, entry, hentry, hmint, rfl⟩ := setWeight_run_ok hrun
  have hmem : entry ∈ w.table.toList := List.mem_of_getElem? hentry
  have hfull : entry.isEmpty = false := by
    apply beq_eq_false_iff_ne.2
    intro hdefault
    have hnone := hkey (hmint.symm.trans hdefault) entry hmem
    rw [WeightEntry.isEmpty, StMintEntry.isEmpty, hdefault] at hnone
    cases hnone
  constructor
  case vaults => exact h.vaults
  case mints =>
    rw [tableInitialized, hcount]
    exact h.mints
  case set =>
    intro entry' hentry' hset'
    rcases List.mem_or_eq_of_mem_set hentry' with hold | rfl
    · exact h.set entry' hold hset'
    · exact hfull
  case unset =>
    intro entry' hentry' hset'
    rcases List.mem_or_eq_of_mem_set hentry' with hold | rfl
    · exact h.unset entry' hold hset'
    · rw [WeightEntry.isSet_setWeight_of_pos hslot entry] at hset'
      cases hset'

/-- Setting the weights of mints. -/
lemma setWeights (h : MintsWeighed w) {mints : List StMintEntry} {slot : ℕ} (hslot : 0 < slot)
    (hmints : ∀ mint ∈ mints, mint.isEmpty = false)
    (hrun : (WeightTable.setWeights slot mints).run w = .ok u w') : MintsWeighed w' := by
  refine setWeights_keeps (I := MintsWeighed) (fun mint hmint w w' h hrun => ?_) h hrun
  have hne : mint.stMint ≠ .default := beq_eq_false_iff_ne.1 (hmints mint hmint)
  exact h.setWeight hslot (fun hdefault => absurd hdefault hne) hrun

/-- The table is finalized when every mint has a weight. -/
lemma finalized_iff (h : MintsWeighed w) :
    w.finalized = true ↔ ∀ entry ∈ w.table.toList, entry.isEmpty = false → entry.isSet = true := by
  have himp : ∀ entry ∈ w.table.toList, entry.isSet = true → (!entry.isEmpty) = true := by
    intro entry hentry hset
    rw [h.set entry hentry hset]
    rfl
  rw [finalized, h.vaults, h.mints, Bool.and_self, Bool.true_and, beq_iff_eq, mintCount, weightCount,
    countP_eq_iff_of_imp himp]
  simp only [Bool.not_eq_true']

/-- There are no more weights than mints. -/
lemma weightCount_le_mintCount (h : MintsWeighed w) : w.weightCount ≤ w.mintCount := by
  apply List.countP_mono_left
  intro entry hentry hset
  rw [h.set entry hentry hset]
  rfl

end MintsWeighed

/-- Setting the weight of a key that is not a mint of the table fails unless an empty slot has it. -/
lemma setWeight_fails_iff_noEmptySlotHas {mint : Pubkey} (hmint : mint ∉ w.getMints) (weight slot : ℕ) :
    FailsWith (WeightTable.setWeight mint weight slot) w (invalidMintForWeightTable : ProgramError) ↔
      w.NoEmptySlotHas mint := by
  rw [setWeight_fails_iff]
  constructor
  · rintro hnone rfl entry hentry
    exact beq_eq_false_iff_ne.2 (hnone entry hentry)
  · rintro hkey entry hentry rfl
    cases hempty : entry.isEmpty with
    | true =>
      have hdefault : entry.stMint = .default := beq_iff_eq.1 hempty
      rw [hkey hdefault entry hentry] at hempty
      cases hempty
    | false =>
      apply hmint
      refine List.mem_map_of_mem (List.mem_filter.2 ⟨hentry, ?_⟩)
      rw [hempty]
      rfl

end WeightTable

namespace Epoch
variable {e e' : Epoch}

/-- The weights of the table, and their count in the epoch state. -/
structure WeightsCounted (e : Epoch) : Prop where
  table : e.weightTable.MintsWeighed
  progress : e.epochState.setWeightProgress = ⟨e.weightTable.weightCount, e.weightTable.mintCount⟩

/-- Nothing has been counted when the table has just been filled. -/
lemma FilledFrom.weightsCounted {r : VaultRegistry} (h : e.FilledFrom r) : e.WeightsCounted := by
  obtain ⟨ncn, epoch, slot, bump, st, hw, hst⟩ := h
  refine ⟨.initialized hw, ?_⟩
  obtain ⟨_, _, hzero, hmints⟩ := WeightTable.initialized_ok hw
  rw [hst, hzero, hmints]
  rfl

/-- Setting weights with keys that no empty slot has keeps the count. -/
lemma SetsWeights.weightsCounted (hstep : e.SetsWeights WeightTable.NoEmptySlotHas e') (h : e.WeightsCounted) :
    e'.WeightsCounted := by
  cases hstep with
  | adminSetWeight clock ncnWeightTableAdmin weightTableAdmin stMint weight hslot hkey hrun =>
    obtain ⟨w, hw, rfl⟩ := processAdminSetWeight_run_ok hrun
    exact ⟨h.table.setWeight hslot hkey hw, rfl⟩
  | setEpochWeights clock r hslot hrun =>
    obtain ⟨w, hw, rfl⟩ := updateWeights_run_ok hrun
    refine ⟨h.table.setWeights hslot (fun mint hmint => ?_) hw, rfl⟩
    rw [List.mem_filter, Bool.not_eq_true'] at hmint
    exact hmint.2

/-- What the counts say. -/
lemma WeightsCounted.weightsAgree (h : e.WeightsCounted) : e.WeightsAgree := by
  constructor
  case isSet_iff =>
    intro entry hentry
    constructor
    · rintro hset heq
      rw [heq] at hset
      cases hset
    · intro hne
      by_contra hset
      exact hne (h.table.unset entry hentry (Bool.eq_false_of_not_eq_true hset))
  case finalized_iff => exact h.table.finalized_iff
  case unknown_fails => exact fun mint hmint => WeightTable.setWeight_fails_iff_noEmptySlotHas hmint
  case complete_iff =>
    rw [h.progress, WeightTable.isComplete_iff, WeightTable.finalized, h.table.vaults, h.table.mints,
      Bool.and_self, Bool.true_and, beq_iff_eq]
    exact ⟨fun hge => Nat.le_antisymm hge h.table.weightCount_le_mintCount, fun heq => heq.le⟩

end Epoch

/-- In every run of instructions that set weights, in a table filled from any registry, in which the admin sets no
weight with the default key while the table has an empty slot: the table is finalized exactly when every mint has
a weight, no weight can be set for what is not a mint of the table, except with the default key while there is an
empty slot, and the progress in the epoch state is complete exactly when the table is finalized. -/
theorem finalized_iff_all_weights_set {r : VaultRegistry} {e₀ e : Epoch} (hfilled : e₀.FilledFrom r)
    (hrun : Run (Epoch.SetsWeights WeightTable.NoEmptySlotHas) e₀ e) : e.WeightsAgree := by
  have h : e.WeightsCounted :=
    hrun.invariant hfilled.weightsCounted fun _ _ hstep h => hstep.weightsCounted h
  exact h.weightsAgree

/-- A registry with the given mints, of weight one, and a vault of the mint `21`. -/
def VaultRegistry.small (mints : List Pubkey) : VaultRegistry :=
  commit (do
    mints.forM (registerStMint · 1)
    registerVault 11 21 1 1) (.new 1 0)

/-- The small epoch with a weight table that has just been filled. -/
def Epoch.filled (r : VaultRegistry) : Epoch :=
  { Epoch.small 1 with
    weightTable := ⟨1, 0, 1, VaultRegistry.vaultCount r.vaultList, 0, r.vaultList, r.stMintList.map .new⟩
    epochState := (Epoch.small 1).epochState.updateReallocWeightTable (VaultRegistry.vaultCount r.vaultList)
      (VaultRegistry.stMintCount r.stMintList) }

/-- Two mints, of which the admin sets one: the table is not finalized, and then it is. -/
theorem finalized_iff_all_weights_set_two_mints :
    ∃ e₁ e₂ : Epoch, e₁.weightTable.weightCount = 1 ∧ e₁.weightTable.finalized = false ∧
      e₂.weightTable.finalized = true ∧ e₁.WeightsAgree ∧ e₂.WeightsAgree := by
  let r := VaultRegistry.small [21, 22]
  let set := Epoch.processAdminSetWeight ⟨1, 0⟩ 3 3 22 5
  let setAll := Epoch.processSetEpochWeights ⟨2, 0⟩ r.stMintList
  let e₀ := Epoch.filled r
  let e₁ := commit set e₀
  let e₂ := commit setAll e₁
  have h₁ : set.run e₀ = .ok () e₁ := Succeeds.run_eq (by decide +kernel)
  have h₂ : setAll.run e₁ = .ok () e₂ := Succeeds.run_eq (by decide +kernel)
  have hcount : e₁.weightTable.weightCount = 1 := by decide +kernel
  have hopen : e₁.weightTable.finalized = false := by decide +kernel
  have hfin : e₂.weightTable.finalized = true := by decide +kernel
  have hfilled : e₀.FilledFrom r := ⟨1, 0, 1, 0, (Epoch.small 1).epochState, by decide +kernel, rfl⟩
  clear_value r e₀ e₁ e₂
  have hrun₁ : Run (Epoch.SetsWeights WeightTable.NoEmptySlotHas) e₀ e₁ :=
    .single (.adminSetWeight ⟨1, 0⟩ 3 3 22 5 (by decide) (fun h => absurd h (by decide)) h₁)
  have hrun₂ : Run (Epoch.SetsWeights WeightTable.NoEmptySlotHas) e₀ e₂ :=
    hrun₁.tail (.setEpochWeights ⟨2, 0⟩ r (by decide) h₂)
  exact ⟨e₁, e₂, hcount, hopen, hfin, finalized_iff_all_weights_set hfilled hrun₁,
    finalized_iff_all_weights_set hfilled hrun₂⟩

/-- The admin sets a weight with the default key. A table with one mint is then finalized without a weight for it;
and a table with two mints, whose weights are both set afterwards, never is, though the progress is complete. -/
theorem finalized_without_weights :
    (∃ e₀ e : Epoch, e₀.FilledFrom (.small [21]) ∧ Run (Epoch.SetsWeights fun _ _ => True) e₀ e ∧
      e.weightTable.finalized = true ∧
      ∃ entry ∈ e.weightTable.table.toList, entry.isEmpty = false ∧ entry.isSet = false) ∧
    ∃ e₀ e : Epoch, e₀.FilledFrom (.small [21, 22]) ∧ Run (Epoch.SetsWeights fun _ _ => True) e₀ e ∧
      (∀ entry ∈ e.weightTable.table.toList, entry.isEmpty = false → entry.isSet = true) ∧
      e.epochState.setWeightProgress.isComplete = true ∧ e.weightTable.finalized = false := by
  let set := Epoch.processAdminSetWeight ⟨1, 0⟩ 3 3 .default 5
  let setAll := Epoch.processSetEpochWeights ⟨2, 0⟩ (VaultRegistry.small [21, 22]).stMintList
  let a₀ := Epoch.filled (.small [21])
  let b₀ := Epoch.filled (.small [21, 22])
  have a₁ : set.run a₀ = .ok () (commit set a₀) := Succeeds.run_eq (by decide +kernel)
  have b₁ : set.run b₀ = .ok () (commit set b₀) := Succeeds.run_eq (by decide +kernel)
  have b₂ : setAll.run (commit set b₀) = .ok () (commit setAll (commit set b₀)) :=
    Succeeds.run_eq (by decide +kernel)
  refine ⟨⟨a₀, commit set a₀, ⟨1, 0, 1, 0, (Epoch.small 1).epochState, by decide +kernel, rfl⟩, ?_, ?_, ?_⟩,
    b₀, commit setAll (commit set b₀), ⟨1, 0, 1, 0, (Epoch.small 1).epochState, by decide +kernel, rfl⟩, ?_, ?_,
    ?_, ?_⟩
  · exact .single (.adminSetWeight ⟨1, 0⟩ 3 3 .default 5 (by decide) trivial a₁)
  · decide +kernel
  · decide +kernel
  · exact (Relation.ReflTransGen.single (.adminSetWeight ⟨1, 0⟩ 3 3 .default 5 (by decide) trivial b₁)).tail
      (.setEpochWeights ⟨2, 0⟩ (.small [21, 22]) (by decide) b₂)
  · decide +kernel
  · decide +kernel
  · decide +kernel

end NcnProgram
