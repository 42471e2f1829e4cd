import NcnProgram.Registry.WellFormed
import NcnProgram.Snapshot.Weights

/-!
# Weights from a registry that has changed

A weight table is a copy of the registry as it was, and the instruction that sets all of its weights loops over the
registry as it is. A registry never loses a mint, so there is a weight for every mint of the table. It can get new
ones, though, which the table does not have, and then the loop fails. What the loop does to the table is said by
`WeightTable.Weighed`, and what it leaves alone by the keys of the slots and by the empty slots with a weight.
-/

namespace NcnProgram
open Lib NCNProgramError

/-- One successful call of a method that changes a registry. -/
inductive VaultRegistry.Changes : VaultRegistry → VaultRegistry → Prop
  | registerStMint {r r'} (stMint : Pubkey) (weight : ℕ) :
      (registerStMint stMint weight).run r = .ok () r' → Changes r r'
  | setStMint {r r'} (stMint : Pubkey) (weight : Option ℕ) :
      (setStMint stMint weight).run r = .ok () r' → Changes r r'
  | registerVault {r r'} (vault stMint : Pubkey) (vaultIndex slot : ℕ) :
      (registerVault vault stMint vaultIndex slot).run r = .ok () r' → Changes r r'

/-- One successful instruction that sets weights, at any slot and with any keys. -/
inductive Epoch.WritesWeights : Epoch → Epoch → Prop
  | adminSetWeight {e e'} (clock : Clock) (ncnWeightTableAdmin weightTableAdmin stMint : Pubkey) (weight : ℕ) :
      (processAdminSetWeight clock ncnWeightTableAdmin weightTableAdmin stMint weight).run e = .ok () e' →
      WritesWeights e e'
  | setEpochWeights {e e'} (clock : Clock) (stMintList : Table StMintEntry maxStMints) :
      (processSetEpochWeights clock stMintList).run e = .ok () e' → WritesWeights e e'

/-- The weights are set from the registry, which finalizes the table and gives each of its mints the weight that the
registry has for it. -/
def Epoch.TakesWeights (clock : Clock) (r : VaultRegistry) (e : Epoch) : Prop :=
  ∃ e', (processSetEpochWeights clock r.stMintList).run e = .ok () e' ∧ e'.weightTable.finalized = true ∧
    ∀ mint ∈ e.weightTable.getMints, ∃ entry, r.getMintEntry mint = .ok entry ∧
      e'.weightTable.getWeight mint = .ok entry.weight

namespace VaultRegistry
variable {r r' : VaultRegistry} {ms : List StMintEntry}

/-- A registry does not lose a mint. -/
lemma Changes.listsMints (hstep : Changes r r') (h : ListsMints r ms) :
    ∃ ms', ListsMints r' ms' ∧ ms.map (·.stMint) ⊆ ms'.map (·.stMint) := by
  cases hstep with
  | registerStMint stMint weight hrun =>
    refine ⟨_, h.registerStMint hrun, ?_⟩
    rw [List.map_append]
    exact List.subset_append_left _ _
  | setStMint stMint weight hrun =>
    obtain ⟨ms', h', hsame⟩ := h.setStMint hrun
    exact ⟨ms', h', by rw [hsame]; exact List.Subset.refl _⟩
  | registerVault vault stMint vaultIndex slot hrun =>
    refine ⟨ms, ?_, List.Subset.refl _⟩
    obtain ⟨_, rfl⟩ | ⟨_, _, _, rfl⟩ := registerVault_run_ok hrun
    · exact h
    · exact h.of_stMintList rfl

/-- Nor does it in any number of calls. -/
lemma listsMints_of_changes (hrun : Run Changes r r') (h : ListsMints r ms) :
    ∃ ms', ListsMints r' ms' ∧ ms.map (·.stMint) ⊆ ms'.map (·.stMint) :=
  hrun.invariant (I := fun r' => ∃ ms', ListsMints r' ms' ∧ ms.map (·.stMint) ⊆ ms'.map (·.stMint))
    ⟨ms, h, List.Subset.refl _⟩ fun _ _ hstep ⟨_, h₁, hsub⟩ =>
      have ⟨ms', h', hsub'⟩ := hstep.listsMints h₁
      ⟨ms', h', List.Subset.trans hsub hsub'⟩

namespace ListsMints

/-- The entries that the loop goes over are the mints. -/
lemma filter_eq (h : ListsMints r ms) : r.stMintList.toList.filter (!·.isEmpty) = ms := by
  obtain ⟨free, hlist, hempty⟩ := h.mints
  rw [hlist, List.filter_append, List.filter_eq_self.2, List.filter_eq_nil_iff.2, List.append_nil]
  · intro entry hentry
    rw [hempty entry hentry]
    decide
  · intro entry hentry
    rw [h.mint_full entry hentry]
    rfl

/-- A mint is not the default key. -/
lemma stMint_ne (h : ListsMints r ms) {mint : Pubkey} (hmint : mint ∈ ms.map (·.stMint)) : mint ≠ .default := by
  obtain ⟨entry, hentry, rfl⟩ := List.mem_map.1 hmint
  exact beq_eq_false_iff_ne.1 (h.mint_full entry hentry)

/-- The registry has an entry for each of its mints. -/
lemma getMintEntry (h : ListsMints r ms) {mint : Pubkey} (hmint : mint ∈ ms.map (·.stMint)) :
    ∃ entry ∈ ms, entry.stMint = mint ∧ r.getMintEntry mint = .ok entry := by
  obtain ⟨m, hm, hkey⟩ := List.mem_map.1 hmint
  obtain ⟨free, hlist, _⟩ := h.mints
  have hsome : (ms.find? (·.stMint == mint)).isSome = true :=
    List.find?_isSome.2 ⟨m, hm, beq_iff_eq.2 hkey⟩
  obtain ⟨entry, hentry⟩ := Option.isSome_iff_exists.1 hsome
  have hsame : entry.stMint = mint := by simpa using List.find?_some hentry
  refine ⟨entry, List.mem_of_find?_eq_some hentry, hsame, ?_⟩
  rw [VaultRegistry.getMintEntry, Table.find?, hlist, List.find?_append, hentry, Option.some_or]
  rfl

end ListsMints
end VaultRegistry

namespace WeightTable
variable {w w' : WeightTable} {u : Unit} {slot : ℕ}

/-- The keys of the slots. -/
def keys (w : WeightTable) : List Pubkey := w.table.toList.map (·.stMint)

/-- No mint has two slots. -/
def DistinctMints (w : WeightTable) : Prop :=
  ∀ (i j : ℕ) (key : Pubkey), key ≠ .default → w.keys[i]? = some key → w.keys[j]? = some key → i = j

/-- The empty slots with a weight. -/
def strayCount (w : WeightTable) : ℕ := w.table.toList.countP fun entry => entry.isEmpty && entry.isSet

/-- The table has the weight of the mint. -/
def Weighed (w : WeightTable) (mint : StMintEntry) : Prop :=
  ∃ entry ∈ w.table.toList, entry.stMint = mint.stMint ∧ entry.weight = mint.weight ∧ entry.isSet = true

lemma mem_getMints {mint : Pubkey} : mint ∈ w.getMints ↔ mint ∈ w.keys ∧ mint ≠ .default := by
  simp only [getMints, keys, List.mem_map, List.mem_filter, Bool.not_eq_true', WeightEntry.isEmpty,
    StMintEntry.isEmpty, beq_eq_false_iff_ne]
  constructor
  · rintro ⟨entry, ⟨hentry, hne⟩, rfl⟩
    exact ⟨⟨entry, hentry, rfl⟩, hne⟩
  · rintro ⟨⟨entry, hentry, rfl⟩, hne⟩
    exact ⟨entry, ⟨hentry, hne⟩, rfl⟩

lemma mintCount_eq (w : WeightTable) : w.mintCount = w.keys.countP (fun key => !(key == .default)) := by
  rw [mintCount, keys, List.countP_map]
  rfl

/-- The keys of the table, and whether it has its vaults. -/
structure SameMints (w w' : WeightTable) : Prop where
  keys : w'.keys = w.keys
  vaults : w'.vaultRegistryInitialized = w.vaultRegistryInitialized

/-- Setting a weight keeps the keys. -/
lemma setWeight_sameMints {mint : Pubkey} {weight : ℕ} (h : (setWeight mint weight slot).run w = .ok u w') :
    SameMints w w' := by
  obtain ⟨i, entry, hentry, _, rfl⟩ := setWeight_run_ok h
  exact ⟨map_set_of_eq hentry rfl, rfl⟩

lemma SameMints.trans {w₁ w₂ w₃ : WeightTable} (h : SameMints w₁ w₂) (h' : SameMints w₂ w₃) : SameMints w₁ w₃ :=
  ⟨h'.keys.trans h.keys, h'.vaults.trans h.vaults⟩

/-- So does the loop. -/
lemma setWeights_sameMints {mints : List StMintEntry} (h : (setWeights slot mints).run w = .ok u w') :
    SameMints w w' :=
  setWeights_keeps (I := SameMints w) (fun _ _ _ _ hw h => hw.trans (setWeight_sameMints h)) ⟨rfl, rfl⟩ h

lemma SameMints.mintCount (h : SameMints w w') : w'.mintCount = w.mintCount := by
  rw [mintCount_eq, mintCount_eq, h.keys]

lemma SameMints.tableInitialized (h : SameMints w w') : w'.tableInitialized = w.tableInitialized := by
  rw [WeightTable.tableInitialized, WeightTable.tableInitialized, h.mintCount]

lemma SameMints.mem_getMints (h : SameMints w w') {mint : Pubkey} : mint ∈ w'.getMints ↔ mint ∈ w.getMints := by
  rw [WeightTable.mem_getMints, WeightTable.mem_getMints, h.keys]

lemma SameMints.distinctMints (h : SameMints w w') (hw : w.DistinctMints) : w'.DistinctMints := by
  rw [DistinctMints, h.keys]
  exact hw

/-- The weight of a key in the table can be set. -/
lemma setWeight_succeeds {mint : Pubkey} (h : mint ∈ w.keys) (weight slot : ℕ) :
    ∃ w', (setWeight mint weight slot).run w = .ok () w' := by
  obtain ⟨entry, hentry, hmint⟩ := List.mem_map.1 h
  cases hi : w.table.findIdx? (fun entry => entry.stMint == mint) with
  | none => exact absurd (beq_iff_eq.2 hmint) (Bool.eq_false_iff.1 (List.findIdx?_eq_none_iff.1 hi entry hentry))
  | some i =>
    simp only [setWeight, EStateM.run_bind, EStateM.run_get, hi]
    exact ⟨_, rfl⟩

/-- The loop succeeds if the table has the mints, and they have a weight. -/
lemma setWeights_succeeds {mints : List StMintEntry} (h : ∀ mint ∈ mints, mint.weight ≠ 0 ∧ mint.stMint ∈ w.keys) :
    ∃ w', (setWeights slot mints).run w = .ok () w' := by
  induction mints generalizing w with
  | nil => exact ⟨w, rfl⟩
  | cons mint mints ih =>
    obtain ⟨hweight, hkey⟩ := h mint List.mem_cons_self
    obtain ⟨w₁, h₁⟩ := setWeight_succeeds hkey mint.weight slot
    have hrest : ∀ m ∈ mints, m.weight ≠ 0 ∧ m.stMint ∈ w₁.keys := by
      rw [(setWeight_sameMints h₁).keys]
      exact fun m hm => h m (List.mem_cons_of_mem _ hm)
    obtain ⟨w', h'⟩ := ih hrest
    exact ⟨w', run_bind_ok.2 ⟨(), w, run_ensure_ok.2 ⟨hweight, rfl⟩, run_bind_ok.2 ⟨(), w₁, h₁, h'⟩⟩⟩

/-- It succeeds only if the table has the mints. -/
lemma mem_keys_of_setWeights {mints : List StMintEntry} (h : (setWeights slot mints).run w = .ok u w') :
    ∀ mint ∈ mints, mint.stMint ∈ w.keys := by
  induction mints generalizing w with
  | nil => simp
  | cons mint mints ih =>
    obtain ⟨_, _, hg, h⟩ := run_bind_ok.1 h
    obtain ⟨_, rfl⟩ := run_ensure_ok.1 hg
    obtain ⟨_, w₁, h₁, h⟩ := run_bind_ok.1 h
    intro m hm
    rcases List.mem_cons.1 hm with rfl | hm
    · obtain ⟨i, entry, hentry, hkey, _⟩ := setWeight_run_ok h₁
      exact List.mem_map.2 ⟨entry, List.mem_of_getElem? hentry, hkey⟩
    · rw [← (setWeight_sameMints h₁).keys]
      exact ih h m hm

/-- A mint whose weight is set has it. -/
lemma setWeight_weighed {mint : StMintEntry} (hslot : 0 < slot)
    (h : (setWeight mint.stMint mint.weight slot).run w = .ok u w') : w'.Weighed mint := by
  obtain ⟨i, entry, hentry, hkey, rfl⟩ := setWeight_run_ok h
  obtain ⟨hlt, _⟩ := List.getElem?_eq_some_iff.1 hentry
  exact ⟨entry.setWeight mint.weight slot, List.mem_set hlt _, hkey, rfl, entry.isSet_setWeight_of_pos hslot⟩

/-- Setting the weight of another mint does not change it. -/
lemma Weighed.setWeight_ne {mint : StMintEntry} (hmint : w.Weighed mint) {key : Pubkey} {weight : ℕ}
    (hne : key ≠ mint.stMint) (h : (setWeight key weight slot).run w = .ok u w') : w'.Weighed mint := by
  obtain ⟨i, entry, hentry, hkey, rfl⟩ := setWeight_run_ok h
  obtain ⟨m, hm, hsame, hweight, hset⟩ := hmint
  obtain ⟨j, hj⟩ := List.getElem?_of_mem hm
  have hij : i ≠ j := by
    rintro rfl
    obtain rfl : entry = m := Option.some.inj (hentry.symm.trans hj)
    exact hne (hkey.symm.trans hsame)
  refine ⟨m, List.mem_of_getElem? (i := j) ?_, hsame, hweight, hset⟩
  rw [Table.toList_set, List.getElem?_set_ne hij, hj]

/-- After the loop, each of its mints has its weight. -/
lemma setWeights_weighed {mints : List StMintEntry} (hslot : 0 < slot) (hnodup : (mints.map (·.stMint)).Nodup)
    (h : (setWeights slot mints).run w = .ok u w') : ∀ mint ∈ mints, w'.Weighed mint := by
  induction mints generalizing w with
  | nil => simp
  | cons mint mints ih =>
    rw [List.map_cons, List.nodup_cons] at hnodup
    obtain ⟨_, _, hg, h⟩ := run_bind_ok.1 h
    obtain ⟨_, rfl⟩ := run_ensure_ok.1 hg
    obtain ⟨_, w₁, h₁, hrest⟩ := run_bind_ok.1 h
    intro m hm
    rcases List.mem_cons.1 hm with rfl | hm
    · -- the other mints are other keys
      refine setWeights_keeps (I := (Weighed · m)) (fun m' hm' v v' hv hrun => hv.setWeight_ne ?_ hrun)
        (setWeight_weighed hslot h₁) hrest
      intro hsame
      exact hnodup.1 (hsame ▸ List.mem_map_of_mem hm')
    · exact ih hnodup.2 hrest m hm

/-- A mint has one slot, so the weight that the table has is the one it returns, and its slot is set. -/
lemma Weighed.getWeight {mint : StMintEntry} (h : w.Weighed mint) (hdistinct : w.DistinctMints)
    (hne : mint.stMint ≠ .default) : w.getWeight mint.stMint = .ok mint.weight ∧
      ∀ entry ∈ w.table.toList, entry.stMint = mint.stMint → entry.isSet = true := by
  obtain ⟨entry, hentry, hkey, hweight, hset⟩ := h
  have hsame : ∀ entry' ∈ w.table.toList, entry'.stMint = mint.stMint → entry' = entry := by
    intro entry' hentry' hkey'
    obtain ⟨i, hi⟩ := List.getElem?_of_mem hentry
    obtain ⟨j, hj⟩ := List.getElem?_of_mem hentry'
    have hij : i = j := by
      apply hdistinct i j mint.stMint hne
      · rw [keys, List.getElem?_map, hi, Option.map_some, hkey]
      · rw [keys, List.getElem?_map, hj, Option.map_some, hkey']
    subst hij
    exact Option.some.inj (hj.symm.trans hi)
  constructor
  · have hsome : (w.table.find? (fun entry => entry.stMint == mint.stMint)).isSome = true :=
      List.find?_isSome.2 ⟨entry, hentry, beq_iff_eq.2 hkey⟩
    obtain ⟨found, hfound⟩ := Option.isSome_iff_exists.1 hsome
    have hkey' : found.stMint = mint.stMint := by simpa using List.find?_some hfound
    rw [WeightTable.getWeight, hfound, hsame found (List.mem_of_find?_eq_some hfound) hkey', ← hweight]
    rfl
  · intro entry' hentry' hkey'
    rw [hsame entry' hentry' hkey']
    exact hset

/-- Setting the weights of mints does not touch the empty slots. -/
lemma setWeights_strayCount {mints : List StMintEntry} (hmints : ∀ mint ∈ mints, mint.isEmpty = false)
    (h : (setWeights slot mints).run w = .ok u w') : w'.strayCount = w.strayCount := by
  refine setWeights_keeps (I := fun v => v.strayCount = w.strayCount) (fun mint hmint v v' hv hrun => ?_) rfl h
  obtain ⟨i, entry, hentry, hkey, rfl⟩ := setWeight_run_ok hrun
  obtain ⟨hlt, rfl⟩ := List.getElem?_eq_some_iff.1 hentry
  have hfull : (v.table.toList[i]).isEmpty = false := by
    rw [WeightEntry.isEmpty, StMintEntry.isEmpty, show (v.table.toList[i]).stMintEntry.stMint = _ from hkey]
    exact hmints mint hmint
  have hfull' : ((v.table.toList[i]).setWeight mint.weight slot).isEmpty = false := hfull
  rw [← hv]
  simp only [strayCount, Table.toList_set, List.countP_set hlt, hfull, hfull', Bool.false_and, Bool.false_eq_true,
    if_false, Nat.sub_zero, Nat.add_zero]

/-- At slot zero no weight counts as set. -/
lemma setWeights_weightCount_zero {mints : List StMintEntry} (h : (setWeights 0 mints).run w = .ok u w') :
    w'.weightCount = w.weightCount := by
  refine setWeights_keeps (I := fun v => v.weightCount = w.weightCount) (fun mint hmint v v' hv hrun => ?_) rfl h
  obtain ⟨i, entry, hentry, _, rfl⟩ := setWeight_run_ok hrun
  obtain ⟨hlt, rfl⟩ := List.getElem?_eq_some_iff.1 hentry
  have hsame : ((v.table.toList[i]).setWeight mint.weight 0).isSet = (v.table.toList[i]).isSet := by
    rw [WeightEntry.isSet, WeightEntry.setWeight]
    split
    · rw [WeightEntry.isSet, show (v.table.toList[i]).slotSet = 0 by assumption]
    · rfl
  have hle := List.boole_getElem_le_countP (p := (·.isSet)) hlt
  rw [← hv]
  simp only [weightCount, Table.toList_set, List.countP_set hlt, hsame]
  exact Nat.sub_add_cancel hle

/-- When every mint has a weight, the table is finalized unless an empty slot has one as well. -/
lemma finalized_iff_strayCount (hvaults : w.vaultRegistryInitialized = true) (hmints : w.tableInitialized = true)
    (hset : ∀ entry ∈ w.table.toList, entry.isEmpty = false → entry.isSet = true) :
    w.finalized = true ↔ w.strayCount = 0 := by
  have hsplit : w.weightCount = w.strayCount + w.mintCount := by
    rw [weightCount, List.countP_eq_countP_filter_add _ _ (·.isEmpty), List.countP_filter, List.countP_filter,
      strayCount, mintCount]
    congr 1
    · exact List.countP_congr fun entry _ => by rw [Bool.and_comm]
    · refine List.countP_congr fun entry hentry => ?_
      rw [Bool.and_eq_true, Bool.not_eq_true']
      exact ⟨And.right, fun hfull => ⟨hset entry hentry hfull, hfull⟩⟩
  rw [finalized, hvaults, hmints, Bool.and_self, Bool.true_and, beq_iff_eq, hsplit]
  omega

end WeightTable

namespace Epoch
variable {e e' : Epoch}

/-- Weights can be set in a table that is filled and not finalized. -/
lemma updateWeights_run_of {setWeights : Mut WeightTable Unit} {w : WeightTable}
    (hinit : e.weightTable.tableInitialized = true) (hopen : e.weightTable.finalized = false)
    (hrun : setWeights.run e.weightTable = .ok () w) :
    (updateWeights setWeights).run e = .ok () { e with
      weightTable := w, epochState := e.epochState.updateSetWeight w.weightCount w.mintCount } := by
  have hcheck : e.weightTable.checkTableInitialized = .ok () := by
    rw [WeightTable.checkTableInitialized, if_pos hinit]
    rfl
  have hset : (onWeightTable setWeights).run e = .ok () { e with weightTable := w } :=
    run_zoom_ok.2 ⟨w, hrun, rfl⟩
  exact run_bind_ok.2 ⟨e, e, rfl, run_bind_ok.2 ⟨(), e, run_ofExcept_ok.2 ⟨hcheck, rfl⟩, run_bind_ok.2
    ⟨(), e, run_ensure_ok.2 ⟨hopen, rfl⟩, run_bind_ok.2 ⟨(), _, hset, rfl⟩⟩⟩⟩

/-- Setting weights keeps the mints of the table. -/
lemma WritesWeights.sameMints (hstep : e.WritesWeights e') : e.weightTable.SameMints e'.weightTable := by
  cases hstep with
  | adminSetWeight clock ncnWeightTableAdmin weightTableAdmin stMint weight hrun =>
    obtain ⟨w, hw, rfl⟩ := processAdminSetWeight_run_ok hrun
    exact WeightTable.setWeight_sameMints hw
  | setEpochWeights clock stMintList hrun =>
    obtain ⟨w, hw, rfl⟩ := updateWeights_run_ok hrun
    exact WeightTable.setWeights_sameMints hw

/-- The table has its vaults, and the mints `ms` in distinct slots. -/
structure HasMints (e : Epoch) (ms : List Pubkey) : Prop where
  vaults : e.weightTable.vaultRegistryInitialized = true
  mints : e.weightTable.tableInitialized = true
  distinct : e.weightTable.DistinctMints
  mem_iff : ∀ mint, mint ∈ e.weightTable.getMints ↔ mint ∈ ms

/-- A table that has just been filled has the mints of the registry. -/
lemma FilledFrom.hasMints {r : VaultRegistry} {ms : List StMintEntry} (h : e.FilledFrom r)
    (hr : r.ListsMints ms) : e.HasMints (ms.map (·.stMint)) := by
  obtain ⟨ncn, epoch, slot, bump, st, hw, _⟩ := h
  obtain ⟨hw, _, hvaults, hmints⟩ := WeightTable.initialized_eq_ok hw
  obtain ⟨free, hlist, hempty⟩ := hr.mints
  have hkeys : e.weightTable.keys = ms.map (·.stMint) ++ free.map (·.stMint) := by
    rw [WeightTable.keys, hw, ← List.map_append, ← hlist]
    exact List.map_map
  have hfree : ∀ mint ∈ free.map (·.stMint), mint = .default := by
    intro mint hmint
    obtain ⟨entry, hentry, rfl⟩ := List.mem_map.1 hmint
    exact beq_iff_eq.1 (hempty entry hentry)
  have htaken : ∀ {i : ℕ} {mint : Pubkey}, mint ≠ .default → e.weightTable.keys[i]? = some mint →
      i < (ms.map (·.stMint)).length ∧ (ms.map (·.stMint))[i]? = some mint := by
    intro i mint hne hi
    rw [hkeys] at hi
    rcases Nat.lt_or_ge i (ms.map (·.stMint)).length with hlt | hge
    · exact ⟨hlt, List.getElem?_append_left hlt ▸ hi⟩
    · rw [List.getElem?_append_right hge] at hi
      exact absurd (hfree mint (List.mem_of_getElem? hi)) hne
  constructor
  case vaults => exact hvaults
  case mints => exact hmints
  case distinct =>
    intro i j mint hne hi hj
    obtain ⟨hlt, hi⟩ := htaken hne hi
    obtain ⟨_, hj⟩ := htaken hne hj
    exact (List.getElem?_inj hlt hr.mints_nodup).1 (hi.trans hj.symm)
  case mem_iff =>
    intro mint
    rw [WeightTable.mem_getMints, hkeys, List.mem_append]
    constructor
    · rintro ⟨hmint | hmint, hne⟩
      · exact hmint
      · exact absurd (hfree mint hmint) hne
    · exact fun hmint => ⟨.inl hmint, hr.stMint_ne hmint⟩

/-- Setting weights keeps them. -/
lemma WritesWeights.hasMints {ms : List Pubkey} (hstep : e.WritesWeights e') (h : e.HasMints ms) :
    e'.HasMints ms := by
  have hsame := hstep.sameMints
  constructor
  case vaults => rw [hsame.vaults, h.vaults]
  case mints => rw [hsame.tableInitialized, h.mints]
  case distinct => exact hsame.distinctMints h.distinct
  case mem_iff => exact fun mint => hsame.mem_getMints.trans (h.mem_iff mint)

section
variable {clock : Clock} {r : VaultRegistry} {ms₀ : List Pubkey} {ms : List StMintEntry}

/-- What the instruction does, after slot zero, when the registry has all mints of the table: each of them gets the
weight of the registry, and the table is finalized unless an empty slot had a weight. -/
lemma HasMints.setEpochWeights (h : e.HasMints ms₀) (hr : r.ListsMints ms) (hsub : ms₀ ⊆ ms.map (·.stMint))
    (hslot : 0 < clock.slot) (hrun : (processSetEpochWeights clock r.stMintList).run e = .ok () e') :
    (e'.weightTable.finalized = true ↔ e.weightTable.strayCount = 0) ∧
      ∀ mint ∈ ms₀, ∃ entry, r.getMintEntry mint = .ok entry ∧
        e'.weightTable.getWeight mint = .ok entry.weight := by
  obtain ⟨w, hw, rfl⟩ := updateWeights_run_ok hrun
  rw [hr.filter_eq] at hw
  have hsame := WeightTable.setWeights_sameMints hw
  have hdistinct := hsame.distinctMints h.distinct
  have hweighed := WeightTable.setWeights_weighed hslot hr.mints_nodup hw
  constructor
  · rw [← WeightTable.setWeights_strayCount hr.mint_full hw]
    apply WeightTable.finalized_iff_strayCount
    · rw [hsame.vaults, h.vaults]
    · rw [hsame.tableInitialized, h.mints]
    · intro entry hentry hfull
      have hne : entry.stMint ≠ .default := beq_eq_false_iff_ne.1 hfull
      have hmem : entry.stMint ∈ ms₀ := by
        rw [← h.mem_iff, ← hsame.mem_getMints, WeightTable.mem_getMints]
        exact ⟨List.mem_map_of_mem hentry, hne⟩
      obtain ⟨mint, hmint, hkey⟩ := List.mem_map.1 (hsub hmem)
      have hmint_ne : mint.stMint ≠ .default := fun hdefault => hne (hkey.symm.trans hdefault)
      exact ((hweighed mint hmint).getWeight hdistinct hmint_ne).2 entry hentry hkey.symm
  · intro mint hmint
    obtain ⟨entry, hentry, rfl, hget⟩ := hr.getMintEntry (hsub hmint)
    have hne := hr.stMint_ne (hsub hmint)
    exact ⟨entry, hget, ((hweighed entry hentry).getWeight hdistinct hne).1⟩

/-- The instruction finalizes the table, with the weights of the registry, after slot zero, when the table has all
mints of the registry and no empty slot of it has a weight. -/
lemma HasMints.takesWeights (h : e.HasMints ms₀) (hopen : e.weightTable.finalized = false)
    (hr : r.ListsMints ms) (hsub : ms₀ ⊆ ms.map (·.stMint)) :
    e.TakesWeights clock r ↔ 0 < clock.slot ∧ (∀ mint ∈ ms, mint.stMint ∈ e.weightTable.getMints) ∧
      e.weightTable.strayCount = 0 := by
  constructor
  · rintro ⟨e', hrun, hfin, _⟩
    have hslot : 0 < clock.slot := by
      by_contra hzero
      obtain ⟨w, hw, rfl⟩ := updateWeights_run_ok hrun
      rw [Nat.eq_zero_of_not_pos hzero] at hw
      have hsame := WeightTable.setWeights_sameMints hw
      have hcount := WeightTable.setWeights_weightCount_zero hw
      rw [WeightTable.finalized, hsame.vaults, hsame.tableInitialized, hsame.mintCount, hcount] at hfin
      exact Bool.false_ne_true (hopen.symm.trans hfin)
    refine ⟨hslot, ?_, (h.setEpochWeights hr hsub hslot hrun).1.1 hfin⟩
    intro mint hmint
    obtain ⟨w, hw, _⟩ := updateWeights_run_ok hrun
    rw [hr.filter_eq] at hw
    exact WeightTable.mem_getMints.2 ⟨WeightTable.mem_keys_of_setWeights hw mint hmint,
      hr.stMint_ne (List.mem_map_of_mem hmint)⟩
  · rintro ⟨hslot, hlisted, hstray⟩
    have hloop : ∀ mint ∈ ms, mint.weight ≠ 0 ∧ mint.stMint ∈ e.weightTable.keys :=
      fun mint hmint => ⟨hr.weight_ne mint hmint, (WeightTable.mem_getMints.1 (hlisted mint hmint)).1⟩
    obtain ⟨w, hw⟩ : ∃ w, (WeightTable.setWeights clock.slot ms).run e.weightTable = .ok () w :=
      WeightTable.setWeights_succeeds hloop
    rw [← hr.filter_eq] at hw
    have hrun := updateWeights_run_of h.mints hopen hw
    obtain ⟨hfin, hweights⟩ := h.setEpochWeights hr hsub hslot hrun
    exact ⟨_, hrun, hfin.2 hstray, fun mint hmint => hweights mint ((h.mem_iff mint).1 hmint)⟩

end
end Epoch

/-- A weight table is filled from a registry, weights are set in it, and the registry is changed. Setting the
weights from the registry then finalizes the table, with the weight of the registry for each of its mints, exactly
when the registry has no mint that the table does not have, and no weight was set for an empty slot of the table. -/
theorem takesWeights_iff {r₀ r₁ : VaultRegistry} {e₀ e : Epoch} (hr₀ : r₀.WellFormed)
    (hfilled : e₀.FilledFrom r₀) (hweights : Run Epoch.WritesWeights e₀ e)
    (hopen : e.weightTable.finalized = false) (hchanges : Run VaultRegistry.Changes r₀ r₁) (clock : Clock) :
    e.TakesWeights clock r₁ ↔ 0 < clock.slot ∧
      (∀ mint ∈ r₁.stMintList.toList, mint.isEmpty = false → mint.stMint ∈ e.weightTable.getMints) ∧
      ∀ entry ∈ e.weightTable.table.toList, entry.isEmpty = true → entry.isSet = false := by
  obtain ⟨ms₀, vs, hr₀⟩ := hr₀
  obtain ⟨ms, hr, hsub⟩ := VaultRegistry.listsMints_of_changes hchanges hr₀.toListsMints
  have h : e.HasMints (ms₀.map (·.stMint)) :=
    hweights.invariant (hfilled.hasMints hr₀.toListsMints) fun _ _ hstep h => hstep.hasMints h
  rw [h.takesWeights hopen hr hsub, ← hr.filter_eq, WeightTable.strayCount, List.countP_eq_zero]
  simp only [List.mem_filter, Bool.not_eq_true', and_imp, Bool.and_eq_true, not_and, Bool.not_eq_true]

/-- The small registries are well formed if they have the mint of their vault. -/
lemma VaultRegistry.small_wellFormed {mints : List Pubkey} (hmint : 21 ∈ mints) : (small mints).WellFormed := by
  rw [small]
  rcases commit_cases (do mints.forM (registerStMint · 1); registerVault 11 21 1 1) (.new 1 0) with
    hsame | ⟨u, hrun⟩
  · rw [hsame]
    exact ⟨[], [], .new 1 0⟩
  · obtain ⟨_, r, hmints, hvault⟩ := run_bind_ok.1 hrun
    have h : Holds r (mints.map (⟨·, 1⟩)) [] := by
      refine forM_invariant (J := fun ms r => Holds r (ms.map (⟨·, 1⟩)) []) ?_ (.new 1 0) hmints
      intro ms mint r r' h hrun
      rw [List.map_append]
      exact h.registerStMint hrun
    have hlisted : 21 ∈ (mints.map (⟨·, 1⟩)).map StMintEntry.stMint := by
      rw [List.map_map]
      exact List.mem_map.2 ⟨21, hmint, rfl⟩
    rcases h.registerVault (by decide) (by decide) hlisted (by decide) hvault with hsame | h
    · rw [hsame]
      exact ⟨_, [], h⟩
    · exact ⟨_, _, h⟩

/-- A table of two mints, of which the admin has set one. The weight of the other one is changed in the registry,
and a vault is registered: the weights can be set. -/
theorem takesWeights_iff_two_mints :
    ∃ (r₁ : VaultRegistry) (e : Epoch), e.weightTable.weightCount = 1 ∧ r₁.getMintEntry 21 = .ok ⟨21, 7⟩ ∧
      e.TakesWeights ⟨2, 0⟩ r₁ := by
  let r₀ := VaultRegistry.small [21, 22]
  let change := VaultRegistry.setStMint 21 (some 7)
  let add := VaultRegistry.registerVault 12 22 2 1
  let r₁ := commit add (commit change r₀)
  let set := Epoch.processAdminSetWeight ⟨1, 0⟩ 3 3 22 5
  let e₀ := Epoch.filled r₀
  let e := commit set e₀
  have hchange : change.run r₀ = .ok () (commit change r₀) := Succeeds.run_eq (by decide +kernel)
  have hadd : add.run (commit change r₀) = .ok () r₁ := Succeeds.run_eq (by decide +kernel)
  have hset : set.run e₀ = .ok () e := Succeeds.run_eq (by decide +kernel)
  have hcount : e.weightTable.weightCount = 1 := by decide +kernel
  have hopen : e.weightTable.finalized = false := by decide +kernel
  have hentry : r₁.getMintEntry 21 = .ok ⟨21, 7⟩ := by decide +kernel
  have hlisted : ∀ mint ∈ r₁.stMintList.toList, mint.isEmpty = false → mint.stMint ∈ e.weightTable.getMints := by
    decide +kernel
  have hstray : ∀ entry ∈ e.weightTable.table.toList, entry.isEmpty = true → entry.isSet = false := by
    decide +kernel
  have hfilled : e₀.FilledFrom r₀ := ⟨1, 0, 1, 0, (Epoch.small 1).epochState, by decide +kernel, rfl⟩
  have hweights : Run Epoch.WritesWeights e₀ e := .single (.adminSetWeight ⟨1, 0⟩ 3 3 22 5 hset)
  have hchanges : Run VaultRegistry.Changes r₀ r₁ :=
    (Relation.ReflTransGen.single (.setStMint 21 (some 7) hchange)).tail (.registerVault 12 22 2 1 hadd)
  refine ⟨r₁, e, hcount, hentry, ?_⟩
  exact (takesWeights_iff (VaultRegistry.small_wellFormed (by decide)) hfilled hweights hopen hchanges ⟨2, 0⟩).2
    ⟨by decide, hlisted, hstray⟩

/-- A mint is registered after the table was filled: setting the weights fails at the new mint. -/
theorem new_mint_blocks_weights :
    ∃ (r₀ r₁ : VaultRegistry) (e : Epoch), r₀.WellFormed ∧ e.FilledFrom r₀ ∧ e.weightTable.finalized = false ∧
      Run VaultRegistry.Changes r₀ r₁ ∧
      FailsWith (Epoch.processSetEpochWeights ⟨2, 0⟩ r₁.stMintList) e (invalidMintForWeightTable : ProgramError) ∧
      ¬e.TakesWeights ⟨2, 0⟩ r₁ := by
  let r₀ := VaultRegistry.small [21]
  let add := VaultRegistry.registerStMint 22 1
  have hadd : add.run r₀ = .ok () (commit add r₀) := Succeeds.run_eq (by decide +kernel)
  have hfails : FailsWith (Epoch.processSetEpochWeights ⟨2, 0⟩ (commit add r₀).stMintList) (Epoch.filled r₀)
      (invalidMintForWeightTable : ProgramError) := by decide +kernel
  refine ⟨r₀, commit add r₀, Epoch.filled r₀, VaultRegistry.small_wellFormed (by decide),
    ⟨1, 0, 1, 0, (Epoch.small 1).epochState, by decide +kernel, rfl⟩, by decide +kernel,
    .single (.registerStMint 22 1 hadd), hfails, ?_⟩
  rintro ⟨e', hrun, _⟩
  obtain ⟨_, herror⟩ := hfails
  rw [hrun] at herror
  cases herror

end NcnProgram
