import NcnProgram.Program.Epoch

/-!
# Setting the weights

Port of `program/src/admin_set_weight.rs` and `program/src/set_epoch_weights.rs`. The second takes the
weights of all mints from the NCN's vault registry, of which only the list of mints is read.
-/

namespace NcnProgram
open Lib NCNProgramError

namespace WeightTable

/-- `WeightTable::check_table_initialized`. -/
def checkTableInitialized (self : WeightTable) : Except ProgramError Unit :=
  if self.tableInitialized then return () else throw (tableNotInitialized : ProgramError)

/-- The loop of `process_set_epoch_weights` over the valid mint entries of the registry. -/
def setWeights (currentSlot : ℕ) : List StMintEntry → Mut WeightTable Unit
  | [] => return ()
  | mintEntry :: rest => do
    ensure (mintEntry.weight ≠ 0) (weightNotSet : ProgramError)
    setWeight mintEntry.stMint mintEntry.weight currentSlot
    setWeights currentSlot rest

lemma weightCount_le (w : WeightTable) : w.weightCount ≤ maxStMints :=
  List.countP_le_length.trans w.table.length_eq.le

lemma mintCount_le (w : WeightTable) : w.mintCount ≤ maxStMints :=
  List.countP_le_length.trans w.table.length_eq.le

/-- The progress of a table is complete when it has a weight for each of its mints. -/
lemma isComplete_iff (w : WeightTable) :
    Progress.isComplete ⟨w.weightCount, w.mintCount⟩ = true ↔ w.mintCount ≤ w.weightCount := by
  have hmax : maxStMints < Progress.invalid := by decide
  have hvalid : Progress.isInvalid ⟨w.weightCount, w.mintCount⟩ = false :=
    Bool.or_eq_false_iff.2 ⟨beq_eq_false_iff_ne.2 (w.weightCount_le.trans_lt hmax).ne,
      beq_eq_false_iff_ne.2 (w.mintCount_le.trans_lt hmax).ne⟩
  rw [Progress.isComplete_iff, hvalid]
  exact and_iff_right rfl

variable {w w' : WeightTable} {u : Unit}

/-- What setting the weight of each of the mints keeps, the loop over them keeps. -/
lemma setWeights_keeps {I : WeightTable → Prop} {slot : ℕ} {mints : List StMintEntry}
    (hstep : ∀ mint ∈ mints, ∀ w w', I w → (setWeight mint.stMint mint.weight slot).run w = .ok () w' → I w')
    (hw : I w) (h : (setWeights slot mints).run w = .ok u w') : I w' := by
  induction mints generalizing w with
  | nil => cases h; exact hw
  | cons mint mints ih =>
    obtain ⟨_, _, hg, h⟩ := run_bind_ok.1 h
    obtain ⟨_, rfl⟩ := run_ensure_ok.1 hg
    obtain ⟨_, w₁, h₁, h⟩ := run_bind_ok.1 h
    exact ih (fun m hm => hstep m (List.mem_cons_of_mem _ hm)) (hstep mint List.mem_cons_self w w₁ hw h₁) h

/-- Some weights of the table have been set. -/
structure Reweighted (w w' : WeightTable) : Prop where
  vaultCount : w'.vaultCount = w.vaultCount
  mintCount : w'.mintCount = w.mintCount
  weightCount : w.weightCount ≤ w'.weightCount

lemma Reweighted.refl (w : WeightTable) : Reweighted w w := ⟨rfl, rfl, Nat.le_refl _⟩

lemma Reweighted.trans {w₁ w₂ w₃ : WeightTable} (h : Reweighted w₁ w₂) (h' : Reweighted w₂ w₃) :
    Reweighted w₁ w₃ :=
  ⟨h'.vaultCount.trans h.vaultCount, h'.mintCount.trans h.mintCount, h.weightCount.trans h'.weightCount⟩

/-- Setting the weight of a mint keeps the mints, and the weights that were set before stay set. -/
lemma setWeight_reweighted {mint : Pubkey} {weight slot : ℕ}
    (h : (setWeight mint weight slot).run w = .ok u w') : Reweighted w w' := by
  obtain ⟨i, entry, hentry, _, rfl⟩ := setWeight_run_ok h
  obtain ⟨hlt, rfl⟩ := List.getElem?_eq_some_iff.1 hentry
  refine ⟨rfl, ?_, ?_⟩
  · have hle := List.boole_getElem_le_countP (p := (!·.isEmpty)) hlt
    simp only [mintCount, Table.toList_set, List.countP_set hlt]
    exact Nat.sub_add_cancel hle
  · have hle := List.boole_getElem_le_countP (p := (·.isSet)) hlt
    simp only [weightCount, Table.toList_set, List.countP_set hlt]
    split
    · rename_i hs
      rw [if_pos (WeightEntry.isSet_setWeight hs)]
      omega
    · omega

/-- So does the loop over all mints. -/
lemma setWeights_reweighted {slot : ℕ} {mints : List StMintEntry}
    (h : (setWeights slot mints).run w = .ok u w') : Reweighted w w' :=
  setWeights_keeps (I := Reweighted w) (fun _ _ _ _ hw h => hw.trans (setWeight_reweighted h)) (.refl w) h

end WeightTable

namespace Epoch

/-- Runs a method of the weight table. -/
def onWeightTable {α : Type} (x : Mut WeightTable α) : Mut Epoch α :=
  zoom (·.weightTable) (fun w e => { e with weightTable := w }) x

/-- What the two instructions share: weights are set in a table that is not final yet, and counted. -/
def updateWeights (setWeights : Mut WeightTable Unit) : Mut Epoch Unit := do
  let self ← get
  ofExcept self.weightTable.checkTableInitialized
  ensure (self.weightTable.finalized = false) ProgramError.invalidAccountData
  onWeightTable setWeights
  let weightTable := (← get).weightTable
  onEpochState (modify (EpochState.updateSetWeight weightTable.weightCount weightTable.mintCount))

/-- `process_admin_set_weight`. `ncnWeightTableAdmin` is the admin that the NCN names, `weightTableAdmin` the
signer. -/
def processAdminSetWeight (clock : Clock) (ncnWeightTableAdmin weightTableAdmin stMint : Pubkey)
    (weight : ℕ) : Mut Epoch Unit := do
  ensure (ncnWeightTableAdmin = weightTableAdmin) (incorrectWeightTableAdmin : ProgramError)
  updateWeights (WeightTable.setWeight stMint weight clock.slot)

/-- `process_set_epoch_weights`. -/
def processSetEpochWeights (clock : Clock) (stMintList : Table StMintEntry maxStMints) : Mut Epoch Unit :=
  updateWeights (WeightTable.setWeights clock.slot (stMintList.toList.filter (!·.isEmpty)))

variable {clock : Clock} {e e' : Epoch} {u : Unit}

/-- Setting weights changes the table and its progress in the epoch state. -/
lemma updateWeights_run_ok {setWeights : Mut WeightTable Unit}
    (h : (updateWeights setWeights).run e = .ok u e') :
    ∃ w, setWeights.run e.weightTable = .ok () w ∧ e' = { e with
      weightTable := w, epochState := e.epochState.updateSetWeight w.weightCount w.mintCount } := by
  obtain ⟨_, _, hg, h⟩ := run_bind_ok.1 h
  cases hg
  obtain ⟨_, _, hg, h⟩ := run_bind_ok.1 h
  obtain ⟨_, rfl⟩ := run_ofExcept_ok.1 hg
  obtain ⟨_, _, hg, h⟩ := run_bind_ok.1 h
  obtain ⟨_, rfl⟩ := run_ensure_ok.1 hg
  obtain ⟨_, _, hg, h⟩ := run_bind_ok.1 h
  obtain ⟨w, hw, rfl⟩ := run_zoom_ok.1 hg
  obtain ⟨_, _, hg, h⟩ := run_bind_ok.1 h
  cases hg
  cases h
  exact ⟨w, hw, rfl⟩

/-- So does the admin's instruction. -/
lemma processAdminSetWeight_run_ok {ncnAdmin admin stMint : Pubkey} {weight : ℕ}
    (h : (processAdminSetWeight clock ncnAdmin admin stMint weight).run e = .ok u e') :
    ∃ w, (WeightTable.setWeight stMint weight clock.slot).run e.weightTable = .ok () w ∧ e' = { e with
      weightTable := w, epochState := e.epochState.updateSetWeight w.weightCount w.mintCount } := by
  obtain ⟨_, _, hg, h⟩ := run_bind_ok.1 h
  obtain ⟨_, rfl⟩ := run_ensure_ok.1 hg
  exact updateWeights_run_ok h

end Epoch
end NcnProgram
