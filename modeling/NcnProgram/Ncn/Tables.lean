import NcnProgram.Ncn.Isolation
import NcnProgram.Registry.EpochWeights

/-!
# The weight tables of an NCN

The weight table of an epoch is filled from the registry when it has grown to its size, and the registry goes on
changing, as do the tables of later epochs. Registering appends, in both lists, and setting weights keeps the mints, so
the table of every epoch lists what the registry listed at some time: its vaults and its mints are prefixes of the
registry's (`VaultRegistry.CopiedTo`).
-/

namespace NcnProgram
open Lib NCNProgramError

/-- The mints of a table are its keys but those of the empty slots. -/
lemma WeightTable.getMints_eq (w : WeightTable) : w.getMints = w.keys.filter (fun key => !(key == .default)) := by
  rw [keys, List.filter_map]
  rfl

namespace VaultRegistry

/-- The vaults of the registry. -/
def vaults (r : VaultRegistry) : List Pubkey := (r.vaultList.toList.filter (!·.isEmpty)).map (·.vault)

/-- The mints of the registry. -/
def mints (r : VaultRegistry) : List Pubkey := (r.stMintList.toList.filter (!·.isEmpty)).map (·.stMint)

variable {r r' : VaultRegistry} {ms : List StMintEntry} {vs : List VaultEntry}

/-- The vaults of a registry are those it holds. -/
lemma Holds.vaults_eq (h : Holds r ms vs) : r.vaults = vs.map (·.vault) := by
  have hlist : r.vaultList.toList = vs ++ List.replicate (maxVaults - vs.length) .default := h.vaults
  have hfilter : r.vaultList.toList.filter (!·.isEmpty) = vs := by
    rw [hlist, List.filter_append, List.filter_eq_self.2, List.filter_eq_nil_iff.2, List.append_nil]
    · intro v hv
      rw [List.eq_of_mem_replicate hv]
      decide
    · intro v hv
      rw [h.vault_full v hv]
      rfl
  rw [VaultRegistry.vaults, hfilter]

/-- So are its mints. -/
lemma Holds.mints_eq (h : Holds r ms vs) : r.mints = ms.map (·.stMint) := by
  rw [VaultRegistry.mints, h.toListsMints.filter_eq]

/-- Equal lists come first in each other. -/
lemma prefix_of_eq {l l' : List Pubkey} (h : l = l') : l <+: l' := h ▸ List.prefix_rfl

/-- The registry has got more vaults and mints, after those it had. -/
structure Extends (r r' : VaultRegistry) : Prop where
  vaults : r.vaults <+: r'.vaults
  mints : r.mints <+: r'.mints

/-- Nothing new is an extension. -/
lemma Extends.refl (r : VaultRegistry) : Extends r r := ⟨List.prefix_rfl, List.prefix_rfl⟩

/-- A vault that may be registered, with its mint: their keys are those of accounts, and the slot is not the mark of
a free one. -/
structure Registrable (clock : Clock) (vault supportedMint : Pubkey) : Prop where
  vault : vault ≠ .default
  supportedMint : supportedMint ≠ .default
  slot : clock.slot < u64Max

/-- Registering a mint. -/
lemma Holds.extends_registerStMint (h : Holds r ms vs) {stMint : Pubkey} {weight : ℕ}
    (hrun : (VaultRegistry.registerStMint stMint weight).run r = .ok () r') : r'.WellFormed ∧ Extends r r' := by
  have h' := h.registerStMint hrun
  refine ⟨⟨_, _, h'⟩, ?_, ?_⟩
  · exact prefix_of_eq (h.vaults_eq.trans h'.vaults_eq.symm)
  · rw [h.mints_eq, h'.mints_eq, List.map_append]
    exact List.prefix_append _ _

/-- Setting the weight of a mint. -/
lemma Holds.extends_setStMint (h : Holds r ms vs) {stMint : Pubkey} {weight : Option ℕ}
    (hrun : (VaultRegistry.setStMint stMint weight).run r = .ok () r') : r'.WellFormed ∧ Extends r r' := by
  obtain ⟨ms', hms', hsame⟩ := h.toListsMints.setStMint hrun
  have h' : Holds r' ms' vs :=
    h.of_mints hms' (leaves_setStMint stMint weight hrun) (by rw [hsame]; exact List.Subset.refl _)
  refine ⟨⟨_, _, h'⟩, ?_, ?_⟩
  · exact prefix_of_eq (h.vaults_eq.trans h'.vaults_eq.symm)
  · exact prefix_of_eq (h.mints_eq.trans (hsame.symm.trans h'.mints_eq.symm))

/-- Registering a vault. -/
lemma Holds.extends_registerVault (h : Holds r ms vs) {clock : Clock} {vault supportedMint : Pubkey}
    {vaultIndex : ℕ} (hvault : Registrable clock vault supportedMint)
    (hrun : (processRegisterVault clock vault supportedMint vaultIndex).run r = .ok () r') :
    r'.WellFormed ∧ Extends r r' := by
  obtain ⟨hhas, hrun⟩ := processRegisterVault_run_ok hrun
  have hlisted := (h.toListsMints.hasStMint_iff hvault.supportedMint).1 hhas
  rcases h.registerVault hvault.vault hvault.supportedMint hlisted hvault.slot hrun with rfl | h'
  · exact ⟨⟨_, _, h⟩, .refl _⟩
  · refine ⟨⟨_, _, h'⟩, ?_, ?_⟩
    · rw [h.vaults_eq, h'.vaults_eq, List.map_append]
      exact List.prefix_append _ _
    · exact prefix_of_eq (h.mints_eq.trans h'.mints_eq.symm)

/-- The table was filled from the registry as it is or was, and has a mint for each vault. -/
structure CopiedTo (r : VaultRegistry) (w : WeightTable) : Prop where
  vaults : w.vaults <+: r.vaults
  mints : w.getMints <+: r.mints
  listed : ∀ v ∈ w.vaultRegistry.toList, v.isEmpty = false → v.stMint ∈ w.getMints
  vaultCount : w.vaultCount = w.vaults.length
  pos : 0 < w.vaultCount

namespace CopiedTo
variable {w w' : WeightTable}

/-- Filling a table. -/
lemma initialized (h : r.WellFormed) {ncn : Pubkey} {epoch slot : ℕ} {bump : UInt8}
    (hw : WeightTable.initialized ncn epoch slot (VaultRegistry.vaultCount r.vaultList) bump r.vaultList
      r.stMintList = .ok w) :
    CopiedTo r w := by
  obtain ⟨ms, vs, h⟩ := h
  obtain ⟨rfl, hpos, _, _⟩ := WeightTable.initialized_eq_ok hw
  have hmints : WeightTable.getMints ⟨ncn, epoch, slot, VaultRegistry.vaultCount r.vaultList, bump, r.vaultList,
      r.stMintList.map .new⟩ = r.mints := by
    simp only [WeightTable.getMints, VaultRegistry.mints, Table.map, List.filter_map, List.map_map]
    rfl
  constructor
  case vaults => exact List.prefix_rfl
  case mints => exact prefix_of_eq hmints
  case listed =>
    intro v hv hfull
    rw [hmints, h.mints_eq]
    exact h.stMint_listed v (h.mem_vaults hv hfull)
  case vaultCount => rw [WeightTable.vaults, List.length_map, ← List.countP_eq_length_filter]; rfl
  case pos => exact hpos

/-- The registry goes on. -/
lemma mono (h : CopiedTo r w) (hr : Extends r r') : CopiedTo r' w :=
  { h with
    vaults := h.vaults.trans hr.vaults
    mints := h.mints.trans hr.mints }

/-- Setting a weight. -/
lemma setWeight (h : CopiedTo r w) {mint : Pubkey} {weight slot : ℕ}
    (hrun : (WeightTable.setWeight mint weight slot).run w = .ok () w') : CopiedTo r w' := by
  have hmints : w'.getMints = w.getMints := by
    rw [WeightTable.getMints_eq, WeightTable.getMints_eq, (WeightTable.setWeight_sameMints hrun).keys]
  obtain ⟨i, entry, _, _, rfl⟩ := WeightTable.setWeight_run_ok hrun
  exact { h with
    mints := hmints ▸ h.mints
    listed := hmints ▸ h.listed }

/-- The table knows the weight of the mint of each of its vaults. -/
lemma getWeight (h : CopiedTo r w) {v : VaultEntry} (hv : v ∈ w.vaultRegistry.toList) (hfull : v.isEmpty = false) :
    ∃ weight, w.getWeight v.stMint = .ok weight := by
  obtain ⟨entry, hentry, hmint⟩ := List.mem_map.1 (WeightTable.mem_getMints.1 (h.listed v hv hfull)).1
  have hfound : (w.table.find? (fun e => e.stMint == v.stMint)).isSome = true :=
    List.find?_isSome.2 ⟨entry, hentry, beq_iff_eq.2 hmint⟩
  obtain ⟨found, hfound⟩ := Option.isSome_iff_exists.1 hfound
  refine ⟨found.weight, ?_⟩
  rw [WeightTable.getWeight, hfound]
  rfl

end CopiedTo
end VaultRegistry

namespace Ncn
open VaultRegistry (CopiedTo Extends Registrable)
variable {cl : Cluster} {account : NcnAccount} {c : Call} {s s' : Ncn} {epoch : ℕ}

/-- A vault that is registered may be registered. -/
def Instruction.Admitted : Instruction → Prop
  | .registerVault clock vault supportedMint _ => Registrable clock vault supportedMint
  | _ => True

/-- The registry is well formed, and every weight table was filled from it as it is or was. -/
structure Copied (s : Ncn) : Prop where
  wellFormed : s.registrySlot = .initialized → s.vaultRegistry.WellFormed
  copied : ∀ epoch, (s.view epoch).single .weightTable = .initialized →
    s.registrySlot = .initialized ∧ CopiedTo s.vaultRegistry (s.view epoch).accounts.weightTable

namespace Copied

/-- The registry goes on, and the epochs stay as they are. -/
lemma register (h : Copied s) {r : VaultRegistry} (hslot : s.registrySlot = .initialized)
    (hr : ∀ {ms vs}, s.vaultRegistry.Holds ms vs → r.WellFormed ∧ Extends s.vaultRegistry r) :
    Copied { s with vaultRegistry := r } := by
  obtain ⟨ms, vs, hholds⟩ := h.wellFormed hslot
  obtain ⟨hr, hextends⟩ := hr hholds
  exact ⟨fun _ => hr, fun epoch hfilled => ⟨hslot, (h.copied epoch hfilled).2.mono hextends⟩⟩

/-- Before the registry has its data no weight table has. -/
lemma fill (h : Copied s) (hslot : s.registrySlot ≠ .initialized) {slot : Slot} {r : VaultRegistry}
    (hr : slot = .initialized → r.WellFormed) : Copied { s with registrySlot := slot, vaultRegistry := r } :=
  ⟨hr, fun epoch hfilled => absurd (h.copied epoch hfilled).1 hslot⟩

/-- The instructions on the registry. -/
lemma registers (h : Copied s) (hadmitted : c.instruction.Admitted) (hregisters : Registers c s s') :
    Copied s' := by
  cases hregisters with
  | allocate hslot hs' => subst hs'; exact h.fill (by rw [hslot]; decide) fun h => (by cases h)
  | grow dataLen newSize hslot hs' => subst hs'; exact h.fill (by rw [hslot]; simp) fun h => (by cases h)
  | fill dataLen bump hslot hs' =>
    subst hs'
    exact h.fill (by rw [hslot]; simp) fun _ => ⟨[], [], .new s.ncn bump⟩
  | idle _ hs' => subst hs'; exact h
  | registerVault clock vault supportedMint vaultIndex r hc hslot hrun hs' =>
    subst hs'
    rw [hc] at hadmitted
    exact h.register hslot fun hholds => hholds.extends_registerVault hadmitted hrun
  | registerStMint admin stMint weight r _ _ hslot hrun hs' =>
    subst hs'
    exact h.register hslot fun hholds => hholds.extends_registerStMint hrun
  | setStMint admin stMint weight r _ _ hslot hrun hs' =>
    subst hs'
    exact h.register hslot fun hholds => hholds.extends_setStMint hrun

/-- The weight table of an epoch after an instruction on it. -/
lemma onEpoch {i : Lifecycle.Instruction} {l : Lifecycle} (h : Copied s)
    (hregistry : loadsVaultRegistry i = true → s.registrySlot = .initialized)
    (hrun : (Lifecycle.exec cl (s.reading account i)).run (s.view epoch) = .ok () l)
    (hfilled : l.single .weightTable = .initialized) :
    s.registrySlot = .initialized ∧ CopiedTo s.vaultRegistry l.accounts.weightTable := by
  cases hconfig : (s.reading account i).setsConfig with
  | true =>
    obtain ⟨_, rfl, _⟩ := Lifecycle.exec_setsConfig hrun hconfig
    exact h.copied epoch hfilled
  | false =>
    cases hweights : (s.reading account i).setsWeights with
    | false =>
      have hf := Lifecycle.exec_framed hrun hconfig hweights
      rw [hf.weightTable]
      exact h.copied epoch (hf.filled hfilled)
    | true =>
      cases i with
      | reallocWeightTable clock bump =>
        obtain hf | ⟨_, _, hw⟩ := Lifecycle.exec_reallocWeightTable hrun
        · rw [hf.weightTable]
          exact h.copied epoch (hf.filled hfilled)
        · exact ⟨hregistry rfl, .initialized (h.wellFormed (hregistry rfl)) hw⟩
      | adminSetWeight clock _ admin stMint weight =>
        obtain ⟨_, _, _, hsingle, hw⟩ := Lifecycle.exec_adminSetWeight hrun
        obtain ⟨hslot, hc⟩ := h.copied epoch (hsingle ▸ hfilled)
        exact ⟨hslot, hc.setWeight hw⟩
      | setEpochWeights clock =>
        obtain ⟨_, _, hsingle, hw⟩ := Lifecycle.updateWeights_ok hrun
        obtain ⟨hslot, hc⟩ := h.copied epoch (hsingle ▸ hfilled)
        exact ⟨hslot, WeightTable.setWeights_keeps (fun _ _ _ _ hc hw => hc.setWeight hw) hc hw⟩
      | _ => cases hweights

/-- An instruction on an epoch copies the registry or leaves the table. -/
lemma processOnEpoch {i : Lifecycle.Instruction} (h : Copied s)
    (hrun : (processOnEpoch cl account epoch i).run s = .ok () s') : Copied s' := by
  obtain ⟨_, hregistry, l, hl, rfl⟩ := processOnEpoch_ok.1 hrun
  refine ⟨h.wellFormed, fun e hfilled => ?_⟩
  by_cases he : e = epoch
  · subst he
    simp only [view, put, Function.update_self] at hfilled ⊢
    exact h.onEpoch hregistry hl hfilled
  · simp only [view, put, Function.update_of_ne he] at hfilled ⊢
    exact h.copied e hfilled

/-- Emptying a state leaves the tables. -/
lemma emptyEpochState {victim : ℕ} (h : Copied s) (hrun : (emptyEpochState victim).run s = .ok () s') :
    Copied s' := by
  have hsame := accounts_emptyEpochState hrun
  obtain ⟨_, rfl⟩ := emptyEpochState_ok.1 hrun
  refine ⟨h.wellFormed, fun e hfilled => ?_⟩
  rw [(hsame e).2] at hfilled
  rw [(hsame e).1]
  exact h.copied e hfilled

/-- Every call keeps this. -/
lemma exec (h : Copied s) (hadmitted : c.instruction.Admitted) (hrun : (exec cl c).run s = .ok () s') :
    Copied s' :=
  exec_keeps hrun h (fun hr => h.registers hadmitted hr) (fun _ _ _ => ⟨h.wellFormed, h.copied⟩)
    (fun _ _ _ _ h hrun => h.processOnEpoch hrun) fun h hrun => h.emptyEpochState hrun

/-- Nothing of a new NCN is filled. -/
lemma of_untouched (h : s.Untouched) : Copied s where
  wellFormed hslot := by cases hslot.symm.trans h.registrySlot
  copied epoch hfilled := by cases hfilled.symm.trans ((h.epochs epoch).single .weightTable)

end Copied

/-- However the calls interleave, the registry, once it is there with its data, is well formed; and where an epoch has
filled its weight table the registry is there, and the table lists vaults and mints that the registry listed first:
distinct ones, at least one vault, and for each vault the weight of its mint. So of the vaults of two tables, those of
one come first in the other. -/
theorem weight_tables_copied {s₀ : Ncn} (h₀ : s₀.Untouched) {calls : List Call}
    (hadmitted : ∀ c ∈ calls, c.instruction.Admitted) (hrun : (calls.forM (exec cl)).run s₀ = .ok () s) :
    (s.registrySlot = .initialized → s.vaultRegistry.WellFormed) ∧
      ∀ epoch, (s.view epoch).single .weightTable = .initialized → s.registrySlot = .initialized ∧
        (let w := (s.view epoch).accounts.weightTable
        w.vaults <+: s.vaultRegistry.vaults ∧ w.vaults.Nodup ∧ w.getMints <+: s.vaultRegistry.mints ∧
          w.getMints.Nodup ∧ w.vaultCount = w.vaults.length ∧ 0 < w.vaultCount ∧
          (∀ v ∈ w.vaultRegistry.toList, v.isEmpty = false → ∃ weight, w.getWeight v.stMint = .ok weight) ∧
          ∀ e, (s.view e).single .weightTable = .initialized →
            w.vaults <+: (s.view e).accounts.weightTable.vaults ∨
              (s.view e).accounts.weightTable.vaults <+: w.vaults) := by
  have h : Copied s := by
    refine forM_invariant (J := fun cs s => (∀ c ∈ cs, c.instruction.Admitted) → Copied s)
      (fun cs c s s' ih hc hall => ?_) (fun _ => .of_untouched h₀) hrun hadmitted
    exact (ih fun c hc => hall c (by simp [hc])).exec (hall c (by simp)) hc
  refine ⟨h.wellFormed, fun epoch hfilled => ?_⟩
  obtain ⟨hslot, hc⟩ := h.copied epoch hfilled
  obtain ⟨ms, vs, hholds⟩ := h.wellFormed hslot
  have hvaults := (hholds.vaults_eq ▸ hc.vaults).sublist.nodup hholds.vaults_nodup
  have hmints := (hholds.mints_eq ▸ hc.mints).sublist.nodup hholds.mints_nodup
  exact ⟨hslot, hc.vaults, hvaults, hc.mints, hmints, hc.vaultCount, hc.pos,
    fun v hv hfull => hc.getWeight hv hfull,
    fun e he => List.prefix_or_prefix_of_prefix hc.vaults (h.copied e he).2.vaults⟩

/-- The small NCN: its epoch 1 has the vault that was registered first. -/
theorem weight_tables_copied_small :
    ∃ s : Ncn, s.vaultRegistry.vaults = [11, 12] ∧ (s.view 1).accounts.weightTable.vaults = [11] ∧
      s.vaultRegistry.WellFormed ∧ (s.view 1).accounts.weightTable.vaults.Nodup := by
  let x := (smallSetup ++ smallEpochs).forM (exec Lifecycle.smallCluster)
  let s := commit x small
  have hx : x.run small = .ok () s := Succeeds.run_eq (by decide +kernel)
  have hstate : s.vaultRegistry.vaults = [11, 12] ∧ (s.view 1).accounts.weightTable.vaults = [11] ∧
      (s.view 1).single .weightTable = .initialized := by decide +kernel
  have hadmitted : ∀ c ∈ smallSetup ++ smallEpochs, c.instruction.Admitted := by
    simp only [smallSetup, smallEpochs, smallCalls, List.map_cons, List.map_nil, List.forall_mem_append,
      List.forall_mem_cons, Instruction.Admitted, true_and]
    exact ⟨⟨⟨by decide, by decide, by decide⟩, by simp⟩, ⟨by decide, by decide, by decide⟩, by simp⟩
  clear_value s
  obtain ⟨hvaults, hcopied, hfilled⟩ := hstate
  obtain ⟨hwell, htables⟩ := weight_tables_copied small_untouched hadmitted hx
  obtain ⟨hslot, _, hnodup, _⟩ := htables 1 hfilled
  exact ⟨s, hvaults, hcopied, hwell hslot, hnodup⟩

end Ncn
end NcnProgram
