import NcnProgram.Snapshot.Finalizable
import NcnProgram.Snapshot.Panics

/-!
# Which operators the arrays have room for

`process_initialize_epoch_snapshot` takes the number of operators from the NCN, and an operator is admitted when its
index is below that number. Nothing compares the number with the size of the arrays of the epoch state, so both
agree only for up to 256 operators: with more, taking the snapshot of an operator beyond them panics, and the
snapshot of the epoch waits for it for good.
-/

namespace NcnProgram
open Lib NCNProgramError

namespace Lifecycle
variable {p : VaultProgram} {cl : Cluster} {d : DelegationBook p} {w : WeightTable} {n : ℕ} {s s' : Lifecycle}
  {operator : Pubkey}

/-- One successful instruction that takes the snapshots of the delegations. -/
inductive Registers (cl : Cluster) (d : DelegationBook p) (s s' : Lifecycle) : Prop
  | create (clock : Clock) (bump : UInt8) (operator : Pubkey) :
      (exec cl (.initializeOperatorSnapshot clock bump operator (d.operatorIndex operator)
        (d.operatorFeeBps operator) (d.isActive operator))).run s = .ok () s' → Registers cl d s s'
  | register (clock : Clock) (operator vault : Pubkey) : vault ∈ p.vaults →
      (exec cl (.snapshotVaultOperatorDelegation clock operator (d.delegation operator vault))).run s = .ok () s' →
      Registers cl d s s'

/-- The snapshot of the epoch has been created, for `n` operators. -/
structure Admits (n : ℕ) (s : Lifecycle) : Prop where
  live : s.epochState = true
  marker : s.epochMarker = false
  closing : s.accounts.epochState.isClosing = false
  epochSnapshot : s.single .epochSnapshot = .initialized
  operatorCount : s.accounts.epochSnapshot.operatorCount = n
  vaultCount_le : s.accounts.epochSnapshot.vaultCount ≤ maxVaults

/-- The delegations to them are being registered. -/
structure Registering (cl : Cluster) (d : DelegationBook p) (w : WeightTable) (n : ℕ) (s : Lifecycle) : Prop where
  live : s.epochState = true
  marker : s.epochMarker = false
  weightTable : s.single .weightTable = .initialized
  epochSnapshot : s.single .epochSnapshot = .initialized
  ongoing : d.Ongoing cl.math w cl.index n s.accounts

/-- The snapshots of all operators are done, and so is that of the epoch. -/
structure SnapshotsTaken (cl : Cluster) (n : ℕ) (s : Lifecycle) : Prop where
  epochSnapshot : s.accounts.epochSnapshot.finalized = true
  operatorSnapshot : ∀ operator, cl.index operator < n →
    ∃ t, s.accounts.operatorSnapshot operator = some t ∧ t.finalized = true

/-- What is left to be done for an operator: creating its snapshot, and registering vaults. -/
def remaining (s : Lifecycle) (operator : Pubkey) : ℕ :=
  match s.accounts.operatorSnapshot operator with
  | none => maxVaults + 1
  | some t => t.vaultOperatorDelegationCount - t.vaultOperatorDelegationsRegistered

/-- Writing one operator's snapshot leaves the others as they are. -/
lemma sum_remaining_lt {operators : List Pubkey} (hmem : operator ∈ operators) {t : OperatorSnapshot}
    (hs' : s'.accounts.operatorSnapshot = (s.accounts.setOperatorSnapshot operator t).operatorSnapshot)
    (hlt : t.vaultOperatorDelegationCount - t.vaultOperatorDelegationsRegistered < s.remaining operator) :
    (operators.map s'.remaining).sum < (operators.map s.remaining).sum := by
  have hself : s'.remaining operator < s.remaining operator := by
    rw [remaining, hs', Epoch.operatorSnapshot_setOperatorSnapshot]
    exact hlt
  refine List.sum_lt_sum _ _ (fun q _ => ?_) ⟨operator, hmem, hself⟩
  by_cases hq : q = operator
  · subst hq
    exact hself.le
  · rw [remaining, hs', Epoch.operatorSnapshot_setOperatorSnapshot_ne hq]
    exact le_rfl

lemma load_run {k : Single} (h : s.single k = .initialized) : (load k).run s = .ok () s :=
  run_bind_ok.2 ⟨s, s, rfl, by rw [h]; rfl⟩

namespace Admits

/-- The accounts are there, so creating an operator's snapshot is what it is on the data. -/
lemma initializeOperatorSnapshot_run (h : Admits n s) (clock : Clock) (bump : UInt8) (op : NcnOperator) :
    (processInitializeOperatorSnapshot clock bump op).run s =
      (onAccounts (Epoch.processInitializeOperatorSnapshot clock bump op)).run s := by
  have hload : loadAndCheckIsClosing.run s = .ok () s :=
    run_bind_ok.2 ⟨s, s, rfl, run_bind_ok.2 ⟨(), s, run_ensure_ok.2 ⟨h.live, rfl⟩,
      run_ensure_ok.2 ⟨h.closing, rfl⟩⟩⟩
  have hdne : checkDne.run s = .ok () s := checkDne_ok.2 ⟨h.marker, rfl⟩
  simp only [processInitializeOperatorSnapshot, EStateM.run_bind, hload, load_run h.epochSnapshot, hdne]

/-- An operator whose index is beyond the arrays cannot get a snapshot. -/
lemma panics (h : Admits n s) (hindex : cl.index operator < n) (hlarge : maxOperators ≤ cl.index operator)
    (hnone : s.accounts.operatorSnapshot operator = none) (clock : Clock) (bump : UInt8) :
    FailsWith (exec cl (.initializeOperatorSnapshot clock bump operator 0 0 true)) s (.panicked .outOfBounds) := by
  have hpanics : FailsWith (Epoch.processInitializeOperatorSnapshot clock bump
      ⟨operator, 0, 0, cl.index operator, true⟩) s.accounts (.panicked .outOfBounds) :=
    Epoch.processInitializeOperatorSnapshot_panics clock bump h.closing hnone (h.operatorCount ▸ hindex) hlarge rfl
      h.vaultCount_le
  obtain ⟨s', hrun⟩ : FailsWith (onAccounts (Epoch.processInitializeOperatorSnapshot clock bump
      ⟨operator, 0, 0, cl.index operator, true⟩)) s (.panicked .outOfBounds) := .zoom hpanics
  exact ⟨s', (h.initializeOperatorSnapshot_run _ _ _).trans hrun⟩

end Admits

namespace Registering

/-- Registering goes on. -/
lemma step (h : Registering cl d w n s) (hw : w.Lists p) (hstep : Registers cl d s s') :
    Registering cl d w n s' := by
  cases hstep with
  | create clock bump operator hrun =>
    obtain ⟨_, _, e, hprocess, rfl⟩ := processInitializeOperatorSnapshot_ok hrun
    exact { h with ongoing := h.ongoing.create cl.index_injective hprocess }
  | register clock operator vault hvault hrun =>
    obtain ⟨_, _, e, hprocess, rfl⟩ := loaded_ok hrun
    exact { h with ongoing := h.ongoing.register cl.index_injective hw hvault hprocess }

lemma admits (h : Registering cl d w n s) : Admits n s :=
  ⟨h.live, h.marker, h.ongoing.closing, h.epochSnapshot, h.ongoing.operatorCount,
    h.ongoing.vaultCount ▸ w.vaults_length_le⟩

/-- The accounts are there, so registering a vault is what it is on the data. -/
lemma snapshotVaultOperatorDelegation_run (h : Registering cl d w n s) (x : Mut Epoch Unit) :
    (loaded [.weightTable, .epochSnapshot] x).run s = (onAccounts x).run s := by
  have hlive : loadEpochState.run s = .ok () s := loadEpochState_ok.2 ⟨h.live, rfl⟩
  have hload : ([.weightTable, .epochSnapshot].forM load).run s = .ok () s :=
    run_bind_ok.2 ⟨(), s, load_run h.weightTable, run_bind_ok.2 ⟨(), s, load_run h.epochSnapshot, rfl⟩⟩
  simp only [loaded, EStateM.run_bind, hlive, hload]

/-- An operator whose snapshot is not done gets nearer to it. -/
lemma exists_step (h : Registering cl d w n s) (hm : cl.math.Documented)
    (hd : d.Registrable cl.math w cl.index n) (hw : w.Lists p) (hn : n ≤ maxOperators)
    (hindex : cl.index operator < n)
    (hopen : ∀ t, s.accounts.operatorSnapshot operator = some t → t.finalized = false) :
    ∃ s', Registers cl d s s' ∧ ∀ operators : List Pubkey, operator ∈ operators →
      (operators.map s'.remaining).sum < (operators.map s.remaining).sum := by
  let clock : Clock := ⟨0, 0⟩
  cases hs : s.accounts.operatorSnapshot operator with
  | none =>
    obtain ⟨_, e, hprocess⟩ := h.ongoing.create_succeeds hd cl.index_injective hn hindex hs clock 0
    have hrun : (exec cl (.initializeOperatorSnapshot clock 0 operator (d.operatorIndex operator)
        (d.operatorFeeBps operator) (d.isActive operator))).run s = .ok () { s with accounts := e } :=
      (h.admits.initializeOperatorSnapshot_run _ _ _).trans (run_zoom_ok.2 ⟨e, hprocess, rfl⟩)
    refine ⟨_, .create clock 0 operator hrun, fun operators hmem => ?_⟩
    obtain ⟨_, _, t, es, st, ht, _, _, rfl⟩ := Epoch.processInitializeOperatorSnapshot_run_ok hprocess
    refine sum_remaining_lt (t := t) hmem rfl ?_
    rw [remaining, hs]
    have hcount := (OperatorSnapshot.Regular.initialized ht).count_le
    show _ < maxVaults + 1
    omega
  | some t =>
    obtain ⟨vault, hvault, _, e, hprocess⟩ := h.ongoing.register_succeeds hm hd cl.index_injective hw hn hindex hs
      (hopen t hs) clock
    have hrun : (exec cl (.snapshotVaultOperatorDelegation clock operator (d.delegation operator vault))).run s =
        .ok () { s with accounts := e } :=
      (h.snapshotVaultOperatorDelegation_run _).trans (run_zoom_ok.2 ⟨e, hprocess, rfl⟩)
    refine ⟨_, .register clock operator vault hvault hrun, fun operators hmem => ?_⟩
    obtain ⟨t₁, t', sw, es, st, ht₁, _, hreg, _, _, rfl⟩ :=
      Epoch.processSnapshotVaultOperatorDelegation_run_ok hprocess
    obtain rfl : t = t₁ := Option.some.inj (hs.symm.trans ht₁)
    refine sum_remaining_lt (t := t') hmem rfl ?_
    obtain ⟨created, counted, hp⟩ := h.ongoing.progressed
    have hle := (hp.regular operator t hs).1.registered_le
    obtain ⟨hopen, _, _, _, _, _, _, _, rfl⟩ :=
      OperatorSnapshot.incrementVaultOperatorDelegationRegistration_run_ok hreg
    rw [OperatorSnapshot.finalized, beq_eq_false_iff_ne] at hopen
    rw [remaining, hs]
    show _ - (t.vaultOperatorDelegationsRegistered + 1) < _
    dsimp only
    omega

/-- The operators with an index below `n`, if each index is that of one. -/
lemma exists_operators (hindex : ∀ i < n, ∃ operator, cl.index operator = i) :
    ∃ operators : List Pubkey, operators.Nodup ∧ (∀ operator, operator ∈ operators ↔ cl.index operator < n) ∧
      operators.length = n := by
  let f : ℕ → Pubkey := Function.invFun cl.index
  have hf : ∀ i < n, cl.index (f i) = i := fun i hi => Function.invFun_eq (hindex i hi)
  refine ⟨(List.range n).map f, ?_, fun operator => ?_, by simp⟩
  · refine List.Nodup.map_on (fun i hi j hj heq => ?_) List.nodup_range
    rw [← hf i (List.mem_range.1 hi), heq, hf j (List.mem_range.1 hj)]
  · rw [List.mem_map]
    constructor
    · rintro ⟨i, hi, rfl⟩
      rw [hf i (List.mem_range.1 hi)]
      exact List.mem_range.1 hi
    · intro hlt
      exact ⟨cl.index operator, List.mem_range.2 hlt, Function.leftInverse_invFun cl.index_injective operator⟩

/-- If the arrays have room for all operators, their snapshots and that of the epoch can be taken. -/
lemma exists_snapshotsTaken (h : Registering cl d w n s) (hm : cl.math.Documented)
    (hd : d.Registrable cl.math w cl.index n) (hw : w.Lists p) (hn : n ≤ maxOperators)
    (hindex : ∀ i < n, ∃ operator, cl.index operator = i) :
    ∃ s', Run (Registers cl d) s s' ∧ s'.SnapshotsTaken cl n := by
  obtain ⟨operators, hnodup, hmem, hlen⟩ := exists_operators hindex
  refine Run.reaches (I := Registering cl d w n) (fun s => (operators.map s.remaining).sum) (fun s h => ?_) h
  by_cases hall : ∀ operator, cl.index operator < n →
      ∃ t, s.accounts.operatorSnapshot operator = some t ∧ t.finalized = true
  · -- all operators are counted
    refine .inl ⟨s, .refl, ?_, hall⟩
    obtain ⟨created, counted, hp⟩ := h.ongoing.progressed
    have hsub : operators ⊆ counted := by
      intro operator hoperator
      obtain ⟨t, ht, hfin⟩ := hall operator ((hmem operator).1 hoperator)
      exact hp.counts operator t ht hfin
    have hle := (List.subperm_of_subset hnodup hsub).length_le
    have hregistered : s.accounts.epochSnapshot.operatorsRegistered ≤ s.accounts.epochSnapshot.operatorCount :=
      hp.kept.registered_le
    rw [hlen, ← hp.aggregated.registered] at hle
    rw [h.ongoing.operatorCount] at hregistered
    rw [EpochSnapshot.finalized, beq_iff_eq, h.ongoing.operatorCount]
    omega
  · push Not at hall
    obtain ⟨operator, hoperator, hopen⟩ := hall
    obtain ⟨s', hstep, hlt⟩ := h.exists_step hm hd hw hn hoperator fun t ht => Bool.eq_false_iff.2 (hopen t ht)
    exact .inr ⟨s', .single hstep, h.step hw hstep, hlt operators ((hmem operator).2 hoperator)⟩

end Registering

/-- When the snapshot of the epoch has been created, none of an operator has. -/
lemma opened {s₀ s₁ : Lifecycle} (h₀ : s₀.Untouched) (hrun : Run (Step cl) s₀ s) {clock : Clock} {bump : UInt8}
    (hopen : (processInitializeEpochSnapshot clock bump n).run s = .ok () s₁) :
    Admits n s₁ ∧ s₁.single .weightTable = .initialized ∧
      s₁.accounts.weightTable = s.accounts.weightTable ∧
      s₁.accounts.epochSnapshot.vaultCount = s.accounts.weightTable.vaults.length ∧
      Progressed cl.index s₁.accounts [] [] := by
  have hb₁ := live_book h₀ (hrun.tail ⟨.initializeEpochSnapshot clock bump n, hopen⟩)
  obtain ⟨hlive, hclosing, habsent, hweights, hfinalized, hcount, rfl⟩ := processInitializeEpochSnapshot_ok hopen
  have hvaults : s.accounts.weightTable.vaultCount = s.accounts.weightTable.vaults.length := by
    rw [WeightTable.finalized, Bool.and_eq_true, Bool.and_eq_true, WeightTable.vaultRegistryInitialized,
      beq_iff_eq] at hfinalized
    rw [hfinalized.1.1, WeightTable.vaultEntryCount, WeightTable.vaults, List.length_map,
      List.countP_eq_length_filter]
  refine ⟨⟨hlive, (hb₁ hlive).marker, hclosing, ?_, rfl, hvaults ▸ WeightTable.vaults_length_le⟩, ?_, rfl, hvaults,
    .opening (live_book h₀ hrun hlive) (kept h₀ hrun hlive) hclosing habsent hweights hcount bump clock.slot⟩
  · exact Function.update_self Single.epochSnapshot Slot.initialized s.single
  · exact (single_setSingle_ne .epochSnapshot .weightTable .initialized s (by decide)).trans hweights

/-- So registering starts. -/
lemma Registering.start {s₀ s₁ : Lifecycle} (h₀ : s₀.Untouched) (hrun : Run (Step cl) s₀ s) {clock : Clock}
    {bump : UInt8} (hopen : (processInitializeEpochSnapshot clock bump n).run s = .ok () s₁) :
    Registering cl d s.accounts.weightTable n s₁ := by
  obtain ⟨hadmits, hweights, htable, hvaults, hp⟩ := opened h₀ hrun hopen
  have hnone := hp.operatorSnapshot_eq_none
  refine ⟨hadmits.live, hadmits.marker, hweights, hadmits.epochSnapshot, ?_⟩
  constructor
  case closing => exact hadmits.closing
  case weightTable => exact htable
  case operatorCount => exact hadmits.operatorCount
  case vaultCount => exact hvaults
  case progressed => exact ⟨[], [], hp⟩
  case active => intro q t ht; rw [hnone q] at ht; cases ht
  case inactive => intro q t ht; rw [hnone q] at ht; cases ht

end Lifecycle

/-- The operators that the epoch admits are those that its arrays have room for exactly if there are at most 256:
then the accesses to the arrays are in bounds, no instruction of an operator panics on an index, and the snapshot of
the epoch can always be finalized, if the stakes of the vaults weigh less than `2 ^ 128`; with more, each of the three
fails. For the bound on the weights the last part says why it is there: registering a vault panics, in the cast of
the product to a `u128`, exactly if its stake weighs more, with however many operators. -/
theorem operator_indices_fit_iff {cl : Cluster} {n : ℕ} {s₀ s s₁ : Lifecycle} {clock : Clock} {bump : UInt8}
    (h₀ : s₀.Untouched) (hrun : Run (Lifecycle.Step cl) s₀ s)
    (hopen : (Lifecycle.processInitializeEpochSnapshot clock bump n).run s = .ok () s₁)
    (hindex : ∀ i < n, ∃ operator, cl.index operator = i) :
    ((∀ operator, cl.index operator < n → EpochState.InBounds (cl.index operator)) ↔ n ≤ maxOperators) ∧
      ((∀ s₂, Run (Lifecycle.Step cl) s₁ s₂ → ∀ i operator, i.operator = some operator → cl.index operator < n →
        ¬FailsWith (Lifecycle.exec cl i) s₂ (.panicked .outOfBounds)) ↔ n ≤ maxOperators) ∧
      (cl.math.Documented → ∀ (p : VaultProgram) (d : DelegationBook p) (ncn : Pubkey) (bump' : UInt8)
        (r : VaultRegistry), Run (VaultRegistry.Step p) (.new ncn bump') r →
        s.accounts.weightTable.vaultRegistry = r.vaultList →
        d.Registrable cl.math s.accounts.weightTable cl.index n →
        ((∀ s₂, Run (Lifecycle.Registers cl d) s₁ s₂ →
          ∃ s₃, Run (Lifecycle.Registers cl d) s₂ s₃ ∧ s₃.SnapshotsTaken cl n) ↔ n ≤ maxOperators)) ∧
      (cl.math.Documented → ∀ s₂, Run (Lifecycle.Step cl) s₁ s₂ → s₂.epochState = true →
        s₂.single .weightTable = .initialized → s₂.single .epochSnapshot = .initialized →
        ∀ clock operator v security weight, s₂.accounts.Weighs operator v security weight →
        ((∃ p, FailsWith (Lifecycle.exec cl (.snapshotVaultOperatorDelegation clock operator v)) s₂ (.panicked p)) ↔
          2 ^ 128 ≤ security * weight)) := by
  have hrun₁ : Run (Lifecycle.Step cl) s₀ s₁ := hrun.tail ⟨.initializeEpochSnapshot clock bump n, hopen⟩
  refine ⟨⟨fun h => ?_, fun hn operator hlt => .of_lt (hlt.trans_le hn)⟩, ⟨fun h => ?_, fun hn => ?_⟩, ?_, ?_⟩
  · by_contra hn
    obtain ⟨operator, hoperator⟩ := hindex maxOperators (Nat.lt_of_not_le hn)
    have hlt := EpochState.inBounds_iff.1 (h operator (hoperator ▸ Nat.lt_of_not_le hn))
    omega
  · by_contra hn
    obtain ⟨operator, hoperator⟩ := hindex maxOperators (Nat.lt_of_not_le hn)
    have hlt : cl.index operator < n := hoperator ▸ Nat.lt_of_not_le hn
    obtain ⟨hadmits, _, _, _, hp⟩ := Lifecycle.opened h₀ hrun hopen
    exact h s₁ .refl _ operator rfl hlt
      (hadmits.panics hlt hoperator.ge (hp.operatorSnapshot_eq_none operator) clock 0)
  · intro s₂ hrun₂ i operator hi hlt
    exact Lifecycle.not_panics (Lifecycle.inRange h₀ (hrun₁.trans hrun₂)) hi (hlt.trans_le hn)
  · intro hm p d ncn bump' r hregistry hvaults hd
    have hw := WeightTable.Lists.of_registry hregistry hvaults
    have hgoing : ∀ s₂, Run (Lifecycle.Registers cl d) s₁ s₂ →
        Lifecycle.Registering cl d s.accounts.weightTable n s₂ := fun s₂ hrun₂ =>
      hrun₂.invariant (.start h₀ hrun hopen) fun _ _ hstep h => h.step hw hstep
    constructor
    · intro h
      obtain ⟨s₃, hrun₃, hdone⟩ := h s₁ .refl
      obtain ⟨created, counted, hp⟩ := (hgoing s₃ hrun₃).ongoing.progressed
      have hle := hp.registered_le cl.index_injective
      have hfin := hdone.epochSnapshot
      rw [EpochSnapshot.finalized, beq_iff_eq, (hgoing s₃ hrun₃).ongoing.operatorCount] at hfin
      exact hfin ▸ hle
    · intro hn s₂ hrun₂
      exact (hgoing s₂ hrun₂).exists_snapshotsTaken hm hd hw hn hindex
  · intro hm s₂ hrun₂ hlive hweights hsnapshot clock operator v security weight hv
    exact Lifecycle.snapshot_panics_iff hm (Lifecycle.inRange h₀ (hrun₁.trans hrun₂) hlive) hlive hweights hsnapshot hv

/-- In the small epoch the operator `7` has opted in, and each vault delegates five to it. -/
def DelegationBook.small : DelegationBook .small where
  isActive operator := operator == 7
  operatorIndex _ := 0
  operatorFeeBps _ := 100
  delegation _ vault := .small (vault == 12) 5
  vault := by
    rintro _ vault (rfl | rfl) <;> rfl
  vaultIndex := by
    rintro _ vault (rfl | rfl) <;> rfl

/-- Two operators, one of them active, and a vault. -/
theorem operator_indices_fit_iff_two_operators :
    ∃ s s₁, Run (Lifecycle.Step Lifecycle.smallCluster) Lifecycle.small s ∧
      (Lifecycle.processInitializeEpochSnapshot ⟨1, 0⟩ 0 2).run s = .ok () s₁ ∧
      (∀ operator, Lifecycle.smallCluster.index operator < 2 →
        EpochState.InBounds (Lifecycle.smallCluster.index operator)) ∧
      ∃ s₃, Run (Lifecycle.Registers Lifecycle.smallCluster .small) s₁ s₃ ∧
        s₃.SnapshotsTaken Lifecycle.smallCluster 2 := by
  let addMint := VaultRegistry.registerStMint 21 1
  let addVault := VaultRegistry.processRegisterVault ⟨1, 0⟩ 11 21 1
  let r₁ := commit addMint (.new 1 0)
  let r := commit addVault r₁
  have a₁ : addMint.run (.new 1 0) = .ok () r₁ := Succeeds.run_eq (by decide +kernel)
  have a₂ : addVault.run r₁ = .ok () r := Succeeds.run_eq (by decide +kernel)
  let start := ((Lifecycle.smallRun false).take 5).forM (Lifecycle.exec Lifecycle.smallCluster)
  let s := commit start Lifecycle.small
  let s₁ := commit (Lifecycle.processInitializeEpochSnapshot ⟨1, 0⟩ 0 2) s
  have hs : start.run Lifecycle.small = .ok () s := Succeeds.run_eq (by decide +kernel)
  have hopen : (Lifecycle.processInitializeEpochSnapshot ⟨1, 0⟩ 0 2).run s = .ok () s₁ :=
    Succeeds.run_eq (by decide +kernel)
  have hregistry : s.accounts.weightTable.vaultRegistry = r.vaultList := by decide +kernel
  have hvaults : s.accounts.weightTable.vaults = [11] := by decide +kernel
  have hweight : s.accounts.weightTable.getWeight 21 = .ok 1 := by decide +kernel
  have hweighed : (VaultDelegation.small false 5).totalStakeWeight splMath s.accounts.weightTable = .ok 5 := by
    decide +kernel
  clear_value r₁ r s s₁
  have hrun : Run (Lifecycle.Step Lifecycle.smallCluster) Lifecycle.small s := Run.of_forM _ hs
  have hvaultRun : Run (VaultRegistry.Step .small) (.new 1 0) r :=
    (Relation.ReflTransGen.single (.registerStMint 21 1 a₁)).tail
      (.registerVault ⟨1, 0⟩ 11 21 (.inl rfl) (by decide) (by decide) a₂)
  have hstake : ∀ operator, DelegationBook.small.stake splMath s.accounts.weightTable operator 11 = 5 := by
    intro operator
    unfold DelegationBook.stake
    rw [show DelegationBook.small.delegation operator 11 = .small false 5 from rfl, hweighed]
  have htotal : ∀ operator, DelegationBook.small.totalStake splMath s.accounts.weightTable operator ≤ 5 := by
    intro operator
    rw [DelegationBook.totalStake, hvaults, List.map_singleton, List.sum_singleton, hstake]
    split <;> omega
  have hd : DelegationBook.small.Registrable splMath s.accounts.weightTable Lifecycle.smallCluster.index 2 := by
    constructor
    case updated => exact fun _ _ _ => rfl
    case weighable =>
      intro operator vault hvault _ security hsecurity
      rw [hvaults, List.mem_singleton] at hvault
      subst hvault
      cases hsecurity
      exact ⟨1, hweight, by decide, by decide, by decide⟩
    case fits =>
      intro operators hnodup hlt
      have hle := length_le_of_index_lt Lifecycle.smallCluster.index_injective hnodup hlt
      have hsum := List.sum_le_card_nsmul
        (operators.map (DelegationBook.small.totalStake splMath s.accounts.weightTable)) 5
        (List.forall_mem_map.2 fun operator _ => htotal operator)
      rw [List.length_map, Nat.nsmul_eq_mul] at hsum
      omega
  have hindex : ∀ i < 2, ∃ operator, Lifecycle.smallCluster.index operator = i := by
    intro i hi
    obtain rfl | rfl : i = 0 ∨ i = 1 := by omega
    · exact ⟨7, by decide⟩
    · exact ⟨8, by decide⟩
  obtain ⟨hbounds, _, hfinalizes, _⟩ := operator_indices_fit_iff Lifecycle.small_untouched hrun hopen hindex
  have htwo : 2 ≤ maxOperators := by decide
  exact ⟨s, s₁, hrun, hopen, hbounds.2 htwo,
    (hfinalizes splMath_documented .small .small 1 0 r hvaultRun hregistry hd).2 htwo s₁ .refl⟩

/-- With 257 operators the one with the last index is admitted, and taking its snapshot panics. -/
theorem operator_beyond_arrays_panics :
    ∃ s s₁, Run (Lifecycle.Step Lifecycle.smallCluster) Lifecycle.small s ∧
      (Lifecycle.processInitializeEpochSnapshot ⟨1, 0⟩ 0 257).run s = .ok () s₁ ∧
      Lifecycle.smallCluster.index 263 = 256 ∧ 256 < s₁.accounts.epochSnapshot.operatorCount ∧
      ¬EpochState.InBounds 256 ∧
      FailsWith (Lifecycle.exec Lifecycle.smallCluster (.initializeOperatorSnapshot ⟨1, 0⟩ 0 263 0 0 true)) s₁
        (.panicked .outOfBounds) := by
  let start := ((Lifecycle.smallRun false).take 5).forM (Lifecycle.exec Lifecycle.smallCluster)
  let s := commit start Lifecycle.small
  let s₁ := commit (Lifecycle.processInitializeEpochSnapshot ⟨1, 0⟩ 0 257) s
  have hs : start.run Lifecycle.small = .ok () s := Succeeds.run_eq (by decide +kernel)
  have hopen : (Lifecycle.processInitializeEpochSnapshot ⟨1, 0⟩ 0 257).run s = .ok () s₁ :=
    Succeeds.run_eq (by decide +kernel)
  have hcount : 256 < s₁.accounts.epochSnapshot.operatorCount := by decide +kernel
  have hpanics : FailsWith (Lifecycle.exec Lifecycle.smallCluster
      (.initializeOperatorSnapshot ⟨1, 0⟩ 0 263 0 0 true)) s₁ (.panicked .outOfBounds) := by decide +kernel
  clear_value s s₁
  refine ⟨s, s₁, Run.of_forM _ hs, hopen, by decide, hcount, ?_, hpanics⟩
  rw [EpochState.inBounds_iff]
  decide

end NcnProgram
