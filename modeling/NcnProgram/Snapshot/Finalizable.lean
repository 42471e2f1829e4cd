import NcnProgram.Snapshot.Progress
import NcnProgram.Snapshot.Vaults

/-!
# The snapshot of an epoch can be finalized

The snapshot of an epoch is final when all operators have been counted in it, and an operator is counted when its
own snapshot is final: at once if it has not opted in, else with the last of the vaults that are registered with it.
A `DelegationBook` says which operators have opted in and what the vaults delegate to them. While its delegations
are registered (`Ongoing`), any operator whose index has room in the arrays can be given a snapshot, and any whose
snapshot is open has a vault that can be registered with it: no counter overflows, the stakes fit
(`Registrable`), and the vault is neither there twice nor one too many.
-/

namespace NcnProgram
open Lib NCNProgramError

lemma EpochSnapshot.incrementOperatorRegistration_succeeds {s : EpochSnapshot} {n : ℕ} {sw : StakeWeights}
    (slot : ℕ) (hopen : s.operatorsRegistered < s.operatorCount) (hcount : s.operatorsRegistered + 1 < 2 ^ 64)
    (hvalid : s.validOperatorVaultDelegations + n < 2 ^ 64)
    (hstake : s.stakeWeights.stakeWeight + sw.stakeWeight < 2 ^ 128) :
    Succeeds (incrementOperatorRegistration slot n sw) s := by
  have hfin : s.finalized = false := beq_eq_false_iff_ne.2 hopen.ne
  unfold incrementOperatorRegistration
  refine .bind (a := s) rfl (.bind (a := ()) (run_ensure_ok.2 ⟨hfin, rfl⟩) ?_)
  refine .bind (run_okOr_ok.2 ⟨checkedAdd_of_lt hcount, rfl⟩) (.bind (a := ()) rfl ?_)
  refine .bind (run_okOr_ok.2 ⟨checkedAdd_of_lt hvalid, rfl⟩) (.bind (a := ()) rfl ?_)
  exact .bind (run_zoom_ok.2 ⟨_, StakeWeights.increment_of_lt hstake, rfl⟩) ⟨_, _, rfl⟩

namespace OperatorSnapshot
variable {s : OperatorSnapshot} {vaultIndex : ℕ} {sw : StakeWeights}

/-- A vault that is not there is inserted while there is room. -/
lemma insertVaultOperatorStakeWeight_run (vault : Pubkey) (hroom : s.vaultOperatorDelegationsRegistered < maxVaults)
    (hnew : s.containsVaultIndex vaultIndex = false) :
    (insertVaultOperatorStakeWeight vault vaultIndex sw).run s = .ok () { s with
      vaultOperatorStakeWeight :=
        s.vaultOperatorStakeWeight.set s.vaultOperatorDelegationsRegistered ⟨vault, vaultIndex, sw⟩ } := by
  have hnext : s.vaultOperatorDelegationsRegistered + 1 < 2 ^ 64 := by
    rw [maxVaults] at hroom
    omega
  refine run_bind_ok.2 ⟨s, s, rfl, run_bind_ok.2 ⟨_, s, run_okOr_ok.2 ⟨checkedAdd_of_lt hnext, rfl⟩, ?_⟩⟩
  refine run_bind_ok.2 ⟨(), s, run_ensure_ok.2 ⟨hroom, rfl⟩, ?_⟩
  exact run_bind_ok.2 ⟨(), s, run_ensure_ok.2 ⟨hnew, rfl⟩, rfl⟩

/-- It is registered if its stake fits. -/
lemma incrementVaultOperatorDelegationRegistration_succeeds (sw : StakeWeights) (slot : ℕ) (vault : Pubkey)
    (hopen : s.finalized = false) (hroom : s.vaultOperatorDelegationsRegistered < maxVaults)
    (hnew : s.containsVaultIndex vaultIndex = false)
    (hvalid : s.validOperatorVaultDelegations ≤ s.vaultOperatorDelegationsRegistered)
    (hstake : s.stakeWeights.stakeWeight + sw.stakeWeight < 2 ^ 128) :
    Succeeds (incrementVaultOperatorDelegationRegistration slot vault vaultIndex sw) s := by
  have hnext : s.vaultOperatorDelegationsRegistered + 1 < 2 ^ 64 := by
    rw [maxVaults] at hroom
    omega
  have hnextValid : s.validOperatorVaultDelegations + 1 < 2 ^ 64 := by omega
  have hlast : ∀ t : OperatorSnapshot, t.stakeWeights = s.stakeWeights → Succeeds (do
      zoom (·.stakeWeights) (fun w s => { s with stakeWeights := w }) (StakeWeights.increment sw)
      modify fun s => { s with slotFinalized := if s.finalized then slot else s.slotFinalized } :
      Mut OperatorSnapshot Unit) t := by
    intro t ht
    rw [← ht] at hstake
    exact .bind (run_zoom_ok.2 ⟨_, StakeWeights.increment_of_lt hstake, rfl⟩) ⟨_, _, rfl⟩
  refine .bind (a := s) rfl (.bind (a := ()) (run_ensure_ok.2 ⟨hopen, rfl⟩) ?_)
  refine .bind (insertVaultOperatorStakeWeight_run vault hroom hnew) (.bind rfl ?_)
  refine .bind (run_okOr_ok.2 ⟨checkedAdd_of_lt hnext, rfl⟩) (.bind (a := ()) rfl ?_)
  split
  · refine .bind rfl (.bind (run_okOr_ok.2 ⟨checkedAdd_of_lt hnextValid, rfl⟩) (.bind (a := ()) rfl ?_))
    exact hlast _ rfl
  · exact hlast _ rfl

end OperatorSnapshot

namespace EpochState
variable {s : EpochState} {i : ℕ}

lemma increment_succeeds {p : Progress} (h : p.tally + 1 < 2 ^ 64) : Succeeds (Progress.increment 1) p :=
  .bind (a := p) rfl (.bind (run_okOr_ok.2 ⟨checkedAdd_of_lt h, rfl⟩) ⟨_, _, rfl⟩)

/-- An operator's progress and then, if it is done, that of the epoch move on. -/
lemma incrementProgress_succeeds (finalized : Bool) (hoperator : (s.operatorProgress i).tally + 1 < 2 ^ 64)
    (htally : s.epochSnapshotProgress.tally + 1 < 2 ^ 64) :
    Succeeds (do incrementOperatorSnapshotProgress i; if finalized then incrementEpochSnapshotProgress) s := by
  have hoperator' : Succeeds (incrementOperatorSnapshotProgress i) s := .zoom (increment_succeeds hoperator)
  obtain ⟨u, s₁, hrun⟩ := hoperator'
  refine .bind hrun ?_
  cases finalized with
  | false => exact ⟨_, _, rfl⟩
  | true =>
    rw [incrementOperatorSnapshotProgress_run_ok hrun]
    exact .zoom (increment_succeeds htally)

/-- The epoch state takes the snapshot of an operator whose index fits. -/
lemma updateReallocOperatorSnapshot_succeeds (hi : i < maxOperators) (isActive : Bool)
    (htally : s.epochSnapshotProgress.tally + 1 < 2 ^ 64) :
    Succeeds (updateReallocOperatorSnapshot i isActive) s := by
  refine .bind (a := ()) (run_ensure_ok.2 ⟨hi, rfl⟩) (.bind (a := ()) rfl (.bind rfl ?_))
  cases isActive with
  | true => exact ⟨_, _, rfl⟩
  | false =>
    refine .bind (a := ()) rfl (incrementProgress_succeeds true ?_ htally)
    rw [operatorProgress, Table.get?_set_self hi]
    exact Nat.one_lt_two_pow (by decide)

/-- It counts a registered vault. -/
lemma updateSnapshotVaultOperatorDelegation_succeeds (hi : i < maxOperators) (finalized : Bool)
    (hoperator : (s.operatorProgress i).tally + 1 < 2 ^ 64) (htally : s.epochSnapshotProgress.tally + 1 < 2 ^ 64) :
    Succeeds (updateSnapshotVaultOperatorDelegation i finalized) s :=
  .bind (a := ()) (run_ensure_ok.2 ⟨hi, rfl⟩) (incrementProgress_succeeds finalized hoperator htally)

end EpochState

namespace Epoch
variable {math : PreciseMath} {e : Epoch}

lemma onEpochSnapshot_succeeds {α : Type} {x : Mut EpochSnapshot α} (h : Succeeds x e.epochSnapshot) :
    ∃ a es, (onEpochSnapshot x).run e = .ok a { e with epochSnapshot := es } := by
  obtain ⟨a, es, hrun⟩ := h
  exact ⟨a, es, run_zoom_ok.2 ⟨es, hrun, rfl⟩⟩

/-- The snapshot of an operator that has none is created if its index fits. -/
lemma processInitializeOperatorSnapshot_succeeds (clock : Clock) (bump : UInt8) {op : NcnOperator}
    (hclosing : e.epochState.isClosing = false) (hnone : e.operatorSnapshot op.operator = none)
    (hindex : op.ncnOperatorIndex < e.epochSnapshot.operatorCount) (hfits : op.ncnOperatorIndex < maxOperators)
    (hvaults : e.epochSnapshot.vaultCount ≤ maxVaults)
    (hes : Succeeds (EpochSnapshot.incrementOperatorRegistration clock.slot 0 .default) e.epochSnapshot)
    (htally : e.epochState.epochSnapshotProgress.tally + 1 < 2 ^ 64) :
    Succeeds (processInitializeOperatorSnapshot clock bump op) e := by
  have hst : Succeeds (EpochState.updateReallocOperatorSnapshot op.ncnOperatorIndex op.isActive) e.epochState :=
    EpochState.updateReallocOperatorSnapshot_succeeds hfits op.isActive htally
  obtain ⟨s, hs⟩ : ∃ s, OperatorSnapshot.initialized op.operator e.epochState.ncn e.epochState.epoch bump clock.slot
      op.isActive op.ncnOperatorIndex op.operatorIndex op.operatorFeeBps e.epochSnapshot.vaultCount = .ok s := by
    rw [OperatorSnapshot.initialized, if_neg (Nat.not_lt.2 hvaults)]
    exact ⟨_, rfl⟩
  refine .bind (a := e) rfl (.bind (a := ()) (run_ensure_ok.2 ⟨hclosing, rfl⟩) ?_)
  refine .bind (a := ()) (run_ensure_ok.2 ⟨Option.isNone_iff_eq_none.2 hnone, rfl⟩) ?_
  refine .bind (a := ()) (run_ensure_ok.2 ⟨hindex, rfl⟩) (.bind (run_ofExcept_ok.2 ⟨hs, rfl⟩) ?_)
  refine .bind (a := ()) rfl ?_
  split
  · obtain ⟨_, es, hrun⟩ := onEpochSnapshot_succeeds (e := e.setOperatorSnapshot op.operator s) hes
    exact .bind hrun (.zoom hst)
  · exact .zoom hst

/-- A vault's delegation to an operator is registered if the snapshots take it. -/
lemma processSnapshotVaultOperatorDelegation_succeeds {clock : Clock} {operator : Pubkey} {v : VaultDelegation}
    {s s' : OperatorSnapshot} (sw : StakeWeights) (hs : e.operatorSnapshot operator = some s)
    (hupdated : v.isUpdateNeeded = false) (hcheck : e.weightTable.checkRegistryForVault v.vaultIndex = .ok ())
    (htotal : v.totalStakeWeight math e.weightTable = .ok sw.stakeWeight)
    (hreg : (OperatorSnapshot.incrementVaultOperatorDelegationRegistration clock.slot v.vault v.vaultIndex sw).run s =
      .ok () s')
    (hes : s'.finalized = true → Succeeds (EpochSnapshot.incrementOperatorRegistration clock.slot
      s'.validOperatorVaultDelegations s'.stakeWeights) e.epochSnapshot)
    (hst : Succeeds (EpochState.updateSnapshotVaultOperatorDelegation s'.ncnOperatorIndex s'.finalized)
      e.epochState) : Succeeds (processSnapshotVaultOperatorDelegation math clock operator v) e := by
  have hsnapshot : StakeWeights.snapshot sw.stakeWeight = .ok sw := dif_pos sw.lt
  have hrun : (onOperatorSnapshot operator
      (OperatorSnapshot.incrementVaultOperatorDelegationRegistration clock.slot v.vault v.vaultIndex sw)).run e =
      .ok () (e.setOperatorSnapshot operator s') :=
    run_bind_ok.2 ⟨e, e, rfl, run_bind_ok.2 ⟨s, e, run_okOr_ok.2 ⟨hs, rfl⟩, run_zoom_ok.2 ⟨s', hreg, rfl⟩⟩⟩
  refine .bind (a := e) rfl ?_
  refine .bind (a := ()) (run_ensure_ok.2 ⟨Option.isSome_iff_exists.2 ⟨s, hs⟩, rfl⟩) ?_
  refine .bind (a := ()) (run_ensure_ok.2 ⟨hupdated, rfl⟩) (.bind (run_ofExcept_ok.2 ⟨hcheck, rfl⟩) ?_)
  refine .bind (run_ofExcept_ok.2 ⟨htotal, rfl⟩) (.bind (run_ofExcept_ok.2 ⟨hsnapshot, rfl⟩) ?_)
  refine .bind hrun (.bind rfl (.bind (run_okOr_ok.2 ⟨operatorSnapshot_setOperatorSnapshot, rfl⟩) ?_))
  split
  · obtain ⟨_, es, hcount⟩ := onEpochSnapshot_succeeds (e := e.setOperatorSnapshot operator s') (hes ‹_›)
    exact .bind hcount (.zoom hst)
  · exact .zoom hst

end Epoch

/-! ## The delegations of an epoch -/

/-- The stake of the vault can be weighed: it is a `u64`, its mint has a weight, a `u128`, and the product of both
is one as well. A vault whose tickets are not in force has none. -/
def VaultDelegation.Weighable (w : WeightTable) (v : VaultDelegation) : Prop :=
  (v.vaultNcnTicket.getD false && v.ncnVaultActive) = true → ∀ security, v.totalSecurity = some security →
    ∃ weight, w.getWeight v.stMint = .ok weight ∧ security < 2 ^ 64 ∧ weight < 2 ^ 128 ∧
      security * weight < 2 ^ 128

/-- Then it is weighed. -/
lemma VaultDelegation.Weighable.totalStakeWeight_ok {math : PreciseMath} {w : WeightTable} {v : VaultDelegation}
    (h : v.Weighable w) (hm : math.Documented) : ∃ stake, v.totalStakeWeight math w = .ok stake := by
  unfold totalStakeWeight
  split
  · rename_i security hactive hsecurity
    obtain ⟨weight, hweight, hs, hw, hfit⟩ := h hactive security hsecurity
    exact ⟨_, OperatorSnapshot.calculateTotalStakeWeight_eq hm hs hw hweight hfit⟩
  · exact ⟨0, rfl⟩

/-- What the restaking and the vault program say while the snapshots are taken: which operators have opted in, and
what the vaults delegate to them. -/
structure DelegationBook (p : VaultProgram) where
  isActive : Pubkey → Bool
  operatorIndex : Pubkey → ℕ
  operatorFeeBps : Pubkey → ℕ
  delegation : Pubkey → Pubkey → VaultDelegation
  vault : ∀ operator, ∀ vault ∈ p.vaults, (delegation operator vault).vault = vault
  vaultIndex : ∀ operator, ∀ vault ∈ p.vaults, (delegation operator vault).vaultIndex = p.index vault

namespace DelegationBook
variable {p : VaultProgram} (d : DelegationBook p) (math : PreciseMath) (w : WeightTable)

/-- The stake of a vault with an operator. -/
def stake (operator vault : Pubkey) : ℕ :=
  match (d.delegation operator vault).totalStakeWeight math w with
  | .ok stake => stake
  | .error _ => 0

/-- The stake of all vaults with an operator, nothing if it has not opted in. -/
def totalStake (operator : Pubkey) : ℕ :=
  if d.isActive operator then (w.vaults.map (d.stake math w operator)).sum else 0

/-- The delegations can be registered, one by one: the vaults are up to date, and the products of stakes and
weights and their sums fit a `u128`. -/
structure Registrable (index : Pubkey → ℕ) (operatorCount : ℕ) : Prop where
  updated : ∀ operator, ∀ vault ∈ w.vaults, (d.delegation operator vault).isUpdateNeeded = false
  weighable : ∀ operator, ∀ vault ∈ w.vaults, (d.delegation operator vault).Weighable w
  fits : ∀ operators : List Pubkey, operators.Nodup → (∀ operator ∈ operators, index operator < operatorCount) →
    (operators.map (d.totalStake math w)).sum < 2 ^ 128

/-- The snapshots of an epoch that registrations of the delegations make. -/
structure Ongoing (index : Pubkey → ℕ) (operatorCount : ℕ) (e : Epoch) : Prop where
  closing : e.epochState.isClosing = false
  weightTable : e.weightTable = w
  operatorCount : e.epochSnapshot.operatorCount = operatorCount
  vaultCount : e.epochSnapshot.vaultCount = w.vaults.length
  progressed : ∃ created counted, Progressed index e created counted
  active : ∀ operator s, e.operatorSnapshot operator = some s → d.isActive operator = true →
    ∃ ds, VaultsCounted p w s ds ∧ ∀ x ∈ ds, x.stakeWeight.stakeWeight = d.stake math w operator x.vault
  inactive : ∀ operator s, e.operatorSnapshot operator = some s → d.isActive operator = false →
    s.finalized = true ∧ s.stakeWeights.stakeWeight = 0 ∧ s.validOperatorVaultDelegations = 0

/-- A stake that can be weighed is the weighed one. -/
lemma totalStakeWeight_eq {operator vault : Pubkey} (h : (d.delegation operator vault).Weighable w)
    (hm : math.Documented) :
    (d.delegation operator vault).totalStakeWeight math w = .ok (d.stake math w operator vault) := by
  obtain ⟨stake, hstake⟩ := h.totalStakeWeight_ok hm
  rw [DelegationBook.stake, hstake]

variable {d math w} {index : Pubkey → ℕ} {n : ℕ} {e e' : Epoch} {clock : Clock} {operator : Pubkey}

namespace Ongoing

/-- Creating a snapshot. -/
lemma create (h : d.Ongoing math w index n e) (hinj : Function.Injective index) {bump : UInt8}
    (hrun : (Epoch.processInitializeOperatorSnapshot clock bump ⟨operator, d.operatorIndex operator,
      d.operatorFeeBps operator, index operator, d.isActive operator⟩).run e = .ok () e') :
    d.Ongoing math w index n e' := by
  obtain ⟨created, counted, hp⟩ := h.progressed
  have hp' := hp.create hinj rfl hrun
  obtain ⟨hnone, _, s, es, st, hs, hes, hst, rfl⟩ := Epoch.processInitializeOperatorSnapshot_run_ok hrun
  obtain ⟨_, rfl⟩ := EpochState.updateReallocOperatorSnapshot_run_ok hst
  obtain ⟨_, hcount, hvaults, _⟩ := hes.spec
  have hlook : ∀ q t, (e.setOperatorSnapshot operator s).operatorSnapshot q = some t →
      q = operator ∧ t = s ∨ e.operatorSnapshot q = some t := by
    intro q t ht
    by_cases hq : q = operator
    · subst hq
      rw [Epoch.operatorSnapshot_setOperatorSnapshot] at ht
      exact .inl ⟨rfl, (Option.some.inj ht).symm⟩
    · exact .inr (Epoch.operatorSnapshot_setOperatorSnapshot_ne hq ▸ ht)
  constructor
  case closing => exact h.closing
  case weightTable => exact h.weightTable
  case operatorCount => exact hcount.trans h.operatorCount
  case vaultCount => exact hvaults.trans h.vaultCount
  case progressed => exact hp'
  case active =>
    intro q t ht hactive
    obtain ⟨rfl, rfl⟩ | ht := hlook q t ht
    · dsimp only at hs
      rw [hactive, h.vaultCount] at hs
      exact ⟨[], .initialized hs, by simp⟩
    · exact h.active q t ht hactive
  case inactive =>
    intro q t ht hinactive
    obtain ⟨rfl, rfl⟩ | ht := hlook q t ht
    · dsimp only at hs
      rw [hinactive] at hs
      obtain ⟨hreg, _, _, _, hzero, hvalid, _⟩ := OperatorSnapshot.initialized_ok hs
      refine ⟨?_, hreg.stake, hvalid⟩
      rw [OperatorSnapshot.finalized, hreg.registered, hzero]
      rfl
    · exact h.inactive q t ht hinactive

/-- Registering a vault. -/
lemma register (h : d.Ongoing math w index n e) (hinj : Function.Injective index) (hw : w.Lists p) {vault : Pubkey}
    (hvault : vault ∈ p.vaults)
    (hrun : (Epoch.processSnapshotVaultOperatorDelegation math clock operator (d.delegation operator vault)).run e =
      .ok () e') : d.Ongoing math w index n e' := by
  obtain ⟨created, counted, hp⟩ := h.progressed
  have hp' := hp.register hinj hrun
  have hcheck := Epoch.processSnapshotVaultOperatorDelegation_registry hrun
  rw [d.vaultIndex operator vault hvault, h.weightTable] at hcheck
  have hmem := hw.mem_vaults_of_check hvault hcheck
  obtain ⟨s, s', sw, es, st, hs, htotal, hreg, hes, hst, rfl⟩ :=
    Epoch.processSnapshotVaultOperatorDelegation_run_ok hrun
  obtain ⟨_, rfl⟩ := EpochState.updateSnapshotVaultOperatorDelegation_run_ok hst
  obtain ⟨_, hcount, hvaults, _⟩ := hes.spec
  have hopen := (OperatorSnapshot.incrementVaultOperatorDelegationRegistration_run_ok hreg).1
  have hother : ∀ q t, q ≠ operator → (e.setOperatorSnapshot operator s').operatorSnapshot q = some t →
      e.operatorSnapshot q = some t := fun q t hq ht => Epoch.operatorSnapshot_setOperatorSnapshot_ne hq ▸ ht
  constructor
  case closing => exact h.closing
  case weightTable => exact h.weightTable
  case operatorCount => exact hcount.trans h.operatorCount
  case vaultCount => exact hvaults.trans h.vaultCount
  case progressed => exact hp'
  case active =>
    intro q t ht hactive
    by_cases hq : q = operator
    · subst hq
      obtain rfl : s' = t := Option.some.inj (Epoch.operatorSnapshot_setOperatorSnapshot.symm.trans ht)
      obtain ⟨ds, hds, hstakes⟩ := h.active q s hs hactive
      rw [d.vault q vault hvault, d.vaultIndex q vault hvault] at hreg
      refine ⟨_, hds.register (p.vault_ne vault hvault) hmem hreg, ?_⟩
      apply forall_mem_append_singleton hstakes
      rw [h.weightTable] at htotal
      show sw.stakeWeight = d.stake math w q vault
      rw [stake, htotal]
    · exact h.active q t (hother q t hq ht) hactive
  case inactive =>
    intro q t ht hinactive
    by_cases hq : q = operator
    · subst hq
      rw [(h.inactive q s hs hinactive).1] at hopen
      cases hopen
    · exact h.inactive q t (hother q t hq ht) hinactive

/-- The stake of an active operator is that of the vaults registered with it. -/
lemma stake_eq {s : OperatorSnapshot} {ds : List VaultOperatorStakeWeight} (hds : VaultsCounted p w s ds)
    (hstakes : ∀ x ∈ ds, x.stakeWeight.stakeWeight = d.stake math w operator x.vault) :
    s.stakeWeights.stakeWeight = ((ds.map (·.vault)).map (d.stake math w operator)).sum := by
  rw [hds.registered.stake, List.map_map, List.map_congr_left hstakes]
  rfl

/-- A finalized snapshot has the stake of all vaults, and no more valid ones than it has room for. -/
lemma finalized_spec (h : d.Ongoing math w index n e) {s : OperatorSnapshot}
    (hs : e.operatorSnapshot operator = some s) (hfin : s.finalized = true) :
    s.stakeWeights.stakeWeight = d.totalStake math w operator ∧ s.validOperatorVaultDelegations ≤ maxVaults := by
  cases hactive : d.isActive operator with
  | false =>
    obtain ⟨_, hstake, hvalid⟩ := h.inactive operator s hs hactive
    rw [totalStake, hactive, hstake, hvalid]
    exact ⟨rfl, Nat.zero_le _⟩
  | true =>
    obtain ⟨ds, hds, hstakes⟩ := h.active operator s hs hactive
    have hlen : (ds.map (·.vault)).length = w.vaults.length := by
      rw [OperatorSnapshot.finalized, beq_iff_eq, hds.registered.registered, hds.count] at hfin
      rw [List.length_map, hfin]
    have hperm := (List.subperm_of_subset hds.vaults_nodup hds.vaults_subset).perm_of_length_le hlen.ge
    refine ⟨?_, ?_⟩
    · rw [stake_eq hds hstakes, totalStake, hactive, if_pos rfl, (hperm.map _).sum_eq]
    · have hle := hds.valid_le
      rw [hds.registered.registered] at hle
      exact hle.trans hds.registered.holds.length_le

/-- One more operator is counted, while there are no more of them than places. -/
lemma count_succeeds (h : d.Ongoing math w index n e) (hd : d.Registrable math w index n)
    (hinj : Function.Injective index) (hn : n ≤ maxOperators) (slot : ℕ) {valid : ℕ} (sw : StakeWeights)
    {created counted : List Pubkey} (hp : Progressed index e created counted) (hnew : operator ∉ counted)
    (hindex : index operator < n) (hvalid : valid ≤ maxVaults)
    (hstake : sw.stakeWeight ≤ d.totalStake math w operator) :
    Succeeds (EpochSnapshot.incrementOperatorRegistration slot valid sw) e.epochSnapshot ∧
      e.epochState.epochSnapshotProgress.tally + 1 < 2 ^ 64 := by
  have hagg := hp.aggregated
  have hnodup : (operator :: counted).Nodup := List.nodup_cons.2 ⟨hnew, hagg.counted_nodup⟩
  have hlt : ∀ q ∈ operator :: counted, index q < n := by
    intro q hq
    rcases List.mem_cons.1 hq with rfl | hq
    · exact hindex
    · exact h.operatorCount ▸ hagg.index_lt q (hagg.counted_sub hq)
  have hlen := length_le_of_index_lt hinj hnodup hlt
  rw [List.length_cons, ← hagg.registered] at hlen
  have hspec : ∀ q ∈ counted, e.stakeAt q = d.totalStake math w q ∧
      e.valueAt (·.validOperatorVaultDelegations) q ≤ maxVaults := by
    intro q hq
    obtain ⟨s, hs⟩ := (hagg.created_iff q).1 (hagg.counted_sub hq)
    rw [Epoch.stakeAt_of_some hs, Epoch.valueAt_of_some hs]
    exact h.finalized_spec hs (hagg.finalized q hq s hs)
  have hsum : e.epochSnapshot.stakeWeights.stakeWeight = (counted.map (d.totalStake math w)).sum := by
    rw [hagg.stake, List.map_congr_left fun q hq => (hspec q hq).1]
  have hfits := hd.fits _ hnodup hlt
  rw [List.map_cons, List.sum_cons, ← hsum] at hfits
  have hvalids : e.epochSnapshot.validOperatorVaultDelegations ≤ maxOperators * maxVaults := by
    have hle := List.sum_le_card_nsmul (counted.map (e.valueAt (·.validOperatorVaultDelegations))) maxVaults
      (List.forall_mem_map.2 fun q hq => (hspec q hq).2)
    rw [← hp.valid, List.length_map, ← hagg.registered, Nat.nsmul_eq_mul] at hle
    exact hle.trans (Nat.mul_le_mul_right _ (by omega))
  rw [maxOperators] at hn hvalids
  rw [maxVaults] at hvalids hvalid
  refine ⟨EpochSnapshot.incrementOperatorRegistration_succeeds slot ?_ ?_ ?_ ?_, ?_⟩
  · rw [h.operatorCount]
    omega
  · omega
  · omega
  · omega
  · rw [show e.epochState.epochSnapshotProgress = _ from hp.kept.progress]
    show e.epochSnapshot.operatorsRegistered + 1 < 2 ^ 64
    omega

/-- An operator without a snapshot gets one. -/
lemma create_succeeds (h : d.Ongoing math w index n e) (hd : d.Registrable math w index n)
    (hinj : Function.Injective index) (hn : n ≤ maxOperators) (hindex : index operator < n)
    (hnone : e.operatorSnapshot operator = none) (clock : Clock) (bump : UInt8) :
    Succeeds (Epoch.processInitializeOperatorSnapshot clock bump ⟨operator, d.operatorIndex operator,
      d.operatorFeeBps operator, index operator, d.isActive operator⟩) e := by
  obtain ⟨created, counted, hp⟩ := h.progressed
  obtain ⟨hes, htally⟩ := h.count_succeeds hd hinj hn clock.slot .default hp
    (hp.aggregated.not_counted_of_none hnone) hindex (Nat.zero_le _) (Nat.zero_le _)
  refine Epoch.processInitializeOperatorSnapshot_succeeds clock bump h.closing hnone ?_ ?_ ?_ hes htally
  · rw [h.operatorCount]
    exact hindex
  · exact hindex.trans_le hn
  · rw [h.vaultCount]
    exact w.vaults_length_le

/-- The stake of some vaults with an active operator is at most that of all. -/
lemma stake_le {s : OperatorSnapshot} {ds : List VaultOperatorStakeWeight} (hds : VaultsCounted p w s ds)
    (hstakes : ∀ x ∈ ds, x.stakeWeight.stakeWeight = d.stake math w operator x.vault)
    (hactive : d.isActive operator = true) : s.stakeWeights.stakeWeight ≤ d.totalStake math w operator := by
  rw [stake_eq hds hstakes, totalStake, hactive, if_pos rfl]
  exact sum_map_le_of_subset hds.vaults_nodup hds.vaults_subset

/-- A snapshot that is not finalized takes a vault more. -/
lemma exists_register (h : d.Ongoing math w index n e) (hd : d.Registrable math w index n) (hw : w.Lists p)
    (hindex : index operator < n) {s : OperatorSnapshot} (hs : e.operatorSnapshot operator = some s)
    (hopen : s.finalized = false) (slot : ℕ) :
    ∃ vault ∈ w.vaults, vault ∈ p.vaults ∧ ∃ sw s',
      (OperatorSnapshot.incrementVaultOperatorDelegationRegistration slot vault (p.index vault) sw).run s =
        .ok () s' ∧
      sw.stakeWeight = d.stake math w operator vault ∧
      s'.stakeWeights.stakeWeight ≤ d.totalStake math w operator ∧
      s'.validOperatorVaultDelegations ≤ s'.vaultOperatorDelegationsRegistered := by
  have hactive : d.isActive operator = true := by
    by_contra hinactive
    rw [(h.inactive operator s hs (Bool.eq_false_iff.2 hinactive)).1] at hopen
    cases hopen
  obtain ⟨created, counted, hp⟩ := h.progressed
  obtain ⟨ds, hds, hstakes⟩ := h.active operator s hs hactive
  obtain ⟨vault, hmem, hnew⟩ := hds.exists_vault hw hopen
  obtain ⟨v, hv, hempty, hvault⟩ := WeightTable.mem_vaults.1 hmem
  have hin : vault ∈ p.vaults := hvault ▸ (hw.entry v hv hempty).1
  have hroom : s.vaultOperatorDelegationsRegistered < maxVaults := by
    have hle := (hp.regular operator s hs).1.registered_le
    have hcount := (hp.regular operator s hs).1.count_le
    rw [OperatorSnapshot.finalized, beq_eq_false_iff_ne] at hopen
    omega
  -- the stake of the vault, and with those before it, fits
  have htotal : d.totalStake math w operator < 2 ^ 128 := by
    simpa using hd.fits [operator] (List.nodup_singleton _) (by simpa using hindex)
  have hsum : d.stake math w operator vault + s.stakeWeights.stakeWeight ≤ d.totalStake math w operator := by
    rw [stake_eq hds hstakes, ← List.sum_cons, ← List.map_cons, totalStake, hactive, if_pos rfl]
    exact sum_map_le_of_subset (List.nodup_cons.2 ⟨hnew, hds.vaults_nodup⟩)
      (List.cons_subset.2 ⟨hmem, hds.vaults_subset⟩)
  have hfits : s.stakeWeights.stakeWeight + d.stake math w operator vault < 2 ^ 128 := by omega
  let sw : StakeWeights := ⟨d.stake math w operator vault, by omega⟩
  obtain ⟨_, s', hreg⟩ := OperatorSnapshot.incrementVaultOperatorDelegationRegistration_succeeds sw slot vault
    hopen hroom (hds.containsVaultIndex_eq_false hw hmem hnew) hds.valid_le hfits
  have hds' := hds.register (p.vault_ne vault hin) hmem hreg
  have hstakes' : ∀ x ∈ ds ++ [⟨vault, p.index vault, sw⟩],
      x.stakeWeight.stakeWeight = d.stake math w operator x.vault := forall_mem_append_singleton hstakes rfl
  exact ⟨vault, hmem, hin, sw, s', hreg, rfl, stake_le hds' hstakes' hactive, hds'.valid_le⟩

/-- So an operator whose snapshot is not finalized has a vault that can be registered with it. -/
lemma register_succeeds (h : d.Ongoing math w index n e) (hm : math.Documented)
    (hd : d.Registrable math w index n) (hinj : Function.Injective index) (hw : w.Lists p) (hn : n ≤ maxOperators)
    (hindex : index operator < n)
    {s : OperatorSnapshot} (hs : e.operatorSnapshot operator = some s) (hopen : s.finalized = false)
    (clock : Clock) : ∃ vault ∈ p.vaults, Succeeds
      (Epoch.processSnapshotVaultOperatorDelegation math clock operator (d.delegation operator vault)) e := by
  obtain ⟨created, counted, hp⟩ := h.progressed
  obtain ⟨vault, hmem, hin, sw, s', hreg, hsw, hstake, hvalid⟩ := h.exists_register hd hw hindex hs hopen clock.slot
  -- what the snapshot is then
  obtain ⟨hregular, hidx, hget⟩ := hp.regular operator s hs
  obtain ⟨hregular', hidx', _⟩ := hregular.register hreg
  have hcounts := h.count_succeeds hd hinj hn clock.slot s'.stakeWeights hp
    (hp.aggregated.not_counted_of_open hs hopen) hindex
    (hvalid.trans (hregular'.registered_le.trans hregular'.count_le)) hstake
  have htally : (e.epochState.operatorProgress s'.ncnOperatorIndex).tally + 1 < 2 ^ 64 := by
    have hle := hregular.registered_le.trans hregular.count_le
    rw [maxVaults] at hle
    rw [hidx', hidx, EpochState.operatorProgress, hget, Option.getD_some, OperatorSnapshot.progress]
    split
    · show s.vaultOperatorDelegationsRegistered + 1 < 2 ^ 64
      omega
    · decide
  refine ⟨vault, hin, Epoch.processSnapshotVaultOperatorDelegation_succeeds sw hs
    (hd.updated operator vault hmem) ?_ ?_ ?_ (fun _ => hcounts.1) ?_⟩
  · rw [d.vaultIndex operator vault hin, h.weightTable]
    exact hw.checkRegistryForVault hmem
  · rw [h.weightTable, hsw]
    exact d.totalStakeWeight_eq math w (hd.weighable operator vault hmem) hm
  · rw [d.vault operator vault hin, d.vaultIndex operator vault hin]
    exact hreg
  · refine EpochState.updateSnapshotVaultOperatorDelegation_succeeds ?_ _ htally hcounts.2
    rw [hidx', hidx]
    exact hindex.trans_le hn

end Ongoing
end DelegationBook
end NcnProgram
