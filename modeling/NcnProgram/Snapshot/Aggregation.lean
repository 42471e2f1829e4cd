import NcnProgram.Lib.Tally
import NcnProgram.Snapshot.Delegations

/-!
# The epoch's snapshot is the sum over the operators it has counted

`Aggregated index e created counted` says that the operators with a snapshot are `created`, and that those
among them which the epoch's snapshot has counted, each with a finalized snapshot, are `counted`: their
number and their stake are what the epoch's snapshot says. The operators of an NCN have distinct indices, and
an operator is admitted only if its index is below the number of operators; so when the epoch's snapshot is
finalized there is no operator left that it has not counted (`Aggregated.counted_of_finalized`).
-/

namespace NcnProgram
open Lib NCNProgramError

/-- The stake in the snapshot of an operator, nothing if it has none. -/
def Epoch.stakeAt (e : Epoch) (operator : Pubkey) : ℕ :=
  ((e.operatorSnapshot operator).map (·.stakeWeights.stakeWeight)).getD 0

/-- The operators with a snapshot and those among them that were counted. -/
structure Aggregated (index : Pubkey → ℕ) (e : Epoch) (created counted : List Pubkey) : Prop where
  created_iff : ∀ p, p ∈ created ↔ ∃ s, e.operatorSnapshot p = some s
  created_nodup : created.Nodup
  index_lt : ∀ p ∈ created, index p < e.epochSnapshot.operatorCount
  counted_sub : counted ⊆ created
  counted_nodup : counted.Nodup
  registered : e.epochSnapshot.operatorsRegistered = counted.length
  stake : e.epochSnapshot.stakeWeights.stakeWeight = (counted.map e.stakeAt).sum
  finalized : ∀ p ∈ counted, ∀ s, e.operatorSnapshot p = some s → s.finalized = true

namespace Epoch
variable {e : Epoch} {p q : Pubkey} {s : OperatorSnapshot}

lemma operatorSnapshot_setOperatorSnapshot_ne (h : q ≠ p) :
    (e.setOperatorSnapshot p s).operatorSnapshot q = e.operatorSnapshot q :=
  Function.update_of_ne h ..

/-- A number in the snapshot of an operator, nothing if it has none. -/
def valueAt (f : OperatorSnapshot → ℕ) (e : Epoch) (operator : Pubkey) : ℕ :=
  ((e.operatorSnapshot operator).map f).getD 0

lemma valueAt_of_some {f : OperatorSnapshot → ℕ} (h : e.operatorSnapshot p = some s) :
    e.valueAt f p = f s := by
  rw [valueAt, h, Option.map_some, Option.getD_some]

/-- Writing the snapshot of one operator leaves the numbers of others alone. -/
lemma map_valueAt_setOperatorSnapshot {f : OperatorSnapshot → ℕ} {ps : List Pubkey} (hp : p ∉ ps)
    (s : OperatorSnapshot) : ps.map ((e.setOperatorSnapshot p s).valueAt f) = ps.map (e.valueAt f) := by
  apply List.map_congr_left
  intro q hq
  have hne : q ≠ p := fun he => hp (he ▸ hq)
  rw [valueAt, operatorSnapshot_setOperatorSnapshot_ne hne, valueAt]

/-- An operator that is counted adds its number to the sum. -/
lemma sum_valueAt_append {f : OperatorSnapshot → ℕ} {ps : List Pubkey} (hp : p ∉ ps) (s : OperatorSnapshot)
    (counts : Bool) :
    ((ps ++ if counts then [p] else []).map ((e.setOperatorSnapshot p s).valueAt f)).sum =
      (ps.map (e.valueAt f)).sum + if counts then f s else 0 := by
  have hself : (e.setOperatorSnapshot p s).valueAt f p = f s :=
    valueAt_of_some operatorSnapshot_setOperatorSnapshot
  rw [List.map_append, List.sum_append, map_valueAt_setOperatorSnapshot hp s]
  cases counts <;> simp [hself]

lemma stakeAt_of_some (h : e.operatorSnapshot p = some s) : e.stakeAt p = s.stakeWeights.stakeWeight :=
  valueAt_of_some h

end Epoch

namespace Epoch

/-- A successful creation of an operator's snapshot or registration of a vault. The operators of the NCN have
the indices `index`. -/
inductive SnapshotStep (math : PreciseMath) (index : Pubkey → ℕ) : Epoch → Epoch → Prop
  | createSnapshot {e e'} (clock : Clock) (bump : UInt8) (op : NcnOperator) :
      op.ncnOperatorIndex = index op.operator →
      (processInitializeOperatorSnapshot clock bump op).run e = .ok () e' → SnapshotStep math index e e'
  | registerVault {e e'} (clock : Clock) (operator : Pubkey) (v : VaultDelegation) :
      (processSnapshotVaultOperatorDelegation math clock operator v).run e = .ok () e' →
      SnapshotStep math index e e'

/-- A finalized snapshot does not change. -/
lemma SnapshotStep.finalized_same {math : PreciseMath} {index : Pubkey → ℕ} {e e' : Epoch}
    (h : SnapshotStep math index e e') {p : Pubkey} {s : OperatorSnapshot}
    (hs : e.operatorSnapshot p = some s) (hfin : s.finalized = true) :
    e'.operatorSnapshot p = some s := by
  cases h with
  | createSnapshot clock bump op hindex hrun =>
    obtain ⟨hnone, _, _, _, _, _, _, _, rfl⟩ := processInitializeOperatorSnapshot_run_ok hrun
    have hne : p ≠ op.operator := by
      rintro rfl
      rw [hnone] at hs
      cases hs
    exact (operatorSnapshot_setOperatorSnapshot_ne hne).trans hs
  | registerVault clock operator v hrun =>
    obtain ⟨t, _, _, _, _, ht, _, hreg, _, _, rfl⟩ := processSnapshotVaultOperatorDelegation_run_ok hrun
    have hopen := (OperatorSnapshot.incrementVaultOperatorDelegationRegistration_run_ok hreg).1
    have hne : p ≠ operator := by
      rintro rfl
      cases Option.some.inj (hs.symm.trans ht)
      rw [hfin] at hopen
      cases hopen
    exact (operatorSnapshot_setOperatorSnapshot_ne hne).trans hs

end Epoch

namespace Aggregated
variable {index : Pubkey → ℕ} {math : PreciseMath} {e e' : Epoch} {created counted : List Pubkey}

/-- The aggregation is about the snapshots only. -/
lemma of_eq (h : Aggregated index e created counted) (hs : e'.operatorSnapshot = e.operatorSnapshot)
    (hes : e'.epochSnapshot = e.epochSnapshot) : Aggregated index e' created counted := by
  have hstake : e'.stakeAt = e.stakeAt := by
    funext p
    rw [Epoch.stakeAt, hs, Epoch.stakeAt]
  constructor
  case created_iff => rw [hs]; exact h.created_iff
  case created_nodup => exact h.created_nodup
  case index_lt => rw [hes]; exact h.index_lt
  case counted_sub => exact h.counted_sub
  case counted_nodup => exact h.counted_nodup
  case registered => rw [hes]; exact h.registered
  case stake => rw [hes, hstake]; exact h.stake
  case finalized => rw [hs]; exact h.finalized

/-- Operators that were counted stay counted, with the same snapshot. -/
def Keeps (counted counted' : List Pubkey) (e e' : Epoch) : Prop :=
  ∀ q ∈ counted, q ∈ counted' ∧ e'.operatorSnapshot q = e.operatorSnapshot q

/-- A snapshot is written for an operator that was not counted, and the operator is counted if it is then
finalized. -/
lemma write (h : Aggregated index e created counted) {p : Pubkey} {s : OperatorSnapshot} {counts : Bool}
    {slot valid : ℕ} {es : EpochSnapshot} (st : EpochState) (hp : p ∉ counted)
    (hmem : p ∈ created ∨ index p < e.epochSnapshot.operatorCount)
    (hes : Epoch.CountsIf counts slot valid s.stakeWeights e.epochSnapshot es)
    (hfin : counts = true → s.finalized = true) :
    ∃ created', Keeps counted (counted ++ if counts then [p] else []) e
        { e.setOperatorSnapshot p s with epochSnapshot := es, epochState := st } ∧
      Aggregated index { e.setOperatorSnapshot p s with epochSnapshot := es, epochState := st }
        created' (counted ++ if counts then [p] else []) := by
  obtain ⟨_, hcount, _, hreg⟩ := hes.spec
  have hlt : index p < e.epochSnapshot.operatorCount := hmem.elim (h.index_lt p) id
  have hsame : ∀ q ∈ counted, (e.setOperatorSnapshot p s).operatorSnapshot q = e.operatorSnapshot q :=
    fun q hq => Epoch.operatorSnapshot_setOperatorSnapshot_ne fun he => hp (he ▸ hq)
  have hcounted : ∀ q, q ∈ counted ++ (if counts then [p] else []) → q ∈ counted ∨ counts = true ∧ q = p := by
    intro q hq
    cases counts <;> simpa using hq
  -- the operators with a snapshot
  obtain ⟨created', hsub, hmem', hnodup, hiff⟩ : ∃ created' : List Pubkey, created ⊆ created' ∧
      p ∈ created' ∧ created'.Nodup ∧ ∀ q, q ∈ created' ↔ q ∈ created ∨ q = p := by
    by_cases hc : p ∈ created
    · exact ⟨created, List.Subset.refl _, hc, h.created_nodup, fun q =>
        ⟨.inl, fun hq => hq.elim id fun he => he ▸ hc⟩⟩
    · exact ⟨p :: created, List.subset_cons_self _ _, List.mem_cons_self,
        List.nodup_cons.2 ⟨hc, h.created_nodup⟩, fun q => by rw [List.mem_cons, or_comm]⟩
  refine ⟨created', fun q hq => ⟨List.mem_append_left _ hq, hsame q hq⟩, ?_⟩
  constructor
  case created_iff =>
    intro q
    rw [hiff]
    by_cases hq : q = p
    · subst hq
      simp
    · show _ ↔ ∃ t, (e.setOperatorSnapshot p s).operatorSnapshot q = some t
      rw [Epoch.operatorSnapshot_setOperatorSnapshot_ne hq, ← h.created_iff]
      simp [hq]
  case created_nodup => exact hnodup
  case index_lt =>
    intro q hq
    show index q < es.operatorCount
    rw [hcount]
    rcases (hiff q).1 hq with hq | rfl
    · exact h.index_lt q hq
    · exact hlt
  case counted_sub =>
    intro q hq
    rcases hcounted q hq with hq | ⟨_, rfl⟩
    · exact hsub (h.counted_sub hq)
    · exact hmem'
  case counted_nodup =>
    cases counts with
    | false => simpa using h.counted_nodup
    | true => rw [if_pos rfl, ← List.concat_eq_append]; exact List.Nodup.concat hp h.counted_nodup
  case registered =>
    show es.operatorsRegistered = _
    rw [hreg, h.registered]
    cases counts <;> simp
  case stake =>
    refine Eq.trans ?_ (Epoch.sum_valueAt_append hp s counts).symm
    show es.stakeWeights.stakeWeight = (counted.map e.stakeAt).sum + _
    rw [← h.stake]
    cases counts with
    | false => rw [show es = e.epochSnapshot from hes]; rfl
    | true => exact (EpochSnapshot.incrementOperatorRegistration_run_ok hes).2.2.2.1
  case finalized =>
    intro q hq t ht
    rcases hcounted q hq with hq | ⟨hc, rfl⟩
    · exact h.finalized q hq t ((hsame q hq).symm.trans ht)
    · cases Option.some.inj (ht.symm.trans Epoch.operatorSnapshot_setOperatorSnapshot)
      exact hfin hc

/-- An operator without a snapshot has not been counted. -/
lemma not_counted_of_none (h : Aggregated index e created counted) {p : Pubkey}
    (hp : e.operatorSnapshot p = none) : p ∉ counted := by
  intro hmem
  obtain ⟨t, ht⟩ := (h.created_iff _).1 (h.counted_sub hmem)
  rw [hp] at ht
  cases ht

/-- Neither has an operator whose snapshot is not finalized. -/
lemma not_counted_of_open (h : Aggregated index e created counted) {p : Pubkey} {s : OperatorSnapshot}
    (hs : e.operatorSnapshot p = some s) (hopen : s.finalized = false) : p ∉ counted := by
  intro hmem
  rw [h.finalized p hmem s hs] at hopen
  cases hopen

/-- Creating a snapshot keeps the aggregation. -/
lemma create (h : Aggregated index e created counted) {clock : Clock} {bump : UInt8} {op : NcnOperator}
    (hindex : op.ncnOperatorIndex = index op.operator)
    (hrun : (Epoch.processInitializeOperatorSnapshot clock bump op).run e = .ok () e') :
    ∃ created' counted', Keeps counted counted' e e' ∧ Aggregated index e' created' counted' := by
  obtain ⟨hnone, hlt, s, es, st, hs, hes, _, rfl⟩ := Epoch.processInitializeOperatorSnapshot_run_ok hrun
  obtain ⟨hreg, _, _, _, hcount, _, _⟩ := OperatorSnapshot.initialized_ok hs
  have hzero : s.stakeWeights = .default := StakeWeights.ext hreg.stake
  -- an inactive operator has nothing to register
  have hfin : (!op.isActive) = true → s.finalized = true := by
    intro hinactive
    rw [Bool.not_eq_true'] at hinactive
    rw [hinactive] at hcount
    rw [OperatorSnapshot.finalized, hcount, hreg.registered]
    rfl
  obtain ⟨created', h'⟩ :=
    h.write st (h.not_counted_of_none hnone) (.inr (hindex ▸ hlt)) (hzero ▸ hes) hfin
  exact ⟨created', _, h'⟩

/-- Registering a vault keeps the aggregation. -/
lemma register (h : Aggregated index e created counted) {clock : Clock} {operator : Pubkey}
    {v : VaultDelegation}
    (hrun : (Epoch.processSnapshotVaultOperatorDelegation math clock operator v).run e = .ok () e') :
    ∃ created' counted', Keeps counted counted' e e' ∧ Aggregated index e' created' counted' := by
  obtain ⟨s, s', sw, es, st, hs, _, hreg, hes, _, rfl⟩ :=
    Epoch.processSnapshotVaultOperatorDelegation_run_ok hrun
  have hopen := (OperatorSnapshot.incrementVaultOperatorDelegationRegistration_run_ok hreg).1
  obtain ⟨created', h'⟩ := h.write st (h.not_counted_of_open hs hopen)
    (.inl ((h.created_iff _).2 ⟨s, hs⟩)) hes id
  exact ⟨created', _, h'⟩

/-- Distinct operators that were counted have no more stake than the epoch's snapshot. -/
lemma sum_stakeAt_le (h : Aggregated index e created counted) {ps : List Pubkey} (hnodup : ps.Nodup)
    (hsub : ps ⊆ counted) : (ps.map e.stakeAt).sum ≤ e.epochSnapshot.stakeWeights.stakeWeight := by
  rw [h.stake]
  exact sum_map_le_of_subset hnodup hsub

/-- There are at most as many operators with a snapshot as the NCN has operators. -/
lemma created_length_le (h : Aggregated index e created counted) (hinj : Function.Injective index) :
    created.length ≤ e.epochSnapshot.operatorCount :=
  length_le_of_index_lt hinj h.created_nodup h.index_lt

/-- A finalized epoch snapshot has counted every operator with a snapshot. -/
lemma counted_of_finalized (h : Aggregated index e created counted) (hinj : Function.Injective index)
    (hfin : e.epochSnapshot.finalized = true) {p : Pubkey} (hp : p ∈ created) : p ∈ counted := by
  rw [EpochSnapshot.finalized, beq_iff_eq] at hfin
  have hle := h.created_length_le hinj
  rw [← hfin, h.registered] at hle
  exact ((List.subperm_of_subset h.counted_nodup h.counted_sub).perm_of_length_le hle).mem_iff.2 hp

end Aggregated
end NcnProgram
