import NcnProgram.Phases.Records
import NcnProgram.Snapshot.Aggregation

/-!
# The snapshots of the operators and what is counted of them

That an operator is done is recorded three times: in its own snapshot, in the sums of the epoch's snapshot and
in the progress that the epoch state keeps. The instructions that record it differ for active and inactive
operators. `Progressed` says that the three agree, which a creation of a snapshot and a registration of a vault
keep, in whatever order they come.
-/

namespace NcnProgram
open Lib NCNProgramError

namespace OperatorSnapshot

/-- The progress that the epoch state keeps for a snapshot: an inactive operator counts as one vault. -/
def progress (s : OperatorSnapshot) : Progress :=
  if s.isActive then ⟨s.vaultOperatorDelegationsRegistered, s.vaultOperatorDelegationCount⟩ else ⟨1, 1⟩

/-- A snapshot that registrations make out of a new one. -/
structure Regular (s : OperatorSnapshot) : Prop where
  registered_le : s.vaultOperatorDelegationsRegistered ≤ s.vaultOperatorDelegationCount
  count_le : s.vaultOperatorDelegationCount ≤ maxVaults
  inactive : s.isActive = false → s.vaultOperatorDelegationCount = 0

/-- Its progress is complete exactly when it is finalized. -/
lemma Regular.isComplete_iff {s : OperatorSnapshot} (h : s.Regular) :
    s.progress.isComplete = true ↔ s.finalized = true := by
  have hle := h.registered_le
  have hcount := h.count_le
  rw [finalized, beq_iff_eq]
  cases hactive : s.isActive with
  | false =>
    have hzero := h.inactive hactive
    have hprogress : s.progress = ⟨1, 1⟩ := by rw [progress, hactive]; rfl
    rw [hprogress]
    exact iff_of_true rfl (by omega)
  | true =>
    have hvalid : s.progress.isInvalid = false := by
      have hmax : maxVaults < Progress.invalid := by decide
      simp only [progress, hactive, if_true, Progress.isInvalid, Bool.or_eq_false_iff, beq_eq_false_iff_ne]
      constructor <;> omega
    rw [Progress.isComplete, hvalid]
    simp only [progress, hactive, if_true, Bool.false_eq_true, if_false, decide_eq_true_eq]
    omega

/-- A new snapshot. -/
lemma Regular.initialized {operator ncn : Pubkey} {epoch : ℕ} {bump : UInt8} {slot : ℕ} {isActive : Bool}
    {ncnOperatorIndex operatorIndex feeBps vaultCount : ℕ} {s : OperatorSnapshot}
    (h : OperatorSnapshot.initialized operator ncn epoch bump slot isActive ncnOperatorIndex operatorIndex
      feeBps vaultCount = .ok s) : s.Regular := by
  obtain ⟨hreg, _, _, _, hcount, _, hactive⟩ := initialized_ok h
  have hvaults : vaultCount ≤ maxVaults := by
    by_contra hlt
    rw [OperatorSnapshot.initialized, if_pos (by omega)] at h
    cases h
  constructor
  case registered_le => rw [hreg.registered]; exact Nat.zero_le _
  case count_le => rw [hcount]; split <;> omega
  case inactive => intro hs; rw [hcount, ← hactive, hs]; rfl

/-- Registering a vault moves the progress one further. -/
lemma Regular.register {s s' : OperatorSnapshot} (h : s.Regular) {slot vaultIndex : ℕ} {vault : Pubkey}
    {sw : StakeWeights}
    (hrun : (incrementVaultOperatorDelegationRegistration slot vault vaultIndex sw).run s = .ok () s') :
    s'.Regular ∧ s'.ncnOperatorIndex = s.ncnOperatorIndex ∧ s'.progress = s.progress.next := by
  obtain ⟨hopen, hroom, _, w, v, f, _, _, rfl⟩ := incrementVaultOperatorDelegationRegistration_run_ok hrun
  have hle := h.registered_le
  rw [finalized, beq_eq_false_iff_ne] at hopen
  -- an inactive operator has nothing to register
  have hactive : s.isActive = true := by
    by_contra hinactive
    have hzero := h.inactive (Bool.eq_false_iff.2 hinactive)
    omega
  refine ⟨⟨?_, h.count_le, h.inactive⟩, rfl, ?_⟩
  · show s.vaultOperatorDelegationsRegistered + 1 ≤ s.vaultOperatorDelegationCount
    omega
  · simp only [progress, hactive, if_true, Progress.next]

end OperatorSnapshot

/-- What is recorded of the operators agrees: those that were counted are those with a finalized snapshot, and
the epoch state has the progress of every snapshot. -/
structure Progressed (index : Pubkey → ℕ) (e : Epoch) (created counted : List Pubkey) : Prop where
  aggregated : Aggregated index e created counted
  kept : e.groundwork.SnapshotKept
  counts : ∀ p s, e.operatorSnapshot p = some s → s.finalized = true → p ∈ counted
  valid : e.epochSnapshot.validOperatorVaultDelegations =
    (counted.map (e.valueAt (·.validOperatorVaultDelegations))).sum
  regular : ∀ p s, e.operatorSnapshot p = some s → s.Regular ∧ s.ncnOperatorIndex = index p ∧
    e.epochState.operatorSnapshotProgress.get? (index p) = some s.progress

namespace Progressed
variable {index : Pubkey → ℕ} {math : PreciseMath} {e e' : Epoch} {created counted : List Pubkey}

/-- A snapshot is written for an operator that was not counted, with its progress, and the operator is counted
if it is then finalized. -/
lemma write (h : Progressed index e created counted) (hinj : Function.Injective index) {p : Pubkey}
    {s : OperatorSnapshot} {slot : ℕ} {es : EpochSnapshot} {st : EpochState} (hp : p ∉ counted)
    (hmem : p ∈ created ∨ index p < e.epochSnapshot.operatorCount)
    (hes : Epoch.CountsIf s.finalized slot s.validOperatorVaultDelegations s.stakeWeights e.epochSnapshot es)
    (hkept : Epoch.groundwork { e.setOperatorSnapshot p s with epochSnapshot := es, epochState := st }
      |>.SnapshotKept)
    (hs : s.Regular ∧ s.ncnOperatorIndex = index p) (hlt : index p < maxOperators)
    (hst : st.operatorSnapshotProgress = e.epochState.operatorSnapshotProgress.set (index p) s.progress) :
    ∃ created' counted', Progressed index
      { e.setOperatorSnapshot p s with epochSnapshot := es, epochState := st } created' counted' := by
  obtain ⟨created', _, hagg⟩ := h.aggregated.write st hp hmem hes id
  refine ⟨created', _, hagg, hkept, fun q t ht hfin => ?_, ?_, fun q t ht => ?_⟩
  · by_cases hq : q = p
    · subst hq
      cases Option.some.inj (ht.symm.trans Epoch.operatorSnapshot_setOperatorSnapshot)
      rw [hfin]
      simp
    · have ht : (e.setOperatorSnapshot p s).operatorSnapshot q = some t := ht
      rw [Epoch.operatorSnapshot_setOperatorSnapshot_ne hq] at ht
      exact List.mem_append_left _ (h.counts q t ht hfin)
  · refine Eq.trans ?_ (Epoch.sum_valueAt_append hp s s.finalized).symm
    rw [← h.valid]
    cases hfin : s.finalized with
    | false => rw [hfin] at hes; rw [show es = e.epochSnapshot from hes]; rfl
    | true => rw [hfin] at hes; exact (EpochSnapshot.incrementOperatorRegistration_run_ok hes).2.2.1
  · show t.Regular ∧ _ ∧ st.operatorSnapshotProgress.get? (index q) = _
    by_cases hq : q = p
    · subst hq
      cases Option.some.inj (ht.symm.trans Epoch.operatorSnapshot_setOperatorSnapshot)
      exact ⟨hs.1, hs.2, by rw [hst, Table.get?_set_self hlt]⟩
    · have ht : (e.setOperatorSnapshot p s).operatorSnapshot q = some t := ht
      rw [Epoch.operatorSnapshot_setOperatorSnapshot_ne hq] at ht
      obtain ⟨hreg, hindex, hget⟩ := h.regular q t ht
      refine ⟨hreg, hindex, ?_⟩
      rw [hst, Table.get?_set_ne fun heq => hq (hinj heq).symm]
      exact hget

/-- Creating a snapshot: only that of an inactive operator is finalized at once. -/
lemma create (h : Progressed index e created counted) (hinj : Function.Injective index) {clock : Clock}
    {bump : UInt8} {op : NcnOperator} (hindex : op.ncnOperatorIndex = index op.operator)
    (hrun : (Epoch.processInitializeOperatorSnapshot clock bump op).run e = .ok () e') :
    ∃ created' counted', Progressed index e' created' counted' := by
  have hkept := h.kept.create hrun
  obtain ⟨hnone, hlt, s, es, st, hs, hes, hst, rfl⟩ := Epoch.processInitializeOperatorSnapshot_run_ok hrun
  obtain ⟨hreg, _, hidx, _, hcount, hvalid, hactive⟩ := OperatorSnapshot.initialized_ok hs
  obtain ⟨hidxlt, hst'⟩ := EpochState.updateReallocOperatorSnapshot_run_ok hst
  have hzero : s.stakeWeights = .default := StakeWeights.ext hreg.stake
  have hpos : 0 < e.epochSnapshot.vaultCount := h.kept.vaultCount ▸ h.kept.vaultCount_pos
  have hfin : s.finalized = !op.isActive := by
    rw [OperatorSnapshot.finalized, hcount, hreg.registered]
    cases op.isActive with
    | false => rfl
    | true => exact beq_eq_false_iff_ne.2 hpos.ne
  have hprogress : (if op.isActive then Progress.new e.epochState.vaultCount else ⟨1, 1⟩) = s.progress := by
    rw [OperatorSnapshot.progress, hactive, hcount, hreg.registered]
    cases op.isActive with
    | false => rfl
    | true => exact congrArg Progress.new h.kept.vaultCount
  have hes' : Epoch.CountsIf s.finalized clock.slot s.validOperatorVaultDelegations s.stakeWeights
      e.epochSnapshot es := by
    rw [hfin, hvalid, hzero]
    exact hes
  refine h.write hinj (h.aggregated.not_counted_of_none hnone) (.inr (hindex ▸ hlt)) hes' hkept
    ⟨.initialized hs, hidx.trans hindex⟩ (hindex ▸ hidxlt) ?_
  rw [hst', ← hindex, ← hprogress]

/-- Registering a vault. -/
lemma register (h : Progressed index e created counted) (hinj : Function.Injective index) {clock : Clock}
    {operator : Pubkey} {v : VaultDelegation}
    (hrun : (Epoch.processSnapshotVaultOperatorDelegation math clock operator v).run e = .ok () e') :
    ∃ created' counted', Progressed index e' created' counted' := by
  have hkept := h.kept.register hrun
  obtain ⟨s, s', sw, es, st, hs, _, hreg, hes, hst, rfl⟩ :=
    Epoch.processSnapshotVaultOperatorDelegation_run_ok hrun
  have hopen := (OperatorSnapshot.incrementVaultOperatorDelegationRegistration_run_ok hreg).1
  obtain ⟨hregular, hidx, hget⟩ := h.regular operator s hs
  obtain ⟨hregular', hidx', hnext⟩ := hregular.register hreg
  obtain ⟨hlt, hst'⟩ := EpochState.updateSnapshotVaultOperatorDelegation_run_ok hst
  rw [hidx', hidx] at hlt hst'
  refine h.write hinj (h.aggregated.not_counted_of_open hs hopen)
    (.inl ((h.aggregated.created_iff _).2 ⟨s, hs⟩)) hes hkept ⟨hregular', hidx'.trans hidx⟩ hlt ?_
  rw [hst', EpochState.operatorProgress, hget, Option.getD_some, hnext]

/-- Every step keeps the records in agreement. -/
lemma step (h : Progressed index e created counted) (hinj : Function.Injective index)
    (hstep : Epoch.SnapshotStep math index e e') : ∃ created' counted', Progressed index e' created' counted' := by
  cases hstep with
  | createSnapshot clock bump op hindex hrun => exact h.create hinj hindex hrun
  | registerVault clock operator v hrun => exact h.register hinj hrun

/-- When the snapshot of the epoch has just been created, no operator has one. -/
lemma opening {cl : Cluster} {s : Lifecycle} (hb : s.book.Live cl.index) (hkept : s.Kept)
    (hclosing : s.accounts.epochState.isClosing = false) (habsent : s.single .epochSnapshot = .absent)
    (hweights : s.single .weightTable = .initialized) {operatorCount : ℕ} (hcount : operatorCount ≠ 0)
    (bump : UInt8) (slot : ℕ) :
    Progressed cl.index { s.accounts with
      epochSnapshot := .new s.accounts.config.ncn s.epoch bump slot operatorCount
        s.accounts.weightTable.vaultCount (s.accounts.config.feeConfig.currentFees s.epoch)
      epochState := s.accounts.epochState.updateInitializeEpochSnapshot operatorCount } [] [] := by
  have hstatus : s.accounts.epochState.accountStatus.epochSnapshot = .dne := by
    have ht := hb.single .epochSnapshot
    rw [show s.book.single _ = _ from habsent, show s.book.closing = _ from hclosing] at ht
    exact ht.of_absent
  have hnone := (hkept.unopened hstatus).2
  have hw := hkept.weights hweights
  constructor
  case aggregated =>
    constructor
    case created_iff => intro p; simp [hnone]
    case created_nodup => exact List.nodup_nil
    case index_lt => simp
    case counted_sub => simp
    case counted_nodup => exact List.nodup_nil
    case registered => rfl
    case stake => rfl
    case finalized => simp
  case kept => exact ⟨rfl, Nat.zero_le _, rfl, Nat.pos_of_ne_zero hcount, hw.vaultCount, hw.vaultCount_pos⟩
  case counts => intro p t ht; rw [hnone p] at ht; cases ht
  case valid => rfl
  case regular => intro p t ht; rw [hnone p] at ht; cases ht

/-- No operator has a snapshot when none was created. -/
lemma operatorSnapshot_eq_none (h : Progressed index e [] counted) (p : Pubkey) : e.operatorSnapshot p = none := by
  by_contra hsome
  obtain ⟨s, hs⟩ := Option.ne_none_iff_exists'.1 hsome
  cases (h.aggregated.created_iff p).2 ⟨s, hs⟩

/-- It is about the snapshots and their progress only. -/
lemma congr (h : Progressed index e created counted) (hes : e'.epochSnapshot = e.epochSnapshot)
    (hops : e'.operatorSnapshot = e.operatorSnapshot)
    (hprogress : e'.epochState.operatorSnapshotProgress = e.epochState.operatorSnapshotProgress)
    (hkept : e'.groundwork.SnapshotKept) : Progressed index e' created counted := by
  have hvalue : ∀ f, e'.valueAt f = e.valueAt f := by
    intro f
    funext p
    simp only [Epoch.valueAt, hops]
  have hagg := h.aggregated
  constructor
  case aggregated =>
    constructor
    case created_iff => intro p; rw [hops]; exact hagg.created_iff p
    case created_nodup => exact hagg.created_nodup
    case index_lt => rw [hes]; exact hagg.index_lt
    case counted_sub => exact hagg.counted_sub
    case counted_nodup => exact hagg.counted_nodup
    case registered => rw [hes]; exact hagg.registered
    case stake => rw [hes, hagg.stake]; exact congrArg (fun f => (counted.map f).sum) (hvalue _).symm
    case finalized => rw [hops]; exact hagg.finalized
  case kept => exact hkept
  case counts => rw [hops]; exact h.counts
  case valid => rw [hes, hvalue]; exact h.valid
  case regular => rw [hops, hprogress]; exact h.regular

/-- There are no more operators than indices. -/
lemma registered_le (h : Progressed index e created counted) (hinj : Function.Injective index) :
    e.epochSnapshot.operatorsRegistered ≤ maxOperators := by
  rw [h.aggregated.registered]
  refine length_le_of_index_lt hinj h.aggregated.counted_nodup fun p hp => ?_
  obtain ⟨s, hs⟩ := (h.aggregated.created_iff p).1 (h.aggregated.counted_sub hp)
  have hget := (h.regular p s hs).2.2
  exact (List.getElem?_eq_some_iff.1 hget).1.trans_eq (Table.length_eq _)

end Progressed

namespace Lifecycle
variable {cl : Cluster} {i : Instruction} {s s' : Lifecycle}

/-- While the epoch is not closing, what is recorded of the operators agrees. -/
def Progressing (cl : Cluster) (s : Lifecycle) : Prop :=
  s.accounts.epochState.isClosing = false → s.single .epochSnapshot = .initialized →
    ∃ created counted, Progressed cl.index s.accounts created counted

/-- An instruction that does not show in the snapshots. -/
lemma Progressing.frame (h : Progressing cl s) (hb : s.book.Live cl.index)
    (hchange : Book.Change cl.index s.book s'.book) (hkept' : Kept s')
    (hsnap : s'.single .epochSnapshot = .initialized → s.single .epochSnapshot = .initialized)
    (hes : s'.accounts.epochSnapshot = s.accounts.epochSnapshot)
    (hops : s'.accounts.epochState.isClosing = false →
      s'.accounts.operatorSnapshot = s.accounts.operatorSnapshot)
    (hprogress : s'.accounts.epochState.operatorSnapshotProgress =
      s.accounts.epochState.operatorSnapshotProgress) : Progressing cl s' := by
  intro hclosing hinit
  obtain ⟨created, counted, hp⟩ := h (hchange.closing_of_closing hb.live hclosing) (hsnap hinit)
  exact ⟨created, counted, hp.congr hes (hops hclosing) hprogress (hkept'.snapshot hinit)⟩

/-- A quiet instruction that does not close keeps the snapshots of the operators. -/
lemma Quiet.operatorSnapshot_eq (h : Quiet s s') (hb : s.book.Live cl.index)
    (hchange : Book.Change cl.index s.book s'.book) (hclosing : s'.accounts.epochState.isClosing = false) :
    s'.accounts.operatorSnapshot = s.accounts.operatorSnapshot := by
  funext p
  cases hp' : s'.accounts.operatorSnapshot p with
  | some t => exact (h.operatorSnapshot p t hp').symm
  | none =>
    cases hp : s.accounts.operatorSnapshot p with
    | none => rfl
    | some t =>
      have hbook : s.book.snapshot p = some t.ncnOperatorIndex := congrArg (Option.map _) hp
      have hkeep := hchange.snapshot_of_closing hb.live hclosing hbook
      rw [show s'.book.snapshot p = none from congrArg (Option.map _) hp'] at hkeep
      cases hkeep

/-- Every effect keeps the records in agreement. -/
lemma Progressing.effect (hb : s.book.Live cl.index) (hchange : Book.Change cl.index s.book s'.book)
    (hkept : Kept s) (h : Progressing cl s) (heffect : Effect cl i s s') : Progressing cl s' := by
  have hkept' := hkept.effect hb hchange heffect
  cases heffect with
  | quiet hq =>
    exact h.frame hb hchange hkept' (hq.single _ (by decide)) (congrArg Groundwork.epochSnapshot hq.groundwork)
      (hq.operatorSnapshot_eq hb hchange) (congrArg (·.milestones.operatorSnapshotProgress) hq.groundwork)
  | start clock bump hlive =>
    rw [show s.epochState = true from hb.live] at hlive
    cases hlive
  | openSnapshot clock bump n _ hclosing habsent hweights _ hn hs' =>
    subst hs'
    exact fun _ _ => ⟨[], [], .opening hb hkept hclosing habsent hweights hn bump clock.slot⟩
  | createSnapshot clock bump op e _ hsnap hindex hrun hs' =>
    subst hs'
    intro hclosing _
    obtain ⟨created, counted, hp⟩ := h (hchange.closing_of_closing hb.live hclosing) hsnap
    exact hp.create cl.index_injective hindex hrun
  | registerVault clock operator v e _ hsnap hrun hs' =>
    subst hs'
    intro hclosing _
    obtain ⟨created, counted, hp⟩ := h (hchange.closing_of_closing hb.live hclosing) hsnap
    exact hp.register cl.index_injective hrun
  | allocateBox bump _ hs' =>
    subst hs'
    exact h.frame hb hchange hkept' (fun hsnap =>
      single_of_setSingle_ne .ballotBox (.allocated maxReallocBytes) s (by decide) hsnap) rfl
      (fun _ => rfl) rfl
  | fillTable clock bump vaultList stMintList w dataLen _ _ _ hs' =>
    subst hs'
    exact h.frame hb hchange hkept' (fun hsnap =>
      single_of_setSingle_ne .weightTable .initialized s (by decide) hsnap) rfl
      (fun _ => rfl) rfl
  | fillBox clock bump dataLen _ _ hs' =>
    subst hs'
    exact h.frame hb hchange hkept' (fun hsnap =>
      single_of_setSingle_ne .ballotBox .initialized s (by decide) hsnap) rfl
      (fun _ => rfl) rfl
  | setWeights w _ _ _ hs' => subst hs'; exact h.frame hb hchange hkept' id rfl (fun _ => rfl) rfl
  | vote clock operator voter operatorAdmin weatherStatus e _ _ _ _ hrun hs' =>
    subst hs'
    obtain ⟨_, _, _, _, _, _, _, _, _, _, rfl⟩ := Epoch.processCastVote_run_ok hrun
    exact h.frame hb hchange hkept' id rfl (fun _ => rfl) rfl
  | tieBreak clock tieBreakerAdmin weatherStatus e _ _ _ hrun hs' =>
    subst hs'
    obtain ⟨b, _, rfl⟩ := Epoch.processAdminSetTieBreaker_run_ok hrun
    rw [EpochState.updateSetTieBreaker_eq] at hchange hkept' ⊢
    exact h.frame hb hchange hkept' id rfl (fun _ => rfl) rfl

/-- The records agree in every state that can be reached from nothing, until the epoch closes. -/
theorem progressing {s₀ : Lifecycle} (h₀ : s₀.Untouched) (h : Run (Step cl) s₀ s) (hlive : s.epochState = true) :
    Progressing cl s := by
  refine live_invariant h₀ (fun s _ _ _ _ hnone _ hsnap => absurd hsnap (not_initialized hnone _))
    (fun s s' _ hrun hb hchange _ heffect hp => ?_) (h.mono fun _ _ => Step.stepIn) hlive
  exact hp.effect hb hchange (kept h₀ (hrun.mono fun _ _ => StepIn.step) hb.live) heffect

end Lifecycle

/-- What the epoch's snapshot and the epoch state say of the operators is what their snapshots say: the counted
operators are those with a finalized snapshot, each once, and progress is complete when the snapshot is. -/
structure Epoch.SnapshotsCounted (e : Epoch) : Prop where
  counted : ∃ counted : List Pubkey, counted.Nodup ∧
    (∀ p, p ∈ counted ↔ ∃ s, e.operatorSnapshot p = some s ∧ s.finalized = true) ∧
    e.epochSnapshot.operatorsRegistered = counted.length ∧
    e.epochSnapshot.stakeWeights.stakeWeight = (counted.map e.stakeAt).sum ∧
    e.epochSnapshot.validOperatorVaultDelegations =
      (counted.map (e.valueAt (·.validOperatorVaultDelegations))).sum
  registered_le : e.epochSnapshot.operatorsRegistered ≤ e.epochSnapshot.operatorCount
  epochProgress : e.epochState.epochSnapshotProgress =
    ⟨e.epochSnapshot.operatorsRegistered, e.epochSnapshot.operatorCount⟩
  operatorProgress : ∀ p s, e.operatorSnapshot p = some s →
    ∃ progress, e.epochState.operatorSnapshotProgress.get? s.ncnOperatorIndex = some progress ∧
      (progress.isComplete = true ↔ s.finalized = true)

lemma Progressed.snapshotsCounted {index : Pubkey → ℕ} {e : Epoch} {created counted : List Pubkey}
    (h : Progressed index e created counted) : e.SnapshotsCounted := by
  constructor
  case counted =>
    refine ⟨counted, h.aggregated.counted_nodup, fun p => ⟨fun hp => ?_, ?_⟩, h.aggregated.registered,
      h.aggregated.stake, h.valid⟩
    · obtain ⟨s, hs⟩ := (h.aggregated.created_iff p).1 (h.aggregated.counted_sub hp)
      exact ⟨s, hs, h.aggregated.finalized p hp s hs⟩
    · rintro ⟨s, hs, hfin⟩
      exact h.counts p s hs hfin
  case registered_le => exact h.kept.registered_le
  case epochProgress => exact h.kept.progress
  case operatorProgress =>
    intro p s hs
    obtain ⟨hregular, hindex, hget⟩ := h.regular p s hs
    exact ⟨s.progress, hindex ▸ hget, hregular.isComplete_iff⟩

/-- In every state that creations of snapshots and registrations of vaults, in any order, make out of the one in
which the epoch's snapshot has just been created, the operators are counted exactly when their snapshots are
finalized, and a finalized snapshot never changes again. -/
theorem snapshots_counted {cl : Cluster} {s₀ s s₁ : Lifecycle} (h₀ : s₀.Untouched)
    (hrun : Run (Lifecycle.Step cl) s₀ s) {clock : Clock} {bump : UInt8} {operatorCount : ℕ}
    (hopen : (Lifecycle.processInitializeEpochSnapshot clock bump operatorCount).run s = .ok () s₁) {e : Epoch}
    (hsteps : Run (Epoch.SnapshotStep cl.math cl.index) s₁.accounts e) :
    e.SnapshotsCounted ∧ ∀ e', Run (Epoch.SnapshotStep cl.math cl.index) e e' →
      ∀ p t, e.operatorSnapshot p = some t → t.finalized = true → e'.operatorSnapshot p = some t := by
  constructor
  · have hstart : Progressed cl.index s₁.accounts [] [] := by
      obtain ⟨hlive, hclosing, habsent, hweights, _, hcount, rfl⟩ :=
        Lifecycle.processInitializeEpochSnapshot_ok hopen
      exact .opening (Lifecycle.live_book h₀ hrun hlive) (Lifecycle.kept h₀ hrun hlive) hclosing habsent hweights
        hcount bump clock.slot
    obtain ⟨created, counted, h⟩ : ∃ created counted, Progressed cl.index e created counted :=
      hsteps.invariant (I := fun e => ∃ created counted, Progressed cl.index e created counted)
        ⟨[], [], hstart⟩ fun _ _ hstep ⟨_, _, h⟩ => h.step cl.index_injective hstep
    exact h.snapshotsCounted
  · intro e' hrun' p t ht hfin
    exact hrun'.invariant (I := fun e => e.operatorSnapshot p = some t) ht
      fun _ _ hstep ht => hstep.finalized_same ht hfin

/-- An active operator with one vault and an inactive one, both counted. -/
theorem snapshots_counted_two_operators :
    ∃ (s s₁ : Lifecycle) (e : Epoch), Run (Lifecycle.Step Lifecycle.smallCluster) Lifecycle.small s ∧
      (Lifecycle.processInitializeEpochSnapshot ⟨1, 0⟩ 0 2).run s = .ok () s₁ ∧
      Run (Epoch.SnapshotStep Lifecycle.smallCluster.math Lifecycle.smallCluster.index) s₁.accounts e ∧
      e.epochSnapshot.operatorsRegistered = 2 ∧ e.epochSnapshot.stakeWeights.stakeWeight = 5 ∧
      e.SnapshotsCounted := by
  let start := ((Lifecycle.smallRun false).take 5).forM (Lifecycle.exec Lifecycle.smallCluster)
  let s := commit start Lifecycle.small
  let s₁ := commit (Lifecycle.processInitializeEpochSnapshot ⟨1, 0⟩ 0 2) s
  let active : NcnOperator := ⟨7, 0, 0, 0, true⟩
  let inactive : NcnOperator := ⟨8, 1, 0, 1, false⟩
  let register := Epoch.processSnapshotVaultOperatorDelegation Lifecycle.smallCluster.math ⟨1, 0⟩ 7
    (.small false 5)
  let e₁ := commit (Epoch.processInitializeOperatorSnapshot ⟨1, 0⟩ 0 active) s₁.accounts
  let e₂ := commit (Epoch.processInitializeOperatorSnapshot ⟨1, 0⟩ 0 inactive) e₁
  let e₃ := commit register e₂
  have hs : start.run Lifecycle.small = .ok () s := Succeeds.run_eq (by decide +kernel)
  have hopen : (Lifecycle.processInitializeEpochSnapshot ⟨1, 0⟩ 0 2).run s = .ok () s₁ :=
    Succeeds.run_eq (by decide +kernel)
  have h₁ : (Epoch.processInitializeOperatorSnapshot ⟨1, 0⟩ 0 active).run s₁.accounts = .ok () e₁ :=
    Succeeds.run_eq (by decide +kernel)
  have h₂ : (Epoch.processInitializeOperatorSnapshot ⟨1, 0⟩ 0 inactive).run e₁ = .ok () e₂ :=
    Succeeds.run_eq (by decide +kernel)
  have h₃ : register.run e₂ = .ok () e₃ := Succeeds.run_eq (by decide +kernel)
  have hregistered : e₃.epochSnapshot.operatorsRegistered = 2 := by decide +kernel
  have hstake : e₃.epochSnapshot.stakeWeights.stakeWeight = 5 := by decide +kernel
  clear_value s s₁ e₁ e₂ e₃
  have hrun : Run (Lifecycle.Step Lifecycle.smallCluster) Lifecycle.small s := Run.of_forM _ hs
  have hsteps : Run (Epoch.SnapshotStep Lifecycle.smallCluster.math Lifecycle.smallCluster.index)
      s₁.accounts e₃ :=
    ((Relation.ReflTransGen.single (.createSnapshot ⟨1, 0⟩ 0 active (by decide) h₁)).tail
      (.createSnapshot ⟨1, 0⟩ 0 inactive (by decide) h₂)).tail (.registerVault ⟨1, 0⟩ 7 (.small false 5) h₃)
  exact ⟨s, s₁, e₃, hrun, hopen, hsteps, hregistered, hstake,
    (snapshots_counted Lifecycle.small_untouched hrun hopen hsteps).1⟩

end NcnProgram
