import NcnProgram.Phases.Effect

/-!
# The progress in the epoch state is that of the accounts

The epoch state counts along with the weight table and with the snapshot of the epoch. `Lifecycle.Kept` says
that the two agree in an epoch that is going on; every instruction keeps it, so it holds in every state that
can be reached from nothing.
-/

namespace NcnProgram
open Lib NCNProgramError

namespace Groundwork

/-- The epoch state counts along with the weight table. -/
structure WeightsKept (g : Groundwork) : Prop where
  progress : g.milestones.setWeightProgress = ⟨g.weightTable.weightCount, g.weightTable.mintCount⟩
  vaultCount : g.milestones.vaultCount = g.weightTable.vaultCount
  vaultCount_pos : 0 < g.milestones.vaultCount

/-- The epoch state counts along with the snapshot of the epoch. -/
structure SnapshotKept (g : Groundwork) : Prop where
  progress : g.milestones.epochSnapshotProgress =
    ⟨g.epochSnapshot.operatorsRegistered, g.epochSnapshot.operatorCount⟩
  registered_le : g.epochSnapshot.operatorsRegistered ≤ g.epochSnapshot.operatorCount
  operatorCount : g.milestones.operatorCount = g.epochSnapshot.operatorCount
  operatorCount_pos : 0 < g.epochSnapshot.operatorCount
  vaultCount : g.milestones.vaultCount = g.epochSnapshot.vaultCount
  vaultCount_pos : 0 < g.milestones.vaultCount

variable {e e' : Epoch} {math : PreciseMath} {clock : Clock}

/-- Counting an operator, in the epoch's snapshot and in the epoch state. -/
lemma SnapshotKept.count {g : Groundwork} (h : g.SnapshotKept) {counted : Bool} {slot valid : ℕ}
    {sw : StakeWeights} {es : EpochSnapshot} (ops : Table Progress maxOperators)
    (hes : Epoch.CountsIf counted slot valid sw g.epochSnapshot es) :
    SnapshotKept { g with
      epochSnapshot := es
      milestones := { g.milestones with
        operatorSnapshotProgress := ops
        epochSnapshotProgress :=
          if counted then g.milestones.epochSnapshotProgress.next else g.milestones.epochSnapshotProgress } } := by
  obtain ⟨hopen, hcount, hvaults, hreg⟩ := hes.spec
  have hle := h.registered_le
  constructor
  case progress =>
    show (if counted then _ else _) = _
    rw [h.progress, hcount, hreg]
    cases counted <;> rfl
  case registered_le =>
    show es.operatorsRegistered ≤ es.operatorCount
    rw [hcount, hreg]
    cases counted with
    | false => exact hle
    | true =>
      have := hopen rfl
      rw [EpochSnapshot.finalized, beq_eq_false_iff_ne] at this
      rw [if_pos rfl]
      omega
  case operatorCount => exact h.operatorCount.trans hcount.symm
  case operatorCount_pos => exact hcount ▸ h.operatorCount_pos
  case vaultCount => exact h.vaultCount.trans hvaults.symm
  case vaultCount_pos => exact h.vaultCount_pos

lemma SnapshotKept.create (h : e.groundwork.SnapshotKept) {bump : UInt8} {op : NcnOperator}
    (hrun : (Epoch.processInitializeOperatorSnapshot clock bump op).run e = .ok () e') :
    e'.groundwork.SnapshotKept := by
  obtain ⟨_, _, s, es, st, _, hes, hst, rfl⟩ := Epoch.processInitializeOperatorSnapshot_run_ok hrun
  obtain ⟨_, rfl⟩ := EpochState.updateReallocOperatorSnapshot_run_ok hst
  have := h.count (e.epochState.operatorSnapshotProgress.set op.ncnOperatorIndex
    (if op.isActive then .new e.epochState.vaultCount else ⟨1, 1⟩)) hes
  cases hactive : op.isActive <;> rw [hactive] at this <;> exact this

lemma SnapshotKept.register (h : e.groundwork.SnapshotKept) {operator : Pubkey} {v : VaultDelegation}
    (hrun : (Epoch.processSnapshotVaultOperatorDelegation math clock operator v).run e = .ok () e') :
    e'.groundwork.SnapshotKept := by
  obtain ⟨s, s', sw, es, st, _, _, _, hes, hst, rfl⟩ :=
    Epoch.processSnapshotVaultOperatorDelegation_run_ok hrun
  obtain ⟨_, rfl⟩ := EpochState.updateSnapshotVaultOperatorDelegation_run_ok hst
  exact h.count _ hes

/-- What creating a snapshot or registering a vault leaves alone. -/
lemma WeightsKept.create (h : e.groundwork.WeightsKept) {bump : UInt8} {op : NcnOperator}
    (hrun : (Epoch.processInitializeOperatorSnapshot clock bump op).run e = .ok () e') :
    e'.groundwork.WeightsKept := by
  obtain ⟨_, _, s, es, st, _, _, hst, rfl⟩ := Epoch.processInitializeOperatorSnapshot_run_ok hrun
  obtain ⟨_, rfl⟩ := EpochState.updateReallocOperatorSnapshot_run_ok hst
  exact ⟨h.progress, h.vaultCount, h.vaultCount_pos⟩

lemma WeightsKept.register (h : e.groundwork.WeightsKept) {operator : Pubkey} {v : VaultDelegation}
    (hrun : (Epoch.processSnapshotVaultOperatorDelegation math clock operator v).run e = .ok () e') :
    e'.groundwork.WeightsKept := by
  obtain ⟨s, s', sw, es, st, _, _, _, _, hst, rfl⟩ :=
    Epoch.processSnapshotVaultOperatorDelegation_run_ok hrun
  obtain ⟨_, rfl⟩ := EpochState.updateSnapshotVaultOperatorDelegation_run_ok hst
  exact ⟨h.progress, h.vaultCount, h.vaultCount_pos⟩

end Groundwork

namespace Lifecycle
open Groundwork

/-- The epoch state agrees with the accounts that it counts along with; before there is a snapshot of the
epoch, it has no operators. -/
structure Kept (s : Lifecycle) : Prop where
  weights : s.single .weightTable = .initialized → s.accounts.groundwork.WeightsKept
  snapshot : s.single .epochSnapshot = .initialized → s.accounts.groundwork.SnapshotKept
  unopened : s.accounts.epochState.accountStatus.epochSnapshot = .dne →
    s.accounts.epochState.operatorCount = 0 ∧ ∀ p, s.accounts.operatorSnapshot p = none

variable {cl : Cluster} {i : Instruction} {s s' : Lifecycle}

/-- While nothing is there, nothing has to agree. -/
lemma Kept.start (hnone : s.book.AllClosed) {st : EpochState} (hst : st.operatorCount = 0) :
    Kept { s with epochState := true, accounts := { s.accounts with epochState := st } } := by
  constructor
  case weights => intro h; rw [show s.single _ = _ from hnone.single _] at h; cases h
  case snapshot => intro h; rw [show s.single _ = _ from hnone.single _] at h; cases h
  case unopened => exact fun _ => ⟨hst, fun p => Option.map_eq_none_iff.1 (hnone.snapshot p)⟩

/-- Giving another account its data or its bytes does not show. -/
lemma Kept.other (h : Kept s) {k : Single} {slot : Slot} (hk : k ≠ .weightTable ∧ k ≠ .epochSnapshot)
    {e : Epoch} {r : Bool} (hw : s.accounts.groundwork.WeightsKept → e.groundwork.WeightsKept)
    (hes : s.accounts.groundwork.SnapshotKept → e.groundwork.SnapshotKept)
    (hcount : e.epochState.operatorCount = s.accounts.epochState.operatorCount)
    (hstatus : e.epochState.accountStatus.epochSnapshot = s.accounts.epochState.accountStatus.epochSnapshot)
    (hops : e.operatorSnapshot = s.accounts.operatorSnapshot) :
    Kept { s.setSingle k slot with consensusResult := r, accounts := e } := by
  constructor
  case weights =>
    intro hs
    exact hw (h.weights (single_of_setSingle_ne k slot s hk.1.symm hs))
  case snapshot =>
    intro hs
    exact hes (h.snapshot (single_of_setSingle_ne k slot s hk.2.symm hs))
  case unopened =>
    intro (hs : e.epochState.accountStatus.epochSnapshot = .dne)
    rw [hstatus] at hs
    obtain ⟨hzero, hnone⟩ := h.unopened hs
    exact ⟨hcount.trans hzero, fun p => (congrFun hops p).trans (hnone p)⟩

/-- Every effect keeps what the epoch state says. -/
lemma Kept.effect (hb : s.book.Live cl.index) (hchange : Book.Change cl.index s.book s'.book)
    (h : Kept s) (heffect : Effect cl i s s') : Kept s' := by
  have hdne : s'.accounts.epochState.accountStatus.epochSnapshot = .dne →
      s.accounts.epochState.accountStatus.epochSnapshot = .dne := by
    intro hs'
    by_contra hs
    exact hchange.status_ne_dne (k := .epochSnapshot) hb.live hs hs'
  -- a snapshot that is there is marked
  have hopened : s.single .epochSnapshot = .initialized →
      s.accounts.epochState.accountStatus.epochSnapshot ≠ .dne := by
    intro hs
    have ht := hb.single .epochSnapshot
    rw [show s.book.single _ = _ from hs] at ht
    exact ht.ne_dne
  cases heffect with
  | quiet hq =>
    constructor
    case weights => exact fun hs' => hq.groundwork ▸ h.weights (hq.single _ (by decide) hs')
    case snapshot => exact fun hs' => hq.groundwork ▸ h.snapshot (hq.single _ (by decide) hs')
    case unopened =>
      intro hs'
      obtain ⟨hcount, hnone⟩ := h.unopened (hdne hs')
      refine ⟨(congrArg (·.milestones.operatorCount) hq.groundwork).trans hcount, fun p => ?_⟩
      cases hp : s'.accounts.operatorSnapshot p with
      | none => rfl
      | some t =>
        have := hq.operatorSnapshot p t hp
        rw [hnone p] at this
        cases this
  | start clock bump hlive =>
    rw [show s.epochState = true from hb.live] at hlive
    cases hlive
  | allocateBox bump _ hs' =>
    subst hs'
    exact h.other (by decide) (fun hw => { hw with }) (fun hes => { hes with }) rfl rfl rfl
  | fillBox clock bump dataLen _ _ hs' =>
    subst hs'
    exact h.other (by decide) (fun hw => { hw with }) (fun hes => { hes with }) rfl rfl rfl
  | fillTable clock bump vaultList stMintList w dataLen _ halloc hw hs' =>
    subst hs'
    obtain ⟨hvaults, hpos, hcount, hmints⟩ := WeightTable.initialized_ok hw
    -- the snapshot comes after the weight table
    have hstatus : s.accounts.epochState.accountStatus.epochSnapshot = .dne := by
      by_contra hne
      have ht := hb.single .weightTable
      rw [show s.book.single _ = _ from halloc] at ht
      exact hb.epochSnapshot hne ht.of_allocated
    constructor
    case weights =>
      intro _
      refine ⟨?_, hvaults.symm, hpos⟩
      show Progress.new _ = (⟨w.weightCount, w.mintCount⟩ : Progress)
      rw [hcount, hmints, Progress.new]
    case snapshot =>
      intro hs
      exact absurd hstatus (hopened (single_of_setSingle_ne .weightTable .initialized s (by decide) hs))
    case unopened => exact fun _ => h.unopened hstatus
  | setWeights w _ hinit hw hs' =>
    subst hs'
    have hk := h.weights hinit
    constructor
    case weights => exact fun _ => ⟨rfl, hk.vaultCount.trans hw.vaultCount.symm, hk.vaultCount_pos⟩
    case snapshot => exact fun hs => { h.snapshot hs with }
    case unopened => exact h.unopened
  | openSnapshot clock bump n _ _ _ hinit _ hn hs' =>
    subst hs'
    have hk := h.weights hinit
    constructor
    case weights => exact fun _ => { hk with }
    case snapshot =>
      exact fun _ => ⟨rfl, Nat.zero_le _, rfl, Nat.pos_of_ne_zero hn, hk.vaultCount, hk.vaultCount_pos⟩
    case unopened => intro hs; cases hs
  | createSnapshot clock bump op e _ hsnap _ hrun hs' =>
    subst hs'
    constructor
    case weights => exact fun hs => (h.weights hs).create hrun
    case snapshot => exact fun hs => (h.snapshot hs).create hrun
    case unopened => exact fun hs => absurd (hdne hs) (hopened hsnap)
  | registerVault clock operator v e _ hsnap hrun hs' =>
    subst hs'
    constructor
    case weights => exact fun hs => (h.weights hs).register hrun
    case snapshot => exact fun hs => (h.snapshot hs).register hrun
    case unopened => exact fun hs => absurd (hdne hs) (hopened hsnap)
  | vote clock operator voter operatorAdmin weatherStatus e _ _ _ _ hrun hs' =>
    subst hs'
    obtain ⟨_, _, _, _, _, _, _, _, _, _, rfl⟩ := Epoch.processCastVote_run_ok hrun
    exact ⟨fun hs => { h.weights hs with }, fun hs => { h.snapshot hs with }, h.unopened⟩
  | tieBreak clock tieBreakerAdmin weatherStatus e _ _ _ hrun hs' =>
    subst hs'
    obtain ⟨b, _, rfl⟩ := Epoch.processAdminSetTieBreaker_run_ok hrun
    rw [EpochState.updateSetTieBreaker_eq]
    exact ⟨fun hs => { h.weights hs with }, fun hs => { h.snapshot hs with }, h.unopened⟩

/-- What the epoch state says agrees with the accounts in every state that can be reached from nothing. -/
theorem kept {s₀ : Lifecycle} (h₀ : s₀.Untouched) (h : Run (Step cl) s₀ s) (hlive : s.epochState = true) :
    Kept s :=
  live_invariant h₀ (fun _ _ _ _ _ hnone => .start hnone rfl)
    (fun _ _ _ _ hb hchange _ heffect hk => hk.effect hb hchange heffect)
    (h.mono fun _ _ => Step.stepIn) hlive

end Lifecycle
end NcnProgram
