import NcnProgram.Phases.Polls
import NcnProgram.Phases.Records

/-!
# Phases only move forward

`EpochState::current_state` computes the phase of an epoch anew from what the epoch state says of its accounts, of
three counts and of the consensus. Each of the conditions that it reads, once true, stays true: what is counted
is not started again, the slot of the consensus is written once, and time does not run back. So the phase never
moves backwards, whatever instructions are run in whatever order.
-/

namespace NcnProgram
open Lib NCNProgramError

/-! ## The phase as a function of five conditions -/

namespace EpochState

/-- The place of a phase in the order of the phases. -/
def State.position : State → ℕ
  | .setWeight => 0
  | .snapshot => 1
  | .vote => 2
  | .postVoteCooldown => 3
  | .distribute => 4
  | .close => 5

instance : LE State := ⟨fun p q => p.position ≤ q.position⟩

instance (p q : State) : Decidable (p ≤ q) := inferInstanceAs (Decidable (p.position ≤ q.position))

/-- The phase of an epoch, by what has been reached. -/
def stateOf (closable weights snapshot consensus cooled : Bool) : State :=
  if closable then .close
  else if weights = false then .setWeight
  else if snapshot = false then .snapshot
  else if consensus = false then .vote
  else if cooled = false then .postVoteCooldown
  else .distribute

/-- If what has been reached stays so, the phase does not move backwards. -/
lemma stateOf_mono : ∀ a a' : Bool, a ≤ a' → ∀ w w' : Bool, w ≤ w' → ∀ s s' : Bool, s ≤ s' →
    ∀ c c' : Bool, c ≤ c' → ∀ r r' : Bool, r ≤ r' → stateOf a w s c r ≤ stateOf a' w' s' c' r' := by
  decide

variable {self : EpochState} {getEpoch : ℕ → ℕ} {valid after slot : ℕ}

lemma getSlotConsensusReached_ok (h : self.isConsensusReached = true) :
    self.getSlotConsensusReached = .ok self.slotConsensusReached := by
  unfold getSlotConsensusReached
  unfold isConsensusReached at h
  exact if_neg (bne_iff_ne.1 h)

/-- Routing can start from a slot on, when the addition does not overflow. -/
lemma canStartRouting_eq (hc : self.isConsensusReached = true)
    (h : self.slotConsensusReached + valid < 2 ^ 64) :
    self.canStartRouting valid slot = .ok (decide (self.slotConsensusReached + valid ≤ slot)) := by
  unfold canStartRouting
  rw [hc, if_neg (by decide), getSlotConsensusReached_ok hc]
  show (okOr (checkedAdd 64 self.slotConsensusReached valid) (arithmeticOverflow : ProgramError) >>= _ :
    Except ProgramError Bool) = _
  rw [checkedAdd_of_lt h]
  rfl

/-- The current phase, when the slot at which routing can start does not overflow. -/
lemma currentState_eq (h : self.isConsensusReached = true → self.slotConsensusReached + valid < 2 ^ 64) :
    self.currentState getEpoch valid after slot = .ok (stateOf
      (self.isConsensusReached && decide (after ≤ getEpoch slot - getEpoch self.slotConsensusReached))
      self.weightsDone self.snapshotDone self.isConsensusReached
      (self.isConsensusReached && decide (self.slotConsensusReached + valid ≤ slot))) := by
  have hclose : self.canCloseEpochAccounts getEpoch after slot = .ok true ↔
      (self.isConsensusReached && decide (after ≤ getEpoch slot - getEpoch self.slotConsensusReached)) = true := by
    rw [Lifecycle.canCloseEpochAccounts_ok, Bool.and_eq_true, decide_eq_true_eq]
  unfold currentState stateOf
  simp only [hclose]
  split
  · rfl
  split
  · rfl
  split
  · rfl
  split
  · rfl
  · rename_i hc
    rw [Bool.not_eq_false] at hc
    rw [canStartRouting_eq hc (h hc), hc, Bool.true_and]
    change (if decide _ = false then _ else _) = _
    split <;> rfl

/-- If what the epoch state says of the weights, the snapshots and the consensus stays, the phase does not move
backwards in time. -/
lemma currentState_mono {self' : EpochState} {slot' : ℕ} (hmono : Monotone getEpoch)
    (hw : self.weightsDone = true → self'.weightsDone = true)
    (hs : self.snapshotDone = true → self'.snapshotDone = true)
    (hc : self.isConsensusReached = true → self'.slotConsensusReached = self.slotConsensusReached)
    (h : self.isConsensusReached = true → self.slotConsensusReached + valid < 2 ^ 64)
    (h' : self'.isConsensusReached = true → self'.slotConsensusReached + valid < 2 ^ 64) (hle : slot ≤ slot') :
    ∃ p p', self.currentState getEpoch valid after slot = .ok p ∧
      self'.currentState getEpoch valid after slot' = .ok p' ∧ p ≤ p' := by
  refine ⟨_, _, currentState_eq h, currentState_eq h', ?_⟩
  cases hr : self.isConsensusReached with
  | false => exact stateOf_mono _ _ (Bool.false_le _) _ _ hw _ _ hs _ _ (Bool.false_le _) _ _ (Bool.false_le _)
  | true =>
    have hslot := hc hr
    have hr' : self'.isConsensusReached = true := by rw [isConsensusReached, hslot]; exact hr
    have hepoch := hmono hle
    simp only [hr', hslot, Bool.true_and]
    refine stateOf_mono _ _ (fun ha => ?_) _ _ hw _ _ hs _ _ le_rfl _ _ fun ha => ?_
    · rw [decide_eq_true_eq] at ha ⊢
      omega
    · rw [decide_eq_true_eq] at ha ⊢
      omega

end EpochState

/-! ## What has been reached stays so -/

/-- The weights are complete when every mint has one. -/
lemma Groundwork.WeightsKept.isComplete_iff {g : Groundwork} (h : g.WeightsKept) :
    g.milestones.setWeightProgress.isComplete = true ↔ g.weightTable.mintCount ≤ g.weightTable.weightCount := by
  rw [h.progress]
  exact g.weightTable.isComplete_iff

namespace Lifecycle
variable {cl : Cluster} {i : Instruction} {s s' : Lifecycle}

/-- An effect keeps the count of the weights, sets weights, or fills a table that had no data. -/
lemma Effect.setWeightProgress (h : Effect cl i s s') (hlive : s.epochState = true) :
    s'.accounts.epochState.setWeightProgress = s.accounts.epochState.setWeightProgress ∨
      (s.single .weightTable = .initialized ∧ s'.single .weightTable = .initialized ∧
        s.accounts.weightTable.Reweighted s'.accounts.weightTable) ∨
      ∃ dataLen, s.single .weightTable = .allocated dataLen := by
  cases h with
  | quiet hq => exact .inl (congrArg (·.milestones.setWeightProgress) hq.groundwork)
  | start clock bump hdead => rw [hlive] at hdead; cases hdead
  | fillTable clock bump vaultList stMintList w dataLen _ halloc => exact .inr (.inr ⟨dataLen, halloc⟩)
  | setWeights w _ hinit hw hs' => subst hs'; exact .inr (.inl ⟨hinit, hinit, hw⟩)
  | allocateBox bump _ hs' => subst hs'; exact .inl rfl
  | openSnapshot clock bump n _ _ _ _ _ _ hs' => subst hs'; exact .inl rfl
  | fillBox clock bump dataLen _ _ hs' => subst hs'; exact .inl rfl
  | createSnapshot clock bump op e _ _ _ hrun hs' =>
    subst hs'
    obtain ⟨_, _, t, es, st, _, _, hst, rfl⟩ := Epoch.processInitializeOperatorSnapshot_run_ok hrun
    obtain ⟨_, rfl⟩ := EpochState.updateReallocOperatorSnapshot_run_ok hst
    exact .inl rfl
  | registerVault clock operator v e _ _ hrun hs' =>
    subst hs'
    obtain ⟨t, t', sw, es, st, _, _, _, _, hst, rfl⟩ := Epoch.processSnapshotVaultOperatorDelegation_run_ok hrun
    obtain ⟨_, rfl⟩ := EpochState.updateSnapshotVaultOperatorDelegation_run_ok hst
    exact .inl rfl
  | vote clock operator voter operatorAdmin weatherStatus e _ _ _ _ hrun hs' =>
    subst hs'
    obtain ⟨_, _, _, _, _, _, _, _, _, _, rfl⟩ := Epoch.processCastVote_run_ok hrun
    exact .inl rfl
  | tieBreak clock tieBreakerAdmin weatherStatus e _ _ _ hrun hs' =>
    subst hs'
    obtain ⟨b, _, rfl⟩ := Epoch.processAdminSetTieBreaker_run_ok hrun
    rw [EpochState.updateSetTieBreaker_eq]
    exact .inl rfl

/-- Weights that are set stay set. -/
lemma Effect.weightsDone (hb : s.book.Live cl.index) (hchange : Book.Change cl.index s.book s'.book)
    (hk : Kept s) (hk' : Kept s') (h : Effect cl i s s') (hdone : s.accounts.epochState.weightsDone = true) :
    s'.accounts.epochState.weightsDone = true := by
  unfold EpochState.weightsDone at hdone ⊢
  rw [Bool.and_eq_true, bne_iff_ne] at hdone ⊢
  obtain ⟨hstatus, hcomplete⟩ := hdone
  refine ⟨hchange.status_ne_dne (k := .weightTable) hb.live hstatus, ?_⟩
  rcases h.setWeightProgress hb.live with hsame | ⟨hinit, hinit', hw⟩ | ⟨dataLen, halloc⟩
  · rw [hsame]; exact hcomplete
  · have hle : s.accounts.weightTable.mintCount ≤ s.accounts.weightTable.weightCount :=
      (hk.weights hinit).isComplete_iff.1 hcomplete
    refine (hk'.weights hinit').isComplete_iff.2 ?_
    show s'.accounts.weightTable.mintCount ≤ s'.accounts.weightTable.weightCount
    rw [hw.mintCount]
    exact hle.trans hw.weightCount
  · have ht := hb.single .weightTable
    rw [show s.book.single _ = _ from halloc] at ht
    exact absurd ht.of_allocated hstatus

/-- An effect keeps the count of the operators, counts one more at most, or opens a snapshot that was not
there. -/
lemma Effect.epochSnapshotProgress (h : Effect cl i s s') (hlive : s.epochState = true) :
    s'.accounts.epochState.epochSnapshotProgress = s.accounts.epochState.epochSnapshotProgress ∨
      (s.single .epochSnapshot = .initialized ∧ s'.single .epochSnapshot = .initialized ∧
        s'.accounts.epochSnapshot.operatorCount = s.accounts.epochSnapshot.operatorCount ∧
        s.accounts.epochSnapshot.operatorsRegistered ≤ s'.accounts.epochSnapshot.operatorsRegistered) ∨
      (s.accounts.epochState.isClosing = false ∧ s.single .epochSnapshot = .absent) := by
  cases h with
  | quiet hq => exact .inl (congrArg (·.milestones.epochSnapshotProgress) hq.groundwork)
  | start clock bump hdead => rw [hlive] at hdead; cases hdead
  | openSnapshot clock bump n _ hclosing habsent => exact .inr (.inr ⟨hclosing, habsent⟩)
  | createSnapshot clock bump op e _ hsnap _ hrun hs' =>
    subst hs'
    obtain ⟨_, _, t, es, st, _, hes, _, rfl⟩ := Epoch.processInitializeOperatorSnapshot_run_ok hrun
    exact .inr (.inl ⟨hsnap, hsnap, hes.spec.2.1, hes.registered_le⟩)
  | registerVault clock operator v e _ hsnap hrun hs' =>
    subst hs'
    obtain ⟨t, t', sw, es, st, _, _, _, hes, _, rfl⟩ := Epoch.processSnapshotVaultOperatorDelegation_run_ok hrun
    exact .inr (.inl ⟨hsnap, hsnap, hes.spec.2.1, hes.registered_le⟩)
  | allocateBox bump _ hs' => subst hs'; exact .inl rfl
  | fillTable clock bump vaultList stMintList w dataLen _ _ _ hs' => subst hs'; exact .inl rfl
  | setWeights w _ _ _ hs' => subst hs'; exact .inl rfl
  | fillBox clock bump dataLen _ _ hs' => subst hs'; exact .inl rfl
  | vote clock operator voter operatorAdmin weatherStatus e _ _ _ _ hrun hs' =>
    subst hs'
    obtain ⟨_, _, _, _, _, _, _, _, _, _, rfl⟩ := Epoch.processCastVote_run_ok hrun
    exact .inl rfl
  | tieBreak clock tieBreakerAdmin weatherStatus e _ _ _ hrun hs' =>
    subst hs'
    obtain ⟨b, _, rfl⟩ := Epoch.processAdminSetTieBreaker_run_ok hrun
    rw [EpochState.updateSetTieBreaker_eq]
    exact .inl rfl

/-- Snapshots that are done stay done: when all operators are counted no other can be. -/
lemma Effect.snapshotDone (hb : s.book.Live cl.index) (hchange : Book.Change cl.index s.book s'.book)
    (hk : Kept s) (hk' : Kept s') (h : Effect cl i s s') (hdone : s.accounts.epochState.snapshotDone = true) :
    s'.accounts.epochState.snapshotDone = true := by
  unfold EpochState.snapshotDone at hdone ⊢
  rw [Bool.and_eq_true, Bool.and_eq_true, bne_iff_ne, bne_iff_ne] at hdone ⊢
  obtain ⟨⟨hstatus, hcomplete⟩, hbox⟩ := hdone
  refine ⟨⟨hchange.status_ne_dne (k := .epochSnapshot) hb.live hstatus, ?_⟩,
    hchange.status_ne_dne (k := .ballotBox) hb.live hbox⟩
  rcases h.epochSnapshotProgress hb.live with hsame | ⟨hinit, hinit', hcount, hle⟩ | ⟨hclosing, habsent⟩
  · rw [hsame]; exact hcomplete
  · have hp := (hk.snapshot hinit).progress
    have hp' := (hk'.snapshot hinit').progress
    have hall : s.accounts.epochSnapshot.operatorCount ≤ s.accounts.epochSnapshot.operatorsRegistered := by
      have := (Progress.isComplete_iff.1 hcomplete).2
      rwa [show s.accounts.epochState.epochSnapshotProgress = _ from hp] at this
    have hle' : s'.accounts.epochSnapshot.operatorsRegistered ≤ s'.accounts.epochSnapshot.operatorCount :=
      (hk'.snapshot hinit').registered_le
    have hsame : s'.accounts.epochState.epochSnapshotProgress = s.accounts.epochState.epochSnapshotProgress := by
      have hreg : s'.accounts.epochSnapshot.operatorsRegistered = s.accounts.epochSnapshot.operatorsRegistered := by
        omega
      refine hp'.trans (Eq.trans ?_ hp.symm)
      exact congrArg₂ Progress.mk hreg hcount
    rw [hsame]
    exact hcomplete
  · have ht := hb.single .epochSnapshot
    rw [show s.book.single _ = _ from habsent, show s.book.closing = _ from hclosing] at ht
    exact absurd ht.of_absent hstatus

/-- The slot of the consensus is the slot of an instruction. -/
lemma Effect.slot_written (h : Effect cl i s s') (hlive : s.epochState = true) :
    s'.accounts.epochState.slotConsensusReached = s.accounts.epochState.slotConsensusReached ∨
      s'.accounts.epochState.slotConsensusReached ∈ i.slot := by
  cases h.polls hlive with
  | idle hpolls => exact .inl (congrArg Polls.slotConsensusReached hpolls)
  | allocate bump hs' => subst hs'; exact .inl rfl
  | fill clock bump dataLen _ hs' => subst hs'; exact .inl rfl
  | vote clock operator voter operatorAdmin weatherStatus e hi _ _ hrun hs' =>
    subst hi hs'
    obtain ⟨snap, b₁, b₂, result, _, _, _, _, _, _, rfl⟩ := Epoch.processCastVote_run_ok hrun
    simp only [EpochState.updateCastVote]
    split
    · exact .inr rfl
    · exact .inl rfl
  | tieBreak clock tieBreakerAdmin weatherStatus e hi _ hrun hs' =>
    subst hi hs'
    obtain ⟨b, _, rfl⟩ := Epoch.processAdminSetTieBreaker_run_ok hrun
    simp only [EpochState.updateSetTieBreaker_eq]
    split
    · exact .inr rfl
    · exact .inl rfl

/-- So it is the sentinel or satisfies what the slots of the instructions do. -/
lemma slot_of_run {P : ℕ → Prop} {s₀ : Lifecycle} (h₀ : s₀.Untouched) (h : Run (StepIn cl P) s₀ s)
    (hlive : s.epochState = true) (hc : s.accounts.epochState.isConsensusReached = true) :
    P s.accounts.epochState.slotConsensusReached := by
  have hslot := live_invariant (I := fun s => s.accounts.epochState.slotConsensusReached =
    defaultConsensusReachedSlot ∨ P s.accounts.epochState.slotConsensusReached) h₀
    (fun _ _ _ _ _ _ => .inl rfl) (fun s s' i _ hb _ hP heffect ih => ?_) h hlive
  · exact hslot.resolve_left (bne_iff_ne.1 hc)
  · rcases heffect.slot_written hb.live with hsame | hnew
    · rwa [hsame]
    · exact .inr (hP _ hnew)

/-- What has been done when the epoch goes on. -/
lemma done_run {P : ℕ → Prop} {s₀ : Lifecycle} (h₀ : s₀.Untouched) (h : Run (StepIn cl P) s₀ s)
    (hlive : s.epochState = true) (h' : Run (StepIn cl P) s s') (hlive' : s'.epochState = true) :
    (s.accounts.epochState.weightsDone = true → s'.accounts.epochState.weightsDone = true) ∧
      (s.accounts.epochState.snapshotDone = true → s'.accounts.epochState.snapshotDone = true) := by
  have hb := live_book h₀ (h.mono fun _ _ => StepIn.step) hlive
  have hk := kept h₀ (h.mono fun _ _ => StepIn.step) hlive
  have hend := live_run (I := fun s' => Kept s' ∧
    (s.accounts.epochState.weightsDone = true → s'.accounts.epochState.weightsDone = true) ∧
    (s.accounts.epochState.snapshotDone = true → s'.accounts.epochState.snapshotDone = true))
    (fun s₁ s₂ i hb₁ hchange _ heffect ⟨hk₁, hw, hs⟩ => ?_) hb ⟨hk, id, id⟩ h' hlive'
  · exact hend.2
  · have hk₂ := hk₁.effect hb₁ hchange heffect
    exact ⟨hk₂, fun hdone => heffect.weightsDone hb₁ hchange hk₁ hk₂ (hw hdone),
      fun hdone => heffect.snapshotDone hb₁ hchange hk₁ hk₂ (hs hdone)⟩

/-! ## Time -/

/-- The phase of an epoch at a slot. -/
def phase (cl : Cluster) (slot : ℕ) (s : Lifecycle) : Except ProgramError EpochState.State :=
  s.accounts.epochState.currentState cl.getEpoch s.accounts.config.validSlotsAfterConsensus
    s.accounts.config.epochsAfterConsensusBeforeClose slot

/-- A successful instruction that leaves the configuration alone, some time after the last one. A state is seen
together with the slot of the instruction that led to it. -/
structure TimedStep (cl : Cluster) (a b : Lifecycle × ℕ) : Prop where
  later : a.2 ≤ b.2
  pos : 0 < b.2
  lt : b.2 < 2 ^ 63
  step : StepIn cl (· = b.2) a.1 b.1
  config : b.1.accounts.config = a.1.accounts.config

lemma TimedStep.of_exec {t t' : ℕ} (hle : t ≤ t') (hrange : 0 < t' ∧ t' < 2 ^ 63) (hslot : ∀ u ∈ i.slot, u = t')
    (h : (exec cl i).run s = .ok () s') (hconfig : s'.accounts.config = s.accounts.config) :
    TimedStep cl (s, t) (s', t') :=
  ⟨hle, hrange.1, hrange.2, ⟨i, hslot, h⟩, hconfig⟩

/-- Without the time it is a run of instructions at slots of that range. -/
lemma run_of_timed {a b : Lifecycle × ℕ} (h : Run (TimedStep cl) a b) :
    Run (StepIn cl (· < 2 ^ 63)) a.1 b.1 ∧ a.2 ≤ b.2 ∧ b.1.accounts.config = a.1.accounts.config := by
  induction h with
  | refl => exact ⟨.refl, le_rfl, rfl⟩
  | tail _ hstep ih =>
    obtain ⟨i, hslot, hrun⟩ := hstep.step
    exact ⟨ih.1.tail ⟨i, fun t ht => hslot t ht ▸ hstep.lt, hrun⟩, ih.2.1.trans hstep.later,
      hstep.config.trans ih.2.2⟩

end Lifecycle

/-- For a fixed configuration and along every sequence of instructions, the phase of an epoch that goes on never
moves backwards. -/
theorem phases_move_forward {cl : Cluster} (hmono : Monotone cl.getEpoch) {s₀ s s' : Lifecycle} {t₀ t t' : ℕ}
    (h₀ : s₀.Untouched) (hconfig : s₀.accounts.config.Accepted) (h : Run (Lifecycle.TimedStep cl) (s₀, t₀) (s, t))
    (h' : Run (Lifecycle.TimedStep cl) (s, t) (s', t')) (hlive : s.epochState = true)
    (hlive' : s'.epochState = true) :
    ∃ p p', s.phase cl t = .ok p ∧ s'.phase cl t' = .ok p' ∧ p ≤ p' := by
  obtain ⟨hrun, _, hc⟩ := Lifecycle.run_of_timed h
  obtain ⟨hrun', hle, hc'⟩ := Lifecycle.run_of_timed h'
  obtain ⟨hweights, hsnapshot⟩ := Lifecycle.done_run h₀ hrun hlive hrun' hlive'
  have hb := Lifecycle.live_book h₀ (hrun.mono fun _ _ => Lifecycle.StepIn.step) hlive
  have hvalid : s.accounts.config.validSlotsAfterConsensus ≤ maxValidSlotsAfterConsensus := by
    rw [show s.accounts.config = _ from hc]
    exact hconfig.validSlotsAfterConsensus.2
  have hmax : maxValidSlotsAfterConsensus < 2 ^ 63 := by decide
  unfold Lifecycle.phase
  rw [show s'.accounts.config = _ from hc']
  refine EpochState.currentState_mono hmono hweights hsnapshot
    (Lifecycle.slotConsensusReached_run hb hrun' hlive') (fun hr => ?_) (fun hr => ?_) hle
  · have : s.accounts.epochState.slotConsensusReached < 2 ^ 63 := Lifecycle.slot_of_run h₀ hrun hlive hr
    omega
  · have : s'.accounts.epochState.slotConsensusReached < 2 ^ 63 :=
      Lifecycle.slot_of_run h₀ (hrun.trans hrun') hlive' hr
    omega

/-- The small epoch from its beginning to its only weight. -/
theorem phases_move_forward_weights_set :
    ∃ s s', Run (Lifecycle.TimedStep Lifecycle.smallCluster) (Lifecycle.small, 0) (s, 1) ∧
      Run (Lifecycle.TimedStep Lifecycle.smallCluster) (s, 1) (s', 2) ∧
      s.phase Lifecycle.smallCluster 1 = .ok .setWeight ∧ s'.phase Lifecycle.smallCluster 2 = .ok .snapshot ∧
      ∃ p p', s.phase Lifecycle.smallCluster 1 = .ok p ∧ s'.phase Lifecycle.smallCluster 2 = .ok p' ∧ p ≤ p' := by
  let vaultList : Table VaultEntry maxVaults := (Table.replicate maxVaults .default).set 0 ⟨11, 21, 1, 1⟩
  let stMintList : Table StMintEntry maxStMints := (Table.replicate maxStMints .default).set 0 ⟨21, 1⟩
  let grow := Lifecycle.Instruction.reallocWeightTable ⟨2, 0⟩ 0 vaultList stMintList
  let run := Lifecycle.exec Lifecycle.smallCluster
  let s₁ := commit (run (.initializeEpochState ⟨1, 0⟩ 0)) Lifecycle.small
  let s₂ := commit (run (.initializeWeightTable 1 vaultList)) s₁
  let s₃ := commit (run grow) s₂
  let s₄ := commit (run grow) s₃
  let s₅ := commit (run (.adminSetWeight ⟨2, 0⟩ 5 5 21 1)) s₄
  have h₁ : (run (.initializeEpochState ⟨1, 0⟩ 0)).run Lifecycle.small = .ok () s₁ :=
    Succeeds.run_eq (by decide +kernel)
  have h₂ : (run (.initializeWeightTable 1 vaultList)).run s₁ = .ok () s₂ := Succeeds.run_eq (by decide +kernel)
  have h₃ : (run grow).run s₂ = .ok () s₃ := Succeeds.run_eq (by decide +kernel)
  have h₄ : (run grow).run s₃ = .ok () s₄ := Succeeds.run_eq (by decide +kernel)
  have h₅ : (run (.adminSetWeight ⟨2, 0⟩ 5 5 21 1)).run s₄ = .ok () s₅ := Succeeds.run_eq (by decide +kernel)
  have hconfig : s₁.accounts.config = Lifecycle.small.accounts.config ∧
      s₂.accounts.config = s₁.accounts.config ∧ s₃.accounts.config = s₂.accounts.config ∧
      s₄.accounts.config = s₃.accounts.config ∧ s₅.accounts.config = s₄.accounts.config := by decide +kernel
  have hlive : s₁.epochState = true ∧ s₅.epochState = true := by decide +kernel
  have hphase : s₁.phase Lifecycle.smallCluster 1 = .ok .setWeight ∧
      s₅.phase Lifecycle.smallCluster 2 = .ok .snapshot := ⟨by rfl, by rfl⟩
  clear_value s₁ s₂ s₃ s₄ s₅
  obtain ⟨c₁, c₂, c₃, c₄, c₅⟩ := hconfig
  have hslot : ∀ {n u : ℕ}, u ∈ some n → u = n := fun h => (Option.some.inj h).symm
  have hrun : Run (Lifecycle.TimedStep Lifecycle.smallCluster) (Lifecycle.small, 0) (s₁, 1) :=
    .single (.of_exec (by decide) (by decide) (fun _ => hslot) h₁ c₁)
  have hfirst : Lifecycle.TimedStep Lifecycle.smallCluster (s₁, 1) (s₂, 2) :=
    .of_exec (by decide) (by decide) (fun _ hu => (by cases hu)) h₂ c₂
  have hrun' : Run (Lifecycle.TimedStep Lifecycle.smallCluster) (s₁, 1) (s₅, 2) :=
    (((Relation.ReflTransGen.single hfirst).tail (.of_exec le_rfl (by decide) (fun _ => hslot) h₃ c₃)).tail
      (.of_exec le_rfl (by decide) (fun _ => hslot) h₄ c₄)).tail
      (.of_exec le_rfl (by decide) (fun _ => hslot) h₅ c₅)
  refine ⟨s₁, s₅, hrun, hrun', hphase.1, hphase.2, ?_⟩
  exact phases_move_forward (fun _ _ h => Nat.div_le_div_right h) Lifecycle.small_untouched
    ⟨by decide, by decide, by decide⟩ hrun hrun' hlive.1 hlive.2

end NcnProgram
