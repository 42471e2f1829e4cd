import NcnProgram.Phases.Order
import NcnProgram.Routing.Errors
import NcnProgram.Snapshot.Progress

/-!
# The end of voting and the start of routing

After a win by votes, votes may still be cast for a number of slots. Two accounts know when this ends: the ballot
box, which the voting and routing instructions ask, and the epoch state, from which the phase is computed. They
agree but for one slot, the last one of the voting window: the ballot box still takes votes at it, and the epoch
state has rewards distributed.
-/

namespace NcnProgram
open Lib NCNProgramError

/-! ## Route calls that come too early -/

/-- A route call is refused because voting is not over only if it is not. -/
lemma Epoch.route_not_refused {math : PreciseMath} {clock : Clock} {rent maxIterations : ℕ} {e : Epoch}
    (h : e.ballotBox.isVotingValid clock.slot e.config.validSlotsAfterConsensus = .ok false) :
    ¬FailsWith (processRouteNcnRewards math clock rent maxIterations) e (votingIsNotOver : ProgramError) := by
  have hroute : Avoids (votingIsNotOver : ProgramError) (do
      onNcnRewardRouter (NCNRewardRouter.routeOperatorVaultRewards math e.ballotBox maxIterations)
      let router := (← get).ncnRewardRouter
      onEpochState (modify (EpochState.updateRouteRewards router.ncnRewards router.protocolRewards
        router.totalRewards)) : Mut Epoch Unit) :=
    .bind (.zoom (NCNRewardRouter.avoids_routeOperatorVaultRewards (by decide) (by decide) (by decide) (by decide)
      _ _)) fun _ => .bind .get fun _ => .zoom (.modify _)
  have hrest : Avoids (votingIsNotOver : ProgramError) (do
      if e.ncnRewardRouter.stillRouting = false then
        onNcnRewardRouter (NCNRewardRouter.routeIncomingRewards rent e.ncnRewardReceiver)
        onNcnRewardRouter (NCNRewardRouter.routeRewardPool math e.epochSnapshot.fees)
      onNcnRewardRouter (NCNRewardRouter.routeOperatorVaultRewards math e.ballotBox maxIterations)
      let router := (← get).ncnRewardRouter
      onEpochState (modify (EpochState.updateRouteRewards router.ncnRewards router.protocolRewards
        router.totalRewards)) : Mut Epoch Unit) :=
    .ite (.bind (.zoom (NCNRewardRouter.avoids_routeIncomingRewards (by decide) _ _)) fun _ =>
      .bind (.zoom (NCNRewardRouter.avoids_routeRewardPool (by decide) _)) fun _ => hroute) hroute
  rintro ⟨e', hrun⟩
  unfold processRouteNcnRewards at hrun
  simp only [EStateM.run_bind, EStateM.run_get, h, ofExcept_ok, EStateM.run_pure, ensure_pos] at hrun
  exact hrest e ⟨e', hrun⟩

/-! ## What a win by votes comes after -/

namespace Lifecycle
variable {cl : Cluster} {i : Instruction} {s s' : Lifecycle}

/-- The weights are set when there is a snapshot of the epoch, and the snapshots are done when a ballot has won by
votes. -/
structure Prepared (s : Lifecycle) : Prop where
  weights : s.single .epochSnapshot = .initialized → s.accounts.epochState.weightsDone = true
  votes : s.single .ballotBox = .initialized →
    s.accounts.ballotBox.slotConsensusReached ≠ defaultConsensusReachedSlot →
    s.accounts.epochState.weightsDone = true ∧ s.accounts.epochState.snapshotDone = true

/-- A snapshot that is there after an instruction was there before it, or the weights are set. -/
lemma Effect.opened (hb : s.book.Live cl.index) (hk : Kept s) (h : Effect cl i s s')
    (hs' : s'.single .epochSnapshot = .initialized) :
    s.single .epochSnapshot = .initialized ∨ s.accounts.epochState.weightsDone = true := by
  cases h with
  | quiet hq => exact .inl (hq.single _ (by decide) hs')
  | start clock bump hdead => rw [show s.epochState = true from hb.live] at hdead; cases hdead
  | openSnapshot clock bump n _ _ _ hinit hfin =>
    right
    have ht := hb.single .weightTable
    rw [show s.book.single _ = _ from hinit] at ht
    have hall : s.accounts.weightTable.mintCount = s.accounts.weightTable.weightCount := by
      rw [WeightTable.finalized, Bool.and_eq_true, beq_iff_eq] at hfin
      exact hfin.2
    rw [EpochState.weightsDone, Bool.and_eq_true, bne_iff_ne]
    exact ⟨ht.ne_dne, (hk.weights hinit).isComplete_iff.2 hall.le⟩
  | allocateBox bump _ h =>
    subst h
    exact .inl (single_of_setSingle_ne .ballotBox (.allocated maxReallocBytes) s (by decide) hs')
  | fillTable clock bump vaultList stMintList w dataLen _ _ _ h =>
    subst h
    exact .inl (single_of_setSingle_ne .weightTable .initialized s (by decide) hs')
  | fillBox clock bump dataLen _ _ h =>
    subst h
    exact .inl (single_of_setSingle_ne .ballotBox .initialized s (by decide) hs')
  | setWeights w _ _ _ h => subst h; exact .inl hs'
  | createSnapshot clock bump op e _ _ _ _ h => subst h; exact .inl hs'
  | registerVault clock operator v e _ _ _ h => subst h; exact .inl hs'
  | vote clock operator voter operatorAdmin weatherStatus e _ _ _ _ _ h => subst h; exact .inl hs'
  | tieBreak clock tieBreakerAdmin weatherStatus e _ _ _ _ h => subst h; exact .inl hs'

/-- When the snapshot of an undecided epoch is finalized, the snapshots are done. -/
lemma snapshotDone_of_finalized (hb : s.book.Live cl.index) (hk : Kept s) (hp : Progressing cl s)
    (hsnap : s.single .epochSnapshot = .initialized) (hbox : s.single .ballotBox = .initialized)
    (hopen : s.accounts.epochState.isConsensusReached = false)
    (hfin : s.accounts.epochSnapshot.finalized = true) : s.accounts.epochState.snapshotDone = true := by
  have hclosing : s.accounts.epochState.isClosing = false := by
    cases hc : s.accounts.epochState.isClosing with
    | false => rfl
    | true => rw [show s.accounts.epochState.isConsensusReached = true from hb.closing hc] at hopen; cases hopen
  obtain ⟨created, counted, hprogressed⟩ := hp hclosing hsnap
  have hle := hprogressed.registered_le cl.index_injective
  have hmax : maxOperators < Progress.invalid := by decide
  rw [EpochSnapshot.finalized, beq_iff_eq] at hfin
  have hstatus := hb.single .epochSnapshot
  rw [show s.book.single _ = _ from hsnap] at hstatus
  have hbstatus := hb.single .ballotBox
  rw [show s.book.single _ = _ from hbox] at hbstatus
  rw [EpochState.snapshotDone, Bool.and_eq_true, Bool.and_eq_true, bne_iff_ne, bne_iff_ne]
  refine ⟨⟨hstatus.ne_dne, Progress.isComplete_iff.2 ?_⟩, hbstatus.ne_dne⟩
  rw [show s.accounts.epochState.epochSnapshotProgress = _ from (hk.snapshot hsnap).progress, Progress.isInvalid,
    Bool.or_eq_false_iff, beq_eq_false_iff_ne, beq_eq_false_iff_ne]
  show (s.accounts.epochSnapshot.operatorsRegistered ≠ _ ∧ s.accounts.epochSnapshot.operatorCount ≠ _) ∧
    s.accounts.epochSnapshot.operatorCount ≤ s.accounts.epochSnapshot.operatorsRegistered
  omega

/-- Every effect keeps the order. -/
lemma Prepared.effect (hb : s.book.Live cl.index) (hchange : Book.Change cl.index s.book s'.book)
    (hk : Kept s) (hp : Progressing cl s) (hm : Mirrored s) (heffect : Effect cl i s s') (h : Prepared s) :
    Prepared s' := by
  have hk' := hk.effect hb hchange heffect
  have hkeep : s.accounts.epochState.weightsDone = true ∧ s.accounts.epochState.snapshotDone = true →
      s'.accounts.epochState.weightsDone = true ∧ s'.accounts.epochState.snapshotDone = true :=
    fun hdone => ⟨heffect.weightsDone hb hchange hk hk' hdone.1, heffect.snapshotDone hb hchange hk hk' hdone.2⟩
  constructor
  case weights =>
    intro hs'
    rcases heffect.opened hb hk hs' with hs | hdone
    · exact heffect.weightsDone hb hchange hk hk' (h.weights hs)
    · exact heffect.weightsDone hb hchange hk hk' hdone
  case votes =>
    intro hbox' hslot
    cases heffect.polls hb.live with
    | idle hpolls hinit =>
      have hbox : s'.accounts.ballotBox = s.accounts.ballotBox := congrArg Polls.ballotBox hpolls
      rw [hbox] at hslot
      exact hkeep (h.votes (hinit hbox') hslot)
    | allocate bump hs' =>
      subst hs'
      cases eq_of_setSingle .ballotBox (.allocated maxReallocBytes) s hbox'
    | fill clock bump dataLen _ hs' => subst hs'; exact absurd rfl hslot
    | tieBreak clock tieBreakerAdmin weatherStatus e _ hbox hrun hs' =>
      subst hs'
      obtain ⟨b, hb', rfl⟩ := Epoch.processAdminSetTieBreaker_run_ok hrun
      obtain ⟨_, _, _, rfl⟩ := BallotBox.setTieBreakerBallot_run_ok hb'
      exact hkeep (h.votes hbox hslot)
    | vote clock operator voter operatorAdmin weatherStatus e _ hbox hsnap hrun hs' =>
      subst hs'
      obtain ⟨snap, b₁, b₂, result, _, hfin, _, hcast, htally, _, rfl⟩ := Epoch.processCastVote_run_ok hrun
      obtain ⟨_, _, ⟨hsame, _⟩ | ⟨hopen, _⟩⟩ := BallotBox.vote_outcome hcast htally
      · have hslot : b₂.slotConsensusReached ≠ defaultConsensusReachedSlot := hslot
        rw [hsame] at hslot
        exact hkeep (h.votes hbox hslot)
      · have hundecided : s.accounts.epochState.isConsensusReached = false := (hm.box hbox).consensus.trans hopen
        exact hkeep ⟨h.weights hsnap, snapshotDone_of_finalized hb hk hp hsnap hbox hundecided hfin⟩

/-- The order holds in every state that can be reached from nothing. -/
theorem prepared {s₀ : Lifecycle} (h₀ : s₀.Untouched) (h : Run (StepIn cl (· < u64Max)) s₀ s)
    (hlive : s.epochState = true) : Prepared s := by
  refine live_invariant h₀ (fun s _ _ _ _ hnone => ⟨fun hsnap => ?_, fun hbox => ?_⟩)
    (fun s s' _ hrun hb hchange _ heffect hprepared => ?_) h hlive
  · exact absurd hsnap (not_initialized hnone _)
  · exact absurd hbox (not_initialized hnone _)
  · have hsteps : Run (Step cl) s₀ s := hrun.mono fun _ _ => StepIn.step
    exact hprepared.effect hb hchange (kept h₀ hsteps hb.live) (progressing h₀ hsteps hb.live)
      (mirrored h₀ hrun hb.live) heffect

end Lifecycle

/-! ## The last slot of the window -/

/-- After a win by votes the window is open up to its last slot. -/
lemma BallotBox.isVotingValid_votes {b : BallotBox} {slot valid : ℕ} (hc : b.isConsensusReached = true)
    (htie : b.tieBreakerSet = false) (h : b.slotConsensusReached + valid < 2 ^ 64) :
    b.isVotingValid slot valid = .ok (decide (slot ≤ b.slotConsensusReached + valid)) := by
  unfold isVotingValid
  rw [htie, hc, if_neg (by decide), if_pos rfl]
  show (okOr (checkedAdd 64 b.slotConsensusReached valid) (arithmeticOverflow : ProgramError) >>= _ :
    Except ProgramError Bool) = _
  rw [checkedAdd_of_lt h]
  rfl

/-- A tie breaker ends the vote at once. -/
lemma BallotBox.isVotingValid_tieBreaker {b : BallotBox} {slot valid : ℕ} (htie : b.tieBreakerSet = true) :
    b.isVotingValid slot valid = .ok false := by
  unfold isVotingValid
  rw [htie, if_pos rfl]
  rfl

namespace EpochState
variable {self : EpochState} {getEpoch : ℕ → ℕ} {valid after slot : ℕ}

/-- Whether routing can start is an answer only if the addition does not overflow. -/
lemma canStartRouting_ok {b : Bool} (hc : self.isConsensusReached = true)
    (h : self.canStartRouting valid slot = .ok b) :
    self.slotConsensusReached + valid < 2 ^ 64 ∧ b = decide (self.slotConsensusReached + valid ≤ slot) := by
  by_cases hlt : self.slotConsensusReached + valid < 2 ^ 64
  · rw [canStartRouting_eq hc hlt] at h
    exact ⟨hlt, (Except.ok.inj h).symm⟩
  · unfold canStartRouting at h
    rw [hc, if_neg (by decide), getSlotConsensusReached_ok hc] at h
    change (okOr (checkedAdd 64 self.slotConsensusReached valid) (arithmeticOverflow : ProgramError) >>= _ :
      Except ProgramError Bool) = _ at h
    rw [checkedAdd, if_neg hlt] at h
    cases h

/-- The two phases after consensus say whether routing can start. -/
lemma currentState_decided {p : State} (h : self.currentState getEpoch valid after slot = .ok p)
    (hp : p = .distribute ∨ p = .postVoteCooldown) :
    self.isConsensusReached = true ∧
      getEpoch slot - getEpoch self.slotConsensusReached < after ∧
      self.canStartRouting valid slot = .ok (decide (p = .distribute)) := by
  unfold currentState at h
  split at h
  · cases h; rcases hp with hp | hp <;> cases hp
  rename_i hclose
  split at h
  · cases h; rcases hp with hp | hp <;> cases hp
  split at h
  · cases h; rcases hp with hp | hp <;> cases hp
  split at h
  · cases h; rcases hp with hp | hp <;> cases hp
  rename_i hc
  rw [Bool.not_eq_false] at hc
  rw [Lifecycle.canCloseEpochAccounts_ok, not_and] at hclose
  refine ⟨hc, Nat.lt_of_not_le (hclose hc), ?_⟩
  obtain ⟨b, hb, h⟩ := bind_ok.1 h
  rw [hb]
  cases b with
  | false => cases h; rfl
  | true => cases h; rfl

end EpochState

/-! ## Decided epochs -/

/-- An epoch that is prepared and was decided at a slot. -/
structure Epoch.DecidedAt (e : Epoch) (slot : ℕ) : Prop where
  weights : e.epochState.weightsDone = true
  snapshot : e.epochState.snapshotDone = true
  epochState : e.epochState.isConsensusReached = true
  ballotBox : e.ballotBox.isConsensusReached = true
  slotEpochState : e.epochState.slotConsensusReached = slot
  slotBallotBox : e.ballotBox.tieBreakerSet = false → e.ballotBox.slotConsensusReached = slot

namespace Epoch.DecidedAt
variable {e : Epoch} {getEpoch : ℕ → ℕ} {decided slot valid after : ℕ}

/-- When the accounts can be closed. -/
lemma canClose_iff (h : e.DecidedAt decided) :
    e.epochState.canCloseEpochAccounts getEpoch after slot = .ok true ↔
      after ≤ getEpoch slot - getEpoch decided := by
  rw [Lifecycle.canCloseEpochAccounts_ok, h.slotEpochState, and_iff_right h.epochState]

/-- When voting is over. -/
lemma votingOver (h : e.DecidedAt decided) (hrange : decided + valid < 2 ^ 64) (hover : decided + valid < slot) :
    e.ballotBox.isVotingValid slot valid = .ok false := by
  cases htie : e.ballotBox.tieBreakerSet with
  | true => exact BallotBox.isVotingValid_tieBreaker htie
  | false =>
    have hslot := h.slotBallotBox htie
    rw [BallotBox.isVotingValid_votes h.ballotBox htie (by omega), decide_eq_false (by omega)]

/-- When votes can still be cast, if votes have decided the epoch. -/
lemma votingValid (h : e.DecidedAt decided) (htie : e.ballotBox.tieBreakerSet = false)
    (hrange : decided + valid < 2 ^ 64) (hle : slot ≤ decided + valid) :
    e.ballotBox.isVotingValid slot valid = .ok true := by
  have hslot := h.slotBallotBox htie
  rw [BallotBox.isVotingValid_votes h.ballotBox htie (by omega), decide_eq_true (by omega)]

/-- When the rewards are to be distributed. -/
lemma distribute (h : e.DecidedAt decided) (hrange : decided + valid < 2 ^ 64) (hstart : decided + valid ≤ slot)
    (hopen : getEpoch slot - getEpoch decided < after) :
    e.epochState.currentState getEpoch valid after slot = .ok .distribute := by
  have hslot := h.slotEpochState
  rw [EpochState.currentState_eq fun _ => by omega, h.weights, h.snapshot, h.epochState, hslot,
    decide_eq_true hstart, decide_eq_false (Nat.not_le.2 hopen)]
  rfl

end Epoch.DecidedAt

/-- Where votes have decided an epoch, it is prepared and both accounts know the slot. -/
lemma Lifecycle.decidedAt_of_votes {cl : Cluster} {s₀ s : Lifecycle} (h₀ : s₀.Untouched)
    (hrun : Run (StepIn cl (· < u64Max)) s₀ s) (hlive : s.epochState = true)
    (hbox : s.single .ballotBox = .initialized) (hc : s.accounts.ballotBox.isConsensusReached = true)
    (htie : s.accounts.ballotBox.tieBreakerSet = false) :
    s.accounts.DecidedAt s.accounts.ballotBox.slotConsensusReached := by
  have hm := (mirrored h₀ hrun hlive).box hbox
  have hwon : s.accounts.ballotBox.slotConsensusReached ≠ defaultConsensusReachedSlot :=
    bne_iff_ne.1 (BallotBox.isConsensusReached_of_votes htie ▸ hc)
  obtain ⟨hweights, hsnapshot⟩ := (prepared h₀ hrun hlive).votes hbox hwon
  exact ⟨hweights, hsnapshot, hm.consensus.trans hc, hc, hm.slot hc htie, fun _ => rfl⟩

/-- The phase of the epoch agrees with the guards of the instructions: rewards are distributed when voting is
over, so that a route call is not too early, and there is a cooldown when votes can still be cast. -/
structure Lifecycle.PhaseAgrees (cl : Cluster) (slot : ℕ) (s : Lifecycle) : Prop where
  distribute : s.phase cl slot = .ok .distribute →
    s.accounts.ballotBox.isVotingValid slot s.accounts.config.validSlotsAfterConsensus = .ok false ∧
      ∀ (clock : Clock) (maxIterations : ℕ), clock.slot = slot →
        ¬FailsWith (Epoch.processRouteNcnRewards cl.math clock cl.minRent maxIterations) s.accounts
          (votingIsNotOver : ProgramError)
  cooldown : s.accounts.ballotBox.isConsensusReached = true → s.accounts.ballotBox.tieBreakerSet = false →
    s.phase cl slot = .ok .postVoteCooldown →
    s.accounts.ballotBox.isVotingValid slot s.accounts.config.validSlotsAfterConsensus = .ok true

/-- The last slot of the voting window after a win by votes, when the accounts cannot be closed yet. -/
structure Lifecycle.LastVotingSlot (cl : Cluster) (slot : ℕ) (s : Lifecycle) : Prop where
  consensus : s.accounts.ballotBox.isConsensusReached = true
  tieBreaker : s.accounts.ballotBox.tieBreakerSet = false
  last : slot = s.accounts.ballotBox.slotConsensusReached + s.accounts.config.validSlotsAfterConsensus
  early : cl.getEpoch slot - cl.getEpoch s.accounts.ballotBox.slotConsensusReached <
    s.accounts.config.epochsAfterConsensusBeforeClose

/-- In every state that can be reached while the epoch goes on and has its ballot box, the phase at a slot agrees
with the guards of the instructions unless it is the last slot of the voting window. -/
theorem phase_agrees_iff {cl : Cluster} {s₀ s : Lifecycle} (h₀ : s₀.Untouched)
    (hrun : Run (Lifecycle.StepIn cl (· < u64Max)) s₀ s) (hlive : s.epochState = true)
    (hbox : s.single .ballotBox = .initialized) {slot : ℕ} (hslot : slot < 2 ^ 64) :
    s.PhaseAgrees cl slot ↔ ¬s.LastVotingSlot cl slot := by
  have hm := (Lifecycle.mirrored h₀ hrun hlive).box hbox
  have hdecided := Lifecycle.decidedAt_of_votes h₀ hrun hlive hbox
  constructor
  · rintro hagrees ⟨hc, htie, hlast, hearly⟩
    have hphase : s.phase cl slot = .ok .distribute :=
      (hdecided hc htie).distribute (by omega) hlast.ge hearly
    have hvalid := (hagrees.distribute hphase).1
    rw [(hdecided hc htie).votingValid htie (by omega) hlast.le] at hvalid
    cases hvalid
  · intro hnot
    constructor
    case distribute =>
      intro hphase
      obtain ⟨hc, hearly, hstart⟩ := EpochState.currentState_decided hphase (.inl rfl)
      have hvalid : s.accounts.ballotBox.isVotingValid slot s.accounts.config.validSlotsAfterConsensus =
          .ok false := by
        cases htie : s.accounts.ballotBox.tieBreakerSet with
        | true => exact BallotBox.isVotingValid_tieBreaker htie
        | false =>
          have hcb : s.accounts.ballotBox.isConsensusReached = true := hm.consensus.symm.trans hc
          obtain ⟨hlt, hle⟩ := EpochState.canStartRouting_ok hc hstart
          rw [hm.slot hcb htie] at hlt hle hearly
          have hle := of_decide_eq_true hle.symm
          have hne : slot ≠ s.accounts.ballotBox.slotConsensusReached +
              s.accounts.config.validSlotsAfterConsensus := fun heq => hnot ⟨hcb, htie, heq, hearly⟩
          exact (hdecided hcb htie).votingOver hlt (by omega)
      refine ⟨hvalid, ?_⟩
      rintro clock maxIterations rfl
      exact Epoch.route_not_refused hvalid
    case cooldown =>
      intro hcb htie hphase
      obtain ⟨hc, _, hstart⟩ := EpochState.currentState_decided hphase (.inr rfl)
      obtain ⟨hlt, hle⟩ := EpochState.canStartRouting_ok hc hstart
      rw [hm.slot hcb htie] at hlt hle
      have hnle := of_decide_eq_false hle.symm
      exact (hdecided hcb htie).votingValid htie hlt (by omega)

/-- The small epoch is decided at slot 10 and takes votes for 1000 slots more; it agrees one slot later. -/
theorem phase_agrees_iff_after_window :
    ∃ s, Run (Lifecycle.StepIn Lifecycle.smallCluster (· < u64Max)) Lifecycle.small s ∧
      s.phase Lifecycle.smallCluster 1011 = .ok .distribute ∧ s.PhaseAgrees Lifecycle.smallCluster 1011 := by
  let start := ((Lifecycle.smallRun false).take 12).forM (Lifecycle.exec Lifecycle.smallCluster)
  let s := commit start Lifecycle.small
  have hs : start.run Lifecycle.small = .ok () s := Succeeds.run_eq (by decide +kernel)
  have hslots : ∀ i ∈ (Lifecycle.smallRun false).take 12, ∀ t ∈ i.slot, t < u64Max := by decide +kernel
  have hstate : s.epochState = true ∧ s.single .ballotBox = .initialized ∧
      s.accounts.ballotBox.slotConsensusReached = 10 ∧ s.accounts.config.validSlotsAfterConsensus = 1000 := by
    decide +kernel
  have hphase : s.phase Lifecycle.smallCluster 1011 = .ok .distribute := by decide +kernel
  clear_value s
  obtain ⟨hlive, hbox, hslot, hvalid⟩ := hstate
  have hrun : Run (Lifecycle.StepIn Lifecycle.smallCluster (· < u64Max)) Lifecycle.small s :=
    Lifecycle.run_stepIn hslots hs
  refine ⟨s, hrun, hphase, (phase_agrees_iff Lifecycle.small_untouched hrun hlive hbox (by decide)).2 ?_⟩
  rintro ⟨_, _, hlast, _⟩
  rw [hslot, hvalid] at hlast
  cases hlast

/-- At slot 1010 the phase is to distribute, and a route call is refused because voting is not over. -/
theorem phase_disagrees_last_slot :
    ∃ s, Run (Lifecycle.StepIn Lifecycle.smallCluster (· < u64Max)) Lifecycle.small s ∧ s.epochState = true ∧
      s.single .ballotBox = .initialized ∧ s.accounts.config.Accepted ∧
      s.phase Lifecycle.smallCluster 1010 = .ok .distribute ∧
      s.accounts.ballotBox.isVotingValid 1010 s.accounts.config.validSlotsAfterConsensus = .ok true ∧
      FailsWith (Epoch.processRouteNcnRewards splMath ⟨1010, 0⟩ 5 1) s.accounts (votingIsNotOver : ProgramError) ∧
      ¬s.PhaseAgrees Lifecycle.smallCluster 1010 := by
  let start := ((Lifecycle.smallRun false).take 12).forM (Lifecycle.exec Lifecycle.smallCluster)
  let s := commit start Lifecycle.small
  have hs : start.run Lifecycle.small = .ok () s := Succeeds.run_eq (by decide +kernel)
  have hslots : ∀ i ∈ (Lifecycle.smallRun false).take 12, ∀ t ∈ i.slot, t < u64Max := by decide +kernel
  have hstate : s.epochState = true ∧ s.single .ballotBox = .initialized := by decide +kernel
  have hconfig : s.accounts.config = Lifecycle.small.accounts.config := by decide +kernel
  have hphase : s.phase Lifecycle.smallCluster 1010 = .ok .distribute := by decide +kernel
  have hvalid : s.accounts.ballotBox.isVotingValid 1010 s.accounts.config.validSlotsAfterConsensus = .ok true := by
    decide +kernel
  have hroute : FailsWith (Epoch.processRouteNcnRewards splMath ⟨1010, 0⟩ 5 1) s.accounts
      (votingIsNotOver : ProgramError) := by decide +kernel
  clear_value s
  refine ⟨s, Lifecycle.run_stepIn hslots hs, hstate.1, hstate.2, ?_, hphase, hvalid, hroute, fun hagrees => ?_⟩
  · rw [hconfig]
    exact ⟨by decide, by decide, by decide⟩
  · have hover := (hagrees.distribute hphase).1
    rw [hvalid] at hover
    cases hover

end NcnProgram
