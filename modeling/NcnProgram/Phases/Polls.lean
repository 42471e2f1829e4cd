import NcnProgram.Phases.Effect

/-!
# The outcome of the vote, in three accounts

Whether an epoch is decided is recorded in the ballot box, in the epoch state and in the consensus result. The
box has the slot of a win by votes and the winning ballot, the epoch state the slot of any win and whether it
was a tie breaker's, and the consensus result the slot and the status that won. Votes write all three accounts,
a tie breaker the first two.

`Epoch.Mirrors` says that the epoch state agrees with the ballot box, `Epoch.RecordsVotes` that the consensus
result has every win by votes. Both hold as long as the epoch goes on and has its ballot box, when the slots of
the instructions are not the sentinels of the three accounts. A tie breaker's win is not in the consensus result.
-/

namespace NcnProgram
open Lib NCNProgramError

/-- What votes and tie breakers work on. -/
structure Polls where
  wasTieBreakerSet : Bool
  slotConsensusReached : ℕ
  votingProgress : Progress
  ballotBox : BallotBox
  consensusResult : ConsensusResult

/-- The polls of an epoch. -/
def Epoch.polls (e : Epoch) : Polls where
  wasTieBreakerSet := e.epochState.wasTieBreakerSet
  slotConsensusReached := e.epochState.slotConsensusReached
  votingProgress := e.epochState.votingProgress
  ballotBox := e.ballotBox
  consensusResult := e.consensusResult

namespace Lifecycle
variable {cl : Cluster} {i : Instruction} {s s' : Lifecycle}

/-- What an instruction does to the polls. -/
inductive PollEffect (cl : Cluster) (i : Instruction) (s s' : Lifecycle) : Prop
  | idle : s'.accounts.polls = s.accounts.polls →
      (s'.single .ballotBox = .initialized → s.single .ballotBox = .initialized) →
      (∀ n, s'.single .ballotBox = .allocated n → ∃ m, s.single .ballotBox = .allocated m) →
      PollEffect cl i s s'
  | allocate (bump : UInt8) :
      s' = { s.setSingle .ballotBox (.allocated maxReallocBytes) with
        consensusResult := true
        accounts := { s.accounts with consensusResult := .new s.accounts.config.ncn s.epoch bump } } →
      PollEffect cl i s s'
  | fill (clock : Clock) (bump : UInt8) (dataLen : ℕ) : s.single .ballotBox = .allocated dataLen →
      s' = { s.setSingle .ballotBox .initialized with
        accounts := { s.accounts with
          ballotBox := .new s.accounts.config.ncn s.epoch bump clock.slot
          epochState := s.accounts.epochState.updateReallocBallotBox } } →
      PollEffect cl i s s'
  | vote (clock : Clock) (operator voter operatorAdmin : Pubkey) (weatherStatus : UInt8) (e : Epoch) :
      i = .castVote clock operator voter operatorAdmin weatherStatus → s.single .ballotBox = .initialized →
      s.single .epochSnapshot = .initialized →
      (Epoch.processCastVote cl.math clock operator voter operatorAdmin weatherStatus).run s.accounts =
        .ok () e →
      s' = { s with accounts := e } → PollEffect cl i s s'
  | tieBreak (clock : Clock) (tieBreakerAdmin : Pubkey) (weatherStatus : UInt8) (e : Epoch) :
      i = .adminSetTieBreaker clock tieBreakerAdmin weatherStatus → s.single .ballotBox = .initialized →
      (Epoch.processAdminSetTieBreaker clock tieBreakerAdmin weatherStatus).run s.accounts = .ok () e →
      s' = { s with accounts := e } → PollEffect cl i s s'

/-- An instruction that leaves the polls and the ballot box alone. -/
lemma PollEffect.of_eq (hpolls : s'.accounts.polls = s.accounts.polls)
    (hbox : s'.single .ballotBox = s.single .ballotBox) : PollEffect cl i s s' :=
  .idle hpolls (fun h => hbox ▸ h) fun n h => ⟨n, hbox ▸ h⟩

/-- Every effect on an epoch that is going on is one of these on the polls. -/
lemma Effect.polls (h : Effect cl i s s') (hlive : s.epochState = true) : PollEffect cl i s s' := by
  cases h with
  | quiet hq =>
    have hm := congrArg Groundwork.milestones hq.groundwork
    have hpolls : s'.accounts.polls = s.accounts.polls := by
      simp only [Epoch.polls, show s'.accounts.ballotBox = _ from congrArg Groundwork.ballotBox hq.groundwork,
        show s'.accounts.consensusResult = _ from congrArg Groundwork.consensusResult hq.groundwork,
        show s'.accounts.epochState.wasTieBreakerSet = _ from congrArg Milestones.wasTieBreakerSet hm,
        show s'.accounts.epochState.slotConsensusReached = _ from congrArg Milestones.slotConsensusReached hm,
        show s'.accounts.epochState.votingProgress = _ from congrArg Milestones.votingProgress hm]
      rfl
    exact .idle hpolls (hq.single _ (by decide)) hq.allocated
  | start clock bump hdead => rw [hlive] at hdead; cases hdead
  | allocateBox bump _ hs' => exact .allocate bump hs'
  | fillBox clock bump dataLen _ halloc hs' => exact .fill clock bump dataLen halloc hs'
  | vote clock operator voter operatorAdmin weatherStatus e hi _ hbox hsnap hrun hs' =>
    exact .vote clock operator voter operatorAdmin weatherStatus e hi hbox hsnap hrun hs'
  | tieBreak clock tieBreakerAdmin weatherStatus e hi _ hbox hrun hs' =>
    exact .tieBreak clock tieBreakerAdmin weatherStatus e hi hbox hrun hs'
  | fillTable clock bump vaultList stMintList w dataLen _ _ _ hs' =>
    subst hs'
    exact .of_eq rfl (single_setSingle_ne .weightTable .ballotBox .initialized s (by decide))
  | setWeights w _ _ _ hs' => subst hs'; exact .of_eq rfl rfl
  | openSnapshot clock bump n _ _ _ _ _ _ hs' =>
    subst hs'
    exact .of_eq rfl (single_setSingle_ne .epochSnapshot .ballotBox .initialized s (by decide))
  | createSnapshot clock bump op e _ _ _ hrun hs' =>
    subst hs'
    obtain ⟨_, _, t, es, st, _, _, hst, rfl⟩ := Epoch.processInitializeOperatorSnapshot_run_ok hrun
    obtain ⟨_, rfl⟩ := EpochState.updateReallocOperatorSnapshot_run_ok hst
    exact .of_eq rfl rfl
  | registerVault clock operator v e _ _ hrun hs' =>
    subst hs'
    obtain ⟨t, t', sw, es, st, _, _, _, _, hst, rfl⟩ := Epoch.processSnapshotVaultOperatorDelegation_run_ok hrun
    obtain ⟨_, rfl⟩ := EpochState.updateSnapshotVaultOperatorDelegation_run_ok hst
    exact .of_eq rfl rfl

end Lifecycle

/-! ## The epoch state and the ballot box -/

namespace Epoch
variable {e e' : Epoch} {math : PreciseMath} {clock : Clock}

/-- The epoch state says of the vote what the ballot box says. -/
structure Mirrors (e : Epoch) : Prop where
  consensus : e.epochState.isConsensusReached = e.ballotBox.isConsensusReached
  tieBreaker : e.epochState.wasTieBreakerSet = e.ballotBox.tieBreakerSet
  slot : e.ballotBox.isConsensusReached = true → e.ballotBox.tieBreakerSet = false →
    e.epochState.slotConsensusReached = e.ballotBox.slotConsensusReached
  voted : e.epochState.votingProgress.tally = e.ballotBox.operatorsVoted

/-- It is about the polls only. -/
lemma Mirrors.of_polls (h : e.Mirrors) (hp : e'.polls = e.polls) : e'.Mirrors := by
  have hbox : e'.ballotBox = e.ballotBox := congrArg Polls.ballotBox hp
  have hslot : e'.epochState.slotConsensusReached = e.epochState.slotConsensusReached :=
    congrArg Polls.slotConsensusReached hp
  have htie : e'.epochState.wasTieBreakerSet = e.epochState.wasTieBreakerSet :=
    congrArg Polls.wasTieBreakerSet hp
  have hvoting : e'.epochState.votingProgress = e.epochState.votingProgress := congrArg Polls.votingProgress hp
  have hreached : e'.epochState.isConsensusReached = e.epochState.isConsensusReached := by
    rw [EpochState.isConsensusReached, hslot]; rfl
  refine ⟨?_, ?_, ?_, ?_⟩
  · rw [hreached, hbox]; exact h.consensus
  · rw [htie, hbox]; exact h.tieBreaker
  · rw [hslot, hbox]; exact h.slot
  · rw [hvoting, hbox]; exact h.voted

/-- A vote keeps the two in agreement. -/
lemma Mirrors.vote (h : e.Mirrors) {operator voter operatorAdmin : Pubkey} {weatherStatus : UInt8}
    (hslot : clock.slot ≠ defaultConsensusReachedSlot)
    (hrun : (processCastVote math clock operator voter operatorAdmin weatherStatus).run e = .ok () e') :
    e'.Mirrors := by
  obtain ⟨snap, b₁, b₂, result, _, _, _, hcast, htally, _, rfl⟩ := processCastVote_run_ok hrun
  obtain ⟨htie, _, ⟨hsame, hwin⟩ | ⟨hopen, hnew⟩⟩ := BallotBox.vote_outcome hcast htally
  · -- nothing is decided by this vote
    have hreached : b₂.isConsensusReached = e.ballotBox.isConsensusReached := by
      rw [BallotBox.isConsensusReached, hsame, hwin]; rfl
    have htie' : b₂.tieBreakerSet = e.ballotBox.tieBreakerSet := by
      rw [BallotBox.tieBreakerSet, hsame, hwin]; rfl
    have hst : (e.epochState.updateCastVote b₂.operatorsVoted b₂.isConsensusReached
        clock.slot).slotConsensusReached = e.epochState.slotConsensusReached := by
      simp only [EpochState.updateCastVote, hreached, h.consensus, Bool.and_not_self, Bool.false_eq_true,
        if_false]
    refine ⟨?_, ?_, ?_, rfl⟩
    · rw [EpochState.isConsensusReached, hst, hreached]; exact h.consensus
    · rw [htie']; exact h.tieBreaker
    · intro hr ht
      rw [hst]
      exact (h.slot (hreached ▸ hr) (htie' ▸ ht)).trans hsame.symm
  · -- a ballot wins
    have hreached : b₂.isConsensusReached = true := by
      rw [BallotBox.isConsensusReached, hnew, bne_iff_ne.2 hslot, Bool.true_or]
    have htie' : b₂.tieBreakerSet = false := by
      rw [BallotBox.tieBreakerSet, hnew, beq_eq_false_iff_ne.2 hslot, Bool.false_and]
    have hst : (e.epochState.updateCastVote b₂.operatorsVoted b₂.isConsensusReached
        clock.slot).slotConsensusReached = clock.slot := by
      simp only [EpochState.updateCastVote, hreached, h.consensus, hopen, Bool.not_false, Bool.and_self, if_true]
    refine ⟨?_, ?_, ?_, rfl⟩
    · rw [EpochState.isConsensusReached, hst, hreached]; exact bne_iff_ne.2 hslot
    · rw [htie']; exact h.tieBreaker.trans htie
    · exact fun _ _ => hst.trans hnew.symm

/-- So does a tie breaker. -/
lemma Mirrors.tieBreak (h : e.Mirrors) {admin : Pubkey} {weatherStatus : UInt8}
    (hslot : clock.slot ≠ defaultConsensusReachedSlot)
    (hrun : (processAdminSetTieBreaker clock admin weatherStatus).run e = .ok () e') : e'.Mirrors := by
  obtain ⟨b, hb, rfl⟩ := processAdminSetTieBreaker_run_ok hrun
  obtain ⟨hopen, hstatus, _, rfl⟩ := BallotBox.setTieBreakerBallot_run_ok hb
  have hvalid : (Ballot.new weatherStatus).isValid = true := decide_eq_true hstatus
  have hdefault : e.ballotBox.slotConsensusReached = defaultConsensusReachedSlot := by
    rw [BallotBox.isConsensusReached, Bool.or_eq_false_iff, bne_eq_false_iff_eq] at hopen
    exact hopen.1
  have hreached : BallotBox.isConsensusReached
      { e.ballotBox with winningBallot := .new weatherStatus } = true := by
    rw [BallotBox.isConsensusReached, hvalid, Bool.or_true]
  have htie : BallotBox.tieBreakerSet { e.ballotBox with winningBallot := .new weatherStatus } = true := by
    rw [BallotBox.tieBreakerSet, hdefault, hvalid, beq_self_eq_true, Bool.and_self]
  have hst : e.epochState.isConsensusReached = false := h.consensus.trans hopen
  rw [EpochState.updateSetTieBreaker, hreached, hst, Bool.not_false, Bool.and_self, if_pos rfl]
  refine ⟨?_, htie.symm, ?_, h.voted⟩
  · rw [hreached]
    exact bne_iff_ne.2 hslot
  · intro _ hfalse
    rw [htie] at hfalse
    cases hfalse

/-- A new ballot box and an epoch state without consensus. -/
lemma Mirrors.new (hopen : e.epochState.isConsensusReached = false)
    (htie : e.epochState.wasTieBreakerSet = false) (ncn : Pubkey) (epoch : ℕ) (bump : UInt8) (slot : ℕ) :
    Mirrors { e with
      ballotBox := .new ncn epoch bump slot
      epochState := e.epochState.updateReallocBallotBox } := by
  refine ⟨hopen, htie, ?_, rfl⟩
  intro hreached
  cases hreached

end Epoch

namespace Lifecycle
variable {cl : Cluster} {i : Instruction} {s s' : Lifecycle}

/-- The epoch state agrees with the ballot box if there is one, and names a tie breaker only for a decided
epoch. -/
structure Mirrored (s : Lifecycle) : Prop where
  tieBreaker : s.accounts.epochState.wasTieBreakerSet = true → s.accounts.epochState.isConsensusReached = true
  box : s.single .ballotBox = .initialized → s.accounts.Mirrors

/-- Where the two accounts agree, the epoch state names a tie breaker only for a decided epoch. -/
lemma Mirrored.of_mirrors (hm : s.accounts.Mirrors) : Mirrored s := by
  refine ⟨fun htie => ?_, fun _ => hm⟩
  rw [hm.consensus, BallotBox.isConsensusReached]
  rw [hm.tieBreaker, BallotBox.tieBreakerSet, Bool.and_eq_true] at htie
  rw [htie.2, Bool.or_true]

/-- Before the ballot box has its data the epoch is not decided. -/
lemma undecided_of_allocated (hb : s.book.Live cl.index) {dataLen : ℕ}
    (halloc : s.single .ballotBox = .allocated dataLen) : s.accounts.epochState.isConsensusReached = false := by
  cases hc : s.accounts.epochState.isConsensusReached with
  | false => rfl
  | true =>
    have ht := hb.single .ballotBox
    rw [show s.book.single _ = _ from halloc] at ht
    exact absurd ht.of_allocated (hb.consensus hc).1

/-- Every effect at a slot that is not the sentinel keeps the agreement. -/
lemma Mirrored.effect (hb : s.book.Live cl.index) (hslot : ∀ t ∈ i.slot, t < u64Max)
    (heffect : Effect cl i s s') (h : Mirrored s) : Mirrored s' := by
  cases heffect.polls hb.live with
  | idle hpolls hinit =>
    refine ⟨?_, fun hs' => (h.box (hinit hs')).of_polls hpolls⟩
    have hslot : s'.accounts.epochState.slotConsensusReached = s.accounts.epochState.slotConsensusReached :=
      congrArg Polls.slotConsensusReached hpolls
    have htie : s'.accounts.epochState.wasTieBreakerSet = s.accounts.epochState.wasTieBreakerSet :=
      congrArg Polls.wasTieBreakerSet hpolls
    rw [htie, EpochState.isConsensusReached, hslot]
    exact h.tieBreaker
  | allocate bump hs' =>
    subst hs'
    refine ⟨h.tieBreaker, fun hs' => ?_⟩
    cases eq_of_setSingle .ballotBox (.allocated maxReallocBytes) s hs'
  | fill clock bump dataLen halloc hs' =>
    subst hs'
    have hopen := undecided_of_allocated hb halloc
    have htie : s.accounts.epochState.wasTieBreakerSet = false := by
      cases htie : s.accounts.epochState.wasTieBreakerSet with
      | false => rfl
      | true => rw [h.tieBreaker htie] at hopen; cases hopen
    exact ⟨h.tieBreaker, fun _ => .new hopen htie _ _ bump clock.slot⟩
  | vote clock operator voter operatorAdmin weatherStatus e hi hbox _ hrun hs' =>
    subst hs'
    exact .of_mirrors ((h.box hbox).vote (hslot _ (hi ▸ rfl)).ne hrun)
  | tieBreak clock tieBreakerAdmin weatherStatus e hi hbox hrun hs' =>
    subst hs'
    exact .of_mirrors ((h.box hbox).tieBreak (hslot _ (hi ▸ rfl)).ne hrun)

/-- The agreement holds in every state that can be reached from nothing. -/
theorem mirrored {s₀ : Lifecycle} (h₀ : s₀.Untouched) (h : Run (StepIn cl (· < u64Max)) s₀ s)
    (hlive : s.epochState = true) : Mirrored s := by
  refine live_invariant h₀ (fun s _ _ _ _ hnone => ⟨fun h => (by cases h), fun hbox => ?_⟩)
    (fun _ _ _ _ hb _ hslot heffect hm => hm.effect hb hslot heffect) h hlive
  exact absurd hbox (not_initialized hnone _)

/-- The slot of the consensus in the epoch state is written once. -/
lemma Effect.slotConsensusReached (hb : s.book.Live cl.index) (heffect : Effect cl i s s')
    (hreached : s.accounts.epochState.isConsensusReached = true) :
    s'.accounts.epochState.slotConsensusReached = s.accounts.epochState.slotConsensusReached := by
  cases heffect.polls hb.live with
  | idle hpolls => exact congrArg Polls.slotConsensusReached hpolls
  | allocate bump hs' => subst hs'; rfl
  | fill clock bump dataLen halloc hs' =>
    rw [undecided_of_allocated hb halloc] at hreached
    cases hreached
  | vote clock operator voter operatorAdmin weatherStatus e _ _ _ hrun hs' =>
    subst hs'
    obtain ⟨snap, b₁, b₂, result, _, _, _, _, _, _, rfl⟩ := Epoch.processCastVote_run_ok hrun
    simp only [EpochState.updateCastVote, hreached, Bool.not_true, Bool.and_false, Bool.false_eq_true, if_false]
  | tieBreak clock tieBreakerAdmin weatherStatus e _ _ hrun hs' =>
    subst hs'
    obtain ⟨b, _, rfl⟩ := Epoch.processAdminSetTieBreaker_run_ok hrun
    simp only [EpochState.updateSetTieBreaker, hreached, Bool.not_true, Bool.and_false, Bool.false_eq_true,
      if_false]

/-- And it stays as long as the epoch goes on. -/
lemma slotConsensusReached_run {P : ℕ → Prop} (hb : s.book.Live cl.index) (h : Run (StepIn cl P) s s')
    (hlive' : s'.epochState = true) (hreached : s.accounts.epochState.isConsensusReached = true) :
    s'.accounts.epochState.slotConsensusReached = s.accounts.epochState.slotConsensusReached := by
  refine live_run (I := fun s₁ =>
    s₁.accounts.epochState.slotConsensusReached = s.accounts.epochState.slotConsensusReached)
    (fun s₁ s₂ _ hb₁ _ _ heffect hsame => ?_) hb rfl h hlive'
  have hreached₁ : s₁.accounts.epochState.isConsensusReached = true := by
    rw [EpochState.isConsensusReached, hsame]; exact hreached
  exact (heffect.slotConsensusReached hb₁ hreached₁).trans hsame

end Lifecycle

/-- In every state that can be reached while the epoch goes on and has its ballot box, the epoch state says of
the vote what the ballot box says, and once it has the slot of a consensus it keeps it. -/
theorem epoch_state_mirrors_ballot_box {cl : Cluster} {s₀ s : Lifecycle} (h₀ : s₀.Untouched)
    (hrun : Run (Lifecycle.StepIn cl (· < u64Max)) s₀ s) (hlive : s.epochState = true)
    (hbox : s.single .ballotBox = .initialized) :
    s.accounts.Mirrors ∧
      ∀ s', Run (Lifecycle.StepIn cl (· < u64Max)) s s' → s'.epochState = true →
        s.accounts.epochState.isConsensusReached = true →
        s'.accounts.epochState.slotConsensusReached = s.accounts.epochState.slotConsensusReached := by
  refine ⟨(Lifecycle.mirrored h₀ hrun hlive).box hbox, fun s' hrun' hlive' hreached => ?_⟩
  have hb := Lifecycle.live_book h₀ (hrun.mono fun _ _ h => h.step) hlive
  exact Lifecycle.slotConsensusReached_run hb hrun' hlive' hreached

/-- The small epoch after its only vote, which decides it. -/
theorem epoch_state_mirrors_ballot_box_small :
    ∃ s, Run (Lifecycle.StepIn Lifecycle.smallCluster (· < u64Max)) Lifecycle.small s ∧
      s.accounts.epochState.isConsensusReached = true ∧ s.accounts.Mirrors := by
  let start := ((Lifecycle.smallRun false).take 12).forM (Lifecycle.exec Lifecycle.smallCluster)
  have hstart : Succeeds start Lifecycle.small := by decide +kernel
  have hs := hstart.run_eq
  have hstate : (commit start Lifecycle.small).epochState = true ∧
      (commit start Lifecycle.small).single .ballotBox = .initialized ∧
      (commit start Lifecycle.small).accounts.epochState.isConsensusReached = true := by decide +kernel
  have hslots : ∀ i ∈ (Lifecycle.smallRun false).take 12, ∀ t ∈ i.slot, t < u64Max := by decide +kernel
  have hrun : Run (Lifecycle.StepIn Lifecycle.smallCluster (· < u64Max)) Lifecycle.small
    (commit start Lifecycle.small) := Lifecycle.run_stepIn hslots hs
  obtain ⟨hlive, hbox, hreached⟩ := hstate
  exact ⟨_, hrun, hreached, (epoch_state_mirrors_ballot_box Lifecycle.small_untouched hrun hlive hbox).1⟩

/-! ## The consensus result -/

namespace Epoch
variable {e e' : Epoch} {math : PreciseMath} {clock : Clock}

/-- The consensus result has the outcome of the vote. -/
structure Recorded (e : Epoch) : Prop where
  reached : e.ballotBox.isConsensusReached = e.consensusResult.isConsensusReached
  weatherStatus : e.ballotBox.isConsensusReached = true →
    e.consensusResult.weatherStatus = e.ballotBox.winningBallot.weatherStatus
  slot : e.ballotBox.isConsensusReached = true → e.ballotBox.tieBreakerSet = false →
    e.consensusResult.consensusSlot = e.ballotBox.slotConsensusReached

/-- The consensus result has the outcome of the vote if a ballot won by votes, and nothing otherwise. -/
structure RecordsVotes (e : Epoch) : Prop where
  reached : e.consensusResult.isConsensusReached =
    (e.ballotBox.slotConsensusReached != defaultConsensusReachedSlot)
  outcome : e.ballotBox.slotConsensusReached ≠ defaultConsensusReachedSlot →
    e.consensusResult.weatherStatus = e.ballotBox.winningBallot.weatherStatus ∧
      e.consensusResult.consensusSlot = e.ballotBox.slotConsensusReached

/-- It is about the polls only. -/
lemma RecordsVotes.of_polls (h : e.RecordsVotes) (hp : e'.polls = e.polls) : e'.RecordsVotes := by
  have hbox : e'.ballotBox = e.ballotBox := congrArg Polls.ballotBox hp
  have hresult : e'.consensusResult = e.consensusResult := congrArg Polls.consensusResult hp
  constructor
  · rw [hbox, hresult]; exact h.reached
  · rw [hbox, hresult]; exact h.outcome

/-- A vote writes the outcome when it decides the epoch, and after that only the weight of the winner. -/
lemma RecordsVotes.vote (h : e.RecordsVotes) {operator voter operatorAdmin : Pubkey} {weatherStatus : UInt8}
    (hpos : 0 < clock.slot) (hslot : clock.slot < u64Max)
    (hrun : (processCastVote math clock operator voter operatorAdmin weatherStatus).run e = .ok () e') :
    e'.RecordsVotes := by
  obtain ⟨snap, b₁, b₂, result, _, _, _, hcast, htally, hrecord, rfl⟩ := processCastVote_run_ok hrun
  obtain ⟨htie, _, ⟨hsame, hwin⟩ | ⟨hopen, hnew⟩⟩ := BallotBox.vote_outcome hcast htally
  · have hkept : result.isConsensusReached = e.consensusResult.isConsensusReached ∧
        result.weatherStatus = e.consensusResult.weatherStatus ∧
        result.consensusSlot = e.consensusResult.consensusSlot := by
      rcases ConsensusResult.recordWinner_run_ok hrecord with ⟨_, rfl⟩ | ⟨hreached, t, _, _, _, rfl⟩
      · exact ⟨rfl, rfl, rfl⟩
      · -- no tie breaker has been set, so the box was decided by votes before
        have hdecided : e.consensusResult.isConsensusReached = true := by
          rw [h.reached, ← BallotBox.isConsensusReached_of_votes htie]
          rwa [BallotBox.isConsensusReached, hsame, hwin] at hreached
        rw [ConsensusResult.recordConsensus_of_reached hdecided]
        exact ⟨rfl, rfl, rfl⟩
    obtain ⟨hreached, hstatus, hslot⟩ := hkept
    constructor
    · exact hreached.trans (h.reached.trans (by rw [hsame]))
    · intro hne
      rw [hsame] at hne
      exact ⟨hstatus.trans ((h.outcome hne).1.trans (by rw [hwin])),
        hslot.trans ((h.outcome hne).2.trans hsame.symm)⟩
  · have hundecided : e.consensusResult.isConsensusReached = false := by
      rw [BallotBox.isConsensusReached, Bool.or_eq_false_iff] at hopen
      exact h.reached.trans hopen.1
    have hreached : b₂.isConsensusReached = true := by
      rw [BallotBox.isConsensusReached, hnew, bne_iff_ne.2 hslot.ne, Bool.true_or]
    rcases ConsensusResult.recordWinner_run_ok hrecord with ⟨hfalse, _⟩ | ⟨_, t, _, _, _, rfl⟩
    · rw [hreached] at hfalse; cases hfalse
    · rw [ConsensusResult.recordConsensus_of_open hundecided]
      constructor
      · rw [hnew]
        exact (bne_iff_ne.2 hpos.ne').trans (bne_iff_ne.2 hslot.ne).symm
      · exact fun _ => ⟨rfl, hnew.symm⟩

/-- A tie breaker writes neither the slot nor the consensus result. -/
lemma RecordsVotes.tieBreak (h : e.RecordsVotes) {admin : Pubkey} {weatherStatus : UInt8}
    (hrun : (processAdminSetTieBreaker clock admin weatherStatus).run e = .ok () e') : e'.RecordsVotes := by
  obtain ⟨b, hb, rfl⟩ := processAdminSetTieBreaker_run_ok hrun
  obtain ⟨hopen, _, _, rfl⟩ := BallotBox.setTieBreakerBallot_run_ok hb
  refine ⟨h.reached, fun hne => ?_⟩
  rw [BallotBox.isConsensusReached, Bool.or_eq_false_iff, bne_eq_false_iff_eq] at hopen
  exact absurd hopen.1 hne

/-- So the outcome is recorded exactly if it is not a tie breaker's. -/
lemma RecordsVotes.recorded_iff (h : e.RecordsVotes) : e.Recorded ↔ e.ballotBox.tieBreakerSet = false := by
  have hreached := h.reached
  constructor
  · intro hr
    cases htie : e.ballotBox.tieBreakerSet with
    | false => rfl
    | true =>
      rw [BallotBox.tieBreakerSet, Bool.and_eq_true, beq_iff_eq] at htie
      rw [← hr.reached, BallotBox.isConsensusReached, htie.1, htie.2] at hreached
      cases hreached
  · intro htie
    have hvotes := BallotBox.isConsensusReached_of_votes htie
    refine ⟨hvotes.trans hreached.symm, fun hc => ?_, fun hc _ => ?_⟩
    · exact (h.outcome (bne_iff_ne.1 (hvotes ▸ hc))).1
    · exact (h.outcome (bne_iff_ne.1 (hvotes ▸ hc))).2

end Epoch

namespace Lifecycle
variable {cl : Cluster} {i : Instruction} {s s' : Lifecycle}

/-- The consensus result has every win by votes if there is a ballot box, and nothing before the box has its
data. -/
structure RecordsVotes (s : Lifecycle) : Prop where
  box : s.single .ballotBox = .initialized → s.accounts.RecordsVotes
  pending : ∀ n, s.single .ballotBox = .allocated n → s.accounts.consensusResult.isConsensusReached = false

/-- Every effect at a slot that is no sentinel keeps the record. -/
lemma RecordsVotes.effect (hlive : s.epochState = true) (hslot : ∀ t ∈ i.slot, 0 < t ∧ t < u64Max)
    (heffect : Effect cl i s s') (h : RecordsVotes s) : RecordsVotes s' := by
  cases heffect.polls hlive with
  | idle hpolls hinit halloc =>
    refine ⟨fun hs' => (h.box (hinit hs')).of_polls hpolls, fun n hs' => ?_⟩
    obtain ⟨m, hm⟩ := halloc n hs'
    rw [show s'.accounts.consensusResult = _ from congrArg Polls.consensusResult hpolls]
    exact h.pending m hm
  | allocate bump hs' =>
    subst hs'
    refine ⟨fun hs' => ?_, fun _ _ => rfl⟩
    cases eq_of_setSingle .ballotBox (.allocated maxReallocBytes) s hs'
  | fill clock bump dataLen halloc hs' =>
    subst hs'
    refine ⟨fun _ => ⟨h.pending dataLen halloc, fun hne => absurd rfl hne⟩, fun n hs' => ?_⟩
    cases eq_of_setSingle .ballotBox .initialized s hs'
  | vote clock operator voter operatorAdmin weatherStatus e hi hbox _ hrun hs' =>
    subst hs'
    obtain ⟨hpos, hlt⟩ := hslot clock.slot (hi ▸ rfl)
    refine ⟨fun _ => (h.box hbox).vote hpos hlt hrun, fun n hs' => ?_⟩
    rw [show s.single .ballotBox = _ from hs'] at hbox
    cases hbox
  | tieBreak clock tieBreakerAdmin weatherStatus e hi hbox hrun hs' =>
    subst hs'
    refine ⟨fun _ => (h.box hbox).tieBreak hrun, fun n hs' => ?_⟩
    rw [show s.single .ballotBox = _ from hs'] at hbox
    cases hbox

/-- The record holds in every state that can be reached from nothing. -/
theorem recordsVotes {s₀ : Lifecycle} (h₀ : s₀.Untouched)
    (h : Run (StepIn cl fun t => 0 < t ∧ t < u64Max) s₀ s) (hlive : s.epochState = true) : RecordsVotes s := by
  refine live_invariant h₀ (fun s _ _ _ _ hnone => ⟨fun h => ?_, fun n h => ?_⟩)
    (fun _ _ _ _ hb _ hslot heffect hr => hr.effect hb.live hslot heffect) h hlive
  all_goals
    rw [show s.single .ballotBox = .absent from hnone.single _] at h
    cases h

/-- The instruction of the tie breaker admin. -/
def Instruction.isTieBreaker : Instruction → Bool
  | .adminSetTieBreaker .. => true
  | _ => false

/-- Only a tie breaker makes the epoch state name one. -/
lemma Effect.wasTieBreakerSet (h : Effect cl i s s') (hlive : s.epochState = true)
    (hi : i.isTieBreaker = false) :
    s'.accounts.epochState.wasTieBreakerSet = s.accounts.epochState.wasTieBreakerSet := by
  cases h.polls hlive with
  | idle hpolls => exact congrArg Polls.wasTieBreakerSet hpolls
  | allocate bump hs' => subst hs'; rfl
  | fill clock bump dataLen _ hs' => subst hs'; rfl
  | vote clock operator voter operatorAdmin weatherStatus e _ _ _ hrun hs' =>
    subst hs'
    obtain ⟨snap, b₁, b₂, result, _, _, _, _, _, _, rfl⟩ := Epoch.processCastVote_run_ok hrun
    rfl
  | tieBreak clock tieBreakerAdmin weatherStatus e htie => subst htie; cases hi

/-- And it does. -/
lemma wasTieBreakerSet_of_tieBreaker (hm : Mirrored s) (hi : i.isTieBreaker = true)
    (h : (exec cl i).run s = .ok () s') : s'.accounts.epochState.wasTieBreakerSet = true := by
  cases i with
  | adminSetTieBreaker clock tieBreakerAdmin weatherStatus =>
    obtain ⟨_, hloaded, e, hrun, rfl⟩ := loaded_ok h
    obtain ⟨b, hb, rfl⟩ := Epoch.processAdminSetTieBreaker_run_ok hrun
    obtain ⟨hopen, hstatus, _, rfl⟩ := BallotBox.setTieBreakerBallot_run_ok hb
    have hreached : BallotBox.isConsensusReached
        { s.accounts.ballotBox with winningBallot := .new weatherStatus } = true := by
      rw [BallotBox.isConsensusReached, show (Ballot.new weatherStatus).isValid = true from decide_eq_true hstatus,
        Bool.or_true]
    have hst : s.accounts.epochState.isConsensusReached = false :=
      (hm.box (hloaded _ (by simp))).consensus.trans hopen
    simp only [EpochState.updateSetTieBreaker_eq, hreached, hst, Bool.not_false, Bool.and_self, Bool.true_or]
  | _ => cases hi

/-- The epoch state names a tie breaker exactly if there has been one. -/
lemma wasTieBreakerSet_iff {s₀ : Lifecycle} {is : List Instruction} (h₀ : s₀.Untouched)
    (hslots : ∀ i ∈ is, ∀ t ∈ i.slot, t < u64Max) (h : (is.forM (exec cl)).run s₀ = .ok () s)
    (hlive : s.epochState = true) :
    s.accounts.epochState.wasTieBreakerSet = true ↔ ∃ i ∈ is, i.isTieBreaker = true := by
  -- before the epoch there is none, and after it there is no state any more
  have hend := forM_invariant (J := fun is s => (∀ i ∈ is, ∀ t ∈ i.slot, t < u64Max) →
    Run (StepIn cl (· < u64Max)) s₀ s ∧
      (s.epochState = false → s.epochMarker = false → ∀ i ∈ is, i.isTieBreaker = false) ∧
      (s.epochState = true →
        (s.accounts.epochState.wasTieBreakerSet = true ↔ ∃ i ∈ is, i.isTieBreaker = true)))
    (fun is i s s' ih hi hslots => ?_) (fun _ => ⟨.refl, fun _ _ i hi => (by cases hi), fun hlive => ?_⟩) h hslots
  · exact hend.2.2 hlive
  · obtain ⟨hrun, hbefore, hduring⟩ := ih fun j hj => hslots j (List.mem_append_left _ hj)
    have hstep : StepIn cl (· < u64Max) s s' := ⟨i, hslots i (by simp), hi⟩
    have hlast : (∃ j ∈ is ++ [i], j.isTieBreaker = true) ↔
        (∃ j ∈ is, j.isTieBreaker = true) ∨ i.isTieBreaker = true := by
      simp only [List.mem_append, List.mem_singleton, or_and_right, exists_or, exists_eq_left]
    have hdead : s.epochState = false → i.isTieBreaker = false := by
      intro hdead
      cases i with
      | adminSetTieBreaker clock tieBreakerAdmin weatherStatus =>
        obtain ⟨hlive, _⟩ := loaded_ok hi
        rw [hlive] at hdead
        cases hdead
      | _ => rfl
    refine ⟨hrun.tail hstep, fun hdead' hmarker' => ?_, fun hlive' => ?_⟩
    · have hbegun : ¬(s.book.live = true ∨ s.book.marker = true) := by
        intro hbegun
        rcases (hstep.step.change.begun hbegun).2 with hfalse | hfalse
        · rw [show s'.book.live = s'.epochState from rfl, hdead'] at hfalse; cases hfalse
        · rw [show s'.book.marker = s'.epochMarker from rfl, hmarker'] at hfalse; cases hfalse
      rw [not_or, Bool.not_eq_true, Bool.not_eq_true] at hbegun
      intro j hj
      rcases List.mem_append.1 hj with hj | hj
      · exact hbefore hbegun.1 hbegun.2 j hj
      · rw [List.mem_singleton.1 hj]
        exact hdead hbegun.1
    · rw [hlast]
      cases hlive : s.epochState with
      | false =>
        obtain ⟨hmarker, clock, bump, rfl⟩ := (exec_effect hi).start_of_dead hlive hlive'
        have hnone := hbefore hlive hmarker
        simp only [hdead hlive, Bool.false_eq_true, or_false]
        exact ⟨fun hfalse => (by cases hfalse), fun ⟨j, hj, hfalse⟩ => by rw [hnone j hj] at hfalse; cases hfalse⟩
      | true =>
        cases htie : i.isTieBreaker with
        | true => exact iff_of_true (wasTieBreakerSet_of_tieBreaker (mirrored h₀ hrun hlive) htie hi) (.inr rfl)
        | false =>
          rw [(exec_effect hi).wasTieBreakerSet hlive htie, hduring hlive]
          simp only [Bool.false_eq_true, or_false]
  · rw [h₀.epochState] at hlive
    cases hlive

end Lifecycle

/-- In every state that a run of instructions leads to while the epoch goes on and has its ballot box, the
consensus result has the outcome of the vote exactly if the run has no tie breaker. -/
theorem consensus_recorded_iff {cl : Cluster} {s₀ s : Lifecycle} {is : List Lifecycle.Instruction}
    (h₀ : s₀.Untouched) (hslots : ∀ i ∈ is, ∀ t ∈ i.slot, 0 < t ∧ t < u64Max)
    (hrun : (is.forM (Lifecycle.exec cl)).run s₀ = .ok () s) (hlive : s.epochState = true)
    (hbox : s.single .ballotBox = .initialized) :
    s.accounts.Recorded ↔ ∀ i ∈ is, i.isTieBreaker = false := by
  have hslots' : ∀ i ∈ is, ∀ t ∈ i.slot, t < u64Max := fun i hi t ht => (hslots i hi t ht).2
  have hmirrors := (Lifecycle.mirrored h₀ (Lifecycle.run_stepIn hslots' hrun) hlive).box hbox
  have hrecords := (Lifecycle.recordsVotes h₀ (Lifecycle.run_stepIn hslots hrun) hlive).box hbox
  have htie := Lifecycle.wasTieBreakerSet_iff h₀ hslots' hrun hlive
  rw [hrecords.recorded_iff, ← hmirrors.tieBreaker, ← Bool.not_eq_true, htie]
  simp only [not_exists, not_and, Bool.not_eq_true]

/-- The one vote of the small epoch is recorded. -/
theorem consensus_recorded_iff_small :
    ∃ s, (((Lifecycle.smallRun false).take 12).forM (Lifecycle.exec Lifecycle.smallCluster)).run Lifecycle.small =
        .ok () s ∧
      s.accounts.ballotBox.isConsensusReached = true ∧ s.accounts.Recorded := by
  let is := (Lifecycle.smallRun false).take 12
  let x := is.forM (Lifecycle.exec Lifecycle.smallCluster)
  have hx : x.run Lifecycle.small = .ok () (commit x Lifecycle.small) := Succeeds.run_eq (by decide +kernel)
  have hstate : (commit x Lifecycle.small).epochState = true ∧
      (commit x Lifecycle.small).single .ballotBox = .initialized ∧
      (commit x Lifecycle.small).accounts.ballotBox.isConsensusReached = true := by decide +kernel
  have hslots : ∀ i ∈ is, ∀ t ∈ i.slot, 0 < t ∧ t < u64Max := by decide +kernel
  have hvotes : ∀ i ∈ is, i.isTieBreaker = false := by decide +kernel
  obtain ⟨hlive, hbox, hreached⟩ := hstate
  exact ⟨_, hx, hreached, (consensus_recorded_iff Lifecycle.small_untouched hslots hx hlive hbox).2 hvotes⟩

/-- Two operators with the same stake. The first one votes, and the epoch stalls until the tie breaker. -/
def Lifecycle.tiedRun : List Lifecycle.Instruction :=
  (smallRun false).take 5 ++
  [.initializeEpochSnapshot ⟨1, 0⟩ 0 2, .initializeOperatorSnapshot ⟨1, 0⟩ 0 7 0 0 true,
    .initializeOperatorSnapshot ⟨1, 0⟩ 0 8 1 0 true, .snapshotVaultOperatorDelegation ⟨1, 0⟩ 7 (.small false 5),
    .snapshotVaultOperatorDelegation ⟨1, 0⟩ 8 (.small false 5), .initializeBallotBox 0,
    .reallocBallotBox ⟨1, 0⟩ 0, .reallocBallotBox ⟨1, 0⟩ 0, .castVote ⟨10, 0⟩ 7 5 5 1,
    .adminSetTieBreaker ⟨10 * defaultSlotsPerEpoch, 10⟩ 2 1]

/-- After the tie breaker the epoch is decided, and the consensus result says that it is not. -/
theorem consensus_not_recorded_tie_breaker :
    ∃ s, (Lifecycle.tiedRun.forM (Lifecycle.exec Lifecycle.smallCluster)).run Lifecycle.small = .ok () s ∧
      s.epochState = true ∧ s.single .ballotBox = .initialized ∧
      s.accounts.ballotBox.isConsensusReached = true ∧ s.accounts.consensusResult.isConsensusReached = false ∧
      ¬s.accounts.Recorded := by
  let x := Lifecycle.tiedRun.forM (Lifecycle.exec Lifecycle.smallCluster)
  have hx : x.run Lifecycle.small = .ok () (commit x Lifecycle.small) := Succeeds.run_eq (by decide +kernel)
  have hstate : (commit x Lifecycle.small).epochState = true ∧
      (commit x Lifecycle.small).single .ballotBox = .initialized ∧
      (commit x Lifecycle.small).accounts.ballotBox.isConsensusReached = true ∧
      (commit x Lifecycle.small).accounts.consensusResult.isConsensusReached = false := by decide +kernel
  obtain ⟨hlive, hbox, hreached, hmissing⟩ := hstate
  refine ⟨_, hx, hlive, hbox, hreached, hmissing, fun hr => ?_⟩
  rw [hr.reached, hmissing] at hreached
  cases hreached

end NcnProgram
