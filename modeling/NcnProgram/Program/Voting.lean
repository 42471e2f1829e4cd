import NcnProgram.Program.Epoch

/-!
# Voting and the admin's part in it

Port of `program/src/cast_vote.rs`, `program/src/admin_set_tie_breaker.rs`,
`program/src/admin_set_parameters.rs` and `program/src/admin_set_new_admin.rs`. The keys of the signers are
compared with those that the restaking program and the configuration name, and are arguments here.
-/

namespace NcnProgram
open Lib NCNProgramError

namespace Config

/-- One optional parameter of `process_admin_set_parameters`, within its bounds. -/
def setBounded (value : Option ℕ) (lo hi : ℕ) (error : NCNProgramError) (put : ℕ → Config → Config) :
    Mut Config Unit :=
  match value with
  | none => return ()
  | some n => do
    ensure (lo ≤ n ∧ n ≤ hi) (error : ProgramError)
    modify (put n)

/-- The update of `process_admin_set_parameters`. The starting epoch has no bounds. -/
def setParameters (startingValidEpoch epochsBeforeStall epochsAfterConsensusBeforeClose
    validSlotsAfterConsensus : Option ℕ) : Mut Config Unit := do
  modify fun c => { c with startingValidEpoch := startingValidEpoch.getD c.startingValidEpoch }
  setBounded epochsBeforeStall minEpochsBeforeStall maxEpochsBeforeStall invalidEpochsBeforeStall
    (fun n c => { c with epochsBeforeStall := n })
  setBounded epochsAfterConsensusBeforeClose minEpochsAfterConsensusBeforeClose
    maxEpochsAfterConsensusBeforeClose invalidEpochsBeforeClose
    (fun n c => { c with epochsAfterConsensusBeforeClose := n })
  setBounded validSlotsAfterConsensus minValidSlotsAfterConsensus maxValidSlotsAfterConsensus
    invalidSlotsAfterConsensus (fun n c => { c with validSlotsAfterConsensus := n })

end Config

/-- The part of `process_cast_vote` that writes the outcome, once there is one. The weights are cast to a
`u64`. -/
def ConsensusResult.recordWinner (ballotBox : BallotBox) (totalStakeWeight slot : ℕ) :
    Mut ConsensusResult Unit := do
  if ballotBox.isConsensusReached then
    let winner ← ofExcept ballotBox.getWinningBallotTally
    modify (recordConsensus winner.ballot.weatherStatus (winner.stakeWeights.stakeWeight % 2 ^ 64)
      (totalStakeWeight % 2 ^ 64) slot)

/-- What is recorded: nothing before there is a winner, then its ballot, the weights and the slot. -/
lemma ConsensusResult.recordWinner_run_ok {ballotBox : BallotBox} {total slot : ℕ} {r r' : ConsensusResult}
    {u : Unit} (h : (recordWinner ballotBox total slot).run r = .ok u r') :
    ballotBox.isConsensusReached = false ∧ r' = r ∨
      ballotBox.isConsensusReached = true ∧ ∃ t ∈ ballotBox.ballotTallies.toList,
        t.ballot = ballotBox.winningBallot ∧ ballotBox.getWinningBallotTally = .ok t ∧
        r' = r.recordConsensus ballotBox.winningBallot.weatherStatus (t.stakeWeights.stakeWeight % 2 ^ 64)
          (total % 2 ^ 64) slot := by
  unfold recordWinner at h
  cases hc : ballotBox.isConsensusReached with
  | false => rw [hc] at h; cases h; exact .inl ⟨rfl, rfl⟩
  | true =>
    rw [hc, if_pos rfl] at h
    obtain ⟨t, _, hg, h⟩ := run_bind_ok.1 h
    obtain ⟨ht, rfl⟩ := run_ofExcept_ok.1 hg
    cases h
    obtain ⟨hmem, hballot⟩ := BallotBox.getWinningBallotTally_ok ht
    exact .inr ⟨rfl, t, hmem, hballot, ht, by rw [hballot]⟩

namespace Epoch

/-- `process_cast_vote`. `voter` is the key that may vote for the operator, `operatorAdmin` the signer. -/
def processCastVote (math : PreciseMath) (clock : Clock) (operator voter operatorAdmin : Pubkey)
    (weatherStatus : UInt8) : Mut Epoch Unit := do
  let self ← get
  let snapshot ← okOr (self.operatorSnapshot operator) ProgramError.invalidAccountOwner
  ensure (operatorAdmin = voter) (invalidOperatorVoter : ProgramError)
  ensure (self.epochSnapshot.finalized = true) (epochSnapshotNotFinalized : ProgramError)
  ensure (snapshot.stakeWeights.stakeWeight ≠ 0) (cannotVoteWithZeroStake : ProgramError)
  onBallotBox (BallotBox.castVote operator (.new weatherStatus) snapshot.stakeWeights clock.slot
    self.config.validSlotsAfterConsensus)
  onBallotBox (BallotBox.tallyVotes math self.epochSnapshot.stakeWeights.stakeWeight clock.slot)
  let ballotBox := (← get).ballotBox
  zoom (·.consensusResult) (fun r e => { e with consensusResult := r })
    (ConsensusResult.recordWinner ballotBox self.epochSnapshot.stakeWeights.stakeWeight clock.slot)
  onEpochState (modify (EpochState.updateCastVote ballotBox.operatorsVoted ballotBox.isConsensusReached
    clock.slot))

/-- `process_admin_set_tie_breaker`. -/
def processAdminSetTieBreaker (clock : Clock) (tieBreakerAdmin : Pubkey) (weatherStatus : UInt8) :
    Mut Epoch Unit := do
  let self ← get
  ensure (self.config.tieBreakerAdmin = tieBreakerAdmin) (tieBreakerAdminInvalid : ProgramError)
  onBallotBox (BallotBox.setTieBreakerBallot weatherStatus clock.epoch self.config.epochsBeforeStall)
  let ballotBox := (← get).ballotBox
  onEpochState (modify (EpochState.updateSetTieBreaker ballotBox.isConsensusReached clock.slot))

/-- `process_admin_set_parameters`. `ncn` is the account that was passed and `admin` its admin. -/
def processAdminSetParameters (ncn admin ncnAdmin : Pubkey) (startingValidEpoch epochsBeforeStall
    epochsAfterConsensusBeforeClose validSlotsAfterConsensus : Option ℕ) : Mut Epoch Unit := do
  ensure (admin = ncnAdmin) (incorrectNcnAdmin : ProgramError)
  ensure ((← get).config.ncn = ncn) (incorrectNcn : ProgramError)
  zoom (·.config) (fun c e => { e with config := c }) (Config.setParameters startingValidEpoch
    epochsBeforeStall epochsAfterConsensusBeforeClose validSlotsAfterConsensus)

/-- `process_admin_set_new_admin`, whose only role is the tie breaker admin. `ncn` is the account that was
passed and `admin` its admin. -/
def processAdminSetNewAdmin (ncn admin ncnAdmin newAdmin : Pubkey) : Mut Epoch Unit := do
  ensure ((← get).config.ncn = ncn) (incorrectNcn : ProgramError)
  ensure (admin = ncnAdmin) (incorrectNcnAdmin : ProgramError)
  modify fun e => { e with config := { e.config with tieBreakerAdmin := newAdmin } }

variable {math : PreciseMath} {clock : Clock} {e e' : Epoch}

/-- What a successful vote does: the guards hold, the vote is cast with the operator's snapshotted stake
and tallied, and the outcome is recorded in the consensus result and the epoch state. -/
lemma processCastVote_run_ok {operator voter operatorAdmin : Pubkey} {weatherStatus : UInt8} {u : Unit}
    (h : (processCastVote math clock operator voter operatorAdmin weatherStatus).run e = .ok u e') :
    ∃ snap b₁ b₂ result, e.operatorSnapshot operator = some snap ∧ e.epochSnapshot.finalized = true ∧
      snap.stakeWeights.stakeWeight ≠ 0 ∧
      (BallotBox.castVote operator (.new weatherStatus) snap.stakeWeights clock.slot
        e.config.validSlotsAfterConsensus).run e.ballotBox = .ok () b₁ ∧
      (BallotBox.tallyVotes math e.epochSnapshot.stakeWeights.stakeWeight clock.slot).run b₁ = .ok () b₂ ∧
      (ConsensusResult.recordWinner b₂ e.epochSnapshot.stakeWeights.stakeWeight clock.slot).run
        e.consensusResult = .ok () result ∧
      e' = { e with
        ballotBox := b₂
        consensusResult := result
        epochState := e.epochState.updateCastVote b₂.operatorsVoted b₂.isConsensusReached clock.slot } := by
  obtain ⟨_, _, hg, h⟩ := run_bind_ok.1 h
  cases hg
  obtain ⟨snap, _, hg, h⟩ := run_bind_ok.1 h
  obtain ⟨hsnap, rfl⟩ := run_okOr_ok.1 hg
  obtain ⟨_, _, hg, h⟩ := run_bind_ok.1 h
  obtain ⟨_, rfl⟩ := run_ensure_ok.1 hg
  obtain ⟨_, _, hg, h⟩ := run_bind_ok.1 h
  obtain ⟨hfin, rfl⟩ := run_ensure_ok.1 hg
  obtain ⟨_, _, hg, h⟩ := run_bind_ok.1 h
  obtain ⟨hstake, rfl⟩ := run_ensure_ok.1 hg
  obtain ⟨_, _, hg, h⟩ := run_bind_ok.1 h
  obtain ⟨b₁, hb₁, rfl⟩ := run_zoom_ok.1 hg
  obtain ⟨_, _, hg, h⟩ := run_bind_ok.1 h
  obtain ⟨b₂, hb₂, rfl⟩ := run_zoom_ok.1 hg
  obtain ⟨_, _, hg, h⟩ := run_bind_ok.1 h
  cases hg
  obtain ⟨_, _, hg, h⟩ := run_bind_ok.1 h
  obtain ⟨result, hresult, rfl⟩ := run_zoom_ok.1 hg
  cases h
  exact ⟨snap, b₁, b₂, result, hsnap, hfin, hstake, hb₁, hb₂, hresult, rfl⟩

/-- What a successful tie breaker does. -/
lemma processAdminSetTieBreaker_run_ok {admin : Pubkey} {weatherStatus : UInt8} {u : Unit}
    (h : (processAdminSetTieBreaker clock admin weatherStatus).run e = .ok u e') :
    ∃ b, (BallotBox.setTieBreakerBallot weatherStatus clock.epoch e.config.epochsBeforeStall).run
        e.ballotBox = .ok () b ∧
      e' = { e with
        ballotBox := b
        epochState := e.epochState.updateSetTieBreaker b.isConsensusReached clock.slot } := by
  obtain ⟨_, _, hg, h⟩ := run_bind_ok.1 h
  cases hg
  obtain ⟨_, _, hg, h⟩ := run_bind_ok.1 h
  obtain ⟨_, rfl⟩ := run_ensure_ok.1 hg
  obtain ⟨_, _, hg, h⟩ := run_bind_ok.1 h
  obtain ⟨b, hb, rfl⟩ := run_zoom_ok.1 hg
  obtain ⟨_, _, hg, h⟩ := run_bind_ok.1 h
  cases hg
  cases h
  exact ⟨b, hb, rfl⟩

/-- What a successful change of the parameters does. -/
lemma processAdminSetParameters_run_ok {ncn admin ncnAdmin : Pubkey} {o₁ o₂ o₃ o₄ : Option ℕ} {u : Unit}
    (h : (processAdminSetParameters ncn admin ncnAdmin o₁ o₂ o₃ o₄).run e = .ok u e') :
    ∃ c, (Config.setParameters o₁ o₂ o₃ o₄).run e.config = .ok () c ∧ e' = { e with config := c } := by
  obtain ⟨_, _, hg, h⟩ := run_bind_ok.1 h
  obtain ⟨_, rfl⟩ := run_ensure_ok.1 hg
  obtain ⟨_, _, hg, h⟩ := run_bind_ok.1 h
  cases hg
  obtain ⟨_, _, hg, h⟩ := run_bind_ok.1 h
  obtain ⟨_, rfl⟩ := run_ensure_ok.1 hg
  obtain ⟨c, hc, rfl⟩ := run_zoom_ok.1 h
  exact ⟨c, hc, rfl⟩

end Epoch

/-- An optional parameter is written within its bounds, if there is one. -/
lemma Config.setBounded_run_ok {value : Option ℕ} {lo hi : ℕ} {error : NCNProgramError}
    {put : ℕ → Config → Config} {c c' : Config} {u : Unit}
    (h : (setBounded value lo hi error put).run c = .ok u c') :
    (∀ n ∈ value, lo ≤ n ∧ n ≤ hi) ∧ c' = value.elim c fun n => put n c := by
  cases value with
  | none =>
    cases h
    exact ⟨fun n hn => (by cases hn), rfl⟩
  | some n =>
    obtain ⟨_, _, hg, h⟩ := run_bind_ok.1 h
    obtain ⟨hbounds, rfl⟩ := run_ensure_ok.1 hg
    cases h
    refine ⟨fun m hm => ?_, rfl⟩
    cases hm
    exact hbounds

/-- What a change of the parameters does: those that are given are within their bounds and are written. -/
lemma Config.setParameters_run_ok {o₁ o₂ o₃ o₄ : Option ℕ} {c c' : Config} {u : Unit}
    (h : (setParameters o₁ o₂ o₃ o₄).run c = .ok u c') :
    (∀ n ∈ o₂, minEpochsBeforeStall ≤ n ∧ n ≤ maxEpochsBeforeStall) ∧
      (∀ n ∈ o₃, minEpochsAfterConsensusBeforeClose ≤ n ∧ n ≤ maxEpochsAfterConsensusBeforeClose) ∧
      (∀ n ∈ o₄, minValidSlotsAfterConsensus ≤ n ∧ n ≤ maxValidSlotsAfterConsensus) ∧
      c' = { c with
        startingValidEpoch := o₁.getD c.startingValidEpoch
        epochsBeforeStall := o₂.getD c.epochsBeforeStall
        epochsAfterConsensusBeforeClose := o₃.getD c.epochsAfterConsensusBeforeClose
        validSlotsAfterConsensus := o₄.getD c.validSlotsAfterConsensus } := by
  obtain ⟨_, _, hg, h⟩ := run_bind_ok.1 h
  cases hg
  obtain ⟨_, c₁, h₁, h⟩ := run_bind_ok.1 h
  obtain ⟨_, c₂, h₂, h₃⟩ := run_bind_ok.1 h
  obtain ⟨hstall, rfl⟩ := setBounded_run_ok h₁
  obtain ⟨hclose, rfl⟩ := setBounded_run_ok h₂
  obtain ⟨hvalid, rfl⟩ := setBounded_run_ok h₃
  refine ⟨hstall, hclose, hvalid, ?_⟩
  cases o₂ <;> cases o₃ <;> cases o₄ <;> rfl

end NcnProgram
