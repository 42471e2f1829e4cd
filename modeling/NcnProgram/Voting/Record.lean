import NcnProgram.Voting.Stake

/-!
# The recorded weights

The consensus result keeps the weight of the winner and that of the epoch's snapshot, as they are when a vote is
cast. Stake weights are of type `u128` and are cast to a `u64` there, so that of a large stake only the lower half
is recorded.
-/

namespace NcnProgram
open Lib

namespace Epoch
variable {math : PreciseMath} {index : Pubkey → ℕ} {e e' : Epoch}

/-- The recorded weights are those of the winner's tally and of the epoch's snapshot. -/
structure WeightsRecorded (e : Epoch) : Prop where
  winner : ∃ t, e.ballotBox.getWinningBallotTally = .ok t ∧
    e.consensusResult.voteWeight = t.stakeWeights.stakeWeight
  total : e.consensusResult.totalVoteWeight = e.epochSnapshot.stakeWeights.stakeWeight
  le : e.consensusResult.voteWeight ≤ e.consensusResult.totalVoteWeight

/-- What is recorded of the weights when there is a result. -/
structure CastWeightsRecorded (e : Epoch) : Prop where
  reached : e.ballotBox.isConsensusReached = true
  finalized : e.epochSnapshot.finalized = true
  winner : ∃ t, e.ballotBox.getWinningBallotTally = .ok t ∧
    e.consensusResult.voteWeight = t.stakeWeights.stakeWeight % 2 ^ 64
  total : e.consensusResult.totalVoteWeight = e.epochSnapshot.stakeWeights.stakeWeight % 2 ^ 64

/-- A finalized snapshot of the epoch counts no more operators. -/
lemma CountsIf.eq_of_finalized {counted : Bool} {slot valid : ℕ} {sw : StakeWeights} {s s' : EpochSnapshot}
    (h : CountsIf counted slot valid sw s s') (hfin : s.finalized = true) : s' = s := by
  cases counted with
  | false => exact h
  | true =>
    have hopen := h.spec.1 rfl
    rw [hfin] at hopen
    cases hopen

namespace CastWeightsRecorded

/-- The record is about the snapshot of the epoch, the box and the result. -/
lemma congr (h : e.CastWeightsRecorded) (hsnap : e'.epochSnapshot = e.epochSnapshot)
    (hbox : e'.ballotBox = e.ballotBox) (hresult : e'.consensusResult = e.consensusResult) :
    e'.CastWeightsRecorded := by
  constructor
  · rw [hbox]; exact h.reached
  · rw [hsnap]; exact h.finalized
  · rw [hbox, hresult]; exact h.winner
  · rw [hresult, hsnap]; exact h.total

/-- A vote records the weight of the winner, and that of the snapshot if it is the first. -/
lemma vote (h : e.consensusResult.isConsensusReached = true → e.CastWeightsRecorded) {clock : Clock}
    {operator voter operatorAdmin : Pubkey} {weatherStatus : UInt8}
    (hrun : (processCastVote math clock operator voter operatorAdmin weatherStatus).run e = .ok () e')
    (hreached : e'.consensusResult.isConsensusReached = true) : e'.CastWeightsRecorded := by
  obtain ⟨snap, b₁, b₂, result, _, hfin, _, hcast, htally, hrecord, rfl⟩ := processCastVote_run_ok hrun
  rcases ConsensusResult.recordWinner_run_ok hrecord with ⟨hopen, rfl⟩ | ⟨hdecided, t, _, _, ht, rfl⟩
  · -- with a result the box was decided, and it stays so
    have hdecided := (h hreached).reached
    obtain ⟨_, _, ⟨hslot, hwin⟩ | ⟨hundecided, _⟩⟩ := BallotBox.vote_outcome hcast htally
    · rw [BallotBox.isConsensusReached, hslot, hwin] at hopen
      rw [BallotBox.isConsensusReached, hopen] at hdecided
      cases hdecided
    · rw [hundecided] at hdecided
      cases hdecided
  · cases hbefore : e.consensusResult.isConsensusReached with
    | true =>
      rw [ConsensusResult.recordConsensus_of_reached hbefore]
      exact ⟨hdecided, hfin, ⟨t, ht, rfl⟩, (h hbefore).total⟩
    | false =>
      rw [ConsensusResult.recordConsensus_of_open hbefore]
      exact ⟨hdecided, hfin, ⟨t, ht, rfl⟩, rfl⟩

/-- Every step keeps the record. -/
lemma step (h : e.consensusResult.isConsensusReached = true → e.CastWeightsRecorded)
    (hstep : VotingStep math index e e') (hreached : e'.consensusResult.isConsensusReached = true) :
    e'.CastWeightsRecorded := by
  cases hstep with
  | createSnapshot clock bump op hindex hrun =>
    obtain ⟨_, _, s, es, st, _, hes, _, rfl⟩ := processInitializeOperatorSnapshot_run_ok hrun
    exact (h hreached).congr (hes.eq_of_finalized (h hreached).finalized) rfl rfl
  | registerVault clock operator v hrun =>
    obtain ⟨s, s', sw, es, st, _, _, _, hes, _, rfl⟩ := processSnapshotVaultOperatorDelegation_run_ok hrun
    exact (h hreached).congr (hes.eq_of_finalized (h hreached).finalized) rfl rfl
  | castVote clock operator voter operatorAdmin weatherStatus hrun => exact vote h hrun hreached

/-- The cast loses nothing exactly if the snapshotted stake is a `u64`. -/
lemma weightsRecorded_iff (h : e.CastWeightsRecorded) (hbound : e.StakeBounded) :
    e.WeightsRecorded ↔ e.epochSnapshot.stakeWeights.stakeWeight < 2 ^ 64 := by
  constructor
  · intro hreal
    rw [← hreal.total, h.total]
    exact Nat.mod_lt _ (by decide)
  · intro hlt
    obtain ⟨t, ht, hweight⟩ := h.winner
    have hle := hbound.tally_le t (BallotBox.getWinningBallotTally_ok ht).1
    have htotal := h.total
    rw [Nat.mod_eq_of_lt hlt] at htotal
    rw [Nat.mod_eq_of_lt (hle.trans_lt hlt)] at hweight
    exact ⟨⟨t, ht, hweight⟩, htotal, by rw [hweight, htotal]; exact hle⟩

end CastWeightsRecorded
end Epoch

/-- In every state with a result that creating snapshots, registering vaults and voting can reach, the recorded
weights are those of the winner's tally and of the epoch's snapshot exactly if the snapshotted stake is a `u64`. -/
theorem weights_recorded_iff {math : PreciseMath} {index : Pubkey → ℕ} (hinj : Function.Injective index)
    {e₀ e : Epoch} (hopen : e₀.VotingOpening) (hresult : e₀.consensusResult.isConsensusReached = false)
    (hrun : Run (Epoch.VotingStep math index) e₀ e) (hreached : e.consensusResult.isConsensusReached = true) :
    e.WeightsRecorded ↔ e.epochSnapshot.stakeWeights.stakeWeight < 2 ^ 64 := by
  obtain ⟨⟨counted, vs, ts, hstaked⟩, hrecord⟩ := hrun.invariant
    (I := fun e => (∃ counted vs ts, Epoch.Staked index e counted vs ts) ∧
      (e.consensusResult.isConsensusReached = true → e.CastWeightsRecorded))
    ⟨⟨[], [], [], .opening index hopen⟩, fun h => by rw [hresult] at h; cases h⟩
    fun _ _ hstep ⟨⟨_, _, _, hstaked⟩, h⟩ =>
      ⟨hstaked.step hinj hstep, Epoch.CastWeightsRecorded.step h hstep⟩
  exact (hrecord hreached).weightsRecorded_iff (hstaked.stakeBounded hinj)

/-- Two operators of the small epoch get the stakes `a` and `b`, and the first one votes. -/
def Epoch.voteOfTwo (a b : ℕ) : Mut Epoch Unit := do
  processInitializeOperatorSnapshot ⟨1, 0⟩ 0 ⟨7, 0, 0, 0, true⟩
  processInitializeOperatorSnapshot ⟨1, 0⟩ 0 ⟨8, 1, 0, 1, true⟩
  processSnapshotVaultOperatorDelegation splMath ⟨1, 0⟩ 7 (.small false a)
  processSnapshotVaultOperatorDelegation splMath ⟨1, 0⟩ 7 (.small true 0)
  processSnapshotVaultOperatorDelegation splMath ⟨1, 0⟩ 8 (.small false b)
  processSnapshotVaultOperatorDelegation splMath ⟨1, 0⟩ 8 (.small true 0)
  processCastVote splMath ⟨10, 0⟩ 7 5 5 1

lemma Epoch.voteOfTwo_run {a b : ℕ} {e e' : Epoch} (h : (voteOfTwo a b).run e = .ok () e') :
    Run (VotingStep splMath fun p => (p - 7).toNat) e e' := by
  obtain ⟨_, e₁, h₁, h⟩ := run_bind_ok.1 h
  obtain ⟨_, e₂, h₂, h⟩ := run_bind_ok.1 h
  obtain ⟨_, e₃, h₃, h⟩ := run_bind_ok.1 h
  obtain ⟨_, e₄, h₄, h⟩ := run_bind_ok.1 h
  obtain ⟨_, e₅, h₅, h⟩ := run_bind_ok.1 h
  obtain ⟨_, e₆, h₆, h⟩ := run_bind_ok.1 h
  exact .head (.createSnapshot _ _ _ rfl h₁) (.head (.createSnapshot _ _ _ rfl h₂)
    (.head (.registerVault _ _ _ h₃) (.head (.registerVault _ _ _ h₄) (.head (.registerVault _ _ _ h₅)
      (.head (.registerVault _ _ _ h₆) (.single (.castVote _ _ _ _ _ h)))))))

lemma Epoch.small_votingOpening : (Epoch.small 2).VotingOpening :=
  ⟨fun _ => rfl, ⟨1, 0, 0, 1, 2, 2, ⟨0, 400, 200⟩, rfl⟩, ⟨1, 0, 0, 1, rfl⟩⟩

/-- A vote with three of four. -/
theorem weights_recorded_iff_small_stake :
    ∃ e, Run (Epoch.VotingStep splMath fun p => (p - 7).toNat) (.small 2) e ∧
      e.consensusResult.isConsensusReached = true ∧ e.consensusResult.voteWeight = 3 ∧
      e.consensusResult.totalVoteWeight = 4 ∧ e.WeightsRecorded := by
  let e := commit (Epoch.voteOfTwo 3 1) (.small 2)
  have he : (Epoch.voteOfTwo 3 1).run (.small 2) = .ok () e := Succeeds.run_eq (by decide +kernel)
  have hresult : e.consensusResult.isConsensusReached = true ∧ e.consensusResult.voteWeight = 3 ∧
      e.consensusResult.totalVoteWeight = 4 := by decide +kernel
  have hstake : e.epochSnapshot.stakeWeights.stakeWeight < 2 ^ 64 := by decide +kernel
  clear_value e
  obtain ⟨hreached, hvote, htotal⟩ := hresult
  have hinj : Function.Injective fun p : Pubkey => (p - 7).toNat := fun p q h =>
    (BitVec.sub_left_inj 7).1 (BitVec.toNat_inj.1 h)
  have hrun := Epoch.voteOfTwo_run he
  refine ⟨e, hrun, hreached, hvote, htotal, ?_⟩
  exact (weights_recorded_iff hinj Epoch.small_votingOpening rfl hrun hreached).2 hstake

/-- Of a total stake of `2 ^ 64` nothing is left, and the winner is recorded to have more. -/
theorem weights_not_recorded_large_stake :
    ∃ e, (Epoch.small 2).VotingOpening ∧ Run (Epoch.VotingStep splMath fun p => (p - 7).toNat) (.small 2) e ∧
      e.consensusResult.isConsensusReached = true ∧ e.epochSnapshot.stakeWeights.stakeWeight = 2 ^ 64 ∧
      e.consensusResult.voteWeight = 2 ^ 64 - 1 ∧ e.consensusResult.totalVoteWeight = 0 ∧ ¬e.WeightsRecorded := by
  let e := commit (Epoch.voteOfTwo (2 ^ 64 - 1) 1) (.small 2)
  have he : (Epoch.voteOfTwo (2 ^ 64 - 1) 1).run (.small 2) = .ok () e := Succeeds.run_eq (by decide +kernel)
  have hresult : e.consensusResult.isConsensusReached = true ∧
      e.epochSnapshot.stakeWeights.stakeWeight = 2 ^ 64 ∧ e.consensusResult.voteWeight = 2 ^ 64 - 1 ∧
      e.consensusResult.totalVoteWeight = 0 := by decide +kernel
  clear_value e
  obtain ⟨hreached, hstake, hvote, htotal⟩ := hresult
  refine ⟨e, Epoch.small_votingOpening, Epoch.voteOfTwo_run he, hreached, hstake, hvote, htotal, fun hreal => ?_⟩
  have hle := hreal.le
  rw [hvote, htotal] at hle
  cases hle

end NcnProgram
