import NcnProgram.Voting.Accounting

/-!
# Consensus is final

Here a run is a sequence of transactions: a call that fails is rolled back. Once a ballot has won, no
transaction changes the winner or the slot of the consensus (`Tx.final`). A tie breaker leaves the slot at
its sentinel, which closes the vote for good: every later vote is rejected and every later tally changes
nothing. None of this needs the slots or the epochs of the calls to be sensible; the sentinel itself is
allowed as the slot of a tally.
-/

namespace NcnProgram
open Lib NCNProgramError

/-- One transaction on a ballot box, rolled back if it fails. -/
def BallotBox.Tx (math : PreciseMath) (b b' : BallotBox) : Prop :=
  ∃ call : BallotCall, b' = commit (call.exec math) b

variable {b b' : BallotBox} {math : PreciseMath}

/-- A transaction is a successful call or changes nothing. -/
lemma BallotBox.Tx.cases (h : BallotBox.Tx math b b') : b' = b ∨ BallotBox.Step math b b' := by
  obtain ⟨call, rfl⟩ := h
  rcases commit_cases (call.exec math) b with h | ⟨_, h⟩
  · exact .inl h
  · exact .inr ⟨call, h⟩

/-- A run of transactions is a run of its successful calls. -/
lemma BallotBox.Tx.run (h : Run (BallotBox.Tx math) b b') : Run (BallotBox.Step math) b b' := by
  induction h with
  | refl => exact .refl
  | tail _ ht ih =>
    rcases ht.cases with rfl | hs
    · exact ih
    · exact ih.tail hs

/-- A call leaves the winner and its slot alone once there is one. -/
lemma BallotBox.Step.final (h : BallotBox.Step math b b') (hw : b.winningBallot.isValid = true) :
    b'.winningBallot = b.winningBallot ∧ b'.slotConsensusReached = b.slotConsensusReached := by
  obtain ⟨call, hrun⟩ := h
  cases call with
  | castVote operator ballot sw slot valid =>
    obtain ⟨_, _, _, i, b₁, j, hinc, _, rfl⟩ := BallotBox.castVote_run_ok hrun
    rcases BallotBox.incrementOrCreateBallotTally_run_ok hinc with ⟨t, _, _, rfl⟩ | ⟨_, _, rfl⟩
    · exact ⟨rfl, rfl⟩
    · exact ⟨rfl, rfl⟩
  | tallyVotes total slot =>
    rcases BallotBox.tallyVotes_run_ok hrun with rfl | ⟨_, hn, _⟩
    · exact ⟨rfl, rfl⟩
    · rw [hw] at hn
      cases hn
  | setTieBreakerBallot weatherStatus epoch stall =>
    obtain ⟨hc, _⟩ := BallotBox.setTieBreakerBallot_run_ok hrun
    rw [BallotBox.isConsensusReached, hw, Bool.or_true] at hc
    cases hc

/-- A run of transactions leaves the winner and its slot alone once there is one. -/
lemma BallotBox.Tx.final (h : Run (BallotBox.Tx math) b b') (hw : b.winningBallot.isValid = true) :
    b'.winningBallot = b.winningBallot ∧ b'.slotConsensusReached = b.slotConsensusReached := by
  have hrun := BallotBox.Tx.run h
  clear h
  induction hrun with
  | refl => exact ⟨rfl, rfl⟩
  | tail _ hs ih =>
    obtain ⟨hw', hslot⟩ := hs.final (ih.1 ▸ hw)
    exact ⟨hw'.trans ih.1, hslot.trans ih.2⟩

/-- After a tie breaker no vote is accepted. -/
lemma BallotBox.not_succeeds_castVote (h : b.tieBreakerSet = true) (operator : Pubkey)
    (ballot : Ballot) (sw : StakeWeights) (slot valid : ℕ) :
    ¬ Succeeds (BallotBox.castVote operator ballot sw slot valid) b := by
  rintro ⟨_, b', hrun⟩
  obtain ⟨hv, _⟩ := BallotBox.castVote_run_ok hrun
  rw [BallotBox.isVotingValid, if_pos h] at hv
  cases hv

/-- With a winner, a tally changes nothing. -/
lemma BallotBox.commit_tallyVotes (h : b.winningBallot.isValid = true) (total slot : ℕ) :
    commit (BallotBox.tallyVotes math total slot) b = b := by
  rcases commit_cases (BallotBox.tallyVotes math total slot) b with he | ⟨_, hrun⟩
  · exact he
  · rcases BallotBox.tallyVotes_run_ok hrun with he | ⟨_, hn, _⟩
    · exact he
    · rw [h] at hn
      cases hn

/-- In an accounted box the winner is a ballot some recorded vote is for. -/
lemma Accounted.winner_voted {vs : List OperatorVote} {ts : List BallotTally} (h : Accounted b vs ts)
    (hw : b.winningBallot.isValid = true) :
    ∃ v ∈ b.recorded, ∃ t, b.ballotTallies.get? v.ballotIndex = some t ∧ t.ballot = b.winningBallot := by
  obtain ⟨t, hmem, htb⟩ := h.winner hw
  obtain ⟨i, hi⟩ := List.mem_iff_getElem?.1 hmem
  have hlt := (List.getElem?_eq_some_iff.1 hi).1
  obtain ⟨v, hv, rfl⟩ := h.voted i hlt
  exact ⟨v, h.recorded_eq ▸ hv, t, (h.tallies.get?_lt hlt).trans hi, htb⟩

/-- Consensus is final: a winner and its slot stay, a tie breaker needs a box without a winner and closes
the vote, and the winner is always a ballot that was voted on. -/
theorem consensus_is_final {ncn : Pubkey} {epoch : ℕ} {bump : UInt8} {slotCreated : ℕ}
    (h : Run (BallotBox.Tx math) (.new ncn epoch bump slotCreated) b) :
    (∀ b', Run (BallotBox.Tx math) b b' → b.winningBallot.isValid = true →
      b'.winningBallot = b.winningBallot ∧ b'.slotConsensusReached = b.slotConsensusReached) ∧
    (∀ weatherStatus currentEpoch stall b₁,
      (BallotBox.setTieBreakerBallot weatherStatus currentEpoch stall).run b = .ok () b₁ →
      b.winningBallot.isValid = false ∧ b₁.winningBallot = .new weatherStatus ∧
      ∀ b₂, Run (BallotBox.Tx math) b₁ b₂ →
        (∀ operator ballot sw slot valid,
          ¬ Succeeds (BallotBox.castVote operator ballot sw slot valid) b₂) ∧
        ∀ total slot, commit (BallotBox.tallyVotes math total slot) b₂ = b₂) ∧
    (b.winningBallot.isValid = false ∨ ∃ v ∈ b.recorded, ∃ t,
      b.ballotTallies.get? v.ballotIndex = some t ∧ t.ballot = b.winningBallot) := by
  refine ⟨?_, ?_, ?_⟩
  · intro b' hrun hw
    exact BallotBox.Tx.final hrun hw
  · intro weatherStatus currentEpoch stall b₁ hrun
    obtain ⟨hc, hle, _, rfl⟩ := BallotBox.setTieBreakerBallot_run_ok hrun
    rw [BallotBox.isConsensusReached, Bool.or_eq_false_iff, bne_eq_false_iff_eq] at hc
    refine ⟨hc.2, rfl, ?_⟩
    intro b₂ hrun₂
    have hvalid : (Ballot.new weatherStatus).isValid = true := decide_eq_true hle
    obtain ⟨hw, hslot⟩ := BallotBox.Tx.final hrun₂ hvalid
    have hw₂ : b₂.winningBallot.isValid = true := hw ▸ hvalid
    have htie : b₂.tieBreakerSet = true := by
      rw [BallotBox.tieBreakerSet, hw₂, hslot, Bool.and_true, beq_iff_eq]
      exact hc.1
    exact ⟨BallotBox.not_succeeds_castVote htie, BallotBox.commit_tallyVotes hw₂⟩
  · cases hw : b.winningBallot.isValid with
    | false => exact .inl rfl
    | true =>
      obtain ⟨vs, ts, hacc⟩ := BallotBox.Reachable.accounted ⟨ncn, epoch, bump, slotCreated, BallotBox.Tx.run h⟩
      exact .inr (hacc.winner_voted hw)

/-- Two votes of equal stake, then a tie breaker for the first: its ballot wins, and a third vote that
would hold most of the stake is rejected. -/
theorem consensus_is_final_of_tie_breaker :
    ∃ b b₁ : BallotBox, Run (BallotBox.Tx splMath) (.new 1 0 0 0) b ∧
      (BallotBox.setTieBreakerBallot 0 10 3).run b = .ok () b₁ ∧
      b.winningBallot.isValid = false ∧ b₁.winningBallot = .new 0 ∧
      ¬ Succeeds (BallotBox.castVote 9 (.new 1) ⟨100, by decide⟩ 5 5) b₁ := by
  let b₀ := BallotBox.new 1 0 0 0
  let b₁ := commit (BallotBox.castVote 7 (.new 0) ⟨10, by decide⟩ 3 5) b₀
  let b₂ := commit (BallotBox.castVote 8 (.new 1) ⟨10, by decide⟩ 3 5) b₁
  have h₁ : BallotBox.Tx splMath b₀ b₁ := ⟨.castVote 7 (.new 0) ⟨10, by decide⟩ 3 5, rfl⟩
  have h₂ : BallotBox.Tx splMath b₁ b₂ := ⟨.castVote 8 (.new 1) ⟨10, by decide⟩ 3 5, rfl⟩
  have hrun := (Relation.ReflTransGen.single h₁).tail h₂
  have hset : (BallotBox.setTieBreakerBallot 0 10 3).run b₂ =
      .ok () (commit (BallotBox.setTieBreakerBallot 0 10 3) b₂) :=
    Succeeds.run_eq (by decide +kernel)
  obtain ⟨hn, hw, hlater⟩ := (consensus_is_final hrun).2.1 0 10 3 _ hset
  exact ⟨b₂, _, hrun, hset, hn, hw, (hlater _ .refl).1 9 (.new 1) ⟨100, by decide⟩ 5 5⟩

end NcnProgram
