import NcnProgram.Program.Voting
import NcnProgram.Voting.Majority
import NcnProgram.Voting.Rejected

/-!
# Room for one more vote

A ballot box has a slot for the vote of every operator of an NCN and for every ballot, and the stakes that are voted
with are parts of one total. So what `cast_vote` does once its guards hold goes through: no table is full and no sum
overflows. The tally after the vote and the record of a winner go through as well.
-/

namespace NcnProgram
open Lib NCNProgramError
variable {b : BallotBox} {vs : List OperatorVote} {ts : List BallotTally} {math : PreciseMath}

namespace Accounted

/-- No tally counts more than the recorded votes. -/
lemma filled (h : Accounted b vs ts) : Filled b vs ts :=
  { h.slots with
    tally_le := fun _ t ht => by
      obtain ⟨i, hi⟩ := List.mem_iff_getElem?.1 ht
      rw [(h.counts i t hi).count]
      exact List.countP_le_length }

/-- The tallies take a vote whose stake fits. -/
lemma tallies_vote (h : Accounted b vs ts) {ballot : Ballot} (hb : ballot.isValid = true) {sw : StakeWeights}
    (hsum : (vs.map (·.stakeWeights.stakeWeight)).sum + sw.stakeWeight < 2 ^ 128) : b.Tallies ballot sw := by
  rw [BallotBox.Tallies, h.slots.tallyFor_eq]
  cases hf : ts.findIdx? (fun t => t.isValid && t.ballot.eq ballot) with
  | some i =>
    obtain ⟨t, ht, _, _⟩ := exists_of_findIdx? hf
    rw [Option.bind_some, ht]
    have hc := h.counts i t ht
    have hweight : t.stakeWeights.stakeWeight ≤ (vs.map (·.stakeWeights.stakeWeight)).sum := by
      rw [hc.weight]
      exact weightOf_le_sum
    have hcount : t.tally ≤ vs.length := by
      rw [hc.count]
      exact List.countP_le_length
    have hlen : vs.length ≤ 256 := h.votes.length_le
    exact ⟨by omega, .inl (by omega)⟩
  | none =>
    rw [Option.bind_none, h.uniqueBallots]
    exact Nat.lt_of_le_of_ne h.tallies.length_le fun hfull => h.findIdx?_ne_none hb hfull hf

/-- An operator has a vote in the table when it is recorded, or when it is the default key. -/
lemma any_operator_eq_false (h : Accounted b vs ts) (hroom : vs.length < maxOperators) {operator : Pubkey} :
    b.operatorVotes.any (·.operator == operator) = false ↔
      operator ≠ .default ∧ operator ∉ vs.map (·.operator) := by
  have hfree : maxOperators - vs.length ≠ 0 := by omega
  have hany : ∀ us : List OperatorVote, us.any (·.operator == operator) = false ↔ operator ∉ us.map (·.operator) := by
    intro us
    rw [List.any_eq_false]
    constructor
    · intro hno hmem
      obtain ⟨v, hv, hvo⟩ := List.mem_map.1 hmem
      exact hno v hv (beq_iff_eq.2 hvo)
    · intro hno v hv hvo
      exact hno (beq_iff_eq.1 hvo ▸ List.mem_map_of_mem hv)
  have hdefault : operator ∉ (List.replicate (maxOperators - vs.length) OperatorVote.default).map (·.operator) ↔
      operator ≠ .default := by
    rw [List.map_replicate, List.mem_replicate, not_and]
    exact ⟨fun h => h hfree, fun h _ => h⟩
  rw [Table.any, h.votes, List.any_append, Bool.or_eq_false_iff, hany, hany, hdefault, and_comm]

/-- Once its guards hold, `cast_vote` goes through. -/
lemma castVote_succeeds (h : Accounted b vs ts) {operator : Pubkey} {ballot : Ballot} {sw : StakeWeights}
    {slot valid : ℕ} (hadmits : b.Admits operator ballot slot valid) (hroom : vs.length < maxOperators)
    (hsum : (vs.map (·.stakeWeights.stakeWeight)).sum + sw.stakeWeight < 2 ^ 128) :
    Succeeds (BallotBox.castVote operator ballot sw slot valid) b := by
  cases h.filled.casting_of_room hroom hadmits sw with
  | unchanged e hnot => exact absurd ⟨hadmits, h.tallies_vote hadmits.2.1 hsum⟩ hnot
  | cast _ hrun => exact ⟨_, _, hrun⟩
  | traced _ hfull => exact absurd (h.operatorsVoted.symm.trans hfull) hroom.ne

/-- Of a winner there is a tally. -/
lemma getWinningBallotTally_succeeds (h : Accounted b vs ts) (hwon : b.winningBallot.isValid = true) :
    ∃ t, b.getWinningBallotTally = .ok t := by
  obtain ⟨t, _, ht, _⟩ := h.ballotAccounting.winner hwon
  exact ⟨t, ht⟩

end Accounted

/-- A tally goes through. -/
lemma BallotBox.tallyVotes_succeeds (hm : math.Documented) {T : ℕ} (hT : T < 2 ^ 128) (hT0 : 0 < T)
    (slot : ℕ) (b : BallotBox) :
    Succeeds (tallyVotes math T slot) b := by
  by_cases hslot : b.slotConsensusReached = defaultConsensusReachedSlot
  · obtain ⟨t, _, _, hrun⟩ := tallyVotes_run hm hT hT0 slot hslot
    exact ⟨_, _, hrun⟩
  · refine .bind (a := b) rfl ?_
    rw [if_pos hslot]
    exact ⟨_, _, rfl⟩

/-- So does the record of its outcome. -/
lemma Latched.recordWinner_succeeds (h : Latched b) (total slot : ℕ) (r : ConsensusResult) :
    Succeeds (ConsensusResult.recordWinner b total slot) r := by
  unfold ConsensusResult.recordWinner
  cases hreached : b.isConsensusReached with
  | false => exact ⟨_, _, rfl⟩
  | true =>
    have hwon : b.winningBallot.isValid = true := by
      by_cases hslot : b.slotConsensusReached = defaultConsensusReachedSlot
      · rwa [BallotBox.isConsensusReached, hslot, bne_self_eq_false, Bool.false_or] at hreached
      · exact h.winner hslot
    obtain ⟨vs, ts, hacc⟩ := h.accounted
    obtain ⟨t, ht⟩ := hacc.getWinningBallotTally_succeeds hwon
    exact .bind (run_ofExcept_ok.2 ⟨ht, rfl⟩) ⟨_, _, rfl⟩

end NcnProgram
