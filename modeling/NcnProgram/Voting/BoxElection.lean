import NcnProgram.Lib.Election
import NcnProgram.Voting.Majority

/-!
# The ballot box as an election

What a ballot box says, without its tables: who voted for what with which stake, and what has been decided. A
vote that the box takes is one more vote of the election, the tallies are the weights of the candidates, and the
two ways of setting the winning ballot are an election and an appointment.
-/

namespace NcnProgram
open Lib NCNProgramError

/-- Two thirds of a positive total, as the box decides it. -/
def Quorum (w T : ℕ) : Prop := 0 < T ∧ Crosses w T

/-- More weight is a quorum too. -/
lemma Quorum.monotone : Election.Monotone Quorum := fun _ _ _ h hle => ⟨h.1, h.2.mono hle⟩

/-- Two disjoint parts of the total are not both a quorum. -/
lemma Quorum.exclusive : Election.Exclusive Quorum := fun _ _ _ h hsum h' => h.2.not_both h.1 hsum h'.2

/-- What the tally accepts is a quorum. -/
lemma Quorum.of_reached {math : PreciseMath} (hm : math.Documented) {w T : ℕ} (hw : w < 2 ^ 128)
    (hT : T < 2 ^ 128) (h : consensusReached math w T = .ok true) : Quorum w T := by
  have hT0 : 0 < T := by
    by_contra h0
    rw [consensusReached, if_pos (by omega)] at h
    cases h
  rw [consensusReached_eq hm hw hT hT0, Except.ok.injEq, decide_eq_true_eq] at h
  exact ⟨hT0, h⟩

namespace BallotBox

/-- The weather status of the tally in a slot. -/
def statusAt (self : BallotBox) (i : ℕ) : UInt8 :=
  ((self.ballotTallies.get? i).getD .default).ballot.weatherStatus

/-- A recorded vote, for the status of its ballot. -/
def toVote (self : BallotBox) (v : OperatorVote) : Election.Vote Pubkey UInt8 :=
  ⟨v.operator, self.statusAt v.ballotIndex, v.stakeWeights.stakeWeight⟩

/-- The recorded votes. -/
def votes (self : BallotBox) : List (Election.Vote Pubkey UInt8) := self.recorded.map self.toVote

/-- What has been decided. -/
def outcome (self : BallotBox) : Election.Outcome UInt8 :=
  if self.winningBallot.isValid then
    if self.tieBreakerSet then .appointed self.winningBallot.weatherStatus
    else .elected self.winningBallot.weatherStatus
  else .undecided

variable {b b' : BallotBox}

/-- Without a winning ballot nothing is decided. -/
lemma outcome_of_open (h : b.winningBallot.isValid = false) : b.outcome = .undecided := by
  rw [outcome, h, if_neg (by decide)]

/-- A winning ballot that the votes have found. -/
lemma outcome_of_votes (h : b.winningBallot.isValid = true)
    (hslot : b.slotConsensusReached ≠ defaultConsensusReachedSlot) :
    b.outcome = .elected b.winningBallot.weatherStatus := by
  have htie : b.tieBreakerSet = false := by rw [tieBreakerSet, beq_eq_false_iff_ne.2 hslot, Bool.false_and]
  rw [outcome, h, if_pos rfl, htie, if_neg (by decide)]

/-- One that the tie breaker has set. -/
lemma outcome_of_tieBreaker (h : b.tieBreakerSet = true) :
    b.outcome = .appointed b.winningBallot.weatherStatus := by
  have hvalid : b.winningBallot.isValid = true := by
    rw [tieBreakerSet, Bool.and_eq_true] at h
    exact h.2
  rw [outcome, hvalid, if_pos rfl, h, if_pos rfl]

/-- Without a tie breaker nothing is appointed. -/
lemma outcome_ne_appointed (h : b.tieBreakerSet = false) (c : UInt8) : b.outcome ≠ .appointed c := by
  simp only [outcome, h, Bool.false_eq_true, if_false]
  split <;> exact fun h => by cases h

/-- A box with a winning ballot is decided. -/
lemma outcome_ne_undecided (h : b.winningBallot.isValid = true) : b.outcome ≠ .undecided := by
  rw [outcome, h, if_pos rfl]
  split <;> exact fun h => by cases h

/-- The outcome reads the slot and the winning ballot only. -/
lemma outcome_congr (hslot : b'.slotConsensusReached = b.slotConsensusReached)
    (hwin : b'.winningBallot = b.winningBallot) : b'.outcome = b.outcome := by
  rw [outcome, tieBreakerSet, hslot, hwin]
  rfl

/-- A tally is no vote. -/
lemma votes_tallyVotes {math : PreciseMath} {total slot : ℕ} {u : Unit}
    (h : (tallyVotes math total slot).run b = .ok u b') : b'.votes = b.votes := by
  rcases tallyVotes_run_ok h with rfl | ⟨_, _, _, _, _, rfl⟩ <;> rfl

end BallotBox

namespace Accounted
variable {b b' : BallotBox} {vs : List OperatorVote} {ts : List BallotTally}

/-- The weather status at the index of a tally is that of its ballot. -/
lemma statusAt_eq (h : Accounted b vs ts) {i : ℕ} {t : BallotTally} (ht : ts[i]? = some t) :
    b.statusAt i = t.ballot.weatherStatus := by
  rw [BallotBox.statusAt, h.tallies.get?_lt (List.getElem?_eq_some_iff.1 ht).1, ht, Option.getD_some]

/-- The votes of a box that is accounted for. -/
lemma votes_eq (h : Accounted b vs ts) : b.votes = vs.map b.toVote := by rw [BallotBox.votes, h.recorded_eq]

/-- The tally of a ballot is the weight of its status. -/
lemma weight_eq (h : Accounted b vs ts) {t : BallotTally} (ht : t ∈ ts) :
    weightOf (·.candidate) (·.weight) t.ballot.weatherStatus b.votes = t.stakeWeights.stakeWeight := by
  obtain ⟨i, hi⟩ := List.mem_iff_getElem?.1 ht
  rw [h.votes_eq, (h.counts i t hi).weight]
  refine weightOf_map (fun v hv => ?_) fun _ => rfl
  obtain ⟨u, hu⟩ : ∃ u, ts[v.ballotIndex]? = some u := ⟨_, List.getElem?_eq_getElem (h.ballotIndex v hv)⟩
  have hstatus : b.statusAt v.ballotIndex = u.ballot.weatherStatus := h.statusAt_eq hu
  show b.statusAt v.ballotIndex = _ ↔ _
  rw [hstatus]
  constructor
  · intro heq
    refine h.distinct _ _ u t hu hi (Ballot.eq_of_eq (Ballot.eq_iff.2 ⟨?_, ?_, heq⟩))
    · exact (h.counts _ u hu).valid
    · exact (h.counts i t hi).valid
  · rintro rfl
    rw [hi] at hu
    cases hu
    rfl

/-- Someone has voted for the ballot of a tally. -/
lemma backed (h : Accounted b vs ts) {t : BallotTally} (ht : t ∈ ts) :
    ∃ v ∈ b.votes, v.candidate = t.ballot.weatherStatus := by
  obtain ⟨i, hi⟩ := List.mem_iff_getElem?.1 ht
  obtain ⟨v, hv, rfl⟩ := h.voted i (List.getElem?_eq_some_iff.1 hi).1
  rw [h.votes_eq]
  exact ⟨b.toVote v, List.mem_map_of_mem hv, h.statusAt_eq hi⟩

/-- A candidate with votes has a tally. -/
lemma tally_of_backed (h : Accounted b vs ts) {v : Election.Vote Pubkey UInt8} (hv : v ∈ b.votes) :
    ∃ t ∈ ts, t.ballot.weatherStatus = v.candidate := by
  rw [h.votes_eq] at hv
  obtain ⟨u, hu, rfl⟩ := List.mem_map.1 hv
  have hi := h.ballotIndex u hu
  exact ⟨ts[u.ballotIndex], List.getElem_mem hi, (h.statusAt_eq (List.getElem?_eq_getElem hi)).symm⟩

/-- A vote that is cast is one more vote, by an operator that has not voted, and decides nothing. -/
lemma votes_castVote (h : Accounted b vs ts) {operator : Pubkey} {ballot : Ballot} {sw : StakeWeights}
    {slot valid : ℕ} (hrun : (BallotBox.castVote operator ballot sw slot valid).run b = .ok () b') :
    b'.votes = b.votes ++ [⟨operator, ballot.weatherStatus, sw.stakeWeight⟩] ∧
      operator ∉ b.votes.map (·.voter) ∧ b'.outcome = b.outcome := by
  obtain ⟨ts', i, htakes, h', hslot, hwin⟩ := h.castVote_takes hrun
  obtain ⟨t, ht, hballot, _⟩ := htakes.slot
  refine ⟨?_, ?_, BallotBox.outcome_congr hslot hwin⟩
  · rw [h'.votes_eq, h.votes_eq, List.map_append, List.map_singleton]
    congr 1
    · refine List.map_congr_left fun v hv => ?_
      obtain ⟨u, hu⟩ : ∃ u, ts[v.ballotIndex]? = some u :=
        ⟨_, List.getElem?_eq_getElem (h.ballotIndex v hv)⟩
      have hsame : b'.statusAt v.ballotIndex = b.statusAt v.ballotIndex := by
        by_cases hi : v.ballotIndex = i
        · rw [hi] at hu ⊢
          rw [h'.statusAt_eq ht, h.statusAt_eq hu, hballot, htakes.same u hu]
        · rw [h'.statusAt_eq ((htakes.frame _ hi).trans hu), h.statusAt_eq hu]
      rw [BallotBox.toVote, hsame]
      rfl
    · have hstatus : b'.statusAt i = ballot.weatherStatus := by rw [h'.statusAt_eq ht, hballot]
      rw [BallotBox.toVote, hstatus]
  · have hnodup := h'.operators
    rw [List.map_append, List.map_singleton, List.nodup_append] at hnodup
    rw [h.votes_eq, List.map_map]
    intro hmem
    exact hnodup.2.2 _ hmem _ (List.mem_singleton.2 rfl) rfl

end Accounted
end NcnProgram
