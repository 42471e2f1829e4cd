import NcnProgram.Voting.Order

/-!
# Two thirds, and what rounding makes of it

`tally_votes` declares the ballot with the most stake the winner if its share is at least two thirds, and both
sides of the comparison are rounded down to twelve decimals. A stake of two thirds or more always passes. A stake
below two thirds passes as well when it is short of it by less than the rounding (`OutsideGap`), which takes a
total of at least `5 * 10 ^ 11`.
-/

namespace NcnProgram
open Lib NCNProgramError

/-- The stake `w` is two thirds of the total `T` or more, or below two thirds by more than what rounding to twelve
decimals hides. -/
def OutsideGap (w T : ℕ) : Prop :=
  2 * T ≤ 3 * w ∨ w * 10 ^ 24 + 5 * 10 ^ 11 < 666666666666 * (T * 10 ^ 12)

instance (w T : ℕ) : Decidable (OutsideGap w T) := inferInstanceAs (Decidable (_ ∨ _))

variable {w T : ℕ}

/-- Two thirds of the total reach the threshold. -/
lemma Crosses.of_two_thirds (h : 2 * T ≤ 3 * w) : Crosses w T := by
  unfold Crosses
  omega

/-- Outside the gap the threshold is two thirds. -/
lemma OutsideGap.crosses_iff : OutsideGap w T ↔ (Crosses w T ↔ 2 * T ≤ 3 * w) := by
  unfold OutsideGap Crosses
  constructor
  · intro h
    omega
  · intro h
    omega

/-- Below a total of `5 * 10 ^ 11` there is no gap. -/
lemma OutsideGap.of_lt (hT : T < 5 * 10 ^ 11) : OutsideGap w T := by
  unfold OutsideGap
  omega

/-- The total of a tally is a `u128`. -/
def BallotCall.TotalFits : BallotCall → Prop
  | castVote .. => True
  | tallyVotes totalStakeWeight _ => totalStakeWeight < 2 ^ 128
  | setTieBreakerBallot .. => True

namespace BallotBox

/-- One successful call whose total fits. -/
def FittingStep (math : PreciseMath) (b b' : BallotBox) : Prop :=
  ∃ call : BallotCall, call.TotalFits ∧ (call.exec math).run b = .ok () b'

/-- `w` is the most stake of a tally. -/
def MostStake (b : BallotBox) (w : ℕ) : Prop :=
  (∃ t ∈ b.ballotTallies.toList, t.stakeWeights.stakeWeight = w) ∧
    ∀ t ∈ b.ballotTallies.toList, t.stakeWeights.stakeWeight ≤ w

instance (b : BallotBox) (w : ℕ) : Decidable (b.MostStake w) := inferInstanceAs (Decidable (_ ∧ _))

/-- The tally succeeds, and declares a valid ballot that holds the most stake `w` the winner if that is two thirds
of the total or more; otherwise it changes nothing. -/
def DecidedByTwoThirds (math : PreciseMath) (b : BallotBox) (w T slot : ℕ) : Prop :=
  ∃ t ∈ b.ballotTallies.toList, t.stakeWeights.stakeWeight = w ∧
    (tallyVotes math T slot).run b = .ok ()
      (if 2 * T ≤ 3 * w then { b with slotConsensusReached := slot, winningBallot := t.ballot } else b) ∧
    (2 * T ≤ 3 * w → t.ballot.isValid = true)

end BallotBox

variable {b b' : BallotBox} {math : PreciseMath}

/-- Consensus by votes is for a valid ballot. -/
lemma Accounted.winner_of_tally {vs : List OperatorVote} {ts : List BallotTally} (h : Accounted b vs ts)
    (hm : math.Documented) (hT : T < 2 ^ 128) {t : BallotTally} (ht : t ∈ b.ballotTallies.toList)
    (hreached : consensusReached math t.stakeWeights.stakeWeight T = .ok true) : t.ballot.isValid = true := by
  have hT0 : 0 < T := by
    by_contra h0
    rw [consensusReached, if_pos (by omega)] at hreached
    cases hreached
  rw [consensusReached_eq hm t.stakeWeights.lt hT hT0, Except.ok.injEq, decide_eq_true_eq] at hreached
  exact h.isValid_of_pos ht (hreached.pos hT0)

/-- A box is accounted for, and has a winner once the slot of a consensus is set. -/
structure Latched (b : BallotBox) : Prop where
  accounted : ∃ vs ts, Accounted b vs ts
  winner : b.slotConsensusReached ≠ defaultConsensusReachedSlot → b.winningBallot.isValid = true

namespace Latched

lemma new (ncn : Pubkey) (epoch : ℕ) (bump : UInt8) (slot : ℕ) : Latched (.new ncn epoch bump slot) :=
  ⟨⟨[], [], .new ncn epoch bump slot⟩, fun h => absurd rfl h⟩

/-- Every call keeps it. -/
lemma step (h : Latched b) (hm : math.Documented) (hs : BallotBox.FittingStep math b b') : Latched b' := by
  obtain ⟨vs, ts, hacc⟩ := h.accounted
  obtain ⟨call, hfits, hrun⟩ := hs
  refine ⟨hacc.step ⟨call, hrun⟩, ?_⟩
  cases call with
  | castVote operator ballot sw slot valid =>
    obtain ⟨_, _, _, _, hslot, hwin⟩ := hacc.castVote_takes hrun
    rw [hslot, hwin]
    exact h.winner
  | tallyVotes total slot =>
    rcases BallotBox.tallyVotes_run_ok hrun with rfl | ⟨_, _, t, ht, hreached, rfl⟩
    · exact h.winner
    · exact fun _ => hacc.winner_of_tally hm hfits (maxByKey_spec ht).1 hreached
  | setTieBreakerBallot weatherStatus epoch stall =>
    obtain ⟨_, hle, _, rfl⟩ := BallotBox.setTieBreakerBallot_run_ok hrun
    exact fun _ => decide_eq_true hle

/-- So it holds of every box that calls make. -/
lemma run (hm : math.Documented) {ncn : Pubkey} {epoch : ℕ} {bump : UInt8} {slotCreated : ℕ}
    (h : Run (BallotBox.FittingStep math) (.new ncn epoch bump slotCreated) b) : Latched b :=
  h.invariant (Latched.new ncn epoch bump slotCreated) fun _ _ hs h => h.step hm hs

/-- In a box without a winner the tally declares a ballot with the most stake exactly if that reaches the
threshold. -/
lemma tallyVotes_run (h : Latched b) (hm : math.Documented) (hnone : b.winningBallot.isValid = false)
    (hmax : b.MostStake w) (hT : T < 2 ^ 128) (hT0 : 0 < T) (slot : ℕ) :
    ∃ t ∈ b.ballotTallies.toList, t.stakeWeights.stakeWeight = w ∧
      (BallotBox.tallyVotes math T slot).run b = .ok ()
        (if Crosses w T then { b with slotConsensusReached := slot, winningBallot := t.ballot } else b) ∧
      (Crosses w T → t.ballot.isValid = true) := by
  have hslot : b.slotConsensusReached = defaultConsensusReachedSlot := by
    by_contra hne
    rw [h.winner hne] at hnone
    cases hnone
  obtain ⟨vs, ts, hacc⟩ := h.accounted
  obtain ⟨t, ht, hle, hrun⟩ := BallotBox.tallyVotes_run hm hT hT0 slot hslot
  obtain ⟨⟨u, hu, hw⟩, hall⟩ := hmax
  obtain rfl : t.stakeWeights.stakeWeight = w := le_antisymm (hall t ht) (hw ▸ hle u hu)
  refine ⟨t, ht, rfl, ?_, fun hc => hacc.isValid_of_pos ht (hc.pos hT0)⟩
  rw [hrun]
  simp only [hnone, and_true]

end Latched

/-- In every box without a winner a tally succeeds. It follows the rule of two thirds exactly if the most stake of a
tally is not below two thirds of the total by less than what rounding hides. -/
theorem two_thirds_iff (hm : math.Documented) {ncn : Pubkey} {epoch : ℕ} {bump : UInt8} {slotCreated : ℕ}
    (hrun : Run (BallotBox.FittingStep math) (.new ncn epoch bump slotCreated) b)
    (hnone : b.winningBallot.isValid = false) (hmax : b.MostStake w) (hT : T < 2 ^ 128) (hT0 : 0 < T)
    (slot : ℕ) :
    Succeeds (BallotBox.tallyVotes math T slot) b ∧ (b.DecidedByTwoThirds math w T slot ↔ OutsideGap w T) := by
  obtain ⟨t, ht, hw, htally, hvalid⟩ := (Latched.run hm hrun).tallyVotes_run hm hnone hmax hT hT0 slot
  refine ⟨⟨_, _, htally⟩, ?_⟩
  rw [OutsideGap.crosses_iff]
  constructor
  · rintro ⟨u, hu, _, htally', hvalid'⟩
    constructor
    · -- the rule of two thirds leaves the box alone, and the tally declares a winner
      intro hc
      by_contra hshort
      rw [htally, if_pos hc, if_neg hshort, EStateM.Result.ok.injEq] at htally'
      have hwon : t.ballot = b.winningBallot := congrArg BallotBox.winningBallot htally'.2
      rw [← hwon, hvalid hc] at hnone
      cases hnone
    · exact .of_two_thirds
  · intro hiff
    refine ⟨t, ht, hw, ?_, fun htwo => hvalid (hiff.2 htwo)⟩
    rw [htally]
    simp only [hiff]

/-- Two of three. -/
theorem two_thirds_iff_two_of_three :
    ∃ b : BallotBox, Run (BallotBox.FittingStep splMath) (.new 1 0 0 0) b ∧ b.winningBallot.isValid = false ∧
      b.MostStake 2 ∧ b.DecidedByTwoThirds splMath 2 3 5 := by
  let b₀ := BallotBox.new 1 0 0 0
  let cast := BallotBox.castVote 7 (.new 1) ⟨2, by decide⟩ 3 5
  let b := commit cast b₀
  have h : cast.run b₀ = .ok () b := Succeeds.run_eq (by decide +kernel)
  have hrun : Run (BallotBox.FittingStep splMath) b₀ b :=
    .single ⟨.castVote 7 (.new 1) ⟨2, by decide⟩ 3 5, trivial, h⟩
  have hnone : b.winningBallot.isValid = false := by decide +kernel
  have hmax : b.MostStake 2 := by decide +kernel
  clear_value b
  have hgap : OutsideGap 2 3 := .of_lt (by decide)
  exact ⟨b, hrun, hnone, hmax,
    (two_thirds_iff splMath_documented hrun hnone hmax (by decide) (by decide) 5).2.2 hgap⟩

/-- One less than two thirds of a total of `3 * 10 ^ 12` wins. -/
theorem two_thirds_missed_by_one :
    ∃ b b' : BallotBox, Run (BallotBox.FittingStep splMath) (.new 1 0 0 0) b ∧ b.winningBallot.isValid = false ∧
      b.MostStake (2 * 10 ^ 12 - 1) ∧ (BallotBox.tallyVotes splMath (3 * 10 ^ 12) 5).run b = .ok () b' ∧
      b'.winningBallot = .new 1 ∧ b'.slotConsensusReached = 5 ∧
      ¬b.DecidedByTwoThirds splMath (2 * 10 ^ 12 - 1) (3 * 10 ^ 12) 5 := by
  let b₀ := BallotBox.new 1 0 0 0
  let cast := BallotBox.castVote 7 (.new 1) ⟨2 * 10 ^ 12 - 1, by decide⟩ 3 5
  let tally := BallotBox.tallyVotes splMath (3 * 10 ^ 12) 5
  let b := commit cast b₀
  let b' := commit tally b
  have h : cast.run b₀ = .ok () b := Succeeds.run_eq (by decide +kernel)
  have h' : tally.run b = .ok () b' := Succeeds.run_eq (by decide +kernel)
  have hrun : Run (BallotBox.FittingStep splMath) b₀ b :=
    .single ⟨.castVote 7 (.new 1) ⟨2 * 10 ^ 12 - 1, by decide⟩ 3 5, trivial, h⟩
  have hnone : b.winningBallot.isValid = false := by decide +kernel
  have hmax : b.MostStake (2 * 10 ^ 12 - 1) := by decide +kernel
  have hwon : b'.winningBallot = .new 1 ∧ b'.slotConsensusReached = 5 := by decide +kernel
  clear_value b b'
  refine ⟨b, b', hrun, hnone, hmax, h', hwon.1, hwon.2, ?_⟩
  rintro ⟨t, _, _, hrule, _⟩
  rw [if_neg (by decide), show (BallotBox.tallyVotes splMath (3 * 10 ^ 12) 5).run b = _ from h',
    EStateM.Result.ok.injEq] at hrule
  rw [← hrule.2, hwon.1] at hnone
  cases hnone

end NcnProgram
