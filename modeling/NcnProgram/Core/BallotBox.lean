import NcnProgram.Core.PreciseNumber
import NcnProgram.Core.StakeWeight
import NcnProgram.Lib.Table
import NcnProgram.Lib.Run

/-!
# The ballot box

Port of `core/src/ballot_box.rs`: the votes of one epoch, the tallies of the ballots voted on, and the
winning ballot. Votes and tallies are two tables of 256 slots; a free vote slot has the ballot index
`u16::MAX`, a free tally slot an invalid ballot. Consensus is recorded twice, as a slot (with the sentinel
`u64::MAX`) and as the winning ballot, and a tie breaker sets only the latter.

Methods that take `&mut self` are in `Mut BallotBox`, so what an error leaves behind is part of the model.
Each has an inversion lemma `*_run_ok` that says everything a successful call can do.
-/

namespace NcnProgram
open Lib NCNProgramError

/-- A ballot on a weather status (`Ballot`). -/
structure Ballot where
  weatherStatus : UInt8
  isValid : Bool
deriving DecidableEq

namespace Ballot

/-- `Ballot::default`. -/
protected def default : Ballot := ⟨0, false⟩

/-- `Ballot::new`: valid for the three statuses `Sunny`, `Cloudy` and `Rainy`. -/
def new (weatherStatus : UInt8) : Ballot := ⟨weatherStatus, weatherStatus ≤ 2⟩

/-- The source's equality of ballots (`PartialEq`): an invalid ballot equals nothing, itself included. -/
def eq (self other : Ballot) : Bool :=
  if !self.isValid || !other.isValid then false else self.weatherStatus == other.weatherStatus

lemma eq_iff {a b : Ballot} :
    a.eq b = true ↔ a.isValid = true ∧ b.isValid = true ∧ a.weatherStatus = b.weatherStatus := by
  unfold eq
  cases a.isValid <;> cases b.isValid <;> simp

/-- Valid ballots that are equal in the source's sense are the same ballot. -/
lemma eq_of_eq {a b : Ballot} (h : a.eq b = true) : a = b := by
  obtain ⟨ha, hb, hw⟩ := eq_iff.1 h
  cases a; cases b
  simp_all

end Ballot

/-- The votes of one ballot (`BallotTally`). -/
structure BallotTally where
  index : ℕ
  ballot : Ballot
  stakeWeights : StakeWeights
  tally : ℕ
deriving DecidableEq

namespace BallotTally

/-- `BallotTally::default`, a free slot. -/
protected def default : BallotTally := ⟨u16Max, .default, .default, 0⟩

/-- `BallotTally::new`. -/
def new (index : ℕ) (ballot : Ballot) (stakeWeights : StakeWeights) : BallotTally :=
  ⟨index, ballot, stakeWeights, 1⟩

/-- `BallotTally::is_valid`. -/
def isValid (self : BallotTally) : Bool := self.ballot.isValid

/-- `BallotTally::increment_tally`. -/
def incrementTally (stakeWeights : StakeWeights) : Mut BallotTally Unit := do
  zoom (·.stakeWeights) (fun w t => { t with stakeWeights := w }) (StakeWeights.increment stakeWeights)
  let self ← get
  let tally ← okOr (checkedAdd 64 self.tally 1) (arithmeticOverflow : ProgramError)
  set { self with tally }

lemma incrementTally_run_ok {sw : StakeWeights} {t t' : BallotTally} {u : Unit}
    (h : (incrementTally sw).run t = .ok u t') :
    t'.index = t.index ∧ t'.ballot = t.ballot ∧ t'.tally = t.tally + 1 ∧
      t'.stakeWeights.stakeWeight = t.stakeWeights.stakeWeight + sw.stakeWeight := by
  obtain ⟨_, t₁, h₁, h⟩ := run_bind_ok.1 h
  obtain ⟨w, hw, rfl⟩ := run_zoom_ok.1 h₁
  simp only [EStateM.run_bind, EStateM.run_get] at h
  cases hadd : checkedAdd 64 t.tally 1 with
  | none => simp only [hadd] at h; cases h
  | some n =>
    simp only [hadd] at h
    cases h
    exact ⟨rfl, rfl, (checkedAdd_eq_some.1 hadd).2, StakeWeights.increment_run_ok hw⟩

end BallotTally

/-- The vote of one operator (`OperatorVote`). -/
structure OperatorVote where
  operator : Pubkey
  slotVoted : ℕ
  stakeWeights : StakeWeights
  ballotIndex : ℕ
deriving DecidableEq

namespace OperatorVote

/-- `OperatorVote::default`, a free slot. -/
protected def default : OperatorVote := ⟨.default, 0, .default, u16Max⟩

/-- `OperatorVote::new`; the ballot index is cast to a `u16`. -/
def new (ballotIndex : ℕ) (operator : Pubkey) (currentSlot : ℕ) (stakeWeights : StakeWeights) :
    OperatorVote :=
  ⟨operator, currentSlot, stakeWeights, ballotIndex % 2 ^ 16⟩

/-- `OperatorVote::is_empty`. -/
def isEmpty (self : OperatorVote) : Bool := self.ballotIndex == u16Max

end OperatorVote

/-- The ballot box of one epoch (`BallotBox`). -/
structure BallotBox where
  ncn : Pubkey
  epoch : ℕ
  bump : UInt8
  slotCreated : ℕ
  slotConsensusReached : ℕ
  operatorsVoted : ℕ
  uniqueBallots : ℕ
  winningBallot : Ballot
  operatorVotes : Table OperatorVote maxOperators
  ballotTallies : Table BallotTally maxOperators
deriving DecidableEq

/-- The share of the stake a ballot needs (`precise_consensus`), two thirds. -/
def preciseConsensus (math : PreciseMath) : Except ProgramError math.Number := do
  let numerator ← okOr (math.new 2) (newPreciseNumberError : ProgramError)
  let denominator ← okOr (math.new 3) (newPreciseNumberError : ProgramError)
  okOr (math.checkedDiv numerator denominator) (denominatorIsZero : ProgramError)

/-- The threshold test inside `tally_votes`: the ballot's share of the total, as a precise number,
against `precise_consensus`. -/
def consensusReached (math : PreciseMath) (ballotStakeWeight totalStakeWeight : ℕ) :
    Except ProgramError Bool := do
  if totalStakeWeight = 0 then throw (denominatorIsZero : ProgramError)
  let preciseBallotStakeWeight ←
    okOr (math.new ballotStakeWeight) (newPreciseNumberError : ProgramError)
  let preciseTotalStakeWeight ←
    okOr (math.new totalStakeWeight) (newPreciseNumberError : ProgramError)
  let ballotPercentageOfTotal ←
    okOr (math.checkedDiv preciseBallotStakeWeight preciseTotalStakeWeight)
      (denominatorIsZero : ProgramError)
  let targetPrecisePercentage ← preciseConsensus math
  return math.greaterThanOrEqual ballotPercentageOfTotal targetPrecisePercentage

namespace BallotBox

/-- `BallotBox::new`; `initialize` writes the same values field by field. -/
def new (ncn : Pubkey) (epoch : ℕ) (bump : UInt8) (currentSlot : ℕ) : BallotBox where
  ncn := ncn
  epoch := epoch
  bump := bump
  slotCreated := currentSlot
  slotConsensusReached := defaultConsensusReachedSlot
  operatorsVoted := 0
  uniqueBallots := 0
  winningBallot := .default
  operatorVotes := .replicate _ .default
  ballotTallies := .replicate _ .default

/-- `BallotBox::has_ballot`. -/
def hasBallot (self : BallotBox) (ballot : Ballot) : Bool :=
  self.ballotTallies.any (·.ballot.eq ballot)

/-- `BallotBox::is_consensus_reached`. -/
def isConsensusReached (self : BallotBox) : Bool :=
  self.slotConsensusReached != defaultConsensusReachedSlot || self.winningBallot.isValid

/-- `BallotBox::tie_breaker_set`. -/
def tieBreakerSet (self : BallotBox) : Bool :=
  self.slotConsensusReached == defaultConsensusReachedSlot && self.winningBallot.isValid

/-- Without a tie breaker the slot says whether there is a winner. -/
lemma isConsensusReached_of_votes {b : BallotBox} (h : b.tieBreakerSet = false) :
    b.isConsensusReached = (b.slotConsensusReached != defaultConsensusReachedSlot) := by
  unfold isConsensusReached
  unfold tieBreakerSet at h
  cases hs : (b.slotConsensusReached != defaultConsensusReachedSlot) with
  | true => rw [Bool.true_or]
  | false =>
    rw [bne_eq_false_iff_eq.1 hs, beq_self_eq_true, Bool.true_and] at h
    rw [h, Bool.false_or]

/-- `BallotBox::get_winning_ballot_tally`. -/
def getWinningBallotTally (self : BallotBox) : Except ProgramError BallotTally :=
  if self.winningBallot.isValid then
    okOr (self.ballotTallies.find? (·.ballot.eq self.winningBallot))
      (ballotTallyNotFoundFull : ProgramError)
  else
    throw (consensusNotReached : ProgramError)

/-- `BallotBox::is_voting_valid`: before consensus, or within the window after a consensus by votes. -/
def isVotingValid (self : BallotBox) (currentSlot validSlotsAfterConsensus : ℕ) :
    Except ProgramError Bool := do
  if self.tieBreakerSet then return false
  if self.isConsensusReached then
    let last ← okOr (checkedAdd 64 self.slotConsensusReached validSlotsAfterConsensus)
      (arithmeticOverflow : ProgramError)
    return decide (currentSlot ≤ last)
  return true

/-- Runs a method of the tally in one slot. -/
def onTally (i : ℕ) (x : Mut BallotTally Unit) : Mut BallotBox Unit :=
  zoom (fun b => (b.ballotTallies.get? i).getD .default)
    (fun t b => { b with ballotTallies := b.ballotTallies.set i t }) x

/-- `BallotBox::increment_or_create_ballot_tally`; returns the slot of the ballot's tally. -/
def incrementOrCreateBallotTally (ballot : Ballot) (stakeWeights : StakeWeights) :
    Mut BallotBox ℕ := do
  let self ← get
  match self.ballotTallies.findIdx? (fun t => t.isValid && t.ballot.eq ballot) with
  | some tallyIndex =>
    onTally tallyIndex (BallotTally.incrementTally stakeWeights)
    return tallyIndex
  | none =>
    match self.ballotTallies.findIdx? (fun t => !t.isValid) with
    | some tallyIndex =>
      let tally := BallotTally.new (tallyIndex % 2 ^ 16) ballot stakeWeights
      set { self with ballotTallies := self.ballotTallies.set tallyIndex tally }
      let uniqueBallots ← okOr (checkedAdd 64 self.uniqueBallots 1)
        (arithmeticOverflow : ProgramError)
      modify ({ · with uniqueBallots })
      return tallyIndex
    | none => throw (ballotTallyFull : ProgramError)

/-- `BallotBox::cast_vote`. The tally is updated before a slot for the vote is looked for. -/
def castVote (operator : Pubkey) (ballot : Ballot) (stakeWeights : StakeWeights)
    (currentSlot validSlotsAfterConsensus : ℕ) : Mut BallotBox Unit := do
  let self ← get
  let votingValid ← ofExcept (self.isVotingValid currentSlot validSlotsAfterConsensus)
  ensure (votingValid = true) (votingNotValid : ProgramError)
  ensure (ballot.isValid = true) (badBallot : ProgramError)
  ensure (self.operatorVotes.any (·.operator == operator) = false)
    (operatorAlreadyVoted : ProgramError)
  let ballotIndex ← incrementOrCreateBallotTally ballot stakeWeights
  let self ← get
  match self.operatorVotes.findIdx? OperatorVote.isEmpty with
  | some i =>
    let vote := OperatorVote.new ballotIndex operator currentSlot stakeWeights
    set { self with operatorVotes := self.operatorVotes.set i vote }
    let operatorsVoted ← okOr (checkedAdd 64 self.operatorsVoted 1)
      (arithmeticOverflow : ProgramError)
    modify ({ · with operatorsVoted })
  | none => throw (operatorVotesFull : ProgramError)

/-- `BallotBox::tally_votes`: the ballot with the most stake wins if it reaches the threshold. -/
def tallyVotes (math : PreciseMath) (totalStakeWeight currentSlot : ℕ) : Mut BallotBox Unit := do
  let self ← get
  if self.slotConsensusReached ≠ defaultConsensusReachedSlot then return ()
  let maxTally ← okOr (maxByKey (·.stakeWeights.stakeWeight) self.ballotTallies.toList)
    (noValidBallots : ProgramError)
  let reached ← ofExcept (consensusReached math maxTally.stakeWeights.stakeWeight totalStakeWeight)
  if reached && !self.winningBallot.isValid then
    set { self with slotConsensusReached := currentSlot, winningBallot := maxTally.ballot }

/-- `BallotBox::set_tie_breaker_ballot`: only while nothing has won, only after the stall, and only a
ballot that was voted on. -/
def setTieBreakerBallot (weatherStatus : UInt8) (currentEpoch epochsBeforeStall : ℕ) :
    Mut BallotBox Unit := do
  let self ← get
  ensure (self.isConsensusReached = false) (consensusAlreadyReached : ProgramError)
  let stallEpoch ← okOr (checkedAdd 64 self.epoch epochsBeforeStall)
    (arithmeticOverflow : ProgramError)
  ensure (stallEpoch ≤ currentEpoch) (votingNotFinalized : ProgramError)
  ensure (weatherStatus ≤ 2) (badBallot : ProgramError)
  ensure (self.hasBallot (.new weatherStatus) = true) (tieBreakerNotInPriorVotes : ProgramError)
  set { self with winningBallot := Ballot.new weatherStatus }

variable {b b' : BallotBox}

/-- What a successful `increment_or_create_ballot_tally` does: it increments the ballot's tally, or it
opens the first free slot for the ballot. -/
lemma incrementOrCreateBallotTally_run_ok {ballot : Ballot} {sw : StakeWeights} {i : ℕ}
    (h : (incrementOrCreateBallotTally ballot sw).run b = .ok i b') :
    (∃ t, b.ballotTallies.findIdx? (fun t => t.isValid && t.ballot.eq ballot) = some i ∧
      (BallotTally.incrementTally sw).run ((b.ballotTallies.get? i).getD .default) = .ok () t ∧
      b' = { b with ballotTallies := b.ballotTallies.set i t }) ∨
    (b.ballotTallies.findIdx? (fun t => t.isValid && t.ballot.eq ballot) = none ∧
      b.ballotTallies.findIdx? (fun t => !t.isValid) = some i ∧
      b' = { b with
        ballotTallies := b.ballotTallies.set i (.new (i % 2 ^ 16) ballot sw)
        uniqueBallots := b.uniqueBallots + 1 }) := by
  simp only [incrementOrCreateBallotTally, EStateM.run_bind, EStateM.run_get] at h
  split at h
  · rename_i j hj
    obtain ⟨_, b₁, h₁, h⟩ := run_bind_ok.1 h
    obtain ⟨t, ht, rfl⟩ := run_zoom_ok.1 h₁
    cases h
    exact .inl ⟨t, hj, ht, rfl⟩
  · rename_i hnone
    split at h
    · rename_i j hj
      simp only [EStateM.run_bind, EStateM.run_set] at h
      cases hadd : checkedAdd 64 b.uniqueBallots 1 with
      | none => simp only [hadd] at h; cases h
      | some n =>
        simp only [hadd] at h
        cases h
        rw [(checkedAdd_eq_some.1 hadd).2]
        exact .inr ⟨hnone, hj, rfl⟩
    · cases h

/-- What a successful `cast_vote` does: the guards hold, the ballot's tally takes the vote, and the vote
is written to the first free slot. -/
lemma castVote_run_ok {operator : Pubkey} {ballot : Ballot} {sw : StakeWeights} {slot valid : ℕ}
    {u : Unit} (h : (castVote operator ballot sw slot valid).run b = .ok u b') :
    b.isVotingValid slot valid = .ok true ∧ ballot.isValid = true ∧
      b.operatorVotes.any (·.operator == operator) = false ∧
      ∃ i b₁ j, (incrementOrCreateBallotTally ballot sw).run b = .ok i b₁ ∧
        b₁.operatorVotes.findIdx? OperatorVote.isEmpty = some j ∧
        b' = { b₁ with
          operatorVotes := b₁.operatorVotes.set j (.new i operator slot sw)
          operatorsVoted := b₁.operatorsVoted + 1 } := by
  obtain ⟨_, _, hg, h⟩ := run_bind_ok.1 h
  cases hg
  obtain ⟨votingValid, _, e, h⟩ := run_bind_ok.1 h
  obtain ⟨hv, rfl⟩ := run_ofExcept_ok.1 e
  obtain ⟨_, _, e, h⟩ := run_bind_ok.1 h
  obtain ⟨rfl, rfl⟩ := run_ensure_ok.1 e
  obtain ⟨_, _, e, h⟩ := run_bind_ok.1 h
  obtain ⟨hb, rfl⟩ := run_ensure_ok.1 e
  obtain ⟨_, _, e, h⟩ := run_bind_ok.1 h
  obtain ⟨ha, rfl⟩ := run_ensure_ok.1 e
  obtain ⟨i, b₁, hi, h⟩ := run_bind_ok.1 h
  refine ⟨hv, hb, ha, i, b₁, ?_⟩
  simp only [EStateM.run_bind, EStateM.run_get] at h
  split at h
  · rename_i j hj
    simp only [EStateM.run_bind, EStateM.run_set] at h
    cases hadd : checkedAdd 64 b₁.operatorsVoted 1 with
    | none => simp only [hadd] at h; cases h
    | some n =>
      simp only [hadd] at h
      cases h
      rw [(checkedAdd_eq_some.1 hadd).2]
      exact ⟨j, hi, hj, rfl⟩
  · cases h

/-- What a successful `tally_votes` does: nothing, or it declares a ballot with the most stake the
winner of a box that has none. -/
lemma tallyVotes_run_ok {math : PreciseMath} {total slot : ℕ} {u : Unit}
    (h : (tallyVotes math total slot).run b = .ok u b') :
    b' = b ∨ (b.slotConsensusReached = defaultConsensusReachedSlot ∧
      b.winningBallot.isValid = false ∧
      ∃ t, maxByKey (·.stakeWeights.stakeWeight) b.ballotTallies.toList = some t ∧
        consensusReached math t.stakeWeights.stakeWeight total = .ok true ∧
        b' = { b with slotConsensusReached := slot, winningBallot := t.ballot }) := by
  simp only [tallyVotes, EStateM.run_bind, EStateM.run_get] at h
  split at h
  · cases h; exact .inl rfl
  · rename_i hslot
    obtain ⟨t, _, e, h⟩ := run_bind_ok.1 h
    obtain ⟨ht, rfl⟩ := run_okOr_ok.1 e
    obtain ⟨r, _, e, h⟩ := run_bind_ok.1 h
    obtain ⟨hr, rfl⟩ := run_ofExcept_ok.1 e
    split at h
    · rename_i hc
      cases h
      simp only [Bool.and_eq_true, Bool.not_eq_true'] at hc
      rw [hc.1] at hr
      exact .inr ⟨not_not.1 hslot, hc.2, t, ht, hr, rfl⟩
    · cases h; exact .inl rfl

/-- What a successful `set_tie_breaker_ballot` does: it declares a ballot that was voted on the winner
of a box without consensus. -/
lemma setTieBreakerBallot_run_ok {weatherStatus : UInt8} {epoch stall : ℕ} {u : Unit}
    (h : (setTieBreakerBallot weatherStatus epoch stall).run b = .ok u b') :
    b.isConsensusReached = false ∧ weatherStatus ≤ 2 ∧ b.hasBallot (.new weatherStatus) = true ∧
      b' = { b with winningBallot := .new weatherStatus } := by
  obtain ⟨_, _, hg, h⟩ := run_bind_ok.1 h
  cases hg
  obtain ⟨_, _, e, h⟩ := run_bind_ok.1 h
  obtain ⟨hc, rfl⟩ := run_ensure_ok.1 e
  obtain ⟨_, _, e, h⟩ := run_bind_ok.1 h
  obtain ⟨_, rfl⟩ := run_okOr_ok.1 e
  obtain ⟨_, _, e, h⟩ := run_bind_ok.1 h
  obtain ⟨_, rfl⟩ := run_ensure_ok.1 e
  obtain ⟨_, _, e, h⟩ := run_bind_ok.1 h
  obtain ⟨hw, rfl⟩ := run_ensure_ok.1 e
  obtain ⟨_, _, e, h⟩ := run_bind_ok.1 h
  obtain ⟨hb, rfl⟩ := run_ensure_ok.1 e
  cases h
  exact ⟨hc, hw, hb, rfl⟩

/-- The tally of the winner is the tally of the winning ballot. -/
lemma getWinningBallotTally_ok {t : BallotTally} (h : b.getWinningBallotTally = .ok t) :
    t ∈ b.ballotTallies.toList ∧ t.ballot = b.winningBallot := by
  unfold getWinningBallotTally at h
  split at h
  · cases hf : b.ballotTallies.find? (·.ballot.eq b.winningBallot) with
    | none => rw [hf] at h; cases h
    | some t' =>
      rw [hf] at h
      cases h
      have heq : t.ballot.eq b.winningBallot = true := by simpa using List.find?_some hf
      exact ⟨List.mem_of_find?_eq_some hf, Ballot.eq_of_eq heq⟩
  · cases h

/-- What a vote and the tally after it do to the outcome: voting was open, and either nothing is decided or a
winner is declared in a box without one. -/
lemma vote_outcome {operator : Pubkey} {ballot : Ballot} {sw : StakeWeights} {slot valid total : ℕ}
    {math : PreciseMath} {b₁ : BallotBox} (hcast : (castVote operator ballot sw slot valid).run b = .ok () b₁)
    (htally : (tallyVotes math total slot).run b₁ = .ok () b') :
    b.tieBreakerSet = false ∧ b'.operatorsVoted = b.operatorsVoted + 1 ∧
      (b'.slotConsensusReached = b.slotConsensusReached ∧ b'.winningBallot = b.winningBallot ∨
        b.isConsensusReached = false ∧ b'.slotConsensusReached = slot) := by
  obtain ⟨hopen, _, _, i, b₀, j, hinc, _, rfl⟩ := castVote_run_ok hcast
  have htie : b.tieBreakerSet = false := by
    cases htie : b.tieBreakerSet with
    | false => rfl
    | true => rw [isVotingValid, htie] at hopen; cases hopen
  refine ⟨htie, ?_⟩
  have hsame : b₀.slotConsensusReached = b.slotConsensusReached ∧ b₀.winningBallot = b.winningBallot ∧
      b₀.operatorsVoted = b.operatorsVoted := by
    rcases incrementOrCreateBallotTally_run_ok hinc with ⟨t, _, _, rfl⟩ | ⟨_, _, rfl⟩ <;> exact ⟨rfl, rfl, rfl⟩
  rcases tallyVotes_run_ok htally with rfl | ⟨hslot, hvalid, t, _, _, rfl⟩
  · exact ⟨congrArg (· + 1) hsame.2.2, .inl ⟨hsame.1, hsame.2.1⟩⟩
  · refine ⟨congrArg (· + 1) hsame.2.2, .inr ⟨?_, rfl⟩⟩
    have hslot : b₀.slotConsensusReached = defaultConsensusReachedSlot := hslot
    have hvalid : b₀.winningBallot.isValid = false := hvalid
    rw [isConsensusReached, ← hsame.1, ← hsame.2.1, hslot, hvalid]
    rfl

end BallotBox

/-- The three calls that change a ballot box, with their arguments. -/
inductive BallotCall where
  | castVote (operator : Pubkey) (ballot : Ballot) (stakeWeights : StakeWeights)
      (currentSlot validSlotsAfterConsensus : ℕ)
  | tallyVotes (totalStakeWeight currentSlot : ℕ)
  | setTieBreakerBallot (weatherStatus : UInt8) (currentEpoch epochsBeforeStall : ℕ)

/-- Runs a call. -/
def BallotCall.exec (math : PreciseMath) : BallotCall → Mut BallotBox Unit
  | castVote operator ballot sw slot valid => BallotBox.castVote operator ballot sw slot valid
  | tallyVotes total slot => BallotBox.tallyVotes math total slot
  | setTieBreakerBallot weatherStatus epoch stall =>
    BallotBox.setTieBreakerBallot weatherStatus epoch stall

/-- One successful call. -/
def BallotBox.Step (math : PreciseMath) (b b' : BallotBox) : Prop :=
  ∃ call : BallotCall, (call.exec math).run b = .ok () b'

/-- A box that successful calls make out of a new one. -/
def BallotBox.Reachable (math : PreciseMath) (b : BallotBox) : Prop :=
  ∃ ncn epoch bump slot, Run (BallotBox.Step math) (.new ncn epoch bump slot) b

end NcnProgram
