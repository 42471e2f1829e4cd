import NcnProgram.Voting.Accounting
import NcnProgram.Voting.Threshold

/-!
# Agreement independent of the vote order

`process_cast_vote` casts a vote and tallies. The winner is latched at the first tally that reaches the
threshold, and the tally slots are given out in the order in which the ballots arrive. Still the outcome
is a function of the votes alone (`Outcome`): a ballot has won exactly when the stake voted for it reaches
the threshold, and at most one ballot can. So two runs over the same votes in different orders agree.
-/

namespace NcnProgram
open Lib NCNProgramError

/-- A vote as an operator casts it. -/
structure Vote where
  operator : Pubkey
  ballot : Ballot
  stake : StakeWeights
deriving DecidableEq

/-- A vote with the slots at which it is cast and tallied. -/
structure TimedVote extends Vote where
  currentSlot : ℕ
  validSlotsAfterConsensus : ℕ
  tallySlot : ℕ
deriving DecidableEq

/-- Casts one vote and tallies, as `process_cast_vote` does. -/
def castAndTally (math : PreciseMath) (totalStakeWeight : ℕ) (v : TimedVote) : Mut BallotBox Unit := do
  BallotBox.castVote v.operator v.ballot v.stake v.currentSlot v.validSlotsAfterConsensus
  BallotBox.tallyVotes math totalStakeWeight v.tallySlot

/-- Casts and tallies the votes one after another. -/
def castAll (math : PreciseMath) (totalStakeWeight : ℕ) : List TimedVote → Mut BallotBox Unit
  | [] => pure ()
  | v :: vs => do
    castAndTally math totalStakeWeight v
    castAll math totalStakeWeight vs

variable {b b' : BallotBox} {math : PreciseMath} {T : ℕ} {ws : List Vote}

/-- What a tally does to a box that has no consensus slot. -/
lemma BallotBox.tallyVotes_run (h : math.Documented) (hT : T < 2 ^ 128) (hT0 : 0 < T) (slot : ℕ)
    (hslot : b.slotConsensusReached = defaultConsensusReachedSlot) :
    ∃ t ∈ b.ballotTallies.toList,
      (∀ u ∈ b.ballotTallies.toList, u.stakeWeights.stakeWeight ≤ t.stakeWeights.stakeWeight) ∧
      (tallyVotes math T slot).run b = .ok ()
        (if Crosses t.stakeWeights.stakeWeight T ∧ b.winningBallot.isValid = false then
          { b with slotConsensusReached := slot, winningBallot := t.ballot } else b) := by
  have hne : b.ballotTallies.toList ≠ [] :=
    List.ne_nil_of_length_pos (b.ballotTallies.length_eq.symm ▸ (by decide : 0 < maxOperators))
  obtain ⟨t, ht⟩ := exists_maxByKey (fun t => t.stakeWeights.stakeWeight) hne
  obtain ⟨hmem, hmax⟩ := maxByKey_spec ht
  refine ⟨t, hmem, hmax, ?_⟩
  have hs : ¬b.slotConsensusReached ≠ defaultConsensusReachedSlot := not_not.2 hslot
  -- the decision is named, so that its large numerals are never computed with
  obtain ⟨reached, hreached, hiff⟩ :
      ∃ r, consensusReached math t.stakeWeights.stakeWeight T = .ok r ∧
        (r = true ↔ Crosses t.stakeWeights.stakeWeight T) :=
    ⟨_, consensusReached_eq h t.stakeWeights.lt hT hT0, decide_eq_true_iff⟩
  simp only [tallyVotes, EStateM.run_bind, EStateM.run_get, if_neg hs, ht, okOr_some,
    EStateM.run_pure, hreached, ofExcept_ok, ← hiff]
  cases reached <;> cases b.winningBallot.isValid <;> rfl

/-- The box after the votes `ws`, whatever their order: the ballots have the counts and weights of the
votes, and a winner has reached the threshold. -/
structure Outcome (T : ℕ) (ws : List Vote) (b : BallotBox) : Prop where
  accounted : ∃ vs ts, Accounted b vs ts
  count : ∀ k, b.countFor k = ws.countP (·.ballot = k)
  weight : ∀ k, b.weightFor k = weightOf (·.ballot) (·.stake.stakeWeight) k ws
  latched : b.slotConsensusReached ≠ defaultConsensusReachedSlot → b.winningBallot.isValid = true
  sound : b.winningBallot = .default ∨
    (b.winningBallot.isValid = true ∧ Crosses (b.weightFor b.winningBallot) T)

/-- Every ballot that reaches the threshold has won. -/
def Settled (T : ℕ) (b : BallotBox) : Prop := ∀ k, Crosses (b.weightFor k) T → b.winningBallot = k

namespace Outcome

/-- A new box is the outcome of no votes. -/
lemma new (ncn : Pubkey) (epoch : ℕ) (bump : UInt8) (slot : ℕ) :
    Outcome T [] (.new ncn epoch bump slot) := by
  have hacc := Accounted.new ncn epoch bump slot
  constructor
  case accounted => exact ⟨[], [], hacc⟩
  case count => exact fun k => (hacc.countFor_eq_zero (by simp)).1
  case weight => exact fun k => (hacc.countFor_eq_zero (by simp)).2
  case latched => exact fun h => absurd rfl h
  case sound => exact .inl rfl

/-- A new box is settled. -/
lemma settled_new (hT0 : 0 < T) (ncn : Pubkey) (epoch : ℕ) (bump : UInt8) (slot : ℕ) :
    Settled T (.new ncn epoch bump slot) := by
  intro k hk
  rw [((Accounted.new ncn epoch bump slot).countFor_eq_zero (by simp)).2] at hk
  exact absurd (hk.pos hT0) (Nat.lt_irrefl 0)

/-- A vote extends the outcome. -/
lemma castVote (h : Outcome T ws b) {v : Vote} {slot valid : ℕ}
    (hrun : (BallotBox.castVote v.operator v.ballot v.stake slot valid).run b = .ok () b') :
    Outcome T (ws ++ [v]) b' := by
  obtain ⟨vs, ts, hacc⟩ := h.accounted
  obtain ⟨ts', i, htakes, hacc', hslot, hwin⟩ := hacc.castVote_takes hrun
  have hcount := htakes.countFor hacc hacc'
  constructor
  case accounted => exact ⟨_, ts', hacc'⟩
  case count =>
    intro k
    rw [(hcount k).1, h.count, List.countP_append, List.countP_singleton]
    simp only [decide_eq_true_eq, eq_comm (a := k)]
  case weight =>
    intro k
    rw [(hcount k).2, h.weight, weightOf_append_singleton]
    simp only [eq_comm (a := k)]
  case latched => rw [hslot, hwin]; exact h.latched
  case sound =>
    rw [hwin]
    rcases h.sound with hd | ⟨hv, hc⟩
    · exact .inl hd
    · refine .inr ⟨hv, hc.mono ?_⟩
      rw [(hcount _).2]
      exact Nat.le_add_right _ _

/-- Two ballots of one outcome never both reach the threshold. -/
lemma unique (h : Outcome T ws b) (hT0 : 0 < T)
    (hsum : (ws.map (·.stake.stakeWeight)).sum ≤ T) {k l : Ballot} (hk : Crosses (b.weightFor k) T)
    (hl : Crosses (b.weightFor l) T) : k = l := by
  by_contra hne
  rw [h.weight] at hk hl
  exact hk.not_both hT0 ((weightOf_add_le_sum hne).trans hsum) hl

/-- With a winner, the outcome is settled. -/
lemma settled_of_valid (h : Outcome T ws b) (hT0 : 0 < T)
    (hsum : (ws.map (·.stake.stakeWeight)).sum ≤ T) (hv : b.winningBallot.isValid = true) :
    Settled T b := by
  intro k hk
  rcases h.sound with hd | ⟨_, hc⟩
  · rw [hd] at hv
    cases hv
  · exact h.unique hT0 hsum hc hk

/-- The stake of a ballot is at most that of the largest tally. -/
lemma weightFor_le (hacc : ∃ vs ts, Accounted b vs ts) {n : ℕ}
    (hmax : ∀ u ∈ b.ballotTallies.toList, u.stakeWeights.stakeWeight ≤ n) (k : Ballot) :
    b.weightFor k ≤ n := by
  obtain ⟨vs, ts, hacc⟩ := hacc
  by_cases hex : ∃ t ∈ ts, t.ballot = k
  · obtain ⟨t, ht, rfl⟩ := hex
    obtain ⟨i, hi⟩ := List.mem_iff_getElem?.1 ht
    rw [(hacc.countFor_of_slot hi).2]
    exact hmax t (by rw [hacc.tallies]; exact List.mem_append_left _ ht)
  · rw [(hacc.countFor_eq_zero fun t ht he => hex ⟨t, ht, he⟩).2]
    exact Nat.zero_le n

/-- A tally keeps the outcome, and settles it. -/
lemma tallyVotes (h : Outcome T ws b) (hm : math.Documented) (hT : T < 2 ^ 128) (hT0 : 0 < T)
    (hsum : (ws.map (·.stake.stakeWeight)).sum ≤ T) {slot : ℕ}
    (hrun : (BallotBox.tallyVotes math T slot).run b = .ok () b') : Outcome T ws b' ∧ Settled T b' := by
  cases hv : b.winningBallot.isValid with
  | true =>
    have he := BallotBox.tallyVotes_run_ok hrun
    rw [hv] at he
    rcases he with rfl | ⟨_, hf, _⟩
    · exact ⟨h, h.settled_of_valid hT0 hsum hv⟩
    · cases hf
  | false =>
    have hslot : b.slotConsensusReached = defaultConsensusReachedSlot := by
      by_contra hne
      rw [h.latched hne] at hv
      cases hv
    obtain ⟨vs, ts, hacc⟩ := h.accounted
    obtain ⟨t, hmem, hmax, hrun'⟩ := BallotBox.tallyVotes_run hm hT hT0 slot hslot
    rw [hrun'] at hrun
    split at hrun
    · -- the largest tally has stake, so its ballot is a real one
      rename_i hc
      cases hrun
      have hvalid : t.ballot.isValid = true := hacc.isValid_of_pos hmem (hc.1.pos hT0)
      obtain ⟨i, hi⟩ := List.mem_iff_getElem?.1 (hacc.mem_of_valid hmem hvalid)
      have hw := (hacc.countFor_of_slot hi).2
      have hout : Outcome T ws { b with slotConsensusReached := slot, winningBallot := t.ballot } :=
        { accounted := ⟨vs, ts, hacc.declare hmem slot⟩
          count := h.count
          weight := h.weight
          latched := fun _ => hvalid
          sound := .inr ⟨hvalid, hw ▸ hc.1⟩ }
      exact ⟨hout, hout.settled_of_valid hT0 hsum hvalid⟩
    · rename_i hc
      cases hrun
      refine ⟨h, fun k hk => absurd ?_ hc⟩
      exact ⟨hk.mono (weightFor_le h.accounted hmax k), hv⟩

/-- The votes of a run extend the outcome, and the last tally settles it. -/
lemma castAll (hm : math.Documented) (hT : T < 2 ^ 128) (hT0 : 0 < T) {vs : List TimedVote}
    (hsum : ((ws ++ vs.map (·.toVote)).map (·.stake.stakeWeight)).sum ≤ T) (h : Outcome T ws b)
    (hs : Settled T b) (hrun : (NcnProgram.castAll math T vs).run b = .ok () b') :
    Outcome T (ws ++ vs.map (·.toVote)) b' ∧ Settled T b' := by
  induction vs generalizing ws b with
  | nil =>
    cases hrun
    rw [List.map_nil, List.append_nil]
    exact ⟨h, hs⟩
  | cons v vs ih =>
    obtain ⟨_, b₂, hv, hrun⟩ := run_bind_ok.1 hrun
    obtain ⟨_, b₁, hcast, htally⟩ := run_bind_ok.1 hv
    have happ : ws ++ (v :: vs).map (·.toVote) = ws ++ [v.toVote] ++ vs.map (·.toVote) := by simp
    rw [happ] at hsum ⊢
    have hsum' : ((ws ++ [v.toVote]).map (·.stake.stakeWeight)).sum ≤ T := by
      rw [List.map_append, List.sum_append] at hsum
      omega
    obtain ⟨h₂, hs₂⟩ := (h.castVote hcast).tallyVotes hm hT hT0 hsum' htally
    exact ih hsum h₂ hs₂ hrun

/-- Two settled outcomes of the same stakes have the same winner. -/
lemma winner_eq {ws' : List Vote} {b₁ b₂ : BallotBox} (h₁ : Outcome T ws b₁) (h₂ : Outcome T ws' b₂)
    (hs₁ : Settled T b₁) (hs₂ : Settled T b₂) (hw : ∀ k, b₁.weightFor k = b₂.weightFor k) :
    b₁.winningBallot = b₂.winningBallot := by
  rcases h₁.sound with hd₁ | ⟨_, hc₁⟩
  · rcases h₂.sound with hd₂ | ⟨_, hc₂⟩
    · rw [hd₁, hd₂]
    · exact hs₁ _ (hw _ ▸ hc₂)
  · exact (hs₂ _ (hw _ ▸ hc₁)).symm

end Outcome

/-- The order of the votes does not matter: two accepted runs over the same votes, at any slots, end with
the same winner, and every ballot has the same count and the same weight in both. -/
theorem agreement_of_perm (hm : math.Documented) (hT : T < 2 ^ 128) (hT0 : 0 < T)
    {vs₁ vs₂ : List TimedVote} (hperm : (vs₁.map (·.toVote)).Perm (vs₂.map (·.toVote)))
    (hsum : ((vs₁.map (·.toVote)).map (·.stake.stakeWeight)).sum ≤ T) {ncn : Pubkey} {epoch : ℕ}
    {bump : UInt8} {slotCreated : ℕ} {b₁ b₂ : BallotBox}
    (h₁ : (castAll math T vs₁).run (.new ncn epoch bump slotCreated) = .ok () b₁)
    (h₂ : (castAll math T vs₂).run (.new ncn epoch bump slotCreated) = .ok () b₂) :
    b₁.winningBallot = b₂.winningBallot ∧
      ∀ k, b₁.countFor k = b₂.countFor k ∧ b₁.weightFor k = b₂.weightFor k := by
  have hsum₂ : ((vs₂.map (·.toVote)).map (·.stake.stakeWeight)).sum ≤ T := by
    rw [← (hperm.map _).sum_eq]
    exact hsum
  have h₀ := Outcome.new (T := T) ncn epoch bump slotCreated
  have hs₀ := Outcome.settled_new hT0 ncn epoch bump slotCreated
  obtain ⟨ho₁, hs₁⟩ := h₀.castAll hm hT hT0 hsum hs₀ h₁
  obtain ⟨ho₂, hs₂⟩ := h₀.castAll hm hT hT0 hsum₂ hs₀ h₂
  have hcount : ∀ k, b₁.countFor k = b₂.countFor k := fun k => by
    rw [ho₁.count, ho₂.count]
    exact hperm.countP_eq _
  have hweight : ∀ k, b₁.weightFor k = b₂.weightFor k := fun k => by
    rw [ho₁.weight, ho₂.weight]
    exact weightOf_perm hperm
  exact ⟨ho₁.winner_eq ho₂ hs₁ hs₂ hweight, fun k => ⟨hcount k, hweight k⟩⟩

/-- Three votes in two orders: the first ballot holds nine twelfths of the stake, and it is latched by the
last vote of one run and by the second vote of the other. -/
theorem agreement_of_perm_three_votes :
    ∃ vs₁ vs₂ : List TimedVote, (vs₁.map (·.toVote)).Perm (vs₂.map (·.toVote)) ∧ vs₁ ≠ vs₂ ∧
      ∃ b₁ b₂, (castAll splMath 12 vs₁).run (.new 1 0 0 0) = .ok () b₁ ∧
        (castAll splMath 12 vs₂).run (.new 1 0 0 0) = .ok () b₂ ∧
        b₁.winningBallot = .new 0 ∧ b₁.winningBallot = b₂.winningBallot := by
  let u : TimedVote := ⟨⟨7, .new 0, ⟨5, by decide⟩⟩, 3, 9, 3⟩
  let v : TimedVote := ⟨⟨8, .new 1, ⟨3, by decide⟩⟩, 4, 9, 4⟩
  let w : TimedVote := ⟨⟨9, .new 0, ⟨4, by decide⟩⟩, 5, 9, 5⟩
  have h₁ : (castAll splMath 12 [u, v, w]).run (.new 1 0 0 0) =
      .ok () (commit (castAll splMath 12 [u, v, w]) (.new 1 0 0 0)) :=
    Succeeds.run_eq (by decide +kernel)
  have h₂ : (castAll splMath 12 [w, u, v]).run (.new 1 0 0 0) =
      .ok () (commit (castAll splMath 12 [w, u, v]) (.new 1 0 0 0)) :=
    Succeeds.run_eq (by decide +kernel)
  have hperm : ([u, v, w].map (·.toVote)).Perm ([w, u, v].map (·.toVote)) := by decide
  refine ⟨[u, v, w], [w, u, v], hperm, by decide, _, _, h₁, h₂, by decide +kernel, ?_⟩
  exact (agreement_of_perm splMath_documented (by decide) (by decide) hperm (by decide) h₁ h₂).1

end NcnProgram
