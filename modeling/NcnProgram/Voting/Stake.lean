import NcnProgram.Program.Voting
import NcnProgram.Snapshot.Aggregation
import NcnProgram.Voting.Accounting

/-!
# Votes never exceed the snapshotted stake

A vote is cast with the stake of the operator's snapshot, and only when the epoch's snapshot is finalized.
By then every operator with a snapshot has been counted, and the snapshot of a counted operator does not
change any more. So the votes in the box, one for each operator, are part of the sum that the epoch's
snapshot is, and neither a tally nor the addition of one more vote can exceed it.
-/

namespace NcnProgram
open Lib NCNProgramError

namespace Epoch

/-- A successful creation of an operator's snapshot, registration of a vault or vote. The operators of the
NCN have the indices `index`. -/
inductive VotingStep (math : PreciseMath) (index : Pubkey → ℕ) : Epoch → Epoch → Prop
  | createSnapshot {e e'} (clock : Clock) (bump : UInt8) (op : NcnOperator) :
      op.ncnOperatorIndex = index op.operator →
      (processInitializeOperatorSnapshot clock bump op).run e = .ok () e' → VotingStep math index e e'
  | registerVault {e e'} (clock : Clock) (operator : Pubkey) (v : VaultDelegation) :
      (processSnapshotVaultOperatorDelegation math clock operator v).run e = .ok () e' →
      VotingStep math index e e'
  | castVote {e e'} (clock : Clock) (operator voter operatorAdmin : Pubkey) (weatherStatus : UInt8) :
      (processCastVote math clock operator voter operatorAdmin weatherStatus).run e = .ok () e' →
      VotingStep math index e e'

/-- The beginning: no operator has a snapshot, and the epoch's snapshot and the ballot box are new. -/
structure VotingOpening (e : Epoch) : Prop where
  operatorSnapshot : ∀ p, e.operatorSnapshot p = none
  epochSnapshot : ∃ ncn epoch bump slot operatorCount vaultCount fees,
    e.epochSnapshot = .new ncn epoch bump slot operatorCount vaultCount fees
  ballotBox : ∃ ncn epoch bump slot, e.ballotBox = .new ncn epoch bump slot

/-- Every vote in the box is by a counted operator, with the stake of its snapshot. -/
structure Staked (index : Pubkey → ℕ) (e : Epoch) (counted : List Pubkey) (vs : List OperatorVote)
    (ts : List BallotTally) : Prop where
  aggregated : ∃ created, Aggregated index e created counted
  accounted : Accounted e.ballotBox vs ts
  vote : ∀ v ∈ vs, v.operator ∈ counted ∧
    ∃ s, e.operatorSnapshot v.operator = some s ∧ v.stakeWeights = s.stakeWeights

namespace Staked
variable {math : PreciseMath} {index : Pubkey → ℕ} {e e' : Epoch} {counted : List Pubkey}
  {vs : List OperatorVote} {ts : List BallotTally}

/-- At the beginning there is nothing. -/
lemma opening (index : Pubkey → ℕ) (h : e.VotingOpening) : Staked index e [] [] [] := by
  obtain ⟨ncn, epoch, bump, slot, operatorCount, vaultCount, fees, hes⟩ := h.epochSnapshot
  obtain ⟨ncn', epoch', bump', slot', hbox⟩ := h.ballotBox
  refine ⟨⟨[], ?_⟩, hbox ▸ Accounted.new ncn' epoch' bump' slot', by simp⟩
  constructor
  case created_iff => simp [h.operatorSnapshot]
  case created_nodup => exact List.nodup_nil
  case index_lt => simp
  case counted_sub => simp
  case counted_nodup => exact List.nodup_nil
  case registered => rw [hes]; rfl
  case stake => rw [hes]; rfl
  case finalized => simp

/-- What has been counted carries the votes along. -/
lemma carry (h : Staked index e counted vs ts) {created' counted' : List Pubkey}
    (hkeeps : Aggregated.Keeps counted counted' e e') (hagg : Aggregated index e' created' counted')
    (hbox : e'.ballotBox = e.ballotBox) : Staked index e' counted' vs ts := by
  refine ⟨⟨created', hagg⟩, hbox ▸ h.accounted, fun v hv => ?_⟩
  obtain ⟨hmem, s, hs, hw⟩ := h.vote v hv
  obtain ⟨hmem', hsame⟩ := hkeeps _ hmem
  exact ⟨hmem', s, hsame.trans hs, hw⟩

/-- When the epoch's snapshot is finalized, every operator with a snapshot was counted. -/
lemma counted_of_finalized (h : Staked index e counted vs ts) (hinj : Function.Injective index)
    (hfin : e.epochSnapshot.finalized = true) {p : Pubkey} {s : OperatorSnapshot}
    (hs : e.operatorSnapshot p = some s) : p ∈ counted := by
  obtain ⟨created, hagg⟩ := h.aggregated
  exact hagg.counted_of_finalized hinj hfin ((hagg.created_iff p).2 ⟨s, hs⟩)

/-- The box after a vote with the stake of the operator's snapshot. -/
lemma castVote (h : Staked index e counted vs ts) (hinj : Function.Injective index)
    (hfin : e.epochSnapshot.finalized = true) {operator : Pubkey} {s : OperatorSnapshot}
    (hs : e.operatorSnapshot operator = some s) {ballot : Ballot} {slot valid : ℕ} {b : BallotBox}
    (hrun : (BallotBox.castVote operator ballot s.stakeWeights slot valid).run e.ballotBox = .ok () b) :
    ∃ v ts', v.operator = operator ∧ Staked index { e with ballotBox := b } counted (vs ++ [v]) ts' := by
  obtain ⟨ts', i, _, hacc, _⟩ := h.accounted.castVote_takes hrun
  obtain ⟨created, hagg⟩ := h.aggregated
  refine ⟨_, ts', rfl, ⟨created, hagg.of_eq rfl rfl⟩, hacc, ?_⟩
  apply forall_mem_append_singleton h.vote
  exact ⟨h.counted_of_finalized hinj hfin hs, s, hs, rfl⟩

/-- Every step keeps the votes part of the snapshotted stake. -/
lemma step (h : Staked index e counted vs ts) (hinj : Function.Injective index)
    (hstep : VotingStep math index e e') : ∃ counted' vs' ts', Staked index e' counted' vs' ts' := by
  obtain ⟨created, hagg⟩ := h.aggregated
  cases hstep with
  | createSnapshot clock bump op hindex hrun =>
    obtain ⟨created', counted', hkeeps, hagg'⟩ := hagg.create hindex hrun
    obtain ⟨_, _, s, es, st, _, _, _, rfl⟩ := processInitializeOperatorSnapshot_run_ok hrun
    exact ⟨counted', vs, ts, h.carry hkeeps hagg' rfl⟩
  | registerVault clock operator v hrun =>
    obtain ⟨created', counted', hkeeps, hagg'⟩ := hagg.register hrun
    obtain ⟨s, s', sw, es, st, _, _, _, _, _, rfl⟩ := processSnapshotVaultOperatorDelegation_run_ok hrun
    exact ⟨counted', vs, ts, h.carry hkeeps hagg' rfl⟩
  | castVote clock operator voter operatorAdmin weatherStatus hrun =>
    obtain ⟨s, b₁, b₂, result, hs, hfin, _, hcast, htally, _, rfl⟩ := processCastVote_run_ok hrun
    obtain ⟨v, ts', _, h'⟩ := h.castVote hinj hfin hs hcast
    exact ⟨counted, vs ++ [v], ts', ⟨created, hagg.of_eq rfl rfl⟩, h'.accounted.tallyVotes htally, h'.vote⟩

/-- The stake of the votes is that of their operators. -/
lemma stake_eq (h : Staked index e counted vs ts) :
    vs.map (·.stakeWeights.stakeWeight) = (vs.map (·.operator)).map e.stakeAt := by
  rw [List.map_map]
  apply List.map_congr_left
  intro v hv
  obtain ⟨_, s, hs, hw⟩ := h.vote v hv
  rw [Function.comp_apply, stakeAt_of_some hs, hw]

lemma operators_sub (h : Staked index e counted vs ts) : vs.map (·.operator) ⊆ counted := by
  intro p hp
  obtain ⟨v, hv, rfl⟩ := List.mem_map.1 hp
  exact (h.vote v hv).1

/-- The votes weigh no more than the operators that were counted. -/
lemma sum_le (h : Staked index e counted vs ts) :
    (vs.map (·.stakeWeights.stakeWeight)).sum ≤ e.epochSnapshot.stakeWeights.stakeWeight := by
  obtain ⟨created, hagg⟩ := h.aggregated
  rw [h.stake_eq]
  exact hagg.sum_stakeAt_le h.accounted.operators h.operators_sub

/-- A tally weighs no more than the votes. -/
lemma tally_le (h : Staked index e counted vs ts) {t : BallotTally}
    (ht : t ∈ e.ballotBox.ballotTallies.toList) :
    t.stakeWeights.stakeWeight ≤ (vs.map (·.stakeWeights.stakeWeight)).sum ∧ t.tally ≤ vs.length := by
  rw [h.accounted.tallies, List.mem_append] at ht
  rcases ht with ht | ht
  · obtain ⟨i, hi⟩ := List.mem_iff_getElem?.1 ht
    have hc := h.accounted.counts i t hi
    rw [hc.weight, hc.count]
    exact ⟨weightOf_le_sum, List.countP_le_length⟩
  · rw [List.eq_of_mem_replicate ht]
    exact ⟨Nat.zero_le _, Nat.zero_le _⟩

/-- The votes and the stake of an operator that has not voted are within the snapshotted stake. -/
lemma sum_add_le (h : Staked index e counted vs ts) (hinj : Function.Injective index)
    (hfin : e.epochSnapshot.finalized = true) {operator : Pubkey} {s : OperatorSnapshot}
    (hs : e.operatorSnapshot operator = some s) (hnew : operator ∉ vs.map (·.operator)) :
    (vs.map (·.stakeWeights.stakeWeight)).sum + s.stakeWeights.stakeWeight ≤
      e.epochSnapshot.stakeWeights.stakeWeight := by
  obtain ⟨created, hagg⟩ := h.aggregated
  have hmem := h.counted_of_finalized hinj hfin hs
  have := hagg.sum_stakeAt_le (List.nodup_cons.2 ⟨hnew, h.accounted.operators⟩)
    (List.cons_subset.2 ⟨hmem, h.operators_sub⟩)
  rw [List.map_cons, List.sum_cons, stakeAt_of_some hs, ← h.stake_eq] at this
  omega

/-- A tally can take the vote of an operator that has not voted. -/
lemma incrementTally_succeeds (h : Staked index e counted vs ts) (hinj : Function.Injective index)
    (hfin : e.epochSnapshot.finalized = true) {operator : Pubkey} {s : OperatorSnapshot}
    (hs : e.operatorSnapshot operator = some s)
    (hnew : e.ballotBox.operatorVotes.any (·.operator == operator) = false) {t : BallotTally}
    (ht : t ∈ e.ballotBox.ballotTallies.toList) :
    Succeeds (BallotTally.incrementTally s.stakeWeights) t := by
  have hfresh : operator ∉ vs.map (·.operator) := by
    intro hmem
    obtain ⟨v, hv, hvo⟩ := List.mem_map.1 hmem
    rw [Table.any, h.accounted.votes, List.any_append, Bool.or_eq_false_iff] at hnew
    have := List.any_eq_false.1 hnew.1 v hv
    rw [hvo, beq_self_eq_true] at this
    exact this rfl
  obtain ⟨hweight, hcount⟩ := h.tally_le ht
  have hsum := h.sum_add_le hinj hfin hs hfresh
  have htotal := e.epochSnapshot.stakeWeights.lt
  have hlen : vs.length ≤ 256 := h.accounted.votes.length_le
  have hinc := StakeWeights.increment_of_lt (a := t.stakeWeights) (b := s.stakeWeights) (by omega)
  simp only [BallotTally.incrementTally, Succeeds, EStateM.run_bind, run_zoom, hinc, EStateM.run_get,
    checkedAdd_of_lt (show t.tally + 1 < 2 ^ 64 by omega)]
  exact ⟨_, _, rfl⟩

end Staked

/-- A finalized snapshot does not change. -/
lemma VotingStep.finalized_same {math : PreciseMath} {index : Pubkey → ℕ} {e e' : Epoch}
    (h : VotingStep math index e e') {p : Pubkey} {s : OperatorSnapshot}
    (hs : e.operatorSnapshot p = some s) (hfin : s.finalized = true) :
    e'.operatorSnapshot p = some s := by
  cases h with
  | createSnapshot clock bump op hindex hrun =>
    have hstep : SnapshotStep math index e e' := .createSnapshot clock bump op hindex hrun
    exact hstep.finalized_same hs hfin
  | registerVault clock operator v hrun =>
    have hstep : SnapshotStep math index e e' := .registerVault clock operator v hrun
    exact hstep.finalized_same hs hfin
  | castVote clock operator voter operatorAdmin weatherStatus hrun =>
    obtain ⟨_, _, _, _, _, _, _, _, _, _, rfl⟩ := processCastVote_run_ok hrun
    exact hs

/-- The votes are within the snapshotted stake. -/
structure StakeBounded (e : Epoch) : Prop where
  recorded : ∀ v ∈ e.ballotBox.recorded, ∃ s, e.operatorSnapshot v.operator = some s ∧
    s.finalized = true ∧ v.stakeWeights = s.stakeWeights
  sum_le : (e.ballotBox.recorded.map (·.stakeWeights.stakeWeight)).sum ≤
    e.epochSnapshot.stakeWeights.stakeWeight
  tally_le : ∀ t ∈ e.ballotBox.ballotTallies.toList,
    t.stakeWeights.stakeWeight ≤ e.epochSnapshot.stakeWeights.stakeWeight
  no_overflow : ∀ operator s, e.operatorSnapshot operator = some s →
    e.epochSnapshot.finalized = true →
    e.ballotBox.operatorVotes.any (·.operator == operator) = false →
    ∀ t ∈ e.ballotBox.ballotTallies.toList, Succeeds (BallotTally.incrementTally s.stakeWeights) t
  denominator : ∀ operator s ballot slot valid b, e.operatorSnapshot operator = some s →
    e.epochSnapshot.finalized = true →
    (BallotBox.castVote operator ballot s.stakeWeights slot valid).run e.ballotBox = .ok () b →
    ∀ t ∈ b.ballotTallies.toList, t.stakeWeights.stakeWeight ≤ e.epochSnapshot.stakeWeights.stakeWeight

lemma Staked.stakeBounded {index : Pubkey → ℕ} {e : Epoch} {counted : List Pubkey}
    {vs : List OperatorVote} {ts : List BallotTally} (h : Staked index e counted vs ts)
    (hinj : Function.Injective index) : e.StakeBounded := by
  obtain ⟨created, hagg⟩ := h.aggregated
  constructor
  case recorded =>
    intro v hv
    rw [h.accounted.recorded_eq] at hv
    obtain ⟨hmem, s, hs, hw⟩ := h.vote v hv
    exact ⟨s, hs, hagg.finalized _ hmem s hs, hw⟩
  case sum_le => rw [h.accounted.recorded_eq]; exact h.sum_le
  case tally_le => exact fun t ht => (h.tally_le ht).1.trans h.sum_le
  case no_overflow => exact fun _ _ hs hfin hnew _ ht => h.incrementTally_succeeds hinj hfin hs hnew ht
  case denominator =>
    intro operator s ballot slot valid b hs hfin hrun t ht
    obtain ⟨v, ts', _, h'⟩ := h.castVote hinj hfin hs hrun
    exact (h'.tally_le ht).1.trans h'.sum_le

end Epoch

/-- In every state that creating snapshots, registering vaults and voting can reach, each recorded vote has
the stake of its operator's finalized snapshot, which stays as it is from then on, and the votes, the tallies
and any further addition to them are within the stake of the epoch's snapshot. -/
theorem votes_within_snapshot {math : PreciseMath} {index : Pubkey → ℕ} (hinj : Function.Injective index)
    {e₀ e : Epoch} (hopen : e₀.VotingOpening) (hrun : Run (Epoch.VotingStep math index) e₀ e) :
    e.StakeBounded ∧
      ∀ e', Run (Epoch.VotingStep math index) e e' → ∀ p s, e.operatorSnapshot p = some s →
        s.finalized = true → e'.operatorSnapshot p = some s := by
  constructor
  · obtain ⟨counted, vs, ts, h⟩ : ∃ counted vs ts, Epoch.Staked index e counted vs ts :=
      hrun.invariant (I := fun e => ∃ counted vs ts, Epoch.Staked index e counted vs ts)
        ⟨[], [], [], .opening index hopen⟩ fun _ _ hstep ⟨_, _, _, h⟩ => h.step hinj hstep
    exact h.stakeBounded hinj
  · intro e' hrun' p s hs hfin
    exact hrun'.invariant (I := fun e => e.operatorSnapshot p = some s) hs
      fun _ _ hstep hs => hstep.finalized_same hs hfin

/-- Two operators, an active one with stake five from two vaults and an inactive one: the active one votes
with all of the snapshotted stake. -/
theorem votes_within_snapshot_one_vote :
    ∃ e₀ e : Epoch, e₀.VotingOpening ∧
      Run (Epoch.VotingStep splMath fun p => (p - 7).toNat) e₀ e ∧
      (e.ballotBox.recorded.map (·.stakeWeights.stakeWeight)).sum = 5 ∧
      e.epochSnapshot.stakeWeights.stakeWeight = 5 ∧ e.StakeBounded := by
  let create (operator : Pubkey) (index : ℕ) (isActive : Bool) :=
    Epoch.processInitializeOperatorSnapshot ⟨1, 0⟩ 0 ⟨operator, index, 0, index, isActive⟩
  let register (v : VaultDelegation) := Epoch.processSnapshotVaultOperatorDelegation splMath ⟨1, 0⟩ 7 v
  let vote := Epoch.processCastVote splMath ⟨10, 0⟩ 7 5 5 1
  let e₀ := Epoch.small 2
  let e₁ := commit (create 7 0 true) e₀
  let e₂ := commit (register (.small false 2)) e₁
  let e₃ := commit (create 8 1 false) e₂
  let e₄ := commit (register (.small true 3)) e₃
  let e₅ := commit vote e₄
  have r₁ : (create 7 0 true).run e₀ = .ok () e₁ := Succeeds.run_eq (by decide +kernel)
  have r₂ : (register (.small false 2)).run e₁ = .ok () e₂ := Succeeds.run_eq (by decide +kernel)
  have r₃ : (create 8 1 false).run e₂ = .ok () e₃ := Succeeds.run_eq (by decide +kernel)
  have r₄ : (register (.small true 3)).run e₃ = .ok () e₄ := Succeeds.run_eq (by decide +kernel)
  have r₅ : vote.run e₄ = .ok () e₅ := Succeeds.run_eq (by decide +kernel)
  have hsum : (e₅.ballotBox.recorded.map (·.stakeWeights.stakeWeight)).sum = 5 := by decide +kernel
  have htotal : e₅.epochSnapshot.stakeWeights.stakeWeight = 5 := by decide +kernel
  have hopen : e₀.VotingOpening :=
    ⟨fun _ => rfl, ⟨1, 0, 0, 1, 2, 2, ⟨0, 400, 200⟩, rfl⟩, ⟨1, 0, 0, 1, rfl⟩⟩
  have hinj : Function.Injective fun p : Pubkey => (p - 7).toNat := by
    intro p q h
    exact (BitVec.sub_left_inj 7).1 (BitVec.toNat_inj.1 h)
  clear_value e₀ e₁ e₂ e₃ e₄ e₅
  have hrun : Run (Epoch.VotingStep splMath fun p => (p - 7).toNat) e₀ e₅ :=
    ((((Relation.ReflTransGen.single (.createSnapshot ⟨1, 0⟩ 0 ⟨7, 0, 0, 0, true⟩ rfl r₁)).tail
      (.registerVault ⟨1, 0⟩ 7 (.small false 2) r₂)).tail
      (.createSnapshot ⟨1, 0⟩ 0 ⟨8, 1, 0, 1, false⟩ rfl r₃)).tail
      (.registerVault ⟨1, 0⟩ 7 (.small true 3) r₄)).tail (.castVote ⟨10, 0⟩ 7 5 5 1 r₅)
  exact ⟨e₀, e₅, hopen, hrun, hsum, htotal, (votes_within_snapshot hinj hopen hrun).1⟩

end NcnProgram
