import NcnProgram.Closing.Refinement
import NcnProgram.Routing.Errors

/-!
# Instructions that do not panic

The epoch state keeps the accounts of single operators in arrays, and indexes them with the operator's index. An
index beyond the arrays panics. In an epoch whose operators all have indices within the arrays (`Epoch.InRange`) the
instructions of its operators never index beyond them, whatever else they may fail with.

The other panic is that of the cast to a `u128` by which a product of precise numbers leaves the format. It is that
of a stake and a weight whose product does not fit (`Epoch.Weighs.panics_iff`).
-/

namespace NcnProgram
open Lib NCNProgramError

/-! ## The arrays -/

/-- All accesses to the arrays of the epoch state with the index are in bounds: none of its methods panics. -/
structure EpochState.InBounds (i : ℕ) : Prop where
  updateReallocOperatorSnapshot : ∀ p isActive, Avoids (.panicked p) (updateReallocOperatorSnapshot i isActive)
  updateSnapshotVaultOperatorDelegation :
    ∀ p finalized, Avoids (.panicked p) (updateSnapshotVaultOperatorDelegation i finalized)
  updateReallocOperatorVaultRewardRouter : ∀ p, Avoids (.panicked p) (updateReallocOperatorVaultRewardRouter i)
  updateRouteOperatorVaultRewards : ∀ p rewards, Avoids (.panicked p) (updateRouteOperatorVaultRewards i rewards)
  updateDistributeOperatorVaultRouteRewards :
    ∀ p rewards, Avoids (.panicked p) (updateDistributeOperatorVaultRouteRewards i rewards)
  closeOperatorSnapshot : ∀ p, Avoids (.panicked p) (closeOperatorSnapshot i)
  closeOperatorVaultRewardRouter : ∀ p, Avoids (.panicked p) (closeOperatorVaultRewardRouter i)

namespace EpochState
variable {p : Panic}

/-- Counting does not panic. -/
lemma avoids_increment (amount : ℕ) : Avoids (.panicked p) (Progress.increment amount) :=
  .bind .get fun _ => .bind (.okOr _ nofun) fun _ => .set _

/-- Neither does counting in the progress of the epoch's snapshot. -/
lemma avoids_incrementEpochSnapshotProgress : Avoids (.panicked p) incrementEpochSnapshotProgress :=
  .zoom (avoids_increment 1)

/-- Nor in that of an operator's, where the array has its index. -/
lemma avoids_incrementOperatorSnapshotProgress (i : ℕ) : Avoids (.panicked p) (incrementOperatorSnapshotProgress i) :=
  .zoom (avoids_increment 1)

/-- An index within the arrays does not panic. -/
lemma InBounds.of_lt {i : ℕ} (h : i < maxOperators) : InBounds i where
  updateReallocOperatorSnapshot _ _ := by
    refine .bind (.ensure (.inl h)) fun _ => .bind (.modify _) fun _ => .bind .get fun _ => .ite (.set _) ?_
    exact .bind (.set _) fun _ => .bind (avoids_incrementOperatorSnapshotProgress i) fun _ =>
      avoids_incrementEpochSnapshotProgress
  updateSnapshotVaultOperatorDelegation _ _ :=
    .bind (.ensure (.inl h)) fun _ => .bind (avoids_incrementOperatorSnapshotProgress i) fun _ =>
      .ite avoids_incrementEpochSnapshotProgress (.pure _)
  updateReallocOperatorVaultRewardRouter _ :=
    .bind (.ensure (.inl h)) fun _ => .bind (.modify _) fun _ => .modify _
  updateRouteOperatorVaultRewards _ _ := .bind (.ensure (.inl h)) fun _ => .bind .get fun _ => .set _
  updateDistributeOperatorVaultRouteRewards _ _ :=
    .bind (.modify _) fun _ => .bind (.ensure (.inl h)) fun _ => .bind .get fun _ => .set _
  closeOperatorSnapshot _ := .bind (.ensure (.inl h)) fun _ => .modify _
  closeOperatorVaultRewardRouter _ := .bind (.ensure (.inl h)) fun _ => .modify _

/-- Any other one does. -/
lemma inBounds_iff {i : ℕ} : InBounds i ↔ i < maxOperators := by
  constructor
  · intro h
    by_contra hlt
    have hpanic : FailsWith (EpochState.closeOperatorSnapshot i) (.initialized .default 0 0 0)
        (.panicked .outOfBounds) := by
      refine FailsWith.bind ?_ _
      rw [ensure_neg hlt]
      exact ⟨_, rfl⟩
    exact h.closeOperatorSnapshot _ _ hpanic
  · exact .of_lt

end EpochState

/-! ## What the instructions are made of -/

section
variable {math : PreciseMath} {p : Panic}

/-- A stake that does not fit is an error, no panic. -/
lemma StakeWeights.avoids_increment (sw : StakeWeights) : Avoids (.panicked p) (StakeWeights.increment sw) := by
  refine .bind .get fun _ => ?_
  split
  · exact .set _
  · exact .throw fun h => by cases h

namespace WeightTable

/-- A vault that is not listed is an error. -/
lemma checkRegistryForVault_ne {w : WeightTable} {vaultIndex : ℕ} :
    w.checkRegistryForVault vaultIndex ≠ .error (.panicked p) := by
  by_cases hempty : vaultIndex = VaultEntry.emptyVaultIndex
  · rw [checkRegistryForVault, if_pos hempty]
    intro h
    cases h
  · by_cases hnone : w.vaultRegistry.any (·.vaultIndex == vaultIndex) = false
    · rw [checkRegistryForVault, if_neg hempty, if_pos hnone]
      intro h
      cases h
    · rw [checkRegistryForVault, if_neg hempty, if_neg hnone]
      intro h
      cases h

/-- A mint without a weight is an error. -/
lemma getPreciseWeight_ne {w : WeightTable} {mint : Pubkey} :
    w.getPreciseWeight math mint ≠ .error (.panicked p) :=
  bind_ne_error (bind_ne_error (okOr_ne_error nofun) fun _ h => by cases h) fun _ => okOr_ne_error nofun

end WeightTable

/-- Weighing a stake is not an access to an array. -/
lemma VaultDelegation.totalStakeWeight_ne {v : VaultDelegation} {w : WeightTable} :
    v.totalStakeWeight math w ≠ .error (.panicked .outOfBounds) := by
  unfold VaultDelegation.totalStakeWeight
  split
  · exact bind_ne_error (okOr_ne_error nofun) fun _ => bind_ne_error WeightTable.getPreciseWeight_ne fun _ =>
      bind_ne_error (okOr_ne_error nofun) fun _ => bind_ne_error (okOr_ne_error nofun) fun _ => okOr_ne_error nofun
  · exact fun h => by cases h

/-- A stake that does not fit is an error. -/
lemma StakeWeights.snapshot_ne {stake : ℕ} : StakeWeights.snapshot stake ≠ .error (.panicked p) := by
  unfold StakeWeights.snapshot
  split
  · exact fun h => by cases h
  · exact fun h => by cases h

/-- Too many vaults are an error. -/
lemma OperatorSnapshot.initialized_ne {operator ncn : Pubkey} {epoch : ℕ} {bump : UInt8} {slot : ℕ}
    {isActive : Bool} {ncnOperatorIndex operatorIndex feeBps vaultCount : ℕ} :
    OperatorSnapshot.initialized operator ncn epoch bump slot isActive ncnOperatorIndex operatorIndex feeBps
      vaultCount ≠ .error (.panicked p) := by
  by_cases hcount : vaultCount > maxVaults
  · rw [OperatorSnapshot.initialized, if_pos hcount]
    intro h
    cases h
  · rw [OperatorSnapshot.initialized, if_neg hcount]
    intro h
    cases h

/-- Counting an operator does not panic. -/
lemma EpochSnapshot.avoids_incrementOperatorRegistration (slot n : ℕ) (sw : StakeWeights) :
    Avoids (.panicked p) (EpochSnapshot.incrementOperatorRegistration slot n sw) :=
  .bind .get fun _ => .bind (.ensure (.inr nofun)) fun _ => .bind (.okOr _ nofun) fun _ =>
    .bind (.modify _) fun _ => .bind (.okOr _ nofun) fun _ => .bind (.modify _) fun _ =>
    .bind (.zoom (StakeWeights.avoids_increment sw)) fun _ => .modify _

/-- Registering a vault's stake does not panic. -/
lemma OperatorSnapshot.avoids_incrementVaultOperatorDelegationRegistration (slot : ℕ) (vault : Pubkey)
    (vaultIndex : ℕ) (sw : StakeWeights) :
    Avoids (.panicked p) (incrementVaultOperatorDelegationRegistration slot vault vaultIndex sw) := by
  have hinsert : Avoids (.panicked p) (insertVaultOperatorStakeWeight vault vaultIndex sw) :=
    .bind .get fun _ => .bind (.okOr _ nofun) fun _ => .bind (.ensure (.inr nofun)) fun _ =>
      .bind (.ensure (.inr nofun)) fun _ => .set _
  have hlast : Avoids (.panicked p) (do
      zoom (·.stakeWeights) (fun w s => { s with stakeWeights := w }) (StakeWeights.increment sw)
      modify fun s => { s with slotFinalized := if s.finalized then slot else s.slotFinalized } :
      Mut OperatorSnapshot Unit) :=
    .bind (.zoom (StakeWeights.avoids_increment sw)) fun _ => .modify _
  refine .bind .get fun _ => .bind (.ensure (.inr nofun)) fun _ => .bind hinsert fun _ => .bind .get fun _ =>
    .bind (.okOr _ nofun) fun _ => .bind (.modify _) fun _ => .ite ?_ hlast
  exact .bind .get fun _ => .bind (.okOr _ nofun) fun _ => .bind (.modify _) fun _ => hlast

namespace BallotBox

/-- The end of the voting window is checked for overflow. -/
lemma isVotingValid_ne {b : BallotBox} {slot valid : ℕ} : b.isVotingValid slot valid ≠ .error (.panicked p) := by
  unfold isVotingValid
  split
  · exact fun h => by cases h
  · split
    · exact bind_ne_error (okOr_ne_error nofun) fun _ h => by cases h
    · exact fun h => by cases h

/-- A full table of tallies is an error. -/
lemma avoids_incrementOrCreateBallotTally (ballot : Ballot) (sw : StakeWeights) :
    Avoids (.panicked p) (incrementOrCreateBallotTally ballot sw) := by
  have hincrement : Avoids (.panicked p) (BallotTally.incrementTally sw) :=
    .bind (.zoom (StakeWeights.avoids_increment sw)) fun _ => .bind .get fun _ =>
      .bind (.okOr _ nofun) fun _ => .set _
  refine .bind .get fun _ => ?_
  split
  · exact .bind (.zoom hincrement) fun _ => .pure _
  · split
    · exact .bind (.set _) fun _ => .bind (.okOr _ nofun) fun _ => .bind (.modify _) fun _ => .pure _
    · exact .throw nofun

/-- A vote does not panic. -/
lemma avoids_castVote (operator : Pubkey) (ballot : Ballot) (sw : StakeWeights) (slot valid : ℕ) :
    Avoids (.panicked p) (castVote operator ballot sw slot valid) := by
  refine .bind .get fun _ => .bind (.ofExcept isVotingValid_ne) fun _ => .bind (.ensure (.inr nofun)) fun _ =>
    .bind (.ensure (.inr nofun)) fun _ => .bind (.ensure (.inr nofun)) fun _ =>
    .bind (avoids_incrementOrCreateBallotTally ballot sw) fun _ => .bind .get fun _ => ?_
  split
  · exact .bind (.set _) fun _ => .bind (.okOr _ nofun) fun _ => .modify _
  · exact .throw nofun

/-- Comparing with the quorum does not panic. -/
lemma consensusReached_ne {stake total : ℕ} : consensusReached math stake total ≠ .error (.panicked p) := by
  have hconsensus : preciseConsensus math ≠ .error (.panicked p) :=
    bind_ne_error (okOr_ne_error nofun) fun _ => bind_ne_error (okOr_ne_error nofun) fun _ =>
      okOr_ne_error nofun
  unfold consensusReached
  split
  · exact fun h => by cases h
  · exact bind_ne_error (okOr_ne_error nofun) fun _ => bind_ne_error (okOr_ne_error nofun) fun _ =>
      bind_ne_error (okOr_ne_error nofun) fun _ => bind_ne_error hconsensus fun _ h => by cases h

/-- Tallying does not panic. -/
lemma avoids_tallyVotes (total slot : ℕ) : Avoids (.panicked p) (tallyVotes math total slot) :=
  .bind .get fun _ => .ite (.pure _) (.bind (.okOr _ nofun) fun _ =>
    .bind (.ofExcept consensusReached_ne) fun _ => .ite (.set _) (.pure _))

end BallotBox

/-- Recording the winner does not panic. -/
lemma ConsensusResult.avoids_recordWinner (ballotBox : BallotBox) (total slot : ℕ) :
    Avoids (.panicked p) (recordWinner ballotBox total slot) :=
  .ite (.bind (.ofExcept (NCNRewardRouter.getWinningBallotTally_ne (fun h => by cases h) (fun h => by cases h)
    ballotBox)) fun _ => .modify _) (.pure _)

/-! ## The instructions on the data -/

namespace Epoch
variable {clock : Clock} {e : Epoch} {operator : Pubkey} {v : VaultDelegation}

/-- The accounts of single operators have indices within the arrays. -/
structure InRange (e : Epoch) : Prop where
  snapshot : ∀ operator s, e.operatorSnapshot operator = some s → s.ncnOperatorIndex < maxOperators
  router : ∀ operator r, e.operatorVaultRewardRouter operator = some r → r.ncnOperatorIndex < maxOperators

/-- A method of an operator's snapshot that does not panic. -/
lemma avoids_onOperatorSnapshot {α : Type} {x : Mut OperatorSnapshot α} (hx : Avoids (.panicked p) x) :
    Avoids (.panicked p) (onOperatorSnapshot operator x) :=
  .bind .get fun _ => .bind (.okOr _ nofun) fun _ => .zoom hx

/-- A method of an operator's router that does not panic. -/
lemma avoids_onOperatorVaultRewardRouter {α : Type} {x : Mut OperatorVaultRewardRouter α}
    (hx : Avoids (.panicked p) x) : Avoids (.panicked p) (onOperatorVaultRewardRouter operator x) :=
  .bind .get fun _ => .bind (.okOr _ nofun) fun _ => .zoom hx

/-- The snapshot of an operator whose index fits is created without a panic. -/
lemma avoids_processInitializeOperatorSnapshot {bump : UInt8} {op : NcnOperator}
    (h : op.ncnOperatorIndex < maxOperators) :
    Avoids (.panicked p) (processInitializeOperatorSnapshot clock bump op) := by
  have hlast : Avoids (.panicked p) (onEpochState
      (EpochState.updateReallocOperatorSnapshot op.ncnOperatorIndex op.isActive)) :=
    .zoom ((EpochState.InBounds.of_lt h).updateReallocOperatorSnapshot _ _)
  refine .bind .get fun _ => .bind (.ensure (.inr nofun)) fun _ => .bind (.ensure (.inr nofun)) fun _ =>
    .bind (.ensure (.inr nofun)) fun _ => .bind (.ofExcept OperatorSnapshot.initialized_ne) fun _ =>
    .bind (.modify _) fun _ => .ite ?_ hlast
  exact .bind (.zoom (EpochSnapshot.avoids_incrementOperatorRegistration _ _ _)) fun _ => hlast

/-- That of one whose index does not fit is not. -/
lemma processInitializeOperatorSnapshot_panics (clock : Clock) (bump : UInt8) {op : NcnOperator}
    (hclosing : e.epochState.isClosing = false) (hnone : e.operatorSnapshot op.operator = none)
    (hindex : op.ncnOperatorIndex < e.epochSnapshot.operatorCount) (hlarge : maxOperators ≤ op.ncnOperatorIndex)
    (hactive : op.isActive = true) (hvaults : e.epochSnapshot.vaultCount ≤ maxVaults) :
    FailsWith (processInitializeOperatorSnapshot clock bump op) e (.panicked .outOfBounds) := by
  obtain ⟨s, hs⟩ : ∃ s, OperatorSnapshot.initialized op.operator e.epochState.ncn e.epochState.epoch bump clock.slot
      op.isActive op.ncnOperatorIndex op.operatorIndex op.operatorFeeBps e.epochSnapshot.vaultCount = .ok s := by
    rw [OperatorSnapshot.initialized, if_neg (Nat.not_lt.2 hvaults)]
    exact ⟨_, rfl⟩
  have hst : FailsWith (EpochState.updateReallocOperatorSnapshot op.ncnOperatorIndex op.isActive) e.epochState
      (.panicked .outOfBounds) := by
    refine FailsWith.bind ?_ _
    rw [ensure_neg (Nat.not_lt.2 hlarge)]
    exact ⟨_, rfl⟩
  refine .bind_ok (a := e) rfl (.bind_ok (a := ()) (run_ensure_ok.2 ⟨hclosing, rfl⟩) ?_)
  refine .bind_ok (a := ()) (run_ensure_ok.2 ⟨Option.isNone_iff_eq_none.2 hnone, rfl⟩) ?_
  refine .bind_ok (a := ()) (run_ensure_ok.2 ⟨hindex, rfl⟩) (.bind_ok (run_ofExcept_ok.2 ⟨hs, rfl⟩) ?_)
  refine .bind_ok (a := ()) rfl ?_
  rw [hactive] at hst ⊢
  exact .zoom hst

/-- A vote does not use an index. -/
lemma avoids_processCastVote {voter operatorAdmin : Pubkey} {weatherStatus : UInt8} :
    Avoids (.panicked p) (processCastVote math clock operator voter operatorAdmin weatherStatus) :=
  .bind .get fun _ => .bind (.okOr _ nofun) fun _ => .bind (.ensure (.inr nofun)) fun _ =>
    .bind (.ensure (.inr nofun)) fun _ => .bind (.ensure (.inr nofun)) fun _ =>
    .bind (.zoom (BallotBox.avoids_castVote _ _ _ _ _)) fun _ =>
    .bind (.zoom (BallotBox.avoids_tallyVotes _ _)) fun _ => .bind .get fun _ =>
    .bind (.zoom (ConsensusResult.avoids_recordWinner _ _ _)) fun _ => .zoom (.modify _)

/-- A vault is registered with the index of the snapshot, which it keeps; so only weighing its stake can panic. -/
lemma InRange.processSnapshotVaultOperatorDelegation (h : e.InRange)
    (hv : v.totalStakeWeight math e.weightTable ≠ .error (.panicked p)) :
    ¬FailsWith (processSnapshotVaultOperatorDelegation math clock operator v) e (.panicked p) := by
  have hrest : ∀ snapshot : OperatorSnapshot, snapshot.ncnOperatorIndex < maxOperators → Avoids (.panicked p) (do
      if snapshot.finalized then
        onEpochSnapshot (EpochSnapshot.incrementOperatorRegistration clock.slot
          snapshot.validOperatorVaultDelegations snapshot.stakeWeights)
      onEpochState (EpochState.updateSnapshotVaultOperatorDelegation snapshot.ncnOperatorIndex
        snapshot.finalized) : Mut Epoch Unit) := by
    intro snapshot hlt
    have hlast : Avoids (.panicked p) (onEpochState (EpochState.updateSnapshotVaultOperatorDelegation
        snapshot.ncnOperatorIndex snapshot.finalized)) :=
      .zoom ((EpochState.InBounds.of_lt hlt).updateSnapshotVaultOperatorDelegation _ _)
    exact .ite (.bind (.zoom (EpochSnapshot.avoids_incrementOperatorRegistration _ _ _)) fun _ => hlast) hlast
  refine not_failsWith_bind .get fun _ _ hg => ?_
  cases hg
  refine not_failsWith_bind (.ensure (.inr nofun)) fun _ _ hg => ?_
  obtain ⟨_, rfl⟩ := run_ensure_ok.1 hg
  refine not_failsWith_bind (.ensure (.inr nofun)) fun _ _ hg => ?_
  obtain ⟨_, rfl⟩ := run_ensure_ok.1 hg
  refine not_failsWith_bind (.ofExcept WeightTable.checkRegistryForVault_ne) fun _ _ hg => ?_
  obtain ⟨_, rfl⟩ := run_ofExcept_ok.1 hg
  refine not_failsWith_bind (.ofExcept hv) fun _ _ hg => ?_
  obtain ⟨_, rfl⟩ := run_ofExcept_ok.1 hg
  refine not_failsWith_bind (.ofExcept StakeWeights.snapshot_ne) fun _ _ hg => ?_
  obtain ⟨_, rfl⟩ := run_ofExcept_ok.1 hg
  refine not_failsWith_bind (avoids_onOperatorSnapshot
    (OperatorSnapshot.avoids_incrementVaultOperatorDelegationRegistration _ _ _ _)) fun _ e₁ hg => ?_
  obtain ⟨_, _, hget, hg⟩ := run_bind_ok.1 hg
  cases hget
  obtain ⟨s, _, hget, hg⟩ := run_bind_ok.1 hg
  obtain ⟨hs, rfl⟩ := run_okOr_ok.1 hget
  obtain ⟨s', hreg, rfl⟩ := run_zoom_ok.1 hg
  refine not_failsWith_bind .get fun _ _ hg => ?_
  cases hg
  refine Avoids.okOr_bind (by nofun) (fun snapshot hsnapshot => hrest snapshot ?_) _
  -- the snapshot that is read back is the registered one, with the index it had
  obtain rfl : s' = snapshot := Option.some.inj (operatorSnapshot_setOperatorSnapshot.symm.trans hsnapshot)
  obtain ⟨_, _, _, _, _, _, _, _, rfl⟩ :=
    OperatorSnapshot.incrementVaultOperatorDelegationRegistration_run_ok hreg
  exact h.snapshot operator s hs

/-- The registration of a vault gets as far as weighing `security` lamports of stake, a `u64`, with `weight`, a
`u128`. -/
structure Weighs (e : Epoch) (operator : Pubkey) (v : VaultDelegation) (security weight : ℕ) : Prop where
  snapshot : (e.operatorSnapshot operator).isSome = true
  updated : v.isUpdateNeeded = false
  registered : e.weightTable.checkRegistryForVault v.vaultIndex = .ok ()
  active : (v.vaultNcnTicket.getD false && v.ncnVaultActive) = true
  totalSecurity : v.totalSecurity = some security
  security_lt : security < 2 ^ 64
  getWeight : e.weightTable.getWeight v.stMint = .ok weight
  weight_lt : weight < 2 ^ 128

namespace Weighs
variable {security weight : ℕ}

/-- The product is cast to a `u128`. -/
lemma totalStakeWeight_eq (h : e.Weighs operator v security weight) (hm : math.Documented) :
    v.totalStakeWeight math e.weightTable =
      okOr (asU128 (security * weight)) (.panicked .castOverflow : ProgramError) := by
  rw [VaultDelegation.totalStakeWeight, h.active, h.totalSecurity]
  exact OperatorSnapshot.calculateTotalStakeWeight_run hm h.security_lt h.weight_lt h.getWeight

/-- So registering the vault panics exactly if the product does not fit. -/
lemma panics_iff (h : e.Weighs operator v security weight) (hm : math.Documented) (he : e.InRange) :
    FailsWith (processSnapshotVaultOperatorDelegation math clock operator v) e (.panicked p) ↔
      p = .castOverflow ∧ 2 ^ 128 ≤ security * weight := by
  have heq := h.totalStakeWeight_eq hm
  obtain hfit | hlarge := Nat.lt_or_ge (security * weight) (2 ^ 128)
  · rw [asU128_of_lt hfit] at heq
    refine iff_of_false (he.processSnapshotVaultOperatorDelegation ?_) fun hlarge => by omega
    rw [heq]
    exact fun h => by cases h
  · rw [asU128_of_le hlarge] at heq
    constructor
    · intro hfails
      refine ⟨?_, hlarge⟩
      by_contra hp
      refine he.processSnapshotVaultOperatorDelegation ?_ hfails
      rw [heq]
      intro hpanic
      cases hpanic
      exact hp rfl
    · rintro ⟨rfl, -⟩
      refine .bind_ok (a := e) rfl (.bind_ok (a := ()) (run_ensure_ok.2 ⟨h.snapshot, rfl⟩) ?_)
      refine .bind_ok (a := ()) (run_ensure_ok.2 ⟨h.updated, rfl⟩) ?_
      refine .bind_ok (a := ()) (run_ofExcept_ok.2 ⟨h.registered, rfl⟩) ?_
      rw [heq]
      exact ⟨_, rfl⟩

end Weighs

/-- Routing an operator's rewards. -/
lemma InRange.processRouteOperatorVaultRewards (h : e.InRange) {rentCost maxIterations : ℕ} :
    ¬FailsWith (processRouteOperatorVaultRewards math rentCost operator maxIterations) e (.panicked .outOfBounds) := by
  have hrest : ∀ snapshot : OperatorSnapshot, snapshot.ncnOperatorIndex < maxOperators →
      Avoids (.panicked .outOfBounds) (do
      onOperatorVaultRewardRouter operator
        (OperatorVaultRewardRouter.routeRewardPool math snapshot maxIterations)
      let router ← okOr ((← get).operatorVaultRewardRouter operator) ProgramError.invalidAccountOwner
      onEpochState (EpochState.updateRouteOperatorVaultRewards snapshot.ncnOperatorIndex router.totalRewards) :
      Mut Epoch Unit) := by
    intro snapshot hlt
    refine .bind (avoids_onOperatorVaultRewardRouter
      (OperatorVaultRewardRouter.avoids_routeRewardPool (by decide) (by decide) _ _)) fun _ => ?_
    exact .bind .get fun _ => .bind (.okOr _ (by decide)) fun _ =>
      .zoom ((EpochState.InBounds.of_lt hlt).updateRouteOperatorVaultRewards _ _)
  refine not_failsWith_bind .get fun _ _ hg => ?_
  cases hg
  refine Avoids.okOr_bind (by decide) (fun snapshot hsnapshot => ?_) e
  have hlt := h.snapshot operator snapshot hsnapshot
  refine .bind (.okOr _ (by decide)) fun router => .ite ?_ (hrest snapshot hlt)
  exact .bind (avoids_onOperatorVaultRewardRouter
      (OperatorVaultRewardRouter.avoids_routeIncomingRewards (by decide) _ _)) fun _ =>
    .bind (avoids_onOperatorVaultRewardRouter
      (OperatorVaultRewardRouter.avoids_routeOperatorRewards (by decide) _)) fun _ => hrest snapshot hlt

/-- Paying an operator's rewards out. -/
lemma InRange.distributeOperatorVault (h : e.InRange) {distribute : Mut OperatorVaultRewardRouter ℕ}
    (hdistribute : Avoids (.panicked .outOfBounds) distribute) :
    ¬FailsWith (distributeOperatorVault operator distribute) e (.panicked .outOfBounds) := by
  have hpay : Avoids (.panicked .outOfBounds) (payOutOperatorVault operator distribute) :=
    .bind (avoids_onOperatorVaultRewardRouter hdistribute) fun _ => .bind .get fun _ =>
      .bind (.okOr _ (by decide)) fun _ => .bind (.modify _) fun _ => .pure _
  refine not_failsWith_bind .get fun _ _ hg => ?_
  cases hg
  refine Avoids.okOr_bind (by decide) (fun snapshot hsnapshot => ?_) e
  have hlt := h.snapshot operator snapshot hsnapshot
  exact .bind (.okOr _ (by decide)) fun _ => .bind (.ensure (.inr (by decide))) fun _ => .bind hpay fun _ =>
    .zoom ((EpochState.InBounds.of_lt hlt).updateDistributeOperatorVaultRouteRewards _ _)

/-- Paying an operator's route of the NCN router does not use its index. -/
lemma avoids_processDistributeOperatorVaultRewardRoute :
    Avoids (.panicked .outOfBounds) (processDistributeOperatorVaultRewardRoute operator) := by
  have hpay : Avoids (.panicked .outOfBounds)
      (payOutNcn (NCNRewardRouter.distributeOperatorVaultRewardRoute operator)) :=
    .bind (.zoom (NCNRewardRouter.avoids_distributeOperatorVaultRewardRoute (by decide) (by decide) _)) fun _ =>
      .bind .get fun _ => .bind (.okOr _ (by decide)) fun _ => .bind (.modify _) fun _ => .pure _
  have hdistribute : Avoids (.panicked .outOfBounds)
      (distributeNcn (NCNRewardRouter.distributeOperatorVaultRewardRoute operator)
        EpochState.updateDistributeOperatorVaultRewards) :=
    .bind .get fun _ => .bind (.ensure (.inr (by decide))) fun _ => .bind hpay fun _ =>
      .bind (.zoom (.modify _)) fun _ => .pure _
  exact .bind .get fun _ => .bind (.okOr _ (by decide)) fun _ => .bind hdistribute fun _ => .modify _

end Epoch

/-! ## The instructions of an operator -/

namespace Lifecycle

/-- The operator that an instruction is about: it takes its snapshot, casts its vote, routes or pays its rewards,
or closes one of its accounts. -/
def Instruction.operator : Instruction → Option Pubkey
  | .initializeOperatorSnapshot _ _ operator _ _ _ => some operator
  | .snapshotVaultOperatorDelegation _ operator _ => some operator
  | .castVote _ operator _ _ _ => some operator
  | .initializeOperatorVaultRewardRouter _ _ operator => some operator
  | .routeOperatorVaultRewards operator _ => some operator
  | .distributeOperatorVaultRewardRoute operator => some operator
  | .distributeOperatorRewards operator => some operator
  | .distributeVaultRewards operator _ => some operator
  | .depositOperatorVault operator _ => some operator
  | .closeEpochAccount _ (.operatorSnapshot operator) => some operator
  | .closeEpochAccount _ (.operatorVaultRewardRouter operator) => some operator
  | _ => none

variable {cl : Cluster} {s : Lifecycle} {operator : Pubkey}

/-- An epoch that is not there is an error. -/
lemma avoids_loadEpochState : Avoids (.panicked p) loadEpochState :=
  .bind .get fun _ => .ensure (.inr nofun)

/-- So is one that is closing. -/
lemma avoids_loadAndCheckIsClosing : Avoids (.panicked p) loadAndCheckIsClosing :=
  .bind .get fun _ => .bind (.ensure (.inr nofun)) fun _ => .ensure (.inr nofun)

/-- So is one that has ended. -/
lemma avoids_checkDne : Avoids (.panicked p) checkDne :=
  .bind .get fun _ => .ensure (.inr nofun)

/-- An account that is not there is an error. -/
lemma avoids_load (k : Single) : Avoids (.panicked p) (load k) := by
  refine .bind .get fun s => ?_
  split
  · exact .throw nofun
  · exact .throw nofun
  · exact .pure _

/-- So it is with several accounts. -/
lemma avoids_forM_load (ks : List Single) : Avoids (.panicked p) (ks.forM load) := by
  induction ks with
  | nil => exact .pure _
  | cons k ks ih => exact .bind (avoids_load k) fun _ => ih

/-- An instruction on loaded accounts panics only if it does on their data, which are those of an epoch. -/
lemma not_panics_loaded {ks : List Single} {x : Mut Epoch Unit}
    (hx : s.epochState = true → ¬FailsWith x s.accounts (.panicked p)) :
    ¬FailsWith (loaded ks x) s (.panicked p) := by
  refine not_failsWith_bind avoids_loadEpochState fun _ _ hg => ?_
  obtain ⟨hlive, rfl⟩ := loadEpochState_ok.1 hg
  refine not_failsWith_bind (avoids_forM_load ks) fun _ _ hg => ?_
  obtain ⟨_, rfl⟩ := forM_load_ok hg
  rintro ⟨s', hrun⟩
  exact hx hlive (run_zoom_error hrun)

/-- Creating an operator's router, with the index of its snapshot. -/
lemma not_panics_initializeOperatorVaultRewardRouter {clock : Clock} {bump : UInt8}
    (h : s.epochState = true → s.accounts.InRange) :
    ¬FailsWith (processInitializeOperatorVaultRewardRouter cl clock bump operator) s (.panicked .outOfBounds) := by
  refine not_failsWith_bind avoids_loadAndCheckIsClosing fun _ _ hg => ?_
  obtain ⟨hlive, _, rfl⟩ := loadAndCheckIsClosing_ok hg
  refine not_failsWith_bind .get fun _ _ hg => ?_
  cases hg
  refine Avoids.okOr_bind (by decide) (fun snapshot hsnapshot => ?_) s
  have hlt := (h hlive).snapshot operator snapshot hsnapshot
  exact .bind (.ensure (.inr (by decide))) fun _ => .bind avoids_checkDne fun _ =>
    .bind (.zoom (.modify _)) fun _ => .bind (.zoom (.modify _)) fun _ =>
    .zoom (.zoom ((EpochState.InBounds.of_lt hlt).updateReallocOperatorVaultRewardRouter _))

/-- Closing an account of an operator. -/
lemma not_panics_closeTarget (h : s.accounts.InRange) {target : Target}
    (htarget : target = .operatorSnapshot operator ∨ target = .operatorVaultRewardRouter operator) :
    ¬FailsWith (closeTarget cl target) s (.panicked .outOfBounds) := by
  obtain rfl | rfl := htarget
  · refine not_failsWith_bind .get fun _ _ hg => ?_
    cases hg
    refine Avoids.okOr_bind (by decide) (fun snapshot hsnapshot => ?_) s
    have hlt := h.snapshot operator snapshot hsnapshot
    exact .bind (.zoom (.zoom ((EpochState.InBounds.of_lt hlt).closeOperatorSnapshot _))) fun _ => .zoom (.modify _)
  · refine not_failsWith_bind .get fun _ _ hg => ?_
    cases hg
    refine Avoids.okOr_bind (by decide) (fun router hrouter => ?_) s
    have hlt := h.router operator router hrouter
    exact .bind (.ofExcept (okOr_ne_error (by decide))) fun _ => .bind (.zoom (.modify _)) fun _ =>
      .bind (.zoom (.zoom ((EpochState.InBounds.of_lt hlt).closeOperatorVaultRewardRouter _))) fun _ =>
      .zoom (.modify _)

/-- An epoch without a consensus is not closed, which is no panic. -/
lemma canCloseEpochAccounts_ne {st : EpochState} {getEpoch : ℕ → ℕ} {epochs slot : ℕ} :
    st.canCloseEpochAccounts getEpoch epochs slot ≠ .error (.panicked p) := by
  have hslot : st.getSlotConsensusReached ≠ .error (.panicked p) := by
    unfold EpochState.getSlotConsensusReached
    split
    · intro h
      cases h
    · intro h
      cases h
  exact bind_ne_error hslot fun _ h => by cases h

/-- A call that closes an account of an operator. -/
lemma not_panics_closeEpochAccount {clock : Clock} (h : s.epochState = true → s.accounts.InRange)
    {target : Target}
    (htarget : target = .operatorSnapshot operator ∨ target = .operatorVaultRewardRouter operator) :
    ¬FailsWith (processCloseEpochAccount cl clock target) s (.panicked .outOfBounds) := by
  refine not_failsWith_bind avoids_loadEpochState fun _ _ hg => ?_
  obtain ⟨hlive, rfl⟩ := loadEpochState_ok.1 hg
  refine not_failsWith_bind avoids_checkDne fun _ _ hg => ?_
  obtain ⟨_, rfl⟩ := checkDne_ok.1 hg
  refine not_failsWith_bind .get fun _ _ hg => ?_
  cases hg
  refine not_failsWith_bind (.ensure (.inr (by decide))) fun _ _ hg => ?_
  obtain ⟨_, rfl⟩ := run_ensure_ok.1 hg
  refine not_failsWith_bind (.ofExcept canCloseEpochAccounts_ne) fun _ _ hg => ?_
  obtain ⟨_, rfl⟩ := run_ofExcept_ok.1 hg
  refine not_failsWith_bind (.ensure (.inr (by decide))) fun _ _ hg => ?_
  obtain ⟨_, rfl⟩ := run_ensure_ok.1 hg
  refine not_failsWith_bind (.zoom (.zoom (.modify _))) fun _ _ hg => ?_
  cases hg
  exact not_panics_closeTarget (s := s.startClosing) ⟨(h hlive).snapshot, (h hlive).router⟩ htarget

/-- In a state whose indices fit, no instruction of an operator whose index fits panics. -/
lemma not_panics (h : s.epochState = true → s.accounts.InRange) {i : Instruction}
    (hi : i.operator = some operator) (hlt : cl.index operator < maxOperators) :
    ¬FailsWith (exec cl i) s (.panicked .outOfBounds) := by
  cases i with
  | initializeOperatorSnapshot clock bump operator' operatorIndex operatorFeeBps isActive =>
    cases hi
    exact (Avoids.bind avoids_loadAndCheckIsClosing fun _ => .bind (avoids_load _) fun _ =>
      .bind avoids_checkDne fun _ => .zoom (Epoch.avoids_processInitializeOperatorSnapshot hlt)) s
  | snapshotVaultOperatorDelegation clock operator' v =>
    exact not_panics_loaded fun hlive => (h hlive).processSnapshotVaultOperatorDelegation
      VaultDelegation.totalStakeWeight_ne
  | castVote clock operator' voter operatorAdmin weatherStatus =>
    have hload : Avoids (.panicked .outOfBounds) loadConsensusResult := .bind .get fun _ => .ensure (.inr (by decide))
    refine not_failsWith_bind hload fun _ s₁ _ => ?_
    exact not_panics_loaded fun _ => Epoch.avoids_processCastVote s₁.accounts
  | initializeOperatorVaultRewardRouter clock bump operator' =>
    exact not_panics_initializeOperatorVaultRewardRouter h
  | routeOperatorVaultRewards operator' maxIterations =>
    exact not_panics_loaded fun hlive => (h hlive).processRouteOperatorVaultRewards
  | distributeOperatorVaultRewardRoute operator' =>
    exact not_panics_loaded fun _ => Epoch.avoids_processDistributeOperatorVaultRewardRoute s.accounts
  | distributeOperatorRewards operator' =>
    exact not_panics_loaded fun hlive => (h hlive).distributeOperatorVault
      (OperatorVaultRewardRouter.avoids_distributeOperatorRewards (by decide))
  | distributeVaultRewards operator' vault =>
    exact not_panics_loaded fun hlive => (h hlive).distributeOperatorVault
      (OperatorVaultRewardRouter.avoids_distributeVaultRewardRoute (by decide) (by decide) _)
  | depositOperatorVault operator' lamports =>
    have hdeposit : Avoids (.panicked .outOfBounds) (onAccounts (Epoch.depositOperatorVault operator' lamports)) :=
      .zoom (.modify _)
    exact hdeposit s
  | closeEpochAccount clock target =>
    cases target with
    | operatorSnapshot operator' => exact not_panics_closeEpochAccount h (.inl rfl)
    | operatorVaultRewardRouter operator' => exact not_panics_closeEpochAccount h (.inr rfl)
    | epochState => cases hi
    | single k => cases hi
    | otherEpochState => cases hi
  | _ => cases hi

/-- Once its accounts are loaded, the registration of a vault panics exactly if its stake weighs too much. -/
lemma snapshot_panics_iff {clock : Clock} {v : VaultDelegation} {security weight : ℕ} (hm : cl.math.Documented)
    (h : s.accounts.InRange) (hlive : s.epochState = true) (hweights : s.single .weightTable = .initialized)
    (hsnapshot : s.single .epochSnapshot = .initialized) (hv : s.accounts.Weighs operator v security weight) :
    (∃ p, FailsWith (exec cl (.snapshotVaultOperatorDelegation clock operator v)) s (.panicked p)) ↔
      2 ^ 128 ≤ security * weight := by
  have hload : ∀ k, s.single k = .initialized → (load k).run s = .ok () s := fun k hk =>
    run_bind_ok.2 ⟨s, s, rfl, by rw [hk]; rfl⟩
  constructor
  · rintro ⟨p, hfails⟩
    by_contra hfit
    refine not_panics_loaded (fun _ hpanic => ?_) hfails
    exact hfit ((hv.panics_iff hm h).1 hpanic).2
  · intro hlarge
    have hloads : ([.weightTable, .epochSnapshot].forM load).run s = .ok () s :=
      run_bind_ok.2 ⟨(), s, hload _ hweights, run_bind_ok.2 ⟨(), s, hload _ hsnapshot, rfl⟩⟩
    exact ⟨.castOverflow, .bind_ok (a := ()) (loadEpochState_ok.2 ⟨hlive, rfl⟩)
      (.bind_ok hloads (.zoom ((hv.panics_iff hm h).2 ⟨rfl, hlarge⟩)))⟩

/-- The indices fit in every state that can be reached from nothing: creating an account with another one is what
panics. -/
lemma inRange {s₀ : Lifecycle} (h₀ : s₀.Untouched) (hrun : Run (Step cl) s₀ s) (hlive : s.epochState = true) :
    s.accounts.InRange := by
  have hb := live_book h₀ hrun hlive
  constructor
  case snapshot =>
    intro operator t ht
    exact (hb.snapshot.index operator t.ncnOperatorIndex (congrArg (Option.map _) ht)).2
  case router =>
    intro operator r hr
    exact (hb.router.index operator r.ncnOperatorIndex (congrArg (Option.map _) hr)).2

end Lifecycle
end
end NcnProgram
