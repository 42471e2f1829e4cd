import NcnProgram.Core.EpochSnapshot
import NcnProgram.Core.Rewards
import NcnProgram.Lib.Chunked

/-!
# The operator-vault reward router

Port of `core/src/operator_vault_reward_router.rs`. Lamports that arrive at the receiver of an operator enter
the reward pool; the operator's fee is taken first, and the rest of the pool is then routed to the vaults of
the operator's snapshot, in chunks, by their stake. Here the pool itself shrinks chunk by chunk, while the
amount that the shares are computed from is the one saved with the first chunk.
-/

namespace NcnProgram
open Lib NCNProgramError

/-- The rewards of one vault (`VaultRewardRoute`). -/
abbrev VaultRewardRoute := RewardRoute

/-- The reward router of an operator in an NCN's epoch (`OperatorVaultRewardRouter`). -/
structure OperatorVaultRewardRouter where
  operator : Pubkey
  ncn : Pubkey
  epoch : ℕ
  bump : UInt8
  slotCreated : ℕ
  ncnOperatorIndex : ℕ
  totalRewards : ℕ
  rewardPool : ℕ
  rewardsProcessed : ℕ
  operatorRewards : ℕ
  lastRewardsToProcess : ℕ
  lastVaultOperatorDelegationIndex : ℕ
  vaultRewardRoutes : Table VaultRewardRoute maxVaults
deriving DecidableEq

namespace OperatorVaultRewardRouter

/-- `NO_LAST_REWARDS_TO_PROCESS`. -/
def noLastRewardsToProcess : ℕ := u64Max

/-- `NO_LAST_VAULT_OPERATION_DELEGATION_INDEX`. -/
def noLastVaultOperationDelegationIndex : ℕ := u16Max

/-- `OperatorVaultRewardRouter::new`. -/
def new (operator : Pubkey) (operatorNcnIndex : ℕ) (ncn : Pubkey) (epoch : ℕ) (bump : UInt8)
    (slotCreated : ℕ) : OperatorVaultRewardRouter where
  operator := operator
  ncn := ncn
  epoch := epoch
  bump := bump
  slotCreated := slotCreated
  ncnOperatorIndex := operatorNcnIndex
  totalRewards := 0
  rewardPool := 0
  rewardsProcessed := 0
  operatorRewards := 0
  lastRewardsToProcess := noLastRewardsToProcess
  lastVaultOperatorDelegationIndex := noLastVaultOperationDelegationIndex
  vaultRewardRoutes := .replicate _ .default

/-! ## Route state tracking -/

/-- `OperatorVaultRewardRouter::still_routing`. -/
def stillRouting (self : OperatorVaultRewardRouter) : Bool :=
  self.lastRewardsToProcess != noLastRewardsToProcess ||
    self.lastVaultOperatorDelegationIndex != noLastVaultOperationDelegationIndex

/-- `OperatorVaultRewardRouter::resume_routing_state`: the amount and the index to go on with. -/
def resumeRoutingState (self : OperatorVaultRewardRouter) (rewardsToProcess : ℕ) : ℕ × ℕ :=
  if self.stillRouting then (self.lastRewardsToProcess, self.lastVaultOperatorDelegationIndex)
  else (rewardsToProcess, 0)

/-- `OperatorVaultRewardRouter::save_routing_state`; the index is cast to a `u16`. -/
def saveRoutingState (rewardsToProcess vaultOperatorDelegationIndex : ℕ)
    (self : OperatorVaultRewardRouter) : OperatorVaultRewardRouter :=
  { self with
    lastRewardsToProcess := rewardsToProcess
    lastVaultOperatorDelegationIndex := vaultOperatorDelegationIndex % 2 ^ 16 }

/-- `OperatorVaultRewardRouter::reset_routing_state`. -/
def resetRoutingState (self : OperatorVaultRewardRouter) : OperatorVaultRewardRouter :=
  { self with
    lastRewardsToProcess := noLastRewardsToProcess
    lastVaultOperatorDelegationIndex := noLastVaultOperationDelegationIndex }

/-! ## Moves between the counters -/

/-- `OperatorVaultRewardRouter::total_rewards_in_transit`. -/
def totalRewardsInTransit (self : OperatorVaultRewardRouter) : Except ProgramError ℕ :=
  okOr (checkedAdd 64 self.rewardPool self.rewardsProcessed) (arithmeticOverflow : ProgramError)

/-- `OperatorVaultRewardRouter::route_to_reward_pool`. -/
def routeToRewardPool (rewards : ℕ) : Mut OperatorVaultRewardRouter Unit := do
  credit (·.totalRewards) (fun n r => { r with totalRewards := n }) rewards
  credit (·.rewardPool) (fun n r => { r with rewardPool := n }) rewards

/-- `OperatorVaultRewardRouter::increment_rewards_processed`. -/
def incrementRewardsProcessed : ℕ → Mut OperatorVaultRewardRouter Unit :=
  credit (·.rewardsProcessed) (fun n r => { r with rewardsProcessed := n })

/-- `OperatorVaultRewardRouter::decrement_rewards_processed`. -/
def decrementRewardsProcessed : ℕ → Mut OperatorVaultRewardRouter Unit :=
  debit (·.rewardsProcessed) (fun n r => { r with rewardsProcessed := n })

/-- `OperatorVaultRewardRouter::route_from_reward_pool`. -/
def routeFromRewardPool (rewards : ℕ) : Mut OperatorVaultRewardRouter Unit := do
  debit (·.rewardPool) (fun n r => { r with rewardPool := n }) rewards
  incrementRewardsProcessed rewards

/-- `OperatorVaultRewardRouter::route_to_operator_rewards`. -/
def routeToOperatorRewards : ℕ → Mut OperatorVaultRewardRouter Unit :=
  credit (·.operatorRewards) (fun n r => { r with operatorRewards := n })

/-- Runs an operation on the table of routes. -/
def onRoutes {α : Type} (x : Mut (Table VaultRewardRoute maxVaults) α) :
    Mut OperatorVaultRewardRouter α :=
  zoom (·.vaultRewardRoutes) (fun t r => { r with vaultRewardRoutes := t }) x

/-- `OperatorVaultRewardRouter::route_to_vault_reward_route`. -/
def routeToVaultRewardRoute (vault : Pubkey) (rewards : ℕ) : Mut OperatorVaultRewardRouter Unit := do
  if rewards = 0 then return ()
  onRoutes (routeInTwoPasses vault rewards)

/-! ## Calculations -/

/-- `MAX_BPS` of the restaking program. -/
def maxBps : ℕ := 10000

/-- `OperatorVaultRewardRouter::calculate_operator_reward`. -/
def calculateOperatorReward (math : PreciseMath) (feeBps rewardsToProcess : ℕ) :
    Except ProgramError ℕ :=
  if feeBps = 0 ∨ rewardsToProcess = 0 then return 0
  else mulDivFloor math rewardsToProcess feeBps maxBps

/-- `OperatorVaultRewardRouter::calculate_vault_reward`; it tests the operator's stake for zero, where
`calculate_operator_vault_route_reward` tests the share's. -/
def calculateVaultReward (math : PreciseMath)
    (vaultRewardStakeWeight operatorRewardStakeWeight rewardsToProcess : ℕ) : Except ProgramError ℕ :=
  if operatorRewardStakeWeight = 0 ∨ rewardsToProcess = 0 then return 0
  else mulDivFloor math rewardsToProcess vaultRewardStakeWeight operatorRewardStakeWeight

/-! ## Routing -/

/-- `OperatorVaultRewardRouter::route_incoming_rewards`. -/
def routeIncomingRewards (rentCost accountBalance : ℕ) : Mut OperatorVaultRewardRouter Unit := do
  let self ← get
  let totalRewards ← ofExcept self.totalRewardsInTransit
  let incomingRewards ← okOr (checkedSub accountBalance totalRewards)
    (arithmeticUnderflowError : ProgramError)
  let rewardsToRoute ← okOr (checkedSub incomingRewards rentCost)
    (arithmeticUnderflowError : ProgramError)
  routeToRewardPool rewardsToRoute

/-- `OperatorVaultRewardRouter::route_operator_rewards`: the operator's fee. -/
def routeOperatorRewards (math : PreciseMath) (operatorSnapshot : OperatorSnapshot) :
    Mut OperatorVaultRewardRouter Unit := do
  let rewardsToProcess := (← get).rewardPool
  let operatorRewards ←
    ofExcept (calculateOperatorReward math operatorSnapshot.operatorFeeBps rewardsToProcess)
  routeFromRewardPool operatorRewards
  routeToOperatorRewards operatorRewards

/-- The body of the loop of `route_reward_pool`: one vault's share. -/
def routeVault (math : PreciseMath) (operatorStakeWeight rewardsToProcess : ℕ)
    (delegation : VaultOperatorStakeWeight) : Mut OperatorVaultRewardRouter Unit := do
  let reward ← ofExcept (calculateVaultReward math delegation.stakeWeight.stakeWeight
    operatorStakeWeight rewardsToProcess)
  routeFromRewardPool reward
  routeToVaultRewardRoute delegation.vault reward

/-- `OperatorVaultRewardRouter::route_reward_pool`: at least one and at most `maxIterations` slots of
the snapshot a call, free ones included; at the end the operator gets what rounding left. -/
def routeRewardPool (math : PreciseMath) (operatorSnapshot : OperatorSnapshot) (maxIterations : ℕ) :
    Mut OperatorVaultRewardRouter Unit := do
  let self ← get
  let (rewardsToProcess, startingIndex) := self.resumeRoutingState self.rewardPool
  if rewardsToProcess = 0 then return ()
  let maxIterations := max maxIterations 1
  let finished ← chunked (fun _ => true)
    (routeVault math operatorSnapshot.stakeWeights.stakeWeight rewardsToProcess)
    (saveRoutingState rewardsToProcess) (arithmeticOverflow : ProgramError) maxIterations 0
    startingIndex (operatorSnapshot.vaultOperatorStakeWeight.toList.drop startingIndex)
  if finished then
    modify resetRoutingState
    let leftoverRewards := (← get).rewardPool
    routeFromRewardPool leftoverRewards
    routeToOperatorRewards leftoverRewards

/-! ## Distribution -/

/-- `OperatorVaultRewardRouter::distribute_operator_rewards`. -/
def distributeOperatorRewards : Mut OperatorVaultRewardRouter ℕ := do
  let rewards := (← get).operatorRewards
  modify ({ · with operatorRewards := 0 })
  decrementRewardsProcessed rewards
  return rewards

/-- `OperatorVaultRewardRouter::distribute_vault_reward_route`. -/
def distributeVaultRewardRoute (vault : Pubkey) : Mut OperatorVaultRewardRouter ℕ := do
  let rewards ← onRoutes (emptyRoute arithmeticUnderflowError vault)
  decrementRewardsProcessed rewards
  return rewards

/-! ## Equations of the single moves -/

variable {r : OperatorVaultRewardRouter} {rewards : ℕ} {math : PreciseMath}

lemma routeToRewardPool_run (ht : r.totalRewards + rewards < 2 ^ 64)
    (hp : r.rewardPool + rewards < 2 ^ 64) :
    (routeToRewardPool rewards).run r = .ok ()
      { r with totalRewards := r.totalRewards + rewards, rewardPool := r.rewardPool + rewards } := by
  rw [routeToRewardPool, EStateM.run_bind, credit_run rfl ht]
  exact credit_run rfl hp

lemma routeFromRewardPool_run (hp : rewards ≤ r.rewardPool)
    (hr : r.rewardsProcessed + rewards < 2 ^ 64) :
    (routeFromRewardPool rewards).run r = .ok ()
      { r with
        rewardPool := r.rewardPool - rewards
        rewardsProcessed := r.rewardsProcessed + rewards } := by
  rw [routeFromRewardPool, EStateM.run_bind, debit_run rfl hp]
  exact credit_run rfl hr

lemma decrementRewardsProcessed_run (h : rewards ≤ r.rewardsProcessed) :
    (decrementRewardsProcessed rewards).run r = .ok ()
      { r with rewardsProcessed := r.rewardsProcessed - rewards } :=
  debit_run rfl h

lemma routeToOperatorRewards_run (h : r.operatorRewards + rewards < 2 ^ 64) :
    (routeToOperatorRewards rewards).run r = .ok ()
      { r with operatorRewards := r.operatorRewards + rewards } :=
  credit_run rfl h

/-- The operator's fee is the exact floor. -/
lemma calculateOperatorReward_eq (h : math.Documented) {bps R : ℕ} (hb : bps ≤ 10000)
    (hR : R < 2 ^ 64) : calculateOperatorReward math bps R = .ok (share R 10000 bps) := by
  unfold calculateOperatorReward
  split
  · rename_i h0
    rcases h0 with rfl | rfl
    · rw [share_zero_weight]; rfl
    · rw [share_zero_amount]; rfl
  · exact mulDivFloor_eq h hR (by omega) (by decide) (by decide) ((share_le hb).trans_lt hR)

/-- The share of a vault is the exact floor. -/
lemma calculateVaultReward_eq (h : math.Documented) {s S R : ℕ} (hs : s ≤ S) (hS : S < 2 ^ 128)
    (hR : R < 2 ^ 64) : calculateVaultReward math s S R = .ok (share R S s) := by
  unfold calculateVaultReward
  split
  · rename_i h0
    rcases h0 with rfl | rfl
    · rw [share, Nat.div_zero]; rfl
    · rw [share_zero_amount]; rfl
  · rename_i h0
    exact mulDivFloor_eq h hR (by omega) hS (by omega) ((share_le hs).trans_lt hR)

/-! ## What the methods leave alone -/

/-- A view of the router that shows no amount and no route. -/
def Apart {τ : Type} (view : OperatorVaultRewardRouter → τ) : Prop :=
  ∀ r totalRewards rewardPool rewardsProcessed operatorRewards vaultRewardRoutes,
    view { r with totalRewards, rewardPool, rewardsProcessed, operatorRewards, vaultRewardRoutes } = view r

section
variable {τ : Type} {view : OperatorVaultRewardRouter → τ}

lemma leaves_routeFromRewardPool (hview : Apart view) (rewards : ℕ) :
    Leaves view (routeFromRewardPool rewards) :=
  .bind (leaves_debit fun _ r => hview r _ _ _ _ _) fun _ => leaves_credit fun _ r => hview r _ _ _ _ _

lemma leaves_routeIncomingRewards (hview : Apart view) (rentCost accountBalance : ℕ) :
    Leaves view (routeIncomingRewards rentCost accountBalance) :=
  .bind .get fun _ => .bind (.ofExcept _) fun _ => .bind (.okOr _ _) fun _ => .bind (.okOr _ _) fun _ =>
    .bind (leaves_credit fun _ r => hview r _ _ _ _ _) fun _ => leaves_credit fun _ r => hview r _ _ _ _ _

lemma leaves_routeOperatorRewards (hview : Apart view) (math : PreciseMath) (snapshot : OperatorSnapshot) :
    Leaves view (routeOperatorRewards math snapshot) :=
  .bind .get fun _ => .bind (.ofExcept _) fun _ => .bind (leaves_routeFromRewardPool hview _) fun _ =>
    leaves_credit fun _ r => hview r _ _ _ _ _

lemma leaves_routeVault (hview : Apart view) (math : PreciseMath) (S R : ℕ) (d : VaultOperatorStakeWeight) :
    Leaves view (routeVault math S R d) := by
  refine .bind (.ofExcept _) fun _ => .bind (leaves_routeFromRewardPool hview _) fun _ => ?_
  unfold routeToVaultRewardRoute
  split
  · exact .pure ()
  · exact .zoom fun _ r => hview r _ _ _ _ _

lemma leaves_distributeOperatorRewards (hview : Apart view) : Leaves view distributeOperatorRewards :=
  .bind .get fun _ => .bind (.modify fun r => hview r _ _ _ _ _) fun _ =>
    .bind (leaves_debit fun _ r => hview r _ _ _ _ _) fun _ => .pure _

lemma leaves_distributeVaultRewardRoute (hview : Apart view) (vault : Pubkey) :
    Leaves view (distributeVaultRewardRoute vault) :=
  .bind (.zoom fun _ r => hview r _ _ _ _ _) fun _ =>
    .bind (leaves_debit fun _ r => hview r _ _ _ _ _) fun _ => .pure _

end

end OperatorVaultRewardRouter
end NcnProgram
