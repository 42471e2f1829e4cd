import NcnProgram.Core.BallotBox
import NcnProgram.Core.Fees
import NcnProgram.Core.Rewards
import NcnProgram.Lib.Chunked

/-!
# The NCN reward router

Port of `core/src/ncn_reward_router.rs`. Lamports that arrive at the receiver enter the reward pool; the pool
is split into the protocol's fee, the NCN's fee and the rest for the operators and their vaults; the rest is
then routed to the operators that voted for the winning ballot, in chunks, by the stake of their votes.

After the definitions come the equations of the single moves (`*_run`): each is exact whenever the counters
it touches have room for it.
-/

namespace NcnProgram
open Lib NCNProgramError

/-- The rewards of one operator and its vaults (`OperatorVaultRewardRoute`). -/
abbrev OperatorVaultRewardRoute := RewardRoute

/-- The reward router of an NCN's epoch (`NCNRewardRouter`). -/
structure NCNRewardRouter where
  ncn : Pubkey
  epoch : ℕ
  bump : UInt8
  slotCreated : ℕ
  totalRewards : ℕ
  rewardPool : ℕ
  rewardsProcessed : ℕ
  lastVoteIndex : ℕ
  lastRewardsToProcess : ℕ
  protocolRewards : ℕ
  ncnRewards : ℕ
  operatorVaultRewards : ℕ
  operatorVaultRewardRoutes : Table OperatorVaultRewardRoute maxOperators
deriving DecidableEq

namespace NCNRewardRouter

/-- `NO_LAST_VOTE_INDEX`. -/
def noLastVoteIndex : ℕ := u16Max

/-- `NO_LAST_REWARDS_TO_PROCESS`. -/
def noLastRewardsToProcess : ℕ := u64Max

/-- `NCNRewardRouter::new`; `initialize` writes the same values field by field. -/
def new (ncn : Pubkey) (epoch : ℕ) (bump : UInt8) (slotCreated : ℕ) : NCNRewardRouter where
  ncn := ncn
  epoch := epoch
  bump := bump
  slotCreated := slotCreated
  totalRewards := 0
  rewardPool := 0
  rewardsProcessed := 0
  lastVoteIndex := noLastVoteIndex
  lastRewardsToProcess := noLastRewardsToProcess
  protocolRewards := 0
  ncnRewards := 0
  operatorVaultRewards := 0
  operatorVaultRewardRoutes := .replicate _ .default

/-! ## Route state tracking -/

/-- `NCNRewardRouter::still_routing`. -/
def stillRouting (self : NCNRewardRouter) : Bool :=
  self.lastVoteIndex != noLastVoteIndex || self.lastRewardsToProcess != noLastRewardsToProcess

/-- `NCNRewardRouter::resume_routing_state`: the index and the amount to go on with. -/
def resumeRoutingState (self : NCNRewardRouter) : ℕ × ℕ :=
  if self.stillRouting then (self.lastVoteIndex, self.lastRewardsToProcess) else (0, 0)

/-- `NCNRewardRouter::save_routing_state`; the index is cast to a `u16`. -/
def saveRoutingState (rewardsToProcess voteIndex : ℕ) (self : NCNRewardRouter) : NCNRewardRouter :=
  { self with lastVoteIndex := voteIndex % 2 ^ 16, lastRewardsToProcess := rewardsToProcess }

/-- `NCNRewardRouter::reset_routing_state`. -/
def resetRoutingState (self : NCNRewardRouter) : NCNRewardRouter :=
  { self with
    lastVoteIndex := noLastVoteIndex
    lastRewardsToProcess := noLastRewardsToProcess }

/-! ## Moves between the counters -/

/-- `NCNRewardRouter::total_rewards_in_transit`. -/
def totalRewardsInTransit (self : NCNRewardRouter) : Except ProgramError ℕ :=
  okOr (checkedAdd 64 self.rewardPool self.rewardsProcessed) (arithmeticOverflow : ProgramError)

/-- `NCNRewardRouter::route_to_reward_pool`. -/
def routeToRewardPool (rewards : ℕ) : Mut NCNRewardRouter Unit := do
  credit (·.totalRewards) (fun n r => { r with totalRewards := n }) rewards
  credit (·.rewardPool) (fun n r => { r with rewardPool := n }) rewards

/-- `NCNRewardRouter::increment_rewards_processed`. -/
def incrementRewardsProcessed : ℕ → Mut NCNRewardRouter Unit :=
  credit (·.rewardsProcessed) (fun n r => { r with rewardsProcessed := n })

/-- `NCNRewardRouter::decrement_rewards_processed`. -/
def decrementRewardsProcessed : ℕ → Mut NCNRewardRouter Unit :=
  debit (·.rewardsProcessed) (fun n r => { r with rewardsProcessed := n })

/-- `NCNRewardRouter::route_from_reward_pool`. -/
def routeFromRewardPool (rewards : ℕ) : Mut NCNRewardRouter Unit := do
  debit (·.rewardPool) (fun n r => { r with rewardPool := n }) rewards
  incrementRewardsProcessed rewards

/-- `NCNRewardRouter::route_from_operator_vault_rewards`. -/
def routeFromOperatorVaultRewards : ℕ → Mut NCNRewardRouter Unit :=
  debit (·.operatorVaultRewards) (fun n r => { r with operatorVaultRewards := n })

/-- `NCNRewardRouter::route_to_protocol`. -/
def routeToProtocol : ℕ → Mut NCNRewardRouter Unit :=
  credit (·.protocolRewards) (fun n r => { r with protocolRewards := n })

/-- `NCNRewardRouter::route_to_ncn`. -/
def routeToNcn : ℕ → Mut NCNRewardRouter Unit :=
  credit (·.ncnRewards) (fun n r => { r with ncnRewards := n })

/-- `NCNRewardRouter::route_to_operator_vault`. -/
def routeToOperatorVault : ℕ → Mut NCNRewardRouter Unit :=
  credit (·.operatorVaultRewards) (fun n r => { r with operatorVaultRewards := n })

/-- Runs an operation on the table of routes. -/
def onRoutes {α : Type} (x : Mut (Table OperatorVaultRewardRoute maxOperators) α) :
    Mut NCNRewardRouter α :=
  zoom (·.operatorVaultRewardRoutes) (fun t r => { r with operatorVaultRewardRoutes := t }) x

/-- `NCNRewardRouter::route_to_operator_vault_reward_route`. -/
def routeToOperatorVaultRewardRoute (operator : Pubkey) (rewards : ℕ) : Mut NCNRewardRouter Unit := do
  if rewards = 0 then return ()
  onRoutes (routeInOnePass operator rewards)

/-! ## Calculations -/

/-- `NCNRewardRouter::calculate_reward_split`. -/
def calculateRewardSplit (math : PreciseMath) (feeBasisPoints totalRewards : ℕ) :
    Except ProgramError ℕ :=
  if feeBasisPoints = 0 ∨ totalRewards = 0 then return 0
  else mulDivFloor math totalRewards feeBasisPoints 10000

/-- `NCNRewardRouter::calculate_operator_vault_route_reward`. -/
def calculateOperatorVaultRouteReward (math : PreciseMath)
    (operatorStakeWeight winningTotalStakeWeight rewardsToProcess : ℕ) : Except ProgramError ℕ :=
  if operatorStakeWeight = 0 ∨ rewardsToProcess = 0 then return 0
  else mulDivFloor math rewardsToProcess operatorStakeWeight winningTotalStakeWeight

/-! ## Routing -/

/-- `NCNRewardRouter::route_incoming_rewards`: what the receiver holds beyond the rent and the rewards
already known goes to the pool. -/
def routeIncomingRewards (rentCost accountBalance : ℕ) : Mut NCNRewardRouter Unit := do
  let self ← get
  let totalRewards ← ofExcept self.totalRewardsInTransit
  let incomingRewards ← okOr (checkedSub accountBalance totalRewards)
    (arithmeticUnderflowError : ProgramError)
  let rewardsToRoute ← okOr (checkedSub incomingRewards rentCost)
    (arithmeticUnderflowError : ProgramError)
  routeToRewardPool rewardsToRoute

/-- `NCNRewardRouter::route_reward_pool`: both fees are taken of the whole pool, and the rest is for the
operators. -/
def routeRewardPool (math : PreciseMath) (fee : Fees) : Mut NCNRewardRouter Unit := do
  let rewardsToProcess := (← get).rewardPool
  let protocolFee ← ofExcept (calculateRewardSplit math fee.protocolFeeBps rewardsToProcess)
  routeFromRewardPool protocolFee
  routeToProtocol protocolFee
  let ncnFee ← ofExcept (calculateRewardSplit math fee.ncnFeeBps rewardsToProcess)
  routeFromRewardPool ncnFee
  routeToNcn ncnFee
  let operatorVaultRewards := (← get).rewardPool
  routeFromRewardPool operatorVaultRewards
  routeToOperatorVault operatorVaultRewards

/-- The body of the loop of `route_operator_vault_rewards`: one winning vote's share. -/
def routeVote (math : PreciseMath) (winningStakeWeight rewardsToProcess : ℕ) (vote : OperatorVote) :
    Mut NCNRewardRouter Unit := do
  let reward ← ofExcept (calculateOperatorVaultRouteReward math vote.stakeWeights.stakeWeight
    winningStakeWeight rewardsToProcess)
  routeFromOperatorVaultRewards reward
  routeToOperatorVaultRewardRoute vote.operator reward

/-- `NCNRewardRouter::route_operator_vault_rewards`: at least one and at most `maxIterations` winning
votes a call; at the end the NCN gets what rounding left. -/
def routeOperatorVaultRewards (math : PreciseMath) (ballotBox : BallotBox) (maxIterations : ℕ) :
    Mut NCNRewardRouter Unit := do
  let winningBallot ← ofExcept ballotBox.getWinningBallotTally
  let self ← get
  let (startingVoteIndex, startingRewardsToProcess) := self.resumeRoutingState
  let maxIterations := max maxIterations 1
  let rewardsToProcess :=
    if startingRewardsToProcess > 0 then startingRewardsToProcess else self.operatorVaultRewards
  if rewardsToProcess = 0 then return ()
  let finished ← chunked (fun vote => vote.ballotIndex == winningBallot.index)
    (routeVote math winningBallot.stakeWeights.stakeWeight rewardsToProcess)
    (saveRoutingState rewardsToProcess) (arithmeticOverflow : ProgramError) maxIterations 0
    startingVoteIndex (ballotBox.operatorVotes.toList.drop startingVoteIndex)
  if finished then
    let leftoverRewards := (← get).operatorVaultRewards
    routeFromOperatorVaultRewards leftoverRewards
    routeToNcn leftoverRewards
    modify resetRoutingState

/-! ## Distribution -/

/-- `NCNRewardRouter::distribute_ncn_fee_rewards`. -/
def distributeNcnFeeRewards : Mut NCNRewardRouter ℕ := do
  let rewards := (← get).ncnRewards
  modify ({ · with ncnRewards := 0 })
  decrementRewardsProcessed rewards
  return rewards

/-- `NCNRewardRouter::distribute_protocol_fee_rewards`. -/
def distributeProtocolFeeRewards : Mut NCNRewardRouter ℕ := do
  let rewards := (← get).protocolRewards
  modify ({ · with protocolRewards := 0 })
  decrementRewardsProcessed rewards
  return rewards

/-- `NCNRewardRouter::distribute_operator_vault_reward_route`. -/
def distributeOperatorVaultRewardRoute (operator : Pubkey) : Mut NCNRewardRouter ℕ := do
  let rewards ← onRoutes (emptyRoute arithmeticOverflow operator)
  decrementRewardsProcessed rewards
  return rewards

/-! ## Equations of the single moves -/

variable {r : NCNRewardRouter} {rewards : ℕ} {math : PreciseMath}

lemma routeToRewardPool_run (ht : r.totalRewards + rewards < 2 ^ 64)
    (hp : r.rewardPool + rewards < 2 ^ 64) :
    (routeToRewardPool rewards).run r = .ok ()
      { r with totalRewards := r.totalRewards + rewards, rewardPool := r.rewardPool + rewards } := by
  rw [routeToRewardPool, EStateM.run_bind, credit_run rfl ht]
  exact credit_run rfl hp

lemma routeFromRewardPool_run (hp : rewards ≤ r.rewardPool)
    (hr : r.rewardsProcessed + rewards < 2 ^ 64) :
    (routeFromRewardPool rewards).run r = .ok ()
      { r with
        rewardPool := r.rewardPool - rewards
        rewardsProcessed := r.rewardsProcessed + rewards } := by
  rw [routeFromRewardPool, EStateM.run_bind, debit_run rfl hp]
  exact credit_run rfl hr

lemma decrementRewardsProcessed_run (h : rewards ≤ r.rewardsProcessed) :
    (decrementRewardsProcessed rewards).run r = .ok ()
      { r with rewardsProcessed := r.rewardsProcessed - rewards } :=
  debit_run rfl h

lemma routeFromOperatorVaultRewards_run (h : rewards ≤ r.operatorVaultRewards) :
    (routeFromOperatorVaultRewards rewards).run r = .ok ()
      { r with operatorVaultRewards := r.operatorVaultRewards - rewards } :=
  debit_run rfl h

lemma routeToProtocol_run (h : r.protocolRewards + rewards < 2 ^ 64) :
    (routeToProtocol rewards).run r = .ok ()
      { r with protocolRewards := r.protocolRewards + rewards } :=
  credit_run rfl h

lemma routeToNcn_run (h : r.ncnRewards + rewards < 2 ^ 64) :
    (routeToNcn rewards).run r = .ok () { r with ncnRewards := r.ncnRewards + rewards } :=
  credit_run rfl h

lemma routeToOperatorVault_run (h : r.operatorVaultRewards + rewards < 2 ^ 64) :
    (routeToOperatorVault rewards).run r = .ok ()
      { r with operatorVaultRewards := r.operatorVaultRewards + rewards } :=
  credit_run rfl h

/-- The split by basis points is the exact floor. -/
lemma calculateRewardSplit_eq (h : math.Documented) {bps total : ℕ} (hb : bps ≤ 10000)
    (ht : total < 2 ^ 64) : calculateRewardSplit math bps total = .ok (share total 10000 bps) := by
  unfold calculateRewardSplit
  split
  · rename_i h0
    rcases h0 with rfl | rfl
    · rw [share_zero_weight]; rfl
    · rw [share_zero_amount]; rfl
  · exact mulDivFloor_eq h ht (by omega) (by decide) (by decide) ((share_le hb).trans_lt ht)

/-- The share of a vote is the exact floor. -/
lemma calculateOperatorVaultRouteReward_eq (h : math.Documented) {s W R : ℕ} (hs : s ≤ W)
    (hW : W < 2 ^ 128) (hR : R < 2 ^ 64) :
    calculateOperatorVaultRouteReward math s W R = .ok (share R W s) := by
  unfold calculateOperatorVaultRouteReward
  split
  · rename_i h0
    rcases h0 with rfl | rfl
    · rw [share_zero_weight]; rfl
    · rw [share_zero_amount]; rfl
  · rename_i h0
    exact mulDivFloor_eq h hR (by omega) hW (by omega) ((share_le hs).trans_lt hR)

end NCNRewardRouter
end NcnProgram
