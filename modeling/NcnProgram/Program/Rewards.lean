import NcnProgram.Program.Epoch

/-!
# Routing and paying out rewards

Port of `program/src/route_ncn_rewards.rs`, `program/src/route_operator_vault_rewards.rs` and
`program/src/distribute_*.rs`, with the lamports of the receivers but not those of the wallets that are paid.
A payout takes what one of the routers' `distribute_*` methods returns out of the receiver; the instructions
that do so refuse while the router is still routing.
-/

namespace NcnProgram
open Lib NCNProgramError

namespace Epoch

/-- `process_route_ncn_rewards`. `rentCost` is the rent of an account without data. -/
def processRouteNcnRewards (math : PreciseMath) (clock : Clock) (rentCost maxIterations : ℕ) :
    Mut Epoch Unit := do
  let self ← get
  -- do not route if voting is still ongoing
  let votingValid ← ofExcept
    (self.ballotBox.isVotingValid clock.slot self.config.validSlotsAfterConsensus)
  ensure (votingValid = false) (votingIsNotOver : ProgramError)
  if self.ncnRewardRouter.stillRouting = false then
    onNcnRewardRouter (NCNRewardRouter.routeIncomingRewards rentCost self.ncnRewardReceiver)
    onNcnRewardRouter (NCNRewardRouter.routeRewardPool math self.epochSnapshot.fees)
  onNcnRewardRouter (NCNRewardRouter.routeOperatorVaultRewards math self.ballotBox maxIterations)
  let router := (← get).ncnRewardRouter
  onEpochState (modify (EpochState.updateRouteRewards router.ncnRewards router.protocolRewards
    router.totalRewards))

/-- Lamports arrive at the NCN reward receiver. -/
def depositNcn (lamports : ℕ) : Mut Epoch Unit :=
  modify fun e => { e with ncnRewardReceiver := e.ncnRewardReceiver + lamports }

/-- Pays out of the NCN reward receiver what a method of the router returns. -/
def payOutNcn (distribute : Mut NCNRewardRouter ℕ) : Mut Epoch ℕ := do
  let rewards ← onNcnRewardRouter distribute
  let left ← okOr (checkedSub (← get).ncnRewardReceiver rewards) ProgramError.insufficientFunds
  modify ({ · with ncnRewardReceiver := left })
  return rewards

/-- `process_route_operator_vault_rewards`. -/
def processRouteOperatorVaultRewards (math : PreciseMath) (rentCost : ℕ) (operator : Pubkey)
    (maxIterations : ℕ) : Mut Epoch Unit := do
  let self ← get
  let snapshot ← okOr (self.operatorSnapshot operator) ProgramError.invalidAccountOwner
  let router ← okOr (self.operatorVaultRewardRouter operator) ProgramError.invalidAccountOwner
  if router.stillRouting = false then
    onOperatorVaultRewardRouter operator
      (OperatorVaultRewardRouter.routeIncomingRewards rentCost (self.operatorVaultRewardReceiver operator))
    onOperatorVaultRewardRouter operator (OperatorVaultRewardRouter.routeOperatorRewards math snapshot)
  onOperatorVaultRewardRouter operator
    (OperatorVaultRewardRouter.routeRewardPool math snapshot maxIterations)
  let router ← okOr ((← get).operatorVaultRewardRouter operator) ProgramError.invalidAccountOwner
  onEpochState (EpochState.updateRouteOperatorVaultRewards snapshot.ncnOperatorIndex router.totalRewards)

/-- Lamports arrive at an operator's reward receiver. -/
def depositOperatorVault (operator : Pubkey) (lamports : ℕ) : Mut Epoch Unit :=
  modify fun e =>
    e.setOperatorVaultRewardReceiver operator (e.operatorVaultRewardReceiver operator + lamports)

/-- Pays out of an operator's reward receiver what a method of its router returns. -/
def payOutOperatorVault (operator : Pubkey) (distribute : Mut OperatorVaultRewardRouter ℕ) :
    Mut Epoch ℕ := do
  let rewards ← onOperatorVaultRewardRouter operator distribute
  let left ← okOr (checkedSub ((← get).operatorVaultRewardReceiver operator) rewards)
    ProgramError.insufficientFunds
  modify (setOperatorVaultRewardReceiver operator left)
  return rewards

/-- What the instructions that pay out of the NCN reward receiver share: `count` is the epoch state's record
of the payout. -/
def distributeNcn (distribute : Mut NCNRewardRouter ℕ) (count : ℕ → EpochState → EpochState) :
    Mut Epoch ℕ := do
  ensure ((← get).ncnRewardRouter.stillRouting = false) (routerStillRouting : ProgramError)
  let rewards ← payOutNcn distribute
  onEpochState (modify (count rewards))
  return rewards

/-- `process_distribute_ncn_rewards`. -/
def processDistributeNcnRewards (ncnFeeWallet : Pubkey) : Mut Epoch Unit := do
  ensure ((← get).config.feeConfig.ncnFeeWallet = ncnFeeWallet) ProgramError.invalidAccountData
  let _ ← distributeNcn NCNRewardRouter.distributeNcnFeeRewards EpochState.updateDistributeNcnRewards

/-- `process_distribute_protocol_rewards`. -/
def processDistributeProtocolRewards (protocolFeeWallet : Pubkey) : Mut Epoch Unit := do
  ensure ((← get).config.feeConfig.protocolFeeWallet = protocolFeeWallet) ProgramError.invalidAccountData
  let _ ← distributeNcn NCNRewardRouter.distributeProtocolFeeRewards
    EpochState.updateDistributeProtocolRewards

/-- `process_distribute_operator_vault_reward_route`, which pays to the operator's reward receiver. -/
def processDistributeOperatorVaultRewardRoute (operator : Pubkey) : Mut Epoch Unit := do
  let _ ← okOr ((← get).operatorVaultRewardRouter operator) ProgramError.invalidAccountOwner
  let rewards ← distributeNcn (NCNRewardRouter.distributeOperatorVaultRewardRoute operator)
    EpochState.updateDistributeOperatorVaultRewards
  depositOperatorVault operator rewards

/-- What the instructions that pay out of an operator's reward receiver share. -/
def distributeOperatorVault (operator : Pubkey) (distribute : Mut OperatorVaultRewardRouter ℕ) :
    Mut Epoch Unit := do
  let self ← get
  let snapshot ← okOr (self.operatorSnapshot operator) ProgramError.invalidAccountOwner
  let router ← okOr (self.operatorVaultRewardRouter operator) ProgramError.invalidAccountOwner
  ensure (router.stillRouting = false) (routerStillRouting : ProgramError)
  let rewards ← payOutOperatorVault operator distribute
  onEpochState (EpochState.updateDistributeOperatorVaultRouteRewards snapshot.ncnOperatorIndex rewards)

/-- `process_distribute_operator_rewards`. -/
def processDistributeOperatorRewards (operator : Pubkey) : Mut Epoch Unit :=
  distributeOperatorVault operator OperatorVaultRewardRouter.distributeOperatorRewards

/-- `process_distribute_vault_rewards`. -/
def processDistributeVaultRewards (operator vault : Pubkey) : Mut Epoch Unit :=
  distributeOperatorVault operator (OperatorVaultRewardRouter.distributeVaultRewardRoute vault)

variable {math : PreciseMath} {clock : Clock} {rent maxIterations : ℕ} {e e' : Epoch}

/-- A route call that succeeds finds voting over. -/
lemma over_of_route (h : (processRouteNcnRewards math clock rent maxIterations).run e = .ok () e') :
    e.ballotBox.isVotingValid clock.slot e.config.validSlotsAfterConsensus = .ok false := by
  obtain ⟨_, _, hg, h⟩ := run_bind_ok.1 h
  cases hg
  obtain ⟨_, _, hg, h⟩ := run_bind_ok.1 h
  obtain ⟨hv, rfl⟩ := run_ofExcept_ok.1 hg
  obtain ⟨_, _, hg, h⟩ := run_bind_ok.1 h
  obtain ⟨rfl, rfl⟩ := run_ensure_ok.1 hg
  exact hv

/-- A route call changes the router, and its progress in the epoch state. -/
lemma processRouteNcnRewards_run_ok
    (h : (processRouteNcnRewards math clock rent maxIterations).run e = .ok () e') :
    ∃ r, e' = { e with
      ncnRewardRouter := r
      epochState := e.epochState.updateRouteRewards r.ncnRewards r.protocolRewards r.totalRewards } := by
  obtain ⟨_, _, hg, h⟩ := run_bind_ok.1 h
  cases hg
  obtain ⟨_, _, hg, h⟩ := run_bind_ok.1 h
  obtain ⟨_, rfl⟩ := run_ofExcept_ok.1 hg
  obtain ⟨_, _, hg, h⟩ := run_bind_ok.1 h
  obtain ⟨_, rfl⟩ := run_ensure_ok.1 hg
  -- the last two steps, whatever the router is by then
  have hlast : ∀ r, (do
      onNcnRewardRouter (NCNRewardRouter.routeOperatorVaultRewards math e.ballotBox maxIterations)
      let router := (← get).ncnRewardRouter
      onEpochState (modify (EpochState.updateRouteRewards router.ncnRewards router.protocolRewards
        router.totalRewards)) : Mut Epoch Unit).run { e with ncnRewardRouter := r } = .ok () e' →
      ∃ r, e' = { e with
        ncnRewardRouter := r
        epochState := e.epochState.updateRouteRewards r.ncnRewards r.protocolRewards r.totalRewards } := by
    intro r h
    obtain ⟨_, _, hg, h⟩ := run_bind_ok.1 h
    obtain ⟨r', _, rfl⟩ := run_zoom_ok.1 hg
    cases h
    exact ⟨r', rfl⟩
  split at h
  · obtain ⟨_, _, hg, h⟩ := run_bind_ok.1 h
    obtain ⟨r₁, _, rfl⟩ := run_zoom_ok.1 hg
    obtain ⟨_, _, hg, h⟩ := run_bind_ok.1 h
    obtain ⟨r₂, _, rfl⟩ := run_zoom_ok.1 hg
    exact hlast r₂ h
  · exact hlast e.ncnRewardRouter h

/-- A payout from the NCN reward receiver changes the router and the receiver, and its progress in the epoch
state. -/
lemma distributeNcn_run_ok {distribute : Mut NCNRewardRouter ℕ} {count : ℕ → EpochState → EpochState} {rewards : ℕ}
    (h : (distributeNcn distribute count).run e = .ok rewards e') :
    ∃ r, distribute.run e.ncnRewardRouter = .ok rewards r ∧ rewards ≤ e.ncnRewardReceiver ∧
      e' = { e with
        ncnRewardRouter := r
        ncnRewardReceiver := e.ncnRewardReceiver - rewards
        epochState := count rewards e.epochState } := by
  obtain ⟨_, _, hg, h⟩ := run_bind_ok.1 h
  cases hg
  obtain ⟨_, _, hg, h⟩ := run_bind_ok.1 h
  obtain ⟨_, rfl⟩ := run_ensure_ok.1 hg
  obtain ⟨n, _, hpay, h⟩ := run_bind_ok.1 h
  obtain ⟨_, _, hg, h⟩ := run_bind_ok.1 h
  cases hg
  cases h
  obtain ⟨_, _, hg, hpay⟩ := run_bind_ok.1 hpay
  obtain ⟨r, hr, rfl⟩ := run_zoom_ok.1 hg
  obtain ⟨_, _, hg, hpay⟩ := run_bind_ok.1 hpay
  cases hg
  obtain ⟨left, _, hg, hpay⟩ := run_bind_ok.1 hpay
  obtain ⟨hleft, rfl⟩ := run_okOr_ok.1 hg
  cases hpay
  obtain ⟨hle, rfl⟩ := checkedSub_eq_some.1 hleft
  exact ⟨r, hr, hle, rfl⟩

end Epoch
end NcnProgram
