import NcnProgram.Core.NcnRewardRouter
import NcnProgram.Core.OperatorVaultRewardRouter
import NcnProgram.Lib.Errors

/-!
# The errors of the routers

Moving lamports between the counters of a router fails with the errors of checked and of precise arithmetic, and
with no other one. A lemma about a method says so for any error that is none of these: the method does not end with
it (`Avoids`), whatever its arguments and the state of the router. `Upholds` also keeps a bound on the counters.
-/

namespace NcnProgram
open Lib NCNProgramError

/-- The errors of checked and of precise arithmetic, the panic of the cast to a `u128` included. -/
def arithmeticErrors : List ProgramError :=
  [arithmeticOverflow, arithmeticUnderflowError, newPreciseNumberError, arithmeticFloorError,
    castToImpreciseNumberError, castToU64Error, .panicked .castOverflow]

/-- The error is none of arithmetic. -/
abbrev NotArithmetic (e : ProgramError) : Prop := ∀ e' ∈ arithmeticErrors, e' ≠ e

variable {e : ProgramError} {math : PreciseMath}

/-- The common tail of the four computations only fails with errors of precise arithmetic. -/
lemma mulDivFloor_ne (he : NotArithmetic e) {x y t : ℕ} : mulDivFloor math x y t ≠ .error e := by
  have hnew : (newPreciseNumberError : ProgramError) ≠ e := he _ (by decide)
  refine bind_ne_error (okOr_ne_error hnew) fun _ => bind_ne_error (okOr_ne_error hnew) fun _ =>
    bind_ne_error (okOr_ne_error hnew) fun _ => bind_ne_error (okOr_ne_error (he _ (by decide))) fun _ =>
    bind_ne_error (okOr_ne_error (he _ (by decide))) fun _ =>
    bind_ne_error (okOr_ne_error (he _ (by decide))) fun _ =>
    bind_ne_error (okOr_ne_error (he _ (by decide))) fun n => ?_
  split
  · exact fun h => by cases h
  · exact fun h => he (.custom castToU64Error) (by decide) (Except.error.inj h)

section Counters
variable {σ : Type} {field : σ → ℕ} {put : ℕ → σ → σ}

/-- A credit that does not fit is an error of arithmetic. -/
lemma avoids_credit (he : NotArithmetic e) (rewards : ℕ) : Avoids e (credit field put rewards) :=
  .ite (.pure _) (.bind .get fun _ => .bind (.okOr _ (he _ (by decide))) fun _ => .set _)

/-- So is a debit that is not covered. -/
lemma avoids_debit (he : NotArithmetic e) (rewards : ℕ) : Avoids e (debit field put rewards) :=
  .ite (.pure _) (.bind .get fun _ => .bind (.okOr _ (he _ (by decide))) fun _ => .set _)

variable {I : σ → Prop}

/-- A credit that fits is a `u64`. -/
lemma upholds_credit (he : NotArithmetic e) (hput : ∀ n s, I s → n < 2 ^ 64 → I (put n s)) (rewards : ℕ) :
    Upholds I e (credit field put rewards) := by
  refine .ite (fun _ => .pure _) fun _ => .get_bind fun s hs => .okOr_bind (he _ (by decide)) fun total htotal => ?_
  obtain ⟨hlt, rfl⟩ := checkedAdd_eq_some.1 htotal
  exact .set (hput _ s hs hlt)

/-- A debit that is covered leaves less. -/
lemma upholds_debit (he : NotArithmetic e) (hput : ∀ n s, I s → n ≤ field s → I (put n s)) (rewards : ℕ) :
    Upholds I e (debit field put rewards) := by
  refine .ite (fun _ => .pure _) fun _ => .get_bind fun s hs => .okOr_bind (he _ (by decide)) fun total htotal => ?_
  obtain ⟨_, rfl⟩ := checkedSub_eq_some.1 htotal
  exact .set (hput _ s hs (Nat.sub_le _ _))

end Counters

section Routes
variable {n : ℕ}

/-- A route is credited. -/
lemma avoids_incrementRewards (he : NotArithmetic e) (rewards : ℕ) :
    Avoids e (RewardRoute.incrementRewards rewards) :=
  .bind .get fun _ => .bind (.okOr _ (he _ (by decide))) fun _ => .set _

/-- Looking for a route in one pass can also find the table full. -/
lemma avoids_routeInOnePass (he : NotArithmetic e) (hfull : (operatorRewardListFull : ProgramError) ≠ e)
    (payee : Pubkey) (rewards : ℕ) : Avoids e (routeInOnePass payee rewards : Mut (Table RewardRoute n) Unit) := by
  refine .bind .get fun routes => ?_
  split
  · split
    · exact .zoom (avoids_incrementRewards he rewards)
    · exact .set _
  · exact .throw hfull

/-- So can looking for it in two. -/
lemma avoids_routeInTwoPasses (he : NotArithmetic e) (hfull : (operatorRewardListFull : ProgramError) ≠ e)
    (payee : Pubkey) (rewards : ℕ) :
    Avoids e (routeInTwoPasses payee rewards : Mut (Table RewardRoute n) Unit) := by
  refine .bind .get fun routes => ?_
  split
  · exact .zoom (avoids_incrementRewards he rewards)
  · split
    · exact .set _
    · exact .throw hfull

/-- Emptying a route can also find none. -/
lemma avoids_emptyRoute {underflow : NCNProgramError} (hunder : (underflow : ProgramError) ≠ e)
    (hfound : (operatorRewardNotFound : ProgramError) ≠ e) (payee : Pubkey) :
    Avoids e (emptyRoute underflow payee : Mut (Table RewardRoute n) ℕ) := by
  refine .bind .get fun routes => ?_
  split
  · exact .bind (.zoom (.bind .get fun _ => .bind (.okOr _ hunder) fun _ => .set _)) fun _ => .pure _
  · exact .throw hfound

end Routes

namespace NCNRewardRouter

/-- A move out of the pool. -/
lemma avoids_routeFromRewardPool (he : NotArithmetic e) (rewards : ℕ) : Avoids e (routeFromRewardPool rewards) :=
  .bind (avoids_debit he _) fun _ => avoids_credit he _

/-- A fee of the pool. -/
lemma calculateRewardSplit_ne (he : NotArithmetic e) {feeBps total : ℕ} :
    calculateRewardSplit math feeBps total ≠ .error e := by
  unfold calculateRewardSplit
  split
  · exact fun h => by cases h
  · exact mulDivFloor_ne he

/-- An operator's share. -/
lemma calculateOperatorVaultRouteReward_ne (he : NotArithmetic e) {stake total rewards : ℕ} :
    calculateOperatorVaultRouteReward math stake total rewards ≠ .error e := by
  unfold calculateOperatorVaultRouteReward
  split
  · exact fun h => by cases h
  · exact mulDivFloor_ne he

/-- Lamports that came in go to the pool. -/
lemma avoids_routeIncomingRewards (he : NotArithmetic e) (rentCost balance : ℕ) :
    Avoids e (routeIncomingRewards rentCost balance) :=
  .bind .get fun _ => .bind (.ofExcept (okOr_ne_error (he _ (by decide)))) fun _ =>
    .bind (.okOr _ (he _ (by decide))) fun _ => .bind (.okOr _ (he _ (by decide))) fun _ =>
    .bind (avoids_credit he _) fun _ => avoids_credit he _

/-- The pool is split between the protocol, the NCN and the operators. -/
lemma avoids_routeRewardPool (he : NotArithmetic e) (fee : Fees) : Avoids e (routeRewardPool math fee) :=
  .bind .get fun _ => .bind (.ofExcept (calculateRewardSplit_ne he)) fun _ =>
    .bind (avoids_routeFromRewardPool he _) fun _ => .bind (avoids_credit he _) fun _ =>
    .bind (.ofExcept (calculateRewardSplit_ne he)) fun _ => .bind (avoids_routeFromRewardPool he _) fun _ =>
    .bind (avoids_credit he _) fun _ => .bind .get fun _ => .bind (avoids_routeFromRewardPool he _) fun _ =>
    avoids_credit he _

/-- What comes after the loop over the votes. -/
lemma avoids_finishRouting (he : NotArithmetic e) (finished : Bool) : Avoids e (do
    if finished then
      let leftoverRewards := (← get).operatorVaultRewards
      routeFromOperatorVaultRewards leftoverRewards
      routeToNcn leftoverRewards
      modify resetRoutingState) :=
  .ite (.bind .get fun _ => .bind (avoids_debit he _) fun _ => .bind (avoids_credit he _) fun _ => .modify _)
    (.pure _)

/-- The winner may not be there, or its tally may not be found. -/
lemma getWinningBallotTally_ne (hnone : (consensusNotReached : ProgramError) ≠ e)
    (hfound : (ballotTallyNotFoundFull : ProgramError) ≠ e) (ballotBox : BallotBox) :
    ballotBox.getWinningBallotTally ≠ .error e := by
  unfold BallotBox.getWinningBallotTally
  split
  · exact okOr_ne_error hfound
  · exact fun h => hnone (Except.error.inj h)

/-- The body of the loop over the votes. -/
lemma avoids_routeVote (he : NotArithmetic e) (hfull : (operatorRewardListFull : ProgramError) ≠ e)
    (stake rewards : ℕ) (vote : OperatorVote) : Avoids e (routeVote math stake rewards vote) :=
  .bind (.ofExcept (calculateOperatorVaultRouteReward_ne he)) fun _ => .bind (avoids_debit he _) fun _ =>
    .ite (.pure _) (.zoom (avoids_routeInOnePass he hfull _ _))

/-- Routing to the operators needs a winner. -/
lemma avoids_routeOperatorVaultRewards (he : NotArithmetic e) (hfull : (operatorRewardListFull : ProgramError) ≠ e)
    (hnone : (consensusNotReached : ProgramError) ≠ e) (hfound : (ballotTallyNotFoundFull : ProgramError) ≠ e)
    (ballotBox : BallotBox) (maxIterations : ℕ) :
    Avoids e (routeOperatorVaultRewards math ballotBox maxIterations) :=
  .bind (.ofExcept (getWinningBallotTally_ne hnone hfound ballotBox)) fun _ => .bind .get fun _ =>
    .ite (.pure _) (.bind (.chunked (avoids_routeVote he hfull _ _) (he _ (by decide)) _ _ _ _) fun finished =>
      avoids_finishRouting he finished)

/-- An operator is paid from its route. -/
lemma avoids_distributeOperatorVaultRewardRoute (he : NotArithmetic e)
    (hfound : (operatorRewardNotFound : ProgramError) ≠ e) (operator : Pubkey) :
    Avoids e (distributeOperatorVaultRewardRoute operator) :=
  .bind (.zoom (avoids_emptyRoute (he _ (by decide)) hfound _)) fun _ => .bind (avoids_debit he _) fun _ => .pure _

end NCNRewardRouter

namespace OperatorVaultRewardRouter

/-- A move out of the pool. -/
lemma avoids_routeFromRewardPool (he : NotArithmetic e) (rewards : ℕ) : Avoids e (routeFromRewardPool rewards) :=
  .bind (avoids_debit he _) fun _ => avoids_credit he _

/-- The operator's fee. -/
lemma calculateOperatorReward_ne (he : NotArithmetic e) {feeBps rewards : ℕ} :
    calculateOperatorReward math feeBps rewards ≠ .error e := by
  unfold calculateOperatorReward
  split
  · exact fun h => by cases h
  · exact mulDivFloor_ne he

/-- A vault's share. -/
lemma calculateVaultReward_ne (he : NotArithmetic e) {stake total rewards : ℕ} :
    calculateVaultReward math stake total rewards ≠ .error e := by
  unfold calculateVaultReward
  split
  · exact fun h => by cases h
  · exact mulDivFloor_ne he

/-- Lamports that came in go to the pool. -/
lemma avoids_routeIncomingRewards (he : NotArithmetic e) (rentCost balance : ℕ) :
    Avoids e (routeIncomingRewards rentCost balance) :=
  .bind .get fun _ => .bind (.ofExcept (okOr_ne_error (he _ (by decide)))) fun _ =>
    .bind (.okOr _ (he _ (by decide))) fun _ => .bind (.okOr _ (he _ (by decide))) fun _ =>
    .bind (avoids_credit he _) fun _ => avoids_credit he _

/-- The operator's fee is taken first. -/
lemma avoids_routeOperatorRewards (he : NotArithmetic e) (snapshot : OperatorSnapshot) :
    Avoids e (routeOperatorRewards math snapshot) :=
  .bind .get fun _ => .bind (.ofExcept (calculateOperatorReward_ne he)) fun _ =>
    .bind (avoids_routeFromRewardPool he _) fun _ => avoids_credit he _

/-- What comes after the loop over the vaults. -/
lemma avoids_finishRouting (he : NotArithmetic e) (finished : Bool) : Avoids e (do
    if finished then
      modify resetRoutingState
      let leftoverRewards := (← get).rewardPool
      routeFromRewardPool leftoverRewards
      routeToOperatorRewards leftoverRewards) :=
  .ite (.bind (.modify _) fun _ => .bind .get fun _ => .bind (avoids_routeFromRewardPool he _) fun _ =>
    avoids_credit he _) (.pure _)

/-- The body of the loop over the vaults. -/
lemma avoids_routeVault (he : NotArithmetic e) (hfull : (operatorRewardListFull : ProgramError) ≠ e)
    (stake rewards : ℕ) (delegation : VaultOperatorStakeWeight) :
    Avoids e (routeVault math stake rewards delegation) :=
  .bind (.ofExcept (calculateVaultReward_ne he)) fun _ => .bind (avoids_routeFromRewardPool he _) fun _ =>
    .ite (.pure _) (.zoom (avoids_routeInTwoPasses he hfull _ _))

/-- The pool is split between the vaults, and the operator gets what is left. -/
lemma avoids_routeRewardPool (he : NotArithmetic e) (hfull : (operatorRewardListFull : ProgramError) ≠ e)
    (snapshot : OperatorSnapshot) (maxIterations : ℕ) : Avoids e (routeRewardPool math snapshot maxIterations) :=
  .bind .get fun _ => .ite (.pure _) (.bind
    (.chunked (avoids_routeVault he hfull _ _) (he _ (by decide)) _ _ _ _) fun finished =>
      avoids_finishRouting he finished)

/-- The operator is paid its fee. -/
lemma avoids_distributeOperatorRewards (he : NotArithmetic e) : Avoids e distributeOperatorRewards :=
  .bind .get fun _ => .bind (.modify _) fun _ => .bind (avoids_debit he _) fun _ => .pure _

/-- A vault is paid from its route. -/
lemma avoids_distributeVaultRewardRoute (he : NotArithmetic e)
    (hfound : (operatorRewardNotFound : ProgramError) ≠ e) (vault : Pubkey) :
    Avoids e (distributeVaultRewardRoute vault) :=
  .bind (.zoom (avoids_emptyRoute (he _ (by decide)) hfound _)) fun _ => .bind (avoids_debit he _) fun _ => .pure _

end OperatorVaultRewardRouter
end NcnProgram
