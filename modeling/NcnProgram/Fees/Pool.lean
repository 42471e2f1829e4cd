import NcnProgram.Fees.InForce
import NcnProgram.Routing.NcnRouter

/-!
# The pool under every fee configuration

`route_reward_pool` subtracts both fees from the pool one after the other, so it needs fees within the whole, and
room in the counters. The first holds of the fees that any changes can bring into force, in every epoch, and the
second of every router whose amounts are conserved.
-/

namespace NcnProgram
open Lib

/-- After any changes of the fees and in every epoch, the whole pool is routed: the protocol and the NCN get the
floors of their fees, and the operators the rest. -/
theorem route_reward_pool_any_fees {math : PreciseMath} (hm : math.Documented) {wallet : Pubkey}
    {initial start : ℕ} {f₀ f : FeeConfig} (hnew : FeeConfig.new math wallet initial start = .ok f₀)
    {updates : List FeeUpdate} (hrun : (updates.forM (FeeUpdate.exec math)).run f₀ = .ok () f) (epoch : ℕ)
    {r : NCNRewardRouter} (hr : r.Conserves) :
    (NCNRewardRouter.routeRewardPool math (f.currentFees epoch)).run r = .ok ()
      { r with
        rewardPool := 0
        rewardsProcessed := r.rewardsProcessed + r.rewardPool
        protocolRewards := r.protocolRewards + r.rewardPool * (f.currentFees epoch).protocolFeeBps / 10000
        ncnRewards := r.ncnRewards + r.rewardPool * (f.currentFees epoch).ncnFeeBps / 10000
        operatorVaultRewards := r.operatorVaultRewards + (r.rewardPool -
          r.rewardPool * (f.currentFees epoch).protocolFeeBps / 10000 -
          r.rewardPool * (f.currentFees epoch).ncnFeeBps / 10000) } := by
  obtain ⟨hokay, _⟩ := FeeConfig.Okay.run hnew hrun
  have hproc := hr.processed
  exact NCNRewardRouter.routeRewardPool_run (by omega) hr.fits hm (hokay.currentFees epoch).le

/-- A thousand lamports under the fees of two changes. -/
theorem route_reward_pool_any_fees_two_updates :
    ∃ (f : FeeConfig) (r r' : NCNRewardRouter), r.rewardPool = 1000 ∧ f.currentFees 2 = ⟨2, 400, 300⟩ ∧
      (NCNRewardRouter.routeRewardPool splMath (f.currentFees 2)).run r = .ok () r' ∧
      r'.rewardPool = 0 ∧ r'.protocolRewards = 40 ∧ r'.ncnRewards = 30 ∧ r'.operatorVaultRewards = 930 := by
  let change := List.forM [⟨0, some 200, none⟩, ⟨1, some 300, none⟩] (FeeUpdate.exec splMath)
  let fees : Fees := ⟨0, defaultProtocolFeeBps, 100⟩
  let f₀ : FeeConfig := ⟨FeeConfig.protocolFeeWalletKey, 4, fees, fees⟩
  let f := commit change f₀
  have hnew : FeeConfig.new splMath 4 100 0 = .ok f₀ := by rfl
  have hf : change.run f₀ = .ok () f := Succeeds.run_eq (by decide +kernel)
  have hfees : f.currentFees 2 = ⟨2, 400, 300⟩ := by decide +kernel
  let r : NCNRewardRouter := { NCNRewardRouter.new 1 0 0 0 with totalRewards := 1000, rewardPool := 1000 }
  have hr : r.Conserves := ⟨by decide +kernel, by decide⟩
  clear_value f
  have hroute := route_reward_pool_any_fees splMath_documented hnew hf 2 hr
  refine ⟨f, r, _, rfl, hfees, hroute, rfl, ?_, ?_, ?_⟩
  · norm_num [hfees, r, NCNRewardRouter.new]
  · norm_num [hfees, r, NCNRewardRouter.new]
  · norm_num [hfees, r, NCNRewardRouter.new]

end NcnProgram
