import NcnProgram.Core.NcnRewardRouter
import NcnProgram.Core.OperatorVaultRewardRouter

/-!
# The arithmetic of rewards and stake

The five computations with precise numbers are exact on the whole range of their arguments. Sixty-four bits
times a hundred and twenty-eight, scaled twice by `10 ^ 12`, do not fit the 256 bits of a word, so large stakes
take the library's other branches; those round differently, but never in the whole part.
-/

namespace NcnProgram
open Lib

/-- Shares of a total, fees in basis points and stake weights are the exact floors and products. -/
theorem reward_arithmetic_exact {math : PreciseMath} (hm : math.Documented) :
    (∀ r s t, r < 2 ^ 64 → s ≤ t → t < 2 ^ 128 → 0 < t →
      NCNRewardRouter.calculateOperatorVaultRouteReward math s t r = .ok (r * s / t) ∧
      OperatorVaultRewardRouter.calculateVaultReward math s t r = .ok (r * s / t)) ∧
    (∀ r fee, r < 2 ^ 64 → fee ≤ 10000 →
      NCNRewardRouter.calculateRewardSplit math fee r = .ok (r * fee / 10000) ∧
      OperatorVaultRewardRouter.calculateOperatorReward math fee r = .ok (r * fee / 10000)) ∧
    ∀ (security weight : ℕ) (table : WeightTable) (mint : Pubkey), security < 2 ^ 64 → weight < 2 ^ 128 →
      table.getWeight mint = .ok weight → security * weight < 2 ^ 128 →
      OperatorSnapshot.calculateTotalStakeWeight math security table mint = .ok (security * weight) := by
  refine ⟨?_, ?_, ?_⟩
  · intro r s t hr hs ht _
    exact ⟨NCNRewardRouter.calculateOperatorVaultRouteReward_eq hm hs ht hr,
      OperatorVaultRewardRouter.calculateVaultReward_eq hm hs ht hr⟩
  · intro r fee hr hfee
    exact ⟨NCNRewardRouter.calculateRewardSplit_eq hm hfee hr,
      OperatorVaultRewardRouter.calculateOperatorReward_eq hm hfee hr⟩
  · intro security weight table mint hs hw hweight hfit
    exact OperatorSnapshot.calculateTotalStakeWeight_eq hm hs hw hweight hfit

/-- The largest amount and a third of the largest total: the intermediate product does not fit its word. -/
theorem reward_arithmetic_exact_largest :
    OperatorVaultRewardRouter.calculateVaultReward splMath ((2 ^ 128 - 1) / 3) (2 ^ 128 - 1) (2 ^ 64 - 1) =
      .ok ((2 ^ 64 - 1) / 3) :=
  ((reward_arithmetic_exact splMath_documented).1 (2 ^ 64 - 1) ((2 ^ 128 - 1) / 3) (2 ^ 128 - 1) (by decide)
    (by decide) (by decide) (by decide)).2

end NcnProgram
