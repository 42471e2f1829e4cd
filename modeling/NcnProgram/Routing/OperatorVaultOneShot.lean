import NcnProgram.Routing.Dues
import NcnProgram.Routing.OperatorVaultRewards

/-!
# Routing to the vaults in chunks is the pro-rata split

The counterpart of the NCN router's rounds over a snapshot that does not change any more. The pool shrinks from
slot to slot while the shares are computed from the amount saved with the first chunk, and free slots count;
but again, at every point of a round, paying the slots still to come leads to the router at its end
(`VaultsUnderway`).
-/

namespace NcnProgram
open Lib NCNProgramError

/-! ## The routers of a snapshot -/

namespace OperatorVaultRewardRouter

/-- One successful call of a method that routes over the snapshot or distributes, in any order. -/
inductive Step (math : PreciseMath) (snapshot : OperatorSnapshot) :
    OperatorVaultRewardRouter → OperatorVaultRewardRouter → Prop
  | routeIncomingRewards {r r'} (rentCost accountBalance : ℕ) : accountBalance < 2 ^ 64 →
      (routeIncomingRewards rentCost accountBalance).run r = .ok () r' → Step math snapshot r r'
  | routeOperatorRewards {r r'} :
      (routeOperatorRewards math snapshot).run r = .ok () r' → Step math snapshot r r'
  | routeRewardPool {r r'} (maxIterations : ℕ) :
      (routeRewardPool math snapshot maxIterations).run r = .ok () r' → Step math snapshot r r'
  | distribute {r r' rewards} (p : OperatorPayout) :
      p.distribute.run r = .ok rewards r' → Step math snapshot r r'

/-- A router that such calls make out of a new one. -/
def Reachable (math : PreciseMath) (snapshot : OperatorSnapshot) (r : OperatorVaultRewardRouter) : Prop :=
  ∃ operator index ncn epoch bump slot, Run (Step math snapshot) (new operator index ncn epoch bump slot) r

lemma apart_lastRewardsToProcess : Apart lastRewardsToProcess := fun _ _ _ _ _ _ => rfl

lemma leaves_distribute (p : OperatorPayout) : Leaves lastRewardsToProcess p.distribute := by
  cases p with
  | operatorFee => exact leaves_distributeOperatorRewards apart_lastRewardsToProcess
  | vaultRoute vault => exact leaves_distributeVaultRewardRoute apart_lastRewardsToProcess vault

end OperatorVaultRewardRouter

namespace VaultBooks
variable {math : PreciseMath} {snapshot : OperatorSnapshot} {ps : List Pubkey}
  {r r' : OperatorVaultRewardRouter} {rs : List RewardRoute}

/-- Incoming rewards keep the books. -/
lemma routeIncomingRewards_keeps (h : VaultBooks ps r rs) {rent balance : ℕ} (hbalance : balance < 2 ^ 64)
    (hrun : (OperatorVaultRewardRouter.routeIncomingRewards rent balance).run r = .ok () r') :
    VaultBooks ps r' rs := by
  obtain ⟨_, _, hg, hrun⟩ := run_bind_ok.1 hrun
  cases hg
  obtain ⟨total, _, hg, hrun⟩ := run_bind_ok.1 hrun
  obtain ⟨htotal, rfl⟩ := run_ofExcept_ok.1 hg
  obtain ⟨incoming, _, hg, hrun⟩ := run_bind_ok.1 hrun
  obtain ⟨hincoming, rfl⟩ := run_okOr_ok.1 hg
  obtain ⟨surplus, _, hg, hrun⟩ := run_bind_ok.1 hrun
  obtain ⟨hsurplus, rfl⟩ := run_okOr_ok.1 hg
  obtain ⟨_, _, hg, hrun⟩ := run_bind_ok.1 hrun
  cases credit_run_ok rfl hg
  cases credit_run_ok rfl hrun
  rw [OperatorVaultRewardRouter.totalRewardsInTransit, checkedAdd_of_lt h.fits] at htotal
  cases htotal
  have := checkedSub_eq_some.1 hincoming
  have := checkedSub_eq_some.1 hsurplus
  exact ⟨h.routes, h.payees, h.processed, by simp only; omega⟩

/-- A slot that is routed keeps the books, since its share was covered. -/
lemma routeVault_keeps {ds : List VaultOperatorStakeWeight} {S R : ℕ} (h : VaultBooks ps r rs)
    (hm : math.Documented) (hd : Delegations ds S ps) (hR : R < 2 ^ 64) {d : VaultOperatorStakeWeight}
    (hmem : d ∈ ds) (hrun : (OperatorVaultRewardRouter.routeVault math S R d).run r = .ok () r') :
    ∃ rs', VaultBooks ps r' rs' := by
  have hle : d.stakeWeight.stakeWeight ≤ S := by
    rw [← hd.stake]
    exact List.le_sum_of_mem (List.mem_map_of_mem hmem)
  have hcov : share R S d.stakeWeight.stakeWeight ≤ r.rewardPool := by
    obtain ⟨reward, _, hcalc, hrun⟩ := run_bind_ok.1 hrun
    rw [OperatorVaultRewardRouter.calculateVaultReward_eq hm hle hd.lt hR] at hcalc
    cases hcalc
    obtain ⟨_, _, hfrom, _⟩ := run_bind_ok.1 hrun
    obtain ⟨_, _, hdebit, _⟩ := run_bind_ok.1 hfrom
    exact (debit_run_ok rfl hdebit).1
  obtain ⟨r₁, rs', hrun', h', _⟩ := h.routeVault_spec hm hd hR hmem hcov
  cases hrun.symm.trans hrun'
  exact ⟨rs', h'⟩

/-- A call that routes to the vaults keeps the books, also in a round that nothing covers. -/
lemma routeRewardPool_keeps (h : VaultBooks ps r rs) (hm : math.Documented)
    (hd : Delegations snapshot.vaultOperatorStakeWeight.toList snapshot.stakeWeights.stakeWeight ps)
    (hlast : r.lastRewardsToProcess < 2 ^ 64) {maxIterations : ℕ}
    (hrun : (OperatorVaultRewardRouter.routeRewardPool math snapshot maxIterations).run r = .ok () r') :
    (∃ rs', VaultBooks ps r' rs') ∧ r'.lastRewardsToProcess < 2 ^ 64 := by
  have hfits := h.fits
  have hR : (r.resumeRoutingState r.rewardPool).1 < 2 ^ 64 := by
    unfold OperatorVaultRewardRouter.resumeRoutingState
    split
    · exact hlast
    · show r.rewardPool < 2 ^ 64
      omega
  simp only [OperatorVaultRewardRouter.routeRewardPool, EStateM.run_bind, EStateM.run_get] at hrun
  generalize r.resumeRoutingState r.rewardPool = state at hR hrun
  obtain ⟨R, start⟩ := state
  simp only at hR hrun
  split at hrun
  · cases hrun
    exact ⟨⟨rs, h⟩, hlast⟩
  · obtain ⟨finished, r₁, hchunk, hrun⟩ := run_bind_ok.1 hrun
    obtain ⟨⟨rs₁, h₁⟩, hlast₁⟩ := chunked_keeps
      (I := fun r : OperatorVaultRewardRouter => (∃ rs, VaultBooks ps r rs) ∧ r.lastRewardsToProcess < 2 ^ 64)
      (by
        rintro d hmem s s' ⟨⟨rs, h⟩, hlast⟩ hrun
        refine ⟨h.routeVault_keeps hm hd hR (List.mem_of_mem_drop hmem) hrun, ?_⟩
        have hsame := OperatorVaultRewardRouter.leaves_routeVault
          OperatorVaultRewardRouter.apart_lastRewardsToProcess math _ R d hrun
        exact hsame.trans_lt hlast)
      (by
        rintro i s ⟨⟨rs, h⟩, hlast⟩
        exact ⟨⟨rs, h.routes, h.payees, h.processed, h.fits⟩, hR⟩)
      ⟨⟨rs, h⟩, hlast⟩ hchunk
    cases finished with
    | false =>
      cases hrun
      exact ⟨⟨rs₁, h₁⟩, hlast₁⟩
    | true =>
      obtain ⟨r₂, hfin, h₂, _, hs⟩ := h₁.finish_spec
      cases (show _ = _ from hrun).symm.trans hfin
      have hno : r'.lastRewardsToProcess = OperatorVaultRewardRouter.noLastRewardsToProcess :=
        bne_eq_false_iff_eq.1 (Bool.or_eq_false_iff.1 hs).1
      exact ⟨⟨rs₁, h₂⟩, hno ▸ (by decide)⟩

/-- Every call keeps the books. -/
lemma step (h : VaultBooks ps r rs) (hm : math.Documented)
    (hd : Delegations snapshot.vaultOperatorStakeWeight.toList snapshot.stakeWeights.stakeWeight ps)
    (hfee : snapshot.operatorFeeBps ≤ 10000) (hlast : r.lastRewardsToProcess < 2 ^ 64)
    (hstep : OperatorVaultRewardRouter.Step math snapshot r r') :
    (∃ rs', VaultBooks ps r' rs') ∧ r'.lastRewardsToProcess < 2 ^ 64 := by
  cases hstep with
  | routeIncomingRewards rentCost accountBalance hbalance hrun =>
    have hsame := OperatorVaultRewardRouter.leaves_routeIncomingRewards
      OperatorVaultRewardRouter.apart_lastRewardsToProcess _ _ hrun
    exact ⟨⟨rs, h.routeIncomingRewards_keeps hbalance hrun⟩, hsame.trans_lt hlast⟩
  | routeOperatorRewards hrun =>
    have hsame := OperatorVaultRewardRouter.leaves_routeOperatorRewards
      OperatorVaultRewardRouter.apart_lastRewardsToProcess _ _ hrun
    obtain ⟨r₁, hrun', h', _⟩ := h.routeOperatorRewards_spec hm hfee
    cases hrun.symm.trans hrun'
    exact ⟨⟨rs, h'⟩, hsame.trans_lt hlast⟩
  | routeRewardPool maxIterations hrun => exact h.routeRewardPool_keeps hm hd hlast hrun
  | distribute p hrun =>
    have hsame := OperatorVaultRewardRouter.leaves_distribute p hrun
    refine ⟨?_, hsame.trans_lt hlast⟩
    cases p with
    | operatorFee =>
      obtain ⟨_, r₁, hrun', h', _⟩ := h.distributeOperatorRewards_spec
      cases hrun.symm.trans hrun'
      exact ⟨rs, h'⟩
    | vaultRoute vault =>
      obtain ⟨_, _, hz, _⟩ := run_bind_ok.1 hrun
      obtain ⟨_, hempty, _⟩ := run_zoom_ok.1 hz
      obtain ⟨_, r₁, rs', hrun', h', _⟩ :=
        h.distributeVaultRewardRoute_spec (RoutesTo.any_of_emptyRoute hempty)
      cases hrun.symm.trans hrun'
      exact ⟨rs', h'⟩

/-- The books of every router that is reachable over the snapshot. -/
lemma of_reachable (hm : math.Documented)
    (hd : Delegations snapshot.vaultOperatorStakeWeight.toList snapshot.stakeWeights.stakeWeight ps)
    (hfee : snapshot.operatorFeeBps ≤ 10000) (h : r.Reachable math snapshot) : ∃ rs, VaultBooks ps r rs := by
  obtain ⟨operator, index, ncn, epoch, bump, slot, hrun⟩ := h
  refine (hrun.invariant (I := fun r => (∃ rs, VaultBooks ps r rs) ∧ r.lastRewardsToProcess < 2 ^ 64)
    ⟨⟨[], .new ps operator index ncn epoch bump slot⟩, show u64Max < 2 ^ 64 by decide⟩ ?_).1
  rintro r r' hstep ⟨⟨rs, hb⟩, hlast⟩
  exact hb.step hm hd hfee hlast hstep

end VaultBooks

/-! ## A round -/

/-- What a slot is due of `R`. -/
def delegationDue (S R : ℕ) (d : VaultOperatorStakeWeight) : Pubkey × ℕ :=
  (d.vault, share R S d.stakeWeight.stakeWeight)

/-- Paying the slots still to come leads from the router to the end of the round, where `leftover` has gone to
the operator. -/
structure VaultsUnderway (S R leftover : ℕ) (final : OperatorVaultRewardRouter)
    (todo : List VaultOperatorStakeWeight) (r : OperatorVaultRewardRouter) : Prop where
  pays : ((todo.map (delegationDue S R)).forM (payDue routeInTwoPasses)).run r.vaultRewardRoutes =
    .ok () final.vaultRewardRoutes
  covered : r.rewardPool = leftover + vaultsOwed S R todo
  same : final = { r with
    rewardPool := 0
    rewardsProcessed := r.rewardsProcessed + r.rewardPool
    operatorRewards := r.operatorRewards + leftover
    lastRewardsToProcess := OperatorVaultRewardRouter.noLastRewardsToProcess
    lastVaultOperatorDelegationIndex := OperatorVaultRewardRouter.noLastVaultOperationDelegationIndex
    vaultRewardRoutes := final.vaultRewardRoutes }

/-- Paying a due of the table is routing it in the router. -/
lemma OperatorVaultRewardRouter.routeToVaultRewardRoute_run {r : OperatorVaultRewardRouter} {vault : Pubkey}
    {x : ℕ} {t : Table VaultRewardRoute maxVaults}
    (h : (payDue routeInTwoPasses (vault, x)).run r.vaultRewardRoutes = .ok () t) :
    (routeToVaultRewardRoute vault x).run r = .ok () { r with vaultRewardRoutes := t } := by
  unfold payDue at h
  unfold routeToVaultRewardRoute
  split
  · rename_i h0
    rw [if_pos h0] at h
    cases h
    rfl
  · rename_i h0
    rw [if_neg h0] at h
    rw [onRoutes, run_zoom, h]

namespace VaultsUnderway
variable {math : PreciseMath} {todo : List VaultOperatorStakeWeight} {S R leftover : ℕ}
  {final r : OperatorVaultRewardRouter} {d : VaultOperatorStakeWeight}

/-- A slot is routed. -/
lemma routeVault (h : VaultsUnderway S R leftover final (d :: todo) r) (hm : math.Documented)
    (hs : d.stakeWeight.stakeWeight ≤ S) (hS : S < 2 ^ 128) (hR : R < 2 ^ 64)
    (hfits : final.rewardsProcessed < 2 ^ 64) :
    ∃ r', (OperatorVaultRewardRouter.routeVault math S R d).run r = .ok () r' ∧
      VaultsUnderway S R leftover final todo r' := by
  obtain ⟨hpays, hcovered, hsame⟩ := h
  have hcalc := OperatorVaultRewardRouter.calculateVaultReward_eq hm hs hS hR
  rw [List.map_cons] at hpays
  obtain ⟨_, t, hpay, hpays⟩ := run_bind_ok.1 hpays
  rw [vaultsOwed, List.map_cons, List.sum_cons] at hcovered
  have hproc : final.rewardsProcessed = r.rewardsProcessed + r.rewardPool := by rw [hsame]
  simp only [delegationDue] at hpay
  generalize share R S d.stakeWeight.stakeWeight = x at hcalc hpay hcovered
  have hroute := OperatorVaultRewardRouter.routeToVaultRewardRoute_run
    (r := { r with rewardPool := r.rewardPool - x, rewardsProcessed := r.rewardsProcessed + x }) hpay
  refine ⟨{ r with
    rewardPool := r.rewardPool - x
    rewardsProcessed := r.rewardsProcessed + x
    vaultRewardRoutes := t }, ?_, hpays, ?_, ?_⟩
  · simp only [OperatorVaultRewardRouter.routeVault, EStateM.run_bind, hcalc, ofExcept_ok, EStateM.run_pure]
    rw [OperatorVaultRewardRouter.routeFromRewardPool_run (by omega) (by omega)]
    exact hroute
  · simp only [vaultsOwed]
    omega
  · have hsum : r.rewardsProcessed + x + (r.rewardPool - x) = r.rewardsProcessed + r.rewardPool := by omega
    simp only [hsum]
    exact hsame

/-- When no slot is left, the round is finished. -/
lemma finish (h : VaultsUnderway S R leftover final [] r) (hfits : final.rewardsProcessed < 2 ^ 64)
    (hoperator : final.operatorRewards < 2 ^ 64) :
    (do
        modify OperatorVaultRewardRouter.resetRoutingState
        let leftoverRewards := (← get).rewardPool
        OperatorVaultRewardRouter.routeFromRewardPool leftoverRewards
        OperatorVaultRewardRouter.routeToOperatorRewards leftoverRewards :
          Mut OperatorVaultRewardRouter Unit).run r = .ok () final := by
  obtain ⟨hpays, hcovered, hsame⟩ := h
  have hroutes : r.vaultRewardRoutes = final.vaultRewardRoutes := (EStateM.Result.ok.inj hpays).2
  have hleft : r.rewardPool = leftover := hcovered
  rw [hsame, ← hroutes] at hfits hoperator ⊢
  simp only [EStateM.run_bind, EStateM.run_get, EStateM.run_modify]
  rw [OperatorVaultRewardRouter.routeFromRewardPool_run (Nat.le_refl _) (by exact hfits)]
  simp only
  rw [OperatorVaultRewardRouter.routeToOperatorRewards_run (by
    simp only [OperatorVaultRewardRouter.resetRoutingState, hleft]
    exact hoperator)]
  simp only [OperatorVaultRewardRouter.resetRoutingState, hleft, Nat.sub_self]

end VaultsUnderway

/-- The router before the first call of a round or at a checkpoint, with `c` slots still to come. -/
def VaultsPending (ds : List VaultOperatorStakeWeight) (S R leftover : ℕ) (final : OperatorVaultRewardRouter)
    (c : ℕ) (r : OperatorVaultRewardRouter) : Prop :=
  ∃ k < maxVaults, k + c = maxVaults ∧ VaultsUnderway S R leftover final (ds.drop k) r ∧
    (r.stillRouting = false ∧ k = 0 ∧ r.rewardPool = R ∨
      r.stillRouting = true ∧ r.lastRewardsToProcess = R ∧ r.lastVaultOperatorDelegationIndex = k)

namespace VaultsPending
variable {math : PreciseMath} {snapshot : OperatorSnapshot} {ps : List Pubkey} {R leftover c : ℕ}
  {final r : OperatorVaultRewardRouter}

/-- A call takes off as many slots as it may, or finishes the round. -/
lemma call (hm : math.Documented)
    (hd : Delegations snapshot.vaultOperatorStakeWeight.toList snapshot.stakeWeights.stakeWeight ps)
    (hR : R < 2 ^ 64) (hpos : 0 < R) (hfits : final.rewardsProcessed < 2 ^ 64)
    (hoperator : final.operatorRewards < 2 ^ 64) (m : ℕ)
    (h : VaultsPending snapshot.vaultOperatorStakeWeight.toList snapshot.stakeWeights.stakeWeight R leftover
      final c r) :
    ∃ r', (OperatorVaultRewardRouter.routeRewardPool math snapshot m).run r = .ok () r' ∧
      (c ≤ max m 1 → r' = final) ∧ (max m 1 < c →
        VaultsPending snapshot.vaultOperatorStakeWeight.toList snapshot.stakeWeights.stakeWeight R leftover
          final (c - max m 1) r') := by
  obtain ⟨k, hk, hcount, hunder, hstate⟩ := h
  have hresume : r.resumeRoutingState r.rewardPool = (R, k) := by
    rcases hstate with ⟨hs, rfl, hpool⟩ | ⟨hs, hlast, hidx⟩
    · simp [OperatorVaultRewardRouter.resumeRoutingState, hs, hpool]
    · simp [OperatorVaultRewardRouter.resumeRoutingState, hs, hidx, hlast]
  have hk' : k < 64 := hk
  have hcount' : k + c = 64 := hcount
  have hlen : (snapshot.vaultOperatorStakeWeight.toList.drop k).length = 64 - k := by
    rw [List.length_drop, hd.length]
  simp only [OperatorVaultRewardRouter.routeRewardPool, EStateM.run_bind, EStateM.run_get, hresume]
  rw [if_neg (Nat.ne_of_gt hpos), EStateM.run_bind]
  have hbody : ∀ d todo s, true = true → (d :: todo ⊆ snapshot.vaultOperatorStakeWeight.toList ∧
      VaultsUnderway snapshot.stakeWeights.stakeWeight R leftover final (d :: todo) s) →
      ∃ s', (OperatorVaultRewardRouter.routeVault math snapshot.stakeWeights.stakeWeight R d).run s = .ok () s' ∧
        todo ⊆ snapshot.vaultOperatorStakeWeight.toList ∧
        VaultsUnderway snapshot.stakeWeights.stakeWeight R leftover final todo s' := by
    rintro d todo s - ⟨hsub, hu⟩
    obtain ⟨hmem, hsub'⟩ := List.cons_subset.1 hsub
    have hle : d.stakeWeight.stakeWeight ≤ snapshot.stakeWeights.stakeWeight := by
      rw [← hd.stake]
      exact List.le_sum_of_mem (List.mem_map_of_mem hmem)
    obtain ⟨s', hrun, hu'⟩ := hu.routeVault hm hle hd.lt hR hfits
    exact ⟨s', hrun, hsub', hu'⟩
  obtain ⟨r', ⟨hrun, ⟨_, hdone⟩, hle⟩ | ⟨j, r₁, hrun, hj, ⟨_, hleft⟩, hsave, _, hmore, _⟩⟩ := chunked_rule
    (I := fun todo r => todo ⊆ snapshot.vaultOperatorStakeWeight.toList ∧
      VaultsUnderway snapshot.stakeWeights.stakeWeight R leftover final todo r)
    (OperatorVaultRewardRouter.saveRoutingState R) (arithmeticOverflow : ProgramError) (max m 1) (n := 0)
    (i := k) hbody (fun _ _ _ hno _ => absurd hno.symm Bool.false_ne_true) ⟨List.drop_subset _ _, hunder⟩
    (by rw [hlen]; omega) (Nat.zero_le _)
  · rw [hrun]
    rw [List.countP_true, hlen, Nat.zero_add] at hle
    exact ⟨final, hdone.finish hfits hoperator, fun _ => rfl, fun h => by omega⟩
  · rw [hrun]
    rw [List.countP_true, List.length_drop (i := j), hlen, Nat.zero_add] at hmore
    rw [List.drop_drop] at hleft
    rw [OperatorVaultRewardRouter.saveRoutingState, Nat.mod_eq_of_lt (by omega)] at hsave
    rw [hsave]
    refine ⟨_, rfl, fun h => ?_, fun _ => ⟨k + j, ?_, ?_, ⟨hleft.pays, hleft.covered, hleft.same⟩,
      .inr ⟨?_, rfl, rfl⟩⟩⟩
    · omega
    · show k + j < 64
      omega
    · show k + j + (c - max m 1) = 64
      omega
    · -- an index of a slot is not the sentinel
      have hne : k + j ≠ 2 ^ 16 - 1 := by omega
      exact Bool.or_eq_true_iff.2 (.inr (bne_iff_ne.2 hne))

/-- Between calls the router says whether slots are still to come. -/
lemma stillRouting {ds : List VaultOperatorStakeWeight} {S : ℕ}
    (h : VaultsPending ds S R leftover final c r) (hc : c < maxVaults) : r.stillRouting = true := by
  obtain ⟨k, _, hcount, _, ⟨_, rfl, _⟩ | ⟨hs, _⟩⟩ := h
  · omega
  · exact hs

end VaultsPending

/-! ## All rounds -/

namespace OperatorSnapshot

/-- What of a pool is for the vaults, after the operator's fee. -/
def vaultsPart (s : OperatorSnapshot) (pool : ℕ) : ℕ := pool - pool * s.operatorFeeBps / 10000

/-- A delegation's share of a pool; nothing if the operator has no stake. -/
def vaultReward (s : OperatorSnapshot) (pool : ℕ) (d : VaultOperatorStakeWeight) : ℕ :=
  s.vaultsPart pool * d.stakeWeight.stakeWeight / s.stakeWeights.stakeWeight

end OperatorSnapshot

/-- The pro-rata split of the pool at one stroke: every registered vault has its share more, no other does, and
the rest of the pool is the operator's. -/
structure VaultSplit (snapshot : OperatorSnapshot) (r final : OperatorVaultRewardRouter) : Prop where
  vault : ∀ d ∈ snapshot.registeredDelegations, (routeOf final.vaultRewardRoutes d.vault).rewards =
    (routeOf r.vaultRewardRoutes d.vault).rewards + snapshot.vaultReward r.rewardPool d
  other : ∀ vault ∉ snapshot.registeredDelegations.map (·.vault),
    (routeOf final.vaultRewardRoutes vault).rewards = (routeOf r.vaultRewardRoutes vault).rewards
  le : (snapshot.registeredDelegations.map (snapshot.vaultReward r.rewardPool)).sum ≤ r.rewardPool
  rest : final = { r with
    rewardPool := 0
    rewardsProcessed := r.rewardsProcessed + r.rewardPool
    operatorRewards := r.operatorRewards +
      (r.rewardPool - (snapshot.registeredDelegations.map (snapshot.vaultReward r.rewardPool)).sum)
    vaultRewardRoutes := final.vaultRewardRoutes }

/-- The free slots are owed nothing. -/
lemma Registered.vaultsOwed {s : OperatorSnapshot} {ds : List VaultOperatorStakeWeight} (h : Registered s ds)
    (S R : ℕ) : vaultsOwed S R s.vaultOperatorStakeWeight.toList = vaultsOwed S R ds := by
  rw [NcnProgram.vaultsOwed, NcnProgram.vaultsOwed, h.holds, List.map_append, List.sum_append,
    List.map_replicate, List.sum_replicate]
  simp [VaultOperatorStakeWeight.default, StakeWeights.default]

/-- Paying all slots of the snapshot pays every registered vault its share and nobody else. -/
lemma VaultBooks.payDelegations {snapshot : OperatorSnapshot} {ds : List VaultOperatorStakeWeight}
    {r : OperatorVaultRewardRouter} {rs : List RewardRoute} {S q : ℕ}
    (h : VaultBooks (ds.map (·.vault)) r rs) (hreg : Registered snapshot ds)
    (hd : Delegations snapshot.vaultOperatorStakeWeight.toList S (ds.map (·.vault)))
    (hnodup : (ds.map (·.vault)).Nodup) (hfits : (rs.map (·.rewards)).sum + vaultsOwed S q ds < 2 ^ 64) :
    ∃ tf, ((snapshot.vaultOperatorStakeWeight.toList.map (delegationDue S q)).forM
        (payDue routeInTwoPasses)).run r.vaultRewardRoutes = .ok () tf ∧
      (∀ d ∈ ds, (routeOf tf d.vault).rewards =
        (routeOf r.vaultRewardRoutes d.vault).rewards + share q S d.stakeWeight.stakeWeight) ∧
      ∀ vault ∉ ds.map (·.vault), (routeOf tf vault).rewards = (routeOf r.vaultRewardRoutes vault).rewards := by
  have hpayees : ∀ d ∈ ds, (delegationDue S q d).2 ≠ 0 → d.vault ∈ ds.map (·.vault) ∧ d.vault ≠ .default :=
    fun d hd _ => ⟨List.mem_map_of_mem hd, hreg.vault_ne d hd⟩
  obtain ⟨tf, hpays, hvault, hother⟩ := h.routes.payDues_distinct opensRoutes_routeInTwoPasses h.payees hd.room
    (f := delegationDue S q) hnodup hpayees hfits
  refine ⟨tf, ?_, hvault, hother⟩
  -- the free slots are due nothing
  have hfree : ∀ due ∈ List.replicate (maxVaults - ds.length) (delegationDue S q .default), due.2 = 0 := by
    intro due hdue
    rw [List.eq_of_mem_replicate hdue]
    exact share_zero_weight ..
  rw [hreg.holds, List.map_append, List.map_replicate, List.forM_eq_forM, List.forM_append]
  exact run_bind_ok.2 ⟨(), tf, hpays, payDues_zero hfree⟩

/-- Paying the operator's fee and then all vaults at once is the split. -/
lemma VaultBooks.exists_split {math : PreciseMath} {snapshot : OperatorSnapshot}
    {ds : List VaultOperatorStakeWeight} {r : OperatorVaultRewardRouter} {rs : List RewardRoute}
    (h : VaultBooks (ds.map (·.vault)) r rs) (hreg : Registered snapshot ds)
    (hm : math.Documented) (hfee : snapshot.operatorFeeBps ≤ 10000) (hnodup : (ds.map (·.vault)).Nodup)
    (hidle : r.stillRouting = false) :
    ∃ r₁ leftover final, (OperatorVaultRewardRouter.routeOperatorRewards math snapshot).run r = .ok () r₁ ∧
      VaultSplit snapshot r final ∧ r₁.stillRouting = false ∧ r₁.rewardPool < 2 ^ 64 ∧
      final.stillRouting = false ∧ final.rewardPool = 0 ∧ final.rewardsProcessed < 2 ^ 64 ∧
      final.operatorRewards < 2 ^ 64 ∧
      VaultsUnderway snapshot.stakeWeights.stakeWeight r₁.rewardPool leftover final
        snapshot.vaultOperatorStakeWeight.toList r₁ := by
  have hproc := h.processed
  have hfits := h.fits
  have hd := hreg.delegations
  have hidle' := Bool.or_eq_false_iff.1 hidle
  have hlast := bne_eq_false_iff_eq.1 hidle'.1
  have hidx := bne_eq_false_iff_eq.1 hidle'.2
  have hfee_le := share_le (r := r.rewardPool) hfee
  have hrun := h.routeOperatorRewards_run hm hfee
  have hpart : snapshot.vaultsPart r.rewardPool =
    r.rewardPool - share r.rewardPool 10000 snapshot.operatorFeeBps := rfl
  have hrewards : snapshot.vaultReward r.rewardPool = fun d =>
      share (snapshot.vaultsPart r.rewardPool) snapshot.stakeWeights.stakeWeight d.stakeWeight.stakeWeight := rfl
  rw [← hpart] at hrun
  generalize hq : snapshot.vaultsPart r.rewardPool = q at hpart hrewards hrun
  generalize snapshot.stakeWeights.stakeWeight = S at hd hrewards ⊢
  have howed : vaultsOwed S q ds ≤ q := hreg.vaultsOwed S q ▸ vaultsOwed_le hd.stake.le
  obtain ⟨tf, hpays, hvault, hother⟩ := h.payDelegations hreg hd hnodup (q := q) (by omega)
  refine ⟨_, q - vaultsOwed S q ds, { r with
    rewardPool := 0
    rewardsProcessed := r.rewardsProcessed + r.rewardPool
    operatorRewards := r.operatorRewards + (r.rewardPool - vaultsOwed S q ds)
    vaultRewardRoutes := tf }, hrun, ⟨?_, ?_, ?_, ?_⟩, hidle, ?_, hidle, rfl, ?_, ?_, ⟨hpays, ?_, ?_⟩⟩
  · rw [hreg.registeredDelegations, hrewards]
    exact hvault
  · rw [hreg.registeredDelegations]
    exact hother
  · rw [hreg.registeredDelegations, hrewards]
    exact howed.trans (by omega)
  · rw [hreg.registeredDelegations, hrewards]
    rfl
  · simp only
    omega
  · simp only
    omega
  · simp only
    omega
  · rw [hreg.vaultsOwed]
    simp only
    omega
  · rw [← hlast, ← hidx]
    simp only
    congr 1
    · omega
    · omega

/-- If nothing is to be split, the round is over before it begins. -/
lemma VaultsUnderway.eq_of_zero {S leftover : ℕ} {final r : OperatorVaultRewardRouter}
    {todo : List VaultOperatorStakeWeight} (h : VaultsUnderway S 0 leftover final todo r)
    (hpool : r.rewardPool = 0) (hidle : r.stillRouting = false) : final = r := by
  obtain ⟨hpays, hcovered, hsame⟩ := h
  have hidle' := Bool.or_eq_false_iff.1 hidle
  have hlast := bne_eq_false_iff_eq.1 hidle'.1
  have hidx := bne_eq_false_iff_eq.1 hidle'.2
  have hroutes : final.vaultRewardRoutes = r.vaultRewardRoutes := by
    have hzero : ∀ due ∈ todo.map (delegationDue S 0), due.2 = 0 := by
      intro due hdue
      obtain ⟨d, _, rfl⟩ := List.mem_map.1 hdue
      exact share_zero_amount ..
    rw [payDues_zero hzero] at hpays
    exact ((EStateM.Result.ok.inj hpays).2).symm
  have hleft : leftover = 0 := by omega
  rw [hpool, hleft, hroutes, ← hlast, ← hidx] at hsame
  calc final = { r with rewardPool := 0 } := hsame
    _ = r := by rw [← hpool]

/-- Over every snapshot of different vaults that no longer changes, and from every router that is not in the
middle of a round, the operator's fee and then calls with any numbers of iterations end in the pro-rata split.
They are done with the first call that brings the iterations to the number of slots, or with the first of all
if the fee leaves nothing, and then nothing more happens. -/
theorem vault_chunks_make_one_split {math : PreciseMath} (hm : math.Documented) {operator : Pubkey}
    {snapshot : OperatorSnapshot} (hsnapshot : snapshot.Reachable operator)
    (hfee : snapshot.operatorFeeBps ≤ 10000)
    (hdistinct : (snapshot.registeredDelegations.map (·.vault)).Nodup) {r : OperatorVaultRewardRouter}
    (hr : r.Reachable math snapshot) (hidle : r.stillRouting = false) :
    ∃ r₁ final, (OperatorVaultRewardRouter.routeOperatorRewards math snapshot).run r = .ok () r₁ ∧
      VaultSplit snapshot r final ∧ final.stillRouting = false ∧
      (∀ ms : List ℕ, ms ≠ [] → ∃ r',
        (ms.forM (OperatorVaultRewardRouter.routeRewardPool math snapshot)).run r₁ = .ok () r' ∧
        (r'.stillRouting = false ↔ r₁.rewardPool = 0 ∨ maxVaults ≤ (ms.map (max · 1)).sum) ∧
        (r'.stillRouting = false → r' = final)) ∧
      ∀ m, (OperatorVaultRewardRouter.routeRewardPool math snapshot m).run final = .ok () final := by
  obtain ⟨⟨ds, hreg⟩, _⟩ := hsnapshot.registered
  rw [hreg.registeredDelegations] at hdistinct
  obtain ⟨rs, hb⟩ := VaultBooks.of_reachable hm hreg.delegations hfee hr
  obtain ⟨r₁, leftover, final, hrun, hsplit, hidle₁, hlt, hfinal, hzero, hfits, hoperator, hunder⟩ :=
    hb.exists_split hreg hm hfee hdistinct hidle
  have hdone (m : ℕ) :
      (OperatorVaultRewardRouter.routeRewardPool math snapshot m).run final = .ok () final := by
    simp only [OperatorVaultRewardRouter.routeRewardPool, OperatorVaultRewardRouter.resumeRoutingState,
      EStateM.run_bind, EStateM.run_get, hfinal, Bool.false_eq_true, if_false, hzero]
    rfl
  refine ⟨r₁, final, hrun, hsplit, hfinal, fun ms hms => ?_, hdone⟩
  rcases Nat.eq_zero_or_pos r₁.rewardPool with h0 | hpos
  · rw [h0] at hunder
    cases hunder.eq_of_zero h0 hidle₁
    exact ⟨_, forM_done hdone ms, ⟨fun _ => .inl h0, fun _ => hfinal⟩, fun _ => rfl⟩
  · obtain ⟨r', hrun', hiff, hend⟩ := forM_resumed_flag
      (P := VaultsPending snapshot.vaultOperatorStakeWeight.toList snapshot.stakeWeights.stakeWeight
        r₁.rewardPool leftover final)
      (fun c s m _ h => h.call hm hreg.delegations hlt hpos hfits hoperator m) hdone
      (show 0 < maxVaults by decide)
      ⟨0, Nat.zero_lt_succ _, Nat.zero_add _, hunder, .inl ⟨hidle₁, rfl, rfl⟩⟩
      (fun k s hk h => h.stillRouting hk) hfinal hms
    refine ⟨r', hrun', ?_, hend⟩
    rw [hiff]
    exact ⟨.inr, fun h => h.resolve_left (Nat.ne_of_gt hpos)⟩

/-- An operator with a fee of ten percent and two vaults with stakes one and two: of a hundred lamports they get
thirty and sixty, routed in two chunks. -/
theorem vault_chunks_make_one_split_two_vaults :
    ∃ (snapshot : OperatorSnapshot) (r r₁ final : OperatorVaultRewardRouter), r.rewardPool = 100 ∧
      snapshot.registeredDelegations.map (snapshot.vaultReward 100) = [30, 60] ∧
      (OperatorVaultRewardRouter.routeOperatorRewards splMath snapshot).run r = .ok () r₁ ∧
      VaultSplit snapshot r final ∧
      ([30, 40].forM (OperatorVaultRewardRouter.routeRewardPool splMath snapshot)).run r₁ = .ok () final := by
  let create := Epoch.processInitializeOperatorSnapshot ⟨1, 0⟩ 0 ⟨7, 0, 1000, 0, true⟩
  let register (v : VaultDelegation) := Epoch.processSnapshotVaultOperatorDelegation splMath ⟨1, 0⟩ 7 v
  let a₁ := commit create (Epoch.small 1)
  let a₂ := commit (register (.small false 1)) a₁
  let a₃ := commit (register (.small true 2)) a₂
  have c₁ : create.run (Epoch.small 1) = .ok () a₁ := Succeeds.run_eq (by decide +kernel)
  have c₂ : (register (.small false 1)).run a₁ = .ok () a₂ := Succeeds.run_eq (by decide +kernel)
  have c₃ : (register (.small true 2)).run a₂ = .ok () a₃ := Succeeds.run_eq (by decide +kernel)
  have hshares : (a₃.operatorSnapshot 7).map (fun s => s.registeredDelegations.map (s.vaultReward 100)) =
    some [30, 60] := by decide +kernel
  have hvaults : (a₃.operatorSnapshot 7).map (fun s => s.registeredDelegations.map (·.vault)) =
    some [11, 12] := by decide +kernel
  let r₀ := OperatorVaultRewardRouter.new 7 0 1 0 0 1
  let r := commit (OperatorVaultRewardRouter.routeIncomingRewards 5 105) r₀
  have hin : (OperatorVaultRewardRouter.routeIncomingRewards 5 105).run r₀ = .ok () r :=
    Succeeds.run_eq (by decide +kernel)
  have hpool : r.rewardPool = 100 := by decide +kernel
  have hidle : r.stillRouting = false := by decide +kernel
  clear_value a₁ a₂ a₃ r
  obtain ⟨snapshot, hs, hreach, hfee⟩ :=
    ((OperatorSnapshot.At.create (by decide) c₁).register c₂).register c₃
  rw [hs, Option.map_some] at hshares hvaults
  have hstep : OperatorVaultRewardRouter.Step splMath snapshot r₀ r :=
    .routeIncomingRewards 5 105 (by decide) hin
  obtain ⟨r₁, final, hrun, hsplit, _, hcalls, _⟩ := vault_chunks_make_one_split splMath_documented hreach hfee
    (Option.some.inj hvaults ▸ (by decide)) ⟨7, 0, 1, 0, 0, 1, .single hstep⟩ hidle
  obtain ⟨r', hrun', hiff, hend⟩ := hcalls [30, 40] (by decide)
  refine ⟨snapshot, r, r₁, final, hpool, Option.some.inj hshares, hrun, hsplit, ?_⟩
  rw [hrun', hend (hiff.2 (.inr (by decide)))]

end NcnProgram
