import NcnProgram.Core.OperatorVaultRewardRouter
import NcnProgram.Snapshot.Delegations

/-!
# The books of an operator's reward router

The counterpart of the NCN router's books, with two differences. The chunked phase takes the shares out of
the pool itself, so a half-finished round is covered by what is left in the pool. And the snapshot that the
shares are computed from may still be growing between two chunks, so what a round relies on is stated for
the delegations the snapshot holds at the time (`Delegations`), with what is needed to carry it over a
registration: as long as the slots still to come hold all of the stake, nothing has left the pool.
-/

namespace NcnProgram
open Lib NCNProgramError

/-- The stake of a list of delegations. -/
def stakeOf (ds : List VaultOperatorStakeWeight) : ℕ := (ds.map (·.stakeWeight.stakeWeight)).sum

/-- What is owed to a list of delegations, out of `R`. -/
def vaultsOwed (S R : ℕ) (ds : List VaultOperatorStakeWeight) : ℕ :=
  (ds.map fun d => share R S d.stakeWeight.stakeWeight).sum

lemma vaultsOwed_eq (S R : ℕ) (ds : List VaultOperatorStakeWeight) :
    vaultsOwed S R ds = ((ds.map (·.stakeWeight.stakeWeight)).map (share R S)).sum := by
  rw [List.map_map]
  rfl

/-- The shares of delegations within the total are covered by the amount. -/
lemma vaultsOwed_le {S R : ℕ} {ds : List VaultOperatorStakeWeight} (h : stakeOf ds ≤ S) :
    vaultsOwed S R ds ≤ R := by
  rw [vaultsOwed_eq]
  exact sum_share_le h

/-- What the router relies on about the slots of a snapshot with the stake `S`: those with stake are by real
vaults among `ps`. -/
structure Delegations (ds : List VaultOperatorStakeWeight) (S : ℕ) (ps : List Pubkey) : Prop where
  vault : ∀ d ∈ ds, d.stakeWeight.stakeWeight ≠ 0 → d.vault ∈ ps ∧ d.vault ≠ .default
  length : ds.length = maxVaults
  room : ps.length ≤ maxVaults
  stake : stakeOf ds = S
  lt : S < 2 ^ 128

/-- The slots of a snapshot are delegations to the vaults that were registered. -/
lemma Registered.delegations {s : OperatorSnapshot} {ds : List VaultOperatorStakeWeight}
    (h : Registered s ds) :
    Delegations s.vaultOperatorStakeWeight.toList s.stakeWeights.stakeWeight (ds.map (·.vault)) where
  vault := by
    intro d hd hne
    rw [h.holds, List.mem_append] at hd
    rcases hd with hd | hd
    · exact ⟨List.mem_map_of_mem hd, h.vault_ne d hd⟩
    · rw [List.eq_of_mem_replicate hd] at hne
      exact absurd rfl hne
  length := s.vaultOperatorStakeWeight.length_eq
  room := by rw [List.length_map]; exact h.holds.length_le
  stake := by
    rw [stakeOf, h.holds, h.stake, List.map_append, List.sum_append, List.map_replicate]
    simp [VaultOperatorStakeWeight.default, StakeWeights.default]
  lt := s.stakeWeights.lt

/-- The conservation law of the router with the routes `rs`, all of them to vaults among `ps`. -/
structure VaultBooks (ps : List Pubkey) (r : OperatorVaultRewardRouter) (rs : List RewardRoute) :
    Prop where
  routes : RoutesTo r.vaultRewardRoutes rs
  payees : rs.map (·.payee) ⊆ ps
  processed : r.rewardsProcessed = r.operatorRewards + (rs.map (·.rewards)).sum
  fits : r.rewardPool + r.rewardsProcessed < 2 ^ 64

/-- The pool covers what is owed to the slots still to come, out of `R`; and it is still all of `R` if these
hold all of the stake. -/
def PoolCovers (S R : ℕ) (todo : List VaultOperatorStakeWeight) (r : OperatorVaultRewardRouter) : Prop :=
  vaultsOwed S R todo ≤ r.rewardPool ∧ (stakeOf todo = S → R ≤ r.rewardPool)

/-- A router that is still routing has covered what it still has to route. -/
def VaultResumable (ds : List VaultOperatorStakeWeight) (S : ℕ) (r : OperatorVaultRewardRouter) : Prop :=
  r.stillRouting = true → r.lastRewardsToProcess < 2 ^ 64 ∧ 0 < r.lastRewardsToProcess ∧
    r.lastVaultOperatorDelegationIndex < maxVaults ∧
    PoolCovers S r.lastRewardsToProcess (ds.drop r.lastVaultOperatorDelegationIndex) r

/-- Rewards move from the pool to the processed ones, and nowhere else. -/
structure Moves (r r' : OperatorVaultRewardRouter) : Prop where
  totalRewards : r'.totalRewards = r.totalRewards
  le : r'.rewardPool ≤ r.rewardPool
  sum : r'.rewardPool + r'.rewardsProcessed = r.rewardPool + r.rewardsProcessed

lemma Moves.refl (r : OperatorVaultRewardRouter) : Moves r r := ⟨rfl, Nat.le_refl _, rfl⟩

lemma Moves.trans {r₁ r₂ r₃ : OperatorVaultRewardRouter} (h : Moves r₁ r₂) (h' : Moves r₂ r₃) :
    Moves r₁ r₃ :=
  ⟨h'.1.trans h.1, h'.2.trans h.2, h'.3.trans h.3⟩

namespace VaultBooks
variable {ps : List Pubkey} {r : OperatorVaultRewardRouter} {rs : List RewardRoute} {math : PreciseMath}
  {ds : List VaultOperatorStakeWeight} {S R : ℕ}

/-- A new router has nothing on its books. -/
lemma new (ps : List Pubkey) (operator : Pubkey) (index : ℕ) (ncn : Pubkey) (epoch : ℕ) (bump : UInt8)
    (slot : ℕ) : VaultBooks ps (.new operator index ncn epoch bump slot) [] where
  routes := RoutesTo.new
  payees := by simp
  processed := rfl
  fits := Nat.two_pow_pos 64

/-- What the receiver holds beyond rent and known rewards goes to the pool. -/
lemma routeIncomingRewards_run (h : VaultBooks ps r rs) {rent balance : ℕ}
    (hsolvent : rent + r.rewardPool + r.rewardsProcessed ≤ balance) (hbalance : balance < 2 ^ 64)
    (htotal : r.totalRewards + (balance - (r.rewardPool + r.rewardsProcessed) - rent) < 2 ^ 64) :
    (OperatorVaultRewardRouter.routeIncomingRewards rent balance).run r = .ok ()
      { r with
        totalRewards := r.totalRewards + (balance - (r.rewardPool + r.rewardsProcessed) - rent)
        rewardPool := r.rewardPool + (balance - (r.rewardPool + r.rewardsProcessed) - rent) } := by
  have h₁ : r.totalRewardsInTransit = .ok (r.rewardPool + r.rewardsProcessed) := by
    simp only [OperatorVaultRewardRouter.totalRewardsInTransit, checkedAdd_of_lt h.fits]
    rfl
  have h₂ : checkedSub balance (r.rewardPool + r.rewardsProcessed) =
      some (balance - (r.rewardPool + r.rewardsProcessed)) := checkedSub_of_le (by omega)
  have h₃ : checkedSub (balance - (r.rewardPool + r.rewardsProcessed)) rent =
      some (balance - (r.rewardPool + r.rewardsProcessed) - rent) := checkedSub_of_le (by omega)
  simp only [OperatorVaultRewardRouter.routeIncomingRewards, EStateM.run_bind, EStateM.run_get, h₁,
    ofExcept_ok, EStateM.run_pure, h₂, okOr_some, h₃]
  exact OperatorVaultRewardRouter.routeToRewardPool_run htotal (by omega)

/-- A part of the pool goes to the operator. -/
lemma toOperator_run (h : VaultBooks ps r rs) {rewards : ℕ} (hle : rewards ≤ r.rewardPool) :
    (do
        OperatorVaultRewardRouter.routeFromRewardPool rewards
        OperatorVaultRewardRouter.routeToOperatorRewards rewards :
          Mut OperatorVaultRewardRouter Unit).run r = .ok () { r with
      rewardPool := r.rewardPool - rewards
      rewardsProcessed := r.rewardsProcessed + rewards
      operatorRewards := r.operatorRewards + rewards } := by
  have hproc := h.processed
  have hfits := h.fits
  rw [EStateM.run_bind, OperatorVaultRewardRouter.routeFromRewardPool_run hle (by omega)]
  exact OperatorVaultRewardRouter.routeToOperatorRewards_run (by simp only; omega)

/-- It keeps the books. -/
lemma toOperator_spec (h : VaultBooks ps r rs) {rewards : ℕ} (hle : rewards ≤ r.rewardPool) :
    ∃ r', (do
        OperatorVaultRewardRouter.routeFromRewardPool rewards
        OperatorVaultRewardRouter.routeToOperatorRewards rewards :
          Mut OperatorVaultRewardRouter Unit).run r = .ok () r' ∧
      VaultBooks ps r' rs ∧ Moves r r' ∧ r'.stillRouting = r.stillRouting := by
  have hproc := h.processed
  have hfits := h.fits
  refine ⟨_, h.toOperator_run hle, ?_, ?_, rfl⟩
  · exact ⟨h.routes, h.payees, by simp only; omega, by simp only; omega⟩
  · exact ⟨rfl, by simp only; omega, by simp only; omega⟩

/-- The operator's fee of the pool, rounded down. -/
lemma routeOperatorRewards_run (h : VaultBooks ps r rs) (hm : math.Documented) {snapshot : OperatorSnapshot}
    (hfee : snapshot.operatorFeeBps ≤ 10000) :
    (OperatorVaultRewardRouter.routeOperatorRewards math snapshot).run r = .ok () { r with
      rewardPool := r.rewardPool - share r.rewardPool 10000 snapshot.operatorFeeBps
      rewardsProcessed := r.rewardsProcessed + share r.rewardPool 10000 snapshot.operatorFeeBps
      operatorRewards := r.operatorRewards + share r.rewardPool 10000 snapshot.operatorFeeBps } := by
  have hfits := h.fits
  have hcalc := OperatorVaultRewardRouter.calculateOperatorReward_eq hm hfee
    (show r.rewardPool < 2 ^ 64 by omega)
  have hrun := h.toOperator_run (share_le (r := r.rewardPool) hfee)
  simp only [OperatorVaultRewardRouter.routeOperatorRewards, EStateM.run_bind, EStateM.run_get, hcalc,
    ofExcept_ok, EStateM.run_pure] at hrun ⊢
  exact hrun

/-- The operator's fee is within the pool. -/
lemma routeOperatorRewards_spec (h : VaultBooks ps r rs) (hm : math.Documented) {snapshot : OperatorSnapshot}
    (hfee : snapshot.operatorFeeBps ≤ 10000) :
    ∃ r', (OperatorVaultRewardRouter.routeOperatorRewards math snapshot).run r = .ok () r' ∧
      VaultBooks ps r' rs ∧ Moves r r' ∧ r'.stillRouting = r.stillRouting := by
  obtain ⟨r', hrun, hr'⟩ := h.toOperator_spec (share_le (r := r.rewardPool) hfee)
  rw [h.toOperator_run (share_le hfee)] at hrun
  cases hrun
  exact ⟨_, h.routeOperatorRewards_run hm hfee, hr'⟩

/-- Adding to a vault's route keeps the table in order. -/
lemma routeToVaultRewardRoute_spec (hroutes : RoutesTo r.vaultRewardRoutes rs)
    (hpayees : rs.map (·.payee) ⊆ ps) {vault : Pubkey} (rewards : ℕ)
    (hvault : rewards ≠ 0 → vault ∈ ps ∧ vault ≠ .default) (hroom : ps.length ≤ maxVaults)
    (hsum : (rs.map (·.rewards)).sum + rewards < 2 ^ 64) :
    ∃ t rs', (OperatorVaultRewardRouter.routeToVaultRewardRoute vault rewards).run r =
        .ok () { r with vaultRewardRoutes := t } ∧ RoutesTo t rs' ∧
      rs'.map (·.payee) ⊆ ps ∧ (rs'.map (·.rewards)).sum = (rs.map (·.rewards)).sum + rewards := by
  unfold OperatorVaultRewardRouter.routeToVaultRewardRoute
  split
  · rename_i h0
    exact ⟨r.vaultRewardRoutes, rs, rfl, hroutes, hpayees, by rw [h0, Nat.add_zero]⟩
  · rename_i h0
    obtain ⟨hmem, hne⟩ := hvault h0
    obtain ⟨t, rs', hrun, ht, hadds⟩ :=
      hroutes.add_run addsToRoute_routeInTwoPasses hne (hroutes.room hpayees hmem hroom) hsum
    refine ⟨t, rs', ?_, ht, ?_, hadds.sum_eq⟩
    · rw [OperatorVaultRewardRouter.onRoutes, run_zoom, hrun]
    · intro q hq
      rcases hadds.payees q hq with hq | rfl
      · exact hpayees hq
      · exact hmem

/-- One slot: its share moves from the pool to the vault's route. -/
lemma routeVault_spec (h : VaultBooks ps r rs) (hm : math.Documented) (hd : Delegations ds S ps)
    (hR : R < 2 ^ 64) {d : VaultOperatorStakeWeight} (hmem : d ∈ ds)
    (hcov : share R S d.stakeWeight.stakeWeight ≤ r.rewardPool) :
    ∃ r' rs', (OperatorVaultRewardRouter.routeVault math S R d).run r = .ok () r' ∧
      VaultBooks ps r' rs' ∧ Moves r r' ∧
      r'.rewardPool = r.rewardPool - share R S d.stakeWeight.stakeWeight := by
  have hle : d.stakeWeight.stakeWeight ≤ S := by
    rw [← hd.stake]
    exact List.le_sum_of_mem (List.mem_map_of_mem hmem)
  have hcalc := OperatorVaultRewardRouter.calculateVaultReward_eq hm hle hd.lt hR
  have hproc := h.processed
  have hfits := h.fits
  have hvault : share R S d.stakeWeight.stakeWeight ≠ 0 → d.vault ∈ ps ∧ d.vault ≠ .default := by
    intro hne
    apply hd.vault d hmem
    intro h0
    rw [h0, share_zero_weight] at hne
    exact hne rfl
  generalize share R S d.stakeWeight.stakeWeight = x at hcov hcalc hvault ⊢
  obtain ⟨t, rs', hrun, ht, hpayees, hsum⟩ := routeToVaultRewardRoute_spec
    (r := { r with
      rewardPool := r.rewardPool - x
      rewardsProcessed := r.rewardsProcessed + x }) h.routes h.payees x hvault hd.room (by omega)
  refine ⟨{ r with
    rewardPool := r.rewardPool - x
    rewardsProcessed := r.rewardsProcessed + x
    vaultRewardRoutes := t }, rs', ?_, ?_, ?_, rfl⟩
  · simp only [OperatorVaultRewardRouter.routeVault, EStateM.run_bind, hcalc, ofExcept_ok,
      EStateM.run_pure,
      OperatorVaultRewardRouter.routeFromRewardPool_run hcov (show _ < 2 ^ 64 by omega), hrun]
  · exact ⟨ht, hpayees, by simp only [hsum]; omega, by simp only; omega⟩
  · exact ⟨rfl, by simp only; omega, by simp only; omega⟩

/-- What the chunked loop keeps, for the slots still to come. -/
def Covers (ps : List Pubkey) (ds : List VaultOperatorStakeWeight) (S R : ℕ)
    (r₀ : OperatorVaultRewardRouter) (todo : List VaultOperatorStakeWeight)
    (r : OperatorVaultRewardRouter) : Prop :=
  todo ⊆ ds ∧ stakeOf todo ≤ S ∧ Moves r₀ r ∧ PoolCovers S R todo r ∧ ∃ rs, VaultBooks ps r rs

/-- The loop goes to the end, or to a later checkpoint from which the rest is covered. -/
lemma routeVaults_spec (hm : math.Documented) (hd : Delegations ds S ps) (hR : R < 2 ^ 64)
    {r₀ : OperatorVaultRewardRouter} {limit start : ℕ} (hstart : start < maxVaults) (hlimit : 0 < limit)
    (h : Covers ps ds S R r₀ (ds.drop start) r) :
    ∃ finished r', (chunked (fun _ => true) (OperatorVaultRewardRouter.routeVault math S R)
        (OperatorVaultRewardRouter.saveRoutingState R) (arithmeticOverflow : ProgramError) limit 0 start
        (ds.drop start)).run r = .ok finished r' ∧
      (finished = true → Covers ps ds S R r₀ [] r') ∧
      (finished = false → ∃ k r₁, start < k ∧ k < maxVaults ∧ Covers ps ds S R r₀ (ds.drop k) r₁ ∧
        r' = { r₁ with lastRewardsToProcess := R, lastVaultOperatorDelegationIndex := k }) := by
  have hlen : (ds.drop start).length = 64 - start := by rw [List.length_drop, hd.length]
  have hstart' : start < 64 := hstart
  have hbody : ∀ d todo s, (fun _ : VaultOperatorStakeWeight => true) d = true →
      Covers ps ds S R r₀ (d :: todo) s →
      ∃ s', (OperatorVaultRewardRouter.routeVault math S R d).run s = .ok () s' ∧
        Covers ps ds S R r₀ todo s' := by
    rintro d todo s - ⟨hsub, hle, hmoves, ⟨hcov, hfull⟩, rs, hbooks⟩
    obtain ⟨hdm, hsub'⟩ := List.cons_subset.1 hsub
    simp only [vaultsOwed, stakeOf, List.map_cons, List.sum_cons] at hcov hle hfull
    obtain ⟨s', rs', hrun, hbooks', hmoves', hpool⟩ := hbooks.routeVault_spec hm hd hR hdm (by omega)
    refine ⟨s', hrun, hsub', by rw [stakeOf]; omega, hmoves.trans hmoves', ⟨?_, ?_⟩, rs', hbooks'⟩
    · rw [hpool, vaultsOwed]
      omega
    · -- if the slots after this one hold all of the stake, this one has none and no share
      intro hall
      rw [stakeOf] at hall
      have h0 : d.stakeWeight.stakeWeight = 0 := by omega
      rw [hpool, h0, share_zero_weight, Nat.sub_zero]
      exact hfull (by omega)
  obtain ⟨r', ⟨hrun, hI, _⟩ | ⟨k, r₁, hrun, hk, hI, hsave, hpos, _⟩⟩ := chunked_rule
    (OperatorVaultRewardRouter.saveRoutingState R) (arithmeticOverflow : ProgramError) limit
    (n := 0) (i := start) hbody (fun _ _ _ hf => by cases hf) h (by rw [hlen]; omega) (Nat.zero_le _)
  · exact ⟨true, r', hrun, fun _ => hI, nofun⟩
  · have hk' : start + k < 64 := by omega
    have := hpos hlimit
    refine ⟨false, r', hrun, nofun, fun _ => ⟨start + k, r₁, by omega, hk', ?_, ?_⟩⟩
    · rwa [List.drop_drop] at hI
    · rw [hsave, OperatorVaultRewardRouter.saveRoutingState, Nat.mod_eq_of_lt (by omega)]

/-- The end of a round: the operator gets what rounding left. -/
lemma finish_spec (h : VaultBooks ps r rs) :
    ∃ r', (do
        modify OperatorVaultRewardRouter.resetRoutingState
        let leftoverRewards := (← get).rewardPool
        OperatorVaultRewardRouter.routeFromRewardPool leftoverRewards
        OperatorVaultRewardRouter.routeToOperatorRewards leftoverRewards :
          Mut OperatorVaultRewardRouter Unit).run r = .ok () r' ∧
      VaultBooks ps r' rs ∧ Moves r r' ∧ r'.stillRouting = false := by
  have h' : VaultBooks ps r.resetRoutingState rs := ⟨h.routes, h.payees, h.processed, h.fits⟩
  obtain ⟨r', hrun, hbooks, hmoves, hstill⟩ := h'.toOperator_spec (Nat.le_refl r.rewardPool)
  refine ⟨r', hrun, hbooks, ⟨hmoves.1, hmoves.2, hmoves.3⟩, hstill.trans ?_⟩
  simp [OperatorVaultRewardRouter.stillRouting, OperatorVaultRewardRouter.resetRoutingState]

/-- From a checkpoint or from the start, routing to the vaults succeeds and can be resumed, and a checkpoint
is followed by a later one. -/
lemma routeRewardPool_spec {snapshot : OperatorSnapshot} (maxIterations : ℕ) (h : VaultBooks ps r rs)
    (hm : math.Documented)
    (hd : Delegations snapshot.vaultOperatorStakeWeight.toList snapshot.stakeWeights.stakeWeight ps)
    (hres : VaultResumable snapshot.vaultOperatorStakeWeight.toList snapshot.stakeWeights.stakeWeight r) :
    ∃ r' rs', (OperatorVaultRewardRouter.routeRewardPool math snapshot maxIterations).run r = .ok () r' ∧
      VaultBooks ps r' rs' ∧
      VaultResumable snapshot.vaultOperatorStakeWeight.toList snapshot.stakeWeights.stakeWeight r' ∧
      Moves r r' ∧ (r.stillRouting = true → r'.stillRouting = true →
        r.lastVaultOperatorDelegationIndex < r'.lastVaultOperatorDelegationIndex) := by
  -- the amount to split and the index to start from, resumed or fresh
  obtain ⟨R, start, hR, hstart, hstate, hcov, hidx⟩ : ∃ R start, R < 2 ^ 64 ∧ start < maxVaults ∧
      r.resumeRoutingState r.rewardPool = (R, start) ∧
      PoolCovers snapshot.stakeWeights.stakeWeight R
        (snapshot.vaultOperatorStakeWeight.toList.drop start) r ∧
      (r.stillRouting = true → r.lastVaultOperatorDelegationIndex = start) := by
    have hfits := h.fits
    cases hs : r.stillRouting with
    | false =>
      refine ⟨r.rewardPool, 0, by omega, by decide, ?_, ⟨?_, fun _ => Nat.le_refl _⟩, nofun⟩
      · simp [OperatorVaultRewardRouter.resumeRoutingState, hs]
      · rw [List.drop_zero]
        exact vaultsOwed_le hd.stake.le
    | true =>
      obtain ⟨hR, _, hlt, hcov⟩ := hres hs
      refine ⟨r.lastRewardsToProcess, r.lastVaultOperatorDelegationIndex, hR, hlt, ?_, hcov, fun _ => rfl⟩
      simp [OperatorVaultRewardRouter.resumeRoutingState, hs]
  simp only [OperatorVaultRewardRouter.routeRewardPool, EStateM.run_bind, EStateM.run_get, hstate]
  split
  · rename_i h0
    refine ⟨r, rs, rfl, h, hres, Moves.refl r, ?_⟩
    -- a router that is still routing has something to route
    intro hs
    obtain ⟨_, hpos, _⟩ := hres hs
    simp only [OperatorVaultRewardRouter.resumeRoutingState, hs, if_true, Prod.mk.injEq] at hstate
    omega
  · rename_i hpos
    have hdrop : stakeOf (snapshot.vaultOperatorStakeWeight.toList.drop start) ≤
        snapshot.stakeWeights.stakeWeight := by
      rw [← hd.stake]
      exact ((List.drop_sublist _ _).map _).sum_le_sum (fun _ _ => Nat.zero_le _)
    obtain ⟨finished, r₁, hrun, htrue, hfalse⟩ := routeVaults_spec hm hd hR hstart
      (show 0 < max maxIterations 1 by omega)
      ⟨List.drop_subset _ _, hdrop, Moves.refl r, hcov, rs, h⟩
    rw [EStateM.run_bind, hrun]
    cases finished with
    | true =>
      obtain ⟨_, _, hmoves, _, rs₁, hbooks⟩ := htrue rfl
      obtain ⟨r', hfin, hbooks', hmoves', hs'⟩ := hbooks.finish_spec
      refine ⟨r', rs₁, hfin, hbooks', ?_, hmoves.trans hmoves', ?_⟩
      · intro hs
        rw [hs'] at hs
        cases hs
      · intro _ hs
        rw [hs'] at hs
        cases hs
    | false =>
      obtain ⟨k, r₂, hlt, hk, ⟨_, _, hmoves, hcov', rs₁, hbooks⟩, rfl⟩ := hfalse rfl
      refine ⟨_, rs₁, rfl, ⟨hbooks.routes, hbooks.payees, hbooks.processed, hbooks.fits⟩, ?_,
        ⟨hmoves.1, hmoves.2, hmoves.3⟩, fun hs _ => by rw [hidx hs]; exact hlt⟩
      exact fun _ => ⟨hR, Nat.pos_of_ne_zero hpos, hk, hcov'⟩

/-- A payout of `rewards`: they leave the processed rewards, and routing goes on where it was. -/
structure PaysOut (rewards : ℕ) (r r' : OperatorVaultRewardRouter) : Prop where
  totalRewards : r'.totalRewards = r.totalRewards
  rewardPool : r'.rewardPool = r.rewardPool
  le : rewards ≤ r.rewardsProcessed
  rewardsProcessed : r'.rewardsProcessed = r.rewardsProcessed - rewards
  resumable : ∀ ds S, VaultResumable ds S r → VaultResumable ds S r'

/-- The operator's rewards can be paid out. -/
lemma distributeOperatorRewards_spec (h : VaultBooks ps r rs) :
    ∃ rewards r', OperatorVaultRewardRouter.distributeOperatorRewards.run r = .ok rewards r' ∧
      VaultBooks ps r' rs ∧ PaysOut rewards r r' := by
  have hproc := h.processed
  have hfits := h.fits
  have hle : r.operatorRewards ≤ r.rewardsProcessed := by omega
  refine ⟨r.operatorRewards, { r with
    operatorRewards := 0, rewardsProcessed := r.rewardsProcessed - r.operatorRewards }, ?_, ?_, ?_⟩
  · simp only [OperatorVaultRewardRouter.distributeOperatorRewards, EStateM.run_bind, EStateM.run_get,
      EStateM.run_modify]
    rw [OperatorVaultRewardRouter.decrementRewardsProcessed_run (by exact hle)]
    rfl
  · exact ⟨h.routes, h.payees, by simp only; omega, by simp only; omega⟩
  · exact ⟨rfl, rfl, hle, rfl, fun _ _ hres => hres⟩

/-- The rewards of a vault that has a route can be paid out. -/
lemma distributeVaultRewardRoute_spec (h : VaultBooks ps r rs) {vault : Pubkey}
    (hroute : r.vaultRewardRoutes.any (·.payee == vault) = true) :
    ∃ rewards r' rs', (OperatorVaultRewardRouter.distributeVaultRewardRoute vault).run r = .ok rewards r' ∧
      VaultBooks ps r' rs' ∧ PaysOut rewards r r' := by
  have hproc := h.processed
  have hfits := h.fits
  obtain ⟨rewards, t', hrun⟩ := RoutesTo.emptyRoute_succeeds arithmeticUnderflowError hroute
  obtain ⟨rs', hroutes', hpayees', hsum⟩ := h.routes.emptyRoute hrun
  have hle : rewards ≤ r.rewardsProcessed := by omega
  refine ⟨rewards, { r with
    vaultRewardRoutes := t', rewardsProcessed := r.rewardsProcessed - rewards }, rs', ?_, ?_, ?_⟩
  · simp only [OperatorVaultRewardRouter.distributeVaultRewardRoute, OperatorVaultRewardRouter.onRoutes,
      EStateM.run_bind, run_zoom, hrun]
    rw [OperatorVaultRewardRouter.decrementRewardsProcessed_run (by exact hle)]
    rfl
  · exact ⟨hroutes', hpayees' ▸ h.payees, by simp only; omega, by simp only; omega⟩
  · exact ⟨rfl, rfl, hle, rfl, fun _ _ hres => hres⟩

end VaultBooks

/-- A checkpoint at a slot whose share is more than the pool is never passed. -/
lemma VaultResumable.stuck {math : PreciseMath} (hm : math.Documented) {snapshot : OperatorSnapshot}
    {r : OperatorVaultRewardRouter} {d : VaultOperatorStakeWeight} (hs : r.stillRouting = true)
    (hR : r.lastRewardsToProcess < 2 ^ 64)
    (hd : snapshot.vaultOperatorStakeWeight.toList[r.lastVaultOperatorDelegationIndex]? = some d)
    (hle : d.stakeWeight.stakeWeight ≤ snapshot.stakeWeights.stakeWeight)
    (hshare : r.rewardPool <
      share r.lastRewardsToProcess snapshot.stakeWeights.stakeWeight d.stakeWeight.stakeWeight)
    (maxIterations : ℕ) :
    FailsWith (OperatorVaultRewardRouter.routeRewardPool math snapshot maxIterations) r
      (arithmeticUnderflowError : ProgramError) := by
  have hcalc := OperatorVaultRewardRouter.calculateVaultReward_eq hm hle snapshot.stakeWeights.lt hR
  have hbody : FailsWith (OperatorVaultRewardRouter.routeVault math snapshot.stakeWeights.stakeWeight
      r.lastRewardsToProcess d) r (arithmeticUnderflowError : ProgramError) := by
    rw [OperatorVaultRewardRouter.routeVault, hcalc]
    exact ((debit_fails hshare).bind _).bind _
  have hpos : r.lastRewardsToProcess ≠ 0 := by
    intro h0
    rw [h0, share_zero_amount] at hshare
    exact Nat.not_lt_zero _ hshare
  obtain ⟨hlt, rfl⟩ := List.getElem?_eq_some_iff.1 hd
  obtain ⟨r', hchunk⟩ : FailsWith (chunked (fun _ => true)
      (OperatorVaultRewardRouter.routeVault math snapshot.stakeWeights.stakeWeight r.lastRewardsToProcess)
      (OperatorVaultRewardRouter.saveRoutingState r.lastRewardsToProcess)
      (arithmeticOverflow : ProgramError) (max maxIterations 1) 0 r.lastVaultOperatorDelegationIndex
      (_ :: snapshot.vaultOperatorStakeWeight.toList.drop (r.lastVaultOperatorDelegationIndex + 1))) r
      (arithmeticUnderflowError : ProgramError) :=
    chunked_fails _ _ rfl (by omega) (by decide) hbody
  rw [← List.drop_eq_getElem_cons hlt] at hchunk
  refine ⟨r', ?_⟩
  simp only [OperatorVaultRewardRouter.routeRewardPool, EStateM.run_bind, EStateM.run_get,
    OperatorVaultRewardRouter.resumeRoutingState, hs, if_true, if_neg hpos]
  rw [hchunk]

/-- A registration of the stake `sw` that the router can bear: there is no round to finish, or the stake is
none, or its slot has been passed, or every slot with stake is still to come. -/
def Bearable (s : OperatorSnapshot) (sw : StakeWeights) (r : OperatorVaultRewardRouter) : Prop :=
  r.stillRouting = false ∨ sw.stakeWeight = 0 ∨
    s.vaultOperatorDelegationsRegistered < r.lastVaultOperatorDelegationIndex ∨
    stakeOf (s.vaultOperatorStakeWeight.toList.drop r.lastVaultOperatorDelegationIndex) =
      s.stakeWeights.stakeWeight

/-- A bearable registration leaves a half-finished round covered. -/
lemma VaultResumable.register {s s' : OperatorSnapshot} {ds : List VaultOperatorStakeWeight}
    {r : OperatorVaultRewardRouter} {slot : ℕ} {vault : Pubkey} {vaultIndex : ℕ} {sw : StakeWeights}
    (hres : VaultResumable s.vaultOperatorStakeWeight.toList s.stakeWeights.stakeWeight r)
    (hreg : Registered s ds) (hne : vault ≠ .default)
    (hrun : (OperatorSnapshot.incrementVaultOperatorDelegationRegistration slot vault vaultIndex sw).run s =
      .ok () s') (hbear : Bearable s sw r) :
    VaultResumable s'.vaultOperatorStakeWeight.toList s'.stakeWeights.stakeWeight r := by
  intro hs
  obtain ⟨hR, hpos, hlt, hcov, hfull⟩ := hres hs
  refine ⟨hR, hpos, hlt, ?_⟩
  have hd := hreg.delegations
  have hd' := (hreg.register hne hrun).delegations
  obtain ⟨_, hroom, _, w, v, f, hw, _, rfl⟩ :=
    OperatorSnapshot.incrementVaultOperatorDelegationRegistration_run_ok hrun
  have hdrop' := ((List.drop_sublist r.lastVaultOperatorDelegationIndex
    (s.vaultOperatorStakeWeight.set s.vaultOperatorDelegationsRegistered
      ⟨vault, vaultIndex, sw⟩).toList).map (·.stakeWeight.stakeWeight)).sum_le_sum
    (fun _ _ => Nat.zero_le _)
  have hdrop := ((List.drop_sublist r.lastVaultOperatorDelegationIndex
    s.vaultOperatorStakeWeight.toList).map (·.stakeWeight.stakeWeight)).sum_le_sum
    (fun _ _ => Nat.zero_le _)
  have hstake := hd.stake
  have hstake' := hd'.stake
  simp only [stakeOf] at hdrop hdrop' hstake hstake' hfull
  simp only [PoolCovers, stakeOf]
  rcases hbear with h | h0 | hpast | hall
  · rw [hs] at h
    cases h
  · -- no stake: the amounts in the slots are the same
    have hslot : s.vaultOperatorStakeWeight.toList[s.vaultOperatorDelegationsRegistered]? =
        some .default := by
      rw [hreg.registered] at hroom ⊢
      exact hreg.holds.get?_ge (Nat.le_refl _) hroom
    have hsame : (s.vaultOperatorStakeWeight.set s.vaultOperatorDelegationsRegistered
        ⟨vault, vaultIndex, sw⟩).toList.map (·.stakeWeight.stakeWeight) =
        s.vaultOperatorStakeWeight.toList.map (·.stakeWeight.stakeWeight) :=
      map_set_of_eq (b := ⟨vault, vaultIndex, sw⟩) hslot h0
    simp only [vaultsOwed_eq, List.map_drop] at hcov hfull ⊢
    rw [hsame, hw, h0, Nat.add_zero]
    exact ⟨hcov, hfull⟩
  · -- the slot has been passed: the others' shares only shrink
    rw [Table.toList_set, List.drop_set_of_lt hpast]
    constructor
    · refine le_trans (List.sum_le_sum fun d hmem => ?_) hcov
      have hle : d.stakeWeight.stakeWeight ≤ s.stakeWeights.stakeWeight := by
        rw [← hstake]
        exact List.le_sum_of_mem (List.mem_map_of_mem (List.mem_of_mem_drop hmem))
      exact share_anti hle (by omega)
    · intro heq
      exact hfull (by omega)
  · -- everything is still to come, and so is all of the amount
    have hpool := hfull hall
    refine ⟨(vaultsOwed_le ?_).trans hpool, fun _ => hpool⟩
    rw [stakeOf, ← hstake']
    exact hdrop'

end NcnProgram
