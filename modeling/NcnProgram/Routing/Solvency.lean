import NcnProgram.Closing.Refinement
import NcnProgram.Lib.Reserve
import NcnProgram.Routing.Dues
import NcnProgram.Routing.NcnOneShot

/-!
# The receivers are solvent

An epoch has a receiver of rewards for the NCN and one for every operator, each with a router that says what the
lamports are for. `Lifecycle.Solvent` says that the receiver of a router that is there holds the rent, what is in the
router's pool and what has been processed, and that this covers all that the router owes. Every instruction keeps it,
whatever the arithmetic does, because a call that fails changes nothing. So a payout is refused only for the reasons
that the program names, and never for want of lamports.
-/

namespace NcnProgram
open Lib NCNProgramError

/-! ## The tables of routes -/

section Tables
variable {n : ℕ} {t t' : Table RewardRoute n} {p : Pubkey} {x : ℕ} {u : Unit}

/-- The rewards in all routes of a table. -/
def inRoutes (t : Table RewardRoute n) : ℕ := (t.toList.map (·.rewards)).sum

lemma inRoutes_set {i : ℕ} {a b : RewardRoute} (ha : t.get? i = some a) :
    inRoutes (t.set i b) + a.rewards = inRoutes t + b.rewards := by
  rw [inRoutes, Table.toList_set]
  exact sum_map_set _ ha

lemma inRoutes_new : inRoutes (.replicate n .default) = 0 := by
  show ((List.replicate n RewardRoute.default).map (·.rewards)).sum = 0
  rw [List.map_replicate, List.sum_replicate]
  rfl

/-- Adding to a route adds no more than that. -/
lemma inRoutes_routeInOnePass (h : (routeInOnePass p x).run t = .ok u t') : inRoutes t' ≤ inRoutes t + x := by
  simp only [routeInOnePass, EStateM.run_bind, EStateM.run_get] at h
  split at h
  · rename_i i hi
    obtain ⟨a, ha, _, _⟩ := exists_of_findIdx? hi
    rw [show t.get? i = some a from ha, Option.getD_some] at h
    split at h
    · rw [onRoute_incrementRewards_run_ok ha h]
      have hset := inRoutes_set (b := { a with rewards := a.rewards + x }) ha
      simp only at hset
      omega
    · cases h
      have hset := inRoutes_set (b := ⟨p, x⟩) ha
      simp only at hset
      omega
  · cases h

lemma inRoutes_routeInTwoPasses (h : (routeInTwoPasses p x).run t = .ok u t') : inRoutes t' ≤ inRoutes t + x := by
  simp only [routeInTwoPasses, EStateM.run_bind, EStateM.run_get] at h
  split at h
  · rename_i i hi
    obtain ⟨a, ha, _, _⟩ := exists_of_findIdx? hi
    rw [onRoute_incrementRewards_run_ok ha h]
    have hset := inRoutes_set (b := { a with rewards := a.rewards + x }) ha
    simp only at hset
    omega
  · split at h
    · rename_i i hi
      obtain ⟨a, ha, _, _⟩ := exists_of_findIdx? hi
      cases h
      have hset := inRoutes_set (b := ⟨p, x⟩) ha
      simp only at hset
      omega
    · cases h

/-- Emptying a route takes out what it returns. -/
lemma inRoutes_emptyRoute {underflow : NCNProgramError} (h : (emptyRoute underflow p).run t = .ok x t') :
    inRoutes t' + x = inRoutes t := by
  simp only [emptyRoute, EStateM.run_bind, EStateM.run_get] at h
  split at h
  · rename_i i hi
    obtain ⟨a, ha, _, _⟩ := exists_of_findIdx? hi
    obtain ⟨_, t₁, hzoom, hret⟩ := run_bind_ok.1 h
    cases hret
    obtain ⟨b, hdec, rfl⟩ := run_zoom_ok.1 hzoom
    rw [show t.get? i = some a from ha, Option.getD_some] at hdec ⊢
    simp only [RewardRoute.decrementRewards, EStateM.run_bind, EStateM.run_get,
      checkedSub_of_le (Nat.le_refl _), Nat.sub_self] at hdec
    cases hdec
    exact inRoutes_set (b := { a with rewards := 0 }) ha
  · cases h

end Tables

/-! ## The NCN reward router -/

namespace NCNRewardRouter
variable {r r' : NCNRewardRouter} {math : PreciseMath} {x : ℕ} {u : Unit}

/-- The router as a reserve: it owes to the protocol, to the NCN, to the operators as a whole and in their routes. -/
def reserve (r : NCNRewardRouter) : Reserve where
  pool := r.rewardPool
  processed := r.rewardsProcessed
  dues := r.protocolRewards + r.ncnRewards + r.operatorVaultRewards + inRoutes r.operatorVaultRewardRoutes

lemma reserve_new (ncn : Pubkey) (epoch : ℕ) (bump : UInt8) (slot : ℕ) :
    (new ncn epoch bump slot).reserve = ⟨0, 0, 0⟩ := by
  simp only [reserve, new, inRoutes_new]

/-- Incoming rewards are absorbed. -/
lemma routeIncomingRewards_absorbs {rent balance : ℕ} (h : (routeIncomingRewards rent balance).run r = .ok u r') :
    r.reserve.Absorbs rent balance r'.reserve := by
  obtain ⟨_, _, hg, h⟩ := run_bind_ok.1 h
  cases hg
  obtain ⟨total, _, hg, h⟩ := run_bind_ok.1 h
  obtain ⟨htotal, rfl⟩ := run_ofExcept_ok.1 hg
  obtain ⟨incoming, _, hg, h⟩ := run_bind_ok.1 h
  obtain ⟨hincoming, rfl⟩ := run_okOr_ok.1 hg
  obtain ⟨toRoute, _, hg, h⟩ := run_bind_ok.1 h
  obtain ⟨htoRoute, rfl⟩ := run_okOr_ok.1 hg
  obtain ⟨_, _, h₁, h₂⟩ := run_bind_ok.1 h
  obtain rfl := credit_run_ok rfl h₁
  obtain rfl := credit_run_ok rfl h₂
  obtain ⟨hle, rfl⟩ := checkedSub_eq_some.1 hincoming
  obtain ⟨hle', rfl⟩ := checkedSub_eq_some.1 htoRoute
  have htotal : total = r.rewardPool + r.rewardsProcessed := by
    rw [totalRewardsInTransit] at htotal
    cases hadd : checkedAdd 64 r.rewardPool r.rewardsProcessed with
    | none => rw [hadd] at htotal; cases htotal
    | some n => rw [hadd] at htotal; cases htotal; exact (checkedAdd_eq_some.1 hadd).2
  refine ⟨?_, rfl, rfl⟩
  simp only [reserve]
  omega

/-- The pool is split. -/
lemma routeRewardPool_movesOn {fee : Fees} (h : (routeRewardPool math fee).run r = .ok u r') :
    r.reserve.MovesOn r'.reserve := by
  obtain ⟨_, _, hg, h⟩ := run_bind_ok.1 h
  cases hg
  obtain ⟨protocolFee, _, hg, h⟩ := run_bind_ok.1 h
  obtain ⟨_, rfl⟩ := run_ofExcept_ok.1 hg
  obtain ⟨_, _, hg, h⟩ := run_bind_ok.1 h
  obtain ⟨_, rfl⟩ := routeFromRewardPool_run_ok hg
  obtain ⟨_, _, hg, h⟩ := run_bind_ok.1 h
  obtain rfl := credit_run_ok rfl hg
  obtain ⟨ncnFee, _, hg, h⟩ := run_bind_ok.1 h
  obtain ⟨_, rfl⟩ := run_ofExcept_ok.1 hg
  obtain ⟨_, _, hg, h⟩ := run_bind_ok.1 h
  obtain ⟨_, rfl⟩ := routeFromRewardPool_run_ok hg
  obtain ⟨_, _, hg, h⟩ := run_bind_ok.1 h
  obtain rfl := credit_run_ok rfl hg
  obtain ⟨_, _, hg, h⟩ := run_bind_ok.1 h
  cases hg
  obtain ⟨_, _, hg, h⟩ := run_bind_ok.1 h
  obtain ⟨_, rfl⟩ := routeFromRewardPool_run_ok hg
  obtain rfl := credit_run_ok rfl h
  constructor <;> simp only [reserve] at * <;> omega

/-- Inside of what has been processed, no due is made. -/
structure Shifts (r r' : NCNRewardRouter) : Prop where
  pool : r'.reserve.pool = r.reserve.pool
  processed : r'.reserve.processed = r.reserve.processed
  dues : r'.reserve.dues ≤ r.reserve.dues

lemma Shifts.refl (r : NCNRewardRouter) : Shifts r r := ⟨rfl, rfl, le_rfl⟩

lemma Shifts.trans {r'' : NCNRewardRouter} (h : Shifts r r') (h' : Shifts r' r'') : Shifts r r'' :=
  ⟨h'.pool.trans h.pool, h'.processed.trans h.processed, h'.dues.trans h.dues⟩

lemma Shifts.movesOn (h : Shifts r r') : r.reserve.MovesOn r'.reserve := by
  refine ⟨by rw [h.pool, h.processed], fun hc => ?_⟩
  rw [h.processed]
  exact h.dues.trans hc

/-- The share of a vote goes to its operator. -/
lemma routeVote_shifts {W R : ℕ} {v : OperatorVote} (h : (routeVote math W R v).run r = .ok u r') :
    Shifts r r' := by
  obtain ⟨reward, _, hg, h⟩ := run_bind_ok.1 h
  obtain ⟨_, rfl⟩ := run_ofExcept_ok.1 hg
  obtain ⟨_, _, hg, h⟩ := run_bind_ok.1 h
  obtain ⟨hle, rfl⟩ := debit_run_ok rfl hg
  unfold routeToOperatorVaultRewardRoute at h
  split at h
  · cases h
    exact ⟨rfl, rfl, by simp only [reserve]; omega⟩
  · obtain ⟨t, ht, rfl⟩ := run_zoom_ok.1 h
    have hle' := inRoutes_routeInOnePass ht
    exact ⟨rfl, rfl, by simp only [reserve] at *; omega⟩

/-- The operators' rewards are routed to them. -/
lemma routeOperatorVaultRewards_movesOn {ballotBox : BallotBox} {maxIterations : ℕ}
    (h : (routeOperatorVaultRewards math ballotBox maxIterations).run r = .ok u r') :
    r.reserve.MovesOn r'.reserve := by
  obtain ⟨winner, _, hg, h⟩ := run_bind_ok.1 h
  obtain ⟨_, rfl⟩ := run_ofExcept_ok.1 hg
  obtain ⟨_, _, hg, h⟩ := run_bind_ok.1 h
  cases hg
  cases hresume : r.resumeRoutingState with | mk startingVoteIndex startingRewardsToProcess => ?_
  simp only [hresume] at h
  generalize (if startingRewardsToProcess > 0 then startingRewardsToProcess else r.operatorVaultRewards) =
    rewardsToProcess at h
  split at h
  · cases h
    exact .refl _
  · obtain ⟨finished, r₁, hloop, h⟩ := run_bind_ok.1 h
    have hsave : ∀ i r₁, Shifts r r₁ → Shifts r (saveRoutingState rewardsToProcess i r₁) := fun i r₁ hI =>
      ⟨hI.pool, hI.processed, hI.dues⟩
    have hshifts : Shifts r r₁ :=
      chunked_keeps (fun v _ _ _ hI hv => hI.trans (routeVote_shifts hv)) hsave (.refl r) hloop
    cases finished with
    | false => cases h; exact hshifts.movesOn
    | true =>
      rw [if_pos rfl] at h
      obtain ⟨_, _, hg, h⟩ := run_bind_ok.1 h
      cases hg
      obtain ⟨_, _, hg, h⟩ := run_bind_ok.1 h
      obtain ⟨hle, rfl⟩ := debit_run_ok rfl hg
      obtain ⟨_, _, hg, h⟩ := run_bind_ok.1 h
      obtain rfl := credit_run_ok rfl hg
      cases h
      refine hshifts.movesOn.trans ⟨rfl, fun hc => ?_⟩
      simp only [reserve, resetRoutingState] at *
      omega

/-- The NCN's fee is paid. -/
lemma distributeNcnFeeRewards_pays (h : distributeNcnFeeRewards.run r = .ok x r') :
    r.reserve.Pays x r'.reserve := by
  obtain ⟨_, _, hg, h⟩ := run_bind_ok.1 h
  cases hg
  obtain ⟨_, _, hg, h⟩ := run_bind_ok.1 h
  cases hg
  obtain ⟨_, _, hg, h⟩ := run_bind_ok.1 h
  obtain ⟨hle, rfl⟩ := debit_run_ok rfl hg
  cases h
  refine ⟨rfl, ?_, ?_⟩ <;> simp only [reserve] at * <;> omega

/-- The protocol's fee is paid. -/
lemma distributeProtocolFeeRewards_pays (h : distributeProtocolFeeRewards.run r = .ok x r') :
    r.reserve.Pays x r'.reserve := by
  obtain ⟨_, _, hg, h⟩ := run_bind_ok.1 h
  cases hg
  obtain ⟨_, _, hg, h⟩ := run_bind_ok.1 h
  cases hg
  obtain ⟨_, _, hg, h⟩ := run_bind_ok.1 h
  obtain ⟨hle, rfl⟩ := debit_run_ok rfl hg
  cases h
  refine ⟨rfl, ?_, ?_⟩ <;> simp only [reserve] at * <;> omega

/-- The route of an operator is paid. -/
lemma distributeOperatorVaultRewardRoute_pays {operator : Pubkey}
    (h : (distributeOperatorVaultRewardRoute operator).run r = .ok x r') :
    r.reserve.Pays x r'.reserve := by
  obtain ⟨rewards, _, hg, h⟩ := run_bind_ok.1 h
  obtain ⟨t, ht, rfl⟩ := run_zoom_ok.1 hg
  have hsum := inRoutes_emptyRoute ht
  obtain ⟨_, _, hg, h⟩ := run_bind_ok.1 h
  obtain ⟨hle, rfl⟩ := debit_run_ok rfl hg
  cases h
  refine ⟨rfl, ?_, ?_⟩ <;> simp only [reserve] at * <;> omega

end NCNRewardRouter

/-! ## The reward router of an operator -/

namespace OperatorVaultRewardRouter
variable {r r' : OperatorVaultRewardRouter} {math : PreciseMath} {snapshot : OperatorSnapshot} {x : ℕ} {u : Unit}

/-- The router as a reserve: it owes to the operator and to the vaults in their routes. -/
def reserve (r : OperatorVaultRewardRouter) : Reserve where
  pool := r.rewardPool
  processed := r.rewardsProcessed
  dues := r.operatorRewards + inRoutes r.vaultRewardRoutes

lemma reserve_new (operator : Pubkey) (index : ℕ) (ncn : Pubkey) (epoch : ℕ) (bump : UInt8) (slot : ℕ) :
    (new operator index ncn epoch bump slot).reserve = ⟨0, 0, 0⟩ := by
  simp only [reserve, new, inRoutes_new]

/-- What leaves the pool is processed. -/
lemma routeFromRewardPool_run_ok (h : (routeFromRewardPool x).run r = .ok u r') :
    x ≤ r.rewardPool ∧
      r' = { r with rewardPool := r.rewardPool - x, rewardsProcessed := r.rewardsProcessed + x } := by
  obtain ⟨_, _, h₁, h₂⟩ := run_bind_ok.1 h
  obtain ⟨hle, rfl⟩ := debit_run_ok rfl h₁
  exact ⟨hle, credit_run_ok rfl h₂⟩

lemma routeIncomingRewards_absorbs {rent balance : ℕ} (h : (routeIncomingRewards rent balance).run r = .ok u r') :
    r.reserve.Absorbs rent balance r'.reserve := by
  obtain ⟨_, _, hg, h⟩ := run_bind_ok.1 h
  cases hg
  obtain ⟨total, _, hg, h⟩ := run_bind_ok.1 h
  obtain ⟨htotal, rfl⟩ := run_ofExcept_ok.1 hg
  obtain ⟨incoming, _, hg, h⟩ := run_bind_ok.1 h
  obtain ⟨hincoming, rfl⟩ := run_okOr_ok.1 hg
  obtain ⟨toRoute, _, hg, h⟩ := run_bind_ok.1 h
  obtain ⟨htoRoute, rfl⟩ := run_okOr_ok.1 hg
  obtain ⟨_, _, h₁, h₂⟩ := run_bind_ok.1 h
  obtain rfl := credit_run_ok rfl h₁
  obtain rfl := credit_run_ok rfl h₂
  obtain ⟨hle, rfl⟩ := checkedSub_eq_some.1 hincoming
  obtain ⟨hle', rfl⟩ := checkedSub_eq_some.1 htoRoute
  have htotal : total = r.rewardPool + r.rewardsProcessed := by
    rw [totalRewardsInTransit] at htotal
    cases hadd : checkedAdd 64 r.rewardPool r.rewardsProcessed with
    | none => rw [hadd] at htotal; cases htotal
    | some n => rw [hadd] at htotal; cases htotal; exact (checkedAdd_eq_some.1 hadd).2
  refine ⟨?_, rfl, rfl⟩
  simp only [reserve]
  omega

/-- The operator gets its fee. -/
lemma routeOperatorRewards_movesOn (h : (routeOperatorRewards math snapshot).run r = .ok u r') :
    r.reserve.MovesOn r'.reserve := by
  obtain ⟨_, _, hg, h⟩ := run_bind_ok.1 h
  cases hg
  obtain ⟨fee, _, hg, h⟩ := run_bind_ok.1 h
  obtain ⟨_, rfl⟩ := run_ofExcept_ok.1 hg
  obtain ⟨_, _, hg, h⟩ := run_bind_ok.1 h
  obtain ⟨_, rfl⟩ := routeFromRewardPool_run_ok hg
  obtain rfl := credit_run_ok rfl h
  constructor <;> simp only [reserve] at * <;> omega

/-- The share of a vault leaves the pool for its route. -/
lemma routeVault_movesOn {S R : ℕ} {d : VaultOperatorStakeWeight} (h : (routeVault math S R d).run r = .ok u r') :
    r.reserve.MovesOn r'.reserve := by
  obtain ⟨reward, _, hg, h⟩ := run_bind_ok.1 h
  obtain ⟨_, rfl⟩ := run_ofExcept_ok.1 hg
  obtain ⟨_, _, hg, h⟩ := run_bind_ok.1 h
  obtain ⟨_, rfl⟩ := routeFromRewardPool_run_ok hg
  unfold routeToVaultRewardRoute at h
  split at h
  · cases h
    constructor <;> simp only [reserve] at * <;> omega
  · obtain ⟨t, ht, rfl⟩ := run_zoom_ok.1 h
    have hle := inRoutes_routeInTwoPasses ht
    constructor <;> simp only [reserve] at * <;> omega

/-- The pool is routed to the vaults. -/
lemma routeRewardPool_movesOn {maxIterations : ℕ}
    (h : (routeRewardPool math snapshot maxIterations).run r = .ok u r') :
    r.reserve.MovesOn r'.reserve := by
  obtain ⟨_, _, hg, h⟩ := run_bind_ok.1 h
  cases hg
  cases hresume : r.resumeRoutingState r.rewardPool with | mk rewardsToProcess startingIndex => ?_
  simp only [hresume] at h
  split at h
  · cases h
    exact .refl _
  · obtain ⟨finished, r₁, hloop, h⟩ := run_bind_ok.1 h
    have hsave : ∀ i r₁, r.reserve.MovesOn r₁.reserve →
        r.reserve.MovesOn (saveRoutingState rewardsToProcess i r₁).reserve := fun i r₁ hI => ⟨hI.transit, hI.covered⟩
    have hmoves : r.reserve.MovesOn r₁.reserve :=
      chunked_keeps (I := fun r' : OperatorVaultRewardRouter => r.reserve.MovesOn r'.reserve)
        (fun d _ _ _ hI hd => hI.trans (routeVault_movesOn hd)) hsave (.refl _) hloop
    cases finished with
    | false => cases h; exact hmoves
    | true =>
      rw [if_pos rfl] at h
      obtain ⟨_, _, hg, h⟩ := run_bind_ok.1 h
      cases hg
      obtain ⟨_, _, hg, h⟩ := run_bind_ok.1 h
      cases hg
      obtain ⟨_, _, hg, h⟩ := run_bind_ok.1 h
      obtain ⟨_, rfl⟩ := routeFromRewardPool_run_ok hg
      obtain rfl := credit_run_ok rfl h
      refine hmoves.trans ⟨?_, fun hc => ?_⟩ <;> simp only [reserve, resetRoutingState] at * <;> omega

/-- The operator is paid. -/
lemma distributeOperatorRewards_pays (h : distributeOperatorRewards.run r = .ok x r') :
    r.reserve.Pays x r'.reserve := by
  obtain ⟨_, _, hg, h⟩ := run_bind_ok.1 h
  cases hg
  obtain ⟨_, _, hg, h⟩ := run_bind_ok.1 h
  cases hg
  obtain ⟨_, _, hg, h⟩ := run_bind_ok.1 h
  obtain ⟨hle, rfl⟩ := debit_run_ok rfl hg
  cases h
  refine ⟨rfl, ?_, ?_⟩ <;> simp only [reserve] at * <;> omega

/-- The route of a vault is paid. -/
lemma distributeVaultRewardRoute_pays {vault : Pubkey} (h : (distributeVaultRewardRoute vault).run r = .ok x r') :
    r.reserve.Pays x r'.reserve := by
  obtain ⟨rewards, _, hg, h⟩ := run_bind_ok.1 h
  obtain ⟨t, ht, rfl⟩ := run_zoom_ok.1 hg
  have hsum := inRoutes_emptyRoute ht
  obtain ⟨_, _, hg, h⟩ := run_bind_ok.1 h
  obtain ⟨hle, rfl⟩ := debit_run_ok rfl hg
  cases h
  refine ⟨rfl, ?_, ?_⟩ <;> simp only [reserve] at * <;> omega

end OperatorVaultRewardRouter

/-! ## The instructions on the receivers -/

/-- The routers of an epoch, with the lamports of their receivers. -/
structure Till where
  ncnRewardRouter : NCNRewardRouter
  ncnRewardReceiver : ℕ
  operatorVaultRewardRouter : Pubkey → Option OperatorVaultRewardRouter
  operatorVaultRewardReceiver : Pubkey → ℕ

namespace Epoch
variable {math : PreciseMath} {clock : Clock} {rent maxIterations n : ℕ} {operator : Pubkey} {e e' : Epoch} {u : Unit}

/-- The till of an epoch. -/
def till (e : Epoch) : Till where
  ncnRewardRouter := e.ncnRewardRouter
  ncnRewardReceiver := e.ncnRewardReceiver
  operatorVaultRewardRouter := e.operatorVaultRewardRouter
  operatorVaultRewardReceiver := e.operatorVaultRewardReceiver

/-- The receiver of the NCN is solvent. -/
def NcnFunded (rent : ℕ) (e : Epoch) : Prop := e.ncnRewardRouter.reserve.Funded rent e.ncnRewardReceiver

/-- So are those of the operators. -/
def OperatorsFunded (rent : ℕ) (e : Epoch) : Prop :=
  ∀ p r, e.operatorVaultRewardRouter p = some r → r.reserve.Funded rent (e.operatorVaultRewardReceiver p)

/-- Routing the NCN's rewards. -/
lemma NcnFunded.route (hf : e.NcnFunded rent)
    (h : (processRouteNcnRewards math clock rent maxIterations).run e = .ok () e') : e'.NcnFunded rent := by
  obtain ⟨_, _, hg, h⟩ := run_bind_ok.1 h
  cases hg
  obtain ⟨_, _, hg, h⟩ := run_bind_ok.1 h
  obtain ⟨_, rfl⟩ := run_ofExcept_ok.1 hg
  obtain ⟨_, _, hg, h⟩ := run_bind_ok.1 h
  obtain ⟨_, rfl⟩ := run_ensure_ok.1 hg
  have hlast : ∀ e₁ : Epoch, e₁.NcnFunded rent → (do
      onNcnRewardRouter (NCNRewardRouter.routeOperatorVaultRewards math e.ballotBox maxIterations)
      let router := (← get).ncnRewardRouter
      onEpochState (modify (EpochState.updateRouteRewards router.ncnRewards router.protocolRewards
        router.totalRewards)) : Mut Epoch Unit).run e₁ = .ok () e' → e'.NcnFunded rent := by
    intro e₁ hf h
    obtain ⟨_, _, hg, h⟩ := run_bind_ok.1 h
    obtain ⟨r, hr, rfl⟩ := run_zoom_ok.1 hg
    cases h
    exact hf.movesOn (NCNRewardRouter.routeOperatorVaultRewards_movesOn hr)
  split at h
  · obtain ⟨_, _, hg, h⟩ := run_bind_ok.1 h
    obtain ⟨r₁, hr₁, rfl⟩ := run_zoom_ok.1 hg
    obtain ⟨_, _, hg, h⟩ := run_bind_ok.1 h
    obtain ⟨r₂, hr₂, rfl⟩ := run_zoom_ok.1 hg
    refine hlast { e with ncnRewardRouter := r₂ } ?_ h
    exact (hf.absorbs (NCNRewardRouter.routeIncomingRewards_absorbs hr₁)).movesOn
      (NCNRewardRouter.routeRewardPool_movesOn hr₂)
  · exact hlast e hf h

/-- A method of an operator's router, when it succeeds. -/
lemma onOperatorVaultRewardRouter_run_ok {α : Type} {x : Mut OperatorVaultRewardRouter α} {a : α}
    (h : (onOperatorVaultRewardRouter operator x).run e = .ok a e') :
    ∃ r r', e.operatorVaultRewardRouter operator = some r ∧ x.run r = .ok a r' ∧
      e' = e.setOperatorVaultRewardRouter operator r' := by
  obtain ⟨_, _, hg, h⟩ := run_bind_ok.1 h
  cases hg
  obtain ⟨r, _, hg, h⟩ := run_bind_ok.1 h
  obtain ⟨hr, rfl⟩ := run_okOr_ok.1 hg
  obtain ⟨r', hr', rfl⟩ := run_zoom_ok.1 h
  exact ⟨r, r', hr, hr', rfl⟩

/-- Writing a router that is solvent with its receiver. -/
lemma OperatorsFunded.write (hf : e.OperatorsFunded rent) (operator : Pubkey) {r : OperatorVaultRewardRouter}
    {lamports : ℕ} (hr : r.reserve.Funded rent lamports) :
    ((e.setOperatorVaultRewardRouter operator r).setOperatorVaultRewardReceiver operator lamports).OperatorsFunded
      rent := by
  intro q t ht
  have ht : Function.update e.operatorVaultRewardRouter operator (some r) q = some t := ht
  show t.reserve.Funded rent (Function.update e.operatorVaultRewardReceiver operator lamports q)
  by_cases hq : q = operator
  · subst hq
    rw [Function.update_self] at ht ⊢
    cases ht
    exact hr
  · rw [Function.update_of_ne hq] at ht ⊢
    exact hf q t ht

/-- Writing a router that is solvent with the receiver as it is. -/
lemma OperatorsFunded.setRouter (hf : e.OperatorsFunded rent) {r : OperatorVaultRewardRouter}
    (hr : r.reserve.Funded rent (e.operatorVaultRewardReceiver operator)) :
    (e.setOperatorVaultRewardRouter operator r).OperatorsFunded rent := by
  have h := hf.write operator hr
  simp only [setOperatorVaultRewardReceiver, setOperatorVaultRewardRouter, Function.update_eq_self] at h
  exact h

/-- Lamports that arrive at an operator's receiver. -/
lemma OperatorsFunded.deposit (hf : e.OperatorsFunded rent) (lamports : ℕ) :
    (e.setOperatorVaultRewardReceiver operator
      (e.operatorVaultRewardReceiver operator + lamports)).OperatorsFunded rent := by
  intro q t ht
  refine (hf q t ht).deposit ?_
  show _ ≤ Function.update e.operatorVaultRewardReceiver operator _ q
  by_cases hq : q = operator
  · subst hq; rw [Function.update_self]; exact Nat.le_add_right ..
  · rw [Function.update_of_ne hq]

/-- Routing an operator's rewards. -/
lemma OperatorsFunded.route (hf : e.OperatorsFunded rent)
    (h : (processRouteOperatorVaultRewards math rent operator maxIterations).run e = .ok () e') :
    e'.OperatorsFunded rent ∧ e'.ncnRewardRouter = e.ncnRewardRouter ∧
      e'.ncnRewardReceiver = e.ncnRewardReceiver := by
  obtain ⟨_, _, hg, h⟩ := run_bind_ok.1 h
  cases hg
  obtain ⟨snapshot, _, hg, h⟩ := run_bind_ok.1 h
  obtain ⟨_, rfl⟩ := run_okOr_ok.1 hg
  obtain ⟨router, _, hg, h⟩ := run_bind_ok.1 h
  obtain ⟨hrouter, rfl⟩ := run_okOr_ok.1 hg
  have hlast : ∀ e₁ : Epoch, e₁.OperatorsFunded rent → (do
      onOperatorVaultRewardRouter operator (OperatorVaultRewardRouter.routeRewardPool math snapshot maxIterations)
      let router ← okOr ((← get).operatorVaultRewardRouter operator) ProgramError.invalidAccountOwner
      onEpochState (EpochState.updateRouteOperatorVaultRewards snapshot.ncnOperatorIndex
        router.totalRewards) : Mut Epoch Unit).run e₁ = .ok () e' →
      e'.OperatorsFunded rent ∧ e'.ncnRewardRouter = e₁.ncnRewardRouter ∧
        e'.ncnRewardReceiver = e₁.ncnRewardReceiver := by
    intro e₁ hf h
    obtain ⟨_, _, hg, h⟩ := run_bind_ok.1 h
    obtain ⟨r, r', hr, hpool, rfl⟩ := onOperatorVaultRewardRouter_run_ok hg
    obtain ⟨_, _, hg, h⟩ := run_bind_ok.1 h
    cases hg
    obtain ⟨_, _, hg, h⟩ := run_bind_ok.1 h
    obtain ⟨_, rfl⟩ := run_okOr_ok.1 hg
    obtain ⟨st, _, rfl⟩ := run_zoom_ok.1 h
    exact ⟨hf.setRouter ((hf operator r hr).movesOn (OperatorVaultRewardRouter.routeRewardPool_movesOn hpool)),
      rfl, rfl⟩
  split at h
  · obtain ⟨_, _, hg, h⟩ := run_bind_ok.1 h
    obtain ⟨r, r₁, hr, hr₁, rfl⟩ := onOperatorVaultRewardRouter_run_ok hg
    have hf₁ := hf.setRouter
      ((hf operator r hr).absorbs (OperatorVaultRewardRouter.routeIncomingRewards_absorbs (by
        rw [hrouter] at hr; cases hr; exact hr₁)))
    obtain ⟨_, _, hg, h⟩ := run_bind_ok.1 h
    obtain ⟨r₁', r₂, hr₁', hr₂, rfl⟩ := onOperatorVaultRewardRouter_run_ok hg
    have hf₂ := hf₁.setRouter
      ((hf₁ operator r₁' hr₁').movesOn (OperatorVaultRewardRouter.routeOperatorRewards_movesOn hr₂))
    have h₂ := hlast _ hf₂ h
    exact h₂
  · exact hlast e hf h

/-- A payout from an operator's receiver, when it succeeds. -/
lemma distributeOperatorVault_run_ok {distribute : Mut OperatorVaultRewardRouter ℕ}
    (h : (distributeOperatorVault operator distribute).run e = .ok u e') :
    ∃ snapshot r r' st, e.operatorSnapshot operator = some snapshot ∧
      e.operatorVaultRewardRouter operator = some r ∧ r.stillRouting = false ∧
      ∃ rewards, distribute.run r = .ok rewards r' ∧ rewards ≤ e.operatorVaultRewardReceiver operator ∧
        e' = { (e.setOperatorVaultRewardRouter operator r').setOperatorVaultRewardReceiver operator
          (e.operatorVaultRewardReceiver operator - rewards) with epochState := st } := by
  obtain ⟨_, _, hg, h⟩ := run_bind_ok.1 h
  cases hg
  obtain ⟨snapshot, _, hg, h⟩ := run_bind_ok.1 h
  obtain ⟨hsnap, rfl⟩ := run_okOr_ok.1 hg
  obtain ⟨router, _, hg, h⟩ := run_bind_ok.1 h
  obtain ⟨hrouter, rfl⟩ := run_okOr_ok.1 hg
  obtain ⟨_, _, hg, h⟩ := run_bind_ok.1 h
  obtain ⟨hidle, rfl⟩ := run_ensure_ok.1 hg
  obtain ⟨rewards, _, hpay, h⟩ := run_bind_ok.1 h
  obtain ⟨_, _, hg, hpay⟩ := run_bind_ok.1 hpay
  obtain ⟨r, r', hr, hr', rfl⟩ := onOperatorVaultRewardRouter_run_ok hg
  cases hrouter.symm.trans hr
  obtain ⟨_, _, hg, hpay⟩ := run_bind_ok.1 hpay
  cases hg
  obtain ⟨left, _, hg, hpay⟩ := run_bind_ok.1 hpay
  obtain ⟨hleft, rfl⟩ := run_okOr_ok.1 hg
  obtain ⟨hle, rfl⟩ := checkedSub_eq_some.1 hleft
  cases hpay
  obtain ⟨st, _, rfl⟩ := run_zoom_ok.1 h
  exact ⟨snapshot, router, r', st, hsnap, hrouter, hidle, rewards, hr', hle, rfl⟩

/-- It keeps the receivers solvent if the router pays a due. -/
lemma OperatorsFunded.distribute (hf : e.OperatorsFunded rent) {distribute : Mut OperatorVaultRewardRouter ℕ}
    (hpays : ∀ r r' rewards, distribute.run r = .ok rewards r' → r.reserve.Pays rewards r'.reserve)
    (h : (distributeOperatorVault operator distribute).run e = .ok u e') :
    e'.OperatorsFunded rent ∧ e'.ncnRewardRouter = e.ncnRewardRouter ∧
      e'.ncnRewardReceiver = e.ncnRewardReceiver := by
  obtain ⟨_, r, r', st, _, hr, _, rewards, hr', _, rfl⟩ := distributeOperatorVault_run_ok h
  exact ⟨hf.write operator ((hf operator r hr).pays (hpays r r' rewards hr')), rfl, rfl⟩

/-- A payout from the NCN's receiver keeps it solvent if the router pays a due. -/
lemma NcnFunded.distribute (hf : e.NcnFunded rent) {distribute : Mut NCNRewardRouter ℕ}
    {count : ℕ → EpochState → EpochState}
    (hpays : ∀ r r' rewards, distribute.run r = .ok rewards r' → r.reserve.Pays rewards r'.reserve)
    (h : (distributeNcn distribute count).run e = .ok n e') :
    e'.NcnFunded rent ∧ e'.operatorVaultRewardRouter = e.operatorVaultRewardRouter ∧
      e'.operatorVaultRewardReceiver = e.operatorVaultRewardReceiver := by
  obtain ⟨r, hr, _, rfl⟩ := distributeNcn_run_ok h
  exact ⟨Reserve.Funded.pays hf (hpays _ r n hr), rfl, rfl⟩

end Epoch

/-! ## The whole life of an epoch -/

namespace Lifecycle
variable {cl : Cluster} {i : Instruction} {s s' : Lifecycle} {u : Unit}

/-- The receiver of the NCN holds what its router needs, as far as the router has come. -/
def NcnHolds (rent : ℕ) (e : Epoch) : Slot → Prop
  | .absent => True
  | .allocated _ => rent ≤ e.ncnRewardReceiver
  | .initialized => e.NcnFunded rent

/-- Every receiver holds what its router needs. -/
structure Solvent (cl : Cluster) (s : Lifecycle) : Prop where
  ncn : NcnHolds cl.minRent s.accounts (s.single .ncnRewardRouter)
  operators : s.accounts.OperatorsFunded cl.minRent

namespace Solvent

/-- It is about the till and the account of the NCN's router. -/
lemma of_till (h : Solvent cl s) (hsingle : s'.single .ncnRewardRouter = s.single .ncnRewardRouter)
    (htill : s'.accounts.till = s.accounts.till) : Solvent cl s' := by
  have hncn : s'.accounts.ncnRewardRouter = s.accounts.ncnRewardRouter := congrArg Till.ncnRewardRouter htill
  have hreceiver : s'.accounts.ncnRewardReceiver = s.accounts.ncnRewardReceiver :=
    congrArg Till.ncnRewardReceiver htill
  have hrouter : s'.accounts.operatorVaultRewardRouter = s.accounts.operatorVaultRewardRouter :=
    congrArg Till.operatorVaultRewardRouter htill
  have hreceivers : s'.accounts.operatorVaultRewardReceiver = s.accounts.operatorVaultRewardReceiver :=
    congrArg Till.operatorVaultRewardReceiver htill
  constructor
  case ncn =>
    have hn := h.ncn
    rw [hsingle]
    cases hslot : s.single .ncnRewardRouter with
    | absent => exact trivial
    | allocated n =>
      rw [hslot] at hn
      exact Nat.le_trans hn hreceiver.ge
    | initialized =>
      rw [hslot] at hn
      show s'.accounts.ncnRewardRouter.reserve.Funded _ _
      rw [hncn, hreceiver]
      exact hn
  case operators =>
    intro p r hr
    rw [hrouter] at hr
    rw [hreceivers]
    exact h.operators p r hr

/-- An instruction on the NCN's router and its receiver. -/
lemma loaded_ncn (h : Solvent cl s) {ks : List Single} (hks : .ncnRewardRouter ∈ ks) {x : Mut Epoch Unit}
    (hx : ∀ e e', e.NcnFunded cl.minRent → e.OperatorsFunded cl.minRent → x.run e = .ok () e' →
      e'.NcnFunded cl.minRent ∧ e'.OperatorsFunded cl.minRent)
    (hrun : (loaded ks x).run s = .ok u s') : Solvent cl s' := by
  obtain ⟨_, hinit, e, he, rfl⟩ := loaded_ok hrun
  have hn := h.ncn
  rw [hinit _ hks] at hn
  obtain ⟨hncn, hoperators⟩ := hx _ e hn h.operators he
  refine ⟨?_, hoperators⟩
  show NcnHolds _ e (s.single .ncnRewardRouter)
  rw [hinit _ hks]
  exact hncn

/-- An instruction on an operator's router and its receiver. -/
lemma loaded_operator (h : Solvent cl s) {ks : List Single} {x : Mut Epoch Unit}
    (hx : ∀ e e', e.OperatorsFunded cl.minRent → x.run e = .ok () e' → e'.OperatorsFunded cl.minRent ∧
      e'.ncnRewardRouter = e.ncnRewardRouter ∧ e'.ncnRewardReceiver = e.ncnRewardReceiver)
    (hrun : (loaded ks x).run s = .ok u s') : Solvent cl s' := by
  obtain ⟨_, _, e, he, rfl⟩ := loaded_ok hrun
  obtain ⟨hoperators, hrouter, hreceiver⟩ := hx _ e h.operators he
  refine ⟨?_, hoperators⟩
  have hn := h.ncn
  show NcnHolds _ e (s.single .ncnRewardRouter)
  cases hslot : s.single .ncnRewardRouter with
  | absent => exact trivial
  | allocated n =>
    rw [hslot] at hn
    exact Nat.le_trans hn hreceiver.ge
  | initialized =>
    rw [hslot] at hn
    show e.ncnRewardRouter.reserve.Funded _ _
    rw [hrouter, hreceiver]
    exact hn

/-- Growing an account. -/
lemma realloc (h : Solvent cl s) {k : Single} {size : ℕ} {x : Mut Lifecycle Unit}
    (hx : ∀ n s₂, Solvent cl (s.setSingle k (.allocated n)) → x.run (s.setSingle k (.allocated n)) = .ok () s₂ →
      Solvent cl s₂)
    (hrun : (do if ← Lifecycle.realloc k size then x : Mut Lifecycle Unit).run s = .ok u s') : Solvent cl s' := by
  obtain ⟨done, s₁, hg, hrest⟩ := run_bind_ok.1 hrun
  obtain ⟨_, ⟨rfl, rfl⟩ | ⟨dataLen, newLen, halloc, rfl⟩⟩ := realloc_ok hg
  · cases hrest
    exact h
  · have hgrown : Solvent cl (s.setSingle k (.allocated newLen)) := by
      refine ⟨?_, h.operators⟩
      rw [single_setSingle]
      by_cases hk : .ncnRewardRouter = k
      · subst hk
        have hn := h.ncn
        rw [halloc] at hn
        rw [Function.update_self]
        exact hn
      · rw [Function.update_of_ne hk]
        exact h.ncn
    cases done with
    | false => cases hrest; exact hgrown
    | true => exact hx newLen s' hgrown hrest

/-- Closing an account. -/
lemma close (h : Solvent cl s) {target : Target} (hrun : (closeTarget cl target).run s = .ok u s') :
    Solvent cl s' := by
  cases closeTarget_ok hrun with
  | epochState | operatorSnapshot | otherEpochState => exact h.of_till rfl rfl
  | single k lamports _ hor =>
    by_cases hk : k = .ncnRewardRouter
    · refine ⟨?_, h.operators⟩
      rw [single_setSingle, hk, Function.update_self]
      exact trivial
    · refine h.of_till (Function.update_of_ne (Ne.symm hk) ..) ?_
      rw [hor.resolve_left hk]
      rfl
  | operatorVaultRewardRouter p i lamports =>
    refine ⟨h.ncn, fun q r hr => ?_⟩
    have hr : Function.update s.accounts.operatorVaultRewardRouter p none q = some r := hr
    show r.reserve.Funded _ (Function.update s.accounts.operatorVaultRewardReceiver p lamports q)
    by_cases hq : q = p
    · subst hq
      rw [Function.update_self] at hr
      cases hr
    · rw [Function.update_of_ne hq] at hr ⊢
      exact h.operators q r hr

/-- The reward router of an operator is created with the rent of its receiver. -/
lemma initializeRouter (h : Solvent cl s) {clock : Clock} {bump : UInt8} {operator : Pubkey}
    (hrun : (processInitializeOperatorVaultRewardRouter cl clock bump operator).run s = .ok u s') :
    Solvent cl s' := by
  obtain ⟨_, _, hg, hrun⟩ := run_bind_ok.1 hrun
  obtain ⟨_, _, rfl⟩ := loadAndCheckIsClosing_ok hg
  obtain ⟨_, _, hg, hrun⟩ := run_bind_ok.1 hrun
  cases hg
  obtain ⟨snapshot, _, hg, hrun⟩ := run_bind_ok.1 hrun
  obtain ⟨_, rfl⟩ := run_okOr_ok.1 hg
  obtain ⟨_, _, hg, hrun⟩ := run_bind_ok.1 hrun
  obtain ⟨_, rfl⟩ := run_ensure_ok.1 hg
  obtain ⟨_, _, hg, hrun⟩ := run_bind_ok.1 hrun
  obtain ⟨_, rfl⟩ := checkDne_ok.1 hg
  obtain ⟨_, _, hg, hrun⟩ := run_bind_ok.1 hrun
  cases hg
  obtain ⟨_, _, hg, hrun⟩ := run_bind_ok.1 hrun
  cases hg
  obtain ⟨e, he, rfl⟩ := run_zoom_ok.1 hrun
  obtain ⟨st, _, rfl⟩ := run_zoom_ok.1 he
  refine ⟨h.ncn, ?_⟩
  have hnew : (OperatorVaultRewardRouter.new operator snapshot.ncnOperatorIndex s.accounts.config.ncn s.epoch bump
      clock.slot).reserve.Funded cl.minRent (s.accounts.operatorVaultRewardReceiver operator + cl.minRent) := by
    rw [OperatorVaultRewardRouter.reserve_new]
    exact .empty (Nat.le_add_left ..)
  exact h.operators.write operator hnew

/-- Every instruction keeps the receivers solvent. -/
lemma exec (h : Solvent cl s) (hrun : (exec cl i).run s = .ok () s') : Solvent cl s' := by
  cases i with
  | initializeEpochState clock bump =>
    obtain ⟨_, _, rfl⟩ := processInitializeEpochState_ok hrun
    exact h.of_till rfl rfl
  | initializeWeightTable vaultCount vaultList =>
    obtain ⟨_, _, _, rfl⟩ := processInitializeWeightTable_ok hrun
    exact h.of_till (single_setSingle_ne _ _ _ s (by decide)) rfl
  | reallocWeightTable clock bump vaultList stMintList =>
    refine h.realloc (fun n s₂ h hrun => ?_) hrun
    obtain ⟨_, _, hg, hrun⟩ := run_bind_ok.1 hrun
    cases hg
    obtain ⟨weightTable, _, hg, hrun⟩ := run_bind_ok.1 hrun
    obtain ⟨_, rfl⟩ := run_ofExcept_ok.1 hg
    cases hrun
    exact h.of_till (single_setSingle_ne .weightTable .ncnRewardRouter .initialized _ (by decide)) rfl
  | adminSetWeight clock ncnAdmin admin stMint weight =>
    obtain ⟨_, _, e, he, rfl⟩ := loaded_ok hrun
    obtain ⟨w, _, rfl⟩ := Epoch.processAdminSetWeight_run_ok he
    exact h.of_till rfl rfl
  | setEpochWeights clock stMintList =>
    obtain ⟨_, _, e, he, rfl⟩ := loaded_ok hrun
    obtain ⟨w, _, rfl⟩ := Epoch.updateWeights_run_ok he
    exact h.of_till rfl rfl
  | initializeEpochSnapshot clock bump operatorCount =>
    obtain ⟨_, _, _, _, _, _, rfl⟩ := processInitializeEpochSnapshot_ok hrun
    exact h.of_till (single_setSingle_ne .epochSnapshot .ncnRewardRouter .initialized s (by decide)) rfl
  | initializeOperatorSnapshot clock bump operator operatorIndex operatorFeeBps isActive =>
    obtain ⟨_, _, e, he, rfl⟩ := processInitializeOperatorSnapshot_ok hrun
    obtain ⟨_, _, _, _, _, _, _, _, rfl⟩ := Epoch.processInitializeOperatorSnapshot_run_ok he
    exact h.of_till rfl rfl
  | snapshotVaultOperatorDelegation clock operator v =>
    obtain ⟨_, _, e, he, rfl⟩ := loaded_ok hrun
    obtain ⟨_, _, _, _, _, _, _, _, _, _, rfl⟩ := Epoch.processSnapshotVaultOperatorDelegation_run_ok he
    exact h.of_till rfl rfl
  | initializeBallotBox bump =>
    obtain ⟨_, _, _, rfl⟩ := processInitializeBallotBox_ok hrun
    exact h.of_till (single_setSingle_ne .ballotBox .ncnRewardRouter (.allocated maxReallocBytes) s (by decide)) rfl
  | reallocBallotBox clock bump =>
    refine h.realloc (fun n s₂ h hrun => ?_) hrun
    cases hrun
    exact h.of_till (single_setSingle_ne .ballotBox .ncnRewardRouter .initialized _ (by decide)) rfl
  | castVote clock operator voter operatorAdmin weatherStatus =>
    obtain ⟨_, _, hg, hrun⟩ := run_bind_ok.1 hrun
    obtain ⟨_, _, hg', hg⟩ := run_bind_ok.1 hg
    cases hg'
    obtain ⟨_, rfl⟩ := run_ensure_ok.1 hg
    obtain ⟨_, _, e, he, rfl⟩ := loaded_ok hrun
    obtain ⟨_, _, _, _, _, _, _, _, _, _, rfl⟩ := Epoch.processCastVote_run_ok he
    exact h.of_till rfl rfl
  | adminSetTieBreaker clock tieBreakerAdmin weatherStatus =>
    obtain ⟨_, _, e, he, rfl⟩ := loaded_ok hrun
    obtain ⟨_, _, rfl⟩ := Epoch.processAdminSetTieBreaker_run_ok he
    exact h.of_till rfl rfl
  | adminSetParameters ncn admin ncnAdmin o₁ o₂ o₃ o₄ =>
    obtain ⟨e, he, rfl⟩ := run_zoom_ok.1 hrun
    obtain ⟨c, _, rfl⟩ := Epoch.processAdminSetParameters_run_ok he
    exact h.of_till rfl rfl
  | adminSetNewAdmin ncn admin ncnAdmin newAdmin =>
    obtain ⟨e, he, rfl⟩ := run_zoom_ok.1 hrun
    have hx : Leaves Epoch.till (Epoch.processAdminSetNewAdmin ncn admin ncnAdmin newAdmin) :=
      .bind .get fun _ => .bind (.ensure _ _) fun _ => .bind (.ensure _ _) fun _ => .modify fun _ => rfl
    exact h.of_till rfl (hx he)
  | initializeNcnRewardRouter =>
    obtain ⟨_, _, _, rfl⟩ := processInitializeNcnRewardRouter_ok hrun
    refine ⟨?_, h.operators⟩
    rw [single_setSingle, Function.update_self]
    exact Nat.le_add_left ..
  | reallocNcnRewardRouter clock bump =>
    refine h.realloc (fun n s₂ h hrun => ?_) hrun
    have hn := h.ncn
    rw [single_setSingle, Function.update_self] at hn
    cases hrun
    refine ⟨?_, h.operators⟩
    rw [single_setSingle, Function.update_self]
    show (NCNRewardRouter.new ..).reserve.Funded _ _
    rw [NCNRewardRouter.reserve_new]
    exact .empty hn
  | initializeOperatorVaultRewardRouter clock bump operator => exact h.initializeRouter hrun
  | routeNcnRewards clock maxIterations =>
    refine h.loaded_ncn (by simp) (fun e e' hn ho he => ⟨hn.route he, ?_⟩) hrun
    obtain ⟨r, rfl⟩ := Epoch.processRouteNcnRewards_run_ok he
    exact ho
  | routeOperatorVaultRewards operator maxIterations => exact h.loaded_operator (fun _ _ ho => ho.route) hrun
  | distributeNcnRewards ncnFeeWallet =>
    refine h.loaded_ncn (by simp) (fun e e' hn ho he => ?_) hrun
    obtain ⟨_, _, hg, he⟩ := run_bind_ok.1 he
    cases hg
    obtain ⟨_, _, hg, he⟩ := run_bind_ok.1 he
    obtain ⟨_, rfl⟩ := run_ensure_ok.1 hg
    obtain ⟨rewards, _, hpay, he⟩ := run_bind_ok.1 he
    cases he
    obtain ⟨hn', hr, hl⟩ := hn.distribute (fun _ _ _ => NCNRewardRouter.distributeNcnFeeRewards_pays) hpay
    exact ⟨hn', by rw [Epoch.OperatorsFunded, hr, hl]; exact ho⟩
  | distributeProtocolRewards protocolFeeWallet =>
    refine h.loaded_ncn (by simp) (fun e e' hn ho he => ?_) hrun
    obtain ⟨_, _, hg, he⟩ := run_bind_ok.1 he
    cases hg
    obtain ⟨_, _, hg, he⟩ := run_bind_ok.1 he
    obtain ⟨_, rfl⟩ := run_ensure_ok.1 hg
    obtain ⟨rewards, _, hpay, he⟩ := run_bind_ok.1 he
    cases he
    obtain ⟨hn', hr, hl⟩ := hn.distribute (fun _ _ _ => NCNRewardRouter.distributeProtocolFeeRewards_pays) hpay
    exact ⟨hn', by rw [Epoch.OperatorsFunded, hr, hl]; exact ho⟩
  | distributeOperatorVaultRewardRoute operator =>
    refine h.loaded_ncn (by simp) (fun e e' hn ho he => ?_) hrun
    obtain ⟨_, _, hg, he⟩ := run_bind_ok.1 he
    cases hg
    obtain ⟨_, _, hg, he⟩ := run_bind_ok.1 he
    obtain ⟨_, rfl⟩ := run_okOr_ok.1 hg
    obtain ⟨rewards, e₁, hpay, he⟩ := run_bind_ok.1 he
    cases he
    obtain ⟨hn', hr, hl⟩ :=
      hn.distribute (fun _ _ _ => NCNRewardRouter.distributeOperatorVaultRewardRoute_pays) hpay
    have ho₁ : e₁.OperatorsFunded cl.minRent := by rw [Epoch.OperatorsFunded, hr, hl]; exact ho
    exact ⟨hn', ho₁.deposit rewards⟩
  | distributeOperatorRewards operator =>
    exact h.loaded_operator (fun _ _ ho =>
      ho.distribute fun _ _ _ => OperatorVaultRewardRouter.distributeOperatorRewards_pays) hrun
  | distributeVaultRewards operator vault =>
    exact h.loaded_operator (fun _ _ ho =>
      ho.distribute fun _ _ _ => OperatorVaultRewardRouter.distributeVaultRewardRoute_pays) hrun
  | depositNcn lamports =>
    cases hrun
    refine ⟨?_, h.operators⟩
    have hn := h.ncn
    cases hslot : s.single .ncnRewardRouter with
    | absent => exact trivial
    | allocated n =>
      rw [hslot] at hn
      exact Nat.le_trans hn (Nat.le_add_right ..)
    | initialized =>
      rw [hslot] at hn
      exact Reserve.Funded.deposit hn (Nat.le_add_right ..)
  | depositOperatorVault operator lamports =>
    cases hrun
    exact ⟨h.ncn, h.operators.deposit lamports⟩
  | closeEpochAccount clock target =>
    obtain ⟨_, _, _, _, hrun⟩ := processCloseEpochAccount_ok.1 hrun
    have hstart : Solvent cl s.startClosing := h.of_till rfl rfl
    exact hstart.close hrun

end Solvent

/-- In every state that instructions lead to, the receivers are solvent. -/
lemma solvent {s₀ : Lifecycle} (h₀ : s₀.Untouched) (h : Run (Step cl) s₀ s) : Solvent cl s := by
  refine h.invariant ⟨?_, fun p r hr => ?_⟩ fun _ _ ⟨i, hi⟩ h => h.exec hi
  · rw [h₀.single]
    exact trivial
  · rw [h₀.operatorVaultRewardRouter p] at hr
    cases hr

/-- In every state that instructions lead to, in whatever order they come, the receiver of every router that is there
holds the rent, the router's pool and what has been processed, and that covers all that the router owes: the fees, what
waits for the operators or the vaults, and the routes of those that have one. -/
theorem receivers_solvent {s₀ : Lifecycle} (h₀ : s₀.Untouched) (h : Run (Step cl) s₀ s) :
    (s.single .ncnRewardRouter = .initialized →
      let r := s.accounts.ncnRewardRouter
      cl.minRent + r.rewardPool + r.rewardsProcessed ≤ s.accounts.ncnRewardReceiver ∧
        r.protocolRewards + r.ncnRewards + r.operatorVaultRewards + inRoutes r.operatorVaultRewardRoutes ≤
          r.rewardsProcessed) ∧
    ∀ p r, s.accounts.operatorVaultRewardRouter p = some r →
      cl.minRent + r.rewardPool + r.rewardsProcessed ≤ s.accounts.operatorVaultRewardReceiver p ∧
        r.operatorRewards + inRoutes r.vaultRewardRoutes ≤ r.rewardsProcessed := by
  have hsolvent := solvent h₀ h
  refine ⟨fun hrouter => ?_, fun p r hr => ?_⟩
  · have hfunded := hsolvent.ncn
    rw [hrouter] at hfunded
    exact ⟨hfunded.held, hfunded.covered⟩
  · exact ⟨(hsolvent.operators p r hr).held, (hsolvent.operators p r hr).covered⟩

/-- What happens in the small epoch that has reward routers for the NCN and its operator: rewards come in, are routed
and paid to the operator, and more come in and are routed. -/
def smallRewards : List Instruction :=
  let route := Instruction.routeNcnRewards ⟨10 * defaultSlotsPerEpoch, 10⟩ 5
  (smallRun true).take 14 ++ [.initializeOperatorVaultRewardRouter ⟨10, 0⟩ 0 7, .depositNcn 1000, route,
    .distributeOperatorVaultRewardRoute 7, .routeOperatorVaultRewards 7 64, .depositNcn 1000, route]

/-- The state that this leads to. -/
@[irreducible] def smallRewarded : Lifecycle := commit (smallRewards.forM (exec smallCluster)) small

lemma small_rewarded : Run (Step smallCluster) small smallRewarded := by
  have h : Succeeds (smallRewards.forM (exec smallCluster)) small := by decide +kernel
  unfold smallRewarded
  exact Run.of_forM _ h.run_eq

/-- Its receivers are solvent, with lamports in them and dues. -/
theorem receivers_solvent_small :
    smallRewarded.accounts.ncnRewardReceiver = 1065 ∧ smallRewarded.accounts.ncnRewardRouter.reserve.dues = 1060 ∧
      5 + smallRewarded.accounts.ncnRewardRouter.rewardPool +
        smallRewarded.accounts.ncnRewardRouter.rewardsProcessed ≤ 1065 := by
  have hreceiver : smallRewarded.accounts.ncnRewardReceiver = 1065 := by decide +kernel
  have hrouter : smallRewarded.single .ncnRewardRouter = .initialized := by decide +kernel
  exact ⟨hreceiver, by decide +kernel,
    hreceiver ▸ ((receivers_solvent small_untouched small_rewarded).1 hrouter).1⟩

end Lifecycle
end NcnProgram
