import NcnProgram.Core.NcnRewardRouter
import NcnProgram.Lib.Tally

/-!
# The books of the NCN reward router

`Books` is the conservation law of the router: what has been processed is what lies with the protocol, with
the NCN, with the operators as a whole and in the operators' routes. Each phase of routing keeps it and
succeeds (`routeIncomingRewards_spec`, `routeRewardPool_spec`, `routeOperatorVaultRewards_spec`). For the
chunked phase the router also has to be `Resumable`: the shares still to be routed are covered by what is
left for the operators. That is kept because a share, once routed, leaves both sides, and it holds at the
start of a round because shares are rounded down.
-/

namespace NcnProgram
open Lib NCNProgramError

/-- What the router relies on about the votes it routes to: the winning ones, those with the ballot index
`idx`, are by real operators among `ps`, and their stake is within the winning total `W`. -/
structure Electorate (votes : List OperatorVote) (idx W : ℕ) (ps : List Pubkey) : Prop where
  voter : ∀ v ∈ votes, v.ballotIndex = idx → v.operator ∈ ps
  voter_ne : ∀ v ∈ votes, v.ballotIndex = idx → v.operator ≠ .default
  length : votes.length = maxOperators
  room : ps.length ≤ maxOperators
  stake_le : weightOf (·.ballotIndex) (·.stakeWeights.stakeWeight) idx votes ≤ W
  lt : W < 2 ^ 128

/-- What is still owed to the winning votes of a list, out of `R`. -/
def owed (idx W R : ℕ) (votes : List OperatorVote) : ℕ :=
  weightOf (·.ballotIndex) (fun v => share R W v.stakeWeights.stakeWeight) idx votes

namespace Electorate
variable {votes : List OperatorVote} {idx W R : ℕ} {ps : List Pubkey}

/-- A winning vote has at most the winning total. -/
lemma stake_le_of_mem (h : Electorate votes idx W ps) {v : OperatorVote} (hv : v ∈ votes)
    (hi : v.ballotIndex = idx) : v.stakeWeights.stakeWeight ≤ W := by
  refine le_trans ?_ h.stake_le
  apply List.le_sum_of_mem
  exact List.mem_map.2 ⟨v, List.mem_filter.2 ⟨hv, decide_eq_true hi⟩, rfl⟩

/-- The shares of all winning votes are covered by the amount. -/
lemma owed_le (h : Electorate votes idx W ps) : owed idx W R votes ≤ R := by
  have := h.stake_le
  unfold weightOf at this
  rw [owed, weightOf]
  have hmap : (votes.filter (fun v => decide (v.ballotIndex = idx))).map
      (fun v => share R W v.stakeWeights.stakeWeight) =
      ((votes.filter (fun v => decide (v.ballotIndex = idx))).map
        (·.stakeWeights.stakeWeight)).map (share R W) := by
    rw [List.map_map]
    rfl
  rw [hmap]
  exact sum_share_le this

end Electorate

/-- The conservation law of the router with the routes `rs`, all of them to parties among `ps`. -/
structure Books (ps : List Pubkey) (r : NCNRewardRouter) (rs : List RewardRoute) : Prop where
  routes : RoutesTo r.operatorVaultRewardRoutes rs
  payees : rs.map (·.payee) ⊆ ps
  processed : r.rewardsProcessed =
    r.protocolRewards + r.ncnRewards + r.operatorVaultRewards + (rs.map (·.rewards)).sum
  fits : r.rewardPool + r.rewardsProcessed < 2 ^ 64

/-- What has been processed lies with the protocol, with the NCN, with the operators or in their routes, and
together with the pool it is a `u64`. -/
structure NCNRewardRouter.Conserves (r : NCNRewardRouter) : Prop where
  processed : r.rewardsProcessed = r.protocolRewards + r.ncnRewards + r.operatorVaultRewards +
    (r.operatorVaultRewardRoutes.toList.map (·.rewards)).sum
  fits : r.rewardPool + r.rewardsProcessed < 2 ^ 64

/-- So it is for a router with books. -/
lemma Books.conserves {ps : List Pubkey} {r : NCNRewardRouter} {rs : List RewardRoute} (h : Books ps r rs) :
    r.Conserves :=
  ⟨by rw [h.routes.sum_toList]; exact h.processed, h.fits⟩

/-- A router that is still routing has covered what it still has to route. -/
def Resumable (votes : List OperatorVote) (idx W : ℕ) (r : NCNRewardRouter) : Prop :=
  r.stillRouting = true → r.lastRewardsToProcess < 2 ^ 64 ∧ 0 < r.lastRewardsToProcess ∧
    r.lastVoteIndex < maxOperators ∧
    owed idx W r.lastRewardsToProcess (votes.drop r.lastVoteIndex) ≤ r.operatorVaultRewards

/-- The counters that the chunked phase leaves alone. -/
structure SameTotals (r r' : NCNRewardRouter) : Prop where
  totalRewards : r'.totalRewards = r.totalRewards
  rewardPool : r'.rewardPool = r.rewardPool
  rewardsProcessed : r'.rewardsProcessed = r.rewardsProcessed

lemma SameTotals.trans {r₁ r₂ r₃ : NCNRewardRouter} (h : SameTotals r₁ r₂) (h' : SameTotals r₂ r₃) :
    SameTotals r₁ r₃ :=
  ⟨h'.1.trans h.1, h'.2.trans h.2, h'.3.trans h.3⟩

/-- The pool is split exactly: both fees are floors of the whole pool, the rest is for the operators. -/
lemma NCNRewardRouter.routeRewardPool_run {r : NCNRewardRouter} {math : PreciseMath}
    (hproc : r.protocolRewards + r.ncnRewards + r.operatorVaultRewards ≤ r.rewardsProcessed)
    (hfits : r.rewardPool + r.rewardsProcessed < 2 ^ 64) (hm : math.Documented) {fees : Fees}
    (hfees : fees.protocolFeeBps + fees.ncnFeeBps ≤ 10000) :
    (NCNRewardRouter.routeRewardPool math fees).run r = .ok ()
      { r with
        rewardPool := 0
        rewardsProcessed := r.rewardsProcessed + r.rewardPool
        protocolRewards := r.protocolRewards + share r.rewardPool 10000 fees.protocolFeeBps
        ncnRewards := r.ncnRewards + share r.rewardPool 10000 fees.ncnFeeBps
        operatorVaultRewards := r.operatorVaultRewards + (r.rewardPool -
          share r.rewardPool 10000 fees.protocolFeeBps - share r.rewardPool 10000 fees.ncnFeeBps) } := by
  have hpool : r.rewardPool < 2 ^ 64 := by omega
  -- the two fees together are within the pool
  have hsum : share r.rewardPool 10000 fees.protocolFeeBps + share r.rewardPool 10000 fees.ncnFeeBps ≤
      r.rewardPool := by
    have := sum_share_le (r := r.rewardPool) (W := 10000) (l := [fees.protocolFeeBps, fees.ncnFeeBps])
      (by simpa using hfees)
    simpa using this
  have hprotocol := NCNRewardRouter.calculateRewardSplit_eq hm
    (show fees.protocolFeeBps ≤ 10000 by omega) hpool
  have hncn := NCNRewardRouter.calculateRewardSplit_eq hm (show fees.ncnFeeBps ≤ 10000 by omega) hpool
  generalize share r.rewardPool 10000 fees.protocolFeeBps = a at hprotocol hsum ⊢
  generalize share r.rewardPool 10000 fees.ncnFeeBps = c at hncn hsum ⊢
  simp only [NCNRewardRouter.routeRewardPool, EStateM.run_bind, EStateM.run_get, hprotocol, hncn,
    ofExcept_ok, EStateM.run_pure]
  rw [NCNRewardRouter.routeFromRewardPool_run (by omega) (by omega)]
  simp only
  rw [NCNRewardRouter.routeToProtocol_run (by simp only; omega)]
  simp only
  rw [NCNRewardRouter.routeFromRewardPool_run (by simp only; omega) (by simp only; omega)]
  simp only
  rw [NCNRewardRouter.routeToNcn_run (by simp only; omega)]
  simp only
  rw [NCNRewardRouter.routeFromRewardPool_run (by simp only; omega) (by simp only; omega)]
  simp only
  rw [NCNRewardRouter.routeToOperatorVault_run (by simp only; omega)]
  simp only [EStateM.Result.ok.injEq, true_and]
  congr 1
  · omega
  · omega

namespace Books
variable {ps : List Pubkey} {r : NCNRewardRouter} {rs : List RewardRoute} {math : PreciseMath}
  {votes : List OperatorVote} {idx W R : ℕ}

/-- A new router has nothing on its books. -/
lemma new (ps : List Pubkey) (ncn : Pubkey) (epoch : ℕ) (bump : UInt8) (slot : ℕ) :
    Books ps (.new ncn epoch bump slot) [] where
  routes := RoutesTo.new
  payees := by simp
  processed := rfl
  fits := Nat.two_pow_pos 64

/-- What the receiver holds beyond rent and known rewards goes to the pool. -/
lemma routeIncomingRewards_run (h : Books ps r rs) {rent balance : ℕ}
    (hsolvent : rent + r.rewardPool + r.rewardsProcessed ≤ balance) (hbalance : balance < 2 ^ 64)
    (htotal : r.totalRewards + (balance - (r.rewardPool + r.rewardsProcessed) - rent) < 2 ^ 64) :
    (NCNRewardRouter.routeIncomingRewards rent balance).run r = .ok ()
      { r with
        totalRewards := r.totalRewards + (balance - (r.rewardPool + r.rewardsProcessed) - rent)
        rewardPool := r.rewardPool + (balance - (r.rewardPool + r.rewardsProcessed) - rent) } := by
  have h₁ : r.totalRewardsInTransit = .ok (r.rewardPool + r.rewardsProcessed) := by
    simp only [NCNRewardRouter.totalRewardsInTransit, checkedAdd_of_lt h.fits]
    rfl
  have h₂ : checkedSub balance (r.rewardPool + r.rewardsProcessed) =
      some (balance - (r.rewardPool + r.rewardsProcessed)) := checkedSub_of_le (by omega)
  have h₃ : checkedSub (balance - (r.rewardPool + r.rewardsProcessed)) rent =
      some (balance - (r.rewardPool + r.rewardsProcessed) - rent) := checkedSub_of_le (by omega)
  simp only [NCNRewardRouter.routeIncomingRewards, EStateM.run_bind, EStateM.run_get, h₁, ofExcept_ok,
    EStateM.run_pure, h₂, okOr_some, h₃]
  exact NCNRewardRouter.routeToRewardPool_run htotal (by omega)

/-- The pool is split exactly. -/
lemma routeRewardPool_run (h : Books ps r rs) (hm : math.Documented) {fees : Fees}
    (hfees : fees.protocolFeeBps + fees.ncnFeeBps ≤ 10000) :
    (NCNRewardRouter.routeRewardPool math fees).run r = .ok ()
      { r with
        rewardPool := 0
        rewardsProcessed := r.rewardsProcessed + r.rewardPool
        protocolRewards := r.protocolRewards + share r.rewardPool 10000 fees.protocolFeeBps
        ncnRewards := r.ncnRewards + share r.rewardPool 10000 fees.ncnFeeBps
        operatorVaultRewards := r.operatorVaultRewards + (r.rewardPool -
          share r.rewardPool 10000 fees.protocolFeeBps - share r.rewardPool 10000 fees.ncnFeeBps) } := by
  have hproc := h.processed
  exact NCNRewardRouter.routeRewardPool_run (by omega) h.fits hm hfees

/-- Adding to an operator's route keeps the books, once the amount has left the operators' counter. -/
lemma routeToOperatorVaultRewardRoute_spec (hroutes : RoutesTo r.operatorVaultRewardRoutes rs)
    (hpayees : rs.map (·.payee) ⊆ ps) {operator : Pubkey} (hne : operator ≠ .default)
    (hmem : operator ∈ ps) (hroom : ps.length ≤ maxOperators) (rewards : ℕ)
    (hsum : (rs.map (·.rewards)).sum + rewards < 2 ^ 64) :
    ∃ t rs', (NCNRewardRouter.routeToOperatorVaultRewardRoute operator rewards).run r =
        .ok () { r with operatorVaultRewardRoutes := t } ∧ RoutesTo t rs' ∧
      rs'.map (·.payee) ⊆ ps ∧ (rs'.map (·.rewards)).sum = (rs.map (·.rewards)).sum + rewards := by
  unfold NCNRewardRouter.routeToOperatorVaultRewardRoute
  split
  · rename_i h0
    exact ⟨r.operatorVaultRewardRoutes, rs, rfl, hroutes, hpayees, by rw [h0, Nat.add_zero]⟩
  · obtain ⟨t, rs', hrun, ht, hadds⟩ :=
      hroutes.add_run addsToRoute_routeInOnePass hne (hroutes.room hpayees hmem hroom) hsum
    refine ⟨t, rs', ?_, ht, ?_, hadds.sum_eq⟩
    · rw [NCNRewardRouter.onRoutes, run_zoom, hrun]
    · intro q hq
      rcases hadds.payees q hq with hq | rfl
      · exact hpayees hq
      · exact hmem

/-- One winning vote: its share moves from the operators' counter to the operator's route. -/
lemma routeVote_spec (h : Books ps r rs) (hm : math.Documented) (he : Electorate votes idx W ps)
    (hR : R < 2 ^ 64) {v : OperatorVote} (hv : v ∈ votes) (hi : v.ballotIndex = idx)
    (hcov : share R W v.stakeWeights.stakeWeight ≤ r.operatorVaultRewards) :
    ∃ r' rs', (NCNRewardRouter.routeVote math W R v).run r = .ok () r' ∧ Books ps r' rs' ∧
      SameTotals r r' ∧
      r'.operatorVaultRewards = r.operatorVaultRewards - share R W v.stakeWeights.stakeWeight := by
  have hcalc := NCNRewardRouter.calculateOperatorVaultRouteReward_eq hm (he.stake_le_of_mem hv hi) he.lt hR
  have hproc := h.processed
  have hfits := h.fits
  obtain ⟨t, rs', hrun, ht, hpayees, hsum⟩ := routeToOperatorVaultRewardRoute_spec
    (r := { r with operatorVaultRewards := r.operatorVaultRewards - share R W v.stakeWeights.stakeWeight })
    h.routes h.payees (he.voter_ne v hv hi) (he.voter v hv hi) he.room
    (share R W v.stakeWeights.stakeWeight) (by omega)
  refine ⟨{ r with
    operatorVaultRewards := r.operatorVaultRewards - share R W v.stakeWeights.stakeWeight
    operatorVaultRewardRoutes := t }, rs', ?_, ?_, ?_, ?_⟩
  · simp only [NCNRewardRouter.routeVote, EStateM.run_bind, hcalc, ofExcept_ok, EStateM.run_pure,
      NCNRewardRouter.routeFromOperatorVaultRewards_run hcov, hrun]
  · exact ⟨ht, hpayees, by simp only [hsum]; omega, hfits⟩
  · exact ⟨rfl, rfl, rfl⟩
  · rfl

/-- What the chunked loop keeps, for the votes still to come. -/
def Covers (ps : List Pubkey) (votes : List OperatorVote) (idx W R : ℕ) (r₀ : NCNRewardRouter)
    (todo : List OperatorVote) (r : NCNRewardRouter) : Prop :=
  todo ⊆ votes ∧ SameTotals r₀ r ∧ ∃ rs, Books ps r rs ∧ owed idx W R todo ≤ r.operatorVaultRewards

/-- The loop goes to the end, or to a checkpoint from which the rest is covered. -/
lemma routeVotes_spec (hm : math.Documented) (he : Electorate votes idx W ps) (hR : R < 2 ^ 64)
    {r₀ : NCNRewardRouter} {limit start : ℕ} (hstart : start < maxOperators)
    (h : Covers ps votes idx W R r₀ (votes.drop start) r) :
    ∃ finished r', (chunked (fun v => v.ballotIndex == idx) (NCNRewardRouter.routeVote math W R)
        (NCNRewardRouter.saveRoutingState R) (arithmeticOverflow : ProgramError) limit 0 start
        (votes.drop start)).run r = .ok finished r' ∧
      (finished = true → Covers ps votes idx W R r₀ [] r') ∧
      (finished = false → ∃ k r₁, k < maxOperators ∧ Covers ps votes idx W R r₀ (votes.drop k) r₁ ∧
        r' = { r₁ with lastVoteIndex := k, lastRewardsToProcess := R }) := by
  have hlen : (votes.drop start).length = 256 - start := by
    rw [List.length_drop, he.length]
  have hstart' : start < 256 := hstart
  have hbody : ∀ v todo s, (v.ballotIndex == idx) = true → Covers ps votes idx W R r₀ (v :: todo) s →
      ∃ s', (NCNRewardRouter.routeVote math W R v).run s = .ok () s' ∧
        Covers ps votes idx W R r₀ todo s' := by
    rintro v todo s hv ⟨hsub, hsame, rs, hbooks, hcov⟩
    rw [beq_iff_eq] at hv
    rw [owed, weightOf_cons, if_pos hv] at hcov
    obtain ⟨hvm, hsub'⟩ := List.cons_subset.1 hsub
    obtain ⟨s', rs', hrun, hbooks', hsame', hop⟩ := hbooks.routeVote_spec hm he hR hvm hv (by omega)
    refine ⟨s', hrun, hsub', hsame.trans hsame', rs', hbooks', ?_⟩
    rw [hop, owed]
    omega
  have hskip : ∀ v todo s, (v.ballotIndex == idx) = false → Covers ps votes idx W R r₀ (v :: todo) s →
      Covers ps votes idx W R r₀ todo s := by
    rintro v todo s hv ⟨hsub, hsame, rs, hbooks, hcov⟩
    rw [beq_eq_false_iff_ne] at hv
    rw [owed, weightOf_cons, if_neg hv, Nat.zero_add] at hcov
    exact ⟨(List.cons_subset.1 hsub).2, hsame, rs, hbooks, hcov⟩
  obtain ⟨r', ⟨hrun, hI, _⟩ | ⟨k, r₁, hrun, hk, hI, hsave, _⟩⟩ := chunked_rule
    (NCNRewardRouter.saveRoutingState R) (arithmeticOverflow : ProgramError) limit (n := 0) (i := start)
    hbody hskip h (by rw [hlen]; omega) (Nat.zero_le _)
  · exact ⟨true, r', hrun, fun _ => hI, nofun⟩
  · have hk' : start + k < 256 := by omega
    refine ⟨false, r', hrun, nofun, fun _ => ⟨start + k, r₁, hk', ?_, ?_⟩⟩
    · rwa [List.drop_drop] at hI
    · rw [hsave, NCNRewardRouter.saveRoutingState, Nat.mod_eq_of_lt (by omega)]

/-- The end of a round: what rounding left goes to the NCN. -/
lemma finish_spec (h : Books ps r rs) :
    ∃ r', (do
        let leftoverRewards := (← get).operatorVaultRewards
        NCNRewardRouter.routeFromOperatorVaultRewards leftoverRewards
        NCNRewardRouter.routeToNcn leftoverRewards
        modify NCNRewardRouter.resetRoutingState : Mut NCNRewardRouter Unit).run r = .ok () r' ∧
      Books ps r' rs ∧ r'.stillRouting = false ∧ SameTotals r r' := by
  have hproc := h.processed
  have hfits := h.fits
  refine ⟨{ r with
    ncnRewards := r.ncnRewards + r.operatorVaultRewards
    operatorVaultRewards := r.operatorVaultRewards - r.operatorVaultRewards
    lastVoteIndex := NCNRewardRouter.noLastVoteIndex
    lastRewardsToProcess := NCNRewardRouter.noLastRewardsToProcess }, ?_, ?_, ?_, ?_⟩
  · simp only [EStateM.run_bind, EStateM.run_get,
      NCNRewardRouter.routeFromOperatorVaultRewards_run (Nat.le_refl _)]
    rw [NCNRewardRouter.routeToNcn_run (by simp only; omega)]
    rfl
  · exact ⟨h.routes, h.payees, by simp only; omega, hfits⟩
  · simp [NCNRewardRouter.stillRouting]
  · exact ⟨rfl, rfl, rfl⟩

/-- From a checkpoint or from the start, routing to the operators succeeds and can be resumed. -/
lemma routeOperatorVaultRewards_spec {box : BallotBox} {t : BallotTally} {limit : ℕ}
    (h : Books ps r rs) (hm : math.Documented) (hwin : box.getWinningBallotTally = .ok t)
    (he : Electorate box.operatorVotes.toList t.index t.stakeWeights.stakeWeight ps)
    (hres : Resumable box.operatorVotes.toList t.index t.stakeWeights.stakeWeight r) :
    ∃ r' rs', (NCNRewardRouter.routeOperatorVaultRewards math box limit).run r = .ok () r' ∧
      Books ps r' rs' ∧ Resumable box.operatorVotes.toList t.index t.stakeWeights.stakeWeight r' ∧
      SameTotals r r' := by
  -- the index to start from and the amount to split, resumed or fresh
  obtain ⟨start, R, hstart, hR, hstate, hcov⟩ : ∃ start R, start < maxOperators ∧ R < 2 ^ 64 ∧
      (r.resumeRoutingState.1 = start ∧ (if r.resumeRoutingState.2 > 0 then r.resumeRoutingState.2
        else r.operatorVaultRewards) = R) ∧
      owed t.index t.stakeWeights.stakeWeight R (box.operatorVotes.toList.drop start) ≤
        r.operatorVaultRewards := by
    have hproc := h.processed
    have hfits := h.fits
    cases hs : r.stillRouting with
    | false =>
      refine ⟨0, r.operatorVaultRewards, by decide, by omega, ?_, he.owed_le⟩
      simp [NCNRewardRouter.resumeRoutingState, hs]
    | true =>
      obtain ⟨hR, hpos, hlt, hcov⟩ := hres hs
      refine ⟨r.lastVoteIndex, r.lastRewardsToProcess, hlt, hR, ?_, hcov⟩
      simp [NCNRewardRouter.resumeRoutingState, hs, hpos]
  obtain ⟨hstart', hR'⟩ := hstate
  simp only [NCNRewardRouter.routeOperatorVaultRewards, hwin, ofExcept_ok, EStateM.run_bind,
    EStateM.run_pure, EStateM.run_get, hR', hstart']
  split
  · exact ⟨r, rs, rfl, h, hres, ⟨rfl, rfl, rfl⟩⟩
  · rename_i hpos
    obtain ⟨finished, r₁, hrun, htrue, hfalse⟩ := routeVotes_spec hm he hR hstart
      ⟨List.drop_subset _ _, ⟨rfl, rfl, rfl⟩, rs, h, hcov⟩
    rw [EStateM.run_bind, hrun]
    cases finished with
    | true =>
      obtain ⟨_, hsame, rs₁, hbooks, _⟩ := htrue rfl
      obtain ⟨r', hfin, hbooks', hs', hsame'⟩ := hbooks.finish_spec
      refine ⟨r', rs₁, hfin, hbooks', ?_, hsame.trans hsame'⟩
      intro hs
      rw [hs'] at hs
      cases hs
    | false =>
      obtain ⟨k, r₂, hk, ⟨_, hsame, rs₁, hbooks, hcov'⟩, rfl⟩ := hfalse rfl
      refine ⟨_, rs₁, rfl, ⟨hbooks.routes, hbooks.payees, hbooks.processed, hbooks.fits⟩, ?_,
        ⟨hsame.1, hsame.2, hsame.3⟩⟩
      exact fun _ => ⟨hR, Nat.pos_of_ne_zero hpos, hk, hcov'⟩

/-- A payout of `rewards`: they leave the processed rewards, and routing goes on where it was. -/
structure PaysOut (votes : List OperatorVote) (idx W rewards : ℕ) (r r' : NCNRewardRouter) : Prop where
  totalRewards : r'.totalRewards = r.totalRewards
  rewardPool : r'.rewardPool = r.rewardPool
  le : rewards ≤ r.rewardsProcessed
  rewardsProcessed : r'.rewardsProcessed = r.rewardsProcessed - rewards
  resumable : Resumable votes idx W r → Resumable votes idx W r'

/-- The NCN's rewards can be paid out. -/
lemma distributeNcnFeeRewards_spec (h : Books ps r rs) :
    ∃ rewards r', NCNRewardRouter.distributeNcnFeeRewards.run r = .ok rewards r' ∧ Books ps r' rs ∧
      PaysOut votes idx W rewards r r' := by
  have hproc := h.processed
  have hfits := h.fits
  have hle : r.ncnRewards ≤ r.rewardsProcessed := by omega
  refine ⟨r.ncnRewards, { r with
    ncnRewards := 0, rewardsProcessed := r.rewardsProcessed - r.ncnRewards }, ?_, ?_, ?_⟩
  · simp only [NCNRewardRouter.distributeNcnFeeRewards, EStateM.run_bind, EStateM.run_get,
      EStateM.run_modify]
    rw [NCNRewardRouter.decrementRewardsProcessed_run (by exact hle)]
    rfl
  · exact ⟨h.routes, h.payees, by simp only; omega, by simp only; omega⟩
  · exact ⟨rfl, rfl, hle, rfl, fun hres => hres⟩

/-- The protocol's rewards can be paid out. -/
lemma distributeProtocolFeeRewards_spec (h : Books ps r rs) :
    ∃ rewards r', NCNRewardRouter.distributeProtocolFeeRewards.run r = .ok rewards r' ∧ Books ps r' rs ∧
      PaysOut votes idx W rewards r r' := by
  have hproc := h.processed
  have hfits := h.fits
  have hle : r.protocolRewards ≤ r.rewardsProcessed := by omega
  refine ⟨r.protocolRewards, { r with
    protocolRewards := 0, rewardsProcessed := r.rewardsProcessed - r.protocolRewards }, ?_, ?_, ?_⟩
  · simp only [NCNRewardRouter.distributeProtocolFeeRewards, EStateM.run_bind, EStateM.run_get,
      EStateM.run_modify]
    rw [NCNRewardRouter.decrementRewardsProcessed_run (by exact hle)]
    rfl
  · exact ⟨h.routes, h.payees, by simp only; omega, by simp only; omega⟩
  · exact ⟨rfl, rfl, hle, rfl, fun hres => hres⟩

/-- The rewards of an operator that has a route can be paid out. -/
lemma distributeOperatorVaultRewardRoute_spec (h : Books ps r rs) {operator : Pubkey}
    (hroute : r.operatorVaultRewardRoutes.any (·.payee == operator) = true) :
    ∃ rewards r' rs', (NCNRewardRouter.distributeOperatorVaultRewardRoute operator).run r =
        .ok rewards r' ∧ Books ps r' rs' ∧ PaysOut votes idx W rewards r r' := by
  have hproc := h.processed
  have hfits := h.fits
  obtain ⟨rewards, t', hrun⟩ := RoutesTo.emptyRoute_succeeds arithmeticOverflow hroute
  obtain ⟨rs', hroutes', hpayees', hsum⟩ := h.routes.emptyRoute hrun
  have hle : rewards ≤ r.rewardsProcessed := by omega
  refine ⟨rewards, { r with
    operatorVaultRewardRoutes := t', rewardsProcessed := r.rewardsProcessed - rewards }, rs', ?_, ?_, ?_⟩
  · simp only [NCNRewardRouter.distributeOperatorVaultRewardRoute, NCNRewardRouter.onRoutes,
      EStateM.run_bind, run_zoom, hrun]
    rw [NCNRewardRouter.decrementRewardsProcessed_run (by exact hle)]
    rfl
  · exact ⟨hroutes', hpayees' ▸ h.payees, by simp only; omega, by simp only; omega⟩
  · exact ⟨rfl, rfl, hle, rfl, fun hres => hres⟩

end Books
end NcnProgram
