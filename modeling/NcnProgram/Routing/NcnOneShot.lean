import NcnProgram.Routing.Dues
import NcnProgram.Routing.NcnRewards

/-!
# Routing to the operators in chunks is the pro-rata split

However many winning votes a call of `route_operator_vault_rewards` may handle, the calls together pay every
winning vote the floor of its share and give the NCN what is left. What makes the cuts invisible is `Underway`:
at every point of a round, paying the votes still to come leads to the router at the end of the round. A vote
that is routed, a vote that is passed over and a checkpoint keep it.
-/

namespace NcnProgram
open Lib NCNProgramError

/-! ## The routers of a ballot box -/

namespace NCNRewardRouter

/-- One successful call of a method that routes over the ballot box or distributes, in any order. -/
inductive Step (math : PreciseMath) (box : BallotBox) : NCNRewardRouter → NCNRewardRouter → Prop
  | routeIncomingRewards {r r'} (rentCost accountBalance : ℕ) : accountBalance < 2 ^ 64 →
      (routeIncomingRewards rentCost accountBalance).run r = .ok () r' → Step math box r r'
  | routeRewardPool {r r'} (fee : Fees) :
      (routeRewardPool math fee).run r = .ok () r' → Step math box r r'
  | routeOperatorVaultRewards {r r'} (maxIterations : ℕ) :
      (routeOperatorVaultRewards math box maxIterations).run r = .ok () r' → Step math box r r'
  | distribute {r r' rewards} (p : NcnPayout) : p.distribute.run r = .ok rewards r' → Step math box r r'

/-- A router that such calls make out of a new one. -/
def Reachable (math : PreciseMath) (box : BallotBox) (r : NCNRewardRouter) : Prop :=
  ∃ ncn epoch bump slot, Run (Step math box) (new ncn epoch bump slot) r

variable {r r' : NCNRewardRouter} {rewards : ℕ} {u : Unit}

/-- What leaves the pool is processed. -/
lemma routeFromRewardPool_run_ok (h : (routeFromRewardPool rewards).run r = .ok u r') :
    rewards ≤ r.rewardPool ∧ r' = { r with
      rewardPool := r.rewardPool - rewards, rewardsProcessed := r.rewardsProcessed + rewards } := by
  obtain ⟨_, _, hdebit, hcredit⟩ := run_bind_ok.1 h
  obtain ⟨hle, rfl⟩ := debit_run_ok rfl hdebit
  exact ⟨hle, credit_run_ok rfl hcredit⟩

end NCNRewardRouter

/-- A round that is covered stays so while the operators' rewards do not shrink. -/
lemma Resumable.mono {votes : List OperatorVote} {idx W : ℕ} {r r' : NCNRewardRouter}
    (h : Resumable votes idx W r)
    (hop : r.operatorVaultRewards ≤ r'.operatorVaultRewards) (hidx : r'.lastVoteIndex = r.lastVoteIndex)
    (hlast : r'.lastRewardsToProcess = r.lastRewardsToProcess) : Resumable votes idx W r' := by
  intro hs
  rw [NCNRewardRouter.stillRouting, hidx, hlast] at hs
  obtain ⟨hlt, hpos, hindex, howed⟩ := h hs
  rw [hidx, hlast]
  exact ⟨hlt, hpos, hindex, howed.trans hop⟩

namespace Books
variable {math : PreciseMath} {box : BallotBox} {ps : List Pubkey} {r r' : NCNRewardRouter}
  {rs : List RewardRoute}

/-- Incoming rewards keep the books. -/
lemma routeIncomingRewards_keeps (h : Books ps r rs) {rent balance : ℕ} (hbalance : balance < 2 ^ 64)
    (hrun : (NCNRewardRouter.routeIncomingRewards rent balance).run r = .ok () r') :
    Books ps r' rs ∧ r'.operatorVaultRewards = r.operatorVaultRewards ∧
      r'.lastVoteIndex = r.lastVoteIndex ∧ r'.lastRewardsToProcess = r.lastRewardsToProcess := by
  obtain ⟨_, _, hg, hrun⟩ := run_bind_ok.1 hrun
  cases hg
  obtain ⟨total, _, hg, hrun⟩ := run_bind_ok.1 hrun
  obtain ⟨htotal, rfl⟩ := run_ofExcept_ok.1 hg
  obtain ⟨incoming, _, hg, hrun⟩ := run_bind_ok.1 hrun
  obtain ⟨hincoming, rfl⟩ := run_okOr_ok.1 hg
  obtain ⟨surplus, _, hg, hrun⟩ := run_bind_ok.1 hrun
  obtain ⟨hsurplus, rfl⟩ := run_okOr_ok.1 hg
  obtain ⟨_, _, hg, hrun⟩ := run_bind_ok.1 hrun
  cases credit_run_ok rfl hg
  cases credit_run_ok rfl hrun
  rw [NCNRewardRouter.totalRewardsInTransit, checkedAdd_of_lt h.fits] at htotal
  cases htotal
  have := checkedSub_eq_some.1 hincoming
  have := checkedSub_eq_some.1 hsurplus
  exact ⟨⟨h.routes, h.payees, h.processed, by simp only; omega⟩, rfl, rfl, rfl⟩

/-- Splitting the pool keeps the books, whatever the fees are: the operators' rewards only grow. -/
lemma routeRewardPool_keeps (h : Books ps r rs) {fee : Fees}
    (hrun : (NCNRewardRouter.routeRewardPool math fee).run r = .ok () r') :
    Books ps r' rs ∧ r.operatorVaultRewards ≤ r'.operatorVaultRewards ∧
      r'.lastVoteIndex = r.lastVoteIndex ∧ r'.lastRewardsToProcess = r.lastRewardsToProcess := by
  obtain ⟨_, _, hg, hrun⟩ := run_bind_ok.1 hrun
  cases hg
  obtain ⟨protocolFee, _, hg, hrun⟩ := run_bind_ok.1 hrun
  obtain ⟨_, rfl⟩ := run_ofExcept_ok.1 hg
  obtain ⟨_, _, hg, hrun⟩ := run_bind_ok.1 hrun
  obtain ⟨hprotocol, rfl⟩ := NCNRewardRouter.routeFromRewardPool_run_ok hg
  obtain ⟨_, _, hg, hrun⟩ := run_bind_ok.1 hrun
  cases credit_run_ok rfl hg
  obtain ⟨ncnFee, _, hg, hrun⟩ := run_bind_ok.1 hrun
  obtain ⟨_, rfl⟩ := run_ofExcept_ok.1 hg
  obtain ⟨_, _, hg, hrun⟩ := run_bind_ok.1 hrun
  obtain ⟨hncn, rfl⟩ := NCNRewardRouter.routeFromRewardPool_run_ok hg
  obtain ⟨_, _, hg, hrun⟩ := run_bind_ok.1 hrun
  cases credit_run_ok rfl hg
  obtain ⟨_, _, hg, hrun⟩ := run_bind_ok.1 hrun
  cases hg
  obtain ⟨_, _, hg, hrun⟩ := run_bind_ok.1 hrun
  obtain ⟨_, rfl⟩ := NCNRewardRouter.routeFromRewardPool_run_ok hg
  cases credit_run_ok rfl hrun
  have hproc := h.processed
  have hfits := h.fits
  simp only at hprotocol hncn
  exact ⟨⟨h.routes, h.payees, by simp only; omega, by simp only; omega⟩, Nat.le_add_right _ _, rfl, rfl⟩

/-- Every call keeps the books, and a round that is underway stays covered. -/
lemma step {t : BallotTally} (h : Books ps r rs) (hm : math.Documented)
    (hwin : box.getWinningBallotTally = .ok t)
    (he : Electorate box.operatorVotes.toList t.index t.stakeWeights.stakeWeight ps)
    (hres : Resumable box.operatorVotes.toList t.index t.stakeWeights.stakeWeight r)
    (hstep : NCNRewardRouter.Step math box r r') :
    ∃ rs', Books ps r' rs' ∧ Resumable box.operatorVotes.toList t.index t.stakeWeights.stakeWeight r' := by
  cases hstep with
  | routeIncomingRewards rentCost accountBalance hbalance hrun =>
    obtain ⟨h', hop, hidx, hlast⟩ := h.routeIncomingRewards_keeps hbalance hrun
    exact ⟨rs, h', hres.mono hop.ge hidx hlast⟩
  | routeRewardPool fee hrun =>
    obtain ⟨h', hop, hidx, hlast⟩ := h.routeRewardPool_keeps hrun
    exact ⟨rs, h', hres.mono hop hidx hlast⟩
  | routeOperatorVaultRewards maxIterations hrun =>
    obtain ⟨r₁, rs', hrun', h', hres', _⟩ : ∃ r₁ rs',
        (NCNRewardRouter.routeOperatorVaultRewards math box maxIterations).run r = .ok () r₁ ∧ Books ps r₁ rs' ∧
          Resumable box.operatorVotes.toList t.index t.stakeWeights.stakeWeight r₁ ∧ SameTotals r r₁ :=
      h.routeOperatorVaultRewards_spec hm hwin he hres
    rw [hrun] at hrun'
    cases hrun'
    exact ⟨rs', h', hres'⟩
  | distribute p hrun =>
    cases p with
    | protocolFee =>
      obtain ⟨_, r₁, hrun', h', hp⟩ := h.distributeProtocolFeeRewards_spec
      cases hrun.symm.trans hrun'
      exact ⟨rs, h', hp.resumable hres⟩
    | ncnFee =>
      obtain ⟨_, r₁, hrun', h', hp⟩ := h.distributeNcnFeeRewards_spec
      cases hrun.symm.trans hrun'
      exact ⟨rs, h', hp.resumable hres⟩
    | operatorVaultRoute operator =>
      obtain ⟨_, _, hz, _⟩ := run_bind_ok.1 hrun
      obtain ⟨_, hempty, _⟩ := run_zoom_ok.1 hz
      obtain ⟨_, r₁, rs', hrun', h', hp⟩ :=
        h.distributeOperatorVaultRewardRoute_spec (RoutesTo.any_of_emptyRoute hempty)
      cases hrun.symm.trans hrun'
      exact ⟨rs', h', hp.resumable hres⟩

/-- The books of every router that is reachable over the ballot box. -/
lemma of_reachable {t : BallotTally} (hm : math.Documented) (hwin : box.getWinningBallotTally = .ok t)
    (he : Electorate box.operatorVotes.toList t.index t.stakeWeights.stakeWeight ps)
    (h : r.Reachable math box) : ∃ rs, Books ps r rs := by
  obtain ⟨ncn, epoch, bump, slot, hrun⟩ := h
  obtain ⟨⟨rs, hb⟩, _⟩ := hrun.invariant (I := fun r => (∃ rs, Books ps r rs) ∧
      Resumable box.operatorVotes.toList t.index t.stakeWeights.stakeWeight r)
    ⟨⟨[], .new ps ncn epoch bump slot⟩, nofun⟩ (by
      rintro r r' hstep ⟨⟨rs, hb⟩, hres⟩
      obtain ⟨rs', hb', hres'⟩ := hb.step hm hwin he hres hstep
      exact ⟨⟨rs', hb'⟩, hres'⟩)
  exact ⟨rs, hb⟩

end Books

/-! ## A round -/

/-- What a winning vote is due of `R`. -/
def voteDue (W R : ℕ) (v : OperatorVote) : Pubkey × ℕ :=
  (v.operator, share R W v.stakeWeights.stakeWeight)

/-- Paying the votes still to come leads from the router to the end of the round, where `leftover` has gone to
the NCN. -/
structure Underway (idx W R leftover : ℕ) (final : NCNRewardRouter) (todo : List OperatorVote)
    (r : NCNRewardRouter) : Prop where
  pays : (((todo.filter (·.ballotIndex == idx)).map (voteDue W R)).forM (payDue routeInOnePass)).run
    r.operatorVaultRewardRoutes = .ok () final.operatorVaultRewardRoutes
  covered : r.operatorVaultRewards = leftover + owed idx W R todo
  same : final = { r with
    ncnRewards := r.ncnRewards + leftover
    operatorVaultRewards := 0
    lastVoteIndex := NCNRewardRouter.noLastVoteIndex
    lastRewardsToProcess := NCNRewardRouter.noLastRewardsToProcess
    operatorVaultRewardRoutes := final.operatorVaultRewardRoutes }

/-- Paying a due of the table is routing it in the router. -/
lemma NCNRewardRouter.routeToOperatorVaultRewardRoute_run {r : NCNRewardRouter} {operator : Pubkey} {x : ℕ}
    {t : Table OperatorVaultRewardRoute maxOperators}
    (h : (payDue routeInOnePass (operator, x)).run r.operatorVaultRewardRoutes = .ok () t) :
    (routeToOperatorVaultRewardRoute operator x).run r = .ok () { r with operatorVaultRewardRoutes := t } := by
  unfold payDue at h
  unfold routeToOperatorVaultRewardRoute
  split
  · rename_i h0
    rw [if_pos h0] at h
    cases h
    rfl
  · rename_i h0
    rw [if_neg h0] at h
    rw [onRoutes, run_zoom, h]

namespace Underway
variable {math : PreciseMath} {box : BallotBox} {votes todo : List OperatorVote} {ps : List Pubkey}
  {idx W R leftover c : ℕ} {final r : NCNRewardRouter} {v : OperatorVote}

/-- A winning vote is routed. -/
lemma routeVote (h : Underway idx W R leftover final (v :: todo) r) (hm : math.Documented)
    (hi : v.ballotIndex = idx) (hs : v.stakeWeights.stakeWeight ≤ W) (hW : W < 2 ^ 128) (hR : R < 2 ^ 64) :
    ∃ r', (NCNRewardRouter.routeVote math W R v).run r = .ok () r' ∧
      Underway idx W R leftover final todo r' := by
  obtain ⟨hpays, hcovered, hsame⟩ := h
  have hcalc := NCNRewardRouter.calculateOperatorVaultRouteReward_eq hm hs hW hR
  rw [List.filter_cons, if_pos (beq_iff_eq.2 hi), List.map_cons] at hpays
  obtain ⟨_, t, hpay, hpays⟩ := run_bind_ok.1 hpays
  rw [owed, weightOf_cons, if_pos hi] at hcovered
  have hroute := NCNRewardRouter.routeToOperatorVaultRewardRoute_run
    (r := { r with operatorVaultRewards := r.operatorVaultRewards - share R W v.stakeWeights.stakeWeight })
    hpay
  refine ⟨{ r with
    operatorVaultRewards := r.operatorVaultRewards - share R W v.stakeWeights.stakeWeight
    operatorVaultRewardRoutes := t }, ?_, hpays, ?_, hsame⟩
  · simp only [NCNRewardRouter.routeVote, EStateM.run_bind, hcalc, ofExcept_ok, EStateM.run_pure]
    rw [NCNRewardRouter.routeFromOperatorVaultRewards_run (by omega)]
    exact hroute
  · simp only [owed]
    omega

/-- Any other vote is passed over. -/
lemma skip (h : Underway idx W R leftover final (v :: todo) r) (hi : v.ballotIndex ≠ idx) :
    Underway idx W R leftover final todo r := by
  obtain ⟨hpays, hcovered, hsame⟩ := h
  rw [List.filter_cons, if_neg (by rwa [beq_iff_eq])] at hpays
  rw [owed, weightOf_cons, if_neg hi, Nat.zero_add] at hcovered
  exact ⟨hpays, hcovered, hsame⟩

/-- When no vote is left, the round is finished. -/
lemma finish (h : Underway idx W R leftover final [] r) (hncn : final.ncnRewards < 2 ^ 64) :
    (do
        let leftoverRewards := (← get).operatorVaultRewards
        NCNRewardRouter.routeFromOperatorVaultRewards leftoverRewards
        NCNRewardRouter.routeToNcn leftoverRewards
        modify NCNRewardRouter.resetRoutingState : Mut NCNRewardRouter Unit).run r = .ok () final := by
  obtain ⟨hpays, hcovered, hsame⟩ := h
  have hroutes : r.operatorVaultRewardRoutes = final.operatorVaultRewardRoutes :=
    (EStateM.Result.ok.inj hpays).2
  rw [owed, weightOf_nil, Nat.add_zero] at hcovered
  rw [hsame, ← hroutes] at hncn ⊢
  simp only [EStateM.run_bind, EStateM.run_get,
    NCNRewardRouter.routeFromOperatorVaultRewards_run (Nat.le_refl _)]
  rw [NCNRewardRouter.routeToNcn_run (by simp only [hcovered]; exact hncn), hcovered, Nat.sub_self]
  rfl

end Underway

/-- The router before the first call of a round or at a checkpoint, with `c` winning votes still to come. -/
def Pending (votes : List OperatorVote) (idx W R leftover : ℕ) (final : NCNRewardRouter) (c : ℕ)
    (r : NCNRewardRouter) : Prop :=
  ∃ k < maxOperators, (votes.drop k).countP (·.ballotIndex == idx) = c ∧
    Underway idx W R leftover final (votes.drop k) r ∧
    (r.stillRouting = false ∧ k = 0 ∧ r.operatorVaultRewards = R ∨
      r.stillRouting = true ∧ r.lastVoteIndex = k ∧ r.lastRewardsToProcess = R)

namespace Pending
variable {math : PreciseMath} {box : BallotBox} {t : BallotTally} {ps : List Pubkey} {R leftover c : ℕ}
  {final r : NCNRewardRouter}

/-- A call takes off as many winning votes as it may, or finishes the round. -/
lemma call (hm : math.Documented) (hwin : box.getWinningBallotTally = .ok t)
    (he : Electorate box.operatorVotes.toList t.index t.stakeWeights.stakeWeight ps) (hR : R < 2 ^ 64)
    (hpos : 0 < R) (hncn : final.ncnRewards < 2 ^ 64) (m : ℕ)
    (h : Pending box.operatorVotes.toList t.index t.stakeWeights.stakeWeight R leftover final c r) :
    ∃ r', (NCNRewardRouter.routeOperatorVaultRewards math box m).run r = .ok () r' ∧
      (c ≤ max m 1 → r' = final) ∧ (max m 1 < c →
        Pending box.operatorVotes.toList t.index t.stakeWeights.stakeWeight R leftover final (c - max m 1) r') := by
  obtain ⟨k, hk, hcount, hunder, hstate⟩ := h
  -- the index to start from and the amount to split, fresh or resumed
  have hresume : r.resumeRoutingState.1 = k ∧
      (if r.resumeRoutingState.2 > 0 then r.resumeRoutingState.2 else r.operatorVaultRewards) = R := by
    rcases hstate with ⟨hs, rfl, hop⟩ | ⟨hs, hidx, hlast⟩
    · simp [NCNRewardRouter.resumeRoutingState, hs, hop]
    · simp [NCNRewardRouter.resumeRoutingState, hs, hidx, hlast, hpos]
  obtain ⟨hstart, hamount⟩ := hresume
  have hk' : k < 256 := hk
  have hlen : (box.operatorVotes.toList.drop k).length = 256 - k := by rw [List.length_drop, he.length]
  simp only [NCNRewardRouter.routeOperatorVaultRewards, hwin, ofExcept_ok, EStateM.run_bind,
    EStateM.run_pure, EStateM.run_get, hamount, hstart]
  rw [if_neg (Nat.ne_of_gt hpos), EStateM.run_bind]
  have hbody : ∀ v todo s, (v.ballotIndex == t.index) = true → (v :: todo ⊆ box.operatorVotes.toList ∧
      Underway t.index t.stakeWeights.stakeWeight R leftover final (v :: todo) s) →
      ∃ s', (NCNRewardRouter.routeVote math t.stakeWeights.stakeWeight R v).run s = .ok () s' ∧
        todo ⊆ box.operatorVotes.toList ∧ Underway t.index t.stakeWeights.stakeWeight R leftover final todo s' := by
    rintro v todo s hv ⟨hsub, hu⟩
    obtain ⟨hmem, hsub'⟩ := List.cons_subset.1 hsub
    have hi := beq_iff_eq.1 hv
    obtain ⟨s', hrun, hu'⟩ := hu.routeVote hm hi (he.stake_le_of_mem hmem hi) he.lt hR
    exact ⟨s', hrun, hsub', hu'⟩
  have hskip : ∀ v todo s, (v.ballotIndex == t.index) = false → (v :: todo ⊆ box.operatorVotes.toList ∧
      Underway t.index t.stakeWeights.stakeWeight R leftover final (v :: todo) s) →
      todo ⊆ box.operatorVotes.toList ∧ Underway t.index t.stakeWeights.stakeWeight R leftover final todo s := by
    rintro v todo s hv ⟨hsub, hu⟩
    exact ⟨(List.cons_subset.1 hsub).2, hu.skip (beq_eq_false_iff_ne.1 hv)⟩
  obtain ⟨r', ⟨hrun, ⟨_, hdone⟩, hle⟩ | ⟨j, r₁, hrun, hj, ⟨_, hleft⟩, hsave, _, hcount', hmore⟩⟩ := chunked_rule
    (I := fun todo r => todo ⊆ box.operatorVotes.toList ∧
      Underway t.index t.stakeWeights.stakeWeight R leftover final todo r)
    (NCNRewardRouter.saveRoutingState R) (arithmeticOverflow : ProgramError) (max m 1) (n := 0) (i := k)
    hbody hskip ⟨List.drop_subset _ _, hunder⟩ (by rw [hlen]; omega) (Nat.zero_le _)
  · rw [hrun]
    rw [hcount, Nat.zero_add] at hle
    exact ⟨final, hdone.finish hncn, fun _ => rfl, fun h => absurd h (Nat.not_lt.2 hle)⟩
  · rw [hrun]
    rw [hcount, Nat.zero_add] at hcount'
    rw [List.drop_drop] at hleft hcount' hmore
    rw [NCNRewardRouter.saveRoutingState, Nat.mod_eq_of_lt (by omega)] at hsave
    rw [hsave]
    refine ⟨_, rfl, fun h => ?_, fun _ => ⟨k + j, ?_, ?_, ⟨hleft.pays, hleft.covered, hleft.same⟩,
      .inr ⟨?_, rfl, rfl⟩⟩⟩
    · omega
    · show k + j < 256
      omega
    · omega
    · -- an index of a vote is not the sentinel
      have hne : k + j ≠ 2 ^ 16 - 1 := by omega
      exact Bool.or_eq_true_iff.2 (.inl (bne_iff_ne.2 hne))

/-- Between calls the router says whether votes are still to come. -/
lemma stillRouting {votes : List OperatorVote} {idx W n : ℕ} (h : Pending votes idx W R leftover final c r)
    (hn : votes.countP (·.ballotIndex == idx) = n) (hc : c < n) : r.stillRouting = true := by
  obtain ⟨k, _, hcount, _, ⟨_, rfl, _⟩ | ⟨hs, _⟩⟩ := h
  · rw [List.drop_zero, hn] at hcount
    omega
  · exact hs

end Pending

/-! ## All rounds -/

/-- The votes for the winning ballot. -/
def BallotBox.winningVotes (box : BallotBox) (t : BallotTally) : List OperatorVote :=
  box.operatorVotes.toList.filter (·.ballotIndex == t.index)

/-- The pro-rata split of the operators' rewards at one stroke: every winner has the floor of its share of the
total `W` more, nobody else has, and less than one lamport for each winner is left and goes to the NCN. -/
structure ProRataSplit (winners : List OperatorVote) (W : ℕ) (r final : NCNRewardRouter) : Prop where
  winner : ∀ v ∈ winners, (routeOf final.operatorVaultRewardRoutes v.operator).rewards =
    (routeOf r.operatorVaultRewardRoutes v.operator).rewards +
      r.operatorVaultRewards * v.stakeWeights.stakeWeight / W
  other : ∀ operator ∉ winners.map (·.operator), (routeOf final.operatorVaultRewardRoutes operator).rewards =
    (routeOf r.operatorVaultRewardRoutes operator).rewards
  rest : ∃ leftover < winners.length,
    leftover + (winners.map fun v => r.operatorVaultRewards * v.stakeWeights.stakeWeight / W).sum =
      r.operatorVaultRewards ∧
    final = { r with
      ncnRewards := r.ncnRewards + leftover
      operatorVaultRewards := 0
      operatorVaultRewardRoutes := final.operatorVaultRewardRoutes }

/-- The winning votes of an accounted box are by different operators, and their stakes are the winning
total. -/
lemma Accounted.winningVotes {b : BallotBox} {vs : List OperatorVote} {ts : List BallotTally} {t : BallotTally}
    (h : Accounted b vs ts) (ht : b.getWinningBallotTally = .ok t) (hwin : b.winningBallot.isValid = true) :
    ((b.winningVotes t).map (·.operator)).Nodup ∧
      ((b.winningVotes t).map (·.stakeWeights.stakeWeight)).sum = t.stakeWeights.stakeWeight := by
  obtain ⟨t', ht', hcounts, hfree⟩ := h.winningTally hwin
  cases ht.symm.trans ht'
  have hvotes : b.winningVotes t = vs.filter (·.ballotIndex == t.index) := by
    have hnone : (List.replicate (maxOperators - vs.length) OperatorVote.default).filter
        (·.ballotIndex == t.index) = [] := by
      rw [List.filter_eq_nil_iff]
      intro v hv
      rw [beq_iff_eq]
      exact hfree v hv
    rw [BallotBox.winningVotes, h.votes, List.filter_append, hnone, List.append_nil]
  rw [hvotes]
  exact ⟨h.operators.sublist (List.filter_sublist.map _), hcounts.weight.symm⟩

/-- Paying all winning votes at once is the split. -/
lemma Books.exists_split {box : BallotBox} {t : BallotTally} {ps : List Pubkey} {r : NCNRewardRouter}
    {rs : List RewardRoute} (h : Books ps r rs)
    (he : Electorate box.operatorVotes.toList t.index t.stakeWeights.stakeWeight ps)
    (hnodup : ((box.winningVotes t).map (·.operator)).Nodup)
    (hsum : ((box.winningVotes t).map (·.stakeWeights.stakeWeight)).sum = t.stakeWeights.stakeWeight)
    (hW : 0 < t.stakeWeights.stakeWeight) (hidle : r.stillRouting = false) :
    ∃ leftover final, ProRataSplit (box.winningVotes t) t.stakeWeights.stakeWeight r final ∧
      final.stillRouting = false ∧ final.operatorVaultRewards = 0 ∧ final.ncnRewards < 2 ^ 64 ∧
      Underway t.index t.stakeWeights.stakeWeight r.operatorVaultRewards leftover final
        box.operatorVotes.toList r := by
  have hproc := h.processed
  have hfits := h.fits
  have hidle' := Bool.or_eq_false_iff.1 hidle
  have hidx := bne_eq_false_iff_eq.1 hidle'.1
  have hlast := bne_eq_false_iff_eq.1 hidle'.2
  have hshares : owed t.index t.stakeWeights.stakeWeight r.operatorVaultRewards box.operatorVotes.toList =
      ((box.winningVotes t).map fun v =>
        share r.operatorVaultRewards t.stakeWeights.stakeWeight v.stakeWeights.stakeWeight).sum := rfl
  have hle := he.owed_le (R := r.operatorVaultRewards)
  have hpayees : ∀ v ∈ box.winningVotes t,
      (voteDue t.stakeWeights.stakeWeight r.operatorVaultRewards v).2 ≠ 0 →
      v.operator ∈ ps ∧ v.operator ≠ .default := by
    intro v hv _
    obtain ⟨hv, hi⟩ := List.mem_filter.1 hv
    exact ⟨he.voter v hv (beq_iff_eq.1 hi), he.voter_ne v hv (beq_iff_eq.1 hi)⟩
  have hroutes_fit : (rs.map (·.rewards)).sum +
      owed t.index t.stakeWeights.stakeWeight r.operatorVaultRewards box.operatorVotes.toList < 2 ^ 64 := by omega
  obtain ⟨tf, hpays, hwinner, hother⟩ := h.routes.payDues_distinct opensRoutes_routeInOnePass h.payees he.room
    (f := voteDue t.stakeWeights.stakeWeight r.operatorVaultRewards) hnodup hpayees hroutes_fit
  have hlt := lt_sum_share_add_length (r := r.operatorVaultRewards) hsum hW
  rw [List.map_map, List.length_map] at hlt
  have hlt' : r.operatorVaultRewards <
      owed t.index t.stakeWeights.stakeWeight r.operatorVaultRewards box.operatorVotes.toList +
        (box.winningVotes t).length := hlt
  generalize howed : owed t.index t.stakeWeights.stakeWeight r.operatorVaultRewards
    box.operatorVotes.toList = paid at hshares hle hroutes_fit hlt'
  refine ⟨r.operatorVaultRewards - paid, { r with
    ncnRewards := r.ncnRewards + (r.operatorVaultRewards - paid)
    operatorVaultRewards := 0
    operatorVaultRewardRoutes := tf }, ⟨hwinner, hother, _, ?_, ?_, rfl⟩, hidle, rfl, ?_, hpays, ?_, ?_⟩
  · omega
  · exact hshares ▸ Nat.sub_add_cancel hle
  · simp only
    omega
  · omega
  · rw [← hidx, ← hlast]

/-- Over every ballot box with a winner, and from every router that is not in the middle of a round, calls with
any numbers of iterations end in the pro-rata split, the one that a single call with enough iterations makes.
They are done with the first call that brings the iterations to the number of winning votes, and then nothing
more happens. -/
theorem ncn_chunks_make_one_split {math : PreciseMath} (hm : math.Documented) {box : BallotBox}
    (hbox : box.Reachable math) {t : BallotTally} (ht : box.getWinningBallotTally = .ok t)
    (hW : 0 < t.stakeWeights.stakeWeight) {r : NCNRewardRouter} (hr : r.Reachable math box)
    (hidle : r.stillRouting = false) (hpos : 0 < r.operatorVaultRewards) :
    ∃ final, ProRataSplit (box.winningVotes t) t.stakeWeights.stakeWeight r final ∧
      final.stillRouting = false ∧
      (∀ ms : List ℕ, ms ≠ [] → ∃ r',
        (ms.forM (NCNRewardRouter.routeOperatorVaultRewards math box)).run r = .ok () r' ∧
        (r'.stillRouting = false ↔ (box.winningVotes t).length ≤ (ms.map (max · 1)).sum) ∧
        (r'.stillRouting = false → r' = final)) ∧
      ∀ m, (NCNRewardRouter.routeOperatorVaultRewards math box m).run final = .ok () final := by
  obtain ⟨vs, ts, hacc⟩ := hbox.accounted
  have hwin : box.winningBallot.isValid = true := by
    by_contra hno
    rw [BallotBox.getWinningBallotTally, if_neg hno] at ht
    cases ht
  obtain ⟨t', ht', he⟩ := hacc.electorate hwin
  cases ht.symm.trans ht'
  obtain ⟨hnodup, hsum⟩ := hacc.winningVotes ht hwin
  obtain ⟨rs, hb⟩ := Books.of_reachable hm ht he hr
  obtain ⟨leftover, final, hsplit, hfinal, hzero, hncn, hunder⟩ := hb.exists_split he hnodup hsum hW hidle
  obtain ⟨_, hlt, _⟩ := hsplit.rest
  have hproc := hb.processed
  have hfits := hb.fits
  have hdone (m : ℕ) : (NCNRewardRouter.routeOperatorVaultRewards math box m).run final = .ok () final := by
    simp only [NCNRewardRouter.routeOperatorVaultRewards, NCNRewardRouter.resumeRoutingState, ht, ofExcept_ok,
      EStateM.run_bind, EStateM.run_pure, EStateM.run_get, hfinal, Bool.false_eq_true, if_false, hzero]
    rfl
  have hcount : box.operatorVotes.toList.countP (·.ballotIndex == t.index) = (box.winningVotes t).length :=
    List.countP_eq_length_filter
  have hpending : Pending box.operatorVotes.toList t.index t.stakeWeights.stakeWeight r.operatorVaultRewards
      leftover final (box.winningVotes t).length r :=
    ⟨0, Nat.zero_lt_succ _, hcount, hunder, .inl ⟨hidle, rfl, rfl⟩⟩
  refine ⟨final, hsplit, hfinal, fun ms hms => ?_, hdone⟩
  exact forM_resumed_flag
    (P := Pending box.operatorVotes.toList t.index t.stakeWeights.stakeWeight r.operatorVaultRewards
      leftover final)
    (fun c s m _ h => h.call hm ht he (by omega) hpos hncn m) hdone (Nat.zero_lt_of_lt hlt) hpending
    (fun k s hk h => h.stillRouting hcount hk) hfinal hms

/-- Two winning voters with stakes ten and five and 940 lamports for them. -/
theorem ncn_chunks_make_one_split_two_winners :
    ∃ (box : BallotBox) (t : BallotTally) (r final : NCNRewardRouter),
      r.operatorVaultRewards = 940 ∧ (box.winningVotes t).map (·.stakeWeights.stakeWeight) = [10, 5] ∧
      ProRataSplit (box.winningVotes t) 15 r final ∧
      ∃ r', ([0, 1].forM (NCNRewardRouter.routeOperatorVaultRewards splMath box)).run r = .ok () r' ∧
        (r'.stillRouting = false ↔ (box.winningVotes t).length ≤ 2) ∧
        (r'.stillRouting = false → r' = final) := by
  let cast (operator : Pubkey) (w : StakeWeights) := BallotBox.castVote operator (.new 1) w 3 5
  let b₀ := BallotBox.new 1 0 0 0
  let b₁ := commit (cast 7 ⟨10, by decide⟩) b₀
  let b₂ := commit (cast 8 ⟨5, by decide⟩) b₁
  let b₃ := commit (BallotBox.tallyVotes splMath 15 3) b₂
  have h₁ : BallotBox.Step splMath b₀ b₁ :=
    ⟨.castVote 7 (.new 1) ⟨10, by decide⟩ 3 5, Succeeds.run_eq (by decide +kernel)⟩
  have h₂ : BallotBox.Step splMath b₁ b₂ :=
    ⟨.castVote 8 (.new 1) ⟨5, by decide⟩ 3 5, Succeeds.run_eq (by decide +kernel)⟩
  have h₃ : BallotBox.Step splMath b₂ b₃ := ⟨.tallyVotes 15 3, Succeeds.run_eq (by decide +kernel)⟩
  have hbox : b₃.Reachable splMath := ⟨1, 0, 0, 0, ((Relation.ReflTransGen.single h₁).tail h₂).tail h₃⟩
  let t : BallotTally := { index := 0, ballot := .new 1, stakeWeights := ⟨15, by decide⟩, tally := 2 }
  have ht : b₃.getWinningBallotTally = .ok t := by decide +kernel
  have hw : (b₃.winningVotes t).map (·.stakeWeights.stakeWeight) = [10, 5] := by decide +kernel
  let r₀ := NCNRewardRouter.new 1 0 0 0
  let r₁ := commit (NCNRewardRouter.routeIncomingRewards 5 1005) r₀
  let r₂ := commit (NCNRewardRouter.routeRewardPool splMath ⟨0, 400, 200⟩) r₁
  have s₁ : NCNRewardRouter.Step splMath b₃ r₀ r₁ :=
    .routeIncomingRewards 5 1005 (by decide) (Succeeds.run_eq (by decide +kernel))
  have s₂ : NCNRewardRouter.Step splMath b₃ r₁ r₂ :=
    .routeRewardPool ⟨0, 400, 200⟩ (Succeeds.run_eq (by decide +kernel))
  have hr : r₂.Reachable splMath b₃ := ⟨1, 0, 0, 0, (Relation.ReflTransGen.single s₁).tail s₂⟩
  have hidle : r₂.stillRouting = false := by decide +kernel
  have hrewards : r₂.operatorVaultRewards = 940 := by decide +kernel
  clear_value b₃ r₂
  obtain ⟨final, hsplit, _, hcalls, _⟩ := ncn_chunks_make_one_split splMath_documented hbox ht (by decide) hr
    hidle (hrewards ▸ by decide)
  exact ⟨b₃, t, r₂, final, hrewards, hw, hsplit, hcalls [0, 1] (by decide)⟩

end NcnProgram
