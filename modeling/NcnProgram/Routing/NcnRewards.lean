import NcnProgram.Lib.Escrow
import NcnProgram.Program.Rewards
import NcnProgram.Routing.NcnRouter
import NcnProgram.Voting.Accounting

/-!
# Conservation and solvency of the NCN's rewards

Deposits, route calls and payouts of one epoch in any order. The receiver and the counters of the router are
an `Escrow`, and every step of the program is a run of it; with the books of the router this is the invariant
`Kept`. It holds at the opening for every ballot box that votes can produce, because the tally of the winner
is exactly the stake of the votes for it.
-/

namespace NcnProgram
open Lib NCNProgramError

/-- The tally of the winner is one of the taken slots, and no free slot of the votes counts for it. -/
lemma Accounted.winningTally {b : BallotBox} {vs : List OperatorVote} {ts : List BallotTally}
    (h : Accounted b vs ts) (hwin : b.winningBallot.isValid = true) :
    ∃ t, b.getWinningBallotTally = .ok t ∧ Counts vs t.index t ∧
      ∀ v ∈ List.replicate (maxOperators - vs.length) OperatorVote.default, v.ballotIndex ≠ t.index := by
  obtain ⟨w, hw, hwb⟩ := h.winner hwin
  have hfind : b.ballotTallies.find? (·.ballot.eq b.winningBallot) =
      ts.find? (·.ballot.eq b.winningBallot) := h.tallies.find?_eq rfl
  obtain ⟨t, ht⟩ : ∃ t, ts.find? (·.ballot.eq b.winningBallot) = some t := by
    apply Option.isSome_iff_exists.1
    rw [List.find?_isSome]
    exact ⟨w, hw, Ballot.eq_iff.2 ⟨hwb ▸ hwin, hwin, by rw [hwb]⟩⟩
  obtain ⟨i, hi⟩ := List.mem_iff_getElem?.1 (List.mem_of_find?_eq_some ht)
  have hcounts := h.counts i t hi
  have hlt : i < ts.length := (List.getElem?_eq_some_iff.1 hi).1
  have hle : ts.length ≤ 256 := h.tallies.length_le
  refine ⟨t, ?_, hcounts.index.symm ▸ hcounts, ?_⟩
  · rw [BallotBox.getWinningBallotTally, if_pos hwin, hfind, ht]
    rfl
  · intro v hv
    rw [List.eq_of_mem_replicate hv, hcounts.index]
    show 2 ^ 16 - 1 ≠ i
    omega

/-- The winning votes of an accounted box are an electorate. -/
lemma Accounted.electorate {b : BallotBox} {vs : List OperatorVote} {ts : List BallotTally}
    (h : Accounted b vs ts) (hwin : b.winningBallot.isValid = true) :
    ∃ t, b.getWinningBallotTally = .ok t ∧
      Electorate b.operatorVotes.toList t.index t.stakeWeights.stakeWeight (vs.map (·.operator)) := by
  obtain ⟨t, ht, hcounts, hfree⟩ := h.winningTally hwin
  -- a winning vote is a recorded one
  have hvote : ∀ v ∈ b.operatorVotes.toList, v.ballotIndex = t.index → v ∈ vs := by
    intro v hv hvi
    rw [h.votes, List.mem_append] at hv
    exact hv.resolve_right fun hv => hfree v hv hvi
  refine ⟨t, ht, ?_⟩
  constructor
  case voter => exact fun v hv hvi => List.mem_map_of_mem (hvote v hv hvi)
  case voter_ne => exact fun v hv hvi => h.operator_ne v (hvote v hv hvi)
  case length => exact b.operatorVotes.length_eq
  case room => rw [List.length_map]; exact h.votes.length_le
  case stake_le => rw [h.votes, weightOf_append, weightOf_eq_zero hfree, hcounts.weight, Nat.add_zero]
  case lt => exact t.stakeWeights.lt

/-- One epoch, with what its NCN reward receiver has received and paid out in all. -/
structure NcnTreasury where
  epoch : Epoch
  received : ℕ
  paid : ℕ

/-- The three payouts from the NCN reward receiver. -/
inductive NcnPayout where
  | protocolFee
  | ncnFee
  | operatorVaultRoute (operator : Pubkey)

namespace NcnPayout

/-- The method of the router that a payout calls. -/
def distribute : NcnPayout → Mut NCNRewardRouter ℕ
  | protocolFee => NCNRewardRouter.distributeProtocolFeeRewards
  | ncnFee => NCNRewardRouter.distributeNcnFeeRewards
  | operatorVaultRoute operator => NCNRewardRouter.distributeOperatorVaultRewardRoute operator

/-- The router has a route for the payout: both fees always have one. -/
def hasRoute (r : NCNRewardRouter) : NcnPayout → Bool
  | protocolFee => true
  | ncnFee => true
  | operatorVaultRoute operator => r.operatorVaultRewardRoutes.any (·.payee == operator)

end NcnPayout

namespace NcnTreasury

/-- A deposit, a successful route call or a successful payout. All that is ever received stays in a
`u64`. -/
inductive Step (math : PreciseMath) (rent : ℕ) : NcnTreasury → NcnTreasury → Prop
  | deposit {s n e} : s.received + n < 2 ^ 64 → (Epoch.depositNcn n).run s.epoch = .ok () e →
      Step math rent s ⟨e, s.received + n, s.paid⟩
  | route {s clock maxIterations e} :
      (Epoch.processRouteNcnRewards math clock rent maxIterations).run s.epoch = .ok () e →
      Step math rent s { s with epoch := e }
  | payOut {s rewards e} (p : NcnPayout) : (Epoch.payOutNcn p.distribute).run s.epoch = .ok rewards e →
      Step math rent s ⟨e, s.received, s.paid + rewards⟩

/-- The beginning: a reachable box with a winner, fees within the whole, a new router, and a receiver that
holds its rent. -/
structure Opening (math : PreciseMath) (rent : ℕ) (s : NcnTreasury) : Prop where
  reachable : s.epoch.ballotBox.Reachable math
  winner : s.epoch.ballotBox.winningBallot.isValid = true
  fees : ∃ bps, s.epoch.epochSnapshot.fees.totalFeesBps = .ok bps ∧ bps ≤ 10000
  router : ∃ ncn epoch bump slot, s.epoch.ncnRewardRouter = .new ncn epoch bump slot
  rent_le : rent ≤ s.epoch.ncnRewardReceiver
  received : s.received = s.epoch.ncnRewardReceiver
  received_lt : s.received < 2 ^ 64
  paid : s.paid = 0

/-- The escrow of the receiver and the router. -/
def escrow (rent : ℕ) (s : NcnTreasury) : Escrow :=
  ⟨rent, s.epoch.ncnRewardReceiver, s.received, s.paid, s.epoch.ncnRewardRouter.totalRewards,
    s.epoch.ncnRewardRouter.rewardPool, s.epoch.ncnRewardRouter.rewardsProcessed⟩

/-- The invariant: the books are kept, routing can be resumed, the escrow is sound, and the accounts that
routing only reads are those of the opening `o`. -/
structure Kept (rent : ℕ) (o : Epoch) (t : BallotTally) (ps : List Pubkey) (s : NcnTreasury) : Prop where
  ballotBox : s.epoch.ballotBox = o.ballotBox
  config : s.epoch.config = o.config
  epochSnapshot : s.epoch.epochSnapshot = o.epochSnapshot
  books : ∃ rs, Books ps s.epoch.ncnRewardRouter rs
  resumable : Resumable o.ballotBox.operatorVotes.toList t.index t.stakeWeights.stakeWeight
    s.epoch.ncnRewardRouter
  sound : (s.escrow rent).Sound (2 ^ 64)

namespace Kept
variable {math : PreciseMath} {rent : ℕ} {o : Epoch} {t : BallotTally} {ps : List Pubkey}
  {s s' : NcnTreasury}

/-- The invariant holds at the opening. -/
lemma opening (h : s.Opening math rent) :
    ∃ t ps, s.epoch.ballotBox.getWinningBallotTally = .ok t ∧
      Electorate s.epoch.ballotBox.operatorVotes.toList t.index t.stakeWeights.stakeWeight ps ∧
      Kept rent s.epoch t ps s := by
  obtain ⟨vs, ts, hacc⟩ := h.reachable.accounted
  obtain ⟨t, hwin, he⟩ := hacc.electorate h.winner
  obtain ⟨ncn, epoch, bump, slot, hnew⟩ := h.router
  refine ⟨t, _, hwin, he, rfl, rfl, rfl, ⟨[], hnew ▸ Books.new _ ncn epoch bump slot⟩, ?_, ?_⟩
  · intro hs
    rw [hnew] at hs
    cases hs
  · have := h.received_lt
    have := h.received
    have := h.paid
    have := h.rent_le
    constructor <;> simp only [escrow, hnew, NCNRewardRouter.new] <;> omega

/-- A deposit is a deposit to the escrow. -/
lemma deposit (h : Kept rent o t ps s) {n : ℕ} {e : Epoch} (hn : s.received + n < 2 ^ 64)
    (hrun : (Epoch.depositNcn n).run s.epoch = .ok () e) :
    Kept rent o t ps ⟨e, s.received + n, s.paid⟩ := by
  cases hrun
  exact ⟨h.ballotBox, h.config, h.epochSnapshot, h.books, h.resumable, (Escrow.Step.deposit hn).sound h.sound⟩

/-- The first two phases of a call that begins a round: the surplus is absorbed and the whole pool is
processed. -/
lemma fresh_spec (h : Kept rent o t ps s) (hm : math.Documented)
    (hfees : o.epochSnapshot.fees.protocolFeeBps + o.epochSnapshot.fees.ncnFeeBps ≤ 10000)
    (hstill : s.epoch.ncnRewardRouter.stillRouting = false) :
    ∃ r₁ r₂, (NCNRewardRouter.routeIncomingRewards rent s.epoch.ncnRewardReceiver).run
        s.epoch.ncnRewardRouter = .ok () r₁ ∧
      (NCNRewardRouter.routeRewardPool math o.epochSnapshot.fees).run r₁ = .ok () r₂ ∧
      Kept rent o t ps { s with epoch := { s.epoch with ncnRewardRouter := r₂ } } := by
  obtain ⟨rs, hb⟩ := h.books
  obtain ⟨habs, hcoins, hsolv, hrec⟩ := h.sound
  have hsound := (Escrow.Step.process (Nat.le_refl _)).sound (Escrow.Step.absorb.sound h.sound)
  simp only [escrow] at habs hcoins hsolv hrec
  have hproc := hb.processed
  have hincoming := hb.routeIncomingRewards_run hsolv (by omega) (by omega)
  simp only [Escrow.process, Escrow.absorb, Escrow.surplus, escrow] at hsound
  generalize hδ : s.epoch.ncnRewardReceiver - (s.epoch.ncnRewardRouter.rewardPool +
    s.epoch.ncnRewardRouter.rewardsProcessed) - rent = δ at hincoming hsound
  have hb₁ : Books ps { s.epoch.ncnRewardRouter with
      totalRewards := s.epoch.ncnRewardRouter.totalRewards + δ
      rewardPool := s.epoch.ncnRewardRouter.rewardPool + δ } rs :=
    ⟨hb.routes, hb.payees, hproc, by simp only; omega⟩
  refine ⟨_, _, hincoming, hb₁.routeRewardPool_run hm hfees, h.ballotBox, h.config, h.epochSnapshot,
    ⟨rs, hb.routes, hb.payees, ?_, ?_⟩, ?_, ?_⟩
  · have := sum_share_le (r := s.epoch.ncnRewardRouter.rewardPool + δ) (W := 10000)
      (l := [o.epochSnapshot.fees.protocolFeeBps, o.epochSnapshot.fees.ncnFeeBps]) (by simpa using hfees)
    simp only [List.map_cons, List.map_nil, List.sum_cons, List.sum_nil] at this ⊢
    omega
  · simp only
    omega
  · exact fun hs => absurd (hstill.symm.trans hs) (by decide)
  · simpa only [escrow, Nat.sub_self] using hsound

/-- The last phase, from the start or from a checkpoint. -/
lemma operators_spec (h : Kept rent o t ps s) (hm : math.Documented)
    (hwin : o.ballotBox.getWinningBallotTally = .ok t)
    (he : Electorate o.ballotBox.operatorVotes.toList t.index t.stakeWeights.stakeWeight ps)
    (maxIterations : ℕ) :
    ∃ r, (NCNRewardRouter.routeOperatorVaultRewards math o.ballotBox maxIterations).run
        s.epoch.ncnRewardRouter = .ok () r ∧
      ∀ es, Kept rent o t ps { s with epoch := { s.epoch with ncnRewardRouter := r, epochState := es } } := by
  obtain ⟨rs, hb⟩ := h.books
  obtain ⟨r, rs', hrun, hb', hres, hsame⟩ := hb.routeOperatorVaultRewards_spec hm hwin he h.resumable
  refine ⟨r, hrun, fun es => ⟨h.ballotBox, h.config, h.epochSnapshot, ⟨rs', hb'⟩, hres, ?_⟩⟩
  have hsound := h.sound
  simp only [escrow, hsame.totalRewards, hsame.rewardPool, hsame.rewardsProcessed] at hsound ⊢
  exact hsound

/-- Once voting is over, every route call succeeds and keeps the invariant. -/
lemma route_spec (h : Kept rent o t ps s) (hm : math.Documented)
    (hwin : o.ballotBox.getWinningBallotTally = .ok t)
    (he : Electorate o.ballotBox.operatorVotes.toList t.index t.stakeWeights.stakeWeight ps)
    (hfees : o.epochSnapshot.fees.protocolFeeBps + o.epochSnapshot.fees.ncnFeeBps ≤ 10000)
    {clock : Clock} (maxIterations : ℕ)
    (hover : o.ballotBox.isVotingValid clock.slot o.config.validSlotsAfterConsensus = .ok false) :
    ∃ e, (Epoch.processRouteNcnRewards math clock rent maxIterations).run s.epoch = .ok () e ∧
      Kept rent o t ps { s with epoch := e } := by
  simp only [Epoch.processRouteNcnRewards, EStateM.run_bind, EStateM.run_get, h.ballotBox, h.config,
    h.epochSnapshot, hover, ofExcept_ok, EStateM.run_pure, ensure_pos]
  cases hstill : s.epoch.ncnRewardRouter.stillRouting with
  | true =>
    obtain ⟨r, hrun, hkept⟩ := h.operators_spec hm hwin he maxIterations
    refine ⟨_, ?_, hkept (s.epoch.epochState.updateRouteRewards r.ncnRewards r.protocolRewards r.totalRewards)⟩
    simp only [Bool.true_eq_false, if_false, Epoch.onNcnRewardRouter, Epoch.onEpochState, run_zoom, hrun,
      EStateM.run_bind, EStateM.run_get, EStateM.run_modify]
  | false =>
    obtain ⟨r₁, r₂, hin, hpool, hkept₂⟩ := h.fresh_spec hm hfees hstill
    obtain ⟨r, hrun, hkept⟩ := hkept₂.operators_spec hm hwin he maxIterations
    refine ⟨_, ?_, hkept (s.epoch.epochState.updateRouteRewards r.ncnRewards r.protocolRewards r.totalRewards)⟩
    simp only [if_true, Epoch.onNcnRewardRouter, Epoch.onEpochState, run_zoom, hin, hpool, hrun,
      EStateM.run_bind, EStateM.run_get, EStateM.run_modify]

/-- The router pays out what an existing route holds. -/
lemma distribute_spec (h : Kept rent o t ps s) (p : NcnPayout)
    (hroute : p.hasRoute s.epoch.ncnRewardRouter = true) :
    ∃ rewards r rs, p.distribute.run s.epoch.ncnRewardRouter = .ok rewards r ∧ Books ps r rs ∧
      Books.PaysOut o.ballotBox.operatorVotes.toList t.index t.stakeWeights.stakeWeight rewards
        s.epoch.ncnRewardRouter r := by
  obtain ⟨rs, hb⟩ := h.books
  cases p with
  | protocolFee =>
    obtain ⟨rewards, r, hrun, hb', hp⟩ := hb.distributeProtocolFeeRewards_spec
    exact ⟨rewards, r, rs, hrun, hb', hp⟩
  | ncnFee =>
    obtain ⟨rewards, r, hrun, hb', hp⟩ := hb.distributeNcnFeeRewards_spec
    exact ⟨rewards, r, rs, hrun, hb', hp⟩
  | operatorVaultRoute operator => exact hb.distributeOperatorVaultRewardRoute_spec hroute

/-- Every payout of an existing route succeeds and keeps the invariant. -/
lemma payOut_spec (h : Kept rent o t ps s) (p : NcnPayout)
    (hroute : p.hasRoute s.epoch.ncnRewardRouter = true) :
    ∃ rewards e, (Epoch.payOutNcn p.distribute).run s.epoch = .ok rewards e ∧
      Kept rent o t ps ⟨e, s.received, s.paid + rewards⟩ := by
  obtain ⟨rewards, r, rs, hrun, hb, hp⟩ := h.distribute_spec p hroute
  have hsolv := h.sound.solvent
  have hle := hp.le
  simp only [escrow] at hsolv
  refine ⟨rewards, { s.epoch with
    ncnRewardRouter := r, ncnRewardReceiver := s.epoch.ncnRewardReceiver - rewards }, ?_, ?_⟩
  · simp only [Epoch.payOutNcn, Epoch.onNcnRewardRouter, run_zoom, hrun, EStateM.run_bind,
      EStateM.run_get, checkedSub_of_le (show rewards ≤ s.epoch.ncnRewardReceiver by omega), okOr_some,
      EStateM.run_pure, EStateM.run_modify]
  · refine ⟨h.ballotBox, h.config, h.epochSnapshot, ⟨rs, hb⟩, hp.resumable h.resumable, ?_⟩
    have hsound := (Escrow.Step.payOut (n := rewards) (by exact hle)).sound h.sound
    simpa only [escrow, Escrow.payOut, hp.totalRewards, hp.rewardPool, hp.rewardsProcessed] using hsound

/-- A payout that succeeds is of an existing route. -/
lemma hasRoute_of_payOut {e e' : Epoch} {p : NcnPayout} {rewards : ℕ}
    (hrun : (Epoch.payOutNcn p.distribute).run e = .ok rewards e') :
    p.hasRoute e.ncnRewardRouter = true := by
  cases p with
  | protocolFee => rfl
  | ncnFee => rfl
  | operatorVaultRoute operator =>
    obtain ⟨_, _, hz, _⟩ := run_bind_ok.1 hrun
    obtain ⟨_, hd, _⟩ := run_zoom_ok.1 hz
    obtain ⟨_, _, hz', _⟩ := run_bind_ok.1 hd
    obtain ⟨_, hempty, _⟩ := run_zoom_ok.1 hz'
    exact RoutesTo.any_of_emptyRoute hempty

/-- Every step keeps the invariant. -/
lemma step (h : Kept rent o t ps s) (hm : math.Documented)
    (hwin : o.ballotBox.getWinningBallotTally = .ok t)
    (he : Electorate o.ballotBox.operatorVotes.toList t.index t.stakeWeights.stakeWeight ps)
    (hfees : o.epochSnapshot.fees.protocolFeeBps + o.epochSnapshot.fees.ncnFeeBps ≤ 10000)
    (hstep : Step math rent s s') : Kept rent o t ps s' := by
  cases hstep with
  | deposit hn hrun => exact h.deposit hn hrun
  | @route clock maxIterations e hrun =>
    have hover := Epoch.over_of_route hrun
    rw [h.ballotBox, h.config] at hover
    obtain ⟨e', hrun', hkept⟩ := h.route_spec hm hwin he hfees maxIterations hover
    rw [hrun] at hrun'
    cases hrun'
    exact hkept
  | payOut p hrun =>
    obtain ⟨rewards, e', hrun', hkept⟩ := h.payOut_spec p (hasRoute_of_payOut hrun)
    rw [hrun] at hrun'
    cases hrun'
    exact hkept

end Kept

/-- Nothing is lost and everything is covered. -/
structure Conserved (rent : ℕ) (s : NcnTreasury) : Prop where
  processed : s.epoch.ncnRewardRouter.rewardsProcessed =
    s.epoch.ncnRewardRouter.protocolRewards + s.epoch.ncnRewardRouter.ncnRewards +
      s.epoch.ncnRewardRouter.operatorVaultRewards +
      (s.epoch.ncnRewardRouter.operatorVaultRewardRoutes.toList.map (·.rewards)).sum
  total : s.epoch.ncnRewardRouter.totalRewards =
    s.epoch.ncnRewardRouter.rewardPool + s.epoch.ncnRewardRouter.rewardsProcessed + s.paid
  solvent : rent + s.epoch.ncnRewardRouter.rewardPool + s.epoch.ncnRewardRouter.rewardsProcessed ≤
    s.epoch.ncnRewardReceiver

lemma Kept.conserved {rent : ℕ} {o : Epoch} {t : BallotTally} {ps : List Pubkey} {s : NcnTreasury}
    (h : Kept rent o t ps s) : s.Conserved rent := by
  obtain ⟨rs, hb⟩ := h.books
  exact ⟨hb.conserves.processed, h.sound.absorbed, h.sound.solvent⟩

end NcnTreasury

/-- In every run of deposits, route calls and payouts the NCN's rewards are conserved and covered. So no route
call fails when voting is over, and no payout of an existing route does. -/
theorem ncn_rewards_conserved {math : PreciseMath} (hm : math.Documented) {rent : ℕ}
    {s₀ s : NcnTreasury} (hopen : s₀.Opening math rent) (hrun : Run (NcnTreasury.Step math rent) s₀ s) :
    s.Conserved rent ∧
      s.epoch.ballotBox = s₀.epoch.ballotBox ∧ s.epoch.config = s₀.epoch.config ∧
      (∀ clock maxIterations,
        s.epoch.ballotBox.isVotingValid clock.slot s.epoch.config.validSlotsAfterConsensus = .ok false →
        Succeeds (Epoch.processRouteNcnRewards math clock rent maxIterations) s.epoch) ∧
      ∀ p : NcnPayout, p.hasRoute s.epoch.ncnRewardRouter = true →
        Succeeds (Epoch.payOutNcn p.distribute) s.epoch := by
  obtain ⟨t, ps, hwin, he, hkept⟩ := NcnTreasury.Kept.opening hopen
  obtain ⟨bps, hbps, hle⟩ := hopen.fees
  have hfees := Fees.totalFeesBps_ok hbps
  have h : NcnTreasury.Kept rent s₀.epoch t ps s :=
    hrun.invariant hkept fun _ _ hstep h => h.step hm hwin he (by omega) hstep
  refine ⟨h.conserved, h.ballotBox, h.config, ?_, ?_⟩
  · intro clock maxIterations hover
    rw [h.ballotBox, h.config] at hover
    obtain ⟨e, hroute, _⟩ := h.route_spec hm hwin he (by omega) maxIterations hover
    exact ⟨(), e, hroute⟩
  · intro p hp
    obtain ⟨rewards, e, hpay, _⟩ := h.payOut_spec p hp
    exact ⟨rewards, e, hpay⟩

/-- Two winning operators with stakes ten and five, fees of four and two percent, and a thousand lamports
routed in two chunks: after the first payout the other operator's share is still covered. -/
theorem ncn_rewards_conserved_two_chunks :
    ∃ s₀ s : NcnTreasury, s₀.Opening splMath 5 ∧ Run (NcnTreasury.Step splMath 5) s₀ s ∧
      s.received = 1005 ∧ s.paid = 626 ∧ s.Conserved 5 := by
  let cast (operator : Pubkey) (w : StakeWeights) := BallotBox.castVote operator (.new 1) w 3 1000
  let b₀ := BallotBox.new 1 0 0 0
  let b₁ := commit (cast 7 ⟨10, by decide⟩) b₀
  let b₂ := commit (cast 8 ⟨5, by decide⟩) b₁
  let b₃ := commit (BallotBox.tallyVotes splMath 15 3) b₂
  have h₁ : BallotBox.Step splMath b₀ b₁ :=
    ⟨.castVote 7 (.new 1) ⟨10, by decide⟩ 3 1000, Succeeds.run_eq (by decide +kernel)⟩
  have h₂ : BallotBox.Step splMath b₁ b₂ :=
    ⟨.castVote 8 (.new 1) ⟨5, by decide⟩ 3 1000, Succeeds.run_eq (by decide +kernel)⟩
  have h₃ : BallotBox.Step splMath b₂ b₃ := ⟨.tallyVotes 15 3, Succeeds.run_eq (by decide +kernel)⟩
  have hbox : b₃.Reachable splMath := ⟨1, 0, 0, 0, ((Relation.ReflTransGen.single h₁).tail h₂).tail h₃⟩
  let config : Config := ⟨1, 2, 1000, 1, 10, 0,
    ⟨FeeConfig.protocolFeeWalletKey, 4, ⟨0, 400, 200⟩, ⟨0, 400, 200⟩⟩, 0⟩
  let table : WeightTable := ⟨1, 0, 0, 1, 0, .replicate _ .default, .replicate _ .default⟩
  let e₀ : Epoch := { Epoch.initialized config table 0 0 2 ⟨0, 400, 200⟩ with
    ballotBox := b₃, ncnRewardReceiver := 5 }
  let s₀ : NcnTreasury := ⟨e₀, 5, 0⟩
  have hopen : s₀.Opening splMath 5 := {
    reachable := by dsimp only [s₀, e₀]; exact hbox
    winner := by decide +kernel
    fees := ⟨600, rfl, by decide⟩
    router := ⟨1, 0, 0, 0, rfl⟩
    rent_le := Nat.le_refl 5
    received := rfl
    received_lt := by decide
    paid := rfl }
  let route := Epoch.processRouteNcnRewards splMath ⟨2000, 0⟩ 5 1
  let pay := Epoch.payOutNcn (NcnPayout.distribute (.operatorVaultRoute 7))
  let e₁ := commit (Epoch.depositNcn 1000) e₀
  let e₂ := commit route e₁
  let e₃ := commit route e₂
  let e₄ := commit pay e₃
  have r₁ : (Epoch.depositNcn 1000).run e₀ = .ok () e₁ := rfl
  have r₂ : route.run e₁ = .ok () e₂ := Succeeds.run_eq (by decide +kernel)
  have r₃ : route.run e₂ = .ok () e₃ := Succeeds.run_eq (by decide +kernel)
  have r₄ : pay.run e₃ = .ok 626 e₄ := Returns.run_eq (by decide +kernel)
  clear_value e₁ e₂ e₃ e₄
  have t₁ : NcnTreasury.Step splMath 5 s₀ ⟨e₁, 1005, 0⟩ := .deposit (n := 1000) (by decide) r₁
  have t₂ : NcnTreasury.Step splMath 5 ⟨e₁, 1005, 0⟩ ⟨e₂, 1005, 0⟩ := .route r₂
  have t₃ : NcnTreasury.Step splMath 5 ⟨e₂, 1005, 0⟩ ⟨e₃, 1005, 0⟩ := .route r₃
  have t₄ : NcnTreasury.Step splMath 5 ⟨e₃, 1005, 0⟩ ⟨e₄, 1005, 0 + 626⟩ :=
    .payOut (.operatorVaultRoute 7) r₄
  have hrun := (((Relation.ReflTransGen.single t₁).tail t₂).tail t₃).tail t₄
  exact ⟨s₀, _, hopen, hrun, rfl, rfl, (ncn_rewards_conserved splMath_documented hopen hrun).1⟩

end NcnProgram
