import NcnProgram.Lib.Run
import NcnProgram.Program.Lifecycle

/-!
# The progress of the fees

The NCN and the protocol have a fee of what is routed. Payouts add to the tally of the party's progress in the epoch
state, and a route call sets its total to what the router has for the party then, without what has been paid. So the
two are about the same sum as long as nothing has been paid, and never after that.
-/

namespace NcnProgram
open Lib NCNProgramError

/-- A party that has a fee. -/
inductive FeeParty where
  | ncn
  | protocol
deriving DecidableEq

namespace FeeParty

/-- What the router has for the party. -/
def rewards : FeeParty → NCNRewardRouter → ℕ
  | ncn, r => r.ncnRewards
  | protocol, r => r.protocolRewards

/-- The progress of the party's payouts. -/
def progress : FeeParty → EpochState → Progress
  | ncn, s => s.ncnDistributionProgress
  | protocol, s => s.protocolDistributionProgress

/-- The instruction that pays the party. -/
def distribute : FeeParty → Pubkey → Mut Epoch Unit
  | ncn => Epoch.processDistributeNcnRewards
  | protocol => Epoch.processDistributeProtocolRewards

end FeeParty

/-! ## Routing takes nothing away -/

namespace NCNRewardRouter

/-- What the router has for both parties. -/
def feeRewards (r : NCNRewardRouter) : ℕ × ℕ := (r.ncnRewards, r.protocolRewards)

lemma leaves_routeFromRewardPool (rewards : ℕ) : Leaves feeRewards (routeFromRewardPool rewards) :=
  .bind (leaves_debit fun _ _ => rfl) fun _ => leaves_credit fun _ _ => rfl

lemma leaves_routeIncomingRewards (rentCost accountBalance : ℕ) :
    Leaves feeRewards (routeIncomingRewards rentCost accountBalance) :=
  .bind .get fun _ => .bind (.ofExcept _) fun _ => .bind (.okOr _ _) fun _ => .bind (.okOr _ _) fun _ =>
    .bind (leaves_credit fun _ _ => rfl) fun _ => leaves_credit fun _ _ => rfl

lemma leaves_routeVote (math : PreciseMath) (winningStakeWeight rewardsToProcess : ℕ) (vote : OperatorVote) :
    Leaves feeRewards (routeVote math winningStakeWeight rewardsToProcess vote) := by
  refine .bind (.ofExcept _) fun _ => .bind (leaves_debit fun _ _ => rfl) fun _ => ?_
  unfold routeToOperatorVaultRewardRoute
  split
  · exact .bind (.pure _) fun _ => .pure _
  · exact .zoom fun _ _ => rfl

lemma grows_routeToNcn (rewards : ℕ) : Grows feeRewards (routeToNcn rewards) :=
  grows_credit fun _ _ h => ⟨h, le_rfl⟩

lemma grows_routeToProtocol (rewards : ℕ) : Grows feeRewards (routeToProtocol rewards) :=
  grows_credit fun _ _ h => ⟨le_rfl, h⟩

lemma grows_routeRewardPool (math : PreciseMath) (fee : Fees) : Grows feeRewards (routeRewardPool math fee) := by
  refine .bind (.of_leaves .get) fun _ => ?_
  refine .bind (.of_leaves (.ofExcept _)) fun _ => .bind (.of_leaves (leaves_routeFromRewardPool _)) fun _ => ?_
  refine .bind (grows_routeToProtocol _) fun _ => ?_
  refine .bind (.of_leaves (.ofExcept _)) fun _ => .bind (.of_leaves (leaves_routeFromRewardPool _)) fun _ => ?_
  refine .bind (grows_routeToNcn _) fun _ => ?_
  refine .bind (.of_leaves .get) fun _ => .bind (.of_leaves (leaves_routeFromRewardPool _)) fun _ => ?_
  exact .of_leaves (leaves_credit fun _ _ => rfl)

lemma grows_routeOperatorVaultRewards (math : PreciseMath) (ballotBox : BallotBox) (maxIterations : ℕ) :
    Grows feeRewards (routeOperatorVaultRewards math ballotBox maxIterations) := by
  refine .bind (.of_leaves (.ofExcept _)) fun _ => .bind (.of_leaves .get) fun self => ?_
  cases self.resumeRoutingState with | mk startingVoteIndex startingRewardsToProcess => ?_
  dsimp only
  generalize (if startingRewardsToProcess > 0 then startingRewardsToProcess else self.operatorVaultRewards) =
    rewardsToProcess
  split
  · exact .of_leaves (.pure _)
  · have hsave : ∀ i r, (saveRoutingState rewardsToProcess i r).feeRewards = r.feeRewards := fun _ _ => rfl
    refine .bind (.of_leaves (.chunked (leaves_routeVote math _ _) hsave ..)) fun finished => ?_
    split
    · exact .bind (.of_leaves .get) fun _ => .bind (.of_leaves (leaves_debit fun _ _ => rfl)) fun _ =>
        .bind (grows_routeToNcn _) fun _ => .of_leaves (.modify fun _ => rfl)
    · exact .of_leaves (.pure _)

end NCNRewardRouter

/-- A route call takes nothing away from the parties. -/
lemma Epoch.grows_processRouteNcnRewards (math : PreciseMath) (clock : Clock) (rent maxIterations : ℕ) :
    Grows (fun e => e.ncnRewardRouter.feeRewards) (processRouteNcnRewards math clock rent maxIterations) := by
  have honRouter : ∀ {x : Mut NCNRewardRouter Unit}, Grows NCNRewardRouter.feeRewards x →
      Grows (fun e => e.ncnRewardRouter.feeRewards) (onNcnRewardRouter x) := fun hx =>
    .zoom_part hx fun _ _ h => h
  refine .bind (.of_leaves .get) fun self => ?_
  refine .bind (.of_leaves (.ofExcept _)) fun _ => .bind (.of_leaves (.ensure _ _)) fun _ => ?_
  have hlast : Grows (fun e : Epoch => e.ncnRewardRouter.feeRewards) (do
      onNcnRewardRouter (NCNRewardRouter.routeOperatorVaultRewards math self.ballotBox maxIterations)
      let router := (← get).ncnRewardRouter
      onEpochState (modify (EpochState.updateRouteRewards router.ncnRewards router.protocolRewards
        router.totalRewards)) : Mut Epoch Unit) :=
    .bind (honRouter (NCNRewardRouter.grows_routeOperatorVaultRewards ..)) fun _ =>
      .bind (.of_leaves .get) fun _ => .of_leaves (.zoom fun _ _ => rfl)
  split
  · exact .bind (honRouter (.of_leaves (NCNRewardRouter.leaves_routeIncomingRewards ..))) fun _ =>
      .bind (honRouter (NCNRewardRouter.grows_routeRewardPool ..)) fun _ => hlast
  · exact hlast

/-- So neither party has less after it. -/
lemma FeeParty.rewards_le_of_route {math : PreciseMath} {clock : Clock} {rent maxIterations : ℕ} {e e' : Epoch}
    (h : (Epoch.processRouteNcnRewards math clock rent maxIterations).run e = .ok () e') (p : FeeParty) :
    p.rewards e.ncnRewardRouter ≤ p.rewards e'.ncnRewardRouter := by
  obtain ⟨hncn, hprotocol⟩ := Epoch.grows_processRouteNcnRewards math clock rent maxIterations h
  cases p with
  | ncn => exact hncn
  | protocol => exact hprotocol

/-! ## Payouts -/

namespace FeeParty
variable {p : FeeParty} {wallet : Pubkey} {e e' : Epoch}

/-- The method of the router that a payout calls. -/
def method : FeeParty → Mut NCNRewardRouter ℕ
  | ncn => NCNRewardRouter.distributeNcnFeeRewards
  | protocol => NCNRewardRouter.distributeProtocolFeeRewards

/-- What a payout writes in the epoch state. -/
def count : FeeParty → ℕ → EpochState → EpochState
  | ncn => EpochState.updateDistributeNcnRewards
  | protocol => EpochState.updateDistributeProtocolRewards

/-- The method returns what the router has for the party, and leaves the other one alone. -/
lemma method_run_ok {r r' : NCNRewardRouter} {n : ℕ} (h : p.method.run r = .ok n r') :
    n = p.rewards r ∧ p.rewards r' = 0 ∧ ∀ q ≠ p, q.rewards r' = q.rewards r := by
  cases p
  all_goals
    obtain ⟨_, _, hg, h⟩ := run_bind_ok.1 h
    cases hg
    obtain ⟨_, _, hg, h⟩ := run_bind_ok.1 h
    cases hg
    obtain ⟨_, _, hg, h⟩ := run_bind_ok.1 h
    obtain ⟨_, rfl⟩ := debit_run_ok rfl hg
    cases h
    refine ⟨rfl, rfl, fun q hq => ?_⟩
    cases q with
    | ncn => first | rfl | exact absurd rfl hq
    | protocol => first | rfl | exact absurd rfl hq

/-- Only the party's progress is written. -/
lemma progress_count (n : ℕ) (s : EpochState) :
    p.progress (p.count n s) = (p.progress s).tryIncrement n ∧
      ∀ q ≠ p, q.progress (p.count n s) = q.progress s := by
  cases p with
  | ncn =>
    refine ⟨rfl, fun q hq => ?_⟩
    cases q with
    | ncn => exact absurd rfl hq
    | protocol => rfl
  | protocol =>
    refine ⟨rfl, fun q hq => ?_⟩
    cases q with
    | ncn => rfl
    | protocol => exact absurd rfl hq

/-- A payout to a party is one from the NCN reward receiver. -/
lemma distribute_run_ok (h : (p.distribute wallet).run e = .ok () e') :
    ∃ r n, p.method.run e.ncnRewardRouter = .ok n r ∧ n ≤ e.ncnRewardReceiver ∧
      e' = { e with
        ncnRewardRouter := r
        ncnRewardReceiver := e.ncnRewardReceiver - n
        epochState := p.count n e.epochState } := by
  cases p
  all_goals
    obtain ⟨_, _, hg, h⟩ := run_bind_ok.1 h
    cases hg
    obtain ⟨_, _, hg, h⟩ := run_bind_ok.1 h
    obtain ⟨_, rfl⟩ := run_ensure_ok.1 hg
    obtain ⟨n, _, hpay, h⟩ := run_bind_ok.1 h
    cases h
    obtain ⟨r, hr⟩ := Epoch.distributeNcn_run_ok hpay
    exact ⟨r, n, hr⟩

end FeeParty

/-- A payout to an operator leaves both parties and their progress alone. -/
lemma Epoch.processDistributeOperatorVaultRewardRoute_fees {operator : Pubkey} {e e' : Epoch}
    (h : (processDistributeOperatorVaultRewardRoute operator).run e = .ok () e') (p : FeeParty) :
    p.rewards e'.ncnRewardRouter = p.rewards e.ncnRewardRouter ∧
      p.progress e'.epochState = p.progress e.epochState := by
  obtain ⟨_, _, hg, h⟩ := run_bind_ok.1 h
  cases hg
  obtain ⟨_, _, hg, h⟩ := run_bind_ok.1 h
  obtain ⟨_, rfl⟩ := run_okOr_ok.1 hg
  obtain ⟨rewards, _, hpay, h⟩ := run_bind_ok.1 h
  cases h
  obtain ⟨r, hr, _, rfl⟩ := distributeNcn_run_ok hpay
  have hleaves : Leaves NCNRewardRouter.feeRewards (NCNRewardRouter.distributeOperatorVaultRewardRoute operator) :=
    .bind (.zoom fun _ _ => rfl) fun _ => .bind (leaves_debit fun _ _ => rfl) fun _ => .pure _
  have hsame := hleaves hr
  cases p with
  | ncn => exact ⟨congrArg Prod.fst hsame, rfl⟩
  | protocol => exact ⟨congrArg Prod.snd hsame, rfl⟩

/-! ## Rounds of deposits, route calls and payouts -/

/-- One epoch, with what the parties have ever been allocated and paid. -/
structure FeeLedger where
  epoch : Epoch
  allocated : FeeParty → ℕ
  paid : FeeParty → ℕ

namespace FeeLedger

/-- What the router has for a party. -/
def rewards (s : FeeLedger) (p : FeeParty) : ℕ := p.rewards s.epoch.ncnRewardRouter

/-- The progress of a party's payouts. -/
def progress (s : FeeLedger) (p : FeeParty) : Progress := p.progress s.epoch.epochState

/-- A successful route call: what a party has more in the router is allocated to it. -/
def Routes (math : PreciseMath) (rent : ℕ) (s s' : FeeLedger) : Prop :=
  ∃ clock maxIterations e, (Epoch.processRouteNcnRewards math clock rent maxIterations).run s.epoch = .ok () e ∧
    s' = { s with
      epoch := e
      allocated := fun p => s.allocated p + (p.rewards e.ncnRewardRouter - s.rewards p) }

/-- A deposit, a successful route call or a successful payout. A party is paid what leaves the NCN reward
receiver. -/
inductive Step (math : PreciseMath) (rent : ℕ) : FeeLedger → FeeLedger → Prop
  | deposit {s n e} : (Epoch.depositNcn n).run s.epoch = .ok () e → Step math rent s { s with epoch := e }
  | route {s s'} : Routes math rent s s' → Step math rent s s'
  | payFee {s e} (p : FeeParty) (wallet : Pubkey) : (p.distribute wallet).run s.epoch = .ok () e →
      Step math rent s { s with
        epoch := e
        paid := Function.update s.paid p
          (s.paid p + (s.epoch.ncnRewardReceiver - e.ncnRewardReceiver)) }
  | payOperator {s e} (operator : Pubkey) :
      (Epoch.processDistributeOperatorVaultRewardRoute operator).run s.epoch = .ok () e →
      Step math rent s { s with epoch := e }

/-- The beginning: a new router, and nothing allocated or paid. -/
structure Opening (s : FeeLedger) : Prop where
  router : ∃ ncn epoch bump slot, s.epoch.ncnRewardRouter = .new ncn epoch bump slot
  progress : ∀ p, s.progress p = .new 0
  allocated : ∀ p, s.allocated p = 0
  paid : ∀ p, s.paid p = 0

/-- What is allocated to a party has been paid or is in the router, and the tally counts payouts only. -/
structure Kept (s : FeeLedger) : Prop where
  allocated : ∀ p, s.allocated p = s.paid p + s.rewards p
  tally : ∀ p, s.paid p = 0 → (s.progress p).tally = 0

namespace Kept
variable {math : PreciseMath} {rent : ℕ} {s s' : FeeLedger}

lemma opening (h : s.Opening) : s.Kept := by
  obtain ⟨ncn, epoch, bump, slot, hrouter⟩ := h.router
  refine ⟨fun p => ?_, fun p _ => by rw [h.progress p]; rfl⟩
  rw [h.allocated, h.paid, rewards, hrouter]
  cases p <;> rfl

/-- A route call allocates what it adds, and leaves the tallies alone. -/
lemma route (h : s.Kept) (hroute : Routes math rent s s') : s'.Kept := by
  obtain ⟨clock, maxIterations, e, hrun, rfl⟩ := hroute
  constructor
  · intro p
    have hle : s.rewards p ≤ p.rewards e.ncnRewardRouter := FeeParty.rewards_le_of_route hrun p
    have hallocated := h.allocated p
    show s.allocated p + (p.rewards e.ncnRewardRouter - s.rewards p) = s.paid p + p.rewards e.ncnRewardRouter
    omega
  · intro p hpaid
    obtain ⟨r, rfl⟩ := Epoch.processRouteNcnRewards_run_ok hrun
    have htally := h.tally p hpaid
    cases p with
    | ncn => exact htally
    | protocol => exact htally

/-- A payout moves what the router has for the party to what it was paid. -/
lemma payFee (h : s.Kept) {p : FeeParty} {wallet : Pubkey} {e : Epoch}
    (hrun : (p.distribute wallet).run s.epoch = .ok () e) :
    Kept { s with
      epoch := e
      paid := Function.update s.paid p (s.paid p + (s.epoch.ncnRewardReceiver - e.ncnRewardReceiver)) } := by
  obtain ⟨r, n, hmethod, hle, rfl⟩ := FeeParty.distribute_run_ok hrun
  obtain ⟨rfl, hzero, hother⟩ := FeeParty.method_run_ok hmethod
  obtain ⟨hprogress, hsame⟩ := FeeParty.progress_count (p := p) (p.rewards s.epoch.ncnRewardRouter)
    s.epoch.epochState
  have hallocated := h.allocated
  simp only [rewards] at hallocated
  constructor
  · intro q
    by_cases hq : q = p
    · subst hq
      simp only [rewards, Function.update_self, hzero]
      have := hallocated q
      omega
    · simp only [rewards, Function.update_of_ne hq, hother q hq]
      exact hallocated q
  · intro q hpaid
    by_cases hq : q = p
    · subst hq
      simp only [Function.update_self] at hpaid
      -- nothing was paid, so nothing is counted
      have hnone : q.rewards s.epoch.ncnRewardRouter = 0 := by omega
      have htally : (q.progress s.epoch.epochState).tally = 0 := h.tally q (by omega)
      refine (congrArg Progress.tally hprogress).trans ?_
      rw [hnone, Progress.tryIncrement_of_lt (by omega), htally]
    · simp only [Function.update_of_ne hq] at hpaid
      simp only [progress, hsame q hq]
      exact h.tally q hpaid

/-- Every step keeps the ledger. -/
lemma step (h : s.Kept) (hstep : Step math rent s s') : s'.Kept := by
  cases hstep with
  | deposit hrun =>
    cases hrun
    exact ⟨h.allocated, h.tally⟩
  | route hroute => exact h.route hroute
  | payFee p wallet hrun => exact h.payFee hrun
  | payOperator operator hrun =>
    have hsame := Epoch.processDistributeOperatorVaultRewardRoute_fees hrun
    refine ⟨fun p => ?_, fun p hpaid => ?_⟩
    · rw [rewards, (hsame p).1]
      exact h.allocated p
    · rw [progress, (hsame p).2]
      exact h.tally p hpaid

end Kept

/-- The progress of a party is sound: it is complete only if the router has nothing for the party, its tally is what
was paid and its total what was allocated. -/
structure ProgressSound (s : FeeLedger) (p : FeeParty) : Prop where
  complete : (s.progress p).isComplete = true → s.rewards p = 0
  tally : (s.progress p).tally = s.paid p
  total : (s.progress p).total = s.allocated p

/-- After a route call the total is what the router has for the party. -/
lemma Routes.total {math : PreciseMath} {rent : ℕ} {s s' : FeeLedger} (h : Routes math rent s s') (p : FeeParty) :
    (s'.progress p).total = s'.rewards p := by
  obtain ⟨clock, maxIterations, e, hrun, rfl⟩ := h
  obtain ⟨r, rfl⟩ := Epoch.processRouteNcnRewards_run_ok hrun
  cases p <;> rfl

/-- It is all that was allocated as long as nothing was paid. -/
lemma Kept.progressSound_iff {math : PreciseMath} {rent : ℕ} {s s' : FeeLedger} (h : s.Kept)
    (hroute : Routes math rent s s') (p : FeeParty) : s'.ProgressSound p ↔ s.paid p = 0 := by
  have h' := h.route hroute
  have htotal := hroute.total p
  have hallocated := h'.allocated p
  have hpaid : s'.paid p = s.paid p := by
    obtain ⟨_, _, _, _, rfl⟩ := hroute
    rfl
  constructor
  · intro hsound
    have := hsound.total
    omega
  · intro hnone
    have htally := h'.tally p (by omega)
    refine ⟨fun hcomplete => ?_, by omega, by omega⟩
    obtain ⟨_, hle⟩ := Progress.isComplete_iff.1 hcomplete
    omega

end FeeLedger

/-- In every run of deposits, route calls and payouts, right after a route call the progress of a party is sound
exactly if nothing had been paid to the party before it. -/
theorem fee_progress_sound_iff {math : PreciseMath} {rent : ℕ} {s₀ s s' : FeeLedger} (hopen : s₀.Opening)
    (hrun : Run (FeeLedger.Step math rent) s₀ s) (hroute : FeeLedger.Routes math rent s s') (p : FeeParty) :
    s'.ProgressSound p ↔ s.paid p = 0 := by
  have hkept : s.Kept := hrun.invariant (.opening hopen) fun _ _ hstep h => h.step hstep
  exact hkept.progressSound_iff hroute p

/-- The small epoch after its vote, with a reward router. -/
@[irreducible] def FeeLedger.small : FeeLedger :=
  ⟨(commit (((Lifecycle.smallRun true).take 14).forM (Lifecycle.exec Lifecycle.smallCluster))
    Lifecycle.small).accounts, fun _ => 0, fun _ => 0⟩

lemma FeeLedger.small_opening : FeeLedger.small.Opening where
  router := ⟨1, 0, 0, 10, by decide +kernel⟩
  progress p := by cases p <;> decide +kernel
  allocated p := by unfold small; rfl
  paid p := by unfold small; rfl

/-- A first round: the NCN has 20 of 1000 lamports, and its progress is about these. -/
theorem fee_progress_sound_iff_first_round :
    ∃ s s', Run (FeeLedger.Step splMath 5) .small s ∧ FeeLedger.Routes splMath 5 s s' ∧
      s'.progress .ncn = ⟨0, 20⟩ ∧ s'.ProgressSound .ncn := by
  let route := Epoch.processRouteNcnRewards splMath ⟨2000, 0⟩ 5 10
  let e₀ := FeeLedger.small.epoch
  let e₁ := commit (Epoch.depositNcn 1000) e₀
  let e₂ := commit route e₁
  have r₁ : (Epoch.depositNcn 1000).run e₀ = .ok () e₁ := Succeeds.run_eq (by decide +kernel)
  have r₂ : route.run e₁ = .ok () e₂ := Succeeds.run_eq (by decide +kernel)
  have hprogress : FeeParty.progress .ncn e₂.epochState = ⟨0, 20⟩ := by decide +kernel
  clear_value e₁ e₂
  have hpaid := FeeLedger.small_opening.paid .ncn
  have hrun : Run (FeeLedger.Step splMath 5) .small { FeeLedger.small with epoch := e₁ } := .single (.deposit r₁)
  refine ⟨_, _, hrun, ⟨_, _, e₂, r₂, rfl⟩, hprogress, ?_⟩
  exact (fee_progress_sound_iff FeeLedger.small_opening hrun ⟨_, _, e₂, r₂, rfl⟩ .ncn).2 hpaid

/-- A second round: the NCN has been paid 20 lamports and has 10 more to come, and its progress is complete. -/
theorem fee_progress_unsound_second_round :
    ∃ s s', FeeLedger.small.Opening ∧ Run (FeeLedger.Step splMath 5) .small s ∧ FeeLedger.Routes splMath 5 s s' ∧
      (s'.progress .ncn).isComplete = true ∧ s'.rewards .ncn = 10 ∧ s'.progress .ncn = ⟨20, 10⟩ ∧
      ¬s'.ProgressSound .ncn := by
  let route := Epoch.processRouteNcnRewards splMath ⟨2000, 0⟩ 5 10
  let pay := FeeParty.distribute .ncn 4
  let e₀ := FeeLedger.small.epoch
  let e₁ := commit (Epoch.depositNcn 1000) e₀
  let e₂ := commit route e₁
  let e₃ := commit pay e₂
  let e₄ := commit (Epoch.depositNcn 500) e₃
  let e₅ := commit route e₄
  have r₁ : (Epoch.depositNcn 1000).run e₀ = .ok () e₁ := Succeeds.run_eq (by decide +kernel)
  have r₂ : route.run e₁ = .ok () e₂ := Succeeds.run_eq (by decide +kernel)
  have r₃ : pay.run e₂ = .ok () e₃ := Succeeds.run_eq (by decide +kernel)
  have r₄ : (Epoch.depositNcn 500).run e₃ = .ok () e₄ := Succeeds.run_eq (by decide +kernel)
  have r₅ : route.run e₄ = .ok () e₅ := Succeeds.run_eq (by decide +kernel)
  have hend : (FeeParty.progress .ncn e₅.epochState).isComplete = true ∧
      FeeParty.rewards .ncn e₅.ncnRewardRouter = 10 ∧ FeeParty.progress .ncn e₅.epochState = ⟨20, 10⟩ := by
    decide +kernel
  clear_value e₁ e₂ e₃ e₄ e₅
  obtain ⟨hcomplete, hrewards, hprogress⟩ := hend
  have t₁ : FeeLedger.Step splMath 5 .small { FeeLedger.small with epoch := e₁ } := .deposit r₁
  have hrun := (((Relation.ReflTransGen.single t₁).tail (.route ⟨_, _, e₂, r₂, rfl⟩)).tail
    (.payFee .ncn 4 r₃)).tail (.deposit r₄)
  refine ⟨_, _, FeeLedger.small_opening, hrun, ⟨_, _, e₅, r₅, rfl⟩, hcomplete, hrewards, hprogress,
    fun hsound => ?_⟩
  have hzero : FeeParty.rewards .ncn e₅.ncnRewardRouter = 0 := hsound.complete hcomplete
  rw [hrewards] at hzero
  cases hzero

end NcnProgram
