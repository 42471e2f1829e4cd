import NcnProgram.Lib.Escrow
import NcnProgram.Program.Rewards
import NcnProgram.Routing.OperatorVaultRouter

/-!
# Conservation, solvency and progress of an operator's rewards

Deposits, route calls and payouts of one operator's receiver in any order, first over a fixed snapshot and
then with registrations in between. The receiver and the counters of the router are an `Escrow` again, and
the invariant `Kept` has the books of the router for the delegations that the snapshot holds at the time.
A registration keeps it if it is `Bearable` for a half-finished round; the last theorem of the module shows
a round that cannot be finished after one that is not.
-/

namespace NcnProgram
open Lib NCNProgramError

/-- One epoch, with what an operator's reward receiver has received and paid out in all. -/
structure OperatorTreasury where
  epoch : Epoch
  received : ℕ
  paid : ℕ

/-- The two payouts from an operator's reward receiver. -/
inductive OperatorPayout where
  | operatorFee
  | vaultRoute (vault : Pubkey)

namespace OperatorPayout

/-- The method of the router that a payout calls. -/
def distribute : OperatorPayout → Mut OperatorVaultRewardRouter ℕ
  | operatorFee => OperatorVaultRewardRouter.distributeOperatorRewards
  | vaultRoute vault => OperatorVaultRewardRouter.distributeVaultRewardRoute vault

/-- The router has a route for the payout: the operator always has one. -/
def hasRoute (r : OperatorVaultRewardRouter) : OperatorPayout → Bool
  | operatorFee => true
  | vaultRoute vault => r.vaultRewardRoutes.any (·.payee == vault)

end OperatorPayout

namespace OperatorTreasury

/-- A deposit, a successful route call or a successful payout. All that is ever received stays in a
`u64`. -/
inductive Step (math : PreciseMath) (rent : ℕ) (operator : Pubkey) :
    OperatorTreasury → OperatorTreasury → Prop
  | deposit {s n e} : s.received + n < 2 ^ 64 → (Epoch.depositOperatorVault operator n).run s.epoch = .ok () e →
      Step math rent operator s ⟨e, s.received + n, s.paid⟩
  | route {s maxIterations e} :
      (Epoch.processRouteOperatorVaultRewards math rent operator maxIterations).run s.epoch = .ok () e →
      Step math rent operator s { s with epoch := e }
  | payOut {s rewards e} (p : OperatorPayout) :
      (Epoch.payOutOperatorVault operator p.distribute).run s.epoch = .ok rewards e →
      Step math rent operator s ⟨e, s.received, s.paid + rewards⟩

/-- The beginning: a snapshot of the operator with a fee within the whole, a new router, and a receiver that
holds its rent. -/
structure Opening (rent : ℕ) (operator : Pubkey) (s : OperatorTreasury) : Prop where
  snapshot : OperatorSnapshot.At operator s.epoch
  router : ∃ index ncn epoch bump slot,
    s.epoch.operatorVaultRewardRouter operator = some (.new operator index ncn epoch bump slot)
  rent_le : rent ≤ s.epoch.operatorVaultRewardReceiver operator
  received : s.received = s.epoch.operatorVaultRewardReceiver operator
  received_lt : s.received < 2 ^ 64
  paid : s.paid = 0

/-- The escrow of the receiver and the router. -/
def escrow (rent : ℕ) (operator : Pubkey) (r : OperatorVaultRewardRouter) (s : OperatorTreasury) : Escrow :=
  ⟨rent, s.epoch.operatorVaultRewardReceiver operator, s.received, s.paid, r.totalRewards, r.rewardPool,
    r.rewardsProcessed⟩

/-- The invariant, for the snapshot and the router that the epoch has: the books are kept, routing can be
resumed, and the escrow is sound. -/
structure Kept (rent : ℕ) (operator : Pubkey) (snap : OperatorSnapshot) (r : OperatorVaultRewardRouter)
    (s : OperatorTreasury) : Prop where
  snapshot : s.epoch.operatorSnapshot operator = some snap
  router : s.epoch.operatorVaultRewardRouter operator = some r
  fee : snap.operatorFeeBps ≤ 10000
  index_lt : snap.ncnOperatorIndex < maxOperators
  books : ∃ ds rs, Registered snap ds ∧ VaultBooks (ds.map (·.vault)) r rs
  resumable : VaultResumable snap.vaultOperatorStakeWeight.toList snap.stakeWeights.stakeWeight r
  sound : (s.escrow rent operator r).Sound (2 ^ 64)

namespace Kept
variable {math : PreciseMath} {rent : ℕ} {operator : Pubkey} {snap : OperatorSnapshot}
  {r : OperatorVaultRewardRouter} {s s' : OperatorTreasury}

/-- The invariant holds at the opening. -/
lemma opening (h : s.Opening rent operator) : ∃ snap r, Kept rent operator snap r s := by
  obtain ⟨snap, hsnap, hreach, hfee⟩ := h.snapshot
  obtain ⟨index, ncn, epoch, bump, slot, hnew⟩ := h.router
  obtain ⟨⟨ds, hreg⟩, hlt⟩ := hreach.registered
  refine ⟨snap, _, hsnap, hnew, hfee, hlt,
    ⟨ds, [], hreg, VaultBooks.new _ operator index ncn epoch bump slot⟩, nofun, ?_⟩
  have := h.received_lt
  have := h.received
  have := h.paid
  have := h.rent_le
  constructor <;> simp only [escrow, OperatorVaultRewardRouter.new] <;> omega

/-- A deposit is a deposit to the escrow. -/
lemma deposit (h : Kept rent operator snap r s) {n : ℕ} {e : Epoch} (hn : s.received + n < 2 ^ 64)
    (hrun : (Epoch.depositOperatorVault operator n).run s.epoch = .ok () e) :
    Kept rent operator snap r ⟨e, s.received + n, s.paid⟩ := by
  cases hrun
  refine ⟨h.snapshot, h.router, h.fee, h.index_lt, h.books, h.resumable, ?_⟩
  have hsound := (Escrow.Step.deposit hn).sound h.sound
  simpa only [escrow, Escrow.deposit,
    Epoch.operatorVaultRewardReceiver_setOperatorVaultRewardReceiver] using hsound

/-- The first two phases of a call that begins a round: the surplus is absorbed and the operator's fee is
processed. -/
lemma fresh_spec (h : Kept rent operator snap r s) (hm : math.Documented)
    (hstill : r.stillRouting = false) :
    ∃ r₁ r₂, (OperatorVaultRewardRouter.routeIncomingRewards rent
        (s.epoch.operatorVaultRewardReceiver operator)).run r = .ok () r₁ ∧
      (OperatorVaultRewardRouter.routeOperatorRewards math snap).run r₁ = .ok () r₂ ∧
      r₂.stillRouting = false ∧
      ∀ e : Epoch, e.operatorSnapshot operator = some snap → e.operatorVaultRewardRouter operator = some r₂ →
        e.operatorVaultRewardReceiver operator = s.epoch.operatorVaultRewardReceiver operator →
        Kept rent operator snap r₂ { s with epoch := e } := by
  obtain ⟨ds, rs, hreg, hb⟩ := h.books
  obtain ⟨habs, hcoins, hsolv, hrec⟩ := h.sound
  have hsound := Escrow.Step.absorb.sound h.sound
  simp only [escrow] at habs hcoins hsolv hrec
  have hproc := hb.processed
  have hincoming := hb.routeIncomingRewards_run hsolv (by omega) (by omega)
  simp only [Escrow.absorb, Escrow.surplus, escrow] at hsound
  generalize hδ : s.epoch.operatorVaultRewardReceiver operator - (r.rewardPool + r.rewardsProcessed) -
    rent = δ at hincoming hsound
  have hb₁ : VaultBooks (ds.map (·.vault)) { r with
      totalRewards := r.totalRewards + δ
      rewardPool := r.rewardPool + δ } rs :=
    ⟨hb.routes, hb.payees, hproc, by simp only; omega⟩
  obtain ⟨r₂, hrun₂, hb₂, hmoves, hs₂⟩ := hb₁.routeOperatorRewards_spec hm h.fee
  have hs₂' : r₂.stillRouting = false := hs₂.trans hstill
  refine ⟨_, r₂, hincoming, hrun₂, hs₂', fun e hsnap hr₂ hrecv => ?_⟩
  refine ⟨hsnap, hr₂, h.fee, h.index_lt, ⟨ds, rs, hreg, hb₂⟩, fun hs => ?_, ?_⟩
  · rw [hs₂'] at hs
    cases hs
  · obtain ⟨h₁, h₂, h₃, h₄⟩ := hsound
    obtain ⟨m₁, m₂, m₃⟩ := hmoves
    simp only at h₁ h₂ h₃ h₄ m₁ m₂ m₃
    constructor <;> simp only [escrow, hrecv] <;> omega

/-- The last phase, from the start or from a checkpoint. -/
lemma vaults_spec (h : Kept rent operator snap r s) (hm : math.Documented) (maxIterations : ℕ) :
    ∃ r', (OperatorVaultRewardRouter.routeRewardPool math snap maxIterations).run r = .ok () r' ∧
      (r.stillRouting = true → r'.stillRouting = true →
        r.lastVaultOperatorDelegationIndex < r'.lastVaultOperatorDelegationIndex) ∧
      ∀ e : Epoch, e.operatorSnapshot operator = some snap → e.operatorVaultRewardRouter operator = some r' →
        e.operatorVaultRewardReceiver operator = s.epoch.operatorVaultRewardReceiver operator →
        Kept rent operator snap r' { s with epoch := e } := by
  obtain ⟨ds, rs, hreg, hb⟩ := h.books
  obtain ⟨r', rs', hrun, hb', hres, hmoves, hprogress⟩ :=
    hb.routeRewardPool_spec maxIterations hm hreg.delegations h.resumable
  refine ⟨r', hrun, hprogress, fun e hsnap hr' hrecv => ?_⟩
  refine ⟨hsnap, hr', h.fee, h.index_lt, ⟨ds, rs', hreg, hb'⟩, hres, ?_⟩
  obtain ⟨h₁, h₂, h₃, h₄⟩ := h.sound
  obtain ⟨m₁, m₂, m₃⟩ := hmoves
  simp only [escrow] at h₁ h₂ h₃ h₄
  constructor <;> simp only [escrow, hrecv] <;> omega

/-- Every route call succeeds and keeps the invariant, and a checkpoint is followed by a later one. -/
lemma route_spec (h : Kept rent operator snap r s) (hm : math.Documented) (maxIterations : ℕ) :
    ∃ e r', (Epoch.processRouteOperatorVaultRewards math rent operator maxIterations).run s.epoch =
        .ok () e ∧ Kept rent operator snap r' { s with epoch := e } ∧
      (r.stillRouting = true → r'.stillRouting = true →
        r.lastVaultOperatorDelegationIndex < r'.lastVaultOperatorDelegationIndex) := by
  cases hstill : r.stillRouting with
  | true =>
    obtain ⟨r', hrun, hprogress, hkept⟩ := h.vaults_spec hm maxIterations
    rw [hstill] at hprogress
    obtain ⟨st, hst⟩ := EpochState.updateRouteOperatorVaultRewards_succeeds h.index_lt r'.totalRewards
      s.epoch.epochState
    refine ⟨{ s.epoch.setOperatorVaultRewardRouter operator r' with epochState := st }, r', ?_,
      hkept _ h.snapshot Epoch.operatorVaultRewardRouter_setOperatorVaultRewardRouter rfl, hprogress⟩
    simp only [Epoch.processRouteOperatorVaultRewards, EStateM.run_bind, EStateM.run_get, h.snapshot,
      h.router, okOr_some, EStateM.run_pure, hstill, Bool.true_eq_false, if_false,
      Epoch.onOperatorVaultRewardRouter_run h.router hrun,
      Epoch.operatorVaultRewardRouter_setOperatorVaultRewardRouter]
    exact Epoch.onEpochState_run hst
  | false =>
    obtain ⟨r₁, r₂, hin, hfee, hstill₂, hkept₂⟩ := h.fresh_spec hm hstill
    -- the epoch after each of the three phases
    have hk := hkept₂ ((s.epoch.setOperatorVaultRewardRouter operator r₁).setOperatorVaultRewardRouter
      operator r₂) h.snapshot Epoch.operatorVaultRewardRouter_setOperatorVaultRewardRouter rfl
    obtain ⟨r', hrun, _, hkept⟩ := hk.vaults_spec hm maxIterations
    obtain ⟨st, hst⟩ := EpochState.updateRouteOperatorVaultRewards_succeeds h.index_lt r'.totalRewards
      s.epoch.epochState
    refine ⟨{ ((s.epoch.setOperatorVaultRewardRouter operator r₁).setOperatorVaultRewardRouter operator
      r₂).setOperatorVaultRewardRouter operator r' with epochState := st }, r', ?_,
      hkept _ h.snapshot Epoch.operatorVaultRewardRouter_setOperatorVaultRewardRouter rfl, nofun⟩
    simp only [Epoch.processRouteOperatorVaultRewards, EStateM.run_bind, EStateM.run_get, h.snapshot,
      h.router, okOr_some, EStateM.run_pure, hstill, if_true,
      Epoch.onOperatorVaultRewardRouter_run h.router hin]
    rw [Epoch.onOperatorVaultRewardRouter_run
      Epoch.operatorVaultRewardRouter_setOperatorVaultRewardRouter hfee]
    simp only
    rw [Epoch.onOperatorVaultRewardRouter_run
      Epoch.operatorVaultRewardRouter_setOperatorVaultRewardRouter hrun]
    simp only [Epoch.operatorVaultRewardRouter_setOperatorVaultRewardRouter, okOr_some, EStateM.run_pure]
    exact Epoch.onEpochState_run hst

/-- The router pays out what an existing route holds. -/
lemma distribute_spec (h : Kept rent operator snap r s) (p : OperatorPayout)
    (hroute : p.hasRoute r = true) :
    ∃ ds rewards r' rs, p.distribute.run r = .ok rewards r' ∧ Registered snap ds ∧
      VaultBooks (ds.map (·.vault)) r' rs ∧ VaultBooks.PaysOut rewards r r' := by
  obtain ⟨ds, rs, hreg, hb⟩ := h.books
  cases p with
  | operatorFee =>
    obtain ⟨rewards, r', hrun, hb', hp⟩ := hb.distributeOperatorRewards_spec
    exact ⟨ds, rewards, r', rs, hrun, hreg, hb', hp⟩
  | vaultRoute vault =>
    obtain ⟨rewards, r', rs', hrun, hb', hp⟩ := hb.distributeVaultRewardRoute_spec hroute
    exact ⟨ds, rewards, r', rs', hrun, hreg, hb', hp⟩

/-- Every payout of an existing route succeeds and keeps the invariant. -/
lemma payOut_spec (h : Kept rent operator snap r s) (p : OperatorPayout)
    (hroute : p.hasRoute r = true) :
    ∃ rewards e r', (Epoch.payOutOperatorVault operator p.distribute).run s.epoch = .ok rewards e ∧
      Kept rent operator snap r' ⟨e, s.received, s.paid + rewards⟩ := by
  obtain ⟨ds, rewards, r', rs, hrun, hreg, hb, hp⟩ := h.distribute_spec p hroute
  have hsolv := h.sound.solvent
  have hle := hp.le
  simp only [escrow] at hsolv
  have hcov : rewards ≤ s.epoch.operatorVaultRewardReceiver operator := by omega
  refine ⟨rewards, (s.epoch.setOperatorVaultRewardRouter operator r').setOperatorVaultRewardReceiver operator
    (s.epoch.operatorVaultRewardReceiver operator - rewards), r', ?_, ?_⟩
  · simp only [Epoch.payOutOperatorVault, EStateM.run_bind,
      Epoch.onOperatorVaultRewardRouter_run h.router hrun, EStateM.run_get]
    rw [show (s.epoch.setOperatorVaultRewardRouter operator r').operatorVaultRewardReceiver operator =
      s.epoch.operatorVaultRewardReceiver operator from rfl, checkedSub_of_le hcov]
    rfl
  · refine ⟨h.snapshot, Epoch.operatorVaultRewardRouter_setOperatorVaultRewardRouter, h.fee, h.index_lt,
      ⟨ds, rs, hreg, hb⟩, hp.resumable _ _ h.resumable, ?_⟩
    have hsound := (Escrow.Step.payOut (n := rewards) (by exact hle)).sound h.sound
    simpa only [escrow, Escrow.payOut, hp.totalRewards, hp.rewardPool, hp.rewardsProcessed,
      Epoch.operatorVaultRewardReceiver_setOperatorVaultRewardReceiver] using hsound

/-- A payout that succeeds is of an existing route. -/
lemma hasRoute_of_payOut (h : Kept rent operator snap r s) {e : Epoch} {p : OperatorPayout} {rewards : ℕ}
    (hrun : (Epoch.payOutOperatorVault operator p.distribute).run s.epoch = .ok rewards e) :
    p.hasRoute r = true := by
  cases p with
  | operatorFee => rfl
  | vaultRoute vault =>
    obtain ⟨_, _, hz, _⟩ := run_bind_ok.1 hrun
    simp only [Epoch.onOperatorVaultRewardRouter, EStateM.run_bind, EStateM.run_get, h.router, okOr_some,
      EStateM.run_pure] at hz
    obtain ⟨_, hd, _⟩ := run_zoom_ok.1 hz
    obtain ⟨_, _, hz', _⟩ := run_bind_ok.1 hd
    obtain ⟨_, hempty, _⟩ := run_zoom_ok.1 hz'
    exact RoutesTo.any_of_emptyRoute hempty

/-- Every step keeps the invariant, over the same snapshot. -/
lemma step (h : Kept rent operator snap r s) (hm : math.Documented) (hstep : Step math rent operator s s') :
    ∃ r', Kept rent operator snap r' s' := by
  cases hstep with
  | deposit hn hrun => exact ⟨r, h.deposit hn hrun⟩
  | @route maxIterations e hrun =>
    obtain ⟨e', r', hrun', hkept, _⟩ := h.route_spec hm maxIterations
    rw [hrun] at hrun'
    cases hrun'
    exact ⟨r', hkept⟩
  | payOut p hrun =>
    obtain ⟨rewards, e', r', hrun', hkept⟩ := h.payOut_spec p (h.hasRoute_of_payOut hrun)
    rw [hrun] at hrun'
    cases hrun'
    exact ⟨r', hkept⟩

end Kept

/-- Nothing is lost and everything is covered. -/
structure Conserved (rent : ℕ) (operator : Pubkey) (r : OperatorVaultRewardRouter) (s : OperatorTreasury) :
    Prop where
  processed : r.rewardsProcessed =
    r.operatorRewards + (r.vaultRewardRoutes.toList.map (·.rewards)).sum
  total : r.totalRewards = r.rewardPool + r.rewardsProcessed + s.paid
  solvent : rent + r.rewardPool + r.rewardsProcessed ≤ s.epoch.operatorVaultRewardReceiver operator

lemma Kept.conserved {rent : ℕ} {operator : Pubkey} {snap : OperatorSnapshot}
    {r : OperatorVaultRewardRouter} {s : OperatorTreasury} (h : Kept rent operator snap r s) :
    s.Conserved rent operator r := by
  obtain ⟨ds, rs, _, hb⟩ := h.books
  exact ⟨by rw [hb.routes.sum_toList]; exact hb.processed, h.sound.absorbed, h.sound.solvent⟩

end OperatorTreasury

/-- In every run of deposits, route calls and payouts over a snapshot that does not change, finalized or
not, the operator's rewards are conserved and covered. So no route call fails, and no payout of an existing
route does. -/
theorem operator_rewards_conserved {math : PreciseMath} (hm : math.Documented) {rent : ℕ}
    {operator : Pubkey} {s₀ s : OperatorTreasury} (hopen : s₀.Opening rent operator)
    (hrun : Run (OperatorTreasury.Step math rent operator) s₀ s) :
    s.epoch.operatorSnapshot operator = s₀.epoch.operatorSnapshot operator ∧
      ∃ r, s.epoch.operatorVaultRewardRouter operator = some r ∧ s.Conserved rent operator r ∧
        (∀ maxIterations, Succeeds
          (Epoch.processRouteOperatorVaultRewards math rent operator maxIterations) s.epoch) ∧
        ∀ p : OperatorPayout, p.hasRoute r = true →
          Succeeds (Epoch.payOutOperatorVault operator p.distribute) s.epoch := by
  obtain ⟨snap, r₀, hkept⟩ := OperatorTreasury.Kept.opening hopen
  obtain ⟨r, h⟩ : ∃ r, OperatorTreasury.Kept rent operator snap r s :=
    hrun.invariant (I := fun s => ∃ r, OperatorTreasury.Kept rent operator snap r s) ⟨r₀, hkept⟩
      fun _ _ hstep ⟨_, h⟩ => h.step hm hstep
  refine ⟨h.snapshot.trans hkept.snapshot.symm, r, h.router, h.conserved, ?_, ?_⟩
  · intro maxIterations
    obtain ⟨e, _, hroute, _⟩ := h.route_spec hm maxIterations
    exact ⟨(), e, hroute⟩
  · intro p hp
    obtain ⟨rewards, e, _, hpay, _⟩ := h.payOut_spec p hp
    exact ⟨rewards, e, hpay⟩

/-- An operator with a fee of ten percent and two vaults with stakes one and two: a hundred lamports are
routed slot by slot, and the first vault is paid in the middle of the round. -/
theorem operator_rewards_conserved_mid_round :
    ∃ s₀ s : OperatorTreasury, s₀.Opening 5 7 ∧ Run (OperatorTreasury.Step splMath 5 7) s₀ s ∧
      s.received = 105 ∧ s.paid = 30 ∧ ∃ r, s.epoch.operatorVaultRewardRouter 7 = some r ∧
        r.stillRouting = true ∧ s.Conserved 5 7 r := by
  let create := Epoch.processInitializeOperatorSnapshot ⟨1, 0⟩ 0 ⟨7, 0, 1000, 0, true⟩
  let register (v : VaultDelegation) := Epoch.processSnapshotVaultOperatorDelegation splMath ⟨1, 0⟩ 7 v
  let a₁ := commit create (Epoch.small 1)
  let a₂ := commit (register (.small false 1)) a₁
  let a₃ := commit (register (.small true 2)) a₂
  let router := OperatorVaultRewardRouter.new 7 0 1 0 0 1
  let e₀ := (a₃.setOperatorVaultRewardRouter 7 router).setOperatorVaultRewardReceiver 7 5
  let route := Epoch.processRouteOperatorVaultRewards splMath 5 7 1
  let pay := Epoch.payOutOperatorVault 7 (OperatorPayout.distribute (.vaultRoute 11))
  let e₁ := commit (Epoch.depositOperatorVault 7 100) e₀
  let e₂ := commit route e₁
  let e₃ := commit pay e₂
  have c₁ : create.run (Epoch.small 1) = .ok () a₁ := Succeeds.run_eq (by decide +kernel)
  have c₂ : (register (.small false 1)).run a₁ = .ok () a₂ := Succeeds.run_eq (by decide +kernel)
  have c₃ : (register (.small true 2)).run a₂ = .ok () a₃ := Succeeds.run_eq (by decide +kernel)
  have r₁ : (Epoch.depositOperatorVault 7 100).run e₀ = .ok () e₁ := rfl
  have r₂ : route.run e₁ = .ok () e₂ := Succeeds.run_eq (by decide +kernel)
  have r₃ : pay.run e₂ = .ok 30 e₃ := Returns.run_eq (by decide +kernel)
  have hrouter : e₀.operatorVaultRewardRouter 7 = some router := rfl
  have hstill : (e₃.operatorVaultRewardRouter 7).map (·.stillRouting) = some true := by decide +kernel
  have hreceiver : e₀.operatorVaultRewardReceiver 7 = 5 := rfl
  have hsnap : e₀.operatorSnapshot = a₃.operatorSnapshot := rfl
  clear_value a₁ a₂ a₃ e₀ e₁ e₂ e₃
  have hat : OperatorSnapshot.At 7 a₃ :=
    ((OperatorSnapshot.At.create (by decide) c₁).register c₂).register c₃
  have hopen : OperatorTreasury.Opening 5 7 ⟨e₀, 5, 0⟩ := {
    snapshot := by rw [OperatorSnapshot.At, hsnap]; exact hat
    router := ⟨0, 1, 0, 0, 1, hrouter⟩
    rent_le := hreceiver.ge
    received := hreceiver.symm
    received_lt := show 5 < 2 ^ 64 by decide
    paid := rfl }
  have t₁ : OperatorTreasury.Step splMath 5 7 ⟨e₀, 5, 0⟩ ⟨e₁, 5 + 100, 0⟩ :=
    .deposit (show 5 + 100 < 2 ^ 64 by decide) r₁
  have t₂ : OperatorTreasury.Step splMath 5 7 ⟨e₁, 5 + 100, 0⟩ ⟨e₂, 5 + 100, 0⟩ := .route r₂
  have t₃ : OperatorTreasury.Step splMath 5 7 ⟨e₂, 5 + 100, 0⟩ ⟨e₃, 5 + 100, 0 + 30⟩ :=
    .payOut (.vaultRoute 11) r₃
  have hrun := ((Relation.ReflTransGen.single t₁).tail t₂).tail t₃
  obtain ⟨_, r, hr, hcons, _⟩ := operator_rewards_conserved splMath_documented hopen hrun
  refine ⟨_, _, hopen, hrun, rfl, rfl, r, hr, ?_, hcons⟩
  rw [show e₃.operatorVaultRewardRouter 7 = some r from hr] at hstill
  exact Option.some.inj hstill

end NcnProgram
