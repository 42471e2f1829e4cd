import NcnProgram.Routing.OperatorVaultRewards

/-!
# Routing over a snapshot that still grows

A router can be created, and its rewards routed, while the operator's snapshot is not finalized. A round that
was cut into chunks computes every share from the snapshot it finds, so stake that is registered between two
chunks enters the later shares only, and together they can be more than the pool: the rest of the round then
fails for good (`vault_routing_stuck`). That is the only way a round can fail: if every registration is
`Bearable`, all route calls succeed, and since each of them passes at least one slot, at most 64 of them
finish the round (`vault_routing_finishes`).
-/

namespace NcnProgram
open Lib NCNProgramError

namespace OperatorTreasury

/-- A step over the snapshot as it is, or a registration in it of a vault that is allowed at the time. -/
inductive GrowingStep (math : PreciseMath) (rent : ℕ) (operator : Pubkey)
    (allowed : OperatorTreasury → VaultDelegation → Prop) : OperatorTreasury → OperatorTreasury → Prop
  | same {s s'} : Step math rent operator s s' → GrowingStep math rent operator allowed s s'
  | register {s e} (clock : Clock) (v : VaultDelegation) : allowed s v →
      (Epoch.processSnapshotVaultOperatorDelegation math clock operator v).run s.epoch = .ok () e →
      GrowingStep math rent operator allowed s { s with epoch := e }

/-- A half-finished round can bear the registration of the vault. -/
def Bears (math : PreciseMath) (operator : Pubkey) (s : OperatorTreasury) (v : VaultDelegation) : Prop :=
  ∀ snap r sw, s.epoch.operatorSnapshot operator = some snap →
    s.epoch.operatorVaultRewardRouter operator = some r →
    v.totalStakeWeight math s.epoch.weightTable = .ok sw.stakeWeight → Bearable snap sw r

namespace Kept
variable {math : PreciseMath} {rent : ℕ} {operator : Pubkey} {snap : OperatorSnapshot}
  {r : OperatorVaultRewardRouter} {s s' : OperatorTreasury}

/-- A bearable registration keeps the invariant, over the grown snapshot. -/
lemma register (h : Kept rent operator snap r s) {clock : Clock} {v : VaultDelegation} {e : Epoch}
    (hbears : s.Bears math operator v)
    (hrun : (Epoch.processSnapshotVaultOperatorDelegation math clock operator v).run s.epoch = .ok () e) :
    ∃ snap', Kept rent operator snap' r { s with epoch := e } := by
  obtain ⟨snap₁, snap', sw, es, st, hsnap, hsw, hreg, _, _, rfl⟩ :=
    Epoch.processSnapshotVaultOperatorDelegation_run_ok hrun
  obtain rfl : snap = snap₁ := Option.some.inj (h.snapshot.symm.trans hsnap)
  obtain ⟨ds, rs, hds, hb⟩ := h.books
  have hsame := OperatorSnapshot.Step.same ⟨clock.slot, v.vault, v.vaultIndex, sw, v.vault_ne, hreg⟩
  refine ⟨snap', Epoch.operatorSnapshot_setOperatorSnapshot, h.router, hsame.1 ▸ h.fee,
    hsame.2 ▸ h.index_lt, ⟨_, rs, hds.register v.vault_ne hreg, hb.routes, ?_, hb.processed, hb.fits⟩, ?_,
    h.sound⟩
  · intro q hq
    rw [List.map_append]
    exact List.mem_append_left _ (hb.payees hq)
  · exact h.resumable.register hds v.vault_ne hreg (hbears snap r sw hsnap h.router hsw)

/-- Every step keeps the invariant. -/
lemma growingStep (h : Kept rent operator snap r s) (hm : math.Documented)
    (hstep : GrowingStep math rent operator (Bears math operator) s s') :
    ∃ snap' r', Kept rent operator snap' r' s' := by
  cases hstep with
  | same hstep => exact ⟨snap, h.step hm hstep⟩
  | register clock v hbears hrun =>
    obtain ⟨snap', h'⟩ := h.register hbears hrun
    exact ⟨snap', r, h'⟩

end Kept

/-- The epoch after a number of route calls, the `k`-th with `limits k` iterations. -/
def routeTimes (math : PreciseMath) (rent : ℕ) (operator : Pubkey) (limits : ℕ → ℕ) (e : Epoch) : ℕ → Epoch
  | 0 => e
  | k + 1 => commit (Epoch.processRouteOperatorVaultRewards math rent operator (limits k))
      (routeTimes math rent operator limits e k)

/-- The operator's router has no round to finish. -/
def RoundOver (operator : Pubkey) (e : Epoch) : Prop :=
  ∃ r, e.operatorVaultRewardRouter operator = some r ∧ r.stillRouting = false

/-- After `k` route calls a round was finished, or `k` slots have been passed. -/
lemma Kept.routeTimes {math : PreciseMath} {rent : ℕ} {operator : Pubkey} {snap : OperatorSnapshot}
    {r : OperatorVaultRewardRouter} {s : OperatorTreasury} (h : Kept rent operator snap r s)
    (hm : math.Documented) (limits : ℕ → ℕ) (k : ℕ) :
    (∃ j ≤ k, RoundOver operator (routeTimes math rent operator limits s.epoch j)) ∨
      ∃ r', Kept rent operator snap r'
          { s with epoch := OperatorTreasury.routeTimes math rent operator limits s.epoch k } ∧
        r'.stillRouting = true ∧ k ≤ r'.lastVaultOperatorDelegationIndex := by
  induction k with
  | zero =>
    cases hs : r.stillRouting with
    | false => exact .inl ⟨0, Nat.le_refl 0, r, h.router, hs⟩
    | true => exact .inr ⟨r, h, hs, Nat.zero_le _⟩
  | succ k ih =>
    rcases ih with ⟨j, hj, hover⟩ | ⟨r₁, h₁, hs₁, hk⟩
    · exact .inl ⟨j, Nat.le_succ_of_le hj, hover⟩
    · obtain ⟨e, r₂, hrun, h₂, hprogress⟩ := h₁.route_spec hm (limits k)
      have he : OperatorTreasury.routeTimes math rent operator limits s.epoch (k + 1) = e :=
        commit_of_ok hrun
      rw [he]
      cases hs₂ : r₂.stillRouting with
      | false => exact .inl ⟨k + 1, Nat.le_refl _, r₂, he ▸ h₂.router, hs₂⟩
      | true => exact .inr ⟨r₂, h₂, hs₂, Nat.lt_of_le_of_lt hk (hprogress hs₁ hs₂)⟩

end OperatorTreasury

/-- In every run in which registrations are bearable no route call fails, and from every state reached at
most 64 further route calls, with any numbers of iterations, finish the round. -/
theorem vault_routing_finishes {math : PreciseMath} (hm : math.Documented) {rent : ℕ} {operator : Pubkey}
    {s₀ s : OperatorTreasury} (hopen : s₀.Opening rent operator)
    (hrun : Run (OperatorTreasury.GrowingStep math rent operator (OperatorTreasury.Bears math operator)) s₀ s) :
    (∀ maxIterations, Succeeds
        (Epoch.processRouteOperatorVaultRewards math rent operator maxIterations) s.epoch) ∧
      ∀ limits : ℕ → ℕ, ∃ k ≤ maxVaults, OperatorTreasury.RoundOver operator
        (OperatorTreasury.routeTimes math rent operator limits s.epoch k) := by
  obtain ⟨snap, r, h⟩ : ∃ snap r, OperatorTreasury.Kept rent operator snap r s :=
    hrun.invariant (I := fun s => ∃ snap r, OperatorTreasury.Kept rent operator snap r s)
      (OperatorTreasury.Kept.opening hopen) fun _ _ hstep ⟨_, _, h⟩ => h.growingStep hm hstep
  constructor
  · intro maxIterations
    obtain ⟨e, _, hroute, _⟩ := h.route_spec hm maxIterations
    exact ⟨(), e, hroute⟩
  · intro limits
    rcases h.routeTimes hm limits maxVaults with hover | ⟨r', h', hs', hle⟩
    · exact hover
    · obtain ⟨_, _, hlt, _⟩ := h'.resumable hs'
      omega

/-- A vault registered in the middle of a round after the router has passed free slots only: the round is
finished all the same. -/
theorem vault_routing_finishes_after_registration :
    ∃ s₀ s : OperatorTreasury, s₀.Opening 5 7 ∧
      Run (OperatorTreasury.GrowingStep splMath 5 7 (OperatorTreasury.Bears splMath 7)) s₀ s ∧
      (s.epoch.operatorVaultRewardRouter 7).map (·.stillRouting) = some true ∧
      (∀ maxIterations, Succeeds
        (Epoch.processRouteOperatorVaultRewards splMath 5 7 maxIterations) s.epoch) ∧
      ∃ k ≤ maxVaults, OperatorTreasury.RoundOver 7
        (OperatorTreasury.routeTimes splMath 5 7 (fun _ => 3) s.epoch k) := by
  let create := Epoch.processInitializeOperatorSnapshot ⟨1, 0⟩ 0 ⟨7, 0, 0, 0, true⟩
  let register := Epoch.processSnapshotVaultOperatorDelegation splMath ⟨1, 0⟩ 7 (.small false 1)
  let route := Epoch.processRouteOperatorVaultRewards splMath 5 7 1
  let a := commit create (Epoch.small 1)
  let e₀ := (a.setOperatorVaultRewardRouter 7 (.new 7 0 1 0 0 1)).setOperatorVaultRewardReceiver 7 5
  let e₁ := commit (Epoch.depositOperatorVault 7 10) e₀
  let e₂ := commit route e₁
  let e₃ := commit register e₂
  have c : create.run (Epoch.small 1) = .ok () a := Succeeds.run_eq (by decide +kernel)
  have r₁ : (Epoch.depositOperatorVault 7 10).run e₀ = .ok () e₁ := rfl
  have r₂ : route.run e₁ = .ok () e₂ := Succeeds.run_eq (by decide +kernel)
  have r₃ : register.run e₂ = .ok () e₃ := Succeeds.run_eq (by decide +kernel)
  have hrouter : e₀.operatorVaultRewardRouter 7 = some (.new 7 0 1 0 0 1) := rfl
  have hreceiver : e₀.operatorVaultRewardReceiver 7 = 5 := rfl
  have hsnap : e₀.operatorSnapshot = a.operatorSnapshot := rfl
  have hstill : (e₃.operatorVaultRewardRouter 7).map (·.stillRouting) = some true := by decide +kernel
  have hpassed : (do
      let snap ← e₂.operatorSnapshot 7
      let r ← e₂.operatorVaultRewardRouter 7
      return (snap.vaultOperatorDelegationsRegistered, r.lastVaultOperatorDelegationIndex)) =
        some (0, 1) := by decide +kernel
  clear_value a e₀ e₁ e₂ e₃
  have hat : OperatorSnapshot.At 7 a := OperatorSnapshot.At.create (by decide) c
  have hopen : OperatorTreasury.Opening 5 7 ⟨e₀, 5, 0⟩ := {
    snapshot := by rw [OperatorSnapshot.At, hsnap]; exact hat
    router := ⟨0, 1, 0, 0, 1, hrouter⟩
    rent_le := hreceiver.ge
    received := hreceiver.symm
    received_lt := show 5 < 2 ^ 64 by decide
    paid := rfl }
  have hbears : OperatorTreasury.Bears splMath 7 ⟨e₂, 5 + 10, 0⟩ (.small false 1) := by
    intro snap r sw hs hr _
    simp only [show e₂.operatorSnapshot 7 = some snap from hs,
      show e₂.operatorVaultRewardRouter 7 = some r from hr] at hpassed
    obtain ⟨h0, h1⟩ := Prod.mk.inj (Option.some.inj hpassed)
    exact .inr (.inr (.inl (by omega)))
  have t₁ : OperatorTreasury.Step splMath 5 7 ⟨e₀, 5, 0⟩ ⟨e₁, 5 + 10, 0⟩ :=
    .deposit (show 5 + 10 < 2 ^ 64 by decide) r₁
  have t₂ : OperatorTreasury.Step splMath 5 7 ⟨e₁, 5 + 10, 0⟩ ⟨e₂, 5 + 10, 0⟩ := .route r₂
  have t₃ : OperatorTreasury.GrowingStep splMath 5 7 (OperatorTreasury.Bears splMath 7)
      ⟨e₂, 5 + 10, 0⟩ ⟨e₃, 5 + 10, 0⟩ :=
    .register ⟨1, 0⟩ (.small false 1) hbears r₃
  have hrun := ((Relation.ReflTransGen.single (.same t₁)).tail (.same t₂)).tail t₃
  obtain ⟨hroute, hover⟩ := vault_routing_finishes splMath_documented hopen hrun
  exact ⟨_, _, hopen, hrun, hstill, hroute, hover _⟩

/-- A round that stands at a slot whose share is more than the pool fails from then on. -/
lemma Epoch.routing_stuck {math : PreciseMath} (hm : math.Documented) (rent : ℕ) {operator : Pubkey}
    {e : Epoch} {snap : OperatorSnapshot} {r : OperatorVaultRewardRouter} {d : VaultOperatorStakeWeight}
    (hsnap : e.operatorSnapshot operator = some snap) (hr : e.operatorVaultRewardRouter operator = some r)
    (hs : r.stillRouting = true) (hR : r.lastRewardsToProcess < 2 ^ 64)
    (hd : snap.vaultOperatorStakeWeight.toList[r.lastVaultOperatorDelegationIndex]? = some d)
    (hle : d.stakeWeight.stakeWeight ≤ snap.stakeWeights.stakeWeight)
    (hshare : r.rewardPool <
      share r.lastRewardsToProcess snap.stakeWeights.stakeWeight d.stakeWeight.stakeWeight)
    (maxIterations : ℕ) :
    FailsWith (processRouteOperatorVaultRewards math rent operator maxIterations) e
      (arithmeticUnderflowError : ProgramError) := by
  obtain ⟨r', hfail⟩ := VaultResumable.stuck hm hs hR hd hle hshare maxIterations
  refine ⟨e.setOperatorVaultRewardRouter operator r', ?_⟩
  simp only [processRouteOperatorVaultRewards, onOperatorVaultRewardRouter, EStateM.run_bind,
    EStateM.run_get, hsnap, hr, okOr_some, EStateM.run_pure, hs, Bool.true_eq_false, if_false, run_zoom,
    hfail]

/-- One vault with stake one is registered, ten lamports arrive and its slot is routed, and then a second
vault with stake one is registered: its share is five lamports out of an empty pool. Every further route
call fails, and the round is never finished. -/
theorem vault_routing_stuck :
    ∃ s₀ s : OperatorTreasury, s₀.Opening 5 7 ∧
      Run (OperatorTreasury.GrowingStep splMath 5 7 fun _ _ => True) s₀ s ∧
      (∀ maxIterations, FailsWith
        (Epoch.processRouteOperatorVaultRewards splMath 5 7 maxIterations) s.epoch
        (arithmeticUnderflowError : ProgramError)) ∧
      ∀ limits k, ¬OperatorTreasury.RoundOver 7
        (OperatorTreasury.routeTimes splMath 5 7 limits s.epoch k) := by
  let create := Epoch.processInitializeOperatorSnapshot ⟨1, 0⟩ 0 ⟨7, 0, 0, 0, true⟩
  let register (v : VaultDelegation) := Epoch.processSnapshotVaultOperatorDelegation splMath ⟨1, 0⟩ 7 v
  let route := Epoch.processRouteOperatorVaultRewards splMath 5 7 1
  let a := commit create (Epoch.small 1)
  let e₀ := (a.setOperatorVaultRewardRouter 7 (.new 7 0 1 0 0 1)).setOperatorVaultRewardReceiver 7 5
  let e₁ := commit (register (.small false 1)) e₀
  let e₂ := commit (Epoch.depositOperatorVault 7 10) e₁
  let e₃ := commit route e₂
  let e₄ := commit (register (.small true 1)) e₃
  have c : create.run (Epoch.small 1) = .ok () a := Succeeds.run_eq (by decide +kernel)
  have r₁ : (register (.small false 1)).run e₀ = .ok () e₁ := Succeeds.run_eq (by decide +kernel)
  have r₂ : (Epoch.depositOperatorVault 7 10).run e₁ = .ok () e₂ := rfl
  have r₃ : route.run e₂ = .ok () e₃ := Succeeds.run_eq (by decide +kernel)
  have r₄ : (register (.small true 1)).run e₃ = .ok () e₄ := Succeeds.run_eq (by decide +kernel)
  have hrouter : e₀.operatorVaultRewardRouter 7 = some (.new 7 0 1 0 0 1) := rfl
  have hreceiver : e₀.operatorVaultRewardReceiver 7 = 5 := rfl
  have hsnap₀ : e₀.operatorSnapshot = a.operatorSnapshot := rfl
  -- what the last state looks like
  have hlast : (do
      let snap ← e₄.operatorSnapshot 7
      let r ← e₄.operatorVaultRewardRouter 7
      let d ← snap.vaultOperatorStakeWeight.toList[r.lastVaultOperatorDelegationIndex]?
      return (r.stillRouting, r.lastRewardsToProcess, r.rewardPool, d.stakeWeight.stakeWeight,
        snap.stakeWeights.stakeWeight)) = some (true, 10, 0, 1, 2) := by decide +kernel
  clear_value a e₀ e₁ e₂ e₃ e₄
  have hat : OperatorSnapshot.At 7 a := OperatorSnapshot.At.create (by decide) c
  have hopen : OperatorTreasury.Opening 5 7 ⟨e₀, 5, 0⟩ := {
    snapshot := by rw [OperatorSnapshot.At, hsnap₀]; exact hat
    router := ⟨0, 1, 0, 0, 1, hrouter⟩
    rent_le := hreceiver.ge
    received := hreceiver.symm
    received_lt := show 5 < 2 ^ 64 by decide
    paid := rfl }
  have t₁ : OperatorTreasury.GrowingStep splMath 5 7 (fun _ _ => True) ⟨e₀, 5, 0⟩ ⟨e₁, 5, 0⟩ :=
    .register ⟨1, 0⟩ (.small false 1) trivial r₁
  have t₂ : OperatorTreasury.Step splMath 5 7 ⟨e₁, 5, 0⟩ ⟨e₂, 5 + 10, 0⟩ :=
    .deposit (show 5 + 10 < 2 ^ 64 by decide) r₂
  have t₃ : OperatorTreasury.Step splMath 5 7 ⟨e₂, 5 + 10, 0⟩ ⟨e₃, 5 + 10, 0⟩ := .route r₃
  have t₄ : OperatorTreasury.GrowingStep splMath 5 7 (fun _ _ => True) ⟨e₃, 5 + 10, 0⟩ ⟨e₄, 5 + 10, 0⟩ :=
    .register ⟨1, 0⟩ (.small true 1) trivial r₄
  have hrun := (((Relation.ReflTransGen.single t₁).tail (.same t₂)).tail (.same t₃)).tail t₄
  obtain ⟨snap, hsnap, h⟩ := Option.bind_eq_some_iff.1 hlast
  obtain ⟨r, hr, h⟩ := Option.bind_eq_some_iff.1 h
  obtain ⟨d, hd, h⟩ := Option.bind_eq_some_iff.1 h
  obtain ⟨hs, hR, hpool, hstake, htotal⟩ : r.stillRouting = true ∧ r.lastRewardsToProcess = 10 ∧
      r.rewardPool = 0 ∧ d.stakeWeight.stakeWeight = 1 ∧ snap.stakeWeights.stakeWeight = 2 := by
    simpa only [pure, Option.some.injEq, Prod.mk.injEq] using h
  have hfail := Epoch.routing_stuck splMath_documented 5 hsnap hr hs
    (by rw [hR]; decide) hd (by rw [hstake, htotal]; decide) (by rw [hR, hpool, hstake, htotal]; decide)
  refine ⟨_, ⟨e₄, 5 + 10, 0⟩, hopen, hrun, hfail, ?_⟩
  have htimes : ∀ limits k, OperatorTreasury.routeTimes splMath 5 7 limits e₄ k = e₄ := by
    intro limits k
    induction k with
    | zero => rfl
    | succ k ih => rw [OperatorTreasury.routeTimes, ih, (hfail (limits k)).commit_eq]
  rintro limits k ⟨r', hr', hover⟩
  rw [htimes, hr] at hr'
  cases hr'
  rw [hs] at hover
  cases hover

end NcnProgram
