import NcnProgram.Closing.Once
import NcnProgram.Ncn.Terms
import NcnProgram.Routing.FeeProgress
import NcnProgram.Routing.Solvency

/-!
# The fees over the whole life of an epoch

A fee is taken of each amount that is routed, and rounded down. However the rewards come in, are routed in parts
and paid out in between, over the whole life of an epoch the protocol gets its part of all that has been routed, up
to a lamport each time that rewards are routed, and the NCN gets at least its part up to as much, since it has what
the rounding of the operators' rewards leaves as well.
-/

namespace NcnProgram
open Lib NCNProgramError

/-- The part of a fee in an amount, from below and above. -/
lemma share_bps_bounds (x bps : ℕ) :
    10000 * share x 10000 bps ≤ bps * x ∧ bps * x ≤ 10000 * share x 10000 bps + 10000 := by
  rw [share, Nat.mul_comm bps]
  omega

namespace NCNRewardRouter
variable {r r' : NCNRewardRouter} {math : PreciseMath} {u : Unit}

/-- Incoming rewards go to the pool and are counted. -/
lemma routeIncomingRewards_counts {rent balance : ℕ} (h : (routeIncomingRewards rent balance).run r = .ok u r')
    (hpool : r.rewardPool = 0) :
    ∃ x, x < 2 ^ 64 ∧ r' = { r with totalRewards := r.totalRewards + x, rewardPool := x } := by
  obtain ⟨_, _, hg, h⟩ := run_bind_ok.1 h
  cases hg
  obtain ⟨_, _, hg, h⟩ := run_bind_ok.1 h
  obtain ⟨_, rfl⟩ := run_ofExcept_ok.1 hg
  obtain ⟨_, _, hg, h⟩ := run_bind_ok.1 h
  obtain ⟨_, rfl⟩ := run_okOr_ok.1 hg
  obtain ⟨x, _, hg, h⟩ := run_bind_ok.1 h
  obtain ⟨_, rfl⟩ := run_okOr_ok.1 hg
  obtain ⟨_, _, h₁, h₂⟩ := run_bind_ok.1 h
  obtain rfl := credit_run_ok rfl h₁
  have hfits : x < 2 ^ 64 := by
    unfold credit at h₂
    split at h₂
    · omega
    · obtain ⟨_, _, hg, h₂⟩ := run_bind_ok.1 h₂
      cases hg
      obtain ⟨total, _, hg, _⟩ := run_bind_ok.1 h₂
      obtain ⟨htotal, _⟩ := run_okOr_ok.1 hg
      have hsum := checkedAdd_eq_some.1 htotal
      omega
  obtain rfl := credit_run_ok rfl h₂
  exact ⟨x, hfits, by simp only [hpool, Nat.zero_add]⟩

/-- The pool is split, and both fees are the parts of the whole pool. -/
lemma routeRewardPool_fees {fee : Fees} (h : (routeRewardPool math fee).run r = .ok u r') (hm : math.Documented)
    (hpool : r.rewardPool < 2 ^ 64) (hprotocol : fee.protocolFeeBps ≤ 10000) (hncn : fee.ncnFeeBps ≤ 10000) :
    r'.rewardPool = 0 ∧ r'.totalRewards = r.totalRewards ∧
      r'.protocolRewards = r.protocolRewards + share r.rewardPool 10000 fee.protocolFeeBps ∧
      r'.ncnRewards = r.ncnRewards + share r.rewardPool 10000 fee.ncnFeeBps := by
  obtain ⟨_, _, hg, h⟩ := run_bind_ok.1 h
  cases hg
  obtain ⟨protocolFee, _, hg, h⟩ := run_bind_ok.1 h
  obtain ⟨hfee, rfl⟩ := run_ofExcept_ok.1 hg
  obtain ⟨_, _, hg, h⟩ := run_bind_ok.1 h
  obtain ⟨_, rfl⟩ := routeFromRewardPool_run_ok hg
  obtain ⟨_, _, hg, h⟩ := run_bind_ok.1 h
  obtain rfl := credit_run_ok rfl hg
  obtain ⟨ncnFee, _, hg, h⟩ := run_bind_ok.1 h
  obtain ⟨hfee', rfl⟩ := run_ofExcept_ok.1 hg
  obtain ⟨_, _, hg, h⟩ := run_bind_ok.1 h
  obtain ⟨_, rfl⟩ := routeFromRewardPool_run_ok hg
  obtain ⟨_, _, hg, h⟩ := run_bind_ok.1 h
  obtain rfl := credit_run_ok rfl hg
  obtain ⟨_, _, hg, h⟩ := run_bind_ok.1 h
  cases hg
  obtain ⟨_, _, hg, h⟩ := run_bind_ok.1 h
  obtain ⟨_, rfl⟩ := routeFromRewardPool_run_ok hg
  obtain rfl := credit_run_ok rfl h
  rw [calculateRewardSplit_eq hm hprotocol hpool] at hfee
  rw [calculateRewardSplit_eq hm hncn hpool] at hfee'
  cases hfee
  cases hfee'
  exact ⟨Nat.sub_self _, rfl, rfl, rfl⟩

/-- The rewards in the pool, and all that have been routed. -/
def counts (r : NCNRewardRouter) : ℕ × ℕ := (r.rewardPool, r.totalRewards)

/-- Routing the operators' rewards neither takes rewards in nor gives the protocol any. -/
lemma leaves_routeOperatorVaultRewards (ballotBox : BallotBox) (maxIterations : ℕ) :
    Leaves (fun r => (r.counts, r.protocolRewards)) (routeOperatorVaultRewards math ballotBox maxIterations) := by
  have hvote : ∀ W R v, Leaves (fun r => (r.counts, r.protocolRewards)) (routeVote math W R v) := by
    intro W R v
    refine .bind (.ofExcept _) fun _ => .bind (leaves_debit fun _ _ => rfl) fun _ => ?_
    unfold routeToOperatorVaultRewardRoute
    split
    · exact .bind (.pure _) fun _ => .pure _
    · exact .zoom fun _ _ => rfl
  refine .bind (.ofExcept _) fun _ => .bind .get fun self => ?_
  cases self.resumeRoutingState with | mk startingVoteIndex startingRewardsToProcess => ?_
  dsimp only
  generalize (if startingRewardsToProcess > 0 then startingRewardsToProcess else self.operatorVaultRewards) =
    rewardsToProcess
  split
  · exact .pure _
  · have hsave : ∀ i r, ((saveRoutingState rewardsToProcess i r).counts,
        (saveRoutingState rewardsToProcess i r).protocolRewards) = (r.counts, r.protocolRewards) := fun _ _ => rfl
    refine .bind (.chunked (hvote _ _) hsave ..) fun finished => ?_
    split
    · exact .bind .get fun _ => .bind (leaves_debit fun _ _ => rfl) fun _ =>
        .bind (leaves_credit fun _ _ => rfl) fun _ => .modify fun _ => rfl
    · exact .pure _

end NCNRewardRouter

namespace Epoch
variable {math : PreciseMath} {e e' : Epoch} {clock : Clock} {rent maxIterations : ℕ}

/-- A route call takes in some rewards, none while the router is still routing, and the fees are parts of these. -/
lemma processRouteNcnRewards_fees (h : (processRouteNcnRewards math clock rent maxIterations).run e = .ok () e')
    (hm : math.Documented) (hpool : e.ncnRewardRouter.rewardPool = 0)
    (hprotocol : e.epochSnapshot.fees.protocolFeeBps ≤ 10000) (hncn : e.epochSnapshot.fees.ncnFeeBps ≤ 10000) :
    ∃ x, e'.ncnRewardRouter.rewardPool = 0 ∧ e'.ncnRewardRouter.totalRewards = e.ncnRewardRouter.totalRewards + x ∧
      e'.ncnRewardRouter.protocolRewards =
        e.ncnRewardRouter.protocolRewards + share x 10000 e.epochSnapshot.fees.protocolFeeBps ∧
      e.ncnRewardRouter.ncnRewards + share x 10000 e.epochSnapshot.fees.ncnFeeBps ≤
        e'.ncnRewardRouter.ncnRewards := by
  obtain ⟨_, _, hg, h⟩ := run_bind_ok.1 h
  cases hg
  obtain ⟨_, _, hg, h⟩ := run_bind_ok.1 h
  obtain ⟨_, rfl⟩ := run_ofExcept_ok.1 hg
  obtain ⟨_, _, hg, h⟩ := run_bind_ok.1 h
  obtain ⟨_, rfl⟩ := run_ensure_ok.1 hg
  -- the last two steps, whatever the router is by then
  have hlast : ∀ r, (do
      onNcnRewardRouter (NCNRewardRouter.routeOperatorVaultRewards math e.ballotBox maxIterations)
      let router := (← get).ncnRewardRouter
      onEpochState (modify (EpochState.updateRouteRewards router.ncnRewards router.protocolRewards
        router.totalRewards)) : Mut Epoch Unit).run { e with ncnRewardRouter := r } = .ok () e' →
      (e'.ncnRewardRouter.rewardPool = r.rewardPool ∧ e'.ncnRewardRouter.totalRewards = r.totalRewards) ∧
        e'.ncnRewardRouter.protocolRewards = r.protocolRewards ∧ r.ncnRewards ≤ e'.ncnRewardRouter.ncnRewards := by
    intro r h
    obtain ⟨_, _, hg, h⟩ := run_bind_ok.1 h
    obtain ⟨r', hr, rfl⟩ := run_zoom_ok.1 hg
    cases h
    have hsame := NCNRewardRouter.leaves_routeOperatorVaultRewards _ _ hr
    simp only [NCNRewardRouter.counts, Prod.mk.injEq] at hsame
    exact ⟨hsame.1, hsame.2, (NCNRewardRouter.grows_routeOperatorVaultRewards _ _ _ hr).1⟩
  split at h
  · obtain ⟨_, _, hg, h⟩ := run_bind_ok.1 h
    obtain ⟨r₁, h₁, rfl⟩ := run_zoom_ok.1 hg
    obtain ⟨_, _, hg, h⟩ := run_bind_ok.1 h
    obtain ⟨r₂, h₂, rfl⟩ := run_zoom_ok.1 hg
    obtain ⟨x, hx, rfl⟩ := NCNRewardRouter.routeIncomingRewards_counts h₁ hpool
    obtain ⟨hpool₂, htotal₂, hprotocol₂, hncn₂⟩ :=
      NCNRewardRouter.routeRewardPool_fees h₂ hm hx hprotocol hncn
    obtain ⟨⟨hpool', htotal'⟩, hprotocol', hncn'⟩ := hlast r₂ h
    exact ⟨x, hpool'.trans hpool₂, htotal'.trans htotal₂, hprotocol'.trans hprotocol₂, hncn₂ ▸ hncn'⟩
  · obtain ⟨⟨hpool', htotal'⟩, hprotocol', hncn'⟩ := hlast e.ncnRewardRouter h
    refine ⟨0, hpool'.trans hpool, htotal', ?_, ?_⟩
    · rw [share_zero_amount]
      exact hprotocol'
    · rw [share_zero_amount]
      exact hncn'

lemma apart_ncnRewardRouter : Apart (·.ncnRewardRouter) :=
  ⟨fun _ _ _ => rfl, fun _ _ _ => rfl, fun _ _ => .zoom fun _ _ => rfl, fun _ _ => .zoom fun _ _ => rfl⟩

end Epoch

namespace Lifecycle
variable {cl : Cluster} {i : Instruction} {s s' : Lifecycle} {u : Unit}

/-- The instruction gives the NCN's router its data, routes its rewards or pays out of it. -/
def Instruction.onNcnRouter : Instruction → Bool
  | .reallocNcnRewardRouter .. | .routeNcnRewards .. | .distributeNcnRewards _ | .distributeProtocolRewards _
  | .distributeOperatorVaultRewardRoute _ => true
  | _ => false

/-- The NCN's router, where it is there, has been there and has the same data. -/
def SparesNcn (s s' : Lifecycle) : Prop :=
  s'.single .ncnRewardRouter = .initialized →
    s.single .ncnRewardRouter = .initialized ∧ s'.accounts.ncnRewardRouter = s.accounts.ncnRewardRouter

/-- How far another account has come. -/
lemma SparesNcn.of_single {k : Single} (slot : Slot) (hk : k ≠ .ncnRewardRouter)
    (hs : s'.single = (s.setSingle k slot).single)
    (hr : s'.accounts.ncnRewardRouter = s.accounts.ncnRewardRouter) : SparesNcn s s' := by
  intro hthere
  rw [hs] at hthere
  exact ⟨single_of_setSingle_ne k slot s hk.symm hthere, hr⟩

lemma SparesNcn.of_loaded {ks : List Single} {x : Mut Epoch Unit} (hx : Leaves (·.ncnRewardRouter) x)
    (h : (loaded ks x).run s = .ok u s') : SparesNcn s s' := by
  obtain ⟨_, _, e, he, rfl⟩ := loaded_ok h
  exact fun hthere => ⟨hthere, hx he⟩

/-- Growing another account. -/
lemma SparesNcn.of_realloc {k : Single} {size : ℕ} {x : Mut Lifecycle Unit} (hk : k ≠ .ncnRewardRouter)
    (hx : ∀ {s s'}, x.run s = .ok () s' → SparesNcn s s')
    (h : (do if ← realloc k size then x : Mut Lifecycle Unit).run s = .ok u s') : SparesNcn s s' := by
  obtain ⟨done, s₁, hg, h⟩ := run_bind_ok.1 h
  have hs₁ : SparesNcn s s₁ := by
    obtain ⟨_, ⟨_, rfl⟩ | ⟨_, newLen, _, rfl⟩⟩ := realloc_ok hg
    · exact fun hthere => ⟨hthere, rfl⟩
    · exact .of_single (.allocated newLen) hk rfl rfl
  cases done with
  | false => cases h; exact hs₁
  | true =>
    intro hthere
    obtain ⟨hthere₁, hsame₁⟩ := hx h hthere
    obtain ⟨hthere₀, hsame₀⟩ := hs₁ hthere₁
    exact ⟨hthere₀, hsame₁.trans hsame₀⟩

/-- Closing an account. -/
lemma SparesNcn.of_closeTarget {target : Target} (h : (closeTarget cl target).run s = .ok u s') :
    SparesNcn s s' := by
  cases closeTarget_ok h with
  | single k =>
    by_cases hk : k = .ncnRewardRouter
    · subst hk
      exact fun hthere => by cases eq_of_setSingle .ncnRewardRouter .absent s hthere
    · exact .of_single .absent hk rfl rfl
  | _ => exact fun hthere => ⟨hthere, rfl⟩

/-- All instructions but five spare the NCN's router. -/
lemma exec_sparesNcn (h : (exec cl i).run s = .ok () s') (hi : i.onNcnRouter = false) : SparesNcn s s' := by
  cases i with
  | initializeEpochState =>
    obtain ⟨_, _, rfl⟩ := processInitializeEpochState_ok h
    exact fun hthere => ⟨hthere, rfl⟩
  | initializeWeightTable =>
    obtain ⟨_, _, _, rfl⟩ := processInitializeWeightTable_ok h
    exact .of_single (.allocated maxReallocBytes) (by decide) rfl rfl
  | reallocWeightTable =>
    refine .of_realloc (by decide) (fun h => ?_) h
    obtain ⟨_, _, hg, h⟩ := run_bind_ok.1 h
    cases hg
    obtain ⟨_, _, hg, h⟩ := run_bind_ok.1 h
    obtain ⟨_, rfl⟩ := run_ofExcept_ok.1 hg
    cases h
    exact .of_single .initialized (by decide) rfl rfl
  | adminSetWeight =>
    refine .of_loaded (fun e u e' he => ?_) h
    obtain ⟨_, _, rfl⟩ := Epoch.processAdminSetWeight_run_ok he
    rfl
  | setEpochWeights =>
    refine .of_loaded (fun e u e' he => ?_) h
    obtain ⟨_, _, rfl⟩ := Epoch.updateWeights_run_ok he
    rfl
  | initializeEpochSnapshot =>
    obtain ⟨_, _, _, _, _, _, rfl⟩ := processInitializeEpochSnapshot_ok h
    exact .of_single .initialized (k := .epochSnapshot) (by decide) rfl rfl
  | initializeOperatorSnapshot =>
    obtain ⟨_, _, e, he, rfl⟩ := processInitializeOperatorSnapshot_ok h
    obtain ⟨_, _, _, _, _, _, _, _, rfl⟩ := Epoch.processInitializeOperatorSnapshot_run_ok he
    exact fun hthere => ⟨hthere, rfl⟩
  | snapshotVaultOperatorDelegation =>
    refine .of_loaded (fun e u e' he => ?_) h
    obtain ⟨_, _, _, _, _, _, _, _, _, _, rfl⟩ := Epoch.processSnapshotVaultOperatorDelegation_run_ok he
    rfl
  | initializeBallotBox =>
    obtain ⟨_, _, _, rfl⟩ := processInitializeBallotBox_ok h
    exact .of_single (.allocated maxReallocBytes) (k := .ballotBox) (by decide) rfl rfl
  | reallocBallotBox =>
    refine .of_realloc (by decide) (fun h => ?_) h
    cases h
    exact .of_single .initialized (k := .ballotBox) (by decide) rfl rfl
  | castVote =>
    obtain ⟨_, _, hg, h⟩ := run_bind_ok.1 h
    obtain ⟨_, _, hg', hg⟩ := run_bind_ok.1 hg
    cases hg'
    obtain ⟨_, rfl⟩ := run_ensure_ok.1 hg
    refine .of_loaded (fun e u e' he => ?_) h
    obtain ⟨_, _, _, _, _, _, _, _, _, _, rfl⟩ := Epoch.processCastVote_run_ok he
    rfl
  | adminSetTieBreaker =>
    refine .of_loaded (fun e u e' he => ?_) h
    obtain ⟨_, _, rfl⟩ := Epoch.processAdminSetTieBreaker_run_ok he
    rfl
  | adminSetParameters | adminSetNewAdmin =>
    obtain ⟨_, rfl, _⟩ := exec_setsConfig h rfl
    exact fun hthere => ⟨hthere, rfl⟩
  | initializeNcnRewardRouter =>
    obtain ⟨_, _, _, rfl⟩ := processInitializeNcnRewardRouter_ok h
    exact fun hthere => by cases eq_of_setSingle .ncnRewardRouter (.allocated maxReallocBytes) s hthere
  | initializeOperatorVaultRewardRouter =>
    obtain ⟨_, _, _, _, _, _, _, _, _, rfl⟩ := processInitializeOperatorVaultRewardRouter_ok h
    exact fun hthere => ⟨hthere, rfl⟩
  | routeOperatorVaultRewards => exact .of_loaded (Epoch.apart_ncnRewardRouter.route ..) h
  | distributeOperatorRewards => exact .of_loaded (Epoch.apart_ncnRewardRouter.pay _) h
  | distributeVaultRewards => exact .of_loaded (Epoch.apart_ncnRewardRouter.pay _) h
  | depositNcn | depositOperatorVault => cases h; exact fun hthere => ⟨hthere, rfl⟩
  | closeEpochAccount =>
    obtain ⟨_, _, _, _, h⟩ := processCloseEpochAccount_ok.1 h
    have hclose := SparesNcn.of_closeTarget h
    exact hclose
  | reallocNcnRewardRouter | routeNcnRewards | distributeNcnRewards | distributeProtocolRewards
  | distributeOperatorVaultRewardRoute => cases hi

/-! ## What the parties get -/

/-- The instruction pays the party. -/
def Instruction.paysFee (p : FeeParty) : Instruction → Bool
  | .distributeNcnRewards _ => p == .ncn
  | .distributeProtocolRewards _ => p == .protocol
  | _ => false

/-- The instruction routes rewards of the NCN. -/
def Instruction.routesNcn : Instruction → Bool
  | .routeNcnRewards .. => true
  | _ => false

/-- What leaves the NCN's receiver for a party, from one state to the next. -/
def receipt (p : FeeParty) (i : Instruction) (s s' : Lifecycle) : ℕ :=
  if i.paysFee p then s.accounts.ncnRewardReceiver - s'.accounts.ncnRewardReceiver else 0

/-- What leaves it for a party when instructions are run. -/
def receipts (cl : Cluster) (p : FeeParty) : List Instruction → Lifecycle → ℕ
  | [], _ => 0
  | i :: is, s => receipt p i s (commit (exec cl i) s) + receipts cl p is (commit (exec cl i) s)

/-- Other instructions pay neither party and route nothing. -/
lemma Instruction.unpaid (hi : i.onNcnRouter = false) : (∀ p, i.paysFee p = false) ∧ i.routesNcn = false := by
  cases i with
  | reallocNcnRewardRouter | routeNcnRewards | distributeNcnRewards | distributeProtocolRewards
  | distributeOperatorVaultRewardRoute => cases hi
  | _ => exact ⟨fun _ => rfl, rfl⟩

lemma receipt_of_unpaid {p : FeeParty} (hi : i.paysFee p = false) : receipt p i s s' = 0 := by
  rw [receipt, hi]
  rfl

end Lifecycle

/-- The part of the party in basis points. -/
def FeeParty.bps (fee : Fees) : FeeParty → ℕ
  | ncn => fee.ncnFeeBps
  | protocol => fee.protocolFeeBps

/-- The parties have been paid some amounts. With what the router has for them this is at least their part of all
rewards that were routed, up to a lamport for each round, and for the protocol no more than its part. -/
structure FairShares (fee : Fees) (paid : FeeParty → ℕ) (rounds : ℕ) (r : NCNRewardRouter) : Prop where
  rewardPool : r.rewardPool = 0
  least : ∀ p, p.bps fee * r.totalRewards ≤ 10000 * (paid p + p.rewards r) + 10000 * rounds
  most : 10000 * (paid .protocol + r.protocolRewards) ≤ fee.protocolFeeBps * r.totalRewards

namespace FairShares
variable {fee : Fees} {paid paid' : FeeParty → ℕ} {rounds : ℕ} {r r' : NCNRewardRouter} {math : PreciseMath}

/-- A payout moves what the router has for a party to what it has been paid. -/
lemma move (h : FairShares fee paid rounds r)
    (hcounts : r'.rewardPool = r.rewardPool ∧ r'.totalRewards = r.totalRewards)
    (hpaid : ∀ p, paid' p + p.rewards r' = paid p + p.rewards r) : FairShares fee paid' rounds r' where
  rewardPool := hcounts.1.trans h.rewardPool
  least p := by
    rw [hcounts.2, hpaid]
    exact h.least p
  most := by
    have hprotocol : paid' .protocol + r'.protocolRewards = paid .protocol + r.protocolRewards := hpaid .protocol
    rw [hcounts.2, hprotocol]
    exact h.most

/-- A route call adds a round. -/
lemma route {clock : Clock} {rent maxIterations : ℕ} {e e' : Epoch}
    (h : FairShares fee paid rounds e.ncnRewardRouter) (hm : math.Documented)
    (hfees : e.epochSnapshot.fees = fee) (hokay : fee.Okay)
    (hrun : (Epoch.processRouteNcnRewards math clock rent maxIterations).run e = .ok () e') :
    FairShares fee paid (rounds + 1) e'.ncnRewardRouter := by
  subst hfees
  have hle : e.epochSnapshot.fees.protocolFeeBps + e.epochSnapshot.fees.ncnFeeBps ≤ 10000 := hokay.le
  obtain ⟨x, hpool, htotal, hprotocol, hncn⟩ :=
    Epoch.processRouteNcnRewards_fees hrun hm h.rewardPool (by omega) (by omega)
  obtain ⟨hle₁, hge₁⟩ := share_bps_bounds x e.epochSnapshot.fees.protocolFeeBps
  obtain ⟨_, hge₂⟩ := share_bps_bounds x e.epochSnapshot.fees.ncnFeeBps
  refine ⟨hpool, fun p => ?_, ?_⟩
  · have hleast := h.least p
    cases p
    all_goals
      simp only [FeeParty.bps, FeeParty.rewards] at hleast ⊢
      rw [htotal, Nat.mul_add]
      omega
  · have hmost := h.most
    rw [htotal, Nat.mul_add e.epochSnapshot.fees.protocolFeeBps]
    omega

/-- Nothing has been routed yet. -/
lemma new (hpaid : ∀ p, paid p = 0) (ncn : Pubkey) (epoch slot : ℕ) (bump : UInt8) :
    FairShares fee paid rounds (.new ncn epoch bump slot) where
  rewardPool := rfl
  least p := Nat.zero_le _
  most := by
    rw [hpaid]
    exact Nat.le_refl _

end FairShares

/-! ## Over a whole run -/

/-- An account that has its data keeps it until it is closed. -/
lemma Book.Change.single_of_initialized {index : Pubkey → ℕ} {b b' : Book} {k : Single} (hb : Change index b b')
    (hk : b.single k = .initialized) : b'.single k = .initialized ∨ b'.single k = .absent := by
  have hother : ∀ k' slot, b.single k' ≠ .initialized → Function.update b.single k' slot k = .initialized := by
    intro k' slot hk'
    rw [Function.update_of_ne (by rintro rfl; exact hk' hk), hk]
  cases hb with
  | allocate k' dataLen _ _ habsent => exact .inl (hother k' _ (by simp [habsent]))
  | grow k' dataLen newLen _ halloc => exact .inl (hother k' _ (by simp [halloc]))
  | fill k' =>
    by_cases h : k = k'
    · subst h; exact .inl (Function.update_self ..)
    · exact .inl ((Function.update_of_ne h ..).trans hk)
  | closeSingle k' =>
    by_cases h : k = k'
    · subst h; exact .inr (Function.update_self ..)
    · exact .inl ((Function.update_of_ne h ..).trans hk)
  | _ => exact .inl hk

namespace NCNRewardRouter

lemma leaves_method (p : FeeParty) : Leaves counts p.method := by
  cases p
  all_goals
    exact .bind .get fun _ => .bind (.modify fun _ => rfl) fun _ => .bind (leaves_debit fun _ _ => rfl) fun _ =>
      .pure _

lemma leaves_distributeOperatorVaultRewardRoute (operator : Pubkey) :
    Leaves counts (distributeOperatorVaultRewardRoute operator) :=
  .bind (.zoom fun _ _ => rfl) fun _ => .bind (leaves_debit fun _ _ => rfl) fun _ => .pure _

end NCNRewardRouter

namespace Lifecycle
variable {cl : Cluster} {i : Instruction} {s s' : Lifecycle} {fee : Fees} {paid : FeeParty → ℕ} {rounds : ℕ}

/-- The fees are fairly shared as long as the NCN's router is there. It is created once, and not again when it has
been closed. -/
inductive Shared (fee : Fees) (paid : FeeParty → ℕ) (rounds : ℕ) (s : Lifecycle) : Prop
  | before : s.single .ncnRewardRouter ≠ .initialized → (∀ p, paid p = 0) → Shared fee paid rounds s
  | during : s.single .ncnRewardRouter = .initialized → FairShares fee paid rounds s.accounts.ncnRewardRouter →
      Shared fee paid rounds s
  | after : s.Gone (.single .ncnRewardRouter) → Shared fee paid rounds s

namespace Shared

/-- An instruction that spares the router. -/
lemma spared (h : Shared fee paid rounds s) (hstep : Step cl s s') (hspares : SparesNcn s s') :
    Shared fee paid rounds s' := by
  cases h with
  | before hnone hpaid => exact .before (fun hthere => hnone (hspares hthere).1) hpaid
  | after hgone => exact .after (hstep.gone hgone)
  | during hthere hfair =>
    have hsome : s.dataIsEmpty (.single .ncnRewardRouter) = false := by
      rw [dataIsEmpty, hthere]
      rfl
    rcases hstep.there_or_gone hsome with hstays | hgone
    · -- what is there and has its data is not allocated again
      have hthere' : s'.single .ncnRewardRouter = .initialized :=
        (hstep.change.single_of_initialized hthere).resolve_right fun habsent => by
          rw [dataIsEmpty, show s'.single .ncnRewardRouter = .absent from habsent] at hstays
          cases hstays
      have hsame := (hspares hthere').2
      exact .during hthere' (hfair.move ⟨by rw [hsame], by rw [hsame]⟩ fun p => by rw [hsame])
    · exact .after hgone

/-- The router gets its data. -/
lemma realloc (h : Shared fee paid rounds s) {clock : Clock} {bump : UInt8}
    (hrun : (exec cl (.reallocNcnRewardRouter clock bump)).run s = .ok () s') : Shared fee paid rounds s' := by
  have hstep : Step cl s s' := ⟨_, hrun⟩
  obtain ⟨done, s₁, hg, hrest⟩ := run_bind_ok.1 hrun
  obtain ⟨_, ⟨rfl, rfl⟩ | ⟨dataLen, newLen, halloc, rfl⟩⟩ := realloc_ok hg
  · cases hrest
    exact h
  · cases h with
    | during hthere => cases halloc.symm.trans hthere
    | after hgone => exact .after (hstep.gone hgone)
    | before _ hpaid =>
      cases done with
      | false =>
        cases hrest
        refine .before (fun hthere => ?_) hpaid
        cases eq_of_setSingle .ncnRewardRouter (.allocated newLen) s hthere
      | true =>
        cases hrest
        refine .during ?_ (.new hpaid ..)
        rw [single_setSingle, Function.update_self]

/-- Rewards are routed. -/
lemma route (h : Shared fee paid rounds s) (hm : cl.math.Documented)
    (hfees : s.single .epochSnapshot = .initialized → s.accounts.epochSnapshot.fees = fee) (hokay : fee.Okay)
    {clock : Clock} {maxIterations : ℕ}
    (hrun : (exec cl (.routeNcnRewards clock maxIterations)).run s = .ok () s') :
    Shared fee paid (rounds + 1) s' := by
  have hstep : Step cl s s' := ⟨_, hrun⟩
  obtain ⟨_, hinit, e, he, rfl⟩ := loaded_ok hrun
  have hthere := hinit .ncnRewardRouter (by simp)
  cases h with
  | before hnone => exact absurd hthere hnone
  | after hgone => exact .after (hstep.gone hgone)
  | during _ hfair => exact .during hthere (hfair.route hm (hfees (hinit .epochSnapshot (by simp))) hokay he)

/-- A party is paid. -/
lemma pay (h : Shared fee paid rounds s) {p : FeeParty} {wallet : Pubkey} (hi : ∀ q, i.paysFee q = (q == p))
    (hrun : (loaded [.ncnRewardRouter] (p.distribute wallet)).run s = .ok () s') (hstep : Step cl s s') :
    Shared fee (fun q => paid q + receipt q i s s') rounds s' := by
  obtain ⟨_, hinit, e, he, rfl⟩ := loaded_ok hrun
  have hthere := hinit .ncnRewardRouter (by simp)
  cases h with
  | before hnone => exact absurd hthere hnone
  | after hgone => exact .after (hstep.gone hgone)
  | during _ hfair =>
    obtain ⟨r, n, hmethod, hle, rfl⟩ := FeeParty.distribute_run_ok he
    have hcounts := NCNRewardRouter.leaves_method p hmethod
    obtain ⟨hn, hzero, hother⟩ := FeeParty.method_run_ok hmethod
    refine .during hthere (hfair.move ⟨congrArg Prod.fst hcounts, congrArg Prod.snd hcounts⟩ fun q => ?_)
    simp only [receipt, hi]
    by_cases hq : q = p
    · subst hq
      rw [beq_self_eq_true, if_pos rfl, hzero]
      omega
    · rw [beq_eq_false_iff_ne.2 hq, hother q hq]
      rfl

/-- The route of an operator is paid. -/
lemma payRoute (h : Shared fee paid rounds s) {operator : Pubkey}
    (hrun : (exec cl (.distributeOperatorVaultRewardRoute operator)).run s = .ok () s') :
    Shared fee paid rounds s' := by
  have hstep : Step cl s s' := ⟨_, hrun⟩
  obtain ⟨_, hinit, e, he, rfl⟩ := loaded_ok hrun
  have hthere := hinit .ncnRewardRouter (by simp)
  cases h with
  | before hnone => exact absurd hthere hnone
  | after hgone => exact .after (hstep.gone hgone)
  | during _ hfair =>
    have hrewards := fun p => (Epoch.processDistributeOperatorVaultRewardRoute_fees he p).1
    obtain ⟨_, _, hg, he⟩ := run_bind_ok.1 he
    cases hg
    obtain ⟨_, _, hg, he⟩ := run_bind_ok.1 he
    obtain ⟨_, rfl⟩ := run_okOr_ok.1 hg
    obtain ⟨n, _, hpay, he⟩ := run_bind_ok.1 he
    cases he
    obtain ⟨r, hr, _, rfl⟩ := Epoch.distributeNcn_run_ok hpay
    have hcounts := NCNRewardRouter.leaves_distributeOperatorVaultRewardRoute operator hr
    exact .during hthere (hfair.move ⟨congrArg Prod.fst hcounts, congrArg Prod.snd hcounts⟩ fun p =>
      congrArg (paid p + ·) (hrewards p))

/-- Every instruction shares fairly. -/
lemma exec (h : Shared fee paid rounds s) (hm : cl.math.Documented)
    (hfees : s.single .epochSnapshot = .initialized → s.accounts.epochSnapshot.fees = fee) (hokay : fee.Okay)
    (hrun : (exec cl i).run s = .ok () s') :
    Shared fee (fun p => paid p + receipt p i s s') (rounds + if i.routesNcn then 1 else 0) s' := by
  have hstep : Step cl s s' := ⟨_, hrun⟩
  have hunpaid : (∀ p, i.paysFee p = false) → (fun p => paid p + receipt p i s s') = paid := fun hi =>
    funext fun p => by rw [receipt_of_unpaid (hi p), Nat.add_zero]
  cases hi : i.onNcnRouter with
  | false =>
    obtain ⟨hpays, hroutes⟩ := Instruction.unpaid hi
    rw [hunpaid hpays, hroutes]
    exact h.spared hstep (exec_sparesNcn hrun hi)
  | true =>
    cases i with
    | reallocNcnRewardRouter => rw [hunpaid fun _ => rfl]; exact h.realloc hrun
    | routeNcnRewards => rw [hunpaid fun _ => rfl]; exact h.route hm hfees hokay hrun
    | distributeNcnRewards wallet => exact h.pay (p := .ncn) (fun _ => rfl) hrun hstep
    | distributeProtocolRewards wallet => exact h.pay (p := .protocol) (fun _ => rfl) hrun hstep
    | distributeOperatorVaultRewardRoute => rw [hunpaid fun _ => rfl]; exact h.payRoute hrun
    | _ => cases hi

/-- So does a run, if the fees are those that an NCN begins with. -/
lemma run (h : Shared fee paid rounds s) (hm : cl.math.Documented) (hinitial : s.accounts.config.feeConfig.Initial)
    (hfee : s.accounts.config.feeConfig.fee1 = fee)
    (hfees : s.single .epochSnapshot = .initialized → s.accounts.epochSnapshot.fees = fee) {is : List Instruction}
    (hrun : (is.forM (Lifecycle.exec cl)).run s = .ok () s') :
    Shared fee (fun p => paid p + receipts cl p is s) (rounds + is.countP Instruction.routesNcn) s' := by
  induction is generalizing s paid rounds with
  | nil => cases hrun; exact h
  | cons i is ih =>
    obtain ⟨_, s₁, hi, hrun⟩ := run_bind_ok.1 hrun
    have hconfig := (exec_config hi).2.1
    have hokay : fee.Okay := hfee ▸ hinitial.okay
    have hfees₁ : s₁.single .epochSnapshot = .initialized → s₁.accounts.epochSnapshot.fees = fee := by
      intro hthere
      obtain ⟨hold, hsame⟩ | ⟨_, hnew⟩ := exec_fees hi hthere
      · exact hsame.trans (hfees hold)
      · exact hnew.trans ((hinitial.currentFees s.epoch).trans hfee)
    have hrest := ih (h.exec hm hfees hokay hi) (hconfig ▸ hinitial) (hconfig ▸ hfee) hfees₁ hrun
    simp only [receipts, commit_of_ok hi, List.countP_cons]
    simpa only [Nat.add_assoc, Nat.add_comm (if i.routesNcn = true then 1 else 0)] using hrest

end Shared

/-- However an epoch goes (unless a call for another one empties its state), whenever rewards come in, are routed and
are paid, as long as the NCN's router is there everything that has been routed is split, and of all of it the protocol
has got its fee, up to a lamport for each time that rewards were routed, and the NCN at least its fee up to as much. -/
theorem fees_shared {s₀ : Lifecycle} (hm : cl.math.Documented) (h₀ : s₀.Untouched)
    (hfees : s₀.accounts.config.feeConfig.Initial) {is : List Instruction}
    (hrun : (is.forM (exec cl)).run s₀ = .ok () s) (hthere : s.single .ncnRewardRouter = .initialized) :
    FairShares s₀.accounts.config.feeConfig.fee1 (fun p => receipts cl p is s₀) (is.countP Instruction.routesNcn)
      s.accounts.ncnRewardRouter := by
  have hbefore : Shared s₀.accounts.config.feeConfig.fee1 (fun _ => 0) 0 s₀ :=
    .before (by rw [h₀.single]; simp) fun _ => rfl
  have hsnapshot : s₀.single .epochSnapshot = .initialized →
      s₀.accounts.epochSnapshot.fees = s₀.accounts.config.feeConfig.fee1 := by
    intro h
    cases h.symm.trans (h₀.single _)
  have hshared := hbefore.run hm hfees rfl hsnapshot hrun
  simp only [Nat.zero_add] at hshared
  cases hshared with
  | before hnone => exact absurd hthere hnone
  | during _ hfair => exact hfair
  | after hgone =>
    have habsent := hgone.2
    rw [dataIsEmpty, hthere] at habsent
    cases habsent

/-- What happens in the small epoch: the small rewards, payouts of both fees, and more rewards. -/
def smallShares : List Instruction :=
  smallRewards ++ [.distributeNcnRewards 4, .distributeProtocolRewards FeeConfig.protocolFeeWalletKey,
    .depositNcn 1010, .routeNcnRewards ⟨10 * defaultSlotsPerEpoch, 10⟩ 5]

lemma small_initial : small.accounts.config.feeConfig.Initial := ⟨rfl, ⟨rfl, by decide, by decide⟩, rfl, by decide⟩

/-- Of 3010 lamports in three rounds the protocol has been paid 80 and the NCN 40. -/
theorem fees_shared_small :
    ∃ s, (smallShares.forM (exec smallCluster)).run small = .ok () s ∧
      s.accounts.ncnRewardRouter.totalRewards = 3010 ∧ receipts smallCluster .protocol smallShares small = 80 ∧
      receipts smallCluster .ncn smallShares small = 40 ∧
      FairShares ⟨0, 400, 200⟩ (fun p => receipts smallCluster p smallShares small) 3
        s.accounts.ncnRewardRouter := by
  let s := commit (smallShares.forM (exec smallCluster)) small
  have hrun : (smallShares.forM (exec smallCluster)).run small = .ok () s :=
    Succeeds.run_eq (by decide +kernel)
  have hstate : s.single .ncnRewardRouter = .initialized ∧ s.accounts.ncnRewardRouter.totalRewards = 3010 := by
    decide +kernel
  have hpaid : receipts smallCluster .protocol smallShares small = 80 ∧
      receipts smallCluster .ncn smallShares small = 40 := by decide +kernel
  have hrounds : smallShares.countP Instruction.routesNcn = 3 := by decide +kernel
  clear_value s
  have hfair := fees_shared splMath_documented small_untouched small_initial hrun hstate.1
  rw [hrounds] at hfair
  exact ⟨s, hrun, hstate.2, hpaid.1, hpaid.2, hfair⟩

end Lifecycle
end NcnProgram
