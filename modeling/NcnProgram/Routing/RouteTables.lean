import NcnProgram.Routing.Errors
import NcnProgram.Routing.NcnOneShot
import NcnProgram.Routing.OperatorVaultOneShot

/-!
# The tables of routes

Neither way to add to a route looks further than the first slot that fits, so that a party has only one route
rests on the order of the slots: the routes fill the first ones, each is for another party, and a route that has
been paid out keeps its slot. `Listed` says so, and which parties have come first. Every call keeps it, whether it
succeeds or fails; and as there are no more parties than slots, no table is ever full.
-/

namespace NcnProgram
open Lib NCNProgramError

section Tables
variable {n : ℕ} {t : Table RewardRoute n} {rs : List RewardRoute} {ps qs : List Pubkey} {p : Pubkey}
  {e : ProgramError}

/-- The table has routes to the parties `qs`, in their order, and after these to others among `ps`. -/
def Listed (ps qs : List Pubkey) (t : Table RewardRoute n) : Prop :=
  ∃ rs, RoutesTo t rs ∧ qs <+: rs.map (·.payee) ∧ rs.map (·.payee) ⊆ ps

/-- Another amount in a route changes no party. -/
lemma RoutesTo.listed_set (h : RoutesTo t rs) (hqs : qs <+: rs.map (·.payee)) (hps : rs.map (·.payee) ⊆ ps)
    {i v : ℕ} {r : RewardRoute} (hi : rs[i]? = some r) : Listed ps qs (t.set i { r with rewards := v }) :=
  ⟨_, h.set_rewards hi, (payees_set hi).symm ▸ hqs, (payees_set hi).symm ▸ hps⟩

/-- Incrementing a route writes its slot, with the sum or with what was there. -/
lemma RoutesTo.increment_cases (h : RoutesTo t rs) {i : ℕ} {r : RewardRoute} (hi : rs[i]? = some r)
    (rewards : ℕ) :
    ∃ v, (onRoute i (RewardRoute.incrementRewards rewards)).run t = .ok () (t.set i { r with rewards := v }) ∨
      (onRoute i (RewardRoute.incrementRewards rewards)).run t =
        .error arithmeticOverflow (t.set i { r with rewards := v }) := by
  cases htotal : checkedAdd 64 r.rewards rewards with
  | none =>
    have hinc : (RewardRoute.incrementRewards rewards).run r = .error arithmeticOverflow r := by
      simp only [RewardRoute.incrementRewards, EStateM.run_bind, EStateM.run_get, htotal]
      rfl
    exact ⟨r.rewards, .inr (by rw [onRoute, run_zoom, h.get_route hi, hinc])⟩
  | some total =>
    have hinc : (RewardRoute.incrementRewards rewards).run r = .ok () { r with rewards := total } := by
      simp only [RewardRoute.incrementRewards, EStateM.run_bind, EStateM.run_get, htotal]
      rfl
    exact ⟨total, .inl (by rw [onRoute, run_zoom, h.get_route hi, hinc])⟩

/-- Adding to the route of one of the parties finds it, or a free slot. -/
lemma upholds_add {add : Pubkey → ℕ → Mut (Table RewardRoute n) Unit} (hadd : AddsToRoute add)
    (he : NotArithmetic e) (hlen : ps.length ≤ n) (hp : p ∈ ps) (hne : p ≠ .default) (rewards : ℕ) :
    Upholds (Listed ps qs) e (add p rewards) := by
  rintro t ⟨rs, h, hqs, hps⟩
  by_cases hmem : p ∈ rs.map (·.payee)
  · obtain ⟨i, r, hr, _, hrun⟩ := hadd.of_mem h hmem
    obtain ⟨v, hok | herror⟩ := h.increment_cases hr rewards
    · exact Upholds.of_ok ((hrun rewards).trans hok) (h.listed_set hqs hps hr)
    · exact Upholds.of_error ((hrun rewards).trans herror) (he _ (by decide)) (h.listed_set hqs hps hr)
  · have hroom := h.room hps hp hlen hmem
    have hopen := (h.open_route rewards hne hmem hroom).1
    refine Upholds.of_ok (hadd.of_new h hne hmem hroom rewards) ⟨_, hopen, ?_, ?_⟩
    · rw [List.map_append]
      exact hqs.trans (List.prefix_append _ _)
    · rw [List.map_append, List.map_singleton]
      exact List.append_subset.2 ⟨hps, List.cons_subset.2 ⟨hp, List.nil_subset _⟩⟩

/-- Emptying a route keeps its slot. -/
lemma upholds_emptyRoute (hfound : (operatorRewardNotFound : ProgramError) ≠ e) (underflow : NCNProgramError)
    (p : Pubkey) : Upholds (Listed ps qs) e (emptyRoute underflow p : Mut (Table RewardRoute n) ℕ) := by
  rintro t ⟨rs, h, hqs, hps⟩
  by_cases hp : t.any (·.payee == p) = true
  · obtain ⟨rewards, t', hrun⟩ := RoutesTo.emptyRoute_succeeds underflow hp
    obtain ⟨rs', h', hsame, _⟩ := h.emptyRoute hrun
    exact Upholds.of_ok hrun ⟨rs', h', hsame.symm ▸ hqs, hsame.symm ▸ hps⟩
  · have hnone : t.findIdx? (fun r => r.payee == p) = none := by
      rw [Table.findIdx?, List.findIdx?_eq_none_iff]
      rw [Bool.not_eq_true, Table.any, List.any_eq_false] at hp
      exact fun r hr => Bool.eq_false_iff.2 (hp r hr)
    have hrun : (emptyRoute underflow p).run t = .error operatorRewardNotFound t := by
      simp only [emptyRoute, EStateM.run_bind, EStateM.run_get, hnone]
      rfl
    exact Upholds.of_error hrun hfound ⟨rs, h, hqs, hps⟩

lemma notArithmetic_operatorRewardListFull : NotArithmetic operatorRewardListFull := by decide

/-- The routes fill the first slots, each is for another party, a free slot holds no rewards, and looking a
party up finds its only route. -/
structure OneRouteEach (t : Table RewardRoute n) (isParty : Pubkey → Prop) : Prop where
  initial : ∀ i j a b, t.get? i = some a → t.get? j = some b → i < j →
    a.payee = .default → b.payee = .default
  distinct : ∀ i j a b, t.get? i = some a → t.get? j = some b →
    a.payee ≠ .default → a.payee = b.payee → i = j
  party : ∀ i a, t.get? i = some a → a.payee ≠ .default → isParty a.payee
  free : ∀ i a, t.get? i = some a → a.payee = .default → a.rewards = 0
  lookup : ∀ i a, t.get? i = some a → a.payee ≠ .default → t.findIdx? (·.payee == a.payee) = some i

/-- Every route is still in its slot. -/
def KeepsSlots (t t' : Table RewardRoute n) : Prop :=
  ∀ i a, t.get? i = some a → a.payee ≠ .default → ∃ b, t'.get? i = some b ∧ b.payee = a.payee

/-- A slot with a party is a route. -/
lemma RoutesTo.route_of_ne (h : RoutesTo t rs) {i : ℕ} {a : RewardRoute} (ha : t.get? i = some a)
    (hne : a.payee ≠ .default) : rs[i]? = some a := by
  rcases h.holds.get?_cases ha with hroute | ⟨_, rfl⟩
  · exact hroute
  · exact absurd rfl hne

/-- It has an index among the parties. -/
lemma RoutesTo.getElem?_payee (h : RoutesTo t rs) {i : ℕ} {a : RewardRoute} (ha : t.get? i = some a)
    (hne : a.payee ≠ .default) :
    (rs.map (·.payee))[i]? = some a.payee ∧ i < (rs.map (·.payee)).length := by
  have hi := h.route_of_ne ha hne
  have hpayee : (rs.map (·.payee))[i]? = some a.payee := by rw [List.getElem?_map, hi, Option.map_some]
  exact ⟨hpayee, (List.getElem?_eq_some_iff.1 hpayee).1⟩

/-- Two routes to one party are one. -/
lemma RoutesTo.slot_unique (h : RoutesTo t rs) {i j : ℕ} {a b : RewardRoute} (ha : t.get? i = some a)
    (hb : t.get? j = some b) (hne : a.payee ≠ .default) (hsame : a.payee = b.payee) : i = j := by
  obtain ⟨hi, hlt⟩ := h.getElem?_payee ha hne
  obtain ⟨hj, _⟩ := h.getElem?_payee hb (hsame ▸ hne)
  refine (List.getElem?_inj hlt h.nodup).1 ?_
  rw [hi, hj, hsame]

lemma Listed.oneRouteEach (h : Listed ps qs t) : OneRouteEach t (· ∈ ps) := by
  obtain ⟨rs, h, _, hps⟩ := h
  constructor
  case initial =>
    intro i j a b ha hb hlt hdefault
    by_contra hne
    have hj := (List.getElem?_eq_some_iff.1 (h.route_of_ne hb hne)).1
    rw [h.holds.get?_lt (hlt.trans hj)] at ha
    exact h.payee_ne a (List.mem_of_getElem? ha) hdefault
  case distinct => exact fun i j a b ha hb hne hsame => h.slot_unique ha hb hne hsame
  case party => exact fun i a ha hne => hps (List.mem_of_getElem? (h.getElem?_payee ha hne).1)
  case free =>
    intro i a ha hdefault
    rcases h.holds.get?_cases ha with hroute | ⟨_, rfl⟩
    · exact absurd hdefault (h.payee_ne a (List.mem_of_getElem? hroute))
    · rfl
  case lookup =>
    intro i a ha hne
    have hmem := List.mem_of_getElem? (h.getElem?_payee ha hne).1
    obtain ⟨j, b, hj, hb, hsame⟩ := h.findIdx?_payee (q := (·.payee == a.payee)) (fun _ _ => rfl) hmem
    have hb' : t.get? j = some b := (h.holds.get?_lt (List.getElem?_eq_some_iff.1 hb).1).trans hb
    rw [hj, h.slot_unique ha hb' hne hsame.symm]

/-- What starts with the parties of a table has them in the same slots. -/
lemma RoutesTo.keepsSlots {t' : Table RewardRoute n} (h : RoutesTo t rs) (h' : Listed ps (rs.map (·.payee)) t') :
    KeepsSlots t t' := by
  obtain ⟨rs', h', ⟨later, hlater⟩, _⟩ := h'
  intro i a ha hne
  obtain ⟨hi, hlt⟩ := h.getElem?_payee ha hne
  have hpayee : (rs'.map (·.payee))[i]? = some a.payee := by
    rw [← hlater, List.getElem?_append_left hlt, hi]
  rw [List.getElem?_map, Option.map_eq_some_iff] at hpayee
  obtain ⟨b, hb, hsame⟩ := hpayee
  exact ⟨b, (h'.holds.get?_lt (List.getElem?_eq_some_iff.1 hb).1).trans hb, hsame⟩

end Tables

/-! ## The NCN's router -/

namespace NCNRewardRouter

/-- A call on the router, with its arguments. -/
inductive Call where
  | routeIncomingRewards (rentCost accountBalance : ℕ)
  | routeRewardPool (fee : Fees)
  | routeOperatorVaultRewards (maxIterations : ℕ)
  | distribute (p : NcnPayout)

/-- Runs a call over the ballot box. -/
def Call.exec (math : PreciseMath) (box : BallotBox) : Call → Mut NCNRewardRouter Unit
  | routeIncomingRewards rentCost accountBalance =>
    NCNRewardRouter.routeIncomingRewards rentCost accountBalance
  | routeRewardPool fee => NCNRewardRouter.routeRewardPool math fee
  | routeOperatorVaultRewards maxIterations =>
    NCNRewardRouter.routeOperatorVaultRewards math box maxIterations
  | distribute p => do let _ ← p.distribute

/-- One call, successful or not, with the router it leaves. -/
def Attempt (math : PreciseMath) (box : BallotBox) (r r' : NCNRewardRouter) : Prop :=
  ∃ call : Call, r' = stateAfter (call.exec math box) r

/-- A router that calls make out of a new one. -/
def Called (math : PreciseMath) (box : BallotBox) (r : NCNRewardRouter) : Prop :=
  ∃ ncn epoch bump slot, Run (Attempt math box) (new ncn epoch bump slot) r

variable {math : PreciseMath} {box : BallotBox} {ps qs : List Pubkey} {r r' : NCNRewardRouter}

/-- The routes of the router. -/
def ListsRoutes (ps qs : List Pubkey) (r : NCNRewardRouter) : Prop := Listed ps qs r.operatorVaultRewardRoutes

/-- The operators with a winning vote are among `ps`. -/
structure Winners (box : BallotBox) (ps : List Pubkey) : Prop where
  length_le : ps.length ≤ maxOperators
  winner : ∀ t, box.getWinningBallotTally = .ok t → ∀ v ∈ box.operatorVotes.toList,
    v.ballotIndex = t.index → v.operator ∈ ps ∧ v.operator ≠ .default

lemma upholds_routeVote (hps : ps.length ≤ maxOperators) {v : OperatorVote}
    (hv : v.operator ∈ ps ∧ v.operator ≠ .default) (winningStakeWeight rewardsToProcess : ℕ) :
    Upholds (ListsRoutes ps qs) (operatorRewardListFull : ProgramError)
      (routeVote math winningStakeWeight rewardsToProcess v) := by
  have he := notArithmetic_operatorRewardListFull
  refine .ofExcept_bind (calculateOperatorVaultRouteReward_ne he) fun reward _ =>
    .bind (upholds_debit he ?_ reward) fun _ => .ite (fun _ => .pure _) fun _ => ?_
  · exact fun _ _ hs _ => hs
  · exact .zoom (upholds_add addsToRoute_routeInOnePass he hps hv.1 hv.2 reward) (fun _ hs => hs)
      fun _ _ _ ht => ht

lemma upholds_routeOperatorVaultRewards (h : Winners box ps) (maxIterations : ℕ) :
    Upholds (ListsRoutes ps qs) (operatorRewardListFull : ProgramError)
      (routeOperatorVaultRewards math box maxIterations) := by
  have he := notArithmetic_operatorRewardListFull
  refine .ofExcept_bind (getWinningBallotTally_ne (by decide) (by decide) box) fun t ht => .get_bind fun r hr =>
    .ite (fun _ => .pure _) fun _ =>
    .bind (.chunked ?_ ?_ (he arithmeticOverflow (by decide)) _ _ _) fun finished =>
    .ite (fun _ => .get_bind fun _ _ => .bind (upholds_debit he ?_ _) fun _ =>
      .bind (upholds_credit he ?_ _) fun _ => .modify fun _ hs => hs) fun _ => .pure _
  · intro v hv hwinning
    exact upholds_routeVote h.length_le (h.winner t ht v (List.mem_of_mem_drop hv) (beq_iff_eq.1 hwinning)) _ _
  · exact fun _ _ hs => hs
  · exact fun _ _ hs _ => hs
  · exact fun _ _ hs _ => hs

lemma upholds_routeFromRewardPool (rewards : ℕ) :
    Upholds (ListsRoutes ps qs) (operatorRewardListFull : ProgramError) (routeFromRewardPool rewards) := by
  have he := notArithmetic_operatorRewardListFull
  refine .bind (upholds_debit he ?_ rewards) fun _ => upholds_credit he ?_ rewards
  · exact fun _ _ hs _ => hs
  · exact fun _ _ hs _ => hs

lemma upholds_distribute (p : NcnPayout) :
    Upholds (ListsRoutes ps qs) (operatorRewardListFull : ProgramError) p.distribute := by
  have he := notArithmetic_operatorRewardListFull
  cases p with
  | protocolFee =>
    refine .get_bind fun r _ => .bind (.modify ?_) fun _ => .bind (upholds_debit he ?_ r.protocolRewards) fun _ =>
      .pure _
    · exact fun _ hs => hs
    · exact fun _ _ hs _ => hs
  | ncnFee =>
    refine .get_bind fun r _ => .bind (.modify ?_) fun _ => .bind (upholds_debit he ?_ r.ncnRewards) fun _ =>
      .pure _
    · exact fun _ hs => hs
    · exact fun _ _ hs _ => hs
  | operatorVaultRoute operator =>
    refine .bind (.zoom (upholds_emptyRoute (by decide) arithmeticOverflow operator) (fun _ hs => hs)
      fun _ _ _ ht => ht) fun rewards => .bind (upholds_debit he ?_ rewards) fun _ => .pure _
    exact fun _ _ hs _ => hs

/-- Every call keeps the routes in order, and finds a slot. -/
lemma Call.upholds (h : Winners box ps) (call : Call) :
    Upholds (ListsRoutes ps qs) (operatorRewardListFull : ProgramError) (call.exec math box) := by
  have he := notArithmetic_operatorRewardListFull
  cases call with
  | routeIncomingRewards rentCost accountBalance =>
    refine .get_bind fun _ _ => .ofExcept_bind (okOr_ne_error (he _ (by decide))) fun _ _ =>
      .okOr_bind (he _ (by decide)) fun _ _ => .okOr_bind (he _ (by decide)) fun _ _ =>
      .bind (upholds_credit he ?_ _) fun _ => upholds_credit he ?_ _
    · exact fun _ _ hs _ => hs
    · exact fun _ _ hs _ => hs
  | routeRewardPool fee =>
    refine .get_bind fun _ _ => .ofExcept_bind (calculateRewardSplit_ne he) fun _ _ =>
      .bind (upholds_routeFromRewardPool _) fun _ => .bind (upholds_credit he ?_ _) fun _ =>
      .ofExcept_bind (calculateRewardSplit_ne he) fun _ _ => .bind (upholds_routeFromRewardPool _) fun _ =>
      .bind (upholds_credit he ?_ _) fun _ => .get_bind fun _ _ => .bind (upholds_routeFromRewardPool _) fun _ =>
      upholds_credit he ?_ _
    · exact fun _ _ hs _ => hs
    · exact fun _ _ hs _ => hs
    · exact fun _ _ hs _ => hs
  | routeOperatorVaultRewards maxIterations => exact upholds_routeOperatorVaultRewards h maxIterations
  | distribute p => exact .bind (upholds_distribute p) fun _ => .pure ()

/-- The routers of one ballot box. -/
lemma Called.listsRoutes (h : Winners box ps) (hr : r.Called math box) : ListsRoutes ps [] r := by
  obtain ⟨ncn, epoch, bump, slot, hrun⟩ := hr
  exact Upholds.run (Call.upholds h) hrun ⟨[], RoutesTo.new, List.nil_prefix, List.nil_subset _⟩

/-- Later calls leave the routes in their slots. -/
lemma ListsRoutes.keepsSlots (h : Winners box ps) (hr : ListsRoutes ps [] r) (hrun : Run (Attempt math box) r r') :
    KeepsSlots r.operatorVaultRewardRoutes r'.operatorVaultRewardRoutes := by
  obtain ⟨rs, hroutes, _, hps⟩ := hr
  have hr' : ListsRoutes ps (rs.map (·.payee)) r' :=
    Upholds.run (Call.upholds h) hrun ⟨rs, hroutes, List.prefix_refl _, hps⟩
  exact hroutes.keepsSlots hr'

end NCNRewardRouter

/-! ## An operator's router -/

namespace OperatorVaultRewardRouter

/-- A call on the router, with its arguments. -/
inductive Call where
  | routeIncomingRewards (rentCost accountBalance : ℕ)
  | routeOperatorRewards
  | routeRewardPool (maxIterations : ℕ)
  | distribute (p : OperatorPayout)

/-- Runs a call over the snapshot. -/
def Call.exec (math : PreciseMath) (snapshot : OperatorSnapshot) : Call → Mut OperatorVaultRewardRouter Unit
  | routeIncomingRewards rentCost accountBalance =>
    OperatorVaultRewardRouter.routeIncomingRewards rentCost accountBalance
  | routeOperatorRewards => OperatorVaultRewardRouter.routeOperatorRewards math snapshot
  | routeRewardPool maxIterations => OperatorVaultRewardRouter.routeRewardPool math snapshot maxIterations
  | distribute p => do let _ ← p.distribute

/-- One call, successful or not, with the router it leaves. -/
def Attempt (math : PreciseMath) (snapshot : OperatorSnapshot) (r r' : OperatorVaultRewardRouter) : Prop :=
  ∃ call : Call, r' = stateAfter (call.exec math snapshot) r

/-- A router that calls make out of a new one. -/
def Called (math : PreciseMath) (snapshot : OperatorSnapshot) (r : OperatorVaultRewardRouter) : Prop :=
  ∃ operator index ncn epoch bump slot, Run (Attempt math snapshot) (new operator index ncn epoch bump slot) r

variable {math : PreciseMath} {snapshot : OperatorSnapshot} {ps qs : List Pubkey}
  {r r' : OperatorVaultRewardRouter}

/-- The routes of the router. The pool and the amount of a round are of 64 bits, so that the share of a slot
without stake is nothing. -/
structure ListsRoutes (ps qs : List Pubkey) (r : OperatorVaultRewardRouter) : Prop where
  listed : Listed ps qs r.vaultRewardRoutes
  pool_lt : r.rewardPool < 2 ^ 64
  last_lt : r.lastRewardsToProcess < 2 ^ 64

lemma upholds_routeFromRewardPool (rewards : ℕ) :
    Upholds (ListsRoutes ps qs) (operatorRewardListFull : ProgramError) (routeFromRewardPool rewards) := by
  have he := notArithmetic_operatorRewardListFull
  refine .bind (upholds_debit he ?_ rewards) fun _ => upholds_credit he ?_ rewards
  · exact fun _ _ hs hle => { hs with pool_lt := hle.trans_lt hs.pool_lt }
  · exact fun _ _ hs _ => { hs with }

lemma upholds_routeVault (hm : math.Documented) {ds : List VaultOperatorStakeWeight} {S R : ℕ}
    (hd : Delegations ds S ps) (hR : R < 2 ^ 64) {d : VaultOperatorStakeWeight} (hmem : d ∈ ds) :
    Upholds (ListsRoutes ps qs) (operatorRewardListFull : ProgramError) (routeVault math S R d) := by
  have he := notArithmetic_operatorRewardListFull
  refine .ofExcept_bind (calculateVaultReward_ne he) fun reward hreward =>
    .bind (upholds_routeFromRewardPool reward) fun _ => .ite (fun _ => .pure _) fun hne => ?_
  have hstake : d.stakeWeight.stakeWeight ≠ 0 := by
    intro hzero
    rw [hzero, calculateVaultReward_eq hm (Nat.zero_le S) hd.lt hR, share_zero_weight] at hreward
    exact hne (Except.ok.inj hreward).symm
  obtain ⟨hp, hdefault⟩ := hd.vault d hmem hstake
  exact .zoom (upholds_add addsToRoute_routeInTwoPasses he hd.room hp hdefault reward) (fun _ hs => hs.listed)
    fun _ _ hs ht => { hs with listed := ht }

lemma upholds_routeRewardPool (hm : math.Documented)
    (hd : Delegations snapshot.vaultOperatorStakeWeight.toList snapshot.stakeWeights.stakeWeight ps)
    (maxIterations : ℕ) :
    Upholds (ListsRoutes ps qs) (operatorRewardListFull : ProgramError)
      (routeRewardPool math snapshot maxIterations) := by
  have he := notArithmetic_operatorRewardListFull
  refine .get_bind fun r hr => ?_
  have hR : (r.resumeRoutingState r.rewardPool).1 < 2 ^ 64 := by
    unfold resumeRoutingState
    split
    · exact hr.last_lt
    · exact hr.pool_lt
  refine .ite (fun _ => .pure _) fun _ =>
    .bind (.chunked ?_ ?_ (he arithmeticOverflow (by decide)) _ _ _) fun finished =>
    .ite (fun _ => .bind (.modify ?_) fun _ => .get_bind fun _ _ =>
      .bind (upholds_routeFromRewardPool _) fun _ => upholds_credit he ?_ _) fun _ => .pure _
  · intro d hmem _
    exact upholds_routeVault hm hd hR (List.mem_of_mem_drop hmem)
  · exact fun _ _ hs => { hs with last_lt := hR }
  · exact fun _ hs => { hs with last_lt := (by decide : u64Max < 2 ^ 64) }
  · exact fun _ _ hs _ => { hs with }

lemma upholds_distribute (p : OperatorPayout) :
    Upholds (ListsRoutes ps qs) (operatorRewardListFull : ProgramError) p.distribute := by
  have he := notArithmetic_operatorRewardListFull
  cases p with
  | operatorFee =>
    refine .get_bind fun r _ => .bind (.modify ?_) fun _ => .bind (upholds_debit he ?_ r.operatorRewards) fun _ =>
      .pure _
    · exact fun _ hs => { hs with }
    · exact fun _ _ hs _ => { hs with }
  | vaultRoute vault =>
    refine .bind (.zoom (upholds_emptyRoute (by decide) arithmeticUnderflowError vault) (fun _ hs => hs.listed)
      fun _ _ hs ht => { hs with listed := ht }) fun rewards => .bind (upholds_debit he ?_ rewards) fun _ =>
      .pure _
    exact fun _ _ hs _ => { hs with }

/-- Every call keeps the routes in order, and finds a slot. -/
lemma Call.upholds (hm : math.Documented)
    (hd : Delegations snapshot.vaultOperatorStakeWeight.toList snapshot.stakeWeights.stakeWeight ps)
    (call : Call) :
    Upholds (ListsRoutes ps qs) (operatorRewardListFull : ProgramError) (call.exec math snapshot) := by
  have he := notArithmetic_operatorRewardListFull
  cases call with
  | routeIncomingRewards rentCost accountBalance =>
    refine .get_bind fun _ _ => .ofExcept_bind (okOr_ne_error (he _ (by decide))) fun _ _ =>
      .okOr_bind (he _ (by decide)) fun _ _ => .okOr_bind (he _ (by decide)) fun _ _ =>
      .bind (upholds_credit he ?_ _) fun _ => upholds_credit he ?_ _
    · exact fun _ _ hs _ => { hs with }
    · exact fun _ _ hs hlt => { hs with pool_lt := hlt }
  | routeOperatorRewards =>
    refine .get_bind fun _ _ => .ofExcept_bind (calculateOperatorReward_ne he) fun _ _ =>
      .bind (upholds_routeFromRewardPool _) fun _ => upholds_credit he ?_ _
    exact fun _ _ hs _ => { hs with }
  | routeRewardPool maxIterations => exact upholds_routeRewardPool hm hd maxIterations
  | distribute p => exact .bind (upholds_distribute p) fun _ => .pure ()

/-- The routers of one snapshot. -/
lemma Called.listsRoutes (hm : math.Documented)
    (hd : Delegations snapshot.vaultOperatorStakeWeight.toList snapshot.stakeWeights.stakeWeight ps)
    (hr : r.Called math snapshot) : ListsRoutes ps [] r := by
  obtain ⟨operator, index, ncn, epoch, bump, slot, hrun⟩ := hr
  refine Upholds.run (Call.upholds hm hd) hrun ?_
  constructor
  case listed => exact ⟨[], RoutesTo.new, List.nil_prefix, List.nil_subset _⟩
  case pool_lt => exact Nat.two_pow_pos 64
  case last_lt => exact (by decide : u64Max < 2 ^ 64)

/-- Later calls leave the routes in their slots. -/
lemma ListsRoutes.keepsSlots (hm : math.Documented)
    (hd : Delegations snapshot.vaultOperatorStakeWeight.toList snapshot.stakeWeights.stakeWeight ps)
    (hr : ListsRoutes ps [] r) (hrun : Run (Attempt math snapshot) r r') :
    KeepsSlots r.vaultRewardRoutes r'.vaultRewardRoutes := by
  obtain ⟨rs, hroutes, _, hps⟩ := hr.listed
  have hr' : ListsRoutes ps (rs.map (·.payee)) r' :=
    Upholds.run (Call.upholds hm hd) hrun { hr with listed := ⟨rs, hroutes, List.prefix_refl _, hps⟩ }
  exact hroutes.keepsSlots hr'.listed

end OperatorVaultRewardRouter

/-! ## The parties -/

/-- The operator has cast a winning vote. -/
def BallotBox.WinningVoter (box : BallotBox) (operator : Pubkey) : Prop :=
  ∃ t, box.getWinningBallotTally = .ok t ∧ ∃ v ∈ box.winningVotes t, v.operator = operator

/-- The winning voters, none without a winner. -/
def BallotBox.winners (box : BallotBox) : List Pubkey :=
  match box.getWinningBallotTally with
  | .ok t => (box.winningVotes t).map (·.operator)
  | .error _ => []

lemma BallotBox.winningVoter_of_mem {box : BallotBox} {operator : Pubkey} (h : operator ∈ box.winners) :
    box.WinningVoter operator := by
  unfold BallotBox.winners at h
  split at h
  · rename_i t ht
    obtain ⟨v, hv, hoperator⟩ := List.mem_map.1 h
    exact ⟨t, ht, v, hv, hoperator⟩
  · cases h

/-- There are no more of them than slots, and none has the key of a free slot. -/
lemma BallotBox.Reachable.winners {math : PreciseMath} {box : BallotBox} (h : box.Reachable math) :
    NCNRewardRouter.Winners box box.winners where
  length_le := by
    unfold BallotBox.winners
    split
    · rw [List.length_map, BallotBox.winningVotes]
      exact (List.length_filter_le _ _).trans box.operatorVotes.length_eq.le
    · exact Nat.zero_le _
  winner := by
    intro t ht v hv hwinning
    have hmem : v.operator ∈ box.winners := by
      rw [BallotBox.winners, ht]
      exact List.mem_map_of_mem (List.mem_filter.2 ⟨hv, beq_iff_eq.2 hwinning⟩)
    refine ⟨hmem, ?_⟩
    obtain ⟨vs, ts, hacc⟩ := h.accounted
    have hvalid : box.winningBallot.isValid = true := by
      by_contra hno
      rw [BallotBox.getWinningBallotTally, if_neg hno] at ht
      cases ht
    obtain ⟨t', ht', he⟩ := hacc.electorate hvalid
    cases ht.symm.trans ht'
    exact he.voter_ne v hv hwinning

/-- The vault has a delegation in the snapshot. -/
def OperatorSnapshot.HasVault (snapshot : OperatorSnapshot) (vault : Pubkey) : Prop :=
  ∃ d ∈ snapshot.registeredDelegations, d.vault = vault

lemma OneRouteEach.mono {n : ℕ} {t : Table RewardRoute n} {isParty isParty' : Pubkey → Prop}
    (h : OneRouteEach t isParty) (himp : ∀ p, isParty p → isParty' p) : OneRouteEach t isParty' :=
  { h with party := fun i a ha hne => himp _ (h.party i a ha hne) }

/-- Over every ballot box and every snapshot, after any calls in any order, the routes are in order, one for each
winning voter or vault that has had rewards; no call finds the table full; and a route stays in its slot from then
on, whatever is distributed. -/
theorem route_tables_never_fill {math : PreciseMath} (hm : math.Documented) :
    (∀ box : BallotBox, box.Reachable math → ∀ r : NCNRewardRouter, r.Called math box →
      OneRouteEach r.operatorVaultRewardRoutes box.WinningVoter ∧
      (∀ call : NCNRewardRouter.Call, ¬FailsWith (call.exec math box) r operatorRewardListFull) ∧
      ∀ r', Run (NCNRewardRouter.Attempt math box) r r' →
        KeepsSlots r.operatorVaultRewardRoutes r'.operatorVaultRewardRoutes) ∧
    ∀ (operator : Pubkey) (snapshot : OperatorSnapshot), snapshot.Reachable operator →
      ∀ r : OperatorVaultRewardRouter, r.Called math snapshot →
      OneRouteEach r.vaultRewardRoutes snapshot.HasVault ∧
      (∀ call : OperatorVaultRewardRouter.Call,
        ¬FailsWith (call.exec math snapshot) r operatorRewardListFull) ∧
      ∀ r', Run (OperatorVaultRewardRouter.Attempt math snapshot) r r' →
        KeepsSlots r.vaultRewardRoutes r'.vaultRewardRoutes := by
  constructor
  · intro box hbox r hr
    have hwinners := hbox.winners
    have hlists := hr.listsRoutes hwinners
    refine ⟨hlists.oneRouteEach.mono fun _ => BallotBox.winningVoter_of_mem, ?_, ?_⟩
    · exact fun call => (call.upholds hwinners r hlists).1
    · exact fun r' hrun => hlists.keepsSlots hwinners hrun
  · intro operator snapshot hsnapshot r hr
    obtain ⟨⟨ds, hreg⟩, _⟩ := hsnapshot.registered
    have hlists := hr.listsRoutes hm hreg.delegations
    refine ⟨hlists.listed.oneRouteEach.mono ?_, ?_, ?_⟩
    · intro vault hvault
      rw [OperatorSnapshot.HasVault, hreg.registeredDelegations]
      exact List.mem_map.1 hvault
    · exact fun call => (call.upholds hm hreg.delegations r hlists).1
    · exact fun r' hrun => hlists.keepsSlots hm hreg.delegations hrun

/-- Two winning voters, and a snapshot of two vaults. The route of the first voter is paid out and takes its share
of a second round in the same slot. -/
theorem route_tables_never_fill_two_rounds :
    (∃ (box : BallotBox) (r r' : NCNRewardRouter), box.Reachable splMath ∧ r.Called splMath box ∧
      r.operatorVaultRewardRoutes.toList.take 3 = [⟨7, 0⟩, ⟨8, 50⟩, .default] ∧
      r'.operatorVaultRewardRoutes.toList.take 3 = [⟨7, 100⟩, ⟨8, 100⟩, .default] ∧
      KeepsSlots r.operatorVaultRewardRoutes r'.operatorVaultRewardRoutes ∧
      OneRouteEach r'.operatorVaultRewardRoutes box.WinningVoter) ∧
    ∃ (snapshot : OperatorSnapshot) (r : OperatorVaultRewardRouter), r.Called splMath snapshot ∧
      r.vaultRewardRoutes.toList.take 3 = [⟨11, 0⟩, ⟨12, 60⟩, .default] ∧
      OneRouteEach r.vaultRewardRoutes snapshot.HasVault := by
  obtain ⟨hncn, hvault⟩ := route_tables_never_fill splMath_documented
  constructor
  · let cast (operator : Pubkey) (w : StakeWeights) := BallotBox.castVote operator (.new 1) w 3 5
    let b₀ := BallotBox.new 1 0 0 0
    let b₁ := commit (cast 7 ⟨10, by decide⟩) b₀
    let b₂ := commit (cast 8 ⟨5, by decide⟩) b₁
    let box := commit (BallotBox.tallyVotes splMath 15 3) b₂
    have h₁ : BallotBox.Step splMath b₀ b₁ :=
      ⟨.castVote 7 (.new 1) ⟨10, by decide⟩ 3 5, Succeeds.run_eq (by decide +kernel)⟩
    have h₂ : BallotBox.Step splMath b₁ b₂ :=
      ⟨.castVote 8 (.new 1) ⟨5, by decide⟩ 3 5, Succeeds.run_eq (by decide +kernel)⟩
    have h₃ : BallotBox.Step splMath b₂ box := ⟨.tallyVotes 15 3, Succeeds.run_eq (by decide +kernel)⟩
    have hbox : box.Reachable splMath := ⟨1, 0, 0, 0, ((Relation.ReflTransGen.single h₁).tail h₂).tail h₃⟩
    let attempt (r : NCNRewardRouter) (call : NCNRewardRouter.Call) := stateAfter (call.exec splMath box) r
    let round₁ : List NCNRewardRouter.Call := [.routeIncomingRewards 5 155, .routeRewardPool ⟨0, 0, 0⟩,
      .routeOperatorVaultRewards 1, .routeOperatorVaultRewards 1, .distribute (.operatorVaultRoute 7)]
    let round₂ : List NCNRewardRouter.Call :=
      [.routeIncomingRewards 5 205, .routeRewardPool ⟨0, 0, 0⟩, .routeOperatorVaultRewards 2]
    let r := round₁.foldl attempt (.new 1 0 0 0)
    let r' := round₂.foldl attempt r
    have hrun : Run (NCNRewardRouter.Attempt splMath box) (.new 1 0 0 0) r :=
      Run.foldl round₁ fun call _ _ => ⟨call, rfl⟩
    have hrun' : Run (NCNRewardRouter.Attempt splMath box) r r' := Run.foldl round₂ fun call _ _ => ⟨call, rfl⟩
    have hr : r.Called splMath box := ⟨1, 0, 0, 0, hrun⟩
    have hr' : r'.Called splMath box := ⟨1, 0, 0, 0, hrun.trans hrun'⟩
    exact ⟨box, r, r', hbox, hr, by decide +kernel, by decide +kernel, (hncn box hbox r hr).2.2 r' hrun',
      (hncn box hbox r' hr').1⟩
  · let create := Epoch.processInitializeOperatorSnapshot ⟨1, 0⟩ 0 ⟨7, 0, 1000, 0, true⟩
    let register (v : VaultDelegation) := Epoch.processSnapshotVaultOperatorDelegation splMath ⟨1, 0⟩ 7 v
    let a₁ := commit create (Epoch.small 1)
    let a₂ := commit (register (.small false 1)) a₁
    let a₃ := commit (register (.small true 2)) a₂
    have c₁ : create.run (Epoch.small 1) = .ok () a₁ := Succeeds.run_eq (by decide +kernel)
    have c₂ : (register (.small false 1)).run a₁ = .ok () a₂ := Succeeds.run_eq (by decide +kernel)
    have c₃ : (register (.small true 2)).run a₂ = .ok () a₃ := Succeeds.run_eq (by decide +kernel)
    let round : List OperatorVaultRewardRouter.Call := [.routeIncomingRewards 5 105, .routeOperatorRewards,
      .routeRewardPool 30, .routeRewardPool 40, .distribute (.vaultRoute 11)]
    let after (snapshot : OperatorSnapshot) :=
      round.foldl (fun r call => stateAfter (call.exec splMath snapshot) r) (.new 7 0 1 0 0 1)
    have hslots : (a₃.operatorSnapshot 7).map (fun s => (after s).vaultRewardRoutes.toList.take 3) =
      some [⟨11, 0⟩, ⟨12, 60⟩, .default] := by decide +kernel
    obtain ⟨snapshot, hs, hreach, _⟩ := ((OperatorSnapshot.At.create (by decide) c₁).register c₂).register c₃
    rw [hs, Option.map_some] at hslots
    have hr : (after snapshot).Called splMath snapshot :=
      ⟨7, 0, 1, 0, 0, 1, Run.foldl round fun call _ _ => ⟨call, rfl⟩⟩
    exact ⟨snapshot, after snapshot, hr, Option.some.inj hslots, (hvault 7 snapshot hreach _ hr).1⟩

end NcnProgram
