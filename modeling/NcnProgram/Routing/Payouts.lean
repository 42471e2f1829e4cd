import NcnProgram.Routing.Solvency

/-!
# What is due is paid

A `Due` is something that a router owes: a fee, the route of an operator or of a vault. An instruction pays it out of
the router's receiver. Because the receivers are solvent, such an instruction is refused only for the reasons that the
program names: an account is not there, the wallet is another one, the router is still routing or has no such route.
A payout settles its due and no other one, so dues can be paid in any order until nothing is owed.
-/

namespace NcnProgram
open Lib NCNProgramError

/-! ## Emptying a route -/

section Tables
variable {n : ℕ} {t t' : Table RewardRoute n} {p q : Pubkey} {x : ℕ}

/-- A party with a slot has its route emptied, and every other route stays. -/
lemma emptyRoute_run (underflow : NCNProgramError) (hp : t.any (·.payee == p) = true) :
    ∃ t', (emptyRoute underflow p).run t = .ok (routeOf t p).rewards t' ∧ (routeOf t' p).rewards = 0 ∧
      (∀ q, q ≠ p → routeOf t' q = routeOf t q) ∧ ∀ q, t'.any (·.payee == q) = t.any (·.payee == q) := by
  obtain ⟨rewards, t', hrun⟩ := RoutesTo.emptyRoute_succeeds underflow hp
  refine ⟨t', ?_⟩
  have hempty := hrun
  simp only [emptyRoute, EStateM.run_bind, EStateM.run_get] at hempty
  split at hempty
  case h_2 => cases hempty
  rename_i i hi
  obtain ⟨a, ha, hap, _⟩ := exists_of_findIdx? hi
  obtain ⟨_, t₁, hzoom, hret⟩ := run_bind_ok.1 hempty
  cases hret
  obtain ⟨b, hdec, rfl⟩ := run_zoom_ok.1 hzoom
  have hget : t.get? i = some a := ha
  rw [hget, Option.getD_some] at hdec hrun
  simp only [RewardRoute.decrementRewards, EStateM.run_bind, EStateM.run_get,
    checkedSub_of_le (Nat.le_refl _), Nat.sub_self] at hdec
  cases hdec
  have hb : (({ a with rewards := 0 } : RewardRoute).payee == p) = true := hap
  obtain ⟨hfound, hset⟩ := find?_set_found hi hb
  have hroute : routeOf t p = a := by
    rw [routeOf, Table.find?, hfound, ha, Option.getD_some]
  refine ⟨hroute ▸ hrun, ?_, fun q hq => ?_, fun q => ?_⟩
  · rw [routeOf, Table.find?, Table.toList_set, hset]
    rfl
  · have hne : (a.payee == q) = false := by
      rw [beq_iff_eq] at hap
      rw [hap]
      exact beq_eq_false_iff_ne.2 hq.symm
    rw [routeOf, routeOf, Table.find?, Table.find?, Table.toList_set]
    rw [find?_set_of_ne (b := { a with rewards := 0 }) ha hne hne]
  · have hmap := map_set_of_eq (b := { a with rewards := 0 }) (f := RewardRoute.payee) ha rfl
    have hany : ∀ xs : List RewardRoute, xs.any (·.payee == q) = (xs.map (·.payee)).any (· == q) := fun xs => by
      rw [List.any_map]
      rfl
    rw [Table.any, Table.any, Table.toList_set, hany, hany, hmap]

end Tables

/-! ## Paying out -/

namespace NCNRewardRouter
variable {r : NCNRewardRouter} {operator : Pubkey} {n : ℕ}

lemma distributeNcnFeeRewards_run (h : r.ncnRewards ≤ r.rewardsProcessed) :
    distributeNcnFeeRewards.run r =
      .ok r.ncnRewards { r with ncnRewards := 0, rewardsProcessed := r.rewardsProcessed - r.ncnRewards } :=
  run_bind_ok.2 ⟨_, _, rfl, run_bind_ok.2 ⟨_, _, rfl,
    run_bind_ok.2 ⟨(), _, decrementRewardsProcessed_run (r := { r with ncnRewards := 0 }) h, rfl⟩⟩⟩

lemma distributeProtocolFeeRewards_run (h : r.protocolRewards ≤ r.rewardsProcessed) :
    distributeProtocolFeeRewards.run r = .ok r.protocolRewards
      { r with protocolRewards := 0, rewardsProcessed := r.rewardsProcessed - r.protocolRewards } :=
  run_bind_ok.2 ⟨_, _, rfl, run_bind_ok.2 ⟨_, _, rfl,
    run_bind_ok.2 ⟨(), _, decrementRewardsProcessed_run (r := { r with protocolRewards := 0 }) h, rfl⟩⟩⟩

lemma distributeOperatorVaultRewardRoute_run {t : Table OperatorVaultRewardRoute maxOperators}
    (ht : (emptyRoute arithmeticOverflow operator).run r.operatorVaultRewardRoutes = .ok n t)
    (h : n ≤ r.rewardsProcessed) :
    (distributeOperatorVaultRewardRoute operator).run r =
      .ok n { r with operatorVaultRewardRoutes := t, rewardsProcessed := r.rewardsProcessed - n } :=
  run_bind_ok.2 ⟨n, _, run_zoom_ok.2 ⟨t, ht, rfl⟩, run_bind_ok.2 ⟨(), _,
    decrementRewardsProcessed_run (r := { r with operatorVaultRewardRoutes := t }) h, rfl⟩⟩

end NCNRewardRouter

namespace OperatorVaultRewardRouter
variable {r : OperatorVaultRewardRouter} {vault : Pubkey} {n : ℕ}

lemma distributeOperatorRewards_run (h : r.operatorRewards ≤ r.rewardsProcessed) :
    distributeOperatorRewards.run r = .ok r.operatorRewards
      { r with operatorRewards := 0, rewardsProcessed := r.rewardsProcessed - r.operatorRewards } :=
  run_bind_ok.2 ⟨_, _, rfl, run_bind_ok.2 ⟨_, _, rfl,
    run_bind_ok.2 ⟨(), _, decrementRewardsProcessed_run (r := { r with operatorRewards := 0 }) h, rfl⟩⟩⟩

lemma distributeVaultRewardRoute_run {t : Table VaultRewardRoute maxVaults}
    (ht : (emptyRoute arithmeticUnderflowError vault).run r.vaultRewardRoutes = .ok n t)
    (h : n ≤ r.rewardsProcessed) :
    (distributeVaultRewardRoute vault).run r =
      .ok n { r with vaultRewardRoutes := t, rewardsProcessed := r.rewardsProcessed - n } :=
  run_bind_ok.2 ⟨n, _, run_zoom_ok.2 ⟨t, ht, rfl⟩, run_bind_ok.2 ⟨(), _,
    decrementRewardsProcessed_run (r := { r with vaultRewardRoutes := t }) h, rfl⟩⟩

end OperatorVaultRewardRouter

namespace Epoch
variable {e : Epoch} {n rent : ℕ} {operator : Pubkey}

/-- A payout from the NCN's receiver succeeds once the router is idle and the receiver holds it. -/
lemma distributeNcn_run {distribute : Mut NCNRewardRouter ℕ} {count : ℕ → EpochState → EpochState}
    {r : NCNRewardRouter} (hidle : e.ncnRewardRouter.stillRouting = false)
    (hr : distribute.run e.ncnRewardRouter = .ok n r) (hle : n ≤ e.ncnRewardReceiver) :
    (distributeNcn distribute count).run e = .ok n { e with
      ncnRewardRouter := r
      ncnRewardReceiver := e.ncnRewardReceiver - n
      epochState := count n e.epochState } := by
  have hpay : (payOutNcn distribute).run e =
      .ok n { e with ncnRewardRouter := r, ncnRewardReceiver := e.ncnRewardReceiver - n } :=
    run_bind_ok.2 ⟨n, _, run_zoom_ok.2 ⟨r, hr, rfl⟩, run_bind_ok.2 ⟨_, _, rfl,
      run_bind_ok.2 ⟨_, _, run_okOr_ok.2 ⟨checkedSub_of_le hle, rfl⟩, rfl⟩⟩⟩
  refine run_bind_ok.2 ⟨e, e, rfl, run_bind_ok.2 ⟨(), e, run_ensure_ok.2 ⟨hidle, rfl⟩, ?_⟩⟩
  exact run_bind_ok.2 ⟨n, _, hpay, rfl⟩

/-- It finds the router idle. -/
lemma idle_of_distributeNcn {distribute : Mut NCNRewardRouter ℕ} {count : ℕ → EpochState → EpochState} {e' : Epoch}
    (h : (distributeNcn distribute count).run e = .ok n e') : e.ncnRewardRouter.stillRouting = false := by
  obtain ⟨_, _, hg, h⟩ := run_bind_ok.1 h
  cases hg
  obtain ⟨_, _, hg, _⟩ := run_bind_ok.1 h
  exact (run_ensure_ok.1 hg).1

/-- Writes an operator's router, the lamports of its receiver, and the epoch state. -/
def writeOperatorVault (operator : Pubkey) (r : OperatorVaultRewardRouter) (lamports : ℕ) (st : EpochState)
    (e : Epoch) : Epoch :=
  { (e.setOperatorVaultRewardRouter operator r).setOperatorVaultRewardReceiver operator lamports with
    epochState := st }

/-- A payout from an operator's receiver succeeds once the router is idle and the receiver holds it. -/
lemma distributeOperatorVault_run {distribute : Mut OperatorVaultRewardRouter ℕ} {t : OperatorSnapshot}
    {r r' : OperatorVaultRewardRouter} (ht : e.operatorSnapshot operator = some t)
    (hindex : t.ncnOperatorIndex < maxOperators) (hr : e.operatorVaultRewardRouter operator = some r)
    (hidle : r.stillRouting = false) (hr' : distribute.run r = .ok n r')
    (hle : n ≤ e.operatorVaultRewardReceiver operator) :
    ∃ st, (distributeOperatorVault operator distribute).run e = .ok ()
      (e.writeOperatorVault operator r' (e.operatorVaultRewardReceiver operator - n) st) := by
  obtain ⟨st, hst⟩ : ∃ st, (EpochState.updateDistributeOperatorVaultRouteRewards t.ncnOperatorIndex n).run
      e.epochState = .ok () st :=
    ⟨_, run_bind_ok.2 ⟨(), _, rfl, run_bind_ok.2 ⟨(), _, run_ensure_ok.2 ⟨hindex, rfl⟩, rfl⟩⟩⟩
  have hpay : (payOutOperatorVault operator distribute).run e = .ok n
      ((e.setOperatorVaultRewardRouter operator r').setOperatorVaultRewardReceiver operator
        (e.operatorVaultRewardReceiver operator - n)) :=
    run_bind_ok.2 ⟨n, _, onOperatorVaultRewardRouter_run hr hr', run_bind_ok.2 ⟨_, _, rfl,
      run_bind_ok.2 ⟨_, _, run_okOr_ok.2 ⟨checkedSub_of_le hle, rfl⟩, rfl⟩⟩⟩
  refine ⟨st, run_bind_ok.2 ⟨e, e, rfl, run_bind_ok.2 ⟨t, e, run_okOr_ok.2 ⟨ht, rfl⟩, ?_⟩⟩⟩
  refine run_bind_ok.2 ⟨r, e, run_okOr_ok.2 ⟨hr, rfl⟩, run_bind_ok.2 ⟨(), e, run_ensure_ok.2 ⟨hidle, rfl⟩, ?_⟩⟩
  exact run_bind_ok.2 ⟨n, _, hpay, run_zoom_ok.2 ⟨st, hst, rfl⟩⟩

end Epoch

/-! ## Dues -/

/-- Something that a router owes. -/
inductive Due where
  | ncnFee
  | protocolFee
  | operatorVaultRoute (operator : Pubkey)
  | operatorFee (operator : Pubkey)
  | vaultRoute (operator vault : Pubkey)
deriving DecidableEq

namespace Due

/-- How much is owed. -/
def amount (e : Epoch) : Due → ℕ
  | .ncnFee => e.ncnRewardRouter.ncnRewards
  | .protocolFee => e.ncnRewardRouter.protocolRewards
  | .operatorVaultRoute operator => (routeOf e.ncnRewardRouter.operatorVaultRewardRoutes operator).rewards
  | .operatorFee operator => ((e.operatorVaultRewardRouter operator).map (·.operatorRewards)).getD 0
  | .vaultRoute operator vault =>
    ((e.operatorVaultRewardRouter operator).map fun r => (routeOf r.vaultRewardRoutes vault).rewards).getD 0

/-- When the program lets it be paid. The wallet matters for a fee of the NCN or the protocol. -/
def Payable (wallet : Pubkey) (e : Epoch) : Due → Prop
  | .ncnFee => e.config.feeConfig.ncnFeeWallet = wallet ∧ e.ncnRewardRouter.stillRouting = false
  | .protocolFee => e.config.feeConfig.protocolFeeWallet = wallet ∧ e.ncnRewardRouter.stillRouting = false
  | .operatorVaultRoute operator =>
    (e.operatorVaultRewardRouter operator).isSome = true ∧ e.ncnRewardRouter.stillRouting = false ∧
      e.ncnRewardRouter.operatorVaultRewardRoutes.any (·.payee == operator) = true
  | .operatorFee operator =>
    (e.operatorSnapshot operator).isSome = true ∧
      (e.operatorVaultRewardRouter operator).map (·.stillRouting) = some false
  | .vaultRoute operator vault =>
    (e.operatorSnapshot operator).isSome = true ∧
      (e.operatorVaultRewardRouter operator).map (·.stillRouting) = some false ∧
      (e.operatorVaultRewardRouter operator).map (·.vaultRewardRoutes.any (·.payee == vault)) = some true

instance (wallet : Pubkey) (e : Epoch) : (d : Due) → Decidable (d.Payable wallet e)
  | .ncnFee | .protocolFee | .operatorFee _ => inferInstanceAs (Decidable (_ ∧ _))
  | .operatorVaultRoute _ | .vaultRoute _ _ => inferInstanceAs (Decidable (_ ∧ _ ∧ _))

/-- The lamports in the receiver that pays it. -/
def held (e : Epoch) : Due → ℕ
  | .ncnFee | .protocolFee | .operatorVaultRoute _ => e.ncnRewardReceiver
  | .operatorFee operator | .vaultRoute operator _ => e.operatorVaultRewardReceiver operator

/-- The lamports in the receivers of the NCN and of the operators once it is paid. The route of an operator is paid
to the operator's receiver. -/
def receiversAfter (e : Epoch) (d : Due) : ℕ × (Pubkey → ℕ) :=
  match d with
  | .ncnFee | .protocolFee => (e.ncnRewardReceiver - d.amount e, e.operatorVaultRewardReceiver)
  | .operatorVaultRoute operator =>
    (e.ncnRewardReceiver - d.amount e, Function.update e.operatorVaultRewardReceiver operator
      (e.operatorVaultRewardReceiver operator + d.amount e))
  | .operatorFee operator | .vaultRoute operator _ =>
    (e.ncnRewardReceiver, Function.update e.operatorVaultRewardReceiver operator
      (e.operatorVaultRewardReceiver operator - d.amount e))

/-- The accounts that are loaded, of those that the epoch has one of. -/
def accounts : Due → List Single
  | .ncnFee | .protocolFee | .operatorVaultRoute _ => [.ncnRewardRouter]
  | .operatorFee _ | .vaultRoute _ _ => []

/-- The instruction that pays it, on the data of the accounts. -/
def pay (wallet : Pubkey) : Due → Mut Epoch Unit
  | .ncnFee => Epoch.processDistributeNcnRewards wallet
  | .protocolFee => Epoch.processDistributeProtocolRewards wallet
  | .operatorVaultRoute operator => Epoch.processDistributeOperatorVaultRewardRoute operator
  | .operatorFee operator => Epoch.processDistributeOperatorRewards operator
  | .vaultRoute operator vault => Epoch.processDistributeVaultRewards operator vault

/-- The instruction. -/
def instruction (wallet : Pubkey) : Due → Lifecycle.Instruction
  | .ncnFee => .distributeNcnRewards wallet
  | .protocolFee => .distributeProtocolRewards wallet
  | .operatorVaultRoute operator => .distributeOperatorVaultRewardRoute operator
  | .operatorFee operator => .distributeOperatorRewards operator
  | .vaultRoute operator vault => .distributeVaultRewards operator vault

/-- A payout settles the due. Every other one stays as it is, and so does what can be paid. -/
structure Settles (d : Due) (e e' : Epoch) : Prop where
  amount : d.amount e' = 0
  others : ∀ d', d' ≠ d → d'.amount e' = d'.amount e
  payable : ∀ wallet d', Payable wallet e' d' ↔ Payable wallet e d'
  held : d.amount e ≤ d.held e
  receivers : (e'.ncnRewardReceiver, e'.operatorVaultRewardReceiver) = d.receiversAfter e

variable {d : Due} {wallet operator : Pubkey} {e e' : Epoch} {rent : ℕ}

/-- What a view shows of the operators' routers, where one is written that it shows alike. -/
lemma map_update {α : Type} {routers : Pubkey → Option OperatorVaultRewardRouter} {r r' : OperatorVaultRewardRouter}
    (f : OperatorVaultRewardRouter → α) (hr : routers operator = some r) (hf : f r' = f r) (q : Pubkey) :
    (Function.update routers operator (some r') q).map f = (routers q).map f := by
  by_cases hq : q = operator
  · subst hq
    rw [Function.update_self, hr, Option.map_some, Option.map_some, hf]
  · rw [Function.update_of_ne hq]

/-- The fee of the NCN. -/
lemma settles_ncnFee (hp : Payable wallet e .ncnFee) (hf : e.NcnFunded rent) :
    ∃ e', (pay wallet .ncnFee).run e = .ok () e' ∧ Settles .ncnFee e e' := by
  obtain ⟨hwallet, hidle⟩ := hp
  have hdue : e.ncnRewardRouter.ncnRewards ≤ e.ncnRewardRouter.reserve.dues := by
    simp only [NCNRewardRouter.reserve]
    omega
  have hrun := NCNRewardRouter.distributeNcnFeeRewards_run (hf.le_processed hdue)
  refine ⟨_, run_bind_ok.2 ⟨e, e, rfl, run_bind_ok.2 ⟨(), e, run_ensure_ok.2 ⟨hwallet, rfl⟩,
    run_bind_ok.2 ⟨_, _, Epoch.distributeNcn_run hidle hrun (hf.le_coins hdue), rfl⟩⟩⟩, ?_⟩
  refine ⟨rfl, fun d' hd => ?_, fun _ d' => ?_, hf.le_coins hdue, rfl⟩
  · cases d' with
    | ncnFee => exact absurd rfl hd
    | _ => rfl
  · cases d' <;> exact Iff.rfl

/-- The fee of the protocol. -/
lemma settles_protocolFee (hp : Payable wallet e .protocolFee) (hf : e.NcnFunded rent) :
    ∃ e', (pay wallet .protocolFee).run e = .ok () e' ∧ Settles .protocolFee e e' := by
  obtain ⟨hwallet, hidle⟩ := hp
  have hdue : e.ncnRewardRouter.protocolRewards ≤ e.ncnRewardRouter.reserve.dues := by
    simp only [NCNRewardRouter.reserve]
    omega
  have hrun := NCNRewardRouter.distributeProtocolFeeRewards_run (hf.le_processed hdue)
  refine ⟨_, run_bind_ok.2 ⟨e, e, rfl, run_bind_ok.2 ⟨(), e, run_ensure_ok.2 ⟨hwallet, rfl⟩,
    run_bind_ok.2 ⟨_, _, Epoch.distributeNcn_run hidle hrun (hf.le_coins hdue), rfl⟩⟩⟩, ?_⟩
  refine ⟨rfl, fun d' hd => ?_, fun _ d' => ?_, hf.le_coins hdue, rfl⟩
  · cases d' with
    | protocolFee => exact absurd rfl hd
    | _ => rfl
  · cases d' <;> exact Iff.rfl

/-- The route of an operator. -/
lemma settles_operatorVaultRoute (hp : Payable wallet e (.operatorVaultRoute operator)) (hf : e.NcnFunded rent) :
    ∃ e', (pay wallet (.operatorVaultRoute operator)).run e = .ok () e' ∧
      Settles (.operatorVaultRoute operator) e e' := by
  obtain ⟨hrouter, hidle, hany⟩ := hp
  obtain ⟨r, hr⟩ := Option.isSome_iff_exists.1 hrouter
  obtain ⟨t', hempty, hzero, hother, hslots⟩ := emptyRoute_run arithmeticOverflow hany
  have hdue : (routeOf e.ncnRewardRouter.operatorVaultRewardRoutes operator).rewards ≤
      e.ncnRewardRouter.reserve.dues := by
    have hsum := inRoutes_emptyRoute hempty
    simp only [NCNRewardRouter.reserve]
    omega
  have hrun := NCNRewardRouter.distributeOperatorVaultRewardRoute_run hempty (hf.le_processed hdue)
  refine ⟨_, run_bind_ok.2 ⟨e, e, rfl, run_bind_ok.2 ⟨r, e, run_okOr_ok.2 ⟨hr, rfl⟩,
    run_bind_ok.2 ⟨_, _, Epoch.distributeNcn_run hidle hrun (hf.le_coins hdue), rfl⟩⟩⟩, ?_⟩
  refine ⟨hzero, fun d' hd => ?_, fun _ d' => ?_, hf.le_coins hdue, rfl⟩
  · cases d' with
    | operatorVaultRoute q => exact congrArg RewardRoute.rewards (hother q fun hq => hd (hq ▸ rfl))
    | _ => rfl
  · cases d' with
    | operatorVaultRoute q =>
      exact and_congr_right fun _ => and_congr_right fun _ => iff_of_eq (congrArg (· = true) (hslots q))
    | _ => exact Iff.rfl

/-- An operator's router can be written, with slots for the same vaults, and what can be paid stays. -/
lemma payable_write {r r' : OperatorVaultRewardRouter} (hr : e.operatorVaultRewardRouter operator = some r)
    (hstill : r'.stillRouting = r.stillRouting)
    (hslots : ∀ q, r'.vaultRewardRoutes.any (·.payee == q) = r.vaultRewardRoutes.any (·.payee == q))
    (lamports : ℕ) (st : EpochState) :
    Payable wallet (e.writeOperatorVault operator r' lamports st) d ↔ Payable wallet e d := by
  cases d with
  | ncnFee => exact Iff.rfl
  | protocolFee => exact Iff.rfl
  | operatorVaultRoute q =>
    have hsome : (Function.update e.operatorVaultRewardRouter operator (some r') q).isSome =
        (e.operatorVaultRewardRouter q).isSome := by
      simpa only [Option.isSome_map] using congrArg Option.isSome (map_update (fun _ => ()) hr rfl q)
    exact and_congr_left fun _ => iff_of_eq (congrArg (· = true) hsome)
  | operatorFee q => exact and_congr_right fun _ => iff_of_eq (congrArg (· = some false) (map_update _ hr hstill q))
  | vaultRoute q vault =>
    refine and_congr_right fun _ => and_congr ?_ ?_
    · exact iff_of_eq (congrArg (· = some false) (map_update _ hr hstill q))
    · exact iff_of_eq (congrArg (· = some true)
        (map_update (·.vaultRewardRoutes.any (·.payee == vault)) hr (hslots vault) q))

lemma amount_operatorFee {r : OperatorVaultRewardRouter} (hr : e.operatorVaultRewardRouter operator = some r) :
    amount e (.operatorFee operator) = r.operatorRewards := by
  rw [amount, hr]
  rfl

lemma amount_vaultRoute {r : OperatorVaultRewardRouter} (hr : e.operatorVaultRewardRouter operator = some r)
    (vault : Pubkey) : amount e (.vaultRoute operator vault) = (routeOf r.vaultRewardRoutes vault).rewards := by
  rw [amount, hr]
  rfl

/-- Writing an operator's router changes no due of another one. -/
lemma amount_write_of_ne {q : Pubkey} (hq : q ≠ operator) (r : OperatorVaultRewardRouter) (lamports : ℕ)
    (st : EpochState) :
    amount (e.writeOperatorVault operator r lamports st) (.operatorFee q) = amount e (.operatorFee q) ∧
      ∀ vault, amount (e.writeOperatorVault operator r lamports st) (.vaultRoute q vault) =
        amount e (.vaultRoute q vault) := by
  have hrouter : (e.writeOperatorVault operator r lamports st).operatorVaultRewardRouter q =
      e.operatorVaultRewardRouter q := Function.update_of_ne hq ..
  simp only [amount, hrouter, implies_true, and_self]

/-- The fee of an operator. -/
lemma settles_operatorFee (hp : Payable wallet e (.operatorFee operator)) (hf : e.OperatorsFunded rent)
    (hindex : ∀ p t, e.operatorSnapshot p = some t → t.ncnOperatorIndex < maxOperators) :
    ∃ e', (pay wallet (.operatorFee operator)).run e = .ok () e' ∧ Settles (.operatorFee operator) e e' := by
  obtain ⟨hsnapshot, hrouter⟩ := hp
  obtain ⟨t, ht⟩ := Option.isSome_iff_exists.1 hsnapshot
  obtain ⟨r, hr, hidle⟩ := Option.map_eq_some_iff.1 hrouter
  have hdue : r.operatorRewards ≤ r.reserve.dues := Nat.le_add_right ..
  have hamount := amount_operatorFee hr
  have hheld : amount e (.operatorFee operator) ≤ e.operatorVaultRewardReceiver operator :=
    hamount ▸ (hf operator r hr).le_coins hdue
  have hpay := OperatorVaultRewardRouter.distributeOperatorRewards_run ((hf operator r hr).le_processed hdue)
  rw [← hamount] at hpay
  obtain ⟨st, hrun⟩ := Epoch.distributeOperatorVault_run ht (hindex operator t ht) hr hidle hpay hheld
  have hwritten : ∀ r' lamports, (e.writeOperatorVault operator r' lamports st).operatorVaultRewardRouter operator =
      some r' := fun _ _ => Function.update_self ..
  refine ⟨_, hrun, amount_operatorFee (hwritten ..), fun d' hd => ?_,
    fun _ d' => payable_write hr (by rfl) (fun _ => by rfl) _ _, hheld, rfl⟩
  cases d' with
  | operatorFee q => exact (amount_write_of_ne (fun hq => hd (congrArg operatorFee hq)) _ _ _).1
  | vaultRoute q vault =>
    by_cases hq : q = operator
    · subst hq
      rw [amount_vaultRoute (hwritten ..), amount_vaultRoute hr]
    · exact (amount_write_of_ne hq _ _ _).2 vault
  | _ => rfl

/-- The route of a vault. -/
lemma settles_vaultRoute {vault : Pubkey} (hp : Payable wallet e (.vaultRoute operator vault))
    (hf : e.OperatorsFunded rent)
    (hindex : ∀ p t, e.operatorSnapshot p = some t → t.ncnOperatorIndex < maxOperators) :
    ∃ e', (pay wallet (.vaultRoute operator vault)).run e = .ok () e' ∧
      Settles (.vaultRoute operator vault) e e' := by
  obtain ⟨hsnapshot, hrouter, hslot⟩ := hp
  obtain ⟨t, ht⟩ := Option.isSome_iff_exists.1 hsnapshot
  obtain ⟨r, hr, hidle⟩ := Option.map_eq_some_iff.1 hrouter
  rw [hr, Option.map_some, Option.some_inj] at hslot
  obtain ⟨t', hempty, hzero, hother, hslots⟩ := emptyRoute_run arithmeticUnderflowError hslot
  have hdue : (routeOf r.vaultRewardRoutes vault).rewards ≤ r.reserve.dues := by
    have hsum := inRoutes_emptyRoute hempty
    simp only [OperatorVaultRewardRouter.reserve]
    omega
  have hamount := amount_vaultRoute hr vault
  have hheld : amount e (.vaultRoute operator vault) ≤ e.operatorVaultRewardReceiver operator :=
    hamount ▸ (hf operator r hr).le_coins hdue
  have hpay := OperatorVaultRewardRouter.distributeVaultRewardRoute_run hempty
    ((hf operator r hr).le_processed hdue)
  rw [← hamount] at hpay
  obtain ⟨st, hrun⟩ := Epoch.distributeOperatorVault_run ht (hindex operator t ht) hr hidle hpay hheld
  have hwritten : ∀ r' lamports, (e.writeOperatorVault operator r' lamports st).operatorVaultRewardRouter operator =
      some r' := fun _ _ => Function.update_self ..
  refine ⟨_, hrun, (amount_vaultRoute (hwritten ..) vault).trans hzero, fun d' hd => ?_,
    fun _ d' => payable_write hr (by rfl) (by exact hslots) _ _, hheld, rfl⟩
  cases d' with
  | operatorFee q =>
    by_cases hq : q = operator
    · subst hq
      rw [amount_operatorFee (hwritten ..), amount_operatorFee hr]
    · exact (amount_write_of_ne hq _ _ _).1
  | vaultRoute q v =>
    by_cases hq : q = operator
    · subst hq
      rw [amount_vaultRoute (hwritten ..), amount_vaultRoute hr v, hother v fun hv => hd (congrArg (vaultRoute q) hv)]
    · exact (amount_write_of_ne hq _ _ _).2 v
  | _ => rfl

/-- What can be paid is paid. -/
lemma settles (hp : Payable wallet e d) (hn : d.accounts ≠ [] → e.NcnFunded rent) (ho : e.OperatorsFunded rent)
    (hindex : ∀ p t, e.operatorSnapshot p = some t → t.ncnOperatorIndex < maxOperators) :
    ∃ e', (pay wallet d).run e = .ok () e' ∧ d.Settles e e' := by
  cases d with
  | ncnFee => exact settles_ncnFee hp (hn (by simp [accounts]))
  | protocolFee => exact settles_protocolFee hp (hn (by simp [accounts]))
  | operatorVaultRoute operator => exact settles_operatorVaultRoute hp (hn (by simp [accounts]))
  | operatorFee operator => exact settles_operatorFee hp ho hindex
  | vaultRoute operator vault => exact settles_vaultRoute hp ho hindex

/-- What is paid could be. -/
lemma payable_of_run {u : Unit} (h : (pay wallet d).run e = .ok u e') : Payable wallet e d := by
  cases d with
  | ncnFee =>
    obtain ⟨_, _, hg, h⟩ := run_bind_ok.1 h
    cases hg
    obtain ⟨_, _, hg, h⟩ := run_bind_ok.1 h
    obtain ⟨hwallet, rfl⟩ := run_ensure_ok.1 hg
    obtain ⟨_, _, hpay, _⟩ := run_bind_ok.1 h
    exact ⟨hwallet, Epoch.idle_of_distributeNcn hpay⟩
  | protocolFee =>
    obtain ⟨_, _, hg, h⟩ := run_bind_ok.1 h
    cases hg
    obtain ⟨_, _, hg, h⟩ := run_bind_ok.1 h
    obtain ⟨hwallet, rfl⟩ := run_ensure_ok.1 hg
    obtain ⟨_, _, hpay, _⟩ := run_bind_ok.1 h
    exact ⟨hwallet, Epoch.idle_of_distributeNcn hpay⟩
  | operatorVaultRoute operator =>
    obtain ⟨_, _, hg, h⟩ := run_bind_ok.1 h
    cases hg
    obtain ⟨r, _, hg, h⟩ := run_bind_ok.1 h
    obtain ⟨hr, rfl⟩ := run_okOr_ok.1 hg
    obtain ⟨n, _, hpay, _⟩ := run_bind_ok.1 h
    obtain ⟨r', hrun, _⟩ := Epoch.distributeNcn_run_ok hpay
    obtain ⟨_, _, hempty, _⟩ := run_bind_ok.1 hrun
    obtain ⟨t', ht, _⟩ := run_zoom_ok.1 hempty
    exact ⟨Option.isSome_of_mem hr, Epoch.idle_of_distributeNcn hpay, RoutesTo.any_of_emptyRoute ht⟩
  | operatorFee operator =>
    obtain ⟨t, r, _, _, ht, hr, hidle, _⟩ := Epoch.distributeOperatorVault_run_ok h
    exact ⟨Option.isSome_of_mem ht, Option.map_eq_some_iff.2 ⟨r, hr, hidle⟩⟩
  | vaultRoute operator vault =>
    obtain ⟨t, r, _, _, ht, hr, hidle, n, hrun, _⟩ := Epoch.distributeOperatorVault_run_ok h
    obtain ⟨_, _, hempty, _⟩ := run_bind_ok.1 hrun
    obtain ⟨t', hroutes, _⟩ := run_zoom_ok.1 hempty
    exact ⟨Option.isSome_of_mem ht, Option.map_eq_some_iff.2 ⟨r, hr, hidle⟩,
      Option.map_eq_some_iff.2 ⟨r, hr, RoutesTo.any_of_emptyRoute hroutes⟩⟩

end Due

/-! ## In every reachable state -/

namespace Lifecycle
variable {cl : Cluster} {s s' : Lifecycle} {d : Due} {wallet : Pubkey}

lemma exec_instruction (cl : Cluster) (wallet : Pubkey) (d : Due) :
    exec cl (d.instruction wallet) = loaded d.accounts (d.pay wallet) := by
  cases d <;> rfl

/-- Accounts that are there can be loaded. -/
lemma forM_load_run {ks : List Single} (h : ∀ k ∈ ks, s.single k = .initialized) :
    (ks.forM load).run s = .ok () s := by
  induction ks with
  | nil => rfl
  | cons k ks ih =>
    refine run_bind_ok.2 ⟨(), s, ?_, ih fun k' hk => h k' (List.mem_cons_of_mem _ hk)⟩
    refine run_bind_ok.2 ⟨s, s, rfl, ?_⟩
    simp only [h k List.mem_cons_self]
    rfl

/-- The program pays what is due out of an epoch that is there. -/
structure CanPay (wallet : Pubkey) (d : Due) (s : Lifecycle) : Prop where
  live : s.epochState = true
  loaded : ∀ k ∈ d.accounts, s.single k = .initialized
  payable : d.Payable wallet s.accounts

/-- Then it is paid. -/
lemma CanPay.settles {s₀ : Lifecycle} (h₀ : s₀.Untouched) (h : Run (Step cl) s₀ s) (hc : CanPay wallet d s) :
    ∃ e', (exec cl (d.instruction wallet)).run s = .ok () { s with accounts := e' } ∧
      d.Settles s.accounts e' := by
  have hsolvent := solvent h₀ h
  have hbook := live_book h₀ h hc.live
  have hn : d.accounts ≠ [] → s.accounts.NcnFunded cl.minRent := by
    intro hne
    have hrouter : s.single .ncnRewardRouter = .initialized := by
      cases d with
      | operatorFee => exact absurd rfl hne
      | vaultRoute => exact absurd rfl hne
      | _ => exact hc.loaded _ (List.mem_singleton_self _)
    have hholds := hsolvent.ncn
    rw [hrouter] at hholds
    exact hholds
  have hindex : ∀ p t, s.accounts.operatorSnapshot p = some t → t.ncnOperatorIndex < maxOperators := fun p t ht =>
    (hbook.snapshot.index p t.ncnOperatorIndex (Option.map_eq_some_iff.2 ⟨t, ht, rfl⟩)).2
  obtain ⟨e', hrun, hsettles⟩ := Due.settles hc.payable hn hsolvent.operators hindex
  refine ⟨e', ?_, hsettles⟩
  rw [exec_instruction]
  exact run_bind_ok.2 ⟨(), s, loadEpochState_ok.2 ⟨hc.live, rfl⟩,
    run_bind_ok.2 ⟨(), s, forM_load_run hc.loaded, run_zoom_ok.2 ⟨e', hrun, rfl⟩⟩⟩

/-- What is paid can be paid. -/
lemma canPay_of_run {u : Unit} (hrun : (exec cl (d.instruction wallet)).run s = .ok u s') : CanPay wallet d s := by
  rw [exec_instruction] at hrun
  obtain ⟨hlive, hinit, e', he, _⟩ := loaded_ok hrun
  exact ⟨hlive, hinit, Due.payable_of_run he⟩

/-- In every state that instructions lead to, a payout succeeds exactly when the program lets it, and settles its due:
the receiver holds what is owed, which leaves it, and no other due changes. -/
theorem payout_settles {s₀ : Lifecycle} (h₀ : s₀.Untouched) (h : Run (Step cl) s₀ s) (d : Due) (wallet : Pubkey) :
    (Succeeds (exec cl (d.instruction wallet)) s ↔ CanPay wallet d s) ∧
      ∀ s', (exec cl (d.instruction wallet)).run s = .ok () s' →
        ∃ e', s' = { s with accounts := e' } ∧ d.Settles s.accounts e' := by
  refine ⟨⟨fun ⟨_, _, hrun⟩ => canPay_of_run hrun, fun hc => ?_⟩, fun s' hrun => ?_⟩
  · obtain ⟨e', hrun, _⟩ := hc.settles h₀ h
    exact ⟨(), _, hrun⟩
  · obtain ⟨e', hrun', hsettles⟩ := (canPay_of_run hrun).settles h₀ h
    cases hrun.symm.trans hrun'
    exact ⟨e', rfl, hsettles⟩

/-- In the small epoch the route of the operator can be paid, which takes what it owes out of the NCN's receiver. -/
theorem payout_settles_small :
    CanPay 0 (.operatorVaultRoute 7) smallRewarded ∧
      Due.amount smallRewarded.accounts (.operatorVaultRoute 7) = 940 ∧
      Succeeds (exec smallCluster (.distributeOperatorVaultRewardRoute 7)) smallRewarded := by
  have hcan : CanPay 0 (.operatorVaultRoute 7) smallRewarded :=
    ⟨by decide +kernel, by decide +kernel, by decide +kernel⟩
  exact ⟨hcan, by decide +kernel, (payout_settles small_untouched small_rewarded (.operatorVaultRoute 7) 0).1.2 hcan⟩

/-- Dues that can be paid are all paid, in whatever order: then nothing is owed of them, and what is owed besides is
what was. -/
theorem dues_paid {s₀ : Lifecycle} (h₀ : s₀.Untouched) (h : Run (Step cl) s₀ s) (wallet : Due → Pubkey)
    (ds : List Due) (hds : ∀ d ∈ ds, CanPay (wallet d) d s) :
    ∃ s', (ds.forM fun d => exec cl (d.instruction (wallet d))).run s = .ok () s' ∧
      (∀ d ∈ ds, d.amount s'.accounts = 0) ∧ ∀ d ∉ ds, d.amount s'.accounts = d.amount s.accounts := by
  induction ds generalizing s with
  | nil => exact ⟨s, rfl, by simp, fun _ _ => rfl⟩
  | cons d ds ih =>
    obtain ⟨e', hrun, hsettles⟩ := (hds d List.mem_cons_self).settles h₀ h
    have hcan : ∀ d' ∈ ds, CanPay (wallet d') d' { s with accounts := e' } := fun d' hd' =>
      have hc := hds d' (List.mem_cons_of_mem d hd')
      ⟨hc.live, hc.loaded, (hsettles.payable _ d').2 hc.payable⟩
    obtain ⟨s', hrest, hzero, hsame⟩ := ih (h.tail ⟨_, hrun⟩) hcan
    refine ⟨s', run_bind_ok.2 ⟨(), _, hrun, hrest⟩, fun d' hd' => ?_, fun d' hd' => ?_⟩
    · by_cases hmem : d' ∈ ds
      · exact hzero d' hmem
      · -- it has been settled, and nothing that is paid later brings it back
        obtain rfl := (List.mem_cons.1 hd').resolve_right hmem
        exact (hsame d' hmem).trans hsettles.amount
    · obtain ⟨hne, hmem⟩ := not_or.1 (mt List.mem_cons.2 hd')
      exact (hsame d' hmem).trans (hsettles.others d' hne)

/-- The wallet that a due of the small epoch is paid to, where there is one. -/
def smallWallet (d : Due) : Pubkey := if d = .ncnFee then 4 else FeeConfig.protocolFeeWalletKey

/-- In the small epoch everything can be paid, and the route of the operator a second time. -/
theorem dues_paid_small :
    ∃ s', ([Due.operatorVaultRoute 7, .vaultRoute 7 11, .protocolFee, .operatorFee 7, .ncnFee,
        .operatorVaultRoute 7].forM fun d =>
          exec smallCluster (d.instruction (smallWallet d))).run smallRewarded = .ok () s' ∧
      Due.amount s'.accounts .ncnFee = 0 := by
  have hlive : smallRewarded.epochState = true := by decide +kernel
  have hthere : ∀ d ∈ [Due.operatorVaultRoute 7, .vaultRoute 7 11, .protocolFee, .operatorFee 7, .ncnFee,
      .operatorVaultRoute 7], ∀ k ∈ d.accounts, smallRewarded.single k = .initialized := by decide +kernel
  have hpayable : ∀ d ∈ [Due.operatorVaultRoute 7, .vaultRoute 7 11, .protocolFee, .operatorFee 7, .ncnFee,
      .operatorVaultRoute 7], d.Payable (smallWallet d) smallRewarded.accounts := by decide +kernel
  obtain ⟨s', hrun, hzero, _⟩ := dues_paid small_untouched small_rewarded smallWallet _
    fun d hd => ⟨hlive, hthere d hd, hpayable d hd⟩
  exact ⟨s', hrun, hzero .ncnFee (by decide)⟩

end Lifecycle
end NcnProgram
