import NcnProgram.Core.Basic
import NcnProgram.Core.PreciseNumber
import NcnProgram.Lib.Frame
import NcnProgram.Lib.Table
import NcnProgram.Lib.ProRata
import Mathlib.Data.List.Nodup

/-!
# Reward counters and reward routes

What `core/src/ncn_reward_router.rs` and `core/src/operator_vault_reward_router.rs` have in common. Both
move lamports between counters with checked additions and subtractions that do nothing for an amount of
zero (`credit`, `debit`), and both keep a table of routes, one for each party that has rewards to collect
(`RewardRoute`); a free slot has the default key. `RoutesTo t rs` says that the table holds the routes `rs`,
each for another party.
-/

namespace NcnProgram
open Lib NCNProgramError

section Counters
variable {σ : Type} {field : σ → ℕ} {put : ℕ → σ → σ} {rewards : ℕ} {s : σ}

/-- Adds to a counter; the common body of `route_to_protocol` and its kin. -/
def credit (field : σ → ℕ) (put : ℕ → σ → σ) (rewards : ℕ) : Mut σ Unit := do
  if rewards = 0 then return ()
  let self ← get
  let total ← okOr (checkedAdd 64 (field self) rewards) (arithmeticOverflow : ProgramError)
  set (put total self)

/-- Subtracts from a counter; the common body of `decrement_rewards_processed` and its kin. -/
def debit (field : σ → ℕ) (put : ℕ → σ → σ) (rewards : ℕ) : Mut σ Unit := do
  if rewards = 0 then return ()
  let self ← get
  let total ← okOr (checkedSub (field self) rewards) (arithmeticUnderflowError : ProgramError)
  set (put total self)

/-- A credit that fits adds exactly. -/
lemma credit_run (hput : put (field s) s = s) (h : field s + rewards < 2 ^ 64) :
    (credit field put rewards).run s = .ok () (put (field s + rewards) s) := by
  unfold credit
  split
  · rename_i h0
    rw [h0, Nat.add_zero, hput]
    rfl
  · simp only [EStateM.run_bind, EStateM.run_get, checkedAdd_of_lt h]
    rfl

/-- A debit that is covered subtracts exactly. -/
lemma debit_run (hput : put (field s) s = s) (h : rewards ≤ field s) :
    (debit field put rewards).run s = .ok () (put (field s - rewards) s) := by
  unfold debit
  split
  · rename_i h0
    rw [h0, Nat.sub_zero, hput]
    rfl
  · simp only [EStateM.run_bind, EStateM.run_get, checkedSub_of_le h]
    rfl

/-- A debit succeeds only if it is covered. -/
lemma debit_run_ok {s' : σ} {u : Unit} (hput : put (field s) s = s)
    (h : (debit field put rewards).run s = .ok u s') :
    rewards ≤ field s ∧ s' = put (field s - rewards) s := by
  have hle : rewards ≤ field s := by
    unfold debit at h
    split at h
    · omega
    · simp only [EStateM.run_bind, EStateM.run_get] at h
      by_contra hlt
      simp only [checkedSub_of_lt (Nat.lt_of_not_le hlt)] at h
      cases h
  rw [debit_run hput hle] at h
  cases h
  exact ⟨hle, rfl⟩

/-- A debit that is not covered fails. -/
lemma debit_fails (h : field s < rewards) :
    FailsWith (debit field put rewards) s (arithmeticUnderflowError : ProgramError) := by
  refine ⟨s, ?_⟩
  rw [debit, if_neg (by omega)]
  simp only [EStateM.run_bind, EStateM.run_get, checkedSub_of_lt h]
  rfl

/-- A credit writes the counter, or nothing. -/
lemma credit_writes {s' : σ} {u : Unit} (h : (credit field put rewards).run s = .ok u s') :
    rewards = 0 ∧ s' = s ∨ s' = put (field s + rewards) s := by
  unfold credit at h
  split at h
  · rename_i h0
    cases h
    exact .inl ⟨h0, rfl⟩
  · obtain ⟨_, _, hg, h⟩ := run_bind_ok.1 h
    cases hg
    obtain ⟨total, _, hg, h⟩ := run_bind_ok.1 h
    obtain ⟨htotal, rfl⟩ := run_okOr_ok.1 hg
    cases h
    rw [(checkedAdd_eq_some.1 htotal).2]
    exact .inr rfl

/-- A credit succeeds only with the exact sum. -/
lemma credit_run_ok {s' : σ} {u : Unit} (hput : put (field s) s = s)
    (h : (credit field put rewards).run s = .ok u s') : s' = put (field s + rewards) s := by
  rcases credit_writes h with ⟨rfl, rfl⟩ | rfl
  · exact hput.symm
  · rfl

/-- So does a debit. -/
lemma debit_writes {s' : σ} {u : Unit} (h : (debit field put rewards).run s = .ok u s') :
    s' = s ∨ ∃ total, s' = put total s := by
  unfold debit at h
  split at h
  · cases h; exact .inl rfl
  · obtain ⟨_, _, hg, h⟩ := run_bind_ok.1 h
    cases hg
    obtain ⟨total, _, hg, h⟩ := run_bind_ok.1 h
    obtain ⟨_, rfl⟩ := run_okOr_ok.1 hg
    cases h
    exact .inr ⟨total, rfl⟩

/-- A credit leaves alone what does not depend on the counter. -/
lemma leaves_credit {τ : Type} {view : σ → τ} (hput : ∀ n s, view (put n s) = view s) :
    Leaves view (credit field put rewards) := by
  intro s u s' h
  rcases credit_writes h with ⟨_, rfl⟩ | rfl
  · rfl
  · exact hput _ s

/-- So does a debit. -/
lemma leaves_debit {τ : Type} {view : σ → τ} (hput : ∀ n s, view (put n s) = view s) :
    Leaves view (debit field put rewards) := by
  intro s u s' h
  rcases debit_writes h with rfl | ⟨total, rfl⟩
  · rfl
  · exact hput total s

/-- A credit makes nothing smaller that grows with the counter. -/
lemma grows_credit {τ : Type} [Preorder τ] {view : σ → τ}
    (hput : ∀ n s, field s ≤ n → view s ≤ view (put n s)) : Grows view (credit field put rewards) := by
  intro s u s' h
  rcases credit_writes h with ⟨_, rfl⟩ | rfl
  · exact le_rfl
  · exact hput _ s (Nat.le_add_right ..)

end Counters

/-- The rewards of one party, still to be collected (`OperatorVaultRewardRoute`, `VaultRewardRoute`). -/
structure RewardRoute where
  payee : Pubkey
  rewards : ℕ
deriving DecidableEq

/-- The default route, a free slot. -/
protected def RewardRoute.default : RewardRoute := ⟨.default, 0⟩

/-- `increment_rewards` of a route. -/
def RewardRoute.incrementRewards (rewards : ℕ) : Mut RewardRoute Unit := do
  let self ← get
  let newRewards ← okOr (checkedAdd 64 self.rewards rewards) (arithmeticOverflow : ProgramError)
  set { self with rewards := newRewards }

/-- `decrement_rewards` of a route; the two route types differ in the error. -/
def RewardRoute.decrementRewards (underflow : NCNProgramError) (rewards : ℕ) : Mut RewardRoute Unit := do
  let self ← get
  let newRewards ← okOr (checkedSub self.rewards rewards) (underflow : ProgramError)
  set { self with rewards := newRewards }

/-- Runs a method of the route in one slot. -/
def onRoute {n : ℕ} (i : ℕ) (x : Mut RewardRoute Unit) : Mut (Table RewardRoute n) Unit :=
  zoom (fun t => (t.get? i).getD .default) (fun r t => t.set i r) x

/-- Adds to the route of a party, or opens one, in a single pass over the table: the first slot that is the
party's or free (`route_to_operator_vault_reward_route`). -/
def routeInOnePass {n : ℕ} (payee : Pubkey) (rewards : ℕ) : Mut (Table RewardRoute n) Unit := do
  let routes ← get
  match routes.findIdx? (fun r => r.payee == payee || r.payee == .default) with
  | some i =>
    if ((routes.get? i).getD .default).payee = payee then
      onRoute i (RewardRoute.incrementRewards rewards)
    else
      set (routes.set i ⟨payee, rewards⟩)
  | none => throw (operatorRewardListFull : ProgramError)

/-- Adds to the route of a party, or opens one, in two passes over the table: first the party's slot, then
a free one (`route_to_vault_reward_route`). -/
def routeInTwoPasses {n : ℕ} (payee : Pubkey) (rewards : ℕ) : Mut (Table RewardRoute n) Unit := do
  let routes ← get
  match routes.findIdx? (fun r => r.payee == payee) with
  | some i => onRoute i (RewardRoute.incrementRewards rewards)
  | none =>
    match routes.findIdx? (fun r => r.payee == .default) with
    | some i => set (routes.set i ⟨payee, rewards⟩)
    | none => throw (operatorRewardListFull : ProgramError)

/-- Empties the route of a party and returns what was in it; the common part of
`distribute_operator_vault_reward_route` and `distribute_vault_reward_route`. -/
def emptyRoute {n : ℕ} (underflow : NCNProgramError) (payee : Pubkey) :
    Mut (Table RewardRoute n) ℕ := do
  let routes ← get
  match routes.findIdx? (fun r => r.payee == payee) with
  | some i =>
    let rewards := ((routes.get? i).getD .default).rewards
    onRoute i (RewardRoute.decrementRewards underflow rewards)
    return rewards
  | none => throw (operatorRewardNotFound : ProgramError)

/-- The table holds the routes `rs`, each for another party. -/
structure RoutesTo {n : ℕ} (t : Table RewardRoute n) (rs : List RewardRoute) : Prop where
  holds : t.Holds .default rs
  nodup : (rs.map (·.payee)).Nodup
  payee_ne : ∀ r ∈ rs, r.payee ≠ .default

namespace RoutesTo
variable {n : ℕ} {t t' : Table RewardRoute n} {rs : List RewardRoute} {p : Pubkey} {rewards : ℕ}

/-- A new table holds no routes. -/
lemma new : RoutesTo (.replicate n .default) [] where
  holds := Table.holds_replicate _
  nodup := List.nodup_nil
  payee_ne := by simp

/-- The free slots hold no rewards. -/
lemma sum_toList (h : RoutesTo t rs) :
    (t.toList.map (·.rewards)).sum = (rs.map (·.rewards)).sum := by
  rw [h.holds, List.map_append, List.sum_append, List.map_replicate, List.sum_replicate]
  simp [RewardRoute.default]

/-- The routes after `rewards` more for the party `p`. -/
structure Adds (rs rs' : List RewardRoute) (p : Pubkey) (rewards : ℕ) : Prop where
  sum_eq : (rs'.map (·.rewards)).sum = (rs.map (·.rewards)).sum + rewards
  payees : ∀ q ∈ rs'.map (·.payee), q ∈ rs.map (·.payee) ∨ q = p

/-- Changing the amount of a route keeps the parties. -/
lemma payees_set {i v : ℕ} {r : RewardRoute} (hi : rs[i]? = some r) :
    (rs.set i { r with rewards := v }).map (·.payee) = rs.map (·.payee) :=
  map_set_of_eq (b := { r with rewards := v }) hi rfl

/-- Changing the amount of a route keeps the table in order. -/
lemma set_rewards (h : RoutesTo t rs) {i v : ℕ} {r : RewardRoute} (hi : rs[i]? = some r) :
    RoutesTo (t.set i { r with rewards := v }) (rs.set i { r with rewards := v }) := by
  constructor
  case holds => exact h.holds.set (List.getElem?_eq_some_iff.1 hi).1 _
  case nodup => rw [payees_set hi]; exact h.nodup
  case payee_ne =>
    intro q hq
    rcases List.mem_or_eq_of_mem_set hq with hq | rfl
    · exact h.payee_ne q hq
    · exact h.payee_ne r (List.mem_of_getElem? hi)

/-- The slot of a route. -/
lemma get_route (h : RoutesTo t rs) {i : ℕ} {r : RewardRoute} (hi : rs[i]? = some r) :
    (t.get? i).getD .default = r := by
  rw [h.holds.get?_lt (List.getElem?_eq_some_iff.1 hi).1, hi, Option.getD_some]

/-- A route is at most the sum of all. -/
lemma rewards_le_sum {i : ℕ} {r : RewardRoute} (hi : rs[i]? = some r) :
    r.rewards ≤ (rs.map (·.rewards)).sum :=
  List.le_sum_of_mem (List.mem_map_of_mem (List.mem_of_getElem? hi))

/-- Incrementing the route of a party that has one. -/
lemma increment (h : RoutesTo t rs) {i : ℕ} {r : RewardRoute} (hi : rs[i]? = some r)
    (hsum : (rs.map (·.rewards)).sum + rewards < 2 ^ 64) :
    ∃ t' rs', (onRoute i (RewardRoute.incrementRewards rewards)).run t = .ok () t' ∧
      RoutesTo t' rs' ∧ Adds rs rs' r.payee rewards := by
  have hle := rewards_le_sum hi
  have hrun : (RewardRoute.incrementRewards rewards).run r =
      .ok () { r with rewards := r.rewards + rewards } := by
    simp only [RewardRoute.incrementRewards, EStateM.run_bind, EStateM.run_get,
      checkedAdd_of_lt (show r.rewards + rewards < 2 ^ 64 by omega)]
    rfl
  refine ⟨_, _, ?_, h.set_rewards (v := r.rewards + rewards) hi, ?_⟩
  · rw [onRoute, run_zoom, h.get_route hi, hrun]
  · constructor
    case sum_eq =>
      have := sum_map_set (b := { r with rewards := r.rewards + rewards }) (·.rewards) hi
      simp only at this
      omega
    case payees => rw [payees_set hi]; exact fun q hq => .inl hq

/-- Opening a route for a party that has none. -/
lemma open_route (h : RoutesTo t rs) (rewards : ℕ) (hp : p ≠ .default) (hnew : p ∉ rs.map (·.payee))
    (hroom : rs.length < n) :
    RoutesTo (t.set rs.length ⟨p, rewards⟩) (rs ++ [⟨p, rewards⟩]) ∧
      Adds rs (rs ++ [⟨p, rewards⟩]) p rewards := by
  constructor
  · constructor
    case holds => exact h.holds.append hroom _
    case nodup => exact nodup_map_append_singleton h.nodup hnew
    case payee_ne => exact forall_mem_append_singleton h.payee_ne hp
  · constructor
    case sum_eq => simp
    case payees => simp

/-- A party has a slot as long as all parties with routes are among fewer than the slots. -/
lemma room (h : RoutesTo t rs) {ps : List Pubkey} (hsub : rs.map (·.payee) ⊆ ps) (hp : p ∈ ps)
    (hlen : ps.length ≤ n) (hnew : p ∉ rs.map (·.payee)) : rs.length < n := by
  have hnodup : (p :: rs.map (·.payee)).Nodup := List.nodup_cons.2 ⟨hnew, h.nodup⟩
  have hsub' : p :: rs.map (·.payee) ⊆ ps := List.cons_subset.2 ⟨hp, hsub⟩
  have hle := (List.subperm_of_subset hnodup hsub').length_le
  rw [List.length_cons, List.length_map] at hle
  omega

/-- A search that the route of `p` passes, and before it only free slots may pass, finds that route. -/
lemma findIdx?_payee (h : RoutesTo t rs) {q : RewardRoute → Bool}
    (hq : ∀ r ∈ rs, q r = (r.payee == p)) (hmem : p ∈ rs.map (·.payee)) :
    ∃ i r, t.findIdx? q = some i ∧ rs[i]? = some r ∧ r.payee = p := by
  obtain ⟨r₀, hr₀, hp₀⟩ := List.mem_map.1 hmem
  cases hf : rs.findIdx? q with
  | none =>
    rw [List.findIdx?_eq_none_iff] at hf
    have := hf r₀ hr₀
    rw [hq r₀ hr₀, hp₀, beq_self_eq_true] at this
    cases this
  | some i =>
    obtain ⟨r, hr, hqr, _⟩ := exists_of_findIdx? hf
    rw [hq r (List.mem_of_getElem? hr), beq_iff_eq] at hqr
    exact ⟨i, r, h.holds.findIdx?_of_some hf, hr, hqr⟩

/-- A search only free slots pass finds the first of them. -/
lemma findIdx?_free (h : RoutesTo t rs) {q : RewardRoute → Bool} (hd : q .default = true)
    (hq : ∀ r ∈ rs, q r = false) (hroom : rs.length < n) : t.findIdx? q = some rs.length := by
  rw [h.holds.findIdx?_free hd hq, if_pos hroom]

end RoutesTo

/-- A way to add to a route: the route of the party is incremented, and a party without one gets the first free
slot. -/
structure AddsToRoute {n : ℕ} (add : Pubkey → ℕ → Mut (Table RewardRoute n) Unit) : Prop where
  of_mem : ∀ {t : Table RewardRoute n} {rs p}, RoutesTo t rs → p ∈ rs.map (·.payee) →
    ∃ i r, rs[i]? = some r ∧ r.payee = p ∧
      ∀ rewards, (add p rewards).run t = (onRoute i (RewardRoute.incrementRewards rewards)).run t
  of_new : ∀ {t : Table RewardRoute n} {rs p}, RoutesTo t rs → p ≠ .default → p ∉ rs.map (·.payee) →
    rs.length < n → ∀ rewards, (add p rewards).run t = .ok () (t.set rs.length ⟨p, rewards⟩)

/-- The single pass is one. -/
lemma addsToRoute_routeInOnePass {n : ℕ} : AddsToRoute (n := n) routeInOnePass where
  of_mem := by
    intro t rs p h hmem
    have hq : ∀ r ∈ rs, (r.payee == p || r.payee == .default) = (r.payee == p) := fun r hr => by
      rw [beq_eq_false_iff_ne.2 (h.payee_ne r hr), Bool.or_false]
    obtain ⟨i, r, hi, hr, rfl⟩ := h.findIdx?_payee hq hmem
    refine ⟨i, r, hr, rfl, fun rewards => ?_⟩
    simp only [routeInOnePass, EStateM.run_bind, EStateM.run_get, hi, h.get_route hr, if_true]
  of_new := by
    intro t rs p h hp hnew hroom rewards
    have hfree : t.findIdx? (fun r => r.payee == p || r.payee == .default) = some rs.length := by
      apply h.findIdx?_free _ _ hroom
      · simp [RewardRoute.default]
      · intro r hr
        rw [beq_eq_false_iff_ne.2 (h.payee_ne r hr), Bool.or_false, beq_eq_false_iff_ne]
        exact fun he => hnew (List.mem_map.2 ⟨r, hr, he⟩)
    have hslot : ((t.get? rs.length).getD .default).payee ≠ p := by
      rw [h.holds.get?_ge (Nat.le_refl _) hroom, Option.getD_some]
      exact hp.symm
    simp only [routeInOnePass, EStateM.run_bind, EStateM.run_get, hfree, if_neg hslot, EStateM.run_set]

/-- So are the two passes. -/
lemma addsToRoute_routeInTwoPasses {n : ℕ} : AddsToRoute (n := n) routeInTwoPasses where
  of_mem := by
    intro t rs p h hmem
    obtain ⟨i, r, hi, hr, rfl⟩ := h.findIdx?_payee (fun _ _ => rfl) hmem
    refine ⟨i, r, hr, rfl, fun rewards => ?_⟩
    simp only [routeInTwoPasses, EStateM.run_bind, EStateM.run_get, hi]
  of_new := by
    intro t rs p h hp hnew hroom rewards
    have hnone : t.findIdx? (fun r => r.payee == p) = none := by
      have hd : (RewardRoute.default.payee == p) = false := beq_eq_false_iff_ne.2 hp.symm
      rw [h.holds.findIdx?_eq (p := fun r => r.payee == p) hd, List.findIdx?_eq_none_iff]
      intro r hr
      rw [beq_eq_false_iff_ne]
      exact fun he => hnew (List.mem_map.2 ⟨r, hr, he⟩)
    have hfree : t.findIdx? (fun r => r.payee == .default) = some rs.length :=
      h.findIdx?_free rfl (fun r hr => beq_eq_false_iff_ne.2 (h.payee_ne r hr)) hroom
    simp only [routeInTwoPasses, EStateM.run_bind, EStateM.run_get, hnone, hfree, EStateM.run_set]

namespace RoutesTo
variable {n : ℕ} {t t' : Table RewardRoute n} {rs : List RewardRoute} {p : Pubkey} {rewards : ℕ}

/-- Rewards are added to the party's route. -/
lemma add_run {add : Pubkey → ℕ → Mut (Table RewardRoute n) Unit} (hadd : AddsToRoute add) (h : RoutesTo t rs)
    (hp : p ≠ .default) (hroom : p ∉ rs.map (·.payee) → rs.length < n)
    (hsum : (rs.map (·.rewards)).sum + rewards < 2 ^ 64) :
    ∃ t' rs', (add p rewards).run t = .ok () t' ∧ RoutesTo t' rs' ∧ Adds rs rs' p rewards := by
  by_cases hmem : p ∈ rs.map (·.payee)
  · obtain ⟨i, r, hr, rfl, hrun⟩ := hadd.of_mem h hmem
    rw [hrun]
    exact h.increment hr hsum
  · obtain ⟨h', hadds⟩ := h.open_route rewards hp hmem (hroom hmem)
    exact ⟨_, _, hadd.of_new h hp hmem (hroom hmem) rewards, h', hadds⟩

/-- The route of a party that has a slot can be emptied. -/
lemma emptyRoute_succeeds (underflow : NCNProgramError) (hp : t.any (·.payee == p) = true) :
    ∃ rewards t', (NcnProgram.emptyRoute underflow p).run t = .ok rewards t' := by
  have hne : t.findIdx? (fun r => r.payee == p) ≠ none := by
    intro hnone
    obtain ⟨r, hr, hpr⟩ := List.any_eq_true.1 hp
    have := List.findIdx?_eq_none_iff.1 hnone r hr
    rw [hpr] at this
    cases this
  obtain ⟨i, hi⟩ := Option.ne_none_iff_exists'.1 hne
  simp only [NcnProgram.emptyRoute, EStateM.run_bind, EStateM.run_get, hi, onRoute, run_zoom,
    RewardRoute.decrementRewards, checkedSub_of_le (Nat.le_refl _), okOr_some, EStateM.run_pure,
    EStateM.run_set]
  exact ⟨_, _, rfl⟩

/-- A route that is emptied has a slot. -/
lemma any_of_emptyRoute {underflow : NCNProgramError}
    (hrun : (NcnProgram.emptyRoute underflow p).run t = .ok rewards t') :
    t.any (·.payee == p) = true := by
  simp only [NcnProgram.emptyRoute, EStateM.run_bind, EStateM.run_get] at hrun
  split at hrun
  · rename_i i hi
    obtain ⟨r, hr, hp, _⟩ := exists_of_findIdx? hi
    exact List.any_eq_true.2 ⟨r, List.mem_of_getElem? hr, hp⟩
  · cases hrun

/-- Emptying a route takes out exactly what was in it, which is nothing for a free slot. -/
lemma emptyRoute (h : RoutesTo t rs) {underflow : NCNProgramError}
    (hrun : (NcnProgram.emptyRoute underflow p).run t = .ok rewards t') :
    ∃ rs', RoutesTo t' rs' ∧ rs'.map (·.payee) = rs.map (·.payee) ∧
      (rs'.map (·.rewards)).sum + rewards = (rs.map (·.rewards)).sum := by
  simp only [NcnProgram.emptyRoute, EStateM.run_bind, EStateM.run_get] at hrun
  split at hrun
  · rename_i i hi
    obtain ⟨_, t₁, hzoom, hret⟩ := run_bind_ok.1 hrun
    cases hret
    obtain ⟨r', hdec, rfl⟩ := run_zoom_ok.1 hzoom
    simp only [RewardRoute.decrementRewards, EStateM.run_bind, EStateM.run_get,
      checkedSub_of_le (Nat.le_refl _), Nat.sub_self] at hdec
    cases hdec
    obtain ⟨r, hr, _, hlt⟩ := exists_of_findIdx? hi
    rcases h.holds.get?_cases (show t.get? i = some r from hr) with hir | ⟨hge, rfl⟩
    · rw [h.get_route hir]
      refine ⟨_, h.set_rewards hir, payees_set hir, ?_⟩
      have := sum_map_set (b := { r with rewards := 0 }) (·.rewards) hir
      simpa using this
    · -- a free slot: the default key has no rewards and the slot stays as it is
      have hget : (t.get? i).getD .default = .default := by
        rw [show t.get? i = some .default from hr, Option.getD_some]
      have hset : t.set i RewardRoute.default = t := by
        apply Table.ext
        obtain ⟨hi', he⟩ := List.getElem?_eq_some_iff.1 hr
        rw [Table.toList_set, ← he, List.set_getElem_self]
      rw [hget]
      exact ⟨rs, hset.symm ▸ h, rfl, rfl⟩
  · cases hrun

end RoutesTo
end NcnProgram
