import NcnProgram.Core.Rewards
import NcnProgram.Lib.Tally

/-!
# Paying dues into a table of routes

A due is a party with an amount. The two routers pay a due in different ways, in one pass over the table or in
two, but both pay exactly: the party's route has the amount more, every other route is as it was
(`OpensRoutes`). A list of dues then adds to each party what the list has for it (`RoutesTo.payDues`).
-/

namespace NcnProgram
open Lib
variable {n : ℕ} {t t' : Table RewardRoute n} {rs : List RewardRoute} {p q : Pubkey} {x : ℕ}

/-- The route of a party, an empty one if it has none (`operator_vault_reward_route`). -/
def routeOf (t : Table RewardRoute n) (payee : Pubkey) : RewardRoute :=
  (t.find? (·.payee == payee)).getD .default

/-- What all slots of a party hold together. -/
def heldFor (t : Table RewardRoute n) (payee : Pubkey) : ℕ :=
  weightOf (·.payee) (·.rewards) payee t.toList

/-- A party has at most one slot with rewards, the one its route is looked up in. -/
lemma RoutesTo.rewards_routeOf (h : RoutesTo t rs) (p : Pubkey) : (routeOf t p).rewards = heldFor t p := by
  have hfree : weightOf (·.payee) (·.rewards) p (List.replicate (n - rs.length) RewardRoute.default) = 0 := by
    apply Nat.le_zero.1
    refine weightOf_le_sum.trans ?_
    rw [List.map_replicate, List.sum_replicate]
    simp [RewardRoute.default]
  rw [routeOf, heldFor]
  cases hf : t.find? (·.payee == p) with
  | none =>
    have hno : ∀ r ∈ t.toList, r.payee ≠ p := fun r hr he =>
      List.find?_eq_none.1 hf r hr (beq_iff_eq.2 he)
    rw [weightOf_eq_zero hno]
    rfl
  | some r =>
    have hp : (r.payee == p) = true := List.find?_some (p := fun r : RewardRoute => r.payee == p) hf
    obtain rfl : r.payee = p := beq_iff_eq.1 hp
    have hmem := List.mem_of_find?_eq_some hf
    rw [h.holds, weightOf_append, hfree, Nat.add_zero, Option.getD_some]
    rw [h.holds, List.mem_append] at hmem
    rcases hmem with hmem | hmem
    · exact (weightOf_of_nodup h.nodup hmem).symm
    · -- a free slot: no route is for the default key
      obtain rfl := List.eq_of_mem_replicate hmem
      exact (weightOf_eq_zero h.payee_ne).symm

/-- Writing a slot of the party, or a free one, adds to the party and to no other. -/
lemma heldFor_set {i : ℕ} {a b : RewardRoute} (ha : t.get? i = some a) (hb : b.payee = p)
    (hslot : a.payee = p ∧ b.rewards = a.rewards + x ∨ a = .default ∧ b.rewards = x) (q : Pubkey) :
    heldFor (t.set i b) q = heldFor t q + if p = q then x else 0 := by
  have hset : weightOf (·.payee) (·.rewards) q (t.toList.set i b) + (if a.payee = q then a.rewards else 0) =
      weightOf (·.payee) (·.rewards) q t.toList + if b.payee = q then b.rewards else 0 := weightOf_set ha
  simp only [hb] at hset
  rw [heldFor, heldFor, Table.toList_set]
  rcases hslot with ⟨hap, hx⟩ | ⟨rfl, hx⟩
  · rw [hap, hx] at hset
    split
    · rename_i hpq
      rw [if_pos hpq, if_pos hpq] at hset
      omega
    · rename_i hpq
      rw [if_neg hpq, if_neg hpq] at hset
      exact hset
  · have hnone : (if RewardRoute.default.payee = q then RewardRoute.default.rewards else 0) = 0 := ite_self 0
    rw [hnone, hx] at hset
    exact hset

/-- A route in one slot is incremented there. -/
lemma onRoute_incrementRewards_run_ok {i : ℕ} {a : RewardRoute} {u : Unit} (ha : t.get? i = some a)
    (hrun : (onRoute i (RewardRoute.incrementRewards x)).run t = .ok u t') :
    t' = t.set i { a with rewards := a.rewards + x } := by
  obtain ⟨b, hinc, rfl⟩ := run_zoom_ok.1 hrun
  rw [ha, Option.getD_some] at hinc
  obtain ⟨_, _, hget, hinc⟩ := run_bind_ok.1 hinc
  cases hget
  obtain ⟨total, _, hadd, hset⟩ := run_bind_ok.1 hinc
  obtain ⟨htotal, rfl⟩ := run_okOr_ok.1 hadd
  cases hset
  rw [(checkedAdd_eq_some.1 htotal).2]

/-- A way to add to a route, or to open one, that is exact: it succeeds when the party has a slot and the
amounts fit, and adds to the party and to no other. -/
structure OpensRoutes (add : Pubkey → ℕ → Mut (Table RewardRoute n) Unit) : Prop where
  run : ∀ {t : Table RewardRoute n} {rs p x}, RoutesTo t rs → p ≠ .default →
    (p ∉ rs.map (·.payee) → rs.length < n) → (rs.map (·.rewards)).sum + x < 2 ^ 64 →
    ∃ t' rs', (add p x).run t = .ok () t' ∧ RoutesTo t' rs' ∧ RoutesTo.Adds rs rs' p x
  heldFor_eq : ∀ {t t' : Table RewardRoute n} {rs p x u}, RoutesTo t rs → (add p x).run t = .ok u t' →
    ∀ q, heldFor t' q = heldFor t q + if p = q then x else 0

/-- The single pass is exact. -/
lemma opensRoutes_routeInOnePass : OpensRoutes (n := n) routeInOnePass where
  run := fun h => h.add_run addsToRoute_routeInOnePass
  heldFor_eq := by
    intro t t' rs p x u h hrun q
    simp only [routeInOnePass, EStateM.run_bind, EStateM.run_get] at hrun
    split at hrun
    · rename_i i hi
      obtain ⟨a, ha, hap, _⟩ := exists_of_findIdx? hi
      rw [show t.get? i = some a from ha, Option.getD_some] at hrun
      split at hrun
      · rename_i hpayee
        rw [onRoute_incrementRewards_run_ok ha hrun]
        exact heldFor_set (b := { a with rewards := a.rewards + x }) ha hpayee (.inl ⟨hpayee, rfl⟩) q
      · rename_i hpayee
        cases hrun
        apply heldFor_set ha rfl
        rcases h.holds.get?_cases (show t.get? i = some a from ha) with hmem | ⟨_, rfl⟩
        · rw [beq_eq_false_iff_ne.2 hpayee, beq_eq_false_iff_ne.2 (h.payee_ne a (List.mem_of_getElem? hmem))] at hap
          cases hap
        · exact .inr ⟨rfl, rfl⟩
    · cases hrun

/-- So are the two passes. -/
lemma opensRoutes_routeInTwoPasses : OpensRoutes (n := n) routeInTwoPasses where
  run := fun h => h.add_run addsToRoute_routeInTwoPasses
  heldFor_eq := by
    intro t t' rs p x u h hrun q
    simp only [routeInTwoPasses, EStateM.run_bind, EStateM.run_get] at hrun
    split at hrun
    · rename_i i hi
      obtain ⟨a, ha, hap, _⟩ := exists_of_findIdx? hi
      rw [beq_iff_eq] at hap
      rw [onRoute_incrementRewards_run_ok ha hrun]
      exact heldFor_set (b := { a with rewards := a.rewards + x }) ha hap (.inl ⟨hap, rfl⟩) q
    · split at hrun
      · rename_i i hi
        obtain ⟨a, ha, hfree, _⟩ := exists_of_findIdx? hi
        rw [beq_iff_eq] at hfree
        cases hrun
        apply heldFor_set ha rfl
        rcases h.holds.get?_cases (show t.get? i = some a from ha) with hmem | ⟨_, rfl⟩
        · exact absurd hfree (h.payee_ne a (List.mem_of_getElem? hmem))
        · exact .inr ⟨rfl, rfl⟩
      · cases hrun

/-- Pays a due; nothing is opened for an amount of zero. -/
def payDue (add : Pubkey → ℕ → Mut (Table RewardRoute n) Unit) (due : Pubkey × ℕ) :
    Mut (Table RewardRoute n) Unit :=
  if due.2 = 0 then return () else add due.1 due.2

namespace RoutesTo
variable {add : Pubkey → ℕ → Mut (Table RewardRoute n) Unit} {ps : List Pubkey}

/-- A due of a party that may have a slot is paid exactly. -/
lemma payDue_spec (hadd : OpensRoutes add) (h : RoutesTo t rs) (hsub : rs.map (·.payee) ⊆ ps)
    (hroom : ps.length ≤ n) {due : Pubkey × ℕ} (hdue : due.2 ≠ 0 → due.1 ∈ ps ∧ due.1 ≠ .default)
    (hsum : (rs.map (·.rewards)).sum + due.2 < 2 ^ 64) :
    ∃ t' rs', (payDue add due).run t = .ok () t' ∧ RoutesTo t' rs' ∧ rs'.map (·.payee) ⊆ ps ∧
      (rs'.map (·.rewards)).sum = (rs.map (·.rewards)).sum + due.2 ∧
      ∀ q, heldFor t' q = heldFor t q + if due.1 = q then due.2 else 0 := by
  by_cases h0 : due.2 = 0
  · rw [payDue, if_pos h0, h0]
    exact ⟨t, rs, rfl, h, hsub, rfl, fun q => by rw [ite_self]; rfl⟩
  · rw [payDue, if_neg h0]
    obtain ⟨hmem, hne⟩ := hdue h0
    obtain ⟨t', rs', hrun, ht', hadds⟩ := hadd.run h hne (h.room hsub hmem hroom) hsum
    refine ⟨t', rs', hrun, ht', ?_, hadds.sum_eq, hadd.heldFor_eq h hrun⟩
    intro q hq
    rcases hadds.payees q hq with hq | rfl
    · exact hsub hq
    · exact hmem

/-- A list of dues is paid, and every party has what the list has for it. -/
lemma payDues_spec (hadd : OpensRoutes add) (h : RoutesTo t rs) (hsub : rs.map (·.payee) ⊆ ps)
    (hroom : ps.length ≤ n) {dues : List (Pubkey × ℕ)}
    (hdues : ∀ due ∈ dues, due.2 ≠ 0 → due.1 ∈ ps ∧ due.1 ≠ .default)
    (hsum : (rs.map (·.rewards)).sum + (dues.map Prod.snd).sum < 2 ^ 64) :
    ∃ t' rs', (dues.forM (payDue add)).run t = .ok () t' ∧ RoutesTo t' rs' ∧
      ∀ q, heldFor t' q = heldFor t q + weightOf Prod.fst Prod.snd q dues := by
  induction dues generalizing t rs with
  | nil => exact ⟨t, rs, rfl, h, fun q => rfl⟩
  | cons due dues ih =>
    rw [List.map_cons, List.sum_cons] at hsum
    obtain ⟨t₁, rs₁, hrun₁, h₁, hsub₁, hsum₁, hheld₁⟩ :=
      h.payDue_spec hadd hsub hroom (hdues due List.mem_cons_self) (by omega)
    obtain ⟨t', rs', hrun, h', hheld⟩ :=
      ih h₁ hsub₁ (fun d hd => hdues d (List.mem_cons_of_mem _ hd)) (by omega)
    refine ⟨t', rs', run_bind_ok.2 ⟨(), t₁, hrun₁, hrun⟩, h', fun q => ?_⟩
    rw [hheld, hheld₁, weightOf_cons, Nat.add_assoc]

/-- Where no two dues are for the same party, every party has its due more and nobody else has. -/
lemma payDues_distinct (hadd : OpensRoutes add) (h : RoutesTo t rs) (hsub : rs.map (·.payee) ⊆ ps)
    (hroom : ps.length ≤ n) {α : Type} {f : α → Pubkey × ℕ} {xs : List α}
    (hnodup : (xs.map fun x => (f x).1).Nodup)
    (hdues : ∀ x ∈ xs, (f x).2 ≠ 0 → (f x).1 ∈ ps ∧ (f x).1 ≠ .default)
    (hsum : (rs.map (·.rewards)).sum + (xs.map fun x => (f x).2).sum < 2 ^ 64) :
    ∃ t', ((xs.map f).forM (payDue add)).run t = .ok () t' ∧
      (∀ x ∈ xs, (routeOf t' (f x).1).rewards = (routeOf t (f x).1).rewards + (f x).2) ∧
      ∀ q ∉ xs.map (fun x => (f x).1), (routeOf t' q).rewards = (routeOf t q).rewards := by
  have hpayees : ∀ d ∈ xs.map f, d.2 ≠ 0 → d.1 ∈ ps ∧ d.1 ≠ .default := by
    intro d hd
    obtain ⟨x, hx, rfl⟩ := List.mem_map.1 hd
    exact hdues x hx
  have hamounts : (xs.map f).map Prod.snd = xs.map fun x => (f x).2 := List.map_map
  have hkeys : (xs.map f).map Prod.fst = xs.map fun x => (f x).1 := List.map_map
  obtain ⟨t', rs', hrun, h', hheld⟩ := h.payDues_spec hadd hsub hroom hpayees (hamounts ▸ hsum)
  refine ⟨t', hrun, ?_, ?_⟩
  · intro x hx
    have hweight : weightOf Prod.fst Prod.snd (f x).1 (xs.map f) = (f x).2 :=
      weightOf_of_nodup (hkeys ▸ hnodup) (List.mem_map_of_mem hx)
    rw [h'.rewards_routeOf, h.rewards_routeOf, hheld, hweight]
  · intro q hq
    rw [h'.rewards_routeOf, h.rewards_routeOf, hheld, weightOf_eq_zero, Nat.add_zero]
    intro d hd he
    rw [← hkeys] at hq
    exact hq (he ▸ List.mem_map_of_mem hd)

end RoutesTo

/-- Dues of nothing change nothing. -/
lemma payDues_zero {add : Pubkey → ℕ → Mut (Table RewardRoute n) Unit} {dues : List (Pubkey × ℕ)}
    (h : ∀ due ∈ dues, due.2 = 0) : (dues.forM (payDue add)).run t = .ok () t := by
  induction dues with
  | nil => rfl
  | cons due dues ih =>
    refine run_bind_ok.2 ⟨(), t, ?_, ih fun d hd => h d (List.mem_cons_of_mem _ hd)⟩
    rw [payDue, if_pos (h due List.mem_cons_self)]
    rfl

end NcnProgram
