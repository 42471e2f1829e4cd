import NcnProgram.Lib.Run
import NcnProgram.Lib.Table
import NcnProgram.Lib.Tally

/-!
# Weighted elections

An election has a register of voters with their weights, then votes, then an outcome. A voter in the register votes
once. A candidate is elected when its weight passes the `quorum` of the weight of the register; an undecided
election can also be decided by appointing a candidate that someone has voted for, which ends the voting.

Whatever the order of the events, a decided election stays decided (`decided_of_run`), and an elected candidate has a
quorum that no other candidate has (`elected_unique`).
-/

namespace Lib

/-- A vote of a voter with some weight. -/
structure Election.Vote (ν κ : Type) where
  voter : ν
  candidate : κ
  weight : ℕ

/-- What has been decided. -/
inductive Election.Outcome (κ : Type) where
  | undecided
  | elected (c : κ)
  | appointed (c : κ)

/-- The register, the votes in their order, and the outcome. -/
structure Election (ν κ : Type) where
  register : List (ν × ℕ)
  votes : List (Election.Vote ν κ)
  outcome : Election.Outcome κ

namespace Election
variable {ν κ : Type}

/-- Before anything has happened. -/
def new : Election ν κ := ⟨[], [], .undecided⟩

/-- The weight of the register. -/
def total (e : Election ν κ) : ℕ := (e.register.map (·.2)).sum

/-- Someone has voted for the candidate. -/
def Backed (e : Election ν κ) (c : κ) : Prop := ∃ v ∈ e.votes, v.candidate = c

variable [DecidableEq κ]

/-- The weight of the votes for a candidate. -/
def weight (e : Election ν κ) (c : κ) : ℕ := weightOf (·.candidate) (·.weight) c e.votes

/-- An event of an election in which the weight `w` out of a total `t` is enough if `quorum w t` says so. -/
inductive Step (quorum : ℕ → ℕ → Prop) (e : Election ν κ) : Election ν κ → Prop
  | enrol (v : ν) (w : ℕ) : v ∉ e.register.map (·.1) → e.votes = [] →
      Step quorum e { e with register := e.register ++ [(v, w)] }
  | cast (v : ν) (c : κ) (w : ℕ) : (v, w) ∈ e.register → v ∉ e.votes.map (·.voter) →
      (∀ c', e.outcome ≠ .appointed c') → Step quorum e { e with votes := e.votes ++ [⟨v, c, w⟩] }
  | elect (c : κ) : e.outcome = .undecided → e.Backed c → quorum (e.weight c) e.total →
      Step quorum e { e with outcome := .elected c }
  | appoint (c : κ) : e.outcome = .undecided → e.Backed c → Step quorum e { e with outcome := .appointed c }

/-- More weight keeps the quorum. -/
def Monotone (quorum : ℕ → ℕ → Prop) : Prop := ∀ ⦃w w' t⦄, quorum w t → w ≤ w' → quorum w' t

/-- Two disjoint sets of votes do not both have the quorum. -/
def Exclusive (quorum : ℕ → ℕ → Prop) : Prop := ∀ ⦃w w' t⦄, quorum w t → w + w' ≤ t → ¬quorum w' t

/-- What holds of every election. -/
structure Sound (quorum : ℕ → ℕ → Prop) (e : Election ν κ) : Prop where
  register : (e.register.map (·.1)).Nodup
  voters : (e.votes.map (·.voter)).Nodup
  registered : ∀ v ∈ e.votes, (v.voter, v.weight) ∈ e.register
  elected : ∀ c, e.outcome = .elected c → e.Backed c ∧ quorum (e.weight c) e.total
  appointed : ∀ c, e.outcome = .appointed c → e.Backed c

variable {quorum : ℕ → ℕ → Prop} {e e' : Election ν κ} {c c' : κ}

lemma Sound.new : Sound quorum (new : Election ν κ) :=
  ⟨List.nodup_nil, List.nodup_nil, by simp [Election.new], fun _ h => (by cases h), fun _ h => (by cases h)⟩

omit [DecidableEq κ] in
lemma Backed.append (h : e.Backed c) (v : Vote ν κ) : Backed { e with votes := e.votes ++ [v] } c := by
  obtain ⟨u, hu, huc⟩ := h
  exact ⟨u, List.mem_append_left _ hu, huc⟩

/-- A vote does not take weight from a candidate. -/
lemma weight_le_append (v : Vote ν κ) : e.weight c ≤ weight { e with votes := e.votes ++ [v] } c := by
  show weightOf _ _ c e.votes ≤ weightOf _ _ c (e.votes ++ [v])
  rw [weightOf_append]
  exact Nat.le_add_right ..

/-- An event keeps an election sound. -/
lemma Sound.step (hmono : Monotone quorum) (h : Sound quorum e) (hs : Step quorum e e') : Sound quorum e' := by
  cases hs with
  | enrol v w hv hnone =>
    have hback : ∀ c, ¬e.Backed c := by
      rintro c ⟨u, hu, _⟩
      rw [hnone] at hu
      cases hu
    refine ⟨nodup_map_append_singleton h.register hv, h.voters, ?_, fun c hc => ?_, h.appointed⟩
    · intro u hu
      exact List.mem_append_left _ (h.registered u hu)
    · exact absurd (h.elected c hc).1 (hback c)
  | cast v c w hreg hv _ =>
    refine ⟨h.register, nodup_map_append_singleton h.voters hv, ?_, fun c' hc' => ?_, fun c' hc' => ?_⟩
    · exact forall_mem_append_singleton h.registered hreg
    · obtain ⟨hback, hquorum⟩ := h.elected c' hc'
      exact ⟨hback.append _, hmono hquorum (weight_le_append _)⟩
    · exact (h.appointed c' hc').append _
  | elect c _ hback hquorum =>
    refine ⟨h.register, h.voters, h.registered, fun c' hc' => ?_, fun _ hc' => (by cases hc')⟩
    cases hc'
    exact ⟨hback, hquorum⟩
  | appoint c _ hback =>
    refine ⟨h.register, h.voters, h.registered, fun _ hc' => (by cases hc'), fun c' hc' => ?_⟩
    cases hc'
    exact hback

/-- So every election is sound. -/
lemma sound (hmono : Monotone quorum) (h : Run (Step quorum) new e) : Sound quorum e :=
  h.invariant Sound.new fun _ _ hs h => h.step hmono hs

/-- The votes weigh no more than the register. -/
lemma Sound.sum_weight_le (h : Sound quorum e) : (e.votes.map (·.weight)).sum ≤ e.total := by
  have hvotes : (e.votes.map fun v => (v.voter, v.weight)).Nodup := by
    refine List.Nodup.of_map Prod.fst ?_
    rw [List.map_map]
    exact h.voters
  have hsub : (e.votes.map fun v => (v.voter, v.weight)) ⊆ e.register := by
    intro x hx
    obtain ⟨v, hv, rfl⟩ := List.mem_map.1 hx
    exact h.registered v hv
  have hle := sum_map_le_of_subset (f := Prod.snd) hvotes hsub
  rwa [List.map_map] at hle

/-- Nor do they with the weight of a voter that has not voted. -/
lemma Sound.sum_weight_add_le (h : Sound quorum e) {v : ν} {w : ℕ} (hreg : (v, w) ∈ e.register)
    (hnew : v ∉ e.votes.map (·.voter)) : (e.votes.map (·.weight)).sum + w ≤ e.total := by
  let pairs := (v, w) :: e.votes.map fun u => (u.voter, u.weight)
  have hnodup : pairs.Nodup := by
    refine List.Nodup.of_map Prod.fst ?_
    rw [List.map_cons, List.map_map]
    exact List.nodup_cons.2 ⟨hnew, h.voters⟩
  have hsub : pairs ⊆ e.register := by
    refine List.cons_subset.2 ⟨hreg, fun x hx => ?_⟩
    obtain ⟨u, hu, rfl⟩ := List.mem_map.1 hx
    exact h.registered u hu
  have hle := sum_map_le_of_subset (f := Prod.snd) hnodup hsub
  rw [List.map_cons, List.sum_cons, List.map_map, Nat.add_comm] at hle
  exact hle

omit [DecidableEq κ] in
/-- Every voter has one weight in the register. -/
lemma exists_weight (h : (e.register.map (·.1)).Nodup) : ∃ weight : ν → ℕ, ∀ x ∈ e.register, weight x.1 = x.2 := by
  classical
  refine ⟨fun v => if hv : ∃ w, (v, w) ∈ e.register then hv.choose else 0, fun x hx => ?_⟩
  have hv : ∃ w, (x.1, w) ∈ e.register := ⟨x.2, hx⟩
  beta_reduce
  rw [dif_pos hv]
  exact congrArg Prod.snd (List.inj_on_of_nodup_map h hv.choose_spec hx rfl)

/-- Only one candidate has the quorum. -/
theorem elected_unique (hmono : Monotone quorum) (hex : Exclusive quorum) (h : Run (Step quorum) new e)
    (hc : e.outcome = .elected c) (hc' : c' ≠ c) : ¬quorum (e.weight c') e.total := by
  have hs := sound hmono h
  refine hex (hs.elected c hc).2 ?_
  exact (weightOf_add_le_sum hc'.symm).trans hs.sum_weight_le

/-- A decision stands. -/
lemma Step.decided (hs : Step quorum e e') (h : e.outcome ≠ .undecided) : e'.outcome = e.outcome := by
  cases hs with
  | elect c hopen => exact absurd hopen h
  | appoint c hopen => exact absurd hopen h
  | _ => rfl

/-- A decision stands for ever. -/
theorem decided_of_run (hrun : Run (Step quorum) e e') (h : e.outcome ≠ .undecided) : e'.outcome = e.outcome := by
  refine hrun.invariant (I := fun e' => e'.outcome = e.outcome) rfl fun e₁ e₂ hs h₁ => ?_
  exact (hs.decided (h₁ ▸ h)).trans h₁

/-- Votes are not withdrawn. -/
lemma votes_of_run (hrun : Run (Step quorum) e e') : e.votes <+: e'.votes := by
  refine hrun.invariant (I := fun e' => e.votes <+: e'.votes) (List.prefix_refl _) fun e₁ e₂ hs h => ?_
  cases hs with
  | cast v c w => exact h.trans (List.prefix_append ..)
  | _ => exact h

end Election
end Lib
