import NcnProgram.Lib.Mut
import NcnProgram.Lib.Machine
import Mathlib.Algebra.BigOperators.Group.List.Basic

/-!
# Loops that stop after a number of entries

A loop over a table that does not fit one transaction is cut into chunks: each call handles at most
`limit` entries, and before the next one it writes a checkpoint with the index to go on from. `chunked` is
such a loop; entries that do not apply are passed over without being counted. Its invariant is indexed by
the entries still to come, so that what holds at a checkpoint is what the next call starts from
(`chunked_rule`).
-/

namespace Lib
variable {ε σ α : Type}

/-- Handles the entries one after another, `n` having been handled already and `i` being the index of
the first; stops with a checkpoint when more than `limit` would be handled. Returns whether it got to the
end. The count is a `u16`. -/
def chunked (applies : α → Bool) (body : α → EStateM ε σ Unit) (save : ℕ → σ → σ) (overflow : ε)
    (limit : ℕ) : ℕ → ℕ → List α → EStateM ε σ Bool
  | _, _, [] => pure true
  | n, i, x :: xs =>
    if applies x then do
      let n ← okOr (checkedAdd 16 n 1) overflow
      if limit < n then
        modify (save i)
        return false
      else
        body x
        chunked applies body save overflow limit n (i + 1) xs
    else
      chunked applies body save overflow limit n (i + 1) xs

variable {applies : α → Bool} {body : α → EStateM ε σ Unit}

/-- The loop goes to its end or to a checkpoint, and the invariant holds there for the entries still to
come. It gets to the end exactly when the budget is enough for the entries that apply; otherwise it has used
the budget up. A checkpoint is past the first entry if at least one entry may be handled. -/
lemma chunked_rule (save : ℕ → σ → σ) (overflow : ε) (limit : ℕ) {I : List α → σ → Prop}
    (hbody : ∀ x xs s, applies x = true → I (x :: xs) s →
      ∃ s', (body x).run s = .ok () s' ∧ I xs s')
    (hskip : ∀ x xs s, applies x = false → I (x :: xs) s → I xs s)
    {n i : ℕ} {xs : List α} {s : σ} (hs : I xs s) (hn : n + xs.length < 2 ^ 16) (hl : n ≤ limit) :
    ∃ s', ((chunked applies body save overflow limit n i xs).run s = .ok true s' ∧ I [] s' ∧
        n + xs.countP applies ≤ limit) ∨
      ∃ k s₁, (chunked applies body save overflow limit n i xs).run s = .ok false s' ∧
        k < xs.length ∧ I (xs.drop k) s₁ ∧ s' = save (i + k) s₁ ∧ (n < limit → 0 < k) ∧
        n + xs.countP applies = limit + (xs.drop k).countP applies ∧ 0 < (xs.drop k).countP applies := by
  induction xs generalizing n i s with
  | nil => exact ⟨s, .inl ⟨rfl, hs, hl⟩⟩
  | cons x xs ih =>
    rw [List.length_cons] at hn
    cases hx : applies x with
    | false =>
      obtain ⟨s', h⟩ := ih (n := n) (i := i + 1) (hskip x xs s hx hs) (by omega) hl
      refine ⟨s', ?_⟩
      simp only [chunked, hx, Bool.false_eq_true, if_false, List.countP_cons, Nat.add_zero]
      rcases h with h | ⟨k, s₁, hrun, hk, hI, hsave, _, hcount, hpos⟩
      · exact .inl h
      · refine .inr ⟨k + 1, s₁, hrun, by rw [List.length_cons]; omega, hI, ?_, fun _ => by omega, hcount, hpos⟩
        rw [hsave, Nat.add_assoc, Nat.add_comm 1 k]
    | true =>
      have hadd : checkedAdd 16 n 1 = some (n + 1) := checkedAdd_of_lt (by omega)
      simp only [chunked, hx, if_true, hadd, okOr_some, pure_bind, List.countP_cons]
      rcases Nat.lt_or_ge limit (n + 1) with hl' | hl'
      · -- the budget is spent: the checkpoint is this entry
        refine ⟨save i s, .inr ⟨0, s, ?_, by simp, hs, rfl, fun h => by omega, ?_, ?_⟩⟩
        · rw [if_pos hl']
          rfl
        · rw [List.drop_zero, List.countP_cons, if_pos hx]
          omega
        · rw [List.drop_zero, List.countP_cons, if_pos hx]
          omega
      · rw [if_neg (Nat.not_lt.2 hl')]
        obtain ⟨s₁, hrun₁, hI₁⟩ := hbody x xs s hx hs
        obtain ⟨s', h⟩ := ih (n := n + 1) (i := i + 1) hI₁ (by omega) hl'
        refine ⟨s', ?_⟩
        rw [EStateM.run_bind, hrun₁]
        rcases h with ⟨hrun, hI, hle⟩ | ⟨k, s₂, hrun, hk, hI, hsave, _, hcount, hpos⟩
        · exact .inl ⟨hrun, hI, by omega⟩
        · refine .inr ⟨k + 1, s₂, hrun, by rw [List.length_cons]; omega, hI, ?_, fun _ => by omega, ?_, hpos⟩
          · rw [hsave, Nat.add_assoc, Nat.add_comm 1 k]
          · rw [List.drop_succ_cons]
            omega

/-- An entry within the budget that cannot be handled stops the loop with its error. -/
lemma chunked_fails (save : ℕ → σ → σ) (overflow : ε) {limit n i : ℕ} {x : α} {xs : List α} {s : σ} {e : ε}
    (hx : applies x = true) (hn : n < limit) (hw : n + 1 < 2 ^ 16) (h : FailsWith (body x) s e) :
    FailsWith (chunked applies body save overflow limit n i (x :: xs)) s e := by
  simp only [chunked, hx, if_true, checkedAdd_of_lt hw, okOr_some, pure_bind]
  rw [if_neg (by omega)]
  exact h.bind _

/-- What the body and the checkpoint keep when they succeed, the loop keeps. -/
lemma chunked_keeps {save : ℕ → σ → σ} {overflow : ε} {I : σ → Prop} {limit n i : ℕ} {xs : List α}
    (hbody : ∀ x ∈ xs, ∀ s s', I s → (body x).run s = .ok () s' → I s') (hsave : ∀ i s, I s → I (save i s))
    {s s' : σ} {b : Bool} (hs : I s)
    (hrun : (chunked applies body save overflow limit n i xs).run s = .ok b s') : I s' := by
  induction xs generalizing n i s with
  | nil => cases hrun; exact hs
  | cons x xs ih =>
    have hbody' := fun y hy => hbody y (List.mem_cons_of_mem _ hy)
    unfold chunked at hrun
    split at hrun
    · obtain ⟨k, _, hadd, hrun⟩ := run_bind_ok.1 hrun
      obtain ⟨_, rfl⟩ := run_okOr_ok.1 hadd
      split at hrun
      · cases hrun
        exact hsave i s hs
      · obtain ⟨_, s₁, hx, hrest⟩ := run_bind_ok.1 hrun
        exact ih hbody' (hbody x List.mem_cons_self s s₁ hs hx) hrest
    · exact ih hbody' hs hrun

/-! ## Call after call -/

/-- Calls that change nothing, together change nothing. -/
lemma forM_done {call : ℕ → EStateM ε σ Unit} {final : σ} (hdone : ∀ m, (call m).run final = .ok () final)
    (ms : List ℕ) : (ms.forM call).run final = .ok () final := by
  induction ms with
  | nil => rfl
  | cons m ms ih => exact run_bind_ok.2 ⟨(), final, hdone m, ih⟩

/-- An operation that is called until it is done: while `c` entries are left, a call that may handle `m` of
them leaves `c - m`, and ends in `final` if that is none. Then it does not matter how the entries are dealt
out over the calls. -/
lemma forM_resumed {call : ℕ → EStateM ε σ Unit} {P : ℕ → σ → Prop} {final : σ}
    (hcall : ∀ c s m, 0 < c → P c s → ∃ s', (call m).run s = .ok () s' ∧
      (c ≤ max m 1 → s' = final) ∧ (max m 1 < c → P (c - max m 1) s'))
    (hdone : ∀ m, (call m).run final = .ok () final) {c : ℕ} {s : σ} (hc : 0 < c) (hs : P c s)
    (ms : List ℕ) :
    ∃ s', (ms.forM call).run s = .ok () s' ∧ (c ≤ (ms.map (max · 1)).sum → s' = final) ∧
      ((ms.map (max · 1)).sum < c → P (c - (ms.map (max · 1)).sum) s') := by
  induction ms generalizing c s with
  | nil => exact ⟨s, rfl, fun h => absurd h (Nat.not_le.2 hc), fun _ => hs⟩
  | cons m ms ih =>
    rw [List.map_cons, List.sum_cons]
    obtain ⟨s₁, hrun, hend, hpending⟩ := hcall c s m hc hs
    rcases Nat.lt_or_ge (max m 1) c with hlt | hge
    · obtain ⟨s', hrun', hend', hpending'⟩ := ih (by omega) (hpending hlt)
      refine ⟨s', run_bind_ok.2 ⟨(), s₁, hrun, hrun'⟩, fun h => hend' (by omega), fun h => ?_⟩
      rw [Nat.sub_add_eq]
      exact hpending' (by omega)
    · rw [hend hge] at hrun
      exact ⟨final, run_bind_ok.2 ⟨(), final, hrun, forM_done hdone ms⟩, fun _ => rfl, fun h => by omega⟩

/-- If a flag is up between the first call and the last, and only then, it tells whether all entries have been
handled. -/
lemma forM_resumed_flag {call : ℕ → EStateM ε σ Unit} {P : ℕ → σ → Prop} {final : σ} {flag : σ → Bool}
    (hcall : ∀ c s m, 0 < c → P c s → ∃ s', (call m).run s = .ok () s' ∧
      (c ≤ max m 1 → s' = final) ∧ (max m 1 < c → P (c - max m 1) s'))
    (hdone : ∀ m, (call m).run final = .ok () final) {c : ℕ} {s : σ} (hc : 0 < c) (hs : P c s)
    (hup : ∀ k s, k < c → P k s → flag s = true) (hdown : flag final = false) {ms : List ℕ} (hms : ms ≠ []) :
    ∃ s', (ms.forM call).run s = .ok () s' ∧ (flag s' = false ↔ c ≤ (ms.map (max · 1)).sum) ∧
      (flag s' = false → s' = final) := by
  obtain ⟨s', hrun, hend, hmore⟩ := forM_resumed hcall hdone hc hs ms
  have hsum_pos : 0 < (ms.map (max · 1)).sum := by
    obtain ⟨m, ms, rfl⟩ := List.exists_cons_of_ne_nil hms
    rw [List.map_cons, List.sum_cons]
    omega
  have hiff : flag s' = false ↔ c ≤ (ms.map (max · 1)).sum := by
    constructor
    · intro hflag
      by_contra hlt
      rw [hup _ s' (by omega) (hmore (Nat.lt_of_not_le hlt))] at hflag
      cases hflag
    · intro hge
      rw [hend hge]
      exact hdown
  exact ⟨s', hrun, hiff, fun hflag => hend (hiff.1 hflag)⟩

end Lib
