import NcnProgram.Lib.Chunked
import Mathlib.Order.Basic

/-!
# What a method leaves alone

`Leaves view x` says that the method `x` does not change `view` of the state when it succeeds, and `Grows view x`
that it does not make it smaller. The rules follow the way methods are put together, so that a frame condition is
proved along the text of the method.
-/

namespace Lib
variable {ε σ τ υ α β : Type} {view : σ → τ}

/-- The method leaves the view of the state alone when it succeeds. -/
def Leaves (view : σ → τ) (x : EStateM ε σ α) : Prop :=
  ∀ ⦃s a s'⦄, x.run s = .ok a s' → view s' = view s

namespace Leaves

/-- Returning leaves everything. -/
lemma pure (a : α) : Leaves view (Pure.pure a : EStateM ε σ α) := by
  intro s b s' h
  cases h
  rfl

/-- Reading the state leaves everything. -/
lemma get : Leaves view (MonadState.get : EStateM ε σ σ) := by
  intro s b s' h
  cases h
  rfl

/-- A check leaves everything. -/
lemma ensure (c : Prop) [Decidable c] (e : ε) : Leaves view (Lib.ensure c e : EStateM ε σ Unit) := by
  intro s a s' h
  rw [(run_ensure_ok.1 h).2]

/-- Taking a value that may be missing leaves everything. -/
lemma okOr (o : Option α) (e : ε) : Leaves view (Lib.okOr o e : EStateM ε σ α) := by
  intro s a s' h
  rw [(run_okOr_ok.1 h).2]

/-- A computation without a state leaves everything. -/
lemma ofExcept (x : Except ε α) : Leaves view (MonadExcept.ofExcept x : EStateM ε σ α) := by
  intro s a s' h
  rw [(run_ofExcept_ok.1 h).2]

/-- A change leaves what it does not change. -/
lemma modify {f : σ → σ} (h : ∀ s, view (f s) = view s) : Leaves view (modify f : EStateM ε σ PUnit) := by
  intro s a s' hrun
  cases hrun
  exact h s

/-- A sequence leaves alone what its parts do. -/
lemma bind {x : EStateM ε σ α} {f : α → EStateM ε σ β} (hx : Leaves view x) (hf : ∀ a, Leaves view (f a)) :
    Leaves view (x >>= f) := by
  intro s b s₂ h
  obtain ⟨a, s₁, h₁, h₂⟩ := run_bind_ok.1 h
  exact (hf a h₂).trans (hx h₁)

/-- A method of a part leaves alone what does not depend on the part. -/
lemma zoom {part : σ → υ} {put : υ → σ → σ} {x : EStateM ε υ α} (h : ∀ t s, view (put t s) = view s) :
    Leaves view (zoom part put x) := by
  intro s a s' hrun
  obtain ⟨t, _, rfl⟩ := run_zoom_ok.1 hrun
  exact h t s

/-- A method of a part leaves alone what it leaves alone of the part. -/
lemma zoom_part {part : σ → υ} {put : υ → σ → σ} {x : EStateM ε υ α} {ω : Type} {partView : υ → ω}
    (hx : Leaves partView x) (h : ∀ t s, partView t = partView (part s) → view (put t s) = view s) :
    Leaves view (Lib.zoom part put x) := by
  intro s a s' hrun
  obtain ⟨t, ht, rfl⟩ := run_zoom_ok.1 hrun
  exact h t s (hx ht)

/-- A loop in chunks leaves alone what its body and its checkpoint do. -/
lemma chunked {applies : α → Bool} {body : α → EStateM ε σ Unit} {save : ℕ → σ → σ} {overflow : ε}
    (hbody : ∀ x, Leaves view (body x)) (hsave : ∀ i s, view (save i s) = view s) (limit n i : ℕ)
    (xs : List α) : Leaves view (chunked applies body save overflow limit n i xs) := by
  induction xs generalizing n i with
  | nil => exact .pure true
  | cons x xs ih =>
    unfold Lib.chunked
    split
    · refine .bind (.okOr _ _) fun n => ?_
      split
      · exact .bind (.modify (hsave i)) fun _ => .pure false
      · exact .bind (hbody x) fun _ => ih _ _
    · exact ih _ _

end Leaves

/-- The method does not make the view of the state smaller when it succeeds. -/
def Grows [Preorder τ] (view : σ → τ) (x : EStateM ε σ α) : Prop :=
  ∀ ⦃s a s'⦄, x.run s = .ok a s' → view s ≤ view s'

/-- What is left alone does not get smaller. -/
lemma Grows.of_leaves [Preorder τ] {x : EStateM ε σ α} (h : Leaves view x) : Grows view x :=
  fun _ _ _ hrun => (h hrun).ge

/-- A sequence does not make smaller what its parts do not. -/
lemma Grows.bind [Preorder τ] {x : EStateM ε σ α} {f : α → EStateM ε σ β} (hx : Grows view x)
    (hf : ∀ a, Grows view (f a)) : Grows view (x >>= f) := by
  intro s b s₂ h
  obtain ⟨a, s₁, h₁, h₂⟩ := run_bind_ok.1 h
  exact (hx h₁).trans (hf a h₂)

/-- A method of a part does not make smaller what it does not make smaller of the part. -/
lemma Grows.zoom_part [Preorder τ] {part : σ → υ} {put : υ → σ → σ} {x : EStateM ε υ α} {ω : Type} [Preorder ω]
    {partView : υ → ω} (hx : Grows partView x)
    (h : ∀ t s, partView (part s) ≤ partView t → view s ≤ view (put t s)) : Grows view (zoom part put x) := by
  intro s a s' hrun
  obtain ⟨t, ht, rfl⟩ := run_zoom_ok.1 hrun
  exact h t s (hx ht)

end Lib
