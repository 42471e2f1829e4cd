import NcnProgram.Lib.Mut

/-!
# What a failing method leaves behind

A method keeps what it has written when it fails. `stateAfter x s` is the state that `x` leaves in either case, and
`Atomic x` says that a failure leaves the state as it was. A method that only reads before its last step, and
changes the state there at once, is atomic (`ReadOnly`).
-/

namespace Lib
variable {ε σ τ α β : Type}

/-- The state that a method leaves, whether it succeeds or fails. -/
def stateAfter (x : EStateM ε σ α) (s : σ) : σ :=
  match x.run s with
  | .ok _ s' => s'
  | .error _ s' => s'

/-- That of a success. -/
lemma stateAfter_of_ok {x : EStateM ε σ α} {s s' : σ} {a : α} (h : x.run s = .ok a s') : stateAfter x s = s' := by
  simp only [stateAfter, h]

/-- That of a failure. -/
lemma stateAfter_of_error {x : EStateM ε σ α} {s s' : σ} {e : ε} (h : x.run s = .error e s') :
    stateAfter x s = s' := by
  simp only [stateAfter, h]

/-- A method succeeded with the state it left, or failed with it. -/
lemma stateAfter_cases (x : EStateM ε σ α) (s : σ) :
    (∃ a, x.run s = .ok a (stateAfter x s)) ∨ ∃ e, x.run s = .error e (stateAfter x s) := by
  cases h : x.run s with
  | ok a s' => exact .inl ⟨a, by rw [stateAfter_of_ok h]⟩
  | error e s' => exact .inr ⟨e, by rw [stateAfter_of_error h]⟩

/-- The method changes nothing. -/
def ReadOnly (x : EStateM ε σ α) : Prop := ∀ s, stateAfter x s = s

/-- The method changes nothing when it fails. -/
def Atomic (x : EStateM ε σ α) : Prop := ∀ ⦃s e s'⦄, x.run s = .error e s' → s' = s

/-- An atomic method leaves what it was given, or succeeds. -/
lemma Atomic.stateAfter_cases {x : EStateM ε σ α} (h : Atomic x) (s : σ) :
    stateAfter x s = s ∨ ∃ a, x.run s = .ok a (stateAfter x s) := by
  rcases Lib.stateAfter_cases x s with hok | ⟨e, herror⟩
  · exact .inr hok
  · exact .inl (h herror)

namespace ReadOnly

/-- Reading the state changes nothing. -/
lemma get : ReadOnly (MonadState.get : EStateM ε σ σ) := fun _ => rfl

/-- Returning changes nothing. -/
lemma pure (a : α) : ReadOnly (Pure.pure a : EStateM ε σ α) := fun _ => rfl

/-- Raising an error changes nothing. -/
lemma throw (e : ε) : ReadOnly (MonadExcept.throw e : EStateM ε σ α) := fun _ => rfl

/-- A check changes nothing. -/
lemma ensure (c : Prop) [Decidable c] (e : ε) : ReadOnly (Lib.ensure c e : EStateM ε σ Unit) := by
  unfold Lib.ensure
  split
  · exact .pure ()
  · exact .throw e

/-- Taking a value that may be missing changes nothing. -/
lemma okOr (o : Option α) (e : ε) : ReadOnly (Lib.okOr o e : EStateM ε σ α) := by
  cases o with
  | none => exact .throw e
  | some a => exact .pure a

/-- A computation without a state changes nothing. -/
lemma ofExcept (x : Except ε α) : ReadOnly (MonadExcept.ofExcept x : EStateM ε σ α) := by
  cases x with
  | error e => exact .throw e
  | ok a => exact .pure a

/-- What changes nothing changes nothing when it fails. -/
lemma atomic {x : EStateM ε σ α} (h : ReadOnly x) : Atomic x := by
  intro s e s' hrun
  rw [← stateAfter_of_error hrun]
  exact h s

end ReadOnly

namespace Atomic

/-- A change of the state does not fail. -/
lemma modify (f : σ → σ) : Atomic (modify f : EStateM ε σ PUnit) := by
  intro s e s' h
  cases h

/-- Writing the state does not fail. -/
lemma set (s : σ) : Atomic (MonadStateOf.set s : EStateM ε σ PUnit) := by
  intro s e s' h
  cases h

/-- Reading first. -/
lemma bind {x : EStateM ε σ α} {f : α → EStateM ε σ β} (hx : ReadOnly x) (hf : ∀ a, Atomic (f a)) :
    Atomic (x >>= f) := by
  intro s e s₂ h
  rcases run_bind_error.1 h with h | ⟨a, s₁, h₁, h₂⟩
  · exact hx.atomic h
  · have hs₁ : s₁ = s := (stateAfter_of_ok h₁).symm.trans (hx s)
    exact (hf a h₂).trans hs₁

/-- A choice between atomic methods. -/
lemma ite {c : Prop} [Decidable c] {x y : EStateM ε σ α} (hx : Atomic x) (hy : Atomic y) :
    Atomic (if c then x else y) := by
  split
  · exact hx
  · exact hy

end Atomic
end Lib
