import NcnProgram.Lib.Atomic
import NcnProgram.Lib.Chunked
import NcnProgram.Lib.Run

/-!
# Errors that a method does not raise

`Avoids e x` says that the method `x` never fails with the error `e`, whatever the state. The rules follow the
way methods are put together, so that it is read off the errors in the text of the method. `Upholds I e x` says the
same for the states of an invariant, which `x` keeps even if it fails; its rules hand on what the method has checked
or read.
-/

namespace Lib
variable {ε σ τ α β : Type} {e : ε}

/-- The method never fails with the error. -/
def Avoids (e : ε) (x : EStateM ε σ α) : Prop := ∀ s, ¬FailsWith x s e

/-- A read-only sequence does not fail with an error that its parts do not. -/
lemma bind_ne_error {x : Except ε α} {f : α → Except ε β} (hx : x ≠ .error e) (hf : ∀ a, f a ≠ .error e) :
    (x >>= f) ≠ .error e := by
  cases x with
  | error e' => exact fun h => hx (congrArg Except.error (Except.error.inj h))
  | ok a => exact hf a

/-- A value that is missing is the error that is named. -/
lemma okOr_ne_error {o : Option α} {e' : ε} (h : e' ≠ e) : (okOr o e' : Except ε α) ≠ .error e := by
  cases o with
  | none => exact fun h' => h (Except.error.inj h')
  | some a => exact fun h' => by cases h'

namespace Avoids

/-- Returning does not fail, -/
lemma pure (a : α) : Avoids e (Pure.pure a : EStateM ε σ α) := by
  rintro s ⟨s', h⟩
  cases h

/-- nor does reading the state, -/
lemma get : Avoids e (MonadState.get : EStateM ε σ σ) := by
  rintro s ⟨s', h⟩
  cases h

/-- nor writing it, -/
lemma set (t : σ) : Avoids e (MonadStateOf.set t : EStateM ε σ PUnit) := by
  rintro s ⟨s', h⟩
  cases h

/-- nor changing it. -/
lemma modify (f : σ → σ) : Avoids e (modify f : EStateM ε σ PUnit) := by
  rintro s ⟨s', h⟩
  cases h

/-- An error that is raised is no other one. -/
lemma throw {e' : ε} (h : e' ≠ e) : Avoids e (MonadExcept.throw e' : EStateM ε σ α) := by
  rintro s ⟨s', hrun⟩
  cases hrun
  exact h rfl

/-- A check whose condition holds cannot fail. -/
lemma ensure {c : Prop} [Decidable c] {e' : ε} (h : c ∨ e' ≠ e) :
    Avoids e (Lib.ensure c e' : EStateM ε σ Unit) := by
  by_cases hc : c
  · rw [ensure_pos hc]
    exact .pure ()
  · rw [ensure_neg hc]
    exact .throw (h.resolve_left hc)

/-- So it is in a method. -/
lemma okOr (o : Option α) {e' : ε} (h : e' ≠ e) : Avoids e (Lib.okOr o e' : EStateM ε σ α) := by
  rintro s ⟨s', hrun⟩
  exact h (run_okOr_error hrun).symm

/-- A computation fails with its own error. -/
lemma ofExcept {x : Except ε α} (h : x ≠ .error e) : Avoids e (MonadExcept.ofExcept x : EStateM ε σ α) := by
  rintro s ⟨s', hrun⟩
  exact h (run_ofExcept_error hrun)

/-- A sequence does not fail with an error that its parts do not. -/
lemma bind {x : EStateM ε σ α} {f : α → EStateM ε σ β} (hx : Avoids e x) (hf : ∀ a, Avoids e (f a)) :
    Avoids e (x >>= f) := by
  rintro s ⟨s₂, h⟩
  rcases run_bind_error.1 h with h | ⟨a, s₁, _, h⟩
  · exact hx s ⟨s₂, h⟩
  · exact hf a s₁ ⟨s₂, h⟩

/-- What is looked up is there from then on. -/
lemma okOr_bind {o : Option α} {e' : ε} {f : α → EStateM ε σ β} (he : e' ≠ e)
    (hf : ∀ a, o = some a → Avoids e (f a)) : Avoids e (Lib.okOr o e' >>= f) := by
  cases o with
  | none =>
    rintro s ⟨s', hrun⟩
    cases hrun
    exact he rfl
  | some a => exact hf a rfl

/-- A choice fails as the branches do. -/
lemma ite {c : Prop} [Decidable c] {x y : EStateM ε σ α} (hx : Avoids e x) (hy : Avoids e y) :
    Avoids e (if c then x else y) := by
  split
  · exact hx
  · exact hy

/-- A method of a part fails with what it fails with on the part. -/
lemma zoom {part : σ → τ} {put : τ → σ → σ} {x : EStateM ε τ α} (hx : Avoids e x) :
    Avoids e (Lib.zoom part put x) := by
  rintro s ⟨s', h⟩
  obtain ⟨t, ht⟩ := run_zoom_error h
  exact hx _ ⟨t, ht⟩

/-- A loop in chunks fails when its body does, or its counter. -/
lemma chunked {applies : α → Bool} {body : α → EStateM ε σ Unit} {save : ℕ → σ → σ} {overflow : ε}
    (hbody : ∀ x, Avoids e (body x)) (hoverflow : overflow ≠ e) (limit n i : ℕ) (xs : List α) :
    Avoids e (chunked applies body save overflow limit n i xs) := by
  induction xs generalizing n i with
  | nil => exact .pure true
  | cons x xs ih =>
    unfold Lib.chunked
    split
    · refine .bind (.okOr _ hoverflow) fun n => ?_
      split
      · exact .bind (.modify _) fun _ => .pure false
      · exact .bind (hbody x) fun _ => ih _ _
    · exact ih _ _

end Avoids

/-- A sequence does not fail from a state if its rest does not from the states that its first part leads to. -/
lemma not_failsWith_bind {x : EStateM ε σ α} {f : α → EStateM ε σ β} {s : σ} (hx : Avoids e x)
    (hf : ∀ a s', x.run s = .ok a s' → ¬FailsWith (f a) s' e) : ¬FailsWith (x >>= f) s e := by
  rintro ⟨s₂, h⟩
  rcases run_bind_error.1 h with h | ⟨a, s₁, h₁, h⟩
  · exact hx s ⟨s₂, h⟩
  · exact hf a s₁ h₁ ⟨s₂, h⟩

/-- From a state of the invariant the method does not fail with the error, and it leaves a state of the invariant,
whether it succeeds or fails with another one. -/
def Upholds (I : σ → Prop) (e : ε) (x : EStateM ε σ α) : Prop := ∀ s, I s → ¬FailsWith x s e ∧ I (stateAfter x s)

namespace Upholds
variable {I : σ → Prop}

/-- What ends in a state of the invariant with a value. -/
lemma of_ok {x : EStateM ε σ α} {s s' : σ} {a : α} (hrun : x.run s = .ok a s') (h : I s') :
    ¬FailsWith x s e ∧ I (stateAfter x s) := by
  constructor
  · rintro ⟨s'', herror⟩
    rw [hrun] at herror
    cases herror
  · rwa [stateAfter_of_ok hrun]

/-- What ends in a state of the invariant with another error. -/
lemma of_error {x : EStateM ε σ α} {s s' : σ} {e' : ε} (hrun : x.run s = .error e' s') (he : e' ≠ e) (h : I s') :
    ¬FailsWith x s e ∧ I (stateAfter x s) := by
  constructor
  · rintro ⟨s'', herror⟩
    rw [hrun] at herror
    cases herror
    exact he rfl
  · rwa [stateAfter_of_error hrun]

/-- Returning upholds every invariant. -/
lemma pure (a : α) : Upholds I e (Pure.pure a : EStateM ε σ α) := fun _ hs => of_ok rfl hs

/-- A state of the invariant may be written. -/
lemma set {t : σ} (h : I t) : Upholds I e (MonadStateOf.set t : EStateM ε σ PUnit) := fun _ _ => of_ok rfl h

/-- A change that keeps the invariant upholds it. -/
lemma modify {f : σ → σ} (h : ∀ s, I s → I (f s)) : Upholds I e (modify f : EStateM ε σ PUnit) :=
  fun s hs => of_ok rfl (h s hs)

/-- A sequence upholds what its parts uphold. -/
lemma bind {x : EStateM ε σ α} {f : α → EStateM ε σ β} (hx : Upholds I e x) (hf : ∀ a, Upholds I e (f a)) :
    Upholds I e (x >>= f) := by
  intro s hs
  obtain ⟨hxe, hxI⟩ := hx s hs
  rcases stateAfter_cases x s with ⟨a, hrun⟩ | ⟨e', hrun⟩
  · obtain ⟨hfe, hfI⟩ := hf a _ hxI
    have hrest : (x >>= f).run s = (f a).run (stateAfter x s) := by rw [EStateM.run_bind, hrun]
    constructor
    · rintro ⟨s', herror⟩
      exact hfe ⟨s', hrest ▸ herror⟩
    · rw [stateAfter, hrest]
      exact hfI
  · refine of_error (run_bind_error.2 (.inl hrun)) ?_ hxI
    rintro rfl
    exact hxe ⟨_, hrun⟩

/-- A choice upholds what its branches do, each where it is taken. -/
lemma ite {c : Prop} [Decidable c] {x y : EStateM ε σ α} (hx : c → Upholds I e x) (hy : ¬c → Upholds I e y) :
    Upholds I e (if c then x else y) := by
  split
  · exact hx ‹_›
  · exact hy ‹_›

/-- A state that is read satisfies the invariant. -/
lemma get_bind {f : σ → EStateM ε σ β} (hf : ∀ s, I s → Upholds I e (f s)) :
    Upholds I e (MonadState.get >>= f) :=
  fun s hs => hf s hs s hs

/-- Nothing comes after an error. -/
lemma throw_bind {e' : ε} (h : e' ≠ e) (f : α → EStateM ε σ β) :
    Upholds I e ((MonadExcept.throw e' : EStateM ε σ α) >>= f) :=
  fun _ hs => of_error rfl h hs

/-- What is found is there from then on, -/
lemma okOr_bind {o : Option α} {e' : ε} {f : α → EStateM ε σ β} (he : e' ≠ e)
    (hf : ∀ a, o = some a → Upholds I e (f a)) : Upholds I e (Lib.okOr o e' >>= f) := by
  cases o with
  | none => exact .throw_bind he f
  | some a => exact hf a rfl

/-- and what is computed. -/
lemma ofExcept_bind {x : Except ε α} {f : α → EStateM ε σ β} (he : x ≠ .error e)
    (hf : ∀ a, x = .ok a → Upholds I e (f a)) : Upholds I e (MonadExcept.ofExcept x >>= f) := by
  cases x with
  | error e' => exact .throw_bind (fun h => he (congrArg _ h)) f
  | ok a => exact hf a rfl

/-- A method of a part upholds on the whole what it upholds on the part. -/
lemma zoom {part : σ → τ} {put : τ → σ → σ} {x : EStateM ε τ α} {J : τ → Prop} (hx : Upholds J e x)
    (hpart : ∀ s, I s → J (part s)) (hput : ∀ t s, I s → J t → I (put t s)) :
    Upholds I e (Lib.zoom part put x) := by
  intro s hs
  obtain ⟨hxe, hxJ⟩ := hx (part s) (hpart s hs)
  rcases stateAfter_cases x (part s) with ⟨a, hrun⟩ | ⟨e', hrun⟩
  · exact of_ok (run_zoom_ok.2 ⟨_, hrun, rfl⟩) (hput _ s hs hxJ)
  · have hzoom : (Lib.zoom part put x).run s = .error e' (put (stateAfter x (part s)) s) := by rw [run_zoom, hrun]
    refine of_error hzoom ?_ (hput _ s hs hxJ)
    rintro rfl
    exact hxe ⟨_, hrun⟩

/-- So does a loop in chunks what its body and its checkpoint uphold. -/
lemma chunked {applies : α → Bool} {body : α → EStateM ε σ Unit} {save : ℕ → σ → σ} {overflow : ε} {xs : List α}
    (hbody : ∀ x ∈ xs, applies x = true → Upholds I e (body x)) (hsave : ∀ i s, I s → I (save i s))
    (hoverflow : overflow ≠ e) (limit n i : ℕ) :
    Upholds I e (Lib.chunked applies body save overflow limit n i xs) := by
  induction xs generalizing n i with
  | nil => exact .pure true
  | cons x xs ih =>
    have hrest := fun n i => ih (fun y hy => hbody y (List.mem_cons_of_mem _ hy)) n i
    unfold Lib.chunked
    split
    · rename_i happlies
      refine .okOr_bind hoverflow fun n _ => .ite (fun _ => ?_) fun _ => ?_
      · exact .bind (.modify (hsave i)) fun _ => .pure false
      · exact .bind (hbody x List.mem_cons_self happlies) fun _ => hrest _ _
    · exact hrest _ _

end Upholds

/-- What every call upholds holds after all calls, successful or not. -/
lemma Upholds.run {I : σ → Prop} {ι : Type} {exec : ι → EStateM ε σ α} (h : ∀ i, Upholds I e (exec i)) {s s' : σ}
    (hrun : Run (fun s s' => ∃ i, s' = stateAfter (exec i) s) s s') (hs : I s) : I s' := by
  refine hrun.invariant hs ?_
  rintro s s' ⟨i, rfl⟩ hs
  exact (h i s hs).2

end Lib
