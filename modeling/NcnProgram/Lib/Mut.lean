import Mathlib.Tactic.Common

/-!
# Fallible mutation

A method `fn f(&mut self, ..) -> Result<A, E>` is an `EStateM E σ A`: it runs on the state it
borrows and ends with a value or an error, and in both cases with whatever it has written so far.
This module collects what proofs about such methods need: the inversion of a successful sequence
(`run_bind_ok`), the two guards every method is made of (`okOr`, `ensure`), read-only methods
(`ofExcept`), running a method on one part of a larger state (`zoom`), and the outcome of a
transaction, which keeps the state of a success and drops the state of a failure (`commit`).
-/

namespace Lib
variable {ε σ τ α β : Type}

/-- A sequence succeeds exactly when its first part does and the rest succeeds from there. -/
lemma run_bind_ok {x : EStateM ε σ α} {f : α → EStateM ε σ β} {s s₂ : σ} {b : β} :
    (x >>= f).run s = .ok b s₂ ↔ ∃ a s₁, x.run s = .ok a s₁ ∧ (f a).run s₁ = .ok b s₂ := by
  rw [EStateM.run_bind]
  cases x.run s <;> simp

/-- A sequence fails exactly when its first part does or the rest does from there. -/
lemma run_bind_error {x : EStateM ε σ α} {f : α → EStateM ε σ β} {s s₂ : σ} {e : ε} :
    (x >>= f).run s = .error e s₂ ↔
      x.run s = .error e s₂ ∨ ∃ a s₁, x.run s = .ok a s₁ ∧ (f a).run s₁ = .error e s₂ := by
  rw [EStateM.run_bind]
  cases x.run s <;> simp

/-- A sequence of read-only computations succeeds exactly when both parts do. -/
lemma bind_ok {x : Except ε α} {f : α → Except ε β} {b : β} :
    (x >>= f) = .ok b ↔ ∃ a, x = .ok a ∧ f a = .ok b := by
  cases x <;> simp [bind, Except.bind]

/-- Throwing never succeeds. -/
@[simp] lemma run_throw_ne_ok {e : ε} {s s' : σ} {a : α} :
    ((throw e : EStateM ε σ α).run s = .ok a s') ↔ False := by
  constructor
  · intro h; cases h
  · exact False.elim

/-- `Option::ok_or(e)?`, in any method that can fail. -/
def okOr {m : Type → Type} [Monad m] [MonadExcept ε m] (o : Option α) (e : ε) : m α :=
  match o with
  | some a => pure a
  | none => throw e

/-- A value that is there is returned. -/
@[simp] lemma okOr_some {m : Type → Type} [Monad m] [MonadExcept ε m] (a : α) (e : ε) :
    (okOr (some a) e : m α) = pure a := rfl

/-- One that is missing is the error. -/
@[simp] lemma okOr_none {m : Type → Type} [Monad m] [MonadExcept ε m] (e : ε) :
    (okOr (none : Option α) e : m α) = throw e := rfl

/-- So it succeeds exactly with the value, and changes nothing. -/
lemma run_okOr_ok {o : Option α} {e : ε} {s s' : σ} {a : α} :
    (okOr o e : EStateM ε σ α).run s = .ok a s' ↔ o = some a ∧ s = s' := by
  cases o with
  | none => simp
  | some b =>
    rw [okOr_some, EStateM.run_pure]
    constructor
    · intro h; cases h; exact ⟨rfl, rfl⟩
    · rintro ⟨h, rfl⟩; cases h; rfl

/-- It fails with no other error. -/
lemma run_okOr_error {o : Option α} {e e' : ε} {s s' : σ}
    (h : (okOr o e : EStateM ε σ α).run s = .error e' s') : e' = e := by
  cases o <;> cases h
  rfl

/-- `if !c { return Err(e) }`. -/
def ensure (c : Prop) [Decidable c] (e : ε) : EStateM ε σ Unit :=
  if c then pure () else throw e

/-- A condition that holds is passed. -/
lemma ensure_pos {c : Prop} [Decidable c] (h : c) (e : ε) :
    (ensure c e : EStateM ε σ Unit) = pure () := if_pos h

/-- One that does not hold is the error. -/
lemma ensure_neg {c : Prop} [Decidable c] (h : ¬c) (e : ε) :
    (ensure c e : EStateM ε σ Unit) = throw e := if_neg h

/-- So a check succeeds exactly if the condition holds, and changes nothing. -/
lemma run_ensure_ok {c : Prop} [Decidable c] {e : ε} {s s' : σ} {u : Unit} :
    (ensure c e : EStateM ε σ Unit).run s = .ok u s' ↔ c ∧ s = s' := by
  by_cases h : c
  · rw [ensure_pos h, EStateM.run_pure]
    constructor
    · intro h'; cases h'; exact ⟨h, rfl⟩
    · rintro ⟨_, rfl⟩; rfl
  · rw [ensure_neg h]
    simp [h]

/-- It fails with no other error. -/
lemma run_ensure_error {c : Prop} [Decidable c] {e e' : ε} {s s' : σ}
    (h : (ensure c e : EStateM ε σ Unit).run s = .error e' s') : e' = e := by
  by_cases hc : c
  · rw [ensure_pos hc] at h; cases h
  · rw [ensure_neg hc] at h; cases h; rfl

/-- A result is returned. -/
@[simp] lemma ofExcept_ok (a : α) : (ofExcept (.ok a : Except ε α) : EStateM ε σ α) = pure a := rfl

/-- An error is raised. -/
@[simp] lemma ofExcept_error (e : ε) :
    (ofExcept (.error e : Except ε α) : EStateM ε σ α) = throw e := rfl

/-- A read-only method called through `&mut self`. -/
lemma run_ofExcept_ok {x : Except ε α} {s s' : σ} {a : α} :
    (ofExcept x : EStateM ε σ α).run s = .ok a s' ↔ x = .ok a ∧ s = s' := by
  cases x with
  | error e => simp
  | ok b =>
    rw [ofExcept_ok, EStateM.run_pure]
    constructor
    · intro h; cases h; exact ⟨rfl, rfl⟩
    · rintro ⟨h, rfl⟩; cases h; rfl

/-- So it fails with the error of the computation. -/
lemma run_ofExcept_error {x : Except ε α} {s s' : σ} {e : ε}
    (h : (ofExcept x : EStateM ε σ α).run s = .error e s') : x = .error e := by
  cases x <;> cases h
  rfl

/-- Runs a method of a part `τ` on the whole `σ` it is a part of. -/
def zoom (part : σ → τ) (put : τ → σ → σ) (x : EStateM ε τ α) : EStateM ε σ α := fun s =>
  match x.run (part s) with
  | .ok a t => .ok a (put t s)
  | .error e t => .error e (put t s)

/-- A method on a part is run on that part, which is put back also when it fails. -/
lemma run_zoom (part : σ → τ) (put : τ → σ → σ) (x : EStateM ε τ α) (s : σ) :
    (zoom part put x).run s = match x.run (part s) with
      | .ok a t => .ok a (put t s)
      | .error e t => .error e (put t s) := rfl

/-- It succeeds exactly if it does on the part. -/
lemma run_zoom_ok {part : σ → τ} {put : τ → σ → σ} {x : EStateM ε τ α} {s s' : σ} {a : α} :
    (zoom part put x).run s = .ok a s' ↔ ∃ t, x.run (part s) = .ok a t ∧ s' = put t s := by
  rw [run_zoom]
  cases x.run (part s) with
  | ok b t =>
    constructor
    · intro h; cases h; exact ⟨t, rfl, rfl⟩
    · rintro ⟨t', h, rfl⟩; cases h; rfl
  | error e t =>
    constructor
    · intro h; cases h
    · rintro ⟨t', h, _⟩; cases h

/-- If it fails, it fails on the part. -/
lemma run_zoom_error {part : σ → τ} {put : τ → σ → σ} {x : EStateM ε τ α} {s s' : σ} {e : ε}
    (h : (zoom part put x).run s = .error e s') : ∃ t, x.run (part s) = .error e t := by
  rw [run_zoom] at h
  cases hx : x.run (part s) with
  | ok a t => rw [hx] at h; cases h
  | error e' t => rw [hx] at h; cases h; exact ⟨t, rfl⟩

/-- The state after a transaction: the final state of a success, the initial state of a failure. -/
def commit (x : EStateM ε σ α) (s : σ) : σ :=
  match x.run s with
  | .ok _ s' => s'
  | .error _ _ => s

/-- After a success it is the final state. -/
lemma commit_of_ok {x : EStateM ε σ α} {s s' : σ} {a : α} (h : x.run s = .ok a s') :
    commit x s = s' := by
  simp only [commit, h]

/-- After a failure it is the initial state. -/
lemma commit_of_error {x : EStateM ε σ α} {s s' : σ} {e : ε} (h : x.run s = .error e s') :
    commit x s = s := by
  simp only [commit, h]

/-- A transaction succeeded with the state it left, or left the state alone. -/
lemma commit_cases (x : EStateM ε σ α) (s : σ) :
    commit x s = s ∨ ∃ a, x.run s = .ok a (commit x s) := by
  cases h : x.run s with
  | ok a s' => exact .inr ⟨a, by rw [commit_of_ok h]⟩
  | error e s' => exact .inl (commit_of_error h)

/-- The transaction succeeds. -/
def Succeeds (x : EStateM ε σ α) (s : σ) : Prop := ∃ a s', x.run s = .ok a s'

/-- A success leads to the state after it. -/
lemma Succeeds.run_eq {x : EStateM ε σ Unit} {s : σ} (h : Succeeds x s) :
    x.run s = .ok () (commit x s) := by
  obtain ⟨_, s', h⟩ := h
  rw [commit_of_ok h, h]

/-- A sequence succeeds if its first part does and the rest succeeds from there. -/
lemma Succeeds.bind {x : EStateM ε σ α} {f : α → EStateM ε σ β} {s s₁ : σ} {a : α} (hx : x.run s = .ok a s₁)
    (hf : Succeeds (f a) s₁) : Succeeds (x >>= f) s := by
  obtain ⟨b, s₂, hf⟩ := hf
  exact ⟨b, s₂, run_bind_ok.2 ⟨a, s₁, hx, hf⟩⟩

/-- A method of a part succeeds on the whole if it does on the part. -/
lemma Succeeds.zoom {part : σ → τ} {put : τ → σ → σ} {x : EStateM ε τ α} {s : σ} (hx : Succeeds x (part s)) :
    Succeeds (Lib.zoom part put x) s := by
  obtain ⟨a, t, hx⟩ := hx
  exact ⟨a, put t s, run_zoom_ok.2 ⟨t, hx, rfl⟩⟩

/-- Running the method decides it. -/
instance (x : EStateM ε σ α) (s : σ) : Decidable (Succeeds x s) :=
  match h : x.run s with
  | .ok a s' => isTrue ⟨a, s', h⟩
  | .error _ _ => isFalse (by rintro ⟨a, s', h'⟩; rw [h] at h'; cases h')

/-- The transaction fails with this error. -/
def FailsWith (x : EStateM ε σ α) (s : σ) (e : ε) : Prop := ∃ s', x.run s = .error e s'

/-- A failure leaves the state as it was. -/
lemma FailsWith.commit_eq {x : EStateM ε σ α} {s : σ} {e : ε} (h : FailsWith x s e) : commit x s = s := by
  obtain ⟨s', h⟩ := h
  exact commit_of_error h

/-- A sequence whose first part fails does. -/
lemma FailsWith.bind {x : EStateM ε σ α} {s : σ} {e : ε} (h : FailsWith x s e) (f : α → EStateM ε σ β) :
    FailsWith (x >>= f) s e := by
  obtain ⟨s', h⟩ := h
  exact ⟨s', run_bind_error.2 (.inl h)⟩

/-- So does one whose rest fails from where its first part leads to. -/
lemma FailsWith.bind_ok {x : EStateM ε σ α} {f : α → EStateM ε σ β} {s s₁ : σ} {a : α} {e : ε}
    (hx : x.run s = .ok a s₁) (hf : FailsWith (f a) s₁ e) : FailsWith (x >>= f) s e := by
  obtain ⟨s₂, hf⟩ := hf
  exact ⟨s₂, run_bind_error.2 (.inr ⟨a, s₁, hx, hf⟩)⟩

/-- A method of a part fails on the whole if it does on the part. -/
lemma FailsWith.zoom {part : σ → τ} {put : τ → σ → σ} {x : EStateM ε τ α} {s : σ} {e : ε}
    (hx : FailsWith x (part s) e) : FailsWith (Lib.zoom part put x) s e := by
  obtain ⟨t, hx⟩ := hx
  exact ⟨put t s, by rw [run_zoom, hx]⟩

/-- Running the method decides it. -/
instance [DecidableEq ε] (x : EStateM ε σ α) (s : σ) (e : ε) : Decidable (FailsWith x s e) :=
  match h : x.run s with
  | .ok _ _ => isFalse (by rintro ⟨s', h'⟩; rw [h] at h'; cases h')
  | .error e' s' =>
    if he : e' = e then isTrue ⟨s', by rw [h, he]⟩
    else isFalse (by rintro ⟨s'', h'⟩; rw [h] at h'; cases h'; exact he rfl)

/-- The transaction succeeds with this value. -/
def Returns (x : EStateM ε σ α) (s : σ) (a : α) : Prop := ∃ s', x.run s = .ok a s'

/-- It leads to the state after it, with the value. -/
lemma Returns.run_eq {x : EStateM ε σ α} {s : σ} {a : α} (h : Returns x s a) :
    x.run s = .ok a (commit x s) := by
  obtain ⟨s', h⟩ := h
  rw [commit_of_ok h, h]

/-- Running the method decides it. -/
instance [DecidableEq α] (x : EStateM ε σ α) (s : σ) (a : α) : Decidable (Returns x s a) :=
  match h : x.run s with
  | .ok b s' =>
    if hb : b = a then isTrue ⟨s', by rw [h, hb]⟩
    else isFalse (by rintro ⟨s'', h'⟩; rw [h] at h'; cases h'; exact hb rfl)
  | .error _ _ => isFalse (by rintro ⟨s', h'⟩; rw [h] at h'; cases h')

end Lib
