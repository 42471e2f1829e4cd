import NcnProgram.Lib.Mut
import Mathlib.Logic.Relation

/-!
# Runs of a transition system

`Run step s s'` is a finite run of single steps. An invariant is a predicate that one step keeps; the
rules below carry it over whole runs, and carry a relation to the starting state along with it. The steps can
be those of a program that runs a list of instructions.
-/

namespace Lib
variable {σ : Type} {step : σ → σ → Prop} {s s' : σ}

/-- A finite run from one state to another. -/
abbrev Run (step : σ → σ → Prop) : σ → σ → Prop := Relation.ReflTransGen step

/-- A run of steps is a run of any steps they are. -/
lemma Run.mono {step' : σ → σ → Prop} (h : Run step s s') (hstep : ∀ s s', step s s' → step' s s') :
    Run step' s s' :=
  Relation.ReflTransGen.mono hstep s s' h

/-- What every step keeps, every run keeps. -/
lemma Run.invariant {I : σ → Prop} (h : Run step s s') (hI : I s)
    (hstep : ∀ s s', step s s' → I s → I s') : I s' := by
  induction h with
  | refl => exact hI
  | tail _ st ih => exact hstep _ _ st ih

/-- A reflexive and transitive relation that every step satisfies from states of an invariant relates
the two ends of a run. -/
lemma Run.relates {I : σ → Prop} {R : σ → σ → Prop} (h : Run step s s') (hI : I s)
    (hrefl : ∀ s, R s s) (htrans : ∀ {a b c}, R a b → R b c → R a c)
    (hstep : ∀ s s', step s s' → I s → I s' ∧ R s s') : I s' ∧ R s s' := by
  induction h with
  | refl => exact ⟨hI, hrefl _⟩
  | tail _ st ih =>
    obtain ⟨hI', hR⟩ := hstep _ _ st ih.1
    exact ⟨hI', htrans ih.2 hR⟩

/-- What is there stays there until it is gone for good: if a step that removes it leads to a state where it is
gone, and every step from such a state leads to one. -/
lemma Run.there_or_gone {there gone : σ → Prop} (h : Run step s s') (hs : there s)
    (hthere : ∀ s s', step s s' → there s → there s' ∨ gone s') (hgone : ∀ s s', step s s' → gone s → gone s') :
    there s' ∨ gone s' := by
  refine h.invariant (I := fun s => there s ∨ gone s) (.inl hs) fun s s' st hor => ?_
  cases hor with
  | inl hs => exact hthere s s' st hs
  | inr hs => exact .inr (hgone s s' st hs)

/-- A forward simulation: if every step from related states is matched by a run of the other system, so is every
run. -/
lemma Run.simulates {τ : Type} {step' : τ → τ → Prop} {R : σ → τ → Prop} {t : τ} (h : Run step s s') (ht : R s t)
    (hstep : ∀ s s' t, step s s' → R s t → ∃ t', Run step' t t' ∧ R s' t') : ∃ t', Run step' t t' ∧ R s' t' := by
  induction h with
  | refl => exact ⟨t, .refl, ht⟩
  | tail _ st ih =>
    obtain ⟨t₁, hrun, ht₁⟩ := ih
    obtain ⟨t₂, hrun', ht₂⟩ := hstep _ _ t₁ st ht₁
    exact ⟨t₂, hrun.trans hrun', ht₂⟩

/-- A goal is reached if from every state of the invariant some run reaches it, or reaches a state of the
invariant with a smaller measure. -/
lemma Run.reaches {I goal : σ → Prop} (m : σ → ℕ)
    (h : ∀ s, I s → (∃ s', Run step s s' ∧ goal s') ∨ ∃ s', Run step s s' ∧ I s' ∧ m s' < m s)
    (hs : I s) : ∃ s', Run step s s' ∧ goal s' := by
  induction hm : m s using Nat.strongRecOn generalizing s with
  | _ n ih =>
    rcases h s hs with hgoal | ⟨s₁, hrun, hs₁, hlt⟩
    · exact hgoal
    · obtain ⟨s', hrun', hgoal⟩ := ih (m s₁) (hm ▸ hlt) hs₁ rfl
      exact ⟨s', hrun.trans hrun', hgoal⟩

/-- Calls that are steps from every state, made one after the other, are a run. -/
lemma Run.foldl {ι : Type} {f : σ → ι → σ} (is : List ι) (h : ∀ i ∈ is, ∀ s, step s (f s i)) :
    Run step s (is.foldl f s) := by
  induction is generalizing s with
  | nil => exact .refl
  | cons i is ih =>
    exact .head (h i List.mem_cons_self s) (ih fun j hj => h j (List.mem_cons_of_mem _ hj))

/-- Instructions that succeed one after the other are a run. -/
lemma Run.of_forM {ε ι : Type} {exec : ι → EStateM ε σ Unit} (is : List ι)
    (h : (is.forM exec).run s = .ok () s') : Run (fun s s' => ∃ i, (exec i).run s = .ok () s') s s' := by
  induction is generalizing s with
  | nil => cases h; exact .refl
  | cons i is ih =>
    obtain ⟨_, s₁, hi, his⟩ := run_bind_ok.1 h
    exact .head ⟨i, hi⟩ (ih his)

/-- A relation between the instructions so far and the state, kept by one instruction more, holds after every
list of instructions that succeed. -/
lemma forM_invariant {ε ι : Type} {exec : ι → EStateM ε σ Unit} {J : List ι → σ → Prop}
    (hstep : ∀ is i s s', J is s → (exec i).run s = .ok () s' → J (is ++ [i]) s') (hs : J [] s)
    {is : List ι} (h : (is.forM exec).run s = .ok () s') : J is s' := by
  have hgen : ∀ past s, J past s → (is.forM exec).run s = .ok () s' → J (past ++ is) s' := by
    clear h hs
    induction is with
    | nil => intro past s hs h; cases h; rwa [List.append_nil]
    | cons i is ih =>
      intro past s hs h
      obtain ⟨_, s₁, hi, his⟩ := run_bind_ok.1 h
      rw [List.append_cons]
      exact ih _ _ (hstep past i s s₁ hs hi) his
  exact hgen [] s hs h

/-- If the instructions that are kept do the same from related states, and the others keep the relation, a list of
instructions can be run without the others. -/
lemma forM_filter {ε ι : Type} {exec : ι → EStateM ε σ Unit} {R : σ → σ → Prop} {keep : ι → Bool} {is : List ι}
    (hkeep : ∀ i ∈ is, keep i = true → ∀ s s' t, (exec i).run s = .ok () s' → R s t →
      ∃ t', (exec i).run t = .ok () t' ∧ R s' t')
    (hdrop : ∀ i ∈ is, keep i = false → ∀ s s' t, (exec i).run s = .ok () s' → R s t → R s' t)
    (h : (is.forM exec).run s = .ok () s') {t : σ} (ht : R s t) :
    ∃ t', ((is.filter keep).forM exec).run t = .ok () t' ∧ R s' t' := by
  induction is generalizing s t with
  | nil => cases h; exact ⟨t, rfl, ht⟩
  | cons i is ih =>
    obtain ⟨_, s₁, hi, his⟩ := run_bind_ok.1 h
    have ih := fun {t} => ih (fun j hj => hkeep j (List.mem_cons_of_mem _ hj))
      (fun j hj => hdrop j (List.mem_cons_of_mem _ hj)) his (t := t)
    cases hk : keep i with
    | true =>
      obtain ⟨t₁, hi', ht₁⟩ := hkeep i List.mem_cons_self hk s s₁ t hi ht
      obtain ⟨t', his', ht'⟩ := ih ht₁
      rw [List.filter_cons_of_pos hk]
      exact ⟨t', run_bind_ok.2 ⟨(), t₁, hi', his'⟩, ht'⟩
    | false =>
      rw [List.filter_cons_of_neg (by rw [hk]; decide)]
      exact ih (hdrop i List.mem_cons_self hk s s₁ t hi ht)

end Lib
