import Mathlib.Algebra.BigOperators.Group.List.Basic
import Mathlib.Algebra.Ring.Nat
import Mathlib.Data.List.Nodup
import Mathlib.Tactic.Common

/-!
# Tables with a fixed number of slots

A `Table α n` is a Rust array `[α; n]`: a list that carries its length. Programs use such an array as
a growing list, with a default value in the slots not yet taken, and look for the first slot that
satisfies a test. `Table.Holds t d xs` says that the first slots of `t` are the entries `xs` and that all
others are the default `d`; the lemmas below reduce every search and every write of a table to the same
operation on the list of its entries.
-/

namespace Lib

/-- An array of `n` slots. -/
structure Table (α : Type) (n : ℕ) where
  toList : List α
  length_eq : toList.length = n
deriving DecidableEq

namespace Table
variable {α : Type} {n : ℕ}

@[ext] lemma ext {t u : Table α n} (h : t.toList = u.toList) : t = u := by
  cases t; cases u; cases h; rfl

/-- The array with the same value in every slot. -/
def replicate (n : ℕ) (d : α) : Table α n := ⟨List.replicate n d, List.length_replicate⟩

/-- Writes one slot; a write past the end changes nothing. -/
def set (t : Table α n) (i : ℕ) (a : α) : Table α n :=
  ⟨t.toList.set i a, by rw [List.length_set, t.length_eq]⟩

/-- Applies a function to every slot. -/
def map {β : Type} (f : α → β) (t : Table α n) : Table β n :=
  ⟨t.toList.map f, by rw [List.length_map, t.length_eq]⟩

/-- Reads one slot. -/
def get? (t : Table α n) (i : ℕ) : Option α := t.toList[i]?

/-- The first slot that satisfies a test. -/
def findIdx? (t : Table α n) (p : α → Bool) : Option ℕ := t.toList.findIdx? p

/-- The first entry that satisfies a test. -/
def find? (t : Table α n) (p : α → Bool) : Option α := t.toList.find? p

/-- Whether some slot satisfies a test. -/
def any (t : Table α n) (p : α → Bool) : Bool := t.toList.any p

@[simp] lemma toList_set (t : Table α n) (i : ℕ) (a : α) :
    (t.set i a).toList = t.toList.set i a := rfl

lemma get?_eq_none {t : Table α n} {i : ℕ} : t.get? i = none ↔ n ≤ i := by
  rw [get?, List.getElem?_eq_none_iff, t.length_eq]

/-- A slot of the table exists. -/
lemma exists_get? (t : Table α n) {i : ℕ} (h : i < n) : ∃ a, t.get? i = some a :=
  Option.ne_none_iff_exists'.1 fun hn => absurd (get?_eq_none.1 hn) (by omega)

lemma get?_set_self {t : Table α n} {i : ℕ} {a : α} (h : i < n) : (t.set i a).get? i = some a := by
  rw [get?, toList_set, List.getElem?_set_self (t.length_eq.symm ▸ h)]

lemma get?_set_ne {t : Table α n} {i j : ℕ} {a : α} (h : i ≠ j) :
    (t.set i a).get? j = t.get? j := by
  rw [get?, toList_set, List.getElem?_set_ne h, get?]

/-- The last write counts. -/
lemma set_set (t : Table α n) (i : ℕ) (a b : α) : (t.set i a).set i b = t.set i b :=
  ext (List.set_set _)

/-- Writing what a slot holds changes nothing. -/
lemma set_of_get? {t : Table α n} {i : ℕ} {a : α} (h : t.get? i = some a) : t.set i a = t := by
  obtain ⟨hi, rfl⟩ := List.getElem?_eq_some_iff.1 h
  exact ext (List.set_getElem_self hi)

/-- The first slots of `t` are the entries `xs` and all others hold the default `d`. -/
def Holds (t : Table α n) (d : α) (xs : List α) : Prop :=
  t.toList = xs ++ List.replicate (n - xs.length) d

variable {t : Table α n} {d : α} {xs : List α}

lemma holds_replicate (d : α) : (replicate n d).Holds d [] := by simp [Holds, replicate]

lemma Holds.length_le (h : t.Holds d xs) : xs.length ≤ n := by
  have := t.length_eq
  rw [h] at this
  simp only [List.length_append, List.length_replicate] at this
  omega

lemma Holds.get?_lt (h : t.Holds d xs) {i : ℕ} (hi : i < xs.length) : t.get? i = xs[i]? := by
  rw [get?, h, List.getElem?_append_left hi]

lemma Holds.get?_ge (h : t.Holds d xs) {i : ℕ} (hi : xs.length ≤ i) (hn : i < n) :
    t.get? i = some d := by
  rw [get?, h, List.getElem?_append_right hi, List.getElem?_replicate]
  simp only [show i - xs.length < n - xs.length by omega, if_true]

/-- A slot is an entry, or free. -/
lemma Holds.get?_cases (h : t.Holds d xs) {i : ℕ} {a : α} (ha : t.get? i = some a) :
    xs[i]? = some a ∨ (xs.length ≤ i ∧ a = d) := by
  rcases Nat.lt_or_ge i xs.length with hi | hi
  · exact .inl (h.get?_lt hi ▸ ha)
  · have hn : i < n := by
      by_contra hn
      rw [get?_eq_none.2 (Nat.le_of_not_lt hn)] at ha
      cases ha
    rw [h.get?_ge hi hn] at ha
    cases ha
    exact .inr ⟨hi, rfl⟩

/-- Appending an entry writes the first free slot. -/
lemma Holds.append (h : t.Holds d xs) (hn : xs.length < n) (a : α) :
    (t.set xs.length a).Holds d (xs ++ [a]) := by
  obtain ⟨k, hk⟩ : ∃ k, n - xs.length = k + 1 := ⟨n - xs.length - 1, by omega⟩
  have hk' : n - (xs.length + 1) = k := by omega
  unfold Holds at h ⊢
  rw [toList_set, h, hk, List.set_append_right _ _ (Nat.le_refl _), Nat.sub_self, List.replicate_succ,
    List.set_cons_zero, List.length_append, List.length_singleton, hk', List.append_assoc,
    List.singleton_append]

/-- Overwriting an entry. -/
lemma Holds.set (h : t.Holds d xs) {i : ℕ} (hi : i < xs.length) (a : α) :
    (t.set i a).Holds d (xs.set i a) := by
  unfold Holds at h ⊢
  rw [toList_set, h, List.set_append_left _ _ hi, List.length_set]

/-- A test the default fails is a test of the entries. -/
lemma Holds.any_eq (h : t.Holds d xs) {p : α → Bool} (hd : p d = false) : t.any p = xs.any p := by
  rw [any, h, List.any_append]
  simp [hd]

lemma Holds.find?_eq (h : t.Holds d xs) {p : α → Bool} (hd : p d = false) :
    t.find? p = xs.find? p := by
  rw [find?, h, List.find?_append]
  have : (List.replicate (n - xs.length) d).find? p = none := by
    rw [List.find?_eq_none]
    intro x hx
    rw [List.eq_of_mem_replicate hx, hd]
    simp
  rw [this, Option.or_none]

lemma Holds.findIdx?_eq (h : t.Holds d xs) {p : α → Bool} (hd : p d = false) :
    t.findIdx? p = xs.findIdx? p := by
  rw [findIdx?, h, List.findIdx?_append]
  have : (List.replicate (n - xs.length) d).findIdx? p = none := by
    rw [List.findIdx?_eq_none_iff]
    intro x hx
    rw [List.eq_of_mem_replicate hx, hd]
  rw [this, Option.map_none, Option.or_none]

/-- A test only the default passes finds the first free slot, if there is one. -/
lemma Holds.findIdx?_free (h : t.Holds d xs) {p : α → Bool} (hd : p d = true)
    (hx : ∀ x ∈ xs, p x = false) :
    t.findIdx? p = if xs.length < n then some xs.length else none := by
  have hnone : xs.findIdx? p = none := List.findIdx?_eq_none_iff.2 hx
  rw [findIdx?, h, List.findIdx?_append, hnone, Option.none_or]
  split
  · obtain ⟨k, hk⟩ : ∃ k, n - xs.length = k + 1 := ⟨n - xs.length - 1, by omega⟩
    rw [hk, List.replicate_succ, List.findIdx?_cons, hd]
    simp
  · rw [show n - xs.length = 0 by omega]
    rfl

/-- A test an entry passes finds that entry before any free slot. -/
lemma Holds.findIdx?_of_some (h : t.Holds d xs) {p : α → Bool} {i : ℕ}
    (hi : xs.findIdx? p = some i) : t.findIdx? p = some i := by
  rw [findIdx?, h, List.findIdx?_append, hi, Option.some_or]

end Table

/-- `Iterator::max_by_key`: the last entry with the largest key. -/
def maxByKey {α : Type} (key : α → ℕ) : List α → Option α
  | [] => none
  | x :: xs => some (xs.foldl (fun best y => if key y < key best then best else y) x)

/-- The entry `max_by_key` returns is in the list and no key is larger. -/
lemma maxByKey_spec {α : Type} {key : α → ℕ} {xs : List α} {m : α} (h : maxByKey key xs = some m) :
    m ∈ xs ∧ ∀ x ∈ xs, key x ≤ key m := by
  cases xs with
  | nil => cases h
  | cons x xs =>
    simp only [maxByKey, Option.some.injEq] at h
    subst h
    induction xs generalizing x with
    | nil => simp
    | cons y ys ih =>
      rw [List.foldl_cons]
      split
      · obtain ⟨hmem, hle⟩ := ih x
        refine ⟨?_, ?_⟩
        · rcases List.mem_cons.1 hmem with h | h
          · rw [h]; exact List.mem_cons_self
          · exact List.mem_cons_of_mem _ (List.mem_cons_of_mem _ h)
        · have := hle x List.mem_cons_self
          simp only [List.mem_cons, forall_eq_or_imp] at hle ⊢
          exact ⟨hle.1, by omega, hle.2⟩
      · obtain ⟨hmem, hle⟩ := ih y
        refine ⟨List.mem_cons_of_mem _ hmem, ?_⟩
        have := hle y List.mem_cons_self
        simp only [List.mem_cons, forall_eq_or_imp] at hle ⊢
        exact ⟨by omega, hle.1, hle.2⟩

/-- A list with an entry has a largest one. -/
lemma exists_maxByKey {α : Type} (key : α → ℕ) {xs : List α} (h : xs ≠ []) :
    ∃ m, maxByKey key xs = some m := by
  cases xs with
  | nil => exact absurd rfl h
  | cons x xs => exact ⟨_, rfl⟩

/-- Overwriting an entry moves a sum by the difference of the two values. -/
lemma sum_map_set {α : Type} {xs : List α} {i : ℕ} {a b : α} (f : α → ℕ) (h : xs[i]? = some a) :
    ((xs.set i b).map f).sum + f a = (xs.map f).sum + f b := by
  induction xs generalizing i with
  | nil => simp at h
  | cons x xs ih =>
    cases i with
    | zero =>
      rw [List.getElem?_cons_zero] at h
      cases h
      simp only [List.set_cons_zero, List.map_cons, List.sum_cons]
      omega
    | succ i =>
      rw [List.getElem?_cons_succ] at h
      have := ih h
      simp only [List.set_cons_succ, List.map_cons, List.sum_cons]
      omega

/-- Overwriting an entry does not change what the new one has in common with the old. -/
lemma map_set_of_eq {α β : Type} {xs : List α} {i : ℕ} {a b : α} {f : α → β} (h : xs[i]? = some a)
    (hf : f b = f a) : (xs.set i b).map f = xs.map f := by
  obtain ⟨hi, rfl⟩ := List.getElem?_eq_some_iff.1 h
  have hi' : i < (xs.map f).length := by rwa [List.length_map]
  rw [List.map_set, hf, ← List.getElem_map (h := hi') f, List.set_getElem_self]

/-- The first entry that passes a test is at the index the search returns. -/
lemma exists_of_findIdx? {α : Type} {xs : List α} {p : α → Bool} {i : ℕ}
    (h : xs.findIdx? p = some i) : ∃ a, xs[i]? = some a ∧ p a = true ∧ i < xs.length := by
  obtain ⟨hi, hp, _⟩ := List.findIdx?_eq_some_iff_getElem.1 h
  exact ⟨xs[i], List.getElem?_eq_getElem hi, hp, hi⟩

/-- What all entries and one more satisfy. -/
lemma forall_mem_append_singleton {α : Type} {xs : List α} {a : α} {P : α → Prop} (hxs : ∀ x ∈ xs, P x)
    (ha : P a) : ∀ x ∈ xs ++ [a], P x :=
  List.forall_mem_append.2 ⟨hxs, List.forall_mem_singleton.2 ha⟩

/-- Keys stay distinct when an entry with a new one is appended. -/
lemma nodup_map_append_singleton {α κ : Type} {xs : List α} {a : α} {key : α → κ} (h : (xs.map key).Nodup)
    (hnew : key a ∉ xs.map key) : ((xs ++ [a]).map key).Nodup := by
  rw [List.map_append, List.map_singleton, ← List.concat_eq_append]
  exact List.Nodup.concat hnew h

/-- Writing an entry that a search passes over to a slot that it passes over. -/
lemma find?_set_of_ne {α : Type} {xs : List α} {f : α → Bool} {i : ℕ} {a b : α}
    (ha : xs[i]? = some a) (hfa : f a = false) (hfb : f b = false) : (xs.set i b).find? f = xs.find? f := by
  induction xs generalizing i with
  | nil => rfl
  | cons c xs ih =>
    cases i with
    | zero =>
      cases ha
      rw [List.set_cons_zero, List.find?_cons, List.find?_cons, hfa, hfb]
    | succ i =>
      rw [List.set_cons_succ, List.find?_cons, List.find?_cons, ih ha]

/-- Writing the entry that is found, with another one that is. -/
lemma find?_set_found {α : Type} {xs : List α} {f : α → Bool} {i : ℕ} {b : α}
    (hi : xs.findIdx? f = some i) (hfb : f b = true) :
    xs.find? f = xs[i]? ∧ (xs.set i b).find? f = some b := by
  induction xs generalizing i with
  | nil => cases hi
  | cons c xs ih =>
    rw [List.findIdx?_cons] at hi
    cases hc : f c with
    | true =>
      rw [hc, if_pos rfl] at hi
      cases hi
      rw [List.set_cons_zero, List.find?_cons, List.find?_cons, hc, hfb]
      exact ⟨rfl, rfl⟩
    | false =>
      rw [hc, if_neg Bool.false_ne_true] at hi
      obtain ⟨j, hj, rfl⟩ := Option.map_eq_some_iff.1 hi
      rw [List.set_cons_succ, List.find?_cons, List.find?_cons, hc]
      exact ih hj

end Lib
