import Mathlib.Algebra.BigOperators.Group.List.Basic
import Mathlib.Algebra.Order.BigOperators.Group.List
import Mathlib.Algebra.Order.Group.Nat
import Mathlib.Algebra.Ring.Nat
import Mathlib.Data.List.Nodup
import Mathlib.Tactic.Common

/-!
# Weights of the keys in a list

A list of items, each with a key and a weight: `weightOf key weight k xs` is the weight of the items
with the key `k`. It grows by one item at a time, does not depend on the order of the list, and the
weights of two keys together stay within the weight of the whole list. The number of items with a key is
the same thing for the constant weight one, `List.countP`.
-/

namespace Lib
variable {α κ : Type} [DecidableEq κ] {key : α → κ} {weight : α → ℕ} {k k' : κ} {xs ys : List α} {x : α}

/-- The weight of the items with the key `k`. -/
def weightOf (key : α → κ) (weight : α → ℕ) (k : κ) (xs : List α) : ℕ :=
  ((xs.filter (key · = k)).map weight).sum

@[simp] lemma weightOf_nil : weightOf key weight k [] = 0 := rfl

lemma weightOf_append :
    weightOf key weight k (xs ++ ys) = weightOf key weight k xs + weightOf key weight k ys := by
  simp [weightOf]

/-- One more item adds its weight to its own key only. -/
lemma weightOf_append_singleton :
    weightOf key weight k (xs ++ [x]) =
      weightOf key weight k xs + if key x = k then weight x else 0 := by
  by_cases h : key x = k <;> simp [weightOf, h]

lemma weightOf_cons :
    weightOf key weight k (x :: xs) = (if key x = k then weight x else 0) + weightOf key weight k xs := by
  by_cases h : key x = k <;> simp [weightOf, h]

/-- The order of the items does not matter. -/
lemma weightOf_perm (h : xs.Perm ys) : weightOf key weight k xs = weightOf key weight k ys :=
  ((h.filter _).map _).sum_eq

/-- A key that no item has weighs nothing. -/
lemma weightOf_eq_zero (h : ∀ x ∈ xs, key x ≠ k) : weightOf key weight k xs = 0 := by
  have : xs.filter (key · = k) = [] := by
    rw [List.filter_eq_nil_iff]
    intro x hx
    simpa using h x hx
  rw [weightOf, this, List.map_nil, List.sum_nil]

omit [DecidableEq κ] in
/-- The weight of a key is that of the items with the corresponding key. -/
lemma weightOf_map {β ι : Type} [DecidableEq κ] [DecidableEq ι] {f : β → α} {key' : β → ι} {weight' : β → ℕ}
    {j : ι} {zs : List β} (hkey : ∀ z ∈ zs, key (f z) = k ↔ key' z = j) (hweight : ∀ z, weight (f z) = weight' z) :
    weightOf key weight k (zs.map f) = weightOf key' weight' j zs := by
  induction zs with
  | nil => rfl
  | cons z zs ih =>
    rw [List.map_cons, weightOf_cons, weightOf_cons, ih fun y hy => hkey y (List.mem_cons_of_mem _ hy), hweight]
    congr 1
    exact if_congr (hkey z List.mem_cons_self) rfl rfl

/-- Overwriting an item moves the weight of a key by the difference of the two items. -/
lemma weightOf_set {i : ℕ} {a b : α} (h : xs[i]? = some a) :
    weightOf key weight k (xs.set i b) + (if key a = k then weight a else 0) =
      weightOf key weight k xs + (if key b = k then weight b else 0) := by
  induction xs generalizing i with
  | nil => simp at h
  | cons x xs ih =>
    cases i with
    | zero =>
      rw [List.getElem?_cons_zero] at h
      cases h
      rw [List.set_cons_zero, weightOf_cons, weightOf_cons]
      omega
    | succ i =>
      rw [List.getElem?_cons_succ] at h
      have := ih h
      rw [List.set_cons_succ, weightOf_cons, weightOf_cons]
      omega

/-- If no two items have the same key, a key weighs what the item with that key does. -/
lemma weightOf_of_nodup (hnodup : (xs.map key).Nodup) (hx : x ∈ xs) :
    weightOf key weight (key x) xs = weight x := by
  induction xs with
  | nil => simp at hx
  | cons y xs ih =>
    rw [List.map_cons, List.nodup_cons] at hnodup
    rw [weightOf_cons]
    rcases List.mem_cons.1 hx with rfl | hx
    · have hzero : weightOf key weight (key x) xs = 0 :=
        weightOf_eq_zero fun z hz he => hnodup.1 (he ▸ List.mem_map_of_mem hz)
      rw [if_pos rfl, hzero, Nat.add_zero]
    · have hne : key y ≠ key x := fun he => hnodup.1 (he ▸ List.mem_map_of_mem hx)
      rw [if_neg hne, Nat.zero_add, ih hnodup.2 hx]

/-- One key weighs at most the whole list. -/
lemma weightOf_le_sum : weightOf key weight k xs ≤ (xs.map weight).sum := by
  induction xs with
  | nil => simp
  | cons x xs ih =>
    rw [weightOf_cons, List.map_cons, List.sum_cons]
    split <;> omega

/-- Two keys together weigh at most the whole list. -/
lemma weightOf_add_le_sum (hk : k ≠ k') :
    weightOf key weight k xs + weightOf key weight k' xs ≤ (xs.map weight).sum := by
  induction xs with
  | nil => simp
  | cons x xs ih =>
    rw [weightOf_cons, weightOf_cons, List.map_cons, List.sum_cons]
    by_cases h : key x = k
    · have h' : key x ≠ k' := fun e => hk (h.symm.trans e)
      rw [if_pos h, if_neg h']
      omega
    · rw [if_neg h]
      split <;> omega

omit [DecidableEq κ] in
/-- Distinct members of a list of distinct items are all of its items exactly if they are as many. -/
lemma length_eq_iff_of_subset {ks ls : List κ} (hks : ks.Nodup) (hls : ls.Nodup) (hsub : ks ⊆ ls) :
    ks.length = ls.length ↔ ∀ k, k ∈ ks ↔ k ∈ ls := by
  constructor
  · intro hlen k
    exact ((List.subperm_of_subset hks hsub).perm_of_length_le hlen.ge).mem_iff
  · intro hmem
    exact ((List.perm_ext_iff_of_nodup hks hls).2 hmem).length_eq

omit [DecidableEq κ] in
/-- Distinct members of a list weigh no more than the list. -/
lemma sum_map_le_of_subset {f : κ → ℕ} {ks ls : List κ} (hks : ks.Nodup) (hsub : ks ⊆ ls) :
    (ks.map f).sum ≤ (ls.map f).sum := by
  obtain ⟨l, hperm, hl⟩ := List.subperm_of_subset hks hsub
  rw [← (hperm.map f).sum_eq]
  exact (hl.map f).sum_le_sum fun _ _ => Nat.zero_le _

omit [DecidableEq κ] in
/-- There are no more items with distinct indices than indices. -/
lemma length_le_of_index_lt {index : κ → ℕ} (hinj : Function.Injective index) {n : ℕ} {ks : List κ}
    (hks : ks.Nodup) (hlt : ∀ k ∈ ks, index k < n) : ks.length ≤ n := by
  have hsub : ks.map index ⊆ List.range n := by
    intro i hi
    obtain ⟨k, hk, rfl⟩ := List.mem_map.1 hi
    exact List.mem_range.2 (hlt k hk)
  simpa using (List.subperm_of_subset (hks.map hinj) hsub).length_le

omit [DecidableEq κ] in
/-- If one test implies another, as many items pass both exactly if the tests agree. -/
lemma countP_eq_iff_of_imp {p q : κ → Bool} {ks : List κ} (himp : ∀ k ∈ ks, q k = true → p k = true) :
    ks.countP p = ks.countP q ↔ ∀ k ∈ ks, p k = true → q k = true := by
  constructor
  · intro heq
    induction ks with
    | nil => simp
    | cons k ks ih =>
      have htail : ∀ l ∈ ks, q l = true → p l = true := fun l hl => himp l (List.mem_cons_of_mem _ hl)
      have hle := List.countP_mono_left htail
      have hhead := himp k List.mem_cons_self
      rw [List.countP_cons, List.countP_cons] at heq
      have hsame : p k = true → q k = true := by
        intro hp
        by_contra hq
        rw [if_pos hp, if_neg hq] at heq
        omega
      have hcount : ks.countP p = ks.countP q := by
        by_cases hp : p k = true
        · rw [if_pos hp, if_pos (hsame hp)] at heq
          omega
        · rw [if_neg hp, if_neg fun hq => hp (hhead hq)] at heq
          omega
      intro l hl
      rcases List.mem_cons.1 hl with rfl | hl
      · exact hsame
      · exact ih htail hcount l hl
  · intro hconv
    exact List.countP_congr fun k hk => ⟨hconv k hk, himp k hk⟩

end Lib
