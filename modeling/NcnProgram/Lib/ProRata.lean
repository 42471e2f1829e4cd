import Mathlib.Algebra.BigOperators.Group.List.Basic
import Mathlib.Algebra.Order.BigOperators.Group.List
import Mathlib.Tactic.Ring

/-!
# Pro-rata shares

An amount `r` is split over weights `s` out of a total `W` by `r * s / W`, rounded down. Rounding down
keeps every collection of shares within the amount (`sum_share_le`).
-/

namespace Lib

/-- The share of weight `s` out of `W` in the amount `r`, rounded down. -/
def share (r W s : ℕ) : ℕ := r * s / W

variable {r W s : ℕ}

@[simp] lemma share_zero_weight : share r W 0 = 0 := by simp [share]

@[simp] lemma share_zero_amount : share 0 W s = 0 := by simp [share]

/-- A share of a part is at most the amount. -/
lemma share_le (h : s ≤ W) : share r W s ≤ r := by
  rcases Nat.eq_zero_or_pos W with rfl | hW
  · simp [share]
  · exact Nat.div_le_of_le_mul (by rw [Nat.mul_comm W]; exact Nat.mul_le_mul_left r h)

/-- A larger total makes the share of a part smaller. -/
lemma share_anti {W' : ℕ} (hs : s ≤ W) (h : W ≤ W') : share r W' s ≤ share r W s := by
  rcases Nat.eq_zero_or_pos W with rfl | hW
  · rw [Nat.le_zero.1 hs, share_zero_weight, share_zero_weight]
  · exact Nat.div_le_div_left h hW

/-- The shares of a list of weights are at most the share of their sum. -/
lemma sum_share_le_share_sum (r W : ℕ) (l : List ℕ) :
    (l.map (share r W)).sum ≤ share r W l.sum := by
  induction l with
  | nil => simp
  | cons s l ih =>
    simp only [List.map_cons, List.sum_cons]
    calc share r W s + (l.map (share r W)).sum
        ≤ share r W s + share r W l.sum := Nat.add_le_add_left ih _
      _ ≤ (r * s + r * l.sum) / W := Nat.div_add_div_le_add_div
      _ = share r W (s + l.sum) := by rw [share, Nat.mul_add]

/-- The shares of weights that sum to at most the total are at most the amount. -/
lemma sum_share_le {l : List ℕ} (h : l.sum ≤ W) : (l.map (share r W)).sum ≤ r :=
  (sum_share_le_share_sum r W l).trans (share_le h)

/-- Rounding down loses less than one for every weight. -/
lemma lt_sum_share_add_length {l : List ℕ} (hsum : l.sum = W) (hW : 0 < W) :
    r < (l.map (share r W)).sum + l.length := by
  have hmul (l : List ℕ) : r * l.sum + l.length ≤ W * (l.map (share r W)).sum + W * l.length := by
    induction l with
    | nil => simp
    | cons s l ih =>
      have hs : r * s + 1 ≤ W * share r W s + W := by
        have := Nat.div_add_mod (r * s) W
        have := Nat.mod_lt (r * s) hW
        rw [share]
        omega
      simp only [List.map_cons, List.sum_cons, List.length_cons, Nat.mul_add, Nat.mul_one]
      omega
  have hpos : 0 < l.length := by
    apply List.length_pos_of_ne_nil
    intro hnil
    rw [hnil, List.sum_nil] at hsum
    omega
  have h := hmul l
  rw [hsum, ← Nat.mul_add, Nat.mul_comm r W] at h
  exact Nat.lt_of_mul_lt_mul_left (show W * r < W * ((l.map (share r W)).sum + l.length) by omega)

end Lib
