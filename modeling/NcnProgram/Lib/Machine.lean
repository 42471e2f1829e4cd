import Mathlib.Algebra.Ring.Nat
import Mathlib.Tactic.Common

/-!
# Checked machine arithmetic

Unsigned machine integers are natural numbers; the checked operations of a `w`-bit type return `none`
where the exact result does not fit.
-/

namespace Lib

/-- The largest value of a `w`-bit unsigned integer. -/
def uMax (w : ℕ) : ℕ := 2 ^ w - 1

/-- `checked_add` of a `w`-bit unsigned integer. -/
def checkedAdd (w a b : ℕ) : Option ℕ := if a + b < 2 ^ w then some (a + b) else none

/-- `checked_sub` of an unsigned integer. -/
def checkedSub (a b : ℕ) : Option ℕ := if b ≤ a then some (a - b) else none

/-- `checked_mul` of a `w`-bit unsigned integer. -/
def checkedMul (w a b : ℕ) : Option ℕ := if a * b < 2 ^ w then some (a * b) else none

/-- `checked_div` of an unsigned integer. -/
def checkedDiv (a b : ℕ) : Option ℕ := if b = 0 then none else some (a / b)

variable {w a b c : ℕ}

/-- A sum that fits is returned. -/
lemma checkedAdd_of_lt (h : a + b < 2 ^ w) : checkedAdd w a b = some (a + b) := if_pos h

/-- What is returned is the sum, and it fits. -/
lemma checkedAdd_eq_some : checkedAdd w a b = some c ↔ a + b < 2 ^ w ∧ c = a + b := by
  unfold checkedAdd
  split
  · simp_all [eq_comm]
  · constructor
    · intro h; cases h
    · rintro ⟨h, _⟩; contradiction

/-- A difference that is not negative is returned. -/
lemma checkedSub_of_le (h : b ≤ a) : checkedSub a b = some (a - b) := if_pos h

/-- A negative one is not. -/
lemma checkedSub_of_lt (h : a < b) : checkedSub a b = none := if_neg (by omega)

/-- What is returned is the difference, and it is not negative. -/
lemma checkedSub_eq_some : checkedSub a b = some c ↔ b ≤ a ∧ c = a - b := by
  unfold checkedSub
  split
  · simp_all [eq_comm]
  · constructor
    · intro h; cases h
    · rintro ⟨h, _⟩; contradiction

/-- A product that fits is returned. -/
lemma checkedMul_of_lt (h : a * b = c) (hc : c < 2 ^ w) : checkedMul w a b = some c := by
  subst h
  exact if_pos hc

/-- One that does not fit is not. -/
lemma checkedMul_of_le (h : a * b = c) (hc : 2 ^ w ≤ c) : checkedMul w a b = none :=
  if_neg (by omega)

/-- A quotient by a positive number is returned. -/
lemma checkedDiv_of_pos (h : 0 < b) : checkedDiv a b = some (a / b) := if_neg (by omega)

end Lib
