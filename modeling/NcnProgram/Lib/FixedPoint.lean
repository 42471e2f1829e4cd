import NcnProgram.Lib.Machine
import Mathlib.Tactic.Ring

/-!
# Fixed-point numbers over a machine word

A fixed-point number of a format is a `width`-bit word that holds its value times `one`. Products and
quotients are rounded by adding half of `one` to the numerator; when an intermediate product does not
fit the word, both fall back to a coarser order of operations. On whole numbers the rounding and the
fallbacks never show: a product is exact (`mul_ofNat`), and so is the whole part of a quotient
(`div_floor_ofNat`).
-/

namespace Lib

/-- A fixed-point format: the width of the word and the word that stands for one. -/
structure Format where
  width : ℕ
  one : ℕ

namespace Format
variable (F : Format)

/-- Half of one, added before a rounding division. -/
def half : ℕ := F.one / 2

/-- The word of a whole number. -/
def ofNat (v : ℕ) : Option ℕ := checkedMul F.width v F.one

/-- The product of two words, rounded. -/
def mul (a b : ℕ) : Option ℕ :=
  match checkedMul F.width a b with
  | some v => (checkedAdd F.width v F.half).bind (checkedDiv · F.one)
  | none =>
    if b ≤ a then (checkedDiv a F.one).bind (checkedMul F.width · b)
    else (checkedDiv b F.one).bind (checkedMul F.width · a)

/-- The quotient of two words, rounded. -/
def div (a b : ℕ) : Option ℕ :=
  if b = 0 then none
  else match checkedMul F.width a F.one with
  | some v => (checkedAdd F.width v F.half).bind (checkedDiv · b)
  | none =>
    ((checkedAdd F.width a F.half).bind (checkedDiv · b)).bind (checkedMul F.width · F.one)

/-- The word of the whole part. -/
def floor (a : ℕ) : Option ℕ := (checkedDiv a F.one).bind (checkedMul F.width · F.one)

/-- The nearest whole number. -/
def toNat (a : ℕ) : Option ℕ := (checkedAdd F.width a F.half).bind (checkedDiv · F.one)

/-- A format whose rounding never overflows: one is positive, and a word that is a multiple of `one²`
has room for another half. -/
structure Roomy : Prop where
  one_pos : 0 < F.one
  room : F.half < 2 ^ F.width % (F.one * F.one)

variable {F} {x y t : ℕ}

lemma Roomy.half_lt (h : F.Roomy) : F.half < F.one := by
  have := h.one_pos
  unfold half
  omega

/-- A multiple of `one²` below the word size leaves room for a half. -/
lemma Roomy.add_half_lt (h : F.Roomy) (hx : x * (F.one * F.one) < 2 ^ F.width) :
    x * (F.one * F.one) + F.half < 2 ^ F.width := by
  have hroom := h.room
  have hsq : 0 < F.one * F.one := Nat.mul_pos h.one_pos h.one_pos
  have hq : x ≤ 2 ^ F.width / (F.one * F.one) := (Nat.le_div_iff_mul_le hsq).2 hx.le
  have hmul := Nat.mul_le_mul_right (F.one * F.one) hq
  have hdm := Nat.div_add_mod (2 ^ F.width) (F.one * F.one)
  rw [Nat.mul_comm] at hdm
  omega

/-- Adding less than a divisor to one of its multiples does not change the quotient. -/
lemma add_div_of_lt {d h : ℕ} (hd : h < d) : (x * d + h) / d = x := by
  rw [Nat.mul_comm, Nat.mul_add_div (by omega), Nat.div_eq_of_lt hd, Nat.add_zero]

/-- The word of a whole number that fits. -/
lemma ofNat_eq (hx : x * F.one < 2 ^ F.width) : F.ofNat x = some (x * F.one) :=
  checkedMul_of_lt rfl hx

/-- The product of two whole numbers is exact, whichever branch computes it. -/
lemma mul_ofNat (h : F.Roomy) (hxy : x * y * F.one < 2 ^ F.width) :
    F.mul (x * F.one) (y * F.one) = some (x * y * F.one) := by
  have h1 := h.one_pos
  have he : x * F.one * (y * F.one) = x * y * (F.one * F.one) := by ring
  unfold mul
  rcases Nat.lt_or_ge (x * y * (F.one * F.one)) (2 ^ F.width) with hlt | hge
  · rw [checkedMul_of_lt he hlt]
    simp only [checkedAdd_of_lt (h.add_half_lt hlt), Option.bind_some, checkedDiv_of_pos h1]
    rw [← Nat.mul_assoc, add_div_of_lt h.half_lt]
  · have hx : checkedMul F.width x (y * F.one) = some (x * y * F.one) :=
      checkedMul_of_lt (by ring) hxy
    have hy : checkedMul F.width y (x * F.one) = some (x * y * F.one) :=
      checkedMul_of_lt (by ring) hxy
    rw [checkedMul_of_le he hge]
    simp only [checkedDiv_of_pos h1, Option.bind_some, Nat.mul_div_cancel _ h1, hx, hy, ite_self]

/-- The quotient of two whole numbers where the scaled numerator fits the word. -/
lemma div_ofNat_of_lt (h : F.Roomy) (ht : 0 < t) (hx : x * (F.one * F.one) < 2 ^ F.width) :
    F.div (x * F.one) (t * F.one) = some ((x * (F.one * F.one) + F.half) / (t * F.one)) := by
  have htp : 0 < t * F.one := Nat.mul_pos ht h.one_pos
  unfold div
  rw [if_neg htp.ne', checkedMul_of_lt (Nat.mul_assoc _ _ _) hx]
  simp only [checkedAdd_of_lt (h.add_half_lt hx), Option.bind_some, checkedDiv_of_pos htp]

/-- The quotient of two whole numbers where the scaled numerator does not fit the word. -/
lemma div_ofNat_of_le (h : F.Roomy) (ht : 0 < t) (hx : 2 ^ F.width ≤ x * (F.one * F.one))
    (hx' : x * F.one + F.half < 2 ^ F.width) :
    F.div (x * F.one) (t * F.one) = some (x / t * F.one) := by
  have htp : 0 < t * F.one := Nat.mul_pos ht h.one_pos
  have hq : (x * F.one + F.half) / (t * F.one) = x / t := by
    rw [Nat.mul_comm t, ← Nat.div_div_eq_div_mul, add_div_of_lt h.half_lt]
  have hle : x / t * F.one ≤ x * F.one := Nat.mul_le_mul_right _ (Nat.div_le_self _ _)
  unfold div
  rw [if_neg htp.ne', checkedMul_of_le (Nat.mul_assoc _ _ _) hx]
  simp only [checkedAdd_of_lt hx', Option.bind_some, checkedDiv_of_pos htp, hq]
  exact checkedMul_of_lt rfl (by omega)

/-- The whole part of a quotient of whole numbers, in either branch of the division. -/
lemma div_floor_ofNat (h : F.Roomy) (ht : 0 < t) (hx : x * F.one + F.half < 2 ^ F.width) :
    (F.div (x * F.one) (t * F.one)).bind F.floor = some (x / t * F.one) := by
  have h1 := h.one_pos
  have hfit : x / t * F.one < 2 ^ F.width := by
    have := Nat.mul_le_mul_right F.one (Nat.div_le_self x t)
    omega
  rcases Nat.lt_or_ge (x * (F.one * F.one)) (2 ^ F.width) with hlt | hge
  · have hlt' : F.half < F.one * F.one := h.half_lt.trans_le (Nat.le_mul_of_pos_right _ h1)
    have hq : (x * (F.one * F.one) + F.half) / (t * F.one) / F.one = x / t := by
      rw [Nat.div_div_eq_div_mul, Nat.mul_assoc, Nat.mul_comm t, ← Nat.div_div_eq_div_mul,
        add_div_of_lt hlt']
    rw [div_ofNat_of_lt h ht hlt]
    simp only [Option.bind_some, floor, checkedDiv_of_pos h1, hq, checkedMul_of_lt rfl hfit]
  · rw [div_ofNat_of_le h ht hge hx]
    simp only [Option.bind_some, floor, checkedDiv_of_pos h1, Nat.mul_div_cancel _ h1,
      checkedMul_of_lt rfl hfit]

/-- Leaving the format gives a whole number back. -/
lemma toNat_ofNat (h : F.Roomy) (hx : x * F.one + F.half < 2 ^ F.width) :
    F.toNat (x * F.one) = some x := by
  simp only [toNat, checkedAdd_of_lt hx, Option.bind_some, checkedDiv_of_pos h.one_pos,
    add_div_of_lt h.half_lt]

end Format
end Lib
