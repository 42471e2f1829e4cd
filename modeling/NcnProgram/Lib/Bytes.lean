import Mathlib.Algebra.Ring.Nat
import Mathlib.Tactic.Common

/-!
# Numbers as bytes

The little-endian encoding of a number in a fixed number of bytes. It has that length and does not confuse
numbers that fit, so fields of fixed widths can be read back from their concatenation one after another.
-/

namespace Lib

/-- The `w` little-endian bytes of a number. -/
def leBytes : ℕ → ℕ → List UInt8
  | 0, _ => []
  | w + 1, n => UInt8.ofNat n :: leBytes w (n / 256)

@[simp] lemma length_leBytes (w n : ℕ) : (leBytes w n).length = w := by
  induction w generalizing n with
  | zero => rfl
  | succ w ih => rw [leBytes, List.length_cons, ih]

/-- Numbers that fit have different bytes. -/
lemma leBytes_inj {w n m : ℕ} (hn : n < 256 ^ w) (hm : m < 256 ^ w) (h : leBytes w n = leBytes w m) :
    n = m := by
  induction w generalizing n m with
  | zero => rw [Nat.lt_one_iff.1 hn, Nat.lt_one_iff.1 hm]
  | succ w ih =>
    rw [Nat.pow_succ] at hn hm
    obtain ⟨hlow, hrest⟩ := List.cons.inj h
    have hhigh : n / 256 = m / 256 :=
      ih (Nat.div_lt_of_lt_mul (by omega)) (Nat.div_lt_of_lt_mul (by omega)) hrest
    have hlow' : n % 256 = m % 256 := congrArg UInt8.toNat hlow
    omega

end Lib
