import NcnProgram.Core.Basic
import NcnProgram.Lib.FixedPoint
import Mathlib.Tactic.NormNum

/-!
# Precise numbers

`spl_math::precise_number::PreciseNumber` is not part of the repository, so its operations are a
parameter of the model (`PreciseMath`). What the program relies on is that they are the 256-bit
fixed-point operations with twelve decimals that the crate documents (`PreciseMath.Documented`); the
crate as documented is `splMath`.

The four reward computations of the routers all multiply two whole numbers, divide by a third, floor the
quotient and leave the format. That sequence is `mulDivFloor`, and `mulDivFloor_eq` says that it is the
exact integer quotient.
-/

namespace NcnProgram
open Lib NCNProgramError

/-- The operations of `PreciseNumber` that the program calls, with the public field `value`. Leaving the format
(`toImprecise`) can also panic, which is the outer `none`. -/
structure PreciseMath where
  Number : Type
  value : Number → ℕ
  new : ℕ → Option Number
  checkedMul : Number → Number → Option Number
  checkedDiv : Number → Number → Option Number
  floor : Number → Option Number
  toImprecise : Number → Option (Option ℕ)
  greaterThanOrEqual : Number → Number → Bool

/-- A 256-bit word with twelve decimals. -/
def preciseFormat : Format := ⟨256, 10 ^ 12⟩

/-- `U256::as_u128`, which panics if the number does not fit. -/
def asU128 (v : ℕ) : Option ℕ := if v < 2 ^ 128 then some v else none

lemma asU128_of_lt {v : ℕ} (h : v < 2 ^ 128) : asU128 v = some v := by
  rw [asU128, if_pos h]

lemma asU128_of_le {v : ℕ} (h : 2 ^ 128 ≤ v) : asU128 v = none := by
  rw [asU128, if_neg (Nat.not_lt.2 h)]

/-- The documented behaviour of the crate: every operation is the fixed-point operation on the raw values, and
leaving the format ends with the cast to a `u128`. -/
structure PreciseMath.Documented (math : PreciseMath) : Prop where
  new : ∀ v < 2 ^ 128, (math.new v).map math.value = preciseFormat.ofNat v
  checkedMul : ∀ a b,
    (math.checkedMul a b).map math.value = preciseFormat.mul (math.value a) (math.value b)
  checkedDiv : ∀ a b,
    (math.checkedDiv a b).map math.value = preciseFormat.div (math.value a) (math.value b)
  floor : ∀ a, (math.floor a).map math.value = preciseFormat.floor (math.value a)
  toImprecise : ∀ a, math.toImprecise a = (preciseFormat.toNat (math.value a)).mapM asU128
  greaterThanOrEqual : ∀ a b,
    math.greaterThanOrEqual a b = decide (math.value b ≤ math.value a)

/-- The crate as documented, with the raw value itself as the number. -/
def splMath : PreciseMath where
  Number := ℕ
  value a := a
  new v := preciseFormat.ofNat v
  checkedMul a b := preciseFormat.mul a b
  checkedDiv a b := preciseFormat.div a b
  floor a := preciseFormat.floor a
  toImprecise a := (preciseFormat.toNat a).mapM asU128
  greaterThanOrEqual a b := decide (b ≤ a)

lemma map_splMath_value (o : Option ℕ) : o.map splMath.value = o := by
  cases o <;> rfl

/-- The documented crate behaves as documented. -/
lemma splMath_documented : splMath.Documented where
  new _ _ := map_splMath_value _
  checkedMul _ _ := map_splMath_value _
  checkedDiv _ _ := map_splMath_value _
  floor _ := map_splMath_value _
  toImprecise _ := by simp only [splMath]
  greaterThanOrEqual _ _ := rfl

lemma preciseFormat_roomy : preciseFormat.Roomy where
  one_pos := by norm_num [preciseFormat]
  room := by norm_num [preciseFormat, Format.half]

/-- The common tail of the reward computations: `x * y / t`, floored, as a `u64`. The four callers
differ in their zero checks and in the arguments they pass. -/
def mulDivFloor (math : PreciseMath) (x y t : ℕ) : Except ProgramError ℕ := do
  let preciseX ← okOr (math.new x) (newPreciseNumberError : ProgramError)
  let preciseY ← okOr (math.new y) (newPreciseNumberError : ProgramError)
  let preciseT ← okOr (math.new t) (newPreciseNumberError : ProgramError)
  let quotient ← okOr ((math.checkedMul preciseX preciseY).bind (math.checkedDiv · preciseT))
    (arithmeticOverflow : ProgramError)
  let floored ← okOr (math.floor quotient) (arithmeticFloorError : ProgramError)
  let converted ← okOr (math.toImprecise floored) (.panicked .castOverflow)
  let imprecise ← okOr converted (castToImpreciseNumberError : ProgramError)
  if imprecise < 2 ^ 64 then return imprecise else throw (castToU64Error : ProgramError)

variable {math : PreciseMath}

/-- A whole number that fits leaves the format as itself. -/
lemma PreciseMath.Documented.toImprecise_eq (h : math.Documented) {a : math.Number} {v : ℕ}
    (ha : preciseFormat.toNat (math.value a) = some v) (hv : v < 2 ^ 128) : math.toImprecise a = some (some v) := by
  rw [h.toImprecise, ha, Option.mapM_some, asU128_of_lt hv]
  rfl

/-- One that does not fit panics. -/
lemma PreciseMath.Documented.toImprecise_panics (h : math.Documented) {a : math.Number} {v : ℕ}
    (ha : preciseFormat.toNat (math.value a) = some v) (hv : 2 ^ 128 ≤ v) : math.toImprecise a = none := by
  rw [h.toImprecise, ha, Option.mapM_some, asU128_of_le hv]
  rfl

/-- A whole number enters the format as its multiple of one. -/
lemma PreciseMath.Documented.new_eq (h : math.Documented) {v : ℕ} (hv : v < 2 ^ 128) :
    ∃ a, math.new v = some a ∧ math.value a = v * preciseFormat.one := by
  have hfit : v * preciseFormat.one < 2 ^ preciseFormat.width := by
    norm_num [preciseFormat] at hv ⊢
    omega
  have := h.new v hv
  rw [Format.ofNat_eq hfit, Option.map_eq_some_iff] at this
  exact this

/-- Multiplying, dividing, flooring and leaving the format is the exact integer quotient wherever the
quotient fits a `u64`. -/
lemma mulDivFloor_eq (h : math.Documented) {x y t : ℕ} (hx : x < 2 ^ 64) (hy : y < 2 ^ 128)
    (ht : t < 2 ^ 128) (ht0 : 0 < t) (hq : x * y / t < 2 ^ 64) :
    mulDivFloor math x y t = .ok (x * y / t) := by
  have hroom := preciseFormat_roomy
  obtain ⟨px, hpx, hvx⟩ := h.new_eq (show x < 2 ^ 128 by omega)
  obtain ⟨py, hpy, hvy⟩ := h.new_eq hy
  obtain ⟨pt, hpt, hvt⟩ := h.new_eq ht
  -- the product has at most 64 + 128 bits before scaling, so its word fits
  have hxy : x * y ≤ 2 ^ 64 * 2 ^ 128 := Nat.mul_le_mul hx.le hy.le
  have hfit : x * y * preciseFormat.one + preciseFormat.half < 2 ^ preciseFormat.width := by
    norm_num [preciseFormat, Format.half] at hxy ⊢
    omega
  have hmul := h.checkedMul px py
  rw [hvx, hvy, Format.mul_ofNat hroom (by omega), Option.map_eq_some_iff] at hmul
  obtain ⟨pm, hpm, hvm⟩ := hmul
  have hdiv := h.checkedDiv pm pt
  rw [hvm, hvt] at hdiv
  have hdf := Format.div_floor_ofNat hroom ht0 hfit
  rw [← hdiv] at hdf
  cases hpd : math.checkedDiv pm pt with
  | none => rw [hpd] at hdf; simp at hdf
  | some pd =>
    rw [hpd, Option.map_some, Option.bind_some, ← h.floor, Option.map_eq_some_iff] at hdf
    obtain ⟨pf, hpf, hvf⟩ := hdf
    have hout : math.toImprecise pf = some (some (x * y / t)) := by
      refine h.toImprecise_eq ?_ (by omega)
      rw [hvf]
      apply Format.toNat_ofNat hroom
      have := Nat.mul_le_mul_right preciseFormat.one (Nat.div_le_self (x * y) t)
      omega
    simp only [mulDivFloor, hpx, hpy, hpt, okOr_some, hpm, Option.bind_some, hpd, hpf, hout, pure_bind,
      if_pos hq]
    rfl

end NcnProgram
