import NcnProgram.Core.BallotBox

/-!
# The consensus threshold

`tally_votes` compares a rounded quotient with a rounded two thirds. On the raw values of the fixed-point
format the comparison is a linear inequality (`Crosses`), so it is monotone in the ballot's stake, never
holds for a ballot without stake, and never holds for two ballots out of one total.
-/

namespace NcnProgram
open Lib NCNProgramError

/-- The stake `w` reaches the threshold of the total `T`: the raw quotient `(w * 10²⁴ + 5 * 10¹¹) / (T * 10¹²)`
is at least the raw two thirds. -/
def Crosses (w T : ℕ) : Prop := 666666666666 * (T * 10 ^ 12) ≤ w * 10 ^ 24 + 5 * 10 ^ 11

instance (w T : ℕ) : Decidable (Crosses w T) := inferInstanceAs (Decidable (_ ≤ _))

variable {w w' T : ℕ} {math : PreciseMath}

/-- More stake keeps the threshold reached. -/
lemma Crosses.mono (h : Crosses w T) (hw : w ≤ w') : Crosses w' T := by
  have := Nat.mul_le_mul_right (10 ^ 24) hw
  exact h.trans (Nat.add_le_add_right this _)

/-- A ballot that reaches the threshold has stake. -/
lemma Crosses.pos (h : Crosses w T) (hT : 0 < T) : 0 < w := by
  unfold Crosses at h
  omega

/-- Two parts of one total never both reach the threshold. -/
lemma Crosses.not_both (h : Crosses w T) (hT : 0 < T) (hsum : w + w' ≤ T) : ¬Crosses w' T := by
  unfold Crosses at *
  omega

/-- The quotient of two stakes as a precise number. -/
lemma PreciseMath.Documented.div_new (h : math.Documented) {x t : ℕ} (hx : x < 2 ^ 128)
    (ht : t < 2 ^ 128) (ht0 : 0 < t) :
    ∃ px pt pq, math.new x = some px ∧ math.new t = some pt ∧ math.checkedDiv px pt = some pq ∧
      math.value pq = (x * 10 ^ 24 + 5 * 10 ^ 11) / (t * 10 ^ 12) := by
  obtain ⟨px, hpx, hvx⟩ := h.new_eq hx
  obtain ⟨pt, hpt, hvt⟩ := h.new_eq ht
  have hdiv := h.checkedDiv px pt
  have hfit : x * (preciseFormat.one * preciseFormat.one) < 2 ^ preciseFormat.width := by
    norm_num [preciseFormat] at hx ⊢
    omega
  rw [hvx, hvt, Format.div_ofNat_of_lt preciseFormat_roomy ht0 hfit, Option.map_eq_some_iff] at hdiv
  obtain ⟨pq, hpq, hvq⟩ := hdiv
  refine ⟨px, pt, pq, hpx, hpt, hpq, hvq.trans ?_⟩
  norm_num [preciseFormat, Format.half]

/-- `precise_consensus` is two thirds, rounded down to twelve decimals. -/
lemma preciseConsensus_eq (h : math.Documented) :
    ∃ q, preciseConsensus math = .ok q ∧ math.value q = 666666666666 := by
  obtain ⟨p2, p3, q, h2, h3, hq, hv⟩ := h.div_new (show 2 < 2 ^ 128 by decide)
    (show 3 < 2 ^ 128 by decide) (by decide)
  refine ⟨q, ?_, hv.trans (by norm_num)⟩
  simp only [preciseConsensus, h2, h3, hq, okOr_some, pure_bind]
  rfl

/-- The threshold test never fails on a positive total, and decides `Crosses`. -/
lemma consensusReached_eq (h : math.Documented) (hw : w < 2 ^ 128) (hT : T < 2 ^ 128) (hT0 : 0 < T) :
    consensusReached math w T = .ok (decide (Crosses w T)) := by
  obtain ⟨pw, pT, q, hpw, hpT, hq, hv⟩ := h.div_new hw hT hT0
  obtain ⟨c, hc, hcv⟩ := preciseConsensus_eq h
  have hpos : 0 < T * 10 ^ 12 := by omega
  have hiff : math.value c ≤ math.value q ↔ Crosses w T := by
    rw [hcv, hv, Nat.le_div_iff_mul_le hpos, Crosses]
  simp only [consensusReached, if_neg hT0.ne', hpw, hpT, okOr_some, pure_bind, hq, hc,
    h.greaterThanOrEqual]
  exact congrArg Except.ok (decide_eq_decide.2 hiff)

end NcnProgram
