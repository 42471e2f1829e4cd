import NcnProgram.Core.Basic

/-!
# Stake weights

Port of `core/src/stake_weight.rs`. The stake weight is a `u128`, and its type carries that bound, so
that a stake handed to a method is always one the source could hold.
-/

namespace NcnProgram
open Lib NCNProgramError

/-- A stake weight (`StakeWeights`), a `u128`. -/
structure StakeWeights where
  stakeWeight : ℕ
  lt : stakeWeight < 2 ^ 128
deriving DecidableEq

namespace StakeWeights

/-- `StakeWeights::default`. -/
protected def default : StakeWeights := ⟨0, by decide⟩

/-- `StakeWeights::snapshot`. -/
def snapshot (stakeWeight : ℕ) : Except ProgramError StakeWeights :=
  if h : stakeWeight < 2 ^ 128 then return ⟨stakeWeight, h⟩
  else throw (arithmeticOverflow : ProgramError)

/-- `StakeWeights::increment`. -/
def increment (other : StakeWeights) : Mut StakeWeights Unit := do
  let self ← get
  if h : self.stakeWeight + other.stakeWeight < 2 ^ 128 then
    set (⟨self.stakeWeight + other.stakeWeight, h⟩ : StakeWeights)
  else
    throw (arithmeticOverflow : ProgramError)

@[ext] lemma ext {a b : StakeWeights} (h : a.stakeWeight = b.stakeWeight) : a = b := by
  cases a; cases b; cases h; rfl

/-- Incrementing adds exactly, or fails. -/
lemma increment_run_ok {a b c : StakeWeights} {u : Unit} (h : (increment b).run a = .ok u c) :
    c.stakeWeight = a.stakeWeight + b.stakeWeight := by
  simp only [increment, EStateM.run_bind, EStateM.run_get] at h
  split at h
  · cases h; rfl
  · cases h

/-- Incrementing succeeds where the sum fits. -/
lemma increment_of_lt {a b : StakeWeights} (h : a.stakeWeight + b.stakeWeight < 2 ^ 128) :
    (increment b).run a = .ok () ⟨a.stakeWeight + b.stakeWeight, h⟩ := by
  simp only [increment, EStateM.run_bind, EStateM.run_get, dif_pos h]
  rfl

end StakeWeights
end NcnProgram
