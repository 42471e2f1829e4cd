import NcnProgram.Core.Fees
import NcnProgram.Lib.Run

/-!
# Changes of the fees

What `update_fee_config` does, and what is left of a history of its calls. A call starts by copying the fees in
force into the record that may be changed, if no change is pending; then it changes that record, and looks it up
again at every step. `updateFeeConfig_run_ok` is the outcome of all the steps. If the epochs of the calls do not go
back, the changes are all made in the first record, and the second one has the fees that were in force before
(`FeeHistory`).
-/

namespace NcnProgram
open Lib NCNProgramError

namespace FeeConfig
variable {f f' : FeeConfig} {epoch : ℕ} {u : Unit}

/-- Overwrites the updatable fees. -/
def setUpdatable (epoch : ℕ) (fees : Fees) (f : FeeConfig) : FeeConfig :=
  if f.updatesFirst epoch then { f with fee1 := fees } else { f with fee2 := fees }

/-- A method of the updatable fees overwrites them. -/
lemma onUpdatableFees_run_ok {x : Mut Fees Unit} (h : (onUpdatableFees epoch x).run f = .ok u f') :
    ∃ fees, x.run (f.updatableFees epoch) = .ok () fees ∧ f' = f.setUpdatable epoch fees :=
  run_zoom_ok.1 h

/-- As long as their activation epoch is the same, the same fees stay updatable. -/
lemma updatesFirst_setUpdatable {fees : Fees}
    (h : fees.activationEpoch = (f.updatableFees epoch).activationEpoch) :
    (f.setUpdatable epoch fees).updatesFirst epoch = f.updatesFirst epoch := by
  unfold setUpdatable
  unfold updatableFees at h
  split
  · rename_i hfirst
    rw [if_pos hfirst] at h
    simp only [updatesFirst, h]
  · rename_i hfirst
    rw [if_neg hfirst] at h
    simp only [updatesFirst, h]

lemma updatableFees_setUpdatable {fees : Fees}
    (h : fees.activationEpoch = (f.updatableFees epoch).activationEpoch) :
    (f.setUpdatable epoch fees).updatableFees epoch = fees := by
  rw [updatableFees, updatesFirst_setUpdatable h, setUpdatable]
  split <;> rfl

lemma setUpdatable_setUpdatable {fees fees' : Fees}
    (h : fees.activationEpoch = (f.updatableFees epoch).activationEpoch) :
    (f.setUpdatable epoch fees).setUpdatable epoch fees' = f.setUpdatable epoch fees' := by
  rw [setUpdatable, updatesFirst_setUpdatable h, setUpdatable, setUpdatable]
  split <;> rfl

/-- The updatable fees after a change: they are in force from the next epoch on. -/
def changedFees (epoch : ℕ) (bps : Option ℕ) (f : FeeConfig) : Fees :=
  { f.updatableFees epoch with
    activationEpoch := epoch + 1
    ncnFeeBps := bps.getD (f.updatableFees epoch).ncnFeeBps }

/-- The fees and the wallet after a change. -/
def changed (epoch : ℕ) (bps : Option ℕ) (wallet : Option Pubkey) (f : FeeConfig) : FeeConfig :=
  { f.setUpdatable epoch (f.changedFees epoch bps) with ncnFeeWallet := wallet.getD f.ncnFeeWallet }

/-- The changed fees are the ones in force in the next epoch. -/
lemma currentFees_changed (bps : Option ℕ) (wallet : Option Pubkey) (f : FeeConfig) (epoch : ℕ) :
    (f.changed epoch bps wallet).currentFees (epoch + 1) = f.changedFees epoch bps := by
  have hnext : (f.changedFees epoch bps).activationEpoch = epoch + 1 := rfl
  cases hfirst : f.updatesFirst epoch with
  | true =>
    simp only [currentFees, changed, setUpdatable, hfirst, if_true, hnext]
    rw [if_neg (Nat.lt_irrefl _)]
    split
    · rfl
    · rw [if_pos (by omega)]
  | false =>
    have hactive : ¬f.fee1.activationEpoch > epoch := by
      intro hgt
      rw [updatesFirst, if_pos hgt] at hfirst
      cases hfirst
    simp only [currentFees, changed, setUpdatable, hfirst, Bool.false_eq_true, if_false, hnext]
    rw [if_neg (by omega), if_neg (Nat.lt_irrefl _), if_neg (by omega)]

/-- The new fee is written, if one is given. -/
lemma setNcnFeeBps_run_ok {bps : Option ℕ} (h : (bps.forM (setNcnFeeBps · epoch)).run f = .ok u f') :
    f' = f.setUpdatable epoch
      { f.updatableFees epoch with ncnFeeBps := bps.getD (f.updatableFees epoch).ncnFeeBps } := by
  cases bps with
  | none =>
    cases h
    rw [setUpdatable, Option.getD_none, updatableFees]
    split <;> rfl
  | some n =>
    obtain ⟨fees, hx, rfl⟩ := onUpdatableFees_run_ok h
    obtain ⟨_, _, hg, hx⟩ := run_bind_ok.1 hx
    obtain ⟨_, rfl⟩ := run_ensure_ok.1 hg
    cases hx
    rfl

/-- The next epoch is written. -/
lemma updateUpdatableEpoch_run_ok (h : (updateUpdatableEpoch epoch).run f = .ok u f') :
    f' = f.setUpdatable epoch { f.updatableFees epoch with activationEpoch := epoch + 1 } := by
  obtain ⟨n, _, hg, h⟩ := run_bind_ok.1 h
  obtain ⟨hn, rfl⟩ := run_okOr_ok.1 hg
  obtain ⟨fees, hx, rfl⟩ := onUpdatableFees_run_ok h
  cases hx
  rw [← (checkedAdd_eq_some.1 hn).2]

/-- The updatable fees are changed, the wallet is set, and both checks pass. -/
lemma updateFeeConfig_run_ok {math : PreciseMath} {bps : Option ℕ} {wallet : Option Pubkey}
    (h : (updateFeeConfig math bps wallet epoch).run f = .ok u f') :
    ∃ f₁, (startUpdate epoch).run f = .ok () f₁ ∧ f' = f₁.changed epoch bps wallet ∧
      f'.checkFeesOkay math epoch = .ok () ∧ f'.checkFeesOkay math (epoch + 1) = .ok () := by
  obtain ⟨_, f₁, h₁, h⟩ := run_bind_ok.1 h
  obtain ⟨_, f₂, h₂, h⟩ := run_bind_ok.1 h
  obtain ⟨_, f₃, h₃, h⟩ := run_bind_ok.1 h
  obtain ⟨_, f₄, h₄, h⟩ := run_bind_ok.1 h
  obtain ⟨fees, hfees, hf₂⟩ : ∃ fees : Fees, fees = { f₁.updatableFees epoch with
      ncnFeeBps := bps.getD (f₁.updatableFees epoch).ncnFeeBps } ∧ f₂ = f₁.setUpdatable epoch fees :=
    ⟨_, rfl, setNcnFeeBps_run_ok h₂⟩
  have hsame : fees.activationEpoch = (f₁.updatableFees epoch).activationEpoch := by rw [hfees]
  have hchanged : f₄ = f₁.changed epoch bps wallet := by
    rw [updateUpdatableEpoch_run_ok h₄]
    have hf₃ : f₃ = { f₂ with ncnFeeWallet := wallet.getD f₂.ncnFeeWallet } := by
      cases wallet with
      | none => cases h₃; rfl
      | some w => cases h₃; rfl
    have hwallet : f₂.ncnFeeWallet = f₁.ncnFeeWallet := by
      rw [hf₂, setUpdatable]
      split <;> rfl
    rw [hwallet] at hf₃
    -- the wallet does not matter for the choice of the record
    have hfirst : f₃.updatesFirst epoch = f₂.updatesFirst epoch := by
      rw [hf₃]
      rfl
    have hupdatable : f₃.updatableFees epoch = f₂.updatableFees epoch := by
      rw [hf₃]
      rfl
    have hset (fees : Fees) : f₃.setUpdatable epoch fees =
        { f₂.setUpdatable epoch fees with ncnFeeWallet := wallet.getD f₁.ncnFeeWallet } := by
      rw [setUpdatable, hfirst, setUpdatable, hf₃]
      cases f₂.updatesFirst epoch <;> rfl
    rw [hupdatable, hset, hf₂, updatableFees_setUpdatable hsame, setUpdatable_setUpdatable hsame, hfees]
    rfl
  -- the checks do not write
  obtain ⟨_, _, hg, h⟩ := run_bind_ok.1 h
  cases hg
  obtain ⟨_, _, hg, h⟩ := run_bind_ok.1 h
  obtain ⟨hcheck, rfl⟩ := run_ofExcept_ok.1 hg
  obtain ⟨next, _, hg, h⟩ := run_bind_ok.1 h
  obtain ⟨hnext, rfl⟩ := run_okOr_ok.1 hg
  obtain ⟨_, _, hg, h⟩ := run_bind_ok.1 h
  cases hg
  obtain ⟨hcheck', rfl⟩ := run_ofExcept_ok.1 h
  rw [(checkedAdd_eq_some.1 hnext).2] at hcheck'
  exact ⟨f₁, h₁, hchanged, hcheck, hcheck'⟩

/-- The fees in force are copied to the second record, unless there is a change pending in the first one or both
are of the same epoch. In any case the first record is to be changed then. -/
lemma startUpdate_run_ok (hle : f.fee2.activationEpoch ≤ f.fee1.activationEpoch)
    (hactive : f.fee2.activationEpoch ≤ epoch)
    (h : (startUpdate epoch).run f = .ok u f') :
    f'.updatesFirst epoch = true ∧ f'.fee1 = f.fee1 ∧
      f'.fee2 = if epoch < f.fee1.activationEpoch ∨ f.fee1.activationEpoch = f.fee2.activationEpoch
        then f.fee2 else f.fee1 := by
  obtain ⟨_, _, hg, h⟩ := run_bind_ok.1 h
  cases hg
  by_cases hpending : epoch < f.fee1.activationEpoch
  · -- the change of this epoch goes on
    have hfirst : f.updatesFirst epoch = true := if_pos hpending
    have hskip : ¬(f.updatableFees epoch).activationEpoch ≤ epoch := by
      rw [updatableFees, hfirst]
      exact Nat.not_le.2 hpending
    rw [if_neg hskip] at h
    cases h
    exact ⟨hfirst, rfl, (if_pos (.inl hpending)).symm⟩
  · have hcurrent : f.currentFees epoch = f.fee1 := by
      rw [currentFees, if_neg hpending, if_neg (Nat.not_lt.2 hactive), if_pos hle]
    have hfirst : f.updatesFirst epoch = decide (f.fee1.activationEpoch ≤ f.fee2.activationEpoch) := by
      rw [updatesFirst, if_neg hpending, if_neg (Nat.not_lt.2 hactive)]
    have hcopy : (f.updatableFees epoch).activationEpoch ≤ epoch := by
      rw [updatableFees]
      split
      · exact Nat.not_lt.1 hpending
      · exact hactive
    rw [if_pos hcopy] at h
    obtain ⟨_, _, hg, h⟩ := run_bind_ok.1 h
    cases hg
    obtain ⟨_, _, hg, h⟩ := run_bind_ok.1 h
    obtain ⟨_, rfl⟩ := run_ensure_ok.1 hg
    obtain ⟨fees, hx, rfl⟩ := run_zoom_ok.1 h
    cases hx
    rw [hcurrent, hfirst]
    by_cases hsame : f.fee1.activationEpoch = f.fee2.activationEpoch
    · rw [decide_eq_true hsame.le, if_pos rfl, if_pos (.inr hsame)]
      exact ⟨by rw [updatesFirst, if_neg hpending, if_neg (Nat.not_lt.2 hactive)]; exact decide_eq_true hsame.le,
        rfl, rfl⟩
    · rw [decide_eq_false (by omega), if_neg (by decide), if_neg (by omega)]
      refine ⟨?_, rfl, rfl⟩
      rw [updatesFirst, if_neg hpending, if_neg hpending]
      exact decide_eq_true le_rfl

/-- If no change was made in a later epoch, the change is made in the first record, from the next epoch on. -/
lemma updateFeeConfig_in_order {math : PreciseMath} {bps : Option ℕ} {wallet : Option Pubkey}
    (hle : f.fee2.activationEpoch ≤ f.fee1.activationEpoch) (hactive : f.fee2.activationEpoch ≤ epoch)
    (h : (updateFeeConfig math bps wallet epoch).run f = .ok u f') :
    f'.fee1.activationEpoch = epoch + 1 ∧ f'.fee1.ncnFeeBps = bps.getD f.fee1.ncnFeeBps ∧
      f'.fee2 = if epoch < f.fee1.activationEpoch ∨ f.fee1.activationEpoch = f.fee2.activationEpoch
        then f.fee2 else f.fee1 := by
  obtain ⟨f₁, hstart, rfl, _⟩ := updateFeeConfig_run_ok h
  obtain ⟨hfirst, hfee1, hfee2⟩ := startUpdate_run_ok hle hactive hstart
  have hupdatable : f₁.updatableFees epoch = f.fee1 := by rw [updatableFees, if_pos hfirst, hfee1]
  rw [changed, setUpdatable, if_pos hfirst, changedFees, hupdatable]
  exact ⟨rfl, rfl, hfee2⟩

/-- New fees are the same in both records. -/
lemma new_ok {math : PreciseMath} {wallet : Pubkey} {bps : ℕ} (h : new math wallet bps epoch = .ok f) :
    f.fee1.activationEpoch = epoch ∧ f.fee1.ncnFeeBps = bps ∧ f.fee2 = f.fee1 := by
  unfold new at h
  split at h
  · cases h
  split at h
  · cases h
  obtain ⟨fee, hfee, h⟩ := bind_ok.1 h
  obtain ⟨_, _, h⟩ := bind_ok.1 h
  cases h
  unfold Fees.new at hfee
  split at hfee
  · cases hfee; exact ⟨rfl, rfl, rfl⟩
  · cases hfee

end FeeConfig

/-! ## Histories of changes -/

/-- A call of `update_fee_config` in an epoch. -/
structure FeeUpdate where
  epoch : ℕ
  newNcnFeeBps : Option ℕ
  newNcnFeeWallet : Option Pubkey

/-- Makes the change. -/
def FeeUpdate.exec (math : PreciseMath) (u : FeeUpdate) : Mut FeeConfig Unit :=
  FeeConfig.updateFeeConfig math u.newNcnFeeBps u.newNcnFeeWallet u.epoch

/-- The last NCN fee that was set, or the initial one. -/
def lastFee (initial : ℕ) (updates : List FeeUpdate) : ℕ :=
  (updates.filterMap (·.newNcnFeeBps)).getLast?.getD initial

/-- The NCN fee that is in force in an epoch: the last one that was set in an epoch before it. -/
def feeInForce (initial : ℕ) (updates : List FeeUpdate) (epoch : ℕ) : ℕ :=
  lastFee initial (updates.filter (·.epoch < epoch))

variable {initial : ℕ} {updates : List FeeUpdate} {epoch : ℕ}

lemma lastFee_append (u : FeeUpdate) :
    lastFee initial (updates ++ [u]) = u.newNcnFeeBps.getD (lastFee initial updates) := by
  unfold lastFee
  cases hu : u.newNcnFeeBps with
  | none => simp [hu]
  | some n => simp [hu]

/-- Changes of an epoch or later are not in force in it. -/
lemma feeInForce_append_of_le {u : FeeUpdate} (h : epoch ≤ u.epoch) :
    feeInForce initial (updates ++ [u]) epoch = feeInForce initial updates epoch := by
  unfold feeInForce
  rw [List.filter_append, List.filter_cons_of_neg (by simpa using h), List.filter_nil, List.append_nil]

/-- The fee in force depends on the changes before the epoch only. -/
lemma feeInForce_congr {epoch' : ℕ} (h : ∀ u ∈ updates, u.epoch < epoch ↔ u.epoch < epoch') :
    feeInForce initial updates epoch = feeInForce initial updates epoch' := by
  unfold feeInForce
  rw [List.filter_congr fun u hu => decide_eq_decide.2 (h u hu)]

/-- After all changes the last one is in force. -/
lemma feeInForce_of_lt (h : ∀ u ∈ updates, u.epoch < epoch) :
    feeInForce initial updates epoch = lastFee initial updates := by
  unfold feeInForce
  rw [List.filter_eq_self.2 fun u hu => decide_eq_true (h u hu)]

/-- What is left of a history of changes: the first record has the last one, and the second record the fees that
were in force in the epoch of the last one. -/
structure FeeHistory (initial start : ℕ) (updates : List FeeUpdate) (f : FeeConfig) : Prop where
  first : (updates = [] ∧ f.fee1.activationEpoch = start ∧ f.fee2.activationEpoch = start) ∨
    (f.fee2.activationEpoch < f.fee1.activationEpoch ∧ ∃ u ∈ updates, u.epoch + 1 = f.fee1.activationEpoch)
  firstFee : f.fee1.ncnFeeBps = lastFee initial updates
  second : f.fee2.activationEpoch = start ∨ ∃ u ∈ updates, u.epoch + 1 = f.fee2.activationEpoch
  secondFee : f.fee2.ncnFeeBps = feeInForce initial updates f.fee2.activationEpoch
  between : ∀ u ∈ updates, u.epoch < f.fee2.activationEpoch ∨ u.epoch + 1 = f.fee1.activationEpoch

namespace FeeHistory
variable {start : ℕ} {f f' : FeeConfig} {math : PreciseMath}

/-- Before any change. -/
lemma new {wallet : Pubkey} (h : FeeConfig.new math wallet initial start = .ok f) :
    FeeHistory initial start [] f := by
  obtain ⟨hstart, hfee, hsame⟩ := FeeConfig.new_ok h
  have hstart' : f.fee2.activationEpoch = start := by rw [hsame, hstart]
  exact ⟨.inl ⟨rfl, hstart, hstart'⟩, hfee, .inl hstart', by rw [hsame, hfee]; rfl, fun u hu => by cases hu⟩

/-- In an epoch that is not before the changes, the second record is in force or older, and the first one is pending
for the next epoch at the latest. -/
lemma order (h : FeeHistory initial start updates f) (hstart : start ≤ epoch)
    (hlast : ∀ v ∈ updates, v.epoch ≤ epoch) : f.fee2.activationEpoch ≤ f.fee1.activationEpoch ∧
      f.fee2.activationEpoch ≤ epoch ∧ f.fee1.activationEpoch ≤ epoch + 1 := by
  rcases h.first with ⟨_, h₁, h₂⟩ | ⟨hlt, v, hv, hv'⟩
  · omega
  · have := hlast v hv
    omega

/-- Records of the same epoch have the same fee. -/
lemma same_fee (h : FeeHistory initial start updates f)
    (hsame : f.fee1.activationEpoch = f.fee2.activationEpoch) : f.fee2.ncnFeeBps = f.fee1.ncnFeeBps := by
  rcases h.first with ⟨rfl, _⟩ | ⟨hlt, _⟩
  · exact h.secondFee.trans h.firstFee.symm
  · omega

/-- A change in an epoch that is not before the others. -/
lemma update (h : FeeHistory initial start updates f) {u : FeeUpdate} (hstart : start ≤ u.epoch)
    (hlast : ∀ v ∈ updates, v.epoch ≤ u.epoch) (hrun : (u.exec math).run f = .ok () f') :
    FeeHistory initial start (updates ++ [u]) f' := by
  obtain ⟨horder, hactive, _⟩ := h.order hstart hlast
  obtain ⟨hnext, hfee, hsecond⟩ := FeeConfig.updateFeeConfig_in_order horder hactive hrun
  have hmem : u ∈ updates ++ [u] := by simp
  have hleft : ∀ {v}, v ∈ updates → v ∈ updates ++ [u] := fun hv => List.mem_append_left _ hv
  have hcases : ∀ v ∈ updates ++ [u], v ∈ updates ∨ v = u := fun v hv => by simpa using hv
  have hfirstFee : f'.fee1.ncnFeeBps = lastFee initial (updates ++ [u]) := by
    rw [hfee, h.firstFee, lastFee_append]
  by_cases hkeep : u.epoch < f.fee1.activationEpoch ∨ f.fee1.activationEpoch = f.fee2.activationEpoch
  · -- the second record stays: it is the first change, or the last one was in the same epoch
    rw [if_pos hkeep] at hsecond
    rw [← hsecond] at hactive
    refine ⟨.inr ⟨by omega, u, hmem, hnext.symm⟩, hfirstFee, ?_, ?_, fun v hv => ?_⟩
    · rw [hsecond]
      exact h.second.imp id fun ⟨v, hv, hv'⟩ => ⟨v, hleft hv, hv'⟩
    · rw [feeInForce_append_of_le hactive, hsecond]
      exact h.secondFee
    · rcases hcases v hv with hv | rfl
      · rcases h.between v hv with hlt | hlt
        · exact .inl (hsecond ▸ hlt)
        · have := hlast v hv
          rcases h.first with ⟨hnil, _⟩ | ⟨hlt', _⟩
          · rw [hnil] at hv; cases hv
          · exact .inr (by omega)
      · exact .inr hnext.symm
  · rw [if_neg hkeep] at hsecond
    rw [not_or, Nat.not_lt] at hkeep
    have hbefore : ∀ v ∈ updates, v.epoch < f.fee1.activationEpoch := by
      intro v hv
      rcases h.between v hv with hlt | hlt <;> omega
    refine ⟨.inr ⟨by rw [hsecond]; omega, u, hmem, hnext.symm⟩, hfirstFee, ?_, ?_, fun v hv => ?_⟩
    · rw [hsecond]
      rcases h.first with ⟨_, h₁, h₂⟩ | ⟨_, v, hv, hv'⟩
      · exact .inl h₁
      · exact .inr ⟨v, hleft hv, hv'⟩
    · rw [hsecond, feeInForce_append_of_le hkeep.1, feeInForce_of_lt hbefore]
      exact h.firstFee
    · rcases hcases v hv with hv | rfl
      · exact .inl (hsecond ▸ hbefore v hv)
      · exact .inr hnext.symm

/-- After any successful changes in epochs that do not go back. -/
lemma of_run {wallet : Pubkey} {f₀ : FeeConfig} (hnew : FeeConfig.new math wallet initial start = .ok f₀)
    (hsorted : updates.Pairwise fun u v => u.epoch ≤ v.epoch) (hstart : ∀ u ∈ updates, start ≤ u.epoch)
    (hrun : (updates.forM (FeeUpdate.exec math)).run f₀ = .ok () f) : FeeHistory initial start updates f := by
  refine forM_invariant (J := fun past f => past.Pairwise (fun u v => u.epoch ≤ v.epoch) →
    (∀ u ∈ past, start ≤ u.epoch) → FeeHistory initial start past f)
    (fun past u f f' ih hu hsorted hstart => ?_) (fun _ _ => .new hnew) hrun hsorted hstart
  obtain ⟨hpast, _, hlast⟩ := List.pairwise_append.1 hsorted
  have hstart' : ∀ v ∈ past, start ≤ v.epoch := fun v hv => hstart v (List.mem_append_left _ hv)
  refine (ih hpast hstart').update (hstart u (by simp)) (fun v hv => ?_) hu
  exact hlast v hv u (List.mem_singleton_self u)

end FeeHistory
end NcnProgram
