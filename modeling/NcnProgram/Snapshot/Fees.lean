import NcnProgram.Closing.Refinement
import NcnProgram.Fees.Updates

/-!
# The fees of a late snapshot

The snapshot of an epoch stores the fees that `FeeConfig::current_fees` finds for the epoch, and may be taken long
after the epoch. The two fee records remember the last change and the fees that were in force before it
(`FeeHistory`). Of an epoch before the last two changes in different epochs nothing is left, and `current_fees`
returns fees that were not in force yet.
-/

namespace NcnProgram
open Lib NCNProgramError

variable {initial start epoch : ℕ} {updates : List FeeUpdate} {f : FeeConfig}

/-- The fees found for an epoch were in force in it exactly if all changes from that epoch on were made in one
epoch. -/
lemma FeeHistory.currentFees_iff (h : FeeHistory initial start updates f) (hstart : start ≤ epoch) :
    ((f.currentFees epoch).activationEpoch ≤ epoch ∧
      (f.currentFees epoch).ncnFeeBps = feeInForce initial updates epoch) ↔
    ∀ u ∈ updates, ∀ v ∈ updates, epoch ≤ u.epoch → epoch ≤ v.epoch → u.epoch = v.epoch := by
  by_cases hpending : epoch < f.fee1.activationEpoch
  · have hcurrent : f.currentFees epoch = f.fee2 := if_pos hpending
    rw [hcurrent]
    constructor
    · rintro ⟨hle, _⟩ u hu v hv hu' hv'
      rcases h.between u hu with hlt | hlt
      · omega
      rcases h.between v hv with hlt' | hlt' <;> omega
    · intro hone
      obtain ⟨hlt, w, hw, hw'⟩ : f.fee2.activationEpoch < f.fee1.activationEpoch ∧
          ∃ u ∈ updates, u.epoch + 1 = f.fee1.activationEpoch :=
        h.first.resolve_left fun ⟨_, h₁, _⟩ => by omega
      have hle : f.fee2.activationEpoch ≤ epoch := by
        rcases h.second with hsecond | ⟨u, hu, hu'⟩
        · omega
        · by_contra hgt
          have := hone u hu w hw (by omega) (by omega)
          omega
      refine ⟨hle, h.secondFee.trans (feeInForce_congr fun u hu => ?_)⟩
      rcases h.between u hu with hlt' | hlt' <;> omega
  · have hall : ∀ u ∈ updates, u.epoch < epoch := by
      intro u hu
      rcases h.first with ⟨hnil, _⟩ | ⟨hlt, _⟩
      · rw [hnil] at hu; cases hu
      · rcases h.between u hu with hlt' | hlt' <;> omega
    have hcurrent : f.currentFees epoch = f.fee1 := by
      have hle : f.fee2.activationEpoch ≤ f.fee1.activationEpoch := by
        rcases h.first with ⟨_, h₁, h₂⟩ | ⟨hlt, _⟩ <;> omega
      rw [FeeConfig.currentFees, if_neg hpending, if_neg (by omega), if_pos hle]
    rw [hcurrent]
    refine iff_of_true ⟨by omega, ?_⟩ fun u hu _ _ hu' _ => absurd (hall u hu) (by omega)
    rw [feeInForce_of_lt hall]
    exact h.firstFee

/-- Whatever changes were made since the NCN's fees were created, the fees that the snapshot of an epoch stores were
in force in the epoch exactly if all changes made in the epoch or later were made in one and the same epoch. -/
theorem late_snapshot_fees_iff {math : PreciseMath} {wallet : Pubkey} {initial start : ℕ} {f₀ f : FeeConfig}
    (hnew : FeeConfig.new math wallet initial start = .ok f₀) {updates : List FeeUpdate}
    (hsorted : updates.Pairwise fun u v => u.epoch ≤ v.epoch) (hstart : ∀ u ∈ updates, start ≤ u.epoch)
    (hrun : (updates.forM (FeeUpdate.exec math)).run f₀ = .ok () f) {s s₁ : Lifecycle} {clock : Clock}
    {bump : UInt8} {operatorCount : ℕ} (hconfig : s.accounts.config.feeConfig = f) (hepoch : start ≤ s.epoch)
    (hopen : (Lifecycle.processInitializeEpochSnapshot clock bump operatorCount).run s = .ok () s₁) :
    (s₁.accounts.epochSnapshot.fees.activationEpoch ≤ s.epoch ∧
      s₁.accounts.epochSnapshot.fees.ncnFeeBps = feeInForce initial updates s.epoch) ↔
    ∀ u ∈ updates, ∀ v ∈ updates, s.epoch ≤ u.epoch → s.epoch ≤ v.epoch → u.epoch = v.epoch := by
  have hhistory := FeeHistory.of_run hnew hsorted hstart hrun
  obtain ⟨_, _, _, _, _, _, rfl⟩ := Lifecycle.processInitializeEpochSnapshot_ok hopen
  rw [← hconfig] at hhistory
  exact hhistory.currentFees_iff hepoch

/-- The small epoch before it has any accounts, with other fees. -/
def Lifecycle.smallWithFees (f : FeeConfig) : Lifecycle :=
  { small with accounts := { small.accounts with config := { small.accounts.config with feeConfig := f } } }

/-- Two changes in epoch zero take effect later, and its snapshot stores the first fees in epoch two. -/
theorem late_snapshot_fees_iff_one_epoch :
    ∃ s s₁, s.epoch = 0 ∧
      (Lifecycle.processInitializeEpochSnapshot ⟨2 * defaultSlotsPerEpoch, 2⟩ 0 1).run s = .ok () s₁ ∧
      s₁.accounts.epochSnapshot.fees.activationEpoch ≤ s.epoch ∧
      s₁.accounts.epochSnapshot.fees.ncnFeeBps = 100 := by
  let updates : List FeeUpdate := [⟨0, some 200, none⟩, ⟨0, some 300, none⟩]
  let change := updates.forM (FeeUpdate.exec splMath)
  let setup := ((Lifecycle.smallRun false).take 5).forM (Lifecycle.exec Lifecycle.smallCluster)
  let snapshot := Lifecycle.processInitializeEpochSnapshot ⟨2 * defaultSlotsPerEpoch, 2⟩ 0 1
  let fees : Fees := ⟨0, defaultProtocolFeeBps, 100⟩
  let f₀ : FeeConfig := ⟨FeeConfig.protocolFeeWalletKey, 4, fees, fees⟩
  let f := commit change f₀
  let s := commit setup (Lifecycle.smallWithFees f)
  let s₁ := commit snapshot s
  have hnew : FeeConfig.new splMath 4 100 0 = .ok f₀ := by rfl
  have hf : change.run f₀ = .ok () f := Succeeds.run_eq (by decide +kernel)
  have hs₁ : snapshot.run s = .ok () s₁ := Succeeds.run_eq (by decide +kernel)
  have hconfig : s.accounts.config.feeConfig = f := by decide +kernel
  have hepoch : s.epoch = 0 := by decide +kernel
  have hsorted : updates.Pairwise fun u v => u.epoch ≤ v.epoch := by decide
  have hone : ∀ u ∈ updates, u.epoch = 0 := by decide
  clear_value s s₁ f
  obtain ⟨hactive, hfee⟩ := (late_snapshot_fees_iff hnew hsorted (fun _ _ => Nat.zero_le _) hf hconfig
    (Nat.zero_le _) hs₁).2 fun u hu v hv _ _ => (hone u hu).trans (hone v hv).symm
  refine ⟨s, s₁, hepoch, hs₁, hactive, hfee.trans ?_⟩
  rw [hepoch]
  rfl

/-- After changes in the epochs zero and one, the snapshot of epoch zero stores the fees of epoch one. -/
theorem late_snapshot_fees_not_in_force :
    ∃ f₀ f s s₁, FeeConfig.new splMath 4 100 0 = .ok f₀ ∧
      (List.forM [⟨0, some 200, none⟩, ⟨1, some 300, none⟩] (FeeUpdate.exec splMath)).run f₀ = .ok () f ∧
      Run (Lifecycle.Step Lifecycle.smallCluster) (Lifecycle.smallWithFees f) s ∧ s.epoch = 0 ∧
      s.accounts.config.feeConfig = f ∧
      (Lifecycle.processInitializeEpochSnapshot ⟨2 * defaultSlotsPerEpoch, 2⟩ 0 1).run s = .ok () s₁ ∧
      s₁.accounts.epochSnapshot.fees = ⟨1, defaultProtocolFeeBps, 200⟩ ∧
      feeInForce 100 [⟨0, some 200, none⟩, ⟨1, some 300, none⟩] 0 = 100 := by
  let change := List.forM [⟨0, some 200, none⟩, ⟨1, some 300, none⟩] (FeeUpdate.exec splMath)
  let setup := ((Lifecycle.smallRun false).take 5).forM (Lifecycle.exec Lifecycle.smallCluster)
  let snapshot := Lifecycle.processInitializeEpochSnapshot ⟨2 * defaultSlotsPerEpoch, 2⟩ 0 1
  let fees : Fees := ⟨0, defaultProtocolFeeBps, 100⟩
  let f₀ : FeeConfig := ⟨FeeConfig.protocolFeeWalletKey, 4, fees, fees⟩
  let f := commit change f₀
  let s := commit setup (Lifecycle.smallWithFees f)
  let s₁ := commit snapshot s
  have hnew : FeeConfig.new splMath 4 100 0 = .ok f₀ := by rfl
  have hf : change.run f₀ = .ok () f := Succeeds.run_eq (by decide +kernel)
  have hs : setup.run (Lifecycle.smallWithFees f) = .ok () s := Succeeds.run_eq (by decide +kernel)
  have hs₁ : snapshot.run s = .ok () s₁ := Succeeds.run_eq (by decide +kernel)
  have hconfig : s.accounts.config.feeConfig = f := by decide +kernel
  have hepoch : s.epoch = 0 := by decide +kernel
  have hfees : s₁.accounts.epochSnapshot.fees = ⟨1, defaultProtocolFeeBps, 200⟩ := by decide +kernel
  clear_value s s₁ f
  exact ⟨f₀, f, s, s₁, hnew, hf, Run.of_forM _ hs, hepoch, hconfig, hs₁, hfees, by decide⟩

end NcnProgram
