import NcnProgram.Fees.Updates

/-!
# The fees in force after any changes

Two properties of the fees that a history of `update_fee_config` calls leaves behind. Every record passes the checks
of `FeeConfig::new`, in whatever epochs the calls were made: the record that a call changes is the one that its last
check looks at, and no other record is written except with a copy. And a change takes effect exactly one epoch later,
if the epochs do not go back. The wallet is not a part of the records: it is in force at once, and only
`FeeConfig::new` checks it.
-/

namespace NcnProgram
open Lib NCNProgramError

/-- Fees that the checks accept. -/
structure Fees.Okay (fees : Fees) : Prop where
  protocol : fees.protocolFeeBps = defaultProtocolFeeBps
  pos : 1 ≤ fees.protocolFeeBps + fees.ncnFeeBps
  le : fees.protocolFeeBps + fees.ncnFeeBps ≤ maxFeeBps

/-- The total of such fees. -/
lemma Fees.Okay.totalFeesBps {fees : Fees} (h : fees.Okay) :
    fees.totalFeesBps = .ok (fees.protocolFeeBps + fees.ncnFeeBps) := by
  have hle : fees.protocolFeeBps + fees.ncnFeeBps ≤ 10000 := h.le
  have hfirst : checkedAdd 64 0 fees.protocolFeeBps = some (0 + fees.protocolFeeBps) :=
    checkedAdd_of_lt (by omega)
  have hsecond : checkedAdd 64 (0 + fees.protocolFeeBps) fees.ncnFeeBps =
      some (0 + fees.protocolFeeBps + fees.ncnFeeBps) := checkedAdd_of_lt (by omega)
  refine bind_ok.2 ⟨_, by rw [hfirst]; rfl, ?_⟩
  rw [hsecond, Nat.zero_add]
  rfl

namespace FeeConfig
variable {math : PreciseMath} {f f' : FeeConfig} {epoch : ℕ} {u : Unit}

/-- The fees in force are one of the two records. -/
lemma currentFees_cases (f : FeeConfig) (epoch : ℕ) :
    f.currentFees epoch = f.fee1 ∨ f.currentFees epoch = f.fee2 := by
  unfold currentFees
  split
  · exact .inr rfl
  split
  · exact .inl rfl
  split
  · exact .inl rfl
  · exact .inr rfl

/-- Fees that pass the check. -/
lemma okay_of_check (h : f.checkFeesOkay math epoch = .ok ())
    (hprotocol : (f.currentFees epoch).protocolFeeBps = defaultProtocolFeeBps) :
    (f.currentFees epoch).Okay := by
  obtain ⟨_, _, h⟩ := bind_ok.1 h
  obtain ⟨_, _, h⟩ := bind_ok.1 h
  obtain ⟨total, htotal, h⟩ := bind_ok.1 h
  have hsum := Fees.totalFeesBps_ok htotal
  by_cases hle : total > maxFeeBps
  · simp only [if_pos hle] at h
    cases h
  by_cases hpos : total = 0
  · simp only [if_neg hle, if_pos hpos] at h
    cases h
  rw [hsum] at hle hpos
  exact ⟨hprotocol, Nat.pos_of_ne_zero hpos, Nat.le_of_not_lt hle⟩

/-- Starting a change only copies fees. -/
lemma startUpdate_copies (h : (startUpdate epoch).run f = .ok u f') :
    f'.ncnFeeWallet = f.ncnFeeWallet ∧ (f'.fee1 = f.fee1 ∨ f'.fee1 = f.fee2) ∧
      (f'.fee2 = f.fee1 ∨ f'.fee2 = f.fee2) := by
  obtain ⟨_, _, hg, h⟩ := run_bind_ok.1 h
  cases hg
  split at h
  · obtain ⟨_, _, hg, h⟩ := run_bind_ok.1 h
    cases hg
    obtain ⟨_, _, hg, h⟩ := run_bind_ok.1 h
    obtain ⟨_, rfl⟩ := run_ensure_ok.1 hg
    obtain ⟨fees, hx, rfl⟩ := onUpdatableFees_run_ok h
    cases hx
    unfold setUpdatable
    split
    · exact ⟨rfl, f.currentFees_cases epoch, .inr rfl⟩
    · exact ⟨rfl, .inl rfl, f.currentFees_cases epoch⟩
  · cases h
    exact ⟨rfl, .inl rfl, .inr rfl⟩

/-- Both records are accepted by the checks. -/
def Okay (f : FeeConfig) : Prop := f.fee1.Okay ∧ f.fee2.Okay

/-- Then the fees in force are, in every epoch. -/
lemma Okay.currentFees (h : f.Okay) (epoch : ℕ) : (f.currentFees epoch).Okay := by
  rcases f.currentFees_cases epoch with he | he
  · exact he ▸ h.1
  · exact he ▸ h.2

/-- New fees are. -/
lemma Okay.new {wallet : Pubkey} {bps : ℕ} (h : FeeConfig.new math wallet bps epoch = .ok f) :
    f.Okay ∧ f.ncnFeeWallet = wallet ∧ wallet ≠ .default := by
  unfold FeeConfig.new at h
  split at h
  · cases h
  rename_i hwallet
  split at h
  · cases h
  obtain ⟨fee, hfee, h⟩ := bind_ok.1 h
  obtain ⟨_, hcheck, h⟩ := bind_ok.1 h
  cases h
  have hprotocol : fee.protocolFeeBps = defaultProtocolFeeBps := by
    unfold Fees.new at hfee
    split at hfee
    · cases hfee; rfl
    · cases hfee
  have hsame : FeeConfig.currentFees ⟨protocolFeeWalletKey, wallet, fee, fee⟩ epoch = fee := by
    rcases currentFees_cases ⟨protocolFeeWalletKey, wallet, fee, fee⟩ epoch with he | he
    · exact he
    · exact he
  have hokay := okay_of_check hcheck (by rw [hsame]; exact hprotocol)
  rw [hsame] at hokay
  exact ⟨⟨hokay, hokay⟩, rfl, hwallet⟩

/-- So are they after a change, since the changed record is checked for the next epoch. -/
lemma Okay.update {bps : Option ℕ} {wallet : Option Pubkey} (h : f.Okay)
    (hrun : (updateFeeConfig math bps wallet epoch).run f = .ok u f') :
    f'.Okay ∧ f'.ncnFeeWallet = wallet.getD f.ncnFeeWallet := by
  obtain ⟨f₁, hstart, rfl, _, hcheck⟩ := updateFeeConfig_run_ok hrun
  obtain ⟨hwallet, hfee1, hfee2⟩ := startUpdate_copies hstart
  have hokay₁ : f₁.Okay := by
    constructor
    · rcases hfee1 with he | he
      · exact he ▸ h.1
      · exact he ▸ h.2
    · rcases hfee2 with he | he
      · exact he ▸ h.1
      · exact he ▸ h.2
  have hupdatable : (f₁.updatableFees epoch).Okay := by
    unfold updatableFees
    split
    · exact hokay₁.1
    · exact hokay₁.2
  have hchanged : (f₁.changedFees epoch bps).Okay := by
    rw [← currentFees_changed bps wallet]
    apply okay_of_check hcheck
    rw [currentFees_changed]
    exact hupdatable.protocol
  refine ⟨?_, by rw [← hwallet]; rfl⟩
  rw [changed, setUpdatable]
  split
  · exact ⟨hchanged, hokay₁.2⟩
  · exact ⟨hokay₁.1, hchanged⟩

end FeeConfig

/-- The wallets that changes set. -/
def walletsSet (updates : List FeeUpdate) : List Pubkey := updates.filterMap (·.newNcnFeeWallet)

/-- After any changes both records are accepted by the checks, and the wallet is the last one that was set. -/
lemma FeeConfig.Okay.run {math : PreciseMath} {wallet : Pubkey} {initial start : ℕ} {f₀ f : FeeConfig}
    (hnew : FeeConfig.new math wallet initial start = .ok f₀) {updates : List FeeUpdate}
    (hrun : (updates.forM (FeeUpdate.exec math)).run f₀ = .ok () f) :
    f.Okay ∧ f.ncnFeeWallet = (walletsSet updates).getLast?.getD wallet := by
  obtain ⟨hokay, hwallet, _⟩ := Okay.new hnew
  refine forM_invariant (J := fun past f => f.Okay ∧ f.ncnFeeWallet = (walletsSet past).getLast?.getD wallet)
    (fun past u f f' ih hu => ?_) ⟨hokay, hwallet⟩ hrun
  obtain ⟨hokay', hwallet'⟩ := ih.1.update hu
  refine ⟨hokay', ?_⟩
  rw [hwallet', ih.2, walletsSet, walletsSet, List.filterMap_append]
  cases hw : u.newNcnFeeWallet with
  | none => simp [hw]
  | some w => simp [hw]

/-- Whatever changes were made since the fees were created, in whatever epochs, the fees keep what their constructor
checks exactly if the last wallet that was set, if any, is not the default key. -/
theorem constructor_checks_kept_iff {math : PreciseMath} {wallet : Pubkey} {initial start : ℕ} {f₀ f : FeeConfig}
    (hnew : FeeConfig.new math wallet initial start = .ok f₀) {updates : List FeeUpdate}
    (hrun : (updates.forM (FeeUpdate.exec math)).run f₀ = .ok () f) :
    (f.ncnFeeWallet ≠ .default ∧ ∀ epoch, (f.currentFees epoch).protocolFeeBps = 400 ∧
      ∃ total, (f.currentFees epoch).totalFeesBps = .ok total ∧ 1 ≤ total ∧ total ≤ 10000) ↔
    (walletsSet updates).getLast? ≠ some .default := by
  obtain ⟨hokay, hwallet⟩ := FeeConfig.Okay.run hnew hrun
  obtain ⟨_, _, hne⟩ := FeeConfig.Okay.new hnew
  have hfees (epoch : ℕ) : (f.currentFees epoch).protocolFeeBps = 400 ∧
      ∃ total, (f.currentFees epoch).totalFeesBps = .ok total ∧ 1 ≤ total ∧ total ≤ 10000 := by
    have h := hokay.currentFees epoch
    exact ⟨h.protocol, _, h.totalFeesBps, h.pos, h.le⟩
  rw [hwallet]
  constructor
  · rintro ⟨hw, _⟩ hlast
    rw [hlast] at hw
    exact hw rfl
  · intro hlast
    refine ⟨?_, hfees⟩
    cases hset : (walletsSet updates).getLast? with
    | none => exact hne
    | some w =>
      intro he
      rw [hset] at hlast
      exact hlast (congrArg some he)

/-- A new wallet and a new fee. -/
theorem constructor_checks_kept_iff_two_updates :
    ∃ f₀ f, FeeConfig.new splMath 4 100 0 = .ok f₀ ∧
      (List.forM [⟨0, some 200, none⟩, ⟨1, none, some 5⟩] (FeeUpdate.exec splMath)).run f₀ = .ok () f ∧
      f.ncnFeeWallet ≠ .default := by
  let change := List.forM [⟨0, some 200, none⟩, ⟨1, none, some 5⟩] (FeeUpdate.exec splMath)
  let fees : Fees := ⟨0, defaultProtocolFeeBps, 100⟩
  let f₀ : FeeConfig := ⟨FeeConfig.protocolFeeWalletKey, 4, fees, fees⟩
  let f := commit change f₀
  have hnew : FeeConfig.new splMath 4 100 0 = .ok f₀ := by rfl
  have hf : change.run f₀ = .ok () f := Succeeds.run_eq (by decide +kernel)
  exact ⟨f₀, f, hnew, hf, ((constructor_checks_kept_iff hnew hf).2 (by decide)).1⟩

/-- The constructor refuses the default key as the wallet, and a change accepts it. -/
theorem constructor_checks_not_kept :
    FeeConfig.new splMath .default 100 0 = .error (defaultNcnWallet : ProgramError) ∧
      ∃ f₀ f, FeeConfig.new splMath 4 100 0 = .ok f₀ ∧
        (List.forM [⟨0, none, some .default⟩] (FeeUpdate.exec splMath)).run f₀ = .ok () f ∧
        f.ncnFeeWallet = .default := by
  let change := List.forM [⟨0, none, some .default⟩] (FeeUpdate.exec splMath)
  let fees : Fees := ⟨0, defaultProtocolFeeBps, 100⟩
  let f₀ : FeeConfig := ⟨FeeConfig.protocolFeeWalletKey, 4, fees, fees⟩
  have hnew : FeeConfig.new splMath 4 100 0 = .ok f₀ := by rfl
  exact ⟨by rfl, f₀, commit change f₀, hnew, Succeeds.run_eq (by decide +kernel), by decide +kernel⟩

/-! ## When a change takes effect -/

/-- The fees that are pending for the next epoch, or those in force if none are. -/
def FeeConfig.pendingFees (f : FeeConfig) (epoch : ℕ) : Fees :=
  if f.fee1.activationEpoch = epoch + 1 then f.fee1
  else if f.fee2.activationEpoch = epoch + 1 then f.fee2
  else f.currentFees epoch

/-- A change takes effect exactly one epoch later: in its own epoch the fees are as before, and from the next one on
they are the new ones, or the ones that were pending. The protocol's fee never changes, and a new wallet is in force
at once. -/
theorem change_takes_effect_next_epoch {math : PreciseMath} {wallet : Pubkey} {initial start : ℕ}
    {f₀ f f' : FeeConfig} (hnew : FeeConfig.new math wallet initial start = .ok f₀) {updates : List FeeUpdate}
    (hsorted : updates.Pairwise fun u v => u.epoch ≤ v.epoch) (hstart : ∀ u ∈ updates, start ≤ u.epoch)
    (hrun : (updates.forM (FeeUpdate.exec math)).run f₀ = .ok () f) {u : FeeUpdate} (hafter : start ≤ u.epoch)
    (hlast : ∀ v ∈ updates, v.epoch ≤ u.epoch) (hu : (u.exec math).run f = .ok () f') :
    ((f'.currentFees u.epoch).protocolFeeBps = (f.currentFees u.epoch).protocolFeeBps ∧
      (f'.currentFees u.epoch).ncnFeeBps = (f.currentFees u.epoch).ncnFeeBps) ∧
    (∀ epoch, u.epoch + 1 ≤ epoch → (f'.currentFees epoch).activationEpoch = u.epoch + 1 ∧
      (f'.currentFees epoch).ncnFeeBps = u.newNcnFeeBps.getD (f.pendingFees u.epoch).ncnFeeBps) ∧
    (∀ epoch, (f'.currentFees epoch).protocolFeeBps = (f.currentFees epoch).protocolFeeBps) ∧
    f'.ncnFeeWallet = u.newNcnFeeWallet.getD f.ncnFeeWallet := by
  obtain ⟨hokay, _⟩ := FeeConfig.Okay.run hnew hrun
  obtain ⟨hokay', hwallet⟩ := hokay.update hu
  have hprotocol (epoch : ℕ) :
      (f'.currentFees epoch).protocolFeeBps = (f.currentFees epoch).protocolFeeBps :=
    (hokay'.currentFees epoch).protocol.trans (hokay.currentFees epoch).protocol.symm
  have hhistory := FeeHistory.of_run hnew hsorted hstart hrun
  obtain ⟨horder, hactive, hnext⟩ := hhistory.order hafter hlast
  obtain ⟨hact₁, hfee₁, hfee₂⟩ := FeeConfig.updateFeeConfig_in_order horder hactive hu
  refine ⟨⟨hprotocol _, ?_⟩, ?_, hprotocol, hwallet⟩
  · -- in the epoch of the change, the second record is in force
    have hcurrent' : f'.currentFees u.epoch = f'.fee2 := by
      rw [FeeConfig.currentFees, if_pos (by omega)]
    rw [hcurrent', hfee₂]
    by_cases hpending : u.epoch < f.fee1.activationEpoch
    · rw [if_pos (.inl hpending), FeeConfig.currentFees, if_pos hpending]
    · have hcurrent : f.currentFees u.epoch = f.fee1 := by
        rw [FeeConfig.currentFees, if_neg hpending, if_neg (Nat.not_lt.2 hactive), if_pos horder]
      rw [hcurrent]
      split
      · rename_i hsame
        exact hhistory.same_fee (hsame.resolve_left hpending)
      · rfl
  · intro epoch hepoch
    have hcurrent' : f'.currentFees epoch = f'.fee1 := by
      have hle : f'.fee2.activationEpoch ≤ u.epoch + 1 := by
        rw [hfee₂]
        split <;> omega
      rw [FeeConfig.currentFees, if_neg (by omega), if_neg (by omega), if_pos (by omega)]
    have hpending : f.pendingFees u.epoch = f.fee1 := by
      unfold FeeConfig.pendingFees
      split
      · rfl
      · rw [if_neg (by omega), FeeConfig.currentFees, if_neg (by omega), if_neg (by omega), if_pos horder]
    rw [hcurrent', hpending]
    exact ⟨hact₁, hfee₁⟩

/-- A second change in the same epoch that gives no fee keeps the one that is pending. -/
theorem change_takes_effect_next_epoch_twice :
    ∃ f f', (FeeUpdate.exec splMath ⟨0, none, some 5⟩).run f = .ok () f' ∧
      (f'.currentFees 0).ncnFeeBps = (f.currentFees 0).ncnFeeBps ∧ (f'.currentFees 1).ncnFeeBps = 200 ∧
      f'.ncnFeeWallet = 5 := by
  let updates : List FeeUpdate := [⟨0, some 200, none⟩]
  let change := updates.forM (FeeUpdate.exec splMath)
  let again := FeeUpdate.exec splMath ⟨0, none, some 5⟩
  let fees : Fees := ⟨0, defaultProtocolFeeBps, 100⟩
  let f₀ : FeeConfig := ⟨FeeConfig.protocolFeeWalletKey, 4, fees, fees⟩
  let f := commit change f₀
  let f' := commit again f
  have hnew : FeeConfig.new splMath 4 100 0 = .ok f₀ := by rfl
  have hf : change.run f₀ = .ok () f := Succeeds.run_eq (by decide +kernel)
  have hf' : again.run f = .ok () f' := Succeeds.run_eq (by decide +kernel)
  have hpending : (f.pendingFees 0).ncnFeeBps = 200 := by decide +kernel
  obtain ⟨⟨_, hsame⟩, hnext, _, hwallet⟩ := change_takes_effect_next_epoch hnew (List.pairwise_singleton _ _)
    (fun _ _ => Nat.zero_le _) hf (Nat.zero_le _) (by decide) hf'
  exact ⟨f, f', hf', hsame, (hnext 1 (Nat.le_refl 1)).2.trans hpending, hwallet⟩

end NcnProgram
