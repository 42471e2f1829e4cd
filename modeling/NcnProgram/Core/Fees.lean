import NcnProgram.Core.PreciseNumber

/-!
# Fees

Port of `core/src/fees.rs`. The fees of an NCN are kept in two records, each with the epoch from which it is in
force. A change of the fees is made in one of them, and takes effect in the next epoch.
-/

namespace NcnProgram
open Lib NCNProgramError

/-- The fees from one epoch on, in basis points (`Fees`). -/
structure Fees where
  activationEpoch : ℕ
  protocolFeeBps : ℕ
  ncnFeeBps : ℕ
deriving DecidableEq

/-- `Fees::total_fees_bps`. -/
def Fees.totalFeesBps (self : Fees) : Except ProgramError ℕ := do
  let total ← okOr (checkedAdd 64 0 self.protocolFeeBps) (arithmeticOverflow : ProgramError)
  okOr (checkedAdd 64 total self.ncnFeeBps) (arithmeticOverflow : ProgramError)

/-- `MAX_FEE_BPS`. -/
def maxFeeBps : ℕ := 10000

/-- `Fees::PROTOCOL_FEE_BPS`. -/
def defaultProtocolFeeBps : ℕ := 400

/-- `Fees::set_ncn_fee_bps`. -/
def Fees.setNcnFeeBps (value : ℕ) : Mut Fees Unit := do
  ensure (value ≤ maxFeeBps) (feeCapExceeded : ProgramError)
  modify ({ · with ncnFeeBps := value })

/-- `Fees::new`. -/
def Fees.new (defaultNcnFeeBps epoch : ℕ) : Except ProgramError Fees :=
  if defaultNcnFeeBps ≤ maxFeeBps then return ⟨epoch, defaultProtocolFeeBps, defaultNcnFeeBps⟩
  else throw (feeCapExceeded : ProgramError)

/-- The fees of an NCN: the current record and the previous or next one (`FeeConfig`). -/
structure FeeConfig where
  protocolFeeWallet : Pubkey
  ncnFeeWallet : Pubkey
  fee1 : Fees
  fee2 : Fees
deriving DecidableEq

/-- `FeeConfig::current_fees`. -/
def FeeConfig.currentFees (self : FeeConfig) (currentEpoch : ℕ) : Fees :=
  if self.fee1.activationEpoch > currentEpoch then self.fee2
  else if self.fee2.activationEpoch > currentEpoch then self.fee1
  else if self.fee1.activationEpoch ≥ self.fee2.activationEpoch then self.fee1
  else self.fee2

namespace FeeConfig

/-- `FeeConfig::PROTOCOL_FEE_WALLET`, `5eosrve6LktMZgVNszYzebgmmC7BjLK8NoWyRQtcmGTF`. -/
def protocolFeeWalletKey : Pubkey := 0x451e3dd50d3b7b8536045c2b7ac2ec259473ebc25ae3bcbe1fbeb17d52fbc7be#256

/-- `FeeConfig::check_fees_okay`. -/
def checkFeesOkay (math : PreciseMath) (self : FeeConfig) (currentEpoch : ℕ) : Except ProgramError Unit := do
  let fees := self.currentFees currentEpoch
  let _ ← okOr (math.new fees.protocolFeeBps) (newPreciseNumberError : ProgramError)
  let _ ← okOr (math.new fees.ncnFeeBps) (newPreciseNumberError : ProgramError)
  let totalFeesBps ← fees.totalFeesBps
  if totalFeesBps > maxFeeBps then throw (feeCapExceeded : ProgramError)
  if totalFeesBps = 0 then throw (totalFeesCannotBeZero : ProgramError)

/-- `FeeConfig::new`: both records have the same fees. -/
def new (math : PreciseMath) (ncnFeeWallet : Pubkey) (defaultNcnFeeBps currentEpoch : ℕ) :
    Except ProgramError FeeConfig :=
  if ncnFeeWallet = .default then throw (defaultNcnWallet : ProgramError)
  else if defaultNcnFeeBps > maxFeeBps then throw (feeCapExceeded : ProgramError)
  else do
    let fee ← Fees.new defaultNcnFeeBps currentEpoch
    let feeConfig : FeeConfig := ⟨protocolFeeWalletKey, ncnFeeWallet, fee, fee⟩
    feeConfig.checkFeesOkay math currentEpoch
    return feeConfig

/-- Whether `FeeConfig::updatable_fees` is the first record. -/
def updatesFirst (self : FeeConfig) (currentEpoch : ℕ) : Bool :=
  if self.fee1.activationEpoch > currentEpoch then true
  else if self.fee2.activationEpoch > currentEpoch then false
  else decide (self.fee1.activationEpoch ≤ self.fee2.activationEpoch)

/-- `FeeConfig::updatable_fees`. -/
def updatableFees (self : FeeConfig) (currentEpoch : ℕ) : Fees :=
  if self.updatesFirst currentEpoch then self.fee1 else self.fee2

/-- Runs a method of the updatable fees. -/
def onUpdatableFees (currentEpoch : ℕ) (x : Mut Fees Unit) : Mut FeeConfig Unit :=
  zoom (·.updatableFees currentEpoch)
    (fun fees c => if c.updatesFirst currentEpoch then { c with fee1 := fees } else { c with fee2 := fees }) x

/-- `FeeConfig::set_fees_to_current`. -/
def setFeesToCurrent (currentEpoch : ℕ) : Mut FeeConfig Unit := do
  let self ← get
  ensure (¬(self.fee1.activationEpoch > currentEpoch ∨ self.fee2.activationEpoch > currentEpoch))
    (feeNotActive : ProgramError)
  onUpdatableFees currentEpoch (set (self.currentFees currentEpoch))

/-- `FeeConfig::update_updatable_epoch`. -/
def updateUpdatableEpoch (currentEpoch : ℕ) : Mut FeeConfig Unit := do
  let nextEpoch ← okOr (checkedAdd 64 currentEpoch 1) (arithmeticOverflow : ProgramError)
  onUpdatableFees currentEpoch (modify ({ · with activationEpoch := nextEpoch }))

/-- `FeeConfig::set_ncn_fee_bps`. -/
def setNcnFeeBps (value currentEpoch : ℕ) : Mut FeeConfig Unit :=
  onUpdatableFees currentEpoch (Fees.setNcnFeeBps value)

/-- The first part of `update_fee_config`: a change starts from the fees in force. -/
def startUpdate (currentEpoch : ℕ) : Mut FeeConfig Unit := do
  if ((← get).updatableFees currentEpoch).activationEpoch ≤ currentEpoch then
    setFeesToCurrent currentEpoch

/-- `FeeConfig::update_fee_config`. Which record is updatable is looked up again at every step. -/
def updateFeeConfig (math : PreciseMath) (newNcnFeeBps : Option ℕ) (newNcnFeeWallet : Option Pubkey)
    (currentEpoch : ℕ) : Mut FeeConfig Unit := do
  startUpdate currentEpoch
  newNcnFeeBps.forM (setNcnFeeBps · currentEpoch)
  newNcnFeeWallet.forM fun wallet => modify ({ · with ncnFeeWallet := wallet })
  updateUpdatableEpoch currentEpoch
  ofExcept ((← get).checkFeesOkay math currentEpoch)
  let nextEpoch ← okOr (checkedAdd 64 currentEpoch 1) (arithmeticOverflow : ProgramError)
  ofExcept ((← get).checkFeesOkay math nextEpoch)

end FeeConfig

lemma Fees.totalFeesBps_ok {fees : Fees} {n : ℕ} (h : fees.totalFeesBps = .ok n) :
    n = fees.protocolFeeBps + fees.ncnFeeBps := by
  obtain ⟨total, h₁, h₂⟩ := bind_ok.1 h
  cases h₀ : checkedAdd 64 0 fees.protocolFeeBps with
  | none => rw [h₀] at h₁; cases h₁
  | some m =>
    rw [h₀] at h₁
    cases h₁
    cases h₃ : checkedAdd 64 total fees.ncnFeeBps with
    | none => rw [h₃] at h₂; cases h₂
    | some k =>
      rw [h₃] at h₂
      cases h₂
      rw [(checkedAdd_eq_some.1 h₃).2, (checkedAdd_eq_some.1 h₀).2, Nat.zero_add]

end NcnProgram
