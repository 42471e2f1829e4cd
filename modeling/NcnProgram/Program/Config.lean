import NcnProgram.Lib.Run
import NcnProgram.Program.Voting

/-!
# The configuration and its parameters

Port of `program/src/admin_initialize_config.rs`. Each parameter has bounds of its own, which hold of a new
configuration and after every change of its parameters.
-/

namespace NcnProgram
open Lib NCNProgramError

namespace Config

/-- A parameter of `process_admin_initialize_config` within its bounds. -/
def checkBounds (value lo hi : ℕ) (error : NCNProgramError) : Except ProgramError Unit :=
  if lo ≤ value ∧ value ≤ hi then return () else throw (error : ProgramError)

/-- `process_admin_initialize_config`. `admin` is the admin of the NCN's account. -/
def processAdminInitializeConfig (math : PreciseMath) (clock : Clock) (ncn ncnFeeWallet admin ncnAdmin
    tieBreakerAdmin : Pubkey) (bump : UInt8) (epochsBeforeStall epochsAfterConsensusBeforeClose
    validSlotsAfterConsensus ncnFeeBps : ℕ) : Except ProgramError Config := do
  checkBounds epochsBeforeStall minEpochsBeforeStall maxEpochsBeforeStall invalidEpochsBeforeStall
  checkBounds epochsAfterConsensusBeforeClose minEpochsAfterConsensusBeforeClose
    maxEpochsAfterConsensusBeforeClose invalidEpochsBeforeClose
  checkBounds validSlotsAfterConsensus minValidSlotsAfterConsensus maxValidSlotsAfterConsensus
    invalidSlotsAfterConsensus
  if admin ≠ ncnAdmin then throw (incorrectNcnAdmin : ProgramError)
  else
    let feeConfig ← FeeConfig.new math ncnFeeWallet ncnFeeBps clock.epoch
    let config := Config.new ncn tieBreakerAdmin clock.epoch validSlotsAfterConsensus epochsBeforeStall
      epochsAfterConsensusBeforeClose feeConfig bump
    config.feeConfig.checkFeesOkay math clock.epoch
    return config

lemma checkBounds_ok {value lo hi : ℕ} {error : NCNProgramError} {u : Unit}
    (h : checkBounds value lo hi error = .ok u) : lo ≤ value ∧ value ≤ hi := by
  unfold checkBounds at h
  split at h
  · assumption
  · cases h

/-- A new configuration is within the bounds. -/
lemma processAdminInitializeConfig_accepted {math : PreciseMath} {clock : Clock} {ncn ncnFeeWallet admin ncnAdmin
    tieBreakerAdmin : Pubkey} {bump : UInt8} {stall close valid bps : ℕ} {c : Config}
    (h : processAdminInitializeConfig math clock ncn ncnFeeWallet admin ncnAdmin tieBreakerAdmin bump stall close
      valid bps = .ok c) : c.Accepted := by
  obtain ⟨_, hstall, h⟩ := bind_ok.1 h
  obtain ⟨_, hclose, h⟩ := bind_ok.1 h
  obtain ⟨_, hvalid, h⟩ := bind_ok.1 h
  split at h
  · cases h
  obtain ⟨_, _, h⟩ := bind_ok.1 h
  obtain ⟨_, _, h⟩ := bind_ok.1 h
  cases h
  exact ⟨checkBounds_ok hstall, checkBounds_ok hclose, checkBounds_ok hvalid⟩

/-- A parameter that is within the bounds stays so. -/
lemma getD_bounds {value : Option ℕ} {n lo hi : ℕ} (hvalue : ∀ m ∈ value, lo ≤ m ∧ m ≤ hi)
    (hn : lo ≤ n ∧ n ≤ hi) : lo ≤ value.getD n ∧ value.getD n ≤ hi := by
  cases value with
  | none => exact hn
  | some m => exact hvalue m rfl

/-- A change of the parameters keeps them within the bounds. -/
lemma Accepted.setParameters {c c' : Config} (hc : c.Accepted) {o₁ o₂ o₃ o₄ : Option ℕ} {u : Unit}
    (h : (Config.setParameters o₁ o₂ o₃ o₄).run c = .ok u c') : c'.Accepted := by
  obtain ⟨hstall, hclose, hvalid, rfl⟩ := setParameters_run_ok h
  exact ⟨getD_bounds hstall hc.epochsBeforeStall, getD_bounds hclose hc.epochsAfterConsensusBeforeClose,
    getD_bounds hvalid hc.validSlotsAfterConsensus⟩

end Config

/-- A successful change of the parameters. -/
def Epoch.SetsParameters (e e' : Epoch) : Prop :=
  ∃ ncn admin ncnAdmin o₁ o₂ o₃ o₄, (processAdminSetParameters ncn admin ncnAdmin o₁ o₂ o₃ o₄).run e = .ok () e'

/-- The parameters are within the bounds after every number of changes. -/
lemma Epoch.accepted_run {e e' : Epoch} (hrun : Run Epoch.SetsParameters e e') (hc : e.config.Accepted) :
    e'.config.Accepted := by
  refine hrun.invariant (I := fun e => e.config.Accepted) hc ?_
  rintro e₁ e₂ ⟨_, _, _, _, _, _, _, hset⟩ hc₁
  obtain ⟨c, hc, rfl⟩ := processAdminSetParameters_run_ok hset
  exact hc₁.setParameters hc

end NcnProgram
