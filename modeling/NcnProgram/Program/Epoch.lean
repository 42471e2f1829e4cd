import NcnProgram.Core.BallotBox
import NcnProgram.Core.Config
import NcnProgram.Core.ConsensusResult
import NcnProgram.Core.EpochState
import NcnProgram.Core.NcnRewardRouter
import NcnProgram.Core.OperatorVaultRewardRouter

/-!
# The accounts of one epoch

The instructions of the program find the accounts of an NCN's epoch at derived addresses and check owner,
address and discriminator before they touch the data; an `Epoch` is what they find when those checks pass.
The accounts that belong to one operator are looked up by the operator's key and may not exist yet. The two
kinds of reward receivers carry no data, so only their lamports are kept.
-/

namespace NcnProgram
open Lib NCNProgramError

/-- The accounts of one epoch of an NCN. -/
structure Epoch where
  config : Config
  epochState : EpochState
  weightTable : WeightTable
  epochSnapshot : EpochSnapshot
  operatorSnapshot : Pubkey → Option OperatorSnapshot
  ballotBox : BallotBox
  consensusResult : ConsensusResult
  ncnRewardRouter : NCNRewardRouter
  ncnRewardReceiver : ℕ
  operatorVaultRewardRouter : Pubkey → Option OperatorVaultRewardRouter
  operatorVaultRewardReceiver : Pubkey → ℕ

/-- The cluster's clock: the slot and the epoch of the transaction. -/
structure Clock where
  slot : ℕ
  epoch : ℕ
deriving DecidableEq

namespace Epoch

/-- An epoch whose accounts have just been initialized, with none of the operators' yet. The bumps are not
looked at by anything that follows. -/
def initialized (config : Config) (weightTable : WeightTable) (epoch slot operatorCount : ℕ)
    (fees : Fees) : Epoch where
  config := config
  epochState := .initialized config.ncn epoch 0 slot
  weightTable := weightTable
  epochSnapshot := .new config.ncn epoch 0 slot operatorCount weightTable.vaultCount fees
  operatorSnapshot := fun _ => none
  ballotBox := .new config.ncn epoch 0 slot
  consensusResult := .new config.ncn epoch 0
  ncnRewardRouter := .new config.ncn epoch 0 slot
  ncnRewardReceiver := 0
  operatorVaultRewardRouter := fun _ => none
  operatorVaultRewardReceiver := fun _ => 0

/-- Runs a method of the epoch state. -/
def onEpochState {α : Type} (x : Mut EpochState α) : Mut Epoch α :=
  zoom (·.epochState) (fun s e => { e with epochState := s }) x

/-- Runs a method of the epoch snapshot. -/
def onEpochSnapshot {α : Type} (x : Mut EpochSnapshot α) : Mut Epoch α :=
  zoom (·.epochSnapshot) (fun s e => { e with epochSnapshot := s }) x

/-- Runs a method of the ballot box. -/
def onBallotBox {α : Type} (x : Mut BallotBox α) : Mut Epoch α :=
  zoom (·.ballotBox) (fun b e => { e with ballotBox := b }) x

/-- Runs a method of the NCN reward router. -/
def onNcnRewardRouter {α : Type} (x : Mut NCNRewardRouter α) : Mut Epoch α :=
  zoom (·.ncnRewardRouter) (fun r e => { e with ncnRewardRouter := r }) x

/-- Writes the snapshot of an operator. -/
def setOperatorSnapshot (operator : Pubkey) (s : OperatorSnapshot) (e : Epoch) : Epoch :=
  { e with operatorSnapshot := Function.update e.operatorSnapshot operator (some s) }

/-- Writes the reward router of an operator. -/
def setOperatorVaultRewardRouter (operator : Pubkey) (r : OperatorVaultRewardRouter) (e : Epoch) :
    Epoch :=
  { e with operatorVaultRewardRouter := Function.update e.operatorVaultRewardRouter operator (some r) }

/-- Writes the lamports of an operator's reward receiver. -/
def setOperatorVaultRewardReceiver (operator : Pubkey) (lamports : ℕ) (e : Epoch) : Epoch :=
  { e with operatorVaultRewardReceiver := Function.update e.operatorVaultRewardReceiver operator lamports }

/-- Runs a method of an operator's snapshot, which has to exist. -/
def onOperatorSnapshot {α : Type} (operator : Pubkey) (x : Mut OperatorSnapshot α) : Mut Epoch α := do
  let s ← okOr ((← get).operatorSnapshot operator) ProgramError.invalidAccountOwner
  zoom (fun _ => s) (setOperatorSnapshot operator) x

/-- Runs a method of an operator's reward router, which has to exist. -/
def onOperatorVaultRewardRouter {α : Type} (operator : Pubkey) (x : Mut OperatorVaultRewardRouter α) :
    Mut Epoch α := do
  let r ← okOr ((← get).operatorVaultRewardRouter operator) ProgramError.invalidAccountOwner
  zoom (fun _ => r) (setOperatorVaultRewardRouter operator) x

/-! ## Looking up what was written -/

variable {e : Epoch} {operator : Pubkey}

@[simp] lemma operatorSnapshot_setOperatorSnapshot {s : OperatorSnapshot} :
    (e.setOperatorSnapshot operator s).operatorSnapshot operator = some s :=
  Function.update_self ..

@[simp] lemma operatorVaultRewardRouter_setOperatorVaultRewardRouter {r : OperatorVaultRewardRouter} :
    (e.setOperatorVaultRewardRouter operator r).operatorVaultRewardRouter operator = some r :=
  Function.update_self ..

@[simp] lemma operatorVaultRewardReceiver_setOperatorVaultRewardReceiver {lamports : ℕ} :
    (e.setOperatorVaultRewardReceiver operator lamports).operatorVaultRewardReceiver operator = lamports :=
  Function.update_self ..

/-- A method of the epoch state runs on it. -/
lemma onEpochState_run {α : Type} {x : Mut EpochState α} {st : EpochState} {a : α}
    (hx : x.run e.epochState = .ok a st) : (onEpochState x).run e = .ok a { e with epochState := st } := by
  rw [onEpochState, run_zoom, hx]

/-- A method of a router that exists runs on it. -/
lemma onOperatorVaultRewardRouter_run {α : Type} {x : Mut OperatorVaultRewardRouter α}
    {r r' : OperatorVaultRewardRouter} {a : α} (hr : e.operatorVaultRewardRouter operator = some r)
    (hx : x.run r = .ok a r') :
    (onOperatorVaultRewardRouter operator x).run e = .ok a (e.setOperatorVaultRewardRouter operator r') := by
  simp only [onOperatorVaultRewardRouter, EStateM.run_bind, EStateM.run_get, hr, okOr_some,
    EStateM.run_pure, run_zoom, hx]

end Epoch
end NcnProgram
