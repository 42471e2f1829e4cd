import NcnProgram.Core.Basic
import NcnProgram.Lib.Table

/-!
# The state of an epoch

Port of `core/src/epoch_state.rs`: which accounts of the epoch exist, how far each phase has come, and
whether the epoch is being closed. The accounts of single operators are found by the operator's index in
the NCN, in tables of 256 slots; an index beyond them panics.
-/

namespace NcnProgram
open Lib NCNProgramError

/-- The life of an account of the epoch (`AccountStatus`). -/
inductive AccountStatus where
  | dne
  | created
  | createdWithReceiver
  | closed
deriving DecidableEq, Repr

/-- The status of each account of the epoch (`EpochAccountStatus`). -/
structure EpochAccountStatus where
  epochState : AccountStatus
  weightTable : AccountStatus
  epochSnapshot : AccountStatus
  operatorSnapshot : Table AccountStatus maxOperators
  ballotBox : AccountStatus
  ncnRewardRouter : AccountStatus
  operatorVaultRewardRouter : Table AccountStatus maxOperators
deriving DecidableEq

namespace EpochAccountStatus

/-- `EpochAccountStatus::default`. -/
protected def default : EpochAccountStatus :=
  ⟨.dne, .dne, .dne, .replicate _ .dne, .dne, .dne, .replicate _ .dne⟩

/-- An account of an operator is out of the way: never created, or closed. -/
def isGone (status : AccountStatus) : Bool := status == .dne || status == .closed

/-- `EpochAccountStatus::are_all_closed`: the operators' accounts may never have been created, the
others must have been closed. -/
def areAllClosed (self : EpochAccountStatus) : Bool :=
  self.weightTable == .closed && self.epochSnapshot == .closed &&
    self.operatorSnapshot.toList.all isGone && self.ballotBox == .closed &&
    self.ncnRewardRouter == .closed && self.operatorVaultRewardRouter.toList.all isGone

end EpochAccountStatus

/-- A counter on its way to a total (`Progress`). -/
structure Progress where
  tally : ℕ
  total : ℕ
deriving DecidableEq

namespace Progress

/-- `Progress::INVALID`. -/
def invalid : ℕ := u64Max

/-- `Progress::new`. -/
def new (total : ℕ) : Progress := ⟨0, total⟩

/-- `Progress::increment`. -/
def increment (amount : ℕ) : Mut Progress Unit := do
  let self ← get
  let tally ← okOr (checkedAdd 64 self.tally amount) (arithmeticOverflow : ProgramError)
  set { self with tally }

/-- `let _ = progress.increment(amount)`: an overflow is ignored. -/
def tryIncrement (amount : ℕ) (self : Progress) : Progress := commit (increment amount) self

/-- One step further. -/
def next (self : Progress) : Progress := ⟨self.tally + 1, self.total⟩

lemma increment_run_ok {amount : ℕ} {p p' : Progress} {u : Unit}
    (h : (increment amount).run p = .ok u p') : p' = ⟨p.tally + amount, p.total⟩ := by
  obtain ⟨_, _, hg, h⟩ := run_bind_ok.1 h
  cases hg
  obtain ⟨n, _, hg, h⟩ := run_bind_ok.1 h
  obtain ⟨hn, rfl⟩ := run_okOr_ok.1 hg
  cases h
  rw [(checkedAdd_eq_some.1 hn).2]

/-- An increment that fits is not ignored. -/
lemma tryIncrement_of_lt {amount : ℕ} {p : Progress} (h : p.tally + amount < 2 ^ 64) :
    p.tryIncrement amount = ⟨p.tally + amount, p.total⟩ := by
  refine commit_of_ok (a := ()) ?_
  simp only [increment, EStateM.run_bind, EStateM.run_get, checkedAdd_of_lt h]
  rfl

/-- `Progress::is_invalid`. -/
def isInvalid (self : Progress) : Bool := self.tally == invalid || self.total == invalid

/-- `Progress::is_complete`. -/
def isComplete (self : Progress) : Bool :=
  if self.isInvalid then false else decide (self.tally ≥ self.total)

/-- Progress is complete when it is valid and all is counted. -/
lemma isComplete_iff {p : Progress} : p.isComplete = true ↔ p.isInvalid = false ∧ p.total ≤ p.tally := by
  unfold isComplete
  cases p.isInvalid <;> simp

end Progress

/-- The state of one epoch of an NCN (`EpochState`). -/
structure EpochState where
  ncn : Pubkey
  epoch : ℕ
  bump : UInt8
  slotCreated : ℕ
  wasTieBreakerSet : Bool
  slotConsensusReached : ℕ
  operatorCount : ℕ
  vaultCount : ℕ
  accountStatus : EpochAccountStatus
  setWeightProgress : Progress
  epochSnapshotProgress : Progress
  operatorSnapshotProgress : Table Progress maxOperators
  votingProgress : Progress
  totalDistributionProgress : Progress
  ncnDistributionProgress : Progress
  protocolDistributionProgress : Progress
  operatorVaultDistributionProgress : Progress
  operatorVaultRoutesDistributionProgress : Table Progress maxOperators
  isClosing : Bool
deriving DecidableEq

namespace EpochState

/-- `EpochState::initialize` on a new account, whose bytes are all zero; unlike `new`, it leaves every
progress at zero of zero. -/
def initialized (ncn : Pubkey) (epoch : ℕ) (bump : UInt8) (slotCreated : ℕ) : EpochState where
  ncn := ncn
  epoch := epoch
  bump := bump
  slotCreated := slotCreated
  wasTieBreakerSet := false
  slotConsensusReached := defaultConsensusReachedSlot
  operatorCount := 0
  vaultCount := 0
  accountStatus := .default
  setWeightProgress := ⟨0, 0⟩
  epochSnapshotProgress := ⟨0, 0⟩
  operatorSnapshotProgress := .replicate _ ⟨0, 0⟩
  votingProgress := ⟨0, 0⟩
  totalDistributionProgress := ⟨0, 0⟩
  ncnDistributionProgress := ⟨0, 0⟩
  protocolDistributionProgress := ⟨0, 0⟩
  operatorVaultDistributionProgress := ⟨0, 0⟩
  operatorVaultRoutesDistributionProgress := .replicate _ ⟨0, 0⟩
  isClosing := false

/-- `EpochState::is_consensus_reached`. -/
def isConsensusReached (self : EpochState) : Bool :=
  self.slotConsensusReached != defaultConsensusReachedSlot

/-- `EpochState::get_slot_consensus_reached`. -/
def getSlotConsensusReached (self : EpochState) : Except ProgramError ℕ :=
  if self.slotConsensusReached = defaultConsensusReachedSlot then
    throw (consensusNotReached : ProgramError)
  else
    return self.slotConsensusReached

/-- Applies a change of the account status. -/
def onStatus (f : EpochAccountStatus → EpochAccountStatus) (self : EpochState) : EpochState :=
  { self with accountStatus := f self.accountStatus }

/-! ## Updaters -/

/-- `EpochState::update_realloc_epoch_state`. -/
def updateReallocEpochState : EpochState → EpochState := onStatus ({ · with epochState := .created })

/-- `EpochState::update_realloc_weight_table`. -/
def updateReallocWeightTable (vaultCount stMintCount : ℕ) (self : EpochState) : EpochState :=
  { self.onStatus ({ · with weightTable := .created }) with
    vaultCount, setWeightProgress := .new stMintCount }

/-- `EpochState::update_set_weight`. -/
def updateSetWeight (weightsSet stMintCount : ℕ) (self : EpochState) : EpochState :=
  { self with setWeightProgress := ⟨weightsSet, stMintCount⟩ }

/-- `EpochState::update_initialize_epoch_snapshot`. -/
def updateInitializeEpochSnapshot (operatorCount : ℕ) (self : EpochState) : EpochState :=
  { self.onStatus ({ · with epochSnapshot := .created }) with
    operatorCount, epochSnapshotProgress := .new operatorCount }

/-- Increments the progress of the epoch's snapshot. -/
def incrementEpochSnapshotProgress : Mut EpochState Unit :=
  zoom (·.epochSnapshotProgress) (fun p s => { s with epochSnapshotProgress := p }) (Progress.increment 1)

/-- `EpochState::operator_snapshot_progress`. -/
def operatorProgress (self : EpochState) (i : ℕ) : Progress :=
  (self.operatorSnapshotProgress.get? i).getD ⟨0, 0⟩

/-- Increments the progress of one operator's snapshot. -/
def incrementOperatorSnapshotProgress (i : ℕ) : Mut EpochState Unit :=
  zoom (·.operatorProgress i)
    (fun p s => { s with operatorSnapshotProgress := s.operatorSnapshotProgress.set i p })
    (Progress.increment 1)

/-- `EpochState::update_realloc_operator_snapshot`: an inactive operator is done at once. -/
def updateReallocOperatorSnapshot (ncnOperatorIndex : ℕ) (isActive : Bool) : Mut EpochState Unit := do
  ensure (ncnOperatorIndex < maxOperators) (.panicked .outOfBounds)
  modify (onStatus fun a =>
    { a with operatorSnapshot := a.operatorSnapshot.set ncnOperatorIndex .created })
  let self ← get
  if isActive then
    set { self with
      operatorSnapshotProgress := self.operatorSnapshotProgress.set ncnOperatorIndex (.new self.vaultCount) }
  else
    set { self with
      operatorSnapshotProgress := self.operatorSnapshotProgress.set ncnOperatorIndex (.new 1) }
    incrementOperatorSnapshotProgress ncnOperatorIndex
    incrementEpochSnapshotProgress

/-- `EpochState::update_snapshot_vault_operator_delegation`. -/
def updateSnapshotVaultOperatorDelegation (ncnOperatorIndex : ℕ) (finalized : Bool) :
    Mut EpochState Unit := do
  ensure (ncnOperatorIndex < maxOperators) (.panicked .outOfBounds)
  incrementOperatorSnapshotProgress ncnOperatorIndex
  if finalized then incrementEpochSnapshotProgress

/-- `EpochState::update_realloc_ballot_box`. -/
def updateReallocBallotBox (self : EpochState) : EpochState :=
  { self.onStatus ({ · with ballotBox := .created }) with votingProgress := .new self.operatorCount }

/-- `EpochState::update_cast_vote`. -/
def updateCastVote (operatorsVoted : ℕ) (isConsensusReached : Bool) (currentSlot : ℕ)
    (self : EpochState) : EpochState :=
  let slotConsensusReached :=
    if isConsensusReached && !self.isConsensusReached then currentSlot else self.slotConsensusReached
  { self with slotConsensusReached, votingProgress.tally := operatorsVoted }

/-- `EpochState::update_set_tie_breaker`. -/
def updateSetTieBreaker (isConsensusReached : Bool) (currentSlot : ℕ) (self : EpochState) :
    EpochState :=
  if isConsensusReached && !self.isConsensusReached then
    { self with slotConsensusReached := currentSlot, wasTieBreakerSet := true }
  else self

/-- A tie breaker writes two fields, or none. -/
lemma updateSetTieBreaker_eq (isConsensusReached : Bool) (currentSlot : ℕ) (self : EpochState) :
    self.updateSetTieBreaker isConsensusReached currentSlot = { self with
      slotConsensusReached :=
        if isConsensusReached && !self.isConsensusReached then currentSlot else self.slotConsensusReached
      wasTieBreakerSet := isConsensusReached && !self.isConsensusReached || self.wasTieBreakerSet } := by
  cases h : isConsensusReached && !self.isConsensusReached <;> simp [updateSetTieBreaker, h]

/-- `EpochState::update_realloc_ncn_reward_router`. -/
def updateReallocNcnRewardRouter (self : EpochState) : EpochState :=
  { self.onStatus ({ · with ncnRewardRouter := .createdWithReceiver }) with
    ncnDistributionProgress := .new 0
    protocolDistributionProgress := .new 0
    operatorVaultDistributionProgress := .new 0 }

/-- `EpochState::update_realloc_operator_vault_reward_router`. -/
def updateReallocOperatorVaultRewardRouter (operatorIndex : ℕ) : Mut EpochState Unit := do
  ensure (operatorIndex < maxOperators) (.panicked .outOfBounds)
  modify (onStatus fun a => { a with
    operatorVaultRewardRouter := a.operatorVaultRewardRouter.set operatorIndex .createdWithReceiver })
  modify fun s => { s with operatorVaultRoutesDistributionProgress :=
    s.operatorVaultRoutesDistributionProgress.set operatorIndex (.new 0) }

/-- `EpochState::update_route_ncn_rewards`, `update_route_protocol_rewards` and
`update_route_total_rewards`, in the order `process_route_ncn_rewards` calls them. -/
def updateRouteRewards (ncnRewards protocolRewards totalRewards : ℕ) (self : EpochState) :
    EpochState :=
  { self with
    ncnDistributionProgress.total := ncnRewards
    protocolDistributionProgress.total := protocolRewards
    totalDistributionProgress.total := totalRewards }

/-- `EpochState::update_route_operator_vault_rewards`. -/
def updateRouteOperatorVaultRewards (operatorIndex totalRewards : ℕ) : Mut EpochState Unit := do
  ensure (operatorIndex < maxOperators) (.panicked .outOfBounds)
  let self ← get
  let progress := (self.operatorVaultRoutesDistributionProgress.get? operatorIndex).getD ⟨0, 0⟩
  set { self with operatorVaultRoutesDistributionProgress :=
    self.operatorVaultRoutesDistributionProgress.set operatorIndex ⟨progress.tally, totalRewards⟩ }

/-- `EpochState::update_distribute_ncn_rewards`. -/
def updateDistributeNcnRewards (rewards : ℕ) (self : EpochState) : EpochState :=
  { self with
    totalDistributionProgress := self.totalDistributionProgress.tryIncrement rewards
    ncnDistributionProgress := self.ncnDistributionProgress.tryIncrement rewards }

/-- `EpochState::update_distribute_protocol_rewards`. -/
def updateDistributeProtocolRewards (rewards : ℕ) (self : EpochState) : EpochState :=
  { self with
    totalDistributionProgress := self.totalDistributionProgress.tryIncrement rewards
    protocolDistributionProgress := self.protocolDistributionProgress.tryIncrement rewards }

/-- `EpochState::update_distribute_operator_vault_rewards`. -/
def updateDistributeOperatorVaultRewards (rewards : ℕ) (self : EpochState) : EpochState :=
  { self with
    operatorVaultDistributionProgress := self.operatorVaultDistributionProgress.tryIncrement rewards }

/-- `EpochState::update_distribute_operator_vault_route_rewards`. -/
def updateDistributeOperatorVaultRouteRewards (operatorIndex rewards : ℕ) : Mut EpochState Unit := do
  modify fun s => { s with
    totalDistributionProgress := s.totalDistributionProgress.tryIncrement rewards }
  ensure (operatorIndex < maxOperators) (.panicked .outOfBounds)
  let self ← get
  let progress := (self.operatorVaultRoutesDistributionProgress.get? operatorIndex).getD ⟨0, 0⟩
  set { self with operatorVaultRoutesDistributionProgress :=
    self.operatorVaultRoutesDistributionProgress.set operatorIndex (progress.tryIncrement rewards) }

/-- What a successful increment does to the epoch's progress. -/
lemma incrementEpochSnapshotProgress_run_ok {s s' : EpochState} {u : Unit}
    (h : incrementEpochSnapshotProgress.run s = .ok u s') :
    s' = { s with epochSnapshotProgress := s.epochSnapshotProgress.next } := by
  obtain ⟨p, hp, rfl⟩ := run_zoom_ok.1 h
  rw [Progress.increment_run_ok hp]
  rfl

/-- What a successful increment does to an operator's progress. -/
lemma incrementOperatorSnapshotProgress_run_ok {i : ℕ} {s s' : EpochState} {u : Unit}
    (h : (incrementOperatorSnapshotProgress i).run s = .ok u s') :
    s' = { s with
      operatorSnapshotProgress := s.operatorSnapshotProgress.set i (s.operatorProgress i).next } := by
  obtain ⟨p, hp, rfl⟩ := run_zoom_ok.1 h
  rw [Progress.increment_run_ok hp]
  rfl

/-- What is written when an operator's snapshot is created. -/
lemma updateReallocOperatorSnapshot_run_ok {i : ℕ} {isActive : Bool} {s s' : EpochState} {u : Unit}
    (h : (updateReallocOperatorSnapshot i isActive).run s = .ok u s') :
    i < maxOperators ∧ s' = { s.onStatus (fun a => { a with
        operatorSnapshot := a.operatorSnapshot.set i .created }) with
      operatorSnapshotProgress := s.operatorSnapshotProgress.set i
        (if isActive then .new s.vaultCount else ⟨1, 1⟩)
      epochSnapshotProgress :=
        if isActive then s.epochSnapshotProgress else s.epochSnapshotProgress.next } := by
  obtain ⟨_, _, hg, h⟩ := run_bind_ok.1 h
  obtain ⟨hlt, rfl⟩ := run_ensure_ok.1 hg
  refine ⟨hlt, ?_⟩
  obtain ⟨_, _, hg, h⟩ := run_bind_ok.1 h
  cases hg
  obtain ⟨_, _, hg, h⟩ := run_bind_ok.1 h
  cases hg
  cases isActive with
  | true => cases h; rfl
  | false =>
    obtain ⟨_, _, hg, h⟩ := run_bind_ok.1 h
    cases hg
    obtain ⟨_, s₁, h₁, h₂⟩ := run_bind_ok.1 h
    rw [incrementEpochSnapshotProgress_run_ok h₂, incrementOperatorSnapshotProgress_run_ok h₁]
    simp only [onStatus, operatorProgress, Table.get?_set_self hlt, Table.set_set, Option.getD_some, Progress.new,
      Progress.next, Bool.false_eq_true, if_false]

/-- What is written when a vault is registered. -/
lemma updateSnapshotVaultOperatorDelegation_run_ok {i : ℕ} {finalized : Bool} {s s' : EpochState} {u : Unit}
    (h : (updateSnapshotVaultOperatorDelegation i finalized).run s = .ok u s') :
    i < maxOperators ∧ s' = { s with
      operatorSnapshotProgress := s.operatorSnapshotProgress.set i (s.operatorProgress i).next
      epochSnapshotProgress :=
        if finalized then s.epochSnapshotProgress.next else s.epochSnapshotProgress } := by
  obtain ⟨_, _, hg, h⟩ := run_bind_ok.1 h
  obtain ⟨hlt, rfl⟩ := run_ensure_ok.1 hg
  refine ⟨hlt, ?_⟩
  obtain ⟨_, s₁, h₁, h⟩ := run_bind_ok.1 h
  rw [incrementOperatorSnapshotProgress_run_ok h₁] at h
  cases finalized with
  | true => rw [incrementEpochSnapshotProgress_run_ok h]; rfl
  | false => cases h; rfl

/-- An index that fits is found. -/
lemma updateRouteOperatorVaultRewards_succeeds {i : ℕ} (h : i < maxOperators) (totalRewards : ℕ)
    (s : EpochState) : ∃ s', (updateRouteOperatorVaultRewards i totalRewards).run s = .ok () s' := by
  simp only [updateRouteOperatorVaultRewards, ensure_pos h, EStateM.run_bind, EStateM.run_pure,
    EStateM.run_get, EStateM.run_set]
  exact ⟨_, rfl⟩

/-! ## Closers -/

/-- `EpochState::set_is_closing`. -/
def setIsClosing (self : EpochState) : EpochState := { self with isClosing := true }

/-- `EpochState::close_epoch_state`. -/
def closeEpochState : EpochState → EpochState := onStatus ({ · with epochState := .closed })

/-- `EpochState::close_weight_table`. -/
def closeWeightTable : EpochState → EpochState := onStatus ({ · with weightTable := .closed })

/-- `EpochState::close_epoch_snapshot`. -/
def closeEpochSnapshot : EpochState → EpochState := onStatus ({ · with epochSnapshot := .closed })

/-- `EpochState::close_operator_snapshot`. -/
def closeOperatorSnapshot (ncnOperatorIndex : ℕ) : Mut EpochState Unit := do
  ensure (ncnOperatorIndex < maxOperators) (.panicked .outOfBounds)
  modify (onStatus fun a =>
    { a with operatorSnapshot := a.operatorSnapshot.set ncnOperatorIndex .closed })

/-- `EpochState::close_ballot_box`. -/
def closeBallotBox : EpochState → EpochState := onStatus ({ · with ballotBox := .closed })

/-- `EpochState::close_ncn_reward_router`. -/
def closeNcnRewardRouter : EpochState → EpochState := onStatus ({ · with ncnRewardRouter := .closed })

/-- `EpochState::close_operator_vault_reward_router`. -/
def closeOperatorVaultRewardRouter (ncnOperatorIndex : ℕ) : Mut EpochState Unit := do
  ensure (ncnOperatorIndex < maxOperators) (.panicked .outOfBounds)
  modify (onStatus fun a => { a with
    operatorVaultRewardRouter := a.operatorVaultRewardRouter.set ncnOperatorIndex .closed })

/-! ## Closing the epoch state itself -/

/-- `EpochState::load_to_close`: the epoch state is the one named, and all other accounts are gone. -/
def loadToClose (accountToClose : EpochState) (ncn : Pubkey) (epoch : ℕ) : Except ProgramError Unit := do
  if accountToClose.ncn ≠ ncn then throw (cannotCloseAccount : ProgramError)
  if accountToClose.epoch ≠ epoch then throw (cannotCloseAccount : ProgramError)
  if accountToClose.accountStatus.areAllClosed = false then
    throw (cannotCloseEpochStateAccount : ProgramError)

/-- `EpochState::can_close_epoch_accounts`; `getEpoch` is the cluster's epoch schedule. -/
def canCloseEpochAccounts (self : EpochState) (getEpoch : ℕ → ℕ)
    (epochsAfterConsensusBeforeClose currentSlot : ℕ) : Except ProgramError Bool := do
  let slotConsensusReached ← self.getSlotConsensusReached
  let epochDelta := getEpoch currentSlot - getEpoch slotConsensusReached
  return decide (epochDelta ≥ epochsAfterConsensusBeforeClose)

/-! ## Phases -/

/-- The phases of an epoch (`State`), in the order in which it goes through them. -/
inductive State where
  | setWeight
  | snapshot
  | vote
  | postVoteCooldown
  | distribute
  | close
deriving DecidableEq, Repr

/-- `EpochState::can_start_routing`. -/
def canStartRouting (self : EpochState) (validSlotsAfterConsensus currentSlot : ℕ) :
    Except ProgramError Bool := do
  if self.isConsensusReached = false then return false
  let slotConsensusReached ← self.getSlotConsensusReached
  let slotCanStartRouting ← okOr (checkedAdd 64 slotConsensusReached validSlotsAfterConsensus)
    (arithmeticOverflow : ProgramError)
  return decide (currentSlot ≥ slotCanStartRouting)

/-- The weights are there and have all been set. -/
def weightsDone (self : EpochState) : Bool :=
  self.accountStatus.weightTable != .dne && self.setWeightProgress.isComplete

/-- The snapshot of the epoch has counted all operators, and there is a ballot box. -/
def snapshotDone (self : EpochState) : Bool :=
  self.accountStatus.epochSnapshot != .dne && self.epochSnapshotProgress.isComplete &&
    self.accountStatus.ballotBox != .dne

/-- `EpochState::current_state`. -/
def currentState (self : EpochState) (getEpoch : ℕ → ℕ)
    (validSlotsAfterConsensus epochsAfterConsensusBeforeClose currentSlot : ℕ) :
    Except ProgramError State := do
  if self.canCloseEpochAccounts getEpoch epochsAfterConsensusBeforeClose currentSlot = .ok true then
    return .close
  if self.weightsDone = false then return .setWeight
  if self.snapshotDone = false then return .snapshot
  if self.isConsensusReached = false then return .vote
  if (← self.canStartRouting validSlotsAfterConsensus currentSlot) = false then
    return .postVoteCooldown
  return .distribute

end EpochState
end NcnProgram
