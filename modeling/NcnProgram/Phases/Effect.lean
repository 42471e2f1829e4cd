import NcnProgram.Closing.Refinement

/-!
# What each instruction does to the phases of an epoch

The weights, the snapshots and the votes of an epoch are worked on by few instructions; all others leave them
alone, whatever they do to the routers, to the lamports or to the list of accounts. `Lifecycle.Effect` says for
every instruction which of the two it is, with all that it does in the first case. What holds along every run
of instructions is derived from it.
-/

namespace NcnProgram
open Lib NCNProgramError

/-- How far the epoch has come before rewards are routed, as its state has it. -/
structure Milestones where
  wasTieBreakerSet : Bool
  slotConsensusReached : ℕ
  operatorCount : ℕ
  vaultCount : ℕ
  setWeightProgress : Progress
  epochSnapshotProgress : Progress
  operatorSnapshotProgress : Table Progress maxOperators
  votingProgress : Progress

/-- The milestones of an epoch state. -/
def EpochState.milestones (s : EpochState) : Milestones where
  wasTieBreakerSet := s.wasTieBreakerSet
  slotConsensusReached := s.slotConsensusReached
  operatorCount := s.operatorCount
  vaultCount := s.vaultCount
  setWeightProgress := s.setWeightProgress
  epochSnapshotProgress := s.epochSnapshotProgress
  operatorSnapshotProgress := s.operatorSnapshotProgress
  votingProgress := s.votingProgress

/-- What setting weights, taking snapshots and voting work on. -/
structure Groundwork where
  milestones : Milestones
  weightTable : WeightTable
  epochSnapshot : EpochSnapshot
  ballotBox : BallotBox
  consensusResult : ConsensusResult

/-- The groundwork of an epoch. -/
def Epoch.groundwork (e : Epoch) : Groundwork where
  milestones := e.epochState.milestones
  weightTable := e.weightTable
  epochSnapshot := e.epochSnapshot
  ballotBox := e.ballotBox
  consensusResult := e.consensusResult

/-- The groundwork with the snapshots of the operators. -/
def Epoch.settled (e : Epoch) : Groundwork × (Pubkey → Option OperatorSnapshot) :=
  (e.groundwork, e.operatorSnapshot)

/-! ## What routing and paying out leave alone -/

namespace EpochState

/-- Counting the rewards of an operator that are routed passes no milestone. -/
lemma leaves_updateRouteOperatorVaultRewards (i totalRewards : ℕ) :
    Leaves milestones (updateRouteOperatorVaultRewards i totalRewards) := by
  intro s u s' h
  obtain ⟨_, _, hg, h⟩ := run_bind_ok.1 h
  obtain ⟨_, rfl⟩ := run_ensure_ok.1 hg
  cases h
  rfl

/-- Nor does counting those that are paid. -/
lemma leaves_updateDistributeOperatorVaultRouteRewards (i rewards : ℕ) :
    Leaves milestones (updateDistributeOperatorVaultRouteRewards i rewards) := by
  intro s u s' h
  obtain ⟨_, _, hg, h⟩ := run_bind_ok.1 h
  cases hg
  obtain ⟨_, _, hg, h⟩ := run_bind_ok.1 h
  obtain ⟨_, rfl⟩ := run_ensure_ok.1 hg
  cases h
  rfl

/-- Nor does the creation of its router. -/
lemma leaves_updateReallocOperatorVaultRewardRouter (i : ℕ) :
    Leaves milestones (updateReallocOperatorVaultRewardRouter i) :=
  .bind (.ensure _ _) fun _ => .bind (.modify fun _ => rfl) fun _ => .modify fun _ => rfl

/-- Nor does closing its snapshot. -/
lemma leaves_closeOperatorSnapshot (i : ℕ) : Leaves milestones (closeOperatorSnapshot i) :=
  .bind (.ensure _ _) fun _ => .modify fun _ => rfl

/-- Nor does closing its router. -/
lemma leaves_closeOperatorVaultRewardRouter (i : ℕ) : Leaves milestones (closeOperatorVaultRewardRouter i) :=
  .bind (.ensure _ _) fun _ => .modify fun _ => rfl

/-- Nor does closing an account that the epoch has one of. -/
lemma milestones_closeSingle (k : Single) (s : EpochState) : (closeSingle k s).milestones = s.milestones := by
  cases k <;> rfl

end EpochState

namespace Epoch
variable {α : Type} {operator : Pubkey}

/-- A method of the epoch state that leaves the milestones alone. -/
lemma leaves_onEpochState {x : Mut EpochState α} (hx : Leaves EpochState.milestones x) :
    Leaves settled (onEpochState x) := by
  refine .zoom_part hx fun t e (h : t.milestones = e.epochState.milestones) => ?_
  simp only [settled, groundwork, h]

/-- The NCN's router is no part of what is settled. -/
lemma leaves_onNcnRewardRouter (x : Mut NCNRewardRouter α) : Leaves settled (onNcnRewardRouter x) :=
  .zoom fun _ _ => rfl

/-- A view that the routers, the receivers and the progress of the operators' rewards have no part in. -/
structure Apart {τ : Type} (view : Epoch → τ) : Prop where
  router : ∀ operator r e, view (setOperatorVaultRewardRouter operator r e) = view e
  receiver : ∀ operator lamports e, view (setOperatorVaultRewardReceiver operator lamports e) = view e
  routed : ∀ i rewards, Leaves view (onEpochState (EpochState.updateRouteOperatorVaultRewards i rewards))
  paid : ∀ i rewards, Leaves view (onEpochState (EpochState.updateDistributeOperatorVaultRouteRewards i rewards))

section Apart
variable {τ : Type} {view : Epoch → τ}

/-- A view that is apart from an operator's router is left by what happens in it. -/
lemma Apart.onRouter (h : Apart view) (x : Mut OperatorVaultRewardRouter α) :
    Leaves view (onOperatorVaultRewardRouter operator x) :=
  .bind .get fun _ => .bind (.okOr _ _) fun _ => .zoom fun r e => h.router operator r e

/-- Routing an operator's rewards. -/
lemma Apart.route (h : Apart view) (math : PreciseMath) (rent maxIterations : ℕ) :
    Leaves view (processRouteOperatorVaultRewards math rent operator maxIterations) := by
  have hlast : ∀ snapshot : OperatorSnapshot, Leaves view (do
      onOperatorVaultRewardRouter operator
        (OperatorVaultRewardRouter.routeRewardPool math snapshot maxIterations)
      let router ← okOr ((← get).operatorVaultRewardRouter operator) ProgramError.invalidAccountOwner
      onEpochState (EpochState.updateRouteOperatorVaultRewards snapshot.ncnOperatorIndex
        router.totalRewards) : Mut Epoch Unit) := fun _ =>
    .bind (h.onRouter _) fun _ => .bind .get fun _ => .bind (.okOr _ _) fun _ => h.routed _ _
  refine .bind .get fun self => .bind (.okOr _ _) fun snapshot => .bind (.okOr _ _) fun router => ?_
  split
  · exact .bind (h.onRouter _) fun _ => .bind (h.onRouter _) fun _ => hlast snapshot
  · exact hlast snapshot

/-- Paying out of an operator's receiver. -/
lemma Apart.pay (h : Apart view) (distribute : Mut OperatorVaultRewardRouter ℕ) :
    Leaves view (distributeOperatorVault operator distribute) := by
  refine .bind .get fun _ => .bind (.okOr _ _) fun _ => .bind (.okOr _ _) fun _ =>
    .bind (.ensure _ _) fun _ => .bind ?_ fun _ => h.paid _ _
  exact .bind (h.onRouter _) fun _ => .bind .get fun _ => .bind (.okOr _ _) fun _ =>
    .bind (.modify (h.receiver operator _)) fun _ => .pure _

end Apart

/-- The operators' routers and receivers are apart from what is settled. -/
lemma apart_settled : Apart settled where
  router _ _ _ := rfl
  receiver _ _ _ := rfl
  routed i rewards := leaves_onEpochState (EpochState.leaves_updateRouteOperatorVaultRewards i rewards)
  paid i rewards := leaves_onEpochState (EpochState.leaves_updateDistributeOperatorVaultRouteRewards i rewards)

/-- Rewards that arrive at an operator's receiver leave what is settled. -/
lemma leaves_depositOperatorVault (lamports : ℕ) : Leaves settled (depositOperatorVault operator lamports) :=
  .modify fun _ => rfl

/-- So does routing the rewards of the NCN. -/
lemma leaves_processRouteNcnRewards (math : PreciseMath) (clock : Clock) (rent maxIterations : ℕ) :
    Leaves settled (processRouteNcnRewards math clock rent maxIterations) := by
  intro e u e' h
  obtain ⟨r, rfl⟩ := processRouteNcnRewards_run_ok h
  rfl

/-- So does paying out of its router. -/
lemma leaves_distributeNcn {distribute : Mut NCNRewardRouter ℕ} {count : ℕ → EpochState → EpochState}
    (hcount : ∀ n s, (count n s).milestones = s.milestones) :
    Leaves settled (distributeNcn distribute count) := by
  refine .bind .get fun _ => .bind (.ensure _ _) fun _ => .bind ?_ fun n => .bind ?_ fun _ => .pure _
  · exact .bind (leaves_onNcnRewardRouter _) fun _ => .bind .get fun _ => .bind (.okOr _ _) fun _ =>
      .bind (.modify fun _ => rfl) fun _ => .pure _
  · exact leaves_onEpochState (.modify (hcount n))

/-- So does paying its fee. -/
lemma leaves_processDistributeNcnRewards (wallet : Pubkey) :
    Leaves settled (processDistributeNcnRewards wallet) :=
  .bind .get fun _ => .bind (.ensure _ _) fun _ => .bind (leaves_distributeNcn fun _ _ => rfl) fun _ => .pure _

/-- So does paying that of the protocol. -/
lemma leaves_processDistributeProtocolRewards (wallet : Pubkey) :
    Leaves settled (processDistributeProtocolRewards wallet) :=
  .bind .get fun _ => .bind (.ensure _ _) fun _ => .bind (leaves_distributeNcn fun _ _ => rfl) fun _ => .pure _

/-- So does paying the route of an operator. -/
lemma leaves_processDistributeOperatorVaultRewardRoute :
    Leaves settled (processDistributeOperatorVaultRewardRoute operator) :=
  .bind .get fun _ => .bind (.okOr _ _) fun _ => .bind (leaves_distributeNcn fun _ _ => rfl) fun _ =>
    leaves_depositOperatorVault _

end Epoch

/-! ## The effect of an instruction -/

namespace Lifecycle

/-- The slot that an instruction reads off the clock. -/
def Instruction.slot : Instruction → Option ℕ
  | .initializeEpochState clock _ | .reallocWeightTable clock _ _ _ | .adminSetWeight clock _ _ _ _
  | .setEpochWeights clock _ | .initializeEpochSnapshot clock _ _
  | .initializeOperatorSnapshot clock _ _ _ _ _ | .snapshotVaultOperatorDelegation clock _ _
  | .reallocBallotBox clock _ | .castVote clock _ _ _ _ | .adminSetTieBreaker clock _ _
  | .reallocNcnRewardRouter clock _ | .initializeOperatorVaultRewardRouter clock _ _
  | .routeNcnRewards clock _ | .closeEpochAccount clock _ => some clock.slot
  | _ => none

/-- An instruction that leaves the groundwork alone, gives no account that it is kept in its data, and does not
allocate the ballot box. -/
structure Quiet (s s' : Lifecycle) : Prop where
  epochState : s'.epochState = true → s.epochState = true
  single : ∀ k, k ≠ .ncnRewardRouter → s'.single k = .initialized → s.single k = .initialized
  allocated : ∀ n, s'.single .ballotBox = .allocated n → ∃ m, s.single .ballotBox = .allocated m
  groundwork : s'.accounts.groundwork = s.accounts.groundwork
  operatorSnapshot : ∀ p t, s'.accounts.operatorSnapshot p = some t → s.accounts.operatorSnapshot p = some t

/-- What an instruction does to the groundwork. -/
inductive Effect (cl : Cluster) (i : Instruction) (s s' : Lifecycle) : Prop
  | quiet : Quiet s s' → Effect cl i s s'
  | start (clock : Clock) (bump : UInt8) : s.epochState = false → s.epochMarker = false →
      s' = { s with
        epochState := true
        accounts := { s.accounts with
          epochState := (EpochState.initialized s.accounts.config.ncn s.epoch bump
            clock.slot).updateReallocEpochState } } →
      Effect cl i s s'
  | allocateBox (bump : UInt8) : s.single .ballotBox = .absent →
      s' = { s.setSingle .ballotBox (.allocated maxReallocBytes) with
        consensusResult := true
        accounts := { s.accounts with consensusResult := .new s.accounts.config.ncn s.epoch bump } } →
      Effect cl i s s'
  | fillTable (clock : Clock) (bump : UInt8) (vaultList : Table VaultEntry maxVaults)
      (stMintList : Table StMintEntry maxStMints) (weightTable : WeightTable) (dataLen : ℕ) :
      s.epochState = true → s.single .weightTable = .allocated dataLen →
      WeightTable.initialized s.accounts.config.ncn s.epoch clock.slot (VaultRegistry.vaultCount vaultList)
        bump vaultList stMintList = .ok weightTable →
      s' = { s.setSingle .weightTable .initialized with
        accounts := { s.accounts with
          weightTable
          epochState := s.accounts.epochState.updateReallocWeightTable (VaultRegistry.vaultCount vaultList)
            (VaultRegistry.stMintCount stMintList) } } →
      Effect cl i s s'
  | setWeights (w : WeightTable) : s.epochState = true → s.single .weightTable = .initialized →
      s.accounts.weightTable.Reweighted w →
      s' = { s with accounts := { s.accounts with
        weightTable := w
        epochState := s.accounts.epochState.updateSetWeight w.weightCount w.mintCount } } →
      Effect cl i s s'
  | openSnapshot (clock : Clock) (bump : UInt8) (operatorCount : ℕ) : s.epochState = true →
      s.accounts.epochState.isClosing = false → s.single .epochSnapshot = .absent →
      s.single .weightTable = .initialized → s.accounts.weightTable.finalized = true → operatorCount ≠ 0 →
      s' = { s.setSingle .epochSnapshot .initialized with
        accounts := { s.accounts with
          epochSnapshot := .new s.accounts.config.ncn s.epoch bump clock.slot operatorCount
            s.accounts.weightTable.vaultCount (s.accounts.config.feeConfig.currentFees s.epoch)
          epochState := s.accounts.epochState.updateInitializeEpochSnapshot operatorCount } } →
      Effect cl i s s'
  | createSnapshot (clock : Clock) (bump : UInt8) (op : NcnOperator) (e : Epoch) : s.epochState = true →
      s.single .epochSnapshot = .initialized → op.ncnOperatorIndex = cl.index op.operator →
      (Epoch.processInitializeOperatorSnapshot clock bump op).run s.accounts = .ok () e →
      s' = { s with accounts := e } → Effect cl i s s'
  | registerVault (clock : Clock) (operator : Pubkey) (v : VaultDelegation) (e : Epoch) :
      s.epochState = true → s.single .epochSnapshot = .initialized →
      (Epoch.processSnapshotVaultOperatorDelegation cl.math clock operator v).run s.accounts = .ok () e →
      s' = { s with accounts := e } → Effect cl i s s'
  | fillBox (clock : Clock) (bump : UInt8) (dataLen : ℕ) : s.epochState = true →
      s.single .ballotBox = .allocated dataLen →
      s' = { s.setSingle .ballotBox .initialized with
        accounts := { s.accounts with
          ballotBox := .new s.accounts.config.ncn s.epoch bump clock.slot
          epochState := s.accounts.epochState.updateReallocBallotBox } } →
      Effect cl i s s'
  | vote (clock : Clock) (operator voter operatorAdmin : Pubkey) (weatherStatus : UInt8) (e : Epoch) :
      i = .castVote clock operator voter operatorAdmin weatherStatus → s.epochState = true →
      s.single .ballotBox = .initialized → s.single .epochSnapshot = .initialized →
      (Epoch.processCastVote cl.math clock operator voter operatorAdmin weatherStatus).run s.accounts =
        .ok () e →
      s' = { s with accounts := e } → Effect cl i s s'
  | tieBreak (clock : Clock) (tieBreakerAdmin : Pubkey) (weatherStatus : UInt8) (e : Epoch) :
      i = .adminSetTieBreaker clock tieBreakerAdmin weatherStatus → s.epochState = true →
      s.single .ballotBox = .initialized →
      (Epoch.processAdminSetTieBreaker clock tieBreakerAdmin weatherStatus).run s.accounts = .ok () e →
      s' = { s with accounts := e } → Effect cl i s s'

variable {cl : Cluster} {i : Instruction} {s s' : Lifecycle} {u : Unit}

/-- An instruction on the data that leaves the groundwork alone is quiet. -/
lemma Quiet.of_settled {e : Epoch} (h : e.settled = s.accounts.settled) : Quiet s { s with accounts := e } where
  epochState := id
  single _ _ := id
  allocated n h := ⟨n, h⟩
  groundwork := congrArg Prod.fst h
  operatorSnapshot p t ht := by
    have : e.operatorSnapshot = s.accounts.operatorSnapshot := congrArg Prod.snd h
    rwa [← this]

/-- Writing how far an account has come is quiet, unless an account of the groundwork gets its data or the
ballot box is allocated. -/
lemma Quiet.setSingle {k : Single} {slot : Slot} (h : slot ≠ .initialized ∨ k = .ncnRewardRouter)
    (hbox : k = .ballotBox → ∀ n, slot = .allocated n → ∃ m, s.single .ballotBox = .allocated m)
    (hs : Quiet s s') : Quiet s (s'.setSingle k slot) := by
  refine { hs with single := fun k' hr hk' => ?_, allocated := fun n hn => ?_ }
  · change (s'.setSingle k slot).single k' = .initialized at hk'
    rw [single_setSingle] at hk'
    by_cases hk : k' = k
    · subst hk
      rw [Function.update_self] at hk'
      exact absurd hk' (h.resolve_right hr)
    · rw [Function.update_of_ne hk] at hk'
      exact hs.single k' hr hk'
  · change (s'.setSingle k slot).single .ballotBox = .allocated n at hn
    rw [single_setSingle] at hn
    by_cases hk : .ballotBox = k
    · subst hk
      rw [Function.update_self] at hn
      exact hbox rfl n hn
    · rw [Function.update_of_ne hk] at hn
      exact hs.allocated n hn

/-- What changes nothing is quiet. -/
lemma Quiet.refl (s : Lifecycle) : Quiet s s := ⟨id, fun _ _ => id, fun n h => ⟨n, h⟩, rfl, fun _ _ => id⟩

/-- An instruction on loaded accounts that leaves the groundwork alone. -/
lemma Effect.of_loaded {ks : List Single} {x : Mut Epoch Unit} (hx : Leaves Epoch.settled x)
    (h : (loaded ks x).run s = .ok u s') : Effect cl i s s' := by
  obtain ⟨_, _, e, hrun, rfl⟩ := loaded_ok h
  exact .quiet (.of_settled (hx hrun))

/-- Growing an account, and giving it its data when it has got to its size. -/
lemma Effect.of_realloc {k : Single} {size : ℕ} {x : Mut Lifecycle Unit}
    (hx : ∀ dataLen newLen s₂, s.epochState = true → s.single k = .allocated dataLen →
      x.run (s.setSingle k (.allocated newLen)) = .ok () s₂ → Effect cl i s s₂)
    (h : (do if ← realloc k size then x : Mut Lifecycle Unit).run s = .ok u s') : Effect cl i s s' := by
  obtain ⟨done, s₁, hg, hrest⟩ := run_bind_ok.1 h
  obtain ⟨hlive, ⟨rfl, rfl⟩ | ⟨dataLen, newLen, halloc, rfl⟩⟩ := realloc_ok hg
  · cases hrest
    exact .quiet (.refl _)
  · cases done with
    | false =>
      cases hrest
      exact .quiet (Quiet.setSingle (.inl fun h => by cases h) (fun hk _ _ => ⟨dataLen, hk ▸ halloc⟩) (.refl s))
    | true => exact hx dataLen newLen s' hlive halloc hrest

/-- The slot that is written last stays. -/
lemma setSingle_setSingle (k : Single) (slot slot' : Slot) :
    (s.setSingle k slot).setSingle k slot' = s.setSingle k slot' := by
  simp only [setSingle, Function.update_idem]

/-- Growing the weight table, which fills it in the end. -/
lemma reallocWeightTable_effect {clock : Clock} {bump : UInt8} {vaultList : Table VaultEntry maxVaults}
    {stMintList : Table StMintEntry maxStMints}
    (h : (processReallocWeightTable clock bump vaultList stMintList).run s = .ok u s') :
    Effect cl i s s' := by
  refine .of_realloc (fun dataLen newLen s₂ hlive halloc h => ?_) h
  obtain ⟨_, _, hg, h⟩ := run_bind_ok.1 h
  cases hg
  obtain ⟨weightTable, _, hg, h⟩ := run_bind_ok.1 h
  obtain ⟨htable, rfl⟩ := run_ofExcept_ok.1 hg
  cases h
  refine .fillTable clock bump vaultList stMintList weightTable dataLen hlive halloc htable ?_
  rw [setSingle_setSingle]
  rfl

/-- Growing the ballot box, which fills it in the end. -/
lemma reallocBallotBox_effect {clock : Clock} {bump : UInt8}
    (h : (processReallocBallotBox clock bump).run s = .ok u s') : Effect cl i s s' := by
  refine .of_realloc (fun dataLen newLen s₂ hlive halloc h => ?_) h
  cases h
  refine .fillBox clock bump dataLen hlive halloc ?_
  rw [setSingle_setSingle]
  rfl

/-- Closing an account is quiet. -/
lemma closeTarget_quiet {target : Target} (h : (closeTarget cl target).run s = .ok u s') : Quiet s s' := by
  cases closeTarget_ok h with
  | epochState => exact ⟨fun hlive => (by cases hlive), fun _ _ => id, fun n h => ⟨n, h⟩, rfl, fun _ _ => id⟩
  | single k lamports =>
    refine Quiet.setSingle (.inl (by decide)) (fun _ _ h => by cases h) (.of_settled ?_)
    simp only [Epoch.settled, Epoch.groundwork, EpochState.milestones_closeSingle]
  | operatorSnapshot p i st hst =>
    have hmilestones : st.milestones = s.accounts.epochState.milestones :=
      EpochState.leaves_closeOperatorSnapshot i hst
    refine ⟨id, fun _ _ => id, fun n h => ⟨n, h⟩, ?_, fun q t ht => ?_⟩
    · simp only [Epoch.groundwork, hmilestones]
    · have ht : Function.update s.accounts.operatorSnapshot p none q = some t := ht
      by_cases hq : q = p
      · subst hq
        rw [Function.update_self] at ht
        cases ht
      · rwa [Function.update_of_ne hq] at ht
  | operatorVaultRewardRouter p i lamports st hst =>
    have hmilestones : st.milestones = s.accounts.epochState.milestones :=
      EpochState.leaves_closeOperatorVaultRewardRouter i hst
    refine .of_settled ?_
    simp only [Epoch.settled, Epoch.groundwork, hmilestones]
  | otherEpochState => exact .of_settled rfl

/-- A call that closes an account is quiet, which sets the epoch closing first. -/
lemma closeEpochAccount_effect {clock : Clock} {target : Target}
    (h : (processCloseEpochAccount cl clock target).run s = .ok u s') : Effect cl i s s' := by
  obtain ⟨_, _, _, _, h⟩ := processCloseEpochAccount_ok.1 h
  have hq := closeTarget_quiet h
  exact .quiet ⟨hq.epochState, hq.single, hq.allocated, hq.groundwork, hq.operatorSnapshot⟩

/-- Every instruction has one of the effects. -/
theorem exec_effect (h : (exec cl i).run s = .ok () s') : Effect cl i s s' := by
  cases i with
  | initializeEpochState clock bump =>
    obtain ⟨hlive, hmarker, rfl⟩ := processInitializeEpochState_ok h
    exact .start clock bump hlive hmarker rfl
  | initializeWeightTable vaultCount vaultList =>
    obtain ⟨_, _, _, rfl⟩ := processInitializeWeightTable_ok h
    exact .quiet (Quiet.setSingle (.inl (by decide)) (fun h => by cases h) (.refl s))
  | reallocWeightTable clock bump vaultList stMintList => exact reallocWeightTable_effect h
  | adminSetWeight clock ncnAdmin admin stMint weight =>
    obtain ⟨hlive, hloaded, e, hrun, rfl⟩ := loaded_ok h
    obtain ⟨w, hw, rfl⟩ := Epoch.processAdminSetWeight_run_ok hrun
    exact .setWeights w hlive (hloaded _ (by simp)) (WeightTable.setWeight_reweighted hw) rfl
  | setEpochWeights clock stMintList =>
    obtain ⟨hlive, hloaded, e, hrun, rfl⟩ := loaded_ok h
    obtain ⟨w, hw, rfl⟩ := Epoch.updateWeights_run_ok hrun
    exact .setWeights w hlive (hloaded _ (by simp)) (WeightTable.setWeights_reweighted hw) rfl
  | initializeEpochSnapshot clock bump operatorCount =>
    obtain ⟨hlive, hclosing, habsent, hweights, hfin, hcount, rfl⟩ := processInitializeEpochSnapshot_ok h
    exact .openSnapshot clock bump operatorCount hlive hclosing habsent hweights hfin hcount rfl
  | initializeOperatorSnapshot clock bump operator operatorIndex operatorFeeBps isActive =>
    obtain ⟨hlive, hsnap, e, hrun, rfl⟩ := processInitializeOperatorSnapshot_ok h
    exact .createSnapshot clock bump _ e hlive hsnap rfl hrun rfl
  | snapshotVaultOperatorDelegation clock operator v =>
    obtain ⟨hlive, hloaded, e, hrun, rfl⟩ := loaded_ok h
    exact .registerVault clock operator v e hlive (hloaded _ (by simp)) hrun rfl
  | initializeBallotBox bump =>
    obtain ⟨_, _, habsent, rfl⟩ := processInitializeBallotBox_ok h
    exact .allocateBox bump habsent rfl
  | reallocBallotBox clock bump => exact reallocBallotBox_effect h
  | castVote clock operator voter operatorAdmin weatherStatus =>
    obtain ⟨_, _, hg, h⟩ := run_bind_ok.1 h
    obtain ⟨_, _, hg', hg⟩ := run_bind_ok.1 hg
    cases hg'
    obtain ⟨_, rfl⟩ := run_ensure_ok.1 hg
    obtain ⟨hlive, hloaded, e, hrun, rfl⟩ := loaded_ok h
    exact .vote clock operator voter operatorAdmin weatherStatus e rfl hlive (hloaded _ (by simp))
      (hloaded _ (by simp)) hrun rfl
  | adminSetTieBreaker clock tieBreakerAdmin weatherStatus =>
    obtain ⟨hlive, hloaded, e, hrun, rfl⟩ := loaded_ok h
    exact .tieBreak clock tieBreakerAdmin weatherStatus e rfl hlive (hloaded _ (by simp)) hrun rfl
  | adminSetParameters ncn admin ncnAdmin o₁ o₂ o₃ o₄ =>
    obtain ⟨e, hrun, rfl⟩ := run_zoom_ok.1 h
    obtain ⟨c, _, rfl⟩ := Epoch.processAdminSetParameters_run_ok hrun
    exact .quiet (.of_settled rfl)
  | adminSetNewAdmin ncn admin ncnAdmin newAdmin =>
    obtain ⟨e, hrun, rfl⟩ := run_zoom_ok.1 h
    have hx : Leaves Epoch.settled (Epoch.processAdminSetNewAdmin ncn admin ncnAdmin newAdmin) :=
      .bind .get fun _ => .bind (.ensure _ _) fun _ => .bind (.ensure _ _) fun _ => .modify fun _ => rfl
    exact .quiet (.of_settled (hx hrun))
  | initializeNcnRewardRouter =>
    obtain ⟨_, _, _, rfl⟩ := processInitializeNcnRewardRouter_ok h
    have hq : Quiet s { s with accounts := { s.accounts with
      ncnRewardReceiver := s.accounts.ncnRewardReceiver + cl.minRent } } := .of_settled rfl
    exact .quiet (hq.setSingle (.inl (by decide)) fun h => by cases h)
  | reallocNcnRewardRouter clock bump =>
    refine .of_realloc (fun dataLen newLen s₂ hlive halloc h => ?_) h
    cases h
    have hq : Quiet s { s with accounts := { s.accounts with
      ncnRewardRouter := .new s.accounts.config.ncn s.epoch bump clock.slot
      epochState := s.accounts.epochState.updateReallocNcnRewardRouter } } := .of_settled rfl
    refine .quiet ?_
    rw [setSingle_setSingle]
    exact hq.setSingle (.inr rfl) fun h => by cases h
  | initializeOperatorVaultRewardRouter clock bump operator =>
    obtain ⟨_, _, _, r, lamports, st, _, _, hst, rfl⟩ := processInitializeOperatorVaultRewardRouter_ok h
    have hm : st.milestones = s.accounts.epochState.milestones :=
      EpochState.leaves_updateReallocOperatorVaultRewardRouter _ hst
    refine .quiet (.of_settled ?_)
    simp only [Epoch.settled, Epoch.groundwork, hm]
    rfl
  | routeNcnRewards clock maxIterations => exact .of_loaded (Epoch.leaves_processRouteNcnRewards ..) h
  | routeOperatorVaultRewards operator maxIterations =>
    exact .of_loaded (Epoch.apart_settled.route ..) h
  | distributeNcnRewards ncnFeeWallet => exact .of_loaded (Epoch.leaves_processDistributeNcnRewards _) h
  | distributeProtocolRewards protocolFeeWallet =>
    exact .of_loaded (Epoch.leaves_processDistributeProtocolRewards _) h
  | distributeOperatorVaultRewardRoute operator =>
    exact .of_loaded Epoch.leaves_processDistributeOperatorVaultRewardRoute h
  | distributeOperatorRewards operator => exact .of_loaded (Epoch.apart_settled.pay _) h
  | distributeVaultRewards operator vault => exact .of_loaded (Epoch.apart_settled.pay _) h
  | depositNcn lamports => cases h; exact .quiet (.of_settled rfl)
  | depositOperatorVault operator lamports => cases h; exact .quiet (.of_settled rfl)
  | closeEpochAccount clock target => exact closeEpochAccount_effect h

/-! ## Runs -/

/-- An epoch begins to go on with the creation of its state. -/
lemma Effect.start_of_dead (h : Effect cl i s s') (hlive : s.epochState = false)
    (hlive' : s'.epochState = true) :
    s.epochMarker = false ∧ ∃ (clock : Clock) (bump : UInt8), s' = { s with
      epochState := true
      accounts := { s.accounts with
        epochState := (EpochState.initialized s.accounts.config.ncn s.epoch bump
          clock.slot).updateReallocEpochState } } := by
  cases h with
  | start clock bump _ hmarker hs' => exact ⟨hmarker, clock, bump, hs'⟩
  | quiet hq => rw [hq.epochState hlive'] at hlive; cases hlive
  | allocateBox bump _ hs' => subst hs'; rw [show s.epochState = true from hlive'] at hlive; cases hlive
  | _ => simp_all

/-- A successful instruction at a slot that satisfies `P`. -/
def StepIn (cl : Cluster) (P : ℕ → Prop) (s s' : Lifecycle) : Prop :=
  ∃ i : Instruction, (∀ t ∈ i.slot, P t) ∧ (exec cl i).run s = .ok () s'

/-- Such an instruction is a step. -/
lemma StepIn.step {P : ℕ → Prop} (h : StepIn cl P s s') : Step cl s s' := by
  obtain ⟨i, _, hrun⟩ := h
  exact ⟨i, hrun⟩

/-- A step is one at slots of which nothing is asked. -/
lemma Step.stepIn (h : Step cl s s') : StepIn cl (fun _ => True) s s' := by
  obtain ⟨i, hrun⟩ := h
  exact ⟨i, fun _ _ => trivial, hrun⟩

/-- Instructions that succeed one after the other, at slots that satisfy `P`. -/
lemma run_stepIn {P : ℕ → Prop} {is : List Instruction} (hslots : ∀ i ∈ is, ∀ t ∈ i.slot, P t)
    (h : (is.forM (exec cl)).run s = .ok () s') : Run (StepIn cl P) s s' := by
  refine (forM_invariant (J := fun is s' => (∀ i ∈ is, ∀ t ∈ i.slot, P t) → Run (StepIn cl P) s s')
    (fun is i s₁ s₂ ih hi hP => ?_) (fun _ => .refl) h) hslots
  exact (ih fun j hj => hP j (List.mem_append_left _ hj)).tail ⟨i, hP i (by simp), hi⟩

/-- What every effect on an epoch that is going on keeps, is kept as long as the epoch goes on. -/
theorem live_run {P : ℕ → Prop} {I : Lifecycle → Prop}
    (heffect : ∀ s s' i, s.book.Live cl.index → Book.Change cl.index s.book s'.book →
      (∀ t ∈ i.slot, P t) → Effect cl i s s' → I s → I s')
    (hb : s.book.Live cl.index) (hI : I s) (h : Run (StepIn cl P) s s') (hlive' : s'.epochState = true) :
    I s' := by
  have hend := h.invariant (I := fun s => s.book.Truthful cl.index ∧ (s.book.live = true ∨ s.book.marker = true) ∧
    (s.epochState = true → I s)) ⟨.during hb, .inl hb.live, fun _ => hI⟩ fun s s' hstep ⟨ht, hbegun, hI⟩ => ?_
  · exact hend.2.2 hlive'
  · have hchange := hstep.step.change
    obtain ⟨hback, hbegun'⟩ := hchange.begun hbegun
    refine ⟨ht.change cl.index_injective hchange, hbegun', fun hlive' => ?_⟩
    obtain ⟨i, hslot, hrun⟩ := hstep
    have hlive : s.epochState = true := hback hlive'
    exact heffect s s' _ (ht.live hlive) hchange hslot (exec_effect hrun) (hI hlive)

/-- What holds when an epoch begins, and is kept by every effect on an epoch that is going on, holds as long as
the epoch goes on. What is known of the states that can be reached can be used for the effects. -/
theorem live_invariant {P : ℕ → Prop} {I : Lifecycle → Prop} {s₀ : Lifecycle} (h₀ : s₀.Untouched)
    (hstart : ∀ (s : Lifecycle) ncn epoch bump slot, s.book.AllClosed →
      I { s with
        epochState := true
        accounts := { s.accounts with
          epochState := (EpochState.initialized ncn epoch bump slot).updateReallocEpochState } })
    (heffect : ∀ s s' i, Run (StepIn cl P) s₀ s → s.book.Live cl.index → Book.Change cl.index s.book s'.book →
      (∀ t ∈ i.slot, P t) → Effect cl i s s' → I s → I s')
    (h : Run (StepIn cl P) s₀ s) (hlive : s.epochState = true) : I s := by
  refine (h.invariant (I := fun s => Run (StepIn cl P) s₀ s ∧ (s.epochState = true → I s))
    ⟨.refl, fun hlive => ?_⟩ fun s s' hstep ⟨hreached, hI⟩ => ?_).2 hlive
  · rw [h₀.epochState] at hlive; cases hlive
  · have hchange := hstep.step.change
    have ht := truthful h₀ (hreached.mono fun _ _ h => h.step)
    refine ⟨hreached.tail hstep, fun hlive' => ?_⟩
    obtain ⟨i, hslot, hrun⟩ := hstep
    cases ht with
    | during hb => exact heffect s s' _ hreached hb hchange hslot (exec_effect hrun) (hI hb.live)
    | before hdead hmarker hnone =>
      obtain ⟨_, clock, bump, rfl⟩ := (exec_effect hrun).start_of_dead hdead hlive'
      exact hstart s _ _ bump clock.slot hnone
    | after hdead hmarker =>
      obtain ⟨hfalse, _⟩ := (exec_effect hrun).start_of_dead hdead hlive'
      rw [show s.epochMarker = true from hmarker] at hfalse
      cases hfalse

/-- Where all accounts are gone, none has its data. -/
lemma not_initialized (h : s.book.AllClosed) (k : Single) : s.single k ≠ .initialized := by
  rw [show s.single k = .absent from h.single k]
  exact fun h => by cases h

end Lifecycle
end NcnProgram
