import NcnProgram.Phases.Windows
import NcnProgram.Program.Config

/-!
# The voting window and the closing of the accounts

How long votes can be cast after consensus is a number of slots, and when the accounts can be closed a number of
epochs. Both are parameters of the configuration with bounds of their own, and are not compared. If the window is
longer than all but one of the epochs, the accounts of an epoch can be closed while it is open; otherwise closing an
account ends the vote for good.
-/

namespace NcnProgram
open Lib

/-- The epoch of a slot, in the schedule without warmup. -/
def epochOfSlot (slot : ℕ) : ℕ := slot / defaultSlotsPerEpoch

namespace Config

/-- No epoch can be closed while it is voted on. -/
def ClosesAfterVoting (c : Config) : Prop :=
  ∀ (e : Epoch) (decided slot : ℕ), e.config = c → e.DecidedAt decided → decided ≤ slot → slot < 2 ^ 64 →
    e.epochState.canCloseEpochAccounts epochOfSlot c.epochsAfterConsensusBeforeClose slot = .ok true →
    e.ballotBox.isVotingValid slot c.validSlotsAfterConsensus = .ok false

/-- Before an epoch can be closed there is a slot in which its rewards are to be distributed and voting is over, as
a route call wants it. -/
def DistributesBeforeClosing (c : Config) : Prop :=
  ∀ (e : Epoch) (decided slot : ℕ), e.config = c → e.DecidedAt decided → decided ≤ slot → slot < 2 ^ 64 →
    e.epochState.canCloseEpochAccounts epochOfSlot c.epochsAfterConsensusBeforeClose slot = .ok true →
    ∃ slot', decided ≤ slot' ∧ slot' < slot ∧
      e.epochState.currentState epochOfSlot c.validSlotsAfterConsensus c.epochsAfterConsensusBeforeClose slot' =
        .ok .distribute ∧
      e.ballotBox.isVotingValid slot' c.validSlotsAfterConsensus = .ok false

variable {c : Config}

/-- A window that is at least one epoch shorter is over when the accounts can be closed. -/
lemma closesAfterVoting
    (h : c.validSlotsAfterConsensus + defaultSlotsPerEpoch ≤
      c.epochsAfterConsensusBeforeClose * defaultSlotsPerEpoch) :
    c.ClosesAfterVoting := by
  intro e decided slot hc hdecided hle hslot hclose
  have hdelta := hdecided.canClose_iff.1 hclose
  unfold epochOfSlot defaultSlotsPerEpoch at *
  exact hdecided.votingOver (by omega) (by omega)

/-- If the window is shorter still, there is a slot left. -/
lemma distributesBeforeClosing
    (h : c.validSlotsAfterConsensus + defaultSlotsPerEpoch <
      c.epochsAfterConsensusBeforeClose * defaultSlotsPerEpoch) :
    c.DistributesBeforeClosing := by
  intro e decided slot hc hdecided hle hslot hclose
  have hdelta := hdecided.canClose_iff.1 hclose
  have hopen : epochOfSlot (decided + c.validSlotsAfterConsensus + 1) - epochOfSlot decided <
      c.epochsAfterConsensusBeforeClose := by
    unfold epochOfSlot defaultSlotsPerEpoch at *
    omega
  have hbefore : decided + c.validSlotsAfterConsensus + 1 < slot := by
    unfold epochOfSlot defaultSlotsPerEpoch at *
    omega
  exact ⟨decided + c.validSlotsAfterConsensus + 1, by omega, hbefore,
    hdecided.distribute (by omega) (by omega) hopen, hdecided.votingOver (by omega) (by omega)⟩

end Config

/-! ## Epochs decided in the last slot -/

namespace Lifecycle

/-- The small epoch, decided by its vote in the last slot of epoch zero. -/
@[irreducible] def smallDecidedLate : Lifecycle :=
  commit (((smallRun false).take 11 ++ [Instruction.castVote ⟨defaultSlotsPerEpoch - 1, 0⟩ 7 5 5 1]).forM
    (exec smallCluster)) small

lemma smallDecidedLate_decided : smallDecidedLate.accounts.DecidedAt (defaultSlotsPerEpoch - 1) :=
  ⟨by decide +kernel, by decide +kernel, by decide +kernel, by decide +kernel, by decide +kernel,
    by decide +kernel⟩

/-- Votes can be cast in it up to the end of the window. -/
lemma smallDecidedLate_votingValid {slot valid : ℕ} (hvalid : valid ≤ maxValidSlotsAfterConsensus)
    (hle : slot < valid + defaultSlotsPerEpoch) :
    smallDecidedLate.accounts.ballotBox.isVotingValid slot valid = .ok true := by
  have htie : smallDecidedLate.accounts.ballotBox.tieBreakerSet = false := by decide +kernel
  have hdecided := smallDecidedLate_decided
  unfold maxValidSlotsAfterConsensus defaultSlotsPerEpoch at *
  exact hdecided.votingValid htie (by omega) (by omega)

end Lifecycle

/-- An epoch is decided whatever the configuration becomes. -/
lemma Epoch.DecidedAt.withConfig {e : Epoch} {decided : ℕ} (h : e.DecidedAt decided) (c : Config) :
    Epoch.DecidedAt { e with config := c } decided :=
  ⟨h.weights, h.snapshot, h.epochState, h.ballotBox, h.slotEpochState, h.slotBallotBox⟩

namespace Config
variable {c : Config}

/-- The first slot in which the accounts of that epoch can be closed. -/
lemma Accepted.canClose_late (hc : c.Accepted) :
    defaultSlotsPerEpoch - 1 ≤ c.epochsAfterConsensusBeforeClose * defaultSlotsPerEpoch ∧
      c.epochsAfterConsensusBeforeClose * defaultSlotsPerEpoch < 2 ^ 64 ∧
      Lifecycle.smallDecidedLate.accounts.epochState.canCloseEpochAccounts epochOfSlot
        c.epochsAfterConsensusBeforeClose (c.epochsAfterConsensusBeforeClose * defaultSlotsPerEpoch) =
        .ok true := by
  obtain ⟨hmin, hmax⟩ := hc.epochsAfterConsensusBeforeClose
  rw [Lifecycle.smallDecidedLate_decided.canClose_iff]
  unfold epochOfSlot minEpochsAfterConsensusBeforeClose maxEpochsAfterConsensusBeforeClose
    defaultSlotsPerEpoch at *
  omega

/-- No epoch is closed while it is voted on exactly if the window and an epoch more are over by then. -/
lemma closesAfterVoting_iff (hc : c.Accepted) :
    c.ClosesAfterVoting ↔ c.validSlotsAfterConsensus + defaultSlotsPerEpoch ≤
      c.epochsAfterConsensusBeforeClose * defaultSlotsPerEpoch := by
  refine ⟨fun hcloses => ?_, closesAfterVoting⟩
  by_contra hlong
  obtain ⟨hle, hlt, hclose⟩ := hc.canClose_late
  have hover := hcloses _ _ _ rfl (Lifecycle.smallDecidedLate_decided.withConfig c) hle hlt hclose
  have hvalid := Lifecycle.smallDecidedLate_votingValid hc.validSlotsAfterConsensus.2 (Nat.lt_of_not_le hlong)
  rw [hvalid] at hover
  cases hover

/-- A slot to distribute the rewards is left exactly if they are over before that. -/
lemma distributesBeforeClosing_iff (hc : c.Accepted) :
    c.DistributesBeforeClosing ↔ c.validSlotsAfterConsensus + defaultSlotsPerEpoch <
      c.epochsAfterConsensusBeforeClose * defaultSlotsPerEpoch := by
  refine ⟨fun hdistributes => ?_, distributesBeforeClosing⟩
  by_contra hlong
  obtain ⟨hle, hlt, hclose⟩ := hc.canClose_late
  obtain ⟨slot, _, hbefore, _, hover⟩ :=
    hdistributes _ _ _ rfl (Lifecycle.smallDecidedLate_decided.withConfig c) hle hlt hclose
  have hvalid := Lifecycle.smallDecidedLate_votingValid hc.validSlotsAfterConsensus.2
    (hbefore.trans_le (Nat.le_of_not_lt hlong))
  rw [hvalid] at hover
  cases hover

end Config

namespace Lifecycle
variable {cl : Cluster} {s₀ s s' s'' : Lifecycle}

/-- A vote is accepted while the ballot box is there and the window is open. -/
lemma votingValid_of_castVote {clock : Clock} {operator voter operatorAdmin : Pubkey} {weatherStatus : UInt8}
    (h : Succeeds (exec cl (.castVote clock operator voter operatorAdmin weatherStatus)) s) :
    s.epochState = true ∧ s.single .ballotBox = .initialized ∧
      s.accounts.ballotBox.isVotingValid clock.slot s.accounts.config.validSlotsAfterConsensus = .ok true := by
  obtain ⟨_, s', hrun⟩ := h
  obtain ⟨_, _, hg, hrun⟩ := run_bind_ok.1 hrun
  obtain ⟨_, _, hg', hg⟩ := run_bind_ok.1 hg
  cases hg'
  obtain ⟨_, rfl⟩ := run_ensure_ok.1 hg
  obtain ⟨hlive, hloaded, e, he, _⟩ := loaded_ok hrun
  obtain ⟨_, _, _, _, _, _, _, hcast, _⟩ := Epoch.processCastVote_run_ok he
  exact ⟨hlive, hloaded _ (by simp), (BallotBox.castVote_run_ok hcast).1⟩

/-- When the accounts can be closed, a window that is at least one epoch shorter is over. -/
lemma window_over_of_close (hepoch : cl.getEpoch = epochOfSlot)
    (hshort : s.accounts.config.validSlotsAfterConsensus + defaultSlotsPerEpoch ≤
      s.accounts.config.epochsAfterConsensusBeforeClose * defaultSlotsPerEpoch)
    {clock : Clock} (hcan : s.accounts.epochState.canCloseEpochAccounts cl.getEpoch
      s.accounts.config.epochsAfterConsensusBeforeClose clock.slot = .ok true) :
    s.accounts.epochState.slotConsensusReached + s.accounts.config.validSlotsAfterConsensus < clock.slot := by
  have hdelta := (canCloseEpochAccounts_ok.1 hcan).2
  rw [hepoch] at hdelta
  unfold epochOfSlot defaultSlotsPerEpoch at *
  omega

/-- In every run on an epoch (whose state no call for another one empties), if the window was short enough when an
account was closed and is not longer now, no vote is accepted at that slot or a later one, whatever instructions were
run in between. -/
theorem no_vote_after_close (hepoch : cl.getEpoch = epochOfSlot) (h₀ : s₀.Untouched)
    (hrun : Run (StepIn cl (· < u64Max)) s₀ s)
    (hshort : s.accounts.config.validSlotsAfterConsensus + defaultSlotsPerEpoch ≤
      s.accounts.config.epochsAfterConsensusBeforeClose * defaultSlotsPerEpoch)
    {clock clock' : Clock} (hslot : clock.slot < u64Max) {target : Target}
    (hclose : (exec cl (.closeEpochAccount clock target)).run s = .ok () s')
    (hlater : Run (StepIn cl (· < u64Max)) s' s'')
    (hvalid : s''.accounts.config.validSlotsAfterConsensus ≤ s.accounts.config.validSlotsAfterConsensus)
    (hle : clock.slot ≤ clock'.slot) (hslot' : clock'.slot < 2 ^ 64) (operator voter operatorAdmin : Pubkey)
    (weatherStatus : UInt8) :
    ¬Succeeds (exec cl (.castVote clock' operator voter operatorAdmin weatherStatus)) s'' := by
  intro hvote
  obtain ⟨hlive'', hbox'', hopen⟩ := votingValid_of_castVote hvote
  obtain ⟨hlive, _, _, hcan, _⟩ := processCloseEpochAccount_ok.1 hclose
  have hover := window_over_of_close hepoch hshort hcan
  have hreached := (canCloseEpochAccounts_ok.1 hcan).1
  -- The slot of the consensus is the one that the account was closed by.
  have hfrom : Run (StepIn cl (· < u64Max)) s s'' :=
    .head ⟨.closeEpochAccount clock target, fun t ht => by cases ht; exact hslot, hclose⟩ hlater
  have hb := live_book h₀ (hrun.mono fun _ _ => StepIn.step) hlive
  have hsame := slotConsensusReached_run hb hfrom hlive'' hreached
  have hm := (mirrored h₀ (hrun.trans hfrom) hlive'').box hbox''
  cases htie : s''.accounts.ballotBox.tieBreakerSet with
  | true =>
    rw [BallotBox.isVotingValid_tieBreaker htie] at hopen
    cases hopen
  | false =>
    have hreached'' : s''.accounts.epochState.isConsensusReached = true := by
      rw [EpochState.isConsensusReached, hsame]
      exact hreached
    have hc := hm.consensus.symm.trans hreached''
    have hdecided := (hm.slot hc htie).symm.trans hsame
    rw [BallotBox.isVotingValid_votes hc htie (by omega), decide_eq_false (by omega)] at hopen
    cases hopen

/-- In the small epoch, after its weight table has been closed. -/
theorem no_vote_after_close_small :
    ∃ s s' : Lifecycle,
      (exec smallCluster (.closeEpochAccount ⟨10 * defaultSlotsPerEpoch, 10⟩ (.single .weightTable))).run s =
        .ok () s' ∧
      s'.single .ballotBox = .initialized ∧
      ¬Succeeds (exec smallCluster (.castVote ⟨10 * defaultSlotsPerEpoch, 10⟩ 8 5 5 1)) s' := by
  let x := ((smallRun false).take 12).forM (Lifecycle.exec smallCluster)
  let s := commit x small
  let close := exec smallCluster (.closeEpochAccount ⟨10 * defaultSlotsPerEpoch, 10⟩ (.single .weightTable))
  let s' := commit close s
  have hx : x.run small = .ok () s := Succeeds.run_eq (by decide +kernel)
  have hclose : close.run s = .ok () s' := Succeeds.run_eq (by decide +kernel)
  have hslots : ∀ i ∈ (smallRun false).take 12, ∀ t ∈ i.slot, t < u64Max := by decide +kernel
  have hshort : s.accounts.config.validSlotsAfterConsensus + defaultSlotsPerEpoch ≤
      s.accounts.config.epochsAfterConsensusBeforeClose * defaultSlotsPerEpoch := by decide +kernel
  have hvalid : s'.accounts.config.validSlotsAfterConsensus ≤ s.accounts.config.validSlotsAfterConsensus := by
    decide +kernel
  have hbox : s'.single .ballotBox = .initialized := by decide +kernel
  clear_value s s'
  exact ⟨s, s', hclose, hbox, no_vote_after_close rfl small_untouched (run_stepIn hslots hx) hshort (by decide) hclose
    .refl hvalid le_rfl (by decide) 8 5 5 1⟩

end Lifecycle

/-- Whatever configuration was accepted and however its parameters were changed since: no epoch can be closed while
it is voted on exactly if the voting window and an epoch more are over by then, and rewards can be routed in every
epoch before it can be closed exactly if they are over before that. -/
theorem closing_waits_for_voting_iff {math : PreciseMath} {clock : Clock} {ncn ncnFeeWallet admin ncnAdmin
    tieBreakerAdmin : Pubkey} {bump : UInt8} {stall close valid bps : ℕ} {e₀ e : Epoch}
    (hinit : Config.processAdminInitializeConfig math clock ncn ncnFeeWallet admin ncnAdmin tieBreakerAdmin bump
      stall close valid bps = .ok e₀.config) (hrun : Run Epoch.SetsParameters e₀ e) :
    (e.config.ClosesAfterVoting ↔ e.config.validSlotsAfterConsensus + defaultSlotsPerEpoch ≤
      e.config.epochsAfterConsensusBeforeClose * defaultSlotsPerEpoch) ∧
    (e.config.ClosesAfterVoting ∧ e.config.DistributesBeforeClosing ↔
      e.config.validSlotsAfterConsensus + defaultSlotsPerEpoch <
        e.config.epochsAfterConsensusBeforeClose * defaultSlotsPerEpoch) := by
  have hc : e.config.Accepted :=
    Epoch.accepted_run hrun (Config.processAdminInitializeConfig_accepted hinit)
  refine ⟨Config.closesAfterVoting_iff hc, ?_⟩
  rw [Config.closesAfterVoting_iff hc, Config.distributesBeforeClosing_iff hc]
  exact ⟨And.right, fun h => ⟨h.le, h⟩⟩

/-- With a window of 2000 slots all is well. -/
theorem closing_waits_for_voting_iff_short_window :
    ∃ e₀ e : Epoch,
      Config.processAdminInitializeConfig splMath ⟨1, 0⟩ 1 4 5 5 6 0 10 10 1000 100 = .ok e₀.config ∧
      (Epoch.processAdminSetParameters 1 5 5 none none none (some 2000)).run e₀ = .ok () e ∧
      e.config.ClosesAfterVoting ∧ e.config.DistributesBeforeClosing := by
  let fees : Fees := ⟨0, defaultProtocolFeeBps, 100⟩
  let c₀ := Config.new 1 6 0 1000 10 10 ⟨FeeConfig.protocolFeeWalletKey, 4, fees, fees⟩ 0
  let e₀ : Epoch := { Epoch.small 1 with config := c₀ }
  let set := Epoch.processAdminSetParameters 1 5 5 none none none (some 2000)
  let e := commit set e₀
  have hinit : Config.processAdminInitializeConfig splMath ⟨1, 0⟩ 1 4 5 5 6 0 10 10 1000 100 = .ok e₀.config := by
    rfl
  have he : set.run e₀ = .ok () e := Succeeds.run_eq (by decide +kernel)
  have hshort : e.config.validSlotsAfterConsensus + defaultSlotsPerEpoch <
      e.config.epochsAfterConsensusBeforeClose * defaultSlotsPerEpoch := by decide +kernel
  clear_value e
  have hrun : Run Epoch.SetsParameters e₀ e := .single ⟨1, 5, 5, none, none, none, some 2000, he⟩
  exact ⟨e₀, e, hinit, he, (closing_waits_for_voting_iff hinit hrun).2.2 hshort⟩

/-- With a window of 50 epochs the ballot box of an epoch can be closed after 10 epochs, and votes could still be
cast. -/
theorem closing_before_voting_ends :
    ∃ s₀ s s' : Lifecycle,
      Config.processAdminInitializeConfig splMath ⟨1, 0⟩ 1 4 5 5 6 0 10 10 (50 * defaultSlotsPerEpoch) 100 =
        .ok s₀.accounts.config ∧
      s₀.Untouched ∧ Run (Lifecycle.Step Lifecycle.smallCluster) s₀ s ∧
      s.accounts.config = s₀.accounts.config ∧ s.accounts.DecidedAt 10 ∧
      s.accounts.epochState.canCloseEpochAccounts epochOfSlot
        s.accounts.config.epochsAfterConsensusBeforeClose (10 * defaultSlotsPerEpoch) = .ok true ∧
      s.accounts.ballotBox.isVotingValid (10 * defaultSlotsPerEpoch)
        s.accounts.config.validSlotsAfterConsensus = .ok true ∧
      (Lifecycle.processCloseEpochAccount Lifecycle.smallCluster ⟨10 * defaultSlotsPerEpoch, 10⟩
        (.single .ballotBox)).run s = .ok () s' ∧
      ¬s.accounts.config.ClosesAfterVoting := by
  let fees : Fees := ⟨0, defaultProtocolFeeBps, 100⟩
  let c₀ := Config.new 1 6 0 (50 * defaultSlotsPerEpoch) 10 10 ⟨FeeConfig.protocolFeeWalletKey, 4, fees, fees⟩ 0
  let s₀ : Lifecycle := { Lifecycle.small with accounts := { Lifecycle.small.accounts with config := c₀ } }
  let vote := ((Lifecycle.smallRun false).take 12).forM (Lifecycle.exec Lifecycle.smallCluster)
  let close := Lifecycle.processCloseEpochAccount Lifecycle.smallCluster ⟨10 * defaultSlotsPerEpoch, 10⟩
    (.single .ballotBox)
  let s := commit vote s₀
  let s' := commit close s
  have hinit : Config.processAdminInitializeConfig splMath ⟨1, 0⟩ 1 4 5 5 6 0 10 10 (50 * defaultSlotsPerEpoch)
      100 = .ok c₀ := by rfl
  have hs : vote.run s₀ = .ok () s := Succeeds.run_eq (by decide +kernel)
  have hs' : close.run s = .ok () s' := Succeeds.run_eq (by decide +kernel)
  have hconfig : s.accounts.config = c₀ := by decide +kernel
  have hdecided : s.accounts.DecidedAt 10 :=
    ⟨by decide +kernel, by decide +kernel, by decide +kernel, by decide +kernel, by decide +kernel,
      by decide +kernel⟩
  have hclose : s.accounts.epochState.canCloseEpochAccounts epochOfSlot
      s.accounts.config.epochsAfterConsensusBeforeClose (10 * defaultSlotsPerEpoch) = .ok true := by
    decide +kernel
  have hvalid : s.accounts.ballotBox.isVotingValid (10 * defaultSlotsPerEpoch)
      s.accounts.config.validSlotsAfterConsensus = .ok true := by decide +kernel
  clear_value s s'
  refine ⟨s₀, s, s', hinit, ⟨rfl, fun _ => rfl, fun _ => rfl, fun _ => rfl, rfl, rfl⟩, Run.of_forM _ hs, hconfig,
    hdecided, hclose, hvalid, hs', fun hcloses => ?_⟩
  have hover := hcloses _ _ _ rfl hdecided (by decide) (by decide) hclose
  rw [hvalid] at hover
  cases hover

end NcnProgram
