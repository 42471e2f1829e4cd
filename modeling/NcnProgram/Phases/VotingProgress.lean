import NcnProgram.Phases.Polls
import NcnProgram.Phases.Records

/-!
# How far the vote has come

The epoch state counts the votes against the number of operators. Two instructions that may come in either order
work on this: `process_initialize_epoch_snapshot` writes the number of operators, and the call of
`process_realloc_ballot_box` that gives the ballot box its data starts to count with the number that is there.
The votes are counted against the operators of the epoch exactly if the snapshot comes first.
-/

namespace NcnProgram
open Lib

/-- The votes are counted against the operators of the snapshot, so the vote is complete only when every
operator has voted. -/
structure Epoch.VotesCounted (e : Epoch) : Prop where
  progress : e.epochState.votingProgress = ⟨e.ballotBox.operatorsVoted, e.epochSnapshot.operatorCount⟩
  complete : e.epochState.votingProgress.isComplete = true →
    e.epochSnapshot.operatorCount ≤ e.ballotBox.operatorsVoted

/-- The second part follows from the first. -/
lemma Epoch.VotesCounted.of_progress {e : Epoch}
    (h : e.epochState.votingProgress = ⟨e.ballotBox.operatorsVoted, e.epochSnapshot.operatorCount⟩) :
    e.VotesCounted := by
  refine ⟨h, fun hcomplete => ?_⟩
  rw [h, Progress.isComplete] at hcomplete
  split at hcomplete
  · cases hcomplete
  · exact of_decide_eq_true hcomplete

namespace Lifecycle
variable {cl : Cluster} {i : Instruction} {s s' : Lifecycle} {n : ℕ}

/-- The ballot box has had its data, and the votes in it are counted against `n`. -/
structure CountsAgainst (n : ℕ) (s : Lifecycle) : Prop where
  status : s.book.status .ballotBox ≠ .dne
  progress : s.single .ballotBox = .initialized →
    s.accounts.epochState.votingProgress = ⟨s.accounts.ballotBox.operatorsVoted, n⟩

/-- The number is not written again. -/
lemma CountsAgainst.effect (hb : s.book.Live cl.index) (hchange : Book.Change cl.index s.book s'.book)
    (heffect : Effect cl i s s') (h : CountsAgainst n s) : CountsAgainst n s' := by
  refine ⟨hchange.status_ne_dne hb.live h.status, ?_⟩
  cases heffect.polls hb.live with
  | idle hpolls hinit =>
    intro hs'
    have hbox : s'.accounts.ballotBox = s.accounts.ballotBox := congrArg Polls.ballotBox hpolls
    rw [show s'.accounts.epochState.votingProgress = _ from congrArg Polls.votingProgress hpolls, hbox]
    exact h.progress (hinit hs')
  | allocate bump hs' =>
    subst hs'
    intro hs'
    cases eq_of_setSingle .ballotBox (.allocated maxReallocBytes) s hs'
  | fill clock bump dataLen halloc hs' =>
    have ht := hb.single .ballotBox
    rw [show s.book.single _ = _ from halloc] at ht
    exact absurd ht.of_allocated h.status
  | vote clock operator voter operatorAdmin weatherStatus e _ hbox _ hrun hs' =>
    subst hs'
    obtain ⟨snap, b₁, b₂, result, _, _, _, _, _, _, rfl⟩ := Epoch.processCastVote_run_ok hrun
    intro _
    show ({ s.accounts.epochState.votingProgress with tally := b₂.operatorsVoted } : Progress) = _
    rw [h.progress hbox]
  | tieBreak clock tieBreakerAdmin weatherStatus e _ hbox hrun hs' =>
    subst hs'
    obtain ⟨b, hb, rfl⟩ := Epoch.processAdminSetTieBreaker_run_ok hrun
    obtain ⟨_, _, _, rfl⟩ := BallotBox.setTieBreakerBallot_run_ok hb
    rw [EpochState.updateSetTieBreaker_eq]
    exact fun _ => h.progress hbox

/-- The snapshot of the epoch has been taken, of `n` operators. -/
structure Snapshotted (n : ℕ) (s : Lifecycle) : Prop where
  status : s.book.status .epochSnapshot ≠ .dne
  operatorCount : s.accounts.epochState.operatorCount = n

/-- The number of operators is written once. -/
lemma Snapshotted.effect (hb : s.book.Live cl.index) (hchange : Book.Change cl.index s.book s'.book)
    (heffect : Effect cl i s s') (h : Snapshotted n s) : Snapshotted n s' := by
  refine ⟨hchange.status_ne_dne hb.live h.status, ?_⟩
  have hn := h.operatorCount
  cases heffect with
  | quiet hq => exact (congrArg (·.milestones.operatorCount) hq.groundwork).trans hn
  | start clock bump hlive =>
    rw [show s.epochState = true from hb.live] at hlive
    cases hlive
  | openSnapshot clock bump operatorCount _ hclosing habsent _ _ _ hs' =>
    have ht := hb.single .epochSnapshot
    rw [show s.book.single _ = _ from habsent, show s.book.closing = _ from hclosing] at ht
    exact absurd ht.of_absent h.status
  | createSnapshot clock bump op e _ _ _ hrun hs' =>
    subst hs'
    obtain ⟨_, _, t, es, st, _, _, hst, rfl⟩ := Epoch.processInitializeOperatorSnapshot_run_ok hrun
    obtain ⟨_, rfl⟩ := EpochState.updateReallocOperatorSnapshot_run_ok hst
    exact hn
  | registerVault clock operator v e _ _ hrun hs' =>
    subst hs'
    obtain ⟨t, t', sw, es, st, _, _, _, _, hst, rfl⟩ := Epoch.processSnapshotVaultOperatorDelegation_run_ok hrun
    obtain ⟨_, rfl⟩ := EpochState.updateSnapshotVaultOperatorDelegation_run_ok hst
    exact hn
  | vote clock operator voter operatorAdmin weatherStatus e _ _ _ _ hrun hs' =>
    subst hs'
    obtain ⟨_, _, _, _, _, _, _, _, _, _, rfl⟩ := Epoch.processCastVote_run_ok hrun
    exact hn
  | tieBreak clock tieBreakerAdmin weatherStatus e _ _ _ hrun hs' =>
    subst hs'
    obtain ⟨b, _, rfl⟩ := Epoch.processAdminSetTieBreaker_run_ok hrun
    rw [EpochState.updateSetTieBreaker_eq]
    exact hn
  | allocateBox bump _ hs' => subst hs'; exact hn
  | fillTable clock bump vaultList stMintList w dataLen _ _ _ hs' => subst hs'; exact hn
  | setWeights w _ _ _ hs' => subst hs'; exact hn
  | fillBox clock bump dataLen _ _ hs' => subst hs'; exact hn

/-- The call of `process_realloc_ballot_box` that gives the ballot box its data. -/
structure FillsBallotBox (clock : Clock) (bump : UInt8) (s s₁ : Lifecycle) : Prop where
  empty : s.single .ballotBox ≠ .initialized
  run : (processReallocBallotBox clock bump).run s = .ok () s₁
  filled : s₁.single .ballotBox = .initialized

/-- It starts to count against the operators that the epoch state has. -/
lemma FillsBallotBox.spec {clock : Clock} {bump : UInt8} (h : FillsBallotBox clock bump s s') :
    s.epochState = true ∧ (∃ dataLen, s.single .ballotBox = .allocated dataLen) ∧
      s' = { s.setSingle .ballotBox .initialized with
        accounts := { s.accounts with
          ballotBox := .new s.accounts.config.ncn s.epoch bump clock.slot
          epochState := s.accounts.epochState.updateReallocBallotBox } } := by
  obtain ⟨done, s₁, hg, hrest⟩ := run_bind_ok.1 h.run
  obtain ⟨hlive, ⟨rfl, rfl⟩ | ⟨dataLen, newLen, halloc, rfl⟩⟩ := realloc_ok hg
  · cases hrest
    exact absurd h.filled h.empty
  · refine ⟨hlive, ⟨dataLen, halloc⟩, ?_⟩
    cases done with
    | false =>
      cases hrest
      cases eq_of_setSingle .ballotBox (.allocated newLen) s h.filled
    | true =>
      cases hrest
      rw [setSingle_setSingle]
      rfl

/-- Before the ballot box has its data, the snapshot is there or has never been. -/
lemma snapshot_status_of_allocated (hb : s.book.Live cl.index) {dataLen : ℕ}
    (halloc : s.single .ballotBox = .allocated dataLen) (hs : s.single .epochSnapshot ≠ .initialized) :
    s.accounts.epochState.accountStatus.epochSnapshot = .dne := by
  -- a snapshot that is gone was closed after consensus, for which the box had its data
  have ht := hb.single .ballotBox
  rw [show s.book.single _ = _ from halloc] at ht
  have hclosing : s.book.closing = false := by
    cases hc : s.book.closing with
    | false => rfl
    | true => exact absurd ht.of_allocated (hb.consensus (hb.closing hc)).1
  have ht' := hb.single .epochSnapshot
  rw [hclosing] at ht'
  cases hslot : s.single .epochSnapshot with
  | initialized => exact absurd hslot hs
  | absent => rw [show s.book.single _ = _ from hslot] at ht'; exact ht'.of_absent
  | allocated n => rw [show s.book.single _ = _ from hslot] at ht'; exact ht'.of_allocated

end Lifecycle

/-- Once the ballot box and the snapshot of an epoch are there, its votes are counted against the operators of
the snapshot exactly if the snapshot was there when the ballot box got its data. -/
theorem votes_counted_iff {cl : Cluster} {s₀ s s₁ s₂ : Lifecycle} {clock : Clock} {bump : UInt8}
    (h₀ : s₀.Untouched) (hrun : Run (Lifecycle.Step cl) s₀ s)
    (hfill : Lifecycle.FillsBallotBox clock bump s s₁) (hrun' : Run (Lifecycle.Step cl) s₁ s₂)
    (hlive : s₂.epochState = true) (hbox : s₂.single .ballotBox = .initialized)
    (hsnap : s₂.single .epochSnapshot = .initialized) :
    s₂.accounts.VotesCounted ↔ s.single .epochSnapshot = .initialized := by
  have hstep : Lifecycle.Step cl s s₁ := ⟨.reallocBallotBox clock bump, hfill.run⟩
  obtain ⟨hlive₀, ⟨dataLen, halloc⟩, rfl⟩ := hfill.spec
  have hb := Lifecycle.live_book h₀ hrun hlive₀
  have hb₁ := Lifecycle.live_book h₀ (hrun.tail hstep) hlive₀
  have hkept := Lifecycle.kept h₀ hrun hlive₀
  have hsnap₂ := (Lifecycle.kept h₀ ((hrun.tail hstep).trans hrun') hlive).snapshot hsnap
  have hruns := hrun'.mono fun _ _ => Lifecycle.Step.stepIn
  have hcounts := Lifecycle.live_run
    (I := Lifecycle.CountsAgainst s.accounts.epochState.operatorCount)
    (fun _ _ _ hb hchange _ heffect h => h.effect hb hchange heffect) hb₁
    ⟨fun h => (by cases h), fun _ => rfl⟩ hruns hlive
  constructor
  · intro hcounted
    by_contra hs
    have hzero := (hkept.unopened (Lifecycle.snapshot_status_of_allocated hb halloc hs)).1
    have htotal := congrArg Progress.total (hcounted.progress.symm.trans (hcounts.progress hbox))
    exact hsnap₂.operatorCount_pos.ne' (htotal.trans hzero)
  · intro hs
    have hopened : s.book.status .epochSnapshot ≠ .dne := by
      have ht := hb.single .epochSnapshot
      rw [show s.book.single _ = _ from hs] at ht
      exact ht.ne_dne
    have hsame := Lifecycle.live_run
      (I := Lifecycle.Snapshotted s.accounts.epochState.operatorCount)
      (fun _ _ _ hb hchange _ heffect h => h.effect hb hchange heffect) hb₁ ⟨hopened, rfl⟩ hruns hlive
    refine .of_progress ?_
    rw [hcounts.progress hbox, ← hsame.operatorCount]
    exact congrArg (Progress.mk _) hsnap₂.operatorCount

/-- In the small epoch the snapshot comes first, and its one vote completes the vote. -/
theorem votes_counted_iff_snapshot_first :
    ∃ s s₁ s₂, Run (Lifecycle.Step Lifecycle.smallCluster) Lifecycle.small s ∧
      Lifecycle.FillsBallotBox ⟨1, 0⟩ 0 s s₁ ∧ Run (Lifecycle.Step Lifecycle.smallCluster) s₁ s₂ ∧
      s₂.accounts.epochState.votingProgress = ⟨1, 1⟩ ∧ s₂.accounts.VotesCounted := by
  let setup := ((Lifecycle.smallRun false).take 10).forM (Lifecycle.exec Lifecycle.smallCluster)
  let fill := Lifecycle.processReallocBallotBox ⟨1, 0⟩ 0
  let vote := Lifecycle.exec Lifecycle.smallCluster (.castVote ⟨10, 0⟩ 7 5 5 1)
  let s := commit setup Lifecycle.small
  let s₁ := commit fill s
  let s₂ := commit vote s₁
  have hs : setup.run Lifecycle.small = .ok () s := Succeeds.run_eq (by decide +kernel)
  have hs₁ : fill.run s = .ok () s₁ := Succeeds.run_eq (by decide +kernel)
  have hs₂ : vote.run s₁ = .ok () s₂ := Succeeds.run_eq (by decide +kernel)
  have hfill : s.single .ballotBox ≠ .initialized ∧ s₁.single .ballotBox = .initialized ∧
      s.single .epochSnapshot = .initialized := by decide +kernel
  have hend : s₂.epochState = true ∧ s₂.single .ballotBox = .initialized ∧
      s₂.single .epochSnapshot = .initialized ∧ s₂.accounts.epochState.votingProgress = ⟨1, 1⟩ := by
    decide +kernel
  clear_value s s₁ s₂
  obtain ⟨hempty, hfilled, hfirst⟩ := hfill
  obtain ⟨hlive, hbox, hsnap, hprogress⟩ := hend
  have hrun : Run (Lifecycle.Step Lifecycle.smallCluster) Lifecycle.small s := Run.of_forM _ hs
  have hrun' : Run (Lifecycle.Step Lifecycle.smallCluster) s₁ s₂ := .single ⟨_, hs₂⟩
  refine ⟨s, s₁, s₂, hrun, ⟨hempty, hs₁, hfilled⟩, hrun', hprogress, ?_⟩
  exact (votes_counted_iff Lifecycle.small_untouched hrun ⟨hempty, hs₁, hfilled⟩ hrun' hlive hbox hsnap).2 hfirst

/-- If the ballot box comes first, the vote of the one operator is complete before it votes. -/
theorem votes_not_counted_box_first :
    ∃ s s₁ s₂, Run (Lifecycle.Step Lifecycle.smallCluster) Lifecycle.small s ∧
      Lifecycle.FillsBallotBox ⟨1, 0⟩ 0 s s₁ ∧ Run (Lifecycle.Step Lifecycle.smallCluster) s₁ s₂ ∧
      s₂.epochState = true ∧ s₂.single .ballotBox = .initialized ∧ s₂.single .epochSnapshot = .initialized ∧
      s₂.accounts.epochSnapshot.operatorCount = 1 ∧ s₂.accounts.ballotBox.operatorsVoted = 0 ∧
      s₂.accounts.epochState.votingProgress.isComplete = true ∧ ¬s₂.accounts.VotesCounted := by
  let setup := List.forM [.initializeEpochState ⟨1, 0⟩ 0, .initializeBallotBox 0, .reallocBallotBox ⟨1, 0⟩ 0]
    (Lifecycle.exec Lifecycle.smallCluster)
  let fill := Lifecycle.processReallocBallotBox ⟨1, 0⟩ 0
  let rest := (((Lifecycle.smallRun false).take 6).drop 1).forM (Lifecycle.exec Lifecycle.smallCluster)
  let s := commit setup Lifecycle.small
  let s₁ := commit fill s
  let s₂ := commit rest s₁
  have hs : setup.run Lifecycle.small = .ok () s := Succeeds.run_eq (by decide +kernel)
  have hs₁ : fill.run s = .ok () s₁ := Succeeds.run_eq (by decide +kernel)
  have hs₂ : rest.run s₁ = .ok () s₂ := Succeeds.run_eq (by decide +kernel)
  have hfill : s.single .ballotBox ≠ .initialized ∧ s₁.single .ballotBox = .initialized := by decide +kernel
  have hend : s₂.epochState = true ∧ s₂.single .ballotBox = .initialized ∧
      s₂.single .epochSnapshot = .initialized ∧ s₂.accounts.epochSnapshot.operatorCount = 1 ∧
      s₂.accounts.ballotBox.operatorsVoted = 0 ∧ s₂.accounts.epochState.votingProgress.isComplete = true := by
    decide +kernel
  clear_value s s₁ s₂
  obtain ⟨hlive, hbox, hsnap, hcount, hvoted, hcomplete⟩ := hend
  refine ⟨s, s₁, s₂, Run.of_forM _ hs, ⟨hfill.1, hs₁, hfill.2⟩, Run.of_forM _ hs₂, hlive, hbox, hsnap, hcount,
    hvoted, hcomplete, fun hcounted => ?_⟩
  have hle := hcounted.complete hcomplete
  omega

end NcnProgram
