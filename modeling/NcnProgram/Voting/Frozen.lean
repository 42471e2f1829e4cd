import NcnProgram.Program.Rewards
import NcnProgram.Program.Snapshot
import NcnProgram.Program.Voting

/-!
# Votes are frozen once routing has begun

Routing is refused while voting is open, and whether it is open is read off the ballot box, the clock and the
configuration on each call. At later slots it does not open again by itself; but the admin may lengthen the
window after routing has begun, and then votes are accepted again between two chunks of a round
(`votes_reopened`). If every change of the parameters leaves voting over, no vote succeeds after the first
route call, and the box stays as the router found it (`votes_frozen`).
-/

namespace NcnProgram
open Lib NCNProgramError

namespace BallotBox
variable {b : BallotBox} {slot slot' valid : ℕ}

/-- Voting that is open now was open before. -/
lemma isVotingValid_of_le (hle : slot ≤ slot') (h : b.isVotingValid slot' valid = .ok true) :
    b.isVotingValid slot valid = .ok true := by
  unfold isVotingValid at h ⊢
  split at h
  · cases h
  · rename_i htie
    rw [if_neg htie]
    split at h
    · rename_i hc
      rw [if_pos hc]
      cases hadd : checkedAdd 64 b.slotConsensusReached valid with
      | none => rw [hadd] at h; cases h
      | some last =>
        rw [hadd] at h
        have hlast : slot' ≤ last := of_decide_eq_true (Except.ok.inj h)
        show Except.ok (decide (slot ≤ last)) = .ok true
        rw [decide_eq_true (hle.trans hlast)]
    · rename_i hc
      rw [if_neg hc]
      rfl

/-- Voting is over only after something has won. -/
lemma isConsensusReached_of_over (h : b.isVotingValid slot valid = .ok false) :
    b.isConsensusReached = true := by
  unfold isVotingValid at h
  split at h
  · rename_i htie
    rw [tieBreakerSet, Bool.and_eq_true] at htie
    rw [isConsensusReached, htie.2, Bool.or_true]
  · split at h
    · assumption
    · cases h

end BallotBox

/-- An epoch and the last slot at which something happened to it. -/
structure Timeline where
  epoch : Epoch
  slot : ℕ

namespace Timeline

/-- A successful vote, tie breaker, change of the parameters or route call, at a slot no earlier than the
last. `allowed` may restrict the voting window that the admin sets. -/
inductive Step (math : PreciseMath) (rent : ℕ) (allowed : Timeline → ℕ → Option ℕ → Prop) :
    Timeline → Timeline → Prop
  | castVote {s e} (clock : Clock) (operator voter operatorAdmin : Pubkey) (weatherStatus : UInt8) :
      s.slot ≤ clock.slot →
      (Epoch.processCastVote math clock operator voter operatorAdmin weatherStatus).run s.epoch = .ok () e →
      Step math rent allowed s ⟨e, clock.slot⟩
  | setTieBreaker {s e} (clock : Clock) (admin : Pubkey) (weatherStatus : UInt8) : s.slot ≤ clock.slot →
      (Epoch.processAdminSetTieBreaker clock admin weatherStatus).run s.epoch = .ok () e →
      Step math rent allowed s ⟨e, clock.slot⟩
  | setParameters {s e} (slot : ℕ) (ncn admin ncnAdmin : Pubkey) (o₁ o₂ o₃ validSlots : Option ℕ) :
      s.slot ≤ slot → allowed s slot validSlots →
      (Epoch.processAdminSetParameters ncn admin ncnAdmin o₁ o₂ o₃ validSlots).run s.epoch = .ok () e →
      Step math rent allowed s ⟨e, slot⟩
  | route {s e} (clock : Clock) (maxIterations : ℕ) : s.slot ≤ clock.slot →
      (Epoch.processRouteNcnRewards math clock rent maxIterations).run s.epoch = .ok () e →
      Step math rent allowed s ⟨e, clock.slot⟩

/-- The window that the admin sets leaves voting over at the slot of the change. -/
def LeavesVotingOver (s : Timeline) (slot : ℕ) (validSlots : Option ℕ) : Prop :=
  s.epoch.ballotBox.isVotingValid slot (validSlots.getD s.epoch.config.validSlotsAfterConsensus) ≠ .ok true

/-- The box is `b`, which has a winner, and voting on it is over. -/
structure Frozen (b : BallotBox) (s : Timeline) : Prop where
  ballotBox : s.epoch.ballotBox = b
  won : b.isConsensusReached = true
  ended : b.isVotingValid s.slot s.epoch.config.validSlotsAfterConsensus ≠ .ok true

namespace Frozen
variable {math : PreciseMath} {rent : ℕ} {b : BallotBox} {s s' : Timeline}

/-- No vote succeeds on a frozen box. -/
lemma not_castVote (h : Frozen b s) {clock : Clock} (hslot : s.slot ≤ clock.slot)
    {operator voter operatorAdmin : Pubkey} {weatherStatus : UInt8} :
    ¬Succeeds (Epoch.processCastVote math clock operator voter operatorAdmin weatherStatus) s.epoch := by
  rintro ⟨_, e, hrun⟩
  obtain ⟨snap, b₁, b₂, result, _, _, _, hcast, _⟩ := Epoch.processCastVote_run_ok hrun
  obtain ⟨hvalid, _⟩ := BallotBox.castVote_run_ok hcast
  rw [h.ballotBox] at hvalid
  exact h.ended (BallotBox.isVotingValid_of_le hslot hvalid)

/-- The box stays frozen at later slots. -/
lemma later (h : Frozen b s) {e : Epoch} {slot : ℕ} (hslot : s.slot ≤ slot) (hbox : e.ballotBox = b)
    (hconfig : e.config = s.epoch.config) : Frozen b ⟨e, slot⟩ :=
  ⟨hbox, h.won, fun hv => h.ended (hconfig ▸ BallotBox.isVotingValid_of_le hslot hv)⟩

/-- Every step leaves the box frozen, if the admin does not open voting again. -/
lemma step (h : Frozen b s) (hstep : Step math rent LeavesVotingOver s s') : Frozen b s' := by
  cases hstep with
  | castVote clock operator voter operatorAdmin weatherStatus hslot hrun =>
    exact absurd ⟨(), _, hrun⟩ (h.not_castVote hslot)
  | setTieBreaker clock admin weatherStatus hslot hrun =>
    -- something has won, so there is no tie to break
    obtain ⟨b', hset, _⟩ := Epoch.processAdminSetTieBreaker_run_ok hrun
    have hnot := (BallotBox.setTieBreakerBallot_run_ok hset).1
    rw [h.ballotBox, h.won] at hnot
    cases hnot
  | setParameters slot ncn admin ncnAdmin o₁ o₂ o₃ validSlots hslot hover hrun =>
    obtain ⟨c, hc, rfl⟩ := Epoch.processAdminSetParameters_run_ok hrun
    refine ⟨h.ballotBox, h.won, ?_⟩
    rw [LeavesVotingOver, h.ballotBox] at hover
    obtain ⟨_, _, _, rfl⟩ := Config.setParameters_run_ok hc
    exact hover
  | route clock maxIterations hslot hrun =>
    obtain ⟨r, rfl⟩ := Epoch.processRouteNcnRewards_run_ok hrun
    exact h.later hslot h.ballotBox rfl

end Frozen
end Timeline

/-- After a successful route call no vote succeeds and the ballot box stays the same, in every run in which
no change of the parameters opens voting again. -/
theorem votes_frozen {math : PreciseMath} {rent : ℕ} {e e' : Epoch} {clock : Clock} {maxIterations : ℕ}
    (hroute : (Epoch.processRouteNcnRewards math clock rent maxIterations).run e = .ok () e')
    {s : Timeline} (hrun : Run (Timeline.Step math rent Timeline.LeavesVotingOver) ⟨e', clock.slot⟩ s) :
    s.epoch.ballotBox = e.ballotBox ∧
      ∀ clock' : Clock, s.slot ≤ clock'.slot → ∀ operator voter operatorAdmin weatherStatus,
        ¬Succeeds (Epoch.processCastVote math clock' operator voter operatorAdmin weatherStatus)
          s.epoch := by
  have hover := Epoch.over_of_route hroute
  have hfrozen : Timeline.Frozen e.ballotBox ⟨e', clock.slot⟩ := by
    obtain ⟨r, rfl⟩ := Epoch.processRouteNcnRewards_run_ok hroute
    refine ⟨rfl, BallotBox.isConsensusReached_of_over hover, fun hv => ?_⟩
    simp only [hover] at hv
    cases hv
  have h : Timeline.Frozen e.ballotBox s := hrun.invariant hfrozen fun _ _ hstep h => h.step hstep
  exact ⟨h.ballotBox, fun clock' hslot _ _ _ _ => h.not_castVote hslot⟩

/-- The small epoch with three operators of stakes two, one and one, their snapshots complete, and a thousand
lamports at the NCN's receiver. -/
def Epoch.smallElectorate : Epoch :=
  let create (operator : Pubkey) (index : ℕ) :=
    processInitializeOperatorSnapshot ⟨1, 0⟩ 0 ⟨operator, index, 0, index, true⟩
  let register (operator : Pubkey) (stake : ℕ) : Mut Epoch Unit := do
    processSnapshotVaultOperatorDelegation splMath ⟨1, 0⟩ operator (.small false stake)
    processSnapshotVaultOperatorDelegation splMath ⟨1, 0⟩ operator (.small true 0)
  commit (do
    create 7 0
    create 8 1
    create 9 2
    register 7 2
    register 8 1
    register 9 1
    depositNcn 1005) (.small 3)

/-- The weight of the winning ballot. -/
def BallotBox.winningWeight (b : BallotBox) : Option ℕ :=
  b.getWinningBallotTally.toOption.map (·.stakeWeights.stakeWeight)

/-- Two operators vote, the first chunk is routed after the window of a thousand slots, the admin sets the
window to the one it has, and the second chunk is routed: the third operator cannot vote. -/
theorem votes_frozen_between_chunks :
    ∃ (e e' : Epoch) (s : Timeline),
      (Epoch.processRouteNcnRewards splMath ⟨1011, 0⟩ 5 1).run e = .ok () e' ∧
      Run (Timeline.Step splMath 5 Timeline.LeavesVotingOver) ⟨e', 1011⟩ s ∧
      s.epoch.config.validSlotsAfterConsensus = 1000 ∧ s.epoch.ballotBox = e.ballotBox ∧
      ¬Succeeds (Epoch.processCastVote splMath ⟨1013, 0⟩ 9 5 5 1) s.epoch := by
  let vote (operator : Pubkey) := Epoch.processCastVote splMath ⟨10, 0⟩ operator 5 5 1
  let route := Epoch.processRouteNcnRewards splMath ⟨1011, 0⟩ 5 1
  let set := Epoch.processAdminSetParameters 1 6 6 none none none (some 1000)
  let e := commit (vote 8) (commit (vote 7) Epoch.smallElectorate)
  let e₁ := commit route e
  let e₂ := commit set e₁
  let e₃ := commit (Epoch.processRouteNcnRewards splMath ⟨1012, 0⟩ 5 1) e₂
  have r₁ : route.run e = .ok () e₁ := Succeeds.run_eq (by decide +kernel)
  have r₂ : set.run e₁ = .ok () e₂ := Succeeds.run_eq (by decide +kernel)
  have r₃ : (Epoch.processRouteNcnRewards splMath ⟨1012, 0⟩ 5 1).run e₂ = .ok () e₃ :=
    Succeeds.run_eq (by decide +kernel)
  have hover : (e₁.ballotBox.isVotingValid 1012 1000).toOption = some false := by decide +kernel
  have hvalid : e₃.config.validSlotsAfterConsensus = 1000 := by decide +kernel
  clear_value e e₁ e₂ e₃
  have t₂ : Timeline.Step splMath 5 Timeline.LeavesVotingOver ⟨e₁, 1011⟩ ⟨e₂, 1012⟩ := by
    refine .setParameters 1012 1 6 6 none none none (some 1000) (show 1011 ≤ 1012 by decide) ?_ r₂
    intro h
    rw [show e₁.ballotBox.isVotingValid 1012 1000 = .ok true from h] at hover
    cases hover
  have t₃ : Timeline.Step splMath 5 Timeline.LeavesVotingOver ⟨e₂, 1012⟩ ⟨e₃, 1012⟩ :=
    .route ⟨1012, 0⟩ 1 (Nat.le_refl _) r₃
  have hrun := (Relation.ReflTransGen.single t₂).tail t₃
  obtain ⟨hbox, hvote⟩ := votes_frozen r₁ hrun
  exact ⟨e, e₁, _, r₁, hrun, hvalid, hbox, hvote ⟨1013, 0⟩ (show 1012 ≤ 1013 by decide) 9 5 5 1⟩

/-- Two operators vote and the first chunk is routed after the window of a thousand slots; then the admin
sets the window to two thousand, and the third operator votes: the winning tally grows from three to four
in the middle of the round. -/
theorem votes_reopened :
    ∃ (s₀ s₁ : Timeline) (e : Epoch) (s₂ s₃ : Timeline),
      Run (Timeline.Step splMath 5 fun _ _ _ => True) s₀ s₁ ∧
      (Epoch.processRouteNcnRewards splMath ⟨1011, 0⟩ 5 1).run s₁.epoch = .ok () e ∧
      e.ncnRewardRouter.stillRouting = true ∧
      Run (Timeline.Step splMath 5 fun _ _ _ => True) ⟨e, 1011⟩ s₂ ∧
      (Epoch.processCastVote splMath ⟨1013, 0⟩ 9 5 5 1).run s₂.epoch = .ok () s₃.epoch ∧
      s₁.epoch.ballotBox.winningWeight = some 3 ∧ s₃.epoch.ballotBox.winningWeight = some 4 := by
  let vote (slot : ℕ) (operator : Pubkey) := Epoch.processCastVote splMath ⟨slot, 0⟩ operator 5 5 1
  let route := Epoch.processRouteNcnRewards splMath ⟨1011, 0⟩ 5 1
  let set := Epoch.processAdminSetParameters 1 6 6 none none none (some 2000)
  let e₀ := Epoch.smallElectorate
  let e₁ := commit (vote 10 7) e₀
  let e₂ := commit (vote 10 8) e₁
  let e₃ := commit route e₂
  let e₄ := commit set e₃
  let e₅ := commit (vote 1013 9) e₄
  have r₁ : (vote 10 7).run e₀ = .ok () e₁ := Succeeds.run_eq (by decide +kernel)
  have r₂ : (vote 10 8).run e₁ = .ok () e₂ := Succeeds.run_eq (by decide +kernel)
  have r₃ : route.run e₂ = .ok () e₃ := Succeeds.run_eq (by decide +kernel)
  have r₄ : set.run e₃ = .ok () e₄ := Succeeds.run_eq (by decide +kernel)
  have r₅ : (vote 1013 9).run e₄ = .ok () e₅ := Succeeds.run_eq (by decide +kernel)
  have hstill : e₃.ncnRewardRouter.stillRouting = true := by decide +kernel
  have hthree : e₂.ballotBox.winningWeight = some 3 := by decide +kernel
  have hfour : e₅.ballotBox.winningWeight = some 4 := by decide +kernel
  clear_value e₀ e₁ e₂ e₃ e₄ e₅
  have t₁ : Timeline.Step splMath 5 (fun _ _ _ => True) ⟨e₀, 1⟩ ⟨e₁, 10⟩ :=
    .castVote ⟨10, 0⟩ 7 5 5 1 (show 1 ≤ 10 by decide) r₁
  have t₂ : Timeline.Step splMath 5 (fun _ _ _ => True) ⟨e₁, 10⟩ ⟨e₂, 10⟩ :=
    .castVote ⟨10, 0⟩ 8 5 5 1 (Nat.le_refl _) r₂
  have t₄ : Timeline.Step splMath 5 (fun _ _ _ => True) ⟨e₃, 1011⟩ ⟨e₄, 1012⟩ :=
    .setParameters 1012 1 6 6 none none none (some 2000) (show 1011 ≤ 1012 by decide) trivial r₄
  exact ⟨_, ⟨e₂, 10⟩, e₃, ⟨e₄, 1012⟩, ⟨e₅, 1013⟩, (Relation.ReflTransGen.single t₁).tail t₂, r₃, hstill,
    .single t₄, r₅, hthree, hfour⟩

end NcnProgram
