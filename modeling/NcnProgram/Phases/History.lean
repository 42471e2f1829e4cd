import NcnProgram.Phases.Acceptance

/-!
# The result is the history's

The instructions of an epoch are on record. As long as the ballot box is there, its votes are the `cast_vote`
instructions that have been run, in their order, and so the result of the epoch can be computed from them and from the
stakes that the operators' snapshots had then, whatever other instructions stood between them.
-/

namespace NcnProgram
open Lib NCNProgramError

namespace Lifecycle
variable {cl : Cluster} {i : Instruction} {is : List Instruction} {s₀ s s' : Lifecycle}

/-- The vote that an instruction casts in a state, if it is a vote: it weighs what the operator's snapshot has. -/
def Instruction.vote (s : Lifecycle) : Instruction → Option (Election.Vote Pubkey UInt8)
  | .castVote _ operator _ _ weatherStatus => some (s.voteOf operator weatherStatus)
  | _ => none

/-- The votes that instructions cast one after the other, each in the state that it is cast in. -/
def castVotes (cl : Cluster) : List Instruction → Lifecycle → List (Election.Vote Pubkey UInt8)
  | [], _ => []
  | i :: is, s => (i.vote s).toList ++ castVotes cl is (commit (exec cl i) s)

/-- The votes in the box are the ones that have been cast: none before it is there, and then all of them. -/
structure Recorded (vs : List (Election.Vote Pubkey UInt8)) (s : Lifecycle) : Prop where
  before : s.epochState = false → s.epochMarker = false → vs = []
  unboxed : s.epochState = true → s.status .ballotBox = .dne → vs = []
  boxed : s.epochState = true → s.single .ballotBox = .initialized → s.accounts.ballotBox.votes = vs
  staked : ∀ v ∈ vs, v.weight ≠ 0

namespace Recorded
variable {vs : List (Election.Vote Pubkey UInt8)}

/-- A vote is recorded. -/
lemma vote (h₀ : s₀.Untouched) (hm : cl.math.Documented)
    (hrun : Run (StepIn cl fun t => 0 < t ∧ t < u64Max) s₀ s) {clock : Clock}
    {operator voter operatorAdmin : Pubkey} {weatherStatus : UInt8}
    (hi : (exec cl (.castVote clock operator voter operatorAdmin weatherStatus)).run s = .ok () s')
    (h : Recorded vs s) : Recorded (vs ++ [s.voteOf operator weatherStatus]) s' := by
  have hchange := Step.change ⟨_, hi⟩
  obtain ⟨hmay, b, r, st, rfl, hcasts⟩ := castVote_ok h₀ hm hrun hi
  have hb := live_book h₀ (hrun.mono fun _ _ => StepIn.step) hmay.live
  obtain ⟨t, ht, hstake⟩ := hmay.stake
  refine ⟨fun hdead => ?_, fun _ hdne => ?_, fun _ _ => ?_, fun v hv => ?_⟩
  · cases hdead.symm.trans hmay.live
  · exact absurd hdne (hchange.status_ne_dne hb.live (ne_dne hb hmay.box))
  · rw [← h.boxed hmay.live hmay.box]
    exact hcasts.votes
  · rcases List.mem_append.1 hv with hv | hv
    · exact h.staked v hv
    · rw [List.mem_singleton.1 hv, voteOf, Option.mem_def.1 ht]
      exact hstake

/-- Another instruction on an epoch that goes on leaves the votes of its box. -/
lemma boxed_other (hb : s.book.Live cl.index) (hnone : i.vote s = none) (he : Effect cl i s s')
    (h : Recorded vs s) (hbox : s'.single .ballotBox = .initialized) : s'.accounts.ballotBox.votes = vs := by
  cases he.polls hb.live with
  | idle hpolls hinit =>
    rw [show s'.accounts.ballotBox = s.accounts.ballotBox from congrArg Polls.ballotBox hpolls]
    exact h.boxed hb.live (hinit hbox)
  | allocate bump hs' =>
    subst hs'
    cases eq_of_setSingle .ballotBox (.allocated maxReallocBytes) s hbox
  | fill clock bump dataLen halloc hs' =>
    have ht := hb.single .ballotBox
    rw [show s.book.single _ = _ from halloc] at ht
    subst hs'
    rw [(Accounted.new s.accounts.config.ncn s.epoch bump clock.slot).votes_eq, h.unboxed hb.live ht.of_allocated]
    rfl
  | vote clock operator voter operatorAdmin weatherStatus e hi => subst hi; cases hnone
  | tieBreak clock tieBreakerAdmin weatherStatus e _ hbefore hrun hs' =>
    subst hs'
    obtain ⟨b, hset, rfl⟩ := Epoch.processAdminSetTieBreaker_run_ok hrun
    obtain ⟨_, _, _, hb'⟩ := BallotBox.setTieBreakerBallot_run_ok hset
    rw [← h.boxed hb.live hbefore]
    show b.votes = _
    rw [hb']
    rfl

/-- So it changes nothing. -/
lemma other (hb : s.book.Truthful cl.index) (hnone : i.vote s = none) (hi : (exec cl i).run s = .ok () s')
    (h : Recorded vs s) : Recorded vs s' := by
  have hchange := Step.change ⟨i, hi⟩
  cases hb with
  | before hdead hmarker hgone =>
    have hnil := h.before hdead hmarker
    refine ⟨fun _ _ => hnil, fun _ _ => hnil, fun hlive hbox => ?_, h.staked⟩
    obtain ⟨_, clock, bump, rfl⟩ := (exec_effect hi).start_of_dead hdead hlive
    exact absurd hbox (not_initialized hgone _)
  | after hdead hmarker =>
    obtain ⟨config, arrived, arrivedOf, rfl⟩ := exec_frozen hi hdead hmarker
    exact ⟨h.before, h.unboxed, h.boxed, h.staked⟩
  | during hb =>
    have hbegun := (hchange.begun (.inl hb.live)).2
    refine ⟨fun hdead hmarker => ?_, fun _ hdne => ?_, fun _ hbox => h.boxed_other hb hnone (exec_effect hi) hbox,
      h.staked⟩
    · rcases hbegun with hlive | hmarker'
      · cases hdead.symm.trans hlive
      · cases hmarker.symm.trans hmarker'
    · exact h.unboxed hb.live (by_contra fun hne => hchange.status_ne_dne (k := .ballotBox) hb.live hne hdne)

/-- So a list of instructions adds the votes that it casts. -/
lemma of_forM (h₀ : s₀.Untouched) (hm : cl.math.Documented)
    (hruns : Run (StepIn cl fun t => 0 < t ∧ t < u64Max) s₀ s)
    (hslots : ∀ i ∈ is, ∀ t ∈ i.slot, 0 < t ∧ t < u64Max) (hrun : (is.forM (exec cl)).run s = .ok () s')
    (h : Recorded vs s) : Recorded (vs ++ castVotes cl is s) s' := by
  induction is generalizing s vs with
  | nil =>
    cases hrun
    rwa [castVotes, List.append_nil]
  | cons i is ih =>
    obtain ⟨_, s₁, hi, his⟩ := run_bind_ok.1 hrun
    have hstep : StepIn cl (fun t => 0 < t ∧ t < u64Max) s s₁ := ⟨i, hslots i List.mem_cons_self, hi⟩
    rw [castVotes, commit_of_ok hi, ← List.append_assoc]
    refine ih (hruns.tail hstep) (fun j hj => hslots j (List.mem_cons_of_mem _ hj)) his ?_
    have hbook := truthful h₀ (hruns.mono fun _ _ => StepIn.step)
    cases i with
    | castVote => exact h.vote h₀ hm hruns hi
    | _ =>
      show Recorded (vs ++ []) s₁
      rw [List.append_nil]
      exact h.other hbook rfl hi

/-- Before an epoch has begun no vote has been cast. -/
lemma untouched (h₀ : s₀.Untouched) : Recorded [] s₀ := by
  refine ⟨fun _ _ => rfl, fun _ _ => rfl, fun hlive => ?_, fun v hv => ?_⟩
  · cases h₀.epochState.symm.trans hlive
  · cases hv

end Recorded

/-- After any run of instructions on an epoch (whose state no call for another one has emptied), as long as the ballot
box is there, its votes are the `cast_vote` instructions that have been run, in their order, each with the stake, not
zero, that its operator's snapshot had when it was cast; a finalized snapshot that is still there has that stake; and
the consensus result names exactly the weather status to which these votes give two thirds of the snapshotted stake. -/
theorem result_of_history (h₀ : s₀.Untouched) (hm : cl.math.Documented) {is : List Instruction}
    (hslots : ∀ i ∈ is, ∀ t ∈ i.slot, 0 < t ∧ t < u64Max) (hrun : (is.forM (exec cl)).run s₀ = .ok () s)
    (hlive : s.epochState = true) (hbox : s.single .ballotBox = .initialized) :
    s.accounts.ballotBox.votes = castVotes cl is s₀ ∧
      (∀ v ∈ castVotes cl is s₀, v.weight ≠ 0 ∧ ∀ t, s.accounts.operatorSnapshot v.voter = some t →
        t.finalized = true → v.weight = t.stakeWeights.stakeWeight) ∧
      ∀ c, s.accounts.consensusResult.isConsensusReached = true ∧ s.accounts.consensusResult.weatherStatus = c ↔
        Quorum (weightOf (·.candidate) (·.weight) c (castVotes cl is s₀))
          s.accounts.epochSnapshot.stakeWeights.stakeWeight := by
  have hruns := run_stepIn hslots hrun
  obtain ⟨a, hnew, hf⟩ := h₀.follows.run h₀ hm .refl hruns .refl
  have hsound := Election.sound Quorum.monotone hnew
  have hc := hf.during hlive
  have hmarked := ne_dne (live_book h₀ (hruns.mono fun _ _ => StepIn.step) hlive) hbox
  have hrecorded := (Recorded.untouched h₀).of_forM h₀ hm .refl hslots hrun
  have hvotes : s.accounts.ballotBox.votes = castVotes cl is s₀ := hrecorded.boxed hlive hbox
  refine ⟨hvotes, fun v hv => ⟨hrecorded.staked v hv, fun t ht hfin => ?_⟩, fun c => ?_⟩
  · -- The voter is registered once, so the snapshot that is there is the one of the vote.
    obtain ⟨stake, hstake⟩ := Election.exists_weight hsound.register
    rw [← hvotes, (hc.box hmarked).2.1] at hv
    have hmem := hc.registered v.voter t ht
    rw [if_pos hfin] at hmem
    exact (hstake _ (hsound.registered v hv)).symm.trans (hstake _ hmem)
  · rw [← hvotes]
    exact result_of_quorum h₀ hm hruns hlive hbox c

/-- The small epoch before its accounts are closed: its one vote weighs what the operator's snapshot had, and
decides. -/
theorem result_of_history_small :
    ∃ s : Lifecycle, s.accounts.ballotBox.votes = castVotes smallCluster ((smallRun false).take 12) small ∧
      Quorum (weightOf (·.candidate) (·.weight) 1 (castVotes smallCluster ((smallRun false).take 12) small))
        s.accounts.epochSnapshot.stakeWeights.stakeWeight := by
  let x := ((smallRun false).take 12).forM (Lifecycle.exec smallCluster)
  let s := commit x small
  have hx : x.run small = .ok () s := Succeeds.run_eq (by decide +kernel)
  have hstate : s.epochState = true ∧ s.single .ballotBox = .initialized ∧
      s.accounts.consensusResult.isConsensusReached = true ∧ s.accounts.consensusResult.weatherStatus = 1 := by
    decide +kernel
  have hslots : ∀ i ∈ smallRun false, ∀ t ∈ i.slot, 0 < t ∧ t < u64Max := by decide +kernel
  clear_value s
  obtain ⟨hlive, hbox, hreached⟩ := hstate
  obtain ⟨hvotes, _, hresult⟩ := result_of_history small_untouched splMath_documented
    (fun i hi => hslots i (List.mem_of_mem_take hi)) hx hlive hbox
  exact ⟨s, hvotes, (hresult 1).1 hreached⟩

end Lifecycle
end NcnProgram
