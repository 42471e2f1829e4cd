import NcnProgram.Phases.Election
import NcnProgram.Voting.Record

/-!
# No quorum goes unnoticed

Votes are tallied as they come, so a ballot that gets two thirds of the snapshotted stake is declared the winner at
once: the consensus result names exactly the weather status that has the quorum. Also a tie breaker cannot overrule
one, since it is only taken where nothing has been decided.
-/

namespace NcnProgram
open Lib NCNProgramError

/-- No votes are no quorum. -/
lemma Quorum.ne_zero {w T : ℕ} (h : Quorum w T) : w ≠ 0 := (h.2.pos h.1).ne'

/-- No candidate has the quorum. -/
def Epoch.NoQuorum (e : Epoch) : Prop :=
  ∀ c, ¬Quorum (weightOf (·.candidate) (·.weight) c e.ballotBox.votes) e.epochSnapshot.stakeWeights.stakeWeight

/-- Without votes there is none. -/
lemma Epoch.NoQuorum.of_nil {e : Epoch} (h : e.ballotBox.votes = []) : e.NoQuorum := by
  intro c hc
  rw [h] at hc
  exact hc.ne_zero rfl

/-- When a tally decides nothing, no candidate has the quorum. -/
lemma Latched.noQuorum_of_tally {math : PreciseMath} (hm : math.Documented) {b b' : BallotBox} (h : Latched b)
    (htie : b.tieBreakerSet = false) {total slot : ℕ} (htotal : total < 2 ^ 128)
    (hslot : slot ≠ defaultConsensusReachedSlot) (htally : (BallotBox.tallyVotes math total slot).run b = .ok () b')
    (hnone : ∀ c, b'.outcome ≠ .elected c) (c : UInt8) :
    ¬Quorum (weightOf (·.candidate) (·.weight) c b'.votes) total := by
  rintro ⟨hpos, hcrosses⟩
  obtain ⟨vs, ts, hacc⟩ := h.accounted
  -- nothing was decided before
  have hopen : b.slotConsensusReached = defaultConsensusReachedSlot ∧ b.winningBallot.isValid = false := by
    have hreached : b.slotConsensusReached = defaultConsensusReachedSlot := by
      by_contra hreached
      rcases BallotBox.tallyVotes_run_ok htally with rfl | ⟨hdefault, _⟩
      · exact hnone _ (BallotBox.outcome_of_votes (h.winner hreached) hreached)
      · exact hreached hdefault
    rw [BallotBox.tieBreakerSet, hreached, beq_self_eq_true, Bool.true_and] at htie
    exact ⟨hreached, htie⟩
  obtain ⟨t, ht, hmax, hrun⟩ := BallotBox.tallyVotes_run hm htotal hpos slot hopen.1
  rw [BallotBox.votes_tallyVotes htally] at hcrosses
  -- the candidate has a tally, and one with the most stake is tested
  obtain ⟨v, hv, rfl⟩ : ∃ v ∈ b.votes, v.candidate = c := by
    by_contra hno
    refine (hcrosses.pos hpos).ne' (weightOf_eq_zero fun v hv hvc => hno ⟨v, hv, hvc⟩)
  obtain ⟨u, hu, huv⟩ := hacc.tally_of_backed hv
  rw [← huv, hacc.weight_eq hu] at hcrosses
  have hmem : u ∈ b.ballotTallies.toList := by
    rw [hacc.tallies]
    exact List.mem_append_left _ hu
  have hwin := hcrosses.mono (hmax u hmem)
  have hvalid := hacc.isValid_of_pos ht (hwin.pos hpos)
  rw [hrun, if_pos ⟨hwin, hopen.2⟩] at htally
  cases htally
  exact hnone _ (BallotBox.outcome_of_votes hvalid hslot)

namespace Lifecycle
variable {cl : Cluster} {i : Instruction} {s s' : Lifecycle} {a : Election Pubkey UInt8}

/-- Once someone has voted, the epoch's snapshot does not change. -/
lemma Effect.epochSnapshot_eq (h : Effect cl i s s') (hb : s.book.Live cl.index) (hc : Conducts s a)
    (hvoted : a.votes ≠ []) : s'.accounts.epochSnapshot = s.accounts.epochSnapshot := by
  cases h with
  | quiet hq => exact congrArg Groundwork.epochSnapshot hq.groundwork
  | openSnapshot clock bump n _ hclosing habsent =>
    have ht := hb.single .epochSnapshot
    rw [show s.book.single _ = _ from habsent, show s.book.closing = _ from hclosing] at ht
    exact absurd (hc.unopened ht.of_absent).2 hvoted
  | createSnapshot clock bump op e _ _ _ hrun hs' =>
    subst hs'
    obtain ⟨_, _, _, _, _, _, hes, _, rfl⟩ := Epoch.processInitializeOperatorSnapshot_run_ok hrun
    exact hes.eq_of_finalized (hc.finalized hvoted)
  | registerVault clock operator v e _ _ hrun hs' =>
    subst hs'
    obtain ⟨_, _, _, _, _, _, _, _, hes, _, rfl⟩ := Epoch.processSnapshotVaultOperatorDelegation_run_ok hrun
    exact hes.eq_of_finalized (hc.finalized hvoted)
  | vote _ _ _ _ _ _ _ _ _ _ hrun hs' =>
    subst hs'
    obtain ⟨_, _, _, _, _, _, _, _, _, _, rfl⟩ := Epoch.processCastVote_run_ok hrun
    rfl
  | tieBreak _ _ _ _ _ _ _ hrun hs' =>
    subst hs'
    obtain ⟨_, _, rfl⟩ := Epoch.processAdminSetTieBreaker_run_ok hrun
    rfl
  | start _ _ _ _ hs' | allocateBox _ _ hs' | fillTable _ _ _ _ _ _ _ _ _ hs' | setWeights _ _ _ _ hs'
  | fillBox _ _ _ _ _ hs' =>
    subst hs'
    rfl

/-- Where votes change nothing, no candidate gets a quorum. -/
lemma noQuorum_of_same (h : Effect cl i s s') (hb : s.book.Live cl.index) (hc : Conducts s a)
    (hbox : s.single .ballotBox = .initialized)
    (hvotes : s'.accounts.ballotBox.votes = s.accounts.ballotBox.votes) (hnone : s.accounts.NoQuorum) :
    s'.accounts.NoQuorum := by
  by_cases hvoted : a.votes = []
  · exact .of_nil (hvotes.trans ((hc.box (ne_dne hb hbox)).2.1.trans hvoted))
  · intro c
    rw [hvotes, h.epochSnapshot_eq hb hc hvoted]
    exact hnone c

/-- Where the box has not elected a candidate, none has the quorum. -/
lemma noticed {s₀ : Lifecycle} (h₀ : s₀.Untouched) (hm : cl.math.Documented)
    (h : Run (StepIn cl fun t => 0 < t ∧ t < u64Max) s₀ s) (hlive : s.epochState = true)
    (hbox : s.single .ballotBox = .initialized) (hnone : ∀ c, s.accounts.ballotBox.outcome ≠ .elected c) :
    s.accounts.NoQuorum := by
  refine live_invariant (I := fun s => s.single .ballotBox = .initialized →
    (∀ c, s.accounts.ballotBox.outcome ≠ .elected c) → s.accounts.NoQuorum) h₀
    (fun s ncn epoch bump slot hnone hbox => absurd hbox (not_initialized hnone _))
    (fun s s' i hrun hb hchange hslot heffect ih hbox hnone => ?_) h hlive hbox hnone
  obtain ⟨a, _, hf⟩ := h₀.follows.run h₀ hm .refl hrun .refl
  have hc := hf.during hb.live
  cases heffect.polls hb.live with
  | idle hpolls hinit =>
    have hsame : s'.accounts.ballotBox = s.accounts.ballotBox := congrArg Polls.ballotBox hpolls
    have hbefore := hinit hbox
    rw [hsame] at hnone
    exact noQuorum_of_same heffect hb hc hbefore (congrArg BallotBox.votes hsame) (ih hbefore hnone)
  | allocate bump hs' =>
    subst hs'
    cases eq_of_setSingle .ballotBox (.allocated maxReallocBytes) s hbox
  | fill clock bump dataLen _ hs' =>
    subst hs'
    exact .of_nil (Accounted.new s.accounts.config.ncn s.epoch bump clock.slot).votes_eq
  | vote clock operator voter operatorAdmin weatherStatus e hi hbefore _ hvote hs' =>
    subst hs' hi
    obtain ⟨t, b₁, b₂, result, _, _, _, hcast, htally, _, rfl⟩ := Epoch.processCastVote_run_ok hvote
    obtain ⟨hl, _, _⟩ := hc.box (ne_dne hb hbefore)
    obtain ⟨vs, ts, hacc⟩ := hl.accounted
    obtain ⟨_, _, _, _, hslot₁, hwin₁⟩ := hacc.castVote_takes hcast
    have htie : b₁.tieBreakerSet = false := by
      rw [BallotBox.tieBreakerSet, hslot₁, hwin₁]
      exact (BallotBox.vote_outcome hcast htally).1
    have hl₁ := hl.step hm ⟨.castVote operator _ _ _ _, trivial, hcast⟩
    exact hl₁.noQuorum_of_tally hm htie s.accounts.epochSnapshot.stakeWeights.lt (hslot _ rfl).2.ne htally hnone
  | tieBreak clock tieBreakerAdmin weatherStatus e _ hbefore htie hs' =>
    subst hs'
    obtain ⟨b, hset, rfl⟩ := Epoch.processAdminSetTieBreaker_run_ok htie
    obtain ⟨hopen, _, _, hb'⟩ := BallotBox.setTieBreakerBallot_run_ok hset
    rw [BallotBox.isConsensusReached, Bool.or_eq_false_iff] at hopen
    have hundecided : ∀ c, s.accounts.ballotBox.outcome ≠ .elected c := by
      rw [BallotBox.outcome_of_open hopen.2]
      exact fun c h => by cases h
    refine noQuorum_of_same heffect hb hc hbefore ?_ (ih hbefore hundecided)
    show b.votes = _
    rw [hb']
    rfl

/-- The consensus result names the candidate that has the quorum. -/
lemma result_of_quorum {s₀ : Lifecycle} (h₀ : s₀.Untouched) (hm : cl.math.Documented)
    (h : Run (StepIn cl fun t => 0 < t ∧ t < u64Max) s₀ s) (hlive : s.epochState = true)
    (hbox : s.single .ballotBox = .initialized) (c : UInt8) :
    s.accounts.consensusResult.isConsensusReached = true ∧ s.accounts.consensusResult.weatherStatus = c ↔
      Quorum (weightOf (·.candidate) (·.weight) c s.accounts.ballotBox.votes)
        s.accounts.epochSnapshot.stakeWeights.stakeWeight := by
  obtain ⟨a, hnew, hf⟩ := h₀.follows.run h₀ hm .refl h .refl
  have hc := hf.during hlive
  have hmarked := ne_dne (live_book h₀ (h.mono fun _ _ => StepIn.step) hlive) hbox
  obtain ⟨_, hvotes, hout⟩ := hc.box hmarked
  rw [← hc.result hmarked c]
  have hquorum : ∀ c', a.outcome = .elected c' →
      Quorum (weightOf (·.candidate) (·.weight) c' s.accounts.ballotBox.votes)
        s.accounts.epochSnapshot.stakeWeights.stakeWeight := by
    intro c' helected
    obtain ⟨⟨v, hv, _⟩, hquorum⟩ := (Election.sound Quorum.monotone hnew).elected c' helected
    have hvoted : a.votes ≠ [] := List.ne_nil_of_mem hv
    rw [hvotes, hc.total fun hdne => hvoted (hc.unopened hdne).2]
    exact hquorum
  refine ⟨hquorum c, fun hc' => ?_⟩
  by_contra hnot
  by_cases hsome : ∃ c', a.outcome = .elected c'
  · -- another candidate would have a quorum as well
    obtain ⟨c', helected⟩ := hsome
    have hne : c ≠ c' := fun heq => hnot (heq ▸ helected)
    have hvoted : a.votes ≠ [] := by
      obtain ⟨⟨v, hv, _⟩, _⟩ := (Election.sound Quorum.monotone hnew).elected c' helected
      exact List.ne_nil_of_mem hv
    rw [hvotes, hc.total fun hdne => hvoted (hc.unopened hdne).2] at hc'
    exact Election.elected_unique Quorum.monotone Quorum.exclusive hnew helected hne hc'
  · exact noticed h₀ hm h hlive hbox (fun c' helected => hsome ⟨c', hout.symm.trans helected⟩) c hc'

/-- As long as the ballot box is there, the consensus result names exactly the weather status that two thirds of the
snapshotted stake have voted for. From then on every later state names it, also when all accounts are closed; that no
call for another epoch empties the epoch's state is what runs of its own instructions say. -/
theorem result_stands {s₀ : Lifecycle} (h₀ : s₀.Untouched) (hm : cl.math.Documented)
    (h : Run (StepIn cl fun t => 0 < t ∧ t < u64Max) s₀ s) (hlive : s.epochState = true)
    (hbox : s.single .ballotBox = .initialized) (c : UInt8) :
    (s.accounts.consensusResult.isConsensusReached = true ∧ s.accounts.consensusResult.weatherStatus = c ↔
      Quorum (weightOf (·.candidate) (·.weight) c s.accounts.ballotBox.votes)
        s.accounts.epochSnapshot.stakeWeights.stakeWeight) ∧
    (Quorum (weightOf (·.candidate) (·.weight) c s.accounts.ballotBox.votes)
        s.accounts.epochSnapshot.stakeWeights.stakeWeight →
      ∀ s', Run (StepIn cl fun t => 0 < t ∧ t < u64Max) s s' →
        s'.accounts.consensusResult.isConsensusReached = true ∧
          s'.accounts.consensusResult.weatherStatus = c) := by
  have hiff := result_of_quorum h₀ hm h hlive hbox c
  exact ⟨hiff, fun hquorum s' h' => result_kept h₀ hm h hlive hbox (hiff.2 hquorum) h'⟩

/-- The result of the small epoch, before and after its accounts have been closed. -/
theorem result_stands_small :
    ∃ s s' : Lifecycle, s'.single .ballotBox = .absent ∧
      Quorum (weightOf (·.candidate) (·.weight) 1 s.accounts.ballotBox.votes)
        s.accounts.epochSnapshot.stakeWeights.stakeWeight ∧
      s'.accounts.consensusResult.isConsensusReached = true ∧
      s'.accounts.consensusResult.weatherStatus = 1 := by
  let x := ((smallRun false).take 12).forM (Lifecycle.exec smallCluster)
  let y := ((smallRun false).drop 12).forM (Lifecycle.exec smallCluster)
  let s := commit x small
  let s' := commit y s
  have hx : x.run small = .ok () s := Succeeds.run_eq (by decide +kernel)
  have hy : y.run s = .ok () s' := Succeeds.run_eq (by decide +kernel)
  have hstate : s.epochState = true ∧ s.single .ballotBox = .initialized ∧
      (s.accounts.consensusResult.isConsensusReached = true ∧ s.accounts.consensusResult.weatherStatus = 1) ∧
      s'.single .ballotBox = .absent := by
    decide +kernel
  have hslots : ∀ i ∈ smallRun false, ∀ t ∈ i.slot, 0 < t ∧ t < u64Max := by decide +kernel
  clear_value s s'
  obtain ⟨hlive, hbox, hreached, habsent⟩ := hstate
  obtain ⟨hiff, hstands⟩ := result_stands small_untouched splMath_documented
    (run_stepIn (fun i hi => hslots i (List.mem_of_mem_take hi)) hx) hlive hbox 1
  have hquorum := hiff.1 hreached
  exact ⟨s, s', habsent, hquorum, hstands hquorum s'
    (run_stepIn (fun i hi => hslots i (List.mem_of_mem_drop hi)) hy)⟩

end Lifecycle
end NcnProgram
