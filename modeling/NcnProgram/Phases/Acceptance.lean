import NcnProgram.Phases.Quorum
import NcnProgram.Phases.Windows
import NcnProgram.Voting.Room
import NcnProgram.Routing.Payouts

/-!
# When a vote is accepted

The program names the reasons for refusing a vote: the operator has no snapshot or no stake, the signer may not vote
for it, the epoch's snapshot is not finalized, there is no such ballot, the operator has voted, voting is over. In
every epoch these are the only ones. The stakes of the votes are parts of the snapshotted stake, the voters are
distinct operators whose indices fit the tables, and the consensus result is there when the ballot box is; so no table
is full, no sum overflows, and nothing is divided by zero.
-/

namespace NcnProgram
open Lib NCNProgramError

namespace Lifecycle
variable {cl : Cluster} {i : Instruction} {s s' : Lifecycle} {u : Unit}

/-! ## The consensus result is there -/

/-- Growing an account leaves the consensus result there. -/
lemma realloc_consensusResult {k : Single} {size : ℕ} {x : Mut Lifecycle Unit}
    (hx : ∀ {s s'}, x.run s = .ok () s' → s'.consensusResult = s.consensusResult)
    (h : (do if ← realloc k size then x : Mut Lifecycle Unit).run s = .ok u s') :
    s'.consensusResult = s.consensusResult := by
  obtain ⟨done, s₁, hg, h⟩ := run_bind_ok.1 h
  have hs₁ : s₁.consensusResult = s.consensusResult := by
    obtain ⟨_, ⟨_, rfl⟩ | ⟨_, _, _, rfl⟩⟩ := realloc_ok hg <;> rfl
  cases done with
  | false => cases h; exact hs₁
  | true => exact (hx h).trans hs₁

/-- So does closing one. -/
lemma closeTarget_consensusResult {target : Target} (h : (closeTarget cl target).run s = .ok u s') :
    s'.consensusResult = s.consensusResult := by
  cases closeTarget_ok h <;> rfl

/-- Nothing takes the consensus result away. -/
lemma exec_consensusResult (h : (exec cl i).run s = .ok () s') (hr : s.consensusResult = true) :
    s'.consensusResult = true := by
  cases i with
  | initializeEpochState => obtain ⟨_, _, rfl⟩ := processInitializeEpochState_ok h; exact hr
  | initializeWeightTable => obtain ⟨_, _, _, rfl⟩ := processInitializeWeightTable_ok h; exact hr
  | initializeEpochSnapshot => obtain ⟨_, _, _, _, _, _, rfl⟩ := processInitializeEpochSnapshot_ok h; exact hr
  | initializeOperatorSnapshot => obtain ⟨_, _, _, _, rfl⟩ := processInitializeOperatorSnapshot_ok h; exact hr
  | initializeBallotBox => obtain ⟨_, _, _, rfl⟩ := processInitializeBallotBox_ok h; rfl
  | initializeNcnRewardRouter => obtain ⟨_, _, _, rfl⟩ := processInitializeNcnRewardRouter_ok h; exact hr
  | initializeOperatorVaultRewardRouter =>
    obtain ⟨_, _, _, _, _, _, _, _, _, rfl⟩ := processInitializeOperatorVaultRewardRouter_ok h
    exact hr
  | reallocWeightTable =>
    refine (realloc_consensusResult (fun h => ?_) h).trans hr
    obtain ⟨_, _, hg, h⟩ := run_bind_ok.1 h
    cases hg
    obtain ⟨_, _, hg, h⟩ := run_bind_ok.1 h
    obtain ⟨_, rfl⟩ := run_ofExcept_ok.1 hg
    cases h
    rfl
  | reallocBallotBox | reallocNcnRewardRouter =>
    refine (realloc_consensusResult (fun h => ?_) h).trans hr
    cases h
    rfl
  | castVote =>
    obtain ⟨_, _, hg, h⟩ := run_bind_ok.1 h
    obtain ⟨_, _, hg', hg⟩ := run_bind_ok.1 hg
    cases hg'
    obtain ⟨_, rfl⟩ := run_ensure_ok.1 hg
    obtain ⟨_, _, _, _, rfl⟩ := loaded_ok h
    exact hr
  | adminSetParameters | adminSetNewAdmin =>
    obtain ⟨_, _, rfl⟩ := run_zoom_ok.1 h
    exact hr
  | depositNcn | depositOperatorVault => cases h; exact hr
  | closeEpochAccount =>
    obtain ⟨_, _, _, _, h⟩ := processCloseEpochAccount_ok.1 h
    exact (closeTarget_consensusResult h).trans hr
  | _ =>
    obtain ⟨_, _, _, _, rfl⟩ := loaded_ok h
    exact hr

/-- A ballot box that comes with an instruction comes with the consensus result. -/
lemma Effect.boxed (h : Effect cl i s s') (hbox : s'.single .ballotBox ≠ .absent) :
    s'.consensusResult = true ∨ s.single .ballotBox ≠ .absent := by
  cases h with
  | quiet hq =>
    refine .inr fun habsent => ?_
    cases hslot : s'.single .ballotBox with
    | absent => exact hbox hslot
    | allocated n =>
      obtain ⟨m, hm⟩ := hq.allocated n hslot
      cases habsent.symm.trans hm
    | initialized => cases habsent.symm.trans (hq.single _ (by decide) hslot)
  | allocateBox bump _ hs' => subst hs'; exact .inl rfl
  | fillBox clock bump dataLen _ halloc => exact .inr fun habsent => by cases habsent.symm.trans halloc
  | fillTable clock bump vaultList stMintList w dataLen _ _ _ hs' =>
    subst hs'
    exact .inr fun habsent => hbox
      ((single_setSingle_ne .weightTable .ballotBox .initialized s (by decide)).trans habsent)
  | openSnapshot clock bump n _ _ _ _ _ _ hs' =>
    subst hs'
    exact .inr fun habsent => hbox
      ((single_setSingle_ne .epochSnapshot .ballotBox .initialized s (by decide)).trans habsent)
  | start _ _ _ _ hs' | setWeights _ _ _ _ hs' | createSnapshot _ _ _ _ _ _ _ _ hs'
  | registerVault _ _ _ _ _ _ _ hs' | vote _ _ _ _ _ _ _ _ _ _ _ hs' | tieBreak _ _ _ _ _ _ _ _ hs' =>
    subst hs'
    exact .inr hbox

/-- An epoch with a ballot box has a consensus result. -/
lemma boxed {s₀ : Lifecycle} (h₀ : s₀.Untouched) (h : Run (Step cl) s₀ s)
    (hbox : s.single .ballotBox ≠ .absent) : s.consensusResult = true := by
  refine h.invariant (I := fun s => s.single .ballotBox ≠ .absent → s.consensusResult = true)
    (fun hbox => absurd (h₀.single _) hbox) (fun s s' hstep ih hbox => ?_) hbox
  obtain ⟨i, hrun⟩ := hstep
  rcases (exec_effect hrun).boxed hbox with hr | hbefore
  · exact hr
  · exact exec_consensusResult hrun (ih hbefore)

/-! ## The voters fit -/

/-- Every voter has an index that fits the tables. -/
lemma voters {s₀ : Lifecycle} (h₀ : s₀.Untouched) (hm : cl.math.Documented)
    (h : Run (StepIn cl fun t => 0 < t ∧ t < u64Max) s₀ s) (hlive : s.epochState = true)
    (hbox : s.single .ballotBox = .initialized) :
    ∀ v ∈ s.accounts.ballotBox.votes, cl.index v.voter < maxOperators := by
  refine live_invariant (I := fun s => s.single .ballotBox = .initialized →
    ∀ v ∈ s.accounts.ballotBox.votes, cl.index v.voter < maxOperators) h₀
    (fun s ncn epoch bump slot hnone hbox => absurd hbox (not_initialized hnone _))
    (fun s s' i hrun hb _ _ heffect ih hbox => ?_) h hlive hbox
  cases heffect.polls hb.live with
  | idle hpolls hinit =>
    have hsame : s'.accounts.ballotBox = s.accounts.ballotBox := congrArg Polls.ballotBox hpolls
    rw [hsame]
    exact ih (hinit hbox)
  | allocate bump hs' =>
    subst hs'
    cases eq_of_setSingle .ballotBox (.allocated maxReallocBytes) s hbox
  | fill clock bump dataLen _ hs' =>
    subst hs'
    rw [(Accounted.new s.accounts.config.ncn s.epoch bump clock.slot).votes_eq]
    exact fun v hv => by cases hv
  | vote clock operator voter operatorAdmin weatherStatus e _ hbefore _ hvote hs' =>
    subst hs'
    obtain ⟨t, b₁, b₂, result, ht, _, _, hcast, htally, _, rfl⟩ := Epoch.processCastVote_run_ok hvote
    obtain ⟨a, _, hf⟩ := h₀.follows.run h₀ hm .refl hrun .refl
    obtain ⟨vs, ts, hacc⟩ := ((hf.during hb.live).box (ne_dne hb hbefore)).1.accounted
    rw [BallotBox.votes_tallyVotes htally, (hacc.votes_castVote hcast).1]
    refine forall_mem_append_singleton (ih hbefore) ?_
    obtain ⟨hindex, hlt⟩ := hb.snapshot.index operator t.ncnOperatorIndex (congrArg (Option.map _) ht)
    exact hindex ▸ hlt
  | tieBreak clock tieBreakerAdmin weatherStatus e _ hbefore htie hs' =>
    subst hs'
    obtain ⟨b, hset, rfl⟩ := Epoch.processAdminSetTieBreaker_run_ok htie
    obtain ⟨_, _, _, hb'⟩ := BallotBox.setTieBreakerBallot_run_ok hset
    rw [hb']
    exact ih hbefore

/-- There is room for a voter that has not voted. -/
lemma room {b : BallotBox} {vs : List OperatorVote} {ts : List BallotTally} (hacc : Accounted b vs ts)
    (hvoters : ∀ v ∈ b.votes, cl.index v.voter < maxOperators) {operator : Pubkey}
    (hindex : cl.index operator < maxOperators) (hnew : operator ∉ b.votes.map (·.voter)) :
    vs.length < maxOperators := by
  have hsame : b.votes.map (·.voter) = vs.map (·.operator) := by
    rw [hacc.votes_eq, List.map_map]
    rfl
  have hnodup : (operator :: vs.map (·.operator)).Nodup := List.nodup_cons.2 ⟨hsame ▸ hnew, hacc.operators⟩
  have hlt : ∀ p ∈ operator :: vs.map (·.operator), cl.index p < maxOperators := by
    refine List.forall_mem_cons.2 ⟨hindex, fun p hp => ?_⟩
    rw [← hsame] at hp
    obtain ⟨v, hv, rfl⟩ := List.mem_map.1 hp
    exact hvoters v hv
  simpa [Nat.succ_le_iff] using length_le_of_index_lt cl.index_injective hnodup hlt

end Lifecycle

/-! ## Voting -/

namespace BallotBox
variable {b b₁ b' : BallotBox} {slot valid : ℕ}

/-- Whether voting is valid depends on what has been decided. -/
lemma isVotingValid_congr (hslot : b'.slotConsensusReached = b.slotConsensusReached)
    (hwin : b'.winningBallot = b.winningBallot) : b'.isVotingValid slot valid = b.isVotingValid slot valid := by
  simp only [isVotingValid, tieBreakerSet, isConsensusReached, hslot, hwin]
  rfl

/-- After a vote one can vote in the same slot. -/
lemma isVotingValid_vote {operator : Pubkey} {ballot : Ballot} {sw : StakeWeights} {total : ℕ} {math : PreciseMath}
    (hcast : (castVote operator ballot sw slot valid).run b = .ok () b₁)
    (htally : (tallyVotes math total slot).run b₁ = .ok () b') (hslot : slot ≠ defaultConsensusReachedSlot)
    (hlt : slot + valid < 2 ^ 64) : b'.isVotingValid slot valid = .ok true := by
  obtain ⟨_, _, ⟨hsame, hwin⟩ | ⟨_, hdeclared⟩⟩ := vote_outcome hcast htally
  · rw [isVotingValid_congr hsame hwin]
    exact (castVote_run_ok hcast).1
  · have htie : b'.tieBreakerSet = false := by
      rw [tieBreakerSet, hdeclared, beq_eq_false_iff_ne.2 hslot, Bool.false_and]
    have hreached : b'.isConsensusReached = true := by
      rw [isConsensusReached, hdeclared, bne_iff_ne.2 hslot, Bool.true_or]
    rw [isVotingValid_votes hreached htie (by omega), hdeclared, decide_eq_true (Nat.le_add_right slot valid)]

end BallotBox

namespace Epoch
variable {e e' : Epoch} {math : PreciseMath} {clock : Clock} {operator voter operatorAdmin : Pubkey}
  {weatherStatus : UInt8} {u : Unit}

/-- A vote is signed by the key that may vote for the operator. -/
lemma signer_of_castVote
    (h : (processCastVote math clock operator voter operatorAdmin weatherStatus).run e = .ok u e') :
    operatorAdmin = voter := by
  obtain ⟨_, _, hg, h⟩ := run_bind_ok.1 h
  cases hg
  obtain ⟨_, _, hg, h⟩ := run_bind_ok.1 h
  obtain ⟨_, rfl⟩ := run_okOr_ok.1 hg
  obtain ⟨_, _, hg, _⟩ := run_bind_ok.1 h
  exact (run_ensure_ok.1 hg).1

/-- The guards and the parts of a vote, put together. -/
lemma processCastVote_run {t : OperatorSnapshot} {b₁ b₂ : BallotBox} {r : ConsensusResult}
    (ht : e.operatorSnapshot operator = some t) (hfin : e.epochSnapshot.finalized = true)
    (hstake : t.stakeWeights.stakeWeight ≠ 0)
    (hcast : (BallotBox.castVote operator (.new weatherStatus) t.stakeWeights clock.slot
      e.config.validSlotsAfterConsensus).run e.ballotBox = .ok () b₁)
    (htally : (BallotBox.tallyVotes math e.epochSnapshot.stakeWeights.stakeWeight clock.slot).run b₁ = .ok () b₂)
    (hrecord : (ConsensusResult.recordWinner b₂ e.epochSnapshot.stakeWeights.stakeWeight clock.slot).run
      e.consensusResult = .ok () r) :
    (processCastVote math clock operator voter voter weatherStatus).run e = .ok () { e with
      ballotBox := b₂
      consensusResult := r
      epochState := e.epochState.updateCastVote b₂.operatorsVoted b₂.isConsensusReached clock.slot } := by
  refine run_bind_ok.2 ⟨e, e, rfl, run_bind_ok.2 ⟨t, e, run_okOr_ok.2 ⟨ht, rfl⟩, ?_⟩⟩
  refine run_bind_ok.2 ⟨(), e, run_ensure_ok.2 ⟨rfl, rfl⟩, run_bind_ok.2 ⟨(), e, run_ensure_ok.2 ⟨hfin, rfl⟩, ?_⟩⟩
  refine run_bind_ok.2 ⟨(), e, run_ensure_ok.2 ⟨hstake, rfl⟩, ?_⟩
  refine run_bind_ok.2 ⟨(), _, run_zoom_ok.2 ⟨b₁, hcast, rfl⟩, ?_⟩
  refine run_bind_ok.2 ⟨(), _, run_zoom_ok.2 ⟨b₂, htally, rfl⟩, ?_⟩
  exact run_bind_ok.2 ⟨_, _, rfl, run_bind_ok.2 ⟨(), _, run_zoom_ok.2 ⟨r, hrecord, rfl⟩, rfl⟩⟩

end Epoch

namespace Lifecycle
variable {cl : Cluster} {s s' : Lifecycle} {clock : Clock} {operator voter operatorAdmin : Pubkey}
  {weatherStatus : UInt8} {u : Unit}

/-- The reasons for refusing a vote do not apply. -/
structure MayVote (clock : Clock) (operator voter operatorAdmin : Pubkey) (weatherStatus : UInt8)
    (s : Lifecycle) : Prop where
  live : s.epochState = true
  box : s.single .ballotBox = .initialized
  snapshot : s.single .epochSnapshot = .initialized
  finalized : s.accounts.epochSnapshot.finalized = true
  stake : ∃ t ∈ s.accounts.operatorSnapshot operator, t.stakeWeights.stakeWeight ≠ 0
  signer : operatorAdmin = voter
  ballot : (Ballot.new weatherStatus).isValid = true
  named : operator ≠ .default
  fresh : operator ∉ s.accounts.ballotBox.votes.map (·.voter)
  votingValid : s.accounts.ballotBox.isVotingValid clock.slot s.accounts.config.validSlotsAfterConsensus = .ok true

/-- The vote of an operator, with its stake. -/
def voteOf (s : Lifecycle) (operator : Pubkey) (weatherStatus : UInt8) : Election.Vote Pubkey UInt8 :=
  ⟨operator, weatherStatus, ((s.accounts.operatorSnapshot operator).map (·.stakeWeights.stakeWeight)).getD 0⟩

/-- The accounts that a vote is written to. -/
def writeVote (b : BallotBox) (r : ConsensusResult) (st : EpochState) (s : Lifecycle) : Lifecycle :=
  { s with accounts := { s.accounts with ballotBox := b, consensusResult := r, epochState := st } }

/-- A vote that is cast, tallied and written. -/
structure Casts (math : PreciseMath) (clock : Clock) (operator : Pubkey) (weatherStatus : UInt8)
    (s : Lifecycle) (b : BallotBox) : Prop where
  votes : b.votes = s.accounts.ballotBox.votes ++ [s.voteOf operator weatherStatus]
  tallied : ∃ t b₁, (BallotBox.castVote operator (.new weatherStatus) t clock.slot
      s.accounts.config.validSlotsAfterConsensus).run s.accounts.ballotBox = .ok () b₁ ∧
    (BallotBox.tallyVotes math s.accounts.epochSnapshot.stakeWeights.stakeWeight clock.slot).run b₁ = .ok () b

/-- What a successful vote has found, and what it has done. -/
lemma castVote_ok {s₀ : Lifecycle} (h₀ : s₀.Untouched) (hm : cl.math.Documented)
    (h : Run (StepIn cl fun t => 0 < t ∧ t < u64Max) s₀ s)
    (hrun : (exec cl (.castVote clock operator voter operatorAdmin weatherStatus)).run s = .ok u s') :
    MayVote clock operator voter operatorAdmin weatherStatus s ∧
      ∃ b r st, s' = s.writeVote b r st ∧ Casts cl.math clock operator weatherStatus s b := by
  obtain ⟨_, _, hg, hrun⟩ := run_bind_ok.1 hrun
  obtain ⟨_, _, hg', hg⟩ := run_bind_ok.1 hg
  cases hg'
  obtain ⟨_, rfl⟩ := run_ensure_ok.1 hg
  obtain ⟨hlive, hloaded, e, he, rfl⟩ := loaded_ok hrun
  obtain ⟨t, b₁, b₂, r, ht, hfin, hstake, hcast, htally, _, rfl⟩ := Epoch.processCastVote_run_ok he
  have hb := live_book h₀ (h.mono fun _ _ => StepIn.step) hlive
  obtain ⟨a, _, hf⟩ := h₀.follows.run h₀ hm .refl h .refl
  have hbox : s.single .ballotBox = .initialized := hloaded _ (by simp)
  obtain ⟨vs, ts, hacc⟩ := ((hf.during hlive).box (ne_dne hb hbox)).1.accounted
  obtain ⟨hvotes, hfresh, _⟩ := hacc.votes_castVote hcast
  obtain ⟨hopen, hvalid, hnew, _⟩ := BallotBox.castVote_run_ok hcast
  have hroom : vs.length < maxOperators := by
    obtain ⟨_, _, _, hacc', _⟩ := hacc.castVote_takes hcast
    simpa [Nat.succ_le_iff] using hacc'.votes.length_le
  have hvote : s.voteOf operator weatherStatus = ⟨operator, weatherStatus, t.stakeWeights.stakeWeight⟩ := by
    rw [voteOf, ht]
    rfl
  refine ⟨⟨hlive, hbox, hloaded _ (by simp), hfin, ⟨t, ht, hstake⟩, Epoch.signer_of_castVote he, hvalid,
    ((hacc.any_operator_eq_false hroom).1 hnew).1, hfresh, hopen⟩, b₂, r, _, rfl, ?_, t.stakeWeights, b₁, hcast,
    htally⟩
  rw [hvote]
  exact (BallotBox.votes_tallyVotes htally).trans hvotes

/-- A vote that there is no reason to refuse goes through. -/
lemma MayVote.succeeds {s₀ : Lifecycle} (h₀ : s₀.Untouched) (hm : cl.math.Documented)
    (h : Run (StepIn cl fun t => 0 < t ∧ t < u64Max) s₀ s)
    (hmay : MayVote clock operator voter operatorAdmin weatherStatus s) :
    Succeeds (exec cl (.castVote clock operator voter operatorAdmin weatherStatus)) s := by
  have hruns := h.mono fun _ _ => StepIn.step
  have hb := live_book h₀ hruns hmay.live
  obtain ⟨t, ht, hstake⟩ := hmay.stake
  obtain ⟨a, hnew, hf⟩ := h₀.follows.run h₀ hm .refl h .refl
  have hc := hf.during hmay.live
  obtain ⟨hl, hvotes, _⟩ := hc.box (ne_dne hb hmay.box)
  obtain ⟨vs, ts, hacc⟩ := hl.accounted
  -- the stakes of the votes are parts of the snapshotted stake
  have henrolled := hc.enrolled (progressing h₀ hruns hmay.live) hmay.snapshot hmay.finalized ht
  have hfits := (Election.sound Quorum.monotone hnew).sum_weight_add_le henrolled (hvotes ▸ hmay.fresh)
  have htotal := hc.total (ne_dne hb hmay.snapshot)
  have hlt := s.accounts.epochSnapshot.stakeWeights.lt
  have hsum : (vs.map (·.stakeWeights.stakeWeight)).sum + t.stakeWeights.stakeWeight ≤
      s.accounts.epochSnapshot.stakeWeights.stakeWeight := by
    rw [← hvotes, hacc.votes_eq, List.map_map, ← htotal] at hfits
    exact hfits
  -- and the voters are distinct operators
  obtain ⟨hindex, hindex_lt⟩ := hb.snapshot.index operator t.ncnOperatorIndex (congrArg (Option.map _) ht)
  have hroom := room hacc (voters h₀ hm h hmay.live hmay.box) (hindex ▸ hindex_lt) hmay.fresh
  have hfresh : operator ∉ vs.map (·.operator) := by
    have := hmay.fresh
    rwa [hacc.votes_eq, List.map_map] at this
  have hadmits : s.accounts.ballotBox.Admits operator (.new weatherStatus) clock.slot
      s.accounts.config.validSlotsAfterConsensus :=
    ⟨hmay.votingValid, hmay.ballot, (hacc.any_operator_eq_false hroom).2 ⟨hmay.named, hfresh⟩⟩
  have hfit : (vs.map (·.stakeWeights.stakeWeight)).sum + t.stakeWeights.stakeWeight < 2 ^ 128 := by omega
  obtain ⟨_, b₁, hcast⟩ := hacc.castVote_succeeds hadmits hroom hfit
  have hl₁ : Latched b₁ := hl.step hm ⟨.castVote operator _ _ _ _, trivial, hcast⟩
  obtain ⟨_, b₂, htally⟩ := BallotBox.tallyVotes_succeeds hm hlt (show 0 < _ by omega) clock.slot b₁
  have hl₂ : Latched b₂ := hl₁.step hm ⟨.tallyVotes _ _, hlt, htally⟩
  obtain ⟨_, r, hrecord⟩ := hl₂.recordWinner_succeeds s.accounts.epochSnapshot.stakeWeights.stakeWeight clock.slot
    s.accounts.consensusResult
  have hboxed : s.consensusResult = true := boxed h₀ hruns (by rw [hmay.box]; decide)
  have hload : loadConsensusResult.run s = .ok () s :=
    run_bind_ok.2 ⟨s, s, rfl, run_ensure_ok.2 ⟨hboxed, rfl⟩⟩
  have hloads : ∀ k ∈ [Single.ballotBox, .epochSnapshot], s.single k = .initialized := by
    simp [hmay.box, hmay.snapshot]
  rw [hmay.signer]
  exact ⟨(), _, run_bind_ok.2 ⟨(), s, hload, run_bind_ok.2 ⟨(), s, loadEpochState_ok.2 ⟨hmay.live, rfl⟩,
    run_bind_ok.2 ⟨(), s, forM_load_run hloads, run_zoom_ok.2
      ⟨_, Epoch.processCastVote_run ht hmay.finalized hstake hcast htally hrecord, rfl⟩⟩⟩⟩⟩

/-- In every state that instructions on the epoch lead to (no call for another one having emptied its state), a vote is
refused only for the reasons that the program names, and one that is accepted is recorded after the others with the
stake of the operator's snapshot. -/
theorem vote_accepted_iff {s₀ : Lifecycle} (h₀ : s₀.Untouched) (hm : cl.math.Documented)
    (h : Run (StepIn cl fun t => 0 < t ∧ t < u64Max) s₀ s) (clock : Clock)
    (operator voter operatorAdmin : Pubkey) (weatherStatus : UInt8) :
    (Succeeds (exec cl (.castVote clock operator voter operatorAdmin weatherStatus)) s ↔
      MayVote clock operator voter operatorAdmin weatherStatus s) ∧
    ∀ s', (exec cl (.castVote clock operator voter operatorAdmin weatherStatus)).run s = .ok () s' →
      s'.accounts.ballotBox.votes = s.accounts.ballotBox.votes ++ [s.voteOf operator weatherStatus] := by
  refine ⟨⟨fun ⟨_, _, hrun⟩ => (castVote_ok h₀ hm h hrun).1, fun hmay => hmay.succeeds h₀ hm h⟩, ?_⟩
  intro s' hrun
  obtain ⟨_, b, r, st, rfl, hcasts⟩ := castVote_ok h₀ hm h hrun
  exact hcasts.votes

/-- The first vote of the small epoch. -/
theorem vote_accepted_iff_small :
    ∃ s : Lifecycle, s.accounts.ballotBox.operatorsVoted = 0 ∧
      Succeeds (exec smallCluster (.castVote ⟨10, 0⟩ 7 5 5 1)) s := by
  let x := ((smallRun false).take 11).forM (Lifecycle.exec smallCluster)
  let s := commit x small
  have hx : x.run small = .ok () s := Succeeds.run_eq (by decide +kernel)
  have hslots : ∀ i ∈ smallRun false, ∀ t ∈ i.slot, 0 < t ∧ t < u64Max := by decide +kernel
  have hmay : MayVote ⟨10, 0⟩ 7 5 5 1 s := by
    constructor <;> decide +kernel
  exact ⟨s, by decide +kernel, (vote_accepted_iff small_untouched splMath_documented
    (run_stepIn (fun i hi => hslots i (List.mem_of_mem_take hi)) hx) ⟨10, 0⟩ 7 5 5 1).1.2 hmay⟩

/-- A vote that is cast does not stand in the way of another operator's vote in the same slot. -/
lemma MayVote.after {b : BallotBox} {r : ConsensusResult} {st : EpochState} {operator' voter' : Pubkey}
    {weatherStatus' : UInt8} (hmay : MayVote clock operator' voter' voter' weatherStatus' s)
    (hcasts : Casts cl.math clock operator weatherStatus s b) (hne : operator' ≠ operator)
    (hslot : clock.slot ≠ defaultConsensusReachedSlot)
    (hlt : clock.slot + s.accounts.config.validSlotsAfterConsensus < 2 ^ 64) :
    MayVote clock operator' voter' voter' weatherStatus' (s.writeVote b r st) := by
  obtain ⟨t, b₁, hcast, htally⟩ := hcasts.tallied
  refine { hmay with fresh := ?_, votingValid := BallotBox.isVotingValid_vote hcast htally hslot hlt }
  show operator' ∉ b.votes.map (·.voter)
  rw [hcasts.votes, List.map_append, List.mem_append]
  rintro (hmem | hmem)
  · exact hmay.fresh hmem
  · exact hne (List.mem_singleton.1 hmem)

/-- Operators that may vote do vote, one after the other. -/
lemma votes_run {s₀ : Lifecycle} (h₀ : s₀.Untouched) (hm : cl.math.Documented)
    (h : Run (StepIn cl fun t => 0 < t ∧ t < u64Max) s₀ s) (hclock : 0 < clock.slot ∧ clock.slot < u64Max)
    (hlt : clock.slot + s.accounts.config.validSlotsAfterConsensus < 2 ^ 64) (voter : Pubkey → Pubkey)
    (ballots : List (Pubkey × UInt8)) (hnodup : (ballots.map (·.1)).Nodup)
    (hmay : ∀ x ∈ ballots, MayVote clock x.1 (voter x.1) (voter x.1) x.2 s) :
    ∃ b r st, (ballots.forM fun x => exec cl (.castVote clock x.1 (voter x.1) (voter x.1) x.2)).run s =
        .ok () (s.writeVote b r st) ∧
      Run (StepIn cl fun t => 0 < t ∧ t < u64Max) s₀ (s.writeVote b r st) ∧
      b.votes = s.accounts.ballotBox.votes ++ ballots.map fun x => s.voteOf x.1 x.2 := by
  induction ballots generalizing s with
  | nil => exact ⟨_, _, _, rfl, h, (List.append_nil _).symm⟩
  | cons x ballots ih =>
    obtain ⟨_, s₁, hrun⟩ := (hmay x List.mem_cons_self).succeeds h₀ hm h
    obtain ⟨_, b, r, st, rfl, hcasts⟩ := castVote_ok h₀ hm h hrun
    obtain ⟨hx, hnodup⟩ := List.nodup_cons.1 hnodup
    have hstep : StepIn cl (fun t => 0 < t ∧ t < u64Max) s (s.writeVote b r st) :=
      ⟨.castVote clock x.1 (voter x.1) (voter x.1) x.2, fun t ht => (by cases ht; exact hclock), hrun⟩
    obtain ⟨b', r', st', hrest, hrun', hvotes⟩ := ih (h.tail hstep) hlt hnodup fun y hy =>
      (hmay y (List.mem_cons_of_mem x hy)).after hcasts
        (fun heq => hx (List.mem_map.2 ⟨y, hy, heq⟩)) hclock.2.ne hlt
    refine ⟨b', r', st', run_bind_ok.2 ⟨(), _, hrun, hrest⟩, hrun', ?_⟩
    rw [hvotes, show (s.writeVote b r st).accounts.ballotBox.votes = _ from hcasts.votes, List.append_assoc]
    rfl

/-- In such a state operators that may vote can all vote, in whatever order, and their votes decide: the consensus
result names the weather status for which two thirds of the snapshotted stake have then voted, if there is one. -/
theorem votes_accepted {s₀ : Lifecycle} (h₀ : s₀.Untouched) (hm : cl.math.Documented)
    (h : Run (StepIn cl fun t => 0 < t ∧ t < u64Max) s₀ s) (hlive : s.epochState = true)
    (hbox : s.single .ballotBox = .initialized) (hclock : 0 < clock.slot ∧ clock.slot < u64Max)
    (hlt : clock.slot + s.accounts.config.validSlotsAfterConsensus < 2 ^ 64) (voter : Pubkey → Pubkey)
    (ballots : List (Pubkey × UInt8)) (hnodup : (ballots.map (·.1)).Nodup)
    (hmay : ∀ x ∈ ballots, MayVote clock x.1 (voter x.1) (voter x.1) x.2 s) :
    ∃ s', (ballots.forM fun x => exec cl (.castVote clock x.1 (voter x.1) (voter x.1) x.2)).run s = .ok () s' ∧
      ∀ c, s'.accounts.consensusResult.isConsensusReached = true ∧
          s'.accounts.consensusResult.weatherStatus = c ↔
        Quorum (weightOf (·.candidate) (·.weight) c
            (s.accounts.ballotBox.votes ++ ballots.map fun x => s.voteOf x.1 x.2))
          s.accounts.epochSnapshot.stakeWeights.stakeWeight := by
  obtain ⟨b, r, st, hrun, hruns, hvotes⟩ := votes_run h₀ hm h hclock hlt voter ballots hnodup hmay
  refine ⟨_, hrun, fun c => ?_⟩
  rw [← hvotes]
  exact result_of_quorum h₀ hm hruns hlive hbox c

/-- In the small epoch one operator decides. -/
theorem votes_accepted_small :
    ∃ s s' : Lifecycle, (exec smallCluster (.castVote ⟨10, 0⟩ 7 5 5 1)).run s = .ok () s' ∧
      s'.accounts.consensusResult.isConsensusReached = true ∧ s'.accounts.consensusResult.weatherStatus = 1 := by
  let x := ((smallRun false).take 11).forM (Lifecycle.exec smallCluster)
  let s := commit x small
  have hx : x.run small = .ok () s := Succeeds.run_eq (by decide +kernel)
  have hslots : ∀ i ∈ smallRun false, ∀ t ∈ i.slot, 0 < t ∧ t < u64Max := by decide +kernel
  have hmay : MayVote ⟨10, 0⟩ 7 5 5 1 s := by
    constructor <;> decide +kernel
  have hquorum : Quorum (weightOf (·.candidate) (·.weight) 1 (s.accounts.ballotBox.votes ++ [s.voteOf 7 1]))
      s.accounts.epochSnapshot.stakeWeights.stakeWeight := by
    constructor <;> decide +kernel
  have hlt : (10 : ℕ) + s.accounts.config.validSlotsAfterConsensus < 2 ^ 64 := by decide +kernel
  obtain ⟨s', hrun, hresult⟩ := votes_accepted small_untouched splMath_documented
    (run_stepIn (fun i hi => hslots i (List.mem_of_mem_take hi)) hx) hmay.live hmay.box
    (show 0 < (⟨10, 0⟩ : Clock).slot ∧ _ from ⟨by decide, by decide⟩) hlt
    (fun _ => 5) [(7, 1)] (List.nodup_singleton _) (by simpa using hmay)
  obtain ⟨_, _, hvote, hrest⟩ := run_bind_ok.1 hrun
  cases hrest
  exact ⟨s, s', hvote, (hresult 1).2 hquorum⟩

end Lifecycle
end NcnProgram
