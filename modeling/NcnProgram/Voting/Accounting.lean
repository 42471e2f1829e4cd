import NcnProgram.Core.BallotBox
import NcnProgram.Lib.Tally
import Mathlib.Data.List.Nodup

/-!
# Ballot accounting

The votes and the tallies of a ballot box are two tables linked only by an index. `Accounted b vs ts`
says that the box holds the votes `vs` and the tallies `ts` and that the two agree: a tally counts, and
weighs, exactly the votes that carry its index. Every call keeps it, so it holds in every reachable box,
and the statements about the slots of the two tables are read off it.
-/

namespace NcnProgram
open Lib NCNProgramError

/-- The first slots of the two tables are the votes `vs` and the tallies `ts`, and the box has counted them. -/
structure Slots (b : BallotBox) (vs : List OperatorVote) (ts : List BallotTally) : Prop where
  votes : b.operatorVotes.Holds .default vs
  tallies : b.ballotTallies.Holds .default ts
  operatorsVoted : b.operatorsVoted = vs.length
  uniqueBallots : b.uniqueBallots = ts.length
  vote_taken : ∀ v ∈ vs, v.isEmpty = false
  tally_taken : ∀ t ∈ ts, t.isValid = true

/-- The tally in slot `i` counts and weighs the votes that carry the index `i`. -/
structure Counts (vs : List OperatorVote) (i : ℕ) (t : BallotTally) : Prop where
  index : t.index = i
  valid : t.isValid = true
  count : t.tally = vs.countP (·.ballotIndex = i)
  weight : t.stakeWeights.stakeWeight =
    weightOf (·.ballotIndex) (·.stakeWeights.stakeWeight) i vs

/-- The box holds the votes `vs` and the tallies `ts`, and the two agree. -/
structure Accounted (b : BallotBox) (vs : List OperatorVote) (ts : List BallotTally) : Prop where
  votes : b.operatorVotes.Holds .default vs
  tallies : b.ballotTallies.Holds .default ts
  operatorsVoted : b.operatorsVoted = vs.length
  uniqueBallots : b.uniqueBallots = ts.length
  operators : (vs.map (·.operator)).Nodup
  operator_ne : ∀ v ∈ vs, v.operator ≠ .default
  ballotIndex : ∀ v ∈ vs, v.ballotIndex < ts.length
  voted : ∀ i < ts.length, ∃ v ∈ vs, v.ballotIndex = i
  counts : ∀ (i : ℕ) (t : BallotTally), ts[i]? = some t → Counts vs i t
  distinct : ∀ (i j : ℕ) (t u : BallotTally),
    ts[i]? = some t → ts[j]? = some u → t.ballot = u.ballot → i = j
  winner : b.winningBallot.isValid = true → ∃ t ∈ ts, t.ballot = b.winningBallot

variable {b b' : BallotBox} {vs : List OperatorVote} {ts : List BallotTally} {math : PreciseMath}

namespace Slots

/-- The slot in which the ballot's tally is found. -/
lemma findIdx?_ballot (h : Slots b vs ts) (ballot : Ballot) :
    b.ballotTallies.findIdx? (fun t => t.isValid && t.ballot.eq ballot) =
      ts.findIdx? (fun t => t.isValid && t.ballot.eq ballot) :=
  h.tallies.findIdx?_eq rfl

/-- The first free tally slot. -/
lemma findIdx?_free (h : Slots b vs ts) :
    b.ballotTallies.findIdx? (fun t => !t.isValid) =
      if ts.length < maxOperators then some ts.length else none := by
  apply h.tallies.findIdx?_free rfl
  intro t ht
  rw [h.tally_taken t ht, Bool.not_true]

/-- The first free vote slot. -/
lemma findIdx?_isEmpty (h : Slots b vs ts) :
    b.operatorVotes.findIdx? OperatorVote.isEmpty =
      if vs.length < maxOperators then some vs.length else none :=
  h.votes.findIdx?_free rfl h.vote_taken

end Slots

namespace Accounted

/-- A new box holds nothing. -/
lemma new (ncn : Pubkey) (epoch : ℕ) (bump : UInt8) (slot : ℕ) :
    Accounted (.new ncn epoch bump slot) [] [] where
  votes := Table.holds_replicate _
  tallies := Table.holds_replicate _
  operatorsVoted := rfl
  uniqueBallots := rfl
  operators := List.nodup_nil
  operator_ne := by simp
  ballotIndex := by simp
  voted := by simp
  counts := by simp
  distinct := by simp
  winner := by simp [BallotBox.new, Ballot.default]

/-- A recorded vote is not an empty slot. -/
lemma vote_isEmpty (h : Accounted b vs ts) {v : OperatorVote} (hv : v ∈ vs) : v.isEmpty = false := by
  have hlt := h.ballotIndex v hv
  have hle : ts.length ≤ 256 := h.tallies.length_le
  rw [OperatorVote.isEmpty, beq_eq_false_iff_ne, u16Max, uMax]
  omega

/-- The votes and the tallies fill the first slots of the tables. -/
lemma slots (h : Accounted b vs ts) : Slots b vs ts where
  votes := h.votes
  tallies := h.tallies
  operatorsVoted := h.operatorsVoted
  uniqueBallots := h.uniqueBallots
  vote_taken := fun _ hv => h.vote_isEmpty hv
  tally_taken := by
    intro t ht
    obtain ⟨i, hi⟩ := List.mem_iff_getElem?.1 ht
    exact (h.counts i t hi).valid

/-- No vote carries the index of a free tally slot. -/
lemma free_slot (h : Accounted b vs ts) {i : ℕ} (hi : ts.length ≤ i) :
    vs.countP (·.ballotIndex = i) = 0 ∧
      weightOf (·.ballotIndex) (·.stakeWeights.stakeWeight) i vs = 0 := by
  constructor
  · rw [List.countP_eq_zero]
    intro v hv
    have := h.ballotIndex v hv
    simp only [decide_eq_true_eq]
    omega
  · exact weightOf_eq_zero fun v hv => ((h.ballotIndex v hv).trans_le hi).ne

/-- The slot `i` of the tallies `ts'` has taken one vote more for the ballot than the votes `vs`; the
other slots are those of `ts`, and none of them is about the ballot. -/
structure Takes (vs : List OperatorVote) (ts ts' : List BallotTally) (i : ℕ) (ballot : Ballot)
    (sw : StakeWeights) : Prop where
  lt : i < ts'.length
  length_le : ts.length ≤ ts'.length
  slot : ∃ t, ts'[i]? = some t ∧ t.ballot = ballot ∧ t.index = i ∧
    t.tally = vs.countP (·.ballotIndex = i) + 1 ∧
    t.stakeWeights.stakeWeight =
      weightOf (·.ballotIndex) (·.stakeWeights.stakeWeight) i vs + sw.stakeWeight
  frame : ∀ k, k ≠ i → ts'[k]? = ts[k]?
  other : ∀ (k : ℕ) (t : BallotTally), k ≠ i → ts[k]? = some t → t.ballot ≠ ballot
  same : ∀ t, ts[i]? = some t → t.ballot = ballot

/-- `increment_or_create_ballot_tally` takes the vote into one slot of the tallies. -/
lemma increment_takes (h : Accounted b vs ts) {ballot : Ballot} (hb : ballot.isValid = true)
    {sw : StakeWeights} {i : ℕ}
    (hrun : (BallotBox.incrementOrCreateBallotTally ballot sw).run b = .ok i b') :
    ∃ ts', b'.ballotTallies.Holds .default ts' ∧ Takes vs ts ts' i ballot sw ∧
      b' = { b with ballotTallies := b'.ballotTallies, uniqueBallots := ts'.length } := by
  rcases BallotBox.incrementOrCreateBallotTally_run_ok hrun with ⟨t', hfind, ht', rfl⟩ | ⟨hfind, hfree, rfl⟩
  · -- the ballot has a tally
    rw [h.slots.findIdx?_ballot] at hfind
    obtain ⟨t, ht, hp, hi⟩ := exists_of_findIdx? hfind
    have hball : t.ballot = ballot := Ballot.eq_of_eq (Bool.and_eq_true _ _ ▸ hp).2
    rw [h.tallies.get?_lt hi, ht, Option.getD_some] at ht'
    obtain ⟨hidx, hb', htally, hsw⟩ := BallotTally.incrementTally_run_ok ht'
    have hc := h.counts i t ht
    refine ⟨ts.set i t', h.tallies.set hi t', ?_, by rw [List.length_set, ← h.uniqueBallots]⟩
    constructor
    case lt => rwa [List.length_set]
    case length_le => rw [List.length_set]
    case slot =>
      refine ⟨t', List.getElem?_set_self hi, hb'.trans hball, hidx.trans hc.index, ?_, ?_⟩
      · rw [htally, hc.count]
      · rw [hsw, hc.weight]
    case frame => exact fun k hk => List.getElem?_set_ne (Ne.symm hk)
    case other =>
      intro k u hk hu he
      exact hk (h.distinct k i u t hu ht (he.trans hball.symm))
    case same =>
      intro u hu
      rw [ht] at hu
      cases hu
      exact hball
  · -- the ballot gets the first free slot
    rw [h.slots.findIdx?_ballot, List.findIdx?_eq_none_iff] at hfind
    rw [h.slots.findIdx?_free] at hfree
    split at hfree
    · rename_i hlt
      cases hfree
      have hmod : ts.length % 2 ^ 16 = ts.length := Nat.mod_eq_of_lt (Nat.lt_trans hlt (by decide))
      rw [hmod]
      refine ⟨ts ++ [.new ts.length ballot sw], h.tallies.append hlt _, ?_, ?_⟩
      · obtain ⟨hcount, hweight⟩ := h.free_slot (Nat.le_refl ts.length)
        constructor
        case lt => simp
        case length_le => simp
        case slot =>
          refine ⟨_, List.getElem?_concat_length, rfl, rfl, ?_, ?_⟩
          · rw [hcount]; rfl
          · rw [hweight, Nat.zero_add]; rfl
        case frame =>
          intro k hk
          rcases Nat.lt_or_ge k ts.length with hk' | hk'
          · exact List.getElem?_append_left hk'
          · rw [List.getElem?_eq_none hk', List.getElem?_eq_none]
            rw [List.length_append, List.length_singleton]
            omega
        case other =>
          rintro k t - ht rfl
          have hv := (h.counts k t ht).valid
          have := hfind t (List.mem_of_getElem? ht)
          rw [hv, Bool.true_and, Bool.eq_false_iff, ne_eq, Ballot.eq_iff] at this
          exact this ⟨hv, hv, rfl⟩
        case same =>
          intro t ht
          rw [List.getElem?_eq_none (Nat.le_refl _)] at ht
          cases ht
      · rw [List.length_append, List.length_singleton, ← h.uniqueBallots]
    · cases hfree

/-- Every ballot with a tally keeps one. -/
lemma Takes.mem_ballot {ts' : List BallotTally} {i : ℕ} {ballot : Ballot} {sw : StakeWeights}
    (h : Takes vs ts ts' i ballot sw) {t : BallotTally} (ht : t ∈ ts) :
    ∃ t' ∈ ts', t'.ballot = t.ballot := by
  obtain ⟨k, hk⟩ := List.mem_iff_getElem?.1 ht
  by_cases hki : k = i
  · subst hki
    obtain ⟨t', ht', hb, _⟩ := h.slot
    exact ⟨t', List.mem_of_getElem? ht', hb.trans (h.same t hk).symm⟩
  · exact ⟨t, List.mem_of_getElem? (h.frame k hki ▸ hk), rfl⟩

/-- A slot that has taken a vote counts the votes with that vote appended. -/
lemma Takes.counts {ts' : List BallotTally} {i : ℕ} {ballot : Ballot} {sw : StakeWeights}
    (h : Takes vs ts ts' i ballot sw) (hb : ballot.isValid = true)
    (hc : ∀ (k : ℕ) (t : BallotTally), ts[k]? = some t → Counts vs k t) {v : OperatorVote}
    (hi : v.ballotIndex = i) (hsw : v.stakeWeights = sw) {k : ℕ} {t : BallotTally}
    (ht : ts'[k]? = some t) : Counts (vs ++ [v]) k t := by
  by_cases hki : k = i
  · subst hki
    obtain ⟨u, hu, hub, hidx, htally, hweight⟩ := h.slot
    rw [hu] at ht
    cases ht
    constructor
    case index => exact hidx
    case valid => rw [BallotTally.isValid, hub, hb]
    case count => rw [htally, List.countP_append, List.countP_singleton, hi]; simp
    case weight => rw [hweight, weightOf_append_singleton, if_pos hi, hsw]
  · rw [h.frame k hki] at ht
    have hne : v.ballotIndex ≠ k := fun e => hki (e.symm.trans hi)
    obtain ⟨hidx, hvalid, htally, hweight⟩ := hc k t ht
    refine ⟨hidx, hvalid, ?_, ?_⟩
    · rw [htally, List.countP_append, List.countP_singleton]; simp [hne]
    · rw [hweight, weightOf_append_singleton, if_neg hne, Nat.add_zero]

/-- Two slots never come to be about the same ballot. -/
lemma Takes.distinct {ts' : List BallotTally} {i : ℕ} {ballot : Ballot} {sw : StakeWeights}
    (h : Takes vs ts ts' i ballot sw)
    (hd : ∀ (k l : ℕ) (t u : BallotTally),
      ts[k]? = some t → ts[l]? = some u → t.ballot = u.ballot → k = l)
    {k l : ℕ} {t u : BallotTally} (ht : ts'[k]? = some t) (hu : ts'[l]? = some u)
    (he : t.ballot = u.ballot) : k = l := by
  obtain ⟨w, hw, hwb, _⟩ := h.slot
  by_cases hk : k = i <;> by_cases hl : l = i
  · rw [hk, hl]
  · subst hk
    rw [hw] at ht
    cases ht
    rw [h.frame l hl] at hu
    exact absurd (he.symm.trans hwb) (h.other l u hl hu)
  · subst hl
    rw [hw] at hu
    cases hu
    rw [h.frame k hk] at ht
    exact absurd (he.trans hwb) (h.other k t hk ht)
  · rw [h.frame k hk] at ht
    rw [h.frame l hl] at hu
    exact hd k l t u ht hu he

/-- A successful `cast_vote` appends the vote, and takes it into one slot of the tallies. -/
lemma castVote_takes (h : Accounted b vs ts) {operator : Pubkey} {ballot : Ballot}
    {sw : StakeWeights} {slot valid : ℕ}
    (hrun : (BallotBox.castVote operator ballot sw slot valid).run b = .ok () b') :
    ∃ ts' i, Takes vs ts ts' i ballot sw ∧ Accounted b' (vs ++ [⟨operator, slot, sw, i⟩]) ts' ∧
      b'.slotConsensusReached = b.slotConsensusReached ∧ b'.winningBallot = b.winningBallot := by
  obtain ⟨_, hb, hnew, i, b₁, j, hinc, hj, rfl⟩ := BallotBox.castVote_run_ok hrun
  obtain ⟨ts', hts', htakes, hb₁⟩ := h.increment_takes hb hinc
  have hlen : ts'.length ≤ 256 := hts'.length_le
  have hi : i % 2 ^ 16 = i := Nat.mod_eq_of_lt (by have := htakes.lt; omega)
  rw [hb₁] at hj
  simp only [h.slots.findIdx?_isEmpty] at hj
  split at hj
  case isFalse => cases hj
  case isTrue hlt =>
    cases hj
    refine ⟨ts', i, htakes, ?_, by rw [hb₁], by rw [hb₁]⟩
    -- the operator's key is in no slot of the table, taken or free
    rw [Table.any, h.votes, List.any_append, Bool.or_eq_false_iff, List.any_eq_false,
      List.any_eq_false] at hnew
    have hfresh : operator ∉ vs.map (·.operator) := by
      intro hmem
      obtain ⟨v, hv, rfl⟩ := List.mem_map.1 hmem
      simpa using hnew.1 v hv
    have hne : operator ≠ .default := by
      rintro rfl
      have hmem := List.mem_replicate.2 ⟨Nat.sub_ne_zero_of_lt hlt, rfl (a := OperatorVote.default)⟩
      simpa [OperatorVote.default] using hnew.2 _ hmem
    constructor
    case votes =>
      rw [OperatorVote.new, hi, hb₁]
      exact h.votes.append hlt _
    case tallies => exact hts'
    case operatorsVoted => rw [hb₁, List.length_append, List.length_singleton, ← h.operatorsVoted]
    case uniqueBallots => rw [hb₁]
    case operators => exact nodup_map_append_singleton h.operators hfresh
    case operator_ne => exact forall_mem_append_singleton h.operator_ne hne
    case ballotIndex =>
      refine forall_mem_append_singleton (P := fun v : OperatorVote => v.ballotIndex < ts'.length)
        (fun v hv => ?_) htakes.lt
      exact (h.ballotIndex v hv).trans_le htakes.length_le
    case voted =>
      intro k hk
      by_cases hki : k = i
      · exact ⟨_, List.mem_append_right _ (List.mem_singleton.2 rfl), hki.symm⟩
      · have hk' : k < ts.length := by
          have hframe := htakes.frame k hki
          rw [List.getElem?_eq_getElem hk] at hframe
          exact (List.getElem?_eq_some_iff.1 hframe.symm).1
        obtain ⟨v, hv, hvk⟩ := h.voted k hk'
        exact ⟨v, List.mem_append_left _ hv, hvk⟩
    case counts => exact fun k t ht => htakes.counts hb h.counts rfl rfl ht
    case distinct => exact fun k l t u ht hu he => htakes.distinct h.distinct ht hu he
    case winner =>
      intro hw
      rw [hb₁] at hw ⊢
      obtain ⟨t, ht, htb⟩ := h.winner hw
      obtain ⟨t', ht', hb'⟩ := htakes.mem_ballot ht
      exact ⟨t', ht', hb'.trans htb⟩

/-- A valid ballot in some slot is the ballot of a tally. -/
lemma mem_of_valid (h : Accounted b vs ts) {t : BallotTally} (ht : t ∈ b.ballotTallies.toList)
    (hv : t.ballot.isValid = true) : t ∈ ts := by
  rw [h.tallies, List.mem_append] at ht
  rcases ht with ht | ht
  · exact ht
  · rw [List.eq_of_mem_replicate ht] at hv
    cases hv

/-- A tally with stake is of a valid ballot. -/
lemma isValid_of_pos (h : Accounted b vs ts) {t : BallotTally} (ht : t ∈ b.ballotTallies.toList)
    (hpos : 0 < t.stakeWeights.stakeWeight) : t.ballot.isValid = true := by
  rw [h.tallies, List.mem_append] at ht
  rcases ht with ht | ht
  · obtain ⟨i, hi⟩ := List.mem_iff_getElem?.1 ht
    exact (h.counts i t hi).valid
  · rw [List.eq_of_mem_replicate ht] at hpos
    exact absurd hpos (Nat.lt_irrefl 0)

/-- Declaring the ballot of some slot the winner keeps the accounts. -/
lemma declare (h : Accounted b vs ts) {t : BallotTally} (ht : t ∈ b.ballotTallies.toList) (slot : ℕ) :
    Accounted { b with slotConsensusReached := slot, winningBallot := t.ballot } vs ts :=
  { h with winner := fun hw => ⟨t, h.mem_of_valid ht hw, rfl⟩ }

/-- `tally_votes` keeps the accounts. -/
lemma tallyVotes (h : Accounted b vs ts) {total slot : ℕ}
    (hrun : (BallotBox.tallyVotes math total slot).run b = .ok () b') : Accounted b' vs ts := by
  rcases BallotBox.tallyVotes_run_ok hrun with rfl | ⟨_, _, t, ht, _, rfl⟩
  · exact h
  · exact h.declare (maxByKey_spec ht).1 slot

/-- `set_tie_breaker_ballot` keeps the accounts. -/
lemma setTieBreakerBallot (h : Accounted b vs ts) {weatherStatus : UInt8} {epoch stall : ℕ}
    (hrun : (BallotBox.setTieBreakerBallot weatherStatus epoch stall).run b = .ok () b') :
    Accounted b' vs ts := by
  obtain ⟨_, _, hb, rfl⟩ := BallotBox.setTieBreakerBallot_run_ok hrun
  rw [BallotBox.hasBallot, Table.any, List.any_eq_true] at hb
  obtain ⟨t, ht, he⟩ := hb
  rw [← Ballot.eq_of_eq he]
  exact h.declare ht b.slotConsensusReached

/-- Every call keeps the accounts, of some votes and tallies. -/
lemma step (hs : BallotBox.Step math b b') (h : Accounted b vs ts) :
    ∃ vs' ts', Accounted b' vs' ts' := by
  obtain ⟨call, hrun⟩ := hs
  cases call with
  | castVote operator ballot sw slot valid =>
    obtain ⟨ts', i, _, h', _⟩ := h.castVote_takes hrun
    exact ⟨_, ts', h'⟩
  | tallyVotes total slot => exact ⟨vs, ts, h.tallyVotes hrun⟩
  | setTieBreakerBallot weatherStatus epoch stall => exact ⟨vs, ts, h.setTieBreakerBallot hrun⟩

end Accounted

namespace BallotBox

/-- The votes in the non-empty slots. -/
def recorded (self : BallotBox) : List OperatorVote :=
  self.operatorVotes.toList.filter (!·.isEmpty)

/-- The tally of a ballot, as `get_winning_ballot_tally` looks it up. -/
def tallyFor (self : BallotBox) (ballot : Ballot) : Option BallotTally :=
  self.ballotTallies.find? (·.ballot.eq ballot)

/-- The number of votes the box has counted for a ballot. -/
def countFor (self : BallotBox) (ballot : Ballot) : ℕ :=
  ((self.tallyFor ballot).map (·.tally)).getD 0

/-- The stake the box has counted for a ballot. -/
def weightFor (self : BallotBox) (ballot : Ballot) : ℕ :=
  ((self.tallyFor ballot).map (·.stakeWeights.stakeWeight)).getD 0

end BallotBox

namespace Accounted

/-- The recorded votes are those the accounts name. -/
lemma recorded_eq (h : Accounted b vs ts) : b.recorded = vs := by
  have hvs : vs.filter (!·.isEmpty) = vs := by
    rw [List.filter_eq_self]
    intro v hv
    rw [h.vote_isEmpty hv, Bool.not_false]
  have hfree : (List.replicate (maxOperators - vs.length) OperatorVote.default).filter (!·.isEmpty) = [] :=
    List.filter_replicate_of_neg (by decide)
  rw [BallotBox.recorded, h.votes, List.filter_append, hvs, hfree, List.append_nil]

/-- The tally of a ballot is the one whose slot is about it. -/
lemma tallyFor_of_slot (h : Accounted b vs ts) {i : ℕ} {t : BallotTally} (ht : ts[i]? = some t) :
    b.tallyFor t.ballot = some t := by
  have hv := (h.counts i t ht).valid
  rw [BallotBox.tallyFor, h.tallies.find?_eq (by simp [Ballot.eq, BallotTally.default, Ballot.default])]
  cases hf : ts.find? (·.ballot.eq t.ballot) with
  | none =>
    rw [List.find?_eq_none] at hf
    exact absurd (Ballot.eq_iff.2 ⟨hv, hv, rfl⟩) (hf t (List.mem_of_getElem? ht))
  | some u =>
    obtain ⟨j, hj⟩ := List.mem_iff_getElem?.1 (List.mem_of_find?_eq_some hf)
    have he := List.find?_some hf
    rw [h.distinct j i u t hj ht (Ballot.eq_of_eq he), ht] at hj
    exact hj.symm

/-- A ballot that no tally is about has no tally. -/
lemma tallyFor_eq_none (h : Accounted b vs ts) {ballot : Ballot} (hn : ∀ t ∈ ts, t.ballot ≠ ballot) :
    b.tallyFor ballot = none := by
  rw [BallotBox.tallyFor, h.tallies.find?_eq (by simp [Ballot.eq, BallotTally.default, Ballot.default]),
    List.find?_eq_none]
  intro t ht he
  exact hn t ht (Ballot.eq_of_eq he)

/-- The count and the weight of a ballot are those of its tally. -/
lemma countFor_of_slot (h : Accounted b vs ts) {i : ℕ} {t : BallotTally} (ht : ts[i]? = some t) :
    b.countFor t.ballot = t.tally ∧ b.weightFor t.ballot = t.stakeWeights.stakeWeight := by
  simp only [BallotBox.countFor, BallotBox.weightFor, h.tallyFor_of_slot ht, Option.map_some,
    Option.getD_some, and_self]

lemma countFor_eq_zero (h : Accounted b vs ts) {ballot : Ballot} (hn : ∀ t ∈ ts, t.ballot ≠ ballot) :
    b.countFor ballot = 0 ∧ b.weightFor ballot = 0 := by
  simp only [BallotBox.countFor, BallotBox.weightFor, h.tallyFor_eq_none hn, Option.map_none,
    Option.getD_none, and_self]

/-- A vote that a slot has taken is counted once, for its own ballot. -/
lemma Takes.countFor {ts' : List BallotTally} {i : ℕ} {ballot : Ballot} {sw : StakeWeights}
    {vs' : List OperatorVote} (ht : Takes vs ts ts' i ballot sw) (h : Accounted b vs ts)
    (h' : Accounted b' vs' ts') (k : Ballot) :
    b'.countFor k = b.countFor k + (if k = ballot then 1 else 0) ∧
      b'.weightFor k = b.weightFor k + (if k = ballot then sw.stakeWeight else 0) := by
  obtain ⟨t', ht', hb', _, htally, hweight⟩ := ht.slot
  by_cases hk : k = ballot
  · rw [if_pos hk, if_pos hk, hk, ← hb', (h'.countFor_of_slot ht').1, (h'.countFor_of_slot ht').2, hb']
    rcases Nat.lt_or_ge i ts.length with hi | hi
    · obtain ⟨t, hti⟩ : ∃ t, ts[i]? = some t := ⟨_, List.getElem?_eq_getElem hi⟩
      have hc := h.counts i t hti
      rw [← ht.same t hti, (h.countFor_of_slot hti).1, (h.countFor_of_slot hti).2, hc.count, hc.weight]
      exact ⟨htally, hweight⟩
    · -- the slot is new: no vote carries its index and no tally is about the ballot
      have hn : ∀ t ∈ ts, t.ballot ≠ ballot := by
        intro t hmem
        obtain ⟨j, hj⟩ := List.mem_iff_getElem?.1 hmem
        have := (List.getElem?_eq_some_iff.1 hj).1
        exact ht.other j t (by omega) hj
      obtain ⟨hcount, hzero⟩ := h.free_slot hi
      rw [(h.countFor_eq_zero hn).1, (h.countFor_eq_zero hn).2, htally, hweight, hcount, hzero]
      exact ⟨rfl, rfl⟩
  · rw [if_neg hk, if_neg hk, Nat.add_zero, Nat.add_zero]
    by_cases hex : ∃ t ∈ ts, t.ballot = k
    · obtain ⟨t, hmem, rfl⟩ := hex
      obtain ⟨j, hj⟩ := List.mem_iff_getElem?.1 hmem
      have hji : j ≠ i := by
        rintro rfl
        exact hk (ht.same t hj)
      have hj' : ts'[j]? = some t := (ht.frame j hji).trans hj
      rw [(h.countFor_of_slot hj).1, (h.countFor_of_slot hj).2, (h'.countFor_of_slot hj').1,
        (h'.countFor_of_slot hj').2]
      exact ⟨rfl, rfl⟩
    · have hn : ∀ t ∈ ts, t.ballot ≠ k := fun t hmem he => hex ⟨t, hmem, he⟩
      have hn' : ∀ t ∈ ts', t.ballot ≠ k := by
        intro t hmem he
        obtain ⟨j, hj⟩ := List.mem_iff_getElem?.1 hmem
        by_cases hji : j = i
        · rw [hji, ht'] at hj
          cases hj
          exact hk (he.symm.trans hb')
        · rw [ht.frame j hji] at hj
          exact hn t (List.mem_of_getElem? hj) he
      rw [(h.countFor_eq_zero hn).1, (h.countFor_eq_zero hn).2, (h'.countFor_eq_zero hn').1,
        (h'.countFor_eq_zero hn').2]
      exact ⟨rfl, rfl⟩

end Accounted

/-- Every reachable box is accounted. -/
lemma BallotBox.Reachable.accounted (h : b.Reachable math) : ∃ vs ts, Accounted b vs ts := by
  obtain ⟨ncn, epoch, bump, slot, hrun⟩ := h
  apply Run.invariant (I := fun b => ∃ vs ts, Accounted b vs ts) hrun
  · exact ⟨[], [], .new ncn epoch bump slot⟩
  · rintro b b' hs ⟨vs, ts, h⟩
    exact h.step hs

/-- The accounts of a box, slot by slot: which slots are taken, and what the tallies say about the
votes. -/
structure BallotAccounting (b : BallotBox) : Prop where
  voteSlots : b.operatorsVoted ≤ maxOperators ∧ ∀ i v, b.operatorVotes.get? i = some v →
    (v.isEmpty = false ↔ i < b.operatorsVoted)
  operators : ∀ i j v w, b.operatorVotes.get? i = some v → b.operatorVotes.get? j = some w →
    v.isEmpty = false → w.isEmpty = false → v.operator = w.operator → i = j
  tallySlots : b.uniqueBallots ≤ maxOperators ∧ ∀ i t, b.ballotTallies.get? i = some t →
    (t.isValid = true ↔ i < b.uniqueBallots)
  index : ∀ i t, b.ballotTallies.get? i = some t → t.isValid = true → t.index = i
  ballots : ∀ i j t u, b.ballotTallies.get? i = some t → b.ballotTallies.get? j = some u →
    t.ballot.eq u.ballot = true → i = j
  ballotIndex : ∀ v ∈ b.recorded, v.ballotIndex < b.uniqueBallots
  counts : ∀ i t, b.ballotTallies.get? i = some t → t.isValid = true →
    t.tally = (b.recorded.filter (·.ballotIndex = i)).length ∧
    t.stakeWeights.stakeWeight =
      ((b.recorded.filter (·.ballotIndex = i)).map (·.stakeWeights.stakeWeight)).sum
  winner : b.winningBallot.isValid = true → ∃ t ∈ b.ballotTallies.toList,
    b.getWinningBallotTally = .ok t ∧ t.isValid = true ∧ t.ballot = b.winningBallot

/-- A vote has been taken into account once: it is recorded after the votes so far, under the index of
its ballot's tally, and only that tally has grown, by one vote and its stake. -/
structure CountedOnce (b b' : BallotBox) (operator : Pubkey) (ballot : Ballot) (sw : StakeWeights)
    (slot : ℕ) : Prop where
  recorded : ∃ i t, b'.recorded = b.recorded ++ [⟨operator, slot, sw, i⟩] ∧
    b'.ballotTallies.get? i = some t ∧ t.ballot = ballot
  count : ∀ k, b'.countFor k = b.countFor k + if k = ballot then 1 else 0
  weight : ∀ k, b'.weightFor k = b.weightFor k + if k = ballot then sw.stakeWeight else 0

namespace Accounted

/-- A vote slot is taken exactly when it is among the recorded votes. -/
lemma vote_slot (h : Accounted b vs ts) {i : ℕ} {v : OperatorVote}
    (hv : b.operatorVotes.get? i = some v) :
    (v.isEmpty = false ∧ vs[i]? = some v) ∨ (v.isEmpty = true ∧ vs.length ≤ i) := by
  rcases h.votes.get?_cases hv with hv | ⟨hi, rfl⟩
  · exact .inl ⟨h.vote_isEmpty (List.mem_of_getElem? hv), hv⟩
  · exact .inr ⟨rfl, hi⟩

/-- A tally slot is valid exactly when it is among the tallies. -/
lemma tally_slot (h : Accounted b vs ts) {i : ℕ} {t : BallotTally}
    (ht : b.ballotTallies.get? i = some t) :
    (t.isValid = true ∧ ts[i]? = some t) ∨ (t.isValid = false ∧ ts.length ≤ i) := by
  rcases h.tallies.get?_cases ht with ht | ⟨hi, rfl⟩
  · exact .inl ⟨(h.counts i t ht).valid, ht⟩
  · exact .inr ⟨rfl, hi⟩

/-- The accounts, slot by slot. -/
lemma ballotAccounting (h : Accounted b vs ts) : BallotAccounting b := by
  constructor
  case voteSlots =>
    refine ⟨h.operatorsVoted ▸ h.votes.length_le, ?_⟩
    intro i v hv
    rw [h.operatorsVoted]
    rcases h.vote_slot hv with ⟨he, hi⟩ | ⟨he, hi⟩
    · exact ⟨fun _ => (List.getElem?_eq_some_iff.1 hi).1, fun _ => he⟩
    · simp only [he, Bool.true_eq_false, false_iff, Nat.not_lt, hi]
  case operators =>
    intro i j v w hv hw hve hwe heq
    rcases h.vote_slot hv with ⟨_, hi⟩ | ⟨he, _⟩
    · rcases h.vote_slot hw with ⟨_, hj⟩ | ⟨he, _⟩
      · have hlt : i < (vs.map (·.operator)).length := by
          rw [List.length_map]
          exact (List.getElem?_eq_some_iff.1 hi).1
        apply (List.getElem?_inj hlt h.operators).1
        rw [List.getElem?_map, List.getElem?_map, hi, hj, Option.map_some, Option.map_some, heq]
      · rw [he] at hwe; cases hwe
    · rw [he] at hve; cases hve
  case tallySlots =>
    refine ⟨h.uniqueBallots ▸ h.tallies.length_le, ?_⟩
    intro i t ht
    rw [h.uniqueBallots]
    rcases h.tally_slot ht with ⟨he, hi⟩ | ⟨he, hi⟩
    · exact ⟨fun _ => (List.getElem?_eq_some_iff.1 hi).1, fun _ => he⟩
    · simp only [he, Bool.false_eq_true, false_iff, Nat.not_lt, hi]
  case index =>
    intro i t ht hv
    rcases h.tally_slot ht with ⟨_, hi⟩ | ⟨he, _⟩
    · exact (h.counts i t hi).index
    · rw [he] at hv; cases hv
  case ballots =>
    intro i j t u ht hu heq
    obtain ⟨htv, huv, _⟩ := Ballot.eq_iff.1 heq
    rcases h.tally_slot ht with ⟨_, hi⟩ | ⟨he, _⟩
    · rcases h.tally_slot hu with ⟨_, hj⟩ | ⟨he, _⟩
      · exact h.distinct i j t u hi hj (Ballot.eq_of_eq heq)
      · rw [BallotTally.isValid, huv] at he; cases he
    · rw [BallotTally.isValid, htv] at he; cases he
  case ballotIndex =>
    rw [h.recorded_eq, h.uniqueBallots]
    exact h.ballotIndex
  case counts =>
    intro i t ht hv
    rw [h.recorded_eq, ← List.countP_eq_length_filter]
    rcases h.tally_slot ht with ⟨_, hi⟩ | ⟨he, _⟩
    · exact ⟨(h.counts i t hi).count, (h.counts i t hi).weight⟩
    · rw [he] at hv; cases hv
  case winner =>
    intro hw
    obtain ⟨t, hmem, htb⟩ := h.winner hw
    obtain ⟨i, hi⟩ := List.mem_iff_getElem?.1 hmem
    have hfind := h.tallyFor_of_slot hi
    rw [htb, BallotBox.tallyFor] at hfind
    refine ⟨t, ?_, ?_, (h.counts i t hi).valid, htb⟩
    · rw [h.tallies]
      exact List.mem_append_left _ hmem
    · rw [BallotBox.getWinningBallotTally, if_pos hw, hfind]
      rfl

/-- A successful `cast_vote` counts its vote once. -/
lemma countedOnce (h : Accounted b vs ts) {operator : Pubkey} {ballot : Ballot} {sw : StakeWeights}
    {slot valid : ℕ} (hrun : (BallotBox.castVote operator ballot sw slot valid).run b = .ok () b') :
    CountedOnce b b' operator ballot sw slot := by
  obtain ⟨ts', i, htakes, h', _⟩ := h.castVote_takes hrun
  obtain ⟨t, ht, hb, _⟩ := htakes.slot
  constructor
  case recorded =>
    refine ⟨i, t, ?_, ?_, hb⟩
    · rw [h.recorded_eq, h'.recorded_eq]
    · rw [h'.tallies.get?_lt htakes.lt, ht]
  case count => exact fun k => (htakes.countFor h h' k).1
  case weight => exact fun k => (htakes.countFor h h' k).2

/-- With all slots taken every status has a tally, so a valid ballot always finds one or a free slot. -/
lemma findIdx?_ne_none (h : Accounted b vs ts) {ballot : Ballot} (hb : ballot.isValid = true)
    (hfull : ts.length = 256) :
    ts.findIdx? (fun t => t.isValid && t.ballot.eq ballot) ≠ none := by
  intro hnone
  rw [List.findIdx?_eq_none_iff] at hnone
  have hstatus : (ts.map (·.ballot.weatherStatus.toNat)).Nodup := by
    rw [List.nodup_iff_getElem?_ne_getElem?]
    intro i j hij hj
    rw [List.length_map] at hj
    simp only [List.getElem?_map, List.getElem?_eq_getElem hj,
      List.getElem?_eq_getElem (hij.trans hj), Option.map_some]
    intro he
    have hi' := h.counts i _ (List.getElem?_eq_getElem (hij.trans hj))
    have hj' := h.counts j _ (List.getElem?_eq_getElem hj)
    have heq : ts[i].ballot = ts[j].ballot := by
      apply Ballot.eq_of_eq
      exact Ballot.eq_iff.2 ⟨hi'.valid, hj'.valid, UInt8.toNat_inj.1 (Option.some.inj he)⟩
    exact hij.ne (h.distinct i j _ _ (List.getElem?_eq_getElem _) (List.getElem?_eq_getElem _) heq)
  have hsub : ts.map (·.ballot.weatherStatus.toNat) ⊆ List.range 256 := by
    intro n hn
    obtain ⟨t, _, rfl⟩ := List.mem_map.1 hn
    exact List.mem_range.2 (UInt8.toNat_lt _)
  have hperm := (List.subperm_of_subset hstatus hsub).perm_of_length_le
    (by rw [List.length_map, List.length_range, hfull])
  have hmem : ballot.weatherStatus.toNat ∈ ts.map (·.ballot.weatherStatus.toNat) :=
    hperm.mem_iff.2 (List.mem_range.2 (UInt8.toNat_lt _))
  obtain ⟨t, ht, he⟩ := List.mem_map.1 hmem
  obtain ⟨i, hi⟩ := List.mem_iff_getElem?.1 ht
  have hv := (h.counts i t hi).valid
  have := hnone t ht
  rw [hv, Bool.true_and, Bool.eq_false_iff, ne_eq, Ballot.eq_iff] at this
  exact this ⟨hv, hb, UInt8.toNat_inj.1 he⟩

end Accounted

/-- The only error of a tally is an overflow. -/
lemma BallotTally.incrementTally_error {sw : StakeWeights} {t t' : BallotTally} {e : ProgramError}
    (h : (BallotTally.incrementTally sw).run t = .error e t') : e = arithmeticOverflow := by
  rcases run_bind_error.1 h with h | ⟨_, t₁, _, h⟩
  · obtain ⟨w, hw⟩ := run_zoom_error h
    simp only [StakeWeights.increment, EStateM.run_bind, EStateM.run_get] at hw
    split at hw
    · cases hw
    · cases hw; rfl
  · simp only [EStateM.run_bind, EStateM.run_get] at h
    cases hadd : checkedAdd 64 t₁.tally 1 with
    | none => simp only [hadd] at h; cases h; rfl
    | some n => simp only [hadd] at h; cases h

/-- The only error of the voting window is an overflow. -/
lemma BallotBox.isVotingValid_error {slot valid : ℕ} {e : ProgramError}
    (h : b.isVotingValid slot valid = .error e) : e = arithmeticOverflow := by
  unfold BallotBox.isVotingValid at h
  split at h
  · cases h
  · split at h
    · cases hadd : checkedAdd 64 b.slotConsensusReached valid with
      | none => simp only [hadd] at h; cases h; rfl
      | some n => simp only [hadd] at h; cases h
    · cases h

/-- A valid ballot never finds the tallies full. -/
lemma Accounted.increment_ne_full (h : Accounted b vs ts) {ballot : Ballot}
    (hb : ballot.isValid = true) {sw : StakeWeights} {e : ProgramError}
    (hrun : (BallotBox.incrementOrCreateBallotTally ballot sw).run b = .error e b') :
    e = arithmeticOverflow := by
  simp only [BallotBox.incrementOrCreateBallotTally, EStateM.run_bind, EStateM.run_get] at hrun
  split at hrun
  · rcases run_bind_error.1 hrun with hrun | ⟨_, _, _, hrun⟩
    · obtain ⟨t, ht⟩ := run_zoom_error hrun
      exact BallotTally.incrementTally_error ht
    · cases hrun
  · rename_i hnone
    split at hrun
    · simp only [EStateM.run_bind, EStateM.run_set] at hrun
      cases hadd : checkedAdd 64 b.uniqueBallots 1 with
      | none => simp only [hadd] at hrun; cases hrun; rfl
      | some n => simp only [hadd] at hrun; cases hrun
    · rename_i hfree
      rw [h.slots.findIdx?_ballot] at hnone
      rw [h.slots.findIdx?_free] at hfree
      have hle : ts.length ≤ maxOperators := h.tallies.length_le
      split at hfree
      · cases hfree
      · rename_i hge
        exact absurd hnone (h.findIdx?_ne_none hb (Nat.le_antisymm hle (Nat.le_of_not_lt hge)))

/-- `cast_vote` never fails with `BallotTallyFull`. -/
lemma Accounted.castVote_ne_full (h : Accounted b vs ts) {operator : Pubkey} {ballot : Ballot}
    {sw : StakeWeights} {slot valid : ℕ} {e : ProgramError}
    (hrun : (BallotBox.castVote operator ballot sw slot valid).run b = .error e b') :
    e ≠ ballotTallyFull := by
  rcases run_bind_error.1 hrun with hrun | ⟨_, _, hg, hrun⟩
  · cases hrun
  cases hg
  rcases run_bind_error.1 hrun with hrun | ⟨_, _, hg, hrun⟩
  · rw [BallotBox.isVotingValid_error (run_ofExcept_error hrun)]; decide
  obtain ⟨_, rfl⟩ := run_ofExcept_ok.1 hg
  rcases run_bind_error.1 hrun with hrun | ⟨_, _, hg, hrun⟩
  · rw [run_ensure_error hrun]; decide
  obtain ⟨_, rfl⟩ := run_ensure_ok.1 hg
  rcases run_bind_error.1 hrun with hrun | ⟨_, _, hg, hrun⟩
  · rw [run_ensure_error hrun]; decide
  obtain ⟨hb, rfl⟩ := run_ensure_ok.1 hg
  rcases run_bind_error.1 hrun with hrun | ⟨_, _, hg, hrun⟩
  · rw [run_ensure_error hrun]; decide
  obtain ⟨_, rfl⟩ := run_ensure_ok.1 hg
  rcases run_bind_error.1 hrun with hrun | ⟨_, b₁, _, hrun⟩
  · rw [h.increment_ne_full hb hrun]; decide
  simp only [EStateM.run_bind, EStateM.run_get] at hrun
  split at hrun
  · simp only [EStateM.run_bind, EStateM.run_set] at hrun
    cases hadd : checkedAdd 64 b₁.operatorsVoted 1 with
    | none => simp only [hadd] at hrun; cases hrun; decide
    | some n => simp only [hadd] at hrun; cases hrun
  · cases hrun; decide

/-- No call drops a recorded vote. -/
lemma Accounted.recorded_prefix (h : Accounted b vs ts) (hs : BallotBox.Step math b b') :
    b.recorded <+: b'.recorded := by
  obtain ⟨call, hrun⟩ := hs
  cases call with
  | castVote operator ballot sw slot valid =>
    obtain ⟨i, t, hrec, _⟩ := (h.countedOnce hrun).recorded
    rw [hrec]
    exact List.prefix_append _ _
  | tallyVotes total slot =>
    have heq : b'.recorded = b.recorded := (h.tallyVotes hrun).recorded_eq.trans h.recorded_eq.symm
    exact heq ▸ List.prefix_refl b.recorded
  | setTieBreakerBallot weatherStatus epoch stall =>
    have heq : b'.recorded = b.recorded := (h.setTieBreakerBallot hrun).recorded_eq.trans h.recorded_eq.symm
    exact heq ▸ List.prefix_refl b.recorded

/-- In every reachable box the two tables agree, a successful vote is counted once and stays recorded
in every later box, and the tallies are never full. -/
theorem ballot_accounting (h : b.Reachable math) :
    BallotAccounting b ∧
      (∀ operator ballot sw slot valid b',
        (BallotBox.castVote operator ballot sw slot valid).run b = .ok () b' →
        CountedOnce b b' operator ballot sw slot) ∧
      (∀ b', Run (BallotBox.Step math) b b' → b.recorded <+: b'.recorded) ∧
      (∀ operator ballot sw slot valid e b',
        (BallotBox.castVote operator ballot sw slot valid).run b = .error e b' →
        e ≠ ballotTallyFull) := by
  obtain ⟨vs, ts, h⟩ := h.accounted
  refine ⟨h.ballotAccounting, ?_, ?_, ?_⟩
  · intro operator ballot sw slot valid b' hrun
    exact h.countedOnce hrun
  · intro b' hrun
    refine (Run.relates (I := fun b => ∃ vs ts, Accounted b vs ts)
      (R := fun b b' => b.recorded <+: b'.recorded) hrun ⟨vs, ts, h⟩
      (fun b => List.prefix_refl b.recorded) List.IsPrefix.trans ?_).2
    rintro c c' hs ⟨vs, ts, h⟩
    exact ⟨h.step hs, h.recorded_prefix hs⟩
  · intro operator ballot sw slot valid e b' hrun
    exact h.castVote_ne_full hrun

/-- A box with a winner: one vote that holds ten twelfths of the stake. -/
theorem ballot_accounting_of_one_vote :
    ∃ b : BallotBox, b.Reachable splMath ∧ b.operatorsVoted = 1 ∧ b.winningBallot = .new 1 ∧
      BallotAccounting b := by
  let cast := BallotBox.castVote 7 (.new 1) ⟨10, by decide⟩ 3 5
  let b₀ := BallotBox.new 1 0 0 0
  let b₁ := commit cast b₀
  let b₂ := commit (BallotBox.tallyVotes splMath 12 4) b₁
  have h₁ : BallotBox.Step splMath b₀ b₁ :=
    ⟨.castVote 7 (.new 1) ⟨10, by decide⟩ 3 5, Succeeds.run_eq (by decide +kernel)⟩
  have h₂ : BallotBox.Step splMath b₁ b₂ :=
    ⟨.tallyVotes 12 4, Succeeds.run_eq (by decide +kernel)⟩
  have hr : b₂.Reachable splMath := ⟨1, 0, 0, 0, (Relation.ReflTransGen.single h₁).tail h₂⟩
  exact ⟨b₂, hr, by decide +kernel, by decide +kernel, (ballot_accounting hr).1⟩

end NcnProgram
