import NcnProgram.Voting.Accounting
import NcnProgram.Lib.Atomic

/-!
# Rejected votes

`cast_vote` checks first, then updates the tally of the ballot, and looks for a slot for the vote only after that.
A vote that a check rejects leaves the box as it was. So does one the tallies cannot take, and as long as a vote
slot is free nothing fails after the tallies have taken it. In a box whose slots are all taken, however, a vote
that passes the checks fails with its stake and its count already in the tallies (`rejected_vote_counted`), each
time it is cast. `Filled` is the invariant of the boxes that calls leave behind, failed ones included;
`rejected_vote_leaves_no_trace_iff` says exactly which failures leave a trace.
-/

namespace NcnProgram
open Lib NCNProgramError

namespace BallotTally
variable {t : BallotTally} {sw : StakeWeights}

/-- A tally takes a stake and a vote that fit. -/
lemma incrementTally_of_lt (hs : t.stakeWeights.stakeWeight + sw.stakeWeight < 2 ^ 128)
    (hc : t.tally + 1 < 2 ^ 64) :
    (incrementTally sw).run t = .ok () { t with stakeWeights := ⟨_, hs⟩, tally := t.tally + 1 } := by
  simp only [incrementTally, EStateM.run_bind, run_zoom, StakeWeights.increment_of_lt hs, EStateM.run_get,
    checkedAdd_of_lt hc, okOr_some]
  rfl

/-- A stake that does not fit is not written. -/
lemma incrementTally_of_le (hs : 2 ^ 128 ≤ t.stakeWeights.stakeWeight + sw.stakeWeight) :
    (incrementTally sw).run t = .error arithmeticOverflow t := by
  simp only [incrementTally, EStateM.run_bind, run_zoom, StakeWeights.increment, EStateM.run_get,
    dif_neg (Nat.not_lt.2 hs)]
  rfl

/-- Where the vote does not fit, the stake has been written. -/
lemma incrementTally_of_count (hs : t.stakeWeights.stakeWeight + sw.stakeWeight < 2 ^ 128)
    (hc : 2 ^ 64 ≤ t.tally + 1) :
    (incrementTally sw).run t = .error arithmeticOverflow { t with stakeWeights := ⟨_, hs⟩ } := by
  have hnone : checkedAdd 64 t.tally 1 = none := if_neg (Nat.not_lt.2 hc)
  simp only [incrementTally, EStateM.run_bind, run_zoom, StakeWeights.increment_of_lt hs, EStateM.run_get, hnone]
  rfl

/-- Writing the stake of a vote without any changes nothing. -/
lemma add_zero (hs : t.stakeWeights.stakeWeight + sw.stakeWeight < 2 ^ 128) (hzero : sw.stakeWeight = 0) :
    { t with stakeWeights := ⟨t.stakeWeights.stakeWeight + sw.stakeWeight, hs⟩ } = t := by
  have hsame : (⟨t.stakeWeights.stakeWeight + sw.stakeWeight, hs⟩ : StakeWeights) = t.stakeWeights := by
    apply StakeWeights.ext
    show t.stakeWeights.stakeWeight + sw.stakeWeight = t.stakeWeights.stakeWeight
    rw [hzero, Nat.add_zero]
  rw [hsame]

end BallotTally

namespace BallotBox
variable {b b₁ : BallotBox} {operator : Pubkey} {ballot : Ballot} {sw : StakeWeights} {slot valid i : ℕ}
  {e : ProgramError}

/-- A box that calls make out of a new one; a call that fails keeps what it has written. -/
def Called (math : PreciseMath) (b : BallotBox) : Prop :=
  ∃ ncn epoch bump slot,
    Run (fun b b' => ∃ call : BallotCall, b' = stateAfter (call.exec math) b) (.new ncn epoch bump slot) b

/-- The vote passes the checks of `cast_vote`. -/
def Admits (b : BallotBox) (operator : Pubkey) (ballot : Ballot) (slot valid : ℕ) : Prop :=
  b.isVotingValid slot valid = .ok true ∧ ballot.isValid = true ∧
    b.operatorVotes.any (·.operator == operator) = false

/-- Counting the vote changes the tallies: the stake fits the ballot's tally, and so does the vote or else there is
stake to add; or the ballot has no tally yet and there is a free slot for one. -/
def Tallies (b : BallotBox) (ballot : Ballot) (sw : StakeWeights) : Prop :=
  match b.tallyFor ballot with
  | some t => t.stakeWeights.stakeWeight + sw.stakeWeight < 2 ^ 128 ∧ (t.tally + 1 < 2 ^ 64 ∨ 0 < sw.stakeWeight)
  | none => b.uniqueBallots < maxOperators

instance : Decidable (b.Admits operator ballot slot valid) := inferInstanceAs (Decidable (_ ∧ _ ∧ _))

/-- A ballot with a tally: the vote is that tally's. -/
lemma incrementOrCreateBallotTally_of_ok {t t' : BallotTally}
    (hfind : b.ballotTallies.findIdx? (fun t => t.isValid && t.ballot.eq ballot) = some i)
    (hget : b.ballotTallies.get? i = some t) (ht : (BallotTally.incrementTally sw).run t = .ok () t') :
    (incrementOrCreateBallotTally ballot sw).run b =
      .ok i { b with ballotTallies := b.ballotTallies.set i t' } := by
  simp only [incrementOrCreateBallotTally, EStateM.run_bind, EStateM.run_get, hfind, onTally, run_zoom, hget,
    Option.getD_some, ht]
  rfl

lemma incrementOrCreateBallotTally_of_error {t t' : BallotTally}
    (hfind : b.ballotTallies.findIdx? (fun t => t.isValid && t.ballot.eq ballot) = some i)
    (hget : b.ballotTallies.get? i = some t) (ht : (BallotTally.incrementTally sw).run t = .error e t') :
    (incrementOrCreateBallotTally ballot sw).run b =
      .error e { b with ballotTallies := b.ballotTallies.set i t' } := by
  simp only [incrementOrCreateBallotTally, EStateM.run_bind, EStateM.run_get, hfind, onTally, run_zoom, hget,
    Option.getD_some, ht]

/-- A ballot without one, and a free slot for it. -/
lemma incrementOrCreateBallotTally_of_free (sw : StakeWeights)
    (hfind : b.ballotTallies.findIdx? (fun t => t.isValid && t.ballot.eq ballot) = none)
    (hfree : b.ballotTallies.findIdx? (fun t => !t.isValid) = some i) (hlt : b.uniqueBallots + 1 < 2 ^ 64) :
    (incrementOrCreateBallotTally ballot sw).run b = .ok i { b with
      ballotTallies := b.ballotTallies.set i (.new (i % 2 ^ 16) ballot sw)
      uniqueBallots := b.uniqueBallots + 1 } := by
  simp only [incrementOrCreateBallotTally, EStateM.run_bind, EStateM.run_get, hfind, hfree, EStateM.run_set,
    checkedAdd_of_lt hlt, okOr_some]
  rfl

/-- A ballot without one, and no slot for it. -/
lemma incrementOrCreateBallotTally_of_full (sw : StakeWeights)
    (hfind : b.ballotTallies.findIdx? (fun t => t.isValid && t.ballot.eq ballot) = none)
    (hfull : b.ballotTallies.findIdx? (fun t => !t.isValid) = none) :
    (incrementOrCreateBallotTally ballot sw).run b = .error ballotTallyFull b := by
  simp only [incrementOrCreateBallotTally, EStateM.run_bind, EStateM.run_get, hfind, hfull]
  rfl

/-- A vote that a check rejects leaves the box as it was. -/
lemma castVote_of_not_admits (h : ¬b.Admits operator ballot slot valid) :
    ∃ e, (castVote operator ballot sw slot valid).run b = .error e b := by
  simp only [castVote, EStateM.run_bind, EStateM.run_get]
  cases hopen : b.isVotingValid slot valid with
  | error e => exact ⟨e, rfl⟩
  | ok votingValid =>
    simp only [ofExcept_ok, EStateM.run_pure]
    by_cases hv : votingValid = true
    case neg => exact ⟨votingNotValid, by rw [ensure_neg hv]; rfl⟩
    rw [ensure_pos hv]
    simp only [EStateM.run_pure]
    by_cases hb : ballot.isValid = true
    case neg => exact ⟨badBallot, by rw [ensure_neg hb]; rfl⟩
    rw [ensure_pos hb]
    simp only [EStateM.run_pure]
    have hvoted : ¬b.operatorVotes.any (·.operator == operator) = false :=
      fun hnew => h ⟨hv ▸ hopen, hb, hnew⟩
    exact ⟨operatorAlreadyVoted, by rw [ensure_neg hvoted]; rfl⟩

/-- The checks passed, what the tallies fail with the vote fails with. -/
lemma castVote_of_increment_error (h : b.Admits operator ballot slot valid)
    (hinc : (incrementOrCreateBallotTally ballot sw).run b = .error e b₁) :
    (castVote operator ballot sw slot valid).run b = .error e b₁ := by
  obtain ⟨hopen, hb, hnew⟩ := h
  simp only [castVote, EStateM.run_bind, EStateM.run_get, hopen, ofExcept_ok, EStateM.run_pure,
    ensure_pos rfl, ensure_pos hb, ensure_pos hnew, hinc]

/-- Without a free vote slot the vote fails after the tallies have taken it. -/
lemma castVote_of_full (h : b.Admits operator ballot slot valid)
    (hinc : (incrementOrCreateBallotTally ballot sw).run b = .ok i b₁)
    (hfull : b₁.operatorVotes.findIdx? OperatorVote.isEmpty = none) :
    (castVote operator ballot sw slot valid).run b = .error operatorVotesFull b₁ := by
  obtain ⟨hopen, hb, hnew⟩ := h
  simp only [castVote, EStateM.run_bind, EStateM.run_get, hopen, ofExcept_ok, EStateM.run_pure,
    ensure_pos rfl, ensure_pos hb, ensure_pos hnew, hinc, hfull]
  rfl

/-- With a free vote slot it succeeds. -/
lemma castVote_of_free {j : ℕ} (h : b.Admits operator ballot slot valid)
    (hinc : (incrementOrCreateBallotTally ballot sw).run b = .ok i b₁)
    (hfree : b₁.operatorVotes.findIdx? OperatorVote.isEmpty = some j) (hlt : b₁.operatorsVoted + 1 < 2 ^ 64) :
    (castVote operator ballot sw slot valid).run b = .ok () { b₁ with
      operatorVotes := b₁.operatorVotes.set j (.new i operator slot sw)
      operatorsVoted := b₁.operatorsVoted + 1 } := by
  obtain ⟨hopen, hb, hnew⟩ := h
  simp only [castVote, EStateM.run_bind, EStateM.run_get, hopen, ofExcept_ok, EStateM.run_pure,
    ensure_pos rfl, ensure_pos hb, ensure_pos hnew, hinc, hfree, EStateM.run_set, checkedAdd_of_lt hlt, okOr_some]
  rfl

/-- The other two calls write at their end only. -/
lemma atomic_tallyVotes (math : PreciseMath) (total slot : ℕ) : Atomic (tallyVotes math total slot) :=
  .bind .get fun _ => .ite (ReadOnly.pure _).atomic (.bind (.okOr _ _) fun _ => .bind (.ofExcept _) fun _ =>
    .ite (.set _) (ReadOnly.pure _).atomic)

lemma atomic_setTieBreakerBallot (weatherStatus : UInt8) (epoch stall : ℕ) :
    Atomic (setTieBreakerBallot weatherStatus epoch stall) :=
  .bind .get fun _ => .bind (.ensure _ _) fun _ => .bind (.okOr _ _) fun _ => .bind (.ensure _ _) fun _ =>
    .bind (.ensure _ _) fun _ => .bind (.ensure _ _) fun _ => .set _

end BallotBox

variable {b : BallotBox} {vs : List OperatorVote} {ts : List BallotTally} {operator : Pubkey} {ballot : Ballot}
  {sw : StakeWeights} {slot valid : ℕ} {math : PreciseMath}

/-- The tallies have changed by a vote at most: a bound on their counts grows by one. -/
def Raises (ts ts' : List BallotTally) : Prop := ∀ n, (∀ t ∈ ts, t.tally ≤ n) → ∀ t ∈ ts', t.tally ≤ n + 1

namespace Raises

/-- One tally is overwritten. -/
lemma set {i : ℕ} {t t' : BallotTally} (ht : ts[i]? = some t) (hc : t'.tally ≤ t.tally + 1) :
    Raises ts (ts.set i t') := by
  intro n hle u hu
  rcases List.mem_or_eq_of_mem_set hu with hu | rfl
  · exact (hle u hu).trans (Nat.le_succ n)
  · exact hc.trans (Nat.succ_le_succ (hle t (List.mem_of_getElem? ht)))

/-- A first vote for a ballot. -/
lemma append (index : ℕ) (ballot : Ballot) (sw : StakeWeights) : Raises ts (ts ++ [.new index ballot sw]) := by
  intro n hle
  refine forall_mem_append_singleton (P := fun t : BallotTally => t.tally ≤ n + 1) (fun t ht => ?_) ?_
  · exact (hle t ht).trans (Nat.le_succ n)
  · exact Nat.succ_le_succ (Nat.zero_le n)

end Raises

namespace Slots

/-- The tally of a ballot is in the slot that the search finds. -/
lemma tallyFor_eq (h : Slots b vs ts) (ballot : Ballot) :
    b.tallyFor ballot = (ts.findIdx? (fun t => t.isValid && t.ballot.eq ballot)).bind (ts[·]?) := by
  have htest : (fun t : BallotTally => t.isValid && t.ballot.eq ballot) = (·.ballot.eq ballot) := by
    funext t
    rw [BallotTally.isValid, Ballot.eq]
    cases t.ballot.isValid <;> rfl
  rw [htest, ← List.find?_eq_bind_findIdx?_getElem?]
  exact h.tallies.find?_eq (by simp [Ballot.eq, BallotTally.default, Ballot.default])

/-- The count of the only ballot. -/
lemma countFor_singleton {t : BallotTally} (h : Slots b vs [t]) : b.countFor t.ballot = t.tally := by
  have hfind : [t].findIdx? (fun u => u.isValid && u.ballot.eq t.ballot) = some 0 := by
    have hvalid : t.ballot.isValid = true := h.tally_taken t List.mem_cons_self
    rw [List.findIdx?_cons, BallotTally.isValid, hvalid, Ballot.eq_iff.2 ⟨hvalid, hvalid, rfl⟩]
    rfl
  rw [BallotBox.countFor, h.tallyFor_eq, hfind]
  rfl

/-- Overwriting a tally. -/
lemma set (h : Slots b vs ts) {i : ℕ} {t t' : BallotTally} (ht : ts[i]? = some t) (hb : t'.ballot = t.ballot) :
    Slots { b with ballotTallies := b.ballotTallies.set i t' } vs (ts.set i t') where
  votes := h.votes
  tallies := h.tallies.set (List.getElem?_eq_some_iff.1 ht).1 t'
  operatorsVoted := h.operatorsVoted
  uniqueBallots := by rw [List.length_set, h.uniqueBallots]
  vote_taken := h.vote_taken
  tally_taken := by
    intro u hu
    rcases List.mem_or_eq_of_mem_set hu with hu | rfl
    · exact h.tally_taken u hu
    · rw [BallotTally.isValid, hb]
      exact h.tally_taken t (List.mem_of_getElem? ht)

/-- Opening a tally. -/
lemma create (h : Slots b vs ts) (hroom : ts.length < maxOperators) {t : BallotTally} (ht : t.isValid = true) :
    Slots { b with ballotTallies := b.ballotTallies.set ts.length t, uniqueBallots := b.uniqueBallots + 1 } vs
      (ts ++ [t]) where
  votes := h.votes
  tallies := h.tallies.append hroom t
  operatorsVoted := h.operatorsVoted
  uniqueBallots := by rw [List.length_append, List.length_singleton, ← h.uniqueBallots]
  vote_taken := h.vote_taken
  tally_taken := forall_mem_append_singleton h.tally_taken ht

/-- Appending a vote. -/
lemma append (h : Slots b vs ts) (hroom : vs.length < maxOperators) {v : OperatorVote} (hv : v.isEmpty = false) :
    Slots { b with operatorVotes := b.operatorVotes.set vs.length v, operatorsVoted := b.operatorsVoted + 1 }
      (vs ++ [v]) ts where
  votes := h.votes.append hroom v
  tallies := h.tallies
  operatorsVoted := by rw [List.length_append, List.length_singleton, ← h.operatorsVoted]
  uniqueBallots := h.uniqueBallots
  vote_taken := forall_mem_append_singleton h.vote_taken hv
  tally_taken := h.tally_taken

/-- What counting a vote writes, if it writes anything. -/
structure Writes (b : BallotBox) (vs : List OperatorVote) (ts : List BallotTally) (b' : BallotBox)
    (ts' : List BallotTally) : Prop where
  slots : Slots b' vs ts'
  raises : Raises ts ts'
  ne : b' ≠ b

/-- What counting a vote comes to. It writes nothing and fails; or it succeeds; or it fails after it has added the
stake, because the count is at its limit. -/
inductive Counting (b : BallotBox) (vs : List OperatorVote) (ts : List BallotTally) (ballot : Ballot)
    (sw : StakeWeights) : Prop
  | unchanged (e : ProgramError) : ¬b.Tallies ballot sw →
    (BallotBox.incrementOrCreateBallotTally ballot sw).run b = .error e b → Counting b vs ts ballot sw
  | counted {i : ℕ} {b' : BallotBox} {ts' : List BallotTally} : b.Tallies ballot sw →
    (BallotBox.incrementOrCreateBallotTally ballot sw).run b = .ok i b' → i < maxOperators →
    Writes b vs ts b' ts' → Counting b vs ts ballot sw
  | overflowed {e : ProgramError} {b' : BallotBox} {ts' : List BallotTally} {t : BallotTally} :
    b.Tallies ballot sw → (BallotBox.incrementOrCreateBallotTally ballot sw).run b = .error e b' →
    t ∈ ts → 2 ^ 64 ≤ t.tally + 1 → Writes b vs ts b' ts' → Counting b vs ts ballot sw

/-- Another tally in its slot is a change. -/
lemma writes_set (h : Slots b vs ts) {i : ℕ} {t t' : BallotTally} (ht : ts[i]? = some t) (hne : t' ≠ t)
    (hb : t'.ballot = t.ballot) (hc : t'.tally ≤ t.tally + 1) :
    Writes b vs ts { b with ballotTallies := b.ballotTallies.set i t' } (ts.set i t') where
  slots := h.set ht hb
  raises := .set ht hc
  ne := by
    intro hsame
    have hi := (List.getElem?_eq_some_iff.1 ht).1
    have hslot : (b.ballotTallies.set i t').get? i = b.ballotTallies.get? i :=
      congrArg (·.ballotTallies.get? i) hsame
    rw [Table.get?_set_self (hi.trans_le h.tallies.length_le), h.tallies.get?_lt hi, ht] at hslot
    exact hne (Option.some.inj hslot)

/-- A new tally is a change. -/
lemma writes_create (h : Slots b vs ts) (hroom : ts.length < maxOperators) (hb : ballot.isValid = true)
    (sw : StakeWeights) :
    Writes b vs ts
      { b with ballotTallies := b.ballotTallies.set ts.length (.new (ts.length % 2 ^ 16) ballot sw),
               uniqueBallots := b.uniqueBallots + 1 }
      (ts ++ [.new (ts.length % 2 ^ 16) ballot sw]) where
  slots := h.create hroom hb
  raises := .append _ ballot sw
  ne := by
    intro hsame
    exact absurd (congrArg BallotBox.uniqueBallots hsame) (Nat.succ_ne_self _)

/-- Counting a vote for a ballot with a tally. -/
lemma counting_of_some (h : Slots b vs ts) (sw : StakeWeights) {i : ℕ}
    (hfind : ts.findIdx? (fun t => t.isValid && t.ballot.eq ballot) = some i) : Counting b vs ts ballot sw := by
  obtain ⟨t, ht, _, hi⟩ := exists_of_findIdx? hfind
  have htally : b.tallyFor ballot = some t := by rw [h.tallyFor_eq, hfind, Option.bind_some, ht]
  have hget : b.ballotTallies.get? i = some t := (h.tallies.get?_lt hi).trans ht
  have hsearch := (h.findIdx?_ballot ballot).trans hfind
  rcases Nat.lt_or_ge (t.stakeWeights.stakeWeight + sw.stakeWeight) (2 ^ 128) with hs | hs
  case inr =>
    -- the stake does not fit
    have hrun := BallotBox.incrementOrCreateBallotTally_of_error hsearch hget (BallotTally.incrementTally_of_le hs)
    rw [Table.set_of_get? hget] at hrun
    refine .unchanged arithmeticOverflow ?_ hrun
    rw [BallotBox.Tallies, htally]
    exact fun hw => absurd hw.1 (Nat.not_lt.2 hs)
  rcases Nat.lt_or_ge (t.tally + 1) (2 ^ 64) with hc | hc
  case inl =>
    have hrun := BallotBox.incrementOrCreateBallotTally_of_ok hsearch hget (BallotTally.incrementTally_of_lt hs hc)
    refine .counted ?_ hrun (hi.trans_le h.tallies.length_le) (h.writes_set ht ?_ rfl (Nat.le_refl _))
    · rw [BallotBox.Tallies, htally]
      exact ⟨hs, .inl hc⟩
    · intro hsame
      exact absurd (congrArg BallotTally.tally hsame) (Nat.succ_ne_self _)
  -- the stake fits and the vote does not
  have hrun :=
    BallotBox.incrementOrCreateBallotTally_of_error hsearch hget (BallotTally.incrementTally_of_count hs hc)
  rcases Nat.eq_zero_or_pos sw.stakeWeight with hzero | hpos
  · rw [BallotTally.add_zero hs hzero, Table.set_of_get? hget] at hrun
    refine .unchanged arithmeticOverflow ?_ hrun
    rw [BallotBox.Tallies, htally]
    exact fun hw => hw.2.elim (Nat.not_lt.2 hc) (Nat.not_lt.2 hzero.le)
  · refine .overflowed ?_ hrun (List.mem_of_getElem? ht) hc (h.writes_set ht ?_ rfl (Nat.le_succ _))
    · rw [BallotBox.Tallies, htally]
      exact ⟨hs, .inr hpos⟩
    · intro hsame
      have hstake : t.stakeWeights.stakeWeight + sw.stakeWeight = t.stakeWeights.stakeWeight :=
        congrArg (·.stakeWeights.stakeWeight) hsame
      omega

/-- Counting the first vote for a ballot. -/
lemma counting_of_none (h : Slots b vs ts) (hb : ballot.isValid = true) (sw : StakeWeights)
    (hfind : ts.findIdx? (fun t => t.isValid && t.ballot.eq ballot) = none) : Counting b vs ts ballot sw := by
  have htally : b.tallyFor ballot = none := by rw [h.tallyFor_eq, hfind, Option.bind_none]
  have hsearch := (h.findIdx?_ballot ballot).trans hfind
  have hfree := h.findIdx?_free
  split at hfree
  case isFalse hfull =>
    refine .unchanged ballotTallyFull ?_ (BallotBox.incrementOrCreateBallotTally_of_full sw hsearch hfree)
    rw [BallotBox.Tallies, htally, h.uniqueBallots]
    exact hfull
  case isTrue hroom =>
    have hlt : b.uniqueBallots + 1 < 2 ^ 64 := by
      rw [h.uniqueBallots]
      exact Nat.lt_of_le_of_lt hroom (by decide)
    have hrun := BallotBox.incrementOrCreateBallotTally_of_free sw hsearch hfree hlt
    refine .counted ?_ hrun hroom (h.writes_create hroom hb sw)
    rw [BallotBox.Tallies, htally, h.uniqueBallots]
    exact hroom

/-- Counting a vote for a valid ballot. -/
lemma counting (h : Slots b vs ts) (hb : ballot.isValid = true) (sw : StakeWeights) :
    Counting b vs ts ballot sw := by
  cases hfind : ts.findIdx? (fun t => t.isValid && t.ballot.eq ballot) with
  | some i => exact h.counting_of_some sw hfind
  | none => exact h.counting_of_none hb sw hfind

end Slots

/-- A box that calls leave behind. While there is a free vote slot, no tally counts more than the recorded votes. -/
structure Filled (b : BallotBox) (vs : List OperatorVote) (ts : List BallotTally) : Prop extends Slots b vs ts where
  tally_le : vs.length < maxOperators → ∀ t ∈ ts, t.tally ≤ vs.length

/-- What casting a vote comes to. A check or the tallies reject it, and nothing is written; or it is cast; or it
fails in a box without a free slot, after the tallies have taken it. -/
inductive Casting (b : BallotBox) (operator : Pubkey) (ballot : Ballot) (sw : StakeWeights) (slot valid : ℕ) :
    Prop
  | unchanged (e : ProgramError) : ¬(b.Admits operator ballot slot valid ∧ b.Tallies ballot sw) →
    (BallotBox.castVote operator ballot sw slot valid).run b = .error e b → Casting b operator ballot sw slot valid
  | cast {b' : BallotBox} {vs : List OperatorVote} {ts : List BallotTally} : b.operatorsVoted < maxOperators →
    (BallotBox.castVote operator ballot sw slot valid).run b = .ok () b' → Filled b' vs ts →
    Casting b operator ballot sw slot valid
  | traced {e : ProgramError} {b' : BallotBox} {vs : List OperatorVote} {ts : List BallotTally} :
    b.Admits operator ballot slot valid → b.operatorsVoted = maxOperators → b.Tallies ballot sw →
    (BallotBox.castVote operator ballot sw slot valid).run b = .error e b' → Filled b' vs ts → b' ≠ b →
    Casting b operator ballot sw slot valid

namespace Filled

lemma new (ncn : Pubkey) (epoch : ℕ) (bump : UInt8) (slot : ℕ) : Filled (.new ncn epoch bump slot) [] [] where
  votes := Table.holds_replicate _
  tallies := Table.holds_replicate _
  operatorsVoted := rfl
  uniqueBallots := rfl
  vote_taken := by simp
  tally_taken := by simp
  tally_le := by simp

/-- A vote in a box with a free slot. -/
lemma casting_of_room (h : Filled b vs ts) (hroom : vs.length < maxOperators)
    (hadmits : b.Admits operator ballot slot valid) (sw : StakeWeights) :
    Casting b operator ballot sw slot valid := by
  cases h.counting hadmits.2.1 sw with
  | unchanged e hnot hinc =>
    exact .unchanged e (fun hall => hnot hall.2) (BallotBox.castVote_of_increment_error hadmits hinc)
  | overflowed _ _ ht hlimit =>
    -- no count is at its limit
    have hle := h.tally_le hroom _ ht
    have hroom : vs.length < 256 := hroom
    omega
  | @counted i b' ts' _ hinc hindex hwrites =>
    have hfree := hwrites.slots.findIdx?_isEmpty
    rw [if_pos hroom] at hfree
    have hlt : b'.operatorsVoted + 1 < 2 ^ 64 := by
      rw [hwrites.slots.operatorsVoted]
      exact Nat.lt_of_le_of_lt hroom (by decide)
    have htaken : (OperatorVote.new i operator slot sw).isEmpty = false := by
      have hmod : i % 2 ^ 16 = i := Nat.mod_eq_of_lt (hindex.trans (by decide))
      rw [OperatorVote.isEmpty, OperatorVote.new, hmod, beq_eq_false_iff_ne]
      exact (hindex.trans (by decide)).ne
    refine .cast (h.operatorsVoted.trans_lt hroom) (BallotBox.castVote_of_free hadmits hinc hfree hlt)
      ⟨hwrites.slots.append hroom htaken, ?_⟩
    intro _
    rw [List.length_append, List.length_singleton]
    exact hwrites.raises _ (h.tally_le hroom)

/-- A vote in a full box. -/
lemma casting_of_full (h : Filled b vs ts) (hfull : vs.length = maxOperators)
    (hadmits : b.Admits operator ballot slot valid) (sw : StakeWeights) :
    Casting b operator ballot sw slot valid := by
  have hvoted : b.operatorsVoted = maxOperators := h.operatorsVoted.trans hfull
  have hfilled : ∀ {b' ts'}, Slots b' vs ts' → Filled b' vs ts' :=
    fun hslots => { hslots with tally_le := fun hlt => absurd hfull hlt.ne }
  cases h.counting hadmits.2.1 sw with
  | unchanged e hnot hinc =>
    exact .unchanged e (fun hall => hnot hall.2) (BallotBox.castVote_of_increment_error hadmits hinc)
  | overflowed htallies hinc _ _ hwrites =>
    exact .traced hadmits hvoted htallies (BallotBox.castVote_of_increment_error hadmits hinc)
      (hfilled hwrites.slots) hwrites.ne
  | counted htallies hinc _ hwrites =>
    have hnone := hwrites.slots.findIdx?_isEmpty
    rw [if_neg (Nat.not_lt.2 hfull.ge)] at hnone
    exact .traced hadmits hvoted htallies (BallotBox.castVote_of_full hadmits hinc hnone) (hfilled hwrites.slots)
      hwrites.ne

/-- Every vote. -/
lemma casting (h : Filled b vs ts) (operator : Pubkey) (ballot : Ballot) (sw : StakeWeights) (slot valid : ℕ) :
    Casting b operator ballot sw slot valid := by
  by_cases hadmits : b.Admits operator ballot slot valid
  case neg =>
    obtain ⟨e, hrun⟩ : ∃ e, (BallotBox.castVote operator ballot sw slot valid).run b = .error e b :=
      BallotBox.castVote_of_not_admits hadmits
    exact .unchanged e (fun hall => hadmits hall.1) hrun
  rcases Nat.lt_or_eq_of_le h.votes.length_le with hroom | hfull
  · exact h.casting_of_room hroom hadmits sw
  · exact h.casting_of_full hfull hadmits sw

/-- A winner touches neither table. -/
lemma declare (h : Filled b vs ts) (slot : ℕ) (ballot : Ballot) :
    Filled { b with slotConsensusReached := slot, winningBallot := ballot } vs ts :=
  { h with }

/-- Every call leaves such a box, whether it succeeds or fails. -/
lemma call (h : Filled b vs ts) (call : BallotCall) :
    ∃ vs' ts', Filled (stateAfter (call.exec math) b) vs' ts' := by
  cases call with
  | castVote operator ballot sw slot valid =>
    cases h.casting operator ballot sw slot valid with
    | unchanged e _ hrun => exact ⟨vs, ts, (stateAfter_of_error hrun).symm ▸ h⟩
    | cast _ hrun h' => exact ⟨_, _, (stateAfter_of_ok hrun).symm ▸ h'⟩
    | traced _ _ _ hrun h' _ => exact ⟨_, _, (stateAfter_of_error hrun).symm ▸ h'⟩
  | tallyVotes total slot =>
    refine ⟨vs, ts, ?_⟩
    rcases (BallotBox.atomic_tallyVotes math total slot).stateAfter_cases b with hsame | ⟨_, hrun⟩
    · exact hsame.symm ▸ h
    · rcases BallotBox.tallyVotes_run_ok hrun with hsame | ⟨_, _, t, _, _, hdeclared⟩
      · exact hsame.symm ▸ h
      · exact hdeclared.symm ▸ h.declare slot t.ballot
  | setTieBreakerBallot weatherStatus epoch stall =>
    refine ⟨vs, ts, ?_⟩
    have hatomic := BallotBox.atomic_setTieBreakerBallot weatherStatus epoch stall
    rcases hatomic.stateAfter_cases b with hsame | ⟨_, hrun⟩
    · exact hsame.symm ▸ h
    · obtain ⟨_, _, _, hdeclared⟩ := BallotBox.setTieBreakerBallot_run_ok hrun
      exact hdeclared.symm ▸ h.declare b.slotConsensusReached (.new weatherStatus)

end Filled

/-- Every box that calls leave behind. -/
lemma BallotBox.Called.filled (h : b.Called math) : ∃ vs ts, Filled b vs ts := by
  obtain ⟨ncn, epoch, bump, slot, hrun⟩ := h
  refine hrun.invariant (I := fun b => ∃ vs ts, Filled b vs ts) ⟨[], [], .new ncn epoch bump slot⟩ ?_
  rintro b b' ⟨call, rfl⟩ ⟨vs, ts, h⟩
  exact h.call call

/-- A vote that fails leaves the box as it was, unless it passes the checks of a box whose vote slots are all taken
and the tallies take it. -/
theorem rejected_vote_leaves_no_trace_iff (h : b.Called math) (operator : Pubkey) (ballot : Ballot)
    (sw : StakeWeights) (slot valid : ℕ) :
    (∀ e b', (BallotBox.castVote operator ballot sw slot valid).run b = .error e b' → b' = b) ↔
      ¬(b.Admits operator ballot slot valid ∧ b.operatorsVoted = maxOperators ∧ b.Tallies ballot sw) := by
  obtain ⟨vs, ts, h⟩ := h.filled
  cases h.casting operator ballot sw slot valid with
  | unchanged e hnot hrun =>
    refine iff_of_true ?_ fun hall => hnot ⟨hall.1, hall.2.2⟩
    intro e' b' hrun'
    rw [hrun] at hrun'
    cases hrun'
    rfl
  | cast hroom hrun _ =>
    refine iff_of_true ?_ fun hall => hroom.ne hall.2.1
    intro e' b' hrun'
    rw [hrun] at hrun'
    cases hrun'
  | traced hadmits hvoted htallies hrun _ hne =>
    refine iff_of_false ?_ fun hnot => hnot ⟨hadmits, hvoted, htallies⟩
    exact fun hsame => hne (hsame _ _ hrun)

/-- The second vote of an operator, after it has failed once. -/
theorem rejected_vote_leaves_no_trace_second_vote :
    ∃ b : BallotBox, b.Called splMath ∧ b.operatorsVoted = 1 ∧
      FailsWith (BallotBox.castVote 7 (.new 1) ⟨10, by decide⟩ 3 5) b operatorAlreadyVoted ∧
      ∀ e b', (BallotBox.castVote 7 (.new 1) ⟨10, by decide⟩ 3 5).run b = .error e b' → b' = b := by
  let call : BallotCall := .castVote 7 (.new 1) ⟨10, by decide⟩ 3 5
  let b := stateAfter (call.exec splMath) (stateAfter (call.exec splMath) (.new 1 0 0 0))
  have hcalled : b.Called splMath :=
    ⟨1, 0, 0, 0, (Relation.ReflTransGen.single ⟨call, rfl⟩).tail ⟨call, rfl⟩⟩
  have hnot : ¬(b.Admits 7 (.new 1) 3 5 ∧ b.operatorsVoted = maxOperators ∧
      b.Tallies (.new 1) ⟨10, by decide⟩) := by
    intro hall
    exact absurd hall.2.1 (by decide +kernel)
  exact ⟨b, hcalled, by decide +kernel, by decide +kernel,
    (rejected_vote_leaves_no_trace_iff hcalled 7 (.new 1) ⟨10, by decide⟩ 3 5).2 hnot⟩

/-- A vote for the ballot and with the stake that all operators vote for and with. -/
def BallotCall.alike (operator : ℕ) : BallotCall := .castVote (.ofNat 256 operator) (.new 1) ⟨10, by decide⟩ 3 5

namespace BallotBox

/-- The box after the votes of the first `n` operators. -/
def votedAlike (n : ℕ) : BallotBox :=
  (List.range' 1 n).foldl (fun b operator => stateAfter ((BallotCall.alike operator).exec splMath) b)
    (.new 1 0 0 0)

lemma votedAlike_called (n : ℕ) : (votedAlike n).Called splMath :=
  ⟨1, 0, 0, 0, Run.foldl _ fun operator _ _ => ⟨.alike operator, rfl⟩⟩

lemma votedAlike_succ (n : ℕ) :
    votedAlike (n + 1) = stateAfter ((BallotCall.alike (n + 1)).exec splMath) (votedAlike n) := by
  rw [votedAlike, List.range'_1_concat, List.foldl_append, Nat.add_comm 1 n]
  rfl

/-- The votes fill one slot each, and one tally takes all of them. -/
structure Alike (n : ℕ) (b : BallotBox) (vs : List OperatorVote) (t : BallotTally) : Prop where
  slots : Slots b vs [t]
  operators : vs.map (·.operator) = (List.range' 1 n).map (BitVec.ofNat 256)
  ballot : t.ballot = .new 1
  tally : t.tally = n
  stake : t.stakeWeights.stakeWeight = 10 * n
  slot : b.slotConsensusReached = defaultConsensusReachedSlot
  winning : b.winningBallot = .default

namespace Alike
variable {n : ℕ} {t : BallotTally}

lemma length_eq (h : Alike n b vs t) : vs.length = n := by
  simpa using congrArg List.length h.operators

/-- The next operator passes the checks. -/
lemma admits (h : Alike n b vs t) (hn : n ≤ 256) : b.Admits (.ofNat 256 (n + 1)) (.new 1) 3 5 := by
  have hne : ∀ k ≤ n, BitVec.ofNat 256 k ≠ .ofNat 256 (n + 1) := by
    intro k hk hsame
    have hnat := congrArg BitVec.toNat hsame
    rw [BitVec.toNat_ofNat, BitVec.toNat_ofNat, Nat.mod_eq_of_lt (by omega), Nat.mod_eq_of_lt (by omega)] at hnat
    omega
  refine ⟨?_, rfl, ?_⟩
  · rw [isVotingValid, tieBreakerSet, isConsensusReached, h.slot, h.winning]
    rfl
  · rw [Table.any, h.slots.votes, List.any_append, Bool.or_eq_false_iff, List.any_eq_false, List.any_eq_false]
    constructor
    · intro v hv
      have hmem : v.operator ∈ vs.map (·.operator) := List.mem_map_of_mem hv
      rw [h.operators, List.mem_map] at hmem
      obtain ⟨k, hk, hkv⟩ := hmem
      rw [beq_iff_eq, ← hkv]
      exact hne k (by have := (List.mem_range'_1.1 hk).2; omega)
    · intro v hv
      rw [List.eq_of_mem_replicate hv, beq_iff_eq]
      exact hne 0 (Nat.zero_le n)

/-- Its vote is one more for the tally. -/
lemma increment (h : Alike n b vs t) (hn : n ≤ 256) :
    ∃ t', (incrementOrCreateBallotTally (.new 1) ⟨10, by decide⟩).run b =
        .ok 0 { b with ballotTallies := b.ballotTallies.set 0 t' } ∧
      t'.ballot = .new 1 ∧ t'.tally = n + 1 ∧ t'.stakeWeights.stakeWeight = 10 * (n + 1) := by
  have hfind : b.ballotTallies.findIdx? (fun t => t.isValid && t.ballot.eq (.new 1)) = some 0 := by
    rw [h.slots.findIdx?_ballot, List.findIdx?_cons, BallotTally.isValid, h.ballot]
    rfl
  have hget : b.ballotTallies.get? 0 = some t := h.slots.tallies.get?_lt Nat.one_pos
  have hs : t.stakeWeights.stakeWeight + 10 < 2 ^ 128 := by rw [h.stake]; omega
  have hc : t.tally + 1 < 2 ^ 64 := by rw [h.tally]; omega
  refine ⟨_, incrementOrCreateBallotTally_of_ok hfind hget (BallotTally.incrementTally_of_lt hs hc), ?_⟩
  refine ⟨h.ballot, congrArg (· + 1) h.tally, ?_⟩
  show t.stakeWeights.stakeWeight + 10 = 10 * (n + 1)
  rw [h.stake]
  omega

/-- It takes the next slot. -/
lemma vote (h : Alike n b vs t) (hn : n < 256) :
    ∃ vs' t', Alike (n + 1) (stateAfter ((BallotCall.alike (n + 1)).exec splMath) b) vs' t' := by
  obtain ⟨t', hinc, hballot, htally, hstake⟩ := h.increment hn.le
  have hlength := h.length_eq
  have hslots : Slots { b with ballotTallies := b.ballotTallies.set 0 t' } vs [t'] :=
    h.slots.set (i := 0) (t := t) rfl (hballot.trans h.ballot.symm)
  have hroom : vs.length < maxOperators := hlength.trans_lt hn
  have hfree := hslots.findIdx?_isEmpty
  rw [if_pos hroom] at hfree
  have hlt : b.operatorsVoted + 1 < 2 ^ 64 := by
    rw [h.slots.operatorsVoted]
    exact Nat.lt_of_le_of_lt hroom (by decide)
  have hrun : ((BallotCall.alike (n + 1)).exec splMath).run b = _ :=
    castVote_of_free (h.admits hn.le) hinc hfree hlt
  refine ⟨vs ++ [.new 0 (.ofNat 256 (n + 1)) 3 ⟨10, by decide⟩], t', ?_⟩
  rw [stateAfter_of_ok hrun]
  constructor
  case slots => exact hslots.append hroom rfl
  case operators =>
    rw [List.map_append, h.operators, List.range'_1_concat, List.map_append, Nat.add_comm 1 n]
    rfl
  case ballot => exact hballot
  case tally => exact htally
  case stake => exact hstake
  case slot => exact h.slot
  case winning => exact h.winning

end Alike

lemma votedAlike_alike {n : ℕ} (hn : n < 256) : ∃ vs t, Alike (n + 1) (votedAlike (n + 1)) vs t := by
  induction n with
  | zero =>
    refine ⟨[.new 0 1 3 ⟨10, by decide⟩], .new 0 (.new 1) ⟨10, by decide⟩, ?_⟩
    constructor
    case slots =>
      constructor
      case votes => unfold Table.Holds; decide +kernel
      case tallies => unfold Table.Holds; decide +kernel
      case operatorsVoted => decide +kernel
      case uniqueBallots => decide +kernel
      case vote_taken => decide
      case tally_taken => decide
    all_goals decide +kernel
  | succ n ih =>
    obtain ⟨vs, t, h⟩ := ih (by omega)
    rw [votedAlike_succ]
    exact h.vote hn

end BallotBox

/-- With 256 votes in the box the vote of one more operator fails, and the tally counts it. -/
theorem rejected_vote_counted :
    ∃ b b' : BallotBox, b.Called splMath ∧
      (BallotBox.castVote (.ofNat 256 257) (.new 1) ⟨10, by decide⟩ 3 5).run b = .error operatorVotesFull b' ∧
      b' ≠ b ∧ b.countFor (.new 1) = 256 ∧ b'.countFor (.new 1) = 257 ∧ b'.operatorsVoted = 256 := by
  obtain ⟨vs, t, h⟩ : ∃ vs t, BallotBox.Alike 256 (.votedAlike 256) vs t :=
    BallotBox.votedAlike_alike (n := 255) (by decide)
  obtain ⟨t', hinc, hballot, htally, _⟩ := h.increment (Nat.le_refl 256)
  have hslots := h.slots.set (List.getElem?_cons_zero (a := t) (l := [])) (hballot.trans h.ballot.symm)
  have hbefore := h.slots.countFor_singleton
  have hafter := hslots.countFor_singleton
  have hlength := h.length_eq
  have hnone := hslots.findIdx?_isEmpty
  rw [hlength, if_neg (Nat.lt_irrefl _)] at hnone
  rw [h.ballot, h.tally] at hbefore
  rw [hballot, htally] at hafter
  have hrun := BallotBox.castVote_of_full (h.admits (Nat.le_refl 256)) hinc hnone
  have hvoted := hslots.operatorsVoted
  rw [hlength] at hvoted
  refine ⟨.votedAlike 256, _, BallotBox.votedAlike_called 256, hrun, ?_, hbefore, hafter, hvoted⟩
  intro hsame
  have hcount := hafter.symm.trans ((congrArg (·.countFor (.new 1)) hsame).trans hbefore)
  exact absurd hcount (by decide)

end NcnProgram
