import NcnProgram.Closing.Once
import NcnProgram.Phases.Polls
import NcnProgram.Snapshot.Progress
import NcnProgram.Voting.BoxElection

/-!
# An epoch conducts an election

From the first snapshot to the recorded result, the life of an epoch is a weighted election: the operators are
enrolled when they are counted in the epoch's snapshot, with the stake of their snapshots; the votes are those of the
ballot box, and the outcome is what the box has decided. Every instruction is a run of events of the election, most
of them of none. What is true of all elections is so of every epoch, also when the accounts are closed again and
only the consensus result is left.
-/

namespace NcnProgram
open Lib NCNProgramError

/-- The consensus result says which candidate was elected. -/
def ConsensusResult.Announces (r : ConsensusResult) (outcome : Election.Outcome UInt8) : Prop :=
  ∀ c, outcome = .elected c ↔ r.isConsensusReached = true ∧ r.weatherStatus = c

/-- What is recorded of the votes is announced. -/
lemma Epoch.RecordsVotes.announces {e : Epoch} (h : e.RecordsVotes) (hl : Latched e.ballotBox) :
    e.consensusResult.Announces e.ballotBox.outcome := by
  intro c
  by_cases hslot : e.ballotBox.slotConsensusReached = defaultConsensusReachedSlot
  · have hopen : e.consensusResult.isConsensusReached = false := by
      rw [h.reached, hslot, bne_self_eq_false]
    have hnot : e.ballotBox.outcome ≠ .elected c := by
      cases hvalid : e.ballotBox.winningBallot.isValid with
      | false => rw [BallotBox.outcome_of_open hvalid]; exact fun h => by cases h
      | true =>
        have htie : e.ballotBox.tieBreakerSet = true := by
          rw [BallotBox.tieBreakerSet, hslot, hvalid, beq_self_eq_true, Bool.and_self]
        rw [BallotBox.outcome_of_tieBreaker htie]
        exact fun h => by cases h
    rw [hopen]
    exact iff_of_false hnot fun h => by cases h.1
  · have hreached : e.consensusResult.isConsensusReached = true := by rw [h.reached]; exact bne_iff_ne.2 hslot
    rw [BallotBox.outcome_of_votes (hl.winner hslot) hslot, hreached, (h.outcome hslot).1,
      Election.Outcome.elected.injEq]
    exact (and_iff_right rfl).symm

namespace Book
variable {index : Pubkey → ℕ} {b b' : Book} {k : Single}

/-- An account that does not get its data is not marked. -/
lemma Change.status_eq_dne (hb : Change index b b') (h : Live index b)
    (hinit : b'.single k = .initialized → b.single k = .initialized) (hk : b.status k = .dne) :
    b'.status k = .dne := by
  have hslot : b.single k ≠ .initialized := by
    intro hslot
    have ht := h.single k
    rw [hslot] at ht
    exact ht.ne_dne hk
  cases hb with
  | start => rfl
  | fill k' status voted =>
    by_cases hne : k = k'
    · subst hne; exact absurd (hinit (Function.update_self ..)) hslot
    · exact (Function.update_of_ne hne ..).trans hk
  | closeSingle k' _ _ hinit' =>
    by_cases hne : k = k'
    · subst hne; exact absurd hinit' hslot
    · exact (Function.update_of_ne hne ..).trans hk
  | _ => exact hk

/-- An epoch begins to close when it is decided. -/
lemma Change.consensus_of_closing (hb : Change index b b') (h : b'.closing = true) :
    b.closing = true ∨ b.consensus = true := by
  cases hb with
  | start => cases h
  | closeSingle _ _ hc | closeSnapshot _ _ _ hc | closeRouter _ _ _ hc | closeOther _ hc | finish _ hc =>
    exact .inr hc
  | _ => exact .inl h

/-- The marker is left behind by an epoch that was there. -/
lemma Change.marker_of_dead (hb : Change index b b') (hlive : b.live = false) (hmarker : b.marker = false) :
    b'.marker = false := by
  cases hb with
  | finish hlive' => cases hlive.symm.trans hlive'
  | _ => exact hmarker

/-- When an epoch ends, every account is marked as closed. -/
lemma Change.allMarked (hb : Change index b b') (hlive : b.live = true) (hdead : b'.live = false) :
    b.AllMarked := by
  cases hb with
  | finish _ _ hm => exact hm
  | _ => simp_all

end Book

namespace Lifecycle
variable {cl : Cluster} {i : Instruction} {s s' : Lifecycle} {a a' : Election Pubkey UInt8}

/-- The status of an account that the epoch has one of. -/
abbrev status (s : Lifecycle) (k : Single) : AccountStatus := s.accounts.epochState.accountStatus.single k

/-- An account that has its data is marked. -/
lemma ne_dne (hb : s.book.Live cl.index) {k : Single} (hk : s.single k = .initialized) : s.status k ≠ .dne := by
  have ht := hb.single k
  rw [show s.book.single k = _ from hk] at ht
  exact ht.ne_dne

/-- When the epoch's snapshot is finalized, so are those of the operators. -/
lemma Progressing.settled (h : Progressing cl s) (hclosing : s.accounts.epochState.isClosing = false)
    (hsnap : s.single .epochSnapshot = .initialized) (hfin : s.accounts.epochSnapshot.finalized = true)
    {p : Pubkey} {t : OperatorSnapshot} (ht : s.accounts.operatorSnapshot p = some t) : t.finalized = true := by
  obtain ⟨created, counted, h⟩ := h hclosing hsnap
  have hmem := (h.aggregated.created_iff p).2 ⟨t, ht⟩
  exact h.aggregated.finalized p (h.aggregated.counted_of_finalized cl.index_injective hfin hmem) t ht

/-- An epoch that is going on is in the state `a` of its election. -/
structure Conducts (s : Lifecycle) (a : Election Pubkey UInt8) : Prop where
  unopened : s.status .epochSnapshot = .dne → a.register = [] ∧ a.votes = []
  total : s.status .epochSnapshot ≠ .dne → s.accounts.epochSnapshot.stakeWeights.stakeWeight = a.total
  registered : ∀ p t, s.accounts.operatorSnapshot p = some t →
    if t.finalized then (p, t.stakeWeights.stakeWeight) ∈ a.register else p ∉ a.register.map (·.1)
  kept : s.accounts.epochState.isClosing = false → ∀ x ∈ a.register, s.accounts.operatorSnapshot x.1 ≠ none
  finalized : a.votes ≠ [] → s.accounts.epochSnapshot.finalized = true
  settled : a.votes ≠ [] → ∀ p t, s.accounts.operatorSnapshot p = some t → t.finalized = true
  closing : s.accounts.epochState.isClosing = true → a.votes ≠ []
  unboxed : s.status .ballotBox = .dne → a.votes = [] ∧ a.outcome = .undecided
  box : s.status .ballotBox ≠ .dne → Latched s.accounts.ballotBox ∧ s.accounts.ballotBox.votes = a.votes ∧
    s.accounts.ballotBox.outcome = a.outcome
  result : s.status .ballotBox ≠ .dne → s.accounts.consensusResult.Announces a.outcome

namespace Conducts

/-- An instruction that shows in the election at most by closing snapshots. -/
lemma carry (h : Conducts s a) (hes : s'.status .epochSnapshot = .dne ↔ s.status .epochSnapshot = .dne)
    (hbox : s'.status .ballotBox = .dne ↔ s.status .ballotBox = .dne)
    (hsnap : s'.accounts.epochSnapshot = s.accounts.epochSnapshot)
    (hops : ∀ p t, s'.accounts.operatorSnapshot p = some t → s.accounts.operatorSnapshot p = some t)
    (hkept : s'.accounts.epochState.isClosing = false → s.accounts.epochState.isClosing = false ∧
      s'.accounts.operatorSnapshot = s.accounts.operatorSnapshot)
    (hclosing : s'.accounts.epochState.isClosing = true → a.votes ≠ [])
    (hballot : s'.accounts.ballotBox = s.accounts.ballotBox)
    (hresult : s.status .ballotBox ≠ .dne → s'.accounts.consensusResult = s.accounts.consensusResult) :
    Conducts s' a where
  unopened hdne := h.unopened (hes.1 hdne)
  total hne := by rw [hsnap]; exact h.total (mt hes.2 hne)
  registered p t ht := h.registered p t (hops p t ht)
  kept hc x hx := by
    obtain ⟨hc, hsame⟩ := hkept hc
    rw [hsame]
    exact h.kept hc x hx
  finalized hv := by rw [hsnap]; exact h.finalized hv
  settled hv p t ht := h.settled hv p t (hops p t ht)
  closing := hclosing
  unboxed hdne := h.unboxed (hbox.1 hdne)
  box hne := by rw [hballot]; exact h.box (mt hbox.2 hne)
  result hne := by
    have hne' := mt hbox.2 hne
    rw [hresult hne']
    exact h.result hne'

/-- With a consensus someone has voted. -/
lemma votes_ne_nil (h : Conducts s a) (ha : Election.Sound Quorum a) (hb : s.book.Live cl.index) (hm : Mirrored s)
    (hclosing : s.accounts.epochState.isClosing = false)
    (hreached : s.accounts.epochState.isConsensusReached = true) : a.votes ≠ [] := by
  have hne : s.status .ballotBox ≠ .dne := (hb.consensus hreached).1
  have hinit : s.single .ballotBox = .initialized := by
    rcases (hb.single .ballotBox).cases_of_ne_dne hne with ⟨hinit, _⟩ | ⟨_, hclosed⟩
    · exact hinit
    · have ht := hb.single .ballotBox
      rw [hclosed, show s.book.closing = false from hclosing] at ht
      cases ht.2
  obtain ⟨hl, _, hout⟩ := h.box hne
  have hdecided : a.outcome ≠ .undecided := by
    have hbox := (hm.box hinit).consensus.symm.trans hreached
    rw [← hout]
    refine BallotBox.outcome_ne_undecided ?_
    by_cases hslot : s.accounts.ballotBox.slotConsensusReached = defaultConsensusReachedSlot
    · rwa [BallotBox.isConsensusReached, hslot, bne_self_eq_false, Bool.false_or] at hbox
    · exact hl.winner hslot
  have hbacked : ∃ c, a.Backed c := by
    cases hout : a.outcome with
    | undecided => exact absurd hout hdecided
    | elected c => exact ⟨c, (ha.elected c hout).1⟩
    | appointed c => exact ⟨c, ha.appointed c hout⟩
  obtain ⟨c, v, hv, _⟩ := hbacked
  exact List.ne_nil_of_mem hv

/-- A quiet instruction does not show. -/
lemma quiet (h : Conducts s a) (ha : Election.Sound Quorum a) (hb : s.book.Live cl.index) (hm : Mirrored s)
    (hchange : Book.Change cl.index s.book s'.book) (hq : Quiet s s') : Conducts s' a := by
  have hstatus : ∀ k, k ≠ .ncnRewardRouter → (s'.status k = .dne ↔ s.status k = .dne) := fun k hk =>
    ⟨fun hdne => by_contra fun hne => hchange.status_ne_dne hb.live hne hdne,
      hchange.status_eq_dne hb (hq.single k hk)⟩
  refine h.carry (hstatus _ (by decide)) (hstatus _ (by decide)) (congrArg Groundwork.epochSnapshot hq.groundwork)
    hq.operatorSnapshot (fun hc => ?_) (fun hc => ?_) (congrArg Groundwork.ballotBox hq.groundwork)
    (fun _ => congrArg Groundwork.consensusResult hq.groundwork)
  · exact ⟨hchange.closing_of_closing hb.live hc, hq.operatorSnapshot_eq hb hchange hc⟩
  · cases hopen : s.accounts.epochState.isClosing with
    | true => exact h.closing hopen
    | false =>
      rcases hchange.consensus_of_closing hc with hclosing | hreached
      · cases hopen.symm.trans hclosing
      · exact h.votes_ne_nil ha hb hm hopen hreached

/-- When the epoch's snapshot is created, nobody is enrolled. -/
lemma openSnapshot (h : Conducts s a) (hdne : s.status .epochSnapshot = .dne)
    (hnone : ∀ p, s.accounts.operatorSnapshot p = none) {ncn : Pubkey} {epoch slot operatorCount vaultCount : ℕ}
    {bump : UInt8} {fees : Fees} :
    Conducts { s.setSingle .epochSnapshot .initialized with
      accounts := { s.accounts with
        epochSnapshot := .new ncn epoch bump slot operatorCount vaultCount fees
        epochState := s.accounts.epochState.updateInitializeEpochSnapshot operatorCount } } a := by
  obtain ⟨hregister, hvotes⟩ := h.unopened hdne
  have hall : ∀ {P : Prop}, a.votes ≠ [] → P := fun hv => absurd hvotes hv
  have hno : ∀ {P : Prop} p t, s.accounts.operatorSnapshot p = some t → P := fun p t ht => by
    rw [hnone p] at ht
    cases ht
  constructor
  case unopened => exact fun _ => ⟨hregister, hvotes⟩
  case total => intro _; rw [Election.total, hregister]; rfl
  case registered => exact fun p t ht => hno p t ht
  case kept => intro _ x hx; rw [hregister] at hx; cases hx
  case finalized => exact fun hv => hall hv
  case settled => exact fun hv => hall hv
  case closing => exact h.closing
  case unboxed => exact h.unboxed
  case box => exact h.box
  case result => exact h.result

/-- The ballot box that gets its data is empty. -/
lemma fillBox (h : Conducts s a) (hdne : s.status .ballotBox = .dne)
    (hpending : s.accounts.consensusResult.isConsensusReached = false) {ncn : Pubkey} {epoch slot : ℕ}
    {bump : UInt8} :
    Conducts { s.setSingle .ballotBox .initialized with
      accounts := { s.accounts with
        ballotBox := .new ncn epoch bump slot
        epochState := s.accounts.epochState.updateReallocBallotBox } } a := by
  obtain ⟨hvotes, hout⟩ := h.unboxed hdne
  constructor
  case unopened => exact h.unopened
  case total => exact h.total
  case registered => exact h.registered
  case kept => exact h.kept
  case finalized => exact h.finalized
  case settled => exact h.settled
  case closing => exact h.closing
  case unboxed => exact fun _ => ⟨hvotes, hout⟩
  case box =>
    refine fun _ => ⟨.new .., ?_, ?_⟩
    · rw [hvotes, (Accounted.new ncn epoch bump slot).votes_eq]
      rfl
    · rw [hout]
      exact BallotBox.outcome_of_open rfl
  case result =>
    intro _ c
    rw [hout, show ConsensusResult.isConsensusReached _ = false from hpending]
    exact iff_of_false (fun h => by cases h) fun h => by cases h.1

/-- A snapshot is written for an operator that is not enrolled, and the operator is enrolled if the snapshot is
finalized. -/
lemma enrol (h : Conducts s a) (hne : s.status .epochSnapshot ≠ .dne) {p : Pubkey} {t : OperatorSnapshot}
    {slot : ℕ} {es : EpochSnapshot} {st : EpochState} (hp : p ∉ a.register.map (·.1))
    (hes : Epoch.CountsIf t.finalized slot t.validOperatorVaultDelegations t.stakeWeights
      s.accounts.epochSnapshot es)
    (hstatus : ∀ k, st.accountStatus.single k = s.status k)
    (hclosing : st.isClosing = s.accounts.epochState.isClosing)
    (hsettled : es.finalized = true → ∀ q u, (s.accounts.setOperatorSnapshot p t).operatorSnapshot q = some u →
      u.finalized = true) :
    ∃ a', Run (Election.Step Quorum) a a' ∧ Conducts { s with accounts :=
      { s.accounts.setOperatorSnapshot p t with epochSnapshot := es, epochState := st } } a' := by
  have hother : ∀ q u, q ≠ p → (s.accounts.setOperatorSnapshot p t).operatorSnapshot q = some u →
      s.accounts.operatorSnapshot q = some u := fun q u hq hu =>
    (Epoch.operatorSnapshot_setOperatorSnapshot_ne hq).symm.trans hu
  have hself : ∀ u, (s.accounts.setOperatorSnapshot p t).operatorSnapshot p = some u → u = t := fun u hu =>
    (Option.some.inj (Epoch.operatorSnapshot_setOperatorSnapshot.symm.trans hu)).symm
  have hthere : ∀ q, s.accounts.operatorSnapshot q ≠ none ∨ q = p →
      (s.accounts.setOperatorSnapshot p t).operatorSnapshot q ≠ none := by
    intro q hq
    by_cases hqp : q = p
    · subst hqp
      rw [Epoch.operatorSnapshot_setOperatorSnapshot]
      exact Option.some_ne_none t
    · rw [Epoch.operatorSnapshot_setOperatorSnapshot_ne hqp]
      exact hq.resolve_right hqp
  cases hfin : t.finalized with
  | false =>
    rw [hfin] at hes
    obtain rfl : es = s.accounts.epochSnapshot := hes
    refine ⟨a, .refl, ?_⟩
    constructor
    case unopened => exact fun hdne => absurd ((hstatus _).symm.trans hdne) hne
    case total => exact fun _ => h.total hne
    case registered =>
      intro q u hu
      by_cases hq : q = p
      · subst hq
        rw [hself u hu, hfin, if_neg Bool.false_ne_true]
        exact hp
      · exact h.registered q u (hother q u hq hu)
    case kept => exact fun hc x hx => hthere x.1 (.inl (h.kept (hclosing.symm.trans hc) x hx))
    case finalized => exact h.finalized
    case settled => exact fun hv => hsettled (h.finalized hv)
    case closing => exact fun hc => h.closing (hclosing.symm.trans hc)
    case unboxed => exact fun hdne => h.unboxed ((hstatus _).symm.trans hdne)
    case box => exact fun hb => h.box fun hdne => hb ((hstatus _).trans hdne)
    case result => exact fun hb => h.result fun hdne => hb ((hstatus _).trans hdne)
  | true =>
    rw [hfin] at hes
    have hopen := hes.spec.1 rfl
    have hvotes : a.votes = [] := by
      by_contra hv
      cases hopen.symm.trans (h.finalized hv)
    obtain ⟨_, _, _, hstake, _⟩ := EpochSnapshot.incrementOperatorRegistration_run_ok hes
    refine ⟨{ a with register := a.register ++ [(p, t.stakeWeights.stakeWeight)] },
      .single (.enrol p _ hp hvotes), ?_⟩
    constructor
    case unopened => exact fun hdne => absurd ((hstatus _).symm.trans hdne) hne
    case total =>
      intro _
      show es.stakeWeights.stakeWeight = ((a.register ++ [(p, t.stakeWeights.stakeWeight)]).map _).sum
      rw [hstake, h.total hne, List.map_append, List.sum_append]
      rfl
    case registered =>
      intro q u hu
      by_cases hq : q = p
      · subst hq
        rw [hself u hu, hfin, if_pos rfl]
        exact List.mem_append_right _ (List.mem_singleton.2 rfl)
      · have hold := h.registered q u (hother q u hq hu)
        split at hold
        · rename_i hu
          rw [if_pos hu]
          exact List.mem_append_left _ hold
        · rename_i hu
          rw [if_neg hu, List.map_append, List.mem_append]
          rintro (hmem | hmem)
          · exact hold hmem
          · exact hq (List.mem_singleton.1 hmem)
    case kept =>
      intro hc x hx
      refine hthere x.1 ?_
      rcases List.mem_append.1 hx with hx | hx
      · exact .inl (h.kept (hclosing.symm.trans hc) x hx)
      · exact .inr (congrArg Prod.fst (List.mem_singleton.1 hx))
    case finalized => exact fun hv => absurd hvotes hv
    case settled => exact fun hv => absurd hvotes hv
    case closing => exact fun hc => h.closing (hclosing.symm.trans hc)
    case unboxed => exact fun hdne => h.unboxed ((hstatus _).symm.trans hdne)
    case box => exact fun hb => h.box fun hdne => hb ((hstatus _).trans hdne)
    case result => exact fun hb => h.result fun hdne => hb ((hstatus _).trans hdne)

/-- A snapshot is created. -/
lemma createSnapshot (h : Conducts s a) (hb : s.book.Live cl.index) (hkept : Kept s)
    (hsnap : s.single .epochSnapshot = .initialized) (hclosing : s.accounts.epochState.isClosing = false)
    {clock : Clock} {bump : UInt8} {op : NcnOperator} {e : Epoch}
    (hrun : (Epoch.processInitializeOperatorSnapshot clock bump op).run s.accounts = .ok () e)
    (hprogress : Progressing cl { s with accounts := e }) :
    ∃ a', Run (Election.Step Quorum) a a' ∧ Conducts { s with accounts := e } a' := by
  obtain ⟨hnone, _, t, es, st, ht, hes, hst, rfl⟩ := Epoch.processInitializeOperatorSnapshot_run_ok hrun
  obtain ⟨_, hst⟩ := EpochState.updateReallocOperatorSnapshot_run_ok hst
  have hcs : st.isClosing = s.accounts.epochState.isClosing := by rw [hst]; rfl
  have hss : ∀ k, st.accountStatus.single k = s.status k := by intro k; rw [hst]; cases k <;> rfl
  obtain ⟨hreg, _, _, _, hcount, hvalid, _⟩ := OperatorSnapshot.initialized_ok ht
  -- only an operator without vaults is enrolled at once, without stake
  have hvaults : 0 < s.accounts.epochSnapshot.vaultCount := by
    have hk := hkept.snapshot hsnap
    exact hk.vaultCount ▸ hk.vaultCount_pos
  have hfin : t.finalized = !op.isActive := by
    rw [OperatorSnapshot.finalized, hcount, hreg.registered]
    cases op.isActive with
    | false => rfl
    | true => exact beq_eq_false_iff_ne.2 hvaults.ne
  rw [← hfin, ← hvalid, ← show t.stakeWeights = .default from StakeWeights.ext hreg.stake] at hes
  refine h.enrol (ne_dne hb hsnap) (fun hmem => ?_) hes hss hcs
    fun hall q u hu => hprogress.settled (hcs.trans hclosing) hsnap hall hu
  obtain ⟨x, hx, hxp⟩ := List.mem_map.1 hmem
  exact h.kept hclosing x hx (hxp ▸ hnone)

/-- A vault is registered. -/
lemma registerVault (h : Conducts s a) (hb : s.book.Live cl.index)
    (hsnap : s.single .epochSnapshot = .initialized) {clock : Clock} {operator : Pubkey} {v : VaultDelegation}
    {e : Epoch}
    (hrun : (Epoch.processSnapshotVaultOperatorDelegation cl.math clock operator v).run s.accounts = .ok () e)
    (hprogress : Progressing cl { s with accounts := e }) :
    ∃ a', Run (Election.Step Quorum) a a' ∧ Conducts { s with accounts := e } a' := by
  obtain ⟨t, t', sw, es, st, ht, _, hreg, hes, hst, rfl⟩ :=
    Epoch.processSnapshotVaultOperatorDelegation_run_ok hrun
  obtain ⟨_, hst⟩ := EpochState.updateSnapshotVaultOperatorDelegation_run_ok hst
  have hcs : st.isClosing = s.accounts.epochState.isClosing := by rw [hst]
  have hss : ∀ k, st.accountStatus.single k = s.status k := by intro k; rw [hst]
  have hopen := (OperatorSnapshot.incrementVaultOperatorDelegationRegistration_run_ok hreg).1
  have hmem : operator ∉ a.register.map (·.1) := by
    have hregistered := h.registered operator t ht
    rwa [hopen, if_neg Bool.false_ne_true] at hregistered
  refine h.enrol (ne_dne hb hsnap) hmem hes hss hcs fun hall q u hu => ?_
  cases hclosing : s.accounts.epochState.isClosing with
  | false => exact hprogress.settled (hcs.trans hclosing) hsnap hall hu
  | true => cases (h.settled (h.closing hclosing) operator t ht).symm.trans hopen

/-- A vote or a tie breaker has come. -/
lemma polled (h : Conducts s a) (a' : Election Pubkey UInt8) (hne : s.status .epochSnapshot ≠ .dne)
    (hfin : s.accounts.epochSnapshot.finalized = true)
    (hall : ∀ p t, s.accounts.operatorSnapshot p = some t → t.finalized = true)
    (hbox : s.status .ballotBox ≠ .dne) (hregister : a'.register = a.register) (hvotes : a'.votes ≠ [])
    {b : BallotBox} {r : ConsensusResult} {st : EpochState}
    (hstatus : st.accountStatus = s.accounts.epochState.accountStatus)
    (hclosing : st.isClosing = s.accounts.epochState.isClosing)
    (hballot : Latched b ∧ b.votes = a'.votes ∧ b.outcome = a'.outcome) (hresult : r.Announces a'.outcome) :
    Conducts { s with accounts := { s.accounts with ballotBox := b, consensusResult := r, epochState := st } }
      a' := by
  have hsame : ∀ k, st.accountStatus.single k = s.status k := by intro k; rw [hstatus]
  constructor
  case unopened => exact fun hdne => absurd ((hsame _).symm.trans hdne) hne
  case total => intro _; rw [Election.total, hregister]; exact h.total hne
  case registered => rw [hregister]; exact h.registered
  case kept => rw [hregister]; exact fun hc => h.kept (hclosing.symm.trans hc)
  case finalized => exact fun _ => hfin
  case settled => exact fun _ => hall
  case closing => exact fun _ => hvotes
  case unboxed => exact fun hdne => absurd ((hsame _).symm.trans hdne) hbox
  case box => exact fun _ => hballot
  case result => exact fun _ => hresult

/-- Once the epoch's snapshot is finalized, so are those of the operators. -/
lemma finalized_of_epoch (h : Conducts s a) (hprogress : Progressing cl s)
    (hsnap : s.single .epochSnapshot = .initialized) (hfin : s.accounts.epochSnapshot.finalized = true)
    (p : Pubkey) (t : OperatorSnapshot) (ht : s.accounts.operatorSnapshot p = some t) : t.finalized = true := by
  cases hclosing : s.accounts.epochState.isClosing with
  | false => exact hprogress.settled hclosing hsnap hfin ht
  | true => exact h.settled (h.closing hclosing) p t ht

/-- So the operators are enrolled, with the stake of their snapshots. -/
lemma enrolled (h : Conducts s a) (hprogress : Progressing cl s) (hsnap : s.single .epochSnapshot = .initialized)
    (hfin : s.accounts.epochSnapshot.finalized = true) {p : Pubkey} {t : OperatorSnapshot}
    (ht : s.accounts.operatorSnapshot p = some t) : (p, t.stakeWeights.stakeWeight) ∈ a.register := by
  have hmem := h.registered p t ht
  rwa [h.finalized_of_epoch hprogress hsnap hfin p t ht, if_pos rfl] at hmem

/-- A vote is cast, and may be the one that elects. -/
lemma vote (h : Conducts s a) (hm : cl.math.Documented) (hb : s.book.Live cl.index)
    (hprogress : Progressing cl s) (hbox : s.single .ballotBox = .initialized)
    (hsnap : s.single .epochSnapshot = .initialized) {clock : Clock}
    (hslot : clock.slot ≠ defaultConsensusReachedSlot) {operator voter operatorAdmin : Pubkey}
    {weatherStatus : UInt8} {e : Epoch}
    (hrun : (Epoch.processCastVote cl.math clock operator voter operatorAdmin weatherStatus).run s.accounts =
      .ok () e) (hrecords : e.RecordsVotes) :
    ∃ a', Run (Election.Step Quorum) a a' ∧ Conducts { s with accounts := e } a' := by
  obtain ⟨t, b₁, b₂, result, ht, hfin, _, hcast, htally, _, rfl⟩ := Epoch.processCastVote_run_ok hrun
  have hall := h.finalized_of_epoch hprogress hsnap hfin
  have hregistered := h.enrolled hprogress hsnap hfin ht
  obtain ⟨hl, hvotes, hout⟩ := h.box (ne_dne hb hbox)
  have hl₁ : Latched b₁ := hl.step hm ⟨.castVote operator _ _ _ _, trivial, hcast⟩
  have hl₂ : Latched b₂ :=
    hl₁.step hm ⟨.tallyVotes _ _, s.accounts.epochSnapshot.stakeWeights.lt, htally⟩
  obtain ⟨vs, ts, hacc⟩ := hl.accounted
  obtain ⟨hvotes₁, hnew, hout₁⟩ := hacc.votes_castVote hcast
  have htie := (BallotBox.vote_outcome hcast htally).1
  let a₁ : Election Pubkey UInt8 :=
    { a with votes := a.votes ++ [⟨operator, weatherStatus, t.stakeWeights.stakeWeight⟩] }
  have hvotes₁ : b₁.votes = a₁.votes := hvotes₁.trans (by rw [hvotes]; rfl)
  have hout₁ : b₁.outcome = a₁.outcome := hout₁.trans hout
  have hstep : Election.Step Quorum a a₁ :=
    .cast operator weatherStatus _ hregistered (hvotes ▸ hnew) (hout ▸ BallotBox.outcome_ne_appointed htie)
  have hsome : a₁.votes ≠ [] := List.append_ne_nil_of_right_ne_nil _ (List.cons_ne_nil _ _)
  have hannounced : result.Announces b₂.outcome := hrecords.announces hl₂
  rcases BallotBox.tallyVotes_run_ok htally with rfl | ⟨_, hopen, u, hu, hreached, hb₂⟩
  · exact ⟨a₁, .single hstep, h.polled a₁ (ne_dne hb hsnap) hfin hall (ne_dne hb hbox) rfl hsome rfl rfl
      ⟨hl₂, hvotes₁, hout₁⟩ (hout₁ ▸ hannounced)⟩
  · -- the tally elects the ballot with the most stake
    obtain ⟨vs₁, ts₁, hacc₁⟩ := hl₁.accounted
    have hlt := s.accounts.epochSnapshot.stakeWeights.lt
    have hvalid := hacc₁.winner_of_tally hm hlt (maxByKey_spec hu).1 hreached
    have hmem := hacc₁.mem_of_valid (maxByKey_spec hu).1 hvalid
    have hquorum : Quorum (a₁.weight u.ballot.weatherStatus) a₁.total := by
      have hweight : a₁.weight u.ballot.weatherStatus = u.stakeWeights.stakeWeight := by
        rw [← hacc₁.weight_eq hmem, hvotes₁]
        rfl
      rw [hweight, show a₁.total = _ from (h.total (ne_dne hb hsnap)).symm]
      exact Quorum.of_reached hm u.stakeWeights.lt hlt hreached
    have hbacked : a₁.Backed u.ballot.weatherStatus := by
      obtain ⟨v, hv, hvu⟩ := hacc₁.backed hmem
      exact ⟨v, hvotes₁ ▸ hv, hvu⟩
    have hundecided : a₁.outcome = .undecided := hout₁.symm.trans (BallotBox.outcome_of_open hopen)
    have hout₂ : b₂.outcome = .elected u.ballot.weatherStatus := by
      rw [hb₂]
      exact BallotBox.outcome_of_votes hvalid hslot
    let a₂ : Election Pubkey UInt8 := { a₁ with outcome := .elected u.ballot.weatherStatus }
    refine ⟨a₂, .tail (.single hstep) (.elect _ hundecided hbacked hquorum), ?_⟩
    rw [hout₂] at hannounced
    refine h.polled a₂ (ne_dne hb hsnap) hfin hall (ne_dne hb hbox) rfl hsome rfl rfl ⟨hl₂, ?_, hout₂⟩
      hannounced
    rw [hb₂]
    exact hvotes₁

/-- A tie breaker appoints. -/
lemma tieBreak (h : Conducts s a) (hm : cl.math.Documented) (hb : s.book.Live cl.index)
    (hbox : s.single .ballotBox = .initialized) {clock : Clock} {tieBreakerAdmin : Pubkey}
    {weatherStatus : UInt8} {e : Epoch}
    (hrun : (Epoch.processAdminSetTieBreaker clock tieBreakerAdmin weatherStatus).run s.accounts = .ok () e)
    (hrecords : e.RecordsVotes) :
    ∃ a', Run (Election.Step Quorum) a a' ∧ Conducts { s with accounts := e } a' := by
  obtain ⟨b, hset, rfl⟩ := Epoch.processAdminSetTieBreaker_run_ok hrun
  obtain ⟨hopen, hstatus, hhas, hb'⟩ := BallotBox.setTieBreakerBallot_run_ok hset
  rw [BallotBox.isConsensusReached, Bool.or_eq_false_iff, bne_eq_false_iff_eq] at hopen
  obtain ⟨hl, hvotes, hout⟩ := h.box (ne_dne hb hbox)
  have hl' : Latched b := hl.step hm ⟨.setTieBreakerBallot _ _ _, trivial, hset⟩
  obtain ⟨vs, ts, hacc⟩ := hl.accounted
  have hbacked : a.Backed weatherStatus := by
    rw [BallotBox.hasBallot, Table.any, List.any_eq_true] at hhas
    obtain ⟨t, ht, heq⟩ := hhas
    obtain ⟨v, hv, hvt⟩ := hacc.backed (hacc.mem_of_valid ht (Ballot.eq_iff.1 heq).1)
    exact ⟨v, hvotes ▸ hv, hvt.trans (Ballot.eq_iff.1 heq).2.2⟩
  have hsome : a.votes ≠ [] := by
    obtain ⟨v, hv, _⟩ := hbacked
    exact List.ne_nil_of_mem hv
  have hopened : s.status .epochSnapshot ≠ .dne := fun hdne => hsome (h.unopened hdne).2
  have hout' : b.outcome = .appointed weatherStatus := by
    have hvalid : (Ballot.new weatherStatus).isValid = true := decide_eq_true hstatus
    rw [hb']
    refine BallotBox.outcome_of_tieBreaker ?_
    rw [BallotBox.tieBreakerSet, hopen.1, hvalid, beq_self_eq_true, Bool.and_self]
  have hannounced : s.accounts.consensusResult.Announces b.outcome := hrecords.announces hl'
  rw [hout'] at hannounced
  let a₁ : Election Pubkey UInt8 := { a with outcome := .appointed weatherStatus }
  refine ⟨a₁, .single (.appoint _ (hout.symm.trans (BallotBox.outcome_of_open hopen.2)) hbacked), ?_⟩
  refine h.polled a₁ hopened (h.finalized hsome) (h.settled hsome) (ne_dne hb hbox) rfl hsome ?_ ?_
    ⟨hl', ?_, hout'⟩ hannounced
  · rw [EpochState.updateSetTieBreaker_eq]
  · rw [EpochState.updateSetTieBreaker_eq]
  · rw [hb']
    exact hvotes

/-- An epoch begins with an election in which nothing has happened. -/
lemma start (hnone : s.book.AllClosed) {ncn : Pubkey} {epoch : ℕ} {bump : UInt8} {slot : ℕ} :
    Conducts { s with
      epochState := true
      accounts := { s.accounts with
        epochState := (EpochState.initialized ncn epoch bump slot).updateReallocEpochState } } .new := by
  have hno : ∀ p, s.accounts.operatorSnapshot p = none := fun p => Option.map_eq_none_iff.1 (hnone.snapshot p)
  constructor
  case unopened => exact fun _ => ⟨rfl, rfl⟩
  case total => exact fun hne => absurd rfl hne
  case registered => intro p t ht; cases (hno p).symm.trans ht
  case kept => intro _ x hx; cases hx
  case finalized => exact fun hv => absurd rfl hv
  case settled => exact fun hv => absurd rfl hv
  case closing => exact fun hc => by cases hc
  case unboxed => exact fun _ => ⟨rfl, rfl⟩
  case box => exact fun hne => absurd rfl hne
  case result => exact fun hne => absurd rfl hne

/-- Every instruction on an epoch that goes on is a run of events of its election. -/
lemma exec {s₀ : Lifecycle} (h₀ : s₀.Untouched) (hm : cl.math.Documented)
    (hrun : Run (StepIn cl fun t => 0 < t ∧ t < u64Max) s₀ s) (hslot : ∀ t ∈ i.slot, 0 < t ∧ t < u64Max)
    (hi : (exec cl i).run s = .ok () s') (hlive : s.epochState = true)
    (ha : Election.Sound Quorum a) (h : Conducts s a) :
    ∃ a', Run (Election.Step Quorum) a a' ∧ Conducts s' a' := by
  have hsteps := hrun.mono fun _ _ => StepIn.step
  have hb := live_book h₀ hsteps hlive
  have hchange := Step.change ⟨i, hi⟩
  have hkept := Lifecycle.kept h₀ hsteps hlive
  have hprogress := progressing h₀ hsteps hlive
  have heffect := exec_effect hi
  have hprogress' := hprogress.effect hb hchange hkept heffect
  have hrecords' := (recordsVotes h₀ hrun hlive).effect hlive hslot heffect
  -- what was not there when the epoch began to close is not created
  have hopen : ∀ p, s.accounts.operatorSnapshot p = none → s'.accounts.operatorSnapshot p ≠ none →
      s.accounts.epochState.isClosing = false := by
    intro p hp hp'
    by_contra hclosing
    have hnone := exec_noneCreated hi fun _ => Bool.not_eq_false _ ▸ hclosing
    exact hp' (Option.map_eq_none_iff.1 (hnone.snapshot p (Option.map_eq_none_iff.2 hp)))
  cases heffect with
  | quiet hq =>
    have hmirrored := mirrored h₀ (hrun.mono fun _ _ ⟨i, hslot, hi⟩ => ⟨i, fun t ht => (hslot t ht).2, hi⟩) hlive
    exact ⟨a, .refl, h.quiet ha hb hmirrored hchange hq⟩
  | start clock bump hdead => cases hlive.symm.trans hdead
  | allocateBox bump habsent hs' =>
    have hdne : s.status .ballotBox = .dne := by
      have ht := hb.single .ballotBox
      rw [show s.book.single _ = _ from habsent] at ht
      cases hclosing : s.book.closing with
      | false => rw [hclosing] at ht; exact ht.of_absent
      | true =>
        have hgone := Book.Sealed.single_absent (k := .ballotBox) (.inr ⟨nofun, hb.live, hclosing⟩) hchange
          habsent
        rw [hs'] at hgone
        cases (eq_of_setSingle .ballotBox (.allocated maxReallocBytes) s rfl).symm.trans hgone
    subst hs'
    exact ⟨a, .refl, h.carry .rfl .rfl rfl (fun _ _ => id) (fun hc => ⟨hc, rfl⟩) h.closing rfl
      fun hne => absurd hdne hne⟩
  | fillTable clock bump vaultList stMintList w dataLen _ _ _ hs' =>
    subst hs'
    exact ⟨a, .refl, h.carry .rfl .rfl rfl (fun _ _ => id) (fun hc => ⟨hc, rfl⟩) h.closing rfl fun _ => rfl⟩
  | setWeights w _ _ _ hs' =>
    subst hs'
    exact ⟨a, .refl, h.carry .rfl .rfl rfl (fun _ _ => id) (fun hc => ⟨hc, rfl⟩) h.closing rfl fun _ => rfl⟩
  | openSnapshot clock bump n _ hclosing habsent _ _ _ hs' =>
    have ht := hb.single .epochSnapshot
    rw [show s.book.single _ = _ from habsent, show s.book.closing = _ from hclosing] at ht
    have hdne := ht.of_absent
    subst hs'
    exact ⟨a, .refl, h.openSnapshot hdne (hkept.unopened hdne).2⟩
  | createSnapshot clock bump op e _ hsnap _ hrun' hs' =>
    have hclosing : s.accounts.epochState.isClosing = false := by
      obtain ⟨hnone, _, t, es, st, _, _, _, he⟩ := Epoch.processInitializeOperatorSnapshot_run_ok hrun'
      refine hopen op.operator hnone ?_
      have hsome : s'.accounts.operatorSnapshot op.operator = some t := by
        rw [hs', he]
        exact Epoch.operatorSnapshot_setOperatorSnapshot
      rw [hsome]
      exact Option.some_ne_none t
    subst hs'
    exact h.createSnapshot hb hkept hsnap hclosing hrun' hprogress'
  | registerVault clock operator v e _ hsnap hrun' hs' =>
    subst hs'
    exact h.registerVault hb hsnap hrun' hprogress'
  | fillBox clock bump dataLen _ halloc hs' =>
    have ht := hb.single .ballotBox
    rw [show s.book.single _ = _ from halloc] at ht
    subst hs'
    exact ⟨a, .refl, h.fillBox ht.of_allocated ((recordsVotes h₀ hrun hlive).pending dataLen halloc)⟩
  | vote clock operator voter operatorAdmin weatherStatus e hi' _ hbox hsnap hrun' hs' =>
    subst hs'
    exact h.vote hm hb hprogress hbox hsnap (hslot clock.slot (hi' ▸ rfl)).2.ne hrun' (hrecords'.box hbox)
  | tieBreak clock tieBreakerAdmin weatherStatus e _ _ hbox hrun' hs' =>
    subst hs'
    exact h.tieBreak hm hb hbox hrun' (hrecords'.box hbox)

/-- What is announced when the epoch ends. -/
lemma finish (h : Conducts s a) (hi : (Lifecycle.exec cl i).run s = .ok () s') (hlive : s.epochState = true)
    (hdead : s'.epochState = false) : s'.accounts.consensusResult.Announces a.outcome := by
  have hmarked := (Step.change ⟨i, hi⟩).allMarked hlive hdead
  have hstatus : s.status .ballotBox = .closed := hmarked.status .ballotBox
  have hsame : s'.accounts.consensusResult = s.accounts.consensusResult := by
    cases exec_effect hi with
    | quiet hq => exact congrArg Groundwork.consensusResult hq.groundwork
    | start clock bump hfalse => cases hlive.symm.trans hfalse
    | allocateBox bump _ hs' => subst hs'; cases hlive.symm.trans hdead
    | _ => simp_all
  rw [hsame]
  exact h.result (by rw [hstatus]; decide)

end Conducts

/-- The epoch is in the state `a` of its election: before it has begun, while it goes on, and when it is over. -/
structure Follows (s : Lifecycle) (a : Election Pubkey UInt8) : Prop where
  before : s.epochState = false → s.epochMarker = false → a = .new
  during : s.epochState = true → Conducts s a
  after : s.epochMarker = true → s.accounts.consensusResult.Announces a.outcome

/-- Every instruction is a run of events of the election. -/
lemma Follows.step {s₀ : Lifecycle} (h₀ : s₀.Untouched) (hm : cl.math.Documented)
    (hrun : Run (StepIn cl fun t => 0 < t ∧ t < u64Max) s₀ s)
    (hstep : StepIn cl (fun t => 0 < t ∧ t < u64Max) s s') (ha : Election.Sound Quorum a) (h : Follows s a) :
    ∃ a', Run (Election.Step Quorum) a a' ∧ Follows s' a' := by
  have hruns := Run.mono (hrun.tail hstep) fun _ _ => StepIn.step
  have hchange := hstep.step.change
  obtain ⟨i, hslot, hi⟩ := hstep
  have hafter : s'.epochState = true → s'.epochMarker = true → False := by
    intro hlive' hmarker'
    cases hmarker'.symm.trans (live_book h₀ hruns hlive').marker
  cases truthful h₀ (hrun.mono fun _ _ => StepIn.step) with
  | before hdead hmarker hnone =>
    cases hlive' : s'.epochState with
    | true =>
      obtain ⟨_, clock, bump, rfl⟩ := (exec_effect hi).start_of_dead hdead hlive'
      refine ⟨a, .refl, fun hfalse => ?_, fun _ => ?_, fun hmarker' => (hafter hlive' hmarker').elim⟩
      · cases hlive'.symm.trans hfalse
      · rw [h.before hdead hmarker]
        exact .start hnone
    | false =>
      refine ⟨a, .refl, fun _ _ => h.before hdead hmarker, fun hfalse => ?_, fun hmarker' => ?_⟩
      · cases hlive'.symm.trans hfalse
      · cases hmarker'.symm.trans (hchange.marker_of_dead hdead hmarker)
  | during hb =>
    cases hlive' : s'.epochState with
    | true =>
      obtain ⟨a', hrun', h'⟩ := (h.during hb.live).exec h₀ hm hrun hslot hi hb.live ha
      refine ⟨a', hrun', fun hfalse => ?_, fun _ => h', fun hmarker' => (hafter hlive' hmarker').elim⟩
      cases hlive'.symm.trans hfalse
    | false =>
      refine ⟨a, .refl, fun _ hmarker' => ?_, fun hfalse => ?_, fun _ => (h.during hb.live).finish hi hb.live hlive'⟩
      · rcases (hchange.begun (.inl hb.live)).2 with hfalse | hmarker
        · cases hlive'.symm.trans hfalse
        · cases hmarker'.symm.trans hmarker
      · cases hlive'.symm.trans hfalse
  | after hdead hmarker =>
    obtain ⟨config, arrived, arrivedOf, rfl⟩ := exec_frozen hi hdead hmarker
    refine ⟨a, .refl, fun _ hfalse => ?_, fun hfalse => ?_, h.after⟩
    · cases hmarker.symm.trans hfalse
    · cases hdead.symm.trans hfalse

/-- Before the epoch nothing has happened. -/
lemma Untouched.follows {s₀ : Lifecycle} (h₀ : s₀.Untouched) : Follows s₀ .new := by
  refine ⟨fun _ _ => rfl, fun hlive => ?_, fun hmarker => ?_⟩
  · cases h₀.epochState.symm.trans hlive
  · cases h₀.epochMarker.symm.trans hmarker

/-- Every run of instructions is a run of events. -/
lemma Follows.run {s₀ : Lifecycle} (h₀ : s₀.Untouched) (hm : cl.math.Documented)
    (h : Run (StepIn cl fun t => 0 < t ∧ t < u64Max) s₀ s)
    (h' : Run (StepIn cl fun t => 0 < t ∧ t < u64Max) s s') (hnew : Run (Election.Step Quorum) .new a)
    (hf : Follows s a) : ∃ a', Run (Election.Step Quorum) a a' ∧ Follows s' a' := by
  -- the relation along which the run is simulated
  let R (s : Lifecycle) (a : Election Pubkey UInt8) : Prop :=
    Run (StepIn cl fun t => 0 < t ∧ t < u64Max) s₀ s ∧ Run (Election.Step Quorum) .new a ∧ Follows s a
  have hR : ∀ s s' a, StepIn cl (fun t => 0 < t ∧ t < u64Max) s s' → R s a →
      ∃ a', Run (Election.Step Quorum) a a' ∧ R s' a' := by
    rintro s s' a hstep ⟨hrun, hnew, hf⟩
    obtain ⟨a', hrun', hf'⟩ := hf.step h₀ hm hrun hstep (Election.sound Quorum.monotone hnew)
    exact ⟨a', hrun', hrun.tail hstep, hnew.trans hrun', hf'⟩
  obtain ⟨a', hrun', ha'⟩ := h'.simulates (R := R) ⟨h, hnew, hf⟩ hR
  exact ⟨a', hrun', ha'.2.2⟩

/-- Whatever instructions are run, and in whatever order, an epoch conducts an election: what the first
instructions do are events of it, and what later ones do are further events. -/
theorem conducts_election {s₀ : Lifecycle} (h₀ : s₀.Untouched) (hm : cl.math.Documented)
    (h : Run (StepIn cl fun t => 0 < t ∧ t < u64Max) s₀ s)
    (h' : Run (StepIn cl fun t => 0 < t ∧ t < u64Max) s s') :
    ∃ a a', Run (Election.Step Quorum) .new a ∧ Follows s a ∧ Run (Election.Step Quorum) a a' ∧ Follows s' a' := by
  obtain ⟨a, hnew, hf⟩ := h₀.follows.run h₀ hm .refl h .refl
  obtain ⟨a', hrun, hf'⟩ := hf.run h₀ hm h h' hnew
  exact ⟨a, a', hnew, hf, hrun, hf'⟩

/-- The one vote of the small epoch, and the closing of its accounts. -/
theorem conducts_election_small :
    ∃ s s' : Lifecycle, s.accounts.ballotBox.operatorsVoted = 1 ∧ s'.single .ballotBox = .absent ∧
      ∃ a a', Run (Election.Step Quorum) .new a ∧ Follows s a ∧ Run (Election.Step Quorum) a a' ∧
        Follows s' a' := by
  let x := ((smallRun false).take 12).forM (Lifecycle.exec smallCluster)
  let y := ((smallRun false).drop 12).forM (Lifecycle.exec smallCluster)
  let s := commit x small
  let s' := commit y s
  have hx : x.run small = .ok () s := Succeeds.run_eq (by decide +kernel)
  have hy : y.run s = .ok () s' := Succeeds.run_eq (by decide +kernel)
  have hvoted : s.accounts.ballotBox.operatorsVoted = 1 ∧ s'.single .ballotBox = .absent := by decide +kernel
  have hslots : ∀ i ∈ smallRun false, ∀ t ∈ i.slot, 0 < t ∧ t < u64Max := by decide +kernel
  exact ⟨s, s', hvoted.1, hvoted.2, conducts_election small_untouched splMath_documented
    (run_stepIn (fun i hi => hslots i (List.mem_of_mem_take hi)) hx)
    (run_stepIn (fun i hi => hslots i (List.mem_of_mem_drop hi)) hy)⟩

/-- What the consensus result announces of an epoch that goes on, it announces for good. -/
lemma result_kept {s₀ : Lifecycle} (h₀ : s₀.Untouched) (hm : cl.math.Documented)
    (h : Run (StepIn cl fun t => 0 < t ∧ t < u64Max) s₀ s) (hlive : s.epochState = true)
    (hbox : s.single .ballotBox = .initialized) {c : UInt8}
    (hreached : s.accounts.consensusResult.isConsensusReached = true ∧
      s.accounts.consensusResult.weatherStatus = c)
    (h' : Run (StepIn cl fun t => 0 < t ∧ t < u64Max) s s') :
    s'.accounts.consensusResult.isConsensusReached = true ∧ s'.accounts.consensusResult.weatherStatus = c := by
  obtain ⟨a, hnew, hf⟩ := h₀.follows.run h₀ hm .refl h .refl
  obtain ⟨a', hrun, hf'⟩ := hf.run h₀ hm h h' hnew
  have hmarked := ne_dne (live_book h₀ (h.mono fun _ _ => StepIn.step) hlive) hbox
  have helected : a.outcome = .elected c := ((hf.during hlive).result hmarked c).2 hreached
  have helected' : a'.outcome = .elected c :=
    (Election.decided_of_run hrun (by rw [helected]; exact nofun)).trans helected
  have hvoted : a'.votes ≠ [] := by
    obtain ⟨⟨v, hv, _⟩, _⟩ := (Election.sound Quorum.monotone hnew).elected c helected
    exact List.ne_nil_of_mem ((Election.votes_of_run hrun).subset hv)
  have hannounced : s'.accounts.consensusResult.Announces a'.outcome := by
    cases hlive' : s'.epochState with
    | true => exact (hf'.during hlive').result fun hdne => hvoted ((hf'.during hlive').unboxed hdne).1
    | false =>
      cases hmarker' : s'.epochMarker with
      | true => exact hf'.after hmarker'
      | false =>
        rw [hf'.before hlive' hmarker'] at hvoted
        exact absurd rfl hvoted
  exact (hannounced c).1 helected'

end Lifecycle
end NcnProgram
