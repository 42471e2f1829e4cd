import NcnProgram.Closing.Book
import NcnProgram.Lib.Run
import NcnProgram.Snapshot.Delegations

/-!
# Every instruction is a change of the book

`Lifecycle.book` is the book of an epoch, and each successful instruction changes it in one of the ways of
`Book.Change`; so in every state that instructions can reach from nothing the book is truthful.
-/

namespace NcnProgram
open Lib NCNProgramError EpochAccountStatus

/-! ## The router's index -/

namespace OperatorVaultRewardRouter

/-- The rewards of a router are apart from its operator's index. -/
lemma apart_ncnOperatorIndex : Apart (·.ncnOperatorIndex) := fun _ _ _ _ _ _ => rfl

/-- Routing its pool leaves the index. -/
lemma leaves_routeRewardPool (math : PreciseMath) (s : OperatorSnapshot) (maxIterations : ℕ) :
    Leaves (·.ncnOperatorIndex) (routeRewardPool math s maxIterations) := by
  refine .bind .get fun self => ?_
  cases self.resumeRoutingState self.rewardPool with | mk rewardsToProcess startingIndex => ?_
  dsimp only
  split
  · exact .pure _
  · have hsave : ∀ i r, (saveRoutingState rewardsToProcess i r).ncnOperatorIndex = r.ncnOperatorIndex :=
      fun _ _ => rfl
    refine .bind (.chunked (leaves_routeVault apart_ncnOperatorIndex math _ _) hsave ..) fun finished => ?_
    split
    · exact .bind (.modify fun _ => rfl) fun _ => .bind .get fun _ =>
        .bind (leaves_routeFromRewardPool apart_ncnOperatorIndex _) fun _ => leaves_credit fun _ _ => rfl
    · exact .pure _

end OperatorVaultRewardRouter

/-! ## The epoch state -/

namespace EpochState

/-- What the book shows of an epoch state. -/
structure Same (s s' : EpochState) : Prop where
  ncn : s'.ncn = s.ncn
  epoch : s'.epoch = s.epoch
  accountStatus : s'.accountStatus = s.accountStatus
  isClosing : s'.isClosing = s.isClosing
  slotConsensusReached : s'.slotConsensusReached = s.slotConsensusReached

variable {i : ℕ} {s s' : EpochState} {u : Unit}

/-- Registering a vault moves no account. -/
lemma updateSnapshotVaultOperatorDelegation_same {finalized : Bool}
    (h : (updateSnapshotVaultOperatorDelegation i finalized).run s = .ok u s') : Same s s' := by
  obtain ⟨_, rfl⟩ := updateSnapshotVaultOperatorDelegation_run_ok h
  exact ⟨rfl, rfl, rfl, rfl, rfl⟩

/-- Neither does routing an operator's rewards. -/
lemma updateRouteOperatorVaultRewards_same {totalRewards : ℕ}
    (h : (updateRouteOperatorVaultRewards i totalRewards).run s = .ok u s') : Same s s' := by
  obtain ⟨_, _, hg, h⟩ := run_bind_ok.1 h
  obtain ⟨_, rfl⟩ := run_ensure_ok.1 hg
  cases h
  exact ⟨rfl, rfl, rfl, rfl, rfl⟩

/-- Neither does paying them. -/
lemma updateDistributeOperatorVaultRouteRewards_same {rewards : ℕ}
    (h : (updateDistributeOperatorVaultRouteRewards i rewards).run s = .ok u s') : Same s s' := by
  obtain ⟨_, _, hg, h⟩ := run_bind_ok.1 h
  cases hg
  obtain ⟨_, _, hg, h⟩ := run_bind_ok.1 h
  obtain ⟨_, rfl⟩ := run_ensure_ok.1 hg
  cases h
  exact ⟨rfl, rfl, rfl, rfl, rfl⟩

/-- Creating an operator's snapshot marks it. -/
lemma updateReallocOperatorSnapshot_same {isActive : Bool}
    (h : (updateReallocOperatorSnapshot i isActive).run s = .ok u s') :
    i < maxOperators ∧ Same (s.onStatus fun a => { a with
      operatorSnapshot := a.operatorSnapshot.set i .created }) s' := by
  obtain ⟨hlt, rfl⟩ := updateReallocOperatorSnapshot_run_ok h
  exact ⟨hlt, rfl, rfl, rfl, rfl, rfl⟩

/-- A state with consensus keeps it through votes. -/
lemma isConsensusReached_updateCastVote {operatorsVoted slot : ℕ} {reached : Bool}
    (h : s.isConsensusReached = true) : (s.updateCastVote operatorsVoted reached slot).isConsensusReached =
      true := by
  have hslot : (s.updateCastVote operatorsVoted reached slot).slotConsensusReached =
      s.slotConsensusReached := by simp [updateCastVote, h]
  rw [isConsensusReached, hslot]
  exact h

/-- And through tie breakers. -/
lemma isConsensusReached_updateSetTieBreaker {slot : ℕ} {reached : Bool}
    (h : s.isConsensusReached = true) : (s.updateSetTieBreaker reached slot).isConsensusReached = true := by
  rw [updateSetTieBreaker, h, Bool.not_true, Bool.and_false, if_neg (by decide)]
  exact h

end EpochState

namespace Lifecycle
variable {cl : Cluster} {s s' : Lifecycle} {u : Unit}

/-- The book of an epoch. -/
def book (s : Lifecycle) : Book where
  live := s.epochState
  named := decide (s.accounts.epochState.ncn = s.accounts.config.ncn ∧ s.accounts.epochState.epoch = s.epoch)
  marker := s.epochMarker
  closing := s.accounts.epochState.isClosing
  consensus := s.accounts.epochState.isConsensusReached
  voted := s.accounts.ballotBox.ballotTallies.any (·.isValid)
  single := s.single
  status := s.accounts.epochState.accountStatus.single
  snapshot := Option.map (·.ncnOperatorIndex) ∘ s.accounts.operatorSnapshot
  snapshotStatus := s.accounts.epochState.accountStatus.operatorSnapshot
  router := Option.map (·.ncnOperatorIndex) ∘ s.accounts.operatorVaultRewardRouter
  routerStatus := s.accounts.epochState.accountStatus.operatorVaultRewardRouter

/-- An epoch state that shows the same gives the same book. -/
lemma book_same {st : EpochState} (h : EpochState.Same s.accounts.epochState st) :
    book { s with accounts := { s.accounts with epochState := st } } = s.book := by
  have hc : st.isConsensusReached = s.accounts.epochState.isConsensusReached := by
    rw [EpochState.isConsensusReached, h.slotConsensusReached]; rfl
  simp only [book, h.ncn, h.epoch, h.accountStatus, h.isClosing, hc]

/-- Writing a snapshot with the index it had gives the same book. -/
lemma book_setOperatorSnapshot {p : Pubkey} {t t' : OperatorSnapshot}
    (hp : s.accounts.operatorSnapshot p = some t) (ht : t'.ncnOperatorIndex = t.ncnOperatorIndex) :
    book { s with accounts := s.accounts.setOperatorSnapshot p t' } = s.book := by
  refine Book.ext rfl rfl rfl rfl rfl rfl rfl rfl ?_ rfl rfl rfl
  show Option.map _ ∘ Function.update _ _ _ = Option.map _ ∘ _
  rw [Function.comp_update, Function.update_eq_self_iff, Function.comp_apply, hp, Option.map_some, ht,
    Option.map_some]

/-- Writing a router with the index it had gives the same book. -/
lemma book_setOperatorVaultRewardRouter {p : Pubkey} {r r' : OperatorVaultRewardRouter}
    (hp : s.accounts.operatorVaultRewardRouter p = some r) (hr : r'.ncnOperatorIndex = r.ncnOperatorIndex) :
    book { s with accounts := s.accounts.setOperatorVaultRewardRouter p r' } = s.book := by
  refine Book.ext rfl rfl rfl rfl rfl rfl rfl rfl rfl rfl ?_ rfl
  show Option.map _ ∘ Function.update _ _ _ = Option.map _ ∘ _
  rw [Function.comp_update, Function.update_eq_self_iff, Function.comp_apply, hp, Option.map_some, hr,
    Option.map_some]

/-! ## Loading -/

/-- The epoch state is loaded exactly if it is there. -/
lemma loadEpochState_ok : loadEpochState.run s = .ok u s' ↔ s.epochState = true ∧ s = s' := by
  rw [loadEpochState, run_bind_ok]
  constructor
  · rintro ⟨_, _, hg, h⟩
    cases hg
    exact run_ensure_ok.1 h
  · exact fun h => ⟨s, s, rfl, run_ensure_ok.2 h⟩

/-- The marker is found missing exactly if it is. -/
lemma checkDne_ok : checkDne.run s = .ok u s' ↔ s.epochMarker = false ∧ s = s' := by
  rw [checkDne, run_bind_ok]
  constructor
  · rintro ⟨_, _, hg, h⟩
    cases hg
    exact run_ensure_ok.1 h
  · exact fun h => ⟨s, s, rfl, run_ensure_ok.2 h⟩

/-- An account that can be created is not there. -/
lemma loadSystemAccount_ok {k : Single} (h : (loadSystemAccount k).run s = .ok u s') :
    s.single k = .absent ∧ s = s' := by
  obtain ⟨_, _, hg, h⟩ := run_bind_ok.1 h
  cases hg
  exact run_ensure_ok.1 h

/-- An epoch that is not closing is there. -/
lemma loadAndCheckIsClosing_ok (h : loadAndCheckIsClosing.run s = .ok u s') :
    s.epochState = true ∧ s.accounts.epochState.isClosing = false ∧ s = s' := by
  obtain ⟨_, _, hg, h⟩ := run_bind_ok.1 h
  cases hg
  obtain ⟨_, _, hg, h⟩ := run_bind_ok.1 h
  obtain ⟨hlive, rfl⟩ := run_ensure_ok.1 hg
  obtain ⟨hclosing, rfl⟩ := run_ensure_ok.1 h
  exact ⟨hlive, hclosing, rfl⟩

/-- An account that is loaded is there with its data. -/
lemma load_ok {k : Single} (h : (load k).run s = .ok u s') : s.single k = .initialized ∧ s = s' := by
  obtain ⟨_, _, hg, h⟩ := run_bind_ok.1 h
  cases hg
  cases hk : s.single k with
  | absent => rw [hk] at h; cases h
  | allocated dataLen => rw [hk] at h; cases h
  | initialized => rw [hk] at h; cases h; exact ⟨rfl, rfl⟩

/-- So are several. -/
lemma forM_load_ok {ks : List Single} (h : (ks.forM load).run s = .ok u s') :
    (∀ k ∈ ks, s.single k = .initialized) ∧ s = s' := by
  induction ks with
  | nil => cases h; exact ⟨by simp, rfl⟩
  | cons k ks ih =>
    obtain ⟨_, _, hk, h⟩ := run_bind_ok.1 h
    obtain ⟨hinit, rfl⟩ := load_ok hk
    obtain ⟨hrest, rfl⟩ := ih h
    exact ⟨List.forall_mem_cons.2 ⟨hinit, hrest⟩, rfl⟩

/-- An instruction on loaded accounts finds them there, and changes their data only. -/
lemma loaded_ok {ks : List Single} {x : Mut Epoch Unit} (h : (loaded ks x).run s = .ok u s') :
    s.epochState = true ∧ (∀ k ∈ ks, s.single k = .initialized) ∧
      ∃ e, x.run s.accounts = .ok u e ∧ s' = { s with accounts := e } := by
  obtain ⟨_, _, hg, h⟩ := run_bind_ok.1 h
  obtain ⟨hlive, rfl⟩ := loadEpochState_ok.1 hg
  obtain ⟨_, _, hg, h⟩ := run_bind_ok.1 h
  obtain ⟨hinit, rfl⟩ := forM_load_ok hg
  exact ⟨hlive, hinit, run_zoom_ok.1 h⟩

/-! ## Instructions on accounts that are there -/

/-- Registering a vault does not show in the book. -/
lemma book_snapshotVaultOperatorDelegation {clock : Clock} {operator : Pubkey} {v : VaultDelegation}
    {e : Epoch}
    (h : (Epoch.processSnapshotVaultOperatorDelegation cl.math clock operator v).run s.accounts = .ok () e) :
    book { s with accounts := e } = s.book := by
  obtain ⟨t, t', sw, es, st, ht, _, hrun, _, hst, rfl⟩ :=
    Epoch.processSnapshotVaultOperatorDelegation_run_ok h
  have hindex : t'.ncnOperatorIndex = t.ncnOperatorIndex :=
    (OperatorSnapshot.Step.same ⟨clock.slot, v.vault, v.vaultIndex, sw, v.vault_ne, hrun⟩).2
  have hsame := EpochState.updateSnapshotVaultOperatorDelegation_same hst
  calc book { s with accounts := { s.accounts.setOperatorSnapshot operator t' with
          epochSnapshot := es, epochState := st } }
      = book { s with accounts := s.accounts.setOperatorSnapshot operator t' } :=
        book_same hsame (s := { s with accounts := s.accounts.setOperatorSnapshot operator t' })
    _ = s.book := book_setOperatorSnapshot ht hindex

/-- A method of a router that leaves the index alone does not show in the book. -/
lemma book_onOperatorVaultRewardRouter {α : Type} {operator : Pubkey} {x : Mut OperatorVaultRewardRouter α}
    {a : α} {e : Epoch} (hx : Leaves (·.ncnOperatorIndex) x)
    (h : (Epoch.onOperatorVaultRewardRouter operator x).run s.accounts = .ok a e) :
    book { s with accounts := e } = s.book := by
  obtain ⟨_, _, hg, h⟩ := run_bind_ok.1 h
  cases hg
  obtain ⟨r, _, hg, h⟩ := run_bind_ok.1 h
  obtain ⟨hr, rfl⟩ := run_okOr_ok.1 hg
  obtain ⟨r', hrun, rfl⟩ := run_zoom_ok.1 h
  exact book_setOperatorVaultRewardRouter hr (hx hrun)

/-- Routing an operator's rewards does not show in the book. -/
lemma book_routeOperatorVaultRewards {operator : Pubkey} {maxIterations : ℕ} {e : Epoch}
    (h : (Epoch.processRouteOperatorVaultRewards cl.math cl.minRent operator maxIterations).run s.accounts =
      .ok () e) :
    book { s with accounts := e } = s.book := by
  obtain ⟨_, _, hg, h⟩ := run_bind_ok.1 h
  cases hg
  obtain ⟨snapshot, _, hg, h⟩ := run_bind_ok.1 h
  obtain ⟨_, rfl⟩ := run_okOr_ok.1 hg
  obtain ⟨router, _, hg, h⟩ := run_bind_ok.1 h
  obtain ⟨_, rfl⟩ := run_okOr_ok.1 hg
  -- the last two steps, whatever the accounts are by then
  have hlast : ∀ e₁ : Epoch, (do
      Epoch.onOperatorVaultRewardRouter operator
        (OperatorVaultRewardRouter.routeRewardPool cl.math snapshot maxIterations)
      let router ← okOr ((← get).operatorVaultRewardRouter operator) ProgramError.invalidAccountOwner
      Epoch.onEpochState (EpochState.updateRouteOperatorVaultRewards snapshot.ncnOperatorIndex
        router.totalRewards) : Mut Epoch Unit).run e₁ = .ok () e →
      book { s with accounts := e } = book { s with accounts := e₁ } := by
    intro e₁ h
    obtain ⟨_, e₂, h₁, h⟩ := run_bind_ok.1 h
    obtain ⟨_, _, hg, h⟩ := run_bind_ok.1 h
    cases hg
    obtain ⟨router', _, hg, h⟩ := run_bind_ok.1 h
    obtain ⟨_, rfl⟩ := run_okOr_ok.1 hg
    obtain ⟨st, hst, rfl⟩ := run_zoom_ok.1 h
    calc book { s with accounts := { e₂ with epochState := st } }
        = book { s with accounts := e₂ } :=
          book_same (EpochState.updateRouteOperatorVaultRewards_same hst) (s := { s with accounts := e₂ })
      _ = book { s with accounts := e₁ } :=
          book_onOperatorVaultRewardRouter (OperatorVaultRewardRouter.leaves_routeRewardPool ..) h₁
            (s := { s with accounts := e₁ })
  split at h
  · obtain ⟨_, e₁, h₁, h⟩ := run_bind_ok.1 h
    obtain ⟨_, e₂, h₂, h⟩ := run_bind_ok.1 h
    calc book { s with accounts := e }
        = book { s with accounts := e₂ } := hlast e₂ h
      _ = book { s with accounts := e₁ } :=
          book_onOperatorVaultRewardRouter
            (OperatorVaultRewardRouter.leaves_routeOperatorRewards
              OperatorVaultRewardRouter.apart_ncnOperatorIndex ..) h₂ (s := { s with accounts := e₁ })
      _ = s.book :=
          book_onOperatorVaultRewardRouter
            (OperatorVaultRewardRouter.leaves_routeIncomingRewards
              OperatorVaultRewardRouter.apart_ncnOperatorIndex ..) h₁
  · exact hlast s.accounts h

/-- Neither does a payout from the NCN reward receiver. -/
lemma book_distributeNcn {distribute : Mut NCNRewardRouter ℕ} {count : ℕ → EpochState → EpochState}
    {rewards : ℕ} {e : Epoch} (h : (Epoch.distributeNcn distribute count).run s.accounts = .ok rewards e)
    (hcount : ∀ n st, EpochState.Same st (count n st)) :
    book { s with accounts := e } = s.book := by
  obtain ⟨_, _, hg, h⟩ := run_bind_ok.1 h
  cases hg
  obtain ⟨_, _, hg, h⟩ := run_bind_ok.1 h
  obtain ⟨_, rfl⟩ := run_ensure_ok.1 hg
  obtain ⟨paid, e₁, hpay, h⟩ := run_bind_ok.1 h
  obtain ⟨_, _, hg, h⟩ := run_bind_ok.1 h
  cases hg
  cases h
  obtain ⟨_, _, hg, hpay⟩ := run_bind_ok.1 hpay
  obtain ⟨r, _, rfl⟩ := run_zoom_ok.1 hg
  obtain ⟨_, _, hg, hpay⟩ := run_bind_ok.1 hpay
  cases hg
  obtain ⟨left, _, hg, hpay⟩ := run_bind_ok.1 hpay
  obtain ⟨_, rfl⟩ := run_okOr_ok.1 hg
  cases hpay
  exact book_same (hcount rewards s.accounts.epochState)

/-- Nor a payout from an operator's reward receiver. -/
lemma book_distributeOperatorVault {operator : Pubkey} {distribute : Mut OperatorVaultRewardRouter ℕ}
    {e : Epoch} (hleaves : Leaves (·.ncnOperatorIndex) distribute)
    (h : (Epoch.distributeOperatorVault operator distribute).run s.accounts = .ok u e) :
    book { s with accounts := e } = s.book := by
  obtain ⟨_, _, hg, h⟩ := run_bind_ok.1 h
  cases hg
  obtain ⟨snapshot, _, hg, h⟩ := run_bind_ok.1 h
  obtain ⟨_, rfl⟩ := run_okOr_ok.1 hg
  obtain ⟨router, _, hg, h⟩ := run_bind_ok.1 h
  obtain ⟨_, rfl⟩ := run_okOr_ok.1 hg
  obtain ⟨_, _, hg, h⟩ := run_bind_ok.1 h
  obtain ⟨_, rfl⟩ := run_ensure_ok.1 hg
  obtain ⟨paid, _, hpay, h⟩ := run_bind_ok.1 h
  obtain ⟨_, e₁, hrouter, hpay⟩ := run_bind_ok.1 hpay
  obtain ⟨_, _, hg, hpay⟩ := run_bind_ok.1 hpay
  cases hg
  obtain ⟨left, _, hg, hpay⟩ := run_bind_ok.1 hpay
  obtain ⟨_, rfl⟩ := run_okOr_ok.1 hg
  cases hpay
  obtain ⟨st, hst, rfl⟩ := run_zoom_ok.1 h
  calc book { s with accounts := { e₁.setOperatorVaultRewardReceiver operator left with epochState := st } }
      = book { s with accounts := e₁ } :=
        book_same (EpochState.updateDistributeOperatorVaultRouteRewards_same hst)
          (s := { s with accounts := e₁ })
    _ = s.book := book_onOperatorVaultRewardRouter hleaves hrouter

/-! ## Voting -/

/-- A vote is a change of the book. -/
lemma castVote_change {clock : Clock} {operator voter operatorAdmin : Pubkey} {weatherStatus : UInt8} {e : Epoch}
    (hlive : s.epochState = true) (hbox : s.single .ballotBox = .initialized)
    (hsnap : s.single .epochSnapshot = .initialized)
    (h : (Epoch.processCastVote cl.math clock operator voter operatorAdmin weatherStatus).run s.accounts =
      .ok () e) :
    Book.Change cl.index s.book (book { s with accounts := e }) := by
  obtain ⟨snap, b₁, b₂, result, _, _, _, _, _, _, rfl⟩ := Epoch.processCastVote_run_ok h
  exact .vote _ _ hlive hbox EpochState.isConsensusReached_updateCastVote fun _ => .inr (.inr hsnap)

/-- So is a tie breaker: it names a ballot that has been voted for. -/
lemma adminSetTieBreaker_change {clock : Clock} {tieBreakerAdmin : Pubkey} {weatherStatus : UInt8} {e : Epoch}
    (hlive : s.epochState = true) (hbox : s.single .ballotBox = .initialized)
    (h : (Epoch.processAdminSetTieBreaker clock tieBreakerAdmin weatherStatus).run s.accounts = .ok () e) :
    Book.Change cl.index s.book (book { s with accounts := e }) := by
  obtain ⟨b, hb, rfl⟩ := Epoch.processAdminSetTieBreaker_run_ok h
  obtain ⟨_, _, hhas, hb'⟩ := BallotBox.setTieBreakerBallot_run_ok hb
  have hvoted : s.book.voted = true := by
    rw [BallotBox.hasBallot, Table.any, List.any_eq_true] at hhas
    obtain ⟨t, ht, heq⟩ := hhas
    show s.accounts.ballotBox.ballotTallies.any (·.isValid) = true
    refine List.any_eq_true.2 ⟨t, ht, ?_⟩
    unfold Ballot.eq at heq
    split at heq
    · cases heq
    · rename_i hvalid
      simp only [Bool.or_eq_true, Bool.not_eq_true', not_or, Bool.not_eq_false] at hvalid
      exact hvalid.1
  have htallies : b.ballotTallies = s.accounts.ballotBox.ballotTallies := by rw [hb']
  refine .of_eq (.vote (s.accounts.epochState.updateSetTieBreaker b.isConsensusReached
    clock.slot).isConsensusReached s.book.voted hlive hbox EpochState.isConsensusReached_updateSetTieBreaker
    fun _ => .inr (.inl hvoted)) ?_
  simp only [book, htallies, EpochState.updateSetTieBreaker]
  split <;> rfl

/-! ## Creating accounts -/

/-- What creating the epoch state does. -/
lemma processInitializeEpochState_ok {clock : Clock} {bump : UInt8}
    (h : (processInitializeEpochState clock bump).run s = .ok u s') :
    s.epochState = false ∧ s.epochMarker = false ∧ s' = { s with
      epochState := true
      accounts := { s.accounts with
        epochState := (EpochState.initialized s.accounts.config.ncn s.epoch bump
          clock.slot).updateReallocEpochState } } := by
  obtain ⟨_, _, hg, h⟩ := run_bind_ok.1 h
  cases hg
  obtain ⟨_, _, hg, h⟩ := run_bind_ok.1 h
  obtain ⟨_, rfl⟩ := run_ensure_ok.1 hg
  obtain ⟨_, _, hg, h⟩ := run_bind_ok.1 h
  obtain ⟨hlive, rfl⟩ := run_ensure_ok.1 hg
  obtain ⟨_, _, hg, h⟩ := run_bind_ok.1 h
  obtain ⟨hmarker, rfl⟩ := checkDne_ok.1 hg
  obtain ⟨_, _, hg, h⟩ := run_bind_ok.1 h
  obtain ⟨_, rfl⟩ := run_ensure_ok.1 hg
  cases h
  exact ⟨hlive, hmarker, rfl⟩

/-- Creating the epoch state begins the epoch. -/
lemma initializeEpochState_change {clock : Clock} {bump : UInt8}
    (h : (processInitializeEpochState clock bump).run s = .ok u s') :
    Book.Change cl.index s.book s'.book := by
  obtain ⟨hlive, hmarker, rfl⟩ := processInitializeEpochState_ok h
  refine .of_eq (.start hlive hmarker) (Book.ext rfl ?_ rfl rfl ?_ rfl rfl ?_ rfl rfl rfl rfl)
  · exact decide_eq_true ⟨rfl, rfl⟩
  · exact bne_self_eq_false defaultConsensusReachedSlot
  · funext k
    cases k <;> rfl

/-- Allocating an account while the epoch is not closing. -/
lemma allocate_change {k : Single} {e : Epoch} {r : Bool} (hlive : s.epochState = true)
    (hclosing : s.accounts.epochState.isClosing = false) (habsent : s.single k = .absent)
    (he : book { s with accounts := e } = s.book) :
    Book.Change cl.index s.book
      (book { s.setSingle k (.allocated maxReallocBytes) with accounts := e, consensusResult := r }) := by
  have hb : book { s.setSingle k (.allocated maxReallocBytes) with accounts := e, consensusResult := r } =
      { book { s with accounts := e } with
        single := Function.update s.single k (.allocated maxReallocBytes) } := rfl
  rw [hb, he]
  exact .allocate k maxReallocBytes hlive hclosing habsent

/-- What allocating the weight table does. -/
lemma processInitializeWeightTable_ok {vaultCount : ℕ} {vaultList : Table VaultEntry maxVaults}
    (h : (processInitializeWeightTable vaultCount vaultList).run s = .ok u s') :
    s.epochState = true ∧ s.accounts.epochState.isClosing = false ∧ s.single .weightTable = .absent ∧
      s' = s.setSingle .weightTable (.allocated maxReallocBytes) := by
  obtain ⟨_, _, hg, h⟩ := run_bind_ok.1 h
  obtain ⟨hlive, hclosing, rfl⟩ := loadAndCheckIsClosing_ok hg
  obtain ⟨_, _, hg, h⟩ := run_bind_ok.1 h
  obtain ⟨_, rfl⟩ := checkDne_ok.1 hg
  obtain ⟨_, _, hg, h⟩ := run_bind_ok.1 h
  obtain ⟨habsent, rfl⟩ := loadSystemAccount_ok hg
  obtain ⟨_, _, hg, h⟩ := run_bind_ok.1 h
  obtain ⟨_, rfl⟩ := run_ensure_ok.1 hg
  cases h
  exact ⟨hlive, hclosing, habsent, rfl⟩

/-- Creating the weight table allocates it. -/
lemma initializeWeightTable_change {vaultCount : ℕ} {vaultList : Table VaultEntry maxVaults}
    (h : (processInitializeWeightTable vaultCount vaultList).run s = .ok u s') :
    Book.Change cl.index s.book s'.book := by
  obtain ⟨hlive, hclosing, habsent, rfl⟩ := processInitializeWeightTable_ok h
  exact allocate_change hlive hclosing habsent rfl

/-- What allocating the ballot box does. -/
lemma processInitializeBallotBox_ok {bump : UInt8} (h : (processInitializeBallotBox bump).run s = .ok u s') :
    s.epochState = true ∧ s.accounts.epochState.isClosing = false ∧ s.single .ballotBox = .absent ∧
      s' = { s.setSingle .ballotBox (.allocated maxReallocBytes) with
        consensusResult := true
        accounts := { s.accounts with consensusResult := .new s.accounts.config.ncn s.epoch bump } } := by
  obtain ⟨_, _, hg, h⟩ := run_bind_ok.1 h
  obtain ⟨habsent, rfl⟩ := loadSystemAccount_ok hg
  obtain ⟨_, _, hg, h⟩ := run_bind_ok.1 h
  obtain ⟨hlive, hclosing, rfl⟩ := loadAndCheckIsClosing_ok hg
  obtain ⟨_, _, hg, h⟩ := run_bind_ok.1 h
  obtain ⟨_, rfl⟩ := checkDne_ok.1 hg
  obtain ⟨_, _, hg, h⟩ := run_bind_ok.1 h
  cases hg
  obtain ⟨_, _, hg, h⟩ := run_bind_ok.1 h
  obtain ⟨_, rfl⟩ := run_ensure_ok.1 hg
  cases h
  exact ⟨hlive, hclosing, habsent, rfl⟩

/-- Creating the ballot box allocates it. -/
lemma initializeBallotBox_change {bump : UInt8} (h : (processInitializeBallotBox bump).run s = .ok u s') :
    Book.Change cl.index s.book s'.book := by
  obtain ⟨hlive, hclosing, habsent, rfl⟩ := processInitializeBallotBox_ok h
  exact allocate_change hlive hclosing habsent rfl

/-- What allocating the NCN reward router does. -/
lemma processInitializeNcnRewardRouter_ok (h : (processInitializeNcnRewardRouter cl).run s = .ok u s') :
    s.epochState = true ∧ s.accounts.epochState.isClosing = false ∧ s.single .ncnRewardRouter = .absent ∧
      s' = { s.setSingle .ncnRewardRouter (.allocated maxReallocBytes) with
        accounts := { s.accounts with ncnRewardReceiver := s.accounts.ncnRewardReceiver + cl.minRent } } := by
  obtain ⟨_, _, hg, h⟩ := run_bind_ok.1 h
  obtain ⟨hlive, hclosing, rfl⟩ := loadAndCheckIsClosing_ok hg
  obtain ⟨_, _, hg, h⟩ := run_bind_ok.1 h
  obtain ⟨_, rfl⟩ := checkDne_ok.1 hg
  obtain ⟨_, _, hg, h⟩ := run_bind_ok.1 h
  obtain ⟨habsent, rfl⟩ := loadSystemAccount_ok hg
  obtain ⟨_, _, hg, h⟩ := run_bind_ok.1 h
  cases hg
  cases h
  exact ⟨hlive, hclosing, habsent, rfl⟩

/-- Creating the NCN's router allocates it. -/
lemma initializeNcnRewardRouter_change (h : (processInitializeNcnRewardRouter cl).run s = .ok u s') :
    Book.Change cl.index s.book s'.book := by
  obtain ⟨hlive, hclosing, habsent, rfl⟩ := processInitializeNcnRewardRouter_ok h
  exact allocate_change hlive hclosing habsent rfl

/-- What creating the epoch's snapshot does. -/
lemma processInitializeEpochSnapshot_ok {clock : Clock} {bump : UInt8} {operatorCount : ℕ}
    (h : (processInitializeEpochSnapshot clock bump operatorCount).run s = .ok u s') :
    s.epochState = true ∧ s.accounts.epochState.isClosing = false ∧ s.single .epochSnapshot = .absent ∧
      s.single .weightTable = .initialized ∧ s.accounts.weightTable.finalized = true ∧ operatorCount ≠ 0 ∧
      s' = { s.setSingle .epochSnapshot .initialized with
        accounts := { s.accounts with
          epochSnapshot := .new s.accounts.config.ncn s.epoch bump clock.slot operatorCount
            s.accounts.weightTable.vaultCount (s.accounts.config.feeConfig.currentFees s.epoch)
          epochState := s.accounts.epochState.updateInitializeEpochSnapshot operatorCount } } := by
  obtain ⟨_, _, hg, h⟩ := run_bind_ok.1 h
  obtain ⟨hlive, hclosing, rfl⟩ := loadAndCheckIsClosing_ok hg
  obtain ⟨_, _, hg, h⟩ := run_bind_ok.1 h
  obtain ⟨_, rfl⟩ := checkDne_ok.1 hg
  obtain ⟨_, _, hg, h⟩ := run_bind_ok.1 h
  obtain ⟨habsent, rfl⟩ := loadSystemAccount_ok hg
  obtain ⟨_, _, hg, h⟩ := run_bind_ok.1 h
  obtain ⟨hweights, rfl⟩ := load_ok hg
  obtain ⟨_, _, hg, h⟩ := run_bind_ok.1 h
  cases hg
  obtain ⟨_, _, hg, h⟩ := run_bind_ok.1 h
  obtain ⟨hfin, rfl⟩ := run_ensure_ok.1 hg
  obtain ⟨_, _, hg, h⟩ := run_bind_ok.1 h
  obtain ⟨hcount, rfl⟩ := run_ensure_ok.1 hg
  cases h
  exact ⟨hlive, hclosing, habsent, hweights, hfin, hcount, rfl⟩

/-- Creating the epoch's snapshot marks it as created. -/
lemma initializeEpochSnapshot_change {clock : Clock} {bump : UInt8} {operatorCount : ℕ}
    (h : (processInitializeEpochSnapshot clock bump operatorCount).run s = .ok u s') :
    Book.Change cl.index s.book s'.book := by
  obtain ⟨hlive, hclosing, habsent, hweights, _, _, rfl⟩ := processInitializeEpochSnapshot_ok h
  refine .of_eq (.fill .epochSnapshot .created s.book.voted hlive rfl
    (.inl ⟨rfl, hclosing, habsent, hweights⟩) rfl) (Book.ext rfl rfl rfl rfl rfl rfl rfl ?_ rfl rfl rfl rfl)
  funext k
  cases k <;> rfl

/-- Creating an operator's snapshot works on the data of accounts that are there. -/
lemma processInitializeOperatorSnapshot_ok {clock : Clock} {bump : UInt8} {op : NcnOperator}
    (h : (processInitializeOperatorSnapshot clock bump op).run s = .ok u s') :
    s.epochState = true ∧ s.single .epochSnapshot = .initialized ∧
      ∃ e, (Epoch.processInitializeOperatorSnapshot clock bump op).run s.accounts = .ok u e ∧
        s' = { s with accounts := e } := by
  obtain ⟨_, _, hg, h⟩ := run_bind_ok.1 h
  obtain ⟨hlive, _, rfl⟩ := loadAndCheckIsClosing_ok hg
  obtain ⟨_, _, hg, h⟩ := run_bind_ok.1 h
  obtain ⟨hsnap, rfl⟩ := load_ok hg
  obtain ⟨_, _, hg, h⟩ := run_bind_ok.1 h
  obtain ⟨_, rfl⟩ := checkDne_ok.1 hg
  exact ⟨hlive, hsnap, run_zoom_ok.1 h⟩

/-- Creating an operator's snapshot marks it at the operator's index. -/
lemma initializeOperatorSnapshot_change {clock : Clock} {bump : UInt8} {operator : Pubkey}
    {operatorIndex operatorFeeBps : ℕ} {isActive : Bool}
    (h : (processInitializeOperatorSnapshot clock bump
      ⟨operator, operatorIndex, operatorFeeBps, cl.index operator, isActive⟩).run s = .ok u s') :
    Book.Change cl.index s.book s'.book := by
  obtain ⟨hlive, _, e, hrun, rfl⟩ := processInitializeOperatorSnapshot_ok h
  obtain ⟨hnone, _, t, es, st, ht, _, hst, rfl⟩ := Epoch.processInitializeOperatorSnapshot_run_ok hrun
  obtain ⟨hlt, hsame⟩ := EpochState.updateReallocOperatorSnapshot_same hst
  have hindex : t.ncnOperatorIndex = cl.index operator := by
    obtain ⟨_, _, hindex, _⟩ := OperatorSnapshot.initialized_ok ht
    exact hindex
  -- the new snapshot, then the epoch state that marks it
  let s₁ : Lifecycle := { s with accounts := { s.accounts.setOperatorSnapshot operator t with
    epochState := s.accounts.epochState.onStatus fun a => { a with
      operatorSnapshot := a.operatorSnapshot.set (cl.index operator) .created } } }
  have hnone' : s.book.snapshot operator = none := by
    show (s.accounts.operatorSnapshot operator).map _ = none
    rw [hnone]; rfl
  refine .of_eq (.createSnapshot operator hlive hnone' hlt) ?_
  calc book { s with accounts := { s.accounts.setOperatorSnapshot operator t with
          epochSnapshot := es, epochState := st } }
      = s₁.book := book_same hsame (s := s₁)
    _ = _ := by
      refine Book.ext rfl rfl rfl rfl rfl rfl rfl rfl ?_ rfl rfl rfl
      show Option.map _ ∘ Function.update _ _ _ = _
      rw [Function.comp_update, Option.map_some, hindex]
      rfl

/-- What creating an operator's reward router does. -/
lemma processInitializeOperatorVaultRewardRouter_ok {clock : Clock} {bump : UInt8} {operator : Pubkey}
    (h : (processInitializeOperatorVaultRewardRouter cl clock bump operator).run s = .ok u s') :
    s.epochState = true ∧ s.accounts.operatorVaultRewardRouter operator = none ∧
      ∃ snapshot r lamports st, s.accounts.operatorSnapshot operator = some snapshot ∧
        r.ncnOperatorIndex = snapshot.ncnOperatorIndex ∧
        (EpochState.updateReallocOperatorVaultRewardRouter snapshot.ncnOperatorIndex).run
          s.accounts.epochState = .ok u st ∧
        s' = { s with accounts := { (s.accounts.setOperatorVaultRewardRouter operator
          r).setOperatorVaultRewardReceiver operator lamports with epochState := st } } := by
  obtain ⟨_, _, hg, h⟩ := run_bind_ok.1 h
  obtain ⟨hlive, _, rfl⟩ := loadAndCheckIsClosing_ok hg
  obtain ⟨_, _, hg, h⟩ := run_bind_ok.1 h
  cases hg
  obtain ⟨snapshot, _, hg, h⟩ := run_bind_ok.1 h
  obtain ⟨hsnap, rfl⟩ := run_okOr_ok.1 hg
  obtain ⟨_, _, hg, h⟩ := run_bind_ok.1 h
  obtain ⟨hnone, rfl⟩ := run_ensure_ok.1 hg
  obtain ⟨_, _, hg, h⟩ := run_bind_ok.1 h
  obtain ⟨_, rfl⟩ := checkDne_ok.1 hg
  obtain ⟨_, _, hg, h⟩ := run_bind_ok.1 h
  cases hg
  obtain ⟨_, _, hg, h⟩ := run_bind_ok.1 h
  cases hg
  obtain ⟨_, hrun, rfl⟩ := run_zoom_ok.1 h
  obtain ⟨st, hst, rfl⟩ := run_zoom_ok.1 hrun
  exact ⟨hlive, Option.isNone_iff_eq_none.1 hnone, snapshot, _, _, st, hsnap, rfl, hst, rfl⟩

/-- Creating an operator's router marks it at the operator's index. -/
lemma initializeOperatorVaultRewardRouter_change {clock : Clock} {bump : UInt8} {operator : Pubkey}
    (h : (processInitializeOperatorVaultRewardRouter cl clock bump operator).run s = .ok u s') :
    Book.Change cl.index s.book s'.book := by
  obtain ⟨hlive, hnone, snapshot, r, lamports, st, hsnap, hindex, hst, rfl⟩ :=
    processInitializeOperatorVaultRewardRouter_ok h
  obtain ⟨_, _, hg, hst⟩ := run_bind_ok.1 hst
  obtain ⟨hlt, rfl⟩ := run_ensure_ok.1 hg
  cases hst
  have hsnap' : s.book.snapshot operator = some snapshot.ncnOperatorIndex := by
    show (s.accounts.operatorSnapshot operator).map _ = _
    rw [hsnap]; rfl
  have hnone' : s.book.router operator = none := by
    show (s.accounts.operatorVaultRewardRouter operator).map _ = none
    rw [hnone]; rfl
  refine .of_eq (.createRouter operator snapshot.ncnOperatorIndex hlive hsnap' hnone' hlt) ?_
  refine Book.ext rfl rfl rfl rfl rfl rfl rfl rfl rfl rfl ?_ rfl
  show Option.map _ ∘ Function.update _ _ _ = _
  rw [Function.comp_update, Option.map_some, hindex]
  rfl

/-! ## Growing accounts -/

/-- Growing an account: nothing, or from one length to another. -/
lemma realloc_ok {k : Single} {size : ℕ} {done : Bool} (h : (realloc k size).run s = .ok done s') :
    s.epochState = true ∧ (done = false ∧ s' = s ∨
      ∃ dataLen newLen, s.single k = .allocated dataLen ∧ s' = s.setSingle k (.allocated newLen)) := by
  obtain ⟨_, _, hg, h⟩ := run_bind_ok.1 h
  obtain ⟨hlive, rfl⟩ := loadEpochState_ok.1 hg
  refine ⟨hlive, ?_⟩
  obtain ⟨_, _, hg, h⟩ := run_bind_ok.1 h
  cases hg
  cases hk : s.single k with
  | absent => rw [hk] at h; cases h
  | initialized => rw [hk] at h; cases h; exact .inl ⟨rfl, rfl⟩
  | allocated dataLen =>
    rw [hk] at h
    dsimp only at h
    refine .inr ⟨dataLen, ?_⟩
    split at h
    · obtain ⟨newLen, _, hg, h⟩ := run_bind_ok.1 h
      obtain ⟨_, rfl⟩ := run_ofExcept_ok.1 hg
      obtain ⟨_, _, hg, h⟩ := run_bind_ok.1 h
      cases hg
      cases h
      exact ⟨newLen, rfl, rfl⟩
    · cases h
      refine ⟨dataLen, rfl, ?_⟩
      rw [setSingle, ← hk, Function.update_eq_self]

/-- Growing an account, and giving it its data when it has got to its size. -/
lemma fill_change {k : Single} {size : ℕ} {x : Mut Lifecycle Unit} (status : AccountStatus)
    (hk : k ≠ .epochSnapshot) (hstatus : isGone status = false)
    (hx : ∀ s₁ s₂, x.run s₁ = .ok () s₂ → s₂.book = { s₁.book with
      voted := if k = .ballotBox then false else s₁.book.voted
      single := Function.update s₁.single k .initialized
      status := Function.update s₁.book.status k status })
    (h : (do if ← realloc k size then x : Mut Lifecycle Unit).run s = .ok u s') :
    Book.Change cl.index s.book s'.book := by
  obtain ⟨done, s₁, hg, h⟩ := run_bind_ok.1 h
  cases done with
  | false =>
    cases h
    obtain ⟨hlive, ⟨_, rfl⟩ | ⟨dataLen, newLen, halloc, rfl⟩⟩ := realloc_ok hg
    · exact .idle
    · exact .grow k dataLen newLen hlive halloc
  | true =>
    obtain ⟨hlive, ⟨hfalse, _⟩ | ⟨dataLen, newLen, halloc, rfl⟩⟩ := realloc_ok hg
    · cases hfalse
    · refine .of_eq (.fill k status _ hlive hstatus (.inr ⟨hk, dataLen, halloc⟩) rfl) ((hx _ _ h).trans ?_)
      have hsingle : Function.update (s.setSingle k (.allocated newLen)).single k .initialized =
          Function.update s.single k .initialized := Function.update_idem ..
      rw [hsingle]
      rfl

/-- Growing the weight table fills it in the end. -/
lemma reallocWeightTable_change {clock : Clock} {bump : UInt8} {vaultList : Table VaultEntry maxVaults}
    {stMintList : Table StMintEntry maxStMints}
    (h : (processReallocWeightTable clock bump vaultList stMintList).run s = .ok u s') :
    Book.Change cl.index s.book s'.book := by
  refine fill_change .created (by decide) rfl (fun s₁ s₂ h => ?_) h
  obtain ⟨_, _, hg, h⟩ := run_bind_ok.1 h
  cases hg
  obtain ⟨weightTable, _, hg, h⟩ := run_bind_ok.1 h
  obtain ⟨_, rfl⟩ := run_ofExcept_ok.1 hg
  cases h
  refine Book.ext rfl rfl rfl rfl rfl rfl rfl ?_ rfl rfl rfl rfl
  funext k
  cases k <;> rfl

/-- Growing the ballot box fills it in the end. -/
lemma reallocBallotBox_change {clock : Clock} {bump : UInt8}
    (h : (processReallocBallotBox clock bump).run s = .ok u s') : Book.Change cl.index s.book s'.book := by
  refine fill_change .created (by decide) rfl (fun s₁ s₂ h => ?_) h
  cases h
  refine Book.ext rfl rfl rfl rfl rfl ?_ rfl ?_ rfl rfl rfl rfl
  · have hnone : (BallotBox.new s₁.accounts.config.ncn s₁.epoch bump clock.slot).ballotTallies.any
        (·.isValid) = false := (Table.holds_replicate _).any_eq rfl
    simp only [book, hnone, if_true]
  · funext k
    cases k <;> rfl

/-- Growing the NCN's router fills it in the end. -/
lemma reallocNcnRewardRouter_change {clock : Clock} {bump : UInt8}
    (h : (processReallocNcnRewardRouter clock bump).run s = .ok u s') :
    Book.Change cl.index s.book s'.book := by
  refine fill_change .createdWithReceiver (by decide) rfl (fun s₁ s₂ h => ?_) h
  cases h
  refine Book.ext rfl rfl rfl rfl rfl rfl rfl ?_ rfl rfl rfl rfl
  funext k
  cases k <;> rfl

/-! ## Closing accounts -/

/-- The epoch state that can be closed is the one named and says that all accounts are closed. -/
lemma loadToClose_ok {st : EpochState} {ncn : Pubkey} {epoch : ℕ} :
    st.loadToClose ncn epoch = .ok () ↔
      st.ncn = ncn ∧ st.epoch = epoch ∧ st.accountStatus.areAllClosed = true := by
  unfold EpochState.loadToClose
  by_cases hncn : st.ncn = ncn
  · by_cases hepoch : st.epoch = epoch
    · cases hall : st.accountStatus.areAllClosed with
      | true => simp [hncn, hepoch, pure, Except.pure]
      | false => simp [hncn, hepoch, throw, throwThe, MonadExceptOf.throw]
    · simp [hncn, hepoch, throw, throwThe, MonadExceptOf.throw, bind, Except.bind]
  · simp [hncn, throw, throwThe, MonadExceptOf.throw, bind, Except.bind]

/-- It says so exactly when the book does. -/
lemma areAllClosed_iff : s.accounts.epochState.accountStatus.areAllClosed = true ↔ s.book.AllMarked := by
  rw [areAllClosed, Bool.and_eq_true, Bool.and_eq_true, Bool.and_eq_true, Bool.and_eq_true,
    Bool.and_eq_true, beq_iff_eq, beq_iff_eq, beq_iff_eq, beq_iff_eq]
  constructor
  · rintro ⟨⟨⟨⟨⟨hw, hes⟩, hs⟩, hb⟩, hr⟩, hv⟩
    refine ⟨fun k => ?_, hs, hv⟩
    cases k
    exacts [hw, hes, hb, hr]
  · exact fun h => ⟨⟨⟨⟨⟨h.status .weightTable, h.status .epochSnapshot⟩, h.snapshotStatus⟩,
      h.status .ballotBox⟩, h.status .ncnRewardRouter⟩, h.routerStatus⟩

/-- The epoch begins to close. -/
def startClosing (s : Lifecycle) : Lifecycle :=
  { s with accounts := { s.accounts with epochState := s.accounts.epochState.setIsClosing } }

/-- Accounts can be closed the configured number of epochs after the consensus. -/
lemma canCloseEpochAccounts_ok {st : EpochState} {getEpoch : ℕ → ℕ} {epochs slot : ℕ} :
    st.canCloseEpochAccounts getEpoch epochs slot = .ok true ↔
      st.isConsensusReached = true ∧ epochs ≤ getEpoch slot - getEpoch st.slotConsensusReached := by
  rw [EpochState.canCloseEpochAccounts, EpochState.getSlotConsensusReached, EpochState.isConsensusReached,
    bne_iff_ne]
  by_cases h : st.slotConsensusReached = defaultConsensusReachedSlot
  · simp [h, throw, throwThe, MonadExceptOf.throw, bind, Except.bind]
  · simp [h, pure, Except.pure, bind, Except.bind]

/-- What is checked before an account is closed. -/
lemma processCloseEpochAccount_ok {clock : Clock} {target : Target} :
    (processCloseEpochAccount cl clock target).run s = .ok u s' ↔
      s.epochState = true ∧ s.epochMarker = false ∧ s.dataIsEmpty target = false ∧
      s.accounts.epochState.canCloseEpochAccounts cl.getEpoch
        s.accounts.config.epochsAfterConsensusBeforeClose clock.slot = .ok true ∧
      (closeTarget cl target).run s.startClosing = .ok u s' := by
  constructor
  · intro h
    obtain ⟨_, _, hg, h⟩ := run_bind_ok.1 h
    obtain ⟨hlive, rfl⟩ := loadEpochState_ok.1 hg
    obtain ⟨_, _, hg, h⟩ := run_bind_ok.1 h
    obtain ⟨hmarker, rfl⟩ := checkDne_ok.1 hg
    obtain ⟨_, _, hg, h⟩ := run_bind_ok.1 h
    cases hg
    obtain ⟨_, _, hg, h⟩ := run_bind_ok.1 h
    obtain ⟨hdata, rfl⟩ := run_ensure_ok.1 hg
    obtain ⟨canClose, _, hg, h⟩ := run_bind_ok.1 h
    obtain ⟨hcan, rfl⟩ := run_ofExcept_ok.1 hg
    obtain ⟨_, _, hg, h⟩ := run_bind_ok.1 h
    obtain ⟨rfl, rfl⟩ := run_ensure_ok.1 hg
    obtain ⟨_, _, hg, h⟩ := run_bind_ok.1 h
    cases hg
    exact ⟨hlive, hmarker, hdata, hcan, h⟩
  · rintro ⟨hlive, hmarker, hdata, hcan, h⟩
    refine run_bind_ok.2 ⟨(), s, loadEpochState_ok.2 ⟨hlive, rfl⟩, ?_⟩
    refine run_bind_ok.2 ⟨(), s, checkDne_ok.2 ⟨hmarker, rfl⟩, ?_⟩
    refine run_bind_ok.2 ⟨s, s, rfl, run_bind_ok.2 ⟨(), s, run_ensure_ok.2 ⟨hdata, rfl⟩, ?_⟩⟩
    refine run_bind_ok.2 ⟨true, s, run_ofExcept_ok.2 ⟨hcan, rfl⟩, ?_⟩
    exact run_bind_ok.2 ⟨(), s, run_ensure_ok.2 ⟨rfl, rfl⟩, run_bind_ok.2 ⟨(), s.startClosing, rfl, h⟩⟩

/-- The receiver of a router can be closed if it has its rent. -/
lemma closeReceiver_ok {lamports left : ℕ} :
    closeReceiver cl lamports = .ok left ↔ cl.minRent ≤ lamports ∧ left = 0 := by
  unfold closeReceiver checkedSub
  by_cases h : cl.minRent ≤ lamports
  · have h₁ : lamports - (lamports - cl.minRent) = cl.minRent := by omega
    simp [h, h₁, pure, Except.pure, eq_comm]
  · have h₁ : ¬cl.minRent ≤ lamports - (lamports - cl.minRent) := by omega
    simp [h, h₁, throw, throwThe, MonadExceptOf.throw]

/-- Closing an account that the epoch has one of. -/
lemma closeSingle_ok {k : Single} (h : (closeTarget cl (.single k)).run s = .ok u s') :
    s.single k = .initialized ∧ s'.book = { s.book with
      single := Function.update s.single k .absent
      status := Function.update s.book.status k .closed } := by
  obtain ⟨_, _, hg, h⟩ := run_bind_ok.1 h
  cases hg
  obtain ⟨_, _, hg, h⟩ := run_bind_ok.1 h
  obtain ⟨hinit, rfl⟩ := run_ensure_ok.1 hg
  refine ⟨hinit, ?_⟩
  have hbook : ∀ s₁ : Lifecycle, book (setSingle k .absent { s₁ with accounts := { s₁.accounts with
      epochState := s₁.accounts.epochState.closeSingle k } }) = { s₁.book with
        single := Function.update s₁.single k .absent
        status := Function.update s₁.book.status k .closed } := by
    intro s₁
    cases k <;>
      refine Book.ext rfl rfl rfl rfl rfl rfl rfl ?_ rfl rfl rfl rfl <;>
      funext k' <;> cases k' <;> rfl
  split at h
  · obtain ⟨lamports, _, hg, h⟩ := run_bind_ok.1 h
    obtain ⟨_, rfl⟩ := run_ofExcept_ok.1 hg
    obtain ⟨_, _, hg, h⟩ := run_bind_ok.1 h
    cases hg
    cases h
    exact hbook { s with accounts := { s.accounts with ncnRewardReceiver := lamports } }
  · cases h
    exact hbook s

/-- Closing an operator's snapshot. -/
lemma closeSnapshot_ok {p : Pubkey} (h : (closeTarget cl (.operatorSnapshot p)).run s = .ok u s') :
    ∃ i, s.book.snapshot p = some i ∧ s'.book = { s.book with
      snapshot := Function.update s.book.snapshot p none
      snapshotStatus := s.book.snapshotStatus.set i .closed } := by
  obtain ⟨_, _, hg, h⟩ := run_bind_ok.1 h
  cases hg
  obtain ⟨snapshot, _, hg, h⟩ := run_bind_ok.1 h
  obtain ⟨hsnap, rfl⟩ := run_okOr_ok.1 hg
  obtain ⟨_, _, hg, h⟩ := run_bind_ok.1 h
  obtain ⟨e, hrun, rfl⟩ := run_zoom_ok.1 hg
  obtain ⟨st, hst, rfl⟩ := run_zoom_ok.1 hrun
  obtain ⟨_, _, hg, hst⟩ := run_bind_ok.1 hst
  obtain ⟨_, rfl⟩ := run_ensure_ok.1 hg
  cases hst
  cases h
  refine ⟨snapshot.ncnOperatorIndex, congrArg (Option.map _) hsnap, ?_⟩
  refine Book.ext rfl rfl rfl rfl rfl rfl rfl rfl ?_ rfl rfl rfl
  show Option.map _ ∘ Function.update _ _ _ = _
  rw [Function.comp_update]
  rfl

/-- Closing an operator's reward router. -/
lemma closeRouter_ok {p : Pubkey} (h : (closeTarget cl (.operatorVaultRewardRouter p)).run s = .ok u s') :
    ∃ i, s.book.router p = some i ∧ s'.book = { s.book with
      router := Function.update s.book.router p none
      routerStatus := s.book.routerStatus.set i .closed } := by
  obtain ⟨_, _, hg, h⟩ := run_bind_ok.1 h
  cases hg
  obtain ⟨router, _, hg, h⟩ := run_bind_ok.1 h
  obtain ⟨hrouter, rfl⟩ := run_okOr_ok.1 hg
  obtain ⟨lamports, _, hg, h⟩ := run_bind_ok.1 h
  obtain ⟨_, rfl⟩ := run_ofExcept_ok.1 hg
  obtain ⟨_, _, hg, h⟩ := run_bind_ok.1 h
  cases hg
  obtain ⟨_, _, hg, h⟩ := run_bind_ok.1 h
  obtain ⟨e, hrun, rfl⟩ := run_zoom_ok.1 hg
  obtain ⟨st, hst, rfl⟩ := run_zoom_ok.1 hrun
  obtain ⟨_, _, hg, hst⟩ := run_bind_ok.1 hst
  obtain ⟨_, rfl⟩ := run_ensure_ok.1 hg
  cases hst
  cases h
  refine ⟨router.ncnOperatorIndex, congrArg (Option.map _) hrouter, ?_⟩
  refine Book.ext rfl rfl rfl rfl rfl rfl rfl rfl rfl rfl ?_ rfl
  show Option.map _ ∘ Function.update _ _ _ = _
  rw [Function.comp_update]
  rfl

/-- Closing the epoch state, or another one in its place. -/
lemma closeEpochState_ok (h : (closeTarget cl .epochState).run s = .ok u s') :
    s.book.AllMarked ∧ s'.book = { s.book with live := false, marker := true } := by
  obtain ⟨_, _, hg, h⟩ := run_bind_ok.1 h
  cases hg
  obtain ⟨_, _, hg, h⟩ := run_bind_ok.1 h
  obtain ⟨hload, rfl⟩ := run_ofExcept_ok.1 hg
  cases h
  exact ⟨areAllClosed_iff.1 (loadToClose_ok.1 hload).2.2, rfl⟩

/-- Closing the state of another epoch in place of this one's leaves the book of this one. -/
lemma closeOther_ok (h : (closeTarget cl .otherEpochState).run s = .ok u s') :
    s.book.AllMarked ∧ s'.book = s.book := by
  obtain ⟨_, _, hg, h⟩ := run_bind_ok.1 h
  cases hg
  obtain ⟨_, _, hg, h⟩ := run_bind_ok.1 h
  obtain ⟨hload, rfl⟩ := run_ofExcept_ok.1 hg
  cases h
  refine ⟨areAllClosed_iff.1 (loadToClose_ok.1 hload).2.2, ?_⟩
  refine Book.ext rfl rfl rfl rfl rfl rfl rfl ?_ rfl rfl rfl rfl
  funext k
  cases k <;> rfl

/-- What is written when an account is closed. -/
inductive Closed (s : Lifecycle) : Target → Lifecycle → Prop
  | epochState : Closed s .epochState { s with epochState := false, epochMarker := true }
  | single (k : Single) (lamports : ℕ) : s.single k = .initialized →
      k = .ncnRewardRouter ∨ lamports = s.accounts.ncnRewardReceiver →
      Closed s (.single k) (setSingle k .absent { s with accounts := { s.accounts with
        ncnRewardReceiver := lamports
        epochState := s.accounts.epochState.closeSingle k } })
  | operatorSnapshot (p : Pubkey) (i : ℕ) (st : EpochState) :
      (EpochState.closeOperatorSnapshot i).run s.accounts.epochState = .ok () st →
      Closed s (.operatorSnapshot p) { s with accounts := { s.accounts with
        epochState := st
        operatorSnapshot := Function.update s.accounts.operatorSnapshot p none } }
  | operatorVaultRewardRouter (p : Pubkey) (i lamports : ℕ) (st : EpochState) :
      (EpochState.closeOperatorVaultRewardRouter i).run s.accounts.epochState = .ok () st →
      Closed s (.operatorVaultRewardRouter p) { s with accounts := { s.accounts with
        operatorVaultRewardReceiver := Function.update s.accounts.operatorVaultRewardReceiver p lamports
        epochState := st
        operatorVaultRewardRouter := Function.update s.accounts.operatorVaultRewardRouter p none } }
  | otherEpochState : Closed s .otherEpochState { s with accounts := { s.accounts with
      epochState := s.accounts.epochState.closeEpochState } }

/-- A close that succeeds is one of the closes. -/
lemma closeTarget_ok {target : Target} (h : (closeTarget cl target).run s = .ok u s') : s.Closed target s' := by
  cases target with
  | epochState =>
    obtain ⟨_, _, hg, h⟩ := run_bind_ok.1 h
    cases hg
    obtain ⟨_, _, hg, h⟩ := run_bind_ok.1 h
    obtain ⟨_, rfl⟩ := run_ofExcept_ok.1 hg
    cases h
    exact .epochState
  | single k =>
    obtain ⟨_, _, hg, h⟩ := run_bind_ok.1 h
    cases hg
    obtain ⟨_, _, hg, h⟩ := run_bind_ok.1 h
    obtain ⟨hinit, rfl⟩ := run_ensure_ok.1 hg
    split at h
    · rename_i hk
      obtain ⟨lamports, _, hg, h⟩ := run_bind_ok.1 h
      obtain ⟨_, rfl⟩ := run_ofExcept_ok.1 hg
      obtain ⟨_, _, hg, h⟩ := run_bind_ok.1 h
      cases hg
      cases h
      exact .single k lamports hinit (.inl hk)
    · cases h
      exact .single k s.accounts.ncnRewardReceiver hinit (.inr rfl)
  | operatorSnapshot p =>
    obtain ⟨_, _, hg, h⟩ := run_bind_ok.1 h
    cases hg
    obtain ⟨snapshot, _, hg, h⟩ := run_bind_ok.1 h
    obtain ⟨_, rfl⟩ := run_okOr_ok.1 hg
    obtain ⟨_, _, hg, h⟩ := run_bind_ok.1 h
    obtain ⟨_, hrun, rfl⟩ := run_zoom_ok.1 hg
    obtain ⟨st, hst, rfl⟩ := run_zoom_ok.1 hrun
    cases h
    exact .operatorSnapshot p snapshot.ncnOperatorIndex st hst
  | operatorVaultRewardRouter p =>
    obtain ⟨_, _, hg, h⟩ := run_bind_ok.1 h
    cases hg
    obtain ⟨router, _, hg, h⟩ := run_bind_ok.1 h
    obtain ⟨_, rfl⟩ := run_okOr_ok.1 hg
    obtain ⟨lamports, _, hg, h⟩ := run_bind_ok.1 h
    obtain ⟨_, rfl⟩ := run_ofExcept_ok.1 hg
    obtain ⟨_, _, hg, h⟩ := run_bind_ok.1 h
    cases hg
    obtain ⟨_, _, hg, h⟩ := run_bind_ok.1 h
    obtain ⟨_, hrun, rfl⟩ := run_zoom_ok.1 hg
    obtain ⟨st, hst, rfl⟩ := run_zoom_ok.1 hrun
    cases h
    exact .operatorVaultRewardRouter p router.ncnOperatorIndex lamports st hst
  | otherEpochState =>
    obtain ⟨_, _, hg, h⟩ := run_bind_ok.1 h
    cases hg
    obtain ⟨_, _, hg, h⟩ := run_bind_ok.1 h
    obtain ⟨_, rfl⟩ := run_ofExcept_ok.1 hg
    cases h
    exact .otherEpochState

/-- Closing an account is a change of the book. -/
lemma closeEpochAccount_change {clock : Clock} {target : Target}
    (h : (processCloseEpochAccount cl clock target).run s = .ok u s') :
    Book.Change cl.index s.book s'.book := by
  obtain ⟨hlive, hmarker, hdata, hcan, h⟩ := processCloseEpochAccount_ok.1 h
  have hc : s.book.consensus = true := (canCloseEpochAccounts_ok.1 hcan).1
  cases target with
  | epochState =>
    obtain ⟨hmarked, hb⟩ := closeEpochState_ok h
    exact .of_eq (.finish hlive hc { hmarked with }) hb
  | single k =>
    obtain ⟨hinit, hb⟩ := closeSingle_ok h
    exact .of_eq (.closeSingle k hlive hc hinit) hb
  | operatorSnapshot p =>
    obtain ⟨i, hp, hb⟩ := closeSnapshot_ok h
    exact .of_eq (.closeSnapshot p i hlive hc hp) hb
  | operatorVaultRewardRouter p =>
    obtain ⟨i, hp, hb⟩ := closeRouter_ok h
    exact .of_eq (.closeRouter p i hlive hc hp) hb
  | otherEpochState =>
    obtain ⟨hmarked, hb⟩ := closeOther_ok h
    exact .of_eq (.closeOther hlive hc { hmarked with }) hb

/-! ## Runs -/

/-- Every instruction is a change of the book. -/
lemma Step.change (h : Step cl s s') : Book.Change cl.index s.book s'.book := by
  obtain ⟨i, h⟩ := h
  cases i with
  | initializeEpochState clock bump => exact initializeEpochState_change h
  | initializeWeightTable vaultCount vaultList => exact initializeWeightTable_change h
  | reallocWeightTable clock bump vaultList stMintList => exact reallocWeightTable_change h
  | adminSetWeight clock ncnAdmin admin stMint weight =>
    obtain ⟨_, _, e, hrun, rfl⟩ := loaded_ok h
    obtain ⟨w, _, rfl⟩ := Epoch.processAdminSetWeight_run_ok hrun
    exact .idle
  | setEpochWeights clock stMintList =>
    obtain ⟨_, _, e, hrun, rfl⟩ := loaded_ok h
    obtain ⟨w, _, rfl⟩ := Epoch.updateWeights_run_ok hrun
    exact .idle
  | initializeEpochSnapshot clock bump operatorCount => exact initializeEpochSnapshot_change h
  | initializeOperatorSnapshot clock bump operator operatorIndex operatorFeeBps isActive =>
    exact initializeOperatorSnapshot_change h
  | snapshotVaultOperatorDelegation clock operator v =>
    obtain ⟨_, _, e, hrun, rfl⟩ := loaded_ok h
    exact .of_eq .idle (book_snapshotVaultOperatorDelegation hrun)
  | initializeBallotBox bump => exact initializeBallotBox_change h
  | reallocBallotBox clock bump => exact reallocBallotBox_change h
  | castVote clock operator voter operatorAdmin weatherStatus =>
    obtain ⟨_, _, hg, h⟩ := run_bind_ok.1 h
    obtain ⟨_, _, hg', hg⟩ := run_bind_ok.1 hg
    cases hg'
    obtain ⟨_, rfl⟩ := run_ensure_ok.1 hg
    obtain ⟨hlive, hloaded, e, hrun, rfl⟩ := loaded_ok h
    exact castVote_change hlive (hloaded _ (by simp)) (hloaded _ (by simp)) hrun
  | adminSetTieBreaker clock tieBreakerAdmin weatherStatus =>
    obtain ⟨hlive, hloaded, e, hrun, rfl⟩ := loaded_ok h
    exact adminSetTieBreaker_change hlive (hloaded _ (by simp)) hrun
  | adminSetParameters ncn admin ncnAdmin o₁ o₂ o₃ o₄ =>
    obtain ⟨e, hrun, rfl⟩ := run_zoom_ok.1 h
    obtain ⟨c, hc, rfl⟩ := Epoch.processAdminSetParameters_run_ok hrun
    obtain ⟨_, _, _, rfl⟩ := Config.setParameters_run_ok hc
    exact .of_eq .idle rfl
  | adminSetNewAdmin ncn admin ncnAdmin newAdmin =>
    obtain ⟨e, hrun, rfl⟩ := run_zoom_ok.1 h
    obtain ⟨_, _, hg, hrun⟩ := run_bind_ok.1 hrun
    cases hg
    obtain ⟨_, _, hg, hrun⟩ := run_bind_ok.1 hrun
    obtain ⟨_, rfl⟩ := run_ensure_ok.1 hg
    obtain ⟨_, _, hg, hrun⟩ := run_bind_ok.1 hrun
    obtain ⟨_, rfl⟩ := run_ensure_ok.1 hg
    cases hrun
    exact .idle
  | initializeNcnRewardRouter => exact initializeNcnRewardRouter_change h
  | reallocNcnRewardRouter clock bump => exact reallocNcnRewardRouter_change h
  | initializeOperatorVaultRewardRouter clock bump operator =>
    exact initializeOperatorVaultRewardRouter_change h
  | routeNcnRewards clock maxIterations =>
    obtain ⟨_, _, e, hrun, rfl⟩ := loaded_ok h
    obtain ⟨r, rfl⟩ := Epoch.processRouteNcnRewards_run_ok hrun
    exact .idle
  | routeOperatorVaultRewards operator maxIterations =>
    obtain ⟨_, _, e, hrun, rfl⟩ := loaded_ok h
    exact .of_eq .idle (book_routeOperatorVaultRewards hrun)
  | distributeNcnRewards ncnFeeWallet | distributeProtocolRewards protocolFeeWallet =>
    obtain ⟨_, _, e, hrun, rfl⟩ := loaded_ok h
    obtain ⟨_, _, hg, hrun⟩ := run_bind_ok.1 hrun
    cases hg
    obtain ⟨_, _, hg, hrun⟩ := run_bind_ok.1 hrun
    obtain ⟨_, rfl⟩ := run_ensure_ok.1 hg
    obtain ⟨rewards, _, hpay, hrun⟩ := run_bind_ok.1 hrun
    cases hrun
    exact .of_eq .idle (book_distributeNcn hpay fun _ _ => ⟨rfl, rfl, rfl, rfl, rfl⟩)
  | distributeOperatorVaultRewardRoute operator =>
    obtain ⟨_, _, e, hrun, rfl⟩ := loaded_ok h
    obtain ⟨_, _, hg, hrun⟩ := run_bind_ok.1 hrun
    cases hg
    obtain ⟨_, _, hg, hrun⟩ := run_bind_ok.1 hrun
    obtain ⟨_, rfl⟩ := run_okOr_ok.1 hg
    obtain ⟨rewards, e₁, hpay, hrun⟩ := run_bind_ok.1 hrun
    cases hrun
    have hbook : book { s with accounts := e₁ } = s.book :=
      book_distributeNcn hpay fun _ _ => ⟨rfl, rfl, rfl, rfl, rfl⟩
    exact .of_eq .idle hbook
  | distributeOperatorRewards operator =>
    obtain ⟨_, _, e, hrun, rfl⟩ := loaded_ok h
    exact .of_eq .idle (book_distributeOperatorVault
      (OperatorVaultRewardRouter.leaves_distributeOperatorRewards
        OperatorVaultRewardRouter.apart_ncnOperatorIndex) hrun)
  | distributeVaultRewards operator vault =>
    obtain ⟨_, _, e, hrun, rfl⟩ := loaded_ok h
    exact .of_eq .idle (book_distributeOperatorVault
      (OperatorVaultRewardRouter.leaves_distributeVaultRewardRoute
        OperatorVaultRewardRouter.apart_ncnOperatorIndex vault) hrun)
  | depositNcn lamports => cases h; exact .idle
  | depositOperatorVault operator lamports => cases h; exact .idle
  | closeEpochAccount clock target => exact closeEpochAccount_change h

/-- What the epoch state says is true in every state that can be reached from nothing. -/
theorem truthful {s₀ : Lifecycle} (h₀ : s₀.Untouched) (h : Run (Step cl) s₀ s) :
    s.book.Truthful cl.index := by
  have hbefore : s₀.book.Truthful cl.index := by
    refine .before h₀.epochState h₀.epochMarker ⟨h₀.single, fun p => ?_, fun p => ?_⟩
    · exact congrArg (Option.map _) (h₀.operatorSnapshot p)
    · exact congrArg (Option.map _) (h₀.operatorVaultRewardRouter p)
  exact h.invariant (I := fun s => s.book.Truthful cl.index) hbefore fun _ _ hstep ht =>
    ht.change cl.index_injective hstep.change

/-- Also when the epoch state may be emptied, what it has as closed is gone. -/
lemma steady {s₀ : Lifecycle} (h₀ : s₀.Untouched) (h : Run (StepOrEmptied cl) s₀ s) : s.book.Steady cl.index := by
  have hsnapshot : ∀ p i, s₀.book.snapshot p ≠ some i := fun p i hp => by
    cases (congrArg (Option.map _) (h₀.operatorSnapshot p)).symm.trans hp
  have hrouter : ∀ p i, s₀.book.router p ≠ some i := fun p i hp => by
    cases (congrArg (Option.map _) (h₀.operatorVaultRewardRouter p)).symm.trans hp
  have hbefore : s₀.book.Steady cl.index :=
    ⟨fun p i hp => absurd hp (hsnapshot p i), fun p i hp => absurd hp (hrouter p i), fun _ => h₀.epochMarker,
      fun hlive => (by cases h₀.epochState.symm.trans hlive), fun _ p i hp => absurd hp (hsnapshot p i),
      fun _ p i hp => absurd hp (hrouter p i)⟩
  refine h.invariant (I := fun s => s.book.Steady cl.index) hbefore fun s s' hstep hs => ?_
  rcases hstep with hstep | ⟨_, rfl⟩
  · exact hs.change cl.index_injective hstep.change
  · exact hs.emptied

/-- The book of an epoch that is going on. -/
lemma live_book {s₀ : Lifecycle} (h₀ : s₀.Untouched) (hrun : Run (Step cl) s₀ s) (hlive : s.epochState = true) :
    s.book.Live cl.index :=
  (truthful h₀ hrun).live hlive

end Lifecycle
end NcnProgram
