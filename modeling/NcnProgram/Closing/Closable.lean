import NcnProgram.Closing.Refinement

/-!
# When an epoch can be closed

The epoch state can be closed exactly when it says of the four accounts that an epoch has one of that they are
closed, and of every operator's account that it is closed or was never created. What it says is true, so this
differs from "everything that was created is closed" for an epoch in which one of the four was never created.
Before closing can begin there has been a vote, which needs three of them; but the NCN reward router is needed
only for distributing rewards. An epoch that starts to close without one cannot create it any more, and its
state stays open for good; with one, it can always be closed.
-/

namespace NcnProgram
open Lib NCNProgramError EpochAccountStatus

namespace Book

/-- How far an account is from being closed. -/
def weight : Slot → ℕ
  | .absent => 0
  | .initialized => 1
  | .allocated dataLen => 2 + (NCNRewardRouter.size - dataLen)

/-- How far an epoch is from being closed. -/
def measure (b : Book) : ℕ :=
  weight (b.single .weightTable) + weight (b.single .epochSnapshot) + weight (b.single .ballotBox) +
    weight (b.single .ncnRewardRouter) + b.snapshotStatus.toList.countP (!isGone ·) +
    b.routerStatus.toList.countP (!isGone ·)

/-- The epoch is closing and has had an NCN reward router. -/
structure Closable (index : Pubkey → ℕ) (b : Book) : Prop extends Live index b where
  started : b.closing = true
  made : b.Made .ncnRewardRouter

variable {index : Pubkey → ℕ} {b : Book}

/-- Bringing one of the four accounts nearer to its end. -/
lemma measure_update_lt {k : Single} {slot : Slot} (h : weight slot < weight (b.single k))
    (closing voted : Bool) (status : Single → AccountStatus) :
    measure { b with closing, voted, status, single := Function.update b.single k slot } < b.measure := by
  cases k <;> simp [measure, Function.update] <;> omega

/-- Closing the account of an operator. -/
lemma countP_set_lt {statuses : Table AccountStatus maxOperators} {accounts : Pubkey → Option ℕ}
    (h : TracksOperators index statuses accounts) {p : Pubkey} {i : ℕ} (hp : accounts p = some i) :
    (statuses.set i .closed).toList.countP (!isGone ·) < statuses.toList.countP (!isGone ·) := by
  obtain ⟨a, ha⟩ := statuses.exists_get? (h.index p i hp).2
  have hopen := (h.status i a ha).2 ⟨p, hp⟩
  obtain ⟨hlt, hget⟩ := List.getElem?_eq_some_iff.1 ha
  have hpos : 0 < statuses.toList.countP (!isGone ·) :=
    List.countP_pos_iff.2 ⟨a, List.mem_of_getElem? ha, by rw [hopen]; rfl⟩
  have hclosed : (!isGone .closed) = false := rfl
  rw [Table.toList_set, List.countP_set hlt, hget, hopen, hclosed, if_pos Bool.not_false,
    if_neg Bool.false_ne_true]
  omega

/-- A change that does not end the epoch keeps it closable. -/
lemma Closable.change (hinj : Function.Injective index) (h : Closable index b) {b' : Book}
    (hb : Change index b b') (hlive : b'.live = true) : Closable index b' := by
  have hlive' : Live index b' := by
    cases h.toLive.change hinj hb with
    | during h' => exact h'
    | before hfalse => rw [hlive] at hfalse; cases hfalse
    | after hfalse => rw [hlive] at hfalse; cases hfalse
  refine ⟨hlive', ?_, h.made.change h.live hb⟩
  cases hb with
  | start hfalse => rw [h.live] at hfalse; cases hfalse
  | closeSingle | closeSnapshot | closeRouter | closeOther | finish => rfl
  | _ => exact h.started

end Book

namespace Lifecycle
variable {cl : Cluster} {s s' : Lifecycle}

/-! ## Closing what is there -/

/-- There is a slot at which accounts can be closed. -/
lemma exists_slot (cl : Cluster) (hc : s.book.consensus = true) :
    ∃ clock : Clock, s.accounts.epochState.canCloseEpochAccounts cl.getEpoch
      s.accounts.config.epochsAfterConsensusBeforeClose clock.slot = .ok true := by
  obtain ⟨slot, hslot⟩ := cl.getEpoch_unbounded (cl.getEpoch s.accounts.epochState.slotConsensusReached +
    s.accounts.config.epochsAfterConsensusBeforeClose)
  refine ⟨⟨slot, 0⟩, canCloseEpochAccounts_ok.2 ⟨hc, ?_⟩⟩
  show _ ≤ cl.getEpoch slot - _
  omega

/-- An account that is there, with data that can be closed, is closed by one instruction. -/
lemma exists_close (cl : Cluster) (h : s.book.Closable cl.index) (target : Target)
    (hdata : s.dataIsEmpty target = false) (hclose : Succeeds (closeTarget cl target) s.startClosing) :
    ∃ s', Step cl s s' ∧ (closeTarget cl target).run s.startClosing = .ok () s' := by
  obtain ⟨clock, hcan⟩ := exists_slot cl (h.closing h.started)
  obtain ⟨_, s', hrun⟩ := hclose
  exact ⟨s', ⟨.closeEpochAccount clock target,
    processCloseEpochAccount_ok.2 ⟨h.live, h.marker, hdata, hcan, hrun⟩⟩, hrun⟩

/-- The rent of the NCN reward receiver can be topped up. -/
lemma exists_deposit (cl : Cluster) (s : Lifecycle) :
    ∃ s', Step cl s s' ∧ s'.book = s.book ∧ cl.minRent ≤ s'.accounts.ncnRewardReceiver :=
  ⟨_, ⟨.depositNcn cl.minRent, rfl⟩, rfl, Nat.le_add_left ..⟩

/-- So can the rent of an operator's reward receiver. -/
lemma exists_depositOperatorVault (cl : Cluster) (s : Lifecycle) (p : Pubkey) :
    ∃ s', Step cl s s' ∧ s'.book = s.book ∧ cl.minRent ≤ s'.accounts.operatorVaultRewardReceiver p := by
  refine ⟨_, ⟨.depositOperatorVault p cl.minRent, rfl⟩, rfl, ?_⟩
  simp

/-- One of the four accounts can be closed. -/
lemma closeSingle_succeeds {k : Single} (hinit : s.single k = .initialized)
    (hrent : cl.minRent ≤ s.accounts.ncnRewardReceiver) : Succeeds (closeTarget cl (.single k)) s := by
  have hreceiver : closeReceiver cl s.accounts.ncnRewardReceiver = .ok 0 := closeReceiver_ok.2 ⟨hrent, rfl⟩
  unfold closeTarget
  refine .bind (a := s) rfl (.bind (a := ()) (run_ensure_ok.2 ⟨hinit, rfl⟩) ?_)
  dsimp only
  split
  · exact .bind (run_ofExcept_ok.2 ⟨hreceiver, rfl⟩) ⟨_, _, rfl⟩
  · exact ⟨_, _, rfl⟩

/-- Closing the snapshot of an operator. -/
lemma closeSnapshot_run (cl : Cluster) {p : Pubkey} {t : OperatorSnapshot} {st : EpochState}
    (ht : s.accounts.operatorSnapshot p = some t)
    (hst : (EpochState.closeOperatorSnapshot t.ncnOperatorIndex).run s.accounts.epochState = .ok () st) :
    (closeTarget cl (.operatorSnapshot p)).run s = .ok () { s with accounts := { s.accounts with
      epochState := st
      operatorSnapshot := Function.update s.accounts.operatorSnapshot p none } } := by
  refine run_bind_ok.2 ⟨s, s, rfl, run_bind_ok.2 ⟨t, s, run_okOr_ok.2 ⟨ht, rfl⟩, ?_⟩⟩
  exact run_bind_ok.2 ⟨(), _, run_zoom_ok.2 ⟨_, run_zoom_ok.2 ⟨st, hst, rfl⟩, rfl⟩, rfl⟩

/-- The snapshot of an operator can be closed. -/
lemma closeSnapshot_succeeds {p : Pubkey} {i : ℕ} (hp : s.book.snapshot p = some i) (hi : i < maxOperators) :
    Succeeds (closeTarget cl (.operatorSnapshot p)) s := by
  obtain ⟨t, ht, rfl⟩ := Option.map_eq_some_iff.1 hp
  obtain ⟨st, hst⟩ : ∃ st, (EpochState.closeOperatorSnapshot t.ncnOperatorIndex).run s.accounts.epochState =
      .ok () st := ⟨_, run_bind_ok.2 ⟨(), _, run_ensure_ok.2 ⟨hi, rfl⟩, rfl⟩⟩
  exact ⟨_, _, closeSnapshot_run cl ht hst⟩

/-- Closing the reward router of an operator. -/
lemma closeRouter_run (cl : Cluster) {p : Pubkey} {r : OperatorVaultRewardRouter} {st : EpochState}
    (hr : s.accounts.operatorVaultRewardRouter p = some r)
    (hst : (EpochState.closeOperatorVaultRewardRouter r.ncnOperatorIndex).run s.accounts.epochState = .ok () st)
    (hrent : cl.minRent ≤ s.accounts.operatorVaultRewardReceiver p) :
    (closeTarget cl (.operatorVaultRewardRouter p)).run s = .ok () { s with accounts := { s.accounts with
      operatorVaultRewardReceiver := Function.update s.accounts.operatorVaultRewardReceiver p 0
      epochState := st
      operatorVaultRewardRouter := Function.update s.accounts.operatorVaultRewardRouter p none } } := by
  have hreceiver : closeReceiver cl (s.accounts.operatorVaultRewardReceiver p) = .ok 0 :=
    closeReceiver_ok.2 ⟨hrent, rfl⟩
  refine run_bind_ok.2 ⟨s, s, rfl, run_bind_ok.2 ⟨r, s, run_okOr_ok.2 ⟨hr, rfl⟩, ?_⟩⟩
  refine run_bind_ok.2 ⟨0, s, run_ofExcept_ok.2 ⟨hreceiver, rfl⟩, run_bind_ok.2 ⟨(), _, rfl, ?_⟩⟩
  exact run_bind_ok.2 ⟨(), _, run_zoom_ok.2 ⟨_, run_zoom_ok.2 ⟨st, hst, rfl⟩, rfl⟩, rfl⟩

/-- The reward router of an operator can be closed. -/
lemma closeRouter_succeeds {p : Pubkey} {i : ℕ} (hp : s.book.router p = some i) (hi : i < maxOperators)
    (hrent : cl.minRent ≤ s.accounts.operatorVaultRewardReceiver p) :
    Succeeds (closeTarget cl (.operatorVaultRewardRouter p)) s := by
  obtain ⟨r, hr, rfl⟩ := Option.map_eq_some_iff.1 hp
  obtain ⟨st, hst⟩ : ∃ st, (EpochState.closeOperatorVaultRewardRouter r.ncnOperatorIndex).run
      s.accounts.epochState = .ok () st := ⟨_, run_bind_ok.2 ⟨(), _, run_ensure_ok.2 ⟨hi, rfl⟩, rfl⟩⟩
  exact ⟨_, _, closeRouter_run cl hr hst hrent⟩

/-- The epoch state can be closed if it says that all accounts are. -/
lemma closeEpochState_succeeds (hnamed : s.book.named = true) (hmarked : s.book.AllMarked) :
    Succeeds (closeTarget cl .epochState) s := by
  obtain ⟨hncn, hepoch⟩ := of_decide_eq_true hnamed
  unfold closeTarget
  refine .bind (a := s) rfl (.bind (run_ofExcept_ok.2 ⟨loadToClose_ok.2 ?_, rfl⟩) ⟨_, _, rfl⟩)
  exact ⟨hncn, hepoch, areAllClosed_iff.2 hmarked⟩

/-- An account that has been allocated grows, or has its size. -/
lemma exists_realloc_run (hlive : s.epochState = true) {k : Single} {size dataLen : ℕ} (hsize : size < 2 ^ 63)
    (halloc : s.single k = .allocated dataLen) :
    ∃ done newLen, (realloc k size).run s = .ok done (s.setSingle k (.allocated newLen)) ∧
      (done = true ∨ dataLen < newLen ∧ dataLen < size) := by
  by_cases hlt : dataLen < size
  · have hnew : getNewSize dataLen size = .ok (min (dataLen + maxReallocBytes) size) := by
      have hfits : dataLen + maxReallocBytes < 2 ^ 64 := by
        rw [maxReallocBytes]
        omega
      rw [getNewSize, checkedAdd_of_lt hfits]
      rfl
    refine ⟨decide (size ≤ min (dataLen + maxReallocBytes) size), min (dataLen + maxReallocBytes) size,
      ?_, ?_⟩
    · refine run_bind_ok.2 ⟨(), s, loadEpochState_ok.2 ⟨hlive, rfl⟩, run_bind_ok.2 ⟨s, s, rfl, ?_⟩⟩
      simp only [halloc, if_pos hlt]
      exact run_bind_ok.2 ⟨_, s, run_ofExcept_ok.2 ⟨hnew, rfl⟩, rfl⟩
    · rw [maxReallocBytes, decide_eq_true_iff]
      omega
  · refine ⟨true, dataLen, ?_, .inl rfl⟩
    refine run_bind_ok.2 ⟨(), s, loadEpochState_ok.2 ⟨hlive, rfl⟩, run_bind_ok.2 ⟨s, s, rfl, ?_⟩⟩
    simp only [halloc, if_neg hlt]
    rw [setSingle, ← halloc, Function.update_eq_self]
    rfl

/-- A router that has been allocated gets nearer to its end. -/
lemma exists_realloc (cl : Cluster) (hlive : s.epochState = true) {dataLen : ℕ}
    (halloc : s.single .ncnRewardRouter = .allocated dataLen) :
    ∃ s', Step cl s s' ∧ s'.epochState = true ∧ s'.book.measure < s.book.measure := by
  obtain ⟨done, newLen, hrun, hdone⟩ :=
    exists_realloc_run hlive (show NCNRewardRouter.size < 2 ^ 63 by decide) halloc
  have hold : Book.weight (s.book.single .ncnRewardRouter) = 2 + (NCNRewardRouter.size - dataLen) :=
    congrArg Book.weight halloc
  let i : Instruction := .reallocNcnRewardRouter ⟨0, 0⟩ 0
  cases done with
  | false =>
    have hgrown : dataLen < newLen ∧ dataLen < NCNRewardRouter.size := by simpa using hdone
    refine ⟨_, ⟨i, run_bind_ok.2 ⟨false, _, hrun, rfl⟩⟩, hlive, ?_⟩
    have hlt : Book.weight (.allocated newLen) < Book.weight (s.book.single .ncnRewardRouter) := by
      rw [hold, Book.weight]
      omega
    exact Book.measure_update_lt hlt s.book.closing s.book.voted s.book.status
  | true =>
    refine ⟨_, ⟨i, run_bind_ok.2 ⟨true, _, hrun, rfl⟩⟩, hlive, ?_⟩
    have hlt : Book.weight .initialized < Book.weight (s.book.single .ncnRewardRouter) := by
      rw [hold, Book.weight]
      omega
    refine lt_of_eq_of_lt ?_ (Book.measure_update_lt hlt s.book.closing s.book.voted s.book.status)
    simp [Book.measure, book, setSingle, EpochState.updateReallocNcnRewardRouter, EpochState.onStatus]

/-- A closable epoch is brought nearer to its end by one more instruction. -/
lemma nearer {s₁ s₂ : Lifecycle} (h : s.book.Closable cl.index) (hrun : Run (Step cl) s s₁)
    (hbook : s₁.book = s.book) (hstep : Step cl s₁ s₂) (hlive : s₂.book.live = true)
    (hlt : s₂.book.measure < s.book.measure) :
    ∃ s', Run (Step cl) s s' ∧ s'.book.Closable cl.index ∧ s'.book.measure < s.book.measure :=
  ⟨s₂, hrun.tail hstep, (hbook ▸ h : s₁.book.Closable cl.index).change cl.index_injective hstep.change hlive,
    hlt⟩

/-- One of the four accounts is closed. -/
lemma progress_single (h : s.book.Closable cl.index) {k : Single} (hk : s.single k = .initialized) :
    ∃ s', Run (Step cl) s s' ∧ s'.book.Closable cl.index ∧ s'.book.measure < s.book.measure := by
  obtain ⟨s₁, hstep₁, hbook, hrent⟩ := exists_deposit cl s
  have hk₁ : s₁.single k = .initialized := (congrFun (congrArg Book.single hbook) k).trans hk
  obtain ⟨s₂, hstep₂, hrun⟩ := exists_close cl (hbook ▸ h) (.single k) (by simp [dataIsEmpty, hk₁])
    (closeSingle_succeeds hk₁ hrent)
  obtain ⟨_, hb⟩ := closeSingle_ok hrun
  have hlt : Book.weight .absent < Book.weight (s.book.single k) := by
    rw [show s.book.single k = .initialized from hk]
    decide
  refine nearer h (.single hstep₁) hbook hstep₂ ?_ ?_
  · rw [hb]
    exact (congrArg Book.live hbook).trans h.live
  · rw [hb]
    have hsame : s₁.startClosing.book = { s.book with closing := true } := by rw [← hbook]; rfl
    have hsingle : s₁.startClosing.single = s.book.single := congrArg Book.single hbook
    rw [hsame, hsingle]
    exact Book.measure_update_lt hlt true _ _

/-- The snapshot of an operator is closed. -/
lemma progress_snapshot (h : s.book.Closable cl.index) {p : Pubkey} {i : ℕ} (hp : s.book.snapshot p = some i) :
    ∃ s', Run (Step cl) s s' ∧ s'.book.Closable cl.index ∧ s'.book.measure < s.book.measure := by
  have hi := (h.snapshot.index p i hp).2
  obtain ⟨t, ht, _⟩ := Option.map_eq_some_iff.1 hp
  obtain ⟨s₂, hstep, hrun⟩ := exists_close cl h (.operatorSnapshot p) (by simp [dataIsEmpty, ht])
    (closeSnapshot_succeeds hp hi)
  obtain ⟨j, hj, hb⟩ := closeSnapshot_ok hrun
  obtain rfl : i = j := Option.some.inj (hp.symm.trans hj)
  refine nearer h .refl rfl hstep ?_ ?_
  · rw [hb]
    exact h.live
  · rw [hb]
    exact Nat.add_lt_add_right (Nat.add_lt_add_left (Book.countP_set_lt h.snapshot hp) _) _

/-- The reward router of an operator is closed. -/
lemma progress_router (h : s.book.Closable cl.index) {p : Pubkey} {i : ℕ} (hp : s.book.router p = some i) :
    ∃ s', Run (Step cl) s s' ∧ s'.book.Closable cl.index ∧ s'.book.measure < s.book.measure := by
  have hi := (h.router.index p i hp).2
  obtain ⟨s₁, hstep₁, hbook, hrent⟩ := exists_depositOperatorVault cl s p
  have hp₁ : s₁.book.router p = some i := hbook ▸ hp
  obtain ⟨r, hr, _⟩ := Option.map_eq_some_iff.1 hp₁
  obtain ⟨s₂, hstep₂, hrun⟩ := exists_close cl (hbook ▸ h) (.operatorVaultRewardRouter p)
    (by simp [dataIsEmpty, hr]) (closeRouter_succeeds hp₁ hi hrent)
  obtain ⟨j, hj, hb⟩ := closeRouter_ok hrun
  obtain rfl : i = j := Option.some.inj (hp₁.symm.trans hj)
  have hsame : s₁.startClosing.book = { s.book with closing := true } := by rw [← hbook]; rfl
  refine nearer h (.single hstep₁) hbook hstep₂ ?_ ?_
  · rw [hb, hsame]
    exact h.live
  · rw [hb, hsame]
    exact Nat.add_lt_add_left (Book.countP_set_lt h.router hp) _

/-- A closable epoch with nothing left to close is ended. -/
lemma exists_finish (h : s.book.Closable cl.index) (hsingle : ∀ k, s.single k ≠ .initialized)
    (hsnap : ∀ p, s.book.snapshot p = none) (hrouter : ∀ p, s.book.router p = none)
    (hgrown : ∀ dataLen, s.single .ncnRewardRouter ≠ .allocated dataLen) :
    ∃ s', Step cl s s' ∧ s'.epochState = false ∧ s'.epochMarker = true := by
  have hneeds := h.consensus (h.closing h.started)
  have hne : ∀ k, s.book.status k ≠ .dne := by
    intro k
    cases k with
    | weightTable => exact h.epochSnapshot hneeds.2
    | epochSnapshot => exact hneeds.2
    | ballotBox => exact hneeds.1
    | ncnRewardRouter =>
      refine h.made.elim id fun hthere => ?_
      cases hslot : s.single .ncnRewardRouter with
      | absent => exact absurd hslot hthere
      | allocated dataLen => exact absurd hslot (hgrown dataLen)
      | initialized => exact absurd hslot (hsingle _)
  have habsent : ∀ k, s.book.single k = .absent := by
    intro k
    rcases (h.single k).cases_of_ne_dne (hne k) with ⟨hinit, _⟩ | ⟨habs, _⟩
    · exact absurd hinit (hsingle k)
    · exact habs
  have hmarked := h.toLive.allMarked_iff.2 ⟨⟨habsent, hsnap, hrouter⟩, hne⟩
  have hlive : s.epochState = true := h.live
  obtain ⟨s', hstep, hrun⟩ := exists_close cl h .epochState (by simp [dataIsEmpty, hlive])
    (closeEpochState_succeeds h.named { hmarked with })
  obtain ⟨_, hb⟩ := closeEpochState_ok hrun
  exact ⟨s', hstep, congrArg Book.live hb, congrArg Book.marker hb⟩

/-- A closable epoch can be closed. -/
lemma Closable.closes (h : s.book.Closable cl.index) :
    ∃ s', Run (Step cl) s s' ∧ s'.epochState = false ∧ s'.epochMarker = true := by
  refine Run.reaches (I := fun s => s.book.Closable cl.index) (fun s => s.book.measure) (fun s h => ?_) h
  by_cases hsingle : ∃ k, s.single k = .initialized
  · obtain ⟨k, hk⟩ := hsingle
    exact .inr (progress_single h hk)
  by_cases hsnap : ∃ p i, s.book.snapshot p = some i
  · obtain ⟨p, i, hp⟩ := hsnap
    exact .inr (progress_snapshot h hp)
  by_cases hrouter : ∃ p i, s.book.router p = some i
  · obtain ⟨p, i, hp⟩ := hrouter
    exact .inr (progress_router h hp)
  by_cases hgrown : ∃ dataLen, s.single .ncnRewardRouter = .allocated dataLen
  · obtain ⟨dataLen, halloc⟩ := hgrown
    obtain ⟨s', hstep, hlive, hlt⟩ := exists_realloc cl h.live halloc
    exact .inr (nearer h .refl rfl hstep hlive hlt)
  obtain ⟨s', hstep, hend⟩ := exists_finish h (not_exists.1 hsingle)
    (fun p => Option.eq_none_iff_forall_ne_some.2 fun i hp => hsnap ⟨p, i, hp⟩)
    (fun p => Option.eq_none_iff_forall_ne_some.2 fun i hp => hrouter ⟨p, i, hp⟩) (not_exists.1 hgrown)
  exact .inl ⟨s', .single hstep, hend⟩

/-! ## What was created -/

/-- An account of the epoch other than its state. -/
inductive OtherAccount where
  | single (k : Single)
  | operatorSnapshot (operator : Pubkey)
  | operatorVaultRewardRouter (operator : Pubkey)

/-- The account is there. -/
def Has (s : Lifecycle) : OtherAccount → Prop
  | .single k => s.single k ≠ .absent
  | .operatorSnapshot operator => s.accounts.operatorSnapshot operator ≠ none
  | .operatorVaultRewardRouter operator => s.accounts.operatorVaultRewardRouter operator ≠ none

/-- The account was there at some time between the two states. -/
def EverCreated (cl : Cluster) (s₀ s : Lifecycle) (a : OtherAccount) : Prop :=
  ∃ s₁, Run (Step cl) s₀ s₁ ∧ Run (Step cl) s₁ s ∧ s₁.Has a

/-- Every other account that was created has been closed. -/
def CreatedAreClosed (cl : Cluster) (s₀ s : Lifecycle) : Prop := ∀ a, EverCreated cl s₀ s a → ¬s.Has a

variable {s₀ : Lifecycle}

/-- Everything created has been closed exactly when nothing is there. -/
lemma createdAreClosed_iff (hrun : Run (Step cl) s₀ s) : CreatedAreClosed cl s₀ s ↔ s.book.AllClosed := by
  constructor
  · intro h
    have hgone : ∀ a, ¬s.Has a := fun a ha => h a ⟨s, hrun, .refl, ha⟩ ha
    refine ⟨fun k => not_not.1 (hgone (.single k)), fun p => ?_, fun p => ?_⟩
    · exact Option.map_eq_none_iff.2 (not_not.1 (hgone (.operatorSnapshot p)))
    · exact Option.map_eq_none_iff.2 (not_not.1 (hgone (.operatorVaultRewardRouter p)))
  · intro h a _ ha
    cases a with
    | single k => exact ha (h.single k)
    | operatorSnapshot p => exact ha (Option.map_eq_none_iff.1 (h.snapshot p))
    | operatorVaultRewardRouter p => exact ha (Option.map_eq_none_iff.1 (h.router p))

/-- In an epoch that is going on, what is marked has been there. -/
lemma everCreated_of_status (h₀ : s₀.Untouched) (hrun : Run (Step cl) s₀ s) (hlive : s.epochState = true)
    {k : Single} (h : s.book.status k ≠ .dne) : EverCreated cl s₀ s (.single k) := by
  induction hrun with
  | refl => rw [h₀.epochState] at hlive; cases hlive
  | @tail s₁ s hrun hstep ih =>
    rcases hstep.change.marked hlive h with ⟨hlive₁, h₁⟩ | hthere | hthere
    · obtain ⟨s₂, hto, hfrom, hhas⟩ := ih hlive₁ h₁
      exact ⟨s₂, hto, hfrom.tail hstep, hhas⟩
    · exact ⟨s, hrun.tail hstep, .refl, hthere⟩
    · exact ⟨s₁, hrun, .single hstep, hthere⟩

/-- In an epoch that is going on, one of the four accounts has been created exactly when it is marked or
there. -/
lemma everCreated_iff (h₀ : s₀.Untouched) (hrun : Run (Step cl) s₀ s) (hlive : s.epochState = true)
    (k : Single) : EverCreated cl s₀ s (.single k) ↔ s.book.Made k := by
  constructor
  · rintro ⟨s₁, hto, hfrom, hhas⟩
    have hbegun : s₁.epochState = true ∨ s₁.epochMarker = true := by
      cases truthful h₀ hto with
      | before _ _ hnone => exact absurd (hnone.single k) hhas
      | during h₁ => exact .inl h₁.live
      | after _ hmarker => exact .inr hmarker
    refine (hfrom.invariant (I := fun s => (s.epochState = true ∨ s.epochMarker = true) ∧
      (s.epochState = true → s.book.Made k)) ⟨hbegun, fun _ => .inr hhas⟩ ?_).2 hlive
    rintro t t' hstep ⟨hb, hmade⟩
    obtain ⟨hwas, hb'⟩ := hstep.change.begun hb
    exact ⟨hb', fun hl => (hmade (hwas hl)).change (hwas hl) hstep.change⟩
  · rintro (hstatus | hthere)
    · exact everCreated_of_status h₀ hrun hlive hstatus
    · exact ⟨s, hrun, .refl, hthere⟩

/-! ## When the state can be closed -/

/-- The epoch's own state can be loaded to be closed exactly when it says that everything is closed. -/
lemma loadToClose_iff (h : s.book.Live cl.index) :
    s.accounts.epochState.loadToClose s.accounts.config.ncn s.epoch = .ok () ↔ s.book.AllMarked := by
  obtain ⟨hncn, hepoch⟩ := of_decide_eq_true h.named
  rw [loadToClose_ok, areAllClosed_iff]
  exact ⟨fun h => h.2.2, fun h => ⟨hncn, hepoch, h⟩⟩

/-- An epoch that has started to close without an NCN reward router stays open. -/
lemma Stuck.never_closes (h : s.book.Stuck) (hrun : Run (Step cl) s s') : s'.epochState = true :=
  (hrun.invariant (I := fun s : Lifecycle => s.book.Stuck) h fun _ _ hstep h => h.change hstep.change).live

/-- The epoch's state can be loaded to be closed exactly when everything created is closed, unless one of the
four accounts was never created and everything else is closed; and an epoch that has started to close can be
closed exactly when it has had an NCN reward router. -/
theorem epochState_closable (h₀ : s₀.Untouched) (hrun : Run (Step cl) s₀ s) (hlive : s.epochState = true) :
    ((s.accounts.epochState.loadToClose s.accounts.config.ncn s.epoch = .ok () ↔
          CreatedAreClosed cl s₀ s) ↔
        (CreatedAreClosed cl s₀ s → ∀ k, EverCreated cl s₀ s (.single k))) ∧
      (s.accounts.epochState.isClosing = true →
        ((∃ s', Run (Step cl) s s' ∧ s'.epochState = false ∧ s'.epochMarker = true) ↔
          EverCreated cl s₀ s (.single .ncnRewardRouter))) := by
  have hbook := live_book h₀ hrun hlive
  have hmade : ∀ k, s.book.AllClosed → (EverCreated cl s₀ s (.single k) ↔ s.book.status k ≠ .dne) := by
    intro k hclosed
    rw [everCreated_iff h₀ hrun hlive]
    exact ⟨fun h => h.elim id fun hthere => absurd (hclosed.single k) hthere, .inl⟩
  constructor
  · rw [loadToClose_iff hbook, hbook.allMarked_iff, createdAreClosed_iff hrun]
    constructor
    · intro h hclosed k
      exact (hmade k hclosed).2 ((h.2 hclosed).2 k)
    · intro h
      exact ⟨fun hm => hm.1, fun hclosed => ⟨hclosed, fun k => (hmade k hclosed).1 (h hclosed k)⟩⟩
  · intro hclosing
    rw [everCreated_iff h₀ hrun hlive]
    constructor
    · rintro ⟨s', hrun', hend, _⟩
      by_contra hnever
      have hstuck : s.book.Stuck :=
        ⟨hlive, hclosing, not_not.1 fun h => hnever (.inr h), not_not.1 fun h => hnever (.inl h)⟩
      cases hend.symm.trans (Stuck.never_closes hstuck hrun')
    · exact fun h => Closable.closes ⟨hbook, hclosing, h⟩

/-- At the end of the small run with an NCN reward router everything has been closed. -/
lemma smallEnd_closed : (smallEnd true).book.AllClosed ∧ ∀ k, (smallEnd true).book.status k ≠ .dne := by
  have hlive : (smallEnd true).epochState = true := by decide +kernel
  have hmarked : (smallEnd true).accounts.epochState.accountStatus.areAllClosed = true := by decide +kernel
  exact (live_book small_untouched (small_run true) hlive).allMarked_iff.1 (areAllClosed_iff.1 hmarked)

/-- In the small epoch that had an NCN reward router everything has been closed, and its state can be closed
as well. -/
theorem epochState_closable_with_router :
    (smallEnd true).accounts.epochState.loadToClose (smallEnd true).accounts.config.ncn (smallEnd true).epoch =
        .ok () ∧
      ∃ s', Run (Step smallCluster) (smallEnd true) s' ∧ s'.epochState = false ∧ s'.epochMarker = true := by
  have hlive : (smallEnd true).epochState = true := by decide +kernel
  have hclosing : (smallEnd true).accounts.epochState.isClosing = true := by decide +kernel
  obtain ⟨hclosed, hstatus⟩ := smallEnd_closed
  have hcreated : ∀ k, EverCreated smallCluster small (smallEnd true) (.single k) := fun k =>
    everCreated_of_status small_untouched (small_run true) hlive (hstatus k)
  obtain ⟨hload, hends⟩ := epochState_closable small_untouched (small_run true) hlive
  exact ⟨(hload.2 fun _ => hcreated).2 ((createdAreClosed_iff (small_run true)).2 hclosed),
    (hends hclosing).2 (hcreated .ncnRewardRouter)⟩

/-- In the small epoch without an NCN reward router everything that was created has been closed, but its state
cannot be closed, now or ever. -/
theorem epochState_never_closes :
    small.Untouched ∧ Run (Step smallCluster) small (smallEnd false) ∧
      (smallEnd false).epochState = true ∧ (smallEnd false).accounts.epochState.isClosing = true ∧
      CreatedAreClosed smallCluster small (smallEnd false) ∧
      (smallEnd false).accounts.epochState.loadToClose (smallEnd false).accounts.config.ncn
        (smallEnd false).epoch = .error (cannotCloseEpochStateAccount : ProgramError) ∧
      ¬∃ s', Run (Step smallCluster) (smallEnd false) s' ∧ s'.epochState = false ∧ s'.epochMarker = true := by
  have hlive : (smallEnd false).epochState = true := by decide +kernel
  have hclosing : (smallEnd false).accounts.epochState.isClosing = true := by decide +kernel
  have hbook := live_book small_untouched (small_run false) hlive
  have hstuck : (smallEnd false).book.Stuck := ⟨hlive, hclosing, by decide +kernel, by decide +kernel⟩
  have hclosed : (smallEnd false).book.AllClosed := by
    refine ⟨fun k => ?_, hbook.snapshot.all_isGone.1 (by decide +kernel),
      hbook.router.all_isGone.1 (by decide +kernel)⟩
    cases k <;> decide +kernel
  refine ⟨small_untouched, small_run false, hlive, hclosing, (createdAreClosed_iff (small_run false)).2 hclosed,
    by decide +kernel, ?_⟩
  rintro ⟨s', hrun, hend, _⟩
  cases hend.symm.trans (Stuck.never_closes hstuck hrun)

end Lifecycle
end NcnProgram
