import NcnProgram.Phases.Effect

/-!
# Once closed, closed for good

An account of an epoch is created once. Accounts are closed only while the epoch is closing, none is created from
then on, and the marker that is left behind when the epoch state is closed keeps the epoch from beginning again. So
whoever has seen an account closed can rely on it.
-/

namespace NcnProgram
open Lib NCNProgramError

namespace Book
variable {index : Pubkey → ℕ} {b b' : Book} {t : Lifecycle.Target}

/-- `data_is_empty`, as the book has it. -/
def absent (b : Book) : Lifecycle.Target → Bool
  | .epochState => !b.live
  | .single k => b.single k == .absent
  | .operatorSnapshot p => (b.snapshot p).isNone
  | .operatorVaultRewardRouter p => (b.router p).isNone
  | .otherEpochState => false

/-- The account is not created any more: the epoch is over, or closing. -/
def Sealed (t : Lifecycle.Target) (b : Book) : Prop :=
  b.live = false ∧ b.marker = true ∨ t ≠ .epochState ∧ b.live = true ∧ b.closing = true

/-- What is sealed stays so. -/
lemma Sealed.change (h : b.Sealed t) (hb : Change index b b') : b'.Sealed t := by
  rcases h with ⟨hlive, hmarker⟩ | ⟨ht, hlive, hclosing⟩
  · cases hb with
    | idle => exact .inl ⟨hlive, hmarker⟩
    | start _ hmarker' => cases hmarker.symm.trans hmarker'
    | finish => exact .inl ⟨rfl, rfl⟩
    | _ => simp_all
  · cases hb with
    | start hlive' => cases hlive.symm.trans hlive'
    | finish => exact .inl ⟨rfl, rfl⟩
    | closeSingle | closeSnapshot | closeRouter | closeOther => exact .inr ⟨ht, hlive, rfl⟩
    | _ => exact .inr ⟨ht, hlive, hclosing⟩

/-- Writing something at an account does not make any account disappear. -/
lemma absent_of_update {α β : Type} [DecidableEq α] {f : α → β} (gone : β → Bool) {k k' : α} {v : β}
    (hv : gone v = false) (h : gone (Function.update f k v k') = true) : gone (f k') = true := by
  by_cases hk : k' = k
  · subst hk
    rw [Function.update_self, hv] at h
    cases h
  · rwa [Function.update_of_ne hk] at h

/-- An account that disappears is closed, and with that sealed. -/
lemma Change.sealed (hb : Change index b b') (ht : b.absent t = false) (ht' : b'.absent t = true) :
    b'.Sealed t := by
  have hclose : b'.live = true → b'.closing = true → b'.Sealed t := by
    intro hlive hclosing
    refine .inr ⟨?_, hlive, hclosing⟩
    rintro rfl
    rw [absent, hlive] at ht'
    cases ht'
  have hkeep : ¬(b'.absent t = true → b.absent t = true) := by
    intro h
    cases ht.symm.trans (h ht')
  cases hb with
  | closeSingle k hlive | closeSnapshot p i hlive | closeRouter p i hlive | closeOther hlive =>
    exact hclose hlive rfl
  | finish => exact .inl ⟨rfl, rfl⟩
  | idle | vote => exact absurd id hkeep
  | start =>
    refine absurd ?_ hkeep
    cases t with
    | epochState => exact fun h => by cases h
    | _ => exact id
  | allocate k dataLen | grow k dataLen newLen | fill k status voted =>
    refine absurd ?_ hkeep
    cases t with
    | single k' => exact absent_of_update (· == Slot.absent) rfl
    | _ => exact id
  | createSnapshot p =>
    refine absurd ?_ hkeep
    cases t with
    | operatorSnapshot p' => exact absent_of_update Option.isNone rfl
    | _ => exact id
  | createRouter p i =>
    refine absurd ?_ hkeep
    cases t with
    | operatorVaultRewardRouter p' => exact absent_of_update Option.isNone rfl
    | _ => exact id

/-- The marker keeps the epoch from beginning again. -/
lemma Change.absent_of_marker (hb : Change index b b') (hlive : b.live = false) (hmarker : b.marker = true) :
    b'.absent .epochState = true := by
  have hlive' : b'.live = false := by
    by_contra h
    have hback := (hb.begun (.inr hmarker)).1 (Bool.not_eq_false _ ▸ h)
    cases hlive.symm.trans hback
  rw [absent, hlive']
  rfl

/-- What is sealed and not there, of the accounts that the epoch has one of, is not created. -/
lemma Sealed.single_absent {k : Single} (h : b.Sealed (.single k)) (hb : Change index b b')
    (hk : b.single k = .absent) : b'.single k = .absent := by
  have hopen : b.live = true → b.closing = false → False := by
    intro hlive hclosing
    rcases h with ⟨hdead, _⟩ | ⟨_, _, hclosing'⟩
    · cases hdead.symm.trans hlive
    · cases hclosing.symm.trans hclosing'
  have hother : ∀ k' slot, k ≠ k' → Function.update b.single k' slot k = .absent := fun k' slot hne =>
    (Function.update_of_ne hne ..).trans hk
  cases hb with
  | allocate k' dataLen hlive hclosing => exact (hopen hlive hclosing).elim
  | grow k' dataLen newLen _ halloc =>
    refine hother k' _ ?_
    rintro rfl
    cases hk.symm.trans halloc
  | fill k' status voted hlive _ hor =>
    refine hother k' _ ?_
    rintro rfl
    rcases hor with ⟨_, hclosing, _⟩ | ⟨_, _, halloc⟩
    · exact hopen hlive hclosing
    · cases hk.symm.trans halloc
  | closeSingle k' =>
    by_cases hne : k = k'
    · subst hne; exact Function.update_self ..
    · exact hother k' _ hne
  | _ => exact hk

/-- No operator gets an account. -/
structure NoneCreated (b b' : Book) : Prop where
  snapshot : ∀ p, b.snapshot p = none → b'.snapshot p = none
  router : ∀ p, b.router p = none → b'.router p = none

lemma NoneCreated.of_eq (h : b' = b) : NoneCreated b b' := h ▸ ⟨fun _ => id, fun _ => id⟩

lemma NoneCreated.trans {b'' : Book} (h : NoneCreated b b') (h' : NoneCreated b' b'') : NoneCreated b b'' :=
  ⟨fun p hp => h'.snapshot p (h.snapshot p hp), fun p hp => h'.router p (h.router p hp)⟩

lemma none_of_none {accounts : Pubkey → Option ℕ} {p q : Pubkey} (h : accounts q = none) :
    Function.update accounts p none q = none := by
  by_cases hq : q = p
  · subst hq; exact Function.update_self ..
  · rwa [Function.update_of_ne hq]

end Book

namespace Lifecycle
open Book
variable {cl : Cluster} {i : Instruction} {s s' : Lifecycle} {u : Unit}

lemma dataIsEmpty_eq (s : Lifecycle) (t : Target) : s.dataIsEmpty t = s.book.absent t := by
  cases t with
  | operatorSnapshot p | operatorVaultRewardRouter p => exact Option.isNone_map.symm
  | _ => rfl

lemma noneCreated_of_loaded {ks : List Single} {x : Mut Epoch Unit}
    (hx : ∀ e, x.run s.accounts = .ok () e → book { s with accounts := e } = s.book)
    (h : (loaded ks x).run s = .ok u s') : s.book.NoneCreated s'.book := by
  obtain ⟨_, _, e, hrun, rfl⟩ := loaded_ok h
  exact .of_eq (hx e hrun)

/-- Growing an account. -/
lemma noneCreated_of_realloc {k : Single} {size : ℕ} {x : Mut Lifecycle Unit}
    (hx : ∀ s₁ s₂, x.run s₁ = .ok () s₂ → s₁.book.NoneCreated s₂.book)
    (h : (do if ← realloc k size then x : Mut Lifecycle Unit).run s = .ok u s') :
    s.book.NoneCreated s'.book := by
  obtain ⟨done, s₁, hg, hrest⟩ := run_bind_ok.1 h
  have hsame : s.book.NoneCreated s₁.book := by
    obtain ⟨_, ⟨_, rfl⟩ | ⟨_, _, _, rfl⟩⟩ := realloc_ok hg
    · exact .of_eq rfl
    · exact ⟨fun _ => id, fun _ => id⟩
  cases done with
  | false => cases hrest; exact hsame
  | true => exact hsame.trans (hx s₁ s' hrest)

/-- Closing an account. -/
lemma noneCreated_of_close {clock : Clock} {target : Target}
    (h : (processCloseEpochAccount cl clock target).run s = .ok u s') : s.book.NoneCreated s'.book := by
  obtain ⟨_, _, _, _, h⟩ := processCloseEpochAccount_ok.1 h
  cases target with
  | epochState =>
    obtain ⟨_, hb⟩ := closeEpochState_ok h
    rw [hb]
    exact ⟨fun _ => id, fun _ => id⟩
  | single k =>
    obtain ⟨_, hb⟩ := closeSingle_ok h
    rw [hb]
    exact ⟨fun _ => id, fun _ => id⟩
  | operatorSnapshot p =>
    obtain ⟨i, _, hb⟩ := closeSnapshot_ok h
    rw [hb]
    exact ⟨fun _ => none_of_none, fun _ => id⟩
  | operatorVaultRewardRouter p =>
    obtain ⟨i, _, hb⟩ := closeRouter_ok h
    rw [hb]
    exact ⟨fun _ => id, fun _ => none_of_none⟩
  | otherEpochState =>
    obtain ⟨_, hb⟩ := closeOther_ok h
    rw [hb]
    exact ⟨fun _ => id, fun _ => id⟩

/-- While the epoch is closing, no instruction creates an operator's account. -/
lemma exec_noneCreated (h : (exec cl i).run s = .ok () s')
    (hclosing : s.epochState = true → s.accounts.epochState.isClosing = true) : s.book.NoneCreated s'.book := by
  have hsealed : s.epochState = true → s.accounts.epochState.isClosing = false →
      s.book.NoneCreated s'.book := by
    intro hlive hfalse
    cases (hclosing hlive).symm.trans hfalse
  cases i with
  | initializeEpochState clock bump =>
    obtain ⟨_, _, rfl⟩ := processInitializeEpochState_ok h
    exact ⟨fun _ => id, fun _ => id⟩
  | initializeWeightTable vaultCount vaultList =>
    obtain ⟨hlive, hfalse, _, _⟩ := processInitializeWeightTable_ok h
    exact hsealed hlive hfalse
  | reallocWeightTable clock bump vaultList stMintList =>
    refine noneCreated_of_realloc (fun s₁ s₂ h => ?_) h
    obtain ⟨_, _, hg, h⟩ := run_bind_ok.1 h
    cases hg
    obtain ⟨weightTable, _, hg, h⟩ := run_bind_ok.1 h
    obtain ⟨_, rfl⟩ := run_ofExcept_ok.1 hg
    cases h
    exact ⟨fun _ => id, fun _ => id⟩
  | adminSetWeight clock ncnAdmin admin stMint weight =>
    refine noneCreated_of_loaded (fun e hrun => ?_) h
    obtain ⟨w, _, rfl⟩ := Epoch.processAdminSetWeight_run_ok hrun
    rfl
  | setEpochWeights clock stMintList =>
    refine noneCreated_of_loaded (fun e hrun => ?_) h
    obtain ⟨w, _, rfl⟩ := Epoch.updateWeights_run_ok hrun
    rfl
  | initializeEpochSnapshot clock bump operatorCount =>
    obtain ⟨hlive, hfalse, _⟩ := processInitializeEpochSnapshot_ok h
    exact hsealed hlive hfalse
  | initializeOperatorSnapshot clock bump operator operatorIndex operatorFeeBps isActive =>
    obtain ⟨_, _, hg, _⟩ := run_bind_ok.1 h
    obtain ⟨hlive, hfalse, _⟩ := loadAndCheckIsClosing_ok hg
    exact hsealed hlive hfalse
  | snapshotVaultOperatorDelegation clock operator v =>
    exact noneCreated_of_loaded (fun e => book_snapshotVaultOperatorDelegation) h
  | initializeBallotBox bump =>
    obtain ⟨hlive, hfalse, _⟩ := processInitializeBallotBox_ok h
    exact hsealed hlive hfalse
  | reallocBallotBox clock bump =>
    refine noneCreated_of_realloc (fun s₁ s₂ h => ?_) h
    cases h
    exact ⟨fun _ => id, fun _ => id⟩
  | castVote clock operator voter operatorAdmin weatherStatus =>
    obtain ⟨_, _, hg, h⟩ := run_bind_ok.1 h
    obtain ⟨_, _, hg', hg⟩ := run_bind_ok.1 hg
    cases hg'
    obtain ⟨_, rfl⟩ := run_ensure_ok.1 hg
    obtain ⟨_, _, e, hrun, rfl⟩ := loaded_ok h
    obtain ⟨_, _, _, _, _, _, _, _, _, _, rfl⟩ := Epoch.processCastVote_run_ok hrun
    exact ⟨fun _ => id, fun _ => id⟩
  | adminSetTieBreaker clock tieBreakerAdmin weatherStatus =>
    obtain ⟨_, _, e, hrun, rfl⟩ := loaded_ok h
    obtain ⟨_, _, rfl⟩ := Epoch.processAdminSetTieBreaker_run_ok hrun
    exact ⟨fun _ => id, fun _ => id⟩
  | adminSetParameters ncn admin ncnAdmin o₁ o₂ o₃ o₄ =>
    obtain ⟨e, hrun, rfl⟩ := run_zoom_ok.1 h
    obtain ⟨c, _, rfl⟩ := Epoch.processAdminSetParameters_run_ok hrun
    exact ⟨fun _ => id, fun _ => id⟩
  | adminSetNewAdmin ncn admin ncnAdmin newAdmin =>
    obtain ⟨e, hrun, rfl⟩ := run_zoom_ok.1 h
    obtain ⟨_, _, hg, hrun⟩ := run_bind_ok.1 hrun
    cases hg
    obtain ⟨_, _, hg, hrun⟩ := run_bind_ok.1 hrun
    obtain ⟨_, rfl⟩ := run_ensure_ok.1 hg
    obtain ⟨_, _, hg, hrun⟩ := run_bind_ok.1 hrun
    obtain ⟨_, rfl⟩ := run_ensure_ok.1 hg
    cases hrun
    exact ⟨fun _ => id, fun _ => id⟩
  | initializeNcnRewardRouter =>
    obtain ⟨hlive, hfalse, _⟩ := processInitializeNcnRewardRouter_ok h
    exact hsealed hlive hfalse
  | reallocNcnRewardRouter clock bump =>
    refine noneCreated_of_realloc (fun s₁ s₂ h => ?_) h
    cases h
    exact ⟨fun _ => id, fun _ => id⟩
  | initializeOperatorVaultRewardRouter clock bump operator =>
    obtain ⟨_, _, hg, _⟩ := run_bind_ok.1 h
    obtain ⟨hlive, hfalse, _⟩ := loadAndCheckIsClosing_ok hg
    exact hsealed hlive hfalse
  | routeNcnRewards clock maxIterations =>
    refine noneCreated_of_loaded (fun e hrun => ?_) h
    obtain ⟨r, rfl⟩ := Epoch.processRouteNcnRewards_run_ok hrun
    rfl
  | routeOperatorVaultRewards operator maxIterations =>
    exact noneCreated_of_loaded (fun e => book_routeOperatorVaultRewards) h
  | distributeNcnRewards ncnFeeWallet | distributeProtocolRewards protocolFeeWallet =>
    refine noneCreated_of_loaded (fun e hrun => ?_) h
    obtain ⟨_, _, hg, hrun⟩ := run_bind_ok.1 hrun
    cases hg
    obtain ⟨_, _, hg, hrun⟩ := run_bind_ok.1 hrun
    obtain ⟨_, rfl⟩ := run_ensure_ok.1 hg
    obtain ⟨rewards, _, hpay, hrun⟩ := run_bind_ok.1 hrun
    cases hrun
    exact book_distributeNcn hpay fun _ _ => ⟨rfl, rfl, rfl, rfl, rfl⟩
  | distributeOperatorVaultRewardRoute operator =>
    refine noneCreated_of_loaded (fun e hrun => ?_) h
    obtain ⟨_, _, hg, hrun⟩ := run_bind_ok.1 hrun
    cases hg
    obtain ⟨_, _, hg, hrun⟩ := run_bind_ok.1 hrun
    obtain ⟨_, rfl⟩ := run_okOr_ok.1 hg
    obtain ⟨rewards, e₁, hpay, hrun⟩ := run_bind_ok.1 hrun
    cases hrun
    have hbook : book { s with accounts := e₁ } = s.book :=
      book_distributeNcn hpay fun _ _ => ⟨rfl, rfl, rfl, rfl, rfl⟩
    exact hbook
  | distributeOperatorRewards operator =>
    exact noneCreated_of_loaded (fun e => book_distributeOperatorVault
      (OperatorVaultRewardRouter.leaves_distributeOperatorRewards
        OperatorVaultRewardRouter.apart_ncnOperatorIndex)) h
  | distributeVaultRewards operator vault =>
    exact noneCreated_of_loaded (fun e => book_distributeOperatorVault
      (OperatorVaultRewardRouter.leaves_distributeVaultRewardRoute
        OperatorVaultRewardRouter.apart_ncnOperatorIndex vault)) h
  | depositNcn lamports => cases h; exact ⟨fun _ => id, fun _ => id⟩
  | depositOperatorVault operator lamports => cases h; exact ⟨fun _ => id, fun _ => id⟩
  | closeEpochAccount clock target => exact noneCreated_of_close h

/-- What is sealed and not there is not created. -/
lemma exec_absent {t : Target} (h : (exec cl i).run s = .ok () s') (hsealed : s.book.Sealed t)
    (hgone : s.book.absent t = true) : s'.book.absent t = true := by
  have hchange := Step.change ⟨i, h⟩
  have hclosing : s.epochState = true → s.accounts.epochState.isClosing = true := by
    intro hlive
    rcases hsealed with ⟨hdead, _⟩ | ⟨_, _, hclosing⟩
    · cases hdead.symm.trans hlive
    · exact hclosing
  have hnone := exec_noneCreated h hclosing
  cases t with
  | epochState =>
    rcases hsealed with ⟨hdead, hmarker⟩ | ⟨hne, _, _⟩
    · exact hchange.absent_of_marker hdead hmarker
    · exact absurd rfl hne
  | single k =>
    have hk := eq_of_beq hgone
    have hfix := hsealed.single_absent hchange hk
    rw [absent, hfix]
    rfl
  | operatorSnapshot p =>
    exact Option.isNone_iff_eq_none.2 (hnone.snapshot p (Option.isNone_iff_eq_none.1 hgone))
  | operatorVaultRewardRouter p =>
    exact Option.isNone_iff_eq_none.2 (hnone.router p (Option.isNone_iff_eq_none.1 hgone))
  | otherEpochState => cases hgone

/-- The account is not there and not created any more. -/
def Gone (t : Target) (s : Lifecycle) : Prop := s.book.Sealed t ∧ s.dataIsEmpty t = true

/-- What is gone stays gone. -/
lemma Step.gone {t : Target} (h : Step cl s s') (hgone : s.Gone t) : s'.Gone t := by
  obtain ⟨hsealed, hempty⟩ := hgone
  refine ⟨hsealed.change h.change, ?_⟩
  obtain ⟨i, hrun⟩ := h
  rw [dataIsEmpty_eq] at hempty ⊢
  exact exec_absent hrun hsealed hempty

/-- What is there is gone once it is not there any more. -/
lemma Step.there_or_gone {t : Target} (h : Step cl s s') (hthere : s.dataIsEmpty t = false) :
    s'.dataIsEmpty t = false ∨ s'.Gone t := by
  cases hempty : s'.dataIsEmpty t with
  | false => exact .inl rfl
  | true =>
    rw [dataIsEmpty_eq] at hthere hempty
    exact .inr ⟨h.change.sealed hthere hempty, (dataIsEmpty_eq s' t).trans hempty⟩

/-- An account of an epoch that has been there and has been closed is never created again by instructions on the epoch.
A call for another epoch that empties the epoch's state is none of these: after it the state can be created again. -/
theorem closed_for_good {s₁ s₂ : Lifecycle} {t : Target} (hthere : s.dataIsEmpty t = false)
    (hclose : Run (Step cl) s s₁) (hclosed : s₁.dataIsEmpty t = true) (hlater : Run (Step cl) s₁ s₂) :
    s₂.dataIsEmpty t = true := by
  have hgone : s₁.Gone t := by
    refine (hclose.there_or_gone hthere (fun _ _ h => h.there_or_gone) fun _ _ h => h.gone).resolve_left ?_
    rw [hclosed]
    decide
  exact (hlater.invariant hgone fun _ _ h => h.gone).2

/-- The small epoch when its state has been closed as well. -/
@[irreducible] def smallOver : Lifecycle :=
  commit (exec smallCluster (.closeEpochAccount ⟨10 * defaultSlotsPerEpoch, 10⟩ .epochState)) (smallEnd true)

lemma small_over : Step smallCluster (smallEnd true) smallOver := by
  have h : Succeeds (exec smallCluster (.closeEpochAccount ⟨10 * defaultSlotsPerEpoch, 10⟩ .epochState))
      (smallEnd true) := by decide +kernel
  unfold smallOver
  exact ⟨_, h.run_eq⟩

/-- Lamports that arrive when the small epoch is over. -/
def smallLater : Lifecycle :=
  { smallOver with accounts := { smallOver.accounts with
    ncnRewardReceiver := smallOver.accounts.ncnRewardReceiver + 3 } }

lemma small_later : Step smallCluster smallOver smallLater := ⟨.depositNcn 3, rfl⟩

/-- The state of the small epoch, which was there, is not there when lamports arrive later. -/
theorem small_closed_for_good : smallLater.dataIsEmpty .epochState = true :=
  closed_for_good (s := smallEnd true) (by decide +kernel) (.single small_over) (by decide +kernel)
    (.single small_later)

/-! ## After the end -/

/-- The instruction loads the epoch's state. -/
def Instruction.loadsEpochState : Instruction → Bool
  | .initializeEpochState .. | .adminSetParameters .. | .adminSetNewAdmin .. | .depositNcn _
  | .depositOperatorVault .. => false
  | _ => true

/-- And needs it to be there. -/
lemma epochState_of_exec (h : (exec cl i).run s = .ok () s') (hi : i.loadsEpochState = true) :
    s.epochState = true := by
  have hrealloc : ∀ {k size} {x : Mut Lifecycle Unit},
      (do if ← realloc k size then x : Mut Lifecycle Unit).run s = .ok () s' → s.epochState = true := by
    intro k size x h
    obtain ⟨_, _, hg, _⟩ := run_bind_ok.1 h
    exact (realloc_ok hg).1
  have hopen : ∀ {x : Mut Lifecycle Unit},
      (do loadAndCheckIsClosing; x).run s = .ok () s' → s.epochState = true := by
    intro x h
    obtain ⟨_, _, hg, _⟩ := run_bind_ok.1 h
    exact (loadAndCheckIsClosing_ok hg).1
  cases i with
  | initializeEpochState => cases hi
  | adminSetParameters => cases hi
  | adminSetNewAdmin => cases hi
  | depositNcn => cases hi
  | depositOperatorVault => cases hi
  | reallocWeightTable => exact hrealloc h
  | reallocBallotBox => exact hrealloc h
  | reallocNcnRewardRouter => exact hrealloc h
  | initializeWeightTable => exact hopen h
  | initializeEpochSnapshot => exact hopen h
  | initializeOperatorSnapshot => exact hopen h
  | initializeNcnRewardRouter => exact hopen h
  | initializeOperatorVaultRewardRouter => exact hopen h
  | initializeBallotBox => exact (processInitializeBallotBox_ok h).1
  | castVote =>
    obtain ⟨_, _, hg, h⟩ := run_bind_ok.1 h
    obtain ⟨_, _, hg', hg⟩ := run_bind_ok.1 hg
    cases hg'
    obtain ⟨_, rfl⟩ := run_ensure_ok.1 hg
    exact (loaded_ok h).1
  | closeEpochAccount => exact (processCloseEpochAccount_ok.1 h).1
  | _ => exact (loaded_ok h).1

/-- Only the configuration of the NCN has changed, and lamports have arrived. -/
def Frozen (s s' : Lifecycle) : Prop :=
  ∃ (config : Config) (arrived : ℕ) (arrivedOf : Pubkey → ℕ), s' = { s with accounts := { s.accounts with
    config
    ncnRewardReceiver := s.accounts.ncnRewardReceiver + arrived
    operatorVaultRewardReceiver := fun p => s.accounts.operatorVaultRewardReceiver p + arrivedOf p } }

lemma Frozen.refl (s : Lifecycle) : Frozen s s := ⟨s.accounts.config, 0, fun _ => 0, rfl⟩

lemma Frozen.trans {s₁ s₂ : Lifecycle} (h : Frozen s s₁) (h' : Frozen s₁ s₂) : Frozen s s₂ := by
  obtain ⟨_, n, m, rfl⟩ := h
  obtain ⟨config, n', m', rfl⟩ := h'
  refine ⟨config, n + n', fun p => m p + m' p, ?_⟩
  simp only [Nat.add_assoc]

/-- What an instruction does to an epoch that is over. -/
lemma exec_frozen (h : (exec cl i).run s = .ok () s') (hdead : s.epochState = false)
    (hmarker : s.epochMarker = true) : Frozen s s' := by
  cases hi : i.loadsEpochState with
  | true => cases hdead.symm.trans (epochState_of_exec h hi)
  | false =>
    cases i with
    | initializeEpochState clock bump =>
      obtain ⟨_, hnone, _⟩ := processInitializeEpochState_ok h
      cases hmarker.symm.trans hnone
    | adminSetParameters ncn admin ncnAdmin o₁ o₂ o₃ o₄ =>
      obtain ⟨e, hrun, rfl⟩ := run_zoom_ok.1 h
      obtain ⟨c, _, rfl⟩ := Epoch.processAdminSetParameters_run_ok hrun
      exact ⟨c, 0, fun _ => 0, rfl⟩
    | adminSetNewAdmin ncn admin ncnAdmin newAdmin =>
      obtain ⟨e, hrun, rfl⟩ := run_zoom_ok.1 h
      obtain ⟨_, _, hg, hrun⟩ := run_bind_ok.1 hrun
      cases hg
      obtain ⟨_, _, hg, hrun⟩ := run_bind_ok.1 hrun
      obtain ⟨_, rfl⟩ := run_ensure_ok.1 hg
      obtain ⟨_, _, hg, hrun⟩ := run_bind_ok.1 hrun
      obtain ⟨_, rfl⟩ := run_ensure_ok.1 hg
      cases hrun
      exact ⟨_, 0, fun _ => 0, rfl⟩
    | depositNcn lamports =>
      cases h
      exact ⟨s.accounts.config, lamports, fun _ => 0, rfl⟩
    | depositOperatorVault operator lamports =>
      cases h
      refine ⟨s.accounts.config, 0, Function.update (fun _ => 0) operator lamports, ?_⟩
      have hreceiver : Function.update s.accounts.operatorVaultRewardReceiver operator
          (s.accounts.operatorVaultRewardReceiver operator + lamports) = fun p =>
            s.accounts.operatorVaultRewardReceiver p + Function.update (fun _ => 0) operator lamports p := by
        funext p
        by_cases hp : p = operator
        · subst hp; simp only [Function.update_self]
        · simp only [Function.update_of_ne hp, Nat.add_zero]
      rw [← hreceiver]
      rfl
    | _ => cases hi

/-- Once its marker is there, an epoch has come to its end: whatever is tried, its accounts stay closed and the
recorded result stays as it is. -/
theorem ended_epoch_frozen {s₀ : Lifecycle} (h₀ : s₀.Untouched) (hs : Run (Step cl) s₀ s)
    (hmarker : s.epochMarker = true) (h : Run (Step cl) s s') : Frozen s s' := by
  have hdead : s.epochState = false := by
    cases truthful h₀ hs with
    | before _ hnone => cases hmarker.symm.trans hnone
    | during hb => cases hmarker.symm.trans hb.marker
    | after hdead => exact hdead
  refine (h.relates (I := fun s => s.epochState = false ∧ s.epochMarker = true) ⟨hdead, hmarker⟩ Frozen.refl
    Frozen.trans fun s₁ s₂ ⟨i, hrun⟩ ⟨hdead, hmarker⟩ => ?_).2
  obtain ⟨config, arrived, arrivedOf, rfl⟩ := exec_frozen hrun hdead hmarker
  exact ⟨⟨hdead, hmarker⟩, config, arrived, arrivedOf, rfl⟩

/-- The small epoch is over, and is so when lamports arrive. -/
theorem small_ended_frozen : Frozen smallOver smallLater :=
  ended_epoch_frozen small_untouched ((small_run true).tail small_over) (by decide +kernel) (.single small_later)

end Lifecycle
end NcnProgram
