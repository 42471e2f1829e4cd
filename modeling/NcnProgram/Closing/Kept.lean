import NcnProgram.Closing.OwnEpoch

/-!
# A close call on the ledger is one of an epoch

A successful `process_close_epoch_account`, whatever accounts are passed to it, does to the epoch it names what the
close instruction of this epoch does. It may empty the state of one other epoch, and of all others it leaves the
accounts as they were. So it leads from a ledger that the program's instructions brought about to such a ledger.
-/

namespace NcnProgram
open Lib

namespace Lifecycle
variable {cl : Cluster} {s₀ s s' : Lifecycle}

/-- When an epoch has come to a consensus, the clock only has to run for its accounts to be closed. -/
lemma run_close (h₀ : s₀.Untouched) (hrun : Run (StepOrEmptied cl) s₀ s) (hlive : s.epochState = true)
    (hconsensus : s.accounts.epochState.isConsensusReached = true) {target : Target}
    (hdata : s.dataIsEmpty target = false) (hclose : (closeTarget cl target).run s.startClosing = .ok () s') :
    Run (StepOrEmptied cl) s₀ s' := by
  obtain ⟨clock, hcan⟩ := exists_slot cl hconsensus
  refine hrun.tail (.inl ⟨.closeEpochAccount clock target, ?_⟩)
  exact processCloseEpochAccount_ok.2 ⟨hlive, (steady h₀ hrun).marker hlive, hdata, hcan, hclose⟩

end Lifecycle

namespace Runtime
variable {rt : Runtime} {l l' : Ledger} {accs : CloseAccounts} {epoch : ℕ}

/-- An epoch shows the same if its accounts have the same data. -/
lemma Shows.congr {ncn : Pubkey} {e : ℕ} {s : Lifecycle} (h : Shows rt l ncn e s)
    (hdata : ∀ a : Address, a.ncn = ncn → a.epoch = some e → (∀ n i, a ≠ .epochMarker n i) →
      rt.dataAt l' a = rt.dataAt l a) : Shows rt l' ncn e s where
  ofNcn := h.ofNcn
  ofEpoch := h.ofEpoch
  epochState := (hdata _ rfl rfl fun _ _ ha => by cases ha).trans h.epochState
  single k := (hdata _ rfl rfl fun _ _ ha => by cases ha).trans (h.single k)
  operatorSnapshot p := (hdata _ rfl rfl fun _ _ ha => by cases ha).trans (h.operatorSnapshot p)
  operatorVaultRewardRouter p :=
    (hdata _ rfl rfl fun _ _ ha => by cases ha).trans (h.operatorVaultRewardRouter p)

namespace Done
variable {kind : ClosableKind} {st st' : EpochState} {a b : Address}

/-- What was closed is gone. -/
lemma dataAt_closed (h : Done rt l l' accs epoch kind st st') (hb : accs.accountToClose.key = rt.pda b) :
    rt.dataAt l' b = none := by
  rw [dataAt, ← hb, h.drained]
  exact if_neg rt.programId_ne.symm

/-- The epoch state is there as it was marked. -/
lemma dataAt_state (h : Done rt l l' accs epoch kind st st')
    (hne : accs.accountToClose.key ≠ accs.epochState.key) :
    rt.dataAt l' (.epochState accs.ncn.key epoch) = some (.epochState st') := by
  obtain ⟨howner, hdata⟩ := h.state hne
  rw [dataAt, ← h.key, if_pos howner, hdata]

/-- The state of another epoch that is closed is at the key of an epoch state. -/
lemma placed (h : Done rt l l' accs epoch .epochState st st') (hl : Reached rt l)
    (hclosing : accs.accountToClose.key ≠ accs.epochState.key) :
    ∃ n i, accs.accountToClose.key = rt.pda (.epochState n i) := by
  have hchosen := h.chosen
  rw [CloseAccounts.kind, if_neg hclosing] at hchosen
  obtain ⟨d, hd, hof⟩ := Option.bind_eq_some_iff.1 hchosen
  refine hl.placed _ h.closed ?_
  by_contra hne
  exact ofDiscriminator_ne (fun heq => hne (heq ▸ hd)) hof

/-- All other accounts have their data, and none is new but the marker. -/
lemma dataAt_other (h : Done rt l l' accs epoch kind st st') (hl : Reached rt l)
    (hinj : Set.InjOn rt.pda { a | (l' (rt.pda a)).owner = rt.programId })
    (hb : accs.accountToClose.key = rt.pda b) (hstate : a ≠ .epochState accs.ncn.key epoch) (hclose : a ≠ b)
    (hmarker : ∀ n i, a ≠ .epochMarker n i) : rt.dataAt l' a = rt.dataAt l a := by
  by_cases howner : (l (rt.pda a)).owner = rt.programId
  · have hne : ∀ {a' : Address} {k : Pubkey}, k = rt.pda a' → (l k).owner = rt.programId → a ≠ a' →
        rt.pda a ≠ k := by
      rintro a' k rfl hk hne heq
      exact hne (hl.collisionFree howner hk heq)
    rw [dataAt, dataAt, h.others _ howner (hne h.key h.owner hstate) (hne hb h.closed hclose)]
  · have howner' : (l' (rt.pda a)).owner ≠ rt.programId := by
      intro howner'
      rcases h.fresh _ howner' with hold | ⟨hclosing, hkey⟩
      · exact howner hold
      · exact hmarker _ _ (hinj howner' (h.marker hclosing).1 hkey)
    rw [dataAt, dataAt, if_neg howner, if_neg howner']

/-- Nothing changes in an epoch that is not named and has not the account to close. -/
lemma shows_other (h : Done rt l l' accs epoch kind st st') (hl : Reached rt l)
    (hinj : Set.InjOn rt.pda { a | (l' (rt.pda a)).owner = rt.programId })
    (hb : accs.accountToClose.key = rt.pda b) {ncn : Pubkey} {e : ℕ} {s : Lifecycle} (hs : Shows rt l ncn e s)
    (hnamed : ¬(ncn = accs.ncn.key ∧ e = epoch)) (hclose : ¬(b.ncn = ncn ∧ b.epoch = some e)) :
    Shows rt l' ncn e s := by
  refine hs.congr fun a hncn hepoch hmarker => h.dataAt_other hl hinj hb ?_ ?_ hmarker
  · rintro rfl
    exact hnamed ⟨hncn.symm, (Option.some.inj hepoch).symm⟩
  · rintro rfl
    exact hclose ⟨hncn, hepoch⟩

/-! ## The epoch that is named -/

section Named
variable {cl : Cluster} {s₀ s : Lifecycle} (hl : Reached rt l)
  (hinj : Set.InjOn rt.pda { a | (l' (rt.pda a)).owner = rt.programId }) (h₀ : s₀.Untouched)
  (hrun : Run (Lifecycle.StepOrEmptied cl) s₀ s) (hs : Shows rt l accs.ncn.key epoch s)
include hl hinj h₀ hrun hs

/-- Its state is closed. -/
lemma named_epochState (h : Done rt l l' accs epoch .epochState st st')
    (hclosing : accs.accountToClose.key = accs.epochState.key) :
    ∃ s', Run (Lifecycle.StepOrEmptied cl) s₀ s' ∧ Shows rt l' accs.ncn.key epoch s' := by
  obtain ⟨hlive, rfl⟩ := hs.state h.stateAt
  have hb := hclosing.trans h.key
  have hload := h.closes.1
  rw [← hs.ofNcn, ← hs.ofEpoch] at hload
  have hclose : (Lifecycle.closeTarget cl .epochState).run s.startClosing =
      .ok () { s.startClosing with epochState := false, epochMarker := true } :=
    run_bind_ok.2 ⟨_, _, rfl, run_bind_ok.2 ⟨(), _, run_ofExcept_ok.2 ⟨hload, rfl⟩, rfl⟩⟩
  refine ⟨_, Lifecycle.run_close h₀ hrun hlive h.consensus (by simp [Lifecycle.dataIsEmpty, hlive]) hclose, ?_⟩
  have hframe : ∀ {a : Address}, a ≠ .epochState accs.ncn.key epoch → (∀ n i, a ≠ .epochMarker n i) →
      rt.dataAt l' a = rt.dataAt l a := fun hne => h.dataAt_other hl hinj hb hne hne
  exact ⟨hs.ofNcn, hs.ofEpoch, h.dataAt_closed hb, fun k => (hframe (by simp) (by simp)).trans (hs.single k),
    fun p => (hframe (by simp) (by simp)).trans (hs.operatorSnapshot p),
    fun p => (hframe (by simp) (by simp)).trans (hs.operatorVaultRewardRouter p)⟩

/-- Its state is marked in place of the one that is emptied. -/
lemma named_otherEpochState (h : Done rt l l' accs epoch .epochState st st') {n : Pubkey} {i : ℕ}
    (hb : accs.accountToClose.key = rt.pda (.epochState n i))
    (hclosing : accs.accountToClose.key ≠ accs.epochState.key) :
    ∃ s', Run (Lifecycle.StepOrEmptied cl) s₀ s' ∧ Shows rt l' accs.ncn.key epoch s' := by
  obtain ⟨hlive, rfl⟩ := hs.state h.stateAt
  obtain ⟨hload, hst'⟩ := h.closes
  rw [← hs.ofNcn, ← hs.ofEpoch] at hload
  have hclose : (Lifecycle.closeTarget cl .otherEpochState).run s.startClosing =
      .ok () { s.startClosing with accounts := { s.startClosing.accounts with epochState := st' } } := by
    rw [hst']
    exact run_bind_ok.2 ⟨_, _, rfl, run_bind_ok.2 ⟨(), _, run_ofExcept_ok.2 ⟨hload, rfl⟩, rfl⟩⟩
  refine ⟨_, Lifecycle.run_close h₀ hrun hlive h.consensus rfl hclose, ?_⟩
  have hframe : ∀ {a : Address}, (∀ n i, a ≠ .epochState n i) → (∀ n i, a ≠ .epochMarker n i) →
      rt.dataAt l' a = rt.dataAt l a := fun hne => h.dataAt_other hl hinj hb (hne _ _) (hne _ _)
  refine ⟨hs.ofNcn, hs.ofEpoch, ?_, fun k => (hframe (by simp) (by simp)).trans (hs.single k),
    fun p => (hframe (by simp) (by simp)).trans (hs.operatorSnapshot p),
    fun p => (hframe (by simp) (by simp)).trans (hs.operatorVaultRewardRouter p)⟩
  rw [h.dataAt_state hclosing]
  exact (if_pos hlive).symm

/-- One of the four accounts is closed. -/
lemma named_single {k : Single} (h : Done rt l l' accs epoch (.single k) st st') :
    ∃ s', Run (Lifecycle.StepOrEmptied cl) s₀ s' ∧ Shows rt l' accs.ncn.key epoch s' := by
  obtain ⟨hlive, rfl⟩ := hs.state h.stateAt
  obtain ⟨hb, hd, rfl⟩ := h.closes
  have hclosing : accs.accountToClose.key ≠ accs.epochState.key := fun hc => by cases h.kind_eq hc
  have hinit : s.single k = .initialized := by
    have hdata := hs.single k
    rw [dataAt, ← hb, if_pos h.closed] at hdata
    exact Lifecycle.initialized_of_singleData hdata.symm hd
  -- the rent of the receiver may have to come first
  let s₁ : Lifecycle := { s with accounts := { s.accounts with
    ncnRewardReceiver := s.accounts.ncnRewardReceiver + cl.minRent } }
  have hrun₁ : Run (Lifecycle.StepOrEmptied cl) s₀ s₁ := hrun.tail (.inl ⟨.depositNcn cl.minRent, rfl⟩)
  have hthere : s₁.dataIsEmpty (.single k) = false := by simp [Lifecycle.dataIsEmpty, s₁, hinit]
  obtain ⟨_, s', hclose⟩ : Succeeds (Lifecycle.closeTarget cl (.single k)) s₁.startClosing :=
    Lifecycle.closeSingle_succeeds hinit (Nat.le_add_left ..)
  refine ⟨s', Lifecycle.run_close h₀ hrun₁ hlive h.consensus hthere hclose, ?_⟩
  cases Lifecycle.closeTarget_ok hclose with
  | single k lamports _ _ =>
    have hframe : ∀ {a : Address}, a ≠ .epochState accs.ncn.key epoch → a ≠ .single k accs.ncn.key epoch →
        (∀ n i, a ≠ .epochMarker n i) → rt.dataAt l' a = rt.dataAt l a :=
      fun hne hne' => h.dataAt_other hl hinj hb hne hne'
    refine ⟨hs.ofNcn, hs.ofEpoch, ?_, fun k' => ?_,
      fun p => (hframe (by simp) (by simp) (by simp)).trans (hs.operatorSnapshot p),
      fun p => (hframe (by simp) (by simp) (by simp)).trans (hs.operatorVaultRewardRouter p)⟩
    · rw [h.dataAt_state hclosing]
      exact (if_pos hlive).symm
    · by_cases hk : k' = k
      · subst hk
        rw [h.dataAt_closed hb]
        exact (Lifecycle.singleData_absent (Function.update_self ..)).symm
      · rw [hframe (by simp) (by simpa using hk) (by simp), hs.single k', Lifecycle.singleData_setSingle_ne _ hk]
        rfl

/-- An operator's snapshot is closed. -/
lemma named_operatorSnapshot (h : Done rt l l' accs epoch .operatorSnapshot st st') :
    ∃ s', Run (Lifecycle.StepOrEmptied cl) s₀ s' ∧ Shows rt l' accs.ncn.key epoch s' := by
  obtain ⟨hlive, rfl⟩ := hs.state h.stateAt
  obtain ⟨t, hdata, hb, hst⟩ := h.closes
  have hclosing : accs.accountToClose.key ≠ accs.epochState.key := fun hc => by cases h.kind_eq hc
  have ht : s.accounts.operatorSnapshot t.operator = some t := by
    have hshown := hs.operatorSnapshot t.operator
    rw [dataAt, ← hb, if_pos h.closed, hdata] at hshown
    obtain ⟨t', ht', heq⟩ := Option.map_eq_some_iff.1 hshown.symm
    cases heq
    exact ht'
  have hclose := Lifecycle.closeSnapshot_run cl (s := s.startClosing) ht hst
  refine ⟨_, Lifecycle.run_close h₀ hrun hlive h.consensus (by simp [Lifecycle.dataIsEmpty, ht]) hclose, ?_⟩
  have hframe : ∀ {a : Address}, a ≠ .epochState accs.ncn.key epoch →
      a ≠ .operatorSnapshot t.operator accs.ncn.key epoch → (∀ n i, a ≠ .epochMarker n i) →
      rt.dataAt l' a = rt.dataAt l a := fun hne hne' => h.dataAt_other hl hinj hb hne hne'
  refine ⟨hs.ofNcn, hs.ofEpoch, ?_, fun k => (hframe (by simp) (by simp) (by simp)).trans (hs.single k),
    fun p => ?_, fun p => (hframe (by simp) (by simp) (by simp)).trans (hs.operatorVaultRewardRouter p)⟩
  · rw [h.dataAt_state hclosing]
    exact (if_pos hlive).symm
  · by_cases hp : p = t.operator
    · subst hp
      rw [h.dataAt_closed hb]
      exact (Option.map_eq_none_iff.2 (Function.update_self t.operator none s.accounts.operatorSnapshot)).symm
    · rw [hframe (by simp) (by simpa using hp) (by simp), hs.operatorSnapshot p]
      exact (congrArg (Option.map _) (Function.update_of_ne hp none s.accounts.operatorSnapshot)).symm

/-- An operator's reward router is closed. -/
lemma named_operatorVaultRewardRouter (h : Done rt l l' accs epoch .operatorVaultRewardRouter st st') :
    ∃ s', Run (Lifecycle.StepOrEmptied cl) s₀ s' ∧ Shows rt l' accs.ncn.key epoch s' := by
  obtain ⟨hlive, rfl⟩ := hs.state h.stateAt
  obtain ⟨r, hdata, hb, hst⟩ := h.closes
  have hclosing : accs.accountToClose.key ≠ accs.epochState.key := fun hc => by cases h.kind_eq hc
  have hr : s.accounts.operatorVaultRewardRouter r.operator = some r := by
    have hshown := hs.operatorVaultRewardRouter r.operator
    rw [dataAt, ← hb, if_pos h.closed, hdata] at hshown
    obtain ⟨r', hr', heq⟩ := Option.map_eq_some_iff.1 hshown.symm
    cases heq
    exact hr'
  -- the rent of the receiver may have to come first
  let rent := s.accounts.operatorVaultRewardReceiver r.operator + cl.minRent
  let s₁ : Lifecycle := { s with accounts := s.accounts.setOperatorVaultRewardReceiver r.operator rent }
  have hrun₁ : Run (Lifecycle.StepOrEmptied cl) s₀ s₁ :=
    hrun.tail (.inl ⟨.depositOperatorVault r.operator cl.minRent, rfl⟩)
  have hrent : cl.minRent ≤ s₁.accounts.operatorVaultRewardReceiver r.operator := by
    simp [s₁, rent, Epoch.setOperatorVaultRewardReceiver]
  have hclose := Lifecycle.closeRouter_run cl (s := s₁.startClosing) hr hst hrent
  have hthere : s₁.dataIsEmpty (.operatorVaultRewardRouter r.operator) = false := by
    rw [Lifecycle.dataIsEmpty, show s₁.accounts.operatorVaultRewardRouter r.operator = some r from hr]
    rfl
  refine ⟨_, Lifecycle.run_close h₀ hrun₁ hlive h.consensus hthere hclose, ?_⟩
  have hframe : ∀ {a : Address}, a ≠ .epochState accs.ncn.key epoch →
      a ≠ .operatorVaultRewardRouter r.operator accs.ncn.key epoch → (∀ n i, a ≠ .epochMarker n i) →
      rt.dataAt l' a = rt.dataAt l a := fun hne hne' => h.dataAt_other hl hinj hb hne hne'
  refine ⟨hs.ofNcn, hs.ofEpoch, ?_, fun k => (hframe (by simp) (by simp) (by simp)).trans (hs.single k),
    fun p => (hframe (by simp) (by simp) (by simp)).trans (hs.operatorSnapshot p), fun p => ?_⟩
  · rw [h.dataAt_state hclosing]
    exact (if_pos hlive).symm
  · by_cases hp : p = r.operator
    · subst hp
      rw [h.dataAt_closed hb]
      exact (Option.map_eq_none_iff.2
        (Function.update_self r.operator none s.accounts.operatorVaultRewardRouter)).symm
    · rw [hframe (by simp) (by simpa using hp) (by simp), hs.operatorVaultRewardRouter p]
      exact (congrArg (Option.map _)
        (Function.update_of_ne hp none s.accounts.operatorVaultRewardRouter)).symm

/-- What was done to it is a close instruction of its own. -/
lemma named (h : Done rt l l' accs epoch kind st st') :
    ∃ s', Run (Lifecycle.StepOrEmptied cl) s₀ s' ∧ Shows rt l' accs.ncn.key epoch s' := by
  cases kind with
  | epochState =>
    by_cases hclosing : accs.accountToClose.key = accs.epochState.key
    · exact h.named_epochState hl hinj h₀ hrun hs hclosing
    · obtain ⟨n, i, hb⟩ := h.placed hl hclosing
      exact h.named_otherEpochState hl hinj h₀ hrun hs hb hclosing
  | single k => exact h.named_single hl hinj h₀ hrun hs
  | operatorSnapshot => exact h.named_operatorSnapshot hl hinj h₀ hrun hs
  | operatorVaultRewardRouter => exact h.named_operatorVaultRewardRouter hl hinj h₀ hrun hs

end Named

/-! ## The other epochs -/

/-- The account to close is at an address of the epoch that is named, or of an epoch state. -/
lemma address (h : Done rt l l' accs epoch kind st st') (hl : Reached rt l) :
    ∃ b, accs.accountToClose.key = rt.pda b ∧
      (b.ncn = accs.ncn.key ∧ b.epoch = some epoch ∨ ∃ n i, b = .epochState n i) := by
  by_cases hkind : kind = .epochState
  · subst hkind
    by_cases hclosing : accs.accountToClose.key = accs.epochState.key
    · exact ⟨_, hclosing.trans h.key, .inr ⟨_, _, rfl⟩⟩
    · obtain ⟨n, i, hb⟩ := h.placed hl hclosing
      exact ⟨_, hb, .inr ⟨n, i, rfl⟩⟩
  · obtain ⟨⟨b, hb, hncn, hepoch⟩, _⟩ := h.closes.belongs hl h.closed hkind
    exact ⟨b, hb, .inl ⟨hncn, hepoch⟩⟩

/-- An epoch that is not named has its state emptied. -/
lemma shows_emptied (h : Done rt l l' accs epoch kind st st') (hl : Reached rt l)
    (hinj : Set.InjOn rt.pda { a | (l' (rt.pda a)).owner = rt.programId }) {ncn : Pubkey} {e : ℕ} {s : Lifecycle}
    (hs : Shows rt l ncn e s) (hb : accs.accountToClose.key = rt.pda (.epochState ncn e)) :
    s.epochState = true ∧ Shows rt l' ncn e { s with epochState := false } := by
  have hframe : ∀ {a : Address}, (∀ n i, a ≠ .epochState n i) → (∀ n i, a ≠ .epochMarker n i) →
      rt.dataAt l' a = rt.dataAt l a := fun hne => h.dataAt_other hl hinj hb (hne _ _) (hne _ _)
  refine ⟨?_, hs.ofNcn, hs.ofEpoch, h.dataAt_closed hb, fun k => (hframe (by simp) (by simp)).trans (hs.single k),
    fun p => (hframe (by simp) (by simp)).trans (hs.operatorSnapshot p),
    fun p => (hframe (by simp) (by simp)).trans (hs.operatorVaultRewardRouter p)⟩
  by_contra hlive
  have hstate := hs.epochState
  rw [dataAt, ← hb, if_pos h.closed, if_neg hlive] at hstate
  cases hstate

/-- So the ledger is again one that the program's instructions brought about. -/
lemma reached (h : Done rt l l' accs epoch kind st st') (hl : Reached rt l)
    (hinj : Set.InjOn rt.pda { a | (l' (rt.pda a)).owner = rt.programId }) : Reached rt l' := by
  refine ⟨hinj, fun k hk hd => ?_, fun ncn e => ?_⟩
  · rcases h.fresh k hk with hold | ⟨hclosing, rfl⟩
    · by_cases hstate : k = accs.epochState.key
      · exact ⟨_, _, hstate.trans h.key⟩
      · have hclose : k ≠ accs.accountToClose.key := by
          rintro rfl
          rw [h.drained] at hk
          exact rt.programId_ne hk.symm
        rw [h.others k hold hstate hclose] at hd
        exact hl.placed k hold hd
    · rw [(h.marker hclosing).2] at hd
      exact absurd (Option.some.inj hd) (by decide)
  · obtain ⟨b, hb, hplace⟩ := h.address hl
    obtain ⟨cl, s₀, s, h₀, hrun, hs⟩ := hl.epochs ncn e
    by_cases hnamed : ncn = accs.ncn.key ∧ e = epoch
    · obtain ⟨rfl, rfl⟩ := hnamed
      obtain ⟨s', hrun', hs'⟩ := h.named hl hinj h₀ hrun hs
      exact ⟨cl, s₀, s', h₀, hrun', hs'⟩
    by_cases hclose : b.ncn = ncn ∧ b.epoch = some e
    · obtain ⟨rfl, hepoch⟩ := hclose
      rcases hplace with ⟨hncn, hepoch'⟩ | ⟨n, i, rfl⟩
      · exact absurd ⟨hncn, Option.some.inj (hepoch.symm.trans hepoch')⟩ hnamed
      · obtain rfl : i = e := Option.some.inj hepoch
        obtain ⟨hlive, hs'⟩ := h.shows_emptied hl hinj hs hb
        exact ⟨cl, s₀, _, h₀, hrun.tail (.inr ⟨hlive, rfl⟩), hs'⟩
    · exact ⟨cl, s₀, s, h₀, hrun, h.shows_other hl hinj hb hs hnamed hclose⟩

end Done

/-! ## Runs of close calls -/

/-- The slot does not matter for what a ledger shows. -/
lemma Shows.atSlot {slot : ℕ} {ncn : Pubkey} {e : ℕ} {s : Lifecycle} :
    Shows { rt with slot } l ncn e s ↔ Shows rt l ncn e s :=
  ⟨fun h => ⟨h.ofNcn, h.ofEpoch, h.epochState, h.single, h.operatorSnapshot, h.operatorVaultRewardRouter⟩,
    fun h => ⟨h.ofNcn, h.ofEpoch, h.epochState, h.single, h.operatorSnapshot, h.operatorVaultRewardRouter⟩⟩

/-- So it does not matter for how it came about. -/
lemma Reached.atSlot {slot : ℕ} : Reached { rt with slot } l ↔ Reached rt l := by
  constructor <;> intro h <;> refine ⟨h.collisionFree, h.placed, fun ncn e => ?_⟩
  · obtain ⟨cl, s₀, s, h₀, hrun, hs⟩ := h.epochs ncn e
    exact ⟨cl, s₀, s, h₀, hrun, Shows.atSlot.1 hs⟩
  · obtain ⟨cl, s₀, s, h₀, hrun, hs⟩ := h.epochs ncn e
    exact ⟨cl, s₀, s, h₀, hrun, Shows.atSlot.2 hs⟩

/-- A close call that succeeds, at some slot and with whatever accounts, after which the
keys of the program's accounts, that of a new marker included, still do not collide. -/
def CloseCall (rt : Runtime) (l l' : Ledger) : Prop :=
  ∃ slot accounts epoch, (processCloseEpochAccount { rt with slot } accounts epoch).run l = .ok () l' ∧
    Set.InjOn rt.pda { a | (l' (rt.pda a)).owner = rt.programId }

/-- Any number of close calls, also of those that empty the state of an epoch they do not name, lead from a ledger
that the program's instructions brought about to such a ledger. -/
theorem reached_of_closes (hl : Reached rt l) (hrun : Run (CloseCall rt) l l') : Reached rt l' := by
  refine hrun.invariant (I := Reached rt) hl ?_
  rintro l l' ⟨slot, accounts, epoch, h, hinj⟩ hl
  unfold processCloseEpochAccount at h
  split at h
  case h_2 => cases h
  obtain ⟨kind, st, st', hdone⟩ := closeEpochAccount_done h
  exact Reached.atSlot.1 (hdone.reached (Reached.atSlot.2 hl) hinj)

/-- The small ledger after the state of its second epoch was emptied by a call that names the first. -/
theorem reached_of_closes_small :
    ∃ l', (smallRuntime.processCloseEpochAccount (smallAccounts 101).toList 0).run smallLedger = .ok () l' ∧
      Reached smallRuntime l' := by
  have hrun : (smallRuntime.processCloseEpochAccount (smallAccounts 101).toList 0).run smallLedger =
      .ok () (commit (smallRuntime.processCloseEpochAccount (smallAccounts 101).toList 0) smallLedger) :=
    Succeeds.run_eq (by decide +kernel)
  obtain ⟨_, _, _, hdone⟩ := closeEpochAccount_done hrun
  have hne : (smallAccounts 101).accountToClose.key ≠ (smallAccounts 101).epochState.key := by decide
  have hinj := small_reached.collisionFree.mono fun a ha => (hdone.fresh _ ha).resolve_right fun h => hne h.1
  exact ⟨_, hrun, reached_of_closes small_reached (.single ⟨smallRuntime.slot, _, 0, hrun, hinj⟩)⟩

end Runtime
end NcnProgram
