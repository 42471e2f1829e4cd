import NcnProgram.Program.Lifecycle

/-!
# The book of an epoch's accounts

What matters for closing an epoch: which of its accounts exist, and what the epoch state says about them. A
`Book` keeps just that, and `Book.Change` says what an instruction can do to it. The states of the book that
can come up are `Truthful`: the epoch state says of every account whether it is there, an account is marked as
closed only while the epoch is closing, and the accounts that votes need have been created before the first
vote. When the account with the epoch state is emptied and the state is created again, less is true (`Steady`).
-/

namespace NcnProgram
open Lib EpochAccountStatus

/-- Which accounts of an epoch exist, and what the epoch state says about them. `named` says that the epoch
state is that of the NCN and the epoch, `voted` that the ballot box has a ballot; an operator's account is kept
with the index it names. -/
@[ext] structure Book where
  live : Bool
  named : Bool
  marker : Bool
  closing : Bool
  consensus : Bool
  voted : Bool
  single : Single → Slot
  status : Single → AccountStatus
  snapshot : Pubkey → Option ℕ
  snapshotStatus : Table AccountStatus maxOperators
  router : Pubkey → Option ℕ
  routerStatus : Table AccountStatus maxOperators

namespace Book

/-- Everything that has been created is closed. -/
structure AllClosed (b : Book) : Prop where
  single : ∀ k, b.single k = .absent
  snapshot : ∀ p, b.snapshot p = none
  router : ∀ p, b.router p = none

/-- The epoch state says that everything is closed, where the operators' accounts may be missing. -/
structure AllMarked (b : Book) : Prop where
  status : ∀ k, b.status k = .closed
  snapshotStatus : b.snapshotStatus.toList.all isGone = true
  routerStatus : b.routerStatus.toList.all isGone = true

/-- What an instruction can do to the book. -/
inductive Change (index : Pubkey → ℕ) (b : Book) : Book → Prop
  | idle : Change index b b
  | start : b.live = false → b.marker = false →
      Change index b { b with
        live := true, named := true, closing := false, consensus := false, status := fun _ => .dne
        snapshotStatus := .replicate _ .dne, routerStatus := .replicate _ .dne }
  | vote (consensus voted : Bool) : b.live = true → b.single .ballotBox = .initialized →
      (b.consensus = true → consensus = true) →
      (consensus = true ∨ voted = true →
        b.consensus = true ∨ b.voted = true ∨ b.single .epochSnapshot = .initialized) →
      Change index b { b with consensus, voted }
  | allocate (k : Single) (dataLen : ℕ) : b.live = true → b.closing = false → b.single k = .absent →
      Change index b { b with single := Function.update b.single k (.allocated dataLen) }
  | grow (k : Single) (dataLen newLen : ℕ) : b.live = true → b.single k = .allocated dataLen →
      Change index b { b with single := Function.update b.single k (.allocated newLen) }
  | fill (k : Single) (status : AccountStatus) (voted : Bool) : b.live = true → isGone status = false →
      (k = .epochSnapshot ∧ b.closing = false ∧ b.single k = .absent ∧
          b.single .weightTable = .initialized ∨
        k ≠ .epochSnapshot ∧ ∃ dataLen, b.single k = .allocated dataLen) →
      (voted = if k = .ballotBox then false else b.voted) →
      Change index b { b with
        voted, single := Function.update b.single k .initialized
        status := Function.update b.status k status }
  | createSnapshot (p : Pubkey) : b.live = true → b.snapshot p = none → index p < maxOperators →
      Change index b { b with
        snapshot := Function.update b.snapshot p (some (index p))
        snapshotStatus := b.snapshotStatus.set (index p) .created }
  | createRouter (p : Pubkey) (i : ℕ) : b.live = true → b.snapshot p = some i → b.router p = none →
      i < maxOperators →
      Change index b { b with
        router := Function.update b.router p (some i)
        routerStatus := b.routerStatus.set i .createdWithReceiver }
  | closeSingle (k : Single) : b.live = true → b.consensus = true → b.single k = .initialized →
      Change index b { b with
        closing := true, single := Function.update b.single k .absent
        status := Function.update b.status k .closed }
  | closeSnapshot (p : Pubkey) (i : ℕ) : b.live = true → b.consensus = true → b.snapshot p = some i →
      Change index b { b with
        closing := true, snapshot := Function.update b.snapshot p none
        snapshotStatus := b.snapshotStatus.set i .closed }
  | closeRouter (p : Pubkey) (i : ℕ) : b.live = true → b.consensus = true → b.router p = some i →
      Change index b { b with
        closing := true, router := Function.update b.router p none
        routerStatus := b.routerStatus.set i .closed }
  | closeOther : b.live = true → b.consensus = true → b.AllMarked →
      Change index b { b with closing := true }
  | finish : b.live = true → b.consensus = true → b.AllMarked →
      Change index b { b with live := false, marker := true, closing := true }

lemma Change.of_eq {index : Pubkey → ℕ} {b b₁ b₂ : Book} (h : Change index b b₁) (hb : b₂ = b₁) :
    Change index b b₂ := hb ▸ h

/-- The status of an account that the epoch has one of is true. -/
def Tracks (slot : Slot) (closing : Bool) : AccountStatus → Prop
  | .dne => slot ≠ .initialized
  | .closed => slot = .absent ∧ closing = true
  | _ => slot = .initialized

/-- The statuses of the operators' accounts of one kind are true. -/
structure TracksOperators (index : Pubkey → ℕ) (statuses : Table AccountStatus maxOperators)
    (accounts : Pubkey → Option ℕ) : Prop where
  index : ∀ p i, accounts p = some i → i = index p ∧ i < maxOperators
  status : ∀ i a, statuses.get? i = some a → (isGone a = false ↔ ∃ p, accounts p = some i)

/-- What the epoch state says is true. -/
structure Live (index : Pubkey → ℕ) (b : Book) : Prop where
  live : b.live = true
  named : b.named = true
  marker : b.marker = false
  single : ∀ k, Tracks (b.single k) b.closing (b.status k)
  snapshot : TracksOperators index b.snapshotStatus b.snapshot
  router : TracksOperators index b.routerStatus b.router
  closing : b.closing = true → b.consensus = true
  consensus : b.consensus = true → b.status .ballotBox ≠ .dne ∧ b.status .epochSnapshot ≠ .dne
  voted : b.single .ballotBox = .initialized → b.voted = true → b.status .epochSnapshot ≠ .dne
  epochSnapshot : b.status .epochSnapshot ≠ .dne → b.status .weightTable ≠ .dne

/-- The book before the epoch, of a truthful epoch, or after it. -/
inductive Truthful (index : Pubkey → ℕ) (b : Book) : Prop
  | before : b.live = false → b.marker = false → b.AllClosed → Truthful index b
  | during : Live index b → Truthful index b
  | after : b.live = false → b.marker = true → Truthful index b

/-! ## The operators' accounts -/

namespace TracksOperators
variable {index : Pubkey → ℕ} {statuses : Table AccountStatus maxOperators} {accounts : Pubkey → Option ℕ}
  {p : Pubkey} {i : ℕ}

/-- At the beginning there are none. -/
lemma none (h : ∀ p, accounts p = none) : TracksOperators index (.replicate _ .dne) accounts := by
  constructor
  case index => intro p i hp; rw [h] at hp; cases hp
  case status =>
    intro i a ha
    have : a = .dne := List.eq_of_mem_replicate (List.mem_of_getElem? ha)
    simp [this, isGone, h]

/-- A new account is marked as there. -/
lemma create (h : TracksOperators index statuses accounts) (hi : i = index p) (hlt : i < maxOperators)
    {status : AccountStatus} (hstatus : isGone status = false) :
    TracksOperators index (statuses.set i status) (Function.update accounts p (some i)) := by
  have hlook : ∀ q j, Function.update accounts p (some i) q = some j ↔
      (q = p ∧ j = i) ∨ (q ≠ p ∧ accounts q = some j) := by
    intro q j
    by_cases hq : q = p
    · subst hq; simp [eq_comm]
    · simp [hq]
  constructor
  case index =>
    intro q j hq
    rcases (hlook q j).1 hq with ⟨rfl, rfl⟩ | ⟨_, hq⟩
    · exact ⟨hi, hlt⟩
    · exact h.index q j hq
  case status =>
    intro j a ha
    by_cases hj : i = j
    · subst hj
      rw [Table.get?_set_self hlt] at ha
      cases ha
      exact iff_of_true hstatus ⟨p, (hlook p i).2 (.inl ⟨rfl, rfl⟩)⟩
    · rw [Table.get?_set_ne hj] at ha
      rw [h.status j a ha]
      constructor
      · rintro ⟨q, hq⟩
        refine ⟨q, (hlook q j).2 (.inr ⟨?_, hq⟩)⟩
        rintro rfl
        exact hj (hi.trans (h.index q j hq).1.symm)
      · rintro ⟨q, hq⟩
        rcases (hlook q j).1 hq with ⟨_, rfl⟩ | ⟨_, hq⟩
        · exact absurd rfl hj
        · exact ⟨q, hq⟩

/-- An account that is closed is marked as closed; no other one has its index. -/
lemma close (h : TracksOperators index statuses accounts) (hinj : Function.Injective index)
    (hp : accounts p = some i) :
    TracksOperators index (statuses.set i .closed) (Function.update accounts p .none) := by
  have hlook : ∀ q j, Function.update accounts p .none q = some j ↔ q ≠ p ∧ accounts q = some j := by
    intro q j
    by_cases hq : q = p
    · subst hq; simp
    · simp [hq]
  obtain ⟨hi, hlt⟩ := h.index p i hp
  constructor
  case index => exact fun q j hq => h.index q j ((hlook q j).1 hq).2
  case status =>
    intro j a ha
    by_cases hj : i = j
    · subst hj
      rw [Table.get?_set_self hlt] at ha
      cases ha
      refine iff_of_false (by decide) ?_
      rintro ⟨q, hq⟩
      obtain ⟨hne, hq⟩ := (hlook q i).1 hq
      exact hne (hinj ((h.index q i hq).1.symm.trans hi))
    · rw [Table.get?_set_ne hj] at ha
      rw [h.status j a ha]
      refine exists_congr fun q => ?_
      rw [hlook]
      refine (and_iff_right_of_imp ?_).symm
      rintro hq rfl
      exact hj (Option.some.inj (hp.symm.trans hq))

/-- All statuses say gone exactly when no account is there. -/
lemma all_isGone (h : TracksOperators index statuses accounts) :
    statuses.toList.all isGone = true ↔ ∀ p, accounts p = .none := by
  rw [List.all_eq_true]
  constructor
  · intro hall p
    cases hp : accounts p with
    | none => rfl
    | some i =>
      obtain ⟨a, ha⟩ := statuses.exists_get? (h.index p i hp).2
      have hopen := (h.status i a ha).2 ⟨p, hp⟩
      rw [hall a (List.mem_of_getElem? ha)] at hopen
      cases hopen
  · intro hnone a ha
    obtain ⟨i, hi⟩ := List.getElem?_of_mem ha
    by_contra hopen
    obtain ⟨p, hp⟩ := (h.status i a hi).1 (Bool.eq_false_iff.2 hopen)
    rw [hnone p] at hp
    cases hp

end TracksOperators

/-! ## The accounts that the epoch has one of -/

namespace Tracks
variable {slot : Slot} {closing : Bool} {status : AccountStatus}

/-- An account that has its data is marked. -/
lemma ne_dne (h : Tracks .initialized closing status) : status ≠ .dne := by
  rintro rfl
  exact h rfl

/-- An account that is not there, while the epoch is not closing, is not marked. -/
lemma of_absent (h : Tracks .absent false status) : status = .dne := by
  cases status with
  | dne => rfl
  | created => cases h
  | createdWithReceiver => cases h
  | closed => cases h.2

/-- An account without data is not marked. -/
lemma of_allocated {dataLen : ℕ} (h : Tracks (.allocated dataLen) closing status) : status = .dne := by
  cases status with
  | dne => rfl
  | created => cases h
  | createdWithReceiver => cases h
  | closed => cases h.1

/-- The statuses stay true when the epoch begins to close. -/
lemma close (h : Tracks slot closing status) : Tracks slot true status := by
  cases status with
  | closed => exact ⟨h.1, rfl⟩
  | _ => exact h

/-- A status that is not gone is that of an account that has its data. -/
lemma of_isGone (h : isGone status = false) : Tracks .initialized closing status := by
  cases status with
  | dne => cases h
  | closed => cases h
  | _ => rfl

/-- A marked account is there with its data, or closed. -/
lemma cases_of_ne_dne (h : Tracks slot closing status) (hne : status ≠ .dne) :
    slot = .initialized ∧ isGone status = false ∨ slot = .absent ∧ status = .closed := by
  cases status with
  | dne => exact absurd rfl hne
  | closed => exact .inr ⟨h.1, rfl⟩
  | _ => exact .inl ⟨h, rfl⟩

end Tracks

namespace Live
variable {index : Pubkey → ℕ} {b : Book} {k : Single} {slot : Slot} {status : AccountStatus}

/-- Changing one account and its status. -/
lemma update_single (h : Live index b) (hk : Tracks slot b.closing status) :
    ∀ k', Tracks (Function.update b.single k slot k') b.closing (Function.update b.status k status k') := by
  intro k'
  by_cases hk' : k' = k
  · subst hk'; simpa using hk
  · simpa [hk'] using h.single k'

/-- A marked account stays marked. -/
lemma update_ne_dne {k' : Single} (hstatus : status ≠ .dne) (h : b.status k' ≠ .dne) :
    Function.update b.status k status k' ≠ .dne := by
  by_cases hk' : k' = k
  · subst hk'; simpa using hstatus
  · simpa [hk'] using h

/-- An account that has no data yet, and its growth. -/
lemma reallocate (h : Live index b) (hk : b.status k = .dne) (dataLen : ℕ) :
    Live index { b with single := Function.update b.single k (.allocated dataLen) } := by
  refine { h with single := ?_, voted := ?_ }
  · intro k'
    by_cases hk' : k' = k
    · subst hk'
      simp only [Function.update_self, hk]
      intro hslot
      cases hslot
    · simpa only [Function.update_of_ne hk'] using h.single k'
  · intro (hslot : Function.update b.single k (.allocated dataLen) .ballotBox = .initialized) hvoted
    by_cases hk' : .ballotBox = k
    · subst hk'; simp at hslot
    · rw [Function.update_of_ne hk'] at hslot
      exact h.voted hslot hvoted

/-- An account gets its data and is marked. -/
lemma fill (h : Live index b) {voted : Bool} (hstatus : isGone status = false)
    (hk : k = .epochSnapshot → b.single .weightTable = .initialized)
    (hvoted : voted = if k = .ballotBox then false else b.voted) :
    Live index { b with
      voted, single := Function.update b.single k .initialized
      status := Function.update b.status k status } := by
  have hne : status ≠ .dne := by rintro rfl; cases hstatus
  refine { h with single := ?_, consensus := ?_, voted := ?_, epochSnapshot := ?_ }
  · exact h.update_single (.of_isGone hstatus)
  · exact fun hc => ⟨update_ne_dne hne (h.consensus hc).1, update_ne_dne hne (h.consensus hc).2⟩
  · intro (hslot : Function.update b.single k .initialized .ballotBox = .initialized) hv
    subst hvoted
    by_cases hbox : k = .ballotBox
    · simp [hbox] at hv
    · rw [if_neg hbox] at hv
      rw [Function.update_of_ne (Ne.symm hbox)] at hslot
      exact update_ne_dne hne (h.voted hslot hv)
  · intro (hes : Function.update b.status k status .epochSnapshot ≠ .dne)
    by_cases hsnap : k = .epochSnapshot
    · have hw : Tracks .initialized b.closing (b.status .weightTable) := hk hsnap ▸ h.single .weightTable
      exact update_ne_dne hne hw.ne_dne
    · rw [Function.update_of_ne (Ne.symm hsnap)] at hes
      exact update_ne_dne hne (h.epochSnapshot hes)

/-- An account is closed and marked so. -/
lemma closeSingle (h : Live index b) (hc : b.consensus = true) :
    Live index { b with
      closing := true, single := Function.update b.single k .absent
      status := Function.update b.status k .closed } := by
  have hne : AccountStatus.closed ≠ .dne := by decide
  refine { h with single := ?_, closing := fun _ => hc, consensus := ?_, voted := ?_, epochSnapshot := ?_ }
  · intro k'
    by_cases hk' : k' = k
    · subst hk'; simp [Tracks]
    · simpa only [Function.update_of_ne hk'] using (h.single k').close
  · exact fun hc => ⟨update_ne_dne hne (h.consensus hc).1, update_ne_dne hne (h.consensus hc).2⟩
  · exact fun _ _ => update_ne_dne hne (h.consensus hc).2
  · exact fun _ => update_ne_dne hne (h.epochSnapshot (h.consensus hc).2)

/-- The epoch begins to close. -/
lemma close (h : Live index b) (hc : b.consensus = true) : Live index { b with closing := true } :=
  { h with single := fun k => (h.single k).close, closing := fun _ => hc }

/-- A change of a truthful book that does not end the epoch. -/
lemma change (hinj : Function.Injective index) (h : Live index b) {b' : Book} (hb : Change index b b') :
    Truthful index b' := by
  cases hb with
  | idle => exact .during h
  | start hlive => rw [h.live] at hlive; cases hlive
  | vote consensus voted _ hbox hmono hsnap =>
    refine .during { h with closing := fun hc => hmono (h.closing hc), consensus := ?_, voted := ?_ }
    all_goals
      have hneeds : consensus = true ∨ voted = true →
          b.status .ballotBox ≠ .dne ∧ b.status .epochSnapshot ≠ .dne := by
        intro hor
        have hb : Tracks .initialized b.closing (b.status .ballotBox) := hbox ▸ h.single .ballotBox
        rcases hsnap hor with hc | hv | hes
        · exact h.consensus hc
        · exact ⟨hb.ne_dne, h.voted hbox hv⟩
        · have he : Tracks .initialized b.closing (b.status .epochSnapshot) := hes ▸ h.single .epochSnapshot
          exact ⟨hb.ne_dne, he.ne_dne⟩
    · exact fun hc => hneeds (.inl hc)
    · exact fun _ hv => (hneeds (.inr hv)).2
  | allocate k dataLen _ hclosing habsent =>
    have ht := h.single k
    rw [habsent, hclosing] at ht
    exact .during (h.reallocate ht.of_absent dataLen)
  | grow k dataLen newLen _ halloc =>
    have ht := h.single k
    rw [halloc] at ht
    exact .during (h.reallocate ht.of_allocated newLen)
  | fill k status voted _ hstatus hk hvoted =>
    refine .during (h.fill hstatus ?_ hvoted)
    rintro rfl
    rcases hk with ⟨_, _, _, hw⟩ | ⟨hne, _⟩
    · exact hw
    · exact absurd rfl hne
  | createSnapshot p _ _ hlt =>
    exact .during { h with snapshot := h.snapshot.create rfl hlt (by decide) }
  | createRouter p i _ hs _ hlt =>
    exact .during { h with router := h.router.create (h.snapshot.index p i hs).1 hlt (by decide) }
  | closeSingle k _ hc _ => exact .during (h.closeSingle hc)
  | closeSnapshot p i _ hc hp =>
    exact .during { h.close hc with snapshot := h.snapshot.close hinj hp }
  | closeRouter p i _ hc hp =>
    exact .during { h.close hc with router := h.router.close hinj hp }
  | closeOther _ hc _ => exact .during (h.close hc)
  | finish => exact .after rfl rfl

end Live

variable {index : Pubkey → ℕ} {b b' : Book}

/-- The account has been created: it is there, or marked. -/
def Made (b : Book) (k : Single) : Prop := b.status k ≠ .dne ∨ b.single k ≠ .absent

/-- What has been created stays so until the epoch ends. -/
lemma Made.change {k : Single} (h : b.Made k) (hlive : b.live = true) (hb : Change index b b') : b'.Made k := by
  have hupdate : ∀ (k' : Single) (slot : Slot) (status : AccountStatus), status ≠ .dne →
      Function.update b.status k' status k ≠ .dne ∨ Function.update b.single k' slot k ≠ .absent := by
    intro k' slot status hne
    by_cases hk : k = k'
    · subst hk; exact .inl (by simpa using hne)
    · rw [Function.update_of_ne hk, Function.update_of_ne hk]; exact h
  have hgrow : ∀ (k' : Single) (dataLen : ℕ),
      b.status k ≠ .dne ∨ Function.update b.single k' (.allocated dataLen) k ≠ .absent := by
    intro k' dataLen
    by_cases hk : k = k'
    · subst hk; exact .inr (by simp)
    · rw [Function.update_of_ne hk]; exact h
  cases hb with
  | start hfalse => rw [hlive] at hfalse; cases hfalse
  | allocate k' dataLen => exact hgrow k' dataLen
  | grow k' dataLen newLen => exact hgrow k' newLen
  | fill k' status voted _ hstatus => exact hupdate k' _ status (by rintro rfl; cases hstatus)
  | closeSingle k' => exact hupdate k' _ .closed (by decide)
  | _ => exact h

/-- An epoch that is going on or has ended does not begin again. -/
lemma Change.begun (hb : Change index b b') (h : b.live = true ∨ b.marker = true) :
    (b'.live = true → b.live = true) ∧ (b'.live = true ∨ b'.marker = true) := by
  cases hb with
  | idle => exact ⟨id, h⟩
  | start hlive hmarker => simp [hlive, hmarker] at h
  | finish => exact ⟨fun hlive => (by cases hlive), .inr rfl⟩
  | _ => exact ⟨id, h⟩

/-- What is marked was marked before, or is there. -/
lemma Change.marked {k : Single} (hb : Change index b b') (hlive : b'.live = true) (h : b'.status k ≠ .dne) :
    b.live = true ∧ b.status k ≠ .dne ∨ b'.single k ≠ .absent ∨ b.single k ≠ .absent := by
  cases hb with
  | idle => exact .inl ⟨hlive, h⟩
  | start => exact absurd rfl h
  | fill k' status voted hl _ _ _ =>
    have h : Function.update b.status k' status k ≠ .dne := h
    by_cases hk : k = k'
    · subst hk; exact .inr (.inl (by simp))
    · rw [Function.update_of_ne hk] at h; exact .inl ⟨hl, h⟩
  | closeSingle k' hl _ hinit =>
    have h : Function.update b.status k' .closed k ≠ .dne := h
    by_cases hk : k = k'
    · subst hk; exact .inr (.inr (by rw [hinit]; decide))
    · rw [Function.update_of_ne hk] at h; exact .inl ⟨hl, h⟩
  | finish => cases hlive
  | _ => exact .inl ⟨by assumption, h⟩

/-- What is marked stays marked while the epoch goes on. -/
lemma Change.status_ne_dne {k : Single} (hb : Change index b b') (hlive : b.live = true)
    (h : b.status k ≠ .dne) : b'.status k ≠ .dne := by
  cases hb with
  | start hfalse => rw [hlive] at hfalse; cases hfalse
  | fill k' status voted _ hstatus => exact Live.update_ne_dne (by rintro rfl; cases hstatus) h
  | closeSingle k' => exact Live.update_ne_dne (by decide) h
  | _ => exact h

/-- An epoch that is not closing was not closing before. -/
lemma Change.closing_of_closing (hb : Change index b b') (hlive : b.live = true) (h : b'.closing = false) :
    b.closing = false := by
  cases hb with
  | start hfalse => rw [hlive] at hfalse; cases hfalse
  | _ => first | exact h | cases h

/-- And keeps the snapshots of its operators. -/
lemma Change.snapshot_of_closing (hb : Change index b b') (hlive : b.live = true) (h : b'.closing = false)
    {p : Pubkey} {i : ℕ} (hp : b.snapshot p = some i) : b'.snapshot p = some i := by
  cases hb with
  | start hfalse => rw [hlive] at hfalse; cases hfalse
  | createSnapshot q _ hq =>
    have hne : p ≠ q := by rintro rfl; rw [hp] at hq; cases hq
    exact (Function.update_of_ne hne ..).trans hp
  | closeSnapshot => cases h
  | _ => exact hp

/-- The epoch is closing and its NCN reward router has never been created. -/
structure Stuck (b : Book) : Prop where
  live : b.live = true
  closing : b.closing = true
  single : b.single .ncnRewardRouter = .absent
  status : b.status .ncnRewardRouter = .dne

/-- From then on the router cannot be created, and the epoch state cannot be closed. -/
lemma Stuck.change (h : Stuck b) (hb : Change index b b') : Stuck b' := by
  have hmarked : ¬b.AllMarked := by
    intro hm
    have := hm.status .ncnRewardRouter
    rw [h.status] at this
    cases this
  cases hb with
  | idle => exact h
  | start hlive => rw [h.live] at hlive; cases hlive
  | vote => exact { h with }
  | allocate k dataLen _ hclosing => rw [h.closing] at hclosing; cases hclosing
  | grow k dataLen newLen _ halloc =>
    have hk : .ncnRewardRouter ≠ k := by rintro rfl; rw [h.single] at halloc; cases halloc
    exact { h with single := (Function.update_of_ne hk ..).trans h.single }
  | fill k status voted _ _ hk =>
    have hk : .ncnRewardRouter ≠ k := by
      rintro rfl
      rcases hk with ⟨hk, _⟩ | ⟨_, dataLen, halloc⟩
      · cases hk
      · rw [h.single] at halloc; cases halloc
    exact { h with
      single := (Function.update_of_ne hk ..).trans h.single
      status := (Function.update_of_ne hk ..).trans h.status }
  | createSnapshot => exact { h with }
  | createRouter => exact { h with }
  | closeSingle k _ _ hinit =>
    have hk : .ncnRewardRouter ≠ k := by rintro rfl; rw [h.single] at hinit; cases hinit
    exact { h with
      closing := rfl
      single := (Function.update_of_ne hk ..).trans h.single
      status := (Function.update_of_ne hk ..).trans h.status }
  | closeSnapshot => exact { h with closing := rfl }
  | closeRouter => exact { h with closing := rfl }
  | closeOther _ _ hm => exact absurd hm hmarked
  | finish _ _ hm => exact absurd hm hmarked

/-- While the epoch goes on, its state is right. -/
lemma Truthful.live (h : Truthful index b) (hlive : b.live = true) : Live index b := by
  cases h with
  | during h => exact h
  | before hfalse => cases hlive.symm.trans hfalse
  | after hfalse => cases hlive.symm.trans hfalse

/-- Every change keeps the book truthful. -/
lemma Truthful.change (hinj : Function.Injective index) (h : Truthful index b) (hb : Change index b b') :
    Truthful index b' := by
  cases h with
  | during h => exact h.change hinj hb
  | before hlive hmarker hnone =>
    cases hb with
    | idle => exact .before hlive hmarker hnone
    | start _ _ =>
      refine .during ⟨rfl, rfl, hmarker, ?_, .none hnone.snapshot, .none hnone.router, ?_, ?_, ?_, ?_⟩
      · intro k
        rw [hnone.single k]
        exact fun h => by cases h
      · exact fun h => by cases h
      · exact fun h => by cases h
      · intro h
        rw [hnone.single] at h
        cases h
      · exact fun h => absurd rfl h
    | _ => simp_all
  | after hlive hmarker =>
    cases hb with
    | idle => exact .after hlive hmarker
    | _ => simp_all

/-- In a truthful book the epoch state says that all is closed exactly when all is closed and the four
accounts that the epoch has one of have been created. -/
lemma Live.allMarked_iff (h : Live index b) :
    b.AllMarked ↔ b.AllClosed ∧ ∀ k, b.status k ≠ .dne := by
  constructor
  · intro hm
    refine ⟨⟨fun k => ?_, h.snapshot.all_isGone.1 hm.snapshotStatus, h.router.all_isGone.1 hm.routerStatus⟩,
      fun k => ?_⟩
    · have ht := h.single k
      rw [hm.status k] at ht
      exact ht.1
    · rw [hm.status k]
      decide
  · rintro ⟨hc, hne⟩
    refine ⟨fun k => ?_, h.snapshot.all_isGone.2 hc.snapshot, h.router.all_isGone.2 hc.router⟩
    rcases (h.single k).cases_of_ne_dne (hne k) with ⟨hi, _⟩ | ⟨_, hstatus⟩
    · rw [hc.single k] at hi
      cases hi
    · exact hstatus

/-! ## A state that was emptied -/

/-- What is true of the book also when the epoch state has been emptied and created again: an operator's account is
kept with the operator's index, an account that the state has as closed is gone, and a state that is there has no
marker. The state may have an operator's account that is there as never created. -/
structure Steady (index : Pubkey → ℕ) (b : Book) : Prop where
  snapshotIndex : ∀ p i, b.snapshot p = some i → i = index p ∧ i < maxOperators
  routerIndex : ∀ p i, b.router p = some i → i = index p ∧ i < maxOperators
  marker : b.live = true → b.marker = false
  single : b.live = true → ∀ k, b.status k = .closed → b.single k = .absent ∧ b.closing = true
  snapshot : b.live = true → ∀ p i, b.snapshot p = some i → b.snapshotStatus.get? i ≠ some .closed
  router : b.live = true → ∀ p i, b.router p = some i → b.routerStatus.get? i ≠ some .closed

namespace Steady
variable {accounts : Pubkey → Option ℕ} {statuses : Table AccountStatus maxOperators}

/-- One account gets another status than closed. -/
lemma update_status (h : ∀ q j, accounts q = some j → statuses.get? j ≠ some .closed) {p : Pubkey} {i : ℕ}
    (hlt : i < maxOperators) {status : AccountStatus} (hstatus : status ≠ .closed) :
    ∀ q j, Function.update accounts p (some i) q = some j → (statuses.set i status).get? j ≠ some .closed := by
  intro q j hq
  by_cases hj : i = j
  · subst hj
    rw [Table.get?_set_self hlt]
    exact fun hclosed => hstatus (Option.some.inj hclosed)
  · rw [Table.get?_set_ne hj]
    refine h q j ?_
    by_cases hqp : q = p
    · subst hqp
      rw [Function.update_self] at hq
      exact absurd (Option.some.inj hq) hj
    · rwa [Function.update_of_ne hqp] at hq

/-- One account goes, and no other one has its index. -/
lemma close_status (h : ∀ q j, accounts q = some j → statuses.get? j ≠ some .closed)
    (hindex : ∀ q j, accounts q = some j → j = index q ∧ j < maxOperators) (hinj : Function.Injective index)
    {p : Pubkey} {i : ℕ} (hp : accounts p = some i) :
    ∀ q j, Function.update accounts p none q = some j → (statuses.set i .closed).get? j ≠ some .closed := by
  intro q j hq
  by_cases hqp : q = p
  · subst hqp
    rw [Function.update_self] at hq
    cases hq
  · rw [Function.update_of_ne hqp] at hq
    have hj : i ≠ j := by
      rintro rfl
      exact hqp (hinj ((hindex q i hq).1.symm.trans (hindex p i hp).1))
    rw [Table.get?_set_ne hj]
    exact h q j hq

/-- What holds of all accounts holds of all but one, and of one more if it holds of that. -/
lemma update_index (h : ∀ q j, accounts q = some j → j = index q ∧ j < maxOperators) {p : Pubkey} {o : Option ℕ}
    (ho : ∀ i, o = some i → i = index p ∧ i < maxOperators) :
    ∀ q j, Function.update accounts p o q = some j → j = index q ∧ j < maxOperators := by
  intro q j hq
  by_cases hqp : q = p
  · subst hqp
    rw [Function.update_self] at hq
    exact ho j hq
  · rw [Function.update_of_ne hqp] at hq
    exact h q j hq

/-- An account that the epoch has one of is written while it is not closed. -/
lemma update_single (h : ∀ k, b.status k = .closed → b.single k = .absent ∧ b.closing = true) {k : Single}
    (hk : b.status k ≠ .closed) (slot : Slot) :
    ∀ k', b.status k' = .closed → Function.update b.single k slot k' = .absent ∧ b.closing = true := by
  intro k' hk'
  have hne : k' ≠ k := by rintro rfl; exact hk hk'
  rw [Function.update_of_ne hne]
  exact h k' hk'

/-- Every change keeps this. -/
lemma change (h : Steady index b) (hinj : Function.Injective index) (hb : Change index b b') : Steady index b' := by
  cases hb with
  | idle => exact h
  | start hlive hmarker =>
    have hnone : ∀ i, (Table.replicate maxOperators AccountStatus.dne).get? i ≠ some .closed := by
      intro i hi
      cases List.eq_of_mem_replicate (List.mem_of_getElem? hi)
    exact { h with
      marker := fun _ => hmarker
      single := fun _ k hk => (by cases hk)
      snapshot := fun _ _ i _ => hnone i
      router := fun _ _ i _ => hnone i }
  | vote => exact { h with }
  | allocate k dataLen hlive hclosing _ =>
    have hk : b.status k ≠ .closed := by
      intro hk
      cases hclosing.symm.trans (h.single hlive k hk).2
    exact { h with single := fun _ => update_single (h.single hlive) hk _ }
  | grow k dataLen newLen hlive halloc =>
    have hk : b.status k ≠ .closed := by
      intro hk
      cases halloc.symm.trans (h.single hlive k hk).1
    exact { h with single := fun _ => update_single (h.single hlive) hk _ }
  | fill k status voted hlive hstatus hk =>
    refine { h with single := ?_ }
    intro _ k' (hclosed : Function.update b.status k status k' = .closed)
    by_cases hk' : k' = k
    · subst hk'
      rw [Function.update_self] at hclosed
      subst hclosed
      cases hstatus
    · rw [Function.update_of_ne hk'] at hclosed
      obtain ⟨habsent, hclosing⟩ := h.single hlive k' hclosed
      exact ⟨(Function.update_of_ne hk' ..).trans habsent, hclosing⟩
  | createSnapshot p hlive _ hlt =>
    exact { h with
      snapshotIndex := update_index h.snapshotIndex fun i hi => by cases hi; exact ⟨rfl, hlt⟩
      snapshot := fun _ => update_status (h.snapshot hlive) hlt (by decide) }
  | createRouter p i hlive hp _ hlt =>
    exact { h with
      routerIndex := update_index h.routerIndex fun j hj => by cases hj; exact h.snapshotIndex p i hp
      router := fun _ => update_status (h.router hlive) hlt (by decide) }
  | closeSingle k hlive =>
    refine { h with single := ?_ }
    intro _ k' (hclosed : Function.update b.status k .closed k' = .closed)
    refine ⟨?_, rfl⟩
    by_cases hk' : k' = k
    · subst hk'
      exact Function.update_self ..
    · rw [Function.update_of_ne hk'] at hclosed
      exact (Function.update_of_ne hk' ..).trans (h.single hlive k' hclosed).1
  | closeSnapshot p i hlive _ hp =>
    exact { h with
      single := fun _ k hk => ⟨(h.single hlive k hk).1, rfl⟩
      snapshotIndex := update_index h.snapshotIndex fun j hj => (by cases hj)
      snapshot := fun _ => close_status (h.snapshot hlive) h.snapshotIndex hinj hp }
  | closeRouter p i hlive _ hp =>
    exact { h with
      single := fun _ k hk => ⟨(h.single hlive k hk).1, rfl⟩
      routerIndex := update_index h.routerIndex fun j hj => (by cases hj)
      router := fun _ => close_status (h.router hlive) h.routerIndex hinj hp }
  | closeOther hlive => exact { h with single := fun _ k hk => ⟨(h.single hlive k hk).1, rfl⟩ }
  | finish =>
    exact { h with
      marker := fun hlive => (by cases hlive)
      single := fun hlive => (by cases hlive)
      snapshot := fun hlive => (by cases hlive)
      router := fun hlive => (by cases hlive) }

/-- So does emptying the state. -/
lemma emptied (h : Steady index b) : Steady index { b with live := false } :=
  { h with
    marker := fun hlive => (by cases hlive)
    single := fun hlive => (by cases hlive)
    snapshot := fun hlive => (by cases hlive)
    router := fun hlive => (by cases hlive) }

/-- An account whose status says gone, in a state that never has it as not created, is gone. -/
lemma eq_none (h : ∀ p i, accounts p = some i → statuses.get? i ≠ some .closed)
    (hindex : ∀ p i, accounts p = some i → i = index p ∧ i < maxOperators)
    (hall : statuses.toList.all isGone = true)
    (hknown : ∀ p i, accounts p = some i → statuses.get? i ≠ some .dne) (p : Pubkey) : accounts p = none := by
  cases hp : accounts p with
  | none => rfl
  | some i =>
    obtain ⟨a, ha⟩ := statuses.exists_get? (hindex p i hp).2
    have hgone : isGone a = true := List.all_eq_true.1 hall a (List.mem_of_getElem? ha)
    cases a with
    | dne => exact absurd ha (hknown p i hp)
    | closed => exact absurd ha (h p i hp)
    | _ => cases hgone

/-- When the state says that everything is closed and has no operator's account that is there as never created,
everything is closed. -/
lemma allClosed (h : Steady index b) (hlive : b.live = true) (hmarked : b.AllMarked)
    (hsnapshot : ∀ p i, b.snapshot p = some i → b.snapshotStatus.get? i ≠ some .dne)
    (hrouter : ∀ p i, b.router p = some i → b.routerStatus.get? i ≠ some .dne) : b.AllClosed where
  single k := (h.single hlive k (hmarked.status k)).1
  snapshot := eq_none (h.snapshot hlive) h.snapshotIndex hmarked.snapshotStatus hsnapshot
  router := eq_none (h.router hlive) h.routerIndex hmarked.routerStatus hrouter

end Steady

end Book
end NcnProgram
