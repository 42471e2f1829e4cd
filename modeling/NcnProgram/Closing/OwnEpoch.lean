import NcnProgram.Closing.Closable
import NcnProgram.Program.Ledger
import Mathlib.Data.Set.Function

/-!
# Closing touches only its own epoch

What `process_close_epoch_account` does to the ledger when it succeeds, whatever accounts are passed to it. Six of
its arms derive the key of the account to close from the NCN and the epoch. The arm for an epoch state checks the
state that was passed as `epoch_state` and never looks at the account to close, so a call that names an epoch with
nothing left in it can drain the state of any other epoch. The state of an epoch that was drained like this can be
created again, and then has operators' accounts that are still there as never created; a later call can close it
although they are left.
-/

namespace NcnProgram
open Lib NCNProgramError

namespace Runtime
variable {rt : Runtime} {l l' : Ledger} {u : Unit}

/-! ## What each step does to the ledger -/

/-- The account at the key gets the epoch state. -/
def setState (l : Ledger) (key : Pubkey) (st : EpochState) : Ledger :=
  Function.update l key { l key with data := .epochState st }

/-- Lamports of the system program's accounts were moved, and `gain` of them came to the others. -/
structure Paid (l l' : Ledger) (gain : Pubkey → ℕ) : Prop where
  owner : ∀ k, (l' k).owner = (l k).owner
  data : ∀ k, (l' k).data = (l k).data
  lamports : ∀ k, (l k).owner ≠ systemProgramId → (l' k).lamports = (l k).lamports + gain k

namespace Paid
variable {l₁ l₂ : Ledger} {gain : Pubkey → ℕ}

/-- Nothing is paid. -/
lemma refl (l : Ledger) : Paid l l fun _ => 0 := ⟨fun _ => rfl, fun _ => rfl, fun _ _ => rfl⟩

/-- What an account holds afterwards. -/
lemma eq (h : Paid l l' gain) {k : Pubkey} (hk : (l k).owner ≠ systemProgramId) :
    l' k = ⟨(l k).lamports + gain k, (l k).owner, (l k).data⟩ := by
  rw [← h.owner k, ← h.data k, ← h.lamports k hk]

/-- The lamports of one account are written. -/
lemma write {key : Pubkey} {lamports n : ℕ}
    (h : (l key).owner ≠ systemProgramId → lamports = (l key).lamports + n) :
    Paid l (Function.update l key { l key with lamports }) fun k => if k = key then n else 0 := by
  refine ⟨fun k => ?_, fun k => ?_, fun k hk => ?_⟩
  · by_cases hs : k = key
    · subst hs; rw [Function.update_self]
    · rw [Function.update_of_ne hs]
  · by_cases hs : k = key
    · subst hs; rw [Function.update_self]
    · rw [Function.update_of_ne hs]
  · by_cases hs : k = key
    · subst hs; rw [Function.update_self, if_pos rfl]; exact h hk
    · rw [Function.update_of_ne hs, if_neg hs, Nat.add_zero]

/-- One payment after another. -/
lemma trans {gain' : Pubkey → ℕ} (h : Paid l l₁ gain) (h' : Paid l₁ l₂ gain') :
    Paid l l₂ fun k => gain k + gain' k := by
  refine ⟨fun k => (h'.owner k).trans (h.owner k), fun k => (h'.data k).trans (h.data k), fun k hk => ?_⟩
  rw [h'.lamports k (by rwa [h.owner k]), h.lamports k hk, Nat.add_assoc]

/-- Only what comes to accounts of other programs counts. -/
lemma congr {gain' : Pubkey → ℕ} (h : Paid l l' gain)
    (hgain : ∀ k, (l k).owner ≠ systemProgramId → gain k = gain' k) : Paid l l' gain' :=
  ⟨h.owner, h.data, fun k hk => hgain k hk ▸ h.lamports k hk⟩

end Paid

/-- A write puts the account at its key. -/
lemma write_ok {key : Pubkey} {account : Account} (h : (write key account).run l = .ok u l') :
    l' = Function.update l key account := by
  cases h
  rfl

/-- An account that is loaded has the owner, the key and the discriminator that are expected. -/
lemma checkLoad_ok {owner expectedPda : Pubkey} {account : AccountInfo} {d : Option UInt8} {w : Bool}
    (h : (checkLoad owner account expectedPda d w).run l = .ok u l') :
    l = l' ∧ (l account.key).owner = owner ∧ account.key = expectedPda ∧
      (d = none ∨ (l account.key).data.discriminator = d) := by
  obtain ⟨_, _, hg, h⟩ := run_bind_ok.1 h
  cases hg
  obtain ⟨_, _, hg, h⟩ := run_bind_ok.1 h
  obtain ⟨howner, rfl⟩ := run_ensure_ok.1 hg
  obtain ⟨_, _, hg, h⟩ := run_bind_ok.1 h
  obtain ⟨hkey, rfl⟩ := run_ensure_ok.1 hg
  obtain ⟨_, _, hg, h⟩ := run_bind_ok.1 h
  obtain ⟨hd, rfl⟩ := run_ensure_ok.1 hg
  obtain ⟨_, rfl⟩ := run_ensure_ok.1 h
  exact ⟨rfl, howner, hkey, hd⟩

/-- A transfer debits an account of the system program. -/
lemma transfer_ok {address : Address} {source dest : AccountInfo} {n : ℕ} {borrowed : List Pubkey}
    (h : (rt.transfer address source dest n borrowed).run l = .ok u l') :
    Paid l l' fun k => if k = dest.key then n else 0 := by
  obtain ⟨_, _, hg, h⟩ := run_bind_ok.1 h
  obtain ⟨_, rfl⟩ := run_ensure_ok.1 hg
  obtain ⟨_, _, hg, h⟩ := run_bind_ok.1 h
  obtain ⟨_, rfl⟩ := run_ensure_ok.1 hg
  obtain ⟨_, _, hg, h⟩ := run_bind_ok.1 h
  obtain ⟨_, rfl⟩ := run_ensure_ok.1 hg
  obtain ⟨_, _, hg, h⟩ := run_bind_ok.1 h
  cases hg
  obtain ⟨_, _, hg, h⟩ := run_bind_ok.1 h
  obtain ⟨_, rfl⟩ := run_ensure_ok.1 hg
  obtain ⟨left, _, hg, h⟩ := run_bind_ok.1 h
  obtain ⟨_, rfl⟩ := run_okOr_ok.1 hg
  obtain ⟨_, _, hg, h⟩ := run_bind_ok.1 h
  obtain ⟨howner, rfl⟩ := run_ensure_ok.1 hg
  obtain ⟨_, _, hg, h⟩ := run_bind_ok.1 h
  cases hg
  obtain ⟨_, _, hg, h⟩ := run_bind_ok.1 h
  cases hg
  obtain ⟨total, _, hg, h⟩ := run_bind_ok.1 h
  obtain ⟨htotal, rfl⟩ := run_okOr_ok.1 hg
  cases h
  -- the debit, then the credit, which may be of the same account
  have h₁ : Paid l (Function.update l source.key { l source.key with lamports := left })
      fun k => if k = source.key then 0 else 0 := .write fun hne => absurd howner hne
  have h₂ := Paid.write (n := n) fun _ => (checkedAdd_eq_some.1 htotal).2
  exact (h₁.trans h₂).congr fun k _ => by rw [ite_self, Nat.zero_add]

/-- Closing a receiver pays what is over its rent to the fee wallet. -/
lemma closeReceiver_ok {address : Address} {receiver feeWallet accountPayer : AccountInfo}
    {borrowed : List Pubkey} (hpayer : (l accountPayer.key).owner = systemProgramId)
    (h : (rt.closeReceiver address receiver feeWallet accountPayer borrowed).run l = .ok u l') :
    Paid l l' fun k => if k = feeWallet.key then (l receiver.key).lamports - rt.minimumBalance 0 else 0 := by
  -- the rent goes to an account of the system program
  have hrent : ∀ {l₁ : Ledger} {gain : Pubkey → ℕ} {n : ℕ}, Paid l l₁ gain →
      (rt.transfer address receiver accountPayer n borrowed).run l₁ = .ok u l' → Paid l l' gain := by
    intro l₁ gain n h₁ h₂
    refine (h₁.trans (transfer_ok h₂)).congr fun k hk => ?_
    rw [if_neg (by rintro rfl; exact hk hpayer), Nat.add_zero]
  obtain ⟨_, _, hg, h⟩ := run_bind_ok.1 h
  obtain ⟨rfl, _⟩ := checkLoad_ok hg
  obtain ⟨_, _, hg, h⟩ := run_bind_ok.1 h
  cases hg
  dsimp only at h
  split at h
  · obtain ⟨_, l₁, hpay, h⟩ := run_bind_ok.1 h
    exact hrent (transfer_ok hpay) h
  · rename_i hzero
    refine (hrent (.refl l) h).congr fun k _ => ?_
    rw [Nat.eq_zero_of_not_pos hzero, ite_self]

/-- A method of an epoch state is run on the account that has it. -/
lemma onEpochState_ok {α : Type} {key : Pubkey} {x : Mut EpochState α} {a : α}
    (h : (onEpochState key x).run l = .ok a l') :
    ∃ st st', (l key).data = .epochState st ∧ x.run st = .ok a st' ∧ l' = setState l key st' := by
  obtain ⟨_, _, hg, h⟩ := run_bind_ok.1 h
  cases hg
  obtain ⟨st, _, hg, h⟩ := run_bind_ok.1 h
  obtain ⟨hst, rfl⟩ := run_ofExcept_ok.1 hg
  obtain ⟨st', hx, rfl⟩ := run_zoom_ok.1 h
  refine ⟨st, st', ?_, hx, rfl⟩
  cases hd : (l key).data with
  | epochState st₀ => rw [hd] at hst; cases hst; rfl
  | _ => rw [hd] at hst; cases hst

variable {accs : CloseAccounts} {config : Config} {epoch : ℕ}

/-- What the account at a key gets when an account of this kind is closed: the fee wallet is paid what the
receiver of a router holds over its rent. -/
def gainOf (rt : Runtime) (l : Ledger) (accs : CloseAccounts) (kind : ClosableKind) (k : Pubkey) : ℕ :=
  match accs.optionalAccounts with
  | [ncnFeeWallet, receiver] =>
    if (kind = .single .ncnRewardRouter ∨ kind = .operatorVaultRewardRouter) ∧ k = ncnFeeWallet.key then
      (l receiver.key).lamports - rt.minimumBalance 0
    else 0
  | _ => 0

/-- The checks of an arm passed, and this is what it did to the epoch state. -/
def Closes (rt : Runtime) (l : Ledger) (accs : CloseAccounts) (epoch : ℕ) (st st' : EpochState) :
    ClosableKind → Prop
  | .epochState => st.loadToClose accs.ncn.key epoch = .ok () ∧ st' = st.closeEpochState
  | .single k => accs.accountToClose.key = rt.pda (.single k accs.ncn.key epoch) ∧
      (l accs.accountToClose.key).data.discriminator = some k.discriminator ∧ st' = st.closeSingle k
  | .operatorSnapshot => ∃ t, (l accs.accountToClose.key).data = .operatorSnapshot t ∧
      accs.accountToClose.key = rt.pda (.operatorSnapshot t.operator accs.ncn.key epoch) ∧
      (EpochState.closeOperatorSnapshot t.ncnOperatorIndex).run st = .ok () st'
  | .operatorVaultRewardRouter => ∃ r, (l accs.accountToClose.key).data = .operatorVaultRewardRouter r ∧
      accs.accountToClose.key = rt.pda (.operatorVaultRewardRouter r.operator accs.ncn.key epoch) ∧
      (EpochState.closeOperatorVaultRewardRouter r.ncnOperatorIndex).run st = .ok () st'

/-- The receiver of a router is closed with it. -/
lemma closeReceiverOf_ok {address : Address} {borrowed : List Pubkey} {kind : ClosableKind}
    (hkind : kind = .single .ncnRewardRouter ∨ kind = .operatorVaultRewardRouter)
    (hpayer : (l accs.accountPayer.key).owner = systemProgramId)
    (h : (rt.closeReceiverOf accs config address borrowed).run l = .ok u l') :
    Paid l l' (gainOf rt l accs kind) := by
  unfold closeReceiverOf at h
  split at h
  · rename_i ncnFeeWallet receiver hopt
    obtain ⟨_, _, hg, h⟩ := run_bind_ok.1 h
    obtain ⟨_, rfl⟩ := run_ensure_ok.1 hg
    refine (closeReceiver_ok hpayer h).congr fun k _ => ?_
    simp [gainOf, hopt, hkind]
  · exact absurd h (by simp)

/-- Only routers pay anything to the wallet. -/
lemma gainOf_eq_zero {kind : ClosableKind} {k : Pubkey}
    (hkind : ¬(kind = .single .ncnRewardRouter ∨ kind = .operatorVaultRewardRouter)) :
    gainOf rt l accs kind k = 0 := by
  unfold gainOf
  split
  · rw [if_neg fun h => hkind h.1]
  · rfl

/-- An arm pays the fee wallet, if at all, and writes the epoch state that was passed. -/
lemma closeArm_ok {kind : ClosableKind} (hpayer : (l accs.accountPayer.key).owner = systemProgramId)
    (h : (rt.closeArm accs config epoch kind).run l = .ok u l') :
    ∃ l₁ st st', Paid l l₁ (gainOf rt l accs kind) ∧ (l accs.epochState.key).data = .epochState st ∧
      l' = setState l₁ accs.epochState.key st' ∧ Closes rt l accs epoch st st' kind := by
  cases kind with
  | epochState =>
    obtain ⟨st, st', hst, hx, rfl⟩ := onEpochState_ok h
    obtain ⟨_, _, hg, hx⟩ := run_bind_ok.1 hx
    cases hg
    obtain ⟨_, _, hg, hx⟩ := run_bind_ok.1 hx
    obtain ⟨hload, rfl⟩ := run_ofExcept_ok.1 hg
    cases hx
    exact ⟨l, st, _, (Paid.refl l).congr fun _ _ => (gainOf_eq_zero (by simp)).symm, hst, rfl, hload, rfl⟩
  | single k =>
    obtain ⟨_, _, hg, h⟩ := run_bind_ok.1 h
    obtain ⟨rfl, _, hkey, hd⟩ := checkLoad_ok hg
    have hd := hd.resolve_left (by simp)
    -- the router's receiver, if the account is the router
    have hpaid : ∀ l₁, (onEpochState accs.epochState.key (modify (EpochState.closeSingle k))).run l₁ = .ok u l' →
        Paid l l₁ (gainOf rt l accs (.single k)) →
        ∃ l₁ st st', Paid l l₁ (gainOf rt l accs (.single k)) ∧
          (l accs.epochState.key).data = .epochState st ∧ l' = setState l₁ accs.epochState.key st' ∧
          Closes rt l accs epoch st st' (.single k) := by
      intro l₁ h hpaid
      obtain ⟨st, st', hst, hx, rfl⟩ := onEpochState_ok h
      cases hx
      exact ⟨l₁, st, _, hpaid, (hpaid.data _).symm.trans hst, rfl, hkey, hd, rfl⟩
    split at h
    · rename_i hk
      obtain ⟨_, l₁, hpay, h⟩ := run_bind_ok.1 h
      exact hpaid l₁ h (closeReceiverOf_ok (.inl (by rw [hk])) hpayer hpay)
    · rename_i hk
      exact hpaid l h ((Paid.refl l).congr fun _ _ => (gainOf_eq_zero (by simp [hk])).symm)
  | operatorSnapshot =>
    obtain ⟨_, _, hg, h⟩ := run_bind_ok.1 h
    cases hg
    obtain ⟨t, _, hg, h⟩ := run_bind_ok.1 h
    obtain ⟨ht, rfl⟩ := run_ofExcept_ok.1 hg
    obtain ⟨_, _, hg, h⟩ := run_bind_ok.1 h
    obtain ⟨rfl, _, hkey, _⟩ := checkLoad_ok hg
    obtain ⟨st, st', hst, hx, rfl⟩ := onEpochState_ok h
    refine ⟨l, st, st', (Paid.refl l).congr fun _ _ => (gainOf_eq_zero (by simp)).symm, hst, rfl, t, ?_, hkey,
      hx⟩
    cases hd : (l accs.accountToClose.key).data with
    | operatorSnapshot t₀ => rw [hd] at ht; cases ht; rfl
    | _ => rw [hd] at ht; cases ht
  | operatorVaultRewardRouter =>
    obtain ⟨_, _, hg, h⟩ := run_bind_ok.1 h
    cases hg
    obtain ⟨r, _, hg, h⟩ := run_bind_ok.1 h
    obtain ⟨hr, rfl⟩ := run_ofExcept_ok.1 hg
    obtain ⟨_, _, hg, h⟩ := run_bind_ok.1 h
    obtain ⟨rfl, _, hkey, _⟩ := checkLoad_ok hg
    obtain ⟨_, l₁, hpay, h⟩ := run_bind_ok.1 h
    have hpaid : Paid l l₁ (gainOf rt l accs .operatorVaultRewardRouter) :=
      closeReceiverOf_ok (.inr rfl) hpayer hpay
    obtain ⟨st, st', hst, hx, rfl⟩ := onEpochState_ok h
    refine ⟨l₁, st, st', hpaid, (hpaid.data _).symm.trans hst, rfl, r, ?_, hkey, hx⟩
    cases hd : (l accs.accountToClose.key).data with
    | operatorVaultRewardRouter r₀ => rw [hd] at hr; cases hr; rfl
    | _ => rw [hd] at hr; cases hr

/-- An account is created at a key of the system program. -/
lemma allocateAndAssign_ok {newAccount : AccountInfo} {space : ℕ}
    (h : (rt.allocateAndAssign newAccount space).run l = .ok u l') :
    (l newAccount.key).owner = systemProgramId ∧ (l' newAccount.key).owner = rt.programId ∧
      ∀ k, k ≠ newAccount.key → l' k = l k := by
  obtain ⟨_, _, hg, h⟩ := run_bind_ok.1 h
  obtain ⟨_, rfl⟩ := run_ensure_ok.1 hg
  obtain ⟨_, _, hg, h⟩ := run_bind_ok.1 h
  cases hg
  obtain ⟨_, _, hg, h⟩ := run_bind_ok.1 h
  obtain ⟨⟨_, howner⟩, rfl⟩ := run_ensure_ok.1 hg
  rw [write_ok h]
  exact ⟨howner, by rw [Function.update_self], fun k hk => Function.update_of_ne hk ..⟩

/-- It is paid for by an account of the system program, so no other account changes, and no other owner. -/
lemma payAndCreateAccount_ok {ncn : Pubkey} {accountPayer newAccount : AccountInfo} {space : ℕ}
    (h : (rt.payAndCreateAccount ncn accountPayer newAccount space).run l = .ok u l') :
    (l' newAccount.key).owner = rt.programId ∧
      (∀ k, (l k).owner ≠ systemProgramId → k ≠ newAccount.key ∧ l' k = l k) ∧
      ∀ k, k ≠ newAccount.key → (l' k).owner = (l k).owner := by
  -- the rent is topped up, or there was enough
  have halloc : ∀ l₁ gain, Paid l l₁ gain → (∀ k, k ≠ newAccount.key → gain k = 0) →
      (rt.allocateAndAssign newAccount (min space maxReallocBytes)).run l₁ = .ok u l' →
      (l' newAccount.key).owner = rt.programId ∧
        (∀ k, (l k).owner ≠ systemProgramId → k ≠ newAccount.key ∧ l' k = l k) ∧
        ∀ k, k ≠ newAccount.key → (l' k).owner = (l k).owner := by
    intro l₁ gain hpaid hgain h
    obtain ⟨hsystem, howner, hsame⟩ := allocateAndAssign_ok h
    refine ⟨howner, fun k hk => ?_, fun k hne => by rw [hsame k hne, hpaid.owner k]⟩
    have hne : k ≠ newAccount.key := by
      rintro rfl
      exact hk ((hpaid.owner _).symm.trans hsystem)
    refine ⟨hne, ?_⟩
    rw [hsame k hne, hpaid.eq hk, hgain k hne, Nat.add_zero]
  obtain ⟨_, _, hg, h⟩ := run_bind_ok.1 h
  cases hg
  dsimp only at h
  split at h
  · obtain ⟨_, l₁, hpay, h⟩ := run_bind_ok.1 h
    exact halloc l₁ _ (transfer_ok hpay) (fun k hne => if_neg hne) h
  · exact halloc l _ (.refl l) (fun _ _ => rfl) h

/-- The marker is created at a key of the system program. -/
lemma createMarker_ok (h : (rt.createMarker accs epoch).run l = .ok u l') :
    (∀ k, (l k).owner ≠ systemProgramId → l' k = l k) ∧
      (l' accs.epochMarker.key).owner = rt.programId ∧
      (l' accs.epochMarker.key).data = .epochMarker ⟨accs.ncn.key, epoch, rt.slot⟩ ∧
      ∀ k, k ≠ accs.epochMarker.key → (l' k).owner = (l k).owner := by
  obtain ⟨_, l₂, hcreate, h⟩ := run_bind_ok.1 h
  obtain ⟨howner, hsame, howners⟩ := payAndCreateAccount_ok hcreate
  obtain ⟨_, _, hg, h⟩ := run_bind_ok.1 h
  cases hg
  rw [write_ok h, Function.update_self]
  refine ⟨fun k hk => ?_, howner, rfl, fun k hne => ?_⟩
  · obtain ⟨hne, heq⟩ := hsame k hk
    rw [Function.update_of_ne hne, heq]
  · rw [Function.update_of_ne hne, howners k hne]

/-- An account of the program is emptied, and the payer gets its lamports. -/
lemma closeAccount_ok {payer key : Pubkey} (h : (rt.closeAccount payer key).run l = .ok u l') :
    (l key).owner = rt.programId ∧ l' key = .empty ∧ (∀ k, k ≠ key → k ≠ payer → l' k = l k) ∧
      (payer ≠ key → (l' payer).owner = (l payer).owner ∧ (l' payer).data = (l payer).data) := by
  obtain ⟨_, _, hg, h⟩ := run_bind_ok.1 h
  cases hg
  obtain ⟨_, _, hg, h⟩ := run_bind_ok.1 h
  obtain ⟨howner, rfl⟩ := run_ensure_ok.1 hg
  obtain ⟨_, _, hg, h⟩ := run_bind_ok.1 h
  cases hg
  obtain ⟨total, _, hg, h⟩ := run_bind_ok.1 h
  obtain ⟨_, rfl⟩ := run_okOr_ok.1 hg
  obtain ⟨_, l₁, hg, h⟩ := run_bind_ok.1 h
  have hpayer := write_ok hg
  rw [write_ok h, hpayer]
  refine ⟨howner, Function.update_self .., fun k hk hp => ?_, fun hp => ?_⟩
  · rw [Function.update_of_ne hk, Function.update_of_ne hp]
  · rw [Function.update_of_ne hp, Function.update_self]
    exact ⟨rfl, rfl⟩

/-- A successful call, step by step: what was checked, the arm that was taken from the ledger `l₁` to `l₂`, the
marker, and the end of the account. -/
lemma closeEpochAccount_ok (h : (rt.closeEpochAccount accs epoch).run l = .ok u l') :
    ∃ st config d kind l₂ l₃,
      accs.epochState.key = rt.pda (.epochState accs.ncn.key epoch) ∧
      (l accs.epochState.key).owner = rt.programId ∧ (l accs.epochState.key).data = .epochState st ∧
      st.isConsensusReached = true ∧ (l accs.accountPayer.key).owner = systemProgramId ∧
      accs.epochMarker.key = rt.pda (.epochMarker accs.ncn.key epoch) ∧
      (l accs.accountToClose.key).data.discriminator = some d ∧
      ClosableKind.ofDiscriminator
        (if accs.accountToClose.key = accs.epochState.key then EpochState.discriminator else d) = some kind ∧
      (rt.closeArm accs config epoch kind).run (setState l accs.epochState.key st.setIsClosing) = .ok () l₂ ∧
      (accs.accountToClose.key = accs.epochState.key ∧ (rt.createMarker accs epoch).run l₂ = .ok () l₃ ∨
        accs.accountToClose.key ≠ accs.epochState.key ∧ l₃ = l₂) ∧
      (rt.closeAccount accs.accountPayer.key accs.accountToClose.key).run l₃ = .ok () l' := by
  obtain ⟨_, _, hg, h⟩ := run_bind_ok.1 h
  obtain ⟨_, rfl⟩ := run_ensure_ok.1 hg
  obtain ⟨_, _, hg, h⟩ := run_bind_ok.1 h
  cases hg
  obtain ⟨_, _, hg, h⟩ := run_bind_ok.1 h
  obtain ⟨_, rfl⟩ := run_ofExcept_ok.1 hg
  obtain ⟨_, _, hg, h⟩ := run_bind_ok.1 h
  obtain ⟨rfl, howner, hkey, _⟩ := checkLoad_ok hg
  obtain ⟨_, _, hg, h⟩ := run_bind_ok.1 h
  obtain ⟨rfl, _⟩ := checkLoad_ok hg
  obtain ⟨_, _, hg, h⟩ := run_bind_ok.1 h
  obtain ⟨rfl, hpayer, _⟩ := checkLoad_ok hg
  obtain ⟨_, _, hmark, h⟩ := run_bind_ok.1 h
  obtain ⟨_, _, hg, hmark⟩ := run_bind_ok.1 hmark
  obtain ⟨hmarker, rfl⟩ := run_ensure_ok.1 hg
  obtain ⟨_, _, hg, hmark⟩ := run_bind_ok.1 hmark
  cases hg
  obtain ⟨_, rfl⟩ := run_ensure_ok.1 hmark
  obtain ⟨_, _, hg, h⟩ := run_bind_ok.1 h
  cases hg
  obtain ⟨d, _, hg, h⟩ := run_bind_ok.1 h
  obtain ⟨hd, rfl⟩ := run_okOr_ok.1 hg
  obtain ⟨_, _, hg, h⟩ := run_bind_ok.1 h
  cases hg
  obtain ⟨config, _, hg, h⟩ := run_bind_ok.1 h
  obtain ⟨_, rfl⟩ := run_ofExcept_ok.1 hg
  obtain ⟨_, _, hg, h⟩ := run_bind_ok.1 h
  obtain ⟨st, st', hst, hx, rfl⟩ := onEpochState_ok hg
  obtain ⟨_, _, hg, hx⟩ := run_bind_ok.1 hx
  cases hg
  obtain ⟨_, _, hg, hx⟩ := run_bind_ok.1 hx
  obtain ⟨hcan, rfl⟩ := run_ofExcept_ok.1 hg
  obtain ⟨_, _, hg, hx⟩ := run_bind_ok.1 hx
  obtain ⟨rfl, rfl⟩ := run_ensure_ok.1 hg
  have hconsensus : st.isConsensusReached = true := (Lifecycle.canCloseEpochAccounts_ok.1 hcan).1
  cases hx
  obtain ⟨kind, _, hg, h⟩ := run_bind_ok.1 h
  obtain ⟨hkind, rfl⟩ := run_okOr_ok.1 hg
  obtain ⟨_, l₂, harm, h⟩ := run_bind_ok.1 h
  simp only [decide_eq_true_eq] at hkind h
  by_cases hclosing : accs.accountToClose.key = accs.epochState.key
  · rw [if_pos hclosing] at h
    obtain ⟨_, l₃, hcreate, h⟩ := run_bind_ok.1 h
    exact ⟨st, config, d, kind, l₂, l₃, hkey, howner, hst, hconsensus, hpayer, hmarker.symm, hd, hkind, harm,
      .inl ⟨hclosing, hcreate⟩, h⟩
  · rw [if_neg hclosing] at h
    exact ⟨st, config, d, kind, l₂, l₂, hkey, howner, hst, hconsensus, hpayer, hmarker.symm, hd, hkind, harm,
      .inr ⟨hclosing, rfl⟩, h⟩

/-- The kind of account that a call closes. -/
def CloseAccounts.kind (accs : CloseAccounts) (l : Ledger) : Option ClosableKind :=
  if accs.accountToClose.key = accs.epochState.key then some .epochState
  else (l accs.accountToClose.key).data.discriminator.bind ClosableKind.ofDiscriminator

/-- Writing an epoch state moves no lamports. -/
lemma setState_lamports (k key : Pubkey) (st : EpochState) : (setState l key st k).lamports = (l k).lamports := by
  by_cases hk : k = key
  · subst hk; rw [setState, Function.update_self]
  · rw [setState, Function.update_of_ne hk]

/-- The owner stays. -/
lemma setState_owner (k key : Pubkey) (st : EpochState) : (setState l key st k).owner = (l k).owner := by
  by_cases hk : k = key
  · subst hk; rw [setState, Function.update_self]
  · rw [setState, Function.update_of_ne hk]

/-- So does every other account. -/
lemma setState_of_ne {k key : Pubkey} (hk : k ≠ key) (st : EpochState) : setState l key st k = l k :=
  Function.update_of_ne hk ..

/-- What is paid does not depend on the epoch state. -/
lemma gainOf_setState (kind : ClosableKind) (key : Pubkey) (st : EpochState) :
    gainOf rt (setState l key st) accs kind = gainOf rt l accs kind := by
  funext k
  simp only [gainOf, setState_lamports]

/-- What a successful call has done: the epoch state `st` that was passed became `st'`, an account of the program
was emptied, an account of the program that is neither of the two has got what the fee wallet gets, and the program
owns nothing new but the marker. -/
structure Done (rt : Runtime) (l l' : Ledger) (accs : CloseAccounts) (epoch : ℕ) (kind : ClosableKind)
    (st st' : EpochState) : Prop where
  key : accs.epochState.key = rt.pda (.epochState accs.ncn.key epoch)
  owner : (l accs.epochState.key).owner = rt.programId
  data : (l accs.epochState.key).data = .epochState st
  consensus : st.isConsensusReached = true
  chosen : accs.kind l = some kind
  closes : Closes rt l accs epoch st.setIsClosing st' kind
  closed : (l accs.accountToClose.key).owner = rt.programId
  drained : l' accs.accountToClose.key = .empty
  state : accs.accountToClose.key ≠ accs.epochState.key →
    (l' accs.epochState.key).owner = rt.programId ∧ (l' accs.epochState.key).data = .epochState st'
  marker : accs.accountToClose.key = accs.epochState.key →
    (l' (rt.pda (.epochMarker accs.ncn.key epoch))).owner = rt.programId ∧
      (l' (rt.pda (.epochMarker accs.ncn.key epoch))).data = .epochMarker ⟨accs.ncn.key, epoch, rt.slot⟩
  others : ∀ k, (l k).owner = rt.programId → k ≠ accs.epochState.key → k ≠ accs.accountToClose.key →
    l' k = ⟨(l k).lamports + gainOf rt l accs kind k, (l k).owner, (l k).data⟩
  fresh : ∀ k, (l' k).owner = rt.programId → (l k).owner = rt.programId ∨
    accs.accountToClose.key = accs.epochState.key ∧ k = rt.pda (.epochMarker accs.ncn.key epoch)

/-- The checks of an arm read the account to close only, and not at all if it is the epoch state. -/
lemma Closes.of_setState {kind : ClosableKind} {st st' st₀ : EpochState}
    (h : Closes rt (setState l accs.epochState.key st₀) accs epoch st st' kind)
    (hkind : accs.accountToClose.key = accs.epochState.key → kind = .epochState) :
    Closes rt l accs epoch st st' kind := by
  by_cases hclosing : accs.accountToClose.key = accs.epochState.key
  · rw [hkind hclosing] at h ⊢
    exact h
  · cases kind with
    | epochState => exact h
    | _ => simpa only [Closes, setState_of_ne hclosing] using h

/-- A call that succeeds has done this for some kind of account. -/
lemma closeEpochAccount_done (h : (rt.closeEpochAccount accs epoch).run l = .ok u l') :
    ∃ kind st st', Done rt l l' accs epoch kind st st' := by
  obtain ⟨st, config, d, kind, l₂, l₃, hkey, howner, hst, hconsensus, hpayer, hmarker, hd, hkind, harm, hmark,
    hclose⟩ := closeEpochAccount_ok h
  obtain ⟨l₁, st₁, st', hpaid, hst₁, rfl, hcloses⟩ := closeArm_ok ((setState_owner ..).trans hpayer) harm
  have hst₁ : st₁ = st.setIsClosing := by
    rw [setState, Function.update_self] at hst₁
    cases hst₁
    rfl
  subst hst₁
  rw [gainOf_setState] at hpaid
  obtain ⟨hclosed, hdrained, hframe, hpaying⟩ := closeAccount_ok hclose
  have hkind' : accs.kind l = some kind := by
    unfold CloseAccounts.kind
    by_cases hclosing : accs.accountToClose.key = accs.epochState.key
    · rw [if_pos hclosing] at hkind ⊢
      exact hkind
    · rw [if_neg hclosing] at hkind ⊢
      rw [hd]
      exact hkind
  -- until the account is emptied no owner changes but the marker's
  have hown₂ : ∀ k, (setState l₁ accs.epochState.key st' k).owner = (l k).owner := fun k =>
    (setState_owner ..).trans ((hpaid.owner k).trans (setState_owner ..))
  have hsame₃ : ∀ k, (l k).owner ≠ systemProgramId → l₃ k = setState l₁ accs.epochState.key st' k := by
    intro k hk
    rcases hmark with ⟨_, hcreate⟩ | ⟨_, rfl⟩
    · exact (createMarker_ok hcreate).1 k (by rwa [hown₂ k])
    · rfl
  have hprogram : ∀ k, (l k).owner = rt.programId → (l k).owner ≠ systemProgramId := by
    intro k hk
    rw [hk]
    exact rt.programId_ne
  have hne_payer : ∀ k, (l k).owner = rt.programId → k ≠ accs.accountPayer.key := by
    rintro k hk rfl
    exact hprogram _ hk hpayer
  have hstate₃ : l₃ accs.epochState.key = setState l₁ accs.epochState.key st' accs.epochState.key :=
    hsame₃ _ (hprogram _ howner)
  have hclosed_l : (l accs.accountToClose.key).owner = rt.programId := by
    rcases hmark with ⟨hclosing, _⟩ | ⟨_, rfl⟩
    · rw [hclosing]; exact howner
    · rw [← hclosed, hown₂]
  refine ⟨kind, st, st', hkey, howner, hst, hconsensus, hkind', hcloses.of_setState ?_, hclosed_l, hdrained, ?_, ?_,
    ?_, ?_⟩
  · intro hclosing
    rw [if_pos hclosing] at hkind
    exact (Option.some.inj hkind).symm
  · intro hne
    rw [hframe _ (Ne.symm hne) (hne_payer _ howner), hstate₃]
    refine ⟨(hown₂ _).trans howner, ?_⟩
    rw [setState, Function.update_self]
  · intro hclosing
    rcases hmark with ⟨_, hcreate⟩ | ⟨hne, _⟩
    · obtain ⟨_, hmowner, hmdata, _⟩ := createMarker_ok hcreate
      rw [← hmarker]
      have hne : accs.epochMarker.key ≠ accs.accountToClose.key := by
        intro heq
        rw [heq, hclosing, hstate₃, setState, Function.update_self] at hmdata
        cases hmdata
      by_cases hpay : accs.epochMarker.key = accs.accountPayer.key
      · rw [hpay] at hne hmowner hmdata ⊢
        obtain ⟨howner', hdata'⟩ := hpaying hne
        exact ⟨howner'.trans hmowner, hdata'.trans hmdata⟩
      · rw [hframe _ hne hpay]
        exact ⟨hmowner, hmdata⟩
    · exact absurd hclosing hne
  · intro k hk hne hclose'
    have hk₁ : setState l accs.epochState.key st.setIsClosing k = l k := setState_of_ne hne _
    rw [hframe k hclose' (hne_payer k hk), hsame₃ k (hprogram k hk), setState_of_ne hne,
      hpaid.eq (by rw [hk₁]; exact hprogram k hk), hk₁]
  · intro k hk
    have hclose' : k ≠ accs.accountToClose.key := by
      rintro rfl
      rw [hdrained] at hk
      exact rt.programId_ne hk.symm
    have hk₃ : (l₃ k).owner = rt.programId := by
      by_cases hpay : k = accs.accountPayer.key
      · rw [hpay] at hk hclose' ⊢
        rw [← hk, (hpaying hclose').1]
      · rw [← hk, hframe k hclose' hpay]
    rcases hmark with ⟨hclosing, hcreate⟩ | ⟨_, rfl⟩
    · by_cases hkm : k = accs.epochMarker.key
      · exact .inr ⟨hclosing, hkm.trans hmarker⟩
      · exact .inl (by rw [← hown₂ k, ← (createMarker_ok hcreate).2.2.2 k hkm, hk₃])
    · exact .inl (by rw [← hown₂ k, hk₃])

/-! ## The property -/

/-- The data of the program's account at an address, if there is one. -/
def dataAt (rt : Runtime) (l : Ledger) (a : Address) : Option AccountData :=
  if (l (rt.pda a)).owner = rt.programId then some (l (rt.pda a)).data else none

/-- An account of the program that belongs to another NCN or to another epoch. -/
def Foreign (rt : Runtime) (l : Ledger) (ncn : Pubkey) (epoch : ℕ) (k : Pubkey) : Prop :=
  (l k).owner = rt.programId ∧ ∃ a, k = rt.pda a ∧ (a.ncn ≠ ncn ∨ ∃ e, a.epoch = some e ∧ e ≠ epoch)

/-- No account of the epoch is left besides its state. -/
structure AllGone (rt : Runtime) (l : Ledger) (ncn : Pubkey) (epoch : ℕ) : Prop where
  single : ∀ k, rt.dataAt l (.single k ncn epoch) = none
  operatorSnapshot : ∀ operator, rt.dataAt l (.operatorSnapshot operator ncn epoch) = none
  operatorVaultRewardRouter : ∀ operator, rt.dataAt l (.operatorVaultRewardRouter operator ncn epoch) = none

end Runtime

/-- The status field of an epoch state that belongs to an account with the given data. -/
def EpochState.statusOf (st : EpochState) : AccountData → Option AccountStatus
  | .weightTable _ => some st.accountStatus.weightTable
  | .epochSnapshot _ => some st.accountStatus.epochSnapshot
  | .ballotBox _ => some st.accountStatus.ballotBox
  | .ncnRewardRouter _ => some st.accountStatus.ncnRewardRouter
  | .operatorSnapshot t => st.accountStatus.operatorSnapshot.get? t.ncnOperatorIndex
  | .operatorVaultRewardRouter r => st.accountStatus.operatorVaultRewardRouter.get? r.ncnOperatorIndex
  | .epochState _ => some st.accountStatus.epochState
  | _ => none

/-- The data of the account that the epoch has one of. -/
def Lifecycle.singleData (s : Lifecycle) (k : Single) : Option AccountData :=
  match s.single k, k with
  | .absent, _ => none
  | .allocated dataLen, _ => some (.bytes (List.replicate dataLen 0))
  | .initialized, .weightTable => some (.weightTable s.accounts.weightTable)
  | .initialized, .epochSnapshot => some (.epochSnapshot s.accounts.epochSnapshot)
  | .initialized, .ballotBox => some (.ballotBox s.accounts.ballotBox)
  | .initialized, .ncnRewardRouter => some (.ncnRewardRouter s.accounts.ncnRewardRouter)

/-- An account that is not there has none. -/
lemma Lifecycle.singleData_absent {s : Lifecycle} {k : Single} (h : s.single k = .absent) :
    s.singleData k = none := by
  unfold singleData
  rw [h]

/-- Writing how far one account has come leaves the others. -/
lemma Lifecycle.singleData_setSingle_ne {s : Lifecycle} {k k' : Single} (slot : Slot) (h : k' ≠ k) :
    (s.setSingle k slot).singleData k' = s.singleData k' := by
  unfold singleData
  rw [single_setSingle_ne k k' slot s h]
  rfl

namespace Runtime

/-- The ledger's accounts of the epoch are those of the lifecycle. -/
structure Shows (rt : Runtime) (l : Ledger) (ncn : Pubkey) (epoch : ℕ) (s : Lifecycle) : Prop where
  ofNcn : s.accounts.config.ncn = ncn
  ofEpoch : s.epoch = epoch
  epochState : rt.dataAt l (.epochState ncn epoch) =
    if s.epochState then some (.epochState s.accounts.epochState) else none
  single : ∀ k, rt.dataAt l (.single k ncn epoch) = s.singleData k
  operatorSnapshot : ∀ operator, rt.dataAt l (.operatorSnapshot operator ncn epoch) =
    (s.accounts.operatorSnapshot operator).map .operatorSnapshot
  operatorVaultRewardRouter : ∀ operator, rt.dataAt l (.operatorVaultRewardRouter operator ncn epoch) =
    (s.accounts.operatorVaultRewardRouter operator).map .operatorVaultRewardRouter

/-- The program's accounts are where they should be, and those of every epoch were brought about by the program's
instructions, those that name other epochs included. That keys do not collide is needed for the program's accounts
only. -/
structure Reached (rt : Runtime) (l : Ledger) : Prop where
  collisionFree : Set.InjOn rt.pda { a | (l (rt.pda a)).owner = rt.programId }
  placed : ∀ k, (l k).owner = rt.programId → (l k).data.discriminator = some EpochState.discriminator →
    ∃ ncn epoch, k = rt.pda (.epochState ncn epoch)
  epochs : ∀ ncn epoch, ∃ cl s₀ s, s₀.Untouched ∧ Run (Lifecycle.StepOrEmptied cl) s₀ s ∧ Shows rt l ncn epoch s

/-- A call that closes the account stays within the epoch it names. -/
structure StaysWithin (rt : Runtime) (l l' : Ledger) (accs : CloseAccounts) (epoch : ℕ) : Prop where
  belongs : ∃ a, accs.accountToClose.key = rt.pda a ∧ a.ncn = accs.ncn.key ∧ a.epoch = some epoch
  drained : l' accs.accountToClose.key = .empty
  marked : accs.accountToClose.key = accs.epochState.key ∨
    ∃ st', (l' accs.epochState.key).data = .epochState st' ∧
      st'.statusOf (l accs.accountToClose.key).data = some .closed
  others : ∀ k, Foreign rt l accs.ncn.key epoch k → l' k = l k
  ended : ∀ st, (l accs.accountToClose.key).data = .epochState st → AllGone rt l st.ncn st.epoch ∧
    ∃ m, rt.dataAt l' (.epochMarker st.ncn st.epoch) = some (.epochMarker m)

/-- The epoch state has no operator's account of its epoch that is there as never created. -/
structure Knows (rt : Runtime) (l : Ledger) (ncn : Pubkey) (epoch : ℕ) (st : EpochState) : Prop where
  operatorSnapshot : ∀ operator d, rt.dataAt l (.operatorSnapshot operator ncn epoch) = some d →
    st.statusOf d ≠ some .dne
  operatorVaultRewardRouter : ∀ operator d, rt.dataAt l (.operatorVaultRewardRouter operator ncn epoch) = some d →
    st.statusOf d ≠ some .dne

/-- The account to close is the epoch state that was passed or no epoch state, the fee wallet is not paid at a key
where an account of another NCN or another epoch is, and an epoch state that is closed itself knows of the operators'
accounts that are there. -/
structure OwnCall (rt : Runtime) (l : Ledger) (accs : CloseAccounts) (epoch : ℕ) : Prop where
  state : accs.accountToClose.key = accs.epochState.key ∨
    (l accs.accountToClose.key).data.discriminator ≠ some EpochState.discriminator
  wallet : ∀ k kind, Foreign rt l accs.ncn.key epoch k → accs.kind l = some kind → gainOf rt l accs kind k = 0
  known : accs.accountToClose.key = accs.epochState.key → ∀ st, (l accs.epochState.key).data = .epochState st →
    Knows rt l accs.ncn.key epoch st

/-- An epoch has nothing left when its state says so. -/
lemma Shows.allGone {ncn : Pubkey} {s : Lifecycle} (h : Shows rt l ncn epoch s) (hclosed : s.book.AllClosed) :
    AllGone rt l ncn epoch := by
  refine ⟨fun k => ?_, fun p => ?_, fun p => ?_⟩
  · rw [h.single, Lifecycle.singleData_absent (hclosed.single k)]
  · rw [h.operatorSnapshot, Option.map_eq_none_iff]
    exact Option.map_eq_none_iff.1 (hclosed.snapshot p)
  · rw [h.operatorVaultRewardRouter, Option.map_eq_none_iff]
    exact Option.map_eq_none_iff.1 (hclosed.router p)

/-- An epoch of which only the state can be there. -/
lemma AllGone.shows {ncn : Pubkey} {s : Lifecycle} (h : AllGone rt l ncn epoch) (hncn : s.accounts.config.ncn = ncn)
    (hepoch : s.epoch = epoch) (hclosed : s.book.AllClosed)
    (hstate : rt.dataAt l (.epochState ncn epoch) =
      if s.epochState then some (.epochState s.accounts.epochState) else none) : Shows rt l ncn epoch s := by
  refine ⟨hncn, hepoch, hstate, fun k => ?_, fun p => ?_, fun p => ?_⟩
  · rw [h.single k, Lifecycle.singleData_absent (hclosed.single k)]
  · rw [h.operatorSnapshot p, Option.map_eq_none_iff.1 (hclosed.snapshot p)]
    rfl
  · rw [h.operatorVaultRewardRouter p, Option.map_eq_none_iff.1 (hclosed.router p)]
    rfl

/-- Where nothing is left, nothing is unknown. -/
lemma AllGone.knows {ncn : Pubkey} (h : AllGone rt l ncn epoch) (st : EpochState) : Knows rt l ncn epoch st := by
  constructor
  · intro operator d hd
    cases (h.operatorSnapshot operator).symm.trans hd
  · intro operator d hd
    cases (h.operatorVaultRewardRouter operator).symm.trans hd

/-- The epoch state that the ledger has is the one that is shown. -/
lemma Shows.state {ncn : Pubkey} {s : Lifecycle} {st : EpochState} (h : Shows rt l ncn epoch s)
    (hst : rt.dataAt l (.epochState ncn epoch) = some (.epochState st)) :
    s.epochState = true ∧ s.accounts.epochState = st := by
  have hepoch := h.epochState
  rw [hst] at hepoch
  cases hlive : s.epochState with
  | false => rw [hlive] at hepoch; cases hepoch
  | true => rw [hlive, if_pos rfl] at hepoch; cases hepoch; exact ⟨rfl, rfl⟩

/-- In an epoch that was brought about by the program's instructions nothing is left when its state, which knows of
the operators' accounts, says so. -/
lemma Reached.allGone (hl : Reached rt l) {ncn : Pubkey} {st : EpochState}
    (hst : rt.dataAt l (.epochState ncn epoch) = some (.epochState st)) (hknows : Knows rt l ncn epoch st)
    (hall : st.accountStatus.areAllClosed = true) : AllGone rt l ncn epoch := by
  obtain ⟨cl, s₀, s, h₀, hrun, hs⟩ := hl.epochs ncn epoch
  obtain ⟨hlive, rfl⟩ := hs.state hst
  refine hs.allGone ((Lifecycle.steady h₀ hrun).allClosed hlive (Lifecycle.areAllClosed_iff.1 hall)
    (fun p i hp => ?_) fun p i hp => ?_)
  · obtain ⟨t, ht, rfl⟩ := Option.map_eq_some_iff.1 hp
    exact hknows.operatorSnapshot p (.operatorSnapshot t) (by rw [hs.operatorSnapshot, ht, Option.map_some])
  · obtain ⟨r, hr, rfl⟩ := Option.map_eq_some_iff.1 hp
    exact hknows.operatorVaultRewardRouter p (.operatorVaultRewardRouter r)
      (by rw [hs.operatorVaultRewardRouter, hr, Option.map_some])

end Runtime

/-- An account with its own discriminator has got its data. -/
lemma Lifecycle.initialized_of_singleData {s : Lifecycle} {k : Single} {d : AccountData}
    (h : s.singleData k = some d) (hd : d.discriminator = some k.discriminator) : s.single k = .initialized := by
  unfold singleData at h
  cases hslot : s.single k with
  | absent => rw [hslot] at h; cases h
  | allocated dataLen =>
    rw [hslot] at h
    cases h
    -- its first byte is zero
    cases dataLen with
    | zero => cases hd
    | succ n =>
      have hzero : (0 : UInt8) = k.discriminator := Option.some.inj hd
      cases k <;> exact absurd hzero (by decide)
  | initialized => rfl

/-- The field of such an account. -/
lemma Lifecycle.statusOf_singleData {s : Lifecycle} {k : Single} {d : AccountData}
    (h : s.singleData k = some d) (hd : d.discriminator = some k.discriminator) (st : EpochState) :
    st.statusOf d = some (st.accountStatus.single k) := by
  have hslot := initialized_of_singleData h hd
  unfold singleData at h
  rw [hslot] at h
  cases k <;> cases h <;> rfl

namespace Runtime

/-- After an arm other than the epoch state's, the account belongs to the epoch and is marked as closed. -/
lemma Closes.belongs {kind : ClosableKind} {st st' : EpochState} (hl : Reached rt l)
    (howner : (l accs.accountToClose.key).owner = rt.programId) (h : Closes rt l accs epoch st st' kind)
    (hkind : kind ≠ .epochState) :
    (∃ a, accs.accountToClose.key = rt.pda a ∧ a.ncn = accs.ncn.key ∧ a.epoch = some epoch) ∧
      st'.statusOf (l accs.accountToClose.key).data = some .closed := by
  cases kind with
  | epochState => exact absurd rfl hkind
  | single k =>
    obtain ⟨hkey, hd, rfl⟩ := h
    refine ⟨⟨_, hkey, rfl, rfl⟩, ?_⟩
    obtain ⟨_, _, s, _, _, hs⟩ := hl.epochs accs.ncn.key epoch
    have hdata := hs.single k
    rw [dataAt, ← hkey, if_pos howner] at hdata
    rw [Lifecycle.statusOf_singleData hdata.symm hd]
    cases k <;> rfl
  | operatorSnapshot =>
    obtain ⟨t, hdata, hkey, hrun⟩ := h
    refine ⟨⟨_, hkey, rfl, rfl⟩, ?_⟩
    obtain ⟨_, _, hg, hrun⟩ := run_bind_ok.1 hrun
    obtain ⟨hlt, rfl⟩ := run_ensure_ok.1 hg
    cases hrun
    rw [hdata]
    exact Table.get?_set_self hlt
  | operatorVaultRewardRouter =>
    obtain ⟨r, hdata, hkey, hrun⟩ := h
    refine ⟨⟨_, hkey, rfl, rfl⟩, ?_⟩
    obtain ⟨_, _, hg, hrun⟩ := run_bind_ok.1 hrun
    obtain ⟨hlt, rfl⟩ := run_ensure_ok.1 hg
    cases hrun
    rw [hdata]
    exact Table.get?_set_self hlt

/-- Keys of accounts of the program come from one address only. -/
lemma Reached.not_foreign (hl : Reached rt l) {ncn k : Pubkey} {a : Address} (hk : k = rt.pda a)
    (hncn : a.ncn = ncn) (hepoch : a.epoch = some epoch) (h : Foreign rt l ncn epoch k) : False := by
  obtain ⟨howner, a', ha', hother⟩ := h
  have : a' = a := hl.collisionFree (by rwa [Set.mem_ofPred_eq, ← ha']) (by rwa [Set.mem_ofPred_eq, ← hk])
    (ha'.symm.trans hk)
  subst this
  rcases hother with hne | ⟨e, he, hne⟩
  · exact hne hncn
  · exact hne (Option.some.inj (he.symm.trans hepoch))

/-- The epoch state that was passed is not an account of another epoch. -/
lemma Done.ne_state {kind : ClosableKind} {st st' : EpochState} (h : Done rt l l' accs epoch kind st st')
    (hl : Reached rt l) {k : Pubkey} (hk : Foreign rt l accs.ncn.key epoch k) : k ≠ accs.epochState.key := by
  rintro rfl
  exact hl.not_foreign h.key rfl rfl hk

/-- The epoch state that was passed is the one of the epoch. -/
lemma Done.stateAt {kind : ClosableKind} {st st' : EpochState} (h : Done rt l l' accs epoch kind st st') :
    rt.dataAt l (.epochState accs.ncn.key epoch) = some (.epochState st) := by
  rw [dataAt, ← h.key, if_pos h.owner, h.data]

/-- The arm that was taken for an epoch state is its own. -/
lemma Done.kind_eq {kind : ClosableKind} {st st' : EpochState} (h : Done rt l l' accs epoch kind st st')
    (hclosing : accs.accountToClose.key = accs.epochState.key) : kind = .epochState := by
  have hchosen := h.chosen
  rw [CloseAccounts.kind, if_pos hclosing] at hchosen
  exact (Option.some.inj hchosen).symm

/-- It has checked the state that was passed. -/
lemma Done.loaded {kind : ClosableKind} {st st' : EpochState} (h : Done rt l l' accs epoch kind st st')
    (hclosing : accs.accountToClose.key = accs.epochState.key) :
    st.ncn = accs.ncn.key ∧ st.epoch = epoch ∧ st.accountStatus.areAllClosed = true := by
  obtain rfl := h.kind_eq hclosing
  exact Lifecycle.loadToClose_ok.1 h.closes.1

/-- A call that stays within its epoch was asked to. -/
lemma Done.ownCall {kind : ClosableKind} {st st' : EpochState} (h : Done rt l l' accs epoch kind st st')
    (hl : Reached rt l) (hin : StaysWithin rt l l' accs epoch) : OwnCall rt l accs epoch := by
  obtain ⟨a, ha, hncn, hepoch⟩ := hin.belongs
  refine ⟨?_, fun k kind' hk hkind' => ?_, fun hclosing st₀ hst₀ => ?_⟩
  · by_contra hnot
    obtain ⟨hne, hd⟩ := not_or.1 hnot
    obtain ⟨n, e, hkey⟩ := hl.placed _ h.closed (not_not.1 hd)
    have : a = .epochState n e := by
      refine hl.collisionFree ?_ ?_ (ha.symm.trans hkey)
      · rw [Set.mem_ofPred_eq, ← ha]; exact h.closed
      · rw [Set.mem_ofPred_eq, ← hkey]; exact h.closed
    subst this
    obtain rfl : e = epoch := Option.some.inj hepoch
    obtain rfl : n = accs.ncn.key := hncn
    exact hne (hkey.trans h.key.symm)
  · obtain rfl : kind = kind' := Option.some.inj (h.chosen.symm.trans hkind')
    have hclose : k ≠ accs.accountToClose.key := by
      rintro rfl
      exact hl.not_foreign ha hncn hepoch hk
    have heq := (h.others k hk.1 (h.ne_state hl hk) hclose).symm.trans (hin.others k hk)
    have hlamports : (l k).lamports + gainOf rt l accs kind k = (l k).lamports := congrArg Account.lamports heq
    omega
  · obtain rfl : st = st₀ := AccountData.epochState.inj (h.data.symm.trans hst₀)
    obtain ⟨hncn', hepoch', _⟩ := h.loaded hclosing
    have hgone := (hin.ended st (hclosing ▸ h.data)).1
    rw [hncn', hepoch'] at hgone
    exact hgone.knows st

/-- The arm of an epoch state is taken for its discriminator only. -/
lemma ofDiscriminator_ne {d : UInt8} (h : d ≠ EpochState.discriminator) :
    ClosableKind.ofDiscriminator d ≠ some .epochState := by
  unfold ClosableKind.ofDiscriminator
  rw [if_neg h]
  repeat' split
  all_goals exact fun hof => by cases hof

/-- Every call but one for another epoch's state closes an account of its epoch and marks it. -/
lemma Done.belongs {kind : ClosableKind} {st st' : EpochState} (h : Done rt l l' accs epoch kind st st')
    (hl : Reached rt l) (hcall : OwnCall rt l accs epoch) :
    (∃ a, accs.accountToClose.key = rt.pda a ∧ a.ncn = accs.ncn.key ∧ a.epoch = some epoch) ∧
      (accs.accountToClose.key = accs.epochState.key ∨
        ∃ st', (l' accs.epochState.key).data = .epochState st' ∧
          st'.statusOf (l accs.accountToClose.key).data = some .closed) := by
  by_cases hclosing : accs.accountToClose.key = accs.epochState.key
  · exact ⟨⟨_, hclosing.trans h.key, rfl, rfl⟩, .inl hclosing⟩
  · have hkind : kind ≠ .epochState := by
      rintro rfl
      have hchosen := h.chosen
      rw [CloseAccounts.kind, if_neg hclosing] at hchosen
      obtain ⟨d, hd, hof⟩ := Option.bind_eq_some_iff.1 hchosen
      refine ofDiscriminator_ne ?_ hof
      rintro rfl
      exact (hcall.state.resolve_left hclosing) hd
    obtain ⟨hbelongs, hmarked⟩ := h.closes.belongs hl h.closed hkind
    exact ⟨hbelongs, .inr ⟨st', (h.state hclosing).2, hmarked⟩⟩

/-- An epoch whose state was closed had nothing left that the state knows of, and is marked. -/
lemma Done.ended {kind : ClosableKind} {st st' : EpochState} (h : Done rt l l' accs epoch kind st st')
    (hl : Reached rt l) (hclosing : accs.accountToClose.key = accs.epochState.key)
    (hknows : Knows rt l accs.ncn.key epoch st) :
    AllGone rt l st.ncn st.epoch ∧ ∃ m, rt.dataAt l' (.epochMarker st.ncn st.epoch) = some (.epochMarker m) := by
  obtain ⟨hncn, hepoch, hall⟩ := h.loaded hclosing
  rw [hncn, hepoch]
  obtain ⟨hmowner, hmdata⟩ := h.marker hclosing
  exact ⟨hl.allGone h.stateAt hknows hall, ⟨accs.ncn.key, epoch, rt.slot⟩, by rw [dataAt, if_pos hmowner, hmdata]⟩

/-- On a ledger that the program's instructions brought about, a call that closes an account stays within the
epoch it names exactly when it is not asked to close the state of another epoch, does not pay into an account of
another one, and, closing the state of its own, finds none of the epoch's operators' accounts that the state has as
never created, as one has that was emptied by an earlier call for another epoch and created again. -/
theorem closing_stays_within (hl : Reached rt l)
    (h : (rt.processCloseEpochAccount accs.toList epoch).run l = .ok () l') :
    StaysWithin rt l l' accs epoch ↔ OwnCall rt l accs epoch := by
  have h : (rt.closeEpochAccount accs epoch).run l = .ok () l' := h
  obtain ⟨kind, st, st', hdone⟩ := closeEpochAccount_done h
  refine ⟨hdone.ownCall hl, fun hcall => ?_⟩
  obtain ⟨⟨a, ha, hncn, hepoch⟩, hmarked⟩ := hdone.belongs hl hcall
  refine ⟨⟨a, ha, hncn, hepoch⟩, hdone.drained, hmarked, fun k hk => ?_, fun st₀ hst₀ => ?_⟩
  · have hclose : k ≠ accs.accountToClose.key := by
      rintro rfl
      exact hl.not_foreign ha hncn hepoch hk
    rw [hdone.others k hk.1 (hdone.ne_state hl hk) hclose, hcall.wallet k kind hk hdone.chosen, Nat.add_zero]
  · have hclosing : accs.accountToClose.key = accs.epochState.key :=
      hcall.state.resolve_right fun hne => hne (by rw [hst₀]; rfl)
    rw [hclosing, hdone.data] at hst₀
    cases hst₀
    exact hdone.ended hl hclosing (hcall.known hclosing st hdone.data)

end Runtime

/-! ## A small ledger -/

/-- The second epoch of the small NCN, which has just begun. -/
@[irreducible] def Lifecycle.smallNext : Lifecycle :=
  commit (exec smallCluster (.initializeEpochState ⟨defaultSlotsPerEpoch, 1⟩ 0)) { small with epoch := 1 }

namespace Runtime
open Lifecycle

/-- The keys of the small ledger: `104` is a key where there is nothing. -/
def smallPda : Address → Pubkey
  | .epochState ncn epoch => if ncn = 1 ∧ epoch = 0 then 100 else if ncn = 1 ∧ epoch = 1 then 101 else 104
  | .config ncn => if ncn = 1 then 102 else 104
  | .accountPayer ncn => if ncn = 1 then 103 else 104
  | .epochMarker ncn epoch => if ncn = 1 ∧ epoch = 0 then 105 else 104
  | _ => 104

/-- A runtime to compute with, ten epochs after the vote in the first epoch. -/
def smallRuntime : Runtime where
  programId := 99
  pda := smallPda
  minimumBalance _ := 5
  getEpoch slot := slot / defaultSlotsPerEpoch
  slot := 10 * defaultSlotsPerEpoch
  loadNcn _ _ := return ()
  programId_ne := by decide

/-- One NCN with two epochs: in the first everything is closed but its state, and the second has just begun. -/
def smallLedger : Ledger := fun k =>
  if k = 100 then ⟨5, 99, .epochState (smallEnd true).accounts.epochState⟩
  else if k = 101 then ⟨5, 99, .epochState smallNext.accounts.epochState⟩
  else if k = 102 then ⟨5, 99, .config (Epoch.small 1).config⟩
  else if k = 103 then ⟨1000, systemProgramId, .bytes []⟩
  else .empty

/-- A call that names the first epoch. -/
def smallAccounts (accountToClose : Pubkey) : CloseAccounts :=
  ⟨⟨105, true⟩, ⟨100, true⟩, ⟨102, false⟩, ⟨1, false⟩, ⟨accountToClose, true⟩, ⟨103, true⟩, ⟨0, false⟩, []⟩

/-- The program owns three accounts. -/
lemma small_owned {k : Pubkey} (h : (smallLedger k).owner = 99) : k = 100 ∨ k = 101 ∨ k = 102 := by
  unfold smallLedger at h
  split at h
  · exact .inl ‹_›
  split at h
  · exact .inr (.inl ‹_›)
  split at h
  · exact .inr (.inr ‹_›)
  split at h <;> exact absurd h (by decide)

/-- Only three addresses have their keys. -/
lemma smallPda_eq {a : Address} (hne : smallPda a = 100 ∨ smallPda a = 101 ∨ smallPda a = 102) :
    a = .epochState 1 0 ∨ a = .epochState 1 1 ∨ a = .config 1 := by
  cases a with
  | epochState ncn epoch =>
    simp only [smallPda] at hne
    split at hne
    · rename_i hk; obtain ⟨rfl, rfl⟩ := hk; exact .inl rfl
    · split at hne
      · rename_i hk; obtain ⟨rfl, rfl⟩ := hk; exact .inr (.inl rfl)
      · exact absurd hne (by decide)
  | config ncn =>
    simp only [smallPda] at hne
    split at hne
    · rename_i hk; subst hk; exact .inr (.inr rfl)
    · exact absurd hne (by decide)
  | accountPayer ncn => simp only [smallPda] at hne; split at hne <;> exact absurd hne (by decide)
  | epochMarker ncn epoch => simp only [smallPda] at hne; split at hne <;> exact absurd hne (by decide)
  | _ => simp only [smallPda] at hne; exact absurd hne (by decide)

/-- So what the program owns is at one of these. -/
lemma smallPda_owned {a : Address} (h : (smallLedger (smallPda a)).owner = 99) :
    a = .epochState 1 0 ∨ a = .epochState 1 1 ∨ a = .config 1 := smallPda_eq (small_owned h)

/-- Nothing is at the addresses of the small ledger but the two states. -/
lemma small_dataAt {a : Address} (h₀ : a ≠ .epochState 1 0) (h₁ : a ≠ .epochState 1 1) (h₂ : a ≠ .config 1) :
    smallRuntime.dataAt smallLedger a = none := by
  refine if_neg fun h => ?_
  rcases smallPda_owned h with ha | ha | ha
  · exact h₀ ha
  · exact h₁ ha
  · exact h₂ ha

/-- No epoch has more than its state. -/
lemma small_allGone (ncn : Pubkey) (epoch : ℕ) : AllGone smallRuntime smallLedger ncn epoch :=
  ⟨fun _ => small_dataAt (by simp) (by simp) (by simp), fun _ => small_dataAt (by simp) (by simp) (by simp),
    fun _ => small_dataAt (by simp) (by simp) (by simp)⟩

/-- An epoch that has not begun has nothing open. -/
lemma untouched_allClosed {s : Lifecycle} (h : s.Untouched) : s.book.AllClosed :=
  ⟨h.single, fun p => congrArg (Option.map _) (h.operatorSnapshot p),
    fun p => congrArg (Option.map _) (h.operatorVaultRewardRouter p)⟩

/-- The program's instructions brought the ledger about. -/
lemma small_reached : Reached smallRuntime smallLedger := by
  refine ⟨?_, ?_, ?_⟩
  · intro a ha b hb hab
    rcases smallPda_owned ha with rfl | rfl | rfl <;> rcases smallPda_owned hb with rfl | rfl | rfl <;>
      first | rfl | exact absurd hab (by decide)
  · intro k hk hd
    rcases small_owned hk with rfl | rfl | rfl
    · exact ⟨1, 0, rfl⟩
    · exact ⟨1, 1, rfl⟩
    · exact absurd hd (by decide)
  · intro ncn epoch
    by_cases hzero : ncn = 1 ∧ epoch = 0
    · obtain ⟨rfl, rfl⟩ := hzero
      refine ⟨smallCluster, small, smallEnd true, small_untouched, (small_run true).mono fun _ _ => .inl,
        (small_allGone _ _).shows (by decide +kernel) (by decide +kernel) smallEnd_closed.1 ?_⟩
      rw [show (smallEnd true).epochState = true by decide +kernel]
      rfl
    by_cases hone : ncn = 1 ∧ epoch = 1
    · obtain ⟨rfl, rfl⟩ := hone
      have hstep : Step smallCluster { small with epoch := 1 } smallNext := by
        refine ⟨.initializeEpochState ⟨defaultSlotsPerEpoch, 1⟩ 0, ?_⟩
        unfold smallNext
        exact Succeeds.run_eq (by decide +kernel)
      have huntouched : Untouched { small with epoch := 1 } := { small_untouched with }
      have hsame : smallNext.single = small.single ∧
          smallNext.accounts.operatorSnapshot = small.accounts.operatorSnapshot ∧
          smallNext.accounts.operatorVaultRewardRouter = small.accounts.operatorVaultRewardRouter := by
        unfold smallNext
        exact ⟨rfl, rfl, rfl⟩
      refine ⟨smallCluster, _, smallNext, huntouched, .single (.inl hstep),
        (small_allGone _ _).shows (by decide +kernel) (by decide +kernel) ?_ ?_⟩
      · refine ⟨fun k => ?_, fun p => ?_, fun p => ?_⟩
        · exact congrFun hsame.1 k
        · exact congrArg (Option.map _) (congrFun hsame.2.1 p)
        · exact congrArg (Option.map _) (congrFun hsame.2.2 p)
      · rw [show smallNext.epochState = true by decide +kernel]
        rfl
    · let s : Lifecycle := { small with
        epoch := epoch
        accounts := { small.accounts with config := { small.accounts.config with ncn := ncn } } }
      have hs : s.Untouched := { small_untouched with }
      refine ⟨smallCluster, s, s, hs, .refl, (small_allGone _ _).shows rfl rfl (untouched_allClosed hs) ?_⟩
      rw [small_dataAt (by simpa using fun h => not_and.1 hzero h) (by simpa using fun h => not_and.1 hone h)
        (by simp)]
      rfl

/-- Closing the state of the small NCN's first epoch leaves the second alone, and its marker is there. -/
theorem closing_stays_within_first_epoch :
    ∃ l', (smallRuntime.processCloseEpochAccount (smallAccounts 100).toList 0).run smallLedger = .ok () l' ∧
      StaysWithin smallRuntime smallLedger l' (smallAccounts 100) 0 := by
  have hrun : (smallRuntime.processCloseEpochAccount (smallAccounts 100).toList 0).run smallLedger =
      .ok () (commit (smallRuntime.processCloseEpochAccount (smallAccounts 100).toList 0) smallLedger) :=
    Succeeds.run_eq (by decide +kernel)
  refine ⟨_, hrun, (closing_stays_within small_reached hrun).2 ⟨.inl rfl, fun k kind _ _ => rfl, fun _ st _ =>
    (small_allGone _ _).knows st⟩⟩

/-- The same call drains the state of the second epoch, which has just begun and has no marker afterwards. -/
theorem closing_drains_another_epoch :
    Reached smallRuntime smallLedger ∧
      ∃ l', (smallRuntime.processCloseEpochAccount (smallAccounts 101).toList 0).run smallLedger = .ok () l' ∧
        ¬StaysWithin smallRuntime smallLedger l' (smallAccounts 101) 0 ∧
        smallRuntime.pda (.epochState 1 1) = 101 ∧ l' 101 = .empty ∧
        smallRuntime.dataAt l' (.epochMarker 1 1) = none := by
  have hrun : (smallRuntime.processCloseEpochAccount (smallAccounts 101).toList 0).run smallLedger =
      .ok () (commit (smallRuntime.processCloseEpochAccount (smallAccounts 101).toList 0) smallLedger) :=
    Succeeds.run_eq (by decide +kernel)
  obtain ⟨_, _, _, hdone⟩ := closeEpochAccount_done hrun
  refine ⟨small_reached, _, hrun, ?_, rfl, hdone.drained, ?_⟩
  · intro hin
    obtain ⟨a, ha, _, hepoch⟩ := hin.belongs
    have howner : (smallLedger (smallPda a)).owner = 99 := by rw [show smallPda a = 101 from ha.symm]; rfl
    rcases smallPda_owned howner with rfl | rfl | rfl
    · exact absurd ha (by decide)
    · exact absurd hepoch (by decide)
    · exact absurd ha (by decide)
  · exact if_neg (by decide +kernel)

end Runtime
end NcnProgram
