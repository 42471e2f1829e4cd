import NcnProgram.Closing.OwnEpoch
import Mathlib.Algebra.BigOperators.Group.Finset.Piecewise

/-!
# Closing conserves lamports

`process_close_epoch_account` moves lamports four times: all but the rent of a receiver to the fee wallet, its rent to
the account payer, the rent of the marker from the payer, and what is left in the account to the payer. The caller
chooses the accounts, and may pass one of them twice. Still nothing is lost and nothing made: the payer is never the
account that is closed, and every other move takes from one key what it gives to another, which may be the same.
-/

namespace NcnProgram
open Lib NCNProgramError

namespace Ledger
variable {K : Finset Pubkey} {l l' : Ledger} {key : Pubkey} {a : Account}

/-- The lamports at some keys. -/
def total (K : Finset Pubkey) (l : Ledger) : ℕ := K.sum fun k => (l k).lamports

/-- The lamports at some keys, and the accounts at the other keys. -/
def balance (K : Finset Pubkey) (l : Ledger) : ℕ × ({k // k ∉ K} → Account) := (total K l, fun k => l k)

/-- The balance is the total at the keys, and what is elsewhere. -/
lemma balance_eq_iff : balance K l' = balance K l ↔ total K l' = total K l ∧ ∀ k, k ∉ K → l' k = l k := by
  rw [balance, balance, Prod.mk.injEq]
  refine and_congr_right fun _ => ⟨fun h k hk => congrFun h ⟨k, hk⟩, fun h => ?_⟩
  funext ⟨k, hk⟩
  exact h k hk

/-- Writing an account of them. -/
lemma total_update (hkey : key ∈ K) :
    total K (Function.update l key a) + (l key).lamports = total K l + a.lamports := by
  have hcomp : (fun k => (Function.update l key a k).lamports) =
      Function.update (fun k => (l k).lamports) key a.lamports := by
    funext k
    exact Function.apply_update (fun _ x => x.lamports) l key a k
  rw [total, hcomp, Finset.sum_update_of_mem hkey, total, ← Finset.add_sum_erase K _ hkey,
    Finset.sdiff_singleton_eq_erase]
  omega

/-- The others stay as they are. -/
lemma update_outside (hkey : key ∈ K) {k : Pubkey} (hk : k ∉ K) : Function.update l key a k = l k :=
  Function.update_of_ne (by rintro rfl; exact hk hkey) _ _

/-- The account keeps its lamports. -/
lemma balance_update (hkey : key ∈ K) (h : a.lamports = (l key).lamports) :
    balance K (Function.update l key a) = balance K l := by
  refine balance_eq_iff.2 ⟨?_, fun k hk => update_outside hkey hk⟩
  have := total_update hkey (l := l) (a := a)
  omega

/-- One account gets what another, or the same, gives. -/
lemma balance_update_update {dest : Pubkey} {b : Account} (hkey : key ∈ K) (hdest : dest ∈ K)
    (h : a.lamports + b.lamports = (l key).lamports + (Function.update l key a dest).lamports) :
    balance K (Function.update (Function.update l key a) dest b) = balance K l := by
  refine balance_eq_iff.2 ⟨?_, fun k hk => (update_outside hdest hk).trans (update_outside hkey hk)⟩
  have h₁ := total_update hkey (l := l) (a := a)
  have h₂ := total_update hdest (l := Function.update l key a) (a := b)
  omega

end Ledger

namespace Runtime
open Ledger (balance balance_update balance_update_update)
variable {rt : Runtime} {K : Finset Pubkey} {l l' : Ledger} {u : Unit}

/-- A transfer takes from one account what it gives to another, or to the same. -/
lemma leaves_systemTransfer {source dest : Pubkey} (hsource : source ∈ K) (hdest : dest ∈ K) (lamports : ℕ) :
    Leaves (balance K) (systemTransfer source dest lamports) := by
  intro l u l' h
  obtain ⟨_, _, hg, h⟩ := run_bind_ok.1 h
  cases hg
  obtain ⟨_, _, hg, h⟩ := run_bind_ok.1 h
  obtain ⟨_, rfl⟩ := run_ensure_ok.1 hg
  obtain ⟨left, _, hg, h⟩ := run_bind_ok.1 h
  obtain ⟨hleft, rfl⟩ := run_okOr_ok.1 hg
  obtain ⟨_, _, hg, h⟩ := run_bind_ok.1 h
  obtain ⟨_, rfl⟩ := run_ensure_ok.1 hg
  obtain ⟨_, l₁, hg, h⟩ := run_bind_ok.1 h
  have hdebit := write_ok hg
  obtain ⟨_, _, hg, h⟩ := run_bind_ok.1 h
  cases hg
  obtain ⟨sum, _, hg, h⟩ := run_bind_ok.1 h
  obtain ⟨hsum, rfl⟩ := run_okOr_ok.1 hg
  rw [write_ok h]
  subst hdebit
  refine balance_update_update hsource hdest ?_
  obtain ⟨hle, hleft⟩ := checkedSub_eq_some.1 hleft
  have hsum := (checkedAdd_eq_some.1 hsum).2
  simp only
  omega

/-- A transfer between the keys leaves it. -/
lemma leaves_transfer {source dest : AccountInfo} (hsource : source.key ∈ K) (hdest : dest.key ∈ K)
    (address : Address) (lamports : ℕ) (borrowed : List Pubkey) :
    Leaves (balance K) (rt.transfer address source dest lamports borrowed) :=
  .bind (.ensure _ _) fun _ => .bind (.ensure _ _) fun _ => .bind (.ensure _ _) fun _ =>
    leaves_systemTransfer hsource hdest lamports

/-- Checks leave it. -/
lemma leaves_checkLoad (owner : Pubkey) (account : AccountInfo) (expectedPda : Pubkey) (d : Option UInt8)
    (writable : Bool) : Leaves (balance K) (checkLoad owner account expectedPda d writable) :=
  .bind .get fun _ => .bind (.ensure _ _) fun _ => .bind (.ensure _ _) fun _ => .bind (.ensure _ _) fun _ =>
    .ensure _ _

/-- A receiver is emptied into two accounts. -/
lemma leaves_closeReceiver {receiver feeWallet accountPayer : AccountInfo} (hreceiver : receiver.key ∈ K)
    (hwallet : feeWallet.key ∈ K) (hpayer : accountPayer.key ∈ K) (address : Address) (borrowed : List Pubkey) :
    Leaves (balance K) (rt.closeReceiver address receiver feeWallet accountPayer borrowed) := by
  refine .bind (leaves_checkLoad ..) fun _ => .bind .get fun self => ?_
  dsimp only
  split
  · exact .bind (leaves_transfer hreceiver hwallet ..) fun _ => leaves_transfer hreceiver hpayer ..
  · exact leaves_transfer hreceiver hpayer ..

/-- Writing an epoch state moves nothing. -/
lemma leaves_onEpochState {α : Type} {key : Pubkey} (hkey : key ∈ K) (x : Mut EpochState α) :
    Leaves (balance K) (onEpochState key x) := by
  intro l a l' h
  obtain ⟨_, st, _, _, rfl⟩ := onEpochState_ok h
  exact balance_update hkey rfl

/-- The accounts that are passed. -/
def Within (K : Finset Pubkey) (accs : CloseAccounts) : Prop := ∀ a ∈ accs.toList, a.key ∈ K

variable {accs : CloseAccounts} {config : Config} {epoch : ℕ}

/-- Sweeping a receiver leaves it. -/
lemma leaves_closeReceiverOf (hK : Within K accs) (address : Address) (borrowed : List Pubkey) :
    Leaves (balance K) (rt.closeReceiverOf accs config address borrowed) := by
  unfold closeReceiverOf
  split
  · rename_i wallet receiver hopt
    have hin : ∀ a, a = wallet ∨ a = receiver ∨ a = accs.accountPayer → a.key ∈ K := by
      rintro a (rfl | rfl | rfl) <;> exact hK _ (by simp [CloseAccounts.toList, hopt])
    exact .bind (.ensure _ _) fun _ => leaves_closeReceiver (hin _ (.inr (.inl rfl))) (hin _ (.inl rfl))
      (hin _ (.inr (.inr rfl))) ..
  · intro l u l' h
    cases h

/-- So does every arm. -/
lemma leaves_closeArm (hK : Within K accs) (kind : ClosableKind) :
    Leaves (balance K) (rt.closeArm accs config epoch kind) := by
  have hstate : accs.epochState.key ∈ K := hK _ (by simp [CloseAccounts.toList])
  cases kind with
  | epochState => exact leaves_onEpochState hstate _
  | single k =>
    refine .bind (leaves_checkLoad ..) fun _ => ?_
    split
    · exact .bind (leaves_closeReceiverOf hK ..) fun _ => leaves_onEpochState hstate _
    · exact leaves_onEpochState hstate _
  | operatorSnapshot =>
    exact .bind .get fun _ => .bind (.ofExcept _) fun _ => .bind (leaves_checkLoad ..) fun _ =>
      leaves_onEpochState hstate _
  | operatorVaultRewardRouter =>
    exact .bind .get fun _ => .bind (.ofExcept _) fun _ => .bind (leaves_checkLoad ..) fun _ =>
      .bind (leaves_closeReceiverOf hK ..) fun _ => leaves_onEpochState hstate _

/-- Space and an owner are no lamports. -/
lemma leaves_allocateAndAssign {newAccount : AccountInfo} (hnew : newAccount.key ∈ K) (space : ℕ) :
    Leaves (balance K) (rt.allocateAndAssign newAccount space) := by
  intro l u l' h
  obtain ⟨_, _, hg, h⟩ := run_bind_ok.1 h
  obtain ⟨_, rfl⟩ := run_ensure_ok.1 hg
  obtain ⟨_, _, hg, h⟩ := run_bind_ok.1 h
  cases hg
  obtain ⟨_, _, hg, h⟩ := run_bind_ok.1 h
  obtain ⟨_, rfl⟩ := run_ensure_ok.1 hg
  rw [write_ok h]
  exact balance_update hnew rfl

/-- The marker is paid for by the payer. -/
lemma leaves_createMarker (hK : Within K accs) : Leaves (balance K) (rt.createMarker accs epoch) := by
  have hpayer : accs.accountPayer.key ∈ K := hK _ (by simp [CloseAccounts.toList])
  have hmarker : accs.epochMarker.key ∈ K := hK _ (by simp [CloseAccounts.toList])
  refine .bind (.bind .get fun self => ?_) fun _ l u l' h => ?_
  · dsimp only
    split
    · exact .bind (leaves_transfer hpayer hmarker ..) fun _ => leaves_allocateAndAssign hmarker _
    · exact leaves_allocateAndAssign hmarker _
  · obtain ⟨_, _, hg, h⟩ := run_bind_ok.1 h
    cases hg
    rw [write_ok h]
    exact balance_update hmarker rfl

/-- The payer gets what was in the account that is emptied. -/
lemma balance_closeAccount {payer key : Pubkey} (hpayer : payer ∈ K) (hkey : key ∈ K) (hne : payer ≠ key)
    (h : (rt.closeAccount payer key).run l = .ok u l') : balance K l' = balance K l := by
  obtain ⟨_, _, hg, h⟩ := run_bind_ok.1 h
  cases hg
  obtain ⟨_, _, hg, h⟩ := run_bind_ok.1 h
  obtain ⟨_, rfl⟩ := run_ensure_ok.1 hg
  obtain ⟨_, _, hg, h⟩ := run_bind_ok.1 h
  cases hg
  obtain ⟨sum, _, hg, h⟩ := run_bind_ok.1 h
  obtain ⟨hsum, rfl⟩ := run_okOr_ok.1 hg
  obtain ⟨_, l₁, hg, h⟩ := run_bind_ok.1 h
  have hcredit := write_ok hg
  rw [write_ok h]
  subst hcredit
  refine balance_update_update hpayer hkey ?_
  rw [Function.update_of_ne (Ne.symm hne)]
  have hsum := (checkedAdd_eq_some.1 hsum).2
  simp only [Account.empty]
  omega

/-- Whatever accounts are passed, in whatever roles and however often, a successful call leaves as many lamports at
their keys as there were, and the accounts at all other keys as they were. -/
theorem closing_conserves_lamports {accounts : List AccountInfo}
    (h : (rt.processCloseEpochAccount accounts epoch).run l = .ok () l') (hK : ∀ a ∈ accounts, a.key ∈ K) :
    Ledger.total K l' = Ledger.total K l ∧ ∀ k, k ∉ K → l' k = l k := by
  unfold processCloseEpochAccount at h
  split at h
  case h_2 => cases h
  rename_i epochMarker epochState config ncn accountToClose accountPayer systemProgram optionalAccounts
  let accs : CloseAccounts :=
    ⟨epochMarker, epochState, config, ncn, accountToClose, accountPayer, systemProgram, optionalAccounts⟩
  have hK : Within K accs := hK
  obtain ⟨st, _, _, kind, l₂, l₃, _, _, _, _, hpayer, _, _, _, harm, hmark, hclose⟩ := closeEpochAccount_ok h
  obtain ⟨_, _, _, hdone⟩ := closeEpochAccount_done h
  -- the payer is an account of the system program, the account to close one of this program
  have hne : accountPayer.key ≠ accountToClose.key := by
    intro heq
    have howner := hdone.closed
    rw [show accs.accountToClose.key = _ from heq.symm, hpayer] at howner
    exact rt.programId_ne howner.symm
  have hmarked : balance K l₃ = balance K l₂ := by
    rcases hmark with ⟨_, hcreate⟩ | ⟨_, rfl⟩
    · exact leaves_createMarker hK hcreate
    · rfl
  refine Ledger.balance_eq_iff.1 ?_
  calc balance K l'
      = balance K l₃ := balance_closeAccount (hK _ (by simp [accs, CloseAccounts.toList]))
          (hK _ (by simp [accs, CloseAccounts.toList])) hne hclose
    _ = balance K l₂ := hmarked
    _ = balance K (setState l epochState.key st.setIsClosing) := leaves_closeArm hK kind harm
    _ = balance K l := balance_update (hK _ (by simp [accs, CloseAccounts.toList])) rfl

/-- Closing the state of the small NCN's first epoch moves its five lamports, and five more for the marker. -/
theorem closing_conserves_small_lamports :
    ∃ l', (smallRuntime.processCloseEpochAccount (smallAccounts 100).toList 0).run smallLedger = .ok () l' ∧
      Ledger.total {0, 1, 100, 102, 103, 105} l' = Ledger.total {0, 1, 100, 102, 103, 105} smallLedger ∧
      ∀ k, k ∉ ({0, 1, 100, 102, 103, 105} : Finset Pubkey) → l' k = smallLedger k := by
  have hrun : (smallRuntime.processCloseEpochAccount (smallAccounts 100).toList 0).run smallLedger =
      .ok () (commit (smallRuntime.processCloseEpochAccount (smallAccounts 100).toList 0) smallLedger) :=
    Succeeds.run_eq (by decide +kernel)
  exact ⟨_, hrun, closing_conserves_lamports hrun (by decide)⟩

end Runtime
end NcnProgram
