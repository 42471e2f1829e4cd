import NcnProgram.Closing.Closable
import NcnProgram.Routing.Solvency

/-!
# When an account is closed

`process_close_epoch_account` closes an account exactly when enough epochs have passed since the consensus and the
account is there with its data; for the epoch state itself, when each of the accounts that an epoch has one of has been
created and nothing is left. The rent of a receiver and the index of an operator never get in the way. Whatever a
receiver held is gone once its router has been closed.
-/

namespace NcnProgram
open Lib NCNProgramError

namespace Lifecycle
variable {cl : Cluster} {s₀ s s' : Lifecycle} {clock : Clock} {target : Target}

/-- The account can be closed, of an epoch that began untouched. -/
def MayClose (cl : Cluster) (s₀ s : Lifecycle) : Target → Prop
  | .single k => s.single k = .initialized
  | .operatorSnapshot operator => s.accounts.operatorSnapshot operator ≠ none
  | .operatorVaultRewardRouter operator => s.accounts.operatorVaultRewardRouter operator ≠ none
  | .epochState | .otherEpochState => CreatedAreClosed cl s₀ s ∧ ∀ k, EverCreated cl s₀ s (.single k)

/-- The lamports of the receiver that is closed along with the account. -/
def receiverOf (s : Lifecycle) : Target → Option ℕ
  | .single .ncnRewardRouter => some s.accounts.ncnRewardReceiver
  | .operatorVaultRewardRouter operator => some (s.accounts.operatorVaultRewardReceiver operator)
  | _ => none

/-- The epoch state says that everything is closed when it is and the four accounts have been created. -/
lemma allMarked_iff (h₀ : s₀.Untouched) (hrun : Run (Step cl) s₀ s) (hlive : s.epochState = true) :
    s.book.AllMarked ↔ CreatedAreClosed cl s₀ s ∧ ∀ k, EverCreated cl s₀ s (.single k) := by
  rw [(live_book h₀ hrun hlive).allMarked_iff, createdAreClosed_iff hrun]
  refine and_congr_right fun hclosed => forall_congr' fun k => ?_
  rw [everCreated_iff h₀ hrun hlive]
  exact ⟨.inl, fun h => h.elim id fun hthere => absurd (hclosed.single k) hthere⟩

/-- What the program is asked to close is there. -/
lemma MayClose.data (h : MayClose cl s₀ s target) (hlive : s.epochState = true) : s.dataIsEmpty target = false := by
  cases target with
  | epochState => simp [dataIsEmpty, hlive]
  | otherEpochState => rfl
  | single k =>
    have hk : s.single k = .initialized := h
    simp [dataIsEmpty, hk]
  | operatorSnapshot p =>
    obtain ⟨t, ht⟩ := Option.ne_none_iff_exists'.1 h
    simp [dataIsEmpty, ht]
  | operatorVaultRewardRouter p =>
    obtain ⟨r, hr⟩ := Option.ne_none_iff_exists'.1 h
    simp [dataIsEmpty, hr]

/-- It is closed once closing has begun. -/
lemma MayClose.succeeds (h₀ : s₀.Untouched) (hrun : Run (Step cl) s₀ s) (hlive : s.epochState = true)
    (h : MayClose cl s₀ s target) : Succeeds (closeTarget cl target) s.startClosing := by
  have hbook := live_book h₀ hrun hlive
  have hsolvent := solvent h₀ hrun
  cases target with
  | epochState => exact closeEpochState_succeeds hbook.named { (allMarked_iff h₀ hrun hlive).2 h with }
  | otherEpochState =>
    have hload := (loadToClose_iff hbook).2 ((allMarked_iff h₀ hrun hlive).2 h)
    exact .bind (a := s.startClosing) rfl (.bind (run_ofExcept_ok.2 ⟨hload, rfl⟩) ⟨_, _, rfl⟩)
  | single k =>
    have hk : s.single k = .initialized := h
    by_cases hrouter : k = .ncnRewardRouter
    · have hn := hsolvent.ncn
      rw [← hrouter, hk] at hn
      have hheld := Reserve.Funded.held hn
      exact closeSingle_succeeds hk (by show _ ≤ s.accounts.ncnRewardReceiver; omega)
    · unfold closeTarget
      refine .bind (a := s.startClosing) rfl (.bind (a := ()) (run_ensure_ok.2 ⟨hk, rfl⟩) ?_)
      simp only [if_neg hrouter]
      exact ⟨_, _, rfl⟩
  | operatorSnapshot p =>
    obtain ⟨t, ht⟩ := Option.ne_none_iff_exists'.1 h
    have hp : s.book.snapshot p = some t.ncnOperatorIndex := Option.map_eq_some_iff.2 ⟨t, ht, rfl⟩
    exact closeSnapshot_succeeds hp (hbook.snapshot.index p _ hp).2
  | operatorVaultRewardRouter p =>
    obtain ⟨r, hr⟩ := Option.ne_none_iff_exists'.1 h
    have hp : s.book.router p = some r.ncnOperatorIndex := Option.map_eq_some_iff.2 ⟨r, hr, rfl⟩
    have hheld := (hsolvent.operators p r hr).held
    exact closeRouter_succeeds hp (hbook.router.index p _ hp).2
      (by show _ ≤ s.accounts.operatorVaultRewardReceiver p; omega)

/-- What is closed can be. -/
lemma mayClose_of_run (h₀ : s₀.Untouched) (hrun : Run (Step cl) s₀ s) (hlive : s.epochState = true) {u : Unit}
    (h : (closeTarget cl target).run s.startClosing = .ok u s') : MayClose cl s₀ s target := by
  cases target with
  | epochState => exact (allMarked_iff h₀ hrun hlive).1 { (closeEpochState_ok h).1 with }
  | otherEpochState => exact (allMarked_iff h₀ hrun hlive).1 { (closeOther_ok h).1 with }
  | single k => exact (closeSingle_ok h).1
  | operatorSnapshot p =>
    obtain ⟨i, hi, _⟩ := closeSnapshot_ok h
    obtain ⟨t, ht, _⟩ := Option.map_eq_some_iff.1 hi
    exact Option.ne_none_iff_exists'.2 ⟨t, ht⟩
  | operatorVaultRewardRouter p =>
    obtain ⟨i, hi, _⟩ := closeRouter_ok h
    obtain ⟨r, hr, _⟩ := Option.map_eq_some_iff.1 hi
    exact Option.ne_none_iff_exists'.2 ⟨r, hr⟩

/-- The receiver that is closed along with a router has nothing left. -/
lemma receiverOf_closeTarget {u : Unit} (h : (closeTarget cl target).run s = .ok u s') :
    ∀ lamports ∈ s'.receiverOf target, lamports = 0 := by
  cases target with
  | single k =>
    obtain ⟨_, _, hg, h⟩ := run_bind_ok.1 h
    cases hg
    obtain ⟨_, _, hg, h⟩ := run_bind_ok.1 h
    obtain ⟨_, rfl⟩ := run_ensure_ok.1 hg
    split at h
    · rename_i hk
      subst hk
      obtain ⟨left, _, hg, h⟩ := run_bind_ok.1 h
      obtain ⟨hleft, rfl⟩ := run_ofExcept_ok.1 hg
      obtain ⟨_, rfl⟩ := closeReceiver_ok.1 hleft
      obtain ⟨_, _, hg, h⟩ := run_bind_ok.1 h
      cases hg
      cases h
      intro lamports hl
      cases hl
      rfl
    · rename_i hk
      intro lamports hl
      cases k with
      | ncnRewardRouter => exact absurd rfl hk
      | _ => cases hl
  | operatorVaultRewardRouter p =>
    obtain ⟨_, _, hg, h⟩ := run_bind_ok.1 h
    cases hg
    obtain ⟨_, _, hg, h⟩ := run_bind_ok.1 h
    obtain ⟨_, rfl⟩ := run_okOr_ok.1 hg
    obtain ⟨left, _, hg, h⟩ := run_bind_ok.1 h
    obtain ⟨hleft, rfl⟩ := run_ofExcept_ok.1 hg
    obtain ⟨_, rfl⟩ := closeReceiver_ok.1 hleft
    obtain ⟨_, _, hg, h⟩ := run_bind_ok.1 h
    cases hg
    obtain ⟨_, _, hg, h⟩ := run_bind_ok.1 h
    obtain ⟨e, he, rfl⟩ := run_zoom_ok.1 hg
    obtain ⟨st, _, rfl⟩ := run_zoom_ok.1 he
    cases h
    intro lamports hl
    cases hl
    exact Function.update_self ..
  | _ => exact fun _ hl => (by cases hl)

/-- In every state that instructions on the epoch lead to (no call for another one having emptied its state), an
account is closed exactly when the epoch is there, has come to a consensus long enough ago, and the account is there
with its data; the epoch state, and another one in its place, when the four accounts have been created and nothing of
the epoch is left. Nothing stays in a receiver that is closed. -/
theorem close_succeeds_iff (h₀ : s₀.Untouched) (hrun : Run (Step cl) s₀ s) (clock : Clock) (target : Target) :
    (Succeeds (exec cl (.closeEpochAccount clock target)) s ↔
        s.epochState = true ∧ s.accounts.epochState.isConsensusReached = true ∧
          s.accounts.config.epochsAfterConsensusBeforeClose ≤
            cl.getEpoch clock.slot - cl.getEpoch s.accounts.epochState.slotConsensusReached ∧
          MayClose cl s₀ s target) ∧
      ∀ s', (exec cl (.closeEpochAccount clock target)).run s = .ok () s' →
        ∀ lamports ∈ s'.receiverOf target, lamports = 0 := by
  constructor
  · constructor
    · rintro ⟨_, s', h⟩
      obtain ⟨hlive, _, _, hcan, hclose⟩ := processCloseEpochAccount_ok.1 h
      obtain ⟨hconsensus, hlate⟩ := canCloseEpochAccounts_ok.1 hcan
      exact ⟨hlive, hconsensus, hlate, mayClose_of_run h₀ hrun hlive hclose⟩
    · rintro ⟨hlive, hconsensus, hlate, hmay⟩
      obtain ⟨u, s', hclose⟩ := hmay.succeeds h₀ hrun hlive
      have hmarker := (live_book h₀ hrun hlive).marker
      have hcan := canCloseEpochAccounts_ok.2 ⟨hconsensus, hlate⟩
      exact ⟨u, s', processCloseEpochAccount_ok.2 ⟨hlive, hmarker, hmay.data hlive, hcan, hclose⟩⟩
  · intro s' h
    obtain ⟨_, _, _, _, hclose⟩ := processCloseEpochAccount_ok.1 h
    exact receiverOf_closeTarget hclose

/-- The reward router of the operator of the small epoch can be closed while its receiver still holds rewards. -/
theorem close_succeeds_iff_small :
    Succeeds (exec smallCluster (.closeEpochAccount ⟨10 * defaultSlotsPerEpoch, 10⟩ (.operatorVaultRewardRouter 7)))
        smallRewarded ∧
      smallRewarded.accounts.operatorVaultRewardReceiver 7 = 945 := by
  refine ⟨((close_succeeds_iff small_untouched small_rewarded _ _).1).2 ⟨by decide +kernel, by decide +kernel,
    by decide +kernel, ?_⟩, by decide +kernel⟩
  have hthere : (smallRewarded.accounts.operatorVaultRewardRouter 7).isSome = true := by decide +kernel
  exact Option.ne_none_iff_isSome.2 hthere

end Lifecycle
end NcnProgram
