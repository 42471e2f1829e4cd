import NcnProgram.Fees.InForce
import NcnProgram.Ncn.Isolation

/-!
# The terms of an NCN

The fees of an NCN can be changed with `FeeConfig::update_fee_config`, but no instruction does so. What the
configuration is created with stays: the fees in force are the same in every epoch, and each epoch takes them over into
its snapshot. The other parameters can be changed, but not beyond their bounds.
-/

namespace NcnProgram
open Lib NCNProgramError

/-- The fees are those that an NCN begins with: accepted, and the same in both records. -/
structure FeeConfig.Initial (f : FeeConfig) : Prop where
  fee2 : f.fee2 = f.fee1
  okay : f.fee1.Okay
  protocolFeeWallet : f.protocolFeeWallet = FeeConfig.protocolFeeWalletKey
  ncnFeeWallet : f.ncnFeeWallet ≠ .default

namespace FeeConfig
variable {f : FeeConfig}

/-- The fees of a new configuration. -/
lemma Initial.new {math : PreciseMath} {wallet : Pubkey} {bps epoch : ℕ}
    (h : FeeConfig.new math wallet bps epoch = .ok f) : f.Initial := by
  obtain ⟨⟨hokay, _⟩, hwallet, hdefault⟩ := Okay.new h
  obtain ⟨_, _, hsame⟩ := new_ok h
  refine ⟨hsame, hokay, ?_, hwallet ▸ hdefault⟩
  unfold FeeConfig.new at h
  split at h
  · cases h
  split at h
  · cases h
  obtain ⟨fee, _, h⟩ := bind_ok.1 h
  obtain ⟨_, _, h⟩ := bind_ok.1 h
  cases h
  rfl

/-- They are in force in every epoch. -/
lemma Initial.currentFees (h : f.Initial) (epoch : ℕ) : f.currentFees epoch = f.fee1 := by
  rcases f.currentFees_cases epoch with he | he
  · exact he
  · exact he.trans h.fee2

end FeeConfig

namespace Lifecycle
variable {cl : Cluster} {i : Instruction} {s s' : Lifecycle}

/-- Counting an operator leaves the fees of a snapshot as they are. -/
lemma fees_of_countsIf {counted : Bool} {slot valid : ℕ} {sw : StakeWeights} {es es' : EpochSnapshot}
    (h : Epoch.CountsIf counted slot valid sw es es') : es'.fees = es.fees := by
  unfold Epoch.CountsIf at h
  split at h
  · exact (EpochSnapshot.incrementOperatorRegistration_run_ok h).2.2.2.2.2.2
  · rw [h]

/-- The snapshot of an epoch takes over the fees in force when it is created, and keeps them. -/
lemma exec_fees (h : (exec cl i).run s = .ok () s') (hs' : s'.single .epochSnapshot = .initialized) :
    s.single .epochSnapshot = .initialized ∧ s'.accounts.epochSnapshot.fees = s.accounts.epochSnapshot.fees ∨
      s.epochState = true ∧
        s'.accounts.epochSnapshot.fees = s.accounts.config.feeConfig.currentFees s.epoch := by
  cases exec_effect h with
  | quiet hq =>
    have hsnapshot := congrArg Groundwork.epochSnapshot hq.groundwork
    exact .inl ⟨hq.single _ (by decide) hs', congrArg EpochSnapshot.fees hsnapshot⟩
  | start _ _ _ _ h | setWeights _ _ _ _ h => subst h; exact .inl ⟨hs', rfl⟩
  | allocateBox _ _ h =>
    subst h
    exact .inl ⟨single_of_setSingle_ne .ballotBox (.allocated maxReallocBytes) s (by decide) hs', rfl⟩
  | fillBox _ _ _ _ _ h =>
    subst h
    exact .inl ⟨single_of_setSingle_ne .ballotBox .initialized s (by decide) hs', rfl⟩
  | fillTable _ _ _ _ _ _ _ _ _ h =>
    subst h
    exact .inl ⟨single_of_setSingle_ne .weightTable .initialized s (by decide) hs', rfl⟩
  | openSnapshot _ _ _ hlive _ _ _ _ _ h => subst h; exact .inr ⟨hlive, rfl⟩
  | createSnapshot _ _ _ e _ hsnapshot _ hrun h =>
    subst h
    obtain ⟨_, _, _, es, _, _, hes, _, rfl⟩ := Epoch.processInitializeOperatorSnapshot_run_ok hrun
    exact .inl ⟨hsnapshot, fees_of_countsIf hes⟩
  | registerVault _ _ _ e _ hsnapshot hrun h =>
    subst h
    obtain ⟨_, _, _, es, _, _, _, _, hes, _, rfl⟩ := Epoch.processSnapshotVaultOperatorDelegation_run_ok hrun
    exact .inl ⟨hsnapshot, fees_of_countsIf hes⟩
  | vote _ _ _ _ _ e _ _ _ hsnapshot hrun h =>
    subst h
    obtain ⟨_, _, _, _, _, _, _, _, _, _, rfl⟩ := Epoch.processCastVote_run_ok hrun
    exact .inl ⟨hsnapshot, rfl⟩
  | tieBreak _ _ _ e _ _ _ hrun h =>
    subst h
    obtain ⟨_, _, rfl⟩ := Epoch.processAdminSetTieBreaker_run_ok hrun
    exact .inl ⟨hs', rfl⟩

/-- The instructions on the configuration leave the NCN and the fees as they are, and the parameters within their
bounds. -/
lemma exec_config (h : (exec cl i).run s = .ok () s') :
    s'.accounts.config.ncn = s.accounts.config.ncn ∧
      s'.accounts.config.feeConfig = s.accounts.config.feeConfig ∧
      (s.accounts.config.Accepted → s'.accounts.config.Accepted) := by
  cases hconfig : i.setsConfig with
  | false =>
    rw [(exec_shared h hconfig).2]
    exact ⟨rfl, rfl, id⟩
  | true =>
    cases i with
    | adminSetParameters =>
      obtain ⟨e, he, rfl⟩ := run_zoom_ok.1 h
      obtain ⟨c, hc, rfl⟩ := Epoch.processAdminSetParameters_run_ok he
      refine ⟨?_, ?_, fun haccepted => haccepted.setParameters hc⟩
      all_goals
        obtain ⟨_, _, _, rfl⟩ := Config.setParameters_run_ok hc
        rfl
    | adminSetNewAdmin =>
      obtain ⟨c, rfl, _⟩ := exec_setsConfig h rfl
      obtain ⟨e, he, hs'⟩ := run_zoom_ok.1 h
      obtain ⟨_, _, hg, he⟩ := run_bind_ok.1 he
      cases hg
      obtain ⟨_, _, hg, he⟩ := run_bind_ok.1 he
      obtain ⟨_, rfl⟩ := run_ensure_ok.1 hg
      obtain ⟨_, _, hg, he⟩ := run_bind_ok.1 he
      obtain ⟨_, rfl⟩ := run_ensure_ok.1 hg
      cases he
      cases hs'
      exact ⟨rfl, rfl, fun h => ⟨h.1, h.2, h.3⟩⟩
    | _ => cases hconfig

end Lifecycle

namespace Ncn
variable {cl : Cluster} {account : NcnAccount} {c : Call} {s₀ s s' : Ncn} {epoch : ℕ}

/-- What is settled when the configuration is created. -/
structure OnTerms (s : Ncn) : Prop where
  config : s.configured = true → s.config.ncn = s.ncn ∧ s.config.feeConfig.Initial ∧ s.config.Accepted
  unbegun : s.configured = false → ∀ epoch, (s.view epoch).Untouched
  fees : ∀ epoch, (s.view epoch).single .epochSnapshot = .initialized →
    (s.view epoch).accounts.epochSnapshot.fees = s.config.feeConfig.fee1

namespace OnTerms

/-- An instruction on an epoch keeps the terms. -/
lemma processOnEpoch {i : Lifecycle.Instruction} (h : OnTerms s)
    (hrun : (processOnEpoch cl account epoch i).run s = .ok () s') : OnTerms s' := by
  obtain ⟨hconfigured, _, l, hl, rfl⟩ := processOnEpoch_ok.1 hrun
  obtain ⟨hncn, hfees, haccepted⟩ := Lifecycle.exec_config hl
  have hview : ∀ e, (s.put epoch l).view e = if e = epoch then l else
      { s.view e with accounts := { (s.view e).accounts with config := l.accounts.config } } := by
    intro e
    split
    case isTrue he => rw [he, view_put s epoch (Lifecycle.exec_epoch hl)]
    case isFalse he => exact view_put_of_ne he l
  constructor
  case config =>
    intro hc
    obtain ⟨hcn, hinitial, hwithin⟩ := h.config hc
    exact ⟨hncn.trans hcn, hfees ▸ hinitial, haccepted hwithin⟩
  case unbegun =>
    intro hc e
    have hloads : loadsConfig (s.reading account i) = false := by
      rw [loadsConfig_reading]
      exact Bool.eq_false_of_not_eq_true fun hloads => by cases (hconfigured hloads).symm.trans hc
    rw [hview]
    split
    · exact untouched_of_exec (h.unbegun hc epoch) hloads hl
    · exact { h.unbegun hc e with }
  case fees =>
    intro e hsnapshot
    rw [hview] at hsnapshot ⊢
    show _ = l.accounts.config.feeConfig.fee1
    rw [hfees]
    split at hsnapshot
    case isTrue he =>
      rw [if_pos he]
      obtain ⟨hold, hsame⟩ | ⟨hlive, hnew⟩ := Lifecycle.exec_fees hl hsnapshot
      · exact hsame.trans (h.fees epoch hold)
      · have hc : s.configured = true := by
          cases hc : s.configured with
          | true => rfl
          | false => cases hlive.symm.trans (h.unbegun hc epoch).epochState
        exact hnew.trans ((h.config hc).2.1.currentFees epoch)
    case isFalse he =>
      rw [if_neg he]
      exact h.fees e hsnapshot

/-- So does a call that empties the state of an epoch it does not name. -/
lemma emptyEpochState {victim : ℕ} (h : OnTerms s) (hrun : (emptyEpochState victim).run s = .ok () s') :
    OnTerms s' := by
  have hsame := accounts_emptyEpochState hrun
  obtain ⟨hlive, rfl⟩ := emptyEpochState_ok.1 hrun
  refine ⟨h.config, fun hc => ?_, fun e => ?_⟩
  · cases hlive.symm.trans (h.unbegun hc victim).epochState
  · rw [(hsame e).1, (hsame e).2]
    exact h.fees e

/-- Every call keeps this. -/
lemma exec (h : OnTerms s) (hrun : (exec cl c).run s = .ok () s') : OnTerms s' := by
  refine exec_keeps hrun h (fun hr => ?_) (fun config hnew hcreated => ?_)
    (fun _ _ _ _ h hrun => h.processOnEpoch hrun) fun h hrun => h.emptyEpochState hrun
  · have hview := fun epoch => (hr.view epoch).1
    obtain ⟨_, hconfigured, hncn⟩ := hr.view 0
    have hconfig : s'.config = s.config := congrArg (·.accounts.config) (hview 0)
    constructor
    case config => rw [hconfigured, hconfig, hncn]; exact h.config
    case unbegun => simpa only [hconfigured, hview] using h.unbegun
    case fees => simpa only [hconfig, hview] using h.fees
  · obtain ⟨_, _, _, _, _, _, _, _, _, _, hcreated⟩ := hcreated
    obtain ⟨_, feeConfig, hfees, hconfig⟩ := Config.processAdminInitializeConfig_ok hcreated
    constructor
    case config =>
      intro _
      have haccepted := Config.processAdminInitializeConfig_accepted hcreated
      subst hconfig
      exact ⟨rfl, .new hfees, haccepted⟩
    case unbegun => intro hc; cases hc
    case fees =>
      intro e hsnapshot
      cases hsnapshot.symm.trans ((h.unbegun hnew e).single .epochSnapshot)

/-- A new NCN is on its terms. -/
lemma of_untouched (h : s.Untouched) : OnTerms s where
  config hc := by cases hc.symm.trans h.configured
  unbegun _ epoch := { h.epochs epoch with }
  fees epoch hsnapshot := by cases hsnapshot.symm.trans ((h.epochs epoch).single .epochSnapshot)

/-- So every run of calls keeps them. -/
lemma run (h : OnTerms s) {calls : List Call} (hrun : (calls.forM (Ncn.exec cl)).run s = .ok () s') : OnTerms s' :=
  forM_invariant (J := fun _ s => OnTerms s) (fun _ _ _ _ h hc => h.exec hc) h hrun

end OnTerms

/-- A configuration that is there keeps its fees. -/
lemma exec_feeConfig (hconfigured : s.configured = true) (hrun : (exec cl c).run s = .ok () s') :
    s'.configured = true ∧ s'.config.feeConfig = s.config.feeConfig := by
  refine exec_keeps (J := fun t => t.configured = true ∧ t.config.feeConfig = s.config.feeConfig) hrun
    ⟨hconfigured, rfl⟩ (fun hr => ?_) (fun config hnew _ => ?_) (fun _ _ _ _ h hrun => ?_) fun h hrun => ?_
  · obtain ⟨hview, hsame, _⟩ := hr.view 0
    exact ⟨hsame.trans hconfigured, congrArg (·.accounts.config.feeConfig) hview⟩
  · cases hnew.symm.trans hconfigured
  · obtain ⟨_, _, l, hl, rfl⟩ := processOnEpoch_ok.1 hrun
    exact ⟨h.1, (Lifecycle.exec_config hl).2.1.trans h.2⟩
  · obtain ⟨_, rfl⟩ := emptyEpochState_ok.1 hrun
    exact h

/-- A payout of a fee goes to the wallet of the configuration. -/
lemma wallet_of_distributeNcnRewards {wallet : Pubkey}
    (hrun : (processOnEpoch cl account epoch (.distributeNcnRewards wallet)).run s = .ok () s') :
    s.config.feeConfig.ncnFeeWallet = wallet := by
  obtain ⟨_, _, l, hl, _⟩ := processOnEpoch_ok.1 hrun
  exact Lifecycle.loaded_ensure (p := fun self => self.config.feeConfig.ncnFeeWallet = wallet) hl

/-- The protocol's fee is paid to the wallet of the configuration. -/
lemma wallet_of_distributeProtocolRewards {wallet : Pubkey}
    (hrun : (processOnEpoch cl account epoch (.distributeProtocolRewards wallet)).run s = .ok () s') :
    s.config.feeConfig.protocolFeeWallet = wallet := by
  obtain ⟨_, _, l, hl, _⟩ := processOnEpoch_ok.1 hrun
  exact Lifecycle.loaded_ensure (p := fun self => self.config.feeConfig.protocolFeeWallet = wallet) hl

/-- The fees and their wallets are settled when the configuration is created. Whatever calls there are before and
after, the configuration keeps them and has its parameters within their bounds, every epoch has these fees in its
snapshot, and in every epoch the NCN's fee is paid to its wallet and the protocol's to that of the protocol. -/
theorem fees_fixed (h₀ : s₀.Untouched) {calls later : List Call} (hrun : (calls.forM (exec cl)).run s₀ = .ok () s)
    (hconfigured : s.configured = true) (hlater : (later.forM (exec cl)).run s = .ok () s') :
    s'.config.feeConfig = s.config.feeConfig ∧ s'.config.feeConfig.Initial ∧ s'.config.Accepted ∧
      s'.config.ncn = s'.ncn ∧
      ∀ epoch, ((s'.view epoch).single .epochSnapshot = .initialized →
          (s'.view epoch).accounts.epochSnapshot.fees = s.config.feeConfig.fee1) ∧
        ∀ account wallet t,
          ((processOnEpoch cl account epoch (.distributeNcnRewards wallet)).run s' = .ok () t →
            wallet = s.config.feeConfig.ncnFeeWallet) ∧
          ((processOnEpoch cl account epoch (.distributeProtocolRewards wallet)).run s' = .ok () t →
            wallet = FeeConfig.protocolFeeWalletKey) := by
  have h' : OnTerms s' := ((OnTerms.of_untouched h₀).run hrun).run hlater
  obtain ⟨hconfigured', hsame⟩ : s'.configured = true ∧ s'.config.feeConfig = s.config.feeConfig := by
    refine forM_invariant (J := fun _ t => t.configured = true ∧ t.config.feeConfig = s.config.feeConfig)
      (fun _ c t t' h hc => ?_) ⟨hconfigured, rfl⟩ hlater
    obtain ⟨hc', hkept⟩ := exec_feeConfig h.1 hc
    exact ⟨hc', hkept.trans h.2⟩
  obtain ⟨hncn, hinitial, haccepted⟩ := h'.config hconfigured'
  refine ⟨hsame, hinitial, haccepted, hncn, fun epoch => ⟨fun hsnapshot => ?_, fun account wallet t => ⟨?_, ?_⟩⟩⟩
  · rw [h'.fees epoch hsnapshot, hsame]
  · intro hpaid
    rw [← wallet_of_distributeNcnRewards hpaid, hsame]
  · intro hpaid
    rw [← wallet_of_distributeProtocolRewards hpaid, hinitial.protocolFeeWallet]

/-- The small NCN has a fee of one percent, and four percent for the protocol. -/
theorem fees_fixed_small :
    ∃ s s' : Ncn, s'.config.feeConfig = s.config.feeConfig ∧ s'.config.Accepted ∧
      (s'.view 1).single .epochSnapshot = .initialized ∧ (s'.view 1).accounts.epochSnapshot.fees = ⟨0, 400, 100⟩ := by
  let x := smallSetup.forM (exec Lifecycle.smallCluster)
  let y := (smallEpochs ++ smallCalls [.onEpoch 1 (.initializeEpochSnapshot ⟨3, 1⟩ 0 0)]).forM
    (exec Lifecycle.smallCluster)
  let s := commit x small
  let s' := commit y s
  have hx : x.run small = .ok () s := Succeeds.run_eq (by decide +kernel)
  have hy : y.run s = .ok () s' := Succeeds.run_eq (by decide +kernel)
  have hstate : s.configured = true ∧ s.config.feeConfig.fee1 = ⟨0, 400, 100⟩ ∧
      (s'.view 1).single .epochSnapshot = .initialized := by decide +kernel
  clear_value s s'
  obtain ⟨hconfigured, hfees, hsnapshot⟩ := hstate
  obtain ⟨hsame, _, haccepted, _, hepoch⟩ := fees_fixed small_untouched hx hconfigured hy
  exact ⟨s, s', hsame, haccepted, hsnapshot, ((hepoch 1).1 hsnapshot).trans hfees⟩

end Ncn
end NcnProgram
