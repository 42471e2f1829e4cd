import NcnProgram.Phases.Effect

/-!
# What the instructions on an epoch leave alone

The configuration is changed by the two instructions on its parameters, the weight table by the three that fill it and
set its weights, and no instruction changes which epoch it is. `Lifecycle.Framed` says so of all other instructions.
-/

namespace NcnProgram
open Lib NCNProgramError

/-- The accounts of an epoch that most instructions only read. -/
def Epoch.given (e : Epoch) : Config × WeightTable := (e.config, e.weightTable)

namespace Epoch

/-- The operators' routers and receivers are apart from what is given. -/
lemma apart_given : Apart given :=
  ⟨fun _ _ _ => rfl, fun _ _ _ => rfl, fun _ _ => .zoom fun _ _ => rfl, fun _ _ => .zoom fun _ _ => rfl⟩

/-- Paying out of the NCN's router leaves what is given. -/
lemma given_distributeNcn (distribute : Mut NCNRewardRouter ℕ) (count : ℕ → EpochState → EpochState) :
    Leaves given (distributeNcn distribute count) := by
  intro e rewards e' h
  obtain ⟨_, _, _, rfl⟩ := distributeNcn_run_ok h
  rfl

/-- So does paying its fee. -/
lemma given_processDistributeNcnRewards (wallet : Pubkey) : Leaves given (processDistributeNcnRewards wallet) :=
  .bind .get fun _ => .bind (.ensure _ _) fun _ => .bind (given_distributeNcn _ _) fun _ => .pure _

/-- So does paying that of the protocol. -/
lemma given_processDistributeProtocolRewards (wallet : Pubkey) :
    Leaves given (processDistributeProtocolRewards wallet) :=
  .bind .get fun _ => .bind (.ensure _ _) fun _ => .bind (given_distributeNcn _ _) fun _ => .pure _

/-- So does paying the route of an operator. -/
lemma given_processDistributeOperatorVaultRewardRoute (operator : Pubkey) :
    Leaves given (processDistributeOperatorVaultRewardRoute operator) :=
  .bind .get fun _ => .bind (.okOr _ _) fun _ => .bind (given_distributeNcn _ _) fun _ => .modify fun _ => rfl

end Epoch

namespace Lifecycle

/-- The instruction changes the configuration. -/
def Instruction.setsConfig : Instruction → Bool
  | .adminSetParameters .. | .adminSetNewAdmin .. => true
  | _ => false

/-- The instruction fills the weight table or sets weights. -/
def Instruction.setsWeights : Instruction → Bool
  | .reallocWeightTable .. | .adminSetWeight .. | .setEpochWeights .. => true
  | _ => false

/-- The epoch is the same, with the same configuration and weight table. -/
structure Framed (s s' : Lifecycle) : Prop where
  epoch : s'.epoch = s.epoch
  given : s'.accounts.given = s.accounts.given
  filled : s'.single .weightTable = .initialized → s.single .weightTable = .initialized

variable {cl : Cluster} {i : Instruction} {s s' : Lifecycle} {u : Unit}

/-- The configuration is given. -/
lemma Framed.config (h : Framed s s') : s'.accounts.config = s.accounts.config := congrArg Prod.fst h.given

/-- So is the weight table. -/
lemma Framed.weightTable (h : Framed s s') : s'.accounts.weightTable = s.accounts.weightTable :=
  congrArg Prod.snd h.given

/-- Other accounts with what was given. -/
lemma Framed.of_given {e : Epoch} (h : e.given = s.accounts.given) : Framed s { s with accounts := e } :=
  ⟨rfl, h, id⟩

/-- How far another account has come. -/
lemma Framed.setSingle {k : Single} (slot : Slot) (h : k = .weightTable → slot ≠ .initialized)
    (hs : Framed s s') : Framed s (s'.setSingle k slot) where
  epoch := hs.epoch
  given := hs.given
  filled := by
    intro hfilled
    by_cases hk : .weightTable = k
    · subst hk
      exact absurd (eq_of_setSingle _ slot s' hfilled) (h rfl)
    · exact hs.filled (single_of_setSingle_ne k slot s' hk hfilled)

/-- Another account has come further. -/
lemma Framed.of_single (k : Single) (slot : Slot) (hk : .weightTable ≠ k) (hepoch : s'.epoch = s.epoch)
    (hgiven : s'.accounts.given = s.accounts.given) (hsingle : s'.single = Function.update s.single k slot) :
    Framed s s' where
  epoch := hepoch
  given := hgiven
  filled h := by rwa [hsingle, Function.update_of_ne hk] at h

/-- A method of the data that leaves the configuration and the weight table alone. -/
lemma Framed.of_loaded {ks : List Single} {x : Mut Epoch Unit} (hx : Leaves Epoch.given x)
    (h : (loaded ks x).run s = .ok u s') : Framed s s' := by
  obtain ⟨_, _, e, he, rfl⟩ := loaded_ok h
  exact .of_given (hx he)

/-- Growing another account. -/
lemma Framed.of_realloc {k : Single} {size : ℕ} {x : Mut Lifecycle Unit} (hk : k ≠ .weightTable)
    (hx : ∀ {s s'}, x.run s = .ok () s' → Framed s s')
    (h : (do if ← realloc k size then x : Mut Lifecycle Unit).run s = .ok u s') : Framed s s' := by
  obtain ⟨done, s₁, hg, h⟩ := run_bind_ok.1 h
  have hs₁ : Framed s s₁ := by
    obtain ⟨_, ⟨_, rfl⟩ | ⟨_, _, _, rfl⟩⟩ := realloc_ok hg
    · exact ⟨rfl, rfl, id⟩
    · exact .setSingle _ (fun h => absurd h hk) ⟨rfl, rfl, id⟩
  cases done with
  | false => cases h; exact hs₁
  | true =>
    have h₂ := hx h
    exact ⟨h₂.epoch.trans hs₁.epoch, h₂.given.trans hs₁.given, fun h => hs₁.filled (h₂.filled h)⟩

/-- What closing leaves alone. -/
lemma Framed.of_closeTarget {target : Target} (h : (closeTarget cl target).run s = .ok u s') : Framed s s' := by
  cases closeTarget_ok h with
  | single => exact Framed.setSingle .absent (fun _ => by simp) ⟨rfl, rfl, id⟩
  | _ => exact ⟨rfl, rfl, id⟩

/-- All instructions but five leave the configuration and the weight table alone. -/
lemma exec_framed (h : (exec cl i).run s = .ok () s') (hconfig : i.setsConfig = false)
    (hweights : i.setsWeights = false) : Framed s s' := by
  cases i with
  | initializeEpochState => obtain ⟨_, _, rfl⟩ := processInitializeEpochState_ok h; exact ⟨rfl, rfl, id⟩
  | initializeWeightTable =>
    obtain ⟨_, _, _, rfl⟩ := processInitializeWeightTable_ok h
    exact Framed.setSingle (.allocated maxReallocBytes) (fun _ => by simp) ⟨rfl, rfl, id⟩
  | initializeEpochSnapshot =>
    obtain ⟨_, _, _, _, _, _, rfl⟩ := processInitializeEpochSnapshot_ok h
    exact .of_single .epochSnapshot .initialized (by decide) rfl rfl rfl
  | initializeOperatorSnapshot =>
    obtain ⟨_, _, e, he, rfl⟩ := processInitializeOperatorSnapshot_ok h
    obtain ⟨_, _, _, _, _, _, _, _, rfl⟩ := Epoch.processInitializeOperatorSnapshot_run_ok he
    exact ⟨rfl, rfl, id⟩
  | initializeBallotBox =>
    obtain ⟨_, _, _, rfl⟩ := processInitializeBallotBox_ok h
    exact .of_single .ballotBox (.allocated maxReallocBytes) (by decide) rfl rfl rfl
  | initializeNcnRewardRouter =>
    obtain ⟨_, _, _, rfl⟩ := processInitializeNcnRewardRouter_ok h
    exact .of_single .ncnRewardRouter (.allocated maxReallocBytes) (by decide) rfl rfl rfl
  | initializeOperatorVaultRewardRouter =>
    obtain ⟨_, _, _, _, _, _, _, _, _, rfl⟩ := processInitializeOperatorVaultRewardRouter_ok h
    exact ⟨rfl, rfl, id⟩
  | reallocBallotBox =>
    refine .of_realloc (by decide) (fun h => ?_) h
    cases h
    exact .of_single .ballotBox .initialized (by decide) rfl rfl rfl
  | reallocNcnRewardRouter =>
    refine .of_realloc (by decide) (fun h => ?_) h
    cases h
    exact .of_single .ncnRewardRouter .initialized (by decide) rfl rfl rfl
  | castVote =>
    obtain ⟨_, _, hg, h⟩ := run_bind_ok.1 h
    obtain ⟨_, _, hg', hg⟩ := run_bind_ok.1 hg
    cases hg'
    obtain ⟨_, rfl⟩ := run_ensure_ok.1 hg
    refine .of_loaded (fun e u e' h => ?_) h
    obtain ⟨_, _, _, _, _, _, _, _, _, _, rfl⟩ := Epoch.processCastVote_run_ok h
    rfl
  | adminSetTieBreaker =>
    refine .of_loaded (fun e u e' h => ?_) h
    obtain ⟨_, _, rfl⟩ := Epoch.processAdminSetTieBreaker_run_ok h
    rfl
  | snapshotVaultOperatorDelegation =>
    refine .of_loaded (fun e u e' h => ?_) h
    obtain ⟨_, _, _, _, _, _, _, _, _, _, rfl⟩ := Epoch.processSnapshotVaultOperatorDelegation_run_ok h
    rfl
  | routeNcnRewards =>
    refine .of_loaded (fun e u e' h => ?_) h
    obtain ⟨_, rfl⟩ := Epoch.processRouteNcnRewards_run_ok h
    rfl
  | routeOperatorVaultRewards =>
    exact .of_loaded (Epoch.apart_given.route ..) h
  | distributeNcnRewards => exact .of_loaded (Epoch.given_processDistributeNcnRewards _) h
  | distributeProtocolRewards => exact .of_loaded (Epoch.given_processDistributeProtocolRewards _) h
  | distributeOperatorVaultRewardRoute =>
    exact .of_loaded (Epoch.given_processDistributeOperatorVaultRewardRoute _) h
  | distributeOperatorRewards => exact .of_loaded (Epoch.apart_given.pay _) h
  | distributeVaultRewards => exact .of_loaded (Epoch.apart_given.pay _) h
  | depositNcn | depositOperatorVault => cases h; exact ⟨rfl, rfl, id⟩
  | closeEpochAccount =>
    obtain ⟨_, _, _, _, h⟩ := processCloseEpochAccount_ok.1 h
    have hclose := Framed.of_closeTarget h
    exact ⟨hclose.epoch, hclose.given, hclose.filled⟩
  | adminSetParameters | adminSetNewAdmin => cases hconfig
  | reallocWeightTable | adminSetWeight | setEpochWeights => cases hweights

/-- The two on the configuration change nothing else, and it does not matter what else is there. -/
lemma exec_setsConfig (h : (exec cl i).run s = .ok () s') (hconfig : i.setsConfig = true) :
    ∃ c, s' = { s with accounts := { s.accounts with config := c } } ∧
      ∀ t : Lifecycle, t.accounts.config = s.accounts.config →
        (exec cl i).run t = .ok () { t with accounts := { t.accounts with config := c } } := by
  cases i with
  | adminSetParameters =>
    obtain ⟨e, he, rfl⟩ := run_zoom_ok.1 h
    obtain ⟨_, _, hg, he⟩ := run_bind_ok.1 he
    obtain ⟨hadmin, rfl⟩ := run_ensure_ok.1 hg
    obtain ⟨_, _, hg, he⟩ := run_bind_ok.1 he
    cases hg
    obtain ⟨_, _, hg, he⟩ := run_bind_ok.1 he
    obtain ⟨hncn, rfl⟩ := run_ensure_ok.1 hg
    obtain ⟨c, hc, rfl⟩ := run_zoom_ok.1 he
    refine ⟨c, rfl, fun t ht => run_zoom_ok.2 ⟨_, ?_, rfl⟩⟩
    refine run_bind_ok.2 ⟨(), t.accounts, run_ensure_ok.2 ⟨hadmin, rfl⟩, ?_⟩
    refine run_bind_ok.2 ⟨_, _, rfl, run_bind_ok.2 ⟨(), t.accounts, run_ensure_ok.2 ⟨ht ▸ hncn, rfl⟩, ?_⟩⟩
    exact run_zoom_ok.2 ⟨c, ht ▸ hc, rfl⟩
  | adminSetNewAdmin ncn admin ncnAdmin newAdmin =>
    obtain ⟨e, he, rfl⟩ := run_zoom_ok.1 h
    obtain ⟨_, _, hg, he⟩ := run_bind_ok.1 he
    cases hg
    obtain ⟨_, _, hg, he⟩ := run_bind_ok.1 he
    obtain ⟨hncn, rfl⟩ := run_ensure_ok.1 hg
    obtain ⟨_, _, hg, he⟩ := run_bind_ok.1 he
    obtain ⟨hadmin, rfl⟩ := run_ensure_ok.1 hg
    cases he
    refine ⟨{ s.accounts.config with tieBreakerAdmin := newAdmin }, rfl, fun t ht => run_zoom_ok.2 ⟨_, ?_, rfl⟩⟩
    refine run_bind_ok.2 ⟨_, _, rfl, run_bind_ok.2 ⟨(), t.accounts, run_ensure_ok.2 ⟨ht ▸ hncn, rfl⟩, ?_⟩⟩
    refine run_bind_ok.2 ⟨(), t.accounts, run_ensure_ok.2 ⟨hadmin, rfl⟩, ?_⟩
    rw [← ht]
    rfl
  | _ => cases hconfig

/-- Growing the weight table fills it at last, from the vaults and mints that are given. -/
lemma exec_reallocWeightTable {clock : Clock} {bump : UInt8} {vaultList : Table VaultEntry maxVaults}
    {stMintList : Table StMintEntry maxStMints}
    (h : (exec cl (.reallocWeightTable clock bump vaultList stMintList)).run s = .ok () s') :
    Framed s s' ∨ s'.epoch = s.epoch ∧ s'.accounts.config = s.accounts.config ∧
      WeightTable.initialized s.accounts.config.ncn s.epoch clock.slot (VaultRegistry.vaultCount vaultList) bump
        vaultList stMintList = .ok s'.accounts.weightTable := by
  obtain ⟨done, s₁, hg, h⟩ := run_bind_ok.1 h
  have hs₁ : s₁.accounts = s.accounts ∧ s₁.epoch = s.epoch ∧ Framed s s₁ := by
    obtain ⟨_, ⟨_, rfl⟩ | ⟨_, newLen, _, rfl⟩⟩ := realloc_ok hg
    · exact ⟨rfl, rfl, rfl, rfl, id⟩
    · exact ⟨rfl, rfl, Framed.setSingle (.allocated newLen) (fun _ => by simp) ⟨rfl, rfl, id⟩⟩
  cases done with
  | false => cases h; exact .inl hs₁.2.2
  | true =>
    obtain ⟨_, _, hg, h⟩ := run_bind_ok.1 h
    cases hg
    obtain ⟨w, _, hg, h⟩ := run_bind_ok.1 h
    obtain ⟨hw, rfl⟩ := run_ofExcept_ok.1 hg
    rw [hs₁.1, hs₁.2.1] at hw
    cases h
    exact .inr ⟨hs₁.2.1, hs₁.2.2.config, hw⟩

/-- Setting weights leaves all else but the epoch state alone. -/
lemma updateWeights_ok {ks : List Single} {x : Mut WeightTable Unit}
    (h : (loaded ks (Epoch.updateWeights x)).run s = .ok () s') :
    s'.epoch = s.epoch ∧ s'.accounts.config = s.accounts.config ∧ s'.single = s.single ∧
      x.run s.accounts.weightTable = .ok () s'.accounts.weightTable := by
  obtain ⟨_, _, e, he, rfl⟩ := loaded_ok h
  obtain ⟨w, hw, rfl⟩ := Epoch.updateWeights_run_ok he
  exact ⟨rfl, rfl, rfl, hw⟩

/-- Setting a weight is up to the NCN's admin, and writes the weight table. -/
lemma exec_adminSetWeight {clock : Clock} {ncnAdmin admin stMint : Pubkey} {weight : ℕ}
    (h : (exec cl (.adminSetWeight clock ncnAdmin admin stMint weight)).run s = .ok () s') :
    ncnAdmin = admin ∧ s'.epoch = s.epoch ∧ s'.accounts.config = s.accounts.config ∧ s'.single = s.single ∧
      (WeightTable.setWeight stMint weight clock.slot).run s.accounts.weightTable =
        .ok () s'.accounts.weightTable := by
  obtain ⟨_, _, e, he, rfl⟩ := loaded_ok h
  obtain ⟨_, _, hg, he⟩ := run_bind_ok.1 he
  obtain ⟨hadmin, rfl⟩ := run_ensure_ok.1 hg
  obtain ⟨w, hw, rfl⟩ := Epoch.updateWeights_run_ok he
  exact ⟨hadmin, rfl, rfl, rfl, hw⟩

/-- No other instruction changes the configuration. -/
lemma exec_shared (h : (exec cl i).run s = .ok () s') (hconfig : i.setsConfig = false) :
    s'.epoch = s.epoch ∧ s'.accounts.config = s.accounts.config := by
  cases hweights : i.setsWeights with
  | false =>
    have hf := exec_framed h hconfig hweights
    exact ⟨hf.epoch, hf.config⟩
  | true =>
    cases i with
    | reallocWeightTable =>
      obtain hf | ⟨hepoch, hsame, _⟩ := exec_reallocWeightTable h
      · exact ⟨hf.epoch, hf.config⟩
      · exact ⟨hepoch, hsame⟩
    | adminSetWeight => exact ⟨(exec_adminSetWeight h).2.1, (exec_adminSetWeight h).2.2.1⟩
    | setEpochWeights => exact ⟨(updateWeights_ok h).1, (updateWeights_ok h).2.1⟩
    | _ => cases hweights

/-- An epoch stays the epoch it is. -/
lemma exec_epoch (h : (exec cl i).run s = .ok () s') : s'.epoch = s.epoch := by
  cases hconfig : i.setsConfig with
  | false => exact (exec_shared h hconfig).1
  | true =>
    obtain ⟨_, rfl, _⟩ := exec_setsConfig h hconfig
    rfl

end Lifecycle
end NcnProgram
