import NcnProgram.Ncn.Isolation
import NcnProgram.Phases.Polls
import NcnProgram.Registry.WellFormed

/-!
# What only an admin can do

The NCN's account names three admins and the configuration a fourth. Everyone else can run the instructions that move
an epoch on, in whatever order and with whatever arguments. They cannot change the configuration, the mints and their
weights in the registry, or the outcome of an epoch: its weights are those of the registry, and no tie breaker is set
in it (`Lifecycle.Fair`).
-/

namespace NcnProgram
open Lib NCNProgramError

/-- The weights of an epoch are those of the registry, and its ballot box has no tie breaker. -/
structure Lifecycle.Fair (r : VaultRegistry) (l : Lifecycle) : Prop where
  weights : l.single .weightTable = .initialized → ∀ entry ∈ l.accounts.weightTable.table.toList,
    entry.weight = 0 ∨ ∃ mint ∈ r.stMintList.toList, mint.stMint = entry.stMint ∧ mint.weight = entry.weight
  tieBreaker : l.single .ballotBox = .initialized → l.accounts.ballotBox.tieBreakerSet = false

/-- The admins that the NCN's account names. -/
def NcnAccount.admins (self : NcnAccount) : List Pubkey := [self.admin, self.ncnProgramAdmin, self.weightTableAdmin]

namespace Ncn

/-- No admin has signed the call. -/
def Call.ByOutsider (tieBreakerAdmin : Pubkey) (c : Call) : Prop :=
  ∀ k ∈ c.instruction.adminSigner, k ∉ c.account.admins ∧ k ≠ tieBreakerAdmin

/-- The signer is none of the NCN's admins. -/
lemma Call.ByOutsider.not_admin {tieBreakerAdmin k : Pubkey} {c : Call} (h : c.ByOutsider tieBreakerAdmin)
    (hk : c.instruction.adminSigner = some k) :
    ¬(k = c.account.admin ∨ k = c.account.ncnProgramAdmin ∨ k = c.account.weightTableAdmin) := by
  simpa [NcnAccount.admins] using (h k hk).1

end Ncn

namespace Lifecycle
variable {cl : Cluster} {i : Instruction} {l l' : Lifecycle} {r : VaultRegistry}

/-- A vote sets no tie breaker. -/
lemma tieBreakerSet_of_vote {math : PreciseMath} {clock : Clock} {operator voter operatorAdmin : Pubkey}
    {weatherStatus : UInt8} {e e' : Epoch} (hslot : clock.slot < u64Max)
    (h : (Epoch.processCastVote math clock operator voter operatorAdmin weatherStatus).run e = .ok () e') :
    e'.ballotBox.tieBreakerSet = false := by
  obtain ⟨_, b₁, b₂, _, _, _, _, hcast, htally, _, rfl⟩ := Epoch.processCastVote_run_ok h
  obtain ⟨htie, _, ⟨hsame, hwinner⟩ | ⟨_, hreached⟩⟩ := BallotBox.vote_outcome hcast htally
  · rwa [BallotBox.tieBreakerSet, hsame, hwinner]
  · show BallotBox.tieBreakerSet b₂ = false
    rw [BallotBox.tieBreakerSet, hreached, beq_eq_false_iff_ne.2 hslot.ne]
    rfl

/-- Nothing but the tie breaker's instruction sets a tie breaker. -/
lemma tieBreakerSet_of_exec (h : (exec cl i).run l = .ok () l') (hslot : ∀ n ∈ i.slot, n < u64Max)
    (hi : ∀ clock admin weatherStatus, i ≠ .adminSetTieBreaker clock admin weatherStatus)
    (hl : l.single .ballotBox = .initialized → l.accounts.ballotBox.tieBreakerSet = false)
    (hbox : l'.single .ballotBox = .initialized) : l'.accounts.ballotBox.tieBreakerSet = false := by
  have heffect := exec_effect h
  cases hlive : l.epochState with
  | false =>
    cases heffect with
    | quiet hq =>
      rw [show l'.accounts.ballotBox = _ from congrArg Groundwork.ballotBox hq.groundwork]
      exact hl (hq.single _ (by decide) hbox)
    | start clock bump _ _ hs' => subst hs'; exact hl hbox
    | allocateBox bump _ hs' =>
      subst hs'
      cases eq_of_setSingle .ballotBox (.allocated maxReallocBytes) l hbox
    | fillTable _ _ _ _ _ _ hdead | setWeights _ hdead | openSnapshot _ _ _ hdead | createSnapshot _ _ _ _ hdead
    | registerVault _ _ _ _ hdead | fillBox _ _ _ hdead | vote _ _ _ _ _ _ _ hdead
    | tieBreak _ _ _ _ _ hdead => cases hdead.symm.trans hlive
  | true =>
    cases heffect.polls hlive with
    | idle hpolls hinit =>
      rw [show l'.accounts.ballotBox = _ from congrArg Polls.ballotBox hpolls]
      exact hl (hinit hbox)
    | allocate bump hs' =>
      subst hs'
      cases eq_of_setSingle .ballotBox (.allocated maxReallocBytes) l hbox
    | fill clock bump dataLen _ hs' => subst hs'; rfl
    | vote clock operator voter operatorAdmin weatherStatus e hvote _ _ hrun hs' =>
      subst hvote hs'
      exact tieBreakerSet_of_vote (hslot _ rfl) hrun
    | tieBreak clock admin weatherStatus e htie => exact absurd htie (hi clock admin weatherStatus)

/-- The tie breaker's instruction is signed by the tie breaker admin. -/
lemma signer_of_tieBreaker {clock : Clock} {admin : Pubkey} {weatherStatus : UInt8}
    (h : (exec cl (.adminSetTieBreaker clock admin weatherStatus)).run l = .ok () l') :
    l.accounts.config.tieBreakerAdmin = admin :=
  loaded_ensure (p := fun self => self.config.tieBreakerAdmin = admin) h

/-- The instructions on the configuration are signed by the NCN's admin. -/
lemma signer_of_setParameters {ncn admin ncnAdmin : Pubkey} {o₁ o₂ o₃ o₄ : Option ℕ}
    (h : (exec cl (.adminSetParameters ncn admin ncnAdmin o₁ o₂ o₃ o₄)).run l = .ok () l') : admin = ncnAdmin := by
  obtain ⟨_, he, _⟩ := run_zoom_ok.1 h
  obtain ⟨_, _, hg, _⟩ := run_bind_ok.1 he
  exact (run_ensure_ok.1 hg).1

lemma signer_of_setNewAdmin {ncn admin ncnAdmin newAdmin : Pubkey}
    (h : (exec cl (.adminSetNewAdmin ncn admin ncnAdmin newAdmin)).run l = .ok () l') : admin = ncnAdmin := by
  obtain ⟨_, he, _⟩ := run_zoom_ok.1 h
  obtain ⟨_, _, hg, he⟩ := run_bind_ok.1 he
  cases hg
  obtain ⟨_, _, hg, he⟩ := run_bind_ok.1 he
  obtain ⟨_, rfl⟩ := run_ensure_ok.1 hg
  obtain ⟨_, _, hg, _⟩ := run_bind_ok.1 he
  exact (run_ensure_ok.1 hg).1

/-- Setting the weights of the registry. -/
lemma Fair.setWeights {w w' : WeightTable} {slot : ℕ} {mints : List StMintEntry}
    (hmints : ∀ mint ∈ mints, mint ∈ r.stMintList.toList)
    (hw : ∀ entry ∈ w.table.toList, entry.weight = 0 ∨
      ∃ mint ∈ r.stMintList.toList, mint.stMint = entry.stMint ∧ mint.weight = entry.weight)
    (h : (WeightTable.setWeights slot mints).run w = .ok () w') :
    ∀ entry ∈ w'.table.toList, entry.weight = 0 ∨
      ∃ mint ∈ r.stMintList.toList, mint.stMint = entry.stMint ∧ mint.weight = entry.weight := by
  refine WeightTable.setWeights_keeps (I := fun w => ∀ entry ∈ w.table.toList, entry.weight = 0 ∨
    ∃ mint ∈ r.stMintList.toList, mint.stMint = entry.stMint ∧ mint.weight = entry.weight)
    (fun mint hmint w w' hw h => ?_) hw h
  obtain ⟨i, entry, hentry, hkey, rfl⟩ := WeightTable.setWeight_run_ok h
  intro entry' hentry'
  rcases List.mem_or_eq_of_mem_set hentry' with hold | rfl
  · exact hw entry' hold
  · exact .inr ⟨mint, hmints mint hmint, hkey.symm, rfl⟩

end Lifecycle

namespace Ncn
open Lifecycle (Fair)
variable {cl : Cluster} {account : NcnAccount} {c : Call} {s₀ s s' : Ncn} {epoch : ℕ}

/-- An instruction on an epoch that no admin has signed is not about the configuration. -/
lemma setsConfig_of_outsider {i : Lifecycle.Instruction} {tieBreakerAdmin : Pubkey} {l : Lifecycle}
    (hout : Call.ByOutsider tieBreakerAdmin ⟨account, .onEpoch epoch i⟩)
    (hrun : (Lifecycle.exec cl (s.reading account i)).run (s.view epoch) = .ok () l) :
    (s.reading account i).setsConfig = false := by
  cases i with
  | adminSetParameters =>
    have hadmin := Lifecycle.signer_of_setParameters hrun
    exact absurd (.inl hadmin.symm) (hout.not_admin rfl)
  | adminSetNewAdmin =>
    have hadmin := Lifecycle.signer_of_setNewAdmin hrun
    exact absurd (.inl hadmin.symm) (hout.not_admin rfl)
  | _ => rfl

/-- And the epoch stays fair. -/
lemma fair_onEpoch {i : Lifecycle.Instruction} {l : Lifecycle} (hfair : Fair s.vaultRegistry (s.view epoch))
    (hout : Call.ByOutsider s.config.tieBreakerAdmin ⟨account, .onEpoch epoch i⟩) (hslot : ∀ n ∈ i.slot, n < u64Max)
    (hrun : (Lifecycle.exec cl (s.reading account i)).run (s.view epoch) = .ok () l) :
    Fair s.vaultRegistry l := by
  have htie : ∀ clock admin weatherStatus, s.reading account i ≠ .adminSetTieBreaker clock admin weatherStatus := by
    intro clock admin weatherStatus hi
    have hadmin := Lifecycle.signer_of_tieBreaker (hi ▸ hrun)
    cases i with
    | adminSetTieBreaker => cases hi; exact (hout _ rfl).2 hadmin.symm
    | _ => cases hi
  have hconfig := setsConfig_of_outsider hout hrun
  refine ⟨?_, Lifecycle.tieBreakerSet_of_exec hrun (by rwa [slot_reading]) htie hfair.tieBreaker⟩
  cases hweights : (s.reading account i).setsWeights with
  | false =>
    have hf := Lifecycle.exec_framed hrun hconfig hweights
    rw [hf.weightTable]
    exact fun hfilled => hfair.weights (hf.filled hfilled)
  | true =>
    cases i with
    | reallocWeightTable clock bump =>
      obtain hf | ⟨_, _, hw⟩ := Lifecycle.exec_reallocWeightTable hrun
      · rw [hf.weightTable]
        exact fun hfilled => hfair.weights (hf.filled hfilled)
      · intro _ entry hentry
        rw [(WeightTable.initialized_eq_ok hw).1] at hentry
        obtain ⟨mint, _, rfl⟩ := List.mem_map.1 hentry
        exact .inl rfl
    | adminSetWeight =>
      have hadmin := (Lifecycle.exec_adminSetWeight hrun).1
      exact absurd (.inr (.inr hadmin.symm)) (hout.not_admin rfl)
    | setEpochWeights clock =>
      obtain ⟨_, _, hsingle, hw⟩ := Lifecycle.updateWeights_ok hrun
      exact fun hfilled => Fair.setWeights (fun mint hmint => List.mem_of_mem_filter hmint)
        (hfair.weights (hsingle ▸ hfilled)) hw
    | _ => cases hweights

/-- What no outsider can change of an NCN that has its registry, and the epochs that had not begun. -/
structure Untampered (s₀ s : Ncn) : Prop where
  configured : s.configured = s₀.configured
  config : s.config = s₀.config
  registrySlot : s.registrySlot = .initialized
  stMintList : s.vaultRegistry.stMintList = s₀.vaultRegistry.stMintList
  fair : ∀ epoch, (s₀.epochs epoch).Untouched → Fair s.vaultRegistry (s.view epoch)

namespace Untampered

lemma refl (hregistry : s₀.registrySlot = .initialized) : Untampered s₀ s₀ where
  configured := rfl
  config := rfl
  registrySlot := hregistry
  stMintList := rfl
  fair epoch h :=
    ⟨fun hfilled => by (cases hfilled.symm.trans (h.single .weightTable)),
      fun hbox => by (cases hbox.symm.trans (h.single .ballotBox))⟩

/-- The mints of the registry decide what is fair. -/
lemma fair_of_stMintList {r r' : VaultRegistry} {l : Lifecycle} (h : Fair r l)
    (hsame : r'.stMintList = r.stMintList) : Fair r' l :=
  ⟨hsame ▸ h.weights, h.tieBreaker⟩

lemma processOnEpoch {i : Lifecycle.Instruction} (h : Untampered s₀ s)
    (hout : Call.ByOutsider s₀.config.tieBreakerAdmin ⟨account, .onEpoch epoch i⟩)
    (hslot : ∀ n ∈ i.slot, n < u64Max) (hrun : (processOnEpoch cl account epoch i).run s = .ok () s') :
    Untampered s₀ s' := by
  obtain ⟨_, _, l, hl, rfl⟩ := processOnEpoch_ok.1 hrun
  have hconfig := setsConfig_of_outsider hout hl
  obtain ⟨hepoch, hsame⟩ := Lifecycle.exec_shared hl hconfig
  refine { h with config := Eq.trans hsame h.config, fair := fun e he => ?_ }
  by_cases hv : e = epoch
  · subst hv
    rw [view_put s e hepoch]
    have hfair : Fair s.vaultRegistry l := fair_onEpoch (h.fair e he) (by rwa [h.config]) hslot hl
    exact hfair
  · rw [view_put_ne hv l hsame]
    exact h.fair e he

lemma emptyEpochState {victim : ℕ} (h : Untampered s₀ s) (hrun : (emptyEpochState victim).run s = .ok () s') :
    Untampered s₀ s' := by
  have hsame := accounts_emptyEpochState hrun
  obtain ⟨_, rfl⟩ := emptyEpochState_ok.1 hrun
  refine { h with fair := fun e he => ?_ }
  obtain ⟨haccounts, hsingle⟩ := hsame e
  have hfair := h.fair e he
  constructor
  case weights => rw [haccounts, hsingle]; exact hfair.weights
  case tieBreaker => rw [haccounts, hsingle]; exact hfair.tieBreaker

/-- The instructions on the registry leave its mints alone, unless the admin has signed. -/
lemma registers (h : Untampered s₀ s) (hout : Call.ByOutsider s₀.config.tieBreakerAdmin c)
    (hregisters : Registers c s s') : Untampered s₀ s' := by
  cases hregisters with
  | allocate hslot => cases hslot.symm.trans h.registrySlot
  | grow _ _ hslot | fill _ _ hslot => cases hslot.symm.trans h.registrySlot
  | idle _ hs' => subst hs'; exact h
  | registerVault clock vault supportedMint vaultIndex r _ _ hrun hs' =>
    subst hs'
    have hsame : r.stMintList = s.vaultRegistry.stMintList := by
      obtain ⟨_, hrun⟩ := VaultRegistry.processRegisterVault_run_ok hrun
      obtain ⟨_, rfl⟩ | ⟨_, _, _, rfl⟩ := VaultRegistry.registerVault_run_ok hrun <;> rfl
    exact { h with
      stMintList := hsame.trans h.stMintList
      fair := fun e he => fair_of_stMintList (h.fair e he) hsame }
  | registerStMint admin stMint weight r hc hadmin | setStMint admin stMint weight r hc hadmin =>
    exact absurd (.inr (.inl hadmin.symm)) (hout.not_admin (by rw [hc]; rfl))

/-- No outsider's call changes it. -/
lemma exec (h : Untampered s₀ s) (hout : Call.ByOutsider s₀.config.tieBreakerAdmin c)
    (hslot : ∀ n ∈ c.instruction.slot, n < u64Max) (hrun : (exec cl c).run s = .ok () s') : Untampered s₀ s' := by
  refine exec_keeps hrun h (fun hr => h.registers hout hr) (fun config _ hcreated => ?_)
    (fun epoch i hslots hsigner h hrun => ?_) fun h hrun => h.emptyEpochState hrun
  · obtain ⟨_, _, _, _, _, _, _, _, _, hc, hconfig⟩ := hcreated
    have hadmin := (Config.processAdminInitializeConfig_ok hconfig).1
    exact absurd (.inl hadmin.symm) (hout.not_admin (by rw [hc]; rfl))
  · exact h.processOnEpoch (fun k hk => hout k (hsigner ▸ hk)) (fun n hn => hslot n (hslots n hn)) hrun

end Untampered

/-- Calls that no admin has signed, as many as there are and in whatever order, leave the configuration and the mints
of the registry with their weights as they are, and in every epoch that begins with them, the weights are those of the
registry and no tie breaker is set. -/
theorem outsiders_cannot_tamper {calls : List Call} (hrun : (calls.forM (exec cl)).run s₀ = .ok () s)
    (hregistry : s₀.registrySlot = .initialized)
    (hout : ∀ c ∈ calls, c.ByOutsider s₀.config.tieBreakerAdmin)
    (hslots : ∀ c ∈ calls, ∀ n ∈ c.instruction.slot, n < u64Max) :
    s.configured = s₀.configured ∧ s.config = s₀.config ∧
      s.vaultRegistry.stMintList = s₀.vaultRegistry.stMintList ∧
      ∀ epoch, (s₀.epochs epoch).Untouched → Fair s.vaultRegistry (s.view epoch) := by
  have h : Untampered s₀ s := by
    refine forM_invariant (J := fun cs s => (∀ c ∈ cs, c.ByOutsider s₀.config.tieBreakerAdmin ∧
      ∀ n ∈ c.instruction.slot, n < u64Max) → Untampered s₀ s) (fun cs c s s' ih hc hall => ?_)
      (fun _ => .refl hregistry) hrun fun c hc => ⟨hout c hc, hslots c hc⟩
    obtain ⟨hout, hslot⟩ := hall c (by simp)
    exact (ih fun c hc => hall c (by simp [hc])).exec hout hslot hc
  exact ⟨h.configured, h.config, h.stMintList, h.fair⟩

/-- The epochs of the small NCN, which its admin has no part in. -/
theorem outsiders_cannot_tamper_small :
    ∃ s₀ s : Ncn, s.config = s₀.config ∧ (s.view 1).accounts.weightTable.finalized = true ∧
      Fair s.vaultRegistry (s.view 1) := by
  let x := smallSetup.forM (exec Lifecycle.smallCluster)
  let y := smallEpochs.forM (exec Lifecycle.smallCluster)
  let s₀ := commit x small
  let s := commit y s₀
  have hy : y.run s₀ = .ok () s := Succeeds.run_eq (by decide +kernel)
  have hstate : s₀.registrySlot = .initialized ∧ (s.view 1).accounts.weightTable.finalized = true ∧
      s₀.config.tieBreakerAdmin = 5 := by decide +kernel
  have hepochs : s₀.epochs = fun _ => .small := rfl
  have hout : ∀ c ∈ smallEpochs, c.ByOutsider 5 := by
    simp [smallEpochs, smallCalls, Call.ByOutsider, Instruction.adminSigner]
  have hslots : ∀ c ∈ smallEpochs, ∀ n ∈ c.instruction.slot, n < u64Max := by decide +kernel
  clear_value s s₀
  obtain ⟨hregistry, hfinal, hadmin⟩ := hstate
  obtain ⟨_, hconfig, _, hfair⟩ := outsiders_cannot_tamper hy hregistry (hadmin ▸ hout) hslots
  exact ⟨s₀, s, hconfig, hfinal, hfair 1 (by rw [hepochs]; exact Lifecycle.small_untouched)⟩

end Ncn
end NcnProgram
