import NcnProgram.Ncn.Frame
import NcnProgram.Program.Ncn

/-!
# The epochs of an NCN

Several epochs of an NCN are live at a time, and their instructions interleave with each other's and with those on the
configuration and the registry. Seen from one epoch, each of them is an instruction on that epoch or nothing at all
(`Ncn.Seen`), with the exception of a call that names another epoch and empties the state of this one. So every run
on the NCN is a run on each of its epochs that is not emptied like this, and what the others do can be left out. An
epoch that is emptied takes one more kind of step.
-/

namespace NcnProgram
open Lib NCNProgramError

/-- What a new configuration is made of. -/
lemma Config.processAdminInitializeConfig_ok {math : PreciseMath} {clock : Clock} {ncn ncnFeeWallet admin ncnAdmin
    tieBreakerAdmin : Pubkey} {bump : UInt8} {stall close valid bps : ℕ} {c : Config}
    (h : processAdminInitializeConfig math clock ncn ncnFeeWallet admin ncnAdmin tieBreakerAdmin bump stall close
      valid bps = .ok c) :
    admin = ncnAdmin ∧ ∃ feeConfig, FeeConfig.new math ncnFeeWallet bps clock.epoch = .ok feeConfig ∧
      c = .new ncn tieBreakerAdmin clock.epoch valid stall close feeConfig bump := by
  obtain ⟨_, _, h⟩ := bind_ok.1 h
  obtain ⟨_, _, h⟩ := bind_ok.1 h
  obtain ⟨_, _, h⟩ := bind_ok.1 h
  split at h
  · cases h
  · rename_i hadmin
    obtain ⟨feeConfig, hfees, h⟩ := bind_ok.1 h
    obtain ⟨_, _, h⟩ := bind_ok.1 h
    cases h
    exact ⟨not_not.1 hadmin, feeConfig, hfees, rfl⟩

/-- An instruction on the data that begins with a check passes it. -/
lemma Lifecycle.loaded_ensure {ks : List Single} {p : Epoch → Prop} [DecidablePred p] {e : ProgramError}
    {x : Epoch → Mut Epoch Unit} {l l' : Lifecycle} {u : Unit}
    (h : (loaded ks (do let self ← get; ensure (p self) e; x self)).run l = .ok u l') : p l.accounts := by
  obtain ⟨_, _, _, he, _⟩ := loaded_ok h
  obtain ⟨_, _, hg, he⟩ := run_bind_ok.1 he
  cases hg
  obtain ⟨_, _, hg, _⟩ := run_bind_ok.1 he
  exact (run_ensure_ok.1 hg).1

namespace Ncn
variable {cl : Cluster} {account : NcnAccount} {c : Call} {s s' t : Ncn} {u : Unit} {epoch : ℕ}

/-! ## One epoch -/

/-- What is put back of an epoch is seen. -/
lemma view_put (s : Ncn) (epoch : ℕ) {l : Lifecycle} (h : l.epoch = epoch) : (s.put epoch l).view epoch = l := by
  subst h
  simp only [view, put, Function.update_self]

/-- Another epoch is not, where the configuration stays. -/
lemma view_put_ne {e : ℕ} (he : epoch ≠ e) (l : Lifecycle) (h : l.accounts.config = s.config) :
    (s.put e l).view epoch = s.view epoch := by
  simp only [view, put, Function.update_of_ne he, h]

/-- Otherwise it gets the configuration. -/
lemma view_put_of_ne {e : ℕ} (he : epoch ≠ e) (l : Lifecycle) :
    (s.put e l).view epoch =
      { s.view epoch with accounts := { (s.view epoch).accounts with config := l.accounts.config } } := by
  simp only [view, put, Function.update_of_ne he]

/-- The configuration is seen from every epoch. -/
lemma view_put_config (s : Ncn) (epoch e : ℕ) (config : Config) :
    (s.put e { s.view e with accounts := { (s.view e).accounts with config } }).view epoch =
      { s.view epoch with accounts := { (s.view epoch).accounts with config } } := by
  by_cases he : epoch = e
  · subst he
    exact view_put s epoch rfl
  · simp only [view, put, Function.update_of_ne he]

/-- The configuration is loaded exactly if it is there. -/
lemma loadConfig_ok : loadConfig.run s = .ok u s' ↔ s.configured = true ∧ s = s' := by
  constructor
  · intro h
    obtain ⟨_, _, hg, h⟩ := run_bind_ok.1 h
    cases hg
    exact run_ensure_ok.1 h
  · rintro ⟨h, rfl⟩
    exact run_bind_ok.2 ⟨s, s, rfl, run_ensure_ok.2 ⟨h, rfl⟩⟩

/-- The registry is loaded exactly if it is there with its data. -/
lemma loadVaultRegistry_ok : loadVaultRegistry.run s = .ok u s' ↔ s.registrySlot = .initialized ∧ s = s' := by
  constructor
  · intro h
    obtain ⟨_, _, hg, h⟩ := run_bind_ok.1 h
    cases hg
    cases hslot : s.registrySlot with
    | absent | allocated =>
      simp only [hslot] at h
      cases h
    | initialized =>
      simp only [hslot] at h
      cases h
      exact ⟨rfl, rfl⟩
  · rintro ⟨hslot, rfl⟩
    refine run_bind_ok.2 ⟨s, s, rfl, ?_⟩
    simp only [hslot]
    rfl

/-- What an instruction does not load need not be there. -/
lemma loadIf_ok {loads : Bool} {load : Mut Ncn Unit} {p : Prop} (hload : load.run s = .ok u s' ↔ p ∧ s = s') :
    (loadIf loads load).run s = .ok u s' ↔ (loads = true → p) ∧ s = s' := by
  cases loads with
  | true => simpa [loadIf] using hload
  | false =>
    constructor
    · intro h; cases h; exact ⟨fun h => (by cases h), rfl⟩
    · rintro ⟨_, rfl⟩; rfl

/-- An instruction on an epoch runs on its accounts, if what it loads is there. -/
lemma processOnEpoch_ok {i : Lifecycle.Instruction} : (processOnEpoch cl account epoch i).run s = .ok u s' ↔
    (loadsConfig i = true → s.configured = true) ∧
      (loadsVaultRegistry i = true → s.registrySlot = .initialized) ∧
      ∃ l, (Lifecycle.exec cl (s.reading account i)).run (s.view epoch) = .ok u l ∧ s' = s.put epoch l := by
  constructor
  · intro h
    obtain ⟨_, _, hg, h⟩ := run_bind_ok.1 h
    obtain ⟨hconfig, rfl⟩ := (loadIf_ok loadConfig_ok).1 hg
    obtain ⟨_, _, hg, h⟩ := run_bind_ok.1 h
    obtain ⟨hregistry, rfl⟩ := (loadIf_ok loadVaultRegistry_ok).1 hg
    obtain ⟨_, _, hg, h⟩ := run_bind_ok.1 h
    cases hg
    exact ⟨hconfig, hregistry, run_zoom_ok.1 h⟩
  · rintro ⟨hconfig, hregistry, hrun⟩
    refine run_bind_ok.2 ⟨(), s, (loadIf_ok loadConfig_ok).2 ⟨hconfig, rfl⟩, ?_⟩
    refine run_bind_ok.2 ⟨(), s, (loadIf_ok loadVaultRegistry_ok).2 ⟨hregistry, rfl⟩, ?_⟩
    exact run_bind_ok.2 ⟨s, s, rfl, run_zoom_ok.2 hrun⟩

/-- Reading the registry does not change whether an instruction sets the configuration. -/
lemma setsConfig_reading (i : Lifecycle.Instruction) : (s.reading account i).setsConfig = i.setsConfig := by
  cases i <;> rfl

/-- Nor does it change the slot. -/
lemma slot_reading (i : Lifecycle.Instruction) : (s.reading account i).slot = i.slot := by
  cases i <;> rfl

/-- Nor whether the configuration is loaded. -/
lemma loadsConfig_reading (i : Lifecycle.Instruction) : loadsConfig (s.reading account i) = loadsConfig i := by
  cases i <;> rfl

/-- An instruction on another epoch that leaves the configuration alone is not seen. -/
lemma processOnEpoch_other {e : ℕ} {i : Lifecycle.Instruction} (he : epoch ≠ e) (hi : i.setsConfig = false)
    (h : (processOnEpoch cl account e i).run s = .ok u s') :
    s'.view epoch = s.view epoch ∧ s'.configured = s.configured := by
  obtain ⟨_, _, l, hl, rfl⟩ := processOnEpoch_ok.1 h
  obtain ⟨_, hsame⟩ := Lifecycle.exec_shared hl (by rwa [setsConfig_reading])
  exact ⟨view_put_ne he l hsame, rfl⟩

/-- A state that is there can be emptied, and nothing else happens. -/
lemma emptyEpochState_ok {victim : ℕ} : (emptyEpochState victim).run s = .ok u s' ↔
    (s.epochs victim).epochState = true ∧
      s' = { s with
        epochs := Function.update s.epochs victim { s.epochs victim with epochState := false } } := by
  constructor
  · intro h
    obtain ⟨_, _, hg, h⟩ := run_bind_ok.1 h
    cases hg
    obtain ⟨_, _, hg, h⟩ := run_bind_ok.1 h
    obtain ⟨hlive, rfl⟩ := run_ensure_ok.1 hg
    cases h
    exact ⟨hlive, rfl⟩
  · rintro ⟨hlive, rfl⟩
    exact run_bind_ok.2 ⟨s, s, rfl, run_bind_ok.2 ⟨(), s, run_ensure_ok.2 ⟨hlive, rfl⟩, rfl⟩⟩

/-- A call that closes the state of an epoch it does not name runs on the epoch that it names, if there is one, and
then empties the other. -/
lemma processCloseOtherEpochState_ok {clock : Clock} {named : Option ℕ} {victim : ℕ}
    (h : (processCloseOtherEpochState cl account clock named victim).run s = .ok () s') :
    named = some victim ∧
        (processOnEpoch cl account victim (.closeEpochAccount clock .epochState)).run s = .ok () s' ∨
      named ≠ some victim ∧ ∃ s₁, (s₁ = s ∨ ∃ e, named = some e ∧
        (processOnEpoch cl account e (.closeEpochAccount clock .otherEpochState)).run s = .ok () s₁) ∧
        (emptyEpochState victim).run s₁ = .ok () s' := by
  cases named with
  | none => exact .inr ⟨by simp, s, .inl rfl, h⟩
  | some e =>
    change (ite (e = victim) _ _ : Mut Ncn Unit).run s = _ at h
    split at h
    case isTrue he => exact .inl ⟨congrArg some he, he ▸ h⟩
    case isFalse he =>
      obtain ⟨_, s₁, hg, h⟩ := run_bind_ok.1 h
      exact .inr ⟨by simpa using he, s₁, .inr ⟨e, rfl, hg⟩, h⟩

/-- Emptying the state of one epoch is not seen from another. -/
lemma view_emptyEpochState {victim : ℕ} (hne : epoch ≠ victim) (h : (emptyEpochState victim).run s = .ok u s') :
    s'.view epoch = s.view epoch := by
  obtain ⟨_, rfl⟩ := emptyEpochState_ok.1 h
  simp only [view, Function.update_of_ne hne]

/-- From the epoch itself it is. -/
lemma emptied_emptyEpochState (h : (emptyEpochState epoch).run s = .ok u s') :
    Lifecycle.Emptied (s.view epoch) (s'.view epoch) ∧ s'.configured = s.configured := by
  obtain ⟨hlive, rfl⟩ := emptyEpochState_ok.1 h
  exact ⟨⟨hlive, by simp only [view, Function.update_self]⟩, rfl⟩

/-- No other account changes. -/
lemma accounts_emptyEpochState {victim : ℕ} (h : (emptyEpochState victim).run s = .ok u s') (epoch : ℕ) :
    (s'.view epoch).accounts = (s.view epoch).accounts ∧ (s'.view epoch).single = (s.view epoch).single := by
  by_cases he : epoch = victim
  · obtain ⟨_, rfl⟩ := emptyEpochState_ok.1 h
    subst he
    simp only [view, Function.update_self, and_self]
  · rw [view_emptyEpochState he h]
    exact ⟨rfl, rfl⟩

/-! ## The configuration and the registry -/

/-- The configuration is created once. -/
lemma processAdminInitializeConfig_ok {clock : Clock} {ncnFeeWallet ncnAdmin tieBreakerAdmin : Pubkey} {bump : UInt8}
    {stall close valid bps : ℕ} (h : (processAdminInitializeConfig cl account clock ncnFeeWallet ncnAdmin
      tieBreakerAdmin bump stall close valid bps).run s = .ok u s') :
    s.configured = false ∧ ∃ config, Config.processAdminInitializeConfig cl.math clock s.ncn ncnFeeWallet
        account.admin ncnAdmin tieBreakerAdmin bump stall close valid bps = .ok config ∧
      s' = { s with configured := true, config } := by
  obtain ⟨_, _, hg, h⟩ := run_bind_ok.1 h
  cases hg
  obtain ⟨_, _, hg, h⟩ := run_bind_ok.1 h
  obtain ⟨hnew, rfl⟩ := run_ensure_ok.1 hg
  obtain ⟨config, _, hg, h⟩ := run_bind_ok.1 h
  obtain ⟨hconfig, rfl⟩ := run_ofExcept_ok.1 hg
  cases h
  exact ⟨hnew, config, hconfig, rfl⟩

/-- The configuration that a call creates. -/
def Created (math : PreciseMath) (c : Call) (s : Ncn) (config : Config) : Prop :=
  ∃ clock ncnFeeWallet ncnAdmin tieBreakerAdmin bump stall close valid bps,
    c.instruction = .adminInitializeConfig clock ncnFeeWallet ncnAdmin tieBreakerAdmin bump stall close valid bps ∧
      Config.processAdminInitializeConfig math clock s.ncn ncnFeeWallet c.account.admin ncnAdmin tieBreakerAdmin bump
        stall close valid bps = .ok config

/-- A change of the vault registry: it is allocated, grows, gets its data, or has a method run on it. -/
inductive Registers (c : Call) (s s' : Ncn) : Prop
  | allocate : s.registrySlot = .absent → s' = { s with registrySlot := .allocated maxReallocBytes } →
      Registers c s s'
  | grow (dataLen newSize : ℕ) : s.registrySlot = .allocated dataLen →
      s' = { s with registrySlot := .allocated newSize } → Registers c s s'
  | fill (dataLen : ℕ) (bump : UInt8) : s.registrySlot = .allocated dataLen →
      s' = { s with registrySlot := .initialized, vaultRegistry := .new s.ncn bump } → Registers c s s'
  | idle : s.registrySlot = .initialized → s' = s → Registers c s s'
  | registerVault (clock : Clock) (vault supportedMint : Pubkey) (vaultIndex : ℕ) (r : VaultRegistry) :
      c.instruction = .registerVault clock vault supportedMint vaultIndex → s.registrySlot = .initialized →
      (VaultRegistry.processRegisterVault clock vault supportedMint vaultIndex).run s.vaultRegistry = .ok () r →
      s' = { s with vaultRegistry := r } → Registers c s s'
  | registerStMint (admin stMint : Pubkey) (weight : Option ℕ) (r : VaultRegistry) :
      c.instruction = .adminRegisterStMint admin stMint weight → c.account.ncnProgramAdmin = admin →
      s.registrySlot = .initialized →
      (VaultRegistry.registerStMint stMint (weight.getD 0)).run s.vaultRegistry = .ok () r →
      s' = { s with vaultRegistry := r } → Registers c s s'
  | setStMint (admin stMint : Pubkey) (weight : Option ℕ) (r : VaultRegistry) :
      c.instruction = .adminSetStMint admin stMint weight → c.account.ncnProgramAdmin = admin →
      s.registrySlot = .initialized →
      (VaultRegistry.setStMint stMint weight).run s.vaultRegistry = .ok () r →
      s' = { s with vaultRegistry := r } → Registers c s s'

/-- The instructions on the registry. -/
def Instruction.onRegistry : Instruction → Bool
  | .initializeVaultRegistry | .reallocVaultRegistry .. | .registerVault .. | .adminRegisterStMint ..
  | .adminSetStMint .. => true
  | _ => false

/-- A method that is run on the registry finds it there. -/
lemma onVaultRegistry_ok {x : Mut VaultRegistry Unit}
    (h : (do loadConfig; loadVaultRegistry; onVaultRegistry x : Mut Ncn Unit).run s = .ok u s') :
    s.configured = true ∧ s.registrySlot = .initialized ∧
      ∃ r, x.run s.vaultRegistry = .ok u r ∧ s' = { s with vaultRegistry := r } := by
  obtain ⟨_, _, hg, h⟩ := run_bind_ok.1 h
  obtain ⟨hconfig, rfl⟩ := loadConfig_ok.1 hg
  obtain ⟨_, _, hg, h⟩ := run_bind_ok.1 h
  obtain ⟨hslot, rfl⟩ := loadVaultRegistry_ok.1 hg
  exact ⟨hconfig, hslot, run_zoom_ok.1 h⟩

/-- So does a method of the NCN's program admin. -/
lemma admin_onVaultRegistry_ok {admin : Pubkey} {x : Mut VaultRegistry Unit}
    (h : (do
      loadConfig
      loadVaultRegistry
      ensure (account.ncnProgramAdmin = admin) ProgramError.invalidAccountData
      onVaultRegistry x : Mut Ncn Unit).run s = .ok u s') :
    account.ncnProgramAdmin = admin ∧ s.configured = true ∧ s.registrySlot = .initialized ∧
      ∃ r, x.run s.vaultRegistry = .ok u r ∧ s' = { s with vaultRegistry := r } := by
  obtain ⟨_, _, hg, h⟩ := run_bind_ok.1 h
  obtain ⟨hconfig, rfl⟩ := loadConfig_ok.1 hg
  obtain ⟨_, _, hg, h⟩ := run_bind_ok.1 h
  obtain ⟨hslot, rfl⟩ := loadVaultRegistry_ok.1 hg
  obtain ⟨_, _, hg, h⟩ := run_bind_ok.1 h
  obtain ⟨hadmin, rfl⟩ := run_ensure_ok.1 hg
  exact ⟨hadmin, hconfig, hslot, run_zoom_ok.1 h⟩

/-- Growing the registry. -/
lemma processReallocVaultRegistry_ok {bump : UInt8} (h : (processReallocVaultRegistry bump).run s = .ok u s') :
    s.configured = true ∧ Registers c s s' := by
  obtain ⟨_, _, hg, h⟩ := run_bind_ok.1 h
  obtain ⟨hconfig, rfl⟩ := loadConfig_ok.1 hg
  refine ⟨hconfig, ?_⟩
  obtain ⟨_, _, hg, h⟩ := run_bind_ok.1 h
  cases hg
  cases hslot : s.registrySlot with
  | absent => rw [hslot] at h; cases h
  | initialized => rw [hslot] at h; cases h; exact .idle hslot rfl
  | allocated dataLen =>
    rw [hslot] at h
    obtain ⟨newSize, _, hg, h⟩ := run_bind_ok.1 h
    obtain ⟨_, rfl⟩ := run_ofExcept_ok.1 hg
    split at h
    · cases h; exact .fill dataLen bump hslot rfl
    · cases h; exact .grow dataLen newSize hslot rfl

/-- An instruction on the registry finds the configuration there. -/
lemma exec_registers (h : (exec cl c).run s = .ok () s') (hregistry : c.instruction.onRegistry = true) :
    s.configured = true ∧ Registers c s s' := by
  obtain ⟨account, instruction⟩ := c
  cases instruction with
  | initializeVaultRegistry =>
    obtain ⟨_, _, hg, h⟩ := run_bind_ok.1 h
    cases hg
    obtain ⟨_, _, hg, h⟩ := run_bind_ok.1 h
    obtain ⟨hslot, rfl⟩ := run_ensure_ok.1 hg
    obtain ⟨_, _, hg, h⟩ := run_bind_ok.1 h
    obtain ⟨hconfig, rfl⟩ := loadConfig_ok.1 hg
    cases h
    exact ⟨hconfig, .allocate hslot rfl⟩
  | reallocVaultRegistry => exact processReallocVaultRegistry_ok h
  | registerVault clock vault supportedMint vaultIndex =>
    obtain ⟨hconfig, hslot, r, hr, hs'⟩ := onVaultRegistry_ok h
    exact ⟨hconfig, .registerVault clock vault supportedMint vaultIndex r rfl hslot hr hs'⟩
  | adminRegisterStMint admin stMint weight =>
    obtain ⟨hadmin, hconfig, hslot, r, hr, hs'⟩ := admin_onVaultRegistry_ok h
    exact ⟨hconfig, .registerStMint admin stMint weight r rfl hadmin hslot hr hs'⟩
  | adminSetStMint admin stMint weight =>
    obtain ⟨hadmin, hconfig, hslot, r, hr, hs'⟩ := admin_onVaultRegistry_ok h
    exact ⟨hconfig, .setStMint admin stMint weight r rfl hadmin hslot hr hs'⟩
  | _ => cases hregistry

/-- It is not seen from the epochs. -/
lemma Registers.view (h : Registers c s s') (epoch : ℕ) :
    s'.view epoch = s.view epoch ∧ s'.configured = s.configured ∧ s'.ncn = s.ncn := by
  cases h with
  | allocate _ hs' | grow _ _ _ hs' | fill _ _ _ hs' | idle _ hs' | registerVault _ _ _ _ _ _ _ _ hs'
  | registerStMint _ _ _ _ _ _ _ _ hs' | setStMint _ _ _ _ _ _ _ _ hs' =>
    subst hs'
    exact ⟨rfl, rfl, rfl⟩

/-- What a call keeps: there are those on the registry, the one that creates the configuration, and those that run on
an epoch or empty one. -/
lemma exec_keeps {J : Ncn → Prop} (h : (exec cl c).run s = .ok () s') (hs : J s) (hregisters : Registers c s s' → J s')
    (hconfig : ∀ config, s.configured = false → Created cl.math c s config →
      J { s with configured := true, config })
    (honEpoch : ∀ {s s' : Ncn} (epoch : ℕ) (i : Lifecycle.Instruction), (∀ n ∈ i.slot, n ∈ c.instruction.slot) →
      (Instruction.onEpoch epoch i).adminSigner = c.instruction.adminSigner → J s →
      (processOnEpoch cl c.account epoch i).run s = .ok () s' → J s')
    (hempty : ∀ {s s' : Ncn} {victim : ℕ}, J s → (emptyEpochState victim).run s = .ok () s' → J s') : J s' := by
  cases hregistry : c.instruction.onRegistry with
  | true => exact hregisters (exec_registers h hregistry).2
  | false =>
    obtain ⟨account, instruction⟩ := c
    cases instruction with
    | adminInitializeConfig =>
      obtain ⟨hnew, config, hcreated, rfl⟩ := processAdminInitializeConfig_ok h
      exact hconfig config hnew ⟨_, _, _, _, _, _, _, _, _, rfl, hcreated⟩
    | onEpoch epoch i => exact honEpoch epoch i (fun _ hn => hn) rfl hs h
    | closeOtherEpochState clock named victim =>
      obtain ⟨_, h⟩ | ⟨_, s₁, hs₁, h⟩ := processCloseOtherEpochState_ok h
      · exact honEpoch victim (.closeEpochAccount clock .epochState) (fun _ hn => hn) rfl hs h
      · have h₁ : J s₁ := by
          obtain rfl | ⟨e, _, hs₁⟩ := hs₁
          · exact hs
          · exact honEpoch e (.closeEpochAccount clock .otherEpochState) (fun _ hn => hn) rfl hs hs₁
        exact hempty h₁ h
    | _ => cases hregistry

/-! ## What is seen from an epoch -/

/-- What an epoch sees of a call. -/
inductive Seen (cl : Cluster) (c : Call) (epoch : ℕ) (s s' : Ncn) : Prop
  | idle : s'.view epoch = s.view epoch → s'.configured = s.configured → Seen cl c epoch s s'
  | step (i : Lifecycle.Instruction) : (∀ n ∈ i.slot, n ∈ c.instruction.slot) →
      (loadsConfig i = true → s.configured = true) →
      (Lifecycle.exec cl i).run (s.view epoch) = .ok () (s'.view epoch) → s'.configured = s.configured →
      Seen cl c epoch s s'
  | configured (config : Config) : s.configured = false → s'.configured = true →
      s'.view epoch = { s.view epoch with accounts := { (s.view epoch).accounts with config } } →
      Seen cl c epoch s s'
  | emptied : c.instruction.empties epoch = true → Lifecycle.Emptied (s.view epoch) (s'.view epoch) →
      s'.configured = s.configured → Seen cl c epoch s s'

/-- An instruction on an epoch is seen there, and elsewhere only if it is about the configuration. -/
lemma processOnEpoch_seen {e : ℕ} {i : Lifecycle.Instruction} (hslot : ∀ n ∈ i.slot, n ∈ c.instruction.slot)
    (h : (processOnEpoch cl account e i).run s = .ok () s') : Seen cl c epoch s s' := by
  obtain ⟨hconfig, _, l, hl, rfl⟩ := processOnEpoch_ok.1 h
  have hslot : ∀ n ∈ (s.reading account i).slot, n ∈ c.instruction.slot := by rwa [slot_reading]
  have hconfig : loadsConfig (s.reading account i) = true → s.configured = true := by
    rwa [loadsConfig_reading]
  cases hsets : (s.reading account i).setsConfig with
  | true =>
    obtain ⟨config, rfl, hall⟩ := Lifecycle.exec_setsConfig hl hsets
    refine .step _ hslot hconfig ?_ rfl
    rw [hall (s.view epoch) rfl, view_put_config]
  | false =>
    obtain ⟨hepoch, hsame⟩ := Lifecycle.exec_shared hl hsets
    by_cases he : epoch = e
    · subst he
      exact .step _ hslot hconfig (by rw [view_put s epoch hepoch]; exact hl) rfl
    · exact .idle (view_put_ne he l hsame) rfl

/-- What is seen of a call does not change when something else does. -/
lemma Seen.of_view {s₁ : Ncn} (h : Seen cl c epoch s s₁) (hview : s'.view epoch = s₁.view epoch)
    (hconfigured : s'.configured = s₁.configured) : Seen cl c epoch s s' := by
  cases h with
  | idle hidle hc => exact .idle (hview.trans hidle) (hconfigured.trans hc)
  | step i hslot hloads hrun hc => exact .step i hslot hloads (hview ▸ hrun) (hconfigured.trans hc)
  | configured config hold hnew hv => exact .configured config hold (hconfigured.trans hnew) (hview.trans hv)
  | emptied h hemptied hc =>
    exact .emptied h (hview ▸ hemptied) (hconfigured.trans hc)

/-- What each epoch sees of a successful call. -/
lemma exec_seen (h : (exec cl c).run s = .ok () s') (epoch : ℕ) : Seen cl c epoch s s' := by
  cases hregistry : c.instruction.onRegistry with
  | true =>
    obtain ⟨hview, hconfigured, _⟩ := (exec_registers h hregistry).2.view epoch
    exact .idle hview hconfigured
  | false =>
    obtain ⟨account, instruction⟩ := c
    cases instruction with
    | adminInitializeConfig =>
      obtain ⟨hnew, config, _, rfl⟩ := processAdminInitializeConfig_ok h
      exact .configured config hnew rfl rfl
    | onEpoch e i => exact processOnEpoch_seen (fun _ hn => hn) h
    | closeOtherEpochState clock named victim =>
      by_cases he : epoch = victim ∧ named ≠ some epoch
      · obtain ⟨rfl, hne⟩ := he
        have hempties : Instruction.empties epoch (.closeOtherEpochState clock named epoch) = true := by
          simpa [Instruction.empties] using hne
        obtain ⟨hsame, _⟩ | ⟨_, s₁, hs₁, h⟩ := processCloseOtherEpochState_ok h
        · exact absurd hsame hne
        · obtain ⟨hview, hconfigured⟩ : s₁.view epoch = s.view epoch ∧ s₁.configured = s.configured := by
            obtain rfl | ⟨e, rfl, hs₁⟩ := hs₁
            · exact ⟨rfl, rfl⟩
            · exact processOnEpoch_other (fun he => hne (congrArg some he.symm)) rfl hs₁
          obtain ⟨hemptied, hsame⟩ := emptied_emptyEpochState h
          exact .emptied hempties (hview ▸ hemptied) (hsame.trans hconfigured)
      · obtain ⟨rfl, h⟩ | ⟨hnamed, s₁, hs₁, h⟩ := processCloseOtherEpochState_ok h
        · exact processOnEpoch_seen (i := .closeEpochAccount clock .epochState) (fun _ hn => hn) h
        · have hseen : Seen cl ⟨account, .closeOtherEpochState clock named victim⟩ epoch s s₁ := by
            obtain rfl | ⟨e, _, hs₁⟩ := hs₁
            · exact .idle rfl rfl
            · exact processOnEpoch_seen (i := .closeEpochAccount clock .otherEpochState) (fun _ hn => hn) hs₁
          have hview := view_emptyEpochState (fun h => he ⟨h, h ▸ hnamed⟩) h
          obtain ⟨_, rfl⟩ := emptyEpochState_ok.1 h
          exact hseen.of_view hview rfl
    | _ => cases hregistry

/-! ## Every epoch lives its own life -/

/-- Without a configuration nothing of an epoch is created. -/
lemma untouched_of_exec {l l' : Lifecycle} {i : Lifecycle.Instruction} (hl : l.Untouched)
    (hi : loadsConfig i = false) (h : (Lifecycle.exec cl i).run l = .ok () l') : l'.Untouched := by
  have hloaded : ∀ {ks : List Single} {x : Mut Epoch Unit}, (Lifecycle.loaded ks x).run l = .ok () l' → False := by
    intro ks x h
    cases (Lifecycle.loaded_ok h).1.symm.trans hl.epochState
  cases i with
  | initializeWeightTable =>
    obtain ⟨_, _, hg, _⟩ := run_bind_ok.1 h
    cases (Lifecycle.loadAndCheckIsClosing_ok hg).1.symm.trans hl.epochState
  | initializeNcnRewardRouter =>
    obtain ⟨_, _, hg, _⟩ := run_bind_ok.1 h
    cases (Lifecycle.loadAndCheckIsClosing_ok hg).1.symm.trans hl.epochState
  | initializeOperatorVaultRewardRouter =>
    obtain ⟨_, _, hg, _⟩ := run_bind_ok.1 h
    cases (Lifecycle.loadAndCheckIsClosing_ok hg).1.symm.trans hl.epochState
  | adminSetWeight => exact (hloaded h).elim
  | setEpochWeights => exact (hloaded h).elim
  | routeOperatorVaultRewards => exact (hloaded h).elim
  | depositNcn | depositOperatorVault => cases h; exact { hl with }
  | _ => cases hi

/-- What is known of an epoch: before the NCN has a configuration nothing of it is there, and from then on it is a
state that steps of the given kind lead to. -/
def Lives (step : Lifecycle → Lifecycle → Prop) (epoch : ℕ) (s : Ncn) : Prop :=
  if s.configured then ∃ l₀ : Lifecycle, l₀.Untouched ∧ Run step l₀ (s.view epoch) else (s.view epoch).Untouched

variable {step : Lifecycle → Lifecycle → Prop}

/-- A call is seen as nothing or as one more step. -/
lemma Seen.lives (h : Seen cl c epoch s s') (hs : Lives step epoch s)
    (hstep : ∀ i l l', (∀ n ∈ i.slot, n ∈ c.instruction.slot) → (Lifecycle.exec cl i).run l = .ok () l' → step l l')
    (hempty : c.instruction.empties epoch = true → ∀ l l', Lifecycle.Emptied l l' → step l l') :
    Lives step epoch s' := by
  unfold Lives at hs ⊢
  cases h with
  | idle hview hconfigured => rwa [hview, hconfigured]
  | step i hslots hloads hrun hconfigured =>
    rw [hconfigured]
    split at hs
    case isTrue hc =>
      rw [if_pos hc]
      obtain ⟨l₀, h₀, hruns⟩ := hs
      exact ⟨l₀, h₀, hruns.tail (hstep i _ _ hslots hrun)⟩
    case isFalse hc =>
      rw [if_neg hc]
      exact untouched_of_exec hs (Bool.eq_false_of_not_eq_true fun h => hc (hloads h)) hrun
  | configured config hold hnew hview =>
    rw [if_neg (by rw [hold]; decide)] at hs
    rw [if_pos hnew, hview]
    refine ⟨_, ?_, .refl⟩
    exact { hs with }
  | emptied h hemptied hconfigured =>
    rw [hconfigured]
    split at hs
    case isTrue hc =>
      rw [if_pos hc]
      obtain ⟨l₀, h₀, hruns⟩ := hs
      exact ⟨l₀, h₀, hruns.tail (hempty h _ _ hemptied)⟩
    case isFalse => cases hemptied.1.symm.trans hs.epochState

/-- So is a run of calls. -/
lemma lives {s₀ s : Ncn} (h₀ : s₀.Untouched) {calls : List Call} (hrun : (calls.forM (exec cl)).run s₀ = .ok () s)
    (hstep : ∀ c ∈ calls, ∀ i l l', (∀ n ∈ i.slot, n ∈ c.instruction.slot) →
      (Lifecycle.exec cl i).run l = .ok () l' → step l l')
    (hempty : ∀ c ∈ calls, c.instruction.empties epoch = true → ∀ l l', Lifecycle.Emptied l l' → step l l') :
    Lives step epoch s := by
  refine forM_invariant (J := fun cs s => (∀ c ∈ cs, c ∈ calls) → Lives step epoch s)
    (fun cs c s s' ih hc hall => ?_) (fun _ => ?_) hrun fun c hc => hc
  · have hmem : c ∈ calls := hall c (by simp)
    exact (exec_seen hc epoch).lives (ih fun c hc => hall c (by simp [hc])) (hstep c hmem) (hempty c hmem)
  · rw [Lives, if_neg (by rw [h₀.configured]; decide)]
    exact { h₀.epochs epoch with }

/-- However the calls on an NCN interleave, those that empty the state of an epoch they do not name among them, each
of its epochs is at every moment in a state that instructions on this epoch and such calls lead to. -/
lemma epochs_reached {s₀ s : Ncn} (h₀ : s₀.Untouched) {calls : List Call}
    (hrun : (calls.forM (exec cl)).run s₀ = .ok () s) (epoch : ℕ) :
    ∃ l₀ : Lifecycle, l₀.Untouched ∧ Run (Lifecycle.StepOrEmptied cl) l₀ (s.view epoch) := by
  have hlives : Lives (Lifecycle.StepOrEmptied cl) epoch s :=
    lives h₀ hrun (fun _ _ i _ _ _ hexec => .inl ⟨i, hexec⟩) fun _ _ _ _ _ hemptied => .inr hemptied
  unfold Lives at hlives
  split at hlives
  · exact hlives
  · exact ⟨_, hlives, .refl⟩

/-- However the calls on an NCN interleave, each of its epochs, if its state is not emptied by a call that names
another epoch, is at every moment in a state that instructions on this epoch alone lead to. -/
theorem epochs_live {P : ℕ → Prop} {s₀ s : Ncn} (h₀ : s₀.Untouched) {calls : List Call}
    (hslots : ∀ c ∈ calls, ∀ n ∈ c.instruction.slot, P n) (hwhole : ∀ c ∈ calls, c.instruction.empties epoch = false)
    (hrun : (calls.forM (exec cl)).run s₀ = .ok () s) (hconfigured : s.configured = true) :
    ∃ l₀ : Lifecycle, l₀.Untouched ∧ Run (Lifecycle.StepIn cl P) l₀ (s.view epoch) := by
  have hlives : Lives (Lifecycle.StepIn cl P) epoch s := by
    refine lives h₀ hrun (fun c hc i _ _ hi hexec => ⟨i, fun n hn => hslots c hc n (hi n hn), hexec⟩) ?_
    intro c hc hempties
    cases hempties.symm.trans (hwhole c hc)
  rwa [Lives, if_pos hconfigured] at hlives

/-- The small NCN, with the state of its epoch 0 emptied by a call for another NCN: what is there of its epoch 1, its
own instructions lead to. -/
theorem epochs_live_small :
    ∃ (s : Ncn) (l₀ : Lifecycle), (s.epochs 0).epochState = false ∧ (s.view 1).accounts.weightTable.finalized = true ∧
      l₀.Untouched ∧ Run (Lifecycle.StepIn Lifecycle.smallCluster (0 < ·)) l₀ (s.view 1) := by
  let calls := smallSetup ++ smallEpochs ++ smallCalls [.closeOtherEpochState ⟨3, 1⟩ none 0]
  let x := calls.forM (exec Lifecycle.smallCluster)
  let s := commit x small
  have hx : x.run small = .ok () s := Succeeds.run_eq (by decide +kernel)
  have hstate : s.configured = true ∧ (s.epochs 0).epochState = false ∧
      (s.view 1).accounts.weightTable.finalized = true := by decide +kernel
  have hslots : ∀ c ∈ calls, ∀ n ∈ c.instruction.slot, 0 < n := by decide +kernel
  have hwhole : ∀ c ∈ calls, c.instruction.empties 1 = false := by decide +kernel
  clear_value s
  obtain ⟨hconfigured, hemptied, hfinal⟩ := hstate
  obtain ⟨l₀, h₀, hruns⟩ := epochs_live small_untouched hslots hwhole hx hconfigured
  exact ⟨s, l₀, hemptied, hfinal, h₀, hruns⟩

/-! ## What the others do can be left out -/

/-- The call is one on the epoch, on the configuration or on the registry. -/
def Instruction.concerns (epoch : ℕ) : Instruction → Bool
  | .onEpoch e i => e == epoch || i.setsConfig
  | .closeOtherEpochState .. => false
  | _ => true

/-- The call names an epoch and closes the state of another, and one of them is this epoch. -/
def Instruction.crosses (epoch : ℕ) : Instruction → Bool
  | .closeOtherEpochState _ named victim => named == some epoch || victim == epoch
  | _ => false

/-- The same as far as the epoch is concerned. -/
structure Agrees (epoch : ℕ) (s t : Ncn) : Prop where
  ncn : t.ncn = s.ncn
  configured : t.configured = s.configured
  registrySlot : t.registrySlot = s.registrySlot
  vaultRegistry : t.vaultRegistry = s.vaultRegistry
  view : t.view epoch = s.view epoch

namespace Agrees

/-- A state agrees with itself. -/
lemma refl (s : Ncn) : Agrees epoch s s := ⟨rfl, rfl, rfl, rfl, rfl⟩

/-- Agreeing is transitive. -/
lemma trans {s₁ : Ncn} (h : Agrees epoch s s₁) (h' : Agrees epoch s₁ t) : Agrees epoch s t :=
  ⟨h'.ncn.trans h.ncn, h'.configured.trans h.configured, h'.registrySlot.trans h.registrySlot,
    h'.vaultRegistry.trans h.vaultRegistry, h'.view.trans h.view⟩

/-- The configuration is seen. -/
lemma config (h : Agrees epoch s t) : t.config = s.config := congrArg (·.accounts.config) h.view

/-- So an instruction reads the same. -/
lemma reading (h : Agrees epoch s t) (i : Lifecycle.Instruction) : t.reading account i = s.reading account i := by
  cases i <;> simp only [Ncn.reading, h.ncn, h.vaultRegistry]

/-- They differ in the other epochs only. -/
lemma eq (h : Agrees epoch s t) : t = { s with epochs := t.epochs } := by
  cases s
  cases t
  cases h.ncn
  cases h.configured
  cases h.registrySlot
  cases h.vaultRegistry
  cases h.config
  rfl

end Agrees

/-- A method that neither reads nor writes the epochs. -/
def Apart (x : Mut Ncn Unit) : Prop :=
  ∀ s s' epochs, x.run s = .ok () s' → x.run { s with epochs } = .ok () { s' with epochs }

namespace Apart

/-- It leaves them as they are. -/
lemma epochs_eq {x : Mut Ncn Unit} (hx : Apart x) (h : x.run s = .ok () s') : s'.epochs = s.epochs := by
  have hsame := h.symm.trans (hx s s' s.epochs h)
  injection hsame with _ hsame
  rw [hsame]

/-- One after the other. -/
lemma bind {x y : Mut Ncn Unit} (hx : Apart x) (hy : Apart y) : Apart (do x; y) := by
  intro s s' epochs h
  obtain ⟨_, s₁, hg, h⟩ := run_bind_ok.1 h
  exact run_bind_ok.2 ⟨(), _, hx s s₁ epochs hg, hy s₁ s' epochs h⟩

/-- Loading the configuration. -/
lemma loadConfig : Apart loadConfig := by
  intro s s' epochs h
  obtain ⟨hconfig, rfl⟩ := loadConfig_ok.1 h
  exact loadConfig_ok.2 ⟨hconfig, rfl⟩

/-- Loading the registry. -/
lemma loadVaultRegistry : Apart loadVaultRegistry := by
  intro s s' epochs h
  obtain ⟨hslot, rfl⟩ := loadVaultRegistry_ok.1 h
  exact loadVaultRegistry_ok.2 ⟨hslot, rfl⟩

/-- A check. -/
lemma ensure (p : Prop) [Decidable p] (e : ProgramError) : Apart (Lib.ensure p e) := by
  intro s s' epochs h
  obtain ⟨hp, rfl⟩ := run_ensure_ok.1 h
  exact run_ensure_ok.2 ⟨hp, rfl⟩

/-- A change of the registry. -/
lemma onVaultRegistry (x : Mut VaultRegistry Unit) : Apart (onVaultRegistry x) := by
  intro s s' epochs h
  obtain ⟨r, hr, rfl⟩ := run_zoom_ok.1 h
  exact run_zoom_ok.2 ⟨r, hr, rfl⟩

/-- Growing the registry. -/
lemma processReallocVaultRegistry (bump : UInt8) : Apart (processReallocVaultRegistry bump) := by
  refine loadConfig.bind fun s s' epochs h => ?_
  obtain ⟨_, _, hg, h⟩ := run_bind_ok.1 h
  cases hg
  refine run_bind_ok.2 ⟨_, _, rfl, ?_⟩
  cases hslot : s.registrySlot with
  | absent => rw [hslot] at h; cases h
  | initialized => rw [hslot] at h; cases h; rw [hslot]; rfl
  | allocated dataLen =>
    rw [hslot] at h
    obtain ⟨newSize, _, hg, h⟩ := run_bind_ok.1 h
    obtain ⟨hsize, rfl⟩ := run_ofExcept_ok.1 hg
    refine run_bind_ok.2 ⟨newSize, _, run_ofExcept_ok.2 ⟨hsize, rfl⟩, ?_⟩
    split at h
    · rename_i hfull
      rw [if_pos hfull]
      cases h
      rfl
    · rename_i hfull
      rw [if_neg hfull]
      cases h
      rfl

/-- The instructions on the registry, and the one that creates the configuration. -/
lemma exec (h : c.instruction.concerns epoch = true) (hnot : ∀ e i, c.instruction ≠ .onEpoch e i) :
    Apart (exec cl c) := by
  obtain ⟨account, instruction⟩ := c
  cases instruction with
  | adminInitializeConfig =>
    intro s s' epochs h
    obtain ⟨hnew, config, hconfig, rfl⟩ := processAdminInitializeConfig_ok h
    refine run_bind_ok.2 ⟨_, _, rfl, run_bind_ok.2 ⟨(), _, run_ensure_ok.2 ⟨hnew, rfl⟩, ?_⟩⟩
    exact run_bind_ok.2 ⟨config, _, run_ofExcept_ok.2 ⟨hconfig, rfl⟩, rfl⟩
  | initializeVaultRegistry =>
    intro s s' epochs h
    obtain ⟨_, _, hg, h⟩ := run_bind_ok.1 h
    cases hg
    obtain ⟨_, _, hg, h⟩ := run_bind_ok.1 h
    obtain ⟨hslot, rfl⟩ := run_ensure_ok.1 hg
    refine run_bind_ok.2 ⟨_, _, rfl, run_bind_ok.2 ⟨(), _, run_ensure_ok.2 ⟨hslot, rfl⟩, ?_⟩⟩
    exact loadConfig.bind (fun _ _ _ h => by cases h; rfl) _ _ epochs h
  | reallocVaultRegistry bump => exact processReallocVaultRegistry bump
  | registerVault => exact loadConfig.bind (loadVaultRegistry.bind (onVaultRegistry _))
  | adminRegisterStMint | adminSetStMint =>
    exact loadConfig.bind (loadVaultRegistry.bind ((ensure _ _).bind (onVaultRegistry _)))
  | onEpoch e i => exact absurd rfl (hnot e i)
  | closeOtherEpochState => cases h

end Apart

/-- A call that concerns the epoch does the same where the epoch is the same. -/
lemma Agrees.exec (h : Agrees epoch s t) (hrun : (exec cl c).run s = .ok () s')
    (hconcerns : c.instruction.concerns epoch = true) :
    ∃ t', (Ncn.exec cl c).run t = .ok () t' ∧ Agrees epoch s' t' := by
  by_cases hon : ∃ e i, c.instruction = .onEpoch e i
  case neg =>
    have hapart : Apart (Ncn.exec cl c) := .exec hconcerns fun e i hi => hon ⟨e, i, hi⟩
    have ht := hapart s s' t.epochs hrun
    rw [← h.eq] at ht
    refine ⟨_, ht, rfl, rfl, rfl, rfl, ?_⟩
    calc Ncn.view epoch { s' with epochs := t.epochs }
        = { t.view epoch with accounts := { (t.view epoch).accounts with config := s'.config } } := rfl
      _ = { s.view epoch with accounts := { (s.view epoch).accounts with config := s'.config } } := by rw [h.view]
      _ = s'.view epoch := by simp only [Ncn.view, hapart.epochs_eq hrun]
  case pos =>
    obtain ⟨e, i, hi⟩ := hon
    obtain ⟨account, instruction⟩ := c
    subst hi
    obtain ⟨hconfig, hregistry, l, hl, rfl⟩ := processOnEpoch_ok.1 hrun
    have hthere : ∀ l', (Lifecycle.exec cl (s.reading account i)).run (t.view e) = .ok () l' →
        (Ncn.exec cl ⟨account, .onEpoch e i⟩).run t = .ok () (t.put e l') := by
      intro l' hl'
      refine processOnEpoch_ok.2 ⟨fun hload => h.configured.trans (hconfig hload),
        fun hload => h.registrySlot.trans (hregistry hload), l', ?_, rfl⟩
      rwa [h.reading]
    cases hsets : (s.reading account i).setsConfig with
    | true =>
      obtain ⟨config, rfl, hall⟩ := Lifecycle.exec_setsConfig hl hsets
      refine ⟨_, hthere _ (hall (t.view e) h.config), h.ncn, h.configured, h.registrySlot, h.vaultRegistry, ?_⟩
      rw [view_put_config, view_put_config, h.view]
    | false =>
      obtain ⟨hepoch, _⟩ := Lifecycle.exec_shared hl hsets
      rw [setsConfig_reading] at hsets
      obtain rfl : e = epoch := by simpa [Instruction.concerns, hsets] using hconcerns
      refine ⟨_, hthere l (h.view ▸ hl), h.ncn, h.configured, h.registrySlot, h.vaultRegistry, ?_⟩
      rw [view_put s e hepoch, view_put t e hepoch]

/-- A call that does not concern the epoch, and does not close its state or another one through it, is not seen
there. -/
lemma Agrees.of_unconcerned (h : Agrees epoch s t) (hrun : (Ncn.exec cl c).run s = .ok () s')
    (hconcerns : c.instruction.concerns epoch = false) (hcross : c.instruction.crosses epoch = false) :
    Agrees epoch s' t := by
  have hon : ∀ {e i}, e ≠ epoch → i.setsConfig = false →
      ∀ {s s' : Ncn} {account}, (processOnEpoch cl account e i).run s = .ok () s' → Agrees epoch s' s := by
    intro e i he hsets s s' account h
    obtain ⟨_, _, l, hl, rfl⟩ := processOnEpoch_ok.1 h
    obtain ⟨_, hsame⟩ := Lifecycle.exec_shared hl (by rwa [setsConfig_reading])
    exact ⟨rfl, rfl, rfl, rfl, (view_put_ne he.symm l hsame).symm⟩
  have hempty : ∀ {victim}, epoch ≠ victim → ∀ {s s' : Ncn}, (emptyEpochState victim).run s = .ok () s' →
      Agrees epoch s' s := by
    intro victim he s s' h
    have hview := view_emptyEpochState he h
    obtain ⟨_, rfl⟩ := emptyEpochState_ok.1 h
    exact ⟨rfl, rfl, rfl, rfl, hview.symm⟩
  obtain ⟨account, instruction⟩ := c
  cases instruction with
  | onEpoch e i =>
    obtain ⟨he, hsets⟩ : e ≠ epoch ∧ i.setsConfig = false := by simpa [Instruction.concerns] using hconcerns
    exact (hon he hsets hrun).trans h
  | closeOtherEpochState clock named victim =>
    obtain ⟨hnamed, hvictim⟩ : named ≠ some epoch ∧ victim ≠ epoch := by simpa [Instruction.crosses] using hcross
    obtain ⟨hsame, hrun⟩ | ⟨_, s₁, hs₁, hrun⟩ := processCloseOtherEpochState_ok hrun
    · exact (hon (fun he => hnamed (he ▸ hsame)) rfl hrun).trans h
    · refine (hempty hvictim.symm hrun).trans ?_
      obtain rfl | ⟨e, rfl, hs₁⟩ := hs₁
      · exact h
      · exact (hon (fun he => hnamed (congrArg some he)) rfl hs₁).trans h
  | _ => cases hconcerns

/-- From an epoch it cannot be told what was done on the others: a run of calls, without those on other epochs, is a
run as well, and leads to the same accounts of this epoch, the same configuration and the same registry. -/
theorem epochs_isolated {calls : List Call} (hrun : (calls.forM (Ncn.exec cl)).run s = .ok () s')
    (hcross : ∀ c ∈ calls, c.instruction.crosses epoch = false) :
    ∃ s'', ((calls.filter (·.instruction.concerns epoch)).forM (Ncn.exec cl)).run s = .ok () s'' ∧
      s''.view epoch = s'.view epoch ∧ s''.configured = s'.configured ∧ s''.registrySlot = s'.registrySlot ∧
      s''.vaultRegistry = s'.vaultRegistry := by
  obtain ⟨s'', hrun'', h⟩ := forM_filter (R := Agrees epoch)
    (fun c _ hc s s' t hexec h => h.exec hexec hc)
    (fun c hmem hc s s' t hexec h => h.of_unconcerned hexec hc (hcross c hmem)) hrun (.refl s)
  exact ⟨s'', hrun'', h.view, h.configured, h.registrySlot, h.vaultRegistry⟩

/-- The small NCN, without the calls on its epoch 0. -/
theorem epochs_isolated_small :
    ∃ s s' : Ncn, (s.view 1).accounts.weightTable.finalized = true ∧ s'.view 1 = s.view 1 ∧
      ((smallSetup ++ smallEpochs).filter (·.instruction.concerns 1)).length = 11 ∧
      (((smallSetup ++ smallEpochs).filter (·.instruction.concerns 1)).forM
        (Ncn.exec Lifecycle.smallCluster)).run small = .ok () s' := by
  let x := (smallSetup ++ smallEpochs).forM (Ncn.exec Lifecycle.smallCluster)
  let s := commit x small
  have hx : x.run small = .ok () s := Succeeds.run_eq (by decide +kernel)
  have hfinal : (s.view 1).accounts.weightTable.finalized = true := by decide +kernel
  have hcross : ∀ c ∈ smallSetup ++ smallEpochs, c.instruction.crosses 1 = false := by decide +kernel
  clear_value s
  obtain ⟨s', hrun, hview, _⟩ := epochs_isolated hx hcross
  exact ⟨s, s', hfinal, hview, by decide, hrun⟩

end Ncn
end NcnProgram
