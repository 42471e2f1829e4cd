import NcnProgram.Program.Lifecycle
import NcnProgram.Program.VaultRegistry

/-!
# The vault registry is well formed

The methods of the registry tell a free slot by three different marks: a mint entry by its default key, a vault
entry by the default key of its mint when it is inserted, and by its slot when it is counted. `Holds r ms vs` says
that the marks agree: the mints `ms` and the vaults `vs` stand in the first slots, and nothing else does. A free
mint slot may have a weight, since the weight of the default key can be set. Every call keeps this, and a registry
that has it fills a weight table that knows the mint of each vault.
-/

namespace NcnProgram
open Lib NCNProgramError

/-- What the registration of a vault reads of its account. -/
structure VaultAccount where
  vault : Pubkey
  supportedMint : Pubkey
  vaultIndex : ℕ

/-- The account that an entry was made from. -/
def VaultEntry.account (v : VaultEntry) : VaultAccount := ⟨v.vault, v.stMint, v.vaultIndex⟩

namespace VaultRegistry

/-- The three calls that change a registry. -/
inductive Call where
  | registerStMint (stMint : Pubkey) (weight : ℕ)
  | setStMint (stMint : Pubkey) (weight : Option ℕ)
  | registerVault (clock : Clock) (account : VaultAccount)

/-- Runs a call. -/
def Call.exec : Call → Mut VaultRegistry Unit
  | registerStMint stMint weight => VaultRegistry.registerStMint stMint weight
  | setStMint stMint weight => VaultRegistry.setStMint stMint weight
  | registerVault clock account =>
    processRegisterVault clock account.vault account.supportedMint account.vaultIndex

/-- A call registers one of the given vaults. Its keys are those of accounts, and the slot is not the mark of a free
one. -/
def Call.Admitted (vaults : Set VaultAccount) : Call → Prop
  | registerVault clock account =>
    account ∈ vaults ∧ account.vault ≠ .default ∧ account.supportedMint ≠ .default ∧ clock.slot < u64Max
  | _ => True

/-- One call, successful or not, with the registry it leaves. -/
def Attempt (vaults : Set VaultAccount) (r r' : VaultRegistry) : Prop :=
  ∃ call : Call, call.Admitted vaults ∧ r' = stateAfter call.exec r

/-- The first slots of the registry are the mints `ms`, which are distinct and have a weight. -/
structure ListsMints (r : VaultRegistry) (ms : List StMintEntry) : Prop where
  mints : ∃ free, r.stMintList.toList = ms ++ free ∧ ∀ entry ∈ free, entry.isEmpty = true
  mint_full : ∀ entry ∈ ms, entry.isEmpty = false
  mints_nodup : (ms.map (·.stMint)).Nodup
  weight_ne : ∀ entry ∈ ms, entry.weight ≠ 0

/-- Besides the mints `ms`, the registry lists the vaults `vs` in its first slots. They are distinct, and of listed
mints. -/
structure Holds (r : VaultRegistry) (ms : List StMintEntry) (vs : List VaultEntry) : Prop extends
    ListsMints r ms where
  vaults : r.vaultList.Holds .default vs
  vault_full : ∀ v ∈ vs, v.isEmpty = false
  vaults_nodup : (vs.map (·.vault)).Nodup
  stMint_ne : ∀ v ∈ vs, v.stMint ≠ .default
  stMint_listed : ∀ v ∈ vs, v.stMint ∈ ms.map (·.stMint)

/-- The registry is well formed. -/
def WellFormed (r : VaultRegistry) : Prop := ∃ ms vs, Holds r ms vs

/-- A failing call leaves the registry as it was. -/
lemma Call.atomic (call : Call) : Atomic call.exec := by
  cases call with
  | registerStMint stMint weight => exact atomic_registerStMint stMint weight
  | setStMint stMint weight => exact atomic_setStMint stMint weight
  | registerVault clock account =>
    exact .bind .get fun _ => .bind (.ensure _ _) fun _ => atomic_registerVault _ _ _ _

/-- A registration that succeeds finds the mint in the list. -/
lemma processRegisterVault_run_ok {clock : Clock} {vault supportedMint : Pubkey} {vaultIndex : ℕ}
    {r r' : VaultRegistry} {u : Unit}
    (h : (processRegisterVault clock vault supportedMint vaultIndex).run r = .ok u r') :
    r.hasStMint supportedMint = true ∧
      (registerVault vault supportedMint vaultIndex clock.slot).run r = .ok u r' := by
  obtain ⟨_, _, hg, h⟩ := run_bind_ok.1 h
  cases hg
  obtain ⟨_, _, hg, h⟩ := run_bind_ok.1 h
  obtain ⟨hmint, rfl⟩ := run_ensure_ok.1 hg
  exact ⟨hmint, h⟩

/-- A vault that is in the list stays as it is, whatever is registered for it. -/
lemma registered_again {r : VaultRegistry} {v : VaultEntry} (hv : v ∈ r.vaultList.toList) (clock : Clock)
    (supportedMint : Pubkey) (vaultIndex : ℕ) :
    stateAfter (VaultRegistry.processRegisterVault clock v.vault supportedMint vaultIndex) r = r := by
  rcases (Call.atomic (.registerVault clock ⟨v.vault, supportedMint, vaultIndex⟩)).stateAfter_cases r with
    hsame | ⟨_, hrun⟩
  · exact hsame
  · obtain ⟨_, hrun⟩ := processRegisterVault_run_ok hrun
    obtain ⟨_, hsame⟩ | ⟨hnew, _⟩ := registerVault_run_ok hrun
    · exact hsame
    · exact absurd (beq_self_eq_true _) (List.any_eq_false.1 hnew v hv)

variable {r r' : VaultRegistry} {ms : List StMintEntry} {vs : List VaultEntry} {u : Unit}

namespace ListsMints

/-- A new registry has no mints. -/
lemma new (ncn : Pubkey) (bump : UInt8) : ListsMints (new ncn bump) [] where
  mints := by
    refine ⟨(Table.replicate maxStMints StMintEntry.default).toList, rfl, ?_⟩
    intro entry hentry
    obtain rfl := List.eq_of_mem_replicate hentry
    rfl
  mint_full := by simp
  mints_nodup := List.nodup_nil
  weight_ne := by simp

/-- The mints of the list are those of its entries. -/
lemma hasStMint_iff (h : ListsMints r ms) {mint : Pubkey} (hne : mint ≠ .default) :
    r.hasStMint mint = true ↔ mint ∈ ms.map (·.stMint) := by
  obtain ⟨free, hlist, hempty⟩ := h.mints
  have hfree : free.any (·.stMint == mint) = false := by
    rw [List.any_eq_false]
    intro entry hentry hmint
    have hdefault : entry.stMint = .default := beq_iff_eq.1 (hempty entry hentry)
    exact hne ((beq_iff_eq.1 hmint).symm.trans hdefault)
  rw [hasStMint, Table.any, hlist, List.any_append, hfree, Bool.or_false, List.any_eq_true]
  simp only [beq_iff_eq, List.mem_map]

/-- A mint that is registered gets the slot after the others. -/
lemma registerStMint (h : ListsMints r ms) {stMint : Pubkey} {weight : ℕ}
    (hrun : (VaultRegistry.registerStMint stMint weight).run r = .ok u r') :
    ListsMints r' (ms ++ [⟨stMint, weight⟩]) := by
  obtain ⟨hnew, hweight, i, hi, rfl⟩ := registerStMint_run_ok hrun
  obtain ⟨free, hlist, hempty⟩ := h.mints
  have hnone : ms.findIdx? (·.stMint == StMintEntry.default.stMint) = none :=
    List.findIdx?_eq_none_iff.2 h.mint_full
  rw [Table.findIdx?, hlist, List.findIdx?_append, hnone, Option.none_or] at hi
  cases free with
  | nil => cases hi
  | cons slot rest =>
    have hslot : (slot.stMint == StMintEntry.default.stMint) = true := hempty slot List.mem_cons_self
    rw [List.findIdx?_cons, hslot] at hi
    cases hi
    -- the free slot has the default key, so the key of the new mint is another one
    have hne : stMint ≠ .default := by
      rintro rfl
      have hmem : slot ∈ r.stMintList.toList := by simp [hlist]
      exact List.any_eq_false.1 hnew slot hmem hslot
    constructor
    case mints =>
      refine ⟨rest, ?_, fun entry hentry => hempty entry (List.mem_cons_of_mem _ hentry)⟩
      simp [hlist]
    case mint_full => exact forall_mem_append_singleton h.mint_full (beq_eq_false_iff_ne.2 hne)
    case mints_nodup =>
      apply nodup_map_append_singleton h.mints_nodup
      rw [← h.hasStMint_iff hne, hnew]
      exact Bool.false_ne_true
    case weight_ne => exact forall_mem_append_singleton h.weight_ne hweight

/-- Setting a weight keeps the mints, and changes the weight of a free slot at most. -/
lemma setStMint (h : ListsMints r ms) {stMint : Pubkey} {weight : Option ℕ}
    (hrun : (VaultRegistry.setStMint stMint weight).run r = .ok u r') :
    ∃ ms', ListsMints r' ms' ∧ ms'.map (·.stMint) = ms.map (·.stMint) := by
  obtain ⟨i, entry, hentry, _, hweight, rfl⟩ := setStMint_run_ok hrun
  obtain ⟨free, hlist, hempty⟩ := h.mints
  rw [hlist] at hentry
  rcases Nat.lt_or_ge i ms.length with hi | hi
  · rw [List.getElem?_append_left hi] at hentry
    have hmap : (ms.set i { entry with weight := weight.getD entry.weight }).map (·.stMint) = ms.map (·.stMint) :=
      map_set_of_eq (b := { entry with weight := weight.getD entry.weight }) hentry rfl
    refine ⟨_, ?_, hmap⟩
    constructor
    case mints => exact ⟨free, by rw [Table.toList_set, hlist, List.set_append_left _ _ hi], hempty⟩
    case mint_full =>
      intro m hm
      rcases List.mem_or_eq_of_mem_set hm with hm | rfl
      · exact h.mint_full m hm
      · exact h.mint_full entry (List.mem_of_getElem? hentry)
    case mints_nodup => rw [hmap]; exact h.mints_nodup
    case weight_ne =>
      intro m hm
      rcases List.mem_or_eq_of_mem_set hm with hm | rfl
      · exact h.weight_ne m hm
      · exact hweight
  · rw [List.getElem?_append_right hi] at hentry
    refine ⟨ms, { h with mints := ?_ }, rfl⟩
    refine ⟨_, by rw [Table.toList_set, hlist, List.set_append_right _ _ hi], ?_⟩
    intro m hm
    rcases List.mem_or_eq_of_mem_set hm with hm | rfl
    · exact hempty m hm
    · exact hempty entry (List.mem_of_getElem? hentry)

/-- Registering a vault is not about the mints. -/
lemma of_stMintList (h : ListsMints r ms) (hsame : r'.stMintList = r.stMintList) : ListsMints r' ms :=
  { h with mints := hsame ▸ h.mints }

end ListsMints

namespace Holds

/-- A new registry is empty. -/
lemma new (ncn : Pubkey) (bump : UInt8) : Holds (new ncn bump) [] [] where
  toListsMints := .new ncn bump
  vaults := Table.holds_replicate _
  vault_full := by simp
  vaults_nodup := List.nodup_nil
  stMint_ne := by simp
  stMint_listed := by simp

/-- Mints may be added, and their weights may change. -/
lemma of_mints (h : Holds r ms vs) {ms' : List StMintEntry} (hmints : ListsMints r' ms')
    (hvaults : r'.vaultList = r.vaultList) (hsub : ms.map (·.stMint) ⊆ ms'.map (·.stMint)) : Holds r' ms' vs where
  toListsMints := hmints
  vaults := hvaults ▸ h.vaults
  vault_full := h.vault_full
  vaults_nodup := h.vaults_nodup
  stMint_ne := h.stMint_ne
  stMint_listed v hv := hsub (h.stMint_listed v hv)

/-- A mint that is registered gets the slot after the others. -/
lemma registerStMint (h : Holds r ms vs) {stMint : Pubkey} {weight : ℕ}
    (hrun : (VaultRegistry.registerStMint stMint weight).run r = .ok u r') :
    Holds r' (ms ++ [⟨stMint, weight⟩]) vs := by
  refine h.of_mints (h.toListsMints.registerStMint hrun) (leaves_registerStMint stMint weight hrun) ?_
  rw [List.map_append]
  exact List.subset_append_left _ _

/-- Setting a weight keeps the mints. -/
lemma setStMint (h : Holds r ms vs) {stMint : Pubkey} {weight : Option ℕ}
    (hrun : (VaultRegistry.setStMint stMint weight).run r = .ok u r') : ∃ ms', Holds r' ms' vs := by
  obtain ⟨ms', hmints, hsame⟩ := h.toListsMints.setStMint hrun
  exact ⟨ms', h.of_mints hmints (leaves_setStMint stMint weight hrun) (by rw [hsame]; exact List.Subset.refl _)⟩

/-- A vault that is in the list stays, and any other gets the slot after the others. -/
lemma registerVault (h : Holds r ms vs) {vault stMint : Pubkey} {vaultIndex slot : ℕ} (hvault : vault ≠ .default)
    (hmint : stMint ≠ .default) (hlisted : stMint ∈ ms.map (·.stMint)) (hslot : slot < u64Max)
    (hrun : (VaultRegistry.registerVault vault stMint vaultIndex slot).run r = .ok u r') :
    r' = r ∨ Holds r' ms (vs ++ [⟨vault, stMint, vaultIndex, slot⟩]) := by
  obtain ⟨_, rfl⟩ | ⟨hnew, i, hi, rfl⟩ := registerVault_run_ok hrun
  · exact .inl rfl
  right
  have hfree : (VaultEntry.default.vault == vault) = false := beq_eq_false_iff_ne.2 hvault.symm
  rw [h.vaults.any_eq (p := (·.vault == vault)) hfree, List.any_eq_false] at hnew
  have htaken : ∀ v ∈ vs, (v.stMint == VaultEntry.default.stMint) = false :=
    fun v hv => beq_eq_false_iff_ne.2 (h.stMint_ne v hv)
  rw [h.vaults.findIdx?_free (p := (·.stMint == VaultEntry.default.stMint)) rfl htaken] at hi
  split at hi
  case isFalse => cases hi
  case isTrue hroom =>
    cases hi
    constructor
    case toListsMints => exact h.toListsMints.of_stMintList rfl
    case vaults => exact h.vaults.append hroom _
    case vault_full => exact forall_mem_append_singleton h.vault_full (beq_eq_false_iff_ne.2 hslot.ne)
    case vaults_nodup =>
      apply nodup_map_append_singleton h.vaults_nodup
      intro hmem
      obtain ⟨v, hv, hsame⟩ := List.mem_map.1 hmem
      exact hnew v hv (beq_iff_eq.2 hsame)
    case stMint_ne => exact forall_mem_append_singleton h.stMint_ne hmint
    case stMint_listed => exact forall_mem_append_singleton h.stMint_listed hlisted

/-- The entries of taken slots are the listed vaults. -/
lemma mem_vaults (h : Holds r ms vs) {v : VaultEntry} (hv : v ∈ r.vaultList.toList) (hfull : v.isEmpty = false) :
    v ∈ vs := by
  rw [show r.vaultList.toList = _ from h.vaults, List.mem_append] at hv
  rcases hv with hv | hv
  · exact hv
  · rw [List.eq_of_mem_replicate hv] at hfull
    cases hfull

/-- The table that is filled from the registry has a weight for the mint of each vault. -/
lemma getWeight (h : Holds r ms vs) {v : VaultEntry} (hv : v ∈ vs) {w : WeightTable}
    (hw : w.table = r.stMintList.map .new) : ∃ weight, w.getWeight v.stMint = .ok weight := by
  obtain ⟨entry, hentry, hmint⟩ := List.mem_map.1 (h.stMint_listed v hv)
  obtain ⟨free, hlist, _⟩ := h.mints
  have hmem : WeightEntry.new entry ∈ w.table.toList := by
    rw [hw]
    exact List.mem_map_of_mem (hlist ▸ List.mem_append_left _ hentry)
  have hfound : (w.table.find? (fun e => e.stMint == v.stMint)).isSome = true :=
    List.find?_isSome.2 ⟨_, hmem, beq_iff_eq.2 hmint⟩
  obtain ⟨found, hfound⟩ := Option.isSome_iff_exists.1 hfound
  refine ⟨found.weight, ?_⟩
  rw [WeightTable.getWeight, hfound]
  rfl

end Holds

/-- A weight table can be filled from the registry. It knows the mint of each vault of the registry, and the
accounts whose index it admits are those of such vaults. -/
def FillsTables (vaults : Set VaultAccount) (r : VaultRegistry) : Prop :=
  ∀ ncn epoch slot bump, ∃ w,
    WeightTable.initialized ncn epoch slot (vaultCount r.vaultList) bump r.vaultList r.stMintList = .ok w ∧
    (∀ v ∈ r.vaultList.toList, v.isEmpty = false → ∃ weight, w.getWeight v.stMint = .ok weight) ∧
    ∀ account ∈ vaults, w.checkRegistryForVault account.vaultIndex = .ok () →
      ∃ v ∈ r.vaultList.toList, v.isEmpty = false ∧ v.vault = account.vault ∧ v.account ∈ vaults

/-- The registry is well formed and lists only vaults that were registered. -/
def Registered (vaults : Set VaultAccount) (r : VaultRegistry) : Prop :=
  ∃ ms vs, Holds r ms vs ∧ ∀ v ∈ vs, v.account ∈ vaults

variable {vaults : Set VaultAccount}

/-- Every call keeps the registry well formed. -/
lemma Attempt.registered (hstep : Attempt vaults r r') (h : Registered vaults r) : Registered vaults r' := by
  obtain ⟨call, hadmitted, rfl⟩ := hstep
  rcases call.atomic.stateAfter_cases r with hsame | ⟨u, hrun⟩
  · rwa [hsame]
  obtain ⟨ms, vs, hr, hvs⟩ := h
  generalize stateAfter call.exec r = r' at hrun ⊢
  cases call with
  | registerStMint stMint weight => exact ⟨_, vs, hr.registerStMint hrun, hvs⟩
  | setStMint stMint weight =>
    obtain ⟨ms', hr'⟩ := hr.setStMint hrun
    exact ⟨ms', vs, hr', hvs⟩
  | registerVault clock account =>
    obtain ⟨hmem, hvault, hmint, hslot⟩ := hadmitted
    obtain ⟨hhas, hrun⟩ := processRegisterVault_run_ok hrun
    rcases hr.registerVault hvault hmint ((hr.hasStMint_iff hmint).1 hhas) hslot hrun with rfl | hr'
    · exact ⟨ms, vs, hr, hvs⟩
    · exact ⟨ms, _, hr', forall_mem_append_singleton hvs hmem⟩

/-- A registry with a vault fills weight tables. -/
lemma Registered.fillsTables (h : Registered vaults r)
    (hindex : ∀ a ∈ vaults, ∀ b ∈ vaults, a.vaultIndex = b.vaultIndex → a.vault = b.vault)
    (hcount : 0 < vaultCount r.vaultList) : r.FillsTables vaults := by
  intro ncn epoch slot bump
  obtain ⟨ms, vs, hr, hvs⟩ := h
  have hmint : ∃ mint ∈ r.stMintList.toList, mint.isEmpty = false := by
    -- the mint of any of the vaults
    obtain ⟨v, hv, hfull⟩ := List.countP_pos_iff.1 hcount
    rw [Bool.not_eq_true'] at hfull
    obtain ⟨mint, hmem, _⟩ := List.mem_map.1 (hr.stMint_listed v (hr.mem_vaults hv hfull))
    obtain ⟨free, hlist, _⟩ := hr.mints
    exact ⟨mint, hlist ▸ List.mem_append_left _ hmem, hr.mint_full mint hmem⟩
  refine ⟨_, WeightTable.initialized_of hcount hmint, ?_, ?_⟩
  · intro v hv hfull
    exact hr.getWeight (hr.mem_vaults hv hfull) rfl
  · intro account haccount hcheck
    obtain ⟨hne, v, hv, hi⟩ := WeightTable.checkRegistryForVault_ok hcheck
    have hfull : v.isEmpty = false := by
      apply Bool.eq_false_of_not_eq_true
      intro hempty
      change v ∈ r.vaultList.toList at hv
      rw [show r.vaultList.toList = _ from hr.vaults, List.mem_append] at hv
      rcases hv with hv | hv
      · rw [hr.vault_full v hv] at hempty
        cases hempty
      · rw [List.eq_of_mem_replicate hv] at hi
        exact hne hi.symm
    have hmem := hvs v (hr.mem_vaults hv hfull)
    exact ⟨v, hv, hfull, hindex v.account hmem account haccount hi, hmem⟩

end VaultRegistry

/-- However mints and vaults are registered and weights are set, with calls that succeed or fail, the registry stays
well formed, a failing call leaves it as it was, and so does registering a vault again. From a registry with a vault
a weight table can be filled, and it knows the mint of every vault that it admits. -/
theorem registry_well_formed {vaults : Set VaultAccount}
    (hindex : ∀ a ∈ vaults, ∀ b ∈ vaults, a.vaultIndex = b.vaultIndex → a.vault = b.vault) {ncn : Pubkey}
    {bump : UInt8} {r : VaultRegistry} (hrun : Run (VaultRegistry.Attempt vaults) (.new ncn bump) r) :
    r.WellFormed ∧
      (∀ (call : VaultRegistry.Call) (e : ProgramError) (r' : VaultRegistry),
        call.exec.run r = .error e r' → r' = r) ∧
      (∀ v ∈ r.vaultList.toList, ∀ clock supportedMint vaultIndex,
        stateAfter (VaultRegistry.processRegisterVault clock v.vault supportedMint vaultIndex) r = r) ∧
      (0 < VaultRegistry.vaultCount r.vaultList → r.FillsTables vaults) := by
  have h : VaultRegistry.Registered vaults r :=
    hrun.invariant ⟨[], [], .new ncn bump, by simp⟩ fun _ _ hstep h => hstep.registered h
  refine ⟨?_, ?_, ?_, h.fillsTables hindex⟩
  · obtain ⟨ms, vs, hr, _⟩ := h
    exact ⟨ms, vs, hr⟩
  · exact fun call e r' herror => call.atomic herror
  · exact fun v hv clock supportedMint vaultIndex =>
      VaultRegistry.registered_again hv clock supportedMint vaultIndex

/-- Two vaults of the mint `21` with the indices one and two. The second is registered twice, a mint is registered
again and a vault of an unknown mint is refused. -/
theorem registry_well_formed_two_vaults :
    ∃ r : VaultRegistry, VaultRegistry.vaultCount r.vaultList = 2 ∧ VaultRegistry.stMintCount r.stMintList = 1 ∧
      r.WellFormed ∧ r.FillsTables {⟨11, 21, 1⟩, ⟨12, 21, 2⟩, ⟨13, 22, 3⟩} := by
  let vaults : Set VaultAccount := {⟨11, 21, 1⟩, ⟨12, 21, 2⟩, ⟨13, 22, 3⟩}
  have hindex : ∀ a ∈ vaults, ∀ b ∈ vaults, a.vaultIndex = b.vaultIndex → a.vault = b.vault := by
    rintro a (rfl | rfl | rfl) b (rfl | rfl | rfl) h <;> first | rfl | exact absurd h (by decide)
  let calls : List VaultRegistry.Call := [.registerStMint 21 1, .registerVault ⟨1, 0⟩ ⟨11, 21, 1⟩,
    .registerVault ⟨2, 0⟩ ⟨12, 21, 2⟩, .registerVault ⟨3, 0⟩ ⟨12, 21, 2⟩, .registerStMint 21 5,
    .registerVault ⟨4, 0⟩ ⟨13, 22, 3⟩]
  have hcalls : ∀ call ∈ calls, call.Admitted vaults := by
    intro call hcall
    simp only [calls, List.mem_cons, List.not_mem_nil, or_false] at hcall
    rcases hcall with rfl | rfl | rfl | rfl | rfl | rfl
    case inl => trivial
    case inr.inr.inr.inr.inl => trivial
    all_goals exact ⟨by simp [vaults], by decide, by decide, by decide⟩
  let r := calls.foldl (fun r call => stateAfter call.exec r) (.new 1 0)
  have hvaults : VaultRegistry.vaultCount r.vaultList = 2 := by decide +kernel
  have hmints : VaultRegistry.stMintCount r.stMintList = 1 := by decide +kernel
  have hrun : Run (VaultRegistry.Attempt vaults) (.new 1 0) r :=
    .foldl calls fun call hcall r => ⟨call, hcalls call hcall, rfl⟩
  obtain ⟨hwell, _, _, hfills⟩ := registry_well_formed hindex hrun
  exact ⟨r, hvaults, hmints, hwell, hfills (by rw [show VaultRegistry.vaultCount _ = 2 from hvaults]; decide)⟩

end NcnProgram
