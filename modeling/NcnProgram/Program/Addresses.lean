import NcnProgram.Lib.Bytes
import NcnProgram.Program.Ledger

/-!
# The seeds of the program's addresses

Port of the `seeds` functions of the accounts. The key of an account is derived from the concatenation of its
seeds: a text for the kind of account, then keys of 32 bytes and an epoch of eight. The texts are of different
lengths, and so are the concatenations for any two kinds, although some kinds have more fields than others. So no
choice of keys makes the seeds of one account those of another.
-/

namespace NcnProgram
open Lib

/-- The bytes of a key, the first byte first (`Pubkey::to_bytes`). -/
def Pubkey.toBytes (key : Pubkey) : List UInt8 := (leBytes 32 key.toNat).reverse

@[simp] lemma Pubkey.length_toBytes (key : Pubkey) : key.toBytes.length = 32 := by
  rw [toBytes, List.length_reverse, length_leBytes]

/-- Different keys have different bytes. -/
lemma Pubkey.toBytes_inj {key key' : Pubkey} (h : key.toBytes = key'.toBytes) : key = key' :=
  BitVec.eq_of_toNat_eq (leBytes_inj key.isLt key'.isLt (List.reverse_injective h))

/-- A byte string literal. -/
def byteString (s : String) : List UInt8 := s.toUTF8.data.toList

/-! ## Seeds -/

/-- The seeds of an account of an NCN. -/
def ncnSeeds (seed : String) (ncn : Pubkey) : List (List UInt8) := [byteString seed, ncn.toBytes]

/-- The seeds of an account of an NCN's epoch; the epoch is a `u64`. -/
def epochSeeds (seed : String) (ncn : Pubkey) (epoch : ℕ) : List (List UInt8) :=
  [byteString seed, ncn.toBytes, leBytes 8 epoch]

/-- The seeds of an account of an operator in an NCN's epoch. -/
def operatorSeeds (seed : String) (operator ncn : Pubkey) (epoch : ℕ) : List (List UInt8) :=
  [byteString seed, operator.toBytes, ncn.toBytes, leBytes 8 epoch]

/-- `Config::seeds`. -/
def Config.seeds : Pubkey → List (List UInt8) := ncnSeeds "config"

/-- `VaultRegistry::seeds`. -/
def VaultRegistry.seeds : Pubkey → List (List UInt8) := ncnSeeds "vault_registry"

/-- `AccountPayer::seeds`, with the NCN twice. -/
def AccountPayer.seeds (ncn : Pubkey) : List (List UInt8) :=
  [byteString "account_payer", ncn.toBytes, ncn.toBytes]

/-- `EpochState::seeds`. -/
def EpochState.seeds : Pubkey → ℕ → List (List UInt8) := epochSeeds "epoch_state"

/-- `WeightTable::seeds`. -/
def WeightTable.seeds : Pubkey → ℕ → List (List UInt8) := epochSeeds "weight_table"

/-- `EpochSnapshot::seeds`. -/
def EpochSnapshot.seeds : Pubkey → ℕ → List (List UInt8) := epochSeeds "epoch_snapshot"

/-- `BallotBox::seeds`. -/
def BallotBox.seeds : Pubkey → ℕ → List (List UInt8) := epochSeeds "ballot_box"

/-- `ConsensusResult::seeds`. -/
def ConsensusResult.seeds : Pubkey → ℕ → List (List UInt8) := epochSeeds "consensus-result"

/-- `NCNRewardRouter::seeds`. -/
def NCNRewardRouter.seeds : Pubkey → ℕ → List (List UInt8) := epochSeeds "ncn_reward_router"

/-- `NCNRewardReceiver::seeds`. -/
def NCNRewardReceiver.seeds : Pubkey → ℕ → List (List UInt8) := epochSeeds "ncn_reward_receiver"

/-- `OperatorSnapshot::seeds`. -/
def OperatorSnapshot.seeds : Pubkey → Pubkey → ℕ → List (List UInt8) := operatorSeeds "operator_snapshot"

/-- `OperatorVaultRewardRouter::seeds`. -/
def OperatorVaultRewardRouter.seeds : Pubkey → Pubkey → ℕ → List (List UInt8) :=
  operatorSeeds "operator_vault_reward_route"

/-- `OperatorVaultRewardReceiver::seeds`. -/
def OperatorVaultRewardReceiver.seeds : Pubkey → Pubkey → ℕ → List (List UInt8) :=
  operatorSeeds "operator_vault_reward_receiver"

/-- `EpochMarker::seeds`, with the NCN twice. -/
def EpochMarker.seeds (ncn : Pubkey) (epoch : ℕ) : List (List UInt8) :=
  [byteString "epoch_marker", ncn.toBytes, leBytes 8 epoch, ncn.toBytes]

/-! ## What the seeds determine -/

section Inverse
variable {seed : String} {ncn ncn' operator operator' : Pubkey} {epoch epoch' : ℕ}

/-- The seeds of one kind determine the NCN. -/
lemma ncnSeeds_inj (h : (ncnSeeds seed ncn).flatten = (ncnSeeds seed ncn').flatten) : ncn = ncn' := by
  simp only [ncnSeeds, List.flatten_cons, List.flatten_nil, List.append_nil, List.append_cancel_left_eq] at h
  exact Pubkey.toBytes_inj h

/-- The seeds of one kind determine the NCN and the epoch. -/
lemma epochSeeds_inj (hepoch : epoch < 2 ^ 64) (hepoch' : epoch' < 2 ^ 64)
    (h : (epochSeeds seed ncn epoch).flatten = (epochSeeds seed ncn' epoch').flatten) :
    ncn = ncn' ∧ epoch = epoch' := by
  simp only [epochSeeds, List.flatten_cons, List.flatten_nil, List.append_nil,
    List.append_cancel_left_eq] at h
  obtain ⟨hncn, hbytes⟩ := List.append_inj h (by simp)
  exact ⟨Pubkey.toBytes_inj hncn, leBytes_inj hepoch hepoch' hbytes⟩

/-- The seeds of one kind determine the operator, the NCN and the epoch. -/
lemma operatorSeeds_inj (hepoch : epoch < 2 ^ 64) (hepoch' : epoch' < 2 ^ 64)
    (h : (operatorSeeds seed operator ncn epoch).flatten = (operatorSeeds seed operator' ncn' epoch').flatten) :
    operator = operator' ∧ ncn = ncn' ∧ epoch = epoch' := by
  simp only [operatorSeeds, List.flatten_cons, List.flatten_nil, List.append_nil,
    List.append_cancel_left_eq] at h
  obtain ⟨hoperator, h⟩ := List.append_inj h (by simp)
  obtain ⟨hncn, hbytes⟩ := List.append_inj h (by simp)
  exact ⟨Pubkey.toBytes_inj hoperator, Pubkey.toBytes_inj hncn, leBytes_inj hepoch hepoch' hbytes⟩

/-- The second copy of the NCN adds nothing to what the seeds of the payer determine. -/
lemma AccountPayer.seeds_inj (h : (AccountPayer.seeds ncn).flatten = (AccountPayer.seeds ncn').flatten) :
    ncn = ncn' := by
  simp only [AccountPayer.seeds, List.flatten_cons, List.append_cancel_left_eq] at h
  exact Pubkey.toBytes_inj (List.append_inj_left h (by simp))

/-- Nor to what those of the marker determine. -/
lemma EpochMarker.seeds_inj (hepoch : epoch < 2 ^ 64) (hepoch' : epoch' < 2 ^ 64)
    (h : (EpochMarker.seeds ncn epoch).flatten = (EpochMarker.seeds ncn' epoch').flatten) :
    ncn = ncn' ∧ epoch = epoch' := by
  simp only [EpochMarker.seeds, List.flatten_cons, List.append_cancel_left_eq] at h
  obtain ⟨hncn, h⟩ := List.append_inj h (by simp)
  exact ⟨Pubkey.toBytes_inj hncn, leBytes_inj hepoch hepoch' (List.append_inj_left h (by simp))⟩

end Inverse

/-- The kinds of accounts. -/
inductive AccountKind where
  | config
  | vaultRegistry
  | accountPayer
  | epochState
  | single (k : Single)
  | operatorSnapshot
  | operatorVaultRewardRouter
  | consensusResult
  | ncnRewardReceiver
  | operatorVaultRewardReceiver
  | epochMarker
deriving DecidableEq

/-- How many bytes the seeds of a kind of account have in all: a text, keys of 32 bytes, and an epoch of eight. -/
def AccountKind.seedsLength : AccountKind → ℕ
  | config => 6 + 32
  | vaultRegistry => 14 + 32
  | accountPayer => 13 + 32 + 32
  | epochState => 11 + 32 + 8
  | single .weightTable => 12 + 32 + 8
  | single .epochSnapshot => 14 + 32 + 8
  | single .ballotBox => 10 + 32 + 8
  | single .ncnRewardRouter => 17 + 32 + 8
  | operatorSnapshot => 17 + 32 + 32 + 8
  | operatorVaultRewardRouter => 27 + 32 + 32 + 8
  | consensusResult => 16 + 32 + 8
  | ncnRewardReceiver => 19 + 32 + 8
  | operatorVaultRewardReceiver => 30 + 32 + 32 + 8
  | epochMarker => 12 + 32 + 8 + 32

/-- The length of the seeds tells the kind of account. -/
lemma AccountKind.eq_of_seedsLength {k l : AccountKind} (h : k.seedsLength = l.seedsLength) : k = l := by
  rcases k with _ | _ | _ | _ | (_ | _ | _ | _) | _ | _ | _ | _ | _ | _ <;>
    rcases l with _ | _ | _ | _ | (_ | _ | _ | _) | _ | _ | _ | _ | _ | _ <;>
      first | rfl | cases h

namespace Address

/-- The kind of the account. -/
def kind : Address → AccountKind
  | config _ => .config
  | vaultRegistry _ => .vaultRegistry
  | accountPayer _ => .accountPayer
  | epochState _ _ => .epochState
  | single k _ _ => .single k
  | operatorSnapshot _ _ _ => .operatorSnapshot
  | operatorVaultRewardRouter _ _ _ => .operatorVaultRewardRouter
  | consensusResult _ _ => .consensusResult
  | ncnRewardReceiver _ _ => .ncnRewardReceiver
  | operatorVaultRewardReceiver _ _ _ => .operatorVaultRewardReceiver
  | epochMarker _ _ => .epochMarker

/-- The seeds of the account. -/
def seeds : Address → List (List UInt8)
  | config ncn => Config.seeds ncn
  | vaultRegistry ncn => VaultRegistry.seeds ncn
  | accountPayer ncn => AccountPayer.seeds ncn
  | epochState ncn epoch => EpochState.seeds ncn epoch
  | single .weightTable ncn epoch => WeightTable.seeds ncn epoch
  | single .epochSnapshot ncn epoch => EpochSnapshot.seeds ncn epoch
  | single .ballotBox ncn epoch => BallotBox.seeds ncn epoch
  | single .ncnRewardRouter ncn epoch => NCNRewardRouter.seeds ncn epoch
  | operatorSnapshot operator ncn epoch => OperatorSnapshot.seeds operator ncn epoch
  | operatorVaultRewardRouter operator ncn epoch => OperatorVaultRewardRouter.seeds operator ncn epoch
  | consensusResult ncn epoch => ConsensusResult.seeds ncn epoch
  | ncnRewardReceiver ncn epoch => NCNRewardReceiver.seeds ncn epoch
  | operatorVaultRewardReceiver operator ncn epoch => OperatorVaultRewardReceiver.seeds operator ncn epoch
  | epochMarker ncn epoch => EpochMarker.seeds ncn epoch

/-- The epoch of the account, if it has one, is a `u64`. -/
def EpochFits (a : Address) : Prop := ∀ epoch ∈ a.epoch, epoch < 2 ^ 64

/-- The length of the seeds depends on the kind alone. -/
lemma length_seeds (a : Address) : a.seeds.flatten.length = a.kind.seedsLength := by
  have hn : ∀ seed ncn, (ncnSeeds seed ncn).flatten.length = (byteString seed).length + 32 := by
    intro seed ncn
    simp [ncnSeeds]
  have he : ∀ seed ncn epoch, (epochSeeds seed ncn epoch).flatten.length = (byteString seed).length + 32 + 8 := by
    intro seed ncn epoch
    simp [epochSeeds]
  have ho : ∀ seed operator ncn epoch, (operatorSeeds seed operator ncn epoch).flatten.length =
      (byteString seed).length + 32 + 32 + 8 := by
    intro seed operator ncn epoch
    simp [operatorSeeds]
  cases a with
  | config => exact hn _ _
  | vaultRegistry => exact hn _ _
  | accountPayer ncn =>
    simp [seeds, AccountPayer.seeds]
    rfl
  | epochState => exact he _ _ _
  | single k => cases k <;> exact he _ _ _
  | operatorSnapshot => exact ho _ _ _ _
  | operatorVaultRewardRouter => exact ho _ _ _ _
  | consensusResult => exact he _ _ _
  | ncnRewardReceiver => exact he _ _ _
  | operatorVaultRewardReceiver => exact ho _ _ _ _
  | epochMarker ncn epoch =>
    simp [seeds, EpochMarker.seeds]
    rfl

end Address

/-- The seeds of two accounts of the same kind are equal only if the accounts are. -/
lemma Address.eq_of_kind {a b : Address} (ha : a.EpochFits) (hb : b.EpochFits) (hkind : a.kind = b.kind)
    (h : a.seeds.flatten = b.seeds.flatten) : a = b := by
  cases a <;> cases b <;> try cases hkind
  case config => rw [ncnSeeds_inj h]
  case vaultRegistry => rw [ncnSeeds_inj h]
  case accountPayer => rw [AccountPayer.seeds_inj h]
  case epochState =>
    obtain ⟨rfl, rfl⟩ := epochSeeds_inj (ha _ rfl) (hb _ rfl) h
    rfl
  case single k _ _ _ _ =>
    cases k <;>
    · obtain ⟨rfl, rfl⟩ := epochSeeds_inj (ha _ rfl) (hb _ rfl) h
      rfl
  case operatorSnapshot =>
    obtain ⟨rfl, rfl, rfl⟩ := operatorSeeds_inj (ha _ rfl) (hb _ rfl) h
    rfl
  case operatorVaultRewardRouter =>
    obtain ⟨rfl, rfl, rfl⟩ := operatorSeeds_inj (ha _ rfl) (hb _ rfl) h
    rfl
  case consensusResult =>
    obtain ⟨rfl, rfl⟩ := epochSeeds_inj (ha _ rfl) (hb _ rfl) h
    rfl
  case ncnRewardReceiver =>
    obtain ⟨rfl, rfl⟩ := epochSeeds_inj (ha _ rfl) (hb _ rfl) h
    rfl
  case operatorVaultRewardReceiver =>
    obtain ⟨rfl, rfl, rfl⟩ := operatorSeeds_inj (ha _ rfl) (hb _ rfl) h
    rfl
  case epochMarker =>
    obtain ⟨rfl, rfl⟩ := EpochMarker.seeds_inj (ha _ rfl) (hb _ rfl) h
    rfl

/-- The addresses of the program's accounts cannot be confused: the concatenations of the seeds of two accounts
are equal only if the accounts are of the same kind and belong to the same NCN, operator and epoch. -/
theorem seeds_eq_iff {a b : Address} (ha : a.EpochFits) (hb : b.EpochFits) :
    a.seeds.flatten = b.seeds.flatten ↔ a = b := by
  constructor
  · intro h
    have hkind : a.kind = b.kind := by
      apply AccountKind.eq_of_seedsLength
      rw [← a.length_seeds, ← b.length_seeds, h]
    exact Address.eq_of_kind ha hb hkind h
  · rintro rfl
    rfl

/-- Exchanging the operator and the NCN gives the snapshot of another operator. -/
theorem seeds_eq_iff_exchanged :
    (Address.operatorSnapshot 1 2 7).seeds.flatten ≠ (Address.operatorSnapshot 2 1 7).seeds.flatten := fun h =>
  absurd ((seeds_eq_iff (by rintro _ ⟨⟩; decide) (by rintro _ ⟨⟩; decide)).1 h) (by decide)

end NcnProgram
