import NcnProgram.Lib.Codec
import NcnProgram.Program.Addresses

/-!
# The instructions on the wire

Port of `NCNProgramInstruction`. The data of an instruction is its Borsh encoding: one byte for the kind, then the
fields in their order. `process_instruction` reads it with `try_from_slice`. The clients do not share that code:
each of their instructions has its discriminator written out, and its arguments in a struct of their own. The bytes
they send are read as the instruction that was meant, and no other bytes are read as one.
-/

namespace NcnProgram
open Lib Lib.Codec

/-- The format of a `u16`. -/
abbrev u16 : Codec (BitVec 16) := uint 2

/-- The format of a `u64`. -/
abbrev u64 : Codec (BitVec 64) := uint 8

/-- The format of a `u128`. -/
abbrev u128 : Codec (BitVec 128) := uint 16

/-- The format of a key. -/
def Pubkey.codec : Codec Pubkey :=
  fixed 32 Pubkey.toBytes (fun bytes => BitVec.ofNat 256 (ofLeBytes bytes.reverse)) Pubkey.length_toBytes
    (by
      intro key
      have hkey : key.toNat < 256 ^ 32 := key.isLt
      rw [toBytes, List.reverse_reverse, ofLeBytes_leBytes hkey, BitVec.ofNat_toNat, BitVec.setWidth_eq])
    (by
      intro bytes hlen
      have hlt : ofLeBytes bytes.reverse < 2 ^ 256 := by
        have hlt := ofLeBytes_lt bytes.reverse
        rwa [List.length_reverse, hlen] at hlt
      have hback := leBytes_ofLeBytes bytes.reverse
      rw [List.length_reverse, hlen] at hback
      rw [toBytes, BitVec.toNat_ofNat, Nat.mod_eq_of_lt hlt, hback, List.reverse_reverse])

/-- The roles that the admin of an NCN can give away. -/
inductive ConfigAdminRole
  | tieBreakerAdmin
  deriving DecidableEq, Repr

/-- The format of a role: the number of its variant. -/
def ConfigAdminRole.codec : Codec ConfigAdminRole :=
  (fin 1 (by decide)).map (fun _ => .tieBreakerAdmin) (fun _ => 0) (fun _ => rfl)
    (fun i => (Fin.fin_one_eq_zero i).symm)

/-- The instructions, in the order of the source. -/
inductive NCNProgramInstruction
  | initializeConfig (epochsBeforeStall epochsAfterConsensusBeforeClose validSlotsAfterConsensus : BitVec 64)
      (ncnFeeBps : BitVec 16)
  | initializeVaultRegistry
  | reallocVaultRegistry
  | registerVault
  | initializeEpochState (epoch : BitVec 64)
  | initializeWeightTable (epoch : BitVec 64)
  | setEpochWeights (epoch : BitVec 64)
  | reallocWeightTable (epoch : BitVec 64)
  | initializeEpochSnapshot (epoch : BitVec 64)
  | initializeOperatorSnapshot (epoch : BitVec 64)
  | snapshotVaultOperatorDelegation (epoch : BitVec 64)
  | initializeBallotBox (epoch : BitVec 64)
  | reallocBallotBox (epoch : BitVec 64)
  | castVote (weatherStatus : UInt8) (epoch : BitVec 64)
  | initializeNcnRewardRouter (epoch : BitVec 64)
  | reallocNcnRewardRouter (epoch : BitVec 64)
  | routeNcnRewards (maxIterations : BitVec 16) (epoch : BitVec 64)
  | distributeProtocolRewards (epoch : BitVec 64)
  | distributeNcnRewards (epoch : BitVec 64)
  | initializeOperatorVaultRewardRouter (epoch : BitVec 64)
  | distributeOperatorVaultRewardRoute (epoch : BitVec 64)
  | routeOperatorVaultRewards (maxIterations : BitVec 16) (epoch : BitVec 64)
  | closeEpochAccount (epoch : BitVec 64)
  | distributeOperatorRewards (epoch : BitVec 64)
  | distributeVaultRewards (epoch : BitVec 64)
  | adminSetParameters
      (startingValidEpoch epochsBeforeStall epochsAfterConsensusBeforeClose validSlotsAfterConsensus :
        Option (BitVec 64))
  | adminSetNewAdmin (role : ConfigAdminRole)
  | adminSetTieBreaker (weatherStatus : UInt8) (epoch : BitVec 64)
  | adminSetWeight (stMint : Pubkey) (weight : BitVec 128) (epoch : BitVec 64)
  | adminRegisterStMint (weight : Option (BitVec 128))
  | adminSetStMint (stMint : Pubkey) (weight : Option (BitVec 128))
  deriving DecidableEq

namespace NCNProgramInstruction

/-- The byte for the kind of an instruction: its place in the source. -/
def tag (i : NCNProgramInstruction) : UInt8 := UInt8.ofNat i.ctorIdx

/-- The fields as the derived `BorshSerialize` writes them. -/
def writeFields : NCNProgramInstruction → List UInt8
  | .initializeConfig epochsBeforeStall epochsAfterConsensusBeforeClose validSlotsAfterConsensus ncnFeeBps =>
    (u64.pair (u64.pair (u64.pair u16))).write
      (epochsBeforeStall, epochsAfterConsensusBeforeClose, validSlotsAfterConsensus, ncnFeeBps)
  | .initializeVaultRegistry => empty.write ()
  | .reallocVaultRegistry => empty.write ()
  | .registerVault => empty.write ()
  | .initializeEpochState epoch => u64.write epoch
  | .initializeWeightTable epoch => u64.write epoch
  | .setEpochWeights epoch => u64.write epoch
  | .reallocWeightTable epoch => u64.write epoch
  | .initializeEpochSnapshot epoch => u64.write epoch
  | .initializeOperatorSnapshot epoch => u64.write epoch
  | .snapshotVaultOperatorDelegation epoch => u64.write epoch
  | .initializeBallotBox epoch => u64.write epoch
  | .reallocBallotBox epoch => u64.write epoch
  | .castVote weatherStatus epoch => (byte.pair u64).write (weatherStatus, epoch)
  | .initializeNcnRewardRouter epoch => u64.write epoch
  | .reallocNcnRewardRouter epoch => u64.write epoch
  | .routeNcnRewards maxIterations epoch => (u16.pair u64).write (maxIterations, epoch)
  | .distributeProtocolRewards epoch => u64.write epoch
  | .distributeNcnRewards epoch => u64.write epoch
  | .initializeOperatorVaultRewardRouter epoch => u64.write epoch
  | .distributeOperatorVaultRewardRoute epoch => u64.write epoch
  | .routeOperatorVaultRewards maxIterations epoch => (u16.pair u64).write (maxIterations, epoch)
  | .closeEpochAccount epoch => u64.write epoch
  | .distributeOperatorRewards epoch => u64.write epoch
  | .distributeVaultRewards epoch => u64.write epoch
  | .adminSetParameters startingValidEpoch epochsBeforeStall epochsAfterConsensusBeforeClose
      validSlotsAfterConsensus =>
    (u64.option.pair (u64.option.pair (u64.option.pair u64.option))).write
      (startingValidEpoch, epochsBeforeStall, epochsAfterConsensusBeforeClose, validSlotsAfterConsensus)
  | .adminSetNewAdmin role => ConfigAdminRole.codec.write role
  | .adminSetTieBreaker weatherStatus epoch => (byte.pair u64).write (weatherStatus, epoch)
  | .adminSetWeight stMint weight epoch => (Pubkey.codec.pair (u128.pair u64)).write (stMint, weight, epoch)
  | .adminRegisterStMint weight => u128.option.write weight
  | .adminSetStMint stMint weight => (Pubkey.codec.pair u128.option).write (stMint, weight)

/-- The fields as the derived `BorshDeserialize` reads them once the byte for the kind is read. -/
def readFields (tag : UInt8) : List UInt8 → Option (NCNProgramInstruction × List UInt8) :=
  match tag with
  | 0 => (u64.pair (u64.pair (u64.pair u16))).arm
      fun (epochsBeforeStall, epochsAfterConsensusBeforeClose, validSlotsAfterConsensus, ncnFeeBps) =>
        .initializeConfig epochsBeforeStall epochsAfterConsensusBeforeClose validSlotsAfterConsensus ncnFeeBps
  | 1 => empty.arm (fun _ => .initializeVaultRegistry)
  | 2 => empty.arm (fun _ => .reallocVaultRegistry)
  | 3 => empty.arm (fun _ => .registerVault)
  | 4 => u64.arm .initializeEpochState
  | 5 => u64.arm .initializeWeightTable
  | 6 => u64.arm .setEpochWeights
  | 7 => u64.arm .reallocWeightTable
  | 8 => u64.arm .initializeEpochSnapshot
  | 9 => u64.arm .initializeOperatorSnapshot
  | 10 => u64.arm .snapshotVaultOperatorDelegation
  | 11 => u64.arm .initializeBallotBox
  | 12 => u64.arm .reallocBallotBox
  | 13 => (byte.pair u64).arm fun (weatherStatus, epoch) => .castVote weatherStatus epoch
  | 14 => u64.arm .initializeNcnRewardRouter
  | 15 => u64.arm .reallocNcnRewardRouter
  | 16 => (u16.pair u64).arm fun (maxIterations, epoch) => .routeNcnRewards maxIterations epoch
  | 17 => u64.arm .distributeProtocolRewards
  | 18 => u64.arm .distributeNcnRewards
  | 19 => u64.arm .initializeOperatorVaultRewardRouter
  | 20 => u64.arm .distributeOperatorVaultRewardRoute
  | 21 => (u16.pair u64).arm fun (maxIterations, epoch) => .routeOperatorVaultRewards maxIterations epoch
  | 22 => u64.arm .closeEpochAccount
  | 23 => u64.arm .distributeOperatorRewards
  | 24 => u64.arm .distributeVaultRewards
  | 25 => (u64.option.pair (u64.option.pair (u64.option.pair u64.option))).arm
      fun (startingValidEpoch, epochsBeforeStall, epochsAfterConsensusBeforeClose, validSlotsAfterConsensus) =>
        .adminSetParameters startingValidEpoch epochsBeforeStall epochsAfterConsensusBeforeClose
          validSlotsAfterConsensus
  | 26 => ConfigAdminRole.codec.arm .adminSetNewAdmin
  | 27 => (byte.pair u64).arm fun (weatherStatus, epoch) => .adminSetTieBreaker weatherStatus epoch
  | 28 => (Pubkey.codec.pair (u128.pair u64)).arm
      fun (stMint, weight, epoch) => .adminSetWeight stMint weight epoch
  | 29 => u128.option.arm .adminRegisterStMint
  | 30 => (Pubkey.codec.pair u128.option).arm fun (stMint, weight) => .adminSetStMint stMint weight
  | _ => fun _ => none

/-- What was written is read back. -/
lemma readFields_writeFields (i : NCNProgramInstruction) (rest : List UInt8) :
    readFields i.tag (i.writeFields ++ rest) = some (i, rest) := by
  cases i
  all_goals
    exact arm_write ..

/-- Nothing else is read. -/
lemma eq_of_readFields {tag : UInt8} {bytes rest : List UInt8} {i : NCNProgramInstruction}
    (h : readFields tag bytes = some (i, rest)) : tag = i.tag ∧ bytes = i.writeFields ++ rest := by
  unfold readFields at h
  split at h
  case h_32 => cases h
  all_goals
    obtain ⟨fields, rfl, rfl⟩ := arm_eq_some.1 h
    exact ⟨rfl, rfl⟩

/-- The format of an instruction. -/
def codec : Codec NCNProgramInstruction where
  write i := i.tag :: i.writeFields
  read
    | [] => none
    | tag :: bytes => readFields tag bytes
  read_write := readFields_writeFields
  write_of_read := by
    intro bytes i rest h
    cases bytes with
    | nil => cases h
    | cons tag bytes =>
      obtain ⟨rfl, rfl⟩ := eq_of_readFields h
      rfl

/-- How `process_instruction` reads its data. -/
def tryFromSlice : List UInt8 → Option NCNProgramInstruction := codec.decode

/-! ## The clients -/

/-- The bytes of an optional field. -/
def optionBytes {α : Type} (write : α → List UInt8) : Option α → List UInt8
  | none => [0]
  | some a => 1 :: write a

/-- The data that the generated client builds: the discriminator, and the arguments. -/
def clientData : NCNProgramInstruction → List UInt8
  | .initializeConfig epochsBeforeStall epochsAfterConsensusBeforeClose validSlotsAfterConsensus ncnFeeBps =>
    0 :: (leBytes 8 epochsBeforeStall.toNat ++ leBytes 8 epochsAfterConsensusBeforeClose.toNat ++
      leBytes 8 validSlotsAfterConsensus.toNat ++ leBytes 2 ncnFeeBps.toNat)
  | .initializeVaultRegistry => [1]
  | .reallocVaultRegistry => [2]
  | .registerVault => [3]
  | .initializeEpochState epoch => 4 :: leBytes 8 epoch.toNat
  | .initializeWeightTable epoch => 5 :: leBytes 8 epoch.toNat
  | .setEpochWeights epoch => 6 :: leBytes 8 epoch.toNat
  | .reallocWeightTable epoch => 7 :: leBytes 8 epoch.toNat
  | .initializeEpochSnapshot epoch => 8 :: leBytes 8 epoch.toNat
  | .initializeOperatorSnapshot epoch => 9 :: leBytes 8 epoch.toNat
  | .snapshotVaultOperatorDelegation epoch => 10 :: leBytes 8 epoch.toNat
  | .initializeBallotBox epoch => 11 :: leBytes 8 epoch.toNat
  | .reallocBallotBox epoch => 12 :: leBytes 8 epoch.toNat
  | .castVote weatherStatus epoch => 13 :: weatherStatus :: leBytes 8 epoch.toNat
  | .initializeNcnRewardRouter epoch => 14 :: leBytes 8 epoch.toNat
  | .reallocNcnRewardRouter epoch => 15 :: leBytes 8 epoch.toNat
  | .routeNcnRewards maxIterations epoch => 16 :: (leBytes 2 maxIterations.toNat ++ leBytes 8 epoch.toNat)
  | .distributeProtocolRewards epoch => 17 :: leBytes 8 epoch.toNat
  | .distributeNcnRewards epoch => 18 :: leBytes 8 epoch.toNat
  | .initializeOperatorVaultRewardRouter epoch => 19 :: leBytes 8 epoch.toNat
  | .distributeOperatorVaultRewardRoute epoch => 20 :: leBytes 8 epoch.toNat
  | .routeOperatorVaultRewards maxIterations epoch =>
    21 :: (leBytes 2 maxIterations.toNat ++ leBytes 8 epoch.toNat)
  | .closeEpochAccount epoch => 22 :: leBytes 8 epoch.toNat
  | .distributeOperatorRewards epoch => 23 :: leBytes 8 epoch.toNat
  | .distributeVaultRewards epoch => 24 :: leBytes 8 epoch.toNat
  | .adminSetParameters startingValidEpoch epochsBeforeStall epochsAfterConsensusBeforeClose
      validSlotsAfterConsensus =>
    25 :: (optionBytes (leBytes 8 ·.toNat) startingValidEpoch ++
      optionBytes (leBytes 8 ·.toNat) epochsBeforeStall ++
      optionBytes (leBytes 8 ·.toNat) epochsAfterConsensusBeforeClose ++
      optionBytes (leBytes 8 ·.toNat) validSlotsAfterConsensus)
  | .adminSetNewAdmin .tieBreakerAdmin => 26 :: [0]
  | .adminSetTieBreaker weatherStatus epoch => 27 :: weatherStatus :: leBytes 8 epoch.toNat
  | .adminSetWeight stMint weight epoch =>
    28 :: (stMint.toBytes ++ leBytes 16 weight.toNat ++ leBytes 8 epoch.toNat)
  | .adminRegisterStMint weight => 29 :: optionBytes (leBytes 16 ·.toNat) weight
  | .adminSetStMint stMint weight => 30 :: (stMint.toBytes ++ optionBytes (leBytes 16 ·.toNat) weight)

/-- The client and the program agree on every instruction. -/
lemma write_eq_clientData (i : NCNProgramInstruction) : codec.write i = i.clientData := by
  cases i with
  | adminSetParameters =>
    rw [clientData, List.append_assoc, List.append_assoc]
    rfl
  | _ => rfl

/-- The program reads the bytes the clients send for an instruction as that instruction, and reads no others. -/
theorem tryFromSlice_eq_some_iff (data : List UInt8) (i : NCNProgramInstruction) :
    tryFromSlice data = some i ↔ data = i.clientData := by
  rw [← write_eq_clientData]
  exact decode_eq_some

end NCNProgramInstruction
end NcnProgram
