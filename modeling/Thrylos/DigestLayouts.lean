import Thrylos.Library.Framing
import Thrylos.ProposerAgreement
import Thrylos.TransactionValidator

/-!
What the digests of votes, headers and transactions say of the fields under them. Most fields are
written without a length, so equal digests mean equal fields only when the fields are equally long.
-/

namespace Thrylos

open BigEndian (decode fixed fixed_inj fixed_length)
open GoText (ascii)
open Framing (parts_eq_iff)

@[simp] theorem fixed_uint64 {first second : UInt64} :
    fixed 8 first.toNat = fixed 8 second.toNat ↔ first = second := by
  rw [fixed_inj first.toNat_lt second.toNat_lt, UInt64.toNat_inj]

@[simp] theorem toUInt64_inj {first second : Int64} :
    first.toUInt64 = second.toUInt64 ↔ first = second := by
  cases first
  cases second
  simp

section Votes

variable (cfg : EngineConfig)

def voteParts (vote : Vote) : List Bytes :=
  [domainVote, cfg.chainID, vote.validatorAddress, vote.sourceBlockHash, vote.targetBlockHash,
    fixed 8 vote.sourceEpoch.toNat, fixed 8 vote.targetEpoch.toNat]

def Vote.Agrees (first second : Vote) : Prop :=
  first.validatorAddress = second.validatorAddress ∧
  first.sourceBlockHash = second.sourceBlockHash ∧
  first.targetBlockHash = second.targetBlockHash ∧
  first.sourceEpoch = second.sourceEpoch ∧ first.targetEpoch = second.targetEpoch

theorem computeVoteHash_parts (vote : Vote) :
    computeVoteHash cfg vote = cfg.keccak256 (voteParts cfg vote).flatten := by
  simp [computeVoteHash, voteParts]

theorem votes_agree_iff_equally_long (collisionFree : Function.Injective cfg.keccak256)
    {first second : Vote} (same : computeVoteHash cfg first = computeVoteHash cfg second) :
    first.Agrees second ↔ first.validatorAddress.length = second.validatorAddress.length ∧
        first.sourceBlockHash.length = second.sourceBlockHash.length := by
  rw [computeVoteHash_parts, computeVoteHash_parts] at same
  have bytes := collisionFree same
  have total := congrArg List.length bytes
  have agrees : first.Agrees second ↔ voteParts cfg first = voteParts cfg second := by
    simp [Vote.Agrees, voteParts]
  rw [agrees, parts_eq_iff bytes]
  simp only [voteParts, List.flatten_cons, List.length_append, fixed_length] at total
  simp only [voteParts, List.map_cons, List.cons.injEq, fixed_length, true_and, and_true]
  omega

def sampleHashing : EngineConfig := { sampleEngineConfig with toNodeConfig := sampleConfig }

theorem a_vote_signed_again_agrees :
    (Vote.mk [97] [1, 2] [3] 1 2 []).Agrees (Vote.mk [97] [1, 2] [3] 1 2 [9]) :=
  (votes_agree_iff_equally_long sampleHashing Function.injective_id rfl).mpr ⟨rfl, rfl⟩

/-- A byte moved from the source block to the target block leaves the signature valid. -/
theorem two_votes_share_a_hash : Function.Injective sampleHashing.keccak256 ∧
      computeVoteHash sampleHashing (.mk [97] [1, 2] [3] 1 2 []) =
        computeVoteHash sampleHashing (.mk [97] [1] [2, 3] 1 2 []) ∧
      ¬ (Vote.mk [97] [1, 2] [3] 1 2 []).Agrees (.mk [97] [1] [2, 3] 1 2 []) := by
  refine ⟨Function.injective_id, rfl, ?_⟩
  rintro ⟨_, source, _⟩
  cases source

end Votes

section Headers

variable {cfg : NodeConfig}

def headerParts (header : BlockHeader) (fees : Bytes) : List Bytes :=
  [fixed 8 header.index.toUInt64.toNat, header.prevHash,
    fixed 8 header.timestamp.toUInt64.toNat, header.validator, header.txRoot,
    versionBytes header, header.stateRoot, fixed 8 header.gasUsed.toUInt64.toNat,
    fixed 8 header.gasLimit.toUInt64.toNat, fixed 8 header.slot.toNat,
    fixed 8 header.epoch.toNat, fees, header.merkleRoot, header.vrfOutput,
    header.vrfProof]

/-- The fees are compared as a number. -/
def BlockHeader.Agrees (first second : BlockHeader) : Prop :=
  first.index = second.index ∧ first.prevHash = second.prevHash ∧
  first.timestamp = second.timestamp ∧ first.validator = second.validator ∧
  first.txRoot = second.txRoot ∧ first.stateRoot = second.stateRoot ∧
  first.gasUsed = second.gasUsed ∧ first.gasLimit = second.gasLimit ∧
  first.slot = second.slot ∧ first.epoch = second.epoch ∧
  parseBigInt first.totalFees = parseBigInt second.totalFees ∧
  first.merkleRoot = second.merkleRoot ∧ first.vrfOutput = second.vrfOutput ∧
  first.vrfProof = second.vrfProof

def BlockHeader.EquallyLong (first second : BlockHeader) : Prop :=
  first.prevHash.length = second.prevHash.length ∧
  first.validator.length = second.validator.length ∧
  first.txRoot.length = second.txRoot.length ∧
  first.stateRoot.length = second.stateRoot.length ∧
  first.merkleRoot.length = second.merkleRoot.length ∧
  first.vrfOutput.length = second.vrfOutput.length ∧
  first.vrfProof.length = second.vrfProof.length

theorem hashInput_parts {header : BlockHeader} {bytes : Bytes} (encoded : hashInput header = .ok bytes) :
    ∃ fees, totalFeesBytes header = .ok fees ∧ (headerParts header fees).flatten = bytes := by
  unfold hashInput at encoded
  cases fees : totalFeesBytes header with
  | error => rw [fees] at encoded; cases encoded
  | ok fees' =>
    rw [fees] at encoded
    rw [← Except.ok.inj encoded]
    simp [headerParts, headBytes, gasBytes, tailBytes]

theorem canonicalBlockHash_input {blk : Block} {digest : Bytes}
    (hashed : canonicalBlockHash cfg blk = .ok digest) :
    ∃ bytes, hashInput blk.header = .ok bytes ∧ hexBytes (cfg.keccak256 bytes) = digest := by
  unfold canonicalBlockHash at hashed
  cases encoded : hashInput blk.header with
  | error => rw [encoded] at hashed; cases hashed
  | ok bytes =>
    rw [encoded] at hashed
    exact ⟨bytes, rfl, Except.ok.inj hashed⟩

theorem BlockHeader.EquallyLong.parts_eq {first second : BlockHeader} {fees others : Bytes}
    (equal : first.EquallyLong second)
    (version : first.stateEncodingVersion = second.stateEncodingVersion)
    (same : (headerParts first fees).flatten = (headerParts second others).flatten) :
    headerParts first fees = headerParts second others := by
  obtain ⟨prevHash, val, txRoot, stateRoot, merkleRoot, output, proof⟩ := equal
  have total := congrArg List.length same
  have versions : versionBytes first = versionBytes second := by
    simp only [versionBytes, hashesVersion, version]
  -- The fees are as long as each other because everything else is.
  refine (parts_eq_iff same).mpr ?_
  simp only [headerParts, versions, List.flatten_cons, List.length_append, fixed_length] at total
  simp only [headerParts, versions, List.map_cons, List.cons.injEq, fixed_length, true_and, and_true]
  omega

theorem parseBigInt_of_totalFeesBytes {first second : BlockHeader} {fees : Bytes}
    (version : first.stateEncodingVersion = second.stateEncodingVersion)
    (read : totalFeesBytes first = .ok fees) (readSecond : totalFeesBytes second = .ok fees) :
    parseBigInt first.totalFees = parseBigInt second.totalFees := by
  have versions : hashesVersion first ↔ hashesVersion second := by
    unfold hashesVersion
    rw [version]
  unfold totalFeesBytes at read readSecond
  split at read
  · rename_i versioned
    rw [if_pos (versions.mp versioned)] at readSecond
    split at read <;> try contradiction
    rename_i canonical ok
    split at readSecond <;> try contradiction
    rename_i other acceptedSecond
    have same := (Except.ok.inj read).trans (Except.ok.inj readSecond).symm
    obtain rfl := (List.append_inj same (by simp)).2
    have numbers := (canonicalizeUint256Bytes_ok ok).symm.trans
      (canonicalizeUint256Bytes_ok acceptedSecond)
    simpa using congrArg decode numbers
  · rename_i legacy
    rw [if_neg (mt versions.mpr legacy)] at readSecond
    rw [Except.ok.inj read, Except.ok.inj readSecond]

theorem headers_agree_iff_equally_long (collisionFree : Function.Injective cfg.keccak256)
    {first second : Block} {digest : Bytes}
    (version : first.header.stateEncodingVersion = second.header.stateEncodingVersion)
    (hashed : canonicalBlockHash cfg first = .ok digest)
    (hashedSecond : canonicalBlockHash cfg second = .ok digest) :
    first.header.Agrees second.header ↔ first.header.EquallyLong second.header := by
  obtain ⟨bytes, encoded, digested⟩ := canonicalBlockHash_input hashed
  obtain ⟨others, encodedSecond, digestedSecond⟩ := canonicalBlockHash_input hashedSecond
  obtain rfl := collisionFree (hexBytes_injective (digested.trans digestedSecond.symm))
  obtain ⟨fees, read, flat⟩ := hashInput_parts encoded
  obtain ⟨fees', readSecond, flatSecond⟩ := hashInput_parts encodedSecond
  constructor
  · rintro ⟨_, prevHash, _, val, txRoot, stateRoot, _, _, _, _, _, merkleRoot, output, proof⟩
    simp [BlockHeader.EquallyLong, *]
  · intro equal
    have parts := equal.parts_eq version (flat.trans flatSecond.symm)
    simp only [headerParts, List.cons.injEq, fixed_uint64, toUInt64_inj, and_true] at parts
    obtain ⟨index, prevHash, timestamp, val, txRoot, _, stateRoot, gasUsed, gasLimit, slot, epoch, rfl,
      merkleRoot, output, proof⟩ := parts
    exact ⟨index, prevHash, timestamp, val, txRoot, stateRoot, gasUsed, gasLimit, slot, epoch,
      parseBigInt_of_totalFeesBytes version read readSecond, merkleRoot, output, proof⟩

def sampleNamed (val txRoot signature : Bytes) : Block :=
  let blk := sampleBlock 1 [7] [] []
  { blk with signature, header := { blk.header with validator := val, txRoot := txRoot } }

theorem a_block_signed_again_agrees :
    (sampleNamed [97] [98] []).header.Agrees (sampleNamed [97] [98] [9]).header :=
  have hashed : canonicalBlockHash sampleConfig (sampleNamed [97] [98] [9]) = _ := rfl
  (headers_agree_iff_equally_long Function.injective_id rfl rfl hashed).mpr
    ⟨rfl, rfl, rfl, rfl, rfl, rfl, rfl⟩

theorem two_headers_share_a_hash : Function.Injective sampleConfig.keccak256 ∧
      (sampleNamed [97] [98] []).header.stateEncodingVersion =
        (sampleNamed [97, 98] [] []).header.stateEncodingVersion ∧
      (∃ digest, canonicalBlockHash sampleConfig (sampleNamed [97] [98] []) = .ok digest ∧
        canonicalBlockHash sampleConfig (sampleNamed [97, 98] [] []) = .ok digest) ∧
      ¬ (sampleNamed [97] [98] []).header.Agrees (sampleNamed [97, 98] [] []).header := by
  refine ⟨Function.injective_id, rfl, ⟨_, rfl, rfl⟩, ?_⟩
  rintro ⟨_, _, _, val, _⟩
  cases val

end Headers

namespace TransactionValidator

section

variable (cfg : ValidatorConfig)

/-- The transaction as `calculateSignableHash` leaves it: normal amounts from version 2 on. -/
def signedForm (tx : Transaction) : Except String Transaction :=
  if 2 ≤ transactionEncodingVersion tx then normalizeTransactionAmounts tx else .ok tx

/-- What `calculateSignableHash` hashes. -/
def signablePreimage (tx : Transaction) : Bytes :=
  if 2 ≤ transactionEncodingVersion tx then
    cfg.chainID ++ ascii "v3" ++ encodingVersionBytes tx ++ hashedFields tx
  else cfg.chainID ++ ascii "v1" ++ hashedFields tx

def amountLength (tx : Transaction) (amt : Bytes) : Bytes :=
  if 2 ≤ transactionEncodingVersion tx then fixed 2 amt.length else []

def signableParts (tx : Transaction) : List Bytes :=
  [cfg.chainID, if 2 ≤ transactionEncodingVersion tx then ascii "v3" else ascii "v1",
    if 2 ≤ transactionEncodingVersion tx then encodingVersionBytes tx else [],
    tx.id, tx.fromAddr, tx.toAddr, amountLength tx tx.amount, tx.amount,
    fixed 8 tx.gas.toUInt64.toNat, amountLength tx tx.gasPrice, tx.gasPrice,
    fixed 8 tx.nonce.toNat, fixed 4 (typeCode tx.type % 2 ^ 32).toNat,
    fixed 8 tx.timestamp.toUInt64.toNat, tx.data]

/-- The type is compared as the 32 bits it is kept in. -/
def Agree (first second : Transaction) : Prop :=
  first.id = second.id ∧ first.fromAddr = second.fromAddr ∧ first.toAddr = second.toAddr ∧
  first.amount = second.amount ∧ first.gas = second.gas ∧ first.gasPrice = second.gasPrice ∧
  first.nonce = second.nonce ∧ typeCode first.type % 2 ^ 32 = typeCode second.type % 2 ^ 32 ∧
  first.timestamp = second.timestamp ∧ first.data = second.data

def EquallyLong (first second : Transaction) : Prop :=
  first.id.length = second.id.length ∧ first.fromAddr.length = second.fromAddr.length ∧
  first.toAddr.length = second.toAddr.length ∧ first.amount.length = second.amount.length ∧
  first.gasPrice.length = second.gasPrice.length

theorem calculateSignableHash_preimage (tx : Transaction) :
    calculateSignableHash cfg tx = cfg.keccak256 (signablePreimage cfg tx) := by
  unfold calculateSignableHash signablePreimage
  split <;> rfl

theorem signablePreimage_parts (tx : Transaction) :
    signablePreimage cfg tx = (signableParts cfg tx).flatten := by
  unfold signablePreimage signableParts hashedFields amountLength
  split <;> simp [nonceTypeTimeData, lengthPrefixed]

theorem signedForm_version {tx form : Transaction} (formed : signedForm tx = .ok form) :
    transactionEncodingVersion form = transactionEncodingVersion tx := by
  unfold signedForm at formed
  split at formed
  · rw [normalizeTransactionAmounts_ok formed]
    rfl
  · rw [Except.ok.inj formed]

theorem fixed_typeCode {first second : TransactionType} : fixed 4 (typeCode first % 2 ^ 32).toNat =
      fixed 4 (typeCode second % 2 ^ 32).toNat ↔
        typeCode first % 2 ^ 32 = typeCode second % 2 ^ 32 := by
  rw [fixed_inj (by omega) (by omega)]
  omega

theorem transactions_agree_iff_equally_long {first second form other : Transaction}
    (version : transactionEncodingVersion first = transactionEncodingVersion second)
    (formed : signedForm first = .ok form) (formedSecond : signedForm second = .ok other)
    (same : signablePreimage cfg form = signablePreimage cfg other) :
    Agree form other ↔ EquallyLong form other := by
  rw [← signedForm_version formed, ← signedForm_version formedSecond] at version
  rw [signablePreimage_parts, signablePreimage_parts] at same
  have total := congrArg List.length same
  constructor
  · rintro ⟨id, sender, receiver, amt, _, gasPrice, _⟩
    simp [EquallyLong, *]
  · rintro ⟨id, sender, receiver, amt, gasPrice⟩
    have parts := (parts_eq_iff same).mpr (by
      simp only [signableParts, amountLength, encodingVersionBytes, version, amt, gasPrice, List.flatten_cons,
        List.length_append, fixed_length] at total
      simp only [signableParts, amountLength, encodingVersionBytes, version, amt, gasPrice, List.map_cons,
        List.cons.injEq, fixed_length, true_and, and_true]
      omega)
    simp only [signableParts, amountLength, encodingVersionBytes, version, amt, gasPrice,
      List.cons.injEq, fixed_uint64, toUInt64_inj, fixed_typeCode, true_and, and_true] at parts
    exact parts

end

def sampleStaking (version : UInt32) (id receiver signature : Bytes) : Transaction :=
  { sampleTransaction .stake [5] 0 with
    id, signature, toAddr := receiver, timestamp := 1, encodingVersion := version }

theorem a_stake_signed_again_agrees :
    Agree (sampleStaking 2 [1] [] [8]) (sampleStaking 2 [1] [] [9]) := by
  have formed : signedForm (sampleStaking 2 [1] [] [8]) = .ok (sampleStaking 2 [1] [] [8]) := by
    decide +kernel
  have again : signedForm (sampleStaking 2 [1] [] [9]) = .ok (sampleStaking 2 [1] [] [9]) := by
    decide +kernel
  exact (transactions_agree_iff_equally_long sampleValidating.toValidatorConfig (by rfl) formed again
    rfl).mpr ⟨rfl, rfl, rfl, rfl, rfl⟩

def ShareSignature (first second : Transaction) : Prop :=
  let cfg := sampleValidating.toValidatorConfig
  validateStructure cfg 1 first = .ok () ∧ validateStructure cfg 1 second = .ok () ∧
    signedForm first = .ok first ∧ signedForm second = .ok second ∧
    signablePreimage cfg first = signablePreimage cfg second ∧ first.id ≠ second.id

/-- The sender's address at the end of the id, or as the receiver, which a stake does not look at. -/
theorem two_stakes_share_a_signature :
    ShareSignature (sampleStaking 2 ([1] ++ sampleAddress 97) [] [8])
        (sampleStaking 2 [1] (sampleAddress 97) [8]) ∧
      ShareSignature (sampleStaking 1 ([1] ++ sampleAddress 97) [] [8])
        (sampleStaking 1 [1] (sampleAddress 97) [8]) := by
  unfold ShareSignature
  decide +kernel

end TransactionValidator

end Thrylos
