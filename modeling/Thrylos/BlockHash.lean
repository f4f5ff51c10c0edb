import Thrylos.StateRoot

/-!
`CanonicalBlockHash`, `core/block/hash.go`. From encoding version 2 on the header's version and the
length of the fees are hashed too.
-/

namespace Thrylos

variable (header : BlockHeader)

def hashesVersion : Prop := 2 ≤ header.stateEncodingVersion

instance (header : BlockHeader) : Decidable (hashesVersion header) := by
  unfold hashesVersion
  infer_instance

def versionBytes : Bytes :=
  if hashesVersion header then BigEndian.fixed 4 header.stateEncodingVersion.toNat else []

def totalFeesBytes : Except String Bytes :=
  if hashesVersion header then
    match canonicalizeUint256Bytes header.totalFees with
    | .error err => .error s!"failed to parse total fees: {err}"
    | .ok canonical => .ok (BigEndian.fixed 2 canonical.length ++ canonical)
  else .ok header.totalFees

def headBytes : Bytes :=
  BigEndian.fixed 8 header.index.toUInt64.toNat ++ header.prevHash ++
    BigEndian.fixed 8 header.timestamp.toUInt64.toNat ++ header.validator ++ header.txRoot

def gasBytes : Bytes :=
  BigEndian.fixed 8 header.gasUsed.toUInt64.toNat ++
    BigEndian.fixed 8 header.gasLimit.toUInt64.toNat ++
    BigEndian.fixed 8 header.slot.toNat ++ BigEndian.fixed 8 header.epoch.toNat

def tailBytes : Bytes :=
  header.merkleRoot ++ header.vrfOutput ++ header.vrfProof

def hashInput : Except String Bytes := do
  let fees ← totalFeesBytes header
  return headBytes header ++ versionBytes header ++ header.stateRoot ++ gasBytes header ++ fees ++
    tailBytes header

def canonicalBlockHash (cfg : NodeConfig) (blk : Block) : Except String Bytes := do
  let input ← hashInput blk.header
  return hexBytes (cfg.keccak256 input)

end Thrylos
