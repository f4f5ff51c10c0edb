import Thrylos.Slashing

/-!
What attestations and votes are signed over, `consensus/pos/consensus_signature.go`. The digest of
an attestation has the chain in it; the one evidence is checked against does not.
-/

namespace Thrylos

open GoText (ascii)

def domainAttestation : Bytes := ascii "THRYLOS_ATTESTATION_V1"

def domainVote : Bytes := ascii "THRYLOS_VOTE_V1"

variable (cfg : EngineConfig)

def computeAttestationHash (att : Attestation) : Bytes :=
  cfg.keccak256 (domainAttestation ++ cfg.chainID ++ att.validatorAddress ++
    att.blockHash ++ BigEndian.fixed 8 att.blockHeight.toUInt64.toNat ++
    BigEndian.fixed 8 att.epoch.toNat ++ BigEndian.fixed 8 att.slot.toNat ++
    BigEndian.fixed 8 att.timestamp.toUInt64.toNat)

def computeVoteHash (vote : Vote) : Bytes :=
  cfg.keccak256 (domainVote ++ cfg.chainID ++ vote.validatorAddress ++
    vote.sourceBlockHash ++ vote.targetBlockHash ++ BigEndian.fixed 8 vote.sourceEpoch.toNat ++
    BigEndian.fixed 8 vote.targetEpoch.toNat)

def signAttestation (privateKey : Bytes) (att : Attestation) : Except String Bytes := do
  let signature ← (signHash cfg.curve privateKey (computeAttestationHash cfg att)
    ).mapError ("signing failed: " ++ ·)
  return signature.bytes

def verifyDigest (pubkey hash signature : Bytes) (failed : String) : Except String Unit := do
  let pubKey ← (newPublicKeyFromBytes cfg.curve pubkey).mapError ("invalid public key: " ++ ·)
  if signature = [] then throw "missing signature"
  let sig ← (newSignatureFromBytes signature).mapError ("invalid signature format: " ++ ·)
  (verifyHash cfg.curve pubKey hash sig).mapError (failed ++ ·)

def verifyAttestationSignature (vals : ValidatorSet) (att : Attestation) : Except String Unit :=
  let addr := text att.validatorAddress
  match vals.find? att.validatorAddress with
  | none => .error s!"validator not found: validator {addr} not found"
  | some (_, val) =>
    if val.pubkey = [] then .error s!"validator {addr} has no public key"
    else verifyDigest cfg val.pubkey (computeAttestationHash cfg att)
      att.signature s!"invalid signature from {addr}: "

def verifyVoteSignature (vals : ValidatorSet) (vote : Vote) : Except String Unit :=
  match vals.find? vote.validatorAddress with
  | none =>
    .error s!"validator not found: validator {text vote.validatorAddress} not found"
  | some (_, val) => verifyDigest cfg val.pubkey (computeVoteHash cfg vote)
      vote.signature "vote signature verification failed: "

end Thrylos
