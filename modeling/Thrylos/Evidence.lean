import Thrylos.Crypto
import Thrylos.ForkChoice
import Thrylos.Library.GoText

/-!
Slashing evidence: `consensus/pos/slashing_evidence.go` and the record of an offence in
`types/consensus.go`. Standard library code is given. Typed nil bodies and a missing registry are
left out.
-/

namespace Thrylos

open GoText (ascii decimal signedDecimal bracketed)

structure Vote where
  validatorAddress : Address
  sourceBlockHash : Bytes
  targetBlockHash : Bytes
  sourceEpoch : UInt64
  targetEpoch : UInt64
  signature : Bytes
  deriving DecidableEq

structure BlockProposal where
  block : Option Block
  proposer : Address
  slot : UInt64
  epoch : UInt64
  signature : Bytes
  deriving DecidableEq

inductive SlashingEvidenceType where
  | doubleVoting
  | surroundVoting
  | invalidProposal
  | downtime
  | invalidSignature
  | other (code : UInt8)
  deriving DecidableEq

namespace SlashingEvidenceType

def name : SlashingEvidenceType → String
  | doubleVoting => "DoubleVoting"
  | surroundVoting => "SurroundVoting"
  | invalidProposal => "InvalidProposal"
  | downtime => "Downtime"
  | invalidSignature => "InvalidSignature"
  | other _ => "Unknown"

def code : SlashingEvidenceType → UInt8
  | doubleVoting => 0
  | surroundVoting => 1
  | invalidProposal => 2
  | downtime => 3
  | invalidSignature => 4
  | other code => code

end SlashingEvidenceType

/-- The dynamic type of the interface value `Evidence`. -/
inductive EvidenceBody where
  | doubleVote (attestation1 attestation2 : Option Attestation)
  | surroundVote (innerAttestation outerAttestation : Option Attestation)
  | invalidProposal (prop : Option BlockProposal) (validationErrors : List Bytes)
      (blockHash : Bytes)
  | downtime (missedAttestations : Int64) (missedSlots : List UInt64) (startTime endTime : Int64)
  | invalidSignature (message signature publicKey context : Bytes)
  | foreign (value : Bytes)
  deriving DecidableEq

/-- `SlashingEvidence` of the `pos` package. -/
structure SlashingEvidence where
  id : Bytes
  type : SlashingEvidenceType
  validatorAddress : Address
  evidence : Option EvidenceBody
  timestamp : Int64
  reporterAddress : Address
  reporterSignature : Bytes
  processedAt : Int64
  slashingApplied : Bool
  deriving DecidableEq

/-- The code around evidence that is not part of the repository. -/
structure EvidenceConfig extends NodeConfig where
  curve : Curve
  sha256 : Bytes → Bytes
  marshalEvidence : SlashingEvidence → Bytes
  formatTime : Int → String
  formatDuration : Int → String

instance : CoeOut EvidenceConfig NodeConfig := ⟨EvidenceConfig.toNodeConfig⟩

variable (cfg : EvidenceConfig) (vals : ValidatorSet) (ev : SlashingEvidence)

namespace SlashingEvidence

def hashAttestation (att : Attestation) : Bytes :=
  cfg.sha256 (att.validatorAddress ++ ascii ":" ++ decimal att.slot.toNat ++ ascii ":" ++
    att.blockHash)

def verifySignature (publicKeyBytes message signature : Bytes) : Bool :=
  match newPublicKeyFromBytes cfg.curve publicKeyBytes, newSignatureFromBytes signature with
  | .ok publicKey, .ok sig =>
    match verify cfg.keccak256 cfg.curve publicKey message sig with
    | .ok () => true
    | .error _ => false
  | _, _ => false

/-- The height that goes into the identifier, zero where the body does not fit the type. -/
def idHeight : Int64 :=
  match ev.type, ev.evidence with
  | .doubleVoting, some (.doubleVote (some attestation1) _) => attestation1.blockHeight
  | .surroundVoting, some (.surroundVote (some innerAttestation) _) => innerAttestation.blockHeight
  | .invalidProposal, some (.invalidProposal (some prop) _ _) => (prop.epoch * 32).toInt64
  | .downtime, some (.downtime _ _ _ endTime) => endTime
  | .doubleVoting, _ | .surroundVoting, _ | .invalidProposal, _ | .downtime, _ => 0
  | .invalidSignature, _ | .other _, _ => ev.timestamp

def generateID : Bytes :=
  hexBytes ((cfg.sha256 (ascii ev.type.name ++ ascii ":" ++ ev.validatorAddress ++
    ascii ":" ++ signedDecimal ev.idHeight.toInt)).take 16)

/-- `NewSlashingEvidence` at a Unix time. -/
def new (type : SlashingEvidenceType) (validatorAddress : Address)
    (body : EvidenceBody) (reporterAddress : Address) (now : Int64) : SlashingEvidence :=
  let ev : SlashingEvidence := {
    id := []
    type := type
    validatorAddress := validatorAddress
    evidence := some body
    timestamp := now
    reporterAddress := reporterAddress
    reporterSignature := []
    processedAt := 0
    slashingApplied := false }
  { ev with id := ev.generateID cfg }

/-- Two signed attestations of one validator, `first` and `second` being their names in errors. -/
def verifyAttestationPair
    (first second : String) (attestation1 attestation2 : Attestation) : Except String Unit :=
  match vals.find? attestation1.validatorAddress with
  | none =>
    let addr := text attestation1.validatorAddress
    .error s!"failed to get validator {addr}: validator {addr} not found"
  | some (_, val) =>
    if ¬ verifySignature cfg val.pubkey (hashAttestation cfg attestation1)
        attestation1.signature then
      .error s!"invalid signature on {first}"
    else if ¬ verifySignature cfg val.pubkey (hashAttestation cfg attestation2)
        attestation2.signature then
      .error s!"invalid signature on {second}"
    else .ok ()

def validateDoubleVoteEvidence : EvidenceBody → Except String Unit
  | .doubleVote (some attestation1) (some attestation2) =>
    if attestation1.validatorAddress ≠ attestation2.validatorAddress then
      .error "attestations from different validators"
    else if attestation1.slot ≠ attestation2.slot then .error "attestations for different slots"
    else if attestation1.blockHash = attestation2.blockHash then
      .error "attestations for same block (not double voting)"
    else verifyAttestationPair cfg vals "attestation 1" "attestation 2" attestation1 attestation2
  | .doubleVote _ _ => .error "both attestations must be provided"
  | _ => .error "invalid evidence type for double voting"

def validateSurroundVoteEvidence : EvidenceBody → Except String Unit
  | .surroundVote (some innerAttestation) (some outerAttestation) =>
    if innerAttestation.validatorAddress ≠ outerAttestation.validatorAddress then
      .error "attestations from different validators"
    else verifyAttestationPair cfg vals "inner attestation" "outer attestation"
      innerAttestation outerAttestation
  | .surroundVote _ _ => .error "both attestations must be provided"
  | _ => .error "invalid evidence type for surround voting"

def validateInvalidProposalEvidence : EvidenceBody → Except String Unit
  | .invalidProposal none _ _ => .error "proposal must be provided"
  | .invalidProposal (some _) validationErrors _ =>
    if validationErrors = [] then .error "validation errors must be provided" else .ok ()
  | _ => .error "invalid evidence type for invalid proposal"

def validateDowntimeEvidence : EvidenceBody → Except String Unit
  | .downtime missedAttestations missedSlots _ _ =>
    if missedAttestations = 0 then .error "missed attestations must be greater than 0"
    else if missedSlots = [] then .error "missed slots must be provided"
    else .ok ()
  | _ => .error "invalid evidence type for downtime"

def validateInvalidSignatureEvidence : EvidenceBody → Except String Unit
  | .invalidSignature message signature publicKey _ =>
    if message = [] then .error "message must be provided"
    else if signature = [] then .error "signature must be provided"
    else if publicKey = [] then .error "public key must be provided"
    else .ok ()
  | _ => .error "invalid evidence type for invalid signature"

def validateTypeSpecific (body : EvidenceBody) : Except String Unit :=
  match ev.type with
  | .doubleVoting => validateDoubleVoteEvidence cfg vals body
  | .surroundVoting => validateSurroundVoteEvidence cfg vals body
  | .invalidProposal => validateInvalidProposalEvidence body
  | .downtime => validateDowntimeEvidence body
  | .invalidSignature => validateInvalidSignatureEvidence body
  | .other code => .error s!"unknown evidence type: {code.toNat}"

def identified : SlashingEvidence :=
  if ev.id = [] then { ev with id := ev.generateID cfg } else ev

def maxEvidenceAge : Int := 7 * 24 * 60 * 60

/-- `Validate` of evidence that has its identifier, at a Unix time. -/
def validate (now : Int) (ev : SlashingEvidence) : Except String Unit :=
  if ev.id ≠ ev.generateID cfg then
    .error "invalid evidence ID: matches content mismatch"
  else if ev.validatorAddress = [] then .error "validator address cannot be empty"
  else
    match ev.evidence with
    | none => .error "evidence data cannot be nil"
    | some body =>
      if ev.timestamp = 0 then .error "timestamp cannot be zero"
      else if now + 300 < ev.timestamp.toInt then
        .error "evidence timestamp is in the future"
      else if ev.timestamp.toInt < now - maxEvidenceAge then
        .error s!"evidence is too old (stale): {now - ev.timestamp.toInt} seconds"
      else validateTypeSpecific cfg vals ev body

def hash : Bytes :=
  hexBytes (cfg.sha256 (cfg.marshalEvidence ev))

end SlashingEvidence

inductive SlashingCondition where
  | doubleVoting
  | surroundVoting
  | invalidProposal
  | downtime
  | invalidSignature
  deriving DecidableEq

/-- `types.BlockProposal` as offences are reported with it: without the block. -/
structure ReportedProposal where
  proposer : Address
  slot : UInt64
  epoch : UInt64
  signature : Bytes
  deriving DecidableEq

/-- `SlashingEvidence` of the `types` package. The fields for invalid signatures are never set. -/
structure OffenceEvidence where
  firstAttestation : Option Attestation := none
  secondAttestation : Option Attestation := none
  surroundingAttestation : Option Attestation := none
  surroundedAttestation : Option Attestation := none
  invalidBlock : Option ReportedProposal := none
  missedSlots : List UInt64 := []
  deriving DecidableEq

/-- The `%v` form of a pointer to an attestation. -/
def Attestation.formatted (att : Attestation) : Bytes :=
  ascii "&\x7b" ++ att.validatorAddress ++ ascii " " ++ att.blockHash ++ ascii " " ++
    signedDecimal att.blockHeight.toInt ++ ascii " " ++ decimal att.epoch.toNat ++ ascii " " ++
    decimal att.slot.toNat ++ ascii " " ++ bracketed att.signature ++ ascii " " ++
    signedDecimal att.timestamp.toInt ++ ascii "\x7d"

def ReportedProposal.formatted (prop : ReportedProposal) : Bytes :=
  ascii "&\x7b<nil> " ++ prop.proposer ++ ascii " " ++ decimal prop.slot.toNat ++
    ascii " " ++ decimal prop.epoch.toNat ++ ascii " " ++ bracketed prop.signature ++
    ascii "\x7d"

/-- The missed slots are not hashed. -/
def OffenceEvidence.hash (ev : OffenceEvidence) : Bytes :=
  let formatted (att : Option Attestation) : Bytes := (att.map Attestation.formatted).getD []
  hexBytes (cfg.sha256 (formatted ev.firstAttestation ++
    formatted ev.secondAttestation ++ formatted ev.surroundingAttestation ++
    formatted ev.surroundedAttestation ++
    (ev.invalidBlock.map ReportedProposal.formatted).getD []))

end Thrylos
