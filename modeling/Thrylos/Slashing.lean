import Thrylos.Evidence

/-!
The slashing manager, `consensus/pos/slashing_manager.go` and `slashing_security.go`, on the
engine's state as far as it reads and writes it. Times are nanoseconds and database writes succeed.
Metrics, clean-up and stored slashing records are left out.
-/

namespace Thrylos

open GoText (ascii decimal)
open Guarded (exclusively read update attempt)

structure SlashingConfig where
  doubleVotingPenalty : UInt8
  surroundVotingPenalty : UInt8
  invalidProposalPenalty : UInt8
  slashingDowntime : UInt8
  maxMissedAttestations : UInt64
  attestationWindow : Int
  jailDurationHours : Int64
  minimumStake : Int

structure EngineConfig extends EvidenceConfig where
  slashing : SlashingConfig
  slashingInvalidSig : Int
  nodePrivateKey : Bytes
  nodeAddress : Address

instance : CoeOut EngineConfig EvidenceConfig := ⟨EngineConfig.toEvidenceConfig⟩

structure AttestationRecord where
  validatorAddress : Address
  epoch : UInt64
  slot : UInt64
  blockHash : Bytes
  signature : Bytes
  timestamp : Int
  deriving DecidableEq

def AttestationRecord.conflicts (record other : AttestationRecord) : Bool :=
  record.epoch = other.epoch ∧ record.slot = other.slot ∧ record.blockHash ≠ other.blockHash

structure JailedValidator where
  validatorAddress : Address
  jailTime : Int
  releaseTime : Int
  reason : SlashingCondition
  deriving DecidableEq

structure SlashingRecord where
  validatorAddress : Address
  condition : SlashingCondition
  epoch : UInt64
  timestamp : Int
  evidence : OffenceEvidence
  slashedAmount : Nat
  reason : String
  deriving DecidableEq

structure Offence where
  validatorAddress : Address
  condition : SlashingCondition
  epoch : UInt64
  evidence : OffenceEvidence
  reason : String

def Offence.record (offence : Offence) (timestamp : Int) (slashedAmount : Nat) : SlashingRecord where
  validatorAddress := offence.validatorAddress
  condition := offence.condition
  epoch := offence.epoch
  timestamp := timestamp
  evidence := offence.evidence
  slashedAmount := slashedAmount
  reason := offence.reason

/-- The time of the last attestation is left out: nothing reads it. -/
structure AttestationHistory where
  totalSlots : UInt64
  missedSlots : UInt64
  missedSlotList : List UInt64
  deriving DecidableEq

inductive ValidatorStatus where
  | active
  | jailed
  | slashed
  | exited
  deriving DecidableEq

/-- `bannedUntil` is none for the zero time. -/
structure ReporterStats where
  hourlyCount : Nat
  dailyCount : Nat
  rejectedCount : Nat
  hourReset : Int
  dayReset : Int
  bannedUntil : Option Int
  deriving DecidableEq

structure PendingEvidence where
  confirmers : KeyedMap (Prod.fst : Address × Int → Address)
  expiresAt : Int
  deriving DecidableEq

abbrev KeySet := KeyedMap (id : Bytes → Bytes)

abbrev Jail := KeyedMap (Prod.fst : Address × JailedValidator → Address)

abbrev StatusMap := KeyedMap (Prod.fst : Address × ValidatorStatus → Address)

structure SlashingStorage where
  processedEvidence : KeySet
  jailedValidators : Jail
  validatorStatus : StatusMap
  deriving DecidableEq

inductive Broadcast where
  | attestation (attestation : Attestation)
  | evidence (ev : SlashingEvidence)
  deriving DecidableEq

/-- The manager's maps, the world state, and what slashing uses of the engine. `storage` is none
without a database. -/
structure Engine where
  world : WorldState
  attestationsByValidator : KeyedMap (Prod.fst : Address × List AttestationRecord → Address)
  votesByValidator : KeyedMap (Prod.fst : Address × List Vote → Address)
  jailedValidators : Jail
  slashingRecords : KeyedMap (Prod.fst : Address × List SlashingRecord → Address)
  attestationHistory : KeyedMap (Prod.fst : Address × AttestationHistory → Address)
  validatorStatus : StatusMap
  processedEvidence : KeySet
  reporters : KeyedMap (Prod.fst : Address × ReporterStats → Address)
  pending : KeyedMap (Prod.fst : Bytes × PendingEvidence → Bytes)
  lastSlashed : KeyedMap (Prod.fst : Address × KeyedMap (Prod.fst : Nat × Int → Nat) → Address)
  storage : Option SlashingStorage
  evidenceTracker : LruCache (id : Bytes → Bytes)
  broadcasts : List Broadcast
  savedVotes : List Vote
  busy : Bool

abbrev EngineM := EStateM (Halt String) (Guarded Engine)

def naming (context : String) : Halt String → Halt String
  | .refused err => .refused (context ++ err)
  | halt => halt

def refuse {α : Type} (err : String) : EngineM α := throw (.refused err)

def onWorld {α : Type} (prog : WorldM α) : EngineM α := fun st =>
  match prog st.data.world with
  | .ok value ws => .ok value { st with data := { st.data with world := ws } }
  | .error err ws =>
    .error (.refused err) { st with data := { st.data with world := ws } }

variable (cfg : EngineConfig)

/-- `time.Now()`. -/
def clock : EngineM Int := onWorld (readClock cfg)

def nanosPerSecond : Int := 1000000000

def nanosPerHour : Int := 3600 * nanosPerSecond

/-- `time.Unix`, which adds the seconds before 1970 in 64 bits. -/
def unixTime (seconds : Int64) : Int := ((seconds + 62135596800).toInt - 62135596800) * nanosPerSecond

/-- `SafePercentageBig` of an amount that is there. -/
def safePercentageBig (amt : Nat) (percent : Int) : Except String Nat :=
  if percent < 0 ∨ 100 < percent then .error s!"invalid percentage: {percent} (must be 0-100)"
  else .ok (amt * percent.toNat / 100)

structure DowntimePolicy where
  warningThreshold : UInt64
  minorSlashingStart : UInt64
  majorSlashingStart : UInt64
  jailThreshold : UInt64
  ejectionThreshold : UInt64
  minorPenalty : Int
  majorPenalty : Int
  jailPenalty : Int

def SlashingConfig.policy (cfg : SlashingConfig) : DowntimePolicy :=
  let maxMisses := if cfg.maxMissedAttestations = 0 then 100 else cfg.maxMissedAttestations
  { warningThreshold := maxMisses / 20
    minorSlashingStart := maxMisses / 10
    majorSlashingStart := maxMisses / 5
    jailThreshold := maxMisses / 2
    ejectionThreshold := maxMisses
    minorPenalty := 1
    majorPenalty := 3
    jailPenalty := cfg.slashingDowntime.toNat }

namespace SlashingStorage

variable (storage : SlashingStorage)

def saveProcessedEvidence (key : Bytes) : SlashingStorage :=
  { storage with processedEvidence := storage.processedEvidence.insert key }

def saveValidatorStatus (addr : Address) (status : ValidatorStatus) : SlashingStorage :=
  { storage with validatorStatus := storage.validatorStatus.insert (addr, status) }

def saveJailedValidator (addr : Address) (jail : JailedValidator) : SlashingStorage :=
  { storage with jailedValidators := storage.jailedValidators.insert (addr, jail) }

def deleteJailedValidator (addr : Address) : SlashingStorage :=
  { storage with jailedValidators := storage.jailedValidators.erase addr }

end SlashingStorage

namespace Engine

variable (ce : Engine)

def isProcessed (key : Bytes) : Bool :=
  (ce.processedEvidence.find? key).isSome

/-- The mark in memory and, with metadata nothing reads back, in the database. -/
def markProcessed (key : Bytes) : Engine :=
  { ce with
    processedEvidence := ce.processedEvidence.insert key
    storage := ce.storage.map (·.saveProcessedEvidence key) }

variable (addr : Address)

def setStatus (status : ValidatorStatus) : Engine :=
  { ce with
    validatorStatus := ce.validatorStatus.insert (addr, status)
    storage := ce.storage.map (·.saveValidatorStatus addr status) }

def jail (ce : Engine) (jail : JailedValidator) : Engine :=
  let ce : Engine := { ce with
    jailedValidators := ce.jailedValidators.insert (jail.validatorAddress, jail)
    storage := ce.storage.map (·.saveJailedValidator jail.validatorAddress jail) }
  ce.setStatus jail.validatorAddress .jailed

def release : Engine :=
  let ce : Engine := { ce with
    jailedValidators := ce.jailedValidators.erase addr
    storage := ce.storage.map (·.deleteJailedValidator addr) }
  ce.setStatus addr .active

def recordsOf : List SlashingRecord :=
  match ce.slashingRecords.find? addr with
  | none => []
  | some entry => entry.2

def historyOf : AttestationHistory :=
  match ce.attestationHistory.find? addr with
  | none => ⟨0, 0, []⟩
  | some entry => entry.2

def attestationsOf : List AttestationRecord :=
  match ce.attestationsByValidator.find? addr with
  | none => []
  | some entry => entry.2

def votesOf : List Vote :=
  match ce.votesByValidator.find? addr with
  | none => []
  | some entry => entry.2

end Engine

variable (addr : Address)

namespace Manager

def validatorBalance : EngineM Nat :=
  (onWorld (getBalance cfg addr)).adaptExcept
    (naming "failed to get validator balance: ")

def penaltyOf (bal : Nat) (percent : Int) : EngineM Nat :=
  match safePercentageBig bal percent with
  | .error err => refuse s!"failed to calculate penalty: {err}"
  | .ok penalty => return penalty

def jailValidator (reason : SlashingCondition) : EngineM Unit := do
  let jailTime ← clock cfg
  -- the duration is a 64-bit product
  let duration := (cfg.slashing.jailDurationHours * 3600000000000).toInt
  update (·.jail {
    validatorAddress := addr
    jailTime := jailTime
    releaseTime := jailTime + duration
    reason := reason })

def isValidatorJailed : EngineM Bool := do
  match (← read).jailedValidators.find? addr with
  | none => return false
  | some (_, jailed) =>
    let now ← clock cfg
    if jailed.releaseTime < now then
      update (·.release addr)
      return false
    else return true

def severe (condition : SlashingCondition) : Bool :=
  condition = .doubleVoting ∨ condition = .surroundVoting

def jailIfSevere (record : SlashingRecord) : EngineM Unit :=
  if severe record.condition then jailValidator cfg record.validatorAddress record.condition
  else return

def demote (newBalance : Nat) (ce : Engine) : Engine :=
  if (newBalance : Int) < cfg.slashing.minimumStake then ce.setStatus addr .slashed
  else ce

def appendRecord (record : SlashingRecord) (ce : Engine) : Engine :=
  let addr := record.validatorAddress
  { ce with slashingRecords := ce.slashingRecords.insert (addr, ce.recordsOf addr ++ [record]) }

/-- `applySlashing`: the mark comes before the penalty, which is taken from the balance. -/
def applySlashing (record : SlashingRecord) : EngineM Unit := do
  let addr := record.validatorAddress
  let evidenceHash := record.evidence.hash cfg
  if (← read).isProcessed evidenceHash then
    refuse s!"evidence {text evidenceHash} already processed"
  else
    update (·.markProcessed evidenceHash)
    let currentBalance ← validatorBalance cfg addr
    let newBalance := currentBalance - record.slashedAmount
    (onWorld (updateBalance cfg addr newBalance)).adaptExcept
      (naming "failed to update validator balance: ")
    jailIfSevere cfg record
    update (demote cfg addr newBalance)
    update (appendRecord record)

def penalise (percent : Int) (offence : Offence) : EngineM Unit := do
  let bal ← validatorBalance cfg offence.validatorAddress
  let penalty ← penaltyOf bal percent
  let timestamp ← clock cfg
  applySlashing cfg (offence.record timestamp penalty)

def slashOnce (percent : Int) (offence : Offence) : EngineM Unit := do
  if (← read).isProcessed (offence.evidence.hash cfg) then
    refuse "already slashed for this offense"
  else penalise cfg percent offence

/-- The offence as its hash is taken: the second attestation is rebuilt without slot and height. -/
def doubleVoteOffence (att1 att2 : Attestation) : Offence where
  validatorAddress := att1.validatorAddress
  condition := .doubleVoting
  epoch := att1.epoch
  evidence := {
    firstAttestation := some att1
    secondAttestation := some {
      validatorAddress := att2.validatorAddress
      blockHash := att2.blockHash
      blockHeight := (att2.epoch * 32).toInt64
      epoch := att2.epoch
      slot := att2.epoch * 32
      signature := att2.signature
      timestamp := att2.timestamp } }
  reason := s!"Double voting at epoch {att1.epoch.toNat}"

/-- `slashDoubleVoting`, with the second record still as the attestation it was copied from. -/
def slashDoubleVoting (att1 att2 : Attestation) : EngineM Unit :=
  slashOnce cfg cfg.slashing.doubleVotingPenalty.toNat (doubleVoteOffence att1 att2)

def applyDoubleVoteSlashingLocked : Option Attestation → Option Attestation → EngineM Unit
  | some att1, some att2 =>
    if att1.validatorAddress ≠ att2.validatorAddress then
      refuse "ApplyDoubleVoteSlashing: attestations from different validators"
    else slashDoubleVoting cfg att1 att2
  | _, _ => refuse "ApplyDoubleVoteSlashing: nil attestation"

def applyDoubleVoteSlashing (att1 att2 : Option Attestation) :
    EngineM Unit := exclusively (applyDoubleVoteSlashingLocked cfg att1 att2)

def surroundVoteOffence (reason : String) (innerAtt outerAtt : Attestation) : Offence where
  validatorAddress := innerAtt.validatorAddress
  condition := .surroundVoting
  epoch := outerAtt.epoch
  evidence := {
    surroundedAttestation := some innerAtt
    surroundingAttestation := some outerAtt }
  reason := if reason = "" then "Surround voting evidence submitted" else reason

def applySurroundVoteAttestationEvidenceLocked (reason : String) :
    Option Attestation → Option Attestation → EngineM Unit
  | some innerAtt, some outerAtt =>
    if innerAtt.validatorAddress ≠ outerAtt.validatorAddress then
      refuse "ApplySurroundVoteSlashing: attestations from different validators"
    else slashOnce cfg cfg.slashing.surroundVotingPenalty.toNat
      (surroundVoteOffence reason innerAtt outerAtt)
  | _, _ => refuse "ApplySurroundVoteSlashing: nil attestation"

def attestationOfVote (vote : Vote) : EngineM Attestation := do
  let now ← clock cfg
  return {
    validatorAddress := vote.validatorAddress
    blockHash := vote.targetBlockHash
    blockHeight := (vote.targetEpoch * 32).toInt64
    epoch := vote.targetEpoch
    slot := vote.targetEpoch * 32
    signature := vote.signature
    timestamp := Int64.ofInt (now / nanosPerSecond) }

def Surrounds (outer inner : Vote) : Prop :=
  outer.sourceEpoch < inner.sourceEpoch ∧ inner.targetEpoch < outer.targetEpoch

instance (outer inner : Vote) : Decidable (Surrounds outer inner) := by
  unfold Surrounds
  infer_instance

def surroundReason (inner outer : Vote) : String :=
  s!"Surround voting: {outer.sourceEpoch.toNat}<{inner.sourceEpoch.toNat}<{inner.targetEpoch.toNat}<{outer.targetEpoch.toNat}"

def applySurroundVoteSlashing (inner outer : Option Vote) : EngineM Unit := exclusively do
  match inner, outer with
  | some inner, some outer =>
    if inner.validatorAddress ≠ outer.validatorAddress then
      refuse "ApplySurroundVoteSlashing: votes from different validators"
    else if ¬ Surrounds outer inner then
      refuse "ApplySurroundVoteSlashing: votes do not form a surround-vote pair"
    else
      let innerAtt ← attestationOfVote cfg inner
      let outerAtt ← attestationOfVote cfg outer
      applySurroundVoteAttestationEvidenceLocked cfg (surroundReason inner outer)
        (some innerAtt) (some outerAtt)
  | _, _ => refuse "ApplySurroundVoteSlashing: nil vote"

/-- What `ProcessAttestation` answers: nothing, an error, or a `DoubleSigningError`. -/
inductive AttestationVerdict where
  | accepted
  | refused (err : String)
  | doubleSigning (conflictingRecord : AttestationRecord)
  deriving DecidableEq

def window {α : Type} (entries : List α) : List α := entries.drop (entries.length - 1000)

def recordAttestation (record : AttestationRecord) (ce : Engine) : Engine :=
  let addr := record.validatorAddress
  let history := ce.historyOf addr
  { ce with
    attestationsByValidator := ce.attestationsByValidator.insert
      (addr, window (ce.attestationsOf addr ++ [record]))
    attestationHistory := ce.attestationHistory.insert
      (addr, { history with totalSlots := history.totalSlots + 1 }) }

def compareAttestation (att : Attestation) : EngineM AttestationVerdict := do
  let timestamp ← clock cfg
  let record : AttestationRecord := {
    validatorAddress := att.validatorAddress
    epoch := att.epoch
    slot := att.slot
    blockHash := att.blockHash
    signature := att.signature
    timestamp := timestamp }
  match ((← read).attestationsOf att.validatorAddress).find? (record.conflicts ·) with
  | some previous => return .doubleSigning previous
  | none =>
    update (recordAttestation record)
    return .accepted

/-- `ProcessAttestation`. The manager's reference to fork choice is never set, so that check is left
out. -/
def processAttestation (att : Attestation) : EngineM AttestationVerdict :=
  exclusively do
    let now ← clock cfg
    if cfg.slashing.attestationWindow < now - unixTime att.timestamp then return .accepted
    else if (← read).world.height < 100 then return .accepted
    else if ← isValidatorJailed cfg att.validatorAddress then
      return .refused s!"validator {text att.validatorAddress} is jailed and cannot attest"
    else compareAttestation cfg att

/-- What `ProcessVote` answers: nothing, an error, or a `SurroundVotingError`. -/
inductive VoteVerdict where
  | accepted
  | refused (err : String)
  | surrounding (inner outer : Vote)
  deriving DecidableEq

def surroundPair (vote prev : Vote) : Option (Vote × Vote) :=
  if Surrounds vote prev then some (prev, vote)
  else if Surrounds prev vote then some (vote, prev)
  else none

def recordVote (vote : Vote) (ce : Engine) : Engine :=
  let addr := vote.validatorAddress
  { ce with votesByValidator :=
      ce.votesByValidator.insert (addr, window (ce.votesOf addr ++ [vote])) }

def compareVote (vote : Vote) : EngineM VoteVerdict := do
  match ((← read).votesOf vote.validatorAddress).findSome? (surroundPair vote) with
  | some (inner, outer) => return .surrounding inner outer
  | none =>
    update (recordVote vote)
    return .accepted

def processVote (vote : Vote) : EngineM VoteVerdict := exclusively do
  if (← read).world.height < 100 then return .accepted
  else if ← isValidatorJailed cfg vote.validatorAddress then
    return .refused s!"validator {text vote.validatorAddress} is jailed and cannot vote"
  else compareVote vote

def slashedRecently (now : Int) (record : SlashingRecord) : Bool :=
  record.condition = .downtime ∧ now - 24 * nanosPerHour < record.timestamp

def withholdingOffence : Offence where
  validatorAddress := addr
  condition := .downtime
  epoch := 0
  evidence := {}
  reason := "Block Withholding: Exceeded consecutive missed proposal limit"

def slashWithholding : EngineM Unit := do
  let offence := withholdingOffence addr
  let bal ← validatorBalance cfg addr
  let penalty ← penaltyOf bal cfg.slashing.policy.jailPenalty
  if (← read).isProcessed (offence.evidence.hash cfg) then return
  else
    let timestamp ← clock cfg
    applySlashing cfg (offence.record timestamp penalty)
    jailValidator cfg addr .downtime

def reportBlockWithholding : EngineM Unit :=
  exclusively do
    if (← read).world.height < 100 then return
    else if ← isValidatorJailed cfg addr then return
    else
      let now ← clock cfg
      if ((← read).recordsOf addr).any (slashedRecently now) then return
      else slashWithholding cfg addr

/-- The balance `slashValidator` goes on with: zero for an unreadable account, none where it does
not parse. -/
def lenientBalance : EngineM (Option Nat) := do
  match ← attempt (onWorld (onLedger (getAccount cfg addr))) with
  | .error _ => return some 0
  | .ok acc =>
    match parseUint256Bytes acc.balance with
    | .error _ => return none
    | .ok bal => return some bal

def downtimeKey (reason : String) (missed : UInt64) : Bytes :=
  addr ++ ascii "-" ++ ascii reason ++ ascii "-" ++ decimal missed.toNat

def downtimeOffence (reason : String) (history : AttestationHistory) : Offence where
  validatorAddress := addr
  condition := .downtime
  epoch := 0
  evidence := { missedSlots := history.missedSlotList }
  reason := s!"{reason} (Missed: {history.missedSlots.toNat})"

def rememberKey (key : Bytes) (ce : Engine) : Engine :=
  { ce with processedEvidence := ce.processedEvidence.insert key }

def slashValidator (percent : Int) (reason : String)
    (history : AttestationHistory) : EngineM Unit := do
  let evidenceHash := downtimeKey addr reason history.missedSlots
  if (← read).isProcessed evidenceHash then return
  else
    match ← lenientBalance cfg addr with
    | none => return
    | some bal =>
      match safePercentageBig bal percent with
      | .error _ => return
      | .ok penalty =>
        let timestamp ← clock cfg
        match ← attempt (applySlashing cfg
          ((downtimeOffence addr reason history).record timestamp penalty)) with
        | .error _ => return
        | .ok () => update (rememberKey evidenceHash)

def recordMiss (slot : UInt64) (history : AttestationHistory) : AttestationHistory where
  totalSlots := history.totalSlots + 1
  missedSlots := history.missedSlots + 1
  missedSlotList := window (history.missedSlotList ++ [slot])

def setHistory (history : AttestationHistory) (ce : Engine) : Engine :=
  { ce with attestationHistory := ce.attestationHistory.insert (addr, history) }

def punishDowntime (history : AttestationHistory) : EngineM Unit := do
  let policy := cfg.slashing.policy
  let missedCount := history.missedSlots
  if policy.ejectionThreshold ≤ missedCount then
    update (·.setStatus addr .slashed)
    slashValidator cfg addr policy.jailPenalty "extended_downtime_ejection" history
  else if policy.jailThreshold ≤ missedCount then
    if ← isValidatorJailed cfg addr then return
    else
      jailValidator cfg addr .downtime
      slashValidator cfg addr policy.jailPenalty "extended_downtime_jail" history
  else if policy.majorSlashingStart ≤ missedCount then
    slashValidator cfg addr policy.majorPenalty "downtime_major" history
  else if policy.minorSlashingStart ≤ missedCount then
    slashValidator cfg addr policy.minorPenalty "downtime_minor" history
  else return

def reportMissedAttestation (slot : UInt64) : EngineM Unit := exclusively do
  let history := recordMiss slot ((← read).historyOf addr)
  update (setHistory addr history)
  punishDowntime cfg addr history

def invalidProposalOffence (prop : ReportedProposal) (reason : String) : Offence where
  validatorAddress := prop.proposer
  condition := .invalidProposal
  epoch := prop.epoch
  evidence := { invalidBlock := some prop }
  reason := s!"Invalid proposal: {reason}"

def reportInvalidProposal (prop : ReportedProposal) (reason : String) :
    EngineM Unit := exclusively do
  let offence := invalidProposalOffence prop reason
  if (← read).isProcessed (offence.evidence.hash cfg) then return
  else penalise cfg cfg.slashing.invalidProposalPenalty.toNat offence

def logBalance : EngineM Unit := do
  if 0 < cfg.slashing.minimumStake then
    let _ ← attempt (onWorld (getBalance cfg addr))
  else return

/-- `IsValidatorActive`, which does not take the lock. -/
def isValidatorActive : EngineM Bool := do
  if ← isValidatorJailed cfg addr then return false
  else
    match (← read).validatorStatus.find? addr with
    | some (_, .jailed) | some (_, .slashed) | some (_, .exited) => return false
    | none | some (_, .active) =>
      logBalance cfg addr
      return true

end Manager

end Thrylos
