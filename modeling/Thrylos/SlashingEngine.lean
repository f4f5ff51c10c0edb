import Thrylos.ConsensusSignature

/-!
Evidence on its way through a node: `ProcessEvidence` with the limits of `slashing_security.go`, and
the engine's side in `slashing_broadcast.go` and `consensus.go`. A send to the broadcast channel
waits for room, so it is an append.
-/

namespace Thrylos

open BigEndian (decode fixed)
open KeyedMap (empty insert)
open GoText (ascii signedDecimal)
open Guarded (exclusively read update attempt)

variable (cfg : EngineConfig) (ev : SlashingEvidence) (addr : Address)

namespace Manager

def maxPerHour : Nat := 10

def maxPerDay : Nat := 50

def suspicionLevel : Nat := 5

def refreshed (now : Int) (stats : ReporterStats) : ReporterStats :=
  let stats := if nanosPerHour ≤ now - stats.hourReset then
      { stats with hourlyCount := 0, hourReset := now } else stats
  if 24 * nanosPerHour ≤ now - stats.dayReset then
    { stats with dailyCount := 0, dayReset := now } else stats

def setReporter (stats : ReporterStats) (ce : Engine) : Engine :=
  { ce with reporters := ce.reporters.insert (addr, stats) }

def statsOf (ce : Engine) (addr : Address) (now : Int) : ReporterStats :=
  match ce.reporters.find? addr with
  | none => ⟨0, 0, 0, now, now, none⟩
  | some entry => entry.2

def checkReporter : EngineM Unit := do
  let now ← clock cfg
  let stats := statsOf (← read) addr now
  update (setReporter addr stats)
  match stats.bannedUntil.filter (now < ·) with
  | some bannedUntil =>
    refuse s!"reporter banned until {cfg.formatTime bannedUntil} (reason: suspicious activity)"
  | none =>
    let stats := refreshed now stats
    update (setReporter addr stats)
    if maxPerHour ≤ stats.hourlyCount then
      refuse s!"hourly limit exceeded ({stats.hourlyCount}/{maxPerHour})"
    else if maxPerDay ≤ stats.dailyCount then
      refuse s!"daily limit exceeded ({stats.dailyCount}/{maxPerDay})"
    else update (setReporter addr { stats with
      hourlyCount := stats.hourlyCount + 1
      dailyCount := stats.dailyCount + 1 })

def recordRejection : EngineM Unit := do
  match (← read).reporters.find? addr with
  | none => return
  | some (_, stats) =>
    let stats := { stats with rejectedCount := stats.rejectedCount + 1 }
    update (setReporter addr stats)
    if suspicionLevel ≤ stats.rejectedCount then
      let now ← clock cfg
      update (setReporter addr { stats with bannedUntil := some (now + 24 * nanosPerHour) })
    else return

def recordAcceptance (ce : Engine) : Engine :=
  match ce.reporters.find? addr with
  | none => ce
  | some (_, stats) =>
    setReporter addr { stats with rejectedCount := stats.rejectedCount - 1 } ce

def cooldownOf : SlashingEvidenceType → Int
  | .doubleVoting | .surroundVoting => 2 * nanosPerHour
  | .invalidProposal | .invalidSignature => nanosPerHour
  | .downtime => 6 * nanosPerHour
  | .other _ => 0

def lastSlashing (ce : Engine) (addr : Address) (type : SlashingEvidenceType) : Option Int :=
  ((ce.lastSlashed.find? addr).bind fun entry => entry.2.find? type.code.toNat).map Prod.snd

def checkCooldown (type : SlashingEvidenceType) : EngineM Unit := do
  match lastSlashing (← read) addr type with
  | none => return
  | some lastTime =>
    let now ← clock cfg
    let elapsed := now - lastTime
    if elapsed < cooldownOf type then
      refuse s!"cooldown active: {cfg.formatDuration (cooldownOf type - elapsed)} remaining (type: {type.name})"
    else return

def setLastSlashed (type : SlashingEvidenceType) (now : Int) (ce : Engine) : Engine :=
  let times :=
    match ce.lastSlashed.find? addr with
    | none => empty
    | some entry => entry.2
  { ce with lastSlashed := ce.lastSlashed.insert (addr, times.insert (type.code.toNat, now)) }

def recordSlashing (type : SlashingEvidenceType) : EngineM Unit := do
  let now ← clock cfg
  update (setLastSlashed addr type now)

def requiredConfirmations : Nat := 3

def confirmationWindow : Int := 600 * nanosPerSecond

def setPending (id : Bytes) (pending : PendingEvidence) (ce : Engine) : Engine :=
  { ce with pending := ce.pending.insert (id, pending) }

def dropPending (id : Bytes) (ce : Engine) : Engine :=
  { ce with pending := ce.pending.erase id }

def pendingOf (ce : Engine) (id : Bytes) (now : Int) : PendingEvidence :=
  match ce.pending.find? id with
  | none => ⟨empty, now + confirmationWindow⟩
  | some entry => entry.2

def addConfirmation (confirmer : Address) : EngineM Bool := do
  let now ← clock cfg
  let pending := pendingOf (← read) ev.id now
  update (setPending ev.id pending)
  if pending.expiresAt < now then
    update (dropPending ev.id)
    refuse "confirmation window expired"
  else if confirmer = ev.validatorAddress then
    refuse "validator cannot confirm their own slashing"
  else
    let confirmers := pending.confirmers.insert (confirmer, now)
    if requiredConfirmations ≤ confirmers.entries.length then
      update (dropPending ev.id)
      return true
    else
      update (setPending ev.id { pending with confirmers })
      return false

/-- The record `ProcessEvidence` itself makes of an invalid proposal has no evidence in it. -/
def bareOffence : Offence where
  validatorAddress := addr
  condition := .invalidProposal
  epoch := 0
  evidence := {}
  reason := ""

/-- The last part of `ProcessEvidence`, under the lock. `ReportInvalidProposal` asks for the lock
again. -/
def executeEvidence : EngineM Unit := do
  match ev.type, ev.evidence with
  | .doubleVoting, some (.doubleVote att1 att2) => applyDoubleVoteSlashingLocked cfg att1 att2
  | .doubleVoting, _ => refuse "invalid evidence format for double voting"
  | .surroundVoting, some (.surroundVote inner outer) =>
    applySurroundVoteAttestationEvidenceLocked cfg "validated surround-vote evidence" inner outer
  | .surroundVoting, _ => refuse "invalid evidence format for surround voting"
  | .invalidProposal, some (.invalidProposal (some prop) _ _) =>
    let _ ← attempt (reportInvalidProposal cfg ⟨ev.validatorAddress, 0, prop.epoch, []⟩
      "evidence submitted")
    match (← read).world.validators.find? ev.validatorAddress with
    | none => refuse s!"failed to get validator stake: validator {text ev.validatorAddress} not found"
    | some (_, val) =>
      let timestamp ← clock cfg
      applySlashing cfg ((bareOffence ev.validatorAddress).record timestamp
        (parseBigInt val.stake * 5 / 100))
  | .invalidProposal, some (.invalidProposal none _ _) =>
    throw (.panic "invalid memory address or nil pointer dereference")
  | .invalidProposal, _ => refuse "invalid evidence format for invalid proposal"
  | type, _ => refuse s!"unsupported evidence type: {type.name}"

def unixNow : EngineM Int := do
  let now ← clock cfg
  return now / nanosPerSecond

/-- `ProcessEvidence` from the look at the processed evidence on. -/
def processValidEvidence : EngineM Unit := do
  let evidenceHash := ev.hash cfg
  if (← read).isProcessed evidenceHash then refuse "evidence already processed"
  else
    checkCooldown cfg ev.validatorAddress ev.type
    if ← addConfirmation cfg ev ev.reporterAddress then
      update (·.markProcessed evidenceHash)
      update (recordAcceptance ev.reporterAddress)
      executeEvidence cfg ev
      recordSlashing cfg ev.validatorAddress ev.type
    else return

def processEvidence (received : SlashingEvidence) : EngineM Unit :=
  exclusively do
    if (← read).world.height < 100 then return
    else
      (checkReporter cfg received.reporterAddress).adaptExcept (naming "rate limit exceeded: ")
      let ev := received.identified cfg
      let now ← unixNow cfg
      match ev.validate cfg (← read).world.validators now with
      | .error err =>
        recordRejection cfg ev.reporterAddress
        refuse s!"invalid evidence: {err}"
      | .ok () => processValidEvidence cfg ev

end Manager

variable (evidenceID : Bytes)

namespace Engine

/-- The program between the engine's own `Lock` and `Unlock`. -/
def locked {α : Type} (prog : EngineM α) : EngineM α := fun st =>
  if st.data.busy then .error .deadlock st
  else
    match prog { st with data := { st.data with busy := true } } with
    | .ok value after => .ok value { after with data := { after.data with busy := false } }
    | .error halt after =>
      .error halt { after with data := { after.data with busy := halt.isDeadlock } }

def track (ce : Engine) : Engine :=
  { ce with evidenceTracker := ce.evidenceTracker.add evidenceID }

def touchEvidence (ce : Engine) : Engine :=
  { ce with evidenceTracker := ce.evidenceTracker.touch evidenceID }

def isStored (ce : Engine) : Bool :=
  ce.storage.any fun storage => (storage.processedEvidence.find? evidenceID).isSome

def isEvidenceProcessed : EngineM Bool := do
  let ce ← read
  update (touchEvidence evidenceID)
  if (ce.evidenceTracker.peek evidenceID).isSome then return true
  else if ce.isStored evidenceID then
    update (track evidenceID)
    return true
  else return false

def markEvidenceProcessed (ce : Engine) : Engine :=
  { ce.track evidenceID with storage := ce.storage.map (·.saveProcessedEvidence evidenceID) }

/-- What the reporter signs. The body is not part of it. -/
def evidenceDigest : Bytes :=
  cfg.keccak256 (ev.id ++ ascii ev.type.name ++ ev.validatorAddress ++
    signedDecimal ev.timestamp.toInt)

def signEvidence : Except String SlashingEvidence := do
  let signature ← (sign cfg.keccak256 cfg.curve cfg.nodePrivateKey
    (evidenceDigest cfg ev)).mapError ("failed to sign evidence: " ++ ·)
  return { ev with reporterSignature := signature.bytes, reporterAddress := cfg.nodeAddress }

def verifyEvidenceSignature (vals : ValidatorSet) (ev : SlashingEvidence) : Except String Unit := do
  let reporter := text ev.reporterAddress
  if ev.reporterSignature = [] then throw "evidence not signed"
  if ev.reporterSignature.length ≠ signatureSize then
    throw s!"invalid signature length: got {ev.reporterSignature.length}, want {signatureSize}"
  match vals.find? ev.reporterAddress with
  | none =>
    throw s!"reporter {reporter} is not a registered validator: validator {reporter} not found"
  | some (_, val) =>
    if val.pubkey = [] then throw s!"reporter {reporter} has no registered public key"
    let pubKey ← (newPublicKeyFromBytes cfg.curve val.pubkey).mapError
      ("failed to parse reporter public key: " ++ ·)
    let sig ← (newSignatureFromBytes ev.reporterSignature).mapError
      ("failed to parse reporter signature: " ++ ·)
    (verify cfg.keccak256 cfg.curve pubKey (evidenceDigest cfg ev) sig).mapError
      ("invalid evidence signature: " ++ ·)

/-- A missing part of evidence that `Validate` would have refused. -/
def dereference {α : Type} : Option α → EngineM α
  | some value => return value
  | none => throw (.panic "invalid memory address or nil pointer dereference")

/-- The balance is lowered with no record and no mark of the manager. -/
def slashInvalidSignature : EngineM Unit := do
  let bal ← Manager.validatorBalance cfg addr
  let penalty ← Manager.penaltyOf bal cfg.slashingInvalidSig
  let newBalance : Nat := bal - penalty
  (onWorld (updateBalance cfg addr newBalance)).adaptExcept
    (naming "failed to update balance: ")

/-- `applySlashing` of the engine. Surround votes are only recorded as attestations. -/
def applySlashing : EngineM Unit := do
  match ev.type, ev.evidence with
  | .doubleVoting, some (.doubleVote att1 att2) =>
    (Manager.applyDoubleVoteSlashing cfg att1 att2).adaptExcept
      (naming "failed to apply double-vote slashing: ")
  | .doubleVoting, _ => refuse "invalid evidence type for double voting"
  | .surroundVoting, some (.surroundVote inner outer) =>
    let inner ← dereference inner
    let _ ← Manager.processAttestation cfg inner
    let outer ← dereference outer
    let _ ← Manager.processAttestation cfg outer
  | .surroundVoting, _ => refuse "invalid evidence type for surround voting"
  | .invalidProposal, some (.invalidProposal prop validationErrors _) =>
    let prop ← dereference prop
    let reason := (validationErrors.head?.map text).getD "Invalid proposal"
    Manager.reportInvalidProposal cfg ⟨prop.proposer, prop.slot, prop.epoch, prop.signature⟩ reason
  | .invalidProposal, _ => refuse "invalid evidence type for invalid proposal"
  | .downtime, some (.downtime _ missedSlots _ _) =>
    missedSlots.forM fun slot =>
      Manager.reportMissedAttestation cfg ev.validatorAddress slot
  | .downtime, _ => refuse "invalid evidence type for downtime"
  | .invalidSignature, some (.invalidSignature _ _ _ _) =>
    slashInvalidSignature cfg ev.validatorAddress
  | .invalidSignature, _ => refuse "invalid evidence type for invalid signature"
  | .other code, _ => refuse s!"unknown evidence type: {code.toNat}"

def processNewEvidence : EngineM Unit := do
  let now ← Manager.unixNow cfg
  let vals := (← read).world.validators
  match ev.validate cfg vals now with
  | .error err => refuse s!"invalid evidence: {err}"
  | .ok () =>
    match verifyEvidenceSignature cfg vals ev with
    | .error err =>
      update (track ev.id)
      refuse s!"invalid evidence signature: {err}"
    | .ok () =>
      update (markEvidenceProcessed ev.id)
      let _ ← attempt (applySlashing cfg ev)

def processReceivedSlashingEvidence (received : SlashingEvidence) : EngineM Unit := locked do
  if ← isEvidenceProcessed received.id then return
  else processNewEvidence cfg (received.identified cfg)

def broadcastSlashingEvidence : EngineM Unit := do
  match signEvidence cfg ev with
  | .error err => refuse s!"failed to sign evidence: {err}"
  | .ok signed => update fun ce => { ce with broadcasts := ce.broadcasts ++ [.evidence signed] }

def handleNewEvidence : EngineM Unit := do
  let now ← Manager.unixNow cfg
  let vals := (← read).world.validators
  match ev.validate cfg vals now with
  | .error err => refuse s!"invalid slashing evidence: {err}"
  | .ok () =>
    match verifyEvidenceSignature cfg vals ev with
    | .error err => refuse s!"invalid evidence signature: {err}"
    | .ok () =>
      (applySlashing cfg ev).adaptExcept (naming "failed to apply slashing: ")
      update (markEvidenceProcessed ev.id)
      let _ ← attempt (broadcastSlashingEvidence cfg ev)

def handleSlashingEvidence (detected : SlashingEvidence) : EngineM Unit := do
  if ← isEvidenceProcessed detected.id then return
  else handleNewEvidence cfg (detected.identified cfg)

def createSlashingEvidenceFromAttestation (att : Attestation) :
    Manager.AttestationVerdict → EngineM (Option SlashingEvidence)
  | .doubleSigning record => do
    let conflicting : Attestation := {
      validatorAddress := record.validatorAddress
      blockHash := record.blockHash
      blockHeight := 0
      epoch := record.epoch
      slot := record.slot
      signature := record.signature
      timestamp := Int64.ofInt (record.timestamp / nanosPerSecond) }
    let now ← Manager.unixNow cfg
    return some (.new cfg .doubleVoting att.validatorAddress
      (.doubleVote (some att) (some conflicting)) cfg.nodeAddress (Int64.ofInt now))
  | _ => return none

def validateVote (vals : ValidatorSet) (vote : Vote) : Except String Unit :=
  match vals.find? vote.validatorAddress with
  | none => .error s!"validator not found: validator {text vote.validatorAddress} not found"
  | some (_, val) =>
    if ¬ val.active then .error "validator not active"
    else if vote.targetEpoch ≤ vote.sourceEpoch then .error "invalid epoch ordering"
    else .ok ()

def hasVoted (ce : Engine) (vote : Vote) : Bool :=
  ce.savedVotes.any fun saved =>
    saved.targetEpoch = vote.targetEpoch ∧ saved.validatorAddress = vote.validatorAddress

def saveVote (vote : Vote) (ce : Engine) : Engine :=
  { ce with savedVotes := ce.savedVotes ++ [vote] }

/-- What `handleVote` makes of the manager's answer. -/
def settleVote (vote : Vote) : Manager.VoteVerdict → EngineM Unit
  | .refused _ => return
  | .surrounding inner outer => do
    let _ ← attempt (Manager.applySurroundVoteSlashing cfg (some inner) (some outer))
  | .accepted => update (saveVote vote)

/-- `handleVote`. The map of votes in memory is left out: nothing but its size is read. -/
def handleVote (vote : Vote) : EngineM Unit := locked do
  let ce ← read
  let vals := ce.world.validators
  match verifyVoteSignature cfg vals vote with
  | .error _ => return
  | .ok () =>
    if ce.hasVoted vote then return
    else
      match validateVote vals vote with
      | .error _ => return
      | .ok () =>
        let verdict ← Manager.processVote cfg vote
        settleVote cfg vote verdict

end Engine

/-- Of the manager's maps only those in the storage are loaded; stored votes are still there. -/
def newConsensusEngine (ws : WorldState) (storage : Option SlashingStorage)
    (savedVotes : List Vote) : Guarded Engine :=
  let loaded := storage.getD ⟨empty, empty, empty⟩
  { held := false
    data := {
      world := ws
      attestationsByValidator := empty
      votesByValidator := empty
      jailedValidators := loaded.jailedValidators
      slashingRecords := empty
      attestationHistory := empty
      validatorStatus := loaded.validatorStatus
      processedEvidence := loaded.processedEvidence
      reporters := empty
      pending := empty
      lastSlashed := empty
      storage := storage
      evidenceTracker := LruCache.new 10000 (by decide)
      broadcasts := []
      savedVotes := savedVotes
      busy := false } }

def sampleSeal (hash : Bytes) : Nat := 1 + decode hash % 2 ^ 128

def sampleCurve : Curve where
  decompressPubkey := fun data => .ok ⟨decode (data.drop 1), 0⟩
  unmarshalPubkey := fun _ => .error ""
  fromECDSAPub := fun key => 4 :: (fixed 32 key.x ++ fixed 32 key.y)
  sigToPub := fun _ signature => .ok ⟨decode (signature.take 32), 0⟩
  verifySignature := fun _ hash signature => decode (signature.drop 32) = sampleSeal hash
  sign := fun hash privateKey => .ok
    (fixed 32 (decode privateKey) ++ fixed 32 (sampleSeal hash) ++ [0])

def samplePubkey (key : Nat) : Bytes := 2 :: fixed 32 key

def sampleEngineConfig : EngineConfig where
  toNodeConfig := { sampleConfig with
    keccak256 := fun data => fixed 32 (decode data % (2 ^ 128 - 159))
    clock := fun _ => 1000 * nanosPerSecond }
  curve := sampleCurve
  sha256 := List.reverse
  marshalEvidence := fun ev => ev.id ++ ev.reporterAddress
  formatTime := fun _ => ""
  formatDuration := fun _ => ""
  slashing := {
    doubleVotingPenalty := 50
    surroundVotingPenalty := 50
    invalidProposalPenalty := 5
    slashingDowntime := 10
    maxMissedAttestations := 10
    attestationWindow := nanosPerHour
    jailDurationHours := 24
    minimumStake := 0 }
  slashingInvalidSig := 2
  nodePrivateKey := [9]
  nodeAddress := sampleAddress 99

def sampleEngine (ws : WorldState) (storage : Option SlashingStorage) : Guarded Engine :=
  newConsensusEngine ws storage []

def sampleValidator (digit selfStake : Byte) (key : Nat) : Address × Validator :=
  (sampleAddress digit, {
    address := sampleAddress digit
    pubkey := samplePubkey key
    stake := [selfStake]
    selfStake := [selfStake]
    delegatedStake := []
    delegators := empty
    active := true
    jailUntil := 0 })

def sampleChain (accounts : List Account) (vals : List (Address × Validator)) : WorldState :=
  { sampleWorld accounts with
    height := 100
    validators := vals.foldl insert empty }

end Thrylos
