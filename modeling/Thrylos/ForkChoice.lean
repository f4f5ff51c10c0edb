import Thrylos.Library.Mutex
import Thrylos.Library.Utf8
import Thrylos.WorldState

/-!
Fork choice and finality, `consensus/pos/fork_choice.go`, `finality.go` and
`fork_choice_security.go`. Stakes are numbers and a Go map is walked in key order. The slashing
manager has a state of its own; its answer is none where the call does not return.
-/

namespace Thrylos

structure Attestation where
  validatorAddress : Address
  blockHash : Bytes
  blockHeight : Int64
  epoch : UInt64
  slot : UInt64
  signature : Bytes
  timestamp : Int64
  deriving DecidableEq

structure Checkpoint where
  epoch : UInt64
  blockHash : Bytes
  timestamp : Int
  attestingStake : Nat
  totalStake : Nat
  deriving DecidableEq

structure WorldStateReader where
  validators : ValidatorSet
  blocks : KeyedMap Block.hash

namespace WorldStateReader

def getValidator (reader : WorldStateReader) (addr : Address) : Option Validator :=
  (reader.validators.find? addr).map Prod.snd

def getActiveValidators (reader : WorldStateReader) : List Validator :=
  (reader.validators.entries.map Prod.snd).filter (·.active)

def getBlockByHash (reader : WorldStateReader) (hash : Bytes) : Option Block :=
  reader.blocks.find? hash

end WorldStateReader

/-- A double vote comes with the earlier attestation if there is a record of it. -/
inductive SlashingVerdict where
  | accepted
  | violation
  | doubleVote (previous : Attestation)

structure SlashingManager (σ : Type) where
  processAttestation : Attestation → σ → Option SlashingVerdict × σ
  isValidatorActive : Address → σ → Bool × σ
  applyDoubleVoteSlashing : Attestation → Attestation → σ → Option Unit × σ

/-- The stake share a reorganisation needs is given in basis points, the way the code rounds it. -/
structure ForkChoiceConfig (σ : Type) where
  maxEpochsToKeep : UInt64
  maxBlocksPerEpoch : Int
  maxAttestationsPerBlock : Int
  stakeCacheTTL : Int
  maxReorgDepth : Int
  requiredBasisPoints : Int
  finalizationEpochs : Int
  checkpointInterval : Int
  worldState : WorldStateReader
  slashingManager : SlashingManager σ
  clock : Nat → Int

abbrev ScoreMap := KeyedMap (Prod.fst : Bytes × Nat → Bytes)

inductive StoredCheckpoint where
  | missing
  | malformed
  | saved (checkpoint : Checkpoint)
  deriving DecidableEq

/-- `slashing` and `database` are none where there is none, `totalActiveStakeTime` is none for the
zero time. -/
structure ForkChoice (σ : Type) where
  blockScores : ScoreMap
  attestationsByBlock : KeyedMap (Prod.fst : Bytes × List Attestation → Bytes)
  validatorAttestations : KeyedMap (Prod.fst : Bytes × List Address → Bytes)
  epochAttestations : KeyedMap (Prod.fst : Nat × ScoreMap → Nat)
  blockEpochMap : KeyedMap (Prod.fst : Bytes × UInt64 → Bytes)
  epochBlockOrder : KeyedMap (Prod.fst : Nat × List Bytes → Nat)
  latestMessages : KeyedMap (Prod.fst : Nat × KeyedMap (Prod.fst : Address × Bytes → Address) → Nat)
  justifiedCheckpoint : Option Checkpoint
  finalizedCheckpoint : Option Checkpoint
  totalActiveStake : Nat
  totalActiveStakeTime : Option Int
  slashing : Option σ
  database : Option StoredCheckpoint
  /-- How often the clock has been read. -/
  ticks : Nat

abbrev ForkChoiceM (σ : Type) := EStateM (Halt String) (Guarded (ForkChoice σ))

section

variable {σ : Type}

def newForkChoice (slashing : Option σ) (database : Option StoredCheckpoint) (ticks : Nat) :
    Guarded (ForkChoice σ) where
  held := false
  data := {
    blockScores := KeyedMap.empty
    attestationsByBlock := KeyedMap.empty
    validatorAttestations := KeyedMap.empty
    epochAttestations := KeyedMap.empty
    blockEpochMap := KeyedMap.empty
    epochBlockOrder := KeyedMap.empty
    latestMessages := KeyedMap.empty
    justifiedCheckpoint := none
    finalizedCheckpoint := none
    totalActiveStake := 0
    totalActiveStakeTime := none
    slashing := slashing
    database := database
    ticks := ticks }

namespace ForkChoice

def score (scores : ScoreMap) (blockHash : Bytes) : Nat :=
  match scores.find? blockHash with
  | none => 0
  | some entry => entry.2

def order (fc : ForkChoice σ) (epoch : UInt64) : List Bytes :=
  match fc.epochBlockOrder.find? epoch.toNat with
  | none => []
  | some entry => entry.2

def setOrder (fc : ForkChoice σ) (epoch : UInt64) (blocks : List Bytes) : ForkChoice σ :=
  { fc with epochBlockOrder :=
      if blocks = [] then fc.epochBlockOrder.erase epoch.toNat
      else fc.epochBlockOrder.insert (epoch.toNat, blocks) }

def eraseEpochScore (fc : ForkChoice σ) (epoch : UInt64) (blockHash : Bytes) : ForkChoice σ :=
  match fc.epochAttestations.find? epoch.toNat with
  | none => fc
  | some (_, blocks) =>
    let blocks := blocks.erase blockHash
    { fc with epochAttestations :=
        if blocks.entries = [] then fc.epochAttestations.erase epoch.toNat
        else fc.epochAttestations.insert (epoch.toNat, blocks) }

def removeTrackedBlockLocked (fc : ForkChoice σ) (blockHash : Bytes) : ForkChoice σ :=
  let fc :=
    match fc.blockEpochMap.find? blockHash with
    | none => fc
    | some (_, epoch) =>
      let fc :=
        if fc.order epoch = [] then fc
        else fc.setOrder epoch ((fc.order epoch).filter (· ≠ blockHash))
      fc.eraseEpochScore epoch blockHash
  { fc with
    blockScores := fc.blockScores.erase blockHash
    attestationsByBlock := fc.attestationsByBlock.erase blockHash
    validatorAttestations := fc.validatorAttestations.erase blockHash
    blockEpochMap := fc.blockEpochMap.erase blockHash }

def filteredBacking (fc : ForkChoice σ) (epoch : UInt64) (blockHash : Bytes)
    (backing : List Bytes) : List Bytes :=
  match fc.blockEpochMap.find? blockHash with
  | none => backing
  | some (_, mapped) =>
    if mapped ≠ epoch then backing
    else
      let filtered := (fc.order epoch).filter (· ≠ blockHash)
      filtered ++ backing.drop filtered.length

/-- The loop of `pruneEpochBlocksLocked`, whose slice shares the array that the removals rewrite. -/
def pruneLoop (maxBlocks : Nat) (epoch : UInt64) :
    Nat → List Bytes → Nat → ForkChoice σ → ForkChoice σ
  | 0, backing, start, fc => fc.setOrder epoch (backing.drop start)
  | rounds + 1, backing, start, fc =>
    match (backing.drop start) with
    | [] => fc.setOrder epoch []
    | oldest :: rest =>
      if rest.length < maxBlocks then fc.setOrder epoch (oldest :: rest)
      else pruneLoop maxBlocks epoch rounds (fc.filteredBacking epoch oldest backing) (start + 1)
        (fc.removeTrackedBlockLocked oldest)

def pruneEpochBlocksLocked (cfg : ForkChoiceConfig σ) (epoch : UInt64) (fc : ForkChoice σ) :
    ForkChoice σ :=
  if cfg.maxBlocksPerEpoch ≤ 0 then fc
  else
    pruneLoop cfg.maxBlocksPerEpoch.toNat epoch (fc.order epoch).length (fc.order epoch) 0 fc

def getCurrentEpoch (fc : ForkChoice σ) : Nat :=
  fc.epochAttestations.entries.foldl (fun maxEpoch entry => max maxEpoch entry.1) 0

def maxSafetyRetention : Nat := 50

def cutoffEpoch (cfg : ForkChoiceConfig σ) (fc : ForkChoice σ) : Nat :=
  let currentEpoch := fc.getCurrentEpoch
  let cutoff :=
    match fc.finalizedCheckpoint with
    | some checkpoint => checkpoint.epoch.toNat - 2
    | none => currentEpoch - cfg.maxEpochsToKeep.toNat
  max cutoff (currentEpoch - maxSafetyRetention)

def isRecent (fc : ForkChoice σ) (cutoff : Nat) (blockHash : Bytes) : Bool :=
  match fc.blockEpochMap.find? blockHash with
  | none => false
  | some (_, epoch) => cutoff ≤ epoch.toNat

def cleanupOldEpochsLocked (cfg : ForkChoiceConfig σ) (fc : ForkChoice σ) : ForkChoice σ :=
  let cutoff := fc.cutoffEpoch cfg
  let oldEpochs := fc.epochAttestations.keys.filter (· < cutoff)
  let fc := { fc with
    epochAttestations := oldEpochs.foldl KeyedMap.erase fc.epochAttestations
    epochBlockOrder := oldEpochs.foldl KeyedMap.erase fc.epochBlockOrder
    latestMessages := (fc.latestMessages.keys.filter (· < cutoff)).foldl KeyedMap.erase
      fc.latestMessages }
  (fc.blockScores.keys.filter fun blockHash => ¬ fc.isRecent cutoff blockHash).foldl
    removeTrackedBlockLocked fc

end ForkChoice

open Guarded (exclusively shared read update)

/-- `time.Now()` in nanoseconds. -/
def forkChoiceClock (cfg : ForkChoiceConfig σ) : ForkChoiceM σ Int := do
  let fc ← read
  update fun fc => { fc with ticks := fc.ticks + 1 }
  return cfg.clock fc.ticks

def stakeOf (vals : List Validator) : Nat :=
  vals.foldl (fun total val => if val.active then
    total + parseBigInt val.stake else total) 0

def stakeCacheFresh (cfg : ForkChoiceConfig σ) (fc : ForkChoice σ) (now : Int) : Bool :=
  match fc.totalActiveStakeTime with
  | none => false
  | some cached => now - cached < cfg.stakeCacheTTL ∧ fc.totalActiveStake ≠ 0

def getTotalActiveStake (cfg : ForkChoiceConfig σ) : ForkChoiceM σ Nat := do
  let now ← forkChoiceClock cfg
  let fc ← read
  if stakeCacheFresh cfg fc now then return fc.totalActiveStake
  else
    let totalStake := stakeOf cfg.worldState.getActiveValidators
    let cachedAt ← forkChoiceClock cfg
    update fun fc => { fc with
      totalActiveStake := totalStake, totalActiveStakeTime := some cachedAt }
    return totalStake

def quorumThreshold (totalStake : Nat) : Nat := totalStake * 2 / 3 + 1

def bestBlock (scores : ScoreMap) : Option (Bytes × Nat) :=
  scores.entries.foldl (fun best entry =>
    match best with
    | none => some entry
    | some leader => if leader.2 < entry.2 then some entry else some leader) none

def checkFinalization (cfg : ForkChoiceConfig σ) : ForkChoiceM σ Unit := do
  let fc ← read
  match fc.justifiedCheckpoint with
  | none => pure ()
  | some justified =>
    if justified.epoch < 2 then pure ()
    else
      let epochToFinalize := justified.epoch - 2
      if (fc.finalizedCheckpoint.any fun finalized => decide (epochToFinalize ≤ finalized.epoch)) then
        pure ()
      else
        match (fc.epochAttestations.find? epochToFinalize.toNat).bind (bestBlock ·.2) with
        | none => pure ()
        | some (blk, stake) =>
          if blk = [] then pure ()
          else
            let totalStake ← getTotalActiveStake cfg
            let now ← forkChoiceClock cfg
            update fun fc => { fc with finalizedCheckpoint := some {
              epoch := epochToFinalize
              blockHash := blk
              timestamp := now / 1000000000
              attestingStake := stake
              totalStake := totalStake } }

def checkJustification (cfg : ForkChoiceConfig σ) (epoch : UInt64) (blockHash : Bytes)
    (attestingStake totalStake : Nat) : ForkChoiceM σ Unit := do
  if attestingStake < quorumThreshold totalStake then pure ()
  else
    let fc ← read
    if (fc.justifiedCheckpoint.any fun justified => decide (epoch ≤ justified.epoch)) then pure ()
    else
      let now ← forkChoiceClock cfg
      update fun fc => { fc with justifiedCheckpoint := some {
        epoch := epoch
        blockHash := blockHash
        timestamp := now / 1000000000
        attestingStake := attestingStake
        totalStake := totalStake } }
      checkFinalization cfg

def ensurePeriodicCheckpoint (cfg : ForkChoiceConfig σ) (epoch : UInt64) (blockHash : Bytes)
    (attestingStake totalStake : Nat) : ForkChoiceM σ Unit := exclusively do
  let interval : Int := if 0 < cfg.checkpointInterval then cfg.checkpointInterval else 10
  if epoch.toNat % interval.toNat ≠ 0 then pure ()
  else
    update fun fc => { fc with justifiedCheckpoint := some {
      epoch := epoch
      blockHash := blockHash
      timestamp := 0
      attestingStake := attestingStake
      totalStake := totalStake } }

/-- Asks the slashing manager, and is stuck where it does not answer. -/
def askSlashing {α : Type} (request : σ → Option α × σ) (slashing : σ) : ForkChoiceM σ (α × σ) := do
  let (answer, slashing) := request slashing
  update fun fc => { fc with slashing := some slashing }
  match answer with
  | none => throw .deadlock
  | some value => return (value, slashing)

def passesSlashing (cfg : ForkChoiceConfig σ) (att : Attestation) : ForkChoiceM σ Bool := do
  match (← read).slashing with
  | none => return true
  | some slashing =>
    let manager := cfg.slashingManager
    match ← askSlashing (manager.processAttestation att) slashing with
    | (.violation, _) => return false
    | (.doubleVote previous, slashing) =>
      let _ ← askSlashing (manager.applyDoubleVoteSlashing previous att) slashing
      return false
    | (.accepted, slashing) =>
      let (active, slashing) := manager.isValidatorActive att.validatorAddress slashing
      update fun fc => { fc with slashing := some slashing }
      return active

def findValidatorAttestation (fc : ForkChoice σ) (blockHash : Bytes) (valAddr : Address)
    (epoch : UInt64) : Option Attestation :=
  match fc.attestationsByBlock.find? blockHash with
  | none => none
  | some (_, attestations) => attestations.find? fun att =>
    decide (att.validatorAddress = valAddr ∧ att.epoch = epoch)

def reportEquivocation (cfg : ForkChoiceConfig σ) (att : Attestation)
    (prevVote : Bytes) : ForkChoiceM σ Unit := do
  if prevVote.length < 8 ∨ att.blockHash.length < 8 then
    throw (.panic "slice bounds out of range")
  else
    let fc ← read
    match fc.slashing, findValidatorAttestation fc prevVote att.validatorAddress att.epoch with
    | some slashing, some previous =>
      let _ ← askSlashing (cfg.slashingManager.applyDoubleVoteSlashing previous att) slashing
    | _, _ => pure ()

def latestVotes (fc : ForkChoice σ) (epoch : UInt64) :
    KeyedMap (Prod.fst : Address × Bytes → Address) :=
  match fc.latestMessages.find? epoch.toNat with
  | none => KeyedMap.empty
  | some entry => entry.2

def trackLatestMessage (cfg : ForkChoiceConfig σ) (att : Attestation) : ForkChoiceM σ Bool := do
  let votes := latestVotes (← read) att.epoch
  update fun fc => { fc with latestMessages := fc.latestMessages.insert (att.epoch.toNat, votes) }
  match votes.find? att.validatorAddress with
  | some (_, prevVote) =>
    if prevVote ≠ att.blockHash then
      reportEquivocation cfg att prevVote
      return false
    else return true
  | none =>
    update fun fc => { fc with
      latestMessages := fc.latestMessages.insert (att.epoch.toNat,
        votes.insert (att.validatorAddress, att.blockHash)) }
    return true

def attestersOf (fc : ForkChoice σ) (blockHash : Bytes) : List Address :=
  match fc.validatorAttestations.find? blockHash with
  | none => []
  | some entry => entry.2

def markAttested (att : Attestation) : ForkChoiceM σ Bool := do
  let attested := attestersOf (← read) att.blockHash
  if att.validatorAddress ∈ attested then return false
  else
    update fun fc => { fc with
      validatorAttestations := fc.validatorAttestations.insert
        (att.blockHash, att.validatorAddress :: attested) }
    return true

def storeAttestation (cfg : ForkChoiceConfig σ) (att : Attestation) : ForkChoiceM σ Unit := do
  match (← read).attestationsByBlock.find? att.blockHash with
  | none =>
    if cfg.maxAttestationsPerBlock < 0 then throw (.panic "makeslice: cap out of range")
    else
      let stored := if 0 < cfg.maxAttestationsPerBlock then [att] else []
      update fun fc => { fc with
        attestationsByBlock := fc.attestationsByBlock.insert (att.blockHash, stored) }
  | some (_, attestations) =>
    if attestations.length < cfg.maxAttestationsPerBlock then
      update fun fc => { fc with
        attestationsByBlock := fc.attestationsByBlock.insert
          (att.blockHash, attestations ++ [att]) }
    else pure ()

def addBlockScore (cfg : ForkChoiceConfig σ) (att : Attestation) (newScore : Nat)
    (fc : ForkChoice σ) : ForkChoice σ :=
  let isNewBlock := (fc.blockScores.find? att.blockHash).isNone
  let fc := { fc with
    blockScores := fc.blockScores.insert (att.blockHash, newScore)
    blockEpochMap := fc.blockEpochMap.insert (att.blockHash, att.epoch) }
  if isNewBlock then
    (fc.setOrder att.epoch (fc.order att.epoch ++ [att.blockHash])
      ).pruneEpochBlocksLocked cfg att.epoch
  else fc

def addEpochScore (cfg : ForkChoiceConfig σ) (att : Attestation) (stake : Nat)
    (fc : ForkChoice σ) : ForkChoice σ :=
  match fc.epochAttestations.find? att.epoch.toNat with
  | none =>
    let fc := { fc with
      epochAttestations := fc.epochAttestations.insert
        (att.epoch.toNat, KeyedMap.empty.insert (att.blockHash, stake)) }
    fc.cleanupOldEpochsLocked cfg
  | some (_, scores) =>
    { fc with
      epochAttestations := fc.epochAttestations.insert (att.epoch.toNat,
        scores.insert (att.blockHash, ForkChoice.score scores att.blockHash + stake)) }

def checkQuorum (cfg : ForkChoiceConfig σ) (att : Attestation) (attestingStake : Nat) :
    ForkChoiceM σ Unit := do
  let totalStake ← getTotalActiveStake cfg
  if attestingStake < quorumThreshold totalStake then pure ()
  else
    ensurePeriodicCheckpoint cfg att.epoch att.blockHash attestingStake totalStake
    checkJustification cfg att.epoch att.blockHash attestingStake totalStake

/-- `ProcessAttestation` under its lock. -/
def countAttestation (cfg : ForkChoiceConfig σ) (att : Attestation) : ForkChoiceM σ Unit := do
  if ¬ (← passesSlashing cfg att) then return
  match cfg.worldState.getValidator att.validatorAddress with
  | none => return
  | some val =>
    if ¬ val.active then return
    if ¬ (← trackLatestMessage cfg att) then return
    if ¬ (← markAttested att) then return
    storeAttestation cfg att
    let stake := parseBigInt val.stake
    let newScore := ForkChoice.score (← read).blockScores att.blockHash + stake
    update (addBlockScore cfg att newScore)
    update (addEpochScore cfg att stake)
    checkQuorum cfg att newScore

def processAttestation (cfg : ForkChoiceConfig σ) (att : Attestation) :
    ForkChoiceM σ Unit := exclusively (countAttestation cfg att)

def finalizationDepth (cfg : ForkChoiceConfig σ) : UInt64 :=
  UInt64.ofNat (if 0 < cfg.finalizationEpochs then cfg.finalizationEpochs else 2).toNat

def updateFinalization (cfg : ForkChoiceConfig σ) (currentEpoch : UInt64) :
    ForkChoiceM σ Unit := exclusively do
  match (← read).justifiedCheckpoint with
  | none => pure ()
  | some justified =>
    if currentEpoch - justified.epoch < finalizationDepth cfg then pure ()
    else update fun fc => { fc with finalizedCheckpoint := some justified }

/-- `UpdateJustifiedCheckpoint` and `UpdateFinalizedCheckpoint` fill in the rest the same way. -/
def newCheckpoint (cfg : ForkChoiceConfig σ) (epoch : UInt64) (blockHash : Bytes) :
    ForkChoiceM σ Checkpoint := do
  let attestingStake := ForkChoice.score (← read).blockScores blockHash
  let totalStake ← getTotalActiveStake cfg
  let now ← forkChoiceClock cfg
  return {
    epoch := epoch
    blockHash := blockHash
    timestamp := now / 1000000000
    attestingStake := attestingStake
    totalStake := totalStake }

def updateJustifiedCheckpoint (cfg : ForkChoiceConfig σ) (epoch : UInt64) (blockHash : Bytes) :
    ForkChoiceM σ Unit := exclusively do
  let checkpoint ← newCheckpoint cfg epoch blockHash
  update fun fc => { fc with justifiedCheckpoint := some checkpoint }

/-- `saves` says whether the database accepts the write. The record passes through JSON. -/
def updateFinalizedCheckpoint (cfg : ForkChoiceConfig σ) (epoch : UInt64) (blockHash : Bytes)
    (saves : Bool) : ForkChoiceM σ Unit := exclusively do
  let checkpoint ← newCheckpoint cfg epoch blockHash
  update fun fc => { fc with finalizedCheckpoint := some checkpoint }
  if saves then
    let saved := { checkpoint with blockHash := Utf8.coerce checkpoint.blockHash }
    update fun fc => { fc with database := fc.database.map fun _ => .saved saved }

def loadFinalizedCheckpoint : ForkChoiceM σ Unit := exclusively do
  match (← read).database with
  | none | some .missing => return
  | some .malformed => throw (.refused "failed to load checkpoint")
  | some (.saved checkpoint) =>
    update fun fc => { fc with finalizedCheckpoint := some checkpoint }
    if checkpoint.blockHash.length < 8 then throw (.panic "slice bounds out of range")

def cleanupOldEpochs (cfg : ForkChoiceConfig σ) : ForkChoiceM σ Unit := exclusively do
  update (·.cleanupOldEpochsLocked cfg)

def crossesFinality (fc : ForkChoice σ) (forkPointEpoch : UInt64) : Option Checkpoint :=
  fc.finalizedCheckpoint.filter fun finalized => decide (forkPointEpoch ≤ finalized.epoch)

/-- The error of `ValidateReorganization`, if there is one. -/
def reorganizationError (cfg : ForkChoiceConfig σ) (fc : ForkChoice σ) (reorgDepth : Int)
    (forkPointEpoch : UInt64) (newChainStake totalStake : Nat) : Option String :=
  let maxDepth : Int := if 0 < cfg.maxReorgDepth then cfg.maxReorgDepth else 32
  let percentage := newChainStake * 10000 / totalStake
  if reorgDepth < 0 then
    some s!"invalid reorg depth: {reorgDepth} (cannot be negative)"
  else if forkPointEpoch = 0 then
    some "invalid epoch: fork point epoch cannot be zero"
  else if maxDepth < reorgDepth then
    some s!"reorg exceeds maximum depth: attempted={reorgDepth}, max={maxDepth}"
  else
    match crossesFinality fc forkPointEpoch with
    | some finalized =>
      some s!"reorg crosses finalized checkpoint: fork_epoch={forkPointEpoch}, finalized_epoch={finalized.epoch}"
    | none =>
      if totalStake = 0 then
        some s!"invalid stake value: total stake '{totalStake}' is invalid or non-positive"
      else if (percentage : Int) < cfg.requiredBasisPoints then
        some s!"insufficient stake for reorg: has={percentage / 100}%, required={cfg.requiredBasisPoints / 100}%"
      else none

def validateReorganization (cfg : ForkChoiceConfig σ) (reorgDepth : Int)
    (forkPointEpoch : UInt64) (newChainStake totalStake : Nat) : ForkChoiceM σ Unit := shared do
  match reorganizationError cfg (← read) reorgDepth forkPointEpoch newChainStake totalStake with
  | none => return
  | some err => throw (.refused err)

end

end Thrylos
