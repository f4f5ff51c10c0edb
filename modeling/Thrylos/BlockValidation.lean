import Thrylos.Proposer
import Thrylos.Simulation
import Thrylos.SlashingEngine

/-!
The checks a block meets before it is executed: those of `core/chain/blockchain.go` and those of the
`BlockValidator` of `consensus/pos/consensus.go`. Clock readings are arguments.
-/

namespace Thrylos

open GoText (ascii signedDecimal)

structure TimestampValidator where
  maxDriftSeconds : Int64
  slotDurationSeconds : Int64
  genesisTimestamp : Int64

structure TransactionVerdict (ρ : Type) where
  verdict : Except String Unit
  seen : ρ
  lookups : List Address

structure ChainConfig (ρ : Type) extends EngineConfig where
  maxFutureBlockTime : Int
  timestampValidator : TimestampValidator
  checkTransaction : WorldState → ρ → Transaction → TransactionVerdict ρ

structure ConsensusLink where
  isSyncing : Bool

/-- `Blockchain`, with the memory of the transaction validator beside the world state. -/
structure Chain (ρ : Type) where
  world : WorldState
  seen : ρ
  consensusEngine : Option ConsensusLink

abbrev ChainM (ρ : Type) := EStateM (Halt String) (Chain ρ)

structure Readings where
  drift : Int
  jail : Int
  slot : Int
  proposer : Int

def unixSeconds (now : Int) : Int64 := Int64.ofInt (now / nanosPerSecond)

def sumGas (txs : List Transaction) : Int64 :=
  txs.foldl (fun total tx => total + tx.gas) 0

section

variable {ρ : Type}

namespace Chain

def onState {α : Type} (prog : WorldM α) : ChainM ρ α := fun chain =>
  match prog chain.world with
  | .ok value ws => .ok value { chain with world := ws }
  | .error err ws => .error (.refused err) { chain with world := ws }

def check (context : String) : Except String Unit → ChainM ρ Unit
  | .ok () => pure ()
  | .error err => throw (.refused (context ++ err))

end Chain

open Chain (check onState)

/-- `validateBlockStructure` of the blockchain. That the validator is not registered is only
logged. -/
def Blockchain.validateBlockStructure (cfg : ChainConfig ρ) (now : Int) (blk : Block) :
    Except String Unit :=
  let maxDrift := if 0 < cfg.maxFutureBlockTime then cfg.maxFutureBlockTime
    else 15 * nanosPerSecond
  let blockTime := unixTime blk.header.timestamp
  let totalGas := sumGas blk.transactions
  if blk.hash = [] then .error "block hash cannot be empty"
  else if blk.header.validator = [] then .error "block validator cannot be empty"
  else if now + maxDrift < blockTime then
    .error s!"block timestamp {cfg.formatTime blockTime} is too far in the future (limit: {cfg.formatDuration maxDrift})"
  else if cfg.maxTxPerBlock < blk.transactions.length then
    .error s!"block contains too many transactions: {blk.transactions.length} > {cfg.maxTxPerBlock}"
  else if totalGas ≠ blk.header.gasUsed then
    .error s!"gas used mismatch: header={blk.header.gasUsed}, calculated={totalGas}"
  else if cfg.maxBlockSize < totalGas then
    .error s!"block gas usage exceeds limit: {totalGas} > {cfg.maxBlockSize}"
  else .ok ()

namespace TimeValidator

/-- `MaxAllowedTimeDrift` in seconds, for both directions. -/
def maxAllowedTimeDrift : Int64 := 5

def validateTimestamp (now timestamp : Int64) : Except String Unit :=
  let futureDrift := timestamp - now
  let pastDrift := now - timestamp
  if maxAllowedTimeDrift < futureDrift then
    .error s!"timestamp {timestamp} is {futureDrift} seconds in future (max allowed: {maxAllowedTimeDrift} seconds)"
  else if maxAllowedTimeDrift < pastDrift then
    .error s!"timestamp {timestamp} is {pastDrift} seconds in past (max allowed: {maxAllowedTimeDrift} seconds)"
  else .ok ()

def maxGenesisRecoveryPeriod : Int64 := 604800

def validateIncrement (cfg : ChainConfig ρ) (blockTimestamp previousBlockTimestamp : Int64) :
    Except String Unit :=
  let increment := blockTimestamp - previousBlockTimestamp
  let timeDiff := increment * 1000000000
  if blockTimestamp ≤ previousBlockTimestamp then
    .error s!"block timestamp {blockTimestamp} must be strictly greater than previous {previousBlockTimestamp}"
  else if timeDiff < 1000000000 then
    .error s!"block timestamp increment {cfg.formatDuration timeDiff.toInt} too small (min: 1s)"
  else if maxGenesisRecoveryPeriod < increment then
    .error s!"block timestamp increment {increment} seconds too large (max: 3600 seconds for normal blocks, {maxGenesisRecoveryPeriod} seconds for genesis recovery)"
  else .ok ()

def validateBlockTimestamp (cfg : ChainConfig ρ) (now : Int)
    (blockTimestamp previousBlockTimestamp : Int64) : Except String Unit :=
  match validateTimestamp (unixSeconds now) blockTimestamp with
  | .error err => .error s!"timestamp validation failed: {err}"
  | .ok () =>
    if previousBlockTimestamp = 0 then .ok ()
    else validateIncrement cfg blockTimestamp previousBlockTimestamp

end TimeValidator

namespace TimestampValidator

def calculateSlotTimestamp (val : TimestampValidator) (slot : UInt64) : Int64 :=
  val.genesisTimestamp + slot.toInt64 * val.slotDurationSeconds

def abs64 (value : Int64) : Int64 := if value < 0 then -value else value

def validateInterval (val : TimestampValidator) (actualDiff parentIndex : Int64) :
    Except String Unit :=
  let maxExpectedDiff := val.slotDurationSeconds * 200
  if parentIndex = 0 ∧ maxExpectedDiff < actualDiff then
    if actualDiff ≤ TimeValidator.maxGenesisRecoveryPeriod then .ok ()
    else .error s!"time between blocks ({actualDiff} seconds) exceeds even genesis recovery limit (max: {TimeValidator.maxGenesisRecoveryPeriod} seconds / 7.0 days)"
  else if actualDiff < 1 ∨ maxExpectedDiff < actualDiff then
    .error s!"time between blocks ({actualDiff} seconds) is outside acceptable range [1, {maxExpectedDiff}]"
  else .ok ()

def validateBlockTimestamp (val : TimestampValidator) (now : Int) (blockTimestamp : Int64)
    (blockSlot : UInt64) (parentTimestamp parentIndex : Int64) : Except String Unit :=
  let maxAllowedTimestamp := unixSeconds now + val.maxDriftSeconds
  let expectedTimestamp := val.calculateSlotTimestamp blockSlot
  let timestampDiff := abs64 (blockTimestamp - expectedTimestamp)
  if blockTimestamp < parentTimestamp then
    .error s!"block timestamp ({blockTimestamp}) cannot be less than parent timestamp ({parentTimestamp})"
  else if maxAllowedTimestamp < blockTimestamp then
    .error s!"block timestamp ({blockTimestamp}) is too far in future (max allowed: {maxAllowedTimestamp}, drift: {val.maxDriftSeconds} seconds)"
  else if val.maxDriftSeconds < timestampDiff then
    .error s!"block timestamp ({blockTimestamp}) deviates too much from expected slot time ({expectedTimestamp}), diff: {timestampDiff} seconds, max allowed: {val.maxDriftSeconds}"
  else val.validateInterval (blockTimestamp - parentTimestamp) parentIndex

end TimestampValidator

def generateAddress (cfg : EvidenceConfig) (pubKey : PublicKey) : Except String Address :=
  let addr := (cfg.keccak256 ((cfg.curve.fromECDSAPub pubKey).drop 1)).drop 12
  let addrStr := ascii "0x" ++ hexBytes addr
  if addr.all (· = 0) then .error "failed to generate address: derived address is nil or zero"
  else if addrStr.length ≠ 42 then .error s!"invalid address length derived: {text addrStr}"
  else .ok addrStr

def computeBlockSigningHash (cfg : EngineConfig) (blk : Block) : Except String Bytes :=
  if blk.hash = [] then .error "block hash must be set before signing"
  else .ok (cfg.keccak256 (cfg.chainID ++ ascii "|block-v1|" ++ blk.hash ++ ascii "|" ++
    signedDecimal blk.header.index.toInt))

def computeVRFSigningHash (cfg : EngineConfig) (input : Bytes) : Bytes :=
  cfg.sha256 (ascii "THRYLOS_VRF_V1" ++ input)

def verifyVRFProof (cfg : EngineConfig) (publicKey alpha output proof : Bytes) :
    Except String Unit := do
  if proof = [] then throw "empty proof"
  if proof.length ≠ signatureSize then
    throw s!"invalid proof length: expected {signatureSize}, got {proof.length}"
  let pubKey ← (newPublicKeyFromBytes cfg.curve publicKey).mapError ("invalid VRF public key: " ++ ·)
  let signature ← (newSignatureFromBytes proof).mapError ("invalid VRF proof signature: " ++ ·)
  (verifyHash cfg.curve pubKey (computeVRFSigningHash cfg alpha) signature).mapError
    fun _ => "signature verification failed"
  if cfg.sha256 proof ≠ output then throw "output mismatch"

namespace BlockValidator

def validateContinuity (blk : Block) : Option Block → Except String Unit
  | none => .ok ()
  | some currentBlock =>
    if blk.header.index ≠ currentBlock.header.index + 1 then
      .error s!"invalid block index: expected {currentBlock.header.index + 1}, got {blk.header.index}"
    else if blk.header.prevHash ≠ currentBlock.hash then .error "invalid previous hash"
    else .ok ()

def validateBlockStructure (cfg : ChainConfig ρ) (now : Int) (ws : WorldState)
    (blk : Block) : Except String Unit := do
  let currentBlock := getCurrentBlock ws
  let previousBlockTimestamp := (currentBlock.map (·.header.timestamp)).getD 0
  if cfg.maxTxPerBlock < blk.transactions.length then
    throw s!"block contains {blk.transactions.length} transactions, maximum allowed is {cfg.maxTxPerBlock}"
  else
    (TimeValidator.validateBlockTimestamp cfg now blk.header.timestamp previousBlockTimestamp
      ).mapError ("block timestamp validation failed: " ++ ·)
    validateContinuity blk currentBlock

/-- A block that cannot be hashed is a panic. -/
def validateBlockHash (cfg : ChainConfig ρ) (blk : Block) : ChainM ρ Unit :=
  match calculateBlockHash cfg.toNodeConfig blk with
  | .error message => throw (.panic message)
  | .ok expectedHash => check "block hash validation failed: "
      (if blk.hash ≠ expectedHash then
        .error s!"invalid block hash: expected {text expectedHash}, got {text blk.hash}"
      else .ok ())

/-- The checks of a validator that may propose: `owner` is what its errors call it. -/
def checkStanding (owner : String) (val : Validator) (now : Int) : Except String Unit :=
  if ¬ val.active then .error s!"{owner} is not active"
  else if unixSeconds now < val.jailUntil then
    .error s!"{owner} is jailed until {val.jailUntil}"
  else .ok ()

def verifyBlockSignature (cfg : ChainConfig ρ) (val : Validator) (blk : Block) :
    Except String Unit := do
  let valAddr := text blk.header.validator
  if val.pubkey = [] then throw s!"validator {valAddr} has empty pubkey"
  else
    let pubKey ← (newPublicKeyFromBytes cfg.curve val.pubkey).mapError
      (s!"invalid validator pubkey for {valAddr}: " ++ ·)
    let derivedAddr ← (generateAddress cfg.toEvidenceConfig pubKey).mapError
      ("failed to derive address from validator pubkey: " ++ ·)
    if derivedAddr ≠ blk.header.validator then
      throw s!"validator address/pubkey mismatch: header={valAddr}, derived={text derivedAddr}"
    else
      let msg ← computeBlockSigningHash cfg.toEngineConfig blk
      let sig ← (newSignatureFromBytes blk.signature).mapError
        ("failed to parse block signature: " ++ ·)
      (verify cfg.keccak256 cfg.curve pubKey msg sig).mapError
        ("block signature verification failed: " ++ ·)

def validateBlockSignature (cfg : ChainConfig ρ) (now : Int) (ws : WorldState)
    (blk : Block) : Except String Unit :=
  let valAddr := text blk.header.validator
  if blk.header.index = 0 then .ok ()
  else if blk.signature = [] then .error "block signature cannot be empty"
  else if blk.header.validator = [] then .error "block header has empty validator address"
  else
    match ws.validators.find? blk.header.validator with
    | none => .error s!"failed to load validator {valAddr}: validator {valAddr} not found"
    | some (_, val) => do
      checkStanding s!"validator {valAddr}" val now
      verifyBlockSignature cfg val blk

def validateSlotTime (cfg : ChainConfig ρ) (now : Int) (ws : WorldState) (blk : Block) :
    Except String Unit :=
  match getBlock ws blk.header.prevHash with
  | none => .ok ()
  | some parentBlock => cfg.timestampValidator.validateBlockTimestamp now blk.header.timestamp
      blk.header.slot parentBlock.header.timestamp parentBlock.header.index

def validateVRFProof (cfg : ChainConfig ρ) (ws : WorldState) (blk : Block) : Except String Unit :=
  let addr := blk.header.validator
  if ws.validators.entries.countP (·.2.active) = 1 then .ok ()
  else
    match ws.validators.find? addr with
    | none => .error s!"validator not found: validator {text addr} not found"
    | some (_, val) =>
      (verifyVRFProof cfg.toEngineConfig val.pubkey
        (BigEndian.fixed 8 blk.header.slot.toNat ++ BigEndian.fixed 8 blk.header.epoch.toNat)
        blk.header.vrfOutput blk.header.vrfProof).mapError ("VRF verification failed: " ++ ·)

/-- `ValidateTransaction`, which normalises the amounts of the object first and fills the cache. -/
def validateTransaction (cfg : ChainConfig ρ) (tx : Transaction) : ChainM ρ Transaction :=
  fun chain =>
    match normalizeTransactionAmounts tx with
    | .error err => .error (.refused s!"invalid transaction amounts: {err}") chain
    | .ok norm =>
      let answer := cfg.checkTransaction chain.world chain.seen norm
      let am := answer.lookups.foldl Ledger.load chain.world.ledger
      let chain := { chain with world := { chain.world with ledger := am }, seen := answer.seen }
      match answer.verdict with
      | .error err => .error (.refused err) chain
      | .ok () => .ok norm chain

/-- `position` counts the transactions already validated. -/
def validateBlockTransactions (cfg : ChainConfig ρ) (position : Nat) :
    List Transaction → ChainM ρ (List Transaction)
  | [] => pure []
  | tx :: rest => do
    let norm ← (validateTransaction cfg tx).adaptExcept
      (naming s!"transaction {position} validation failed: ")
    let others ← validateBlockTransactions cfg (position + 1) rest
    return norm :: others

def validateGasUsage (cfg : ChainConfig ρ) (blk : Block) : Except String Unit :=
  let totalGasUsed := sumGas blk.transactions
  if blk.header.gasUsed ≠ totalGasUsed then
    .error s!"gas used mismatch: header says {blk.header.gasUsed}, calculated {totalGasUsed}"
  else if cfg.maxBlockSize < totalGasUsed then
    .error s!"block gas usage {totalGasUsed} exceeds limit {cfg.maxBlockSize}"
  else .ok ()

def validateProposer (now : Int) (ws : WorldState) (blk : Block) : Except String Unit :=
  let proposer := text blk.header.validator
  match ws.validators.find? blk.header.validator with
  | none => .error s!"proposer {proposer} is not a validator: validator {proposer} not found"
  | some (_, val) => checkStanding s!"proposer {proposer}" val now

def validateStateRoot (cfg : ChainConfig ρ) (blk : Block) : ChainM ρ Unit := do
  let simulatedRoot ← (onState (simulateStateRoot cfg.toNodeConfig blk)).adaptExcept
    (naming "state root simulation failed: ")
  check "state root mismatch: "
    (if blk.header.stateRoot ≠ simulatedRoot then
      .error s!"block={text blk.header.stateRoot}, simulated={text simulatedRoot}"
    else .ok ())

def validateHeader (cfg : ChainConfig ρ) (readings : Readings) (blk : Block) : ChainM ρ Unit := do
  let ws := (← get).world
  check "block structure validation failed: " (validateBlockStructure cfg readings.drift ws blk)
  validateBlockHash cfg blk
  check "block signature validation failed: " (validateBlockSignature cfg readings.jail ws blk)
  if 0 < blk.header.index then
    check "timestamp validation failed: " (validateSlotTime cfg readings.slot ws blk)
    check "VRF proof validation failed: " (validateVRFProof cfg ws blk)

/-- Returns the block with its transactions as `ValidateTransaction` leaves them. -/
def validateBlock (cfg : ChainConfig ρ) (readings : Readings) (isSyncing : Bool)
    (blk : Block) : ChainM ρ Block := do
  validateHeader cfg readings blk
  let txs ← (validateBlockTransactions cfg 0 blk.transactions).adaptExcept
    (naming "block transactions validation failed: ")
  let blk := { blk with transactions := txs }
  check "gas usage validation failed: " (validateGasUsage cfg blk)
  check "proposer validation failed: " (validateProposer readings.proposer (← get).world blk)
  if ¬ isSyncing ∧ 0 < blk.header.index then validateStateRoot cfg blk
  return blk

end BlockValidator

end

def sampleAdmission : ChainConfig Unit :=
  { sampleEngineConfig with
    maxFutureBlockTime := 0
    timestampValidator := ⟨300, 6, 0⟩
    checkTransaction := fun _ _ _ => ⟨.ok (), (), []⟩ }

def sampleReadings : Readings :=
  ⟨nanosPerSecond, nanosPerSecond, nanosPerSecond, nanosPerSecond⟩

def sampleProposer : Address × Validator :=
  let address := (generateAddress sampleAdmission.toEvidenceConfig ⟨5, 0⟩).toOption.getD []
  (address, { (sampleValidator 97 10 5).2 with address := address })

def sampleProposal (root : Bytes) : Block :=
  let draft := sampleBlock 1 [7] [] []
  let draft := { draft with header := { draft.header with
    validator := sampleProposer.1
    stateRoot := root } }
  { draft with hash := (calculateBlockHash sampleAdmission.toNodeConfig draft).toOption.getD [] }

def sampleSigned (blk : Block) : Block :=
  let message := (computeBlockSigningHash sampleAdmission.toEngineConfig blk).toOption.getD []
  { blk with signature := BigEndian.fixed 32 5 ++
      BigEndian.fixed 32 (sampleSeal (sampleAdmission.keccak256 message)) ++ [0] }

end Thrylos
