import Thrylos.BlockValidation
import Thrylos.SafeMath

/-!
`ValidateTransaction`, `core/transaction/validator.go`, and the replay detector,
`core/transaction/replay.go`, which writes a transaction down before the signature and everything
else is checked.
-/

namespace Thrylos

open BigEndian (fixed)
open GoText (ascii)

/-- The functions of Go's `strings` package on text that need not be ASCII. -/
structure GoStrings where
  toLower : Bytes → Bytes
  trimSpace : Bytes → Bytes
  equalFold : Bytes → Bytes → Bool

structure ConfigAmount where
  written : String
  value : Int

structure ReplayProtectionConfig where
  transactionMaxAge : Int64
  transactionTimeoutSeconds : Int64
  maxNonceGap : UInt64

/-- `recoverSender` is go-ethereum's recovery under EIP-155 and then Homestead rules;
`checkGovernance` what is asked of a governance transaction that can be paid for. -/
structure ValidatorConfig extends EngineConfig where
  strings : GoStrings
  replay : ReplayProtectionConfig
  minTransfer : ConfigAmount
  minStake : ConfigAmount
  minDelegation : ConfigAmount
  baseGasPrice : ConfigAmount
  maxGasPrice : ConfigAmount
  minGasLimit : Int64
  maxGasPerTx : Int64
  maxTimestampSkew : Int64
  maxTimestampAge : Int64
  recoverSender : Transaction → Except String Address
  checkGovernance : WorldState → Transaction → Except String Unit

instance : CoeOut ValidatorConfig EngineConfig := ⟨ValidatorConfig.toEngineConfig⟩

/-- The clock, in nanoseconds, at each point one call of `ValidateTransaction` reads it. -/
structure ValidationTimes where
  has : Int
  get : Int
  expiry : Int
  cleanup : Int
  timing : Int
  timestamp : Int
  protection : Int

structure CachedTransaction where
  txHash : Bytes
  expiresAt : Int
  seenAtBlockHeight : Int64
  deriving DecidableEq

/-- `ReplayDetectorV3`. The clean-up that runs beside it drops entries nothing sees any more. -/
structure ReplayDetector where
  cache : KeyedMap CachedTransaction.txHash
  accountNonces : KeyedMap (Prod.fst : Address × UInt64 → Address)

def ReplayDetector.new : ReplayDetector := ⟨KeyedMap.empty, KeyedMap.empty⟩

namespace ReplayCache

def maxSize : Nat := 100000

/-- The entry `Has` and `Get` see. -/
def live (cache : KeyedMap CachedTransaction.txHash) (txHash : Bytes) (now : Int) :
    Option CachedTransaction :=
  (cache.find? txHash).filter fun cached => decide (now ≤ cached.expiresAt)

def cleanupExpired (cache : KeyedMap CachedTransaction.txHash) (now : Int) :
    KeyedMap CachedTransaction.txHash :=
  (cache.entries.filter fun cached => decide (cached.expiresAt < now)).foldl
    (fun cache cached => cache.erase cached.txHash) cache

def add (cache : KeyedMap CachedTransaction.txHash) (entry : CachedTransaction) (now : Int) :
    KeyedMap CachedTransaction.txHash :=
  let cache := cache.insert entry
  if maxSize < cache.entries.length then cleanupExpired cache now else cache

end ReplayCache

def validateNonceSequence (currentNonce previousNonce maxGap : UInt64) : Except String Unit :=
  if currentNonce < previousNonce then
    .error s!"nonce cannot go backwards: current {currentNonce} < previous {previousNonce}"
  else if maxGap < currentNonce - previousNonce then
    .error s!"nonce gap too large: {currentNonce - previousNonce} (max allowed: {maxGap})"
  else .ok ()

variable (cfg : ValidatorConfig)

namespace ReplayDetector

def normalizeReplayAddress (sender : Address) : Address :=
  cfg.strings.toLower (cfg.strings.trimSpace sender)

def checkHash (det : ReplayDetector) (times : ValidationTimes) (txHash : Bytes)
    (currentBlockHeight : Int64) : Except String Unit :=
  match ReplayCache.live det.cache txHash times.has,
      ReplayCache.live det.cache txHash times.get with
  | some _, some cached =>
    .error s!"replay attack detected: transaction {text txHash} was already processed at block {cached.seenAtBlockHeight} (current: {currentBlockHeight})"
  | _, _ => .ok ()

def checkNonce (det : ReplayDetector) (sender : Address) (nonce : UInt64) : Except String Unit :=
  match det.accountNonces.find? sender with
  | none => .ok ()
  | some (_, previousNonce) =>
    if nonce ≤ previousNonce then
      .error s!"nonce replay detected: got {nonce}, expected > {previousNonce} (prevents reorg replay)"
    else
      match validateNonceSequence nonce previousNonce cfg.replay.maxNonceGap with
      | .error err => .error s!"nonce validation failed: {err}"
      | .ok () => .ok ()

def record (times : ValidationTimes) (det : ReplayDetector)
    (sender : Address) (tx : Transaction) (currentBlockHeight : Int64) : ReplayDetector where
  accountNonces := det.accountNonces.insert (sender, tx.nonce)
  cache := ReplayCache.add det.cache
    ⟨tx.hash, times.expiry + (cfg.replay.transactionTimeoutSeconds * 1000000000).toInt,
      currentBlockHeight⟩ times.cleanup

def checkReplayV3 (times : ValidationTimes) (tx : Transaction)
    (currentBlockHeight : Int64) (det : ReplayDetector) :
    EStateM.Result String ReplayDetector Unit :=
  let sender := normalizeReplayAddress cfg tx.fromAddr
  if tx.chainId ≠ cfg.chainID then
    .error s!"chain ID mismatch: transaction has {text tx.chainId}, expected {text cfg.chainID}" det
  else
    match det.checkHash times tx.hash currentBlockHeight with
    | .error err => .error err det
    | .ok () =>
      match det.checkNonce cfg sender tx.nonce with
      | .error err => .error err det
      | .ok () => .ok () (det.record cfg times sender tx currentBlockHeight)

end ReplayDetector

def normalizeChainID (chainID : Bytes) : Bytes :=
  ((Utf8.coerce chainID).filter fun letter => letter ≠ 32 ∧ letter ≠ 9 ∧ letter ≠ 10).map
    fun letter => if 65 ≤ letter ∧ letter ≤ 90 then letter + 32 else letter

def validateChainIDMatch (txChainID expectedChainID : Bytes) : Except String Unit :=
  if txChainID = [] then .error "transaction missing chain_id field"
  else if expectedChainID = [] then .error "expected chain_id not configured"
  else if normalizeChainID txChainID ≠ normalizeChainID expectedChainID then
    .error s!"chain ID mismatch: got {text txChainID}, expected {text expectedChainID}"
  else .ok ()

def validateTransactionTimingV3 (cfg : ReplayProtectionConfig) (now timestamp : Int64) :
    Except String Unit :=
  if timestamp ≤ 0 then .error "transaction timestamp must be positive"
  else if now < timestamp then
    .error s!"transaction timestamp is in the future: tx={timestamp}, now={now}"
  else if 0 < cfg.transactionTimeoutSeconds then
    match safeSub now timestamp with
    | .error err => .error s!"time calculation error: {err}"
    | .ok timeDiff =>
      if cfg.transactionTimeoutSeconds < timeDiff then
        .error s!"transaction expired: {timeDiff} seconds old (max: {cfg.transactionTimeoutSeconds})"
      else .ok ()
  else .ok ()

variable (tx : Transaction) (sender : Account)

namespace TransactionValidator

def needsRecipient : TransactionType → Bool
  | .transfer | .delegate | .undelegate => true
  | _ => false

def validateRecipient : Except String Unit :=
  if ¬ needsRecipient tx.type then .ok ()
  else if tx.toAddr = [] then
    .error s!"recipient address cannot be empty for {tx.type.name} transactions"
  else (validateAddress tx.toAddr).mapError ("invalid recipient address format: " ++ ·)

/-- The least amount of a transaction of this kind, `kind` being what its error calls it. -/
def checkMinimum (kind : String) (minimum : ConfigAmount) (tx : Transaction) : Except String Unit :=
  if tx.amountBig < minimum.value then
    .error s!"{kind} amount {text tx.amount} below minimum {minimum.written}"
  else .ok ()

def validateKind : Except String Unit :=
  match tx.type with
  | .transfer => checkMinimum "transfer" cfg.minTransfer tx
  | .stake => checkMinimum "stake" cfg.minStake tx
  | .delegate => checkMinimum "delegation" cfg.minDelegation tx
  | .claimRewards =>
    if tx.amountBig ≠ 0 then
      .error s!"claim rewards transaction should have zero amount, got {text tx.amount}"
    else .ok ()
  | .governancePropose | .governanceVote | .governanceFinalize =>
    if tx.amountBig ≠ 0 then
      .error s!"governance transaction should have zero amount, got {text tx.amount}"
    else if tx.data = [] then .error "governance transaction payload cannot be empty"
    else .ok ()
  | _ => .ok ()

def validateGas : Except String Unit :=
  let gasPrice : Int := parseBigInt tx.gasPrice
  if tx.gas < cfg.minGasLimit then
    .error s!"gas too low: minimum {cfg.minGasLimit}, got {tx.gas}"
  else if cfg.maxGasPerTx < tx.gas then
    .error s!"gas too high: maximum {cfg.maxGasPerTx}, got {tx.gas}"
  else if gasPrice < cfg.baseGasPrice.value then
    .error s!"gas price {text tx.gasPrice} below minimum {cfg.baseGasPrice.written}"
  else if cfg.maxGasPrice.value < gasPrice then
    .error s!"gas price too high: maximum {cfg.maxGasPrice.written}, got {text tx.gasPrice}"
  else .ok ()

def validateTimestampWindow (now : Int64) (tx : Transaction) : Except String Unit :=
  let maxFutureTime := now + cfg.maxTimestampSkew
  let maxPastTime := now - cfg.maxTimestampAge
  if maxFutureTime < tx.timestamp then
    .error s!"transaction timestamp too far in the future: {tx.timestamp} > {maxFutureTime}"
  else if tx.timestamp < maxPastTime then
    .error s!"transaction timestamp too old: {tx.timestamp} < {maxPastTime}"
  else .ok ()

/-- The check that the amount is not negative is left out: amounts parse as naturals. -/
def validateStructure (now : Int64) (tx : Transaction) : Except String Unit :=
  if tx.id = [] then .error "transaction ID cannot be empty"
  else if tx.hash = [] then .error "transaction hash cannot be empty"
  else if tx.fromAddr = [] then .error "sender address cannot be empty"
  else do
    (validateAddress tx.fromAddr).mapError ("invalid sender address format: " ++ ·)
    validateRecipient tx
    validateKind cfg tx
    validateGas cfg tx
    if tx.signature = [] then throw "transaction signature cannot be empty"
    else validateTimestampWindow cfg now tx

def typeCode : TransactionType → Int
  | .transfer => 0
  | .stake => 1
  | .unstake => 2
  | .delegate => 3
  | .undelegate => 4
  | .claimRewards => 5
  | .evmContractCall => 6
  | .evmContractDeploy => 7
  | .governancePropose => 8
  | .governanceVote => 9
  | .governanceFinalize => 10
  | .unknown code => code

def transactionEncodingVersion : UInt32 :=
  if tx.encodingVersion < 2 then 1 else tx.encodingVersion

def lengthPrefixed (payload : Bytes) : Bytes := fixed 2 payload.length ++ payload

def nonceTypeTimeData : Bytes :=
  fixed 8 tx.nonce.toNat ++ fixed 4 (typeCode tx.type % 2 ^ 32).toNat ++
    fixed 8 tx.timestamp.toUInt64.toNat ++ tx.data

/-- The fields both hashes are taken of. Only from version 2 on an amount has its length before it.
-/
def hashedFields : Bytes :=
  if 2 ≤ transactionEncodingVersion tx then
    tx.id ++ tx.fromAddr ++ tx.toAddr ++ lengthPrefixed tx.amount ++
      fixed 8 tx.gas.toUInt64.toNat ++ lengthPrefixed tx.gasPrice ++ nonceTypeTimeData tx
  else
    tx.id ++ tx.fromAddr ++ tx.toAddr ++ tx.amount ++
      fixed 8 tx.gas.toUInt64.toNat ++ tx.gasPrice ++ nonceTypeTimeData tx

def encodingVersionBytes : Bytes :=
  fixed 4 (transactionEncodingVersion tx).toNat

def calculateTransactionHash : Bytes :=
  if 2 ≤ transactionEncodingVersion tx then
    hexBytes (cfg.keccak256 (encodingVersionBytes tx ++ hashedFields tx))
  else hexBytes (cfg.keccak256 (hashedFields tx))

def calculateSignableHash : Bytes :=
  if 2 ≤ transactionEncodingVersion tx then
    cfg.keccak256 (cfg.chainID ++ ascii "v3" ++ encodingVersionBytes tx ++ hashedFields tx)
  else cfg.keccak256 (cfg.chainID ++ ascii "v1" ++ hashedFields tx)

def validateHash : Except String Unit :=
  let expectedHash := calculateTransactionHash cfg tx
  if tx.hash ≠ expectedHash then
    .error s!"transaction hash mismatch: expected {text expectedHash}, got {text tx.hash}"
  else .ok ()

def validateShard : Except String Unit :=
  let senderShard := calculateShardID cfg tx.fromAddr
  if cfg.shardID = beaconShardID then .ok ()
  else if senderShard ≠ cfg.shardID then
    .error s!"transaction sender {text tx.fromAddr} belongs to shard {senderShard}, not {cfg.shardID}"
  else .ok ()

def isNormalized (sig : Signature) : Bool := decide (sig.s ≤ curveOrder / 2)

def validateCanonicalSignature (signatureBytes : Bytes) : Except String Unit :=
  match newSignatureFromBytes signatureBytes with
  | .error err => .error s!"failed to parse signature: {err}"
  | .ok signature =>
    if ¬ isNormalized signature then
      .error "transaction signature is malleable (high-S value)"
    else .ok ()

def validateEthereumSignature : Except String Unit :=
  if tx.signature.length ≠ 65 then
    .error s!"invalid ethereum signature length: {tx.signature.length}"
  else
    match cfg.recoverSender tx with
    | .error err => .error s!"failed to recover ethereum sender: {err}"
    | .ok sender =>
      if ¬ cfg.strings.equalFold sender tx.fromAddr then
        .error s!"signature mismatch: recovered {text sender}, expected {text tx.fromAddr}"
      else .ok ()

def verifyTransactionSignature (publicKey : PublicKey) : Except String Unit := do
  if tx.signature = [] then throw "transaction signature is empty"
  else
    let derivedAddress ← (generateAddress cfg publicKey).mapError
      ("failed to derive address from public key: " ++ ·)
    if cfg.strings.toLower derivedAddress ≠ cfg.strings.toLower tx.fromAddr then
      throw s!"signature verification failed: sender address {text tx.fromAddr} does not match public key address {text derivedAddress}"
    else
      let signature ← (newSignatureFromBytes tx.signature).mapError ("failed to parse signature: " ++ ·)
      (verifyHash cfg.curve publicKey (calculateSignableHash cfg tx) signature).mapError
        ("signature verification failed: " ++ ·)

def verifySender : Except String Unit :=
  if tx.type = .evmContractCall ∨ tx.type = .evmContractDeploy then
    validateEthereumSignature cfg tx
  else if tx.fromPubkey = [] ∧ tx.signature.length = 65 then validateEthereumSignature cfg tx
  else if tx.fromPubkey = [] then .error "transaction from_pubkey cannot be empty"
  else
    match newPublicKeyFromBytes cfg.curve tx.fromPubkey with
    | .error err => .error s!"invalid from_pubkey: {err}"
    | .ok pubKey => verifyTransactionSignature cfg tx pubKey

def validateSignature : Except String Unit :=
  if tx.signature = [] then .error "transaction signature cannot be empty"
  else
    match validateCanonicalSignature tx.signature with
    | .error err => .error err
    | .ok () =>
      match validateChainIDMatch tx.chainId cfg.chainID with
      | .error err => .error s!"chain ID validation failed: {err}"
      | .ok () => verifySender cfg tx

def validateNonce (txNonce accountNonce : UInt64) (addr : Address) : Except String Unit :=
  let nonceGap := txNonce - accountNonce
  if txNonce < accountNonce then
    .error s!"nonce too low for address {text addr}: account nonce is {accountNonce}, transaction nonce is {txNonce} (transaction already processed or replay attack)"
  else if txNonce = accountNonce then .ok ()
  else if 1000 < nonceGap then
    .error s!"nonce too high for address {text addr}: account nonce is {accountNonce}, transaction nonce is {txNonce} (gap of {nonceGap} exceeds maximum allowed gap of 1000)"
  else
    .error s!"nonce gap detected for address {text addr}: expected {accountNonce}, got {txNonce} (transaction is for future processing, gap: {nonceGap})"

/-- The sender's balance against a cost, `purpose` being what its error says it is for. -/
def checkBalance (purpose : String) (sender : Account) (cost : Int) : Except String Unit :=
  if (parseBigInt sender.balance : Int) < cost then
    .error s!"insufficient balance{purpose}: have {text sender.balance}, need {cost}"
  else .ok ()

def validateSufficientBalanceForNonce : Except String Unit :=
  if (parseBigInt sender.balance : Int) < tx.totalCostBig then
    .error s!"insufficient balance: have {parseBigInt sender.balance}, need {tx.totalCostBig}"
  else .ok ()

def validateTransfer : Except String Unit := do
  checkBalance "" sender tx.totalCostBig
  if tx.fromAddr = tx.toAddr then throw "cannot transfer to self" else return ()

def validateStake : Except String Unit :=
  checkBalance " for staking" sender tx.totalCostBig

def validateUnstake : Except String Unit := do
  checkBalance " for gas" sender tx.gasCostBig
  if (parseBigInt sender.stakedAmount : Int) < tx.amountBig then
    throw s!"insufficient staked amount: have {text sender.stakedAmount}, need {text tx.amount}"
  else return ()

def validateDelegate : Except String Unit := do
  checkBalance " for delegation" sender tx.totalCostBig
  if tx.fromAddr = tx.toAddr then throw "cannot delegate to self" else return ()

def validateUndelegate : Except String Unit := do
  checkBalance " for gas" sender tx.gasCostBig
  match sender.delegatedTo.find? tx.toAddr with
  | none => throw s!"no delegation found to validator {text tx.toAddr}"
  | some (_, delegated) =>
    if (parseBigInt delegated : Int) < tx.amountBig then
      throw s!"insufficient delegation to validator {text tx.toAddr}: have {text delegated}, need {text tx.amount}"
    else return ()

def validateClaimRewards : Except String Unit := do
  checkBalance " for gas" sender tx.gasCostBig
  if parseBigInt sender.rewards = 0 then throw "no rewards to claim" else return ()

def validateGovernance (ws : WorldState) (tx : Transaction)
    (sender : Account) : Except String Unit := do
  validateSufficientBalanceForNonce tx sender
  cfg.checkGovernance ws tx

def validateByType (ws : WorldState) (tx : Transaction) (sender : Account) : Except String Unit :=
  match tx.type with
  | .transfer => validateTransfer tx sender
  | .stake => validateStake tx sender
  | .unstake => validateUnstake tx sender
  | .delegate => validateDelegate tx sender
  | .undelegate => validateUndelegate tx sender
  | .claimRewards => validateClaimRewards tx sender
  | .governancePropose | .governanceVote | .governanceFinalize =>
    validateGovernance cfg ws tx sender
  | .evmContractCall | .evmContractDeploy => validateSufficientBalanceForNonce tx sender
  | .unknown _ => .error s!"unknown transaction type: {tx.type.name}"

def validateBusinessLogic (ws : WorldState) (tx : Transaction) : Except String Unit :=
  match readAccount cfg ws.ledger tx.fromAddr with
  | .error err => .error s!"failed to get sender account: {err}"
  | .ok sender => do
    validateNonce tx.nonce sender.nonce tx.fromAddr
    validateByType cfg ws tx sender

def validateReplayProtection (now : Int64) (tx : Transaction) : Except String Unit :=
  let txAge := now - tx.timestamp
  let maxAgeSeconds := cfg.replay.transactionMaxAge * 2
  if tx.chainId = [] then .error "transaction missing chain_id (required for replay protection)"
  else if tx.chainId ≠ cfg.chainID then
    .error s!"chain_id mismatch: transaction has {text tx.chainId}, expected {text cfg.chainID} (prevents cross-chain replay)"
  else if 0 < tx.timestamp ∧ 0 < cfg.replay.transactionMaxAge ∧ maxAgeSeconds < txAge then
    .error s!"transaction expired: age {txAge}s exceeds max {maxAgeSeconds}s"
  else .ok ()

def validateForm (times : ValidationTimes) (tx : Transaction) : Except String Unit := do
  (validateTransactionTimingV3 cfg.replay (unixSeconds times.timing) tx.timestamp).mapError
    ("timing validation failed: " ++ ·)
  (validateStructure cfg (unixSeconds times.timestamp) tx).mapError
    ("structure validation failed: " ++ ·)
  (validateHash cfg tx).mapError ("hash validation failed: " ++ ·)
  (validateShard cfg tx).mapError ("shard validation failed: " ++ ·)
  (validateSignature cfg tx).mapError ("signature validation failed: " ++ ·)

def validateOnState (times : ValidationTimes) (ws : WorldState)
    (tx : Transaction) : Except String Unit := do
  (validateBusinessLogic cfg ws tx).mapError ("business logic validation failed: " ++ ·)
  (validateReplayProtection cfg (unixSeconds times.protection) tx).mapError
    ("replay protection validation failed: " ++ ·)

/-- `ValidateTransaction` from the normal amounts on, with the accounts it looks up. -/
def validateNormal (times : ValidationTimes) (ws : WorldState)
    (det : ReplayDetector) (tx : Transaction) : TransactionVerdict ReplayDetector :=
  match validateChainIDMatch tx.chainId cfg.chainID with
  | .error err => ⟨.error s!"chain ID validation failed: {err}", det, []⟩
  | .ok () =>
    match det.checkReplayV3 cfg times tx ws.height with
    | .error err det => ⟨.error s!"replay detection failed: {err}", det, []⟩
    | .ok () det =>
      match validateForm cfg times tx with
      | .error err => ⟨.error err, det, []⟩
      | .ok () => ⟨validateOnState cfg times ws tx, det, [tx.fromAddr]⟩

end TransactionValidator

/-- What a node's validator keeps between its calls; `calls` counts them. -/
structure ValidatorMemory where
  detector : ReplayDetector
  calls : Nat

/-- A node that validates with this validator; `times` are the clock readings of each call. -/
structure ValidatingConfig extends ValidatorConfig where
  maxFutureBlockTime : Int
  timestampValidator : TimestampValidator
  times : Nat → ValidationTimes

instance : CoeOut ValidatingConfig ValidatorConfig := ⟨ValidatingConfig.toValidatorConfig⟩

def ValidatingConfig.chain (cfg : ValidatingConfig) : ChainConfig ValidatorMemory :=
  { cfg with
    checkTransaction := fun ws memory tx =>
      let answer := TransactionValidator.validateNormal cfg
        (cfg.times memory.calls) ws memory.detector tx
      ⟨answer.verdict, ⟨answer.seen, memory.calls + 1⟩, answer.lookups⟩ }

def sampleValidating : ValidatingConfig :=
  let free : ConfigAmount := ⟨"0", 0⟩
  { sampleAdmission with
    strings := ⟨id, id, fun left right => left = right⟩
    replay := ⟨600, 600, 10⟩
    minTransfer := free
    minStake := free
    minDelegation := free
    baseGasPrice := free
    maxGasPrice := ⟨"100", 100⟩
    minGasLimit := 0
    maxGasPerTx := 1000
    maxTimestampSkew := 60
    maxTimestampAge := 600
    recoverSender := fun _ => .error ""
    checkGovernance := fun _ _ => .ok ()
    times := fun _ =>
      let now := nanosPerSecond
      ⟨now, now, now, now, now, now, now⟩ }

def sampleSignedTransaction (draft : Transaction) : Transaction :=
  let cfg := sampleValidating.toValidatorConfig
  let draft := { draft with
    fromAddr := sampleProposer.1
    fromPubkey := samplePubkey 5
    timestamp := 1 }
  { draft with
    hash := TransactionValidator.calculateTransactionHash cfg draft
    signature := fixed 32 5 ++
      fixed 32 (sampleSeal (TransactionValidator.calculateSignableHash cfg draft)) ++ [0] }

def sampleTransfer (id : Bytes) : Transaction :=
  sampleSignedTransaction { sampleTransaction .transfer [5] 0 with id }

def sampleBank : Chain ValidatorMemory where
  world := { sampleTip [{ Account.fresh sampleProposer.1 with balance := [1, 0, 0] }] with
    validators := KeyedMap.empty.insert sampleProposer }
  seen := ⟨.new, 0⟩
  consensusEngine := some ⟨false⟩

def sampleFilled (txs : List Transaction) : Block :=
  let draft := sampleProposal []
  let draft := { draft with
    transactions := txs
    header := { draft.header with gasUsed := sumGas txs } }
  let root := ((simulateStateRoot sampleValidating.chain.toNodeConfig draft sampleBank.world).value?).getD []
  let draft := { draft with header := { draft.header with stateRoot := root } }
  sampleSigned { draft with
    hash := (calculateBlockHash sampleAdmission.toNodeConfig draft).toOption.getD [] }

end Thrylos
