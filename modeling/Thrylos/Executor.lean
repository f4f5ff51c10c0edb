import Thrylos.AccountManager

/-!
Native transaction execution, `core/transaction/executor.go`. Calls run one at a time, so the
account locks and version checks always pass.
-/

namespace Thrylos

def maxGasLimit : Int64 := 30000000

variable (tx : Transaction)

def normalizeTransactionAmounts : Except String Transaction := do
  let amt ← canonicalizeUint256Bytes tx.amount
  let gasPrice ← canonicalizeUint256Bytes tx.gasPrice
  return { tx with amount := amt, gasPrice }

def Transaction.amountBig : Int := parseBigInt tx.amount

def Transaction.gasCostBig : Int := tx.gas.toInt * parseBigInt tx.gasPrice

def Transaction.totalCostBig : Int := tx.amountBig + tx.gasCostBig

variable (cfg : ShardConfig)

def checkSenderShard (tx : Transaction) : Except String Unit :=
  let senderShard := calculateShardID cfg tx.fromAddr
  if cfg.shardID ≠ beaconShardID ∧ senderShard ≠ cfg.shardID then
    .error s!"transaction sender {text tx.fromAddr} belongs to shard {senderShard}, not {cfg.shardID}"
  else .ok ()

def checkSameShard (tx : Transaction) : Except String Unit :=
  let senderShard := calculateShardID cfg tx.fromAddr
  let recipientShard := calculateShardID cfg tx.toAddr
  if senderShard ≠ recipientShard then
    .error s!"cross-shard transfers not supported in executor: sender shard {senderShard}, recipient shard {recipientShard}"
  else .ok ()

def checkGasLimit : Except String Unit :=
  if maxGasLimit < tx.gas then .error s!"gas limit {tx.gas} exceeds maximum {maxGasLimit}"
  else if tx.gas ≤ 0 then .error s!"invalid gas limit: {tx.gas}"
  else .ok ()

variable (acc : Account)

def checkNonce : Except String Unit :=
  if acc.nonce ≠ tx.nonce then
    .error s!"invalid nonce: expected {acc.nonce}, got {tx.nonce}"
  else .ok ()

def insufficient (what : String) (held : Bytes) (need : String) : String :=
  s!"insufficient {what}: have {text held}, need {need}"

/-- Both balances are read before either is assigned, and the receiver's is assigned last. -/
def transferBalances (sender receiver : Account) : Except String (Bytes × Bytes) := do
  checkNonce tx sender
  if (parseBigInt sender.balance : Int) < tx.totalCostBig then
    throw (insufficient "balance" sender.balance (toString tx.totalCostBig))
  return (mustUint256Bytes (parseBigInt sender.balance - tx.totalCostBig),
    mustUint256Bytes (parseBigInt receiver.balance + tx.amountBig))

/-- `AtomicTransfer` with the executor's update. A transfer to oneself ends with the receiver's
balance. -/
def atomicTransfer (tx : Transaction) : LedgerM Unit := do
  let sender ← (getAccount cfg tx.fromAddr).adaptExcept ("failed to get sender account: " ++ ·)
  if tx.toAddr = tx.fromAddr then
    let (_, receiverBalance) ← ofExcept (transferBalances tx sender sender)
    let acc := { sender with balance := receiverBalance, nonce := sender.nonce + 1 }
    writeThrough acc
    let saved ← (updateAccount cfg acc).adaptExcept ("failed to update sender: " ++ ·)
    (saveAccount saved).adaptExcept ("failed to save sender: " ++ ·)
  else
    let receiver ← (getAccount cfg tx.toAddr).adaptExcept ("failed to get receiver account: " ++ ·)
    let (senderBalance, receiverBalance) ← ofExcept (transferBalances tx sender receiver)
    let sender := { sender with balance := senderBalance, nonce := sender.nonce + 1 }
    let receiver := { receiver with balance := receiverBalance }
    writeThrough sender
    writeThrough receiver
    let savedSender ← (updateAccount cfg sender).adaptExcept ("failed to update sender: " ++ ·)
    (saveAccount savedSender).adaptExcept ("failed to save sender: " ++ ·)
    let savedReceiver ← (updateAccount cfg receiver).adaptExcept
      ("failed to update receiver: " ++ ·)
    (saveAccount savedReceiver).adaptExcept ("failed to save receiver: " ++ ·)

def executeTransfer (tx : Transaction) : LedgerM Unit := do
  ofExcept (checkSameShard cfg tx)
  ofExcept (checkSenderShard cfg tx)
  ofExcept (checkGasLimit tx)
  atomicTransfer cfg tx

/-- The shape of the five single-account transactions: checks, then one account is read, changed and
stored. -/
def executeOnSender (lookupFailure : String) (tx : Transaction)
    (change : Account → Except String Account) : LedgerM Unit := do
  ofExcept (checkSenderShard cfg tx)
  ofExcept (checkGasLimit tx)
  let acc ← (getAccount cfg tx.fromAddr).adaptExcept (lookupFailure ++ ·)
  ofExcept (checkNonce tx acc)
  let acc ← ofExcept (change acc)
  writeThrough acc
  let _ ← updateAccount cfg acc

def stakeChange : Except String Account :=
  if (parseBigInt acc.balance : Int) < tx.totalCostBig then
    .error (insufficient "balance for staking" acc.balance (toString tx.totalCostBig))
  else .ok { acc with
    balance := mustUint256Bytes (parseBigInt acc.balance - tx.totalCostBig)
    stakedAmount := mustUint256Bytes (parseBigInt acc.stakedAmount + tx.amountBig)
    nonce := acc.nonce + 1 }

def unstakeChange : Except String Account :=
  if (parseBigInt acc.balance : Int) < tx.gasCostBig then
    .error (insufficient "balance for gas" acc.balance (toString tx.gasCostBig))
  else if (parseBigInt acc.stakedAmount : Int) < tx.amountBig then
    .error (insufficient "staked amount" acc.stakedAmount (text tx.amount))
  else .ok { acc with
    balance := mustUint256Bytes (parseBigInt acc.balance - tx.gasCostBig + tx.amountBig)
    stakedAmount := mustUint256Bytes (parseBigInt acc.stakedAmount - tx.amountBig)
    nonce := acc.nonce + 1 }

def delegationRaw (val : Address) : Bytes :=
  match acc.delegatedTo.find? val with
  | none => []
  | some entry => entry.2

def delegateChange : Except String Account :=
  if tx.toAddr = [] then .error "validator address cannot be empty for delegation"
  else if (parseBigInt acc.balance : Int) < tx.totalCostBig then
    .error (insufficient "balance for delegation" acc.balance (toString tx.totalCostBig))
  else
    let delegation := parseBigInt (delegationRaw acc tx.toAddr) + tx.amountBig
    .ok { acc with
      balance := mustUint256Bytes (parseBigInt acc.balance - tx.totalCostBig)
      stakedAmount := mustUint256Bytes (parseBigInt acc.stakedAmount + tx.amountBig)
      delegatedTo := acc.delegatedTo.insert (tx.toAddr, mustUint256Bytes delegation)
      nonce := acc.nonce + 1 }

def undelegateChange : Except String Account :=
  if tx.toAddr = [] then .error "validator address cannot be empty for undelegation"
  else if (parseBigInt acc.balance : Int) < tx.gasCostBig then
    .error (insufficient "balance for gas" acc.balance (toString tx.gasCostBig))
  else if (parseBigInt (delegationRaw acc tx.toAddr) : Int) < tx.amountBig then
    .error (insufficient s!"delegation to validator {text tx.toAddr}"
      (delegationRaw acc tx.toAddr) (text tx.amount))
  else if (parseBigInt acc.stakedAmount : Int) < tx.amountBig then
    .error (insufficient "staked amount" acc.stakedAmount (text tx.amount))
  else
    let delegation := parseBigInt (delegationRaw acc tx.toAddr) - tx.amountBig
    .ok { acc with
      balance := mustUint256Bytes (parseBigInt acc.balance - tx.gasCostBig + tx.amountBig)
      stakedAmount := mustUint256Bytes (parseBigInt acc.stakedAmount - tx.amountBig)
      delegatedTo :=
        if delegation = 0 then acc.delegatedTo.erase tx.toAddr
        else acc.delegatedTo.insert (tx.toAddr, mustUint256Bytes delegation)
      nonce := acc.nonce + 1 }

def claimRewardsChange : Except String Account :=
  if (parseBigInt acc.balance : Int) < tx.gasCostBig then
    .error (insufficient "balance for gas" acc.balance (toString tx.gasCostBig))
  else if parseBigInt acc.rewards = 0 then .error "no rewards to claim"
  else .ok { acc with
    balance := mustUint256Bytes (parseBigInt acc.balance - tx.gasCostBig + parseBigInt acc.rewards)
    rewards := []
    nonce := acc.nonce + 1 }

def executeStake (tx : Transaction) : LedgerM Unit :=
  executeOnSender cfg "failed to get account: " tx (stakeChange tx)

def executeUnstake (tx : Transaction) : LedgerM Unit :=
  executeOnSender cfg "failed to get account: " tx (unstakeChange tx)

def executeDelegate (tx : Transaction) : LedgerM Unit :=
  executeOnSender cfg "failed to get delegator account: " tx (delegateChange tx)

def executeUndelegate (tx : Transaction) : LedgerM Unit :=
  executeOnSender cfg "failed to get delegator account: " tx (undelegateChange tx)

def executeClaimRewards (tx : Transaction) : LedgerM Unit :=
  executeOnSender cfg "failed to get account: " tx (claimRewardsChange tx)

/-- The nonce step of `ExecuteTransaction`. -/
def consumeNonce : LedgerM Unit := do
  let (success, currentNonce) ← atomicIncrementNonce tx.fromAddr tx.nonce
  if ¬ success then
    throw s!"nonce mismatch: expected {tx.nonce}, but account nonce is {currentNonce}"

end Thrylos
