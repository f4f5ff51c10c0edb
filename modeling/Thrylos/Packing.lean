import Thrylos.ExecutionPlan
import Thrylos.Proposer

/-!
How a proposer chooses what goes into its block: `packTransactions`, `consensus/pos/proposer.go`,
over `ValidateExecution`. Every candidate is looked at in the state before the block.
-/

namespace Thrylos

/-- The sign of the amount is left out: amounts parse as naturals. -/
def checkPositive (tx : Transaction) : Except String Unit :=
  if tx.gas ≤ 0 then .error "gas must be positive"
  else if parseBigInt tx.gasPrice = 0 then .error "gas price must be positive"
  else .ok ()

def checkFunds (purpose : String) (sender : Account) (cost : Int) : Except String Unit :=
  if (parseBigInt sender.balance : Int) < cost then
    .error (insufficient s!"balance for {purpose}" sender.balance (toString cost))
  else .ok ()

def checkMeans (tx : Transaction) (sender : Account) : Except String Unit :=
  match tx.type with
  | .transfer => checkFunds "transfer" sender tx.totalCostBig
  | .stake | .delegate => checkFunds "staking" sender tx.totalCostBig
  | .unstake | .undelegate => do
    checkFunds "gas" sender tx.gasCostBig
    if (parseBigInt sender.stakedAmount : Int) < tx.amountBig then
      throw (insufficient "staked amount" sender.stakedAmount (text tx.amount))
    else return ()
  | .claimRewards => do
    checkFunds "gas" sender tx.gasCostBig
    if parseBigInt sender.rewards = 0 then throw "no rewards to claim" else return ()
  | .governancePropose | .governanceVote | .governanceFinalize => checkFunds "gas" sender tx.gasCostBig
  | .evmContractCall | .evmContractDeploy | .unknown _ => .ok ()

def validateExecution (cfg : ShardConfig) (tx : Transaction) : LedgerM Unit := do
  ofExcept (checkPositive tx)
  let sender ← (getAccount cfg tx.fromAddr).adaptExcept ("failed to get sender account: " ++ ·)
  ofExcept (checkNonce tx sender)
  ofExcept (checkGasLimit tx)
  ofExcept (checkMeans tx sender)

structure Packing where
  selectedTxs : List Transaction
  excludedTxs : List Transaction
  totalGasUsed : Int64
  accountNonces : NonceStore

namespace Packing

def exclude (packing : Packing) (tx : Transaction) : Packing :=
  { packing with excludedTxs := packing.excludedTxs ++ [tx] }

def expectedNonce (packing : Packing) (sender : Address) : UInt64 :=
  match packing.accountNonces.find? sender with
  | none => 0
  | some (_, nonce) => nonce

def select (packing : Packing) (tx : Transaction) (newTotal : Int64) : Packing :=
  { packing with
    selectedTxs := packing.selectedTxs ++ [tx]
    totalGasUsed := newTotal
    accountNonces := packing.accountNonces.insert
      (tx.fromAddr, packing.expectedNonce tx.fromAddr + 1) }

end Packing

/-- The first loop. A transaction whose sender's nonce cannot be read is excluded, and the second
loop may exclude it again. -/
def collectNonces (cfg : NodeConfig) (packing : Packing) : List Transaction → WorldM Packing
  | [] => pure packing
  | tx :: rest => do
    if (packing.accountNonces.find? tx.fromAddr).isSome then collectNonces cfg packing rest
    else
      match ← (getNonce cfg tx.fromAddr).attempt with
      | .error _ => collectNonces cfg (packing.exclude tx) rest
      | .ok nonce =>
        collectNonces cfg
          { packing with accountNonces := packing.accountNonces.insert (tx.fromAddr, nonce) } rest

/-- The second loop for one transaction; `minGasPrice` is the configured price. -/
def packTransaction (cfg : NodeConfig) (minGasPrice : Int) (packing : Packing)
    (tx : Transaction) : WorldM Packing :=
  if cfg.maxTxPerBlock ≤ packing.selectedTxs.length then pure (packing.exclude tx)
  else
    match safeAdd packing.totalGasUsed tx.gas with
    | .error _ => pure (packing.exclude tx)
    | .ok newTotal =>
      if cfg.maxBlockSize < newTotal then pure (packing.exclude tx)
      else if tx.nonce ≠ packing.expectedNonce tx.fromAddr then pure (packing.exclude tx)
      else if (parseBigInt tx.gasPrice : Int) < minGasPrice then pure (packing.exclude tx)
      else do
        match ← (onLedger (validateExecution cfg tx)).attempt with
        | .error _ => return packing.exclude tx
        | .ok () => return packing.select tx newTotal

def packEach (cfg : NodeConfig) (minGasPrice : Int) (packing : Packing) :
    List Transaction → WorldM Packing
  | [] => pure packing
  | tx :: rest => do
    let packing ← packTransaction cfg minGasPrice packing tx
    packEach cfg minGasPrice packing rest

def packTransactions (cfg : NodeConfig) (minGasPrice : Int) (sortedTxs : List Transaction) :
    WorldM (List Transaction × List Transaction) := do
  let packing ← collectNonces cfg ⟨[], [], 0, KeyedMap.empty⟩ sortedTxs
  let packing ← packEach cfg minGasPrice packing sortedTxs
  return (packing.selectedTxs, packing.excludedTxs)

end Thrylos
