import Thrylos.Evm
import Thrylos.Library.Program

/-!
`ExecuteTransaction`: EVM transactions leave before the nonce step, and every other transaction
consumes its nonce before it is executed. A failed execution gives it back nowhere.
-/

namespace Thrylos

def executeNative (cfg : ShardConfig) (tx : Transaction) : LedgerM Unit :=
  match tx.type with
  | .transfer => executeTransfer cfg tx
  | .stake => executeStake cfg tx
  | .unstake => executeUnstake cfg tx
  | .delegate => executeDelegate cfg tx
  | .undelegate => executeUndelegate cfg tx
  | .claimRewards => executeClaimRewards cfg tx
  | _ => throw s!"unknown transaction type: {tx.type.name}"

def applyGovernanceGasAndNonce (cfg : ShardConfig) (tx : Transaction) : LedgerM Unit := do
  let acc ← (getAccount cfg tx.fromAddr).adaptExcept
    ("failed to get governance sender account: " ++ ·)
  if (parseBigInt acc.balance : Int) < tx.gasCostBig then
    throw (insufficient "balance for governance gas" acc.balance (toString tx.gasCostBig))
  let acc := { acc with
    balance := mustUint256Bytes (parseBigInt acc.balance - tx.gasCostBig)
    nonce := acc.nonce + 1 }
  writeThrough acc
  let _ ← updateAccount cfg acc

/-- The manager's part is a parameter; what it changes stays changed when it fails. -/
def executeGovernance (cfg : NodeConfig) (tx : Transaction) : WorldM Unit := do
  let ws ← get
  let (outcome, gov) := cfg.governance ws tx
  set { ws with governance := gov }
  ofExcept outcome
  onLedger (applyGovernanceGasAndNonce cfg tx)

def dispatchTransaction (cfg : NodeConfig) (tx : Transaction) : WorldM Unit :=
  match tx.type with
  | .evmContractCall => executeEVMCall cfg tx
  | .evmContractDeploy => executeEVMDeploy cfg tx
  | .governancePropose | .governanceVote | .governanceFinalize => do
    onLedger (consumeNonce tx)
    executeGovernance cfg tx
  | _ => do
    onLedger (consumeNonce tx)
    onLedger (executeNative cfg tx)

def executeTransaction (cfg : NodeConfig) (tx : Transaction) : WorldM Transaction := do
  let tx ← (ofExcept (normalizeTransactionAmounts tx) : WorldM Transaction).adaptExcept
    ("invalid transaction amounts: " ++ ·)
  dispatchTransaction cfg tx
  return tx

def executeTransactions (cfg : NodeConfig) : List Transaction → WorldM Unit
  | [] => pure ()
  | tx :: rest => do
    let _ ← executeTransaction cfg tx
    executeTransactions cfg rest

def runTransactions (cfg : NodeConfig) (txs : List Transaction) (ws : WorldState) : WorldState :=
  txs.foldl (fun ws tx => (executeTransaction cfg tx ws).final) ws

end Thrylos
