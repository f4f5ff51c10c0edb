import Thrylos.StateRoot

/-!
The simulation of a block, `core/state/simulation.go`: the transactions run on copies of the
accounts. The copies are fetched with `GetAccount`, which may fill the cache.
-/

namespace Thrylos

structure SimulationStore where
  overlay : KeyedMap Account.address
  ledger : Ledger

abbrev SimulationM := EStateM String SimulationStore

variable (cfg : ShardConfig) (tx : Transaction) (acc : Account)

namespace Simulation

def getAccount (cfg : ShardConfig) (addr : Address) : SimulationM Account := fun store =>
  match store.overlay.find? addr with
  | some acc => .ok acc store
  | none =>
    match Thrylos.getAccount cfg addr store.ledger with
    | .ok acc am => .ok acc { overlay := store.overlay.insert acc, ledger := am }
    | .error err am => .error err { store with ledger := am }

def assign (addr : Address) (change : Account → Account) : SimulationM Unit := modify fun store =>
  match store.overlay.find? addr with
  | none => store
  | some acc => { store with overlay := store.overlay.insert (change acc) }

def lookup (role : String) (addr : Address) : SimulationM Account :=
  (getAccount cfg addr).adaptExcept (s!"simulation: failed to get {role} {text addr}: " ++ ·)

def applyTransfer : SimulationM Unit := do
  let sender ← lookup cfg "sender" tx.fromAddr
  let receiver ← lookup cfg "receiver" tx.toAddr
  if (parseBigInt sender.balance : Int) < tx.totalCostBig then
    throw "simulation: insufficient balance in transfer"
  assign tx.fromAddr fun acc => { acc with
    balance := mustUint256Bytes (parseBigInt sender.balance - tx.totalCostBig)
    nonce := acc.nonce + 1 }
  assign tx.toAddr fun acc => { acc with
    balance := mustUint256Bytes (parseBigInt receiver.balance + tx.amountBig) }

def applyOnSender (change : Account → Except String Account) : SimulationM Unit := do
  let acc ← lookup cfg "account" tx.fromAddr
  let changed ← ofExcept (change acc)
  assign tx.fromAddr fun _ => changed

def stakeChange : Except String Account :=
  if (parseBigInt acc.balance : Int) < tx.totalCostBig then
    .error "simulation: insufficient balance for stake"
  else .ok { acc with
    balance := mustUint256Bytes (parseBigInt acc.balance - tx.totalCostBig)
    stakedAmount := mustUint256Bytes (parseBigInt acc.stakedAmount + tx.amountBig)
    nonce := acc.nonce + 1 }

def unstakeChange : Except String Account :=
  if (parseBigInt acc.balance : Int) < tx.gasCostBig then
    .error "simulation: insufficient balance for gas in unstake"
  else if (parseBigInt acc.stakedAmount : Int) < tx.amountBig then
    .error "simulation: insufficient staked amount"
  else .ok { acc with
    balance := mustUint256Bytes (parseBigInt acc.balance - tx.gasCostBig + tx.amountBig)
    stakedAmount := mustUint256Bytes (parseBigInt acc.stakedAmount - tx.amountBig)
    nonce := acc.nonce + 1 }

def delegateChange : Except String Account :=
  if (parseBigInt acc.balance : Int) < tx.totalCostBig then
    .error "simulation: insufficient balance for delegate"
  else
    let existing := parseBigInt (delegationRaw acc tx.toAddr) + tx.amountBig
    .ok { acc with
      balance := mustUint256Bytes (parseBigInt acc.balance - tx.totalCostBig)
      nonce := acc.nonce + 1
      delegatedTo := acc.delegatedTo.insert (tx.toAddr, mustUint256Bytes existing) }

def undelegateChange : Except String Account :=
  if (parseBigInt acc.balance : Int) < tx.gasCostBig then
    .error "simulation: insufficient balance for gas in undelegate"
  else if (parseBigInt (delegationRaw acc tx.toAddr) : Int) < tx.amountBig then
    .error "simulation: insufficient delegated amount"
  else
    let delegated := parseBigInt (delegationRaw acc tx.toAddr) - tx.amountBig
    .ok { acc with
      balance := mustUint256Bytes (parseBigInt acc.balance - tx.gasCostBig + tx.amountBig)
      nonce := acc.nonce + 1
      delegatedTo :=
        if delegated = 0 then acc.delegatedTo.erase tx.toAddr
        else acc.delegatedTo.insert (tx.toAddr, mustUint256Bytes delegated) }

def claimRewardsChange : Except String Account :=
  if (parseBigInt acc.balance : Int) < tx.gasCostBig then
    .error "simulation: insufficient balance for gas in claim rewards"
  else .ok { acc with
    balance := mustUint256Bytes (parseBigInt acc.balance - tx.gasCostBig + parseBigInt acc.rewards)
    rewards := []
    nonce := acc.nonce + 1 }

def evmGasCostChange : Except String Account :=
  if (parseBigInt acc.balance : Int) < tx.gasCostBig then
    .error "simulation: insufficient balance for EVM gas"
  else .ok { acc with
    balance := mustUint256Bytes (parseBigInt acc.balance - tx.gasCostBig)
    nonce := acc.nonce + 1 }

def applyStake : SimulationM Unit :=
  applyOnSender cfg tx (stakeChange tx)

def applyUnstake : SimulationM Unit :=
  applyOnSender cfg tx (unstakeChange tx)

def applyDelegate : SimulationM Unit :=
  applyOnSender cfg tx (delegateChange tx)

def applyUndelegate : SimulationM Unit :=
  applyOnSender cfg tx (undelegateChange tx)

def applyClaimRewards : SimulationM Unit :=
  applyOnSender cfg tx (claimRewardsChange tx)

def applyEVMGasCost : SimulationM Unit :=
  applyOnSender cfg tx (evmGasCostChange tx)

def applyTransaction : SimulationM Unit :=
  match tx.type with
  | .transfer => applyTransfer cfg tx
  | .stake => applyStake cfg tx
  | .unstake => applyUnstake cfg tx
  | .delegate => applyDelegate cfg tx
  | .undelegate => applyUndelegate cfg tx
  | .claimRewards => applyClaimRewards cfg tx
  | .evmContractCall | .evmContractDeploy => applyEVMGasCost cfg tx
  | _ => throw s!"unknown transaction type for simulation: {tx.type.name}"

/-- The loop of `SimulateStateRoot`. -/
def applyTransactions (cfg : ShardConfig) : List Transaction → SimulationM Unit
  | [] => pure ()
  | tx :: rest => do
    (applyTransaction cfg tx).adaptExcept (s!"SimulateStateRoot: tx {text tx.id} failed: " ++ ·)
    applyTransactions cfg rest

end Simulation

def simulateStateRoot (cfg : NodeConfig) (blk : Block) : WorldM Bytes := fun ws =>
  match Simulation.applyTransactions cfg blk.transactions
      ⟨KeyedMap.empty, ws.ledger⟩ with
  | .ok () store =>
    let ws := { ws with ledger := store.ledger }
    .ok (calculateStateRootFromOverlay cfg ws store.overlay) ws
  | .error err store => .error err { ws with ledger := store.ledger }

end Thrylos
