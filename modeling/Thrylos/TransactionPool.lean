import Thrylos.WorldState
import Thrylos.Library.Mutex

/-!
`AddTransaction` of `core/transaction/pool.go` with what it calls, on the pool of a world state. The
lock and the times of arrival are left out.
-/

namespace Thrylos

open EStateM (bind_ok bind_ok_iff get_ok)

/-- `visit` is the order in which a walk over the pending transactions meets them. -/
structure PoolConfig extends NodeConfig where
  maxTxs : Int
  minGasPrice : Int
  visit : List Transaction → List Transaction
  visit_perm : ∀ txs, (visit txs).Perm txs

abbrev PoolM := EStateM (Halt String) WorldState

def maxTransactionsPerSender : Nat := 16

def replacementPriceBumpPercent : Nat := 10

def Transaction.gasPriceBig (tx : Transaction) : Int := parseBigInt tx.gasPrice

namespace Pool

def senderTransactions (pool : Pool) (addr : Address) : SenderTransactions :=
  match pool.byAddress.find? addr with
  | none => KeyedMap.empty
  | some (_, senderTxs) => senderTxs

def reservations (pool : Pool) (addr : Address) : NonceSet :=
  match pool.nonceReservations.find? addr with
  | none => KeyedMap.empty
  | some (_, reserved) => reserved

/-- `GetTransactionsForAddress`, in the order of their nonces. -/
def getTransactionsForAddress (pool : Pool) (addr : Address) : List Transaction :=
  (pool.senderTransactions addr).entries

def openSender (pool : Pool) (addr : Address) : Pool :=
  { pool with
    nonceReservations := pool.nonceReservations.insert (addr, pool.reservations addr)
    byAddress := pool.byAddress.insert (addr, pool.senderTransactions addr) }

def cheapest : Option Transaction → List Transaction → Option Transaction
  | best, [] => best
  | none, tx :: rest => cheapest (some tx) rest
  | some best, tx :: rest =>
    cheapest (some (if tx.gasPriceBig < best.gasPriceBig then tx else best)) rest

end Pool

namespace TransactionPool

def onPool (change : Pool → Pool) : PoolM Unit :=
  modify fun ws => { ws with txPool := change ws.txPool }

def refusing {α : Type} (context : String) (prog : WorldM α) : PoolM α := fun ws =>
  match prog ws with
  | .ok value after => .ok value after
  | .error err after => .error (.refused (context ++ err)) after

def refuseUnless (condition : Prop) [Decidable condition] (err : String) : PoolM Unit :=
  if condition then pure () else throw (.refused err)

section

variable (cfg : PoolConfig) (tx : Transaction)

def validateTransactionForPool : Except String Unit := do
  if tx.id = [] then throw "transaction ID cannot be empty" else
  if tx.hash = [] then throw "transaction hash cannot be empty" else
  if tx.fromAddr = [] then throw "sender address cannot be empty" else
  if tx.amountBig < 0 then throw "transaction amount cannot be negative" else
  if tx.gas ≤ 0 then throw "gas must be positive" else
  if tx.gasPriceBig < cfg.minGasPrice then
    throw s!"gas price {text tx.gasPrice} below minimum {cfg.minGasPrice}" else
  if tx.signature = [] then throw "transaction signature cannot be empty" else
  let senderShard := calculateShardID cfg.toShardConfig tx.fromAddr
  if cfg.shardID ≠ beaconShardID ∧ senderShard ≠ cfg.shardID then
    throw s!"transaction sender {text tx.fromAddr} belongs to shard {senderShard}, not {cfg.shardID}"
  else return ()

def totalRequired (pool : Pool) (tx : Transaction) : Int :=
  let others := (pool.senderTransactions tx.fromAddr).entries.filter fun other =>
    other.nonce ≠ tx.nonce
  (others.map Transaction.totalCostBig).sum + tx.totalCostBig

def validateTotalPendingBalance : WorldM Unit := do
  let acc ← (onLedger (getAccount cfg.toShardConfig tx.fromAddr)).adaptExcept
    ("could not retrieve account: " ++ ·)
  let required := totalRequired (← get).txPool tx
  if (parseBigInt acc.balance : Int) < required then
    throw s!"insufficient funds for pending pool: have {text acc.balance}, need {required}"
  else return

def checkDuplicates : PoolM Unit := do
  let pool := (← get).txPool
  refuseUnless (pool.pending.find? tx.id = none) s!"transaction {text tx.id} already exists in pool"
  refuseUnless (pool.byHash.find? tx.hash = none)
    s!"transaction with hash {text tx.hash} already exists in pool"

def minReplacementPrice (existing : Transaction) : Int :=
  existing.gasPriceBig * (100 + replacementPriceBumpPercent) / 100

def checkSender : PoolM Unit := do
  let senderTxs := (← get).txPool.senderTransactions tx.fromAddr
  match senderTxs.find? tx.nonce.toNat with
  | some existing =>
    refuseUnless (minReplacementPrice existing ≤ tx.gasPriceBig)
      s!"replacement transaction underpriced: needs gas price >= {minReplacementPrice existing} (current: {text tx.gasPrice})"
  | none =>
    refuseUnless (senderTxs.entries.length < maxTransactionsPerSender)
      s!"sender {text tx.fromAddr} has reached maximum pending transactions ({maxTransactionsPerSender})"

def checkReservation : PoolM Unit := do
  let reserved := (← get).txPool.reservations tx.fromAddr
  refuseUnless (reserved.find? tx.nonce.toNat = none)
    s!"nonce {tx.nonce} is reserved for address {text tx.fromAddr} (concurrent request in progress)"

def dropReplaced (pool : Pool) : Pool :=
  match (pool.senderTransactions tx.fromAddr).find? tx.nonce.toNat with
  | none => pool
  | some existing => pool.removeInternal existing

/-- `evictLowestGasPrice`. -/
def evictLowestGasPrice (newPrice : Int) : PoolM Bool := do
  let pool := (← get).txPool
  match Pool.cheapest none (cfg.visit pool.pending.entries) with
  | none => return false
  | some evictTx =>
    if evictTx.gasPriceBig < newPrice then
      onPool (·.removeInternal evictTx)
      return true
    else return false

def makeRoom : PoolM Unit := do
  if cfg.maxTxs ≤ (← get).txPool.pending.entries.length then
    let evicted ← evictLowestGasPrice cfg tx.gasPriceBig
    refuseUnless (evicted = true)
      "transaction pool full and gas price too low to replace existing transactions"
  else return

/-- The last step writes into maps of the sender that a removal may have taken away, which panics.
-/
def commit : PoolM Unit := do
  match (← get).txPool.nonceReservations.find? tx.fromAddr with
  | none => throw (.panic "assignment to entry in nil map")
  | some (_, reserved) =>
    onPool fun pool => { pool with
      nonceReservations := pool.nonceReservations.insert (tx.fromAddr, reserved.insert tx.nonce)
      pending := pool.pending.insert tx
      byHash := pool.byHash.insert tx }
    match (← get).txPool.byAddress.find? tx.fromAddr with
    | none => throw (.panic "assignment to entry in nil map")
    | some (_, senderTxs) =>
      onPool fun pool => { pool with
        byAddress := pool.byAddress.insert (tx.fromAddr, senderTxs.insert tx) }

def addTransaction : PoolM Unit := do
  refusing "transaction validation failed: " (MonadExcept.ofExcept (validateTransactionForPool cfg tx))
  checkDuplicates tx
  onPool (·.openSender tx.fromAddr)
  checkSender tx
  checkReservation tx
  onPool (dropReplaced tx)
  refusing "insufficient balance for pending transactions: " (validateTotalPendingBalance cfg tx)
  makeRoom cfg tx
  commit tx

end

theorem onPool_ok (change : Pool → Pool) (ws : WorldState) :
    onPool change ws = .ok () { ws with txPool := change ws.txPool } := rfl

variable {ws after : WorldState} {tx : Transaction} {cfg : PoolConfig}

theorem refusing_ok {α : Type} {context : String} {prog : WorldM α}
    {value : α} (ran : prog ws = .ok value after) : refusing context prog ws = .ok value after := by
  unfold refusing
  rw [ran]

theorem refuseUnless_ok {condition : Prop} [Decidable condition] (holds : condition)
    (err : String) (ws : WorldState) : refuseUnless condition err ws = .ok () ws := by
  unfold refuseUnless
  rw [if_pos holds]
  rfl

theorem commit_eq (ws : WorldState) {reserved : Address × NonceSet}
    {senderTxs : Address × SenderTransactions}
    (reservations : ws.txPool.nonceReservations.find? tx.fromAddr = some reserved)
    (indexed : ws.txPool.byAddress.find? tx.fromAddr = some senderTxs) :
    commit tx ws = .ok () { ws with txPool := { ws.txPool with
      nonceReservations :=
        ws.txPool.nonceReservations.insert (tx.fromAddr, reserved.2.insert tx.nonce)
      pending := ws.txPool.pending.insert tx
      byHash := ws.txPool.byHash.insert tx
      byAddress := ws.txPool.byAddress.insert (tx.fromAddr, senderTxs.2.insert tx) } } := by
  unfold commit
  rw [bind_ok get_ok]
  simp only [reservations]
  rw [bind_ok (onPool_ok _ _), bind_ok get_ok]
  simp only [indexed]
  rfl

theorem commit_ok (committed : commit tx ws = .ok () after) :
    tx ∈ after.txPool.getTransactionsForAddress tx.fromAddr := by
  cases reservations : ws.txPool.nonceReservations.find? tx.fromAddr with
  | none =>
    unfold commit at committed
    rw [bind_ok get_ok] at committed
    simp only [reservations] at committed
    cases committed
  | some =>
  cases indexed : ws.txPool.byAddress.find? tx.fromAddr with
  | none =>
    unfold commit at committed
    rw [bind_ok get_ok] at committed
    simp only [reservations] at committed
    rw [bind_ok (onPool_ok _ _), bind_ok get_ok] at committed
    simp only [indexed] at committed
    cases committed
  | some =>
    rw [commit_eq ws reservations indexed] at committed
    cases committed
    simp [Pool.getTransactionsForAddress, Pool.senderTransactions, KeyedMap.mem_entries_iff]

theorem addTransaction_indexed (added : addTransaction cfg tx ws = .ok () after) :
    tx ∈ after.txPool.getTransactionsForAddress tx.fromAddr := by
  iterate 7 obtain ⟨_, _, _, added⟩ := bind_ok_iff.mp added
  obtain ⟨_, _, _, committed⟩ := bind_ok_iff.mp added
  exact commit_ok committed

end TransactionPool

end Thrylos
