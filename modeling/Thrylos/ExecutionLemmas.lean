import Thrylos.ExecutorLemmas
import Thrylos.Execution

/-!
`ExecuteTransaction` on native transactions: either the amounts or the nonce are refused, or the
nonce is consumed and the ledger is what the execution of the normalised transaction leaves.
-/

namespace Thrylos

variable {ws : WorldState} {am : Ledger} {tx : Transaction} {addr : Address} {nonce : UInt64}

theorem onLedger_ok {α : Type} {prog : LedgerM α} {value : α} (ran : prog ws.ledger = .ok value am) :
    onLedger prog ws = .ok value { ws with ledger := am } := by
  simp only [onLedger, ran]

theorem onLedger_error {α : Type} {prog : LedgerM α} {err : String} (ran : prog ws.ledger = .error err am) :
    onLedger prog ws = .error err { ws with ledger := am } := by
  simp only [onLedger, ran]

theorem onLedger_bind {α β : Type} (first : LedgerM α) (next : α → LedgerM β) :
    (do let value ← onLedger first; onLedger (next value)) = onLedger (first >>= next) := by
  funext ws
  cases ran : first ws.ledger with
  | ok =>
    rw [bind_ok (onLedger_ok ran)]
    simp only [onLedger, bind_ok ran]
  | error err am =>
    rw [bind_error (onLedger_error ran), onLedger_error (bind_error ran next)]

def Transaction.canonical (tx : Transaction) : Transaction :=
  { tx with
    amount := BigEndian.encode (parseBigInt tx.amount)
    gasPrice := BigEndian.encode (parseBigInt tx.gasPrice) }

theorem normalizeTransactionAmounts_ok {norm : Transaction}
    (ok : normalizeTransactionAmounts tx = .ok norm) : norm = tx.canonical := by
  unfold normalizeTransactionAmounts at ok
  simp only [bind, Except.bind, pure, Except.pure] at ok
  split at ok
  · simp at ok
  rename_i amt amountOk
  split at ok
  · simp at ok
  · rename_i gasPrice gasPriceOk
    cases ok
    rw [Transaction.canonical, canonicalizeUint256Bytes_ok amountOk,
      canonicalizeUint256Bytes_ok gasPriceOk]

@[simp] theorem canonical_amountBig : tx.canonical.amountBig = tx.amountBig := by
  simp only [Transaction.amountBig, Transaction.canonical, parseBigInt_encode (parseBigInt_lt _)]

@[simp] theorem canonical_gasCostBig (tx : Transaction) :
    tx.canonical.gasCostBig = tx.gasCostBig := by
  simp only [Transaction.gasCostBig, Transaction.canonical, parseBigInt_encode (parseBigInt_lt _)]

@[simp] theorem canonical_totalCostBig : tx.canonical.totalCostBig = tx.totalCostBig := by
  simp only [Transaction.totalCostBig, canonical_amountBig, canonical_gasCostBig]

def Ledger.bumpNonce (am : Ledger) (addr : Address) : Ledger :=
  { am with nonces := am.nonces.insert (addr, storedNonce am addr + 1) }

theorem atomicIncrementNonce_current (current : storedNonce am addr = nonce) :
    atomicIncrementNonce addr nonce am = .ok (true, storedNonce am addr) (am.bumpNonce addr) := by
  simp [atomicIncrementNonce, current, Ledger.bumpNonce]

theorem atomicIncrementNonce_stale (stale : storedNonce am addr ≠ nonce) :
    atomicIncrementNonce addr nonce am = .ok (false, storedNonce am addr) am := by
  simp [atomicIncrementNonce, stale]

theorem consumeNonce_ok (current : storedNonce am tx.fromAddr = tx.nonce) :
    consumeNonce tx am = .ok () (am.bumpNonce tx.fromAddr) := by
  unfold consumeNonce
  rw [bind_ok (atomicIncrementNonce_current current)]
  rfl

theorem consumeNonce_error (stale : storedNonce am tx.fromAddr ≠ tx.nonce) :
    ∃ err, consumeNonce tx am = .error err am := by
  unfold consumeNonce
  rw [bind_ok (atomicIncrementNonce_stale stale)]
  exact ⟨_, rfl⟩

def nativeChange (tx : Transaction) (acc : Account) : Except String Account :=
  match tx.type with
  | .transfer => selfTransferChange tx acc
  | .stake => stakeChange tx acc
  | .unstake => unstakeChange tx acc
  | .delegate => delegateChange tx acc
  | .undelegate => undelegateChange tx acc
  | .claimRewards => claimRewardsChange tx acc
  | _ => .error s!"unknown transaction type: {tx.type.name}"

theorem executeNative_sender (cfg : ShardConfig) (native : tx.type.isNative = true)
    (alone : tx.type = .transfer → tx.toAddr = tx.fromAddr) (am : Ledger) :
    SenderOutcome cfg tx (nativeChange tx) am (executeNative cfg tx am) := by
  unfold executeNative nativeChange
  cases kind : tx.type with
  | transfer => exact executeTransfer_self (alone kind)
  | stake | unstake | delegate | undelegate | claimRewards =>
    exact executeOnSender_outcome _ _
  | _ => simp [kind, TransactionType.isNative] at native

theorem executeNative_transfer (cfg : ShardConfig)
    (kind : tx.type = .transfer) (ne : tx.toAddr ≠ tx.fromAddr) (am : Ledger) :
    TransferOutcome cfg tx am (executeNative cfg tx am) := by
  unfold executeNative
  simp only [kind]
  exact executeTransfer_outcome ne

inductive NativeOutcome (cfg : NodeConfig) (tx : Transaction) (ws : WorldState) :
    EStateM.Result String WorldState Transaction → Prop where
  | refused (err : String)
      (why : (∃ message, normalizeTransactionAmounts tx = .error message) ∨
        storedNonce ws.ledger tx.fromAddr ≠ tx.nonce) :
      NativeOutcome cfg tx ws (.error err ws)
  | failed (err : String) (am : Ledger)
      (amounts : normalizeTransactionAmounts tx = .ok tx.canonical)
      (current : storedNonce ws.ledger tx.fromAddr = tx.nonce)
      (ran : executeNative cfg tx.canonical
        (ws.ledger.bumpNonce tx.fromAddr) = .error err am) :
      NativeOutcome cfg tx ws (.error err { ws with ledger := am })
  | executed (am : Ledger)
      (amounts : normalizeTransactionAmounts tx = .ok tx.canonical)
      (current : storedNonce ws.ledger tx.fromAddr = tx.nonce)
      (ran : executeNative cfg tx.canonical
        (ws.ledger.bumpNonce tx.fromAddr) = .ok () am) :
      NativeOutcome cfg tx ws (.ok tx.canonical { ws with ledger := am })

theorem dispatchTransaction_native (cfg : NodeConfig) (tx : Transaction)
    (native : tx.type.isNative = true) :
    dispatchTransaction cfg tx = onLedger (do consumeNonce tx; executeNative cfg tx) := by
  rw [← onLedger_bind]
  unfold dispatchTransaction
  cases kind : tx.type <;> simp [kind, TransactionType.isNative] at native ⊢

theorem executeTransaction_native (cfg : NodeConfig)
    (native : tx.type.isNative = true) (ws : WorldState) :
    NativeOutcome cfg tx ws (executeTransaction cfg tx ws) := by
  unfold executeTransaction
  cases amounts : normalizeTransactionAmounts tx with
  | error err =>
    rw [adapt_error (ofExcept_error rfl)]
    exact .refused _ (Or.inl ⟨err, amounts⟩)
  | ok =>
  obtain rfl := normalizeTransactionAmounts_ok amounts
  rw [adapt_ok (ofExcept_ok rfl), dispatchTransaction_native cfg tx.canonical native]
  by_cases current : storedNonce ws.ledger tx.fromAddr = tx.nonce
  · have consumed : consumeNonce tx.canonical ws.ledger =
        .ok () (ws.ledger.bumpNonce tx.fromAddr) := consumeNonce_ok current
    cases ran : executeNative cfg tx.canonical (ws.ledger.bumpNonce tx.fromAddr) with
    | ok _ am =>
      rw [bind_ok (onLedger_ok ((bind_ok consumed _).trans ran))]
      exact .executed am amounts current ran
    | error err am =>
      rw [bind_error (onLedger_error ((bind_ok consumed _).trans ran))]
      exact .failed err am amounts current ran
  · obtain ⟨err, stale⟩ : ∃ err, consumeNonce tx.canonical ws.ledger =
        .error err ws.ledger := consumeNonce_error current
    rw [bind_error (onLedger_error (bind_error stale _))]
    exact .refused err (Or.inr current)

end Thrylos
