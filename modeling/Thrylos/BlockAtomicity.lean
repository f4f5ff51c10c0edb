import Thrylos.BlockAdditionLemmas

/-!
What a failed block addition leaves behind. A failure is harmless only before the first write, or
after the loop of a block that describes the head the state already has.
-/

namespace Thrylos

open EStateM (Stays)

structure Unchanged (cfg : NodeConfig) (before after : WorldState) : Prop where
  accounts : ∀ addr, readAccount cfg after.ledger addr = readAccount cfg before.ledger addr
  nonces : ∀ addr, storedNonce after.ledger addr = storedNonce before.ledger addr
  validators : after.validators = before.validators
  height : after.height = before.height
  currentHash : after.currentHash = before.currentHash
  lastTimestamp : after.lastTimestamp = before.lastTimestamp
  totalTransactions : after.totalTransactions = before.totalTransactions
  stateRoot : after.stateRoot = before.stateRoot
  stateRootEncodingVersion : after.stateRootEncodingVersion = before.stateRootEncodingVersion
  txPool : after.txPool = before.txPool

theorem Unchanged.refl (cfg : NodeConfig) (ws : WorldState) : Unchanged cfg ws ws := by
  constructor <;> intros <;> rfl

def TransactionType.isEVM : TransactionType → Bool
  | .evmContractCall | .evmContractDeploy => true
  | _ => false

inductive RefusedFirst (cfg : NodeConfig) (ws : WorldState) (tx : Transaction) : Prop where
  | amounts (err : String) (refused : normalizeTransactionAmounts tx = .error err)
  | nonce (kind : tx.type.isEVM = false) (stale : storedNonce ws.ledger tx.fromAddr ≠ tx.nonce)
  | chainID (kind : tx.type.isEVM = true) (err : String)
      (refused : checkChainID cfg tx = .error err)
  | gas (kind : tx.type = .evmContractCall) (err : String) (refused : checkCallGas tx = .error err)

def Transaction.contractCost (tx : Transaction) : Nat :=
  tx.gas.toUInt64.toNat * parseBigInt tx.gasPrice + parseBigInt tx.amount

def WorldState.consulted (ws : WorldState) (addr : Address) : WorldState :=
  { ws with ledger := (ws.ledger.load addr).load addr }

/-- `checkEVMFunds` of the transaction with normal amounts. -/
inductive FundsOutcome (cfg : NodeConfig) (tx : Transaction) (ws : WorldState) :
    EStateM.Result String WorldState (Nat × Nat × Int) → Prop where
  | unread (err message : String) (refused : readAccount cfg ws.ledger tx.fromAddr = .error err) :
      FundsOutcome cfg tx ws (.error message ws)
  | stale (sender : Account) (message : String)
      (read : readAccount cfg ws.ledger tx.fromAddr = .ok sender) (stale : tx.nonce ≠ sender.nonce) :
      FundsOutcome cfg tx ws (.error message { ws with ledger := ws.ledger.load tx.fromAddr })
  | unpaid (sender : Account) (message : String)
      (read : readAccount cfg ws.ledger tx.fromAddr = .ok sender) (nonce : tx.nonce = sender.nonce)
      (short : (∃ err, parseUint256Bytes sender.balance = .error err) ∨
        parseBigInt sender.balance < tx.contractCost) :
      FundsOutcome cfg tx ws (.error message (ws.consulted tx.fromAddr))
  | covered (sender : Account) (read : readAccount cfg ws.ledger tx.fromAddr = .ok sender)
      (nonce : tx.nonce = sender.nonce)
      (parsed : parseUint256Bytes sender.balance = .ok (parseBigInt sender.balance))
      (covered : tx.contractCost ≤ parseBigInt sender.balance) :
      FundsOutcome cfg tx ws (.ok (parseBigInt tx.amount, parseBigInt tx.gasPrice,
        (parseBigInt sender.balance : Int) - tx.contractCost) (ws.consulted tx.fromAddr))

/-- The checks of a contract transaction on its sender's account. They write nothing, but loading
the account may evict another one from the cache. -/
inductive RefusedSender (cfg : NodeConfig) (am : Ledger) (tx : Transaction) : Prop where
  | unread (err : String) (refused : readAccount cfg am tx.fromAddr = .error err)
  | read (acc : Account) (read : readAccount cfg am tx.fromAddr = .ok acc)
      (why : tx.nonce ≠ acc.nonce ∨ (∃ err, parseUint256Bytes acc.balance = .error err) ∨
        parseBigInt acc.balance < tx.contractCost)
      (kept : ∀ addr, readAccount cfg (am.load tx.fromAddr) addr = readAccount cfg am addr)

variable {cfg : NodeConfig} {ws after : WorldState} {tx : Transaction} {rest : List Transaction}
  {blk : Block} {err : String}

theorem executeTransaction_dispatch (amounts : normalizeTransactionAmounts tx = .ok tx.canonical) :
    executeTransaction cfg tx ws = (do
      dispatchTransaction cfg tx.canonical
      return tx.canonical : WorldM Transaction) ws := by
  unfold executeTransaction
  rw [amounts, adapt_ok (ofExcept_ok rfl)]

theorem dispatchTransaction_of_ledger (kind : tx.type.isEVM = false) :
    ∃ rest : WorldM Unit, dispatchTransaction cfg tx = (do onLedger (consumeNonce tx); rest) ∧
      ∀ start, Stays (Within 0 start) rest := by
  unfold dispatchTransaction
  split
  · rename_i call
    simp [call, TransactionType.isEVM] at kind
  · rename_i deploy
    simp [deploy, TransactionType.isEVM] at kind
  · exact ⟨_, rfl, fun _ => Within.executeGovernance cfg tx⟩
  · exact ⟨_, rfl, fun _ => Within.executeGovernance cfg tx⟩
  · exact ⟨_, rfl, fun _ => Within.executeGovernance cfg tx⟩
  · exact ⟨_, rfl, fun _ => Within.onLedger (executeNative_leavesNonces _ tx)⟩

theorem dispatchTransaction_stale (kind : tx.type.isEVM = false)
    (stale : storedNonce ws.ledger tx.fromAddr ≠ tx.nonce) :
    ∃ err, dispatchTransaction cfg tx ws = .error err ws := by
  obtain ⟨_, prog, -⟩ := dispatchTransaction_of_ledger kind
  obtain ⟨err, failed⟩ := consumeNonce_error stale
  rw [prog, bind_error (onLedger_error failed)]
  exact ⟨err, rfl⟩

theorem dispatchTransaction_chainID (kind : tx.type.isEVM = true)
    (refused : checkChainID cfg tx = .error err) :
    dispatchTransaction cfg tx ws = .error err ws := by
  have stopped {rest : Unit → WorldM Unit} :
      ((ofExcept (checkChainID cfg tx) : WorldM Unit) >>= rest) ws = .error err ws :=
    bind_error (ofExcept_error refused) rest
  cases type : tx.type with
  | evmContractCall | evmContractDeploy =>
    simp only [dispatchTransaction, type]
    exact stopped
  | _ => simp [type, TransactionType.isEVM] at kind

theorem dispatchTransaction_gas (kind : tx.type = .evmContractCall)
    (refused : checkCallGas tx = .error err) :
    ∃ message, dispatchTransaction cfg tx ws = .error message ws := by
  cases chain : checkChainID cfg tx with
  | error message =>
    exact ⟨message, dispatchTransaction_chainID (by rw [kind]; rfl) chain⟩
  | ok =>
    simp only [dispatchTransaction, kind, executeEVMCall]
    rw [bind_ok (ofExcept_ok chain), bind_error (ofExcept_error refused)]
    exact ⟨err, rfl⟩

theorem executeTransaction_refused (refused : RefusedFirst cfg ws tx) :
    ∃ err, executeTransaction cfg tx ws = .error err ws := by
  cases amounts : normalizeTransactionAmounts tx with
  | error =>
    unfold executeTransaction
    rw [amounts]
    exact ⟨_, rfl⟩
  | ok =>
  obtain rfl := normalizeTransactionAmounts_ok amounts
  have dispatched : ∃ err, dispatchTransaction cfg tx.canonical ws = .error err ws := by
    cases refused with
    | amounts _ refused => simp [amounts] at refused
    | nonce kind stale => exact dispatchTransaction_stale kind stale
    | chainID kind err refused =>
      have same : checkChainID cfg tx.canonical = .error err := refused
      have canonicalKind : tx.canonical.type.isEVM = true := kind
      exact ⟨err, dispatchTransaction_chainID canonicalKind same⟩
    | gas kind err refused =>
      have same : checkCallGas tx.canonical = .error err := refused
      have canonicalKind : tx.canonical.type = .evmContractCall := kind
      exact dispatchTransaction_gas canonicalKind same
  obtain ⟨err, failed⟩ := dispatched
  rw [executeTransaction_dispatch amounts, bind_error failed]
  exact ⟨err, rfl⟩

theorem checkEVMFunds_outcome (cfg : NodeConfig) (tx : Transaction) (ws : WorldState)
    (purpose : String) : FundsOutcome cfg tx ws (checkEVMFunds cfg tx.canonical purpose ws) := by
  have amt : parseUint256Bytes tx.canonical.amount = .ok (parseBigInt tx.amount) :=
    parseUint256Bytes_encode (parseBigInt_lt tx.amount)
  have gasPrice : parseUint256Bytes tx.canonical.gasPrice = .ok (parseBigInt tx.gasPrice) :=
    parseUint256Bytes_encode (parseBigInt_lt tx.gasPrice)
  unfold checkEVMFunds
  rw [adapt_ok (ofExcept_ok amt), adapt_ok (ofExcept_ok gasPrice)]
  cases read : readAccount cfg ws.ledger tx.fromAddr with
  | error err =>
    have failed : getNonce cfg tx.canonical.fromAddr ws = .error err ws :=
      bind_error (onLedger_error (getAccount_error read)) _
    rw [adapt_error failed]
    exact .unread err _ read
  | ok sender =>
  have counted : getNonce cfg tx.canonical.fromAddr ws =
      .ok sender.nonce { ws with ledger := ws.ledger.load tx.fromAddr } :=
    bind_ok (onLedger_ok (getAccount_ok read)) _
  rw [adapt_ok counted]
  by_cases stale : tx.canonical.nonce ≠ sender.nonce
  · rw [if_pos stale]
    exact .stale sender _ read stale
  rw [if_neg stale]
  have nonce : tx.nonce = sender.nonce := not_not.mp stale
  dsimp only
  have again : readAccount cfg (ws.ledger.load tx.fromAddr) tx.fromAddr = .ok sender :=
    (readAccount_load_self _ _).trans read
  have bal : getBalance cfg tx.canonical.fromAddr { ws with ledger := ws.ledger.load tx.fromAddr } =
      (ofExcept (parseUint256Bytes sender.balance) : WorldM Nat) (ws.consulted tx.fromAddr) :=
    bind_ok (onLedger_ok (getAccount_ok again)) _
  cases parsed : parseUint256Bytes sender.balance with
  | error err =>
    rw [parsed] at bal
    rw [adapt_error (bal.trans (ofExcept_error rfl))]
    exact .unpaid sender _ read nonce (.inl ⟨err, parsed⟩)
  | ok value =>
  have valued : parseBigInt sender.balance = value := by
    rw [parseBigInt, parsed]
  rw [parsed] at bal
  rw [adapt_ok (bal.trans (ofExcept_ok rfl))]
  have cost : ((tx.canonical.gas.toUInt64.toNat * parseBigInt tx.gasPrice : Nat) : Int) +
      (parseBigInt tx.amount : Nat) = (tx.contractCost : Int) := by
    rfl
  rw [cost]
  subst valued
  split_ifs with short
  · exact .unpaid sender _ read nonce (.inr (by omega))
  · exact .covered sender read nonce parsed (by omega)

theorem load_twice {am : Ledger} {addr : Address} {acc : Account}
    (read : readAccount cfg am addr = .ok acc) (other : Address) :
    readAccount cfg ((am.load addr).load addr) other = readAccount cfg (am.load addr) other := by
  apply readAccount_load
  obtain found | ⟨missing, stored, -⟩ := load_peek read
  · rw [Ledger.load.eq_def (am.load addr), found]
    simp
  · have absent : storedAccount (am.load addr) addr = .ok none := by
      simpa [storedAccount] using stored
    rw [Ledger.load.eq_def (am.load addr), missing]
    simp only [absent]

/-- A failure that touches nothing but the ledger, where every account reads as it did. -/
def Refuses {α : Type} (cfg : NodeConfig) (ws : WorldState)
    (result : EStateM.Result String WorldState α) : Prop :=
  ∃ err am, result = .error err { ws with ledger := am } ∧
    (∀ addr, readAccount cfg am addr = readAccount cfg ws.ledger addr) ∧
    am.nonces = ws.ledger.nonces

theorem checkEVMFunds_refused (purpose : String) (refused : RefusedSender cfg ws.ledger tx) :
    Refuses cfg ws (checkEVMFunds cfg tx.canonical purpose ws) := by
  have outcome := checkEVMFunds_outcome cfg tx ws purpose
  generalize checkEVMFunds cfg tx.canonical purpose ws = result at outcome
  cases refused with
  | unread err refused =>
    cases outcome with
    | unread => exact ⟨_, ws.ledger, rfl, fun _ => rfl, rfl⟩
    | stale _ _ read | unpaid _ _ read | covered _ read => cases refused.symm.trans read
  | read sender found why kept =>
  cases outcome with
  | unread _ _ refused => cases refused.symm.trans found
  | stale => exact ⟨_, _, rfl, kept, load_nonces⟩
  | unpaid _ _ read =>
    refine ⟨_, _, rfl, fun addr => (load_twice read addr).trans (kept addr), ?_⟩
    exact load_nonces.trans load_nonces
  | covered _ read nonce parsed covered =>
    cases found.symm.trans read
    rcases why with stale | ⟨_, unparsed⟩ | short
    · exact absurd nonce stale
    · cases parsed.symm.trans unparsed
    · omega

theorem Refuses.of_error {α : Type} {prog : WorldM α} (stopped : ∃ err, prog ws = .error err ws) :
    Refuses cfg ws (prog ws) := by
  obtain ⟨err, failed⟩ := stopped
  exact ⟨err, ws.ledger, failed, fun _ => rfl, rfl⟩

theorem Refuses.bind {α β : Type} {prog : WorldM α} (refused : Refuses cfg ws (prog ws))
    (next : α → WorldM β) : Refuses cfg ws ((prog >>= next) ws) := by
  obtain ⟨err, am, failed, kept⟩ := refused
  exact ⟨err, am, bind_error failed next, kept⟩

theorem dispatchTransaction_sender (kind : tx.type.isEVM = true)
    (refused : RefusedSender cfg ws.ledger tx) :
    Refuses cfg ws (dispatchTransaction cfg tx.canonical ws) := by
  cases chain : checkChainID cfg tx.canonical with
  | error => exact .of_error ⟨_, dispatchTransaction_chainID kind chain⟩
  | ok =>
  cases type : tx.canonical.type with
  | evmContractCall =>
    cases gas : checkCallGas tx.canonical with
    | error => exact .of_error (dispatchTransaction_gas type gas)
    | ok =>
      simp only [dispatchTransaction, type, executeEVMCall]
      rw [bind_ok (ofExcept_ok chain), bind_ok (ofExcept_ok gas)]
      exact (checkEVMFunds_refused _ refused).bind _
  | evmContractDeploy =>
    simp only [dispatchTransaction, type, executeEVMDeploy]
    rw [bind_ok (ofExcept_ok chain)]
    exact (checkEVMFunds_refused _ refused).bind _
  | _ =>
    have plain : tx.canonical.type.isEVM = true := kind
    simp [type, TransactionType.isEVM] at plain

theorem executeTransaction_consumes (kind : tx.type.isEVM = false)
    (admitted : ¬ RefusedFirst cfg ws tx) :
    storedNonce (executeTransaction cfg tx ws).final.ledger tx.fromAddr =
      storedNonce ws.ledger tx.fromAddr + 1 := by
  have current : storedNonce ws.ledger tx.fromAddr = tx.nonce := by
    by_contra stale
    exact admitted (.nonce kind stale)
  cases amounts : normalizeTransactionAmounts tx with
  | error message => exact absurd (.amounts message amounts) admitted
  | ok =>
  obtain rfl := normalizeTransactionAmounts_ok amounts
  have canonicalKind : tx.canonical.type.isEVM = false := kind
  obtain ⟨_, prog, quiet⟩ := dispatchTransaction_of_ledger canonicalKind
  have consumed : onLedger (consumeNonce tx.canonical) ws =
      .ok () { ws with ledger := ws.ledger.bumpNonce tx.fromAddr } :=
    onLedger_ok (consumeNonce_ok current)
  have ended := ((quiet { ws with ledger := ws.ledger.bumpNonce tx.fromAddr }).bind
    (fun _ => .pure tx.canonical fun _ => id) fun _ => id) _ (.refl _)
  obtain ⟨taken, _, moved⟩ := ended.nonces tx.fromAddr
  obtain rfl : taken = 0 := by omega
  rw [executeTransaction_dispatch amounts, prog, bind_assoc, bind_ok consumed, moved]
  simp [storedNonce, Ledger.bumpNonce]

theorem uint64_moved {start : UInt64} {taken : Nat} (few : taken + 1 < 2 ^ 64) :
    start + 1 + UInt64.ofNat taken ≠ start := by
  intro same
  have values := congrArg UInt64.toNat same
  simp only [UInt64.toNat_add, UInt64.toNat_ofNat', UInt64.toNat_one] at values
  omega

variable {vals result : ValidatorSet}

theorem applyBlockTransactions_first (failed : executeTransaction cfg tx ws = .error err after) :
    ∃ message, applyBlockTransactions cfg (tx :: rest) ws = .error message after := by
  obtain ⟨_, _, ran, stopped⟩ | ⟨_, ran, -⟩ := applyBlockTransactions_cons rest
  · cases failed.symm.trans ran
    exact ⟨_, stopped⟩
  · cases failed.symm.trans ran

theorem applyBlockTransactions_refused (refused : RefusedFirst cfg ws tx) :
    ∃ message, applyBlockTransactions cfg (tx :: rest) ws = .error message ws := by
  obtain ⟨_, failed⟩ := executeTransaction_refused refused
  exact applyBlockTransactions_first failed

/-- No write is made for the first transaction of a block. -/
inductive EarlyRefusal (cfg : NodeConfig) (ws : WorldState) (tx : Transaction) : Prop where
  | first (why : RefusedFirst cfg ws tx)
  | sender (kind : tx.type.isEVM = true) (why : RefusedSender cfg ws.ledger tx)

theorem EarlyRefusal.refuses (early : EarlyRefusal cfg ws tx) :
    Refuses cfg ws (applyBlockTransactions cfg (tx :: rest) ws) := by
  cases early with
  | first why => exact .of_error (applyBlockTransactions_refused why)
  | sender kind why =>
  cases amounts : normalizeTransactionAmounts tx with
  | error err => exact .of_error (applyBlockTransactions_refused (.amounts err amounts))
  | ok =>
  obtain rfl := normalizeTransactionAmounts_ok amounts
  obtain ⟨_, am, failed, kept⟩ : Refuses cfg ws (executeTransaction cfg tx ws) := by
    rw [executeTransaction_dispatch amounts]
    exact (dispatchTransaction_sender kind why).bind _
  obtain ⟨_, stopped⟩ := applyBlockTransactions_first failed
  exact ⟨_, am, stopped, kept⟩

theorem adopt_rest :
    ∃ version, adoptEncodingVersion blk ws = { ws with stateRootEncodingVersion := version } := by
  unfold adoptEncodingVersion
  split
  · exact ⟨_, rfl⟩
  · exact ⟨ws.stateRootEncodingVersion, rfl⟩

theorem RefusedFirst.congr {other : WorldState} (refused : RefusedFirst cfg ws tx)
    (same : other.ledger = ws.ledger) : RefusedFirst cfg other tx := by
  cases refused with
  | amounts err refused => exact .amounts err refused
  | nonce kind stale => exact .nonce kind (same ▸ stale)
  | chainID kind err refused => exact .chainID kind err refused
  | gas kind err refused => exact .gas kind err refused

theorem adopt_ledger : (adoptEncodingVersion blk ws).ledger = ws.ledger := by
  obtain ⟨_, adopted⟩ := adopt_rest
  rw [adopted]

theorem EarlyRefusal.adopt (early : EarlyRefusal cfg ws tx) :
    EarlyRefusal cfg (adoptEncodingVersion blk ws) tx := by
  cases early with
  | first why => exact .first (why.congr adopt_ledger)
  | sender kind why => exact .sender kind (by rwa [adopt_ledger])

end Thrylos
