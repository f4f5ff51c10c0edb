import Thrylos.AccountWatch

/-!
A contract transaction in three parts: its checks and the reservation of its cost, the gas counters
with the interpreter, and the settlement. The first and the last touch the ledger alone.
-/

namespace Thrylos

def LedgerOnly {α : Type} (prog : WorldM α) : Prop :=
  ∃ inner : LedgerM α, prog = onLedger inner

namespace LedgerOnly

variable {α β : Type} {prog : WorldM α}

theorem pure (value : α) : LedgerOnly (pure value : WorldM α) := ⟨Pure.pure value, rfl⟩

theorem throw (err : String) : LedgerOnly (throw err : WorldM α) :=
  ⟨MonadExcept.throw err, rfl⟩

theorem throw_bind (err : String) (next : α → WorldM β) :
    LedgerOnly ((MonadExcept.throw err : WorldM α) >>= next) :=
  ⟨MonadExcept.throw err, rfl⟩

theorem ofExcept (outcome : Except String α) : LedgerOnly (ofExcept outcome : WorldM α) := by
  cases outcome with
  | ok value => exact .pure value
  | error err => exact .throw err

theorem bind (first : LedgerOnly prog) {next : α → WorldM β} (rest : ∀ value, LedgerOnly (next value)) :
    LedgerOnly (prog >>= next) := by
  obtain ⟨inner, rfl⟩ := first
  choose others same using rest
  refine ⟨inner >>= others, ?_⟩
  rw [← onLedger_bind, funext same]

theorem adaptExcept (only : LedgerOnly prog) (wrap : String → String) :
    LedgerOnly (prog.adaptExcept wrap) := by
  obtain ⟨inner, rfl⟩ := only
  refine ⟨inner.adaptExcept wrap, funext fun ws => ?_⟩
  cases ran : inner ws.ledger with
  | ok =>
    exact (adaptExcept_ok (onLedger_ok ran) _).trans (onLedger_ok (adaptExcept_ok ran _)).symm
  | error =>
    exact (adaptExcept_error (onLedger_error ran) _).trans
      (onLedger_error (adaptExcept_error ran _)).symm

theorem tryCatch (only : LedgerOnly prog) {handle : String → WorldM α}
    (handled : ∀ err, LedgerOnly (handle err)) : LedgerOnly (tryCatch prog handle) := by
  obtain ⟨inner, rfl⟩ := only
  choose others same using handled
  refine ⟨MonadExcept.tryCatch inner others, funext fun ws => ?_⟩
  rw [funext same]
  change EStateM.tryCatch (onLedger inner) _ ws = _
  simp only [EStateM.tryCatch, onLedger, MonadExcept.tryCatch, tryCatchThe, MonadExceptOf.tryCatch]
  cases inner ws.ledger <;> rfl

variable {ws after : WorldState} {value : α}

theorem run_ok (only : LedgerOnly prog) (ran : prog ws = .ok value after) :
    ∃ inner am, prog = Thrylos.onLedger inner ∧ inner ws.ledger = .ok value am ∧
      after = { ws with ledger := am } := by
  obtain ⟨inner, rfl⟩ := only
  cases inside : inner ws.ledger with
  | ok _ am =>
    rw [onLedger_ok inside] at ran
    cases ran
    exact ⟨inner, am, rfl, inside, rfl⟩
  | error =>
    rw [onLedger_error inside] at ran
    cases ran

theorem elsewhere (only : LedgerOnly prog)
    (ran : prog ws = .ok value after) (other : WorldState) (same : other.ledger = ws.ledger) :
    prog other = .ok value { other with ledger := after.ledger } := by
  obtain ⟨_, _, rfl, inside, rfl⟩ := only.run_ok ran
  exact onLedger_ok (same ▸ inside)

end LedgerOnly

section Parts

variable {cfg : NodeConfig} {tx : Transaction}

theorem ledgerOnly_getAccount (addr : Address) :
    LedgerOnly (onLedger (getAccount cfg addr)) := ⟨_, rfl⟩

theorem ledgerOnly_getNonce (addr : Address) : LedgerOnly (getNonce cfg addr) :=
  (ledgerOnly_getAccount addr).bind fun _ => .pure _

theorem ledgerOnly_getBalance (addr : Address) : LedgerOnly (getBalance cfg addr) :=
  (ledgerOnly_getAccount addr).bind fun _ => .ofExcept _

theorem ledgerOnly_updateBalance (addr : Address) (newBalance : Int) :
    LedgerOnly (updateBalance cfg addr newBalance) := by
  unfold updateBalance
  split
  · exact .throw_bind _ _
  · refine ((ledgerOnly_getAccount addr).adaptExcept _).bind fun _ => ?_
    refine LedgerOnly.bind ⟨_, rfl⟩ fun _ => ?_
    exact (LedgerOnly.adaptExcept ⟨_, rfl⟩ _).bind fun _ => .pure _

theorem LedgerOnly.ignoreFailure {prog : WorldM Unit} (only : LedgerOnly prog) :
    LedgerOnly (ignoreFailure prog) :=
  only.tryCatch fun _ => .pure _

theorem ledgerOnly_addBalance (addr : Address) (amt : Int) : LedgerOnly (addBalance cfg addr amt) :=
  .ignoreFailure ((ledgerOnly_getBalance addr).bind fun _ => ledgerOnly_updateBalance _ _)

theorem ledgerOnly_lookupAccounts (addrs : List Address) :
    LedgerOnly (lookupAccounts cfg addrs) := by
  induction addrs with
  | nil => exact .pure _
  | cons addr _ ih =>
    refine LedgerOnly.bind (LedgerOnly.tryCatch ?_ fun _ => .pure _) fun _ => ih
    exact (ledgerOnly_getAccount addr).bind fun _ => .pure _

theorem lookupAccounts_congr {left right : NodeConfig}
    (same : left.toShardConfig = right.toShardConfig) (addrs : List Address) :
    lookupAccounts left addrs = lookupAccounts right addrs := by
  induction addrs with
  | nil => rfl
  | cons _ _ ih => simp only [lookupAccounts, ih, same]

theorem ledgerOnly_checkEVMFunds (purpose : String) :
    LedgerOnly (checkEVMFunds cfg tx purpose) := by
  refine ((LedgerOnly.ofExcept _).adaptExcept _).bind fun _ => ((LedgerOnly.ofExcept _).adaptExcept
    _).bind fun _ => ((ledgerOnly_getNonce _).adaptExcept _).bind fun _ => ?_
  split
  · exact .throw_bind _ _
  refine ((ledgerOnly_getBalance _).adaptExcept _).bind fun _ => ?_
  split
  · exact .throw_bind _ _
  · exact .pure _

end Parts

section

variable (cfg : NodeConfig)

def reserveCall (tx : Transaction) : WorldM (Nat × Nat) := do
  ofExcept (checkChainID cfg tx)
  ofExcept (checkCallGas tx)
  let (value, gasPrice, newBalance) ← checkEVMFunds cfg tx "execution"
  ignoreFailure (updateBalance cfg tx.fromAddr newBalance)
  return (value, gasPrice)

def settleCall (tx : Transaction) (funds : Nat × Nat)
    (report : UInt64 × Option String) : WorldM Unit := do
  if 0 < gasRefund tx funds.2 report.1 then
    addBalance cfg tx.fromAddr (gasRefund tx funds.2 report.1)
  match report.2 with
  | none => pure ()
  | some err =>
    addBalance cfg tx.fromAddr funds.1
    throw s!"EVM execution failed: {err}"

def reserveDeployment (tx : Transaction) : WorldM (Nat × Nat) := do
  ofExcept (checkChainID cfg tx)
  let (value, gasPrice, newBalance) ← checkEVMFunds cfg tx "deployment"
  (updateBalance cfg tx.fromAddr newBalance).adaptExcept
    ("failed to reserve balance for deployment: " ++ ·)
  return (value, gasPrice)

def settleDeployment (tx : Transaction) (funds : Nat × Nat)
    (report : UInt64 × Option String) : WorldM Unit := do
  if 0 < gasRefund tx funds.2 report.1 then
    addBalance cfg tx.fromAddr (gasRefund tx funds.2 report.1)
  match report.2 with
  | none => pure ()
  | some err =>
    let currentBalance ← (getBalance cfg tx.fromAddr).adaptExcept
      ("contract deployment failed and refund lookup failed: " ++ ·)
    (updateBalance cfg tx.fromAddr (currentBalance + funds.1)).adaptExcept
      ("contract deployment failed and value refund failed: " ++ ·)
    throw s!"contract deployment failed: {err}"

theorem executeEVMCall_parts (tx : Transaction) : executeEVMCall cfg tx = (do
      let funds ← reserveCall cfg tx
      let report ← executeCall cfg tx tx.nonce
      settleCall cfg tx funds report) := by
  have opened (next : Nat × Nat → WorldM Unit) : (reserveCall cfg tx >>= next) = (do
      ofExcept (checkChainID cfg tx)
      ofExcept (checkCallGas tx)
      let (value, gasPrice, newBalance) ← checkEVMFunds cfg tx "execution"
      ignoreFailure (updateBalance cfg tx.fromAddr newBalance)
      next (value, gasPrice)) := by
    simp only [reserveCall, bind_assoc, pure_bind]
  rw [opened]
  rfl

theorem executeEVMDeploy_parts (tx : Transaction) : executeEVMDeploy cfg tx = (do
      let funds ← reserveDeployment cfg tx
      let report ← deployContract cfg tx
      settleDeployment cfg tx funds report) := by
  have opened (next : Nat × Nat → WorldM Unit) : (reserveDeployment cfg tx >>= next) = (do
      ofExcept (checkChainID cfg tx)
      let (value, gasPrice, newBalance) ← checkEVMFunds cfg tx "deployment"
      (updateBalance cfg tx.fromAddr newBalance).adaptExcept
        ("failed to reserve balance for deployment: " ++ ·)
      next (value, gasPrice)) := by
    simp only [reserveDeployment, bind_assoc, pure_bind]
  rw [opened]
  rfl

end

section Counters

variable (cfg : NodeConfig) (ws : WorldState)

def WorldState.windowGas : EvmGas :=
  if windowExpired ws.evmGas (cfg.clock ws.ticks)
      (circuitBreakerLimits ws.governance).2.2 then
    ws.evmGas.openWindow (cfg.clock ws.ticks)
  else ws.evmGas

structure HasRoom (gasLimit : UInt64) : Prop where
  count : ¬ (circuitBreakerLimits ws.governance).2.1 < (ws.windowGas cfg).windowTxCount + 1
  window : ¬ (circuitBreakerLimits ws.governance).1 < (ws.windowGas cfg).windowGasUsed + gasLimit
  block : ¬ ((ws.windowGas cfg).blockGasLimit ≠ 0 ∧
    (ws.windowGas cfg).blockGasLimit < (ws.windowGas cfg).blockGasUsed + gasLimit)

def WorldState.windowed (gasLimit : UInt64) : WorldState :=
  { ws with
    evmGas := { ws.windowGas cfg with
      windowTxCount := (ws.windowGas cfg).windowTxCount + 1
      windowGasUsed := (ws.windowGas cfg).windowGasUsed + gasLimit }
    ticks := ws.ticks + 1 }

def WorldState.reserved (gasLimit : UInt64) : WorldState :=
  { ws.windowed cfg gasLimit with
    evmGas := { (ws.windowed cfg gasLimit).evmGas with
      blockGasUsed := (ws.windowGas cfg).blockGasUsed + gasLimit } }

def WorldState.entered (tx : Transaction) : WorldState :=
  { ws.reserved cfg tx.gas.toUInt64 with
    ledger := ws.ledger.bumpNonce (cfg.checksumHex tx.fromAddr) }

variable {cfg ws} {gasLimit : UInt64}

theorem checkAndReserveWindowGas_full
    (full : (circuitBreakerLimits ws.governance).2.1 < (ws.windowGas cfg).windowTxCount + 1 ∨
      (circuitBreakerLimits ws.governance).1 < (ws.windowGas cfg).windowGasUsed + gasLimit) :
    ∃ err, checkAndReserveWindowGas cfg gasLimit ws =
      .ok (some err) { ws with evmGas := ws.windowGas cfg, ticks := ws.ticks + 1 } := by
  unfold checkAndReserveWindowGas
  rw [bind_ok (show readClock cfg ws = .ok _ _ from rfl), bind_ok get_ok]
  dsimp only
  rw [bind_ok (set_ok _)]
  by_cases crowded : (circuitBreakerLimits ws.governance).2.1 < (ws.windowGas cfg).windowTxCount + 1
  · exact ⟨_, congrFun (if_pos crowded) _⟩
  · exact ⟨_, (congrFun (if_neg crowded) _).trans (congrFun (if_pos (full.resolve_left crowded)) _)⟩

theorem checkAndReserveWindowGas_room
    (count : ¬ (circuitBreakerLimits ws.governance).2.1 < (ws.windowGas cfg).windowTxCount + 1)
    (window : ¬ (circuitBreakerLimits ws.governance).1 <
      (ws.windowGas cfg).windowGasUsed + gasLimit) :
    checkAndReserveWindowGas cfg gasLimit ws = .ok none (ws.windowed cfg gasLimit) := by
  unfold checkAndReserveWindowGas
  rw [bind_ok (show readClock cfg ws = .ok _ _ from rfl), bind_ok get_ok]
  dsimp only
  rw [bind_ok (set_ok _)]
  exact (congrFun (if_neg count) _).trans (congrFun (if_neg window) _)

theorem checkAndReserveGas_full (full : (ws.windowGas cfg).blockGasLimit ≠ 0 ∧
      (ws.windowGas cfg).blockGasLimit < (ws.windowGas cfg).blockGasUsed + gasLimit) :
    ∃ err, checkAndReserveGas gasLimit (ws.windowed cfg gasLimit) =
      .ok (some err) (ws.windowed cfg gasLimit) :=
  ⟨_, if_pos full⟩

end Counters

inductive Interpretation (cfg : NodeConfig) (tx : Transaction) (ws : WorldState) :
    EStateM.Result String WorldState (UInt64 × Option String) → Prop where
  | crowded (err : String) (evmGas : EvmGas) (ticks : Nat)
      (full : ¬ HasRoom cfg ws tx.gas.toUInt64) :
      Interpretation cfg tx ws (.ok (0, some err) { ws with evmGas, ticks })
  | stale (err : String) (evmGas : EvmGas) (ticks : Nat)
      (mismatch : storedNonce ws.ledger (cfg.checksumHex tx.fromAddr) ≠ tx.nonce) :
      Interpretation cfg tx ws (.ok (0, some err) { ws with evmGas, ticks })
  | ran (evmGas : EvmGas) (ticks : Nat) (am : Ledger)
      (room : HasRoom cfg ws tx.gas.toUInt64)
      (current : storedNonce ws.ledger (cfg.checksumHex tx.fromAddr) = tx.nonce)
      (looked : lookupAccounts cfg (cfg.revm (ws.entered cfg tx) tx).lookups
        (ws.entered cfg tx) = .ok () { ws.entered cfg tx with ledger := am }) :
      Interpretation cfg tx ws (.ok (processResult (cfg.revm (ws.entered cfg tx) tx))
        { ws with ledger := am, evmGas, ticks })

section Middle

variable {cfg : NodeConfig} {tx : Transaction} {ws : WorldState}

theorem refundGas_ok (gasRefund : UInt64) :
    ∃ evmGas, refundGas gasRefund ws = .ok () { ws with evmGas } := ⟨_, rfl⟩

theorem refundWindowReservation_ok (gasRefund : UInt64) (releaseTx : Bool) :
    ∃ evmGas ticks, refundWindowReservation cfg gasRefund releaseTx ws =
      .ok () { ws with evmGas, ticks } := by
  unfold refundWindowReservation
  rw [bind_ok (show readClock cfg ws = .ok _ _ from rfl)]
  rw [modify_ok]
  dsimp only
  split <;> exact ⟨_, _, rfl⟩

theorem lookupAccounts_ok (cfg : NodeConfig) (addrs : List Address) (ws : WorldState) :
    ∃ am, lookupAccounts cfg addrs ws = .ok () { ws with ledger := am } := by
  induction addrs generalizing ws with
  | nil => exact ⟨ws.ledger, rfl⟩
  | cons addr rest ih =>
    have asked : ∃ found am, (tryCatch (some <$> onLedger (getAccount cfg addr))
        (fun _ => Pure.pure none) : WorldM (Option Account)) ws = .ok found { ws with ledger := am } := by
      change ∃ found am, EStateM.tryCatch _ _ ws = _
      cases got : getAccount cfg addr ws.ledger with
      | ok acc am =>
        refine ⟨some acc, am, ?_⟩
        simp only [EStateM.tryCatch, Functor.map, EStateM.map, onLedger_ok got]
      | error _ am =>
        refine ⟨none, am, ?_⟩
        simp only [EStateM.tryCatch, Functor.map, EStateM.map, onLedger_error got]
        rfl
    obtain ⟨_, am, asked⟩ := asked
    obtain ⟨last, rest⟩ := ih { ws with ledger := am }
    exact ⟨last, (bind_ok asked _).trans rest⟩

theorem entered_outcome (room : HasRoom cfg ws tx.gas.toUInt64) :
    Interpretation cfg tx ws (runRevm cfg tx tx.nonce ws) := by
  have unfilled : checkAndReserveGas tx.gas.toUInt64 (ws.windowed cfg tx.gas.toUInt64) =
      .ok none (ws.reserved cfg tx.gas.toUInt64) := if_neg room.block
  unfold runRevm
  rw [bind_ok (checkAndReserveWindowGas_room room.count room.window)]
  dsimp only
  rw [bind_ok unfilled]
  dsimp only
  by_cases current : storedNonce ws.ledger (cfg.checksumHex tx.fromAddr) = tx.nonce
  case neg =>
    have stale : onLedger (atomicIncrementNonce (cfg.checksumHex tx.fromAddr) tx.nonce)
        (ws.reserved cfg tx.gas.toUInt64) =
          .ok (false, storedNonce ws.ledger (cfg.checksumHex tx.fromAddr))
            (ws.reserved cfg tx.gas.toUInt64) :=
      onLedger_ok (atomicIncrementNonce_stale current)
    obtain ⟨_, _, refunded⟩ := refundWindowReservation_ok tx.gas.toUInt64 true
    obtain ⟨evmGas, released⟩ := refundGas_ok tx.gas.toUInt64
    rw [bind_ok stale]
    rw [if_pos Bool.false_ne_true, bind_ok refunded, bind_ok released]
    exact .stale _ _ _ current
  have stepped : onLedger (atomicIncrementNonce (cfg.checksumHex tx.fromAddr) tx.nonce)
      (ws.reserved cfg tx.gas.toUInt64) =
        .ok (true, storedNonce ws.ledger (cfg.checksumHex tx.fromAddr)) (ws.entered cfg tx) :=
    onLedger_ok (atomicIncrementNonce_current current)
  obtain ⟨am, looked⟩ := lookupAccounts_ok cfg
    (cfg.revm (ws.entered cfg tx) tx).lookups (ws.entered cfg tx)
  rw [bind_ok stepped]
  rw [if_neg (not_not.mpr rfl), bind_ok get_ok, bind_ok looked]
  split
  · obtain ⟨_, refunded⟩ := refundGas_ok (tx.gas.toUInt64 -
      (processResult (cfg.revm (ws.entered cfg tx) tx)).1)
    obtain ⟨evmGas, ticks, released⟩ := refundWindowReservation_ok
      (tx.gas.toUInt64 - (processResult (cfg.revm (ws.entered cfg tx) tx)).1) false
    rw [bind_ok refunded, bind_ok released]
    exact .ran evmGas ticks am room current looked
  · exact .ran _ _ am room current looked

theorem runRevm_outcome (cfg : NodeConfig) (tx : Transaction) (ws : WorldState) :
    Interpretation cfg tx ws (runRevm cfg tx tx.nonce ws) := by
  by_cases crowded : (circuitBreakerLimits ws.governance).2.1 <
        (ws.windowGas cfg).windowTxCount + 1 ∨
      (circuitBreakerLimits ws.governance).1 < (ws.windowGas cfg).windowGasUsed + tx.gas.toUInt64
  · obtain ⟨err, full⟩ := checkAndReserveWindowGas_full crowded
    unfold runRevm
    rw [bind_ok full]
    exact .crowded _ _ _ fun room => crowded.elim room.count room.window
  rw [not_or] at crowded
  by_cases full : (ws.windowGas cfg).blockGasLimit ≠ 0 ∧
      (ws.windowGas cfg).blockGasLimit < (ws.windowGas cfg).blockGasUsed + tx.gas.toUInt64
  · obtain ⟨_, refused⟩ := checkAndReserveGas_full full
    obtain ⟨evmGas, ticks, refunded⟩ := refundWindowReservation_ok tx.gas.toUInt64 true
    unfold runRevm
    rw [bind_ok (checkAndReserveWindowGas_room crowded.1 crowded.2)]
    dsimp only
    rw [bind_ok refused]
    dsimp only
    rw [bind_ok refunded]
    exact .crowded _ evmGas ticks fun room => room.block full
  · exact entered_outcome ⟨crowded.1, crowded.2, full⟩

end Middle

def Transaction.Bounded (tx : Transaction) : Prop :=
  if tx.type = .evmContractDeploy then
    ¬ tx.gas.toUInt64 < 100000 ∧ ¬ 30000000 < tx.gas.toUInt64 ∧ tx.data ≠ []
  else ¬ 30000000 < tx.gas.toUInt64 ∧ tx.gas.toUInt64 ≠ 0

structure Enters (cfg : NodeConfig) (tx : Transaction) (ws : WorldState) : Prop where
  bounded : tx.Bounded
  room : HasRoom cfg ws tx.gas.toUInt64
  current : storedNonce ws.ledger (cfg.checksumHex tx.fromAddr) = tx.nonce

def interpret (cfg : NodeConfig) (tx : Transaction) : WorldM (UInt64 × Option String) :=
  if tx.type = .evmContractDeploy then deployContract cfg tx
  else executeCall cfg tx tx.nonce

inductive Interpreted (cfg : NodeConfig) (tx : Transaction) (ws : WorldState) :
    EStateM.Result String WorldState (UInt64 × Option String) → Prop where
  | unentered (err : String) (evmGas : EvmGas) (ticks : Nat)
      (unmet : ¬ Enters cfg tx ws) :
      Interpreted cfg tx ws (.ok (0, some err) { ws with evmGas, ticks })
  | entered (failure : Option String) (evmGas : EvmGas) (ticks : Nat) (am : Ledger)
      (enters : Enters cfg tx ws)
      (looked : lookupAccounts cfg (cfg.revm (ws.entered cfg tx) tx).lookups
        (ws.entered cfg tx) = .ok () { ws.entered cfg tx with ledger := am })
      (same : failure.isNone = (processResult (cfg.revm (ws.entered cfg tx) tx)).2.isNone) :
      Interpreted cfg tx ws
        (.ok ((processResult (cfg.revm (ws.entered cfg tx) tx)).1, failure)
          { ws with ledger := am, evmGas, ticks })

section Interpret

variable {cfg : NodeConfig} {tx : Transaction} {ws : WorldState}

theorem interpret_call (call : tx.type ≠ .evmContractDeploy) :
    Interpreted cfg tx ws (executeCall cfg tx tx.nonce ws) := by
  unfold executeCall
  have bounds (bounded : tx.Bounded) : ¬ 30000000 < tx.gas.toUInt64 ∧ tx.gas.toUInt64 ≠ 0 := by
    rwa [Transaction.Bounded, if_neg call] at bounded
  split
  case isTrue large => exact .unentered _ _ _ fun enters => (bounds enters.bounded).1 large
  split
  case isTrue none => exact .unentered _ _ _ fun enters => (bounds enters.bounded).2 none
  rename_i large none
  have outcome := runRevm_outcome cfg tx ws
  generalize runRevm cfg tx tx.nonce ws = result at outcome ⊢
  cases outcome with
  | crowded _ _ _ full => exact .unentered _ _ _ fun enters => full enters.room
  | stale _ _ _ mismatch => exact .unentered _ _ _ fun enters => mismatch enters.current
  | ran _ _ _ room current looked =>
    refine .entered _ _ _ _ ⟨?_, room, current⟩ looked rfl
    rw [Transaction.Bounded, if_neg call]
    exact ⟨large, none⟩

theorem interpret_deployment (deploy : tx.type = .evmContractDeploy) :
    Interpreted cfg tx ws (deployContract cfg tx ws) := by
  unfold deployContract
  have bounds (bounded : tx.Bounded) : ¬ tx.gas.toUInt64 < 100000 ∧ ¬ 30000000 < tx.gas.toUInt64 ∧
      tx.data ≠ [] := by
    rwa [Transaction.Bounded, if_pos deploy] at bounded
  split
  case isTrue small => exact .unentered _ _ _ fun enters => (bounds enters.bounded).1 small
  split
  case isTrue large => exact .unentered _ _ _ fun enters => (bounds enters.bounded).2.1 large
  split
  case isTrue empty => exact .unentered _ _ _ fun enters => (bounds enters.bounded).2.2 empty
  rename_i small large empty
  have outcome := runRevm_outcome cfg tx ws
  generalize ran : runRevm cfg tx tx.nonce ws = result at outcome
  cases outcome with
  | crowded _ _ _ full =>
    rw [bind_ok ran]
    exact .unentered _ _ _ fun enters => full enters.room
  | stale _ _ _ mismatch =>
    rw [bind_ok ran]
    exact .unentered _ _ _ fun enters => mismatch enters.current
  | ran _ _ _ room current looked =>
    rw [bind_ok ran]
    refine .entered _ _ _ _ ⟨?_, room, current⟩ looked Option.isNone_map
    rw [Transaction.Bounded, if_pos deploy]
    exact ⟨small, large, empty⟩

theorem interpret_outcome (cfg : NodeConfig) (tx : Transaction) (ws : WorldState) :
    Interpreted cfg tx ws (interpret cfg tx ws) := by
  unfold interpret
  by_cases deploy : tx.type = .evmContractDeploy
  · rw [if_pos deploy]
    exact interpret_deployment deploy
  · rw [if_neg deploy]
    exact interpret_call deploy

end Interpret

def reserveContract (cfg : NodeConfig) (tx : Transaction) : WorldM (Nat × Nat) :=
  if tx.type = .evmContractDeploy then reserveDeployment cfg tx else reserveCall cfg tx

def settleContract (cfg : NodeConfig) (tx : Transaction) (funds : Nat × Nat)
    (report : UInt64 × Option String) : WorldM Unit :=
  if tx.type = .evmContractDeploy then settleDeployment cfg tx funds report
  else settleCall cfg tx funds report

section Contract

variable {cfg : NodeConfig} {tx : Transaction}

theorem dispatchTransaction_contract (contract : tx.type.isEVM = true) :
    dispatchTransaction cfg tx = (do
      let funds ← reserveContract cfg tx
      let report ← interpret cfg tx
      settleContract cfg tx funds report) := by
  unfold dispatchTransaction reserveContract interpret settleContract
  cases kind : tx.type with
  | evmContractCall => exact executeEVMCall_parts cfg tx
  | evmContractDeploy => exact executeEVMDeploy_parts cfg tx
  | _ => simp [kind, TransactionType.isEVM] at contract

theorem ledgerOnly_reserveContract : LedgerOnly (reserveContract cfg tx) := by
  unfold reserveContract
  split
  · refine (LedgerOnly.ofExcept _).bind fun _ => (ledgerOnly_checkEVMFunds _).bind fun _ => ?_
    exact ((ledgerOnly_updateBalance _ _).adaptExcept _).bind fun _ => .pure _
  · refine (LedgerOnly.ofExcept _).bind fun _ => (LedgerOnly.ofExcept _).bind fun _ =>
      (ledgerOnly_checkEVMFunds _).bind fun _ => ?_
    exact (ledgerOnly_updateBalance _ _).ignoreFailure.bind fun _ => .pure _

theorem ledgerOnly_refund {prog : WorldM Unit} (only : LedgerOnly prog) (payer : Address)
    (amt : Int) : LedgerOnly (do
      if 0 < amt then
        addBalance cfg payer amt
      prog) := by
  split
  · exact (ledgerOnly_addBalance _ _).bind fun _ => only
  · exact only

theorem ledgerOnly_settleContract (funds : Nat × Nat) (report : UInt64 × Option String) :
    LedgerOnly (settleContract cfg tx funds report) := by
  unfold settleContract
  split
  · refine ledgerOnly_refund ?_ _ _
    split
    · exact .pure _
    · exact ((ledgerOnly_getBalance _).adaptExcept _).bind fun _ =>
        ((ledgerOnly_updateBalance _ _).adaptExcept _).bind fun _ => .throw _
  · refine ledgerOnly_refund ?_ _ _
    split
    · exact .pure _
    · exact (ledgerOnly_addBalance _ _).bind fun _ => .throw _

theorem ignoreFailure_ok (prog : WorldM Unit) (ws : WorldState) :
    ignoreFailure prog ws = .ok () (ignoreFailure prog ws).final := by
  change EStateM.tryCatch prog _ ws = _
  change _ = EStateM.Result.ok () (EStateM.tryCatch prog _ ws).final
  unfold EStateM.tryCatch
  cases prog ws <;> rfl

theorem refund_then (payer : Address) (amt : Int) (next : WorldM Unit)
    (ws : WorldState) : ∃ refunded,
      (if 0 < amt then addBalance cfg payer amt >>= fun _ => next else next) ws =
        next refunded := by
  by_cases owed : 0 < amt
  · rw [if_pos owed]
    exact ⟨_, bind_ok (ignoreFailure_ok _ _) _⟩
  · rw [if_neg owed]
    exact ⟨ws, rfl⟩

theorem settleContract_failed (funds : Nat × Nat) (gasUsed : UInt64) (err : String)
    (ws after : WorldState) :
    settleContract cfg tx funds (gasUsed, some err) ws ≠ .ok () after := by
  intro settled
  unfold settleContract at settled
  split at settled
  · obtain ⟨refunded, same⟩ := refund_then tx.fromAddr (gasRefund tx funds.2 gasUsed) (do
      let currentBalance ← (getBalance cfg tx.fromAddr).adaptExcept
        ("contract deployment failed and refund lookup failed: " ++ ·)
      (updateBalance cfg tx.fromAddr (currentBalance + funds.1)).adaptExcept
        ("contract deployment failed and value refund failed: " ++ ·)
      throw s!"contract deployment failed: {err}") ws
    obtain ⟨_, _, _, settled⟩ := bind_ok_iff.mp (same.symm.trans settled)
    obtain ⟨_, _, _, settled⟩ := bind_ok_iff.mp settled
    cases settled
  · obtain ⟨_, same⟩ := refund_then tx.fromAddr (gasRefund tx funds.2 gasUsed) (do
      addBalance cfg tx.fromAddr funds.1
      throw s!"EVM execution failed: {err}") ws
    obtain ⟨_, _, _, settled⟩ := bind_ok_iff.mp (same.symm.trans settled)
    cases settled

structure ContractRun (cfg : NodeConfig) (tx : Transaction) (ws after : WorldState)
    (funds : Nat × Nat) (paid am : Ledger) : Prop where
  amounts : normalizeTransactionAmounts tx = .ok tx.canonical
  reserves : reserveContract cfg tx.canonical ws = .ok funds { ws with ledger := paid }
  enters : Enters cfg tx.canonical { ws with ledger := paid }
  looked : lookupAccounts cfg (cfg.revm
      (WorldState.entered cfg { ws with ledger := paid } tx.canonical) tx.canonical).lookups
    (WorldState.entered cfg { ws with ledger := paid } tx.canonical) =
      .ok () { WorldState.entered cfg { ws with ledger := paid } tx.canonical with ledger := am }
  succeeds : (processResult (cfg.revm
    (WorldState.entered cfg { ws with ledger := paid } tx.canonical) tx.canonical)).2 = none
  settles : ∃ evmGas ticks, settleContract cfg tx.canonical funds
    ((processResult (cfg.revm
      (WorldState.entered cfg { ws with ledger := paid } tx.canonical) tx.canonical)).1, none)
    { ws with ledger := am, evmGas, ticks } = .ok () after

variable {ws after : WorldState}

theorem executeTransaction_contract {value : Transaction}
    (contract : tx.type.isEVM = true) (ran : executeTransaction cfg tx ws = .ok value after) :
    value = tx.canonical ∧ ∃ funds paid am, ContractRun cfg tx ws after funds paid am := by
  refine ⟨executeTransaction_ok ran, ?_⟩
  unfold executeTransaction at ran
  cases amounts : normalizeTransactionAmounts tx with
  | error =>
    rw [amounts] at ran
    cases ran
  | ok =>
  obtain rfl := normalizeTransactionAmounts_ok amounts
  have canonical : tx.canonical.type.isEVM = true := contract
  rw [amounts, adapt_ok (ofExcept_ok rfl), dispatchTransaction_contract canonical] at ran
  obtain ⟨_, _, dispatched, returned⟩ := bind_ok_iff.mp ran
  cases returned
  obtain ⟨funds, _, reserves, rest⟩ := bind_ok_iff.mp dispatched
  obtain ⟨_, _, interpreted, settles⟩ := bind_ok_iff.mp rest
  obtain ⟨_, paid, -, -, rfl⟩ := ledgerOnly_reserveContract.run_ok reserves
  have outcome := interpret_outcome cfg tx.canonical { ws with ledger := paid }
  rw [interpreted] at outcome
  cases outcome with
  | unentered => exact absurd settles (settleContract_failed _ _ _ _ _)
  | entered failure evmGas ticks am enters looked same =>
  cases failure with
  | some => exact absurd settles (settleContract_failed _ _ _ _ _)
  | none =>
    exact ⟨funds, paid, am, amounts, reserves, enters, looked,
      Option.isNone_iff_eq_none.mp same.symm, evmGas, ticks, settles⟩

theorem executeTransaction_contract_ok {reserved middle : WorldState} {funds : Nat × Nat}
    {report : UInt64 × Option String} (contract : tx.type.isEVM = true)
    (amounts : normalizeTransactionAmounts tx = .ok tx.canonical)
    (reserves : reserveContract cfg tx.canonical ws = .ok funds reserved)
    (interpreted : interpret cfg tx.canonical reserved = .ok report middle)
    (settles : settleContract cfg tx.canonical funds report middle = .ok () after) :
    executeTransaction cfg tx ws = .ok tx.canonical after := by
  have canonical : tx.canonical.type.isEVM = true := contract
  have dispatched : dispatchTransaction cfg tx.canonical ws = .ok () after := by
    rw [dispatchTransaction_contract canonical, bind_ok reserves, bind_ok interpreted]
    exact settles
  unfold executeTransaction
  rw [amounts, adapt_ok (ofExcept_ok rfl), bind_ok dispatched]
  rfl

end Contract

end Thrylos
