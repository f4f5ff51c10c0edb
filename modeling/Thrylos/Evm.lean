import Thrylos.WorldState

/-!
Contract calls and deployments: `executeEVMCall` and `executeEVMDeploy` over the gas counters and
the nonce step of `core/evm/revm_executor.go`. A failure is reported next to the gas used.
-/

namespace Thrylos

def circuitBreakerLimits (gov : GovernanceState) : UInt64 × UInt64 × Int :=
  (if 0 < gov.evmMaxGasPerWindow then UInt64.ofNat gov.evmMaxGasPerWindow.toNat
    else 300000000,
  if 0 < gov.evmMaxTxPerWindow then UInt64.ofNat gov.evmMaxTxPerWindow.toNat
    else 1000,
  if 0 < gov.evmWindowDurationSeconds then
    (Int64.ofInt gov.evmWindowDurationSeconds * 1000000000).toInt
  else 10 * 1000000000)

def windowExpired (gas : EvmGas) (now windowDuration : Int) : Bool :=
  match gas.windowStart with
  | none => true
  | some start => windowDuration ≤ now - start

def EvmGas.openWindow (gas : EvmGas) (now : Int) : EvmGas :=
  { gas with windowStart := some now, windowGasUsed := 0, windowTxCount := 0 }

variable (cfg : NodeConfig)

def checkAndReserveWindowGas (gasLimit : UInt64) : WorldM (Option String) := do
  let now ← readClock cfg
  let ws ← get
  let (maxGas, maxTx, windowDuration) := circuitBreakerLimits ws.governance
  let gas := if windowExpired ws.evmGas now windowDuration then ws.evmGas.openWindow now
    else ws.evmGas
  set { ws with evmGas := gas }
  if maxTx < gas.windowTxCount + 1 then
    return some s!"circuit breaker: too many transactions in window ({gas.windowTxCount + 1}/{maxTx})"
  if maxGas < gas.windowGasUsed + gasLimit then
    return some s!"circuit breaker: gas limit exceeded for window ({gas.windowGasUsed + gasLimit}/{maxGas})"
  set { ws with evmGas := { gas with
    windowTxCount := gas.windowTxCount + 1, windowGasUsed := gas.windowGasUsed + gasLimit } }
  return none

def checkAndReserveGas (gasLimit : UInt64) : WorldM (Option String) := fun ws =>
  let gas := ws.evmGas
  if gas.blockGasLimit ≠ 0 ∧ gas.blockGasLimit < gas.blockGasUsed + gasLimit then
    .ok (some s!"block gas limit exceeded: used {gas.blockGasUsed} + requested {gasLimit} > limit {gas.blockGasLimit}") ws
  else
    .ok none { ws with evmGas := { gas with blockGasUsed := gas.blockGasUsed + gasLimit } }

def refundGas (gasRefund : UInt64) : WorldM Unit := modify fun ws =>
  let used := ws.evmGas.blockGasUsed
  let used := if used < gasRefund then 0 else used - gasRefund
  { ws with evmGas := { ws.evmGas with blockGasUsed := used } }

def refundWindowReservation (gasRefund : UInt64) (releaseTx : Bool) : WorldM Unit := do
  let now ← readClock cfg
  modify fun ws =>
    let gas := ws.evmGas
    let (_, _, windowDuration) := circuitBreakerLimits ws.governance
    if windowExpired gas now windowDuration then { ws with evmGas := gas.openWindow now }
    else
      let count := if releaseTx ∧ 0 < gas.windowTxCount then gas.windowTxCount - 1
        else gas.windowTxCount
      let used := if gas.windowGasUsed ≤ gasRefund then 0 else gas.windowGasUsed - gasRefund
      { ws with evmGas := { gas with windowTxCount := count, windowGasUsed := used } }

def processResult (result : RevmResult) : UInt64 × Option String :=
  let message := result.errorMessage.getD
  if result.errorCode = 1 then
    (0, some ("CRITICAL: REVM panic - " ++ message "Rust panic detected"))
  else if result.errorCode ≠ 0 then
    (0, some (s!"REVM FFI error (code {result.errorCode}): " ++ message "Unknown FFI error"))
  else if 50000000 < result.gasUsed then
    (0, some s!"suspicious gas value: {result.gasUsed} exceeds maximum 50000000")
  else if ¬ result.success then
    (result.gasUsed, some (message "execution failed"))
  else (result.gasUsed, none)

/-- The state callbacks go through `GetAccount`, whose failures they drop. -/
def lookupAccounts (cfg : NodeConfig) : List Address → WorldM Unit
  | [] => pure ()
  | addr :: rest => do
    let _ ← tryCatch (some <$> onLedger (getAccount cfg addr)) (fun _ => pure none)
    lookupAccounts cfg rest

variable (tx : Transaction)

/-- The part `ExecuteCall` and `DeployContract` share once their gas bounds hold. -/
def runRevm (nonce : UInt64) : WorldM (UInt64 × Option String) := do
  let gas := tx.gas.toUInt64
  match ← checkAndReserveWindowGas cfg gas with
  | some err => return (0, some err)
  | none => pure ()
  match ← checkAndReserveGas gas with
  | some err =>
    refundWindowReservation cfg gas true
    return (0, some s!"block gas limit check failed: {err}")
  | none => pure ()
  let (success, currentNonce) ←
    onLedger (atomicIncrementNonce (cfg.checksumHex tx.fromAddr) nonce)
  if ¬ success then
    refundWindowReservation cfg gas true
    refundGas gas
    return (0, some s!"nonce mismatch: expected {nonce}, but account nonce is {currentNonce}")
  let result := cfg.revm (← get) tx
  lookupAccounts cfg result.lookups
  let (gasUsed, failure) := processResult result
  if gasUsed < gas then
    refundGas (gas - gasUsed)
    refundWindowReservation cfg (gas - gasUsed) false
  return (gasUsed, failure)

def executeCall (nonce : UInt64) : WorldM (UInt64 × Option String) :=
  let gas := tx.gas.toUInt64
  if 30000000 < gas then pure (0, some s!"gas limit {gas} exceeds maximum 30000000")
  else if gas = 0 then pure (0, some "gas limit cannot be zero")
  else runRevm cfg tx nonce

def deployContract : WorldM (UInt64 × Option String) :=
  let gas := tx.gas.toUInt64
  if gas < 100000 then pure (0, some s!"deployment requires minimum 100000 gas, got {gas}")
  else if 30000000 < gas then pure (0, some s!"gas limit {gas} exceeds maximum 30000000")
  else if tx.data = [] then pure (0, some "cannot deploy empty bytecode")
  else do
    let (gasUsed, failure) ← runRevm cfg tx tx.nonce
    return (gasUsed, failure.map ("deployment failed: " ++ ·))

def ignoreFailure (prog : WorldM Unit) : WorldM Unit :=
  tryCatch prog (fun _ => pure ())

def addBalance (addr : Address) (amt : Int) : WorldM Unit :=
  ignoreFailure do
    let currentBalance ← getBalance cfg addr
    updateBalance cfg addr (currentBalance + amt)

def checkChainID : Except String Unit :=
  if tx.chainId ≠ cfg.chainID then
    .error s!"CRITICAL: Replay protection failed. Tx ChainID '{text tx.chainId}' != Node ChainID '{text cfg.chainID}'"
  else .ok ()

def checkCallGas : Except String Unit :=
  if tx.gas < 0 then .error "invalid gas limit: cannot be negative"
  else if tx.gas < 21000 then .error s!"intrinsic gas too low: {tx.gas} < 21000"
  else if maxGasLimit < tx.gas then
    .error s!"gas limit exceeds block maximum: {tx.gas} > {maxGasLimit}"
  else .ok ()

/-- The amount, price, nonce and balance checks of both EVM transactions. `purpose` ends the message
of a failed nonce lookup. -/
def checkEVMFunds (purpose : String) : WorldM (Nat × Nat × Int) := do
  let value ← (ofExcept (parseUint256Bytes tx.amount) : WorldM Nat).adaptExcept
    ("invalid transaction amount: " ++ ·)
  let gasPrice ← (ofExcept (parseUint256Bytes tx.gasPrice) : WorldM Nat).adaptExcept
    ("invalid gas price: " ++ ·)
  let nonce ← (getNonce cfg tx.fromAddr).adaptExcept (s!"failed to get nonce for {purpose}: " ++ ·)
  if tx.nonce ≠ nonce then throw s!"nonce mismatch: expected {nonce}, got {tx.nonce}"
  let maxGasCost := (tx.gas.toUInt64.toNat * gasPrice : Nat)
  let bal ← (getBalance cfg tx.fromAddr).adaptExcept ("failed to get balance: " ++ ·)
  if (bal : Int) < maxGasCost + value then throw "insufficient funds for gas + value"
  return (value, gasPrice, bal - (maxGasCost + value))

def gasRefund (gasPrice : Nat) (gasUsed : UInt64) : Int :=
  tx.gas.toUInt64.toNat * gasPrice - gasUsed.toNat * gasPrice

def executeEVMCall : WorldM Unit := do
  ofExcept (checkChainID cfg tx)
  ofExcept (checkCallGas tx)
  let (value, gasPrice, newBalance) ← checkEVMFunds cfg tx "execution"
  ignoreFailure (updateBalance cfg tx.fromAddr newBalance)
  let (gasUsed, failure) ← executeCall cfg tx tx.nonce
  if 0 < gasRefund tx gasPrice gasUsed then
    addBalance cfg tx.fromAddr (gasRefund tx gasPrice gasUsed)
  match failure with
  | none => pure ()
  | some err =>
    addBalance cfg tx.fromAddr value
    throw s!"EVM execution failed: {err}"

def executeEVMDeploy : WorldM Unit := do
  ofExcept (checkChainID cfg tx)
  let (value, gasPrice, newBalance) ← checkEVMFunds cfg tx "deployment"
  (updateBalance cfg tx.fromAddr newBalance).adaptExcept
    ("failed to reserve balance for deployment: " ++ ·)
  let (gasUsed, failure) ← deployContract cfg tx
  if 0 < gasRefund tx gasPrice gasUsed then
    addBalance cfg tx.fromAddr (gasRefund tx gasPrice gasUsed)
  match failure with
  | none => pure ()
  | some err =>
    let currentBalance ← (getBalance cfg tx.fromAddr).adaptExcept
      ("contract deployment failed and refund lookup failed: " ++ ·)
    (updateBalance cfg tx.fromAddr (currentBalance + value)).adaptExcept
      ("contract deployment failed and value refund failed: " ++ ·)
    throw s!"contract deployment failed: {err}"

end Thrylos
