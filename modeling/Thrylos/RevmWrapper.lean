import Thrylos.ContractRuns

/-!
The wrapper around the interpreter, `revm_wrapper/src/lib.rs`. The interpreter is a parameter: it
answers how a transaction ends, the gas it took and the accounts it changes.
-/

namespace Thrylos

inductive FFIErrorCode where
  | success
  | panicCaught
  | invalidInput
  | executionFailed
  | outOfGas
  | revert
  | memoryError

def FFIErrorCode.value : FFIErrorCode → Int
  | .success => 0
  | .panicCaught => 1
  | .invalidInput => 2
  | .executionFailed => 3
  | .outOfGas => 4
  | .revert => 5
  | .memoryError => 6

structure EvmChange where
  address : Address
  balance : Nat
  code : Option Bytes
  storage : List (Bytes × Bytes)

/-- The interpreter's answer; `debug` is the `{:?}` form of its result. -/
structure ResultAndState where
  success : Bool
  gasUsed : UInt64
  debug : String
  state : List EvmChange

/-- The interpreter, the circuit breaker in front of it and the analysis of deployed code. `lookups`
are the addresses asked for. -/
structure Revm where
  checkAndRecord : WorldState → UInt64 → Option String
  validateBytecode : Bytes → Option String
  transact : WorldState → Transaction → Except String ResultAndState
  lookups : WorldState → Transaction → List Address
  gas_le : ∀ ws tx result, transact ws tx = .ok result → result.gasUsed ≤ tx.gas.toUInt64

namespace Revm

variable (revm : Revm) (ws : WorldState) (tx : Transaction)

def createErrorResultWithCode (message : String) (code : FFIErrorCode) : RevmResult where
  errorCode := code.value
  success := false
  gasUsed := 0
  errorMessage := some message
  lookups := revm.lookups ws tx

/-- The end that `execute_call` and `deploy_contract` share. -/
def transactResult (failed reverted : String) : RevmResult :=
  match revm.transact ws tx with
  | .error err => revm.createErrorResultWithCode ws tx (failed ++ err) .executionFailed
  | .ok result =>
    if result.success then
      { errorCode := FFIErrorCode.success.value
        success := true
        gasUsed := result.gasUsed
        errorMessage := none
        lookups := revm.lookups ws tx }
    else
      { errorCode := FFIErrorCode.revert.value
        success := false
        gasUsed := result.gasUsed
        errorMessage := some (reverted ++ result.debug)
        lookups := revm.lookups ws tx }

def executeCall : RevmResult :=
  match revm.checkAndRecord ws tx.gas.toUInt64 with
  | some err => revm.createErrorResultWithCode ws tx err .executionFailed
  | none => revm.transactResult ws tx "EVM execution failed: " "Execution reverted: "

def deployContract : RevmResult :=
  match revm.validateBytecode tx.data with
  | some err =>
    revm.createErrorResultWithCode ws tx ("Bytecode validation failed: " ++ err) .invalidInput
  | none =>
    match revm.checkAndRecord ws tx.gas.toUInt64 with
    | some err => revm.createErrorResultWithCode ws tx err .executionFailed
    | none =>
      if tx.gas.toUInt64 < 100000 then
        revm.createErrorResultWithCode ws tx
          s!"Gas limit {tx.gas.toUInt64} below minimum deployment gas 100000" .outOfGas
      else revm.transactResult ws tx "Contract deployment failed: " "Deployment failed: "

def accepted (fallback : String) (result : RevmResult) : Except String RevmResult :=
  if result.success then .ok result else .error (result.errorMessage.getD fallback)

def executeCallImpl : Except String RevmResult :=
  if tx.gas.toUInt64 = 0 then .error "Gas limit cannot be zero"
  else if 30000000 < tx.gas.toUInt64 then .error "Gas limit exceeds maximum (30M)"
  else if 1048576 < tx.data.length then
    .error s!"Calldata size {tx.data.length} exceeds maximum 1048576"
  else accepted "Execution failed" (revm.executeCall ws tx)

def deployContractImpl : Except String RevmResult :=
  if tx.gas.toUInt64 < 100000 then
    .error s!"Deployment requires minimum 100000 gas, got {tx.gas.toUInt64}"
  else if 30000000 < tx.gas.toUInt64 then
    .error s!"Gas limit {tx.gas.toUInt64} exceeds maximum 30000000"
  else if 24576 < tx.data.length then
    .error s!"Bytecode size {tx.data.length} exceeds maximum 24576"
  else if tx.data = [] then .error "Cannot deploy empty bytecode"
  else
    match revm.validateBytecode tx.data with
    | some err => .error ("Bytecode validation failed: " ++ err)
    | none => accepted "Deployment failed" (revm.deployContract ws tx)

/-- `ffi_safe_exec` gives every message the same code, and the result made of it no gas. -/
def ffiSafeExec : Except String RevmResult → RevmResult
  | .ok result => result
  | .error err => revm.createErrorResultWithCode ws tx err .executionFailed

def revmExecuteCall : RevmResult := revm.ffiSafeExec ws tx (revm.executeCallImpl ws tx)

def revmDeployContract : RevmResult := revm.ffiSafeExec ws tx (revm.deployContractImpl ws tx)

def report : RevmResult :=
  if tx.type = .evmContractDeploy then revm.revmDeployContract ws tx
  else revm.revmExecuteCall ws tx

end Revm

def NodeConfig.interpretedBy (cfg : NodeConfig) (revm : Revm) : NodeConfig :=
  { cfg with revm := revm.report }

namespace Revm

variable {revm : Revm} {ws : WorldState} {tx : Transaction}

structure Admits (revm : Revm) (ws : WorldState) (tx : Transaction) : Prop where
  recorded : revm.checkAndRecord ws tx.gas.toUInt64 = none
  size : ¬ (if tx.type = .evmContractDeploy then 24576 else 1048576) < tx.data.length
  bytecode : tx.type = .evmContractDeploy → revm.validateBytecode tx.data = none

structure Succeeds (revm : Revm) (ws : WorldState) (tx : Transaction) (result : ResultAndState) :
    Prop where
  admits : revm.Admits ws tx
  transacted : revm.transact ws tx = .ok result
  success : result.success = true

theorem transactResult_cases (failed reverted : String) :
    (∃ result, revm.transact ws tx = .ok result ∧ result.success = true ∧
      revm.transactResult ws tx failed reverted =
        ⟨0, true, result.gasUsed, none, revm.lookups ws tx⟩) ∨
    (∀ result, revm.transact ws tx = .ok result → result.success = false) ∧
      (revm.transactResult ws tx failed reverted).success = false := by
  unfold transactResult
  cases answered : revm.transact ws tx with
  | error => exact Or.inr ⟨nofun, rfl⟩
  | ok result =>
  by_cases ended : result.success = true
  · exact Or.inl ⟨result, rfl, ended, if_pos ended⟩
  · refine Or.inr ⟨fun other same => ?_, ?_⟩
    · cases same
      exact Bool.eq_false_iff.mpr ended
    · dsimp only
      rw [if_neg ended]

variable {fallback : String}

theorem accepted_cases {failed reverted : String} :
    (∃ result, revm.transact ws tx = .ok result ∧ result.success = true ∧
      accepted fallback (revm.transactResult ws tx failed reverted) =
        .ok ⟨0, true, result.gasUsed, none, revm.lookups ws tx⟩) ∨
    (∀ result, revm.transact ws tx = .ok result → result.success = false) ∧
      ∃ message, accepted fallback (revm.transactResult ws tx failed reverted) =
        .error message := by
  rcases transactResult_cases failed reverted with ⟨result, ran, success, same⟩ | ⟨fails, unsuccessful⟩
  · exact Or.inl ⟨result, ran, success, by rw [same]; rfl⟩
  · exact Or.inr ⟨fails, _, if_neg (by rw [unsuccessful]; exact Bool.false_ne_true)⟩

inductive Reported (revm : Revm) (ws : WorldState) (tx : Transaction) : RevmResult → Prop where
  | succeeded (result : ResultAndState) (succeeds : revm.Succeeds ws tx result) :
      Reported revm ws tx ⟨0, true, result.gasUsed, none, revm.lookups ws tx⟩
  | failed (message : String) (fails : ∀ result, ¬ revm.Succeeds ws tx result) :
      Reported revm ws tx (revm.createErrorResultWithCode ws tx message .executionFailed)

theorem reported_accepted {first second : String} (admits : revm.Admits ws tx) :
    Reported revm ws tx (revm.ffiSafeExec ws tx
      (accepted fallback (revm.transactResult ws tx first second))) := by
  rcases accepted_cases with ⟨result, ran, success, same⟩ | ⟨fails, message, refused⟩
  · rw [same]
    exact .succeeded result ⟨admits, ran, success⟩
  · rw [refused]
    refine .failed message fun result succeeds => ?_
    cases (fails result succeeds.transacted).symm.trans succeeds.success

theorem report_call (call : tx.type ≠ .evmContractDeploy) (bounded : tx.Bounded) :
    Reported revm ws tx (revm.revmExecuteCall ws tx) := by
  rw [Transaction.Bounded, if_neg call] at bounded
  unfold revmExecuteCall executeCallImpl executeCall
  rw [if_neg bounded.2, if_neg bounded.1]
  by_cases large : 1048576 < tx.data.length
  · rw [if_pos large]
    refine .failed _ fun result succeeds => succeeds.admits.size ?_
    rwa [if_neg call]
  rw [if_neg large]
  cases recorded : revm.checkAndRecord ws tx.gas.toUInt64 with
  | some =>
    refine .failed _ fun result succeeds => ?_
    cases recorded.symm.trans succeeds.admits.recorded
  | none =>
    refine reported_accepted ⟨recorded, ?_, fun deploy => absurd deploy call⟩
    rwa [if_neg call]

theorem report_deployment (deploy : tx.type = .evmContractDeploy) (bounded : tx.Bounded) :
    Reported revm ws tx (revm.revmDeployContract ws tx) := by
  rw [Transaction.Bounded, if_pos deploy] at bounded
  unfold revmDeployContract deployContractImpl deployContract
  rw [if_neg bounded.1, if_neg bounded.2.1]
  by_cases large : 24576 < tx.data.length
  · rw [if_pos large]
    refine .failed _ fun result succeeds => succeeds.admits.size ?_
    rwa [if_pos deploy]
  rw [if_neg large, if_neg bounded.2.2]
  cases valid : revm.validateBytecode tx.data with
  | some =>
    refine .failed _ fun result succeeds => ?_
    cases valid.symm.trans (succeeds.admits.bytecode deploy)
  | none =>
  cases recorded : revm.checkAndRecord ws tx.gas.toUInt64 with
  | some =>
    refine .failed _ fun result succeeds => ?_
    cases recorded.symm.trans succeeds.admits.recorded
  | none =>
    rw [if_neg bounded.1]
    refine reported_accepted ⟨recorded, ?_, fun _ => valid⟩
    rwa [if_pos deploy]

theorem report_cases (revm : Revm) (ws : WorldState) (bounded : tx.Bounded) :
    Reported revm ws tx (revm.report ws tx) := by
  unfold report
  by_cases deploy : tx.type = .evmContractDeploy
  · rw [if_pos deploy]
    exact report_deployment deploy bounded
  · rw [if_neg deploy]
    exact report_call deploy bounded

theorem processResult_report (revm : Revm) (ws : WorldState) (bounded : tx.Bounded) :
    (∃ result, revm.Succeeds ws tx result ∧
      processResult (revm.report ws tx) = (result.gasUsed, none)) ∨
    (∀ result, ¬ revm.Succeeds ws tx result) ∧
      ∃ message, processResult (revm.report ws tx) = (0, some message) := by
  have reported := report_cases revm ws bounded
  generalize revm.report ws tx = report at reported ⊢
  cases reported with
  | succeeded result succeeds =>
    refine Or.inl ⟨result, succeeds, ?_⟩
    have limit : ¬ 30000000 < tx.gas.toUInt64 := by
      unfold Transaction.Bounded at bounded
      split at bounded
      · exact bounded.2.1
      · exact bounded.1
    have within := revm.gas_le ws tx result succeeds.transacted
    have reasonable : ¬ 50000000 < result.gasUsed := by
      rw [UInt64.lt_iff_toNat_lt] at limit ⊢
      rw [UInt64.le_iff_toNat_le] at within
      have thirty : (30000000 : UInt64).toNat = 30000000 := rfl
      have fifty : (50000000 : UInt64).toNat = 50000000 := rfl
      omega
    simp [processResult, reasonable]
  | failed message fails => exact Or.inr ⟨fails, _, rfl⟩

end Revm

end Thrylos
