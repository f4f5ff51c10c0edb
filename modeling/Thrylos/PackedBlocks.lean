import Mathlib.Algebra.Order.BigOperators.Group.List
import Thrylos.ContractRuns
import Thrylos.PackedExecution

/-!
Whether the chosen transactions can be executed one after the other. What is still open at the turn
of one depends on its type.
-/

namespace Thrylos

open EStateM (check_ok_iff)

structure Waiting (cfg : ShardConfig) (acc : Account) (am : Ledger) : Prop where
  settled : am.SettledAt acc.address
  read : ∃ bal, readAccount cfg am acc.address = .ok { acc with balance := bal }

section Runs

variable {cfg : NodeConfig} {tx : Transaction} {txs : List Transaction} {acc : Account}
  {ws after : WorldState}

theorem Waiting.step {value : Transaction} (notFrom : tx.fromAddr ≠ acc.address)
    (ran : executeTransaction cfg tx ws = .ok value after) (waiting : Waiting cfg acc ws.ledger) :
    Waiting cfg acc after.ledger := by
  by_cases paid : tx.type = .transfer ∧ tx.toAddr = acc.address
  · obtain ⟨_, found, settled, credited, _⟩ :=
      executeTransaction_credits waiting.settled paid.1 notFrom paid.2 ran
    obtain ⟨_, read⟩ := waiting.read
    cases found.symm.trans read
    exact ⟨settled, _, credited⟩
  · have kept : Watched acc.address (ws.ledger.accounts.find? acc.address)
        (fun _ => True) (executeTransaction cfg tx ws).final.ledger :=
      executeTransaction_watched notFrom (fun kind same => paid ⟨kind, same⟩)
        (fun _ _ _ => trivial) (fun _ _ _ _ => trivial) ws ⟨waiting.settled, rfl, trivial⟩
    rw [ran] at kept
    refine ⟨kept.settled, ?_⟩
    have same : readAccount cfg after.ledger acc.address = readAccount cfg ws.ledger acc.address :=
      kept.settled.readAccount_congr waiting.settled kept.record
    rw [same]
    exact waiting.read

theorem Waiting.run (others : ∀ tx ∈ txs, tx.fromAddr ≠ acc.address)
    (ran : executeTransactions cfg txs ws = .ok () after) (waiting : Waiting cfg acc ws.ledger) :
    Waiting cfg acc after.ledger := by
  induction txs generalizing ws with
  | nil =>
    cases ran
    exact waiting
  | cons tx _ ih =>
    obtain ⟨_, _, first, later⟩ := bind_ok_iff.mp ran
    exact ih (fun other listed => others other (List.mem_cons_of_mem tx listed)) later
      (waiting.step (others tx List.mem_cons_self) first)

theorem executeTransactions_ok_iff : (∃ after, executeTransactions cfg txs ws = .ok () after) ↔
      ∀ earlier tx later middle, txs = earlier ++ tx :: later →
        executeTransactions cfg earlier ws = .ok () middle → tx.Executes cfg middle := by
  induction txs generalizing ws with
  | nil =>
    refine ⟨fun _ earlier tx later middle split => ?_, fun _ => ⟨ws, rfl⟩⟩
    cases earlier <;> cases split
  | cons first rest ih =>
    constructor
    · rintro ⟨after, ran⟩ earlier tx later middle split reached
      obtain ⟨value, next, ranFirst, ranRest⟩ := bind_ok_iff.mp ran
      cases earlier with
      | nil =>
        cases split
        cases reached
        exact ⟨value, next, ranFirst⟩
      | cons head others =>
        cases split
        obtain ⟨_, _, ranAgain, ranOthers⟩ := bind_ok_iff.mp reached
        cases ranFirst.symm.trans ranAgain
        exact ih.mp ⟨after, ranRest⟩ others tx later middle rfl ranOthers
    · intro turns
      obtain ⟨value, next, ranFirst⟩ := turns [] first rest ws rfl rfl
      obtain ⟨after, ranRest⟩ := ih.mpr fun earlier tx later middle split reached =>
        turns (first :: earlier) tx later middle (congrArg (first :: ·) split)
          (bind_ok_iff.mpr ⟨value, next, ranFirst, reached⟩)
      exact ⟨after, bind_ok_iff.mpr ⟨value, next, ranFirst, ranRest⟩⟩

theorem executes_iff_dispatch : tx.Executes cfg ws ↔
    normalizeTransactionAmounts tx = .ok tx.canonical ∧
      ∃ after, dispatchTransaction cfg tx.canonical ws = .ok () after := by
  constructor
  · rintro ⟨_, after, ran⟩
    obtain ⟨_, _, normalised, finished⟩ := bind_ok_iff.mp ran
    obtain ⟨_, middle, dispatched, _⟩ := bind_ok_iff.mp finished
    cases amounts : normalizeTransactionAmounts tx with
    | error =>
      rw [amounts] at normalised
      cases normalised
    | ok =>
      rw [amounts] at normalised
      cases normalised
      obtain rfl := normalizeTransactionAmounts_ok amounts
      exact ⟨rfl, middle, dispatched⟩
  · rintro ⟨amounts, after, dispatched⟩
    exact ⟨_, after, (executeTransaction_dispatch amounts ..).trans (bind_ok dispatched _)⟩

theorem onLedger_ok_iff {prog : LedgerM Unit} :
    (∃ after, onLedger prog ws = .ok () after) ↔ ∃ am, prog ws.ledger = .ok () am := by
  cases ran : prog ws.ledger with
  | ok _ am =>
    rw [onLedger_ok ran]
    exact ⟨fun _ => ⟨am, rfl⟩, fun _ => ⟨_, rfl⟩⟩
  | error =>
    rw [onLedger_error ran]
    constructor <;> rintro ⟨_, ⟨⟩⟩

theorem consumeNonce_ok_iff {next : WorldM Unit} : (∃ after, (do
      onLedger (consumeNonce tx.canonical)
      next : WorldM Unit) ws = .ok () after) ↔
    storedNonce ws.ledger tx.fromAddr = tx.nonce ∧
      ∃ after, next { ws with ledger := ws.ledger.bumpNonce tx.fromAddr } = .ok () after := by
  by_cases current : storedNonce ws.ledger tx.fromAddr = tx.nonce
  · have consumed : onLedger (consumeNonce tx.canonical) ws =
        .ok () { ws with ledger := ws.ledger.bumpNonce tx.fromAddr } :=
      onLedger_ok (consumeNonce_ok current)
    rw [bind_ok consumed]
    exact ⟨fun exec => ⟨current, exec⟩, fun exec => exec.2⟩
  · obtain ⟨err, stale⟩ : ∃ err, consumeNonce tx.canonical ws.ledger =
        .error err ws.ledger := consumeNonce_error current
    rw [bind_error (onLedger_error stale)]
    constructor
    · rintro ⟨_, ⟨⟩⟩
    · exact fun exec => absurd exec.1 current

end Runs

structure GovernanceUnchecked (cfg : NodeConfig) (tx : Transaction) (sender : Account)
    (ws : WorldState) : Prop where
  amounts : normalizeTransactionAmounts tx = .ok tx.canonical
  recorded : storedNonce ws.ledger tx.fromAddr = tx.nonce
  accepted : (cfg.governance { ws with ledger := ws.ledger.bumpNonce tx.fromAddr }
    tx.canonical).1 = .ok ()
  funded : tx.gasCostBig ≤ parseBigInt sender.balance
  valid : validateAccount sender = .ok ()

section Governance

variable {cfg : NodeConfig} {tx : Transaction} {sender : Account} {ws : WorldState}

theorem applyGovernanceGasAndNonce_ok_iff {cfg : ShardConfig} {am : Ledger}
    (read : readAccount cfg am tx.fromAddr = .ok sender) :
    (∃ after, applyGovernanceGasAndNonce cfg tx am = .ok () after) ↔
      tx.gasCostBig ≤ parseBigInt sender.balance ∧ validateAccount sender = .ok () := by
  constructor
  · rintro ⟨_, ran⟩
    by_contra uncovered
    obtain ⟨_, _, failed⟩ := applyGovernanceGasAndNonce_uncovered fun other covers => by
      cases read.symm.trans covers.read
      exact uncovered ⟨covers.covered, covers.valid⟩
    cases ran.symm.trans failed
  · rintro ⟨covered, valid⟩
    obtain ⟨_, _, applied⟩ := applyGovernanceGasAndNonce_coversFee ⟨read, covered, valid⟩
    exact ⟨_, applied⟩

theorem executes_iff_governance (kind : tx.type.isGovernance = true)
    (read : readAccount cfg ws.ledger tx.fromAddr = .ok sender) :
    tx.Executes cfg ws ↔ GovernanceUnchecked cfg tx sender ws := by
  have kindNow : tx.canonical.type.isGovernance = true := kind
  have bumped : readAccount cfg (ws.ledger.bumpNonce tx.fromAddr)
      tx.canonical.fromAddr = .ok sender := by
    rw [readAccount_bumpNonce]
    exact read
  have applied := applyGovernanceGasAndNonce_ok_iff bumped
  rw [canonical_gasCostBig] at applied
  rw [executes_iff_dispatch, dispatchTransaction_governance kindNow, consumeNonce_ok_iff]
  unfold executeGovernance
  rw [bind_ok get_ok]
  dsimp only
  rw [bind_ok (set_ok _)]
  cases ok : (cfg.governance
      { ws with ledger := ws.ledger.bumpNonce tx.fromAddr } tx.canonical).1 with
  | error =>
    rw [check_error]
    constructor
    · rintro ⟨_, _, _, ⟨⟩⟩
    · intro unchecked
      cases ok.symm.trans unchecked.accepted
  | ok =>
    rw [check_ok, onLedger_ok_iff]
    constructor
    · rintro ⟨amounts, recorded, ran⟩
      obtain ⟨funded, valid⟩ := applied.mp ran
      exact ⟨amounts, recorded, ok, funded, valid⟩
    · intro unchecked
      exact ⟨unchecked.amounts, unchecked.recorded, applied.mpr ⟨unchecked.funded, unchecked.valid⟩⟩

end Governance

structure CallUnchecked (cfg : NodeConfig) (tx : Transaction) (sender : Account)
    (ws : WorldState) : Prop where
  amounts : normalizeTransactionAmounts tx = .ok tx.canonical
  chain : checkChainID cfg tx = .ok ()
  gas : checkCallGas tx = .ok ()
  funded : tx.contractCost ≤ parseBigInt sender.balance
  runs : ∃ gasUsed after, executeCall cfg tx.canonical tx.nonce
    (ignoreFailure (updateBalance cfg tx.fromAddr
      ((parseBigInt sender.balance : Int) - tx.contractCost)) (ws.consulted tx.fromAddr)).final =
        .ok (gasUsed, none) after

structure DeployUnchecked (cfg : NodeConfig) (tx : Transaction) (sender : Account)
    (ws : WorldState) : Prop where
  amounts : normalizeTransactionAmounts tx = .ok tx.canonical
  chain : checkChainID cfg tx = .ok ()
  funded : tx.contractCost ≤ parseBigInt sender.balance
  runs : ∃ reserved gasUsed after, updateBalance cfg tx.fromAddr
      ((parseBigInt sender.balance : Int) - tx.contractCost) (ws.consulted tx.fromAddr) =
        .ok () reserved ∧
    deployContract cfg tx.canonical reserved = .ok (gasUsed, none) after

section Contracts

variable {cfg : NodeConfig} {tx : Transaction} {sender : Account} {ws : WorldState}

theorem executes_iff_contract (contract : tx.type.isEVM = true) : tx.Executes cfg ws ↔
      normalizeTransactionAmounts tx = .ok tx.canonical ∧ ∃ funds reserved gasUsed after,
        reserveContract cfg tx.canonical ws = .ok funds reserved ∧
        interpret cfg tx.canonical reserved = .ok (gasUsed, none) after := by
  have canonical : tx.canonical.type.isEVM = true := contract
  rw [executes_iff_dispatch, dispatchTransaction_contract canonical, and_congr_right_iff]
  intro _
  constructor
  · rintro ⟨_, ran⟩
    obtain ⟨funds, reserved, reserves, rest⟩ := bind_ok_iff.mp ran
    obtain ⟨⟨gasUsed, failure⟩, after, runs, settles⟩ := bind_ok_iff.mp rest
    cases failure with
    | none => exact ⟨funds, reserved, gasUsed, after, reserves, runs⟩
    | some => exact absurd settles (settleContract_failed _ _ _ _ _)
  · rintro ⟨funds, reserved, gasUsed, after, reserves, runs⟩
    obtain ⟨refunded, same⟩ := refund_then tx.canonical.fromAddr
      (gasRefund tx.canonical funds.2 gasUsed) (pure ()) after
    rw [bind_ok reserves, bind_ok runs]
    unfold settleContract
    split <;> exact ⟨refunded, same⟩

variable (settled : ws.ledger.SettledAt tx.fromAddr)
  (read : readAccount cfg ws.ledger tx.fromAddr = .ok sender) (nonce : sender.nonce = tx.nonce)

include settled read nonce

theorem checkEVMFunds_ok_iff (purpose : String) {funds : Nat × Nat × Int} {after : WorldState} :
    checkEVMFunds cfg tx.canonical purpose ws = .ok funds after ↔
      tx.contractCost ≤ parseBigInt sender.balance ∧
      funds = (parseBigInt tx.amount, parseBigInt tx.gasPrice,
        (parseBigInt sender.balance : Int) - tx.contractCost) ∧ after = ws.consulted tx.fromAddr := by
  have outcome := checkEVMFunds_outcome cfg tx ws purpose
  generalize checkEVMFunds cfg tx.canonical purpose ws = result at outcome
  cases outcome with
  | unread _ _ refused => cases refused.symm.trans read
  | stale _ _ found stale =>
    cases read.symm.trans found
    exact absurd nonce.symm stale
  | unpaid _ _ found _ short =>
    cases read.symm.trans found
    rcases short with ⟨_, unparsed⟩ | short
    · rw [← (settled.canonical read).fields.1, parseUint256Bytes_encode (parseBigInt_lt _)] at unparsed
      cases unparsed
    · exact iff_of_false (by rintro ⟨⟩) fun covered => absurd covered.1 (by omega)
  | covered _ found _ _ covered =>
    cases read.symm.trans found
    constructor
    · rintro ⟨⟩
      exact ⟨covered, rfl, rfl⟩
    · rintro ⟨_, rfl, rfl⟩
      rfl

theorem executes_iff_call (kind : tx.type = .evmContractCall) :
    tx.Executes cfg ws ↔ CallUnchecked cfg tx sender ws := by
  have kindNow : tx.canonical.type = .evmContractCall := kind
  rw [executes_iff_contract (by rw [kind]; rfl)]
  simp only [reserveContract, interpret, kindNow, reduceCtorEq, if_false, reserveCall]
  constructor
  · rintro ⟨amounts, _, _, gasUsed, after, reserves, runs⟩
    obtain ⟨_, chain, rest⟩ := check_ok_iff.mp reserves
    obtain ⟨_, gas, rest⟩ := check_ok_iff.mp rest
    obtain ⟨_, _, funded, rest⟩ := bind_ok_iff.mp rest
    obtain ⟨covered, rfl, rfl⟩ := (checkEVMFunds_ok_iff settled read nonce _).mp funded
    obtain ⟨_, _, paid, ⟨⟩⟩ := bind_ok_iff.mp rest
    cases (ignoreFailure_ok _ _).symm.trans paid
    exact ⟨amounts, chain, gas, covered, gasUsed, after, runs⟩
  · rintro ⟨amounts, chain, gas, covered, gasUsed, after, runs⟩
    refine ⟨amounts, (parseBigInt tx.amount, parseBigInt tx.gasPrice), _, gasUsed, after, ?_, runs⟩
    have funded := (checkEVMFunds_ok_iff settled read nonce "execution").mpr ⟨covered, rfl, rfl⟩
    exact check_ok_iff.mpr ⟨(), chain, check_ok_iff.mpr
      ⟨(), gas, (bind_ok funded _).trans (bind_ok (ignoreFailure_ok _ _) _)⟩⟩

theorem executes_iff_deploy (kind : tx.type = .evmContractDeploy) :
    tx.Executes cfg ws ↔ DeployUnchecked cfg tx sender ws := by
  have kindNow : tx.canonical.type = .evmContractDeploy := kind
  rw [executes_iff_contract (by rw [kind]; rfl)]
  simp only [reserveContract, interpret, kindNow, if_true, reserveDeployment]
  constructor
  · rintro ⟨amounts, _, reserved, gasUsed, after, reserves, runs⟩
    obtain ⟨_, chain, rest⟩ := check_ok_iff.mp reserves
    obtain ⟨_, _, funded, rest⟩ := bind_ok_iff.mp rest
    obtain ⟨covered, rfl, rfl⟩ := (checkEVMFunds_ok_iff settled read nonce _).mp funded
    obtain ⟨_, _, paid, ⟨⟩⟩ := bind_ok_iff.mp rest
    exact ⟨amounts, chain, covered, reserved, gasUsed, after, adaptExcept_ok_iff.mp paid, runs⟩
  · rintro ⟨amounts, chain, covered, reserved, gasUsed, after, paid, runs⟩
    refine ⟨amounts, (parseBigInt tx.amount, parseBigInt tx.gasPrice), reserved, gasUsed, after, ?_,
      runs⟩
    have funded := (checkEVMFunds_ok_iff settled read nonce "deployment").mpr ⟨covered, rfl, rfl⟩
    exact check_ok_iff.mpr ⟨(), chain, (bind_ok funded _).trans (adapt_ok paid _)⟩

end Contracts

def Ready (cfg : NodeConfig) (tx : Transaction) (sender : Account) (ws : WorldState) : Prop :=
  match tx.type with
  | .transfer | .stake | .unstake | .delegate | .undelegate | .claimRewards =>
    Unchecked cfg tx sender ws
  | .governancePropose | .governanceVote | .governanceFinalize =>
    GovernanceUnchecked cfg tx sender ws
  | .evmContractCall => CallUnchecked cfg tx sender ws
  | .evmContractDeploy => DeployUnchecked cfg tx sender ws
  | .unknown _ => False

section Turn

variable {cfg : NodeConfig} {tx : Transaction} {old sender : Account} {ws : WorldState}
  {view : View}

theorem executes_iff_ready (passed : Passed view tx old) (settled : ws.ledger.SettledAt tx.fromAddr)
    (read : readAccount cfg ws.ledger tx.fromAddr = .ok sender)
    (waited : sender = { old with balance := sender.balance }) :
    tx.Executes cfg ws ↔ Ready cfg tx sender ws := by
  have nonce : sender.nonce = tx.nonce := by
    rw [waited]
    exact checkNonce_ok passed.nonce
  unfold Ready
  cases kind : tx.type with
  | unknown =>
    exact iff_of_false (fun ⟨_, _, ran⟩ => executeTransaction_unknown kind ran) id
  | evmContractCall => exact executes_iff_call settled read nonce kind
  | evmContractDeploy => exact executes_iff_deploy settled read nonce kind
  | governancePropose | governanceVote | governanceFinalize =>
    exact executes_iff_governance (by rw [kind]; rfl) read
  | transfer | stake | unstake | delegate | undelegate | claimRewards =>
    exact executes_iff_unchecked (by rw [kind]; rfl) passed.gas passed.nonce passed.means settled
      read waited

def ReadyIn (cfg : NodeConfig) (tx : Transaction) (ws : WorldState) : Prop :=
  ∃ sender, readAccount cfg ws.ledger tx.fromAddr = .ok sender ∧ Ready cfg tx sender ws

theorem Waiting.executes_iff (passed : Passed view tx old) (address : old.address = tx.fromAddr)
    (waiting : Waiting cfg old ws.ledger) : tx.Executes cfg ws ↔ ReadyIn cfg tx ws := by
  obtain ⟨bal, found⟩ := waiting.read
  have read : readAccount cfg ws.ledger tx.fromAddr = .ok { old with balance := bal } := by
    rw [← address]
    exact found
  have settled : ws.ledger.SettledAt tx.fromAddr := address ▸ waiting.settled
  rw [executes_iff_ready passed settled read rfl]
  constructor
  · exact fun ready => ⟨_, read, ready⟩
  · rintro ⟨_, found, ready⟩
    cases read.symm.trans found
    exact ready

end Turn

section Addition

variable {cfg : NodeConfig} {txs exec : List Transaction} {acc : Account} {ws after : WorldState}

theorem Waiting.applied (others : ∀ tx ∈ txs, tx.fromAddr ≠ acc.address)
    (ran : applyBlockTransactions cfg txs ws = .ok exec after)
    (waiting : Waiting cfg acc ws.ledger) : Waiting cfg acc after.ledger := by
  induction txs generalizing ws exec with
  | nil =>
    cases ran
    exact waiting
  | cons tx rest ih =>
    obtain ⟨_, _, _, failed⟩ | ⟨middle, first, went⟩ := applyBlockTransactions_cons rest
    · cases failed.symm.trans ran
    · obtain ⟨_, _, later, returned⟩ := bind_ok_iff.mp (went.symm.trans ran)
      cases returned
      have paid : Waiting cfg acc middle.ledger :=
        waiting.step (others tx List.mem_cons_self) first
      exact ih (fun other listed => others other (List.mem_cons_of_mem tx listed)) later paid

theorem applyBlockTransactions_ok_iff :
    (∃ exec after, applyBlockTransactions cfg txs ws = .ok exec after) ↔
      ∀ earlier tx later exec middle, txs = earlier ++ tx :: later →
        applyBlockTransactions cfg earlier ws = .ok exec middle → tx.Executes cfg middle := by
  induction txs generalizing ws with
  | nil =>
    refine ⟨fun _ earlier tx later exec middle split => ?_, fun _ => ⟨[], ws, rfl⟩⟩
    cases earlier <;> cases split
  | cons first rest ih =>
    constructor
    · rintro ⟨_, after, ran⟩ earlier tx later done middle split reached
      obtain ⟨_, _, _, failed⟩ | ⟨next, ranFirst, went⟩ :=
        applyBlockTransactions_cons rest
      · cases failed.symm.trans ran
      obtain ⟨others, ended, ranRest, _⟩ := bind_ok_iff.mp (went.symm.trans ran)
      cases earlier with
      | nil =>
        cases split
        cases reached
        exact ⟨_, next, ranFirst⟩
      | cons head before =>
      cases split
      obtain ⟨_, _, stopped, _⟩ | ⟨again, ranAgain, wentAgain⟩ :=
        applyBlockTransactions_cons before
      · cases stopped.symm.trans ranFirst
      cases ranFirst.symm.trans ranAgain
      obtain ⟨_, _, ranBefore, returned⟩ := bind_ok_iff.mp (wentAgain.symm.trans reached)
      cases returned
      exact ih.mp ⟨others, ended, ranRest⟩ before tx later _ _ rfl ranBefore
    · intro turns
      obtain ⟨_, next, ranFirst⟩ := turns [] first rest [] ws rfl rfl
      have advances : ∀ before, applyBlockTransactions cfg (first :: before) ws = (do
          let others ← applyBlockTransactions cfg before
          return first.canonical :: others) (next.record first.canonical) := by
        intro before
        obtain ⟨_, _, stopped, _⟩ | ⟨_, ranAgain, went⟩ :=
          applyBlockTransactions_cons before
        · cases stopped.symm.trans ranFirst
        · cases ranFirst.symm.trans ranAgain
          exact went
      obtain ⟨_, after, ranRest⟩ := ih.mpr fun earlier tx later done middle split reached =>
        turns (first :: earlier) tx later _ middle (congrArg (first :: ·) split)
          ((advances earlier).trans (bind_ok reached _))
      exact ⟨_, after, (advances rest).trans (bind_ok ranRest _)⟩

theorem addBlock_ok_iff {blk : Block} : (∃ added after, addBlock cfg blk ws = .ok added after) ↔
      validateBlockForAddition cfg ws blk = .ok () ∧
      (∃ fees, canonicalizeUint256Bytes blk.header.totalFees = .ok fees) ∧
      (normalizeValidators ws.validators.entries ws.validators).2 = none ∧
      ∃ exec after, applyBlockTransactions cfg blk.transactions ws = .ok exec after := by
  have outcome := addBlock_outcome cfg blk ws
  have kept : ∀ {exec : List Transaction} {after : WorldState},
      applyBlockTransactions cfg blk.transactions ws = .ok exec after →
      after.validators = ws.validators := by
    intro exec after loop
    have same := congrArg WorldState.validators (applyBlockTransactions_settled loop)
    exact same
  generalize addBlock cfg blk ws = result at outcome
  cases outcome with
  | refused _ _ why => simp [why]
  | halted _ _ _ _ loop => simp [loop]
  | unsaved _ _ _ _ _ fees => simp [fees]
  | uncommitted _ _ _ _ _ _ loop _ failed =>
    rw [kept loop] at failed
    simp [failed]
  | added _ _ _ ok loop norm committed =>
    rw [kept loop] at committed
    simp [ok, norm, committed, loop]

end Addition

theorem Passed.gas_positive {view : View} {tx : Transaction} {sender : Account}
    (passed : Passed view tx sender) : 0 ≤ tx.gas.toInt := by
  have checked := passed.positive
  unfold checkPositive at checked
  by_cases free : tx.gas ≤ 0
  · rw [if_pos free] at checked
    cases checked
  · rw [Int64.not_le, Int64.lt_iff_toInt_lt, Int64.toInt_zero] at free
    omega

section Selection

variable {cfg : NodeConfig} {ws : WorldState} {packing : Packing}
  {earlier later : List Transaction} {tx : Transaction}

theorem Packed.turn (packed : Packed cfg (readAccount cfg ws.ledger) packing)
    (coherent : ws.ledger.Coherent) (split : packing.selectedTxs = earlier ++ tx :: later) :
    ∃ old, Passed (readAccount cfg ws.ledger) tx old ∧
      old.address = tx.fromAddr ∧ (∀ other ∈ earlier, other.fromAddr ≠ old.address) ∧
      Waiting cfg old ws.ledger := by
  obtain ⟨old, passed⟩ := packed.passed tx (by simp [split])
  have address : old.address = tx.fromAddr := readAccount_address passed.read
  have senders := packed.senders
  rw [split, List.map_append, List.nodup_append] at senders
  refine ⟨old, passed, address, ?_, ?_, old.balance,
    (congrArg (readAccount cfg ws.ledger) address).trans passed.read⟩
  · intro other listed same
    exact senders.2.2 _ (List.mem_map_of_mem listed) _ List.mem_cons_self (same.trans address)
  · exact fun acc cached => coherent _ acc List.not_mem_nil cached

theorem Packed.executes_iff (packed : Packed cfg (readAccount cfg ws.ledger) packing)
    (coherent : ws.ledger.Coherent) :
    (∃ after, executeTransactions cfg packing.selectedTxs ws = .ok () after) ↔
      ∀ earlier tx later middle, packing.selectedTxs = earlier ++ tx :: later →
        executeTransactions cfg earlier ws = .ok () middle → ReadyIn cfg tx middle := by
  rw [executeTransactions_ok_iff]
  refine forall₄_congr fun earlier tx later middle => forall₂_congr fun split reached => ?_
  obtain ⟨_, passed, address, others, waiting⟩ := packed.turn coherent split
  exact (waiting.run others reached).executes_iff passed address

theorem Packed.within_limits (packed : Packed cfg (readAccount cfg ws.ledger) packing) :
    ((packing.selectedTxs.length : Int) ≤ cfg.maxTxPerBlock ∧
        (packing.selectedTxs.map (·.gas.toInt)).sum ≤ cfg.maxBlockSize.toInt) ↔
      0 ≤ cfg.maxTxPerBlock ∧ 0 ≤ cfg.maxBlockSize := by
  have positive : 0 ≤ (packing.selectedTxs.map (·.gas.toInt)).sum := by
    apply List.sum_nonneg
    intro gas listed
    obtain ⟨tx, mem, rfl⟩ := List.mem_map.mp listed
    obtain ⟨_, passed⟩ := packed.passed tx mem
    exact passed.gas_positive
  constructor
  · rintro ⟨count, gas⟩
    refine ⟨by omega, ?_⟩
    rw [Int64.le_iff_toInt_le, Int64.toInt_zero]
    omega
  · rintro ⟨count, gas⟩
    by_cases none : packing.selectedTxs = []
    · rw [Int64.le_iff_toInt_le, Int64.toInt_zero] at gas
      rw [none]
      exact ⟨count, gas⟩
    · have limit := packed.limit none
      rw [Int64.le_iff_toInt_le, ← packed.gas] at limit
      exact ⟨packed.count none, limit⟩

theorem Packed.added_iff (packed : Packed cfg (readAccount cfg ws.ledger) packing)
    (coherent : ws.ledger.Coherent) :
    (∃ exec after, applyBlockTransactions cfg packing.selectedTxs ws = .ok exec after) ↔
      ∀ earlier tx later exec middle, packing.selectedTxs = earlier ++ tx :: later →
        applyBlockTransactions cfg earlier ws = .ok exec middle → ReadyIn cfg tx middle := by
  rw [applyBlockTransactions_ok_iff]
  refine forall₅_congr fun earlier tx later exec middle => forall₂_congr fun split reached => ?_
  obtain ⟨_, passed, address, others, waiting⟩ := packed.turn coherent split
  exact (waiting.applied others reached).executes_iff passed address

end Selection

/-- What was chosen stays within the limits and can be executed, or added as a block, exactly when
each transaction is ready at its turn. -/
theorem packed_block_applies (cfg : NodeConfig) (minGasPrice : Int) (sortedTxs : List Transaction)
    (ws : WorldState) (agrees : ws.ledger.Agrees cfg) : ∃ selectedTxs excludedTxs after,
      packTransactions cfg minGasPrice sortedTxs ws = .ok (selectedTxs, excludedTxs) after ∧
      (((selectedTxs.length : Int) ≤ cfg.maxTxPerBlock ∧
          (selectedTxs.map (·.gas.toInt)).sum ≤ cfg.maxBlockSize.toInt ∧ selectedTxs.Nodup ∧
          ∃ final, executeTransactions cfg selectedTxs ws = .ok () final) ↔
        0 ≤ cfg.maxTxPerBlock ∧ 0 ≤ cfg.maxBlockSize ∧
          ∀ earlier tx later middle, selectedTxs = earlier ++ tx :: later →
            executeTransactions cfg earlier ws = .ok () middle → ReadyIn cfg tx middle) ∧
      ∀ blk : Block, blk.transactions = selectedTxs →
        ((∃ added final, addBlock cfg blk after = .ok added final) ↔
          validateBlockForAddition cfg after blk = .ok () ∧
          (∃ fees, canonicalizeUint256Bytes blk.header.totalFees = .ok fees) ∧
          (normalizeValidators after.validators.entries after.validators).2 = none ∧
          ∀ earlier tx later exec middle, selectedTxs = earlier ++ tx :: later →
            applyBlockTransactions cfg earlier after = .ok exec middle →
            ReadyIn cfg tx middle) := by
  obtain ⟨packing, after, chose, looked, packed⟩ :=
    packTransactions_packed minGasPrice agrees.coherent sortedTxs
  refine ⟨packing.selectedTxs, packing.excludedTxs, after, chose, ?_, ?_⟩
  · have limits := packed.within_limits
    have runs := packed.executes_iff agrees.coherent
    constructor
    · rintro ⟨count, gas, _, ran⟩
      obtain ⟨countLimit, gasLimit⟩ := limits.mp ⟨count, gas⟩
      exact ⟨countLimit, gasLimit, runs.mp ran⟩
    · rintro ⟨countLimit, gasLimit, ready⟩
      obtain ⟨count, gas⟩ := limits.mpr ⟨countLimit, gasLimit⟩
      exact ⟨count, gas, packed.senders.of_map, runs.mpr ready⟩
  · intro blk same
    -- The state after the choice reads every account as the state before it.
    rw [← looked.view agrees.coherent cfg] at packed
    rw [addBlock_ok_iff, same, packed.added_iff looked.coherent]

theorem packed_transfer_ready :
    (sampleTip [sampleAccount 97 [1, 0, 0]]).ledger.Agrees sampleConfig ∧
      ReadyIn sampleConfig (sampleTransaction .transfer [1] 0)
        (sampleTip [sampleAccount 97 [1, 0, 0]]) := by
  have agrees : (sampleTip [sampleAccount 97 [1, 0, 0]]).ledger.Agrees sampleConfig :=
    agrees_of_unused _ rfl rfl (by decide)
  obtain ⟨_, _, _, chose, applies, _⟩ := packed_block_applies sampleConfig 0
    [sampleTransaction .transfer [1] 0] (sampleTip [sampleAccount 97 [1, 0, 0]]) agrees
  have picked : (packTransactions sampleConfig 0 [sampleTransaction .transfer [1] 0]
      (sampleTip [sampleAccount 97 [1, 0, 0]])).value?.map Prod.fst =
        some [sampleTransaction .transfer [1] 0] := by
    decide +kernel
  rw [chose] at picked
  cases picked
  have exec : (executeTransactions sampleConfig [sampleTransaction .transfer [1] 0]
      (sampleTip [sampleAccount 97 [1, 0, 0]])).value?.isSome = true := by
    decide +kernel
  obtain ⟨_, ran⟩ := EStateM.Result.ok_of_value? exec
  exact ⟨agrees, (applies.mp ⟨by decide, by decide, by simp, _, ran⟩).2.2 [] _ [] _ rfl rfl⟩

def sampleStaker : Account :=
  { sampleAccount 97 [1, 0, 0] with stakedAmount := [5] }

/-- The stake covers the amount, so the undelegation is chosen; there is nothing to undelegate. -/
theorem packed_undelegation_fails : (sampleTip [sampleStaker]).ledger.Agrees sampleConfig ∧
    ∃ after, packTransactions sampleConfig 0 [sampleTransaction .undelegate [5] 0]
        (sampleTip [sampleStaker]) = .ok ([sampleTransaction .undelegate [5] 0], []) after ∧
      (∃ err final, executeTransactions sampleConfig [sampleTransaction .undelegate [5] 0]
        (sampleTip [sampleStaker]) = .error err final) ∧ validateBlockForAddition sampleConfig after
        (sampleBlock 1 [7] [8] [sampleTransaction .undelegate [5] 0]) = .ok () ∧
      ∃ err final, addBlock sampleConfig
        (sampleBlock 1 [7] [8] [sampleTransaction .undelegate [5] 0]) after = .error err final := by
  refine ⟨agrees_of_unused _ rfl rfl (by decide), ?_⟩
  have picked : (packTransactions sampleConfig 0 [sampleTransaction .undelegate [5] 0]
      (sampleTip [sampleStaker])).value? = some ([sampleTransaction .undelegate [5] 0], []) := by
    decide +kernel
  have failed : (executeTransactions sampleConfig [sampleTransaction .undelegate [5] 0]
      (sampleTip [sampleStaker])).failed?.any (fun _ => true) = true := by
    decide +kernel
  have checked : validateBlockForAddition sampleConfig (packTransactions sampleConfig 0
      [sampleTransaction .undelegate [5] 0] (sampleTip [sampleStaker])).final
        (sampleBlock 1 [7] [8] [sampleTransaction .undelegate [5] 0]) = .ok () := by
    decide +kernel
  have refused : (addBlock sampleConfig
      (sampleBlock 1 [7] [8] [sampleTransaction .undelegate [5] 0]) (packTransactions sampleConfig 0
        [sampleTransaction .undelegate [5] 0] (sampleTip [sampleStaker])).final).failed?.any
          (fun _ => true) = true := by
    decide +kernel
  obtain ⟨err, final, exec, _⟩ := EStateM.Result.exists_of_failed? failed
  obtain ⟨message, last, added, _⟩ := EStateM.Result.exists_of_failed? refused
  exact ⟨_, EStateM.Result.eq_ok_of_value? picked, ⟨err, final, exec⟩, checked,
    message, last, added⟩

end Thrylos
