import Thrylos.AccountWatch
import Thrylos.Packing
import Thrylos.SafeMath

/-!
What the chosen transactions are worth when they are executed in turn. No sender has two of them, so
what `ValidateExecution` found about a sender still holds at its turn.
-/

namespace Thrylos

open EStateM (Stays)

structure Consulted (start ws : WorldState) : Prop where
  same : ws = { start with ledger := ws.ledger }
  coherent : ws.ledger.Coherent
  accounts : ws.ledger.accounts = start.ledger.accounts
  nonces : ws.ledger.nonces = start.ledger.nonces

namespace Consulted

variable {cfg : NodeConfig} {start ws : WorldState}

theorem refl (coherent : ws.ledger.Coherent) : Consulted ws ws := ⟨rfl, coherent, rfl, rfl⟩

theorem load (looked : Consulted start ws) (addr : Address) :
    Consulted start { ws with ledger := ws.ledger.load addr } where
  same := by
    rw [looked.same]
  coherent := looked.coherent.load addr
  accounts := load_accounts.trans looked.accounts
  nonces := load_nonces.trans looked.nonces

theorem view (looked : Consulted start ws) (coherent : start.ledger.Coherent)
    (cfg : ShardConfig) : readAccount cfg ws.ledger = readAccount cfg start.ledger := by
  rw [readAccount_recordView looked.coherent, readAccount_recordView coherent, looked.accounts]

theorem getNonce (cfg : NodeConfig) (addr : Address) :
    Stays (Consulted start) (getNonce cfg addr) :=
  (stays_getAccount fun _ looked => looked.load addr).seq fun _ => .skip _

end Consulted

structure Passed (view : View) (tx : Transaction) (sender : Account) : Prop where
  positive : checkPositive tx = .ok ()
  gas : checkGasLimit tx = .ok ()
  read : view tx.fromAddr = .ok sender
  nonce : checkNonce tx sender = .ok ()
  means : checkMeans tx sender = .ok ()

theorem validateExecution_cases (cfg : ShardConfig) (tx : Transaction) (am : Ledger) :
    (∃ err, validateExecution cfg tx am = .error err am) ∨
    (∃ err, validateExecution cfg tx am = .error err (am.load tx.fromAddr)) ∨
    ∃ sender, Passed (readAccount cfg am) tx sender ∧
      validateExecution cfg tx am = .ok () (am.load tx.fromAddr) := by
  unfold validateExecution
  cases positive : checkPositive tx with
  | error => exact .inl ⟨_, check_error⟩
  | ok =>
  rw [check_ok]
  cases read : readAccount cfg am tx.fromAddr with
  | error =>
    exact .inl ⟨_, adapt_error (getAccount_error read)⟩
  | ok sender =>
  rw [adapt_ok (getAccount_ok read)]
  right
  cases nonce : checkNonce tx sender with
  | error => exact .inl ⟨_, check_error⟩
  | ok =>
  rw [check_ok]
  cases gas : checkGasLimit tx with
  | error => exact .inl ⟨_, check_error⟩
  | ok =>
  rw [check_ok]
  cases means : checkMeans tx sender with
  | error => exact .inl ⟨_, ofExcept_error rfl⟩
  | ok => exact .inr ⟨sender, ⟨positive, gas, read, nonce, means⟩, ofExcept_ok rfl⟩

structure Packed (cfg : NodeConfig) (view : View) (packing : Packing) : Prop where
  count : packing.selectedTxs ≠ [] → (packing.selectedTxs.length : Int) ≤ cfg.maxTxPerBlock
  gas : (packing.selectedTxs.map (·.gas.toInt)).sum = packing.totalGasUsed.toInt
  limit : packing.selectedTxs ≠ [] → packing.totalGasUsed ≤ cfg.maxBlockSize
  passed : ∀ tx ∈ packing.selectedTxs, ∃ sender, Passed view tx sender
  senders : (packing.selectedTxs.map (·.fromAddr)).Nodup
  nonces : ∀ tx ∈ packing.selectedTxs, packing.expectedNonce tx.fromAddr = tx.nonce + 1

namespace Packed

variable {cfg : NodeConfig} {view : View} {packing : Packing} {tx : Transaction}

theorem empty (packing : Packing) (none : packing.selectedTxs = [])
    (unused : packing.totalGasUsed = 0) : Packed cfg view packing where
  count filled := absurd none filled
  gas := by
    rw [none, unused]
    rfl
  limit filled := absurd none filled
  passed tx listed := by
    rw [none] at listed
    cases listed
  senders := by
    rw [none]
    exact List.nodup_nil
  nonces tx listed := by
    rw [none] at listed
    cases listed

theorem exclude (packed : Packed cfg view packing) (tx : Transaction) :
    Packed cfg view (packing.exclude tx) :=
  { packed with }

variable {sender : Account}

theorem new_sender (packed : Packed cfg view packing)
    (expected : tx.nonce = packing.expectedNonce tx.fromAddr) (passed : Passed view tx sender) :
    ∀ earlier ∈ packing.selectedTxs, earlier.fromAddr ≠ tx.fromAddr := by
  intro earlier listed same
  obtain ⟨_, otherPassed⟩ := packed.passed earlier listed
  have read := otherPassed.read
  rw [same, passed.read] at read
  cases read
  have next := packed.nonces earlier listed
  rw [same, ← expected, ← checkNonce_ok passed.nonce, checkNonce_ok otherPassed.nonce] at next
  have nonzero : earlier.nonce ≠ earlier.nonce + 1 := by
    intro equal
    have value := congrArg UInt64.toNat equal
    rw [UInt64.toNat_add] at value
    have one : UInt64.toNat 1 = 1 := rfl
    omega
  exact nonzero next

theorem select {newTotal : Int64} (packed : Packed cfg view packing)
    (room : (packing.selectedTxs.length : Int) < cfg.maxTxPerBlock)
    (added : safeAdd packing.totalGasUsed tx.gas = .ok newTotal)
    (fits : newTotal ≤ cfg.maxBlockSize) (expected : tx.nonce = packing.expectedNonce tx.fromAddr)
    (passed : Passed view tx sender) : Packed cfg view (packing.select tx newTotal) where
  count _ := by
    have grown : (packing.select tx newTotal).selectedTxs.length =
        packing.selectedTxs.length + 1 := List.length_append
    omega
  gas := by
    change ((packing.selectedTxs ++ [tx]).map (·.gas.toInt)).sum = newTotal.toInt
    rw [List.map_append, List.sum_append, packed.gas, (safeAdd_exact _ _).value _ added]
    simp
  limit _ := fits
  passed other listed := by
    rcases List.mem_append.mp listed with earlier | last
    · exact packed.passed other earlier
    · rw [List.mem_singleton] at last
      subst last
      exact ⟨sender, passed⟩
  senders := by
    change ((packing.selectedTxs ++ [tx]).map (·.fromAddr)).Nodup
    rw [List.map_append, List.nodup_append]
    refine ⟨packed.senders, List.nodup_singleton _, ?_⟩
    intro addr listed other last same
    obtain ⟨earlier, mem, rfl⟩ := List.mem_map.mp listed
    rw [List.map_singleton, List.mem_singleton] at last
    exact packed.new_sender expected passed earlier mem (same.trans last)
  nonces other listed := by
    unfold Packing.expectedNonce Packing.select
    rcases List.mem_append.mp listed with earlier | last
    · have ne := packed.new_sender expected passed other earlier
      rw [KeyedMap.find?_insert, if_neg (Ne.symm ne)]
      exact packed.nonces other earlier
    · rw [List.mem_singleton] at last
      subst last
      rw [KeyedMap.find?_insert, if_pos rfl, ← expected]

end Packed

section Packing

variable {cfg : NodeConfig} {start ws : WorldState} {packing : Packing}

theorem collectNonces_looked (cfg : NodeConfig) (packing : Packing) (looked : Consulted start ws)
    (sortedTxs : List Transaction) :
    ∃ collected after, collectNonces cfg packing sortedTxs ws = .ok collected after ∧
      Consulted start after ∧ collected.selectedTxs = packing.selectedTxs ∧
      collected.totalGasUsed = packing.totalGasUsed := by
  induction sortedTxs generalizing packing ws with
  | nil => exact ⟨packing, ws, rfl, looked, rfl, rfl⟩
  | cons tx _ ih =>
    unfold collectNonces
    split
    · exact ih _ looked
    have reached := Consulted.getNonce cfg tx.fromAddr ws looked
    cases ran : getNonce cfg tx.fromAddr ws with
    | ok =>
      rw [ran] at reached
      rw [bind_ok (attempt_ok ran)]
      exact ih _ reached
    | error =>
      rw [ran] at reached
      rw [bind_ok (attempt_error ran)]
      exact ih _ reached

theorem packTransaction_packed (minGasPrice : Int) (tx : Transaction)
    (coherent : start.ledger.Coherent) (looked : Consulted start ws)
    (packed : Packed cfg (readAccount cfg start.ledger) packing) :
    ∃ next after, packTransaction cfg minGasPrice packing tx ws = .ok next after ∧
      Consulted start after ∧ Packed cfg (readAccount cfg start.ledger) next := by
  have excluded : ∀ after, Consulted start after →
      ∃ next final, (pure (packing.exclude tx) : WorldM Packing) after = .ok next final ∧
        Consulted start final ∧ Packed cfg (readAccount cfg start.ledger) next :=
    fun after reached => ⟨_, after, rfl, reached, packed.exclude tx⟩
  unfold packTransaction
  split
  · exact excluded ws looked
  rename_i full
  cases added : safeAdd packing.totalGasUsed tx.gas with
  | error => exact excluded ws looked
  | ok newTotal =>
  dsimp only
  split
  · exact excluded ws looked
  rename_i beyond
  split
  · exact excluded ws looked
  rename_i unexpected
  split
  · exact excluded ws looked
  rcases validateExecution_cases cfg tx ws.ledger with
    ⟨_, refused⟩ | ⟨_, refused⟩ | ⟨sender, passed, ok⟩
  · rw [bind_ok (attempt_error (onLedger_error refused))]
    exact excluded _ looked
  · rw [bind_ok (attempt_error (onLedger_error refused))]
    exact excluded _ (looked.load tx.fromAddr)
  · rw [bind_ok (attempt_ok (onLedger_ok ok))]
    rw [looked.view coherent] at passed
    exact ⟨_, _, rfl, looked.load tx.fromAddr, packed.select (Int.not_le.mp full) added
      (Int64.not_lt.mp beyond) (not_not.mp unexpected) passed⟩

theorem packEach_packed (minGasPrice : Int) (coherent : start.ledger.Coherent)
    (looked : Consulted start ws) (sortedTxs : List Transaction)
    (packed : Packed cfg (readAccount cfg start.ledger) packing) :
    ∃ final after, packEach cfg minGasPrice packing sortedTxs ws = .ok final after ∧
      Consulted start after ∧ Packed cfg (readAccount cfg start.ledger) final := by
  induction sortedTxs generalizing packing ws with
  | nil => exact ⟨packing, ws, rfl, looked, packed⟩
  | cons tx rest ih =>
    obtain ⟨_, _, ran, reached, kept⟩ :=
      packTransaction_packed minGasPrice tx coherent looked packed
    unfold packEach
    rw [bind_ok ran]
    exact ih reached kept

theorem packTransactions_packed (minGasPrice : Int) (coherent : start.ledger.Coherent)
    (sortedTxs : List Transaction) :
    ∃ packing after, packTransactions cfg minGasPrice sortedTxs start =
        .ok (packing.selectedTxs, packing.excludedTxs) after ∧ Consulted start after ∧
      Packed cfg (readAccount cfg start.ledger) packing := by
  obtain ⟨collected, _, counted, looked, none, unused⟩ :=
    collectNonces_looked cfg ⟨[], [], 0, KeyedMap.empty⟩ (.refl coherent) sortedTxs
  obtain ⟨packing, after, ran, reached, packed⟩ :=
    packEach_packed minGasPrice coherent looked sortedTxs (Packed.empty collected none unused)
  refine ⟨packing, after, ?_, reached, packed⟩
  unfold packTransactions
  rw [bind_ok counted, bind_ok ran]
  rfl

end Packing

section Means

variable {tx : Transaction} {sender : Account}

def Transaction.cost (tx : Transaction) : Int :=
  match tx.type with
  | .transfer | .stake | .delegate => tx.totalCostBig
  | _ => tx.gasCostBig

def StakeFits (tx : Transaction) (sender : Account) : Prop :=
  match tx.type with
  | .unstake | .undelegate => tx.amountBig ≤ parseBigInt sender.stakedAmount
  | .claimRewards => parseBigInt sender.rewards ≠ 0
  | _ => True

def DelegationFits (tx : Transaction) (sender : Account) : Prop :=
  match tx.type with
  | .delegate => tx.toAddr ≠ []
  | .undelegate => tx.toAddr ≠ [] ∧ tx.amountBig ≤ parseBigInt (delegationRaw sender tx.toAddr)
  | _ => True

@[simp] theorem canonical_cost : tx.canonical.cost = tx.cost := by
  have kind : tx.canonical.type = tx.type := rfl
  simp only [Transaction.cost, kind, canonical_totalCostBig, canonical_gasCostBig]

theorem stakeFits_canonical : StakeFits tx.canonical sender ↔ StakeFits tx sender := by
  have kind : tx.canonical.type = tx.type := rfl
  simp only [StakeFits, kind, canonical_amountBig]

theorem delegationFits_canonical : DelegationFits tx.canonical sender ↔ DelegationFits tx sender := by
  have kind : tx.canonical.type = tx.type := rfl
  have val : tx.canonical.toAddr = tx.toAddr := rfl
  simp only [DelegationFits, kind, val, canonical_amountBig]

theorem checkFunds_ok_iff {purpose : String} {cost : Int} {value : Unit} :
    checkFunds purpose sender cost = .ok value ↔ cost ≤ parseBigInt sender.balance := by
  unfold checkFunds
  by_cases short : (parseBigInt sender.balance : Int) < cost
  · simp [short]
  · simp [short, Int.not_lt.mp short]

theorem checkMeans_ok_iff (native : tx.type.isNative = true) : checkMeans tx sender = .ok () ↔
    tx.cost ≤ parseBigInt sender.balance ∧ StakeFits tx sender := by
  unfold checkMeans Transaction.cost StakeFits
  cases kind : tx.type with
  | transfer | stake | delegate => simp [checkFunds_ok_iff]
  | unstake | undelegate =>
    simp only [Except.bind_ok_iff, checkFunds_ok_iff]
    by_cases short : (parseBigInt sender.stakedAmount : Int) < tx.amountBig
    · simp [short]
    · simp [short, Int.not_lt.mp short, pure, Except.pure]
  | claimRewards =>
    simp only [Except.bind_ok_iff, checkFunds_ok_iff]
    by_cases empty : parseBigInt sender.rewards = 0
    · simp [empty]
    · simp [empty, pure, Except.pure]
  | _ => simp [kind, TransactionType.isNative] at native

theorem nativeChange_accepts_iff (native : tx.type.isNative = true)
    (nonce : checkNonce tx sender = .ok ()) : (∃ changed, nativeChange tx sender = .ok changed) ↔
      tx.cost ≤ parseBigInt sender.balance ∧ StakeFits tx sender ∧ DelegationFits tx sender := by
  unfold nativeChange Transaction.cost StakeFits DelegationFits
  cases kind : tx.type with
  | transfer =>
    simp only [selfTransferChange, transferBalances, nonce, bind, Except.bind]
    by_cases short : (parseBigInt sender.balance : Int) < tx.totalCostBig
    · simp [short]
    · simp [short, Int.not_lt.mp short, pure, Except.pure]
  | stake => simp [stakeChange, Except.exists_ok_unless]
  | unstake => simp [unstakeChange, Except.exists_ok_unless]
  | delegate => simp [delegateChange, Except.exists_ok_unless, and_comm]
  | undelegate =>
    simp only [undelegateChange, Except.exists_ok_unless, Int.not_lt, Except.ok.injEq, exists_eq']
    tauto
  | claimRewards => simp [claimRewardsChange, Except.exists_ok_unless]
  | _ => simp [kind, TransactionType.isNative] at native

end Means

structure Unchecked (cfg : NodeConfig) (tx : Transaction) (sender : Account)
    (ws : WorldState) : Prop where
  amounts : normalizeTransactionAmounts tx = .ok tx.canonical
  recorded : storedNonce ws.ledger tx.fromAddr = tx.nonce
  shard : checkSenderShard cfg tx = .ok ()
  sameShard : tx.type = .transfer → checkSameShard cfg tx = .ok ()
  funded : tx.cost ≤ parseBigInt sender.balance
  delegation : DelegationFits tx sender
  changed : (tx.type = .transfer → tx.toAddr = tx.fromAddr) →
    ∀ changed, nativeChange tx sender = .ok changed → validateAccount changed = .ok ()
  between : tx.type = .transfer → tx.toAddr ≠ tx.fromAddr → validateAccount sender = .ok () ∧
    ∃ receiver norm, readAccount cfg (ws.ledger.load tx.fromAddr) tx.toAddr = .ok receiver ∧
      Updated cfg (receiver.credited tx.amountBig) norm

section Step

variable {cfg : NodeConfig} {tx : Transaction} {sender : Account} {ws : WorldState}

def Account.debited (acc : Account) (cost : Int) : Account :=
  { acc with balance := mustUint256Bytes (parseBigInt acc.balance - cost), nonce := acc.nonce + 1 }

theorem debited_canonical {cost : Int} (canonical : sender.Canonical) :
    (sender.debited cost).Canonical :=
  canonical_of_fields (by simp [Account.debited]) canonical.fields.2.1 canonical.fields.2.2
    (canonical_iff.mp canonical).2

variable {am : Ledger}

theorem executeNative_alone_iff (native : tx.type.isNative = true)
    (alone : tx.type = .transfer → tx.toAddr = tx.fromAddr) {cfg : ShardConfig}
    (canonical : sender.Canonical) (read : readAccount cfg am tx.fromAddr = .ok sender)
    (nonce : checkNonce tx sender = .ok ()) (gas : checkGasLimit tx = .ok ())
    (stake : StakeFits tx sender) : (∃ after, executeNative cfg tx am = .ok () after) ↔
      checkSenderShard cfg tx = .ok () ∧ tx.cost ≤ parseBigInt sender.balance ∧
      DelegationFits tx sender ∧
      ∀ changed, nativeChange tx sender = .ok changed → validateAccount changed = .ok () := by
  have accepts := nativeChange_accepts_iff native nonce
  simp only [(executeNative_sender cfg native alone am).ok_iff]
  constructor
  · rintro ⟨_, _, changed, _, admitted, found, _, ok, updated, rfl⟩
    cases read.symm.trans found
    obtain ⟨funded, _, delegation⟩ := accepts.mp ⟨changed, ok⟩
    have fit := (nativeChange_advances ok).canonical canonical
    refine ⟨admitted.shard, funded, delegation, fun other same => ?_⟩
    cases ok.symm.trans same
    exact ((Updated.iff_of_canonical fit).mp updated).2.1
  · rintro ⟨shard, funded, delegation, valid⟩
    obtain ⟨changed, ok⟩ := accepts.mpr ⟨funded, stake, delegation⟩
    have advances := nativeChange_advances ok
    have updated := (Updated.iff_of_canonical (advances.canonical canonical)).mpr
      ⟨rfl, valid changed ok, advances.address ▸ readAccount_belongs read⟩
    exact ⟨_, sender, changed, changed, ⟨shard, gas⟩, read, nonce, ok, updated, rfl⟩

theorem executeNative_between_iff (kind : tx.type = .transfer) (ne : tx.toAddr ≠ tx.fromAddr)
    {cfg : ShardConfig} (canonical : sender.Canonical)
    (read : readAccount cfg am tx.fromAddr = .ok sender)
    (nonce : checkNonce tx sender = .ok ()) (gas : checkGasLimit tx = .ok ()) :
    (∃ after, executeNative cfg tx am = .ok () after) ↔
      checkSameShard cfg tx = .ok () ∧ checkSenderShard cfg tx = .ok () ∧
      tx.totalCostBig ≤ parseBigInt sender.balance ∧ validateAccount sender = .ok () ∧
      ∃ receiver norm, readAccount cfg (am.load tx.fromAddr) tx.toAddr = .ok receiver ∧
        Updated cfg (receiver.credited tx.amountBig) norm := by
  have valid : validateAccount (sender.debited tx.totalCostBig) = validateAccount sender :=
    validateAccount_congr rfl rfl rfl
  simp only [(executeNative_transfer cfg kind ne am).ok_iff]
  constructor
  · rintro ⟨_, _, receiver, payer, payee, norm, normPayee, ready, updated, updatedReceiver, rfl⟩
    cases read.symm.trans ready.readSender
    obtain ⟨_, covered, balances⟩ := transferBalances_ok_iff.mp ready.balances
    rw [Prod.mk.injEq] at balances
    have debited : payer = sender.debited tx.totalCostBig := by
      rw [ready.sender, balances.1]
      rfl
    have credited : payee = receiver.credited tx.amountBig := by
      rw [ready.receiver, balances.2]
      rfl
    rw [debited, Updated.iff_of_canonical (debited_canonical canonical)] at updated
    exact ⟨ready.sameShard, ready.admitted.shard, covered, updated.2.1, receiver, normPayee,
      ready.readReceiver, credited ▸ updatedReceiver⟩
  · rintro ⟨sameShard, shard, covered, senderValid, receiver, norm, readReceiver, updated⟩
    have ready : TransferReady cfg tx am sender receiver (sender.debited tx.totalCostBig)
        (receiver.credited tx.amountBig) :=
      ⟨ne, sameShard, ⟨shard, gas⟩, read, readReceiver,
        transferBalances_ok_iff.mpr ⟨nonce, covered, rfl⟩, rfl, rfl⟩
    have belongs : belongsToShard cfg sender.address = true := readAccount_belongs read
    have saved := (Updated.iff_of_canonical (debited_canonical canonical)).mpr
      ⟨rfl, valid.trans senderValid, belongs⟩
    exact ⟨_, sender, receiver, _, _, _, norm, ready, saved, updated, rfl⟩

abbrev Transaction.Executes (tx : Transaction) (cfg : NodeConfig) (ws : WorldState) : Prop :=
  ∃ value after, executeTransaction cfg tx ws = .ok value after

theorem executeTransaction_native_iff (native : tx.type.isNative = true) : tx.Executes cfg ws ↔
      normalizeTransactionAmounts tx = .ok tx.canonical ∧
      storedNonce ws.ledger tx.fromAddr = tx.nonce ∧
      ∃ am, executeNative cfg tx.canonical (ws.ledger.bumpNonce tx.fromAddr) = .ok () am := by
  unfold Transaction.Executes
  generalize result : executeTransaction cfg tx ws = final
  have outcome := executeTransaction_native cfg native ws
  rw [result] at outcome
  constructor
  · rintro ⟨_, _, rfl⟩
    cases outcome with
    | executed am amounts current exec => exact ⟨amounts, current, am, exec⟩
  · rintro ⟨amounts, current, _, exec⟩
    cases outcome with
    | refused _ why =>
      rcases why with ⟨_, refused⟩ | stale
      · cases amounts.symm.trans refused
      · exact absurd current stale
    | failed _ _ _ _ failed => cases exec.symm.trans failed
    | executed => exact ⟨_, _, rfl⟩

theorem load_bumpNonce (addr other : Address) :
    (am.bumpNonce addr).load other = (am.load other).bumpNonce addr := by
  have stored : storedAccount (am.bumpNonce addr) other = storedAccount am other :=
    storedAccount_congr rfl
  have cache : (am.bumpNonce addr).cache = am.cache := rfl
  unfold Ledger.load
  rw [stored, cache]
  cases am.cache.peek other with
  | some => rfl
  | none =>
    dsimp only
    split <;> rfl

theorem executes_iff_unchecked {old : Account} (native : tx.type.isNative = true)
    (gas : checkGasLimit tx = .ok ()) (nonce : checkNonce tx old = .ok ())
    (means : checkMeans tx old = .ok ()) (settled : ws.ledger.SettledAt tx.fromAddr)
    (read : readAccount cfg ws.ledger tx.fromAddr = .ok sender)
    (waited : sender = { old with balance := sender.balance }) :
    tx.Executes cfg ws ↔ Unchecked cfg tx sender ws := by
  have nonceNow : checkNonce tx.canonical sender = .ok () := by
    rw [waited]
    exact nonce
  have stake : StakeFits tx.canonical sender := by
    rw [stakeFits_canonical, waited]
    exact ((checkMeans_ok_iff native).mp means).2
  have nativeNow : tx.canonical.type.isNative = true := native
  have canonical := settled.canonical read
  have bumped : readAccount cfg (ws.ledger.bumpNonce tx.fromAddr)
      tx.canonical.fromAddr = .ok sender := by
    rw [readAccount_bumpNonce]
    exact read
  rw [executeTransaction_native_iff native]
  by_cases alone : tx.type = .transfer → tx.toAddr = tx.fromAddr
  · rw [executeNative_alone_iff nativeNow alone canonical bumped nonceNow gas stake,
      canonical_cost, delegationFits_canonical]
    simp only [nativeChange_canonical_ok_iff]
    constructor
    · rintro ⟨amounts, recorded, shard, funded, delegation, valid⟩
      refine ⟨amounts, recorded, shard, fun kind => ?_, funded, delegation, fun _ => valid,
        fun kind ne => absurd (alone kind) ne⟩
      simp [checkSameShard, alone kind]
    · intro unchecked
      exact ⟨unchecked.amounts, unchecked.recorded, unchecked.shard, unchecked.funded,
        unchecked.delegation, unchecked.changed alone⟩
  · obtain ⟨kind, ne⟩ : tx.type = .transfer ∧ tx.toAddr ≠ tx.fromAddr :=
      Classical.not_imp.mp alone
    have cost : tx.cost = tx.totalCostBig := by
      unfold Transaction.cost
      rw [kind]
    have kindNow : tx.canonical.type = .transfer := kind
    rw [executeNative_between_iff kindNow ne canonical bumped nonceNow gas,
      canonical_totalCostBig, canonical_amountBig, load_bumpNonce]
    constructor
    · rintro ⟨amounts, recorded, sameShard, shard, funded, valid, receiver⟩
      refine ⟨amounts, recorded, shard, fun _ => sameShard, cost ▸ funded, ?_,
        fun alone => absurd (alone kind) ne, fun _ _ => ⟨valid, receiver⟩⟩
      unfold DelegationFits
      rw [kind]
      trivial
    · intro unchecked
      obtain ⟨valid, receiver⟩ := unchecked.between kind ne
      exact ⟨unchecked.amounts, unchecked.recorded, unchecked.sameShard kind, unchecked.shard,
        cost ▸ unchecked.funded, valid, receiver⟩

end Step

end Thrylos
