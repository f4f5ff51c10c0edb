import Thrylos.AccountView

/-!
Native execution on a ledger whose cache and records agree. It succeeds exactly when its checks pass
and `UpdateAccount` accepts every assigned account, and the ledger then agrees again.
-/

namespace Thrylos

def transferPlan (tx : Transaction) (view : View) : Option (List Account) :=
  match view tx.fromAddr, view tx.toAddr with
  | .ok sender, .ok receiver =>
    if (parseBigInt sender.balance : Int) < tx.totalCostBig then none
    else
      let received := mustUint256Bytes (parseBigInt receiver.balance + tx.amountBig)
      if tx.toAddr = tx.fromAddr then
        some [{ sender with balance := received, nonce := sender.nonce + 1 }]
      else
        some [{ sender with
            balance := mustUint256Bytes (parseBigInt sender.balance - tx.totalCostBig)
            nonce := sender.nonce + 1 },
          { receiver with balance := received }]
  | _, _ => none

def plan (tx : Transaction) (change : Account → Except String Account) (view : View) :
    Option (List Account) :=
  if tx.type = .transfer then transferPlan tx view
  else
    match view tx.fromAddr with
    | .error _ => none
    | .ok acc =>
      match change acc with
      | .error _ => none
      | .ok changed => some [changed]

structure Ledger.Agrees (cfg : ShardConfig) (am : Ledger) : Prop where
  coherent : am.Coherent
  nonces : ∀ addr acc, readAccount cfg am addr = .ok acc → storedNonce am addr = acc.nonce

structure Transaction.Local (cfg : ShardConfig) (tx : Transaction) : Prop where
  sender : calculateShardID cfg tx.fromAddr = cfg.shardID
  receiver : tx.type = .transfer → calculateShardID cfg tx.toAddr = cfg.shardID

structure Executable (tx : Transaction) (view : View) (accounts : List Account) : Prop where
  gas : checkGasLimit tx = .ok ()
  nonce : ∃ sender, view tx.fromAddr = .ok sender ∧ checkNonce tx sender = .ok ()
  planned : plan tx (nativeChange tx) view = some accounts
  valid : ∀ acc ∈ accounts, validateAccount acc = .ok ()

theorem normalizeAccountCompat_nonce {acc norm : Account}
    (ok : normalizeAccountCompat acc = .ok norm) : norm.nonce = acc.nonce := by
  obtain ⟨_, _, rfl⟩ := normalizeAccountCompat_ok ok
  rfl

theorem agrees_of_unused (cfg : ShardConfig) {am : Ledger} (uncached : am.cache.entries = [])
    (unrecorded : am.nonces.entries = [])
    (unused : ∀ acc ∈ am.accounts.entries, acc.nonce = 0) : am.Agrees cfg := by
  have coherent : am.Coherent := fun addr acc _ cached => by
    simp [LruCache.peek, uncached] at cached
  refine ⟨coherent, fun addr acc read => ?_⟩
  have noRecord : storedNonce am addr = 0 := by
    simp [storedNonce, KeyedMap.find?, unrecorded]
  rw [readAccount_coherent coherent (readAccount_readable read)] at read
  unfold storedAccount at read
  split at read
  · simp only [Except.map, Option.getD_none, Except.ok.injEq] at read
    rw [noRecord, ← read]
    rfl
  rename_i raw found
  split at read
  · simp [Except.map] at read
  · rename_i norm ok
    simp only [Except.map, Option.getD_some, Except.ok.injEq] at read
    rw [noRecord, ← read, normalizeAccountCompat_nonce ok, unused raw (KeyedMap.find?_mem found)]

section Changes

variable {tx : Transaction} {acc changed : Account}

@[simp] theorem encode_parseBigInt_mustUint256Bytes (value : Int) :
    BigEndian.encode (parseBigInt (mustUint256Bytes value)) = mustUint256Bytes value :=
  (mustUint256Bytes_encode value).symm

variable {delegations : Delegations}

theorem canonicalizeUint256ByteMap_self_iff :
    canonicalizeUint256ByteMap delegations = .ok delegations ↔
      ∀ entry ∈ delegations.entries, canonicalizeUint256Bytes entry.2 = .ok entry.2 := by
  rw [canonicalizeUint256ByteMap, KeyedMap.update_self_iff]
  refine forall₂_congr fun entry _ => ?_
  cases canonicalizeUint256Bytes entry.2 <;> simp [Prod.ext_iff]

theorem canonicalizeUint256Bytes_mustUint256Bytes (value : Int) :
    canonicalizeUint256Bytes (mustUint256Bytes value) = .ok (mustUint256Bytes value) := by
  rw [mustUint256Bytes_encode, canonicalizeUint256Bytes_encode (parseBigInt_lt _)]

theorem canonical_insert (val : Address) (value : Int)
    (canonical : canonicalizeUint256ByteMap delegations = .ok delegations) :
    canonicalizeUint256ByteMap (delegations.insert (val, mustUint256Bytes value)) =
      .ok (delegations.insert (val, mustUint256Bytes value)) := by
  rw [canonicalizeUint256ByteMap_self_iff] at canonical ⊢
  intro entry mem
  rcases KeyedMap.mem_insertEntry mem with rfl | old
  · exact canonicalizeUint256Bytes_mustUint256Bytes value
  · exact canonical entry old

theorem canonical_erase (val : Address)
    (canonical : canonicalizeUint256ByteMap delegations = .ok delegations) :
    canonicalizeUint256ByteMap (delegations.erase val) = .ok (delegations.erase val) := by
  rw [canonicalizeUint256ByteMap_self_iff] at canonical ⊢
  exact fun entry mem => canonical entry (List.mem_of_mem_filter mem)

theorem Account.Canonical.fields (canonical : acc.Canonical) :
    BigEndian.encode (parseBigInt acc.balance) = acc.balance ∧
      BigEndian.encode (parseBigInt acc.stakedAmount) = acc.stakedAmount ∧
      BigEndian.encode (parseBigInt acc.rewards) = acc.rewards := by
  have amounts := (canonical_iff.mp canonical).1
  exact ⟨congrArg Account.balance amounts, congrArg Account.stakedAmount amounts,
    congrArg Account.rewards amounts⟩

structure Advances (acc changed : Account) : Prop where
  address : changed.address = acc.address
  nonce : changed.nonce = acc.nonce + 1
  canonical : acc.Canonical → changed.Canonical

theorem canonical_of_fields (bal : BigEndian.encode (parseBigInt changed.balance) = changed.balance)
    (stakedAmount : BigEndian.encode (parseBigInt changed.stakedAmount) = changed.stakedAmount)
    (rewards : BigEndian.encode (parseBigInt changed.rewards) = changed.rewards)
    (delegatedTo : canonicalizeUint256ByteMap changed.delegatedTo = .ok changed.delegatedTo) :
    changed.Canonical :=
  canonical_iff.mpr ⟨by simp only [canonicalAmounts, bal, stakedAmount, rewards], delegatedTo⟩

theorem selfTransferChange_advances (ok : selfTransferChange tx acc = .ok changed) :
    Advances acc changed := by
  unfold selfTransferChange at ok
  cases balances : transferBalances tx acc acc with
  | error => simp [balances, bind, Except.bind] at ok
  | ok =>
  simp only [balances, bind, Except.bind, pure, Except.pure] at ok
  cases ok
  have received := congrArg Prod.snd (transferBalances_ok_iff.mp balances).2.2
  refine ⟨rfl, rfl, fun canonical => ?_⟩
  obtain ⟨_, stakedAmount, rewards⟩ := canonical.fields
  exact canonical_of_fields (by simp [received]) stakedAmount rewards (canonical_iff.mp canonical).2

theorem nativeChange_advances (ok : nativeChange tx acc = .ok changed) : Advances acc changed := by
  unfold nativeChange at ok
  split at ok
  · exact selfTransferChange_advances ok
  all_goals simp only [stakeChange, unstakeChange, delegateChange, undelegateChange,
    claimRewardsChange, reduceCtorEq] at ok
  all_goals
    split_ifs at ok
    all_goals
      cases ok
      refine ⟨rfl, rfl, fun canonical => ?_⟩
      obtain ⟨_, stakedAmount, rewards⟩ := canonical.fields
      have delegations := (canonical_iff.mp canonical).2
      exact canonical_of_fields (by simp) (by simp [stakedAmount])
        (by first | exact rewards | rfl) (by simp [delegations, canonical_insert, canonical_erase])

theorem nativeChange_canonical_ok_iff :
    nativeChange tx.canonical acc = .ok changed ↔ nativeChange tx acc = .ok changed := by
  have kind : tx.canonical.type = tx.type := rfl
  have receiver : tx.canonical.toAddr = tx.toAddr := rfl
  have nonce : checkNonce tx.canonical acc = checkNonce tx acc := rfl
  unfold nativeChange
  rw [kind]
  split
  · simp [selfTransferChange, transferBalances, nonce]
  · simp [stakeChange]
  · simp only [unstakeChange, canonical_gasCostBig, canonical_amountBig]
    split_ifs <;> simp
  · simp [delegateChange, receiver]
  · simp only [undelegateChange, canonical_gasCostBig, canonical_amountBig, receiver]
    split_ifs <;> simp
  · simp [claimRewardsChange]
  · simp

end Changes

section Execution

variable {cfg : ShardConfig} {tx : Transaction} {am after : Ledger} {accounts : List Account}

theorem Transaction.Local.checkSenderShard (near : tx.Local cfg) :
    checkSenderShard cfg tx = .ok () := by
  simp [Thrylos.checkSenderShard, near.sender]

theorem Transaction.Local.checkSameShard (near : tx.Local cfg) (kind : tx.type = .transfer) :
    checkSameShard cfg tx = .ok () := by
  simp [Thrylos.checkSameShard, near.sender, near.receiver kind]

variable {addr : Address} {acc : Account}

theorem readAccount_belongs (read : readAccount cfg am addr = .ok acc) :
    belongsToShard cfg acc.address = true :=
  readAccount_address read ▸ (readAccount_readable read).2

theorem executable_alone (view : View) (alone : tx.type = .transfer → tx.toAddr = tx.fromAddr) :
    Executable tx view accounts ↔ checkGasLimit tx = .ok () ∧ ∃ acc changed,
      view tx.fromAddr = .ok acc ∧ checkNonce tx acc = .ok () ∧
      nativeChange tx acc = .ok changed ∧ validateAccount changed = .ok () ∧
      accounts = [changed] := by
  constructor
  · rintro ⟨gas, ⟨acc, read, nonce⟩, planned, valid⟩
    refine ⟨gas, acc, ?_⟩
    by_cases kind : tx.type = .transfer
    · simp only [plan, kind, if_true, transferPlan, read, alone kind] at planned
      split_ifs at planned with short
      have balances : transferBalances tx acc acc = .ok _ :=
        transferBalances_ok_iff.mpr ⟨nonce, not_lt.mp short, rfl⟩
      obtain rfl := Option.some.inj planned
      refine ⟨_, read, nonce, ?_, valid _ (by simp), rfl⟩
      simp only [nativeChange, kind, selfTransferChange, balances, bind, Except.bind, pure,
        Except.pure]
    · simp only [plan, kind, if_false, read] at planned
      split at planned
      · simp at planned
      · rename_i changed ok
        obtain rfl := Option.some.inj planned
        exact ⟨changed, read, nonce, ok, valid _ (by simp), rfl⟩
  · rintro ⟨gas, acc, _, read, nonce, ok, valid, rfl⟩
    refine ⟨gas, ⟨acc, read, nonce⟩, ?_, by simpa using valid⟩
    by_cases kind : tx.type = .transfer
    · simp only [nativeChange, kind, selfTransferChange, bind, Except.bind, pure, Except.pure] at ok
      split at ok
      · simp at ok
      · rename_i balances moved
        obtain ⟨_, covered, rfl⟩ := transferBalances_ok_iff.mp moved
        cases ok
        simp [plan, kind, transferPlan, read, alone kind, not_lt.mpr covered]
    · simp only [plan, kind, if_false, read, ok]

theorem executable_transfer (view : View) (kind : tx.type = .transfer)
    (ne : tx.toAddr ≠ tx.fromAddr) :
    Executable tx view accounts ↔ checkGasLimit tx = .ok () ∧ ∃ sender receiver balances,
      view tx.fromAddr = .ok sender ∧ view tx.toAddr = .ok receiver ∧
      transferBalances tx sender receiver = .ok balances ∧
      accounts = [{ sender with balance := balances.1, nonce := sender.nonce + 1 },
        { receiver with balance := balances.2 }] ∧
      ∀ acc ∈ accounts, validateAccount acc = .ok () := by
  constructor
  · rintro ⟨gas, ⟨sender, readSender, nonce⟩, planned, valid⟩
    simp only [plan, kind, if_true, transferPlan, readSender] at planned
    split at planned
    · rename_i sender' receiver same readReceiver
      cases same
      split_ifs at planned with short
      have balances : transferBalances tx sender receiver = .ok _ :=
        transferBalances_ok_iff.mpr ⟨nonce, not_lt.mp short, rfl⟩
      obtain rfl := Option.some.inj planned
      exact ⟨gas, sender, receiver, _, readSender, readReceiver, balances, rfl, valid⟩
    · simp at planned
  · rintro ⟨gas, sender, _, _, readSender, readReceiver, moved, rfl, valid⟩
    obtain ⟨nonce, covered, rfl⟩ := transferBalances_ok_iff.mp moved
    refine ⟨gas, ⟨sender, readSender, nonce⟩, ?_, valid⟩
    simp [plan, kind, transferPlan, readSender, readReceiver, ne, not_lt.mpr covered]

theorem TransferReady.canonical {sender receiver payer payee : Account}
    (ready : TransferReady cfg tx am sender receiver payer payee)
    (coherent : am.Coherent) : payer.Canonical ∧ payee.Canonical := by
  have senderCanonical := readAccount_canonical coherent ready.readSender
  have receiverCanonical := readAccount_canonical (coherent.load tx.fromAddr) ready.readReceiver
  have balances := (transferBalances_ok_iff.mp ready.balances).2.2
  rw [Prod.mk.injEq] at balances
  rw [ready.sender, ready.receiver]
  constructor
  · exact canonical_of_fields (by simp [balances.1]) senderCanonical.fields.2.1
      senderCanonical.fields.2.2 (canonical_iff.mp senderCanonical).2
  · exact canonical_of_fields (by simp [balances.2]) receiverCanonical.fields.2.1
      receiverCanonical.fields.2.2 (canonical_iff.mp receiverCanonical).2

structure Executed (cfg : ShardConfig) (accounts : List Account) (am after : Ledger) : Prop where
  coherent : after.Coherent
  records : after.accounts = accounts.foldl KeyedMap.insert am.accounts
  nonces : after.nonces = am.nonces
  fit : ∀ acc ∈ accounts, Readable cfg acc.address ∧ acc.Canonical

theorem Executed.view (exec : Executed cfg accounts am after) (coherent : am.Coherent) :
    readAccount cfg after = View.assign (readAccount cfg am) accounts := by
  rw [readAccount_recordView exec.coherent, readAccount_recordView coherent, exec.records,
    recordView_foldl _ _ exec.fit]

theorem executeNative_executed (coherent : am.Coherent) (native : tx.type.isNative = true)
    (ran : executeNative cfg tx am = .ok () after) :
    ∃ accounts, Executable tx (readAccount cfg am) accounts ∧ Executed cfg accounts am after := by
  by_cases other : tx.type = .transfer ∧ tx.toAddr ≠ tx.fromAddr
  · obtain ⟨sender, receiver, _, _, norm, normPayee, ready, updated,
      updatedReceiver, rfl⟩ := (executeNative_transfer cfg other.1 other.2 am).ok_iff.mp ran
    have readReceiver := ready.readReceiver
    rw [readAccount_load_coherent coherent] at readReceiver
    have canonical := ready.canonical coherent
    obtain ⟨rfl, valid, _⟩ := (Updated.iff_of_canonical canonical.1).mp updated
    obtain ⟨rfl, validReceiver, _⟩ := (Updated.iff_of_canonical canonical.2).mp updatedReceiver
    refine ⟨[norm, normPayee], (executable_transfer _ other.1 other.2).mpr
      ⟨ready.admitted.gas, sender, receiver, _, ready.readSender, readReceiver, ready.balances,
        by rw [← ready.sender, ← ready.receiver], by simp [valid, validReceiver]⟩, ?_, ?_, ?_, ?_⟩
    · have loose := ((((coherent.load tx.fromAddr).load tx.toAddr).write norm).write
        normPayee).write norm
      have senderStored : (((am.assigned tx norm normPayee).write norm).store
          norm).CoherentExcept [normPayee.address] := loose.store canonical.1 (by simp)
      exact (senderStored.write normPayee).store canonical.2 (by simp)
    · simp [Ledger.store, Ledger.write, Ledger.assigned]
    · simp [Ledger.store, Ledger.write, Ledger.assigned]
    · simp [updated.readable, updatedReceiver.readable, canonical]
  · have alone : tx.type = .transfer → tx.toAddr = tx.fromAddr := by
      simpa only [not_and, not_not] using other
    obtain ⟨acc, _, norm, admitted, read, nonce, ok, updated, rfl⟩ :=
      (executeNative_sender cfg native alone am).ok_iff.mp ran
    have canonical := (nativeChange_advances ok).canonical (readAccount_canonical coherent read)
    obtain ⟨rfl, valid, _⟩ := (Updated.iff_of_canonical canonical).mp updated
    refine ⟨[norm], (executable_alone _ alone).mpr
      ⟨admitted.gas, acc, norm, read, nonce, ok, valid, rfl⟩, ?_, ?_, ?_, ?_⟩
    · exact (coherent.load tx.fromAddr).write_store canonical
    · simp [Ledger.store, Ledger.write]
    · simp [Ledger.store, Ledger.write]
    · simpa using ⟨updated.readable, canonical⟩

theorem executeNative_of_executable (coherent : am.Coherent) (native : tx.type.isNative = true)
    (near : tx.Local cfg) (executable : Executable tx (readAccount cfg am) accounts) :
    ∃ after, executeNative cfg tx am = .ok () after := by
  by_cases other : tx.type = .transfer ∧ tx.toAddr ≠ tx.fromAddr
  · obtain ⟨gas, sender, receiver, balances, readSender, readReceiver, moved, rfl, valid⟩ :=
      (executable_transfer _ other.1 other.2).mp executable
    rw [← readAccount_load_coherent coherent tx.fromAddr] at readReceiver
    have ready : TransferReady cfg tx am sender receiver
        { sender with balance := balances.1, nonce := sender.nonce + 1 }
        { receiver with balance := balances.2 } :=
      ⟨other.2, near.checkSameShard other.1, ⟨near.checkSenderShard, gas⟩, readSender,
        readReceiver, moved, rfl, rfl⟩
    have canonical := ready.canonical coherent
    have senderShard : belongsToShard cfg sender.address = true := readAccount_belongs readSender
    have receiverShard : belongsToShard cfg receiver.address = true :=
      readAccount_belongs readReceiver
    have updated := (Updated.iff_of_canonical canonical.1).mpr ⟨rfl, valid _ (by simp), senderShard⟩
    have updatedReceiver := (Updated.iff_of_canonical canonical.2).mpr
      ⟨rfl, valid _ (by simp), receiverShard⟩
    exact ⟨_, (executeNative_transfer cfg other.1 other.2 am).ok_iff.mpr
      ⟨_, _, _, _, _, _, ready, updated, updatedReceiver, rfl⟩⟩
  · have alone : tx.type = .transfer → tx.toAddr = tx.fromAddr := by
      simpa only [not_and, not_not] using other
    obtain ⟨gas, acc, changed, read, nonce, ok, valid, rfl⟩ :=
      (executable_alone _ alone).mp executable
    have advances := nativeChange_advances ok
    have updated : Updated cfg changed changed :=
      (Updated.iff_of_canonical (advances.canonical (readAccount_canonical coherent read))).mpr
        ⟨rfl, valid, advances.address ▸ readAccount_belongs read⟩
    exact ⟨_, (executeNative_sender cfg native alone am).ok_iff.mpr
      ⟨acc, changed, changed, ⟨near.checkSenderShard, gas⟩, read, nonce, ok, updated, rfl⟩⟩

theorem transferPlan_canonical (view : View) :
    transferPlan tx.canonical view = transferPlan tx view := by
  have sender : tx.canonical.fromAddr = tx.fromAddr := rfl
  have receiver : tx.canonical.toAddr = tx.toAddr := rfl
  simp only [transferPlan, sender, receiver, canonical_totalCostBig, canonical_amountBig]

theorem plan_canonical (view : View) :
    plan tx.canonical (nativeChange tx.canonical) view = plan tx (nativeChange tx) view := by
  have type : tx.canonical.type = tx.type := rfl
  have sender : tx.canonical.fromAddr = tx.fromAddr := rfl
  unfold plan
  rw [type, sender, transferPlan_canonical]
  cases view tx.fromAddr with
  | error => rfl
  | ok acc =>
  dsimp only
  cases ok : nativeChange tx acc with
  | ok => rw [nativeChange_canonical_ok_iff.mpr ok]
  | error =>
    cases canonical : nativeChange tx.canonical acc with
    | ok => simp [nativeChange_canonical_ok_iff.mp canonical] at ok
    | error => rfl

theorem executable_canonical (view : View) :
    Executable tx.canonical view accounts ↔ Executable tx view accounts :=
  ⟨fun ⟨gas, nonce, planned, valid⟩ => ⟨gas, nonce, plan_canonical view ▸ planned, valid⟩,
    fun ⟨gas, nonce, planned, valid⟩ => ⟨gas, nonce, (plan_canonical view).trans planned, valid⟩⟩

theorem Ledger.Agrees.bumpNonce_coherent (agrees : am.Agrees cfg) (addr : Address) :
    (am.bumpNonce addr).Coherent := agrees.coherent

theorem readAccount_bumpNonce (cfg : ShardConfig) (am : Ledger) (addr : Address) :
    readAccount cfg (am.bumpNonce addr) = readAccount cfg am :=
  funext fun _ => readAccount_congr rfl rfl

theorem storedNonce_bumpNonce (addr other : Address) : storedNonce (am.bumpNonce addr) other =
      if addr = other then storedNonce am addr + 1 else storedNonce am other := by
  by_cases same : addr = other
  · subst same
    simp [storedNonce, Ledger.bumpNonce]
  · simp [storedNonce, Ledger.bumpNonce, same]

theorem Executable.nonces {view : View} (executable : Executable tx view accounts)
    (addresses : ∀ addr acc, view addr = .ok acc → acc.address = addr)
    (read : View.assign view accounts addr = .ok acc) :
    ∃ old, view addr = .ok old ∧
      acc.nonce = if tx.fromAddr = addr then old.nonce + 1 else old.nonce := by
  by_cases other : tx.type = .transfer ∧ tx.toAddr ≠ tx.fromAddr
  · obtain ⟨_, sender, receiver, _, readSender, readReceiver, _, rfl, _⟩ :=
      (executable_transfer _ other.1 other.2).mp executable
    have senderAddress := addresses _ _ readSender
    have receiverAddress := addresses _ _ readReceiver
    simp only [View.assign, List.foldl_cons, List.foldl_nil, View.set] at read
    by_cases isReceiver : addr = tx.toAddr
    · subst isReceiver
      rw [← receiverAddress, Function.update_self] at read
      cases read
      exact ⟨receiver, readReceiver, by simp [Ne.symm other.2]⟩
    · rw [Function.update_of_ne (receiverAddress ▸ isReceiver)] at read
      by_cases isSender : addr = tx.fromAddr
      · subst isSender
        rw [← senderAddress, Function.update_self] at read
        cases read
        exact ⟨sender, readSender, by simp⟩
      · rw [Function.update_of_ne (senderAddress ▸ isSender)] at read
        exact ⟨acc, read, by simp [Ne.symm isSender]⟩
  · have alone : tx.type = .transfer → tx.toAddr = tx.fromAddr := by
      simpa only [not_and, not_not] using other
    obtain ⟨_, sender, _, readSender, _, ok, _, rfl⟩ :=
      (executable_alone _ alone).mp executable
    have advances := nativeChange_advances ok
    have address := advances.address.trans (addresses _ _ readSender)
    simp only [View.assign, List.foldl_cons, List.foldl_nil, View.set] at read
    by_cases isSender : addr = tx.fromAddr
    · subst isSender
      rw [← address, Function.update_self] at read
      cases read
      exact ⟨sender, readSender, by simp [advances.nonce]⟩
    · rw [Function.update_of_ne (address ▸ isSender)] at read
      exact ⟨acc, read, by simp [Ne.symm isSender]⟩

end Execution

section World

variable {cfg : NodeConfig} {tx : Transaction} {ws after : WorldState} {accounts : List Account}

theorem executeTransaction_executed {value : Transaction} (agrees : ws.ledger.Agrees cfg)
    (native : tx.type.isNative = true) (ran : executeTransaction cfg tx ws = .ok value after) :
    normalizeTransactionAmounts tx = .ok tx.canonical ∧ ∃ accounts,
      Executable tx (readAccount cfg ws.ledger) accounts ∧ after.ledger.Agrees cfg ∧
      readAccount cfg after.ledger = View.assign (readAccount cfg ws.ledger) accounts := by
  have canonicalNative : tx.canonical.type.isNative = true := native
  have outcome := executeTransaction_native cfg native ws
  rw [ran] at outcome
  cases outcome with
  | executed am amounts _ exec =>
  have coherent := agrees.bumpNonce_coherent tx.fromAddr
  obtain ⟨accounts, executable, left⟩ := executeNative_executed coherent canonicalNative exec
  have view := left.view coherent
  rw [executable_canonical] at executable
  refine ⟨amounts, accounts, executable, ⟨left.coherent, ?_⟩, view⟩
  intro addr acc read
  rw [view] at read
  obtain ⟨old, oldRead, nonce⟩ := executable.nonces (fun _ _ => readAccount_address) read
  have recorded : storedNonce am addr = storedNonce (ws.ledger.bumpNonce tx.fromAddr) addr := by
    simp only [storedNonce, left.nonces]
  have before := agrees.nonces addr old oldRead
  simp only [recorded, storedNonce_bumpNonce, nonce, ← before]
  split_ifs with same
  · rw [same]
  · rfl

theorem executeTransaction_of_executable (agrees : ws.ledger.Agrees cfg)
    (native : tx.type.isNative = true) (near : tx.Local cfg)
    (amounts : normalizeTransactionAmounts tx = .ok tx.canonical)
    (executable : Executable tx (readAccount cfg ws.ledger) accounts) :
    ∃ value after, executeTransaction cfg tx ws = .ok value after := by
  obtain ⟨_, readSender, nonce⟩ := executable.nonce
  have current : storedNonce ws.ledger tx.fromAddr = tx.nonce := by
    rw [agrees.nonces _ _ readSender]
    unfold checkNonce at nonce
    split_ifs at nonce with same
    exact not_not.mp same
  rw [← executable_canonical] at executable
  have canonicalNative : tx.canonical.type.isNative = true := native
  have canonicalNear : tx.canonical.Local cfg := ⟨near.sender, near.receiver⟩
  obtain ⟨_, ran⟩ := executeNative_of_executable (agrees.bumpNonce_coherent tx.fromAddr)
    canonicalNative canonicalNear executable
  generalize result : executeTransaction cfg tx ws = final
  have outcome := executeTransaction_native cfg native ws
  rw [result] at outcome
  cases outcome with
  | refused _ why =>
    rcases why with ⟨_, refused⟩ | stale
    · simp [amounts] at refused
    · exact absurd current stale
  | failed _ _ _ _ failed => simp [ran] at failed
  | executed => exact ⟨_, _, rfl⟩

end World

end Thrylos
