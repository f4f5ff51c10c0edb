import Thrylos.AccountManagerLemmas
import Thrylos.Executor

/-!
Everything a native execution can do to the ledger. A transaction is refused before it looks
anything up, declines after loading its accounts, fails to store them, or stores them.
-/

namespace Thrylos

variable {am after : Ledger} {cfg : ShardConfig} {tx : Transaction}
   {result : EStateM.Result String Ledger Unit} {sender receiver : Account}
   {balances : Bytes × Bytes}

theorem saveAccount_stored {acc : Account} (canonical : acc.Canonical)
    (stored : am.accounts.find? acc.address = some acc) : saveAccount acc am = .ok () am := by
  have saved : normalizeAccountCompat acc = .ok acc := canonical
  simp only [saveAccount, saved, KeyedMap.insert_of_find? stored]

structure Admitted (cfg : ShardConfig) (tx : Transaction) : Prop where
  shard : checkSenderShard cfg tx = .ok ()
  gas : checkGasLimit tx = .ok ()

inductive SenderOutcome (cfg : ShardConfig) (tx : Transaction)
    (change : Account → Except String Account) (am : Ledger) :
    EStateM.Result String Ledger Unit → Prop where
  | refused (err : String)
      (why : ¬ (Admitted cfg tx ∧ ∃ acc, readAccount cfg am tx.fromAddr = .ok acc)) :
      SenderOutcome cfg tx change am (.error err am)
  | declined (acc : Account) (err : String)
      (read : readAccount cfg am tx.fromAddr = .ok acc)
      (why : ¬ (checkNonce tx acc = .ok () ∧ ∃ changed, change acc = .ok changed)) :
      SenderOutcome cfg tx change am (.error err (am.load tx.fromAddr))
  | unsaved (acc changed norm : Account) (err : String) (admitted : Admitted cfg tx)
      (read : readAccount cfg am tx.fromAddr = .ok acc)
      (nonce : checkNonce tx acc = .ok ()) (ok : change acc = .ok changed)
      (holdings : SameHoldings norm changed) (unfit : ∀ final, ¬ Updated cfg changed final) :
      SenderOutcome cfg tx change am (.error err ((am.load tx.fromAddr).write norm))
  | saved (acc changed norm : Account) (admitted : Admitted cfg tx)
      (read : readAccount cfg am tx.fromAddr = .ok acc)
      (nonce : checkNonce tx acc = .ok ()) (ok : change acc = .ok changed)
      (updated : Updated cfg changed norm) :
      SenderOutcome cfg tx change am (.ok () (((am.load tx.fromAddr).write norm).store norm))

theorem executeOnSender_outcome (lookupFailure : String)
    (change : Account → Except String Account) :
    SenderOutcome cfg tx change am (executeOnSender cfg lookupFailure tx change am) := by
  unfold executeOnSender
  cases shard : checkSenderShard cfg tx with
  | error err =>
    rw [check_error]
    exact .refused err fun ⟨admitted, _⟩ => by simp [admitted.shard] at shard
  | ok =>
  rw [check_ok]
  cases gas : checkGasLimit tx with
  | error err =>
    rw [check_error]
    exact .refused err fun ⟨admitted, _⟩ => by simp [admitted.gas] at gas
  | ok =>
  rw [check_ok]
  cases read : readAccount cfg am tx.fromAddr with
  | error =>
    rw [adapt_error (getAccount_error read)]
    exact .refused _ fun ⟨_, found⟩ => by simp [read] at found
  | ok acc =>
  rw [adapt_ok (getAccount_ok read)]
  cases nonce : checkNonce tx acc with
  | error err =>
    rw [check_error]
    exact .declined acc err read fun ⟨matched, _⟩ => by simp [nonce] at matched
  | ok =>
  rw [check_ok]
  cases ok : change acc with
  | error err =>
    rw [check_error]
    exact .declined acc err read fun ⟨_, changed⟩ => by simp [ok] at changed
  | ok changed =>
  rw [check_ok, bind_ok (writeThrough_ok _ _)]
  rcases updateAccount_cases cfg changed ((am.load tx.fromAddr).write changed) with
    ⟨norm, updated, result⟩ | ⟨norm, err, holdings, unfit, result⟩
  · rw [write_write_ledger updated.sameHoldings.address.symm] at result
    rw [bind_ok result]
    exact .saved acc changed norm ⟨shard, gas⟩ read nonce ok updated
  · rw [write_write_ledger holdings.address.symm] at result
    rw [bind_error result]
    exact .unsaved acc changed norm err ⟨shard, gas⟩ read nonce ok holdings unfit

theorem SenderOutcome.ok_iff {change : Account → Except String Account}
    (outcome : SenderOutcome cfg tx change am result) :
    result = .ok () after ↔ ∃ acc changed norm, Admitted cfg tx ∧
      readAccount cfg am tx.fromAddr = .ok acc ∧ checkNonce tx acc = .ok () ∧
      change acc = .ok changed ∧ Updated cfg changed norm ∧
      after = ((am.load tx.fromAddr).write norm).store norm := by
  constructor
  · rintro rfl
    cases outcome with
    | saved acc changed norm admitted read nonce ok updated =>
      exact ⟨acc, changed, norm, admitted, read, nonce, ok, updated, rfl⟩
  · rintro ⟨acc, changed, norm, admitted, read, nonce, ok, updated, rfl⟩
    cases outcome with
    | refused _ why => exact absurd ⟨admitted, acc, read⟩ why
    | declined _ _ otherRead why =>
      cases read.symm.trans otherRead
      exact absurd ⟨nonce, changed, ok⟩ why
    | unsaved _ _ _ _ _ otherRead _ otherAccepted _ unfit =>
      cases read.symm.trans otherRead
      cases ok.symm.trans otherAccepted
      exact absurd updated (unfit norm)
    | saved _ _ _ _ otherRead _ otherAccepted otherUpdated =>
      cases read.symm.trans otherRead
      cases ok.symm.trans otherAccepted
      rw [updated.unique otherUpdated]

def selfTransferChange (tx : Transaction) (acc : Account) : Except String Account := do
  let balances ← transferBalances tx acc acc
  return { acc with balance := balances.2, nonce := acc.nonce + 1 }

theorem transferBalances_nonce (ok : transferBalances tx sender receiver = .ok balances) :
    checkNonce tx sender = .ok () := by
  unfold transferBalances at ok
  cases nonce : checkNonce tx sender with
  | error => simp [nonce, bind, Except.bind] at ok
  | ok => rfl

theorem transferBalances_ok_iff :
    transferBalances tx sender receiver = .ok balances ↔ checkNonce tx sender = .ok () ∧
      tx.totalCostBig ≤ parseBigInt sender.balance ∧
      balances = (mustUint256Bytes (parseBigInt sender.balance - tx.totalCostBig),
        mustUint256Bytes (parseBigInt receiver.balance + tx.amountBig)) := by
  unfold transferBalances
  cases nonce : checkNonce tx sender with
  | error => simp [bind, Except.bind]
  | ok =>
  by_cases short : (parseBigInt sender.balance : Int) < tx.totalCostBig
  · simp [bind, Except.bind, short]
  · simp only [bind, Except.bind, pure, Except.pure, short, if_false, not_lt.mp short, true_and,
      Except.ok.injEq]
    exact eq_comm

theorem executeTransfer_self (self : tx.toAddr = tx.fromAddr) :
    SenderOutcome cfg tx (selfTransferChange tx) am (executeTransfer cfg tx am) := by
  have sameShard : checkSameShard cfg tx = .ok () := by simp [checkSameShard, self]
  unfold executeTransfer
  rw [bind_ok (ofExcept_ok sameShard)]
  cases shard : checkSenderShard cfg tx with
  | error err =>
    rw [check_error]
    exact .refused err fun ⟨admitted, _⟩ => by simp [admitted.shard] at shard
  | ok =>
  rw [check_ok]
  cases gas : checkGasLimit tx with
  | error err =>
    rw [check_error]
    exact .refused err fun ⟨admitted, _⟩ => by simp [admitted.gas] at gas
  | ok =>
  rw [check_ok]
  unfold atomicTransfer
  cases read : readAccount cfg am tx.fromAddr with
  | error =>
    rw [adapt_error (getAccount_error read)]
    exact .refused _ fun ⟨_, found⟩ => by simp [read] at found
  | ok acc =>
  rw [adapt_ok (getAccount_ok read)]
  simp only [self, if_true]
  cases balances : transferBalances tx acc acc with
  | error err =>
    rw [check_error]
    exact .declined acc err read fun ⟨_, changed⟩ => by
      simp [selfTransferChange, balances, bind, Except.bind] at changed
  | ok pair =>
  have nonce := transferBalances_nonce balances
  have ok : selfTransferChange tx acc =
      .ok { acc with balance := pair.2, nonce := acc.nonce + 1 } := by
    simp [selfTransferChange, balances, bind, Except.bind, pure, Except.pure]
  rw [check_ok]
  obtain ⟨_, receiverBalance⟩ := pair
  dsimp only at ok ⊢
  rw [bind_ok (writeThrough_ok _ _)]
  rcases updateAccount_cases cfg
      { acc with balance := receiverBalance, nonce := acc.nonce + 1 }
      ((am.load tx.fromAddr).write
        { acc with balance := receiverBalance, nonce := acc.nonce + 1 }) with
    ⟨norm, updated, result⟩ | ⟨norm, err, holdings, unfit, result⟩
  · rw [write_write_ledger updated.sameHoldings.address.symm] at result
    rw [adapt_ok result,
      adaptExcept_ok (saveAccount_stored updated.canonical (by simp [Ledger.store])) _]
    exact .saved acc _ norm ⟨shard, gas⟩ read nonce ok updated
  · rw [write_write_ledger holdings.address.symm] at result
    rw [adapt_error result]
    exact .unsaved acc _ norm _ ⟨shard, gas⟩ read nonce ok holdings unfit

structure TransferReady (cfg : ShardConfig) (tx : Transaction) (am : Ledger)
    (sender receiver payer payee : Account) : Prop where
  different : tx.toAddr ≠ tx.fromAddr
  sameShard : checkSameShard cfg tx = .ok ()
  admitted : Admitted cfg tx
  readSender : readAccount cfg am tx.fromAddr = .ok sender
  readReceiver : readAccount cfg (am.load tx.fromAddr) tx.toAddr = .ok receiver
  balances : transferBalances tx sender receiver = .ok (payer.balance, payee.balance)
  sender : payer = { sender with balance := payer.balance, nonce := sender.nonce + 1 }
  receiver : payee = { receiver with balance := payee.balance }

def Ledger.assigned (am : Ledger) (tx : Transaction) (payer payee : Account) : Ledger :=
  ((((am.load tx.fromAddr).load tx.toAddr).write payer).write payee)

inductive TransferOutcome (cfg : ShardConfig) (tx : Transaction) (am : Ledger) :
    EStateM.Result String Ledger Unit → Prop where
  | refused (err : String)
      (why : ¬ (checkSameShard cfg tx = .ok () ∧ Admitted cfg tx ∧
        ∃ sender, readAccount cfg am tx.fromAddr = .ok sender)) :
      TransferOutcome cfg tx am (.error err am)
  | senderLoaded (sender : Account) (err : String)
      (read : readAccount cfg am tx.fromAddr = .ok sender)
      (why : ¬ ∃ receiver, readAccount cfg (am.load tx.fromAddr) tx.toAddr = .ok receiver) :
      TransferOutcome cfg tx am (.error err (am.load tx.fromAddr))
  | declined (sender receiver : Account) (err : String)
      (readSender : readAccount cfg am tx.fromAddr = .ok sender)
      (readReceiver : readAccount cfg (am.load tx.fromAddr) tx.toAddr = .ok receiver)
      (why : ¬ ∃ balances, transferBalances tx sender receiver = .ok balances) :
      TransferOutcome cfg tx am (.error err ((am.load tx.fromAddr).load tx.toAddr))
  | senderUnsaved (sender receiver payer payee norm : Account) (err : String)
      (ready : TransferReady cfg tx am sender receiver payer payee)
      (holdings : SameHoldings norm payer) (unfit : ∀ final, ¬ Updated cfg payer final) :
      TransferOutcome cfg tx am (.error err ((am.assigned tx payer payee).write norm))
  | receiverUnsaved (sender receiver payer payee norm normPayee : Account)
      (err : String)
      (ready : TransferReady cfg tx am sender receiver payer payee)
      (updated : Updated cfg payer norm)
      (holdings : SameHoldings normPayee payee)
      (unfit : ∀ final, ¬ Updated cfg payee final) :
      TransferOutcome cfg tx am
        (.error err ((((am.assigned tx payer payee).write norm).store norm).write normPayee))
  | saved (sender receiver payer payee norm normPayee : Account)
      (ready : TransferReady cfg tx am sender receiver payer payee)
      (updated : Updated cfg payer norm)
      (updatedReceiver : Updated cfg payee normPayee) :
      TransferOutcome cfg tx am
        (.ok () (((((am.assigned tx payer payee).write norm).store norm).write
            normPayee).store normPayee))

theorem TransferReady.unique {payer payee sender' receiver' newSender' newReceiver' : Account}
    (ready : TransferReady cfg tx am sender receiver payer payee)
    (ready' : TransferReady cfg tx am sender' receiver' newSender' newReceiver') :
    payer = newSender' ∧ payee = newReceiver' := by
  cases ready.readSender.symm.trans ready'.readSender
  cases ready.readReceiver.symm.trans ready'.readReceiver
  have balances := Except.ok.inj (ready.balances.symm.trans ready'.balances)
  rw [Prod.mk.injEq] at balances
  rw [ready.sender, ready.receiver, ready'.sender, ready'.receiver, balances.1, balances.2]
  exact ⟨rfl, rfl⟩

theorem TransferOutcome.ok_iff (outcome : TransferOutcome cfg tx am result) :
    result = .ok () after ↔ ∃ sender receiver payer payee norm normPayee,
      TransferReady cfg tx am sender receiver payer payee ∧
      Updated cfg payer norm ∧ Updated cfg payee normPayee ∧
      after = ((((am.assigned tx payer payee).write norm).store norm).write
        normPayee).store normPayee := by
  constructor
  · rintro rfl
    cases outcome with
    | saved sender receiver payer payee norm normPayee ready updated
        updatedReceiver =>
        exact ⟨sender, receiver, payer, payee, norm, normPayee, ready, updated,
          updatedReceiver, rfl⟩
  · rintro ⟨sender, receiver, _, _, norm, normPayee, ready, updated, updatedReceiver, rfl⟩
    cases outcome with
    | refused _ why =>
      exact absurd ⟨ready.sameShard, ready.admitted, sender, ready.readSender⟩ why
    | senderLoaded _ _ _ why => exact absurd ⟨receiver, ready.readReceiver⟩ why
    | declined _ _ _ otherRead otherReadReceiver why =>
      cases ready.readSender.symm.trans otherRead
      cases ready.readReceiver.symm.trans otherReadReceiver
      exact absurd ⟨_, ready.balances⟩ why
    | senderUnsaved _ _ _ _ _ _ otherReady _ unfit =>
      exact absurd ((ready.unique otherReady).1 ▸ updated) (unfit norm)
    | receiverUnsaved _ _ _ _ _ _ _ otherReady _ _ unfit =>
      exact absurd ((ready.unique otherReady).2 ▸ updatedReceiver) (unfit normPayee)
    | saved _ _ _ _ _ _ otherReady otherUpdated otherUpdatedReceiver =>
        obtain ⟨rfl, rfl⟩ := ready.unique otherReady
        rw [updated.unique otherUpdated, updatedReceiver.unique otherUpdatedReceiver]

theorem executeTransfer_outcome (ne : tx.toAddr ≠ tx.fromAddr) :
    TransferOutcome cfg tx am (executeTransfer cfg tx am) := by
  unfold executeTransfer
  cases sameShard : checkSameShard cfg tx with
  | error err =>
    rw [check_error]
    exact .refused err fun ⟨same, _⟩ => by simp [sameShard] at same
  | ok =>
  rw [check_ok]
  cases shard : checkSenderShard cfg tx with
  | error err =>
    rw [check_error]
    exact .refused err fun ⟨_, admitted, _⟩ => by simp [admitted.shard] at shard
  | ok =>
  rw [check_ok]
  cases gas : checkGasLimit tx with
  | error err =>
    rw [check_error]
    exact .refused err fun ⟨_, admitted, _⟩ => by simp [admitted.gas] at gas
  | ok =>
  rw [check_ok]
  unfold atomicTransfer
  cases readSender : readAccount cfg am tx.fromAddr with
  | error =>
    rw [adapt_error (getAccount_error readSender)]
    exact .refused _ fun ⟨_, _, found⟩ => by simp [readSender] at found
  | ok sender =>
  rw [adapt_ok (getAccount_ok readSender)]
  simp only [ne, if_false]
  cases readReceiver : readAccount cfg (am.load tx.fromAddr) tx.toAddr with
  | error =>
    rw [adapt_error (getAccount_error readReceiver)]
    exact .senderLoaded sender _ readSender (by simp [readReceiver])
  | ok receiver =>
  rw [adapt_ok (getAccount_ok readReceiver)]
  cases balances : transferBalances tx sender receiver with
  | error err =>
    rw [check_error]
    exact .declined sender receiver err readSender readReceiver (by simp [balances])
  | ok pair =>
  rw [check_ok]
  obtain ⟨senderBalance, receiverBalance⟩ := pair
  have ready : TransferReady cfg tx am sender receiver
      { sender with balance := senderBalance, nonce := sender.nonce + 1 }
      { receiver with balance := receiverBalance } :=
    ⟨ne, sameShard, ⟨shard, gas⟩, readSender, readReceiver, balances, rfl, rfl⟩
  dsimp only at ready ⊢
  rw [bind_ok (writeThrough_ok _ _), bind_ok (writeThrough_ok _ _)]
  generalize newSenderIs : ({ sender with balance := senderBalance, nonce := sender.nonce + 1 } :
    Account) = payer at ready ⊢
  generalize newReceiverIs : ({ receiver with balance := receiverBalance } : Account) =
    payee at ready ⊢
  change TransferOutcome cfg tx am
    ((do
      let savedSender ← EStateM.adaptExcept _ (updateAccount cfg payer)
      _) (am.assigned tx payer payee))
  rcases updateAccount_cases cfg payer (am.assigned tx payer payee) with
    ⟨norm, updated, result⟩ | ⟨norm, err, holdings, unfit, result⟩
  · rw [adapt_ok result, bind_ok
      (adaptExcept_ok (saveAccount_stored updated.canonical (by simp [Ledger.store])) _)]
    rcases updateAccount_cases cfg payee
        (((am.assigned tx payer payee).write norm).store norm) with
      ⟨normPayee, updatedReceiver, received⟩ | ⟨normPayee, err, holdings, unfit, received⟩
    · rw [adapt_ok received, adaptExcept_ok
        (saveAccount_stored updatedReceiver.canonical (by simp [Ledger.store])) _]
      exact .saved sender receiver payer payee norm normPayee ready updated updatedReceiver
    · rw [adapt_error received]
      exact .receiverUnsaved sender receiver payer payee norm normPayee _ ready
        updated holdings unfit
  · rw [adapt_error result]
    exact .senderUnsaved sender receiver payer payee norm _ ready holdings unfit

end Thrylos
