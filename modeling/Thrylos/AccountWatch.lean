import Thrylos.NonceAgreement

/-!
The account of an address while others' transactions are executed. Only a transfer to it changes its
record, and only a contract transaction of a sender with that checksummed form its nonce record.
-/

namespace Thrylos

open EStateM (Stays Leads)

structure Watched (addr : Address) (record : Option Account) (kept : NonceStore → Prop)
    (am : Ledger) : Prop where
  settled : am.SettledAt addr
  record : am.accounts.find? addr = record
  nonces : kept am.nonces

section Ledger

variable {cfg : ShardConfig} {addr other : Address} {record : Option Account}
  {kept : NonceStore → Prop} {am : Ledger} {acc : Account}

namespace Watched

theorem load (watched : Watched addr record kept am) (other : Address) :
    Watched addr record kept (am.load other) where
  settled := watched.settled.load other
  record := (congrArg (KeyedMap.find? · addr) load_accounts).trans watched.record
  nonces := by
    rw [load_nonces]
    exact watched.nonces

theorem ownerInvariant (cfg : ShardConfig) (addr : Address) (record : Option Account)
    (kept : NonceStore → Prop) : OwnerInvariant cfg (· ≠ addr) (Watched addr record kept) where
  loaded _ other watched := watched.load other
  written _ _ ne watched := ⟨watched.settled.write ne, watched.record, watched.nonces⟩
  added _ _ ne watched :=
    ⟨fun _ found => watched.settled _ (LruCache.peek_add_other ne found), watched.record, watched.nonces⟩
  saved am acc ne _ watched := by
    have same : (am.accounts.insert acc).find? addr = am.accounts.find? addr := by
      rw [KeyedMap.find?_insert, if_neg ne]
    exact ⟨fun cached found => (storedAccount_congr same).trans (watched.settled cached found),
      same.trans watched.record, watched.nonces⟩

theorem consumeNonce {tx : Transaction}
    (bump : ∀ nonces value, kept nonces → kept (nonces.insert (tx.fromAddr, value))) :
    Stays (Watched addr record kept) (consumeNonce tx) := by
  intro am watched
  by_cases current : storedNonce am tx.fromAddr = tx.nonce
  · rw [consumeNonce_ok current]
    exact ⟨watched.settled, watched.record, bump _ _ watched.nonces⟩
  · obtain ⟨_, stale⟩ := consumeNonce_error current
    rw [stale]
    exact watched

end Watched

end Ledger

section World

variable {cfg : NodeConfig} {addr : Address} {record : Option Account}
  {kept : NonceStore → Prop} {tx : Transaction}

theorem watched_nonceStep (notFrom : tx.fromAddr ≠ addr)
    (bump : ∀ nonces value, kept nonces → kept (nonces.insert (cfg.checksumHex tx.fromAddr, value))) :
    NonceStep cfg tx (fun ws => Watched addr record kept ws.ledger)
      fun ws => Watched addr record kept ws.ledger where
  stableBefore := (Watched.ownerInvariant cfg addr record kept).stable notFrom
  stableAfter := (Watched.ownerInvariant cfg addr record kept).stable notFrom
  weaken _ := id
  step := by
    intro ws watched
    unfold onLedger atomicIncrementNonce
    dsimp only
    split_ifs
    · exact watched
    · exact ⟨watched.settled, watched.record, bump _ _ watched.nonces⟩

section

variable (notFrom : tx.fromAddr ≠ addr) (notTo : tx.type = .transfer → tx.toAddr ≠ addr)
  (bump : ∀ nonces value, kept nonces → kept (nonces.insert (tx.fromAddr, value)))
  (bumpContract : tx.type.isEVM = true →
    ∀ nonces value, kept nonces → kept (nonces.insert (cfg.checksumHex tx.fromAddr, value)))

include notFrom notTo bump bumpContract

theorem dispatchTransaction_watched :
    Stays (fun ws => Watched addr record kept ws.ledger) (dispatchTransaction cfg tx) := by
  have consumed : Stays (fun ws => Watched addr record kept ws.ledger) (onLedger (consumeNonce tx)) :=
    leads_onLedger (Watched.consumeNonce bump)
  have governed : Stays (fun ws => Watched addr record kept ws.ledger) (do
        onLedger (consumeNonce tx)
        executeGovernance cfg tx) :=
    consumed.seq fun _ => leads_executeGovernance
      ((Watched.ownerInvariant cfg addr record kept).applyGovernanceGasAndNonce notFrom)
  unfold dispatchTransaction
  cases kind : tx.type with
  | evmContractCall =>
    exact (watched_nonceStep notFrom (bumpContract (by rw [kind]; rfl))).executeEVMCall
  | evmContractDeploy =>
    exact (watched_nonceStep notFrom (bumpContract (by rw [kind]; rfl))).executeEVMDeploy
  | governancePropose | governanceVote | governanceFinalize => exact governed
  | transfer | stake | unstake | delegate | undelegate | claimRewards | unknown =>
    exact consumed.seq fun _ => leads_onLedger
      ((Watched.ownerInvariant cfg addr record kept).executeNative notFrom notTo)

theorem executeTransaction_watched :
    Stays (fun ws => Watched addr record kept ws.ledger) (executeTransaction cfg tx) := by
  intro ws watched
  unfold executeTransaction
  cases amounts : normalizeTransactionAmounts tx with
  | error =>
    rw [adapt_error (ofExcept_error rfl)]
    exact watched
  | ok =>
  obtain rfl := normalizeTransactionAmounts_ok amounts
  rw [adapt_ok (ofExcept_ok rfl)]
  have leads : Stays (fun ws => Watched addr record kept ws.ledger)
      (dispatchTransaction cfg tx.canonical) :=
    dispatchTransaction_watched notFrom notTo bump bumpContract
  exact (leads.seq fun _ => .skip _) _ watched

end

variable {am : Ledger}

theorem Ledger.SettledAt.read_load {cfg : ShardConfig}
    (settled : am.SettledAt addr) (other : Address) :
    readAccount cfg (am.load other) addr = readAccount cfg am addr :=
  (settled.load other).readAccount_congr settled (congrArg (KeyedMap.find? · addr) load_accounts)

theorem executeTransaction_credits {ws after : WorldState} {value : Transaction}
    (settled : ws.ledger.SettledAt addr) (kind : tx.type = .transfer) (notFrom : tx.fromAddr ≠ addr)
    (isTo : tx.toAddr = addr) (ran : executeTransaction cfg tx ws = .ok value after) :
    ∃ receiver, readAccount cfg ws.ledger addr = .ok receiver ∧ after.ledger.SettledAt addr ∧
      readAccount cfg after.ledger addr = .ok (receiver.credited tx.amountBig) ∧
      after.ledger.nonces = (ws.ledger.bumpNonce tx.fromAddr).nonces := by
  subst isTo
  have outcome := executeTransaction_native cfg (by rw [kind]; rfl) ws
  rw [ran] at outcome
  cases outcome with
  | executed _ _ _ exec =>
  have ne : tx.canonical.toAddr ≠ tx.canonical.fromAddr := Ne.symm notFrom
  obtain ⟨_, receiver, _, newReceiver, _, normalReceiver, ready, _,
    updatedReceiver, rfl⟩ := (executeNative_transfer cfg
      (show tx.canonical.type = .transfer from kind) ne _).ok_iff.mp exec
  have settledBump : (ws.ledger.bumpNonce tx.fromAddr).SettledAt tx.toAddr := settled
  have read : readAccount cfg ws.ledger tx.toAddr = .ok receiver := by
    have found : readAccount cfg
      ((ws.ledger.bumpNonce tx.fromAddr).load tx.fromAddr) tx.toAddr = .ok receiver :=
      ready.readReceiver
    rw [settledBump.read_load] at found
    exact found
  have balances := (transferBalances_ok_iff.mp ready.balances).2.2
  rw [Prod.mk.injEq, canonical_amountBig] at balances
  have credited : newReceiver = receiver.credited tx.amountBig := by
    rw [ready.receiver, balances.2]
    rfl
  have canonical : newReceiver.Canonical := by
    have old := settled.canonical read
    rw [credited]
    exact canonical_of_fields (by simp [Account.credited]) old.fields.2.1 old.fields.2.2
      (canonical_iff.mp old).2
  obtain ⟨rfl, _, _⟩ := (Updated.iff_of_canonical canonical).mp updatedReceiver
  have address : normalReceiver.address = tx.toAddr := by
    have same : (receiver.credited tx.amountBig).address = receiver.address := rfl
    rw [credited, same, readAccount_address read]
  refine ⟨receiver, read, ?_, ?_, ?_⟩
  · rw [← address]
    exact Ledger.SettledAt.store_self canonical
  · rw [readAccount_store_self _ address, credited]
    exact readAccount_readable read
  · simp [Ledger.store, Ledger.write, Ledger.assigned]

/-- The invariant may count the transactions executed so far. -/
theorem runTransactions_keeps {ws : WorldState} {txs : List Transaction}
    (inv : Nat → WorldState → Prop) (start : inv 0 ws) (step : ∀ tx ∈ txs, ∀ steps,
      Leads (inv steps) (inv (steps + 1)) (executeTransaction cfg tx)) :
    inv txs.length (runTransactions cfg txs ws) := by
  induction txs using List.reverseRecOn with
  | nil => exact start
  | append_singleton txs tx ih =>
    rw [runTransactions, List.foldl_append, List.length_append]
    refine step tx (by simp) _ _ (ih fun other listed => ?_)
    exact step other (List.mem_append_left _ listed)

/-- Whether or not the first attempt succeeded, and whatever is executed in between. -/
theorem spent_nonce_stays_spent (cfg : NodeConfig) (ws : WorldState) {first again : Transaction}
    (kind : first.type.isEVM = false) (kindAgain : again.type.isEVM = false)
    (sender : again.fromAddr = first.fromAddr) (nonce : again.nonce = first.nonce)
    (admitted : ¬ RefusedFirst cfg ws first) (between : List Transaction)
    (few : between.length + 1 < 2 ^ 64) :
    let later := runTransactions cfg between (executeTransaction cfg first ws).final
    ∃ err, executeTransaction cfg again later = .error err later := by
  intro later
  have current : storedNonce ws.ledger first.fromAddr = first.nonce := by
    by_contra stale
    exact admitted (.nonce kind stale)
  have within : Within between.length (executeTransaction cfg first ws).final later :=
    runTransactions_keeps (Within · _) (.refl _) fun tx _ steps =>
      executeTransaction_within cfg tx steps _
  obtain ⟨_, _, moved⟩ := within.nonces first.fromAddr
  rw [executeTransaction_consumes kind admitted] at moved
  refine executeTransaction_refused (.nonce kindAgain fun same => ?_)
  rw [sender, nonce, ← current] at same
  exact uint64_moved (by omega) (moved.symm.trans same)

theorem a_transfer_is_not_replayed :
    let tx := sampleTransaction .transfer [1] 0
    let later := runTransactions sampleConfig [tx]
      (executeTransaction sampleConfig tx sampleGenesis).final
    ∃ err, executeTransaction sampleConfig tx later = .error err later := by
  intro tx
  refine spent_nonce_stays_spent _ _ rfl rfl rfl rfl (fun refused => ?_) [tx] (by decide)
  have ran : (executeTransaction sampleConfig tx sampleGenesis).value?.isSome = true := by
    decide +kernel
  obtain ⟨_, failed⟩ := executeTransaction_refused refused
  rw [failed] at ran
  cases ran

/-- The transactions of others may fail, or be contract transactions. -/
theorem bystander_keeps_its_account (cfg : NodeConfig) (ws : WorldState) (addr : Address)
    (settled : ws.ledger.SettledAt addr) (txs : List Transaction)
    (apart : ∀ tx ∈ txs, tx.fromAddr ≠ addr ∧ (tx.type = .transfer → tx.toAddr ≠ addr) ∧
      (tx.type.isEVM = true → cfg.checksumHex tx.fromAddr ≠ addr)) :
    let after := runTransactions cfg txs ws
    readAccount cfg after.ledger addr = readAccount cfg ws.ledger addr ∧
      storedNonce after.ledger addr = storedNonce ws.ledger addr := by
  intro after
  have kept {other : Address} (ne : other ≠ addr) (nonces : NonceStore) (value : UInt64)
      (same : nonces.find? addr = ws.ledger.nonces.find? addr) :
      (nonces.insert (other, value)).find? addr = ws.ledger.nonces.find? addr := by
    rw [KeyedMap.find?_insert, if_neg ne, same]
  have watched : Watched addr (ws.ledger.accounts.find? addr)
      (·.find? addr = ws.ledger.nonces.find? addr) after.ledger := by
    refine runTransactions_keeps (fun _ ws => Watched _ _ _ ws.ledger) ⟨settled, rfl, rfl⟩
      fun tx listed _ => ?_
    obtain ⟨notFrom, notTo, contract⟩ := apart tx listed
    exact executeTransaction_watched notFrom notTo (kept notFrom) fun kind => kept (contract kind)
  refine ⟨watched.settled.readAccount_congr settled watched.record, ?_⟩
  unfold storedNonce
  rw [watched.nonces]

theorem a_third_account_is_untouched :
    let ws := sampleWorld [sampleAccount 97 [9], sampleAccount 99 [5]]
    let after := runTransactions sampleConfig [sampleTransaction .transfer [1] 0] ws
    readAccount sampleConfig after.ledger (sampleAddress 99) =
      readAccount sampleConfig ws.ledger (sampleAddress 99) := by
  refine (bystander_keeps_its_account _ _ _ (fun _ found => by cases found) _ ?_).1
  intro tx listed
  obtain rfl := List.mem_singleton.mp listed
  exact ⟨by decide, fun _ => by decide, nofun⟩

end World

end Thrylos
