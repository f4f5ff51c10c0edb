import Thrylos.RevmWrapper
import Thrylos.SettledLedger

/-!
What a contract transaction leaves. Nothing writes the accounts the interpreter would change: a
transaction that succeeds takes its value and its gas from the sender, and one that fails takes
nothing.
-/

namespace Thrylos

open EStateM (Leads Stays)
open GoText

structure Paying (cfg : ShardConfig) (base : Ledger) (payer : Address) (amt : Nat)
    (am : Ledger) : Prop where
  settled : am.Settled cfg
  paid : am.record payer = { base.record payer with balance := BigEndian.encode amt }
  others : ∀ other, other ≠ payer → am.accounts.find? other = base.accounts.find? other

def heldBalance (acc : Account) : Nat := parseBigInt acc.balance

abbrev WorldState.funds (ws : WorldState) (tx : Transaction) : Nat :=
  heldBalance (ws.ledger.record tx.fromAddr)

namespace Paying

variable {cfg : ShardConfig} {base am next : Ledger} {payer : Address} {amt : Nat}

theorem start (settled : base.Settled cfg) (readable : Readable cfg payer) :
    Paying cfg base payer (heldBalance (base.record payer)) base where
  settled := settled
  paid := by
    have canonical := (settled.updated readable).canonical
    unfold heldBalance
    rw [canonical.fields.1]
  others _ _ := rfl

theorem of_accounts (paying : Paying cfg base payer amt am) (settled : next.Settled cfg)
    (same : next.accounts = am.accounts) : Paying cfg base payer amt next where
  settled := settled
  paid := by
    rw [← paying.paid]
    unfold Ledger.record
    rw [same]
  others other apart := by rw [same, paying.others other apart]

theorem load (paying : Paying cfg base payer amt am) (addr : Address) :
    Paying cfg base payer amt (am.load addr) :=
  paying.of_accounts (paying.settled.load addr) load_accounts

theorem bumpNonce (paying : Paying cfg base payer amt am) (addr : Address) :
    Paying cfg base payer amt (am.bumpNonce addr) :=
  paying.of_accounts ⟨paying.settled.coherent, paying.settled.wellKept⟩ rfl

theorem readOther (paying : Paying cfg base payer amt am) (settled : base.Settled cfg)
    {other : Address} (apart : other ≠ payer) :
    readAccount cfg am other = readAccount cfg base other :=
  readAccount_eq_of_stored paying.settled.coherent settled.coherent (paying.others other apart)

theorem unmoved (paying : Paying cfg base payer (heldBalance (base.record payer)) am)
    (settled : base.Settled cfg) (readable : Readable cfg payer) :
    readAccount cfg am = readAccount cfg base := by
  funext addr
  by_cases own : addr = payer
  · rw [own, paying.settled.read readable, settled.read readable, paying.paid,
      ← (Paying.start settled readable).paid]
  · exact paying.readOther settled own

theorem total (paying : Paying cfg base payer amt am) (small : amt < uint256Bound) :
    am.accounts.total heldBalance + heldBalance (base.record payer) =
      base.accounts.total heldBalance + amt := by
  have nothing : ∀ addr, heldBalance (Account.fresh addr) = 0 := fun _ => rfl
  have address : (am.record payer).address = payer := am.record_address payer
  have same : base.accounts.insert (am.record payer) = am.accounts.insert (am.record payer) := by
    refine KeyedMap.ext_find? fun wanted => ?_
    rw [KeyedMap.find?_insert, KeyedMap.find?_insert]
    split_ifs with own
    · rfl
    · exact (paying.others wanted fun same => own (address.trans same.symm)).symm
  have left := base.total_insert_record (am.record payer) heldBalance nothing
  have right := am.total_insert_record (am.record payer) heldBalance nothing
  have paid : heldBalance (am.record payer) = amt := by
    rw [paying.paid]
    exact parseBigInt_encode small
  rw [address] at left right
  rw [same] at left
  omega

end Paying

section Steps

variable {cfg : NodeConfig} {base : Ledger} {payer : Address} {amt : Nat} {ws : WorldState}

theorem getBalance_paying (paying : Paying cfg base payer amt ws.ledger)
    (readable : Readable cfg payer) (small : amt < uint256Bound) :
    getBalance cfg payer ws = .ok amt { ws with ledger := ws.ledger.load payer } := by
  unfold getBalance
  rw [bind_ok (onLedger_ok (getAccount_ok (paying.settled.read readable)))]
  apply ofExcept_ok
  rw [paying.paid]
  exact parseUint256Bytes_encode small

theorem updateBalance_paying (paying : Paying cfg base payer amt ws.ledger)
    (readable : Readable cfg payer) {newBalance : Nat} (small : newBalance < uint256Bound) :
    ∃ am, updateBalance cfg payer newBalance ws = .ok () { ws with ledger := am } ∧
      Paying cfg base payer newBalance am ∧
      am.nonces = ws.ledger.nonces := by
  have record := ws.ledger.record_address payer
  have old := paying.settled.updated readable
  generalize held : ws.ledger.record payer = acc at record old
  have read : readAccount cfg ws.ledger payer = .ok acc :=
    held ▸ paying.settled.read readable
  have encoded : mustUint256Bytes (newBalance : Int) = BigEndian.encode newBalance :=
    mustUint256Bytes_natCast small
  have canonical : { acc with balance := mustUint256Bytes (newBalance : Int) }.Canonical :=
    canonical_of_fields (by simp) old.canonical.fields.2.1 old.canonical.fields.2.2
      (canonical_iff.mp old.canonical).2
  have valid : validateAccount { acc with balance := mustUint256Bytes (newBalance : Int) } = .ok () :=
    (validateAccount_congr rfl rfl rfl).trans old.valid
  have updated : Updated cfg
      { acc with balance := mustUint256Bytes (newBalance : Int) }
      { acc with balance := mustUint256Bytes (newBalance : Int) } :=
    (Updated.iff_of_canonical canonical).mpr ⟨rfl, valid, old.shard⟩
  generalize changedAs : { acc with balance := mustUint256Bytes (newBalance : Int) } = changed
    at canonical valid updated
  have own : changed.address = payer := changedAs ▸ record
  refine ⟨((ws.ledger.load payer).write changed).store changed, ?_,
    ⟨(paying.settled.load payer).assigned updated, ?_, fun other apart => ?_⟩, ?_⟩
  · have nonnegative : ¬ (newBalance : Int) < 0 := by omega
    unfold updateBalance
    simp only [nonnegative, if_false]
    rw [adapt_ok (onLedger_ok (getAccount_ok read)), changedAs,
      bind_ok (onLedger_ok (writeThrough_ok _ _)),
      adapt_ok (onLedger_ok (updateAccount_ok updated _)),
      write_write_ledger rfl]
    rfl
  · have found : ((ws.ledger.load payer).accounts.insert changed).find? payer = some changed := by
      rw [KeyedMap.find?_insert, if_pos own]
    have stored : (((ws.ledger.load payer).write changed).store changed).record payer = changed := by
      unfold Ledger.record
      exact congrArg (Option.getD · _) found
    rw [stored, ← changedAs, ← held, paying.paid, encoded]
  · change ((ws.ledger.load payer).accounts.insert changed).find? other = _
    rw [KeyedMap.find?_insert, if_neg fun same => apart (same.symm.trans own), load_accounts]
    exact paying.others other apart
  · exact load_nonces

theorem ignoreFailure_of_ok {prog : WorldM Unit} {after : WorldState}
    (ran : prog ws = .ok () after) : ignoreFailure prog ws = .ok () after := by
  change EStateM.tryCatch _ _ ws = _
  unfold EStateM.tryCatch
  rw [ran]

theorem addBalance_paying (paying : Paying cfg base payer amt ws.ledger)
    (readable : Readable cfg payer) {extra : Nat} (small : amt + extra < uint256Bound) :
    ∃ am, addBalance cfg payer extra ws = .ok () { ws with ledger := am } ∧
      Paying cfg base payer (amt + extra) am := by
  obtain ⟨am, ran, paid, -⟩ := updateBalance_paying
    (show Paying _ _ _ _ ({ ws with ledger := ws.ledger.load payer } : WorldState).ledger from
      paying.load payer) readable small
  have added : (do
      let currentBalance ← getBalance cfg payer
      updateBalance cfg payer (currentBalance + (extra : Int))) ws = .ok () { ws with ledger := am } := by
    rw [bind_ok (getBalance_paying paying readable (by omega))]
    exact ran
  exact ⟨am, ignoreFailure_of_ok added, paid⟩

theorem paying_getAccount (addr : Address) :
    Stays (fun ws => Paying cfg base payer amt ws.ledger) (onLedger (getAccount cfg addr)) :=
  stays_getAccount fun _ paying => paying.load addr

theorem paying_lookupAccounts (addrs : List Address) :
    Stays (fun ws => Paying cfg base payer amt ws.ledger) (lookupAccounts cfg addrs) := by
  induction addrs with
  | nil => exact .skip _
  | cons addr _ ih =>
    refine Leads.seq (Leads.tryCatch ?_ (fun _ => .skip _) fun _ => id) fun _ => ih
    exact (paying_getAccount addr).seq fun _ => .skip _

end Steps

section Reserve

variable {cfg : NodeConfig} {ws : WorldState} {tx : Transaction}

def Unmoved (cfg : ShardConfig) (base am : Ledger) : Prop :=
  am.Settled cfg ∧ am.accounts = base.accounts

variable {base am : Ledger} {shard : ShardConfig}

theorem Unmoved.load (same : Unmoved shard base am)
    (addr : Address) : Unmoved shard base (am.load addr) :=
  ⟨same.1.load addr, load_accounts.trans same.2⟩

theorem Unmoved.reads (same : Unmoved shard base am)
    (settled : base.Settled shard) : readAccount shard am = readAccount shard base :=
  funext fun addr => readAccount_eq_of_stored same.1.coherent settled.coherent (by rw [same.2])

theorem checkEVMFunds_cases (tx : Transaction) (purpose : String) (settled : ws.ledger.Settled cfg) :
    (∃ err am, checkEVMFunds cfg tx.canonical purpose ws =
        .error err { ws with ledger := am } ∧ Unmoved cfg ws.ledger am) ∨
      Readable cfg tx.fromAddr ∧
      tx.contractCost ≤ ws.funds tx ∧
      checkEVMFunds cfg tx.canonical purpose ws =
        .ok (parseBigInt tx.amount, parseBigInt tx.gasPrice, (ws.funds tx : Int) - tx.contractCost)
          (ws.consulted tx.fromAddr) := by
  have unmoved : Unmoved cfg ws.ledger ws.ledger := ⟨settled, rfl⟩
  have outcome := checkEVMFunds_outcome cfg tx ws purpose
  generalize checkEVMFunds cfg tx.canonical purpose ws = result at outcome
  cases outcome with
  | unread => exact .inl ⟨_, ws.ledger, rfl, unmoved⟩
  | stale => exact .inl ⟨_, _, rfl, unmoved.load _⟩
  | unpaid => exact .inl ⟨_, _, rfl, (unmoved.load _).load _⟩
  | covered _ read _ _ covered =>
    have readable := readAccount_readable read
    cases read.symm.trans (settled.read readable)
    exact .inr ⟨readable, covered, rfl⟩

theorem reserveContract_cases (cfg : NodeConfig) (tx : Transaction)
    (settled : ws.ledger.Settled cfg) : (∃ err am, reserveContract cfg tx.canonical ws =
        .error err { ws with ledger := am } ∧ Unmoved cfg ws.ledger am) ∨
      Readable cfg tx.fromAddr ∧
      tx.contractCost ≤ ws.funds tx ∧
      ∃ am, reserveContract cfg tx.canonical ws =
          .ok (parseBigInt tx.amount, parseBigInt tx.gasPrice) { ws with ledger := am } ∧
        Paying cfg ws.ledger tx.fromAddr (ws.funds tx - tx.contractCost) am := by
  have unmoved : Unmoved cfg ws.ledger ws.ledger := ⟨settled, rfl⟩
  have held : ws.funds tx < uint256Bound := parseBigInt_lt _
  have pays (readable : Readable cfg tx.fromAddr)
      (covered : tx.contractCost ≤ ws.funds tx) :
      ∃ am, updateBalance cfg tx.fromAddr
          ((ws.funds tx : Int) - tx.contractCost)
          (ws.consulted tx.fromAddr) = .ok () { ws with ledger := am } ∧
        Paying cfg ws.ledger tx.fromAddr (ws.funds tx - tx.contractCost) am := by
    have paying : Paying cfg ws.ledger tx.fromAddr _
        (ws.consulted tx.fromAddr).ledger :=
      ((Paying.start settled readable).load tx.fromAddr).load tx.fromAddr
    obtain ⟨am, ran, paid, -⟩ := updateBalance_paying paying readable
      (show ws.funds tx - tx.contractCost < uint256Bound by omega)
    rw [Nat.cast_sub covered] at ran
    exact ⟨am, ran, paid⟩
  unfold reserveContract reserveDeployment reserveCall
  cases chain : checkChainID cfg tx.canonical with
  | error =>
    split <;> rw [check_error] <;> exact Or.inl ⟨_, _, rfl, unmoved⟩
  | ok =>
  split
  · rw [check_ok]
    rcases checkEVMFunds_cases tx "deployment" settled with
      ⟨err, am, failed, same⟩ | ⟨readable, covered, funds⟩
    · rw [bind_error failed]
      exact Or.inl ⟨_, _, rfl, same⟩
    · obtain ⟨am, ran, paid⟩ := pays readable covered
      rw [bind_ok funds]
      exact Or.inr ⟨readable, covered, am, adapt_ok ran _, paid⟩
  · rw [check_ok]
    cases gas : checkCallGas tx.canonical with
    | error =>
      rw [check_error]
      exact Or.inl ⟨_, _, rfl, unmoved⟩
    | ok =>
    rw [check_ok]
    rcases checkEVMFunds_cases tx "execution" settled with
      ⟨err, am, failed, same⟩ | ⟨readable, covered, funds⟩
    · rw [bind_error failed]
      exact Or.inl ⟨_, _, rfl, same⟩
    · obtain ⟨am, ran, paid⟩ := pays readable covered
      rw [bind_ok funds]
      exact Or.inr ⟨readable, covered, am, bind_ok (ignoreFailure_of_ok ran) _, paid⟩

end Reserve

section Settle

variable {cfg : NodeConfig} {base : Ledger} {amt : Nat} {ws : WorldState}
  {tx : Transaction} {gasPrice : Nat} {gasUsed : UInt64}

theorem refundUnused_paying (paying : Paying cfg base tx.fromAddr amt ws.ledger)
    (readable : Readable cfg tx.fromAddr) (within : gasUsed ≤ tx.gas.toUInt64)
    (small : amt + (tx.gas.toUInt64.toNat - gasUsed.toNat) * gasPrice < uint256Bound)
    (next : WorldM Unit) : ∃ am, (do
        if 0 < gasRefund tx gasPrice gasUsed then
          addBalance cfg tx.fromAddr (gasRefund tx gasPrice gasUsed)
        next) ws = next { ws with ledger := am } ∧
      Paying cfg base tx.fromAddr
        (amt + (tx.gas.toUInt64.toNat - gasUsed.toNat) * gasPrice) am := by
  have refund : gasRefund tx gasPrice gasUsed =
      (((tx.gas.toUInt64.toNat - gasUsed.toNat) * gasPrice : Nat) : Int) := by
    have ordered : gasUsed.toNat ≤ tx.gas.toUInt64.toNat := UInt64.le_iff_toNat_le.mp within
    unfold gasRefund
    push_cast [Nat.cast_sub ordered]
    ring
  by_cases owed : 0 < gasRefund tx gasPrice gasUsed
  · obtain ⟨am, added, paid⟩ := addBalance_paying paying readable small
    refine ⟨am, ?_, paid⟩
    rw [← refund] at added
    rw [if_pos owed, bind_ok added]
  · have nothing : (tx.gas.toUInt64.toNat - gasUsed.toNat) * gasPrice = 0 := by omega
    refine ⟨ws.ledger, by rw [if_neg owed], ?_⟩
    rw [nothing]
    exact paying

theorem settleContract_paid (paying : Paying cfg base tx.fromAddr amt ws.ledger)
    (readable : Readable cfg tx.fromAddr) (value : Nat) (within : gasUsed ≤ tx.gas.toUInt64)
    (small : amt + (tx.gas.toUInt64.toNat - gasUsed.toNat) * gasPrice < uint256Bound) :
    ∃ am, settleContract cfg tx (value, gasPrice) (gasUsed, none) ws =
        .ok () { ws with ledger := am } ∧
      Paying cfg base tx.fromAddr
        (amt + (tx.gas.toUInt64.toNat - gasUsed.toNat) * gasPrice) am := by
  obtain ⟨am, same, paid⟩ := refundUnused_paying paying readable within small (pure ())
  refine ⟨am, ?_, paid⟩
  unfold settleContract
  split <;> exact same

theorem settleContract_returned (paying : Paying cfg base tx.fromAddr amt ws.ledger)
    (readable : Readable cfg tx.fromAddr) {value : Nat} (err : String)
    (small : amt + tx.gas.toUInt64.toNat * gasPrice + value < uint256Bound) :
    ∃ message am, settleContract cfg tx (value, gasPrice) (0, some err) ws =
        .error message { ws with ledger := am } ∧
      Paying cfg base tx.fromAddr (amt + tx.gas.toUInt64.toNat * gasPrice + value) am := by
  have within : (0 : UInt64) ≤ tx.gas.toUInt64 := UInt64.zero_le
  have whole : (tx.gas.toUInt64.toNat - (0 : UInt64).toNat) * gasPrice =
      tx.gas.toUInt64.toNat * gasPrice := rfl
  have bounded : amt + (tx.gas.toUInt64.toNat - (0 : UInt64).toNat) * gasPrice < uint256Bound := by
    rw [whole]
    omega
  unfold settleContract settleDeployment settleCall
  split
  · obtain ⟨am, same, paid⟩ := refundUnused_paying paying readable within bounded (do
      let currentBalance ← (getBalance cfg tx.fromAddr).adaptExcept
        ("contract deployment failed and refund lookup failed: " ++ ·)
      (updateBalance cfg tx.fromAddr (currentBalance + value)).adaptExcept
        ("contract deployment failed and value refund failed: " ++ ·)
      throw s!"contract deployment failed: {err}")
    rw [whole] at paid
    have again : Paying cfg base tx.fromAddr _
        ({ ws with ledger := am.load tx.fromAddr } : WorldState).ledger := paid.load tx.fromAddr
    obtain ⟨last, ran, returned, -⟩ := updateBalance_paying again readable small
    have looked : getBalance cfg tx.fromAddr { ws with ledger := am } =
        .ok (amt + tx.gas.toUInt64.toNat * gasPrice) { ws with ledger := am.load tx.fromAddr } :=
      getBalance_paying paid readable (by omega)
    rw [Nat.cast_add] at ran
    rw [adapt_ok looked, adapt_ok ran] at same
    exact ⟨_, last, same, returned⟩
  · obtain ⟨am, same, paid⟩ := refundUnused_paying paying readable within bounded (do
      addBalance cfg tx.fromAddr value
      throw s!"EVM execution failed: {err}")
    rw [whole] at paid
    have again : Paying cfg base tx.fromAddr _ ({ ws with ledger := am } : WorldState).ledger := paid
    obtain ⟨last, added, returned⟩ := addBalance_paying again readable small
    rw [bind_ok added] at same
    exact ⟨_, last, same, returned⟩

end Settle

def contractEntry (cfg : NodeConfig) (tx : Transaction) (ws : WorldState) : WorldState :=
  (reserveContract cfg tx.canonical ws).final.entered cfg tx.canonical

structure Runs (cfg : NodeConfig) (revm : Revm) (ws : WorldState) (tx : Transaction)
    (result : ResultAndState) : Prop where
  amounts : normalizeTransactionAmounts tx = .ok tx.canonical
  reserves : ∃ funds reserved, reserveContract (cfg.interpretedBy revm) tx.canonical ws =
    .ok funds reserved ∧ Enters (cfg.interpretedBy revm) tx.canonical reserved
  admits : revm.Admits (contractEntry (cfg.interpretedBy revm) tx ws) tx.canonical
  transacted : revm.transact (contractEntry (cfg.interpretedBy revm) tx ws) tx.canonical =
    .ok result

def chargedBalance (ws : WorldState) (tx : Transaction) (value gasUsed : Nat) : Nat :=
  heldBalance (ws.ledger.record tx.fromAddr) - (value + gasUsed * parseBigInt tx.gasPrice)

inductive ContractOutcome (cfg : NodeConfig) (revm : Revm) (ws : WorldState)
    (tx : Transaction) : EStateM.Result String WorldState Transaction → Prop where
  | failed (err : String) (am : Ledger) (evmGas : EvmGas) (ticks : Nat)
      (same : readAccount cfg am = readAccount cfg ws.ledger)
      (fails : ∀ result, Runs cfg revm ws tx result →
        result.success = false ∧ Readable cfg tx.fromAddr ∧
          tx.contractCost ≤ heldBalance (ws.ledger.record tx.fromAddr)) :
      ContractOutcome cfg revm ws tx (.error err { ws with ledger := am, evmGas, ticks })
  | succeeded (result : ResultAndState) (am : Ledger) (evmGas : EvmGas) (ticks : Nat)
      (runs : Runs cfg revm ws tx result) (success : result.success = true)
      (covered : tx.contractCost ≤ heldBalance (ws.ledger.record tx.fromAddr))
      (paying : Paying cfg ws.ledger tx.fromAddr
        (chargedBalance ws tx (parseBigInt tx.amount) result.gasUsed.toNat) am) :
      ContractOutcome cfg revm ws tx (.ok tx.canonical { ws with ledger := am, evmGas, ticks })

section Outcome

variable {cfg : NodeConfig} {revm : Revm} {ws : WorldState} {tx : Transaction}

theorem returned_contract (settled : ws.ledger.Settled cfg) (readable : Readable cfg tx.fromAddr)
    (covered : tx.contractCost ≤ ws.funds tx) {am : Ledger}
    (evmGas : EvmGas) (ticks : Nat) (err : String)
    (paying : Paying cfg ws.ledger tx.fromAddr (ws.funds tx - tx.contractCost) am)
    (fails : ∀ result, Runs cfg revm ws tx result → result.success = false) :
    ContractOutcome cfg revm ws tx ((do
      settleContract (cfg.interpretedBy revm) tx.canonical
        (parseBigInt tx.amount, parseBigInt tx.gasPrice) (0, some err)
      return tx.canonical : WorldM Transaction) { ws with ledger := am, evmGas, ticks }) := by
  have held : ws.funds tx < uint256Bound := parseBigInt_lt _
  have cost : tx.contractCost = tx.gas.toUInt64.toNat * parseBigInt tx.gasPrice +
      parseBigInt tx.amount := rfl
  have whole : ws.funds tx - tx.contractCost +
      tx.canonical.gas.toUInt64.toNat * parseBigInt tx.gasPrice + parseBigInt tx.amount =
        ws.funds tx := by
    change _ + tx.gas.toUInt64.toNat * _ + _ = _
    omega
  have before : Paying (cfg.interpretedBy revm).toShardConfig ws.ledger tx.canonical.fromAddr _
      ({ ws with ledger := am, evmGas, ticks } : WorldState).ledger := paying
  obtain ⟨message, last, failed, returned⟩ := settleContract_returned before readable err
    (show _ + tx.canonical.gas.toUInt64.toNat * parseBigInt tx.gasPrice + parseBigInt tx.amount < _ by
      rw [whole]; exact held)
  rw [whole] at returned
  rw [bind_error failed]
  exact .failed message last evmGas ticks (returned.unmoved settled readable)
    fun result runs => ⟨fails result runs, readable, covered⟩

theorem charged_after_refund (covered : tx.contractCost ≤ ws.funds tx)
    {gasUsed : UInt64} (within : gasUsed ≤ tx.gas.toUInt64) : ws.funds tx - tx.contractCost +
        (tx.gas.toUInt64.toNat - gasUsed.toNat) * parseBigInt tx.gasPrice =
      chargedBalance ws tx (parseBigInt tx.amount) gasUsed.toNat := by
  have cost : tx.contractCost = tx.gas.toUInt64.toNat * parseBigInt tx.gasPrice +
      parseBigInt tx.amount := rfl
  have less : gasUsed.toNat * parseBigInt tx.gasPrice ≤
      tx.gas.toUInt64.toNat * parseBigInt tx.gasPrice :=
    Nat.mul_le_mul_right _ (UInt64.le_iff_toNat_le.mp within)
  unfold chargedBalance
  change ws.funds tx - _ + _ = ws.funds tx - _
  rw [Nat.sub_mul]
  omega

theorem entered_contract (settled : ws.ledger.Settled cfg) (readable : Readable cfg tx.fromAddr)
    (covered : tx.contractCost ≤ ws.funds tx)
    (amounts : normalizeTransactionAmounts tx = .ok tx.canonical) {paid : Ledger}
    (reserves : reserveContract (cfg.interpretedBy revm) tx.canonical ws =
      .ok (parseBigInt tx.amount, parseBigInt tx.gasPrice) { ws with ledger := paid })
    (paying : Paying cfg ws.ledger tx.fromAddr (ws.funds tx - tx.contractCost) paid) :
    ContractOutcome cfg revm ws tx ((do
      let report ← interpret (cfg.interpretedBy revm) tx.canonical
      settleContract (cfg.interpretedBy revm) tx.canonical
        (parseBigInt tx.amount, parseBigInt tx.gasPrice) report
      return tx.canonical : WorldM Transaction) { ws with ledger := paid }) := by
  have entry : contractEntry (cfg.interpretedBy revm) tx ws =
      WorldState.entered (cfg.interpretedBy revm) { ws with ledger := paid } tx.canonical := by
    unfold contractEntry
    rw [reserves]
    rfl
  have outcome := interpret_outcome (cfg.interpretedBy revm) tx.canonical { ws with ledger := paid }
  generalize interpreted : interpret (cfg.interpretedBy revm) tx.canonical
    { ws with ledger := paid } = result at outcome
  cases outcome with
  | unentered err evmGas ticks unmet =>
    rw [bind_ok interpreted]
    refine returned_contract settled readable covered evmGas ticks err paying fun result runs => ?_
    obtain ⟨_, _, again, enters⟩ := runs.reserves
    cases reserves.symm.trans again
    exact absurd enters unmet
  | entered failure evmGas ticks am enters looked same =>
  rw [bind_ok interpreted]
  have before : Paying (cfg.interpretedBy revm).toShardConfig ws.ledger tx.fromAddr
      (ws.funds tx - tx.contractCost) (WorldState.entered
        (cfg.interpretedBy revm) { ws with ledger := paid } tx.canonical).ledger :=
    paying.bumpNonce _
  have kept := paying_lookupAccounts ((cfg.interpretedBy revm).revm (WorldState.entered
    (cfg.interpretedBy revm) { ws with ledger := paid } tx.canonical) tx.canonical).lookups
    _ before
  rw [looked] at kept
  rw [show (cfg.interpretedBy revm).revm = revm.report from rfl, ← entry] at same ⊢
  rcases Revm.processResult_report revm (contractEntry (cfg.interpretedBy revm) tx ws)
      enters.bounded with
    ⟨result, succeeds, reported⟩ | ⟨fails, message, reported⟩
  · rw [reported] at same ⊢
    obtain rfl : failure = none := Option.isNone_iff_eq_none.mp same
    have within := revm.gas_le _ _ _ succeeds.transacted
    have left : ws.funds tx - tx.contractCost +
        (tx.canonical.gas.toUInt64.toNat - result.gasUsed.toNat) * parseBigInt tx.gasPrice =
          chargedBalance ws tx (parseBigInt tx.amount) result.gasUsed.toNat :=
      charged_after_refund covered within
    have held : ws.funds tx < uint256Bound := parseBigInt_lt _
    have bounded : ws.funds tx - tx.contractCost +
        (tx.canonical.gas.toUInt64.toNat - result.gasUsed.toNat) * parseBigInt tx.gasPrice <
          uint256Bound := by
      rw [left]
      exact Nat.lt_of_le_of_lt (Nat.sub_le _ _) held
    obtain ⟨last, settles, charged⟩ := settleContract_paid
      (show Paying (cfg.interpretedBy revm).toShardConfig ws.ledger tx.canonical.fromAddr _
        ({ ws with
          ledger := am
          evmGas
          ticks } : WorldState).ledger from kept) readable (parseBigInt tx.amount)
      within bounded
    rw [left] at charged
    rw [bind_ok settles]
    exact .succeeded result last evmGas ticks
      ⟨amounts, ⟨_, _, reserves, enters⟩, succeeds.admits, succeeds.transacted⟩ succeeds.success
      covered charged
  · rw [reported] at same ⊢
    cases failure with
    | none => cases same
    | some err =>
      refine returned_contract settled readable covered evmGas ticks err kept fun result runs => ?_
      by_contra success
      exact fails result ⟨runs.admits, runs.transacted, Bool.not_eq_false _ ▸ success⟩

theorem executeTransaction_contract_outcome (revm : Revm)
    (settled : ws.ledger.Settled cfg) (contract : tx.type.isEVM = true) :
    ContractOutcome cfg revm ws tx (executeTransaction (cfg.interpretedBy revm) tx ws) := by
  unfold executeTransaction
  cases amounts : normalizeTransactionAmounts tx with
  | error =>
    rw [adapt_error (ofExcept_error rfl)]
    refine .failed _ ws.ledger ws.evmGas ws.ticks rfl fun result runs => ?_
    cases amounts.symm.trans runs.amounts
  | ok =>
  obtain rfl := normalizeTransactionAmounts_ok amounts
  have canonical : tx.canonical.type.isEVM = true := contract
  rw [adapt_ok (ofExcept_ok rfl), dispatchTransaction_contract canonical]
  rcases reserveContract_cases (cfg.interpretedBy revm) tx settled with
    ⟨err, am, failed, unmoved⟩ | ⟨readable, covered, paid, reserves, paying⟩
  · rw [bind_error (bind_error failed _)]
    refine .failed err am ws.evmGas ws.ticks (unmoved.reads settled) fun result runs => ?_
    obtain ⟨_, _, again, -⟩ := runs.reserves
    cases failed.symm.trans again
  · have outcome := entered_contract settled readable covered amounts reserves paying
    have same : ((do
        let funds ← reserveContract (cfg.interpretedBy revm) tx.canonical
        let report ← interpret (cfg.interpretedBy revm) tx.canonical
        settleContract (cfg.interpretedBy revm) tx.canonical funds report) >>= fun _ =>
          (pure tx.canonical : WorldM Transaction)) ws =
      (do
        let report ← interpret (cfg.interpretedBy revm) tx.canonical
        settleContract (cfg.interpretedBy revm) tx.canonical
          (parseBigInt tx.amount, parseBigInt tx.gasPrice) report
        return tx.canonical : WorldM Transaction) { ws with ledger := paid } := by
      simp only [bind_assoc]
      rw [bind_ok reserves]
    rw [same]
    exact outcome

end Outcome

/-- `GetContractCode`; none where there is no record. -/
def getContractCode (ws : WorldState) (addr : Address) : Option Bytes :=
  (ws.contracts.find? (ascii "code:" ++ addr)).map Prod.snd

/-- `GetContractStorage`; a slot without a record is zero. -/
def getContractStorage (ws : WorldState) (addr key : Bytes) : Bytes :=
  match ws.contracts.find? (ascii "storage:" ++ addr ++ ascii ":" ++ key) with
  | none => List.replicate 32 0
  | some (_, value) => value

def getBalanceCallback (cfg : NodeConfig) (ws : WorldState) (addr : Address) : Nat :=
  match readAccount cfg ws.ledger addr with
  | .error _ => 0
  | .ok acc => heldBalance acc

section Effects

variable (cfg : NodeConfig) (tx : Transaction)

structure Holds (result : ResultAndState) (ws : WorldState) : Prop where
  code : ∀ change ∈ result.state, ∀ code, change.code = some code →
    getContractCode ws change.address = some code
  storage : ∀ change ∈ result.state, ∀ slot ∈ change.storage,
    getContractStorage ws change.address slot.1 = slot.2
  value : ∀ change ∈ result.state, change.address ≠ tx.fromAddr →
    change.address ≠ cfg.checksumHex tx.fromAddr →
    getBalanceCallback cfg ws change.address = change.balance

structure KeepsEffects (result : ResultAndState) (ws after : WorldState) : Prop where
  holds : Holds cfg tx result after
  total : after.ledger.accounts.total heldBalance +
    result.gasUsed.toNat * parseBigInt tx.gasPrice = ws.ledger.accounts.total heldBalance

structure FeeOnly (gasUsed : Nat) (ws after : WorldState) : Prop where
  rest : after = { ws with ledger := after.ledger, evmGas := after.evmGas, ticks := after.ticks }
  others : ∀ addr, addr ≠ tx.fromAddr → readAccount cfg after.ledger addr =
    readAccount cfg ws.ledger addr
  sender : ∀ acc, readAccount cfg ws.ledger tx.fromAddr = .ok acc →
    ∃ nonce, readAccount cfg after.ledger tx.fromAddr = .ok { acc with
      balance := BigEndian.encode (heldBalance acc - gasUsed * parseBigInt tx.gasPrice)
      nonce }

variable (revm : Revm) (ws : WorldState)

def Charged (gasUsed : Nat) : Prop :=
  (∃ result, Runs cfg revm ws tx result ∧ gasUsed = result.gasUsed.toNat) ∨
    (∀ result, ¬ Runs cfg revm ws tx result) ∧ gasUsed = 0

structure PaidFor : Prop where
  kept : ∀ value after, executeTransaction (cfg.interpretedBy revm) tx ws = .ok value after →
    ∀ result, Runs cfg revm ws tx result → KeepsEffects cfg tx result ws after
  charged : ∀ err after, executeTransaction (cfg.interpretedBy revm) tx ws =
    .error err after → ∀ gasUsed, Charged cfg tx revm ws gasUsed → FeeOnly cfg tx gasUsed ws after

def Harmless : Prop :=
  ∀ result, Runs cfg revm ws tx result →
    if result.success = true then Holds cfg tx result ws ∧ parseBigInt tx.amount = 0
    else result.gasUsed.toNat * parseBigInt tx.gasPrice = 0

end Effects

section Verdict

variable {cfg : NodeConfig} {tx : Transaction} {revm : Revm} {ws : WorldState}

theorem Runs.unique {first second : ResultAndState} (one : Runs cfg revm ws tx first)
    (other : Runs cfg revm ws tx second) : first = second := by
  cases one.transacted.symm.trans other.transacted
  rfl

variable {result : ResultAndState} {am : Ledger} {gasUsed : Nat}

theorem Runs.gas_le (runs : Runs cfg revm ws tx result) :
    result.gasUsed.toNat * parseBigInt tx.gasPrice + parseBigInt tx.amount ≤ tx.contractCost := by
  have within := UInt64.le_iff_toNat_le.mp (revm.gas_le _ _ _ runs.transacted)
  exact Nat.add_le_add_right (Nat.mul_le_mul_right _ within) _

theorem holds_iff {amt : Nat} (evmGas : EvmGas) (ticks : Nat) (settled : ws.ledger.Settled cfg)
    (paying : Paying cfg ws.ledger tx.fromAddr amt am) :
    Holds cfg tx result { ws with ledger := am, evmGas, ticks } ↔ Holds cfg tx result ws := by
  have same (addr : Address) (apart : addr ≠ tx.fromAddr) : getBalanceCallback cfg { ws with
      ledger := am
      evmGas
      ticks } addr = getBalanceCallback cfg ws addr := by
    unfold getBalanceCallback
    rw [paying.readOther settled apart]
  constructor
  · intro holds
    exact ⟨holds.code, holds.storage, fun change mem own checksum =>
      (same _ own).symm.trans (holds.value change mem own checksum)⟩
  · intro holds
    exact ⟨holds.code, holds.storage, fun change mem own checksum =>
      (same _ own).trans (holds.value change mem own checksum)⟩

theorem free_feeOnly (settled : ws.ledger.Settled cfg) (evmGas : EvmGas) (ticks : Nat)
    (same : readAccount cfg am = readAccount cfg ws.ledger)
    (free : gasUsed * parseBigInt tx.gasPrice = 0) :
    FeeOnly cfg tx gasUsed ws { ws with ledger := am, evmGas, ticks } where
  rest := rfl
  others addr _ := congrFun same addr
  sender acc read := by
    have readable := readAccount_readable read
    have started := (Paying.start settled readable).paid
    have own : ws.ledger.record tx.fromAddr = acc :=
      Except.ok.inj ((settled.read readable).symm.trans read)
    rw [own] at started
    refine ⟨acc.nonce, ?_⟩
    rw [free, Nat.sub_zero]
    exact ((congrFun same tx.fromAddr).trans read).trans (congrArg Except.ok started)

theorem FeeOnly.free {after : WorldState} (fee : FeeOnly cfg tx gasUsed ws after)
    (settled : ws.ledger.Settled cfg) (readable : Readable cfg tx.fromAddr)
    (same : readAccount cfg after.ledger = readAccount cfg ws.ledger)
    (covered : gasUsed * parseBigInt tx.gasPrice ≤ ws.funds tx) :
    gasUsed * parseBigInt tx.gasPrice = 0 := by
  have read := settled.read readable
  obtain ⟨_, charged⟩ := fee.sender _ read
  rw [same, read, Except.ok.injEq] at charged
  have held : ws.funds tx < uint256Bound := parseBigInt_lt _
  have bal : ws.funds tx = ws.funds tx - gasUsed * parseBigInt tx.gasPrice := by
    conv_lhs => rw [WorldState.funds, charged]
    exact parseBigInt_encode ((Nat.sub_le _ _).trans_lt held)
  omega

theorem Paying.total_charged {value : Nat}
    (paying : Paying cfg ws.ledger tx.fromAddr (chargedBalance ws tx value gasUsed) am)
    (covered : gasUsed * parseBigInt tx.gasPrice + value ≤ ws.funds tx) :
    am.accounts.total heldBalance + gasUsed * parseBigInt tx.gasPrice + value =
      ws.ledger.accounts.total heldBalance := by
  have held : ws.funds tx < uint256Bound := parseBigInt_lt _
  have moved := paying.total (Nat.lt_of_le_of_lt (Nat.sub_le _ _) held)
  change _ + ws.funds tx = _ + (ws.funds tx - _) at moved
  omega

theorem contract_effects_kept_iff_harmless (settled : ws.ledger.Settled cfg)
    (contract : tx.type.isEVM = true) : PaidFor cfg tx revm ws ↔ Harmless cfg tx revm ws := by
  have outcome := executeTransaction_contract_outcome revm settled contract
  generalize ran : executeTransaction (cfg.interpretedBy revm) tx ws = final at outcome
  cases outcome with
  | failed _ _ evmGas ticks same fails =>
    constructor
    · intro paid result runs
      obtain ⟨failure, readable, covered⟩ := fails result runs
      rw [if_neg (by rw [failure]; exact Bool.false_ne_true)]
      have fee := paid.charged _ _ ran _ (.inl ⟨result, runs, rfl⟩)
      exact fee.free settled readable same ((Nat.le_of_add_right_le runs.gas_le).trans covered)
    · intro harmless
      refine ⟨fun value after succeeded => ?_, fun refused after failed gasUsed charged => ?_⟩
      · cases ran.symm.trans succeeded
      cases ran.symm.trans failed
      refine free_feeOnly settled evmGas ticks same ?_
      rcases charged with ⟨result, runs, rfl⟩ | ⟨-, rfl⟩
      · have free := harmless result runs
        rwa [if_neg (by rw [(fails result runs).1]; exact Bool.false_ne_true)] at free
      · exact Nat.zero_mul _
  | succeeded result am evmGas ticks runs success covered paying =>
    have total := paying.total_charged (runs.gas_le.trans covered)
    constructor
    · intro paid other others
      obtain rfl := runs.unique others
      rw [if_pos success]
      have kept := paid.kept _ _ ran result runs
      exact ⟨(holds_iff evmGas ticks settled paying).mp kept.holds, by
        have := kept.total
        change am.accounts.total heldBalance + _ = _ at this
        omega⟩
    · intro harmless
      have inert := harmless result runs
      rw [if_pos success] at inert
      refine ⟨fun value after succeeded other others => ?_, fun refused after failed => ?_⟩
      · obtain rfl := runs.unique others
        cases ran.symm.trans succeeded
        refine ⟨(holds_iff evmGas ticks settled paying).mpr inert.1, ?_⟩
        change am.accounts.total heldBalance + _ = _
        omega
      · cases ran.symm.trans failed

end Verdict

def sampleMachine (success : Bool) (st : List EvmChange) : Revm where
  checkAndRecord _ _ := none
  validateBytecode _ := none
  transact _ tx := .ok ⟨success, tx.gas.toUInt64, "", st⟩
  lookups _ _ := []
  gas_le _ _ _ ran := by
    cases ran
    exact UInt64.le_refl _

def sampleCaller : WorldState := sampleTip [sampleAccount 97 [1, 0, 0]]

theorem sampleCaller_settled : sampleCaller.ledger.Settled sampleConfig where
  coherent := (agrees_of_unused sampleConfig rfl rfl (by decide)).coherent
  wellKept addr acc found := by
    change (KeyedMap.empty.insert (sampleAccount 97 [1, 0, 0])).find? addr = some acc at found
    rw [KeyedMap.find?_insert] at found
    split_ifs at found
    · cases found
      have canonical : (sampleAccount 97 [1, 0, 0]).Canonical := rfl
      exact (Updated.iff_of_canonical canonical).mpr ⟨rfl, by decide, by decide⟩
    · cases found

def sampleCall (amt : Bytes) : Transaction :=
  { sampleTransaction .evmContractCall amt 0 with gas := 30000 }

theorem sampleCall_runs (success : Bool) (st : List EvmChange) {amt : Bytes}
    (listed : amt ∈ [[], [5]]) :
    Runs sampleConfig (sampleMachine success st) sampleCaller (sampleCall amt)
      ⟨success, 30000, "", st⟩ := by
  have reserved : ∀ amt ∈ [[], [5]],
      normalizeTransactionAmounts (sampleCall amt) = .ok (sampleCall amt).canonical ∧
      let result := reserveContract sampleConfig (sampleCall amt).canonical sampleCaller
      let gas := result.final.windowGas sampleConfig
      let limits := circuitBreakerLimits result.final.governance
      result.value?.isSome = true ∧ storedNonce result.final.ledger (sampleAddress 97) = 0 ∧
        ¬ limits.2.1 < gas.windowTxCount + 1 ∧ ¬ limits.1 < gas.windowGasUsed + 30000 ∧
        ¬ (gas.blockGasLimit ≠ 0 ∧ gas.blockGasLimit < gas.blockGasUsed + 30000) := by
    decide +kernel
  obtain ⟨amounts, paid, current, count, window, blk⟩ := reserved amt listed
  obtain ⟨funds, ran⟩ := EStateM.Result.ok_of_value? paid
  have bounded : (sampleCall amt).canonical.Bounded :=
    (by decide : ¬ (30000000 : UInt64) < 30000 ∧ (30000 : UInt64) ≠ 0)
  have size : ¬ 1048576 < ([] : Bytes).length := by decide
  exact ⟨amounts, ⟨funds, _, ran, bounded, ⟨count, window, blk⟩, current⟩,
    ⟨rfl, size, fun deploy => by cases deploy⟩, rfl⟩

theorem an_idle_call_is_kept :
    Runs sampleConfig (sampleMachine true []) sampleCaller (sampleCall []) ⟨true, 30000, "", []⟩ ∧
      PaidFor sampleConfig (sampleCall []) (sampleMachine true []) sampleCaller := by
  refine ⟨sampleCall_runs true [] (by decide), ?_⟩
  refine (contract_effects_kept_iff_harmless sampleCaller_settled rfl).mpr fun result runs => ?_
  cases runs.transacted
  exact ⟨⟨fun _ mem => absurd mem List.not_mem_nil, fun _ mem => absurd mem List.not_mem_nil,
    fun _ mem => absurd mem List.not_mem_nil⟩, rfl⟩

def sampleChange : EvmChange := ⟨sampleAddress 98, 5, none, [([1], [9])]⟩

theorem a_call_loses_its_effects : sampleCaller.ledger.Settled sampleConfig ∧
    Runs sampleConfig (sampleMachine true [sampleChange]) sampleCaller (sampleCall [5])
      ⟨true, 30000, "", [sampleChange]⟩ ∧
    Runs sampleConfig (sampleMachine false []) sampleCaller (sampleCall []) ⟨false, 30000, "", []⟩ ∧
    (∃ value after, executeTransaction (sampleConfig.interpretedBy (sampleMachine true [sampleChange]))
        (sampleCall [5]) sampleCaller = .ok value after ∧
      getContractStorage after (sampleAddress 98) [1] = List.replicate 32 0 ∧
      getBalanceCallback sampleConfig after (sampleAddress 98) = 0 ∧
      getBalanceCallback sampleConfig after (sampleAddress 97) = 65536 - 60000 - 5) ∧
    ∃ err after, executeTransaction (sampleConfig.interpretedBy (sampleMachine false []))
        (sampleCall []) sampleCaller = .error err after ∧
      getBalanceCallback sampleConfig after (sampleAddress 97) = 65536 := by
  refine ⟨sampleCaller_settled, sampleCall_runs true _ (by decide),
    sampleCall_runs false _ (by decide), ?_, ?_⟩
  · have ran : (executeTransaction (sampleConfig.interpretedBy (sampleMachine true [sampleChange]))
        (sampleCall [5]) sampleCaller).value?.isSome = true ∧
        let after := (executeTransaction (sampleConfig.interpretedBy (sampleMachine true [sampleChange]))
          (sampleCall [5]) sampleCaller).final
        getContractStorage after (sampleAddress 98) [1] = List.replicate 32 0 ∧
        getBalanceCallback sampleConfig after (sampleAddress 98) = 0 ∧
        getBalanceCallback sampleConfig after (sampleAddress 97) = 65536 - 60000 - 5 := by
      decide +kernel
    obtain ⟨value, exec⟩ := EStateM.Result.ok_of_value? ran.1
    exact ⟨value, _, exec, ran.2⟩
  · have ran : (executeTransaction (sampleConfig.interpretedBy (sampleMachine false []))
        (sampleCall []) sampleCaller).failed?.any (fun after =>
          getBalanceCallback sampleConfig after (sampleAddress 97) = 65536) = true := by
      decide +kernel
    obtain ⟨err, after, exec, kept⟩ := EStateM.Result.exists_of_failed? ran
    exact ⟨err, after, exec, of_decide_eq_true kept⟩

end Thrylos
