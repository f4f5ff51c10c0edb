import Thrylos.ExecutionFrame
import Thrylos.Library.Totals

/-!
Value conservation of native execution: what all accounts hold together falls by exactly the gas
paid when a transaction succeeds and never rises when one fails.
-/

namespace Thrylos

open EStateM.Result (final ok_of_value?)

def Account.worth (acc : Account) : Nat :=
  parseBigInt acc.balance + parseBigInt acc.stakedAmount + parseBigInt acc.rewards

def held (cfg : ShardConfig) (am : Ledger) (addr : Address) : Nat :=
  match getAccount cfg addr am with
  | .ok acc _ => acc.worth
  | .error _ _ => 0

def Ledger.holders (am : Ledger) : Finset Address :=
  (am.cache.keys ++ am.accounts.keys).toFinset

def totalHeld (cfg : ShardConfig) (am : Ledger) : Nat :=
  ∑ addr ∈ am.holders, held cfg am addr

theorem SameHoldings.worth {left right : Account} (same : SameHoldings left right) :
    left.worth = right.worth := by
  simp only [Account.worth, same.balance, same.stakedAmount, same.rewards]

section Totals

variable {cfg : ShardConfig} {am : Ledger} {addr : Address} {acc : Account}

theorem held_of_read (read : readAccount cfg am addr = .ok acc) : held cfg am addr = acc.worth := by
  rw [held, getAccount_ok read]

theorem held_congr {left right : Ledger}
    (same : readAccount cfg left addr = readAccount cfg right addr) :
    held cfg left addr = held cfg right addr := by
  cases read : readAccount cfg right addr with
  | ok => rw [held_of_read read, held_of_read (same.trans read)]
  | error => rw [held, held, getAccount_error read, getAccount_error (same.trans read)]

theorem held_absent (absent : addr ∉ am.holders) : held cfg am addr = 0 := by
  simp only [Ledger.holders, List.mem_toFinset, List.mem_append, not_or] at absent
  have uncached := LruCache.peek_eq_none.mpr absent.1
  have unstored : storedAccount am addr = .ok none := by
    rw [storedAccount, KeyedMap.find?_eq_none.mpr absent.2]
  cases read : readAccount cfg am addr with
  | error => rw [held, getAccount_error read]
  | ok =>
  have answer := read
  rw [readAccount_of_readable (readAccount_readable read), uncached, unstored] at answer
  simp only [Except.map, Option.getD_none, Except.ok.injEq] at answer
  rw [held_of_read read, ← answer]
  rfl

theorem totalHeld_cover {wide : Finset Address} (covers : am.holders ⊆ wide) :
    totalHeld cfg am = ∑ addr ∈ wide, held cfg am addr :=
  Finset.sum_subset covers fun _ _ absent => held_absent absent

theorem held_le_totalHeld (addr : Address) : held cfg am addr ≤ totalHeld cfg am := by
  by_cases inside : addr ∈ am.holders
  · exact Finset.single_le_sum (fun other _ => Nat.zero_le (held cfg am other)) inside
  · rw [held_absent inside]
    exact Nat.zero_le _

variable {first second : Address} {before after : Ledger}

theorem held_add_le_totalHeld (cfg : ShardConfig) (am : Ledger) (ne : first ≠ second) :
    held cfg am first + held cfg am second ≤ totalHeld cfg am := by
  rw [totalHeld_cover (show am.holders ⊆ {first, second} ∪ am.holders from Finset.subset_union_right)]
  exact Totals.add_le_sum (by simp) (by simp) ne

theorem totalHeld_cover_both (more : Finset Address) :
    let wide := more ∪ (before.holders ∪ after.holders)
    totalHeld cfg before = ∑ addr ∈ wide, held cfg before addr ∧
      totalHeld cfg after = ∑ addr ∈ wide, held cfg after addr :=
  ⟨totalHeld_cover (Finset.subset_union_left.trans Finset.subset_union_right),
    totalHeld_cover (Finset.subset_union_right.trans Finset.subset_union_right)⟩

theorem totalHeld_change_one (addr : Address)
    (same : ∀ other, other ≠ addr → held cfg after other = held cfg before other) :
    totalHeld cfg after + held cfg before addr = totalHeld cfg before + held cfg after addr := by
  obtain ⟨sumBefore, sumAfter⟩ := totalHeld_cover_both {addr}
  rw [sumBefore, sumAfter]
  exact Totals.sum_change_one (by simp) fun other _ => same other

theorem totalHeld_change_two (ne : first ≠ second) (same : ∀ other, other ≠ first → other ≠ second →
      held cfg after other = held cfg before other) :
    totalHeld cfg after + (held cfg before first + held cfg before second) =
      totalHeld cfg before + (held cfg after first + held cfg after second) := by
  obtain ⟨sumBefore, sumAfter⟩ := totalHeld_cover_both {first, second}
  rw [sumBefore, sumAfter]
  exact Totals.sum_change_two (by simp) (by simp) ne same

theorem totalHeld_congr (same : ∀ other, held cfg after other = held cfg before other) :
    totalHeld cfg after = totalHeld cfg before := by
  have moved := totalHeld_change_one [] fun other _ => same other
  have here := same []
  omega

end Totals

def Conserves {α : Type} (cfg : ShardConfig) (tx : Transaction) (before : Ledger) :
    EStateM.Result String Ledger α → Prop
  | .ok _ after => (totalHeld cfg after : Int) + tx.gasCostBig = totalHeld cfg before
  | .error _ after => totalHeld cfg after ≤ totalHeld cfg before

structure SpendsGas (tx : Transaction) (acc changed : Account) : Prop where
  address : changed.address = acc.address
  worth : (changed.worth : Int) + tx.gasCostBig = acc.worth

theorem checkGasLimit_pos {tx : Transaction} (gas : checkGasLimit tx = .ok ()) :
    0 < tx.gas.toInt := by
  unfold checkGasLimit at gas
  split_ifs at gas with large small
  rw [Int64.le_iff_toInt_le] at small
  exact not_le.mp small

theorem gasCostBig_nonneg {tx : Transaction} (gas : checkGasLimit tx = .ok ()) :
    0 ≤ tx.gasCostBig :=
  Int.mul_nonneg (checkGasLimit_pos gas).le (Int.natCast_nonneg _)

theorem amountBig_nonneg (tx : Transaction) : 0 ≤ tx.amountBig := Int.natCast_nonneg _

section Changes

variable {tx : Transaction} {acc changed : Account} (gas : 0 ≤ tx.gasCostBig)
  (bounded : acc.worth < uint256Bound)

include gas bounded

theorem spendsGas_staked {bal staked : Int} (address : changed.address = acc.address)
    (balance : changed.balance = mustUint256Bytes bal)
    (stakedAmount : changed.stakedAmount = mustUint256Bytes staked)
    (rewards : changed.rewards = acc.rewards) (balNonneg : 0 ≤ bal) (stakedNonneg : 0 ≤ staked)
    (sum : bal + staked + tx.gasCostBig = parseBigInt acc.balance + parseBigInt acc.stakedAmount) :
    SpendsGas tx acc changed := by
  refine ⟨address, ?_⟩
  simp only [Account.worth] at bounded
  have balParsed := parseBigInt_mustUint256Bytes bal balNonneg (by omega)
  have stakedParsed := parseBigInt_mustUint256Bytes staked stakedNonneg (by omega)
  simp only [Account.worth, balance, stakedAmount, rewards]
  omega

theorem stakeChange_spends (ok : stakeChange tx acc = .ok changed) : SpendsGas tx acc changed := by
  unfold stakeChange at ok
  split_ifs at ok with short
  cases ok
  have amt := amountBig_nonneg tx
  have cost : tx.totalCostBig = tx.amountBig + tx.gasCostBig := rfl
  refine spendsGas_staked gas bounded rfl rfl rfl rfl ?_ ?_ ?_ <;> omega

theorem unstakeChange_spends (ok : unstakeChange tx acc = .ok changed) :
    SpendsGas tx acc changed := by
  unfold unstakeChange at ok
  split_ifs at ok with short unstaked
  cases ok
  have amt := amountBig_nonneg tx
  refine spendsGas_staked gas bounded rfl rfl rfl rfl ?_ ?_ ?_ <;> omega

theorem delegateChange_spends (ok : delegateChange tx acc = .ok changed) :
    SpendsGas tx acc changed := by
  unfold delegateChange at ok
  split_ifs at ok with nobody short
  cases ok
  have amt := amountBig_nonneg tx
  have cost : tx.totalCostBig = tx.amountBig + tx.gasCostBig := rfl
  refine spendsGas_staked gas bounded rfl rfl rfl rfl ?_ ?_ ?_ <;> omega

theorem undelegateChange_spends (ok : undelegateChange tx acc = .ok changed) :
    SpendsGas tx acc changed := by
  unfold undelegateChange at ok
  split_ifs at ok with nobody short undelegated unstaked
  all_goals
    cases ok
    have amt := amountBig_nonneg tx
    refine spendsGas_staked gas bounded rfl rfl rfl rfl ?_ ?_ ?_ <;> omega

theorem claimRewardsChange_spends (ok : claimRewardsChange tx acc = .ok changed) :
    SpendsGas tx acc changed := by
  unfold claimRewardsChange at ok
  split_ifs at ok with short none
  cases ok
  simp only [Account.worth] at *
  have bal := parseBigInt_mustUint256Bytes
    (parseBigInt acc.balance - tx.gasCostBig + parseBigInt acc.rewards) (by omega) (by omega)
  have rewards : parseBigInt [] = 0 := rfl
  refine ⟨rfl, ?_⟩
  simp only [Account.worth]
  omega

end Changes

section Step

variable {cfg : ShardConfig} {tx : Transaction} {am : Ledger}
  {change : Account → Except String Account} {result : EStateM.Result String Ledger Unit}
  {acc : Account} {other : Address}

theorem held_write_other (ne : acc.address ≠ other) :
    held cfg (am.write acc) other = held cfg am other :=
  held_congr (readAccount_write_other ne)

theorem held_write_le {addr : Address} (address : acc.address = addr)
    (readable : Readable cfg addr) (bound : held cfg am addr ≤ acc.worth) :
    held cfg (am.write acc) addr ≤ acc.worth := by
  cases present : am.cache.peek addr with
  | some => exact (held_of_read (readAccount_write_present address readable present)).le
  | none => exact (held_congr (readAccount_write_absent address present addr)).trans_le bound

theorem saved_evictions_le (am : Ledger) (acc : Account) :
    am.cache.evictions ≤ ((am.write acc).store acc).cache.evictions := by
  simpa only [write_evictions] using store_evictions (am.write acc) acc

theorem held_saved_self (address : acc.address = other) (readable : Readable cfg other) :
    held cfg ((am.write acc).store acc) other = acc.worth :=
  held_of_read (readAccount_store_self _ address readable)

theorem held_saved_other (ne : acc.address ≠ other)
    (kept : ((am.write acc).store acc).cache.evictions = am.cache.evictions) :
    held cfg ((am.write acc).store acc) other = held cfg am other :=
  (held_congr (readAccount_store_other ne (kept.trans (write_evictions am acc).symm))).trans
    (held_write_other ne)

theorem spent_of_change {changed norm : Account}
    (spends : ∀ acc changed, 0 ≤ tx.gasCostBig → acc.worth < uint256Bound →
      change acc = .ok changed → SpendsGas tx acc changed)
    (bounded : totalHeld cfg am < uint256Bound) (admitted : Admitted cfg tx)
    (read : readAccount cfg am tx.fromAddr = .ok acc) (ok : change acc = .ok changed)
    (holdings : SameHoldings norm changed) :
    norm.address = tx.fromAddr ∧ (norm.worth : Int) + tx.gasCostBig = held cfg am tx.fromAddr := by
  have before := held_of_read read
  have spent := spends acc changed (gasCostBig_nonneg admitted.gas)
    (before ▸ (held_le_totalHeld _).trans_lt bounded) ok
  rw [before, holdings.worth]
  exact ⟨holdings.address.trans (spent.address.trans (readAccount_address read)), spent.worth⟩

theorem SenderOutcome.conserves (outcome : SenderOutcome cfg tx change am result)
    (spends : ∀ acc changed, 0 ≤ tx.gasCostBig → acc.worth < uint256Bound →
      change acc = .ok changed → SpendsGas tx acc changed)
    (bounded : totalHeld cfg am < uint256Bound)
    (kept : result.final.cache.evictions = am.cache.evictions) : Conserves cfg tx am result := by
  have loadKept := load_evictions am tx.fromAddr
  cases outcome with
  | refused => exact le_rfl
  | declined =>
    exact (totalHeld_congr fun other => held_congr (readAccount_load other kept)).le
  | unsaved acc changed norm _ admitted read _ ok holdings =>
    obtain ⟨address, spent⟩ := spent_of_change spends bounded admitted read ok holdings
    have gas := gasCostBig_nonneg admitted.gas
    have loaded : ∀ other, held cfg (am.load tx.fromAddr) other = held cfg am other :=
      fun other => held_congr (readAccount_load other kept)
    have moved := totalHeld_change_one tx.fromAddr fun other ne =>
      (held_write_other (address ▸ ne.symm)).trans (loaded other)
    rcases load_peek read with present | ⟨absent, _, _⟩
    · have after := held_of_read
        (readAccount_write_present address (readAccount_readable read) present)
      simp only [Conserves]
      omega
    · have after := (held_congr (readAccount_write_absent address absent _)).trans
        (loaded tx.fromAddr)
      simp only [Conserves]
      omega
  | saved acc changed norm admitted read _ ok updated =>
    obtain ⟨address, spent⟩ :=
      spent_of_change spends bounded admitted read ok updated.sameHoldings
    have storeKept := saved_evictions_le (am.load tx.fromAddr) norm
    simp only [final] at kept
    have same : ∀ other, other ≠ tx.fromAddr →
        held cfg (((am.load tx.fromAddr).write norm).store norm) other = held cfg am other :=
      fun other ne => (held_saved_other (address ▸ ne.symm) (by omega)).trans
        (held_congr (readAccount_load other (by omega)))
    have moved := totalHeld_change_one tx.fromAddr same
    have after : held cfg (((am.load tx.fromAddr).write norm).store norm) tx.fromAddr =
      norm.worth := held_saved_self address (readAccount_readable read)
    simp only [Conserves]
    omega

namespace TransferReady

variable {sender receiver payer payee : Account}
  (ready : TransferReady cfg tx am sender receiver payer payee)

include ready

theorem senderAddress : payer.address = tx.fromAddr :=
  (congrArg Account.address ready.sender).trans (readAccount_address ready.readSender :)

theorem receiverAddress : payee.address = tx.toAddr :=
  (congrArg Account.address ready.receiver).trans (readAccount_address ready.readReceiver :)

theorem worths (bounded : sender.worth + receiver.worth < uint256Bound) :
    (payer.worth : Int) + tx.totalCostBig = sender.worth ∧
      (payee.worth : Int) = receiver.worth + tx.amountBig := by
  obtain ⟨_, _, balances⟩ := transferBalances_ok_iff.mp ready.balances
  obtain ⟨senderBalance, receiverBalance⟩ := Prod.mk.inj balances
  have gas := gasCostBig_nonneg ready.admitted.gas
  have amt := amountBig_nonneg tx
  rw [ready.sender, ready.receiver, senderBalance, receiverBalance]
  simp only [Account.worth, Transaction.totalCostBig] at *
  have senderEncoded := parseBigInt_mustUint256Bytes
    (parseBigInt sender.balance - (tx.amountBig + tx.gasCostBig)) (by omega) (by omega)
  have receiverEncoded := parseBigInt_mustUint256Bytes
    (parseBigInt receiver.balance + tx.amountBig) (by omega) (by omega)
  constructor <;> omega

end TransferReady

theorem held_load_load (first second : Address)
    (kept : ((am.load first).load second).cache.evictions = am.cache.evictions) (other : Address) :
    held cfg ((am.load first).load second) other = held cfg am other := by
  have firstKept := load_evictions am first
  have secondKept := load_evictions (am.load first) second
  exact held_congr ((readAccount_load other (by omega)).trans (readAccount_load other (by omega)))

namespace TransferReady

variable {sender receiver payer payee norm : Account}
  (ready : TransferReady cfg tx am sender receiver payer payee)
  (kept : ((am.load tx.fromAddr).load tx.toAddr).cache.evictions = am.cache.evictions)

include ready kept

theorem heldBefore :
    held cfg am tx.fromAddr = sender.worth ∧ held cfg am tx.toAddr = receiver.worth := by
  have firstKept := load_evictions am tx.fromAddr
  have secondKept := load_evictions (am.load tx.fromAddr) tx.toAddr
  refine ⟨held_of_read ready.readSender, ?_⟩
  rw [← held_of_read ready.readReceiver]
  exact (held_congr (readAccount_load tx.toAddr (by omega))).symm

variable {other : Address}

theorem held_assigned_other (notFrom : other ≠ tx.fromAddr) (notTo : other ≠ tx.toAddr) :
    held cfg (am.assigned tx payer payee) other = held cfg am other := by
  unfold Ledger.assigned
  rw [held_write_other (ready.receiverAddress ▸ notTo.symm),
    held_write_other (ready.senderAddress ▸ notFrom.symm), held_load_load _ _ kept]

theorem held_assigned_to (bounded : sender.worth + receiver.worth < uint256Bound) :
    held cfg (am.assigned tx payer payee) tx.toAddr ≤ payee.worth := by
  refine held_write_le ready.receiverAddress (readAccount_readable ready.readReceiver) ?_
  rw [held_write_other (ready.senderAddress ▸ ready.different.symm), held_load_load _ _ kept,
    (ready.heldBefore kept).2]
  have amt := amountBig_nonneg tx
  have worth := (ready.worths bounded).2
  omega

theorem worths_fit (bounded : totalHeld cfg am < uint256Bound) :
    sender.worth + receiver.worth < uint256Bound := by
  have both := held_add_le_totalHeld cfg am ready.different.symm
  rw [(ready.heldBefore kept).1, (ready.heldBefore kept).2] at both
  exact both.trans_lt bounded

theorem held_assigned_write_from (holdings : SameHoldings norm payer) :
    held cfg ((am.assigned tx payer payee).write norm) tx.fromAddr ≤ payer.worth := by
  have firstKept := load_evictions am tx.fromAddr
  have secondKept := load_evictions (am.load tx.fromAddr) tx.toAddr
  have address : norm.address = tx.fromAddr := holdings.address.trans ready.senderAddress
  have readable := readAccount_readable ready.readSender
  have loaded : ((am.load tx.fromAddr).load tx.toAddr).cache.peek tx.fromAddr =
      (am.load tx.fromAddr).cache.peek tx.fromAddr :=
    load_peek_other ready.different (by omega)
  rcases load_peek ready.readSender with present | ⟨absent, _, fresh⟩
  · have cached : (am.assigned tx payer payee).cache.peek tx.fromAddr =
        some payer := by
      simp [Ledger.assigned, Ledger.write, ready.receiverAddress, ready.senderAddress,
        ready.different, loaded, present]
    rw [held_of_read (readAccount_write_present address readable cached), holdings.worth]
  · have uncached : (am.assigned tx payer payee).cache.peek tx.fromAddr = none := by
      simp [Ledger.assigned, Ledger.write, ready.receiverAddress, ready.senderAddress,
        ready.different, loaded, absent]
    have unwritten : ((am.load tx.fromAddr).load tx.toAddr).cache.peek tx.fromAddr = none :=
      loaded.trans absent
    rw [held_congr (readAccount_write_absent address uncached _), Ledger.assigned,
      held_write_other (ready.receiverAddress ▸ ready.different),
      held_congr (readAccount_write_absent ready.senderAddress unwritten _),
      held_load_load _ _ kept, (ready.heldBefore kept).1, fresh]
    exact Nat.zero_le _

theorem totalHeld_final (final : Ledger) (same : ∀ other, other ≠ tx.fromAddr → other ≠ tx.toAddr →
      held cfg final other = held cfg (am.assigned tx payer payee) other) :
    totalHeld cfg final + (sender.worth + receiver.worth) =
      totalHeld cfg am + (held cfg final tx.fromAddr + held cfg final tx.toAddr) := by
  have moved := totalHeld_change_two ready.different.symm fun other notFrom notTo =>
    (same other notFrom notTo).trans (ready.held_assigned_other kept notFrom notTo)
  rwa [(ready.heldBefore kept).1, (ready.heldBefore kept).2] at moved

theorem totalHeld_failed (bounded : totalHeld cfg am < uint256Bound) {final : Ledger}
    (same : ∀ other, other ≠ tx.fromAddr → other ≠ tx.toAddr →
      held cfg final other = held cfg (am.assigned tx payer payee) other)
    (fromHeld : held cfg final tx.fromAddr ≤ payer.worth)
    (toHeld : held cfg final tx.toAddr ≤ payee.worth) : totalHeld cfg final ≤ totalHeld cfg am := by
  have moved := ready.totalHeld_final kept final same
  have worths := ready.worths (ready.worths_fit kept bounded)
  have gas := gasCostBig_nonneg ready.admitted.gas
  rw [Transaction.totalCostBig] at worths
  omega

omit kept in
theorem apart_from (holdings : SameHoldings norm payer) (notFrom : other ≠ tx.fromAddr) :
    norm.address ≠ other := by
  rw [holdings.address, ready.senderAddress]
  exact notFrom.symm

omit kept in
theorem apart_to (holdings : SameHoldings norm payee) (notTo : other ≠ tx.toAddr) :
    norm.address ≠ other := by
  rw [holdings.address, ready.receiverAddress]
  exact notTo.symm

end TransferReady

theorem assigned_evictions (am : Ledger) (tx : Transaction) (payer payee : Account) :
    (am.assigned tx payer payee).cache.evictions =
      ((am.load tx.fromAddr).load tx.toAddr).cache.evictions := by
  simp [Ledger.assigned]

theorem assigned_evictions_le (am : Ledger) (tx : Transaction) (payer payee : Account) :
    am.cache.evictions ≤ (am.assigned tx payer payee).cache.evictions := by
  rw [assigned_evictions]
  exact (load_evictions am tx.fromAddr).trans (load_evictions _ tx.toAddr)

theorem TransferOutcome.conserves (outcome : TransferOutcome cfg tx am result)
    (bounded : totalHeld cfg am < uint256Bound)
    (kept : result.final.cache.evictions = am.cache.evictions) : Conserves cfg tx am result := by
  cases outcome with
  | refused => exact le_rfl
  | senderLoaded =>
    exact (totalHeld_congr fun other => held_congr (readAccount_load other kept)).le
  | declined =>
    exact (totalHeld_congr (held_load_load _ _ kept)).le
  | senderUnsaved _ _ payer payee norm _ ready holdings =>
    have fits := ready.worths_fit kept bounded
    refine ready.totalHeld_failed kept bounded
      (fun other notFrom _ => held_write_other (ready.apart_from holdings notFrom))
      (ready.held_assigned_write_from kept holdings) ?_
    rw [held_write_other (ready.apart_from holdings ready.different)]
    exact ready.held_assigned_to kept fits
  | receiverUnsaved _ _ payer payee norm normPayee _ ready updated holdings =>
    have assignedKept := assigned_evictions_le am tx payer payee
    have storeKept := saved_evictions_le (am.assigned tx payer payee) norm
    simp only [final, write_evictions] at kept
    have loadedKept : ((am.load tx.fromAddr).load tx.toAddr).cache.evictions =
      am.cache.evictions := (assigned_evictions am tx payer payee).symm.trans (by omega)
    have stored : ∀ other, other ≠ tx.fromAddr → held cfg
        (((am.assigned tx payer payee).write norm).store norm) other =
          held cfg (am.assigned tx payer payee) other := fun other notFrom =>
      held_saved_other (ready.apart_from updated.sameHoldings notFrom) (by omega)
    refine ready.totalHeld_failed loadedKept bounded (fun other notFrom notTo =>
      (held_write_other (ready.apart_to holdings notTo)).trans (stored other notFrom)) ?_ ?_
    · rw [held_write_other (ready.apart_to holdings ready.different.symm), held_saved_self
        (updated.sameHoldings.address.trans ready.senderAddress)
        (readAccount_readable ready.readSender), updated.sameHoldings.worth]
    · rw [← holdings.worth]
      refine held_write_le (holdings.address.trans ready.receiverAddress)
        (readAccount_readable ready.readReceiver) ?_
      rw [stored _ ready.different, holdings.worth]
      exact ready.held_assigned_to loadedKept (ready.worths_fit loadedKept bounded)
  | saved _ _ payer payee norm normPayee ready updated updatedReceiver =>
    have assignedKept := assigned_evictions_le am tx payer payee
    have storeKept := saved_evictions_le (am.assigned tx payer payee) norm
    have receiverKept := saved_evictions_le
      (((am.assigned tx payer payee).write norm).store norm) normPayee
    simp only [final] at kept
    have loadedKept : ((am.load tx.fromAddr).load tx.toAddr).cache.evictions =
      am.cache.evictions := (assigned_evictions am tx payer payee).symm.trans (by omega)
    have received : ∀ other, other ≠ tx.toAddr → held cfg
        (((((am.assigned tx payer payee).write norm).store norm).write
          normPayee).store normPayee) other = held cfg
        (((am.assigned tx payer payee).write norm).store norm) other := fun other notTo =>
      held_saved_other (ready.apart_to updatedReceiver.sameHoldings notTo) (by omega)
    have moved := ready.totalHeld_final loadedKept _ fun other notFrom notTo =>
      (received other notTo).trans
        (held_saved_other (ready.apart_from updated.sameHoldings notFrom) (by omega))
    have worths := ready.worths (ready.worths_fit loadedKept bounded)
    rw [received _ ready.different.symm, held_saved_self
      (updated.sameHoldings.address.trans ready.senderAddress)
      (readAccount_readable ready.readSender), updated.sameHoldings.worth, held_saved_self
      (updatedReceiver.sameHoldings.address.trans ready.receiverAddress)
      (readAccount_readable ready.readReceiver), updatedReceiver.sameHoldings.worth] at moved
    simp only [Conserves, Transaction.totalCostBig] at *
    omega

theorem nativeChange_spends (native : tx.type.isNative = true) (notTransfer : tx.type ≠ .transfer)
    (acc changed : Account) (gas : 0 ≤ tx.gasCostBig) (bounded : acc.worth < uint256Bound)
    (ok : nativeChange tx acc = .ok changed) : SpendsGas tx acc changed := by
  unfold nativeChange at ok
  cases kind : tx.type with
  | transfer => exact absurd kind notTransfer
  | stake => exact stakeChange_spends gas bounded (by simpa [kind] using ok)
  | unstake => exact unstakeChange_spends gas bounded (by simpa [kind] using ok)
  | delegate => exact delegateChange_spends gas bounded (by simpa [kind] using ok)
  | undelegate => exact undelegateChange_spends gas bounded (by simpa [kind] using ok)
  | claimRewards => exact claimRewardsChange_spends gas bounded (by simpa [kind] using ok)
  | _ => simp [kind, TransactionType.isNative] at native

structure Transaction.Conservable (tx : Transaction) : Prop where
  native : tx.type.isNative = true
  different : tx.type = .transfer → tx.fromAddr ≠ tx.toAddr

theorem executeNative_conserves (conservable : tx.Conservable)
    (bounded : totalHeld cfg am < uint256Bound)
    (kept : (executeNative cfg tx am).final.cache.evictions = am.cache.evictions) :
    Conserves cfg tx am (executeNative cfg tx am) := by
  by_cases kind : tx.type = .transfer
  · exact (executeNative_transfer cfg kind (conservable.different kind).symm am).conserves
      bounded kept
  · exact (executeNative_sender cfg conservable.native (absurd · kind) am).conserves
      (nativeChange_spends conservable.native kind) bounded kept

theorem totalHeld_bumpNonce (addr : Address) :
    totalHeld cfg (am.bumpNonce addr) = totalHeld cfg am :=
  totalHeld_congr fun _ => held_congr (readAccount_congr rfl rfl)

end Step

section Run

variable {cfg : NodeConfig} {tx : Transaction} {ws : WorldState}
  {result : EStateM.Result String WorldState Transaction}

theorem canonical_conservable (conservable : tx.Conservable) : tx.canonical.Conservable :=
  { conservable with }

theorem evictions_ownerInvariant (cfg : ShardConfig) (count : Nat) :
    OwnerInvariant cfg (fun _ => True) (count ≤ ·.cache.evictions) where
  loaded am addr le := le.trans (load_evictions am addr)
  written am acc _ le := le.trans (write_evictions am acc).ge
  added am acc _ le := le.trans (store_evictions am acc)
  saved _ _ _ _ le := le

theorem executeTransaction_evictions_le (cfg : NodeConfig) (tx : Transaction) (ws : WorldState) :
    ws.ledger.cache.evictions ≤ (executeTransaction cfg tx ws).final.ledger.cache.evictions :=
  (evictions_ownerInvariant cfg _).executeTransaction (fun _ _ => id) tx ws le_rfl

def ConservesWorld (cfg : NodeConfig) (tx : Transaction) (before : WorldState) :
    EStateM.Result String WorldState Transaction → Prop
  | .ok _ after => (totalHeld cfg after.ledger : Int) + tx.gasCostBig = totalHeld cfg before.ledger
  | .error _ after => totalHeld cfg after.ledger ≤ totalHeld cfg before.ledger

theorem NativeOutcome.conserves (outcome : NativeOutcome cfg tx ws result)
    (conservable : tx.Conservable) (bounded : totalHeld cfg ws.ledger < uint256Bound)
    (kept : result.final.ledger.cache.evictions = ws.ledger.cache.evictions) :
    ConservesWorld cfg tx ws result := by
  rw [← totalHeld_bumpNonce tx.fromAddr] at bounded
  have step := executeNative_conserves (canonical_conservable conservable) bounded
  cases outcome with
  | refused => exact le_rfl
  | failed err am amounts current ran
  | executed _ _ _ ran =>
    rw [ran] at step
    have conserved := step kept
    simp only [Conserves, totalHeld_bumpNonce, canonical_gasCostBig] at conserved
    exact conserved

variable {am after : Ledger} {txs : List Transaction}

theorem SenderOutcome.admitted {cfg : ShardConfig} {change : Account → Except String Account}
    (outcome : SenderOutcome cfg tx change am (.ok () after)) : Admitted cfg tx := by
  cases outcome with
  | saved _ _ _ admitted => exact admitted

theorem TransferOutcome.admitted {cfg : ShardConfig}
    (outcome : TransferOutcome cfg tx am (.ok () after)) : Admitted cfg tx := by
  cases outcome with
  | saved _ _ _ _ _ _ ready => exact ready.admitted

theorem executeNative_admitted {cfg : ShardConfig}
    (native : tx.type.isNative = true) (ran : executeNative cfg tx am = .ok () after) :
    Admitted cfg tx := by
  by_cases other : tx.type = .transfer ∧ tx.toAddr ≠ tx.fromAddr
  · exact (ran ▸ executeNative_transfer cfg other.1 other.2 am).admitted
  · have alone : tx.type = .transfer → tx.toAddr = tx.fromAddr := by
      simpa only [not_and, not_not] using other
    exact (ran ▸ executeNative_sender cfg native alone am).admitted

theorem NativeOutcome.totalHeld_le (outcome : NativeOutcome cfg tx ws result)
    (conservable : tx.Conservable) (conserves : ConservesWorld cfg tx ws result) :
    totalHeld cfg result.final.ledger ≤ totalHeld cfg ws.ledger := by
  cases outcome with
  | refused | failed => exact conserves
  | executed _ _ _ ran =>
    have gas := gasCostBig_nonneg
      (executeNative_admitted (canonical_conservable conservable).native ran).gas
    rw [canonical_gasCostBig] at gas
    simp only [ConservesWorld, final] at *
    omega

theorem runTransactions_evictions_le (cfg : NodeConfig) (txs : List Transaction) (ws : WorldState) :
    ws.ledger.cache.evictions ≤ (runTransactions cfg txs ws).ledger.cache.evictions := by
  induction txs generalizing ws with
  | nil => exact le_rfl
  | cons tx _ ih => exact (executeTransaction_evictions_le cfg tx ws).trans (ih _)

theorem runTransactions_conserves (conservable : ∀ tx ∈ txs, tx.Conservable) {ws : WorldState}
    (bounded : totalHeld cfg ws.ledger < uint256Bound)
    (kept : (runTransactions cfg txs ws).ledger.cache.evictions = ws.ledger.cache.evictions)
    {before : List Transaction} {tx : Transaction} {rest : List Transaction}
    (split : txs = before ++ tx :: rest) : ConservesWorld cfg tx (runTransactions cfg before ws)
      (executeTransaction cfg tx (runTransactions cfg before ws)) := by
  induction before generalizing txs ws with
  | nil =>
    subst split
    have first := conservable tx (by simp)
    have outcome := executeTransaction_native cfg first.native ws
    have later := runTransactions_evictions_le cfg rest (executeTransaction cfg tx ws).final
    exact outcome.conserves first bounded
      (le_antisymm (kept ▸ later) (executeTransaction_evictions_le cfg tx ws))
  | cons head before ih =>
    subst split
    have first := conservable head (by simp)
    have others : ∀ other ∈ before ++ tx :: rest, other.Conservable := fun other mem =>
      conservable other (List.mem_cons_of_mem head mem)
    have outcome := executeTransaction_native cfg first.native ws
    have later := runTransactions_evictions_le cfg (before ++ tx :: rest)
      (executeTransaction cfg head ws).final
    have firstKept := le_antisymm (kept ▸ later) (executeTransaction_evictions_le cfg head ws)
    have smaller := outcome.totalHeld_le first (outcome.conserves first bounded firstKept)
    exact ih others (smaller.trans_lt bounded) (kept.trans firstKept.symm) rfl

end Run

/-- Every successful native transaction lowers the total by exactly `Gas * GasPrice`, and no failed
one raises it. -/
theorem native_run_conserves_value (cfg : NodeConfig) (ws : WorldState)
    (txs : List Transaction) (native : ∀ tx ∈ txs, tx.type.isNative = true)
    (ne : ∀ tx ∈ txs, tx.type = .transfer → tx.fromAddr ≠ tx.toAddr)
    (bounded : totalHeld cfg ws.ledger < 2 ^ 256)
    (kept : (runTransactions cfg txs ws).ledger.cache.evictions = ws.ledger.cache.evictions) :
    ∀ before tx rest, txs = before ++ tx :: rest →
      match executeTransaction cfg tx (runTransactions cfg before ws) with
      | .ok _ after =>
        (totalHeld cfg after.ledger : Int) + tx.gasCostBig =
          totalHeld cfg (runTransactions cfg before ws).ledger
      | .error _ after =>
        totalHeld cfg after.ledger ≤ totalHeld cfg (runTransactions cfg before ws).ledger := by
  intro before tx rest split
  exact runTransactions_conserves (fun other mem => ⟨native other mem, ne other mem⟩)
    (uint256Bound_eq ▸ bounded) kept split

theorem native_run_conserves_value_three :
    let txs := [sampleTransaction .transfer [5] 0, sampleTransaction .stake [7] 1,
      sampleTransaction .claimRewards [] 2]
    ∀ before tx rest, txs = before ++ tx :: rest →
      match executeTransaction sampleConfig tx
        (runTransactions sampleConfig before (sampleWorld [sampleAccount 97 [1, 0, 0]])) with
      | .ok _ after =>
        (totalHeld sampleConfig after.ledger : Int) + tx.gasCostBig =
          totalHeld sampleConfig (runTransactions sampleConfig before
            (sampleWorld [sampleAccount 97 [1, 0, 0]])).ledger
      | .error _ after =>
        totalHeld sampleConfig after.ledger ≤
          totalHeld sampleConfig (runTransactions sampleConfig before
            (sampleWorld [sampleAccount 97 [1, 0, 0]])).ledger :=
  native_run_conserves_value sampleConfig (sampleWorld [sampleAccount 97 [1, 0, 0]])
    [sampleTransaction .transfer [5] 0, sampleTransaction .stake [7] 1,
      sampleTransaction .claimRewards [] 2]
    (by decide) (by decide) (by decide +kernel) (by decide +kernel)

section SelfTransfer

variable {cfg : ShardConfig} {tx : Transaction} {acc changed : Account}

theorem selfTransferChange_ok_iff :
    selfTransferChange tx acc = .ok changed ↔ checkNonce tx acc = .ok () ∧
      tx.totalCostBig ≤ parseBigInt acc.balance ∧ changed = { acc with
        balance := mustUint256Bytes (parseBigInt acc.balance + tx.amountBig)
        nonce := acc.nonce + 1 } := by
  unfold selfTransferChange
  cases balances : transferBalances tx acc acc with
  | error =>
    simp only [bind, Except.bind, reduceCtorEq, false_iff]
    rintro ⟨nonce, covered, _⟩
    rw [transferBalances_ok_iff.mpr ⟨nonce, covered, rfl⟩] at balances
    cases balances
  | ok =>
    obtain ⟨nonce, covered, rfl⟩ := transferBalances_ok_iff.mp balances
    simp only [bind, Except.bind, pure, Except.pure, Except.ok.injEq, nonce, covered, true_and]
    exact eq_comm

theorem selfTransferChange_gas_iff (admitted : Admitted cfg tx)
    (ok : selfTransferChange tx acc = .ok changed) :
    (parseBigInt changed.balance : Int) = parseBigInt acc.balance - tx.gasCostBig ↔
      tx.amountBig = 0 ∧ tx.gasCostBig = 0 := by
  obtain ⟨_, covered, rfl⟩ := selfTransferChange_ok_iff.mp ok
  have amt := amountBig_nonneg tx
  have gas := gasCostBig_nonneg admitted.gas
  have small := parseBigInt_lt acc.balance
  simp only [Transaction.totalCostBig] at covered ⊢
  by_cases fits : parseBigInt acc.balance + tx.amountBig < uint256Bound
  · rw [parseBigInt_mustUint256Bytes _ (by omega) fits]
    omega
  · obtain ⟨_, same⟩ := Int.eq_ofNat_of_zero_le
      (show 0 ≤ parseBigInt acc.balance + tx.amountBig by omega)
    rw [same, parseBigInt_mustUint256Bytes_of_le (by omega)]
    omega

end SelfTransfer

/-- A transfer to oneself ends with `Gas * GasPrice` less exactly if there was nothing to pay and
nothing to move. -/
theorem self_transfer_pays_gas_iff (cfg : NodeConfig) (tx receipt : Transaction)
    (ws after : WorldState) (kind : tx.type = .transfer) (self : tx.toAddr = tx.fromAddr)
    (ran : executeTransaction cfg tx ws = .ok receipt after) :
    (∃ before later, readAccount cfg ws.ledger tx.fromAddr = .ok before ∧
      readAccount cfg after.ledger tx.fromAddr = .ok later ∧
      (parseBigInt later.balance : Int) = parseBigInt before.balance - tx.gasCostBig) ↔
      parseBigInt tx.amount = 0 ∧ parseBigInt tx.gasPrice = 0 := by
  have native : tx.type.isNative = true := by rw [kind]; rfl
  have outcome := executeTransaction_native cfg native ws
  rw [ran] at outcome
  cases outcome with
  | executed _ _ _ exec =>
  have sender := executeNative_sender cfg
    (show tx.canonical.type.isNative = true from native) (fun _ => self)
    (ws.ledger.bumpNonce tx.fromAddr)
  obtain ⟨acc, changed, norm, admitted, read, _, ok, updated, rfl⟩ :=
    sender.ok_iff.mp exec
  have changedSelf : selfTransferChange tx.canonical acc = .ok changed := by
    rwa [nativeChange, show tx.canonical.type = .transfer from kind] at ok
  have address : norm.address = tx.fromAddr := by
    obtain ⟨_, _, rfl⟩ := selfTransferChange_ok_iff.mp changedSelf
    have held := readAccount_address read
    exact updated.sameHoldings.address.trans held
  have later := readAccount_store_self
    (((ws.ledger.bumpNonce tx.fromAddr).load tx.fromAddr).write norm) address
    (readAccount_readable read)
  have before : readAccount cfg ws.ledger tx.fromAddr = .ok acc := read
  have pays := selfTransferChange_gas_iff admitted changedSelf
  rw [canonical_amountBig, canonical_gasCostBig, ← updated.sameHoldings.balance] at pays
  have free : tx.gasCostBig = 0 ↔ parseBigInt tx.gasPrice = 0 := by
    rw [Transaction.gasCostBig, Int.mul_eq_zero, Int.natCast_eq_zero]
    exact or_iff_right (checkGasLimit_pos admitted.gas).ne'
  rw [show parseBigInt tx.amount = 0 ↔ tx.amountBig = 0 from Int.natCast_eq_zero.symm, ← free,
    ← pays]
  constructor
  · rintro ⟨_, _, readFirst, readLast, same⟩
    cases before.symm.trans readFirst
    cases later.symm.trans readLast
    exact same
  · exact fun same => ⟨acc, norm, before, later, same⟩

def selfTransfer (amt gasPrice : Bytes) : Transaction :=
  { sampleTransaction .transfer amt 0 with toAddr := sampleAddress 97, gasPrice := gasPrice }

theorem a_free_self_transfer_keeps_the_balance :
    ∃ receipt after, executeTransaction sampleConfig (selfTransfer [] [])
        (sampleWorld [sampleAccount 97 [1, 0, 0]]) = .ok receipt after ∧
      ((∃ before later, readAccount sampleConfig
          (sampleWorld [sampleAccount 97 [1, 0, 0]]).ledger (sampleAddress 97) = .ok before ∧
        readAccount sampleConfig after.ledger (sampleAddress 97) = .ok later ∧
        (parseBigInt later.balance : Int) =
          parseBigInt before.balance - (selfTransfer [] []).gasCostBig) ↔
        parseBigInt (selfTransfer [] []).amount = 0 ∧
          parseBigInt (selfTransfer [] []).gasPrice = 0) := by
  obtain ⟨receipt, ran⟩ := ok_of_value?
    (show (executeTransaction sampleConfig (selfTransfer [] [])
      (sampleWorld [sampleAccount 97 [1, 0, 0]])).value?.isSome = true by decide +kernel)
  exact ⟨receipt, _, ran, self_transfer_pays_gas_iff sampleConfig (selfTransfer [] []) receipt
    _ _ rfl rfl ran⟩

/-- Five units sent to oneself out of 65536 leave 65541, and none of the 200 units of gas is
paid. -/
theorem a_self_transfer_pays_no_gas :
    let ws := sampleWorld [sampleAccount 97 [1, 0, 0]]
    let outcome := executeTransaction sampleConfig (selfTransfer [5] [2]) ws
    let bal := fun am => (readAccount sampleConfig am
      (sampleAddress 97)).toOption.map fun acc => parseBigInt acc.balance
    outcome.value?.isSome = true ∧ (selfTransfer [5] [2]).gasCostBig = 200 ∧
      bal ws.ledger = some 65536 ∧ bal outcome.final.ledger = some 65541 := by
  decide +kernel

end Thrylos
