import Thrylos.ExecutionPlan
import Thrylos.Simulation

/-!
The simulation against the execution it stands for. They agree on a transaction exactly when it
fails in both or the executor's extra checks pass and both plans assign the same accounts.
-/

namespace Thrylos

def SimulationStore.view (cfg : ShardConfig) (store : SimulationStore) : View := fun addr =>
  match store.overlay.find? addr with
  | some acc => .ok acc
  | none => readAccount cfg store.ledger addr

def SimulationStore.fetch (cfg : ShardConfig) (store : SimulationStore) (addr : Address) :
    SimulationStore :=
  match store.overlay.find? addr with
  | some _ => store
  | none =>
    match readAccount cfg store.ledger addr with
    | .ok acc => { overlay := store.overlay.insert acc, ledger := store.ledger.load addr }
    | .error _ => store

def Simulation.nativeChange (tx : Transaction) (acc : Account) : Except String Account :=
  match tx.type with
  | .stake => Simulation.stakeChange tx acc
  | .unstake => Simulation.unstakeChange tx acc
  | .delegate => Simulation.delegateChange tx acc
  | .undelegate => Simulation.undelegateChange tx acc
  | .claimRewards => Simulation.claimRewardsChange tx acc
  | _ => .error s!"unknown transaction type for simulation: {tx.type.name}"

section Store

variable {cfg : ShardConfig} {store : SimulationStore} {addr other : Address} {acc : Account}

theorem view_address (read : store.view cfg addr = .ok acc) : acc.address = addr := by
  unfold SimulationStore.view at read
  split at read
  · rename_i found
    cases read
    exact KeyedMap.find?_key found
  · exact readAccount_address read

theorem simulation_getAccount_ok (read : store.view cfg addr = .ok acc) :
    Simulation.getAccount cfg addr store = .ok acc (store.fetch cfg addr) := by
  unfold SimulationStore.view at read
  unfold Simulation.getAccount SimulationStore.fetch
  cases found : store.overlay.find? addr with
  | some =>
    simp only [found, Except.ok.injEq] at read
    simp [read]
  | none =>
    simp only [found] at read
    simp [getAccount_ok read, read]

variable {err : String}

theorem simulation_getAccount_error (read : store.view cfg addr = .error err) :
    Simulation.getAccount cfg addr store = .error err store := by
  unfold SimulationStore.view at read
  unfold Simulation.getAccount
  cases found : store.overlay.find? addr with
  | some => simp [found] at read
  | none =>
    simp only [found] at read
    simp [getAccount_error read]

theorem fetch_coherent (cfg : ShardConfig) (coherent : store.ledger.Coherent) (addr : Address) :
    (store.fetch cfg addr).ledger.Coherent := by
  unfold SimulationStore.fetch
  split
  · exact coherent
  · split
    · exact coherent.load addr
    · exact coherent

theorem fetch_overlay (read : store.view cfg addr = .ok acc) :
    (store.fetch cfg addr).overlay.find? addr = some acc := by
  unfold SimulationStore.view at read
  unfold SimulationStore.fetch
  cases found : store.overlay.find? addr with
  | some =>
    simp only [found, Except.ok.injEq] at read
    simp [found, read]
  | none =>
    simp only [found] at read
    simp [read, readAccount_address read]

theorem fetch_overlay_kept (cfg : ShardConfig) (addr : Address)
    (present : store.overlay.find? other = some acc) :
    (store.fetch cfg addr).overlay.find? other = some acc := by
  unfold SimulationStore.fetch
  cases found : store.overlay.find? addr with
  | some => exact present
  | none =>
  cases read : readAccount cfg store.ledger addr with
  | error => exact present
  | ok fetched =>
  have ne : fetched.address ≠ other := by
    rintro rfl
    rw [readAccount_address read, found] at present
    simp at present
  simpa [ne] using present

theorem fetch_view (cfg : ShardConfig) (coherent : store.ledger.Coherent) (addr : Address) :
    (store.fetch cfg addr).view cfg = store.view cfg := by
  funext other
  unfold SimulationStore.fetch
  cases found : store.overlay.find? addr with
  | some => rfl
  | none =>
  cases read : readAccount cfg store.ledger addr with
  | error => rfl
  | ok fetched =>
  have address := readAccount_address read
  unfold SimulationStore.view
  by_cases same : fetched.address = other
  · have otherAddr : addr = other := address.symm.trans same
    subst otherAddr
    simp [same, found, read]
  · simp [same, readAccount_load_coherent coherent]

def SimulationStore.put (store : SimulationStore) (acc : Account) : SimulationStore :=
  { store with overlay := store.overlay.insert acc }

theorem simulation_assign (change : Account → Account)
    (present : store.overlay.find? addr = some acc) :
    Simulation.assign addr change store = .ok () (store.put (change acc)) := by
  unfold Simulation.assign
  rw [modify_ok, present]
  rfl

theorem put_view : (store.put acc).view cfg = View.set (store.view cfg) acc := by
  funext other
  unfold SimulationStore.view SimulationStore.put View.set
  by_cases same : acc.address = other
  · subst same
    simp
  · simp [same, Function.update_of_ne (Ne.symm same)]

theorem View.set_set {view : View} {first second : Account} (same : first.address = second.address) :
    (view.set first).set second = view.set second := by
  unfold View.set
  rw [same, Function.update_idem]

theorem simulation_lookup_ok (role : String) (read : store.view cfg addr = .ok acc) :
    Simulation.lookup cfg role addr store = .ok acc (store.fetch cfg addr) :=
  adaptExcept_ok (simulation_getAccount_ok read) _

theorem simulation_lookup_error (role : String) (read : store.view cfg addr = .error err) :
    ∃ message, Simulation.lookup cfg role addr store = .error message store :=
  ⟨_, adaptExcept_error (simulation_getAccount_error read) _⟩

end Store

inductive Simulated (cfg : ShardConfig) (store : SimulationStore) :
    Option (List Account) → EStateM.Result String SimulationStore Unit → Prop where
  | refused (err : String) (after : SimulationStore) : Simulated cfg store none (.error err after)
  | applied (accounts : List Account) (after : SimulationStore)
      (coherent : after.ledger.Coherent)
      (view : after.view cfg = View.assign (store.view cfg) accounts) :
      Simulated cfg store (some accounts) (.ok () after)

section Apply

variable {cfg : ShardConfig} {store : SimulationStore} {tx : Transaction}

theorem applyOnSender_simulated (cfg : ShardConfig) (coherent : store.ledger.Coherent)
    (change : Account → Except String Account) (notTransfer : tx.type ≠ .transfer) :
    Simulated cfg store (plan tx change (store.view cfg))
      (Simulation.applyOnSender cfg tx change store) := by
  unfold plan Simulation.applyOnSender
  rw [if_neg notTransfer]
  cases read : store.view cfg tx.fromAddr with
  | error =>
    obtain ⟨_, failed⟩ := simulation_lookup_error "account" read
    rw [bind_error failed]
    exact .refused _ _
  | ok acc =>
  rw [bind_ok (simulation_lookup_ok "account" read)]
  dsimp only
  cases ok : change acc with
  | error =>
    rw [check_error]
    exact .refused _ _
  | ok =>
    rw [check_ok, simulation_assign _ (fetch_overlay read)]
    refine .applied _ _ (fetch_coherent cfg coherent _) ?_
    rw [put_view, fetch_view cfg coherent]
    rfl

theorem applyTransfer_simulated (cfg : ShardConfig) (tx : Transaction) (coherent : store.ledger.Coherent) :
    Simulated cfg store (transferPlan tx (store.view cfg))
      (Simulation.applyTransfer cfg tx store) := by
  unfold transferPlan Simulation.applyTransfer
  cases readSender : store.view cfg tx.fromAddr with
  | error =>
    obtain ⟨message, failed⟩ := simulation_lookup_error "sender" readSender
    rw [bind_error failed]
    exact .refused _ _
  | ok sender =>
  rw [bind_ok (simulation_lookup_ok "sender" readSender)]
  have sameView := fetch_view cfg coherent tx.fromAddr
  cases readReceiver : store.view cfg tx.toAddr with
  | error =>
    obtain ⟨_, failed⟩ := simulation_lookup_error "receiver" (sameView ▸ readReceiver)
    rw [bind_error failed]
    exact .refused _ _
  | ok receiver =>
  rw [bind_ok (simulation_lookup_ok "receiver" (sameView ▸ readReceiver))]
  have loaded := fetch_coherent cfg coherent tx.fromAddr
  have bothLoaded := fetch_coherent cfg loaded tx.toAddr
  have senderThere := fetch_overlay_kept cfg tx.toAddr (fetch_overlay readSender)
  have receiverThere := fetch_overlay (sameView ▸ readReceiver)
  have bothView := (fetch_view cfg loaded tx.toAddr).trans sameView
  generalize (store.fetch cfg tx.fromAddr).fetch cfg tx.toAddr = fetched at *
  dsimp only
  by_cases short : (parseBigInt sender.balance : Int) < tx.totalCostBig
  · rw [if_pos short, if_pos short]
    exact .refused _ _
  rw [if_neg short, if_neg short, bind_ok (simulation_assign _ senderThere)]
  have senderAddress := view_address readSender
  by_cases self : tx.toAddr = tx.fromAddr
  · rw [if_pos self]
    have there : (fetched.put { sender with
        balance := mustUint256Bytes (parseBigInt sender.balance - tx.totalCostBig)
        nonce := sender.nonce + 1 }).overlay.find? tx.toAddr = some { sender with
        balance := mustUint256Bytes (parseBigInt sender.balance - tx.totalCostBig)
        nonce := sender.nonce + 1 } := by
      simp [SimulationStore.put, senderAddress, self]
    rw [simulation_assign _ there]
    refine .applied _ _ bothLoaded ?_
    rw [put_view, put_view, bothView]
    exact View.set_set rfl
  · rw [if_neg self]
    have there : (fetched.put { sender with
        balance := mustUint256Bytes (parseBigInt sender.balance - tx.totalCostBig)
        nonce := sender.nonce + 1 }).overlay.find? tx.toAddr = some receiver := by
      simpa [SimulationStore.put, senderAddress, Ne.symm self] using receiverThere
    rw [simulation_assign _ there]
    refine .applied _ _ bothLoaded ?_
    rw [put_view, put_view, bothView]
    rfl

theorem applyTransaction_simulated (cfg : ShardConfig) (coherent : store.ledger.Coherent)
    (native : tx.type.isNative = true) :
    Simulated cfg store (plan tx (Simulation.nativeChange tx) (store.view cfg))
      (Simulation.applyTransaction cfg tx store) := by
  by_cases transfer : tx.type = .transfer
  · have ran := applyTransfer_simulated cfg tx coherent
    simpa only [plan, Simulation.applyTransaction, transfer, if_true] using ran
  have ran := applyOnSender_simulated cfg coherent (Simulation.nativeChange tx) transfer
  cases kind : tx.type <;>
    simp [kind, TransactionType.isNative] at native transfer <;>
    simpa [Simulation.applyTransaction, Simulation.applyStake, Simulation.applyUnstake,
      Simulation.applyDelegate, Simulation.applyUndelegate, Simulation.applyClaimRewards,
      Simulation.applyOnSender, Simulation.nativeChange, kind] using ran

end Apply

def simulationCovers (tx : Transaction) (view : View) (sender : Account) : Prop :=
  match tx.type with
  | .transfer => (view tx.toAddr).isOk = true ∧ tx.totalCostBig ≤ parseBigInt sender.balance
  | .stake | .delegate => tx.totalCostBig ≤ parseBigInt sender.balance
  | .unstake =>
    tx.gasCostBig ≤ parseBigInt sender.balance ∧ tx.amountBig ≤ parseBigInt sender.stakedAmount
  | .undelegate =>
    tx.gasCostBig ≤ parseBigInt sender.balance ∧
      tx.amountBig ≤ parseBigInt (delegationRaw sender tx.toAddr)
  | .claimRewards => tx.gasCostBig ≤ parseBigInt sender.balance
  | _ => False

/-- The validity only the executor checks. Only empty delegations and undelegations are told right.
-/
def executorAccepts (tx : Transaction) (view : View) (sender : Account) : Prop :=
  match tx.type with
  | .transfer =>
    validateAccount sender = .ok () ∧ (view tx.toAddr).bind validateAccount = .ok ()
  | .stake => validateAccount { sender with
      stakedAmount := mustUint256Bytes (parseBigInt sender.stakedAmount + tx.amountBig) } = .ok ()
  | .unstake => validateAccount { sender with
      stakedAmount := mustUint256Bytes (parseBigInt sender.stakedAmount - tx.amountBig) } = .ok ()
  | .delegate =>
    tx.amountBig = 0 ∧ 0 < parseBigInt (delegationRaw sender tx.toAddr) ∧
      validateAccount sender = .ok ()
  | .undelegate =>
    tx.amountBig = 0 ∧ tx.toAddr ≠ [] ∧ validateAccount { sender with
      delegatedTo :=
        if parseBigInt (delegationRaw sender tx.toAddr) = 0 then
          sender.delegatedTo.erase tx.toAddr
        else sender.delegatedTo } = .ok ()
  | .claimRewards => 0 < parseBigInt sender.rewards ∧ validateAccount sender = .ok ()
  | _ => False

def simulationFaithful (tx : Transaction) (view : View) : Prop :=
  match view tx.fromAddr with
  | .error _ => True
  | .ok sender =>
    simulationCovers tx view sender →
      normalizeTransactionAmounts tx = .ok tx.canonical ∧ checkGasLimit tx = .ok () ∧
        checkNonce tx sender = .ok () ∧ executorAccepts tx view sender

instance (tx : Transaction) (view : View) (sender : Account) :
    Decidable (simulationCovers tx view sender) := by
  unfold simulationCovers
  split <;> infer_instance

instance (tx : Transaction) (view : View) (sender : Account) :
    Decidable (executorAccepts tx view sender) := by
  unfold executorAccepts
  split <;> infer_instance

instance (tx : Transaction) (view : View) : Decidable (simulationFaithful tx view) := by
  unfold simulationFaithful
  split <;> infer_instance

section Compare

variable {tx : Transaction} {view : View} {sender : Account} {accounts : List Account} {raw : Bytes}
  {receiver : Account}

theorem mustUint256Bytes_eq_iff (canonical : BigEndian.encode (parseBigInt raw) = raw) (value : Int) :
    mustUint256Bytes value = raw ↔ parseBigInt (mustUint256Bytes value) = parseBigInt raw :=
  ⟨congrArg _, fun same => by rw [mustUint256Bytes_encode, same, canonical]⟩

theorem mustUint256Bytes_add_eq_iff
    (canonical : BigEndian.encode (parseBigInt raw) = raw) (amt : Bytes) :
    mustUint256Bytes (parseBigInt raw + parseBigInt amt) = raw ↔ parseBigInt amt = 0 := by
  rw [mustUint256Bytes_eq_iff canonical, ← Nat.cast_add]
  have bound := parseBigInt_lt raw
  have amountBound := parseBigInt_lt amt
  by_cases small : parseBigInt raw + parseBigInt amt < uint256Bound
  · rw [mustUint256Bytes_natCast small, parseBigInt_encode small]
    omega
  · rw [parseBigInt_mustUint256Bytes_of_le (not_lt.mp small)]
    omega

theorem mustUint256Bytes_sub_eq_iff (canonical : BigEndian.encode (parseBigInt raw) = raw)
    {amt : Bytes} (covered : parseBigInt amt ≤ parseBigInt raw) :
    mustUint256Bytes (parseBigInt raw - parseBigInt amt) = raw ↔ parseBigInt amt = 0 := by
  have bound := parseBigInt_lt raw
  have parsed := parseBigInt_mustUint256Bytes (parseBigInt raw - parseBigInt amt) (by omega) (by omega)
  rw [mustUint256Bytes_eq_iff canonical]
  omega

theorem insert_delegation {acc : Account} {val : Address}
    (canonical : acc.Canonical) (positive : 0 < parseBigInt (delegationRaw acc val)) :
    (val, delegationRaw acc val) ∈ acc.delegatedTo.entries ∧ acc.delegatedTo.insert
        (val, mustUint256Bytes (parseBigInt (delegationRaw acc val))) = acc.delegatedTo := by
  unfold delegationRaw at *
  cases found : acc.delegatedTo.find? val with
  | none =>
    simp only [found] at positive
    exact absurd positive (by decide)
  | some entry =>
  have key : entry.1 = val := KeyedMap.find?_key found
  have mem := KeyedMap.find?_mem found
  have amounts := canonicalizeUint256ByteMap_self_iff.mp (canonical_iff.mp canonical).2 entry mem
  have encoded := canonicalizeUint256Bytes_ok amounts
  subst key
  refine ⟨mem, KeyedMap.insert_of_find? ?_⟩
  rw [mustUint256Bytes_natCast (parseBigInt_lt _), ← encoded]
  exact found

def Confirms (tx : Transaction) (sender simulated : Account) : Prop :=
  nativeChange tx sender = .ok simulated ∧ validateAccount simulated = .ok ()

variable {simulated : Account}

theorem stake_confirms_iff (kind : tx.type = .stake)
    (ok : Simulation.stakeChange tx sender = .ok simulated) :
    Confirms tx sender simulated ↔ executorAccepts tx view sender := by
  unfold Simulation.stakeChange at ok
  split_ifs at ok with short
  cases ok
  simp only [Confirms, executorAccepts, kind, nativeChange, stakeChange, short, if_false, true_and]
  exact Eq.congr_left (validateAccount_congr rfl rfl rfl)

theorem unstake_confirms_iff (kind : tx.type = .unstake)
    (ok : Simulation.unstakeChange tx sender = .ok simulated) :
    Confirms tx sender simulated ↔ executorAccepts tx view sender := by
  unfold Simulation.unstakeChange at ok
  split_ifs at ok with short unstaked
  cases ok
  simp only [Confirms, executorAccepts, kind, nativeChange, unstakeChange, short, unstaked,
    if_false, true_and]
  exact Eq.congr_left (validateAccount_congr rfl rfl rfl)

theorem claimRewards_confirms_iff (kind : tx.type = .claimRewards)
    (ok : Simulation.claimRewardsChange tx sender = .ok simulated) :
    Confirms tx sender simulated ↔ executorAccepts tx view sender := by
  unfold Simulation.claimRewardsChange at ok
  split_ifs at ok with short
  cases ok
  by_cases none : parseBigInt sender.rewards = 0
  · simp [Confirms, executorAccepts, kind, nativeChange, claimRewardsChange, short, none]
  · simp only [Confirms, executorAccepts, kind, nativeChange, claimRewardsChange, short, none,
      if_false, true_and, Nat.pos_of_ne_zero none]
    exact Eq.congr_left (validateAccount_congr rfl rfl rfl)

theorem delegate_confirms_iff (kind : tx.type = .delegate) (canonical : sender.Canonical)
    (ok : Simulation.delegateChange tx sender = .ok simulated) :
    Confirms tx sender simulated ↔ executorAccepts tx view sender := by
  unfold Simulation.delegateChange at ok
  split_ifs at ok with short
  cases ok
  have unmoved := mustUint256Bytes_add_eq_iff canonical.fields.2.1 tx.amount
  simp only [Confirms, executorAccepts, kind, nativeChange, delegateChange, short, if_false]
  constructor
  · rintro ⟨exec, valid⟩
    split_ifs at exec with nobody
    have zero : parseBigInt tx.amount = 0 :=
      unmoved.mp (congrArg Account.stakedAmount (Except.ok.inj exec))
    have noAmount : tx.amountBig = 0 := by simp [Transaction.amountBig, zero]
    rw [noAmount, Int.add_zero] at valid
    have positive : 0 < parseBigInt (delegationRaw sender tx.toAddr) := by
      refine Nat.pos_of_ne_zero fun none => ?_
      have entry := (validateAccount_ok_iff.mp valid).2.1 (tx.toAddr, mustUint256Bytes 0)
        (by simp [KeyedMap.mem_entries_iff, none])
      exact entry.2 rfl
    rw [(insert_delegation canonical positive).2] at valid
    exact ⟨noAmount, positive, (validateAccount_congr rfl rfl rfl).trans valid⟩
  · rintro ⟨noAmount, positive, valid⟩
    obtain ⟨mem, unchanged⟩ := insert_delegation canonical positive
    have zero : parseBigInt tx.amount = 0 := by simpa [Transaction.amountBig] using noAmount
    have somebody : tx.toAddr ≠ [] := by
      intro nobody
      have address := ((validateAccount_ok_iff.mp valid).2.1 _ mem).1
      simp [nobody, validateAddress] at address
    have staked : mustUint256Bytes (parseBigInt sender.stakedAmount + tx.amountBig) =
      sender.stakedAmount := unmoved.mpr zero
    rw [staked, noAmount, Int.add_zero, unchanged]
    exact ⟨by simp [somebody], (validateAccount_congr rfl rfl rfl).trans valid⟩

theorem undelegate_nothing (canonical : sender.Canonical) (noAmount : tx.amountBig = 0) :
    (if (parseBigInt (delegationRaw sender tx.toAddr) : Int) - tx.amountBig = 0 then
        sender.delegatedTo.erase tx.toAddr else sender.delegatedTo.insert (tx.toAddr,
        mustUint256Bytes (parseBigInt (delegationRaw sender tx.toAddr) - tx.amountBig))) =
      if parseBigInt (delegationRaw sender tx.toAddr) = 0 then
        sender.delegatedTo.erase tx.toAddr else sender.delegatedTo := by
  rw [noAmount, Int.sub_zero]
  by_cases none : parseBigInt (delegationRaw sender tx.toAddr) = 0
  · simp [none]
  · have unchanged := (insert_delegation canonical (Nat.pos_of_ne_zero none)).2
    simp only [Int.natCast_eq_zero, none, if_false, unchanged]

theorem undelegate_confirms_iff (kind : tx.type = .undelegate) (canonical : sender.Canonical)
    (ok : Simulation.undelegateChange tx sender = .ok simulated) :
    Confirms tx sender simulated ↔ executorAccepts tx view sender := by
  unfold Simulation.undelegateChange at ok
  split_ifs at ok with short undelegated
  cases ok
  simp only [Confirms, executorAccepts, kind, nativeChange, undelegateChange, short, undelegated,
    if_false]
  by_cases nobody : tx.toAddr = []
  · simp [nobody]
  by_cases unstaked : (parseBigInt sender.stakedAmount : Int) < tx.amountBig
  · have positive : tx.amountBig ≠ 0 := by omega
    simp [nobody, unstaked, positive]
  have covered : parseBigInt tx.amount ≤ parseBigInt sender.stakedAmount := by
    simpa [Transaction.amountBig] using unstaked
  have unmoved := mustUint256Bytes_sub_eq_iff canonical.fields.2.1 covered
  simp only [nobody, unstaked, if_false, ne_eq, not_false_eq_true, true_and]
  constructor
  · rintro ⟨exec, valid⟩
    have zero := unmoved.mp (congrArg Account.stakedAmount (Except.ok.inj exec))
    have noAmount : tx.amountBig = 0 := by simp [Transaction.amountBig, zero]
    rw [undelegate_nothing canonical noAmount] at valid
    exact ⟨noAmount, (validateAccount_congr rfl rfl rfl).trans valid⟩
  · rintro ⟨noAmount, valid⟩
    have staked : mustUint256Bytes (parseBigInt sender.stakedAmount - tx.amountBig) =
      sender.stakedAmount := unmoved.mpr (by simpa [Transaction.amountBig] using noAmount)
    rw [staked, undelegate_nothing canonical noAmount]
    exact ⟨rfl, (validateAccount_congr rfl rfl rfl).trans valid⟩

theorem nativeChange_confirms_iff (native : tx.type.isNative = true)
    (notTransfer : tx.type ≠ .transfer) (canonical : sender.Canonical)
    (ok : Simulation.nativeChange tx sender = .ok simulated) :
    Confirms tx sender simulated ↔ executorAccepts tx view sender := by
  unfold Simulation.nativeChange at ok
  cases kind : tx.type with
  | transfer => exact absurd kind notTransfer
  | stake => exact stake_confirms_iff kind (by simpa only [kind] using ok)
  | unstake => exact unstake_confirms_iff kind (by simpa only [kind] using ok)
  | delegate => exact delegate_confirms_iff kind canonical (by simpa only [kind] using ok)
  | undelegate => exact undelegate_confirms_iff kind canonical (by simpa only [kind] using ok)
  | claimRewards => exact claimRewards_confirms_iff kind (by simpa only [kind] using ok)
  | _ => simp [kind, TransactionType.isNative] at native

theorem simulationCovers_iff (native : tx.type.isNative = true) (notTransfer : tx.type ≠ .transfer) :
    simulationCovers tx view sender ↔
      ∃ simulated, Simulation.nativeChange tx sender = .ok simulated := by
  unfold simulationCovers Simulation.nativeChange
  cases kind : tx.type with
  | transfer => exact absurd kind notTransfer
  | stake | unstake | delegate | undelegate | claimRewards =>
    simp only [Simulation.stakeChange, Simulation.unstakeChange, Simulation.delegateChange,
      Simulation.undelegateChange, Simulation.claimRewardsChange]
    split_ifs <;> simp <;> omega
  | _ => simp [kind, TransactionType.isNative] at native

theorem nativeChange_covers (view : View) {changed : Account} (notTransfer : tx.type ≠ .transfer)
    (ok : nativeChange tx sender = .ok changed) : simulationCovers tx view sender := by
  unfold simulationCovers
  unfold nativeChange at ok
  cases kind : tx.type with
  | transfer => exact absurd kind notTransfer
  | stake | unstake | delegate | undelegate | claimRewards =>
    simp only [kind, stakeChange, unstakeChange, delegateChange, undelegateChange,
      claimRewardsChange] at ok
    split_ifs at ok <;> omega
  | _ => simp [kind] at ok

def View.Canonical (view : View) : Prop :=
  ∀ addr acc, view addr = .ok acc → acc.address = addr ∧ acc.Canonical

def StepAgrees (tx : Transaction) (view : View) : Prop :=
  ∀ accounts, plan tx (Simulation.nativeChange tx) view = some accounts →
    normalizeTransactionAmounts tx = .ok tx.canonical ∧
      ∃ exec, Executable tx view exec ∧ View.assign view exec = View.assign view accounts

theorem View.set_injective {view : View} {left right : Account}
    (address : left.address = right.address) (same : view.set left = view.set right) :
    left = right := by
  have here := congrFun same right.address
  unfold View.set at here
  rw [address, Function.update_self, Function.update_self] at here
  exact Except.ok.inj here

theorem nativeChange_address {simulated : Account}
    (ok : Simulation.nativeChange tx sender = .ok simulated) :
    simulated.address = sender.address := by
  unfold Simulation.nativeChange Simulation.stakeChange Simulation.unstakeChange
    Simulation.delegateChange Simulation.undelegateChange Simulation.claimRewardsChange at ok
  split at ok
  case h_6 => cases ok
  all_goals
    split_ifs at ok
    all_goals
      cases ok
      rfl

theorem executable_simulated {exec : List Account} (native : tx.type.isNative = true)
    (executable : Executable tx view exec) :
    ∃ accounts, plan tx (Simulation.nativeChange tx) view = some accounts := by
  by_cases kind : tx.type = .transfer
  · have planned := executable.planned
    simp only [plan, kind, if_true] at planned ⊢
    exact ⟨exec, planned⟩
  · obtain ⟨_, _, _, read, _, ok, _, _⟩ :=
      (executable_alone view (absurd · kind)).mp executable
    obtain ⟨simulated, simulation⟩ :=
      (simulationCovers_iff native kind).mp (nativeChange_covers view kind ok)
    exact ⟨[simulated], by simp only [plan, kind, if_false, read, simulation]⟩

theorem alone_faithful_iff (native : tx.type.isNative = true) (notTransfer : tx.type ≠ .transfer)
    (good : view.Canonical) : simulationFaithful tx view ↔ StepAgrees tx view := by
  unfold simulationFaithful StepAgrees
  cases read : view tx.fromAddr with
  | error => simp [plan, notTransfer, read]
  | ok sender =>
  have canonical := (good _ _ read).2
  simp only [simulationCovers_iff native notTransfer]
  constructor
  · intro faithful accounts planned
    simp only [plan, notTransfer, if_false, read] at planned
    split at planned
    · simp at planned
    rename_i simulated ok
    obtain rfl := Option.some.inj planned
    obtain ⟨amounts, gas, nonce, accepts⟩ := faithful ⟨simulated, ok⟩
    obtain ⟨exec, valid⟩ :=
      (nativeChange_confirms_iff native notTransfer canonical ok).mpr accepts
    exact ⟨amounts, [simulated], (executable_alone view (absurd · notTransfer)).mpr
      ⟨gas, sender, simulated, read, nonce, exec, valid, rfl⟩, rfl⟩
  · rintro agrees ⟨simulated, ok⟩
    obtain ⟨amounts, _, executable, same⟩ := agrees [simulated]
      (by simp only [plan, notTransfer, if_false, read, ok])
    obtain ⟨gas, _, changed, read', nonce, executedChange, valid, rfl⟩ :=
      (executable_alone view (absurd · notTransfer)).mp executable
    cases read.symm.trans read'
    have equal : changed = simulated := View.set_injective
      ((nativeChange_advances executedChange).address.trans (nativeChange_address ok).symm) same
    subst equal
    exact ⟨amounts, gas, nonce, (nativeChange_confirms_iff native notTransfer canonical ok).mp
      ⟨executedChange, valid⟩⟩

theorem transferPlan_valid_iff (readSender : view tx.fromAddr = .ok sender)
    (readReceiver : view tx.toAddr = .ok receiver) (planned : transferPlan tx view = some accounts) :
    (∀ acc ∈ accounts, validateAccount acc = .ok ()) ↔
      validateAccount sender = .ok () ∧ validateAccount receiver = .ok () := by
  simp only [transferPlan, readSender, readReceiver] at planned
  split_ifs at planned with short self
  · rw [self] at readReceiver
    cases readSender.symm.trans readReceiver
    obtain rfl := Option.some.inj planned
    simp only [List.mem_singleton, forall_eq, and_self]
    exact Eq.congr_left (validateAccount_congr rfl rfl rfl)
  · obtain rfl := Option.some.inj planned
    simp only [List.mem_cons, List.not_mem_nil, or_false, forall_eq_or_imp, forall_eq]
    exact and_congr (Eq.congr_left (validateAccount_congr rfl rfl rfl))
      (Eq.congr_left (validateAccount_congr rfl rfl rfl))

theorem transferPlan_covers_iff (kind : tx.type = .transfer)
    (readSender : view tx.fromAddr = .ok sender) (readReceiver : view tx.toAddr = .ok receiver) :
    simulationCovers tx view sender ↔ ∃ accounts, transferPlan tx view = some accounts := by
  simp only [simulationCovers, kind, transferPlan, readSender, readReceiver, Except.isOk,
    Except.toBool, true_and]
  split_ifs with short self <;> simp <;> omega

theorem transfer_faithful_iff (kind : tx.type = .transfer) :
    simulationFaithful tx view ↔ StepAgrees tx view := by
  have planIs : ∀ change, plan tx change view = transferPlan tx view := fun change => by
    simp only [plan, kind, if_true]
  unfold simulationFaithful StepAgrees
  simp only [planIs]
  cases readSender : view tx.fromAddr with
  | error => simp [transferPlan, readSender]
  | ok sender =>
  cases readReceiver : view tx.toAddr with
  | error =>
    simp [transferPlan, readSender, readReceiver, simulationCovers, kind, Except.isOk,
      Except.toBool]
  | ok receiver =>
  dsimp only
  rw [transferPlan_covers_iff kind readSender readReceiver]
  have accepts : executorAccepts tx view sender ↔
      validateAccount sender = .ok () ∧ validateAccount receiver = .ok () := by
    simp only [executorAccepts, kind, readReceiver, Except.bind]
  constructor
  · intro faithful accounts planned
    obtain ⟨amounts, gas, nonce, valid⟩ := faithful ⟨accounts, planned⟩
    refine ⟨amounts, accounts, ⟨gas, ⟨sender, readSender, nonce⟩, (planIs _).trans planned, ?_⟩, rfl⟩
    exact (transferPlan_valid_iff readSender readReceiver planned).mpr (accepts.mp valid)
  · rintro agrees ⟨accounts, planned⟩
    obtain ⟨amounts, _, executable, _⟩ := agrees accounts planned
    obtain ⟨_, readSender', nonce⟩ := executable.nonce
    cases readSender.symm.trans readSender'
    have executedPlan := (planIs _).symm.trans executable.planned
    exact ⟨amounts, executable.gas, nonce, accepts.mpr
      ((transferPlan_valid_iff readSender readReceiver executedPlan).mp executable.valid)⟩

theorem faithful_iff (native : tx.type.isNative = true) (good : view.Canonical) :
    simulationFaithful tx view ↔ StepAgrees tx view := by
  by_cases kind : tx.type = .transfer
  · exact transfer_faithful_iff kind
  · exact alone_faithful_iff native kind good

end Compare

inductive SimulationAgrees (cfg : NodeConfig) (txs : List Transaction) (ws : WorldState) :
    Prop where
  | bothFail (err message : String) (store : SimulationStore) (after : WorldState)
      (simulated : Simulation.applyTransactions cfg txs
        ⟨KeyedMap.empty, ws.ledger⟩ = .error err store)
      (exec : executeTransactions cfg txs ws = .error message after)
  | bothSucceed (store : SimulationStore) (after : WorldState)
      (simulated : Simulation.applyTransactions cfg txs
        ⟨KeyedMap.empty, ws.ledger⟩ = .ok () store)
      (exec : executeTransactions cfg txs ws = .ok () after)
      (same : ∀ addr, store.view cfg addr = readAccount cfg after.ledger addr)

inductive FaithfulRun (cfg : NodeConfig) : List Transaction → WorldState → Prop where
  | done (ws : WorldState) : FaithfulRun cfg [] ws
  | step {tx : Transaction} {rest : List Transaction} {ws : WorldState}
      (faithful : simulationFaithful tx (readAccount cfg ws.ledger))
      (later : ∀ value after, executeTransaction cfg tx ws = .ok value after →
        FaithfulRun cfg rest after) :
      FaithfulRun cfg (tx :: rest) ws

instance decidableFaithfulRun (cfg : NodeConfig) : ∀ txs ws, Decidable (FaithfulRun cfg txs ws)
  | [], ws => isTrue (.done ws)
  | tx :: rest, ws =>
    if faithful : simulationFaithful tx (readAccount cfg.toShardConfig ws.ledger) then
      match exec : executeTransaction cfg tx ws with
      | .error _ _ => isTrue (.step faithful (by simp [exec]))
      | .ok value after =>
        match decidableFaithfulRun cfg rest after with
        | isTrue later => isTrue (.step faithful (by
            intro other next ran
            cases exec.symm.trans ran
            exact later))
        | isFalse unfaithful => isFalse (by
            rintro (_ | ⟨_, later⟩)
            exact unfaithful (later value after exec))
    else isFalse (by
      rintro (_ | ⟨first, _⟩)
      exact faithful first)

section Run

variable {cfg : NodeConfig} {store : SimulationStore} {ws : WorldState} {tx : Transaction}

structure InStep (cfg : NodeConfig) (store : SimulationStore) (ws : WorldState) : Prop where
  coherent : store.ledger.Coherent
  agrees : ws.ledger.Agrees cfg
  view : store.view cfg = readAccount cfg ws.ledger

theorem InStep.initial (agrees : ws.ledger.Agrees cfg) :
    InStep cfg ⟨KeyedMap.empty, ws.ledger⟩ ws :=
  ⟨agrees.coherent, agrees, rfl⟩

theorem InStep.canonical (inStep : InStep cfg store ws) :
    View.Canonical (readAccount cfg ws.ledger) := fun _ _ read =>
  ⟨readAccount_address read, readAccount_canonical inStep.agrees.coherent read⟩

inductive StepOutcome (cfg : NodeConfig) (tx : Transaction) (store : SimulationStore)
    (ws : WorldState) : Prop where
  | bothFail (err message : String) (store' : SimulationStore) (world' : WorldState)
      (simulated : Simulation.applyTransaction cfg tx store = .error err store')
      (exec : executeTransaction cfg tx ws = .error message world')
  | inStep (value : Transaction) (store' : SimulationStore) (world' : WorldState)
      (simulated : Simulation.applyTransaction cfg tx store = .ok () store')
      (exec : executeTransaction cfg tx ws = .ok value world')
      (next : InStep cfg store' world')

theorem InStep.step (inStep : InStep cfg store ws) (native : tx.type.isNative = true)
    (near : tx.Local cfg) (faithful : simulationFaithful tx (readAccount cfg ws.ledger)) :
    StepOutcome cfg tx store ws := by
  have simulated := applyTransaction_simulated cfg inStep.coherent native
  rw [inStep.view] at simulated
  have agrees := (faithful_iff native inStep.canonical).mp faithful
  generalize planned : plan tx (Simulation.nativeChange tx)
    (readAccount cfg ws.ledger) = planResult at simulated
  generalize applied : Simulation.applyTransaction cfg tx store = result at simulated
  cases simulated with
  | refused err after =>
    cases exec : executeTransaction cfg tx ws with
    | error message world' => exact .bothFail err message after world' applied exec
    | ok =>
      obtain ⟨_, accounts, executable, _⟩ :=
        executeTransaction_executed inStep.agrees native exec
      obtain ⟨_, alsoPlanned⟩ := executable_simulated native executable
      simp [planned] at alsoPlanned
  | applied accounts after coherent view =>
    obtain ⟨amounts, executedPlan, executable, same⟩ := agrees accounts planned
    obtain ⟨value, world', exec⟩ :=
      executeTransaction_of_executable inStep.agrees native near amounts executable
    obtain ⟨_, otherPlan, otherExecutable, agreesAfter, viewAfter⟩ :=
      executeTransaction_executed inStep.agrees native exec
    have samePlan : otherPlan = executedPlan :=
      Option.some.inj (otherExecutable.planned.symm.trans executable.planned)
    refine .inStep value after world' applied exec ⟨coherent, agreesAfter, ?_⟩
    rw [view, inStep.view, viewAfter, samePlan, same]

variable {txs : List Transaction}

theorem InStep.run (inStep : InStep cfg store ws) (native : ∀ tx ∈ txs, tx.type.isNative = true)
    (near : ∀ tx ∈ txs, tx.Local cfg) (faithful : FaithfulRun cfg txs ws) :
    (∃ err message store' world', Simulation.applyTransactions cfg txs store = .error err store' ∧
        executeTransactions cfg txs ws = .error message world') ∨ ∃ store' world',
      Simulation.applyTransactions cfg txs store = .ok () store' ∧
        executeTransactions cfg txs ws = .ok () world' ∧ InStep cfg store' world' := by
  induction txs generalizing store ws with
  | nil => exact Or.inr ⟨store, ws, rfl, rfl, inStep⟩
  | cons tx rest ih =>
    obtain ⟨_⟩ | ⟨first, others⟩ := faithful
    rcases inStep.step (native tx (by simp)) (near tx (by simp)) first with
      ⟨err, message, store', world', simulated, exec⟩ |
      ⟨value, store', world', simulated, exec, next⟩
    · exact Or.inl ⟨_, message, store', world',
        adapt_error simulated,
        bind_error exec _⟩
    · have later := ih next (fun other mem => native other (by simp [mem]))
        (fun other mem => near other (by simp [mem])) (others value world' exec)
      unfold Simulation.applyTransactions executeTransactions
      rw [adapt_ok simulated, bind_ok exec]
      exact later

theorem simulationAgrees_of_faithful (agrees : ws.ledger.Agrees cfg)
    (native : ∀ tx ∈ txs, tx.type.isNative = true) (near : ∀ tx ∈ txs, tx.Local cfg)
    (faithful : FaithfulRun cfg txs ws) : SimulationAgrees cfg txs ws := by
  rcases (InStep.initial agrees).run native near faithful with
    ⟨err, message, store', world', simulated, exec⟩ |
    ⟨store', world', simulated, exec, next⟩
  · exact .bothFail err message store' world' simulated exec
  · exact .bothSucceed store' world' simulated exec (congrFun next.view)

theorem simulationAgrees_single_iff (agrees : ws.ledger.Agrees cfg)
    (native : tx.type.isNative = true) (near : tx.Local cfg) :
    SimulationAgrees cfg [tx] ws ↔ simulationFaithful tx (readAccount cfg ws.ledger) := by
  have inStep := InStep.initial agrees
  constructor
  · intro agreement
    rw [faithful_iff native inStep.canonical]
    intro accounts planned
    have simulated := applyTransaction_simulated cfg inStep.coherent native
    rw [inStep.view, planned] at simulated
    generalize applied : Simulation.applyTransaction cfg tx
      ⟨KeyedMap.empty, ws.ledger⟩ = result at simulated
    cases simulated with
    | applied _ store' _ view =>
    have ran : Simulation.applyTransactions cfg [tx]
        ⟨KeyedMap.empty, ws.ledger⟩ = .ok () store' :=
      adapt_ok applied _
    obtain ⟨_, _, _, _, failed, _⟩ | ⟨_, after, simulated, exec, same⟩ := agreement
    · simp [ran] at failed
    cases ran.symm.trans simulated
    cases first : executeTransaction cfg tx ws with
    | error err world' =>
      have failed : executeTransactions cfg [tx] ws = .error err world' :=
        bind_error first _
      simp [failed] at exec
    | ok _ world' =>
    have done : executeTransactions cfg [tx] ws = .ok () world' :=
      bind_ok first _
    cases done.symm.trans exec
    obtain ⟨amounts, executedPlan, executable, _, viewAfter⟩ :=
      executeTransaction_executed agrees native first
    refine ⟨amounts, executedPlan, executable, ?_⟩
    rw [← viewAfter, ← funext same, view, inStep.view]
  · intro faithful
    exact simulationAgrees_of_faithful agrees (by simpa using native) (by simpa using near)
      (.step faithful fun _ after _ => .done after)

end Run

/-- The two agree on every run whose transactions are each told right, and on one transaction
exactly then. -/
theorem simulation_refines_execution (cfg : NodeConfig) (ws : WorldState) (txs : List Transaction)
    (agrees : ws.ledger.Agrees cfg) (native : ∀ tx ∈ txs, tx.type.isNative = true)
    (near : ∀ tx ∈ txs, tx.Local cfg) : (FaithfulRun cfg txs ws → SimulationAgrees cfg txs ws) ∧
      ∀ tx ∈ txs, SimulationAgrees cfg [tx] ws ↔
        simulationFaithful tx (readAccount cfg ws.ledger) :=
  ⟨simulationAgrees_of_faithful agrees native near, fun tx mem =>
    simulationAgrees_single_iff agrees (native tx mem) (near tx mem)⟩

theorem sampleTransaction_local (type : TransactionType) (amt : Bytes) (nonce : UInt64) :
    (sampleTransaction type amt nonce).Local sampleConfig := ⟨rfl, fun _ => rfl⟩

theorem sampleWorld_agrees (digit : Byte) (bal : Bytes) :
    (sampleWorld [sampleAccount digit bal]).ledger.Agrees sampleConfig :=
  agrees_of_unused _ rfl rfl (by
    intro acc mem
    rcases KeyedMap.mem_insertEntry mem with rfl | old
    · rfl
    · simp [KeyedMap.empty] at old)

theorem simulation_refines_execution_two :
    SimulationAgrees sampleConfig [sampleTransaction .transfer [5] 0, sampleTransaction .stake [7] 1]
      (sampleWorld [sampleAccount 97 [1, 0, 0]]) := by
  have near : ∀ tx ∈ [sampleTransaction .transfer [5] 0, sampleTransaction .stake [7] 1],
      tx.Local sampleConfig := by
    intro tx mem
    rcases List.mem_cons.mp mem with rfl | mem
    · exact sampleTransaction_local _ _ _
    · obtain rfl := List.mem_singleton.mp mem
      exact sampleTransaction_local _ _ _
  exact (simulation_refines_execution sampleConfig (sampleWorld [sampleAccount 97 [1, 0, 0]])
    [sampleTransaction .transfer [5] 0, sampleTransaction .stake [7] 1]
    (sampleWorld_agrees 97 [1, 0, 0]) (by decide) near).1 (by decide +kernel)

/-- A funded delegation is not: the executor adds it to the staked amount, the simulation does not. -/
theorem simulation_misses_delegated_stake :
    (sampleWorld [sampleAccount 97 [1, 0, 0]]).ledger.Agrees sampleConfig ∧
      (sampleTransaction .delegate [5] 0).type.isNative = true ∧
      (sampleTransaction .delegate [5] 0).Local sampleConfig ∧
      ¬ SimulationAgrees sampleConfig [sampleTransaction .delegate [5] 0]
        (sampleWorld [sampleAccount 97 [1, 0, 0]]) := by
  refine ⟨sampleWorld_agrees _ _, rfl, sampleTransaction_local _ _ _, ?_⟩
  rw [simulationAgrees_single_iff (sampleWorld_agrees _ _) rfl (sampleTransaction_local _ _ _)]
  decide +kernel

end Thrylos
