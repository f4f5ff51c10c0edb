import Thrylos.PoolIndexes

/-!
The pool over whole runs: its indexes agree, an addition is safe unless it evicts the last
transaction of its own sender, and none replaces a pending transaction.
-/

namespace Thrylos

open KeyedMap (Nested mem_erase_of_mem mem_insert_of_absent)

variable {tx victim other : Transaction} {addr : Address}

/-- The order of a walk over the pending transactions, which Go does not fix. -/
structure Visit where
  walk : List Transaction → List Transaction
  perm : ∀ txs, (walk txs).Perm txs

namespace Pool

variable {pool : Pool}

/-- `RemoveTransactionByHash`; for an unknown hash it only returns an error. -/
def removeTransactionByHash (pool : Pool) (txHash : Bytes) : Pool :=
  match pool.byHash.find? txHash with
  | none => pool
  | some tx => pool.removeInternal tx

def removeAll (pool : Pool) (visit : Visit) (unwanted : Transaction → Bool) : Pool :=
  ((visit.walk pool.pending.entries).filter unwanted).foldl removeInternal pool

/-- The reservations with those of one address that no pending transaction has deleted. -/
def dropOrphansOf (pool : Pool) (kept : Nested Address UInt64.toNat) (entry : Address × NonceSet) :
    Nested Address UInt64.toNat :=
  let orphans := entry.2.entries.filter fun nonce =>
    ((pool.senderTransactions entry.1).find? nonce.toNat).isNone
  Nested.store kept entry.1 (orphans.foldl (fun nonces nonce => nonces.erase nonce.toNat) entry.2)

def dropOrphans (pool : Pool) : Pool :=
  { pool with
    nonceReservations :=
      pool.nonceReservations.entries.foldl (dropOrphansOf pool) pool.nonceReservations }

/-- `CleanupExpired`, where `expired` is what has been in the pool for too long. -/
def cleanupExpired (pool : Pool) (visit : Visit) (expired : Transaction → Bool) : Pool :=
  (pool.removeAll visit expired).dropOrphans

def cleanupStaleTransactions (pool : Pool) (visit : Visit) (now maxAge : Int64) : Pool :=
  pool.removeAll visit fun tx => maxAge < now - tx.timestamp

def clear (pool : Pool) : Pool :=
  { Pool.new with totalRemoved := pool.totalRemoved + Int64.ofNat pool.pending.entries.length }

theorem removeAll_keeps {keeps : PoolView → Prop}
    (step : ∀ view tx, keeps view → tx ∈ view.pending.entries → keeps (view.remove tx))
    (visit : Visit) (unwanted : Transaction → Bool) (start : keeps pool.view) :
    keeps (pool.removeAll visit unwanted).view := by
  unfold removeAll
  have nodup := ((visit.perm pool.pending.entries).nodup_iff.mpr pool.pending.entries_nodup).filter
    unwanted
  have listed : ∀ tx ∈ (visit.walk pool.pending.entries).filter unwanted,
      tx ∈ pool.pending.entries := fun tx mem =>
    (visit.perm _).mem_iff.mp (List.mem_of_mem_filter mem)
  generalize (visit.walk pool.pending.entries).filter unwanted = txs at nodup listed
  induction txs generalizing pool with
  | nil => exact start
  | cons tx rest ih =>
    obtain ⟨new, nodup⟩ := List.nodup_cons.mp nodup
    have removed := step pool.view tx start (listed tx (.head _))
    rw [← view_removeInternal] at removed
    refine ih removed nodup fun other mem => ?_
    refine (mem_erase_of_mem (listed tx (.head _))).mpr ⟨listed other (.tail _ mem), ?_⟩
    rintro rfl
    exact new mem

theorem inner_dropOrphansOf (indexed : pool.view.Indexed) {kept : Nested Address UInt64.toNat}
    (same : Nested.inner kept = pool.reservations) {entry : Address × NonceSet}
    (entered : pool.reservations entry.1 = entry.2) :
    Nested.inner (dropOrphansOf pool kept entry) = pool.reservations := by
  have used : (entry.2.entries.filter fun nonce =>
      ((pool.senderTransactions entry.1).find? nonce.toNat).isNone) = [] := by
    refine List.filter_eq_nil_iff.mpr fun nonce listed missing => ?_
    have absent := KeyedMap.find?_eq_none.mp (Option.isNone_iff_eq_none.mp missing)
    rw [← entered] at listed
    exact absent ((indexed.reserved _ _).mp (List.mem_map_of_mem listed))
  rw [dropOrphansOf, used, Nested.inner_store, List.foldl_nil, ← entered, same,
    Function.update_eq_self]

theorem view_dropOrphans (indexed : pool.view.Indexed) : pool.dropOrphans.view = pool.view := by
  have settled : ∀ entries : List (Address × NonceSet),
      (∀ entry ∈ entries, pool.reservations entry.1 = entry.2) →
      ∀ kept, Nested.inner kept = pool.reservations →
      Nested.inner (entries.foldl (dropOrphansOf pool) kept) = pool.reservations := by
    intro entries
    induction entries with
    | nil => exact fun _ kept same => same
    | cons entry rest ih =>
      intro entered kept same
      exact ih (fun other listed => entered other (.tail _ listed)) _
        (inner_dropOrphansOf indexed same (entered entry (.head _)))
  have nonces : pool.dropOrphans.reservations = pool.reservations := by
    rw [reservations_eq]
    refine settled _ (fun entry listed => ?_) _ (reservations_eq pool).symm
    rw [reservations_eq]
    exact Nested.inner_of_find? ((KeyedMap.mem_entries_iff _ _).mp listed)
  rw [view, nonces]
  rfl

end Pool

namespace TransactionPool

inductive PoolCall where
  | add (am : Ledger) (tx : Transaction)
  | remove (txID : Bytes)
  | removeByHash (txHash : Bytes)
  | cleanupExpired (expired : Transaction → Bool)
  | cleanupStale (now maxAge : Int64)
  | updateGasPrice (newMinGasPrice : Int)
  | clear

/-- `admitted` has the balance each sender had when a transaction of theirs was last admitted. -/
structure PoolState where
  world : WorldState
  minGasPrice : Int
  admitted : Address → Int

namespace PoolState

def view (st : PoolState) : PoolView := st.world.txPool.view

def onPool (st : PoolState) (change : Pool → Pool) : PoolState :=
  { st with world := { st.world with txPool := change st.world.txPool } }

end PoolState

def during (cfg : PoolConfig) (visit : Visit) (minGasPrice : Int) : PoolConfig :=
  { cfg with visit := visit.walk, visit_perm := visit.perm, minGasPrice }

def fundsCheck (cfg : PoolConfig) (managed : Bool) (tx : Transaction) : PoolM Unit :=
  if managed then checkFunds cfg tx else pure ()

/-- `AddTransaction` of a pool with or without an account manager. -/
def addManaged (cfg : PoolConfig) (managed : Bool) (tx : Transaction) : PoolM Unit :=
  addWith cfg (fundsCheck cfg managed tx) tx

def addDuring (cfg : PoolConfig) (managed : Bool) (visit : Visit) (st : PoolState)
    (am : Ledger) (tx : Transaction) : EStateM.Result (Halt String) WorldState Unit :=
  addManaged (during cfg visit st.minGasPrice) managed tx { st.world with ledger := am }

def step (cfg : PoolConfig) (managed : Bool) (visit : Visit) (st : PoolState) :
    PoolCall → Option PoolState
  | .add am tx =>
    match addDuring cfg managed visit st am tx with
    | .ok () after => some { st with
        world := after
        admitted := Function.update st.admitted tx.fromAddr (heldBalance cfg am tx.fromAddr) }
    | .error (.refused _) after => some { st with world := after }
    | .error _ _ => none
  | .remove txID => some (st.onPool (·.removeTransaction txID))
  | .removeByHash txHash => some (st.onPool (·.removeTransactionByHash txHash))
  | .cleanupExpired expired => some (st.onPool (·.cleanupExpired visit expired))
  | .cleanupStale now maxAge => some (st.onPool (·.cleanupStaleTransactions visit now maxAge))
  | .updateGasPrice newMinGasPrice =>
    some { st.onPool (·.removeAll visit fun tx => tx.gasPriceBig < newMinGasPrice) with
      minGasPrice := newMinGasPrice }
  | .clear => some (st.onPool (·.clear))

def run (cfg : PoolConfig) (managed : Bool) : List (Visit × PoolCall) → PoolState → Option PoolState
  | [], st => some st
  | (visit, call) :: rest, st => (step cfg managed visit st call).bind (run cfg managed rest)

def Reached (cfg : PoolConfig) (managed : Bool) (st : PoolState) : Prop :=
  ∃ ws minGasPrice calls, ws.txPool = Pool.new ∧
    run cfg managed calls ⟨ws, minGasPrice, fun _ => 0⟩ = some st

variable {cfg : PoolConfig} {managed : Bool} {ws : WorldState} {st final : PoolState}
  {visit : Visit} {call : PoolCall} {calls : List (Visit × PoolCall)}

theorem validated_gas (valid : validateTransactionForPool cfg tx = .ok ()) : 0 < tx.gas := by
  by_contra low
  have low : tx.gas ≤ 0 := Int64.not_lt.mp low
  unfold validateTransactionForPool at valid
  split_ifs at valid

theorem added (cfg : PoolConfig) (managed : Bool) (visit : Visit) {st : PoolState} (am : Ledger)
    (tx : Transaction) (indexed : st.view.Indexed) : Added (during cfg visit st.minGasPrice)
      (fundsCheck (during cfg visit st.minGasPrice) managed tx) tx { st.world with ledger := am }
      (addDuring cfg managed visit st am tx) := by
  refine addWith_cases ?_ indexed
  cases managed with
  | false => exact spares_pure
  | true => exact spares_checkFunds

theorem fundsCheck_pays {paid : WorldState} (free : ws.txPool.view.Free tx)
    (indexed : ws.txPool.view.Indexed)
    (passed : fundsCheck cfg managed tx (opened ws tx) = .ok () paid) (on : managed = true) :
    ws.txPool.view.pendingCost tx.fromAddr + tx.totalCostBig ≤
      heldBalance cfg ws.ledger tx.fromAddr := by
  subst on
  have required : totalRequired (opened ws tx).txPool tx =
      ws.txPool.view.pendingCost tx.fromAddr + tx.totalCostBig := by
    have senders : (opened ws tx).txPool.senderTransactions = ws.txPool.senderTransactions :=
      congrArg PoolView.senders (Pool.view_openSender ws.txPool tx.fromAddr)
    have others : ∀ other ∈ (ws.txPool.senderTransactions tx.fromAddr).entries,
        other.nonce ≠ tx.nonce := fun other listed same =>
      KeyedMap.find?_eq_none.mp (indexed.absent free)
        (List.mem_map.mpr ⟨other, listed, congrArg UInt64.toNat same⟩)
    rw [totalRequired, senders, List.filter_eq_self.mpr (by simpa using others)]
    rfl
  rcases checkFunds_cases cfg tx (opened ws tx) with ⟨_, covered, _⟩ | ⟨_, _, refused, _⟩
  · rw [required] at covered
    exact covered
  · cases refused.symm.trans passed

def PoolState.Kept (cfg : PoolConfig) (managed : Bool) (st : PoolState) : Prop :=
  st.view.Kept cfg.maxTxs managed st.admitted

theorem PoolState.Kept.step (kept : st.Kept cfg managed)
    (ran : TransactionPool.step cfg managed visit st call = some final) : final.Kept cfg managed := by
  have removes (unwanted : Transaction → Bool) :
      (st.world.txPool.removeAll visit unwanted).view.Kept cfg.maxTxs managed st.admitted :=
    Pool.removeAll_keeps (fun _ _ kept listed => kept.remove listed) visit unwanted kept
  have removed (tx : Transaction) (listed : tx ∈ st.view.pending.entries) :
      (st.world.txPool.removeInternal tx).view.Kept cfg.maxTxs managed st.admitted := by
    rw [Pool.view_removeInternal]
    exact PoolView.Kept.remove kept listed
  cases call with
  | add am tx =>
    have outcome := added cfg managed visit am tx kept.indexed
    simp only [TransactionPool.step] at ran
    generalize addDuring cfg managed visit st am tx = result at outcome ran
    cases outcome with
    | refused why after same =>
      cases ran
      unfold PoolState.Kept PoolState.view
      rw [same]
      exact kept
    | admitted paid after fits funded room viewed =>
      cases ran
      unfold PoolState.Kept PoolState.view
      rw [viewed]
      exact PoolView.Kept.add kept fits.free (validated_gas fits.valid) (lt_max_of_lt_left room)
        fits.room (fundsCheck_pays fits.free kept.indexed funded)
    | evicted paid after victim fits funded evicts others viewed =>
      cases ran
      unfold PoolState.Kept PoolState.view
      rw [viewed]
      have shorter := KeyedMap.length_erase_lt evicts.pending
      refine (PoolView.Kept.remove kept evicts.pending).add (fits.free.remove victim)
        (validated_gas fits.valid) (lt_of_lt_of_le (Int.ofNat_lt.mpr shorter) kept.size)
        (PoolView.sublist_remove.length_le.trans_lt fits.room) fun on => ?_
      exact (add_le_add_left (PoolView.Kept.pendingCost_remove kept victim tx.fromAddr) _).trans
        (fundsCheck_pays fits.free kept.indexed funded on)
    | panicked => cases ran
  | remove txID =>
    cases ran
    change (st.world.txPool.removeTransaction txID).view.Kept _ _ _
    unfold Pool.removeTransaction
    split
    · exact kept
    · rename_i found
      exact removed _ (KeyedMap.find?_mem found)
  | removeByHash txHash =>
    cases ran
    change (st.world.txPool.removeTransactionByHash txHash).view.Kept _ _ _
    unfold Pool.removeTransactionByHash
    split
    · exact kept
    · rename_i found
      exact removed _ ((kept.indexed.hashes _).mp (KeyedMap.find?_mem found))
  | cleanupExpired expired =>
    cases ran
    have gone := removes expired
    rw [← Pool.view_dropOrphans gone.indexed] at gone
    exact gone
  | cleanupStale now maxAge | updateGasPrice newMinGasPrice =>
    cases ran
    exact removes _
  | clear =>
    cases ran
    exact PoolView.kept_blank fun on addr =>
      (List.sum_nonneg (PoolView.Kept.costs kept addr)).trans (kept.funded on addr)

theorem PoolState.Kept.run (kept : st.Kept cfg managed)
    (reached : TransactionPool.run cfg managed calls st = some final) : final.Kept cfg managed := by
  induction calls generalizing st with
  | nil =>
    cases reached
    exact kept
  | cons first rest ih =>
    obtain ⟨middle, ran, reached⟩ := Option.bind_eq_some_iff.mp reached
    exact ih (kept.step ran) reached

theorem Reached.kept (reached : Reached cfg managed st) : st.Kept cfg managed := by
  obtain ⟨ws, _, _, blank, ran⟩ := reached
  refine PoolState.Kept.run ?_ ran
  unfold PoolState.Kept PoolState.view
  rw [blank]
  exact PoolView.kept_blank fun _ _ => le_rfl

structure Agreeing (cfg : PoolConfig) (managed : Bool) (st : PoolState) : Prop where
  byHash : ∀ tx, tx ∈ st.view.byHash.entries ↔ tx ∈ st.view.pending.entries
  byAddress : ∀ addr tx, tx ∈ (st.view.senders addr).entries ↔
    tx ∈ st.view.pending.entries ∧ tx.fromAddr = addr
  reserved : ∀ addr nonce, nonce ∈ (st.view.reserved addr).entries ↔
    ∃ tx ∈ st.view.pending.entries, tx.fromAddr = addr ∧ tx.nonce = nonce
  distinct : ∀ first ∈ st.view.pending.entries, ∀ second ∈ st.view.pending.entries,
    first.id = second.id ∨ first.hash = second.hash ∨
      first.fromAddr = second.fromAddr ∧ first.nonce = second.nonce → first = second
  size : (st.view.pending.entries.length : Int) ≤ max cfg.maxTxs 0
  senders : ∀ addr, (st.view.senders addr).entries.length ≤ maxTransactionsPerSender
  funded : managed = true → ∀ addr, st.view.pendingCost addr ≤ st.admitted addr

theorem pool_indexes_agree (cfg : PoolConfig) (managed : Bool) (st : PoolState)
    (reached : Reached cfg managed st) : Agreeing cfg managed st where
  byHash := reached.kept.indexed.hashes
  byAddress := reached.kept.indexed.senders
  reserved := reached.kept.indexed.reserved_iff
  distinct _ mem _ listed := reached.kept.indexed.distinct listed mem
  size := reached.kept.size
  senders := reached.kept.senders
  funded := reached.kept.funded

def samplePool (maxTxs : Int) : PoolConfig where
  toNodeConfig := sampleConfig
  maxTxs := maxTxs
  minGasPrice := 0
  visit := id
  visit_perm := fun _ => .refl _

def sampleVisit : Visit := ⟨id, fun _ => .refl _⟩

def sampleFunds : WorldState :=
  sampleWorld [{ Account.fresh (sampleAddress 97) with balance := [1, 0, 0] }]

def samplePooled (id : Byte) (nonce : UInt64) (gasPrice : Byte) : Transaction :=
  { sampleTransaction .transfer [5] nonce with
    id := [id], hash := [id], gasPrice := [gasPrice], signature := [1] }

def sampleOne (maxTxs : Int) : PoolState :=
  let start : PoolState := ⟨sampleFunds, 0, fun _ => 0⟩
  (step (samplePool maxTxs) true sampleVisit start
    (.add sampleFunds.ledger (samplePooled 1 0 2))).getD start

theorem sampleOne_reached {maxTxs : Int} (room : maxTxs = 1 ∨ maxTxs = 2) :
    Reached (samplePool maxTxs) true (sampleOne maxTxs) := by
  refine ⟨sampleFunds, 0, [(sampleVisit, .add sampleFunds.ledger (samplePooled 1 0 2))], rfl, ?_⟩
  have returns : (step (samplePool maxTxs) true sampleVisit ⟨sampleFunds, 0, fun _ => 0⟩
      (.add sampleFunds.ledger (samplePooled 1 0 2))).isSome = true := by
    rcases room with rfl | rfl <;> decide +kernel
  obtain ⟨st, ran⟩ := Option.isSome_iff_exists.mp returns
  simp only [run, sampleOne, ran, Option.bind_some, Option.getD_some]

theorem sampleOne_pending {maxTxs : Int} (room : maxTxs = 1 ∨ maxTxs = 2) :
    (sampleOne maxTxs).view.pending.entries = [samplePooled 1 0 2] := by
  rcases room with rfl | rfl <;> decide +kernel

/-- The second addition is refused for its nonce, and the last one takes the place of the third. -/
def sampleCalls : List (Visit × PoolCall) :=
  [.add sampleFunds.ledger (samplePooled 1 0 2), .add sampleFunds.ledger (samplePooled 2 0 9),
    .remove [1], .add sampleFunds.ledger (samplePooled 3 0 2),
    .add sampleFunds.ledger (samplePooled 4 1 3), .add sampleFunds.ledger (samplePooled 5 2 9)].map
    fun call => (sampleVisit, call)

theorem an_evicting_pool_agrees :
    ∃ st, run (samplePool 2) true sampleCalls ⟨sampleFunds, 0, fun _ => 0⟩ = some st ∧
      st.view.pending.entries = [samplePooled 4 1 3, samplePooled 5 2 9] ∧
      Agreeing (samplePool 2) true st := by
  have returns : (run (samplePool 2) true sampleCalls ⟨sampleFunds, 0, fun _ => 0⟩).any (fun st =>
      decide (st.view.pending.entries = [samplePooled 4 1 3, samplePooled 5 2 9])) = true := by
    decide +kernel
  obtain ⟨st, ran, pending⟩ := (Option.any_eq_true ..).mp returns
  exact ⟨st, ran, of_decide_eq_true pending, pool_indexes_agree _ _ st ⟨_, _, _, rfl, ran⟩⟩

/-- An empty pool holds more than a negative number of transactions. -/
theorem a_pool_below_zero_is_too_large :
    Reached (samplePool (-1)) true ⟨sampleFunds, 0, fun _ => 0⟩ ∧
      ¬ ((PoolState.mk sampleFunds 0 fun _ => 0).view.pending.entries.length : Int) ≤
        (samplePool (-1)).maxTxs :=
  ⟨⟨sampleFunds, 0, [], rfl, rfl⟩, by decide⟩

def AddsSafely (cfg : PoolConfig) (st : PoolState) (tx : Transaction) :
    EStateM.Result (Halt String) WorldState Unit → Prop
  | .ok () after => cfg.maxTxs ≤ st.view.pending.entries.length →
    ∃ victim ∈ st.view.pending.entries, victim.gasPriceBig < tx.gasPriceBig ∧
      ∀ other, other ∈ after.txPool.pending.entries ↔
        other = tx ∨ other ∈ st.view.pending.entries ∧ other ≠ victim
  | .error (.refused _) after => after.txPool.pending = st.view.pending
  | .error _ _ => False

def EvictsOwnLast (cfg : PoolConfig) (managed : Bool) (visit : Visit) (st : PoolState)
    (am : Ledger) (tx : Transaction) : Prop :=
  let cfg := during cfg visit st.minGasPrice
  Fits cfg st.view tx ∧
    (∃ paid, fundsCheck cfg managed tx (opened { st.world with ledger := am } tx) = .ok () paid) ∧
    ∃ victim, Evicts cfg st.view tx victim ∧ OwnLast st.view tx victim

theorem adds_safely_iff (cfg : PoolConfig) (managed : Bool) (st : PoolState)
    (reached : Reached cfg managed st) (visit : Visit) (am : Ledger) (tx : Transaction) :
    AddsSafely cfg st tx (addDuring cfg managed visit st am tx) ↔
      ¬ EvictsOwnLast cfg managed visit st am tx := by
  have indexed := reached.kept.indexed
  have outcome := added cfg managed visit am tx indexed
  generalize addDuring cfg managed visit st am tx = result at outcome
  cases outcome with
  | refused why after same fails =>
    refine ⟨fun _ crash => fails ?_, fun _ => congrArg PoolView.pending same⟩
    obtain ⟨fits, funded, victim, evicts, _⟩ := crash
    exact ⟨fits, funded, .inr ⟨victim, evicts⟩⟩
  | admitted paid after fits funded room viewed =>
    refine ⟨fun _ crash => ?_, fun _ full => absurd full (not_le.mpr room)⟩
    obtain ⟨_, _, victim, evicts, _⟩ := crash
    exact absurd evicts.full (not_le.mpr room)
  | evicted paid after victim fits funded evicts others viewed =>
    constructor
    · rintro - ⟨_, _, other, again, last⟩
      cases evicts.cheapest.symm.trans again.cheapest
      exact others last
    · intro _ _
      refine ⟨victim, evicts.pending, evicts.cheaper, fun other => ?_⟩
      have pending : after.txPool.pending = ((st.view.remove victim).add tx).pending :=
        congrArg PoolView.pending viewed
      rw [pending]
      exact (mem_insert_of_absent (fits.free.remove victim).id).trans
        (or_congr_right (mem_erase_of_mem evicts.pending))
  | panicked paid after victim fits funded evicts last =>
    exact ⟨False.elim, fun safe => safe ⟨fits, ⟨paid, funded⟩, victim, evicts, last⟩⟩

theorem a_cheap_transaction_is_added_safely :
    AddsSafely (samplePool 1) (sampleOne 1) (samplePooled 2 1 1)
      (addDuring (samplePool 1) true sampleVisit (sampleOne 1) sampleFunds.ledger
        (samplePooled 2 1 1)) := by
  rw [adds_safely_iff (samplePool 1) true (sampleOne 1) (sampleOne_reached (.inl rfl))]
  rintro ⟨_, _, victim, evicts, _⟩
  have cheapest : Pool.cheapest none ((during (samplePool 1) sampleVisit
      (sampleOne 1).minGasPrice).visit (sampleOne 1).view.pending.entries) =
        some (samplePooled 1 0 2) := by
    rw [sampleOne_pending (.inl rfl)]
    rfl
  have cheaper := evicts.cheaper
  rw [← Option.some.inj (cheapest.symm.trans evicts.cheapest)] at cheaper
  exact absurd cheaper (by decide)

def crashed : EStateM.Result (Halt String) WorldState Unit → Bool
  | .error (.panic _) _ => true
  | _ => false

/-- The only transaction of the sender is the one that makes room. -/
theorem a_dearer_transaction_crashes_a_full_pool : Reached (samplePool 1) true (sampleOne 1) ∧
      validateTransactionForPool (during (samplePool 1) sampleVisit 0) (samplePooled 2 1 3) =
        .ok () ∧ crashed (addDuring (samplePool 1) true sampleVisit (sampleOne 1) sampleFunds.ledger
        (samplePooled 2 1 3)) = true :=
  ⟨sampleOne_reached (.inl rfl), by decide +kernel, by decide +kernel⟩

/-- A nonce that is pending is reserved, so no addition gets to replace it. -/
theorem replacement_always_refused (cfg : PoolConfig) (managed : Bool) (st : PoolState)
    (reached : Reached cfg managed st) (visit : Visit) (am : Ledger) (tx : Transaction)
    (pending : ∃ existing ∈ st.view.pending.entries,
      existing.fromAddr = tx.fromAddr ∧ existing.nonce = tx.nonce) :
    ∃ why after, addDuring cfg managed visit st am tx = .error (.refused why) after ∧
      after.txPool.pending = st.view.pending := by
  have indexed := reached.kept.indexed
  have outcome := added cfg managed visit am tx indexed
  have taken : ¬ st.view.Free tx := by
    intro free
    have listed := (indexed.reserved_iff tx.fromAddr tx.nonce).mpr pending
    rw [KeyedMap.mem_entries_iff, free.nonce] at listed
    cases listed
  generalize addDuring cfg managed visit st am tx = result at outcome
  cases outcome with
  | refused why after same => exact ⟨why, after, rfl, congrArg PoolView.pending same⟩
  | admitted _ _ fits | evicted _ _ _ fits | panicked _ _ _ fits => exact absurd fits.free taken

theorem a_better_paid_transaction_is_refused :
    ∃ why after, addDuring (samplePool 2) true sampleVisit (sampleOne 2) sampleFunds.ledger
      (samplePooled 2 0 9) = .error (.refused why) after ∧
        after.txPool.pending = (sampleOne 2).view.pending :=
  replacement_always_refused (samplePool 2) true (sampleOne 2) (sampleOne_reached (.inr rfl))
    sampleVisit sampleFunds.ledger (samplePooled 2 0 9)
    ⟨samplePooled 1 0 2, sampleOne_pending (.inr rfl) ▸ List.mem_singleton_self _, rfl, rfl⟩

/-- It pays more than is asked, and the sender can afford it. -/
theorem a_replacement_is_not_made :
    let existing := samplePooled 1 0 2
    let tx := samplePooled 2 0 9
    Reached (samplePool 2) true (sampleOne 2) ∧ existing ∈ (sampleOne 2).view.pending.entries ∧
      existing.fromAddr = tx.fromAddr ∧ existing.nonce = tx.nonce ∧
      (sampleOne 2).view.pending.find? tx.id = none ∧ (sampleOne 2).view.byHash.find? tx.hash = none ∧
      minReplacementPrice existing ≤ tx.gasPriceBig ∧
      totalRequired (sampleOne 2).world.txPool tx ≤
        heldBalance (samplePool 2) sampleFunds.ledger tx.fromAddr ∧
      (addDuring (samplePool 2) true sampleVisit (sampleOne 2) sampleFunds.ledger tx).value? =
        none :=
  ⟨sampleOne_reached (.inr rfl), by decide +kernel⟩

end TransactionPool

end Thrylos
