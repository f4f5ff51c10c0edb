import Thrylos.TransactionPool
import Mathlib.Algebra.Order.BigOperators.Group.List
import Thrylos.Library.NestedMap

/-!
What the indexes of the pool hold, and what every removal and every addition keeps of them.
-/

namespace Thrylos

open KeyedMap (Nested mem_erase_of_mem mem_insert_of_absent mem_keys_erase mem_keys_insert)
open EStateM (bind_ok bind_error get_ok ofExcept_ok adapt_ok adapt_error)

variable {tx victim other : Transaction} {addr : Address}

structure PoolView where
  pending : KeyedMap Transaction.id
  byHash : KeyedMap Transaction.hash
  senders : Address → SenderTransactions
  reserved : Address → NonceSet

namespace PoolView

variable {view : PoolView}

def remove (view : PoolView) (tx : Transaction) : PoolView where
  pending := view.pending.erase tx.id
  byHash := view.byHash.erase tx.hash
  senders := Function.update view.senders tx.fromAddr
    ((view.senders tx.fromAddr).erase tx.nonce.toNat)
  reserved := Function.update view.reserved tx.fromAddr
    ((view.reserved tx.fromAddr).erase tx.nonce.toNat)

def add (view : PoolView) (tx : Transaction) : PoolView where
  pending := view.pending.insert tx
  byHash := view.byHash.insert tx
  senders := Function.update view.senders tx.fromAddr ((view.senders tx.fromAddr).insert tx)
  reserved := Function.update view.reserved tx.fromAddr
    ((view.reserved tx.fromAddr).insert tx.nonce)

structure Indexed (view : PoolView) : Prop where
  hashes : ∀ tx, tx ∈ view.byHash.entries ↔ tx ∈ view.pending.entries
  senders : ∀ addr tx, tx ∈ (view.senders addr).entries ↔
    tx ∈ view.pending.entries ∧ tx.fromAddr = addr
  reserved : ∀ addr nonce, nonce ∈ (view.reserved addr).keys ↔ nonce ∈ (view.senders addr).keys

structure Free (view : PoolView) (tx : Transaction) : Prop where
  id : view.pending.find? tx.id = none
  hash : view.byHash.find? tx.hash = none
  nonce : (view.reserved tx.fromAddr).find? tx.nonce.toNat = none

theorem Free.remove (free : view.Free tx) (victim : Transaction) : (view.remove victim).Free tx := by
  refine ⟨?_, ?_, ?_⟩
  · simp [PoolView.remove, free.id]
  · simp [PoolView.remove, free.hash]
  · by_cases own : tx.fromAddr = victim.fromAddr
    · simp [PoolView.remove, ← own, free.nonce]
    · simp [PoolView.remove, own, free.nonce]

namespace Indexed

theorem distinct (indexed : view.Indexed) (mem : tx ∈ view.pending.entries)
    (listed : other ∈ view.pending.entries) (shared : other.id = tx.id ∨ other.hash = tx.hash ∨
      other.fromAddr = tx.fromAddr ∧ other.nonce = tx.nonce) : other = tx := by
  rcases shared with id | hash | ⟨sender, nonce⟩
  · exact KeyedMap.eq_of_key mem listed id
  · exact KeyedMap.eq_of_key ((indexed.hashes _).mpr mem) ((indexed.hashes _).mpr listed) hash
  · exact KeyedMap.eq_of_key ((indexed.senders _ _).mpr ⟨mem, rfl⟩)
      ((indexed.senders _ _).mpr ⟨listed, sender⟩) (congrArg UInt64.toNat nonce)

theorem absent (indexed : view.Indexed) (free : view.Free tx) :
    (view.senders tx.fromAddr).find? tx.nonce.toNat = none := by
  rw [KeyedMap.find?_eq_none, ← indexed.reserved, ← KeyedMap.find?_eq_none]
  exact free.nonce

theorem reserved_iff (indexed : view.Indexed) (addr : Address) (nonce : UInt64) :
    nonce ∈ (view.reserved addr).entries ↔
      ∃ tx ∈ view.pending.entries, tx.fromAddr = addr ∧ tx.nonce = nonce := by
  have keyed : nonce ∈ (view.reserved addr).entries ↔ nonce.toNat ∈ (view.reserved addr).keys := by
    simp [KeyedMap.keys, UInt64.toNat_inj]
  rw [keyed, indexed.reserved]
  simp only [KeyedMap.keys, List.mem_map, indexed.senders, UInt64.toNat_inj, and_assoc]

theorem remove (indexed : view.Indexed) (mem : tx ∈ view.pending.entries) :
    (view.remove tx).Indexed := by
  have pending (other : Transaction) : other ∈ (view.remove tx).pending.entries ↔
      other ∈ view.pending.entries ∧ other ≠ tx := mem_erase_of_mem mem
  refine ⟨fun other => ?_, fun addr other => ?_, fun addr nonce => ?_⟩
  · rw [pending, ← indexed.hashes]
    exact mem_erase_of_mem ((indexed.hashes _).mpr mem)
  · rw [pending]
    by_cases own : addr = tx.fromAddr
    · subst own
      have listed := (indexed.senders tx.fromAddr tx).mpr ⟨mem, rfl⟩
      simp only [PoolView.remove, Function.update_self, mem_erase_of_mem listed, indexed.senders]
      tauto
    · simp only [PoolView.remove, Function.update_of_ne own, indexed.senders]
      refine and_congr_left fun sender => (and_iff_left ?_).symm
      rintro rfl
      exact own sender.symm
  · by_cases own : addr = tx.fromAddr
    · simp only [PoolView.remove, own, Function.update_self, mem_keys_erase, indexed.reserved]
    · simp only [PoolView.remove, Function.update_of_ne own, indexed.reserved]

theorem add (indexed : view.Indexed) (free : view.Free tx) : (view.add tx).Indexed := by
  refine ⟨fun other => ?_, fun addr other => ?_, fun addr nonce => ?_⟩
  · exact (mem_insert_of_absent free.hash).trans
      ((or_congr_right (indexed.hashes _)).trans (mem_insert_of_absent free.id).symm)
  · simp only [PoolView.add, mem_insert_of_absent free.id]
    by_cases own : addr = tx.fromAddr
    · subst own
      rw [Function.update_self, mem_insert_of_absent (indexed.absent free), indexed.senders,
        or_and_right]
      refine or_congr_left (and_iff_left_of_imp ?_).symm
      rintro rfl
      rfl
    · rw [Function.update_of_ne own, indexed.senders]
      refine and_congr_left fun sender => (or_iff_right ?_).symm
      rintro rfl
      exact own sender.symm
  · by_cases own : addr = tx.fromAddr
    · simp only [PoolView.add, own, Function.update_self, mem_keys_insert, indexed.reserved]
    · simp only [PoolView.add, Function.update_of_ne own, indexed.reserved]

end Indexed

end PoolView

namespace Pool

variable {pool : Pool}

def view (pool : Pool) : PoolView :=
  ⟨pool.pending, pool.byHash, pool.senderTransactions, pool.reservations⟩

theorem senderTransactions_eq : pool.senderTransactions = Nested.inner pool.byAddress := by
  funext addr
  unfold senderTransactions Nested.inner
  cases pool.byAddress.find? addr <;> rfl

theorem reservations_eq (pool : Pool) :
    pool.reservations = Nested.inner pool.nonceReservations := by
  funext addr
  unfold reservations Nested.inner
  cases pool.nonceReservations.find? addr <;> rfl

theorem view_openSender (pool : Pool) (addr : Address) : (pool.openSender addr).view = pool.view := by
  simp only [view, openSender, senderTransactions_eq, reservations_eq, Nested.inner_insert,
    Function.update_eq_self]

theorem removeInternal_byAddress : (pool.removeInternal tx).byAddress =
      Nested.remove pool.byAddress tx.fromAddr tx.nonce.toNat := by
  unfold removeInternal Nested.remove Nested.store
  cases pool.byAddress.find? tx.fromAddr <;> rfl

theorem removeInternal_nonceReservations : (pool.removeInternal tx).nonceReservations =
      Nested.remove pool.nonceReservations tx.fromAddr tx.nonce.toNat := by
  unfold removeInternal Nested.remove Nested.store
  cases pool.nonceReservations.find? tx.fromAddr <;> rfl

theorem view_removeInternal : (pool.removeInternal tx).view = pool.view.remove tx := by
  simp only [view, PoolView.remove, senderTransactions_eq, reservations_eq,
    removeInternal_byAddress, removeInternal_nonceReservations, Nested.inner_remove]
  rfl

end Pool

namespace TransactionPool

variable {cfg : PoolConfig} {ws : WorldState} {funds : PoolM Unit}

/-- `AddTransaction` with the balance check left open: a pool without an account manager has none.
-/
def addWith (cfg : PoolConfig) (funds : PoolM Unit) (tx : Transaction) : PoolM Unit := do
  refusing "transaction validation failed: " (MonadExcept.ofExcept (validateTransactionForPool cfg tx))
  checkDuplicates tx
  onPool (·.openSender tx.fromAddr)
  checkSender tx
  checkReservation tx
  onPool (dropReplaced tx)
  funds
  makeRoom cfg tx
  commit tx

def checkFunds (cfg : PoolConfig) (tx : Transaction) : PoolM Unit :=
  refusing "insufficient balance for pending transactions: " (validateTotalPendingBalance cfg tx)

def heldBalance (cfg : PoolConfig) (am : Ledger) (addr : Address) : Int :=
  match getAccount cfg.toShardConfig addr am with
  | .ok acc _ => parseBigInt acc.balance
  | .error _ _ => 0

def Spares (funds : PoolM Unit) : Prop := ∀ ws,
  (∃ after, funds ws = .ok () after ∧ after.txPool = ws.txPool) ∨
    ∃ why after, funds ws = .error (.refused why) after ∧ after.txPool = ws.txPool

theorem spares_pure : Spares (pure ()) := fun ws => .inl ⟨ws, rfl, rfl⟩

theorem checkFunds_cases (cfg : PoolConfig) (tx : Transaction) (ws : WorldState) :
    (∃ after, totalRequired ws.txPool tx ≤ heldBalance cfg ws.ledger tx.fromAddr ∧
        checkFunds cfg tx ws = .ok () after ∧ after.txPool = ws.txPool) ∨
      ∃ why after, checkFunds cfg tx ws = .error (.refused why) after ∧
        after.txPool = ws.txPool := by
  unfold checkFunds refusing validateTotalPendingBalance heldBalance
  cases read : getAccount cfg.toShardConfig tx.fromAddr ws.ledger with
  | error why am =>
    have asked : onLedger (getAccount cfg.toShardConfig tx.fromAddr) ws =
        .error why { ws with ledger := am } := by rw [onLedger, read]
    rw [adapt_error asked]
    exact .inr ⟨_, _, rfl, rfl⟩
  | ok acc am =>
  have asked : onLedger (getAccount cfg.toShardConfig tx.fromAddr) ws =
      .ok acc { ws with ledger := am } := by rw [onLedger, read]
  rw [adapt_ok asked, bind_ok get_ok]
  split_ifs with short
  · exact .inr ⟨_, _, rfl, rfl⟩
  · exact .inl ⟨_, not_lt.mp short, rfl, rfl⟩

theorem spares_checkFunds : Spares (checkFunds cfg tx) := fun ws =>
  (checkFunds_cases cfg tx ws).imp_left fun ⟨after, _, passed⟩ => ⟨after, passed⟩

structure Fits (cfg : PoolConfig) (view : PoolView) (tx : Transaction) : Prop where
  valid : validateTransactionForPool cfg tx = .ok ()
  free : view.Free tx
  room : (view.senders tx.fromAddr).entries.length < maxTransactionsPerSender

def OwnLast (view : PoolView) (tx victim : Transaction) : Prop :=
  victim.fromAddr = tx.fromAddr ∧
    ∀ other ∈ view.pending.entries, other.fromAddr = tx.fromAddr → other = victim

def opened (ws : WorldState) (tx : Transaction) : WorldState :=
  { ws with txPool := ws.txPool.openSender tx.fromAddr }

structure Evicts (cfg : PoolConfig) (view : PoolView) (tx victim : Transaction) : Prop where
  full : cfg.maxTxs ≤ view.pending.entries.length
  cheapest : Pool.cheapest none (cfg.visit view.pending.entries) = some victim
  cheaper : victim.gasPriceBig < tx.gasPriceBig

def Passes (cfg : PoolConfig) (funds : PoolM Unit) (tx : Transaction) (ws : WorldState) : Prop :=
  Fits cfg ws.txPool.view tx ∧ (∃ paid, funds (opened ws tx) = .ok () paid) ∧
    ((ws.txPool.pending.entries.length : Int) < cfg.maxTxs ∨
      ∃ victim, Evicts cfg ws.txPool.view tx victim)

inductive Added (cfg : PoolConfig) (funds : PoolM Unit) (tx : Transaction) (ws : WorldState) :
    EStateM.Result (Halt String) WorldState Unit → Prop where
  | refused (why : String) (after : WorldState) (same : after.txPool.view = ws.txPool.view)
      (fails : ¬ Passes cfg funds tx ws) :
    Added cfg funds tx ws (.error (.refused why) after)
  | admitted (paid after : WorldState) (fits : Fits cfg ws.txPool.view tx)
      (funded : funds (opened ws tx) = .ok () paid)
      (room : (ws.txPool.pending.entries.length : Int) < cfg.maxTxs)
      (viewed : after.txPool.view = ws.txPool.view.add tx) :
    Added cfg funds tx ws (.ok () after)
  | evicted (paid after : WorldState) (victim : Transaction) (fits : Fits cfg ws.txPool.view tx)
      (funded : funds (opened ws tx) = .ok () paid) (evicts : Evicts cfg ws.txPool.view tx victim)
      (others : ¬ OwnLast ws.txPool.view tx victim)
      (viewed : after.txPool.view = (ws.txPool.view.remove victim).add tx) :
    Added cfg funds tx ws (.ok () after)
  | panicked (paid after : WorldState) (victim : Transaction) (fits : Fits cfg ws.txPool.view tx)
      (funded : funds (opened ws tx) = .ok () paid) (evicts : Evicts cfg ws.txPool.view tx victim)
      (last : OwnLast ws.txPool.view tx victim) :
    Added cfg funds tx ws (.error (.panic "assignment to entry in nil map") after)

theorem refuseUnless_cases (condition : Prop) [Decidable condition] (why : String)
    (ws : WorldState) : condition ∧ refuseUnless condition why ws = .ok () ws ∨
      ¬ condition ∧ ∃ message, refuseUnless condition why ws = .error (.refused message) ws := by
  by_cases holds : condition
  · exact .inl ⟨holds, refuseUnless_ok holds why ws⟩
  · unfold refuseUnless
    rw [if_neg holds]
    exact .inr ⟨holds, why, rfl⟩

theorem checkDuplicates_cases (tx : Transaction) (ws : WorldState) :
    (ws.txPool.pending.find? tx.id = none ∧ ws.txPool.byHash.find? tx.hash = none) ∧
        checkDuplicates tx ws = .ok () ws ∨
      ¬ (ws.txPool.pending.find? tx.id = none ∧ ws.txPool.byHash.find? tx.hash = none) ∧
        ∃ why, checkDuplicates tx ws = .error (.refused why) ws := by
  unfold checkDuplicates
  rw [bind_ok get_ok]
  rcases refuseUnless_cases (ws.txPool.pending.find? tx.id = none) _ ws with ⟨newId, passed⟩ |
    ⟨known, _, refused⟩
  · rw [bind_ok passed, and_iff_right newId]
    exact refuseUnless_cases _ _ _
  · exact .inr ⟨fun new => known new.1, _, bind_error refused _⟩

theorem checkSender_cases (tx : Transaction) (ws : WorldState) :
    let senderTxs := ws.txPool.senderTransactions tx.fromAddr
    (senderTxs.find? tx.nonce.toNat = none → senderTxs.entries.length < maxTransactionsPerSender) ∧
        checkSender tx ws = .ok () ws ∨
      ¬ (senderTxs.find? tx.nonce.toNat = none ∧
          senderTxs.entries.length < maxTransactionsPerSender) ∧
        ∃ why, checkSender tx ws = .error (.refused why) ws := by
  unfold checkSender
  rw [bind_ok get_ok]
  dsimp only
  cases (ws.txPool.senderTransactions tx.fromAddr).find? tx.nonce.toNat with
  | some existing =>
    have present : ¬ some existing = none := by simp
    exact (refuseUnless_cases _ _ _).imp (fun passed => ⟨fun absent => absurd absent present, passed.2⟩)
      fun refused => ⟨fun both => present both.1, refused.2⟩
  | none =>
    exact (refuseUnless_cases _ _ _).imp (fun passed => ⟨fun _ => passed.1, passed.2⟩)
      fun refused => ⟨fun both => refused.1 both.2, refused.2⟩

theorem checkReservation_cases (tx : Transaction) (ws : WorldState) :
    (ws.txPool.reservations tx.fromAddr).find? tx.nonce.toNat = none ∧
        checkReservation tx ws = .ok () ws ∨
      ¬ (ws.txPool.reservations tx.fromAddr).find? tx.nonce.toNat = none ∧
        ∃ why, checkReservation tx ws = .error (.refused why) ws := by
  exact refuseUnless_cases _ _ _

theorem cheapest_mem {best : Option Transaction} {txs : List Transaction}
    (found : Pool.cheapest best txs = some victim) : best = some victim ∨ victim ∈ txs := by
  induction txs generalizing best with
  | nil => cases best <;> exact .inl found
  | cons first rest ih =>
    cases best with
    | none =>
      rcases ih found with same | listed
      · cases same
        exact .inr (.head _)
      · exact .inr (.tail _ listed)
    | some best =>
    rcases ih found with same | listed
    · split_ifs at same
      · cases same
        exact .inr (.head _)
      · exact .inl same
    · exact .inr (.tail _ listed)

theorem Evicts.pending {view : PoolView} (evicts : Evicts cfg view tx victim) :
    victim ∈ view.pending.entries := by
  rcases cheapest_mem evicts.cheapest with impossible | listed
  · cases impossible
  · exact (cfg.visit_perm _).mem_iff.mp listed

theorem makeRoom_cases (cfg : PoolConfig) (tx : Transaction) (ws : WorldState) :
    (ws.txPool.pending.entries.length : Int) < cfg.maxTxs ∧ makeRoom cfg tx ws = .ok () ws ∨
      ¬ ((ws.txPool.pending.entries.length : Int) < cfg.maxTxs ∨
          ∃ victim, Evicts cfg ws.txPool.view tx victim) ∧
        (∃ why, makeRoom cfg tx ws = .error (.refused why) ws) ∨
      ∃ victim, Evicts cfg ws.txPool.view tx victim ∧
        makeRoom cfg tx ws = .ok () { ws with txPool := ws.txPool.removeInternal victim } := by
  unfold makeRoom evictLowestGasPrice
  rw [bind_ok get_ok]
  by_cases full : cfg.maxTxs ≤ ws.txPool.pending.entries.length
  · rw [if_pos full, bind_assoc, bind_ok get_ok]
    dsimp only
    cases found : Pool.cheapest none (cfg.visit ws.txPool.pending.entries) with
    | none =>
      refine .inr (.inl ⟨?_, _, rfl⟩)
      rintro (room | ⟨victim, evicts⟩)
      · exact absurd full (not_le.mpr room)
      · cases found.symm.trans evicts.cheapest
    | some victim =>
    dsimp only
    by_cases cheaper : victim.gasPriceBig < tx.gasPriceBig
    · rw [if_pos cheaper]
      exact .inr (.inr ⟨victim, ⟨full, found, cheaper⟩, rfl⟩)
    rw [if_neg cheaper]
    refine .inr (.inl ⟨?_, _, rfl⟩)
    rintro (room | ⟨other, evicts⟩)
    · exact absurd full (not_le.mpr room)
    · cases found.symm.trans evicts.cheapest
      exact cheaper evicts.cheaper
  · rw [if_neg full]
    exact .inl ⟨not_le.mp full, rfl⟩

def Ready (pool : Pool) (addr : Address) : Prop :=
  pool.nonceReservations.find? addr ≠ none ∧ pool.byAddress.find? addr ≠ none

theorem commit_admits (ws : WorldState) (ready : Ready ws.txPool tx.fromAddr) :
    ∃ after, commit tx ws = .ok () after ∧ after.txPool.view = ws.txPool.view.add tx := by
  obtain ⟨nonces, nonceFound⟩ := Option.ne_none_iff_exists'.mp ready.1
  obtain ⟨senderTxs, senderFound⟩ := Option.ne_none_iff_exists'.mp ready.2
  refine ⟨_, commit_eq ws nonceFound senderFound, ?_⟩
  simp only [Pool.view, PoolView.add, Pool.reservations_eq, Pool.senderTransactions_eq,
    Nested.inner_insert, Nested.inner_of_find? nonceFound, Nested.inner_of_find? senderFound]

theorem commit_panics (missing : ws.txPool.nonceReservations.find? tx.fromAddr = none) :
    commit tx ws = .error (.panic "assignment to entry in nil map") ws := by
  unfold commit
  rw [bind_ok get_ok]
  simp only [missing]
  rfl

theorem ready_removeInternal {pool : Pool} (indexed : pool.view.Indexed)
    (listed : victim ∈ pool.pending.entries) (ready : Ready pool tx.fromAddr)
    (others : ¬ OwnLast pool.view tx victim) : Ready (pool.removeInternal victim) tx.fromAddr := by
  unfold Ready
  rw [Pool.removeInternal_nonceReservations, Pool.removeInternal_byAddress]
  by_cases own : victim.fromAddr = tx.fromAddr
  · have another : ∃ other ∈ pool.pending.entries, other.fromAddr = tx.fromAddr ∧ other ≠ victim := by
      by_contra alone
      push Not at alone
      exact others ⟨own, alone⟩
    obtain ⟨other, pending, sender, ne⟩ := another
    have kept : other.nonce.toNat ∈
        ((pool.view.senders tx.fromAddr).erase victim.nonce.toNat).keys := by
      refine mem_keys_erase.mpr ⟨List.mem_map_of_mem ((indexed.senders _ _).mpr ⟨pending, sender⟩), ?_⟩
      intro same
      exact ne (indexed.distinct listed pending
        (.inr (.inr ⟨sender.trans own.symm, UInt64.toNat.inj same⟩)))
    have reserved : other.nonce.toNat ∈
        ((pool.view.reserved tx.fromAddr).erase victim.nonce.toNat).keys := by
      rw [mem_keys_erase] at kept ⊢
      exact ⟨(indexed.reserved _ _).mpr kept.1, kept.2⟩
    rw [own, Ne, Ne, Nested.find?_remove_eq_none, Nested.find?_remove_eq_none,
      ← Pool.reservations_eq, ← Pool.senderTransactions_eq]
    exact ⟨List.ne_nil_of_mem (List.mem_map.mp reserved).choose_spec.1,
      List.ne_nil_of_mem (List.mem_map.mp kept).choose_spec.1⟩
  · rw [Nested.find?_remove_of_ne _ own, Nested.find?_remove_of_ne _ own]
    exact ready

theorem removeInternal_missing {pool : Pool} (indexed : pool.view.Indexed)
    (last : OwnLast pool.view tx victim) :
    (pool.removeInternal victim).nonceReservations.find? tx.fromAddr = none := by
  rw [Pool.removeInternal_nonceReservations, last.1, Nested.find?_remove_eq_none,
    ← Pool.reservations_eq, List.eq_nil_iff_forall_not_mem]
  intro nonce kept
  obtain ⟨listed, ne⟩ := (KeyedMap.mem_erase_iff _ _ _).mp kept
  obtain ⟨other, mem, same⟩ := List.mem_map.mp
    ((indexed.reserved _ _).mp (List.mem_map_of_mem listed))
  obtain ⟨pending, sender⟩ := (indexed.senders _ _).mp mem
  rw [last.2 other pending sender] at same
  exact ne same.symm

theorem addWith_cases (spares : Spares funds) (indexed : ws.txPool.view.Indexed) :
    Added cfg funds tx ws (addWith cfg funds tx ws) := by
  have viewed := Pool.view_openSender ws.txPool tx.fromAddr
  have opens : onPool (·.openSender tx.fromAddr) ws = .ok () (opened ws tx) := rfl
  have indexedOpened : (opened ws tx).txPool.view.Indexed := viewed ▸ indexed
  unfold addWith
  cases valid : validateTransactionForPool cfg tx with
  | error why =>
    refine .refused _ ws rfl fun passes => ?_
    cases valid.symm.trans passes.1.valid
  | ok =>
  rw [bind_ok (refusing_ok (ofExcept_ok rfl))]
  rcases checkDuplicates_cases tx ws with ⟨⟨newId, newHash⟩, passed⟩ | ⟨known, _, refused⟩
  swap
  · rw [bind_error refused]
    exact .refused _ ws rfl fun passes => known ⟨passes.1.free.id, passes.1.free.hash⟩
  rw [bind_ok passed, bind_ok opens]
  rcases checkSender_cases tx (opened ws tx) with ⟨room, passed⟩ | ⟨crowded, _, refused⟩
  swap
  · rw [bind_error refused]
    refine .refused _ _ viewed fun passes => crowded ?_
    have fits := passes.1
    rw [← viewed] at fits
    exact ⟨indexedOpened.absent fits.free, fits.room⟩
  rw [bind_ok passed]
  rcases checkReservation_cases tx (opened ws tx) with ⟨unreserved, passed⟩ | ⟨taken, _, refused⟩
  swap
  · rw [bind_error refused]
    refine .refused _ _ viewed fun passes => taken ?_
    have fits := passes.1
    rw [← viewed] at fits
    exact fits.free.nonce
  -- Nothing is pending where nothing is reserved, so no transaction is replaced.
  have free : (opened ws tx).txPool.view.Free tx := ⟨newId, newHash, unreserved⟩
  have absent : ((opened ws tx).txPool.senderTransactions tx.fromAddr).find? tx.nonce.toNat =
      none := indexedOpened.absent free
  have drops : onPool (dropReplaced tx) (opened ws tx) = .ok () (opened ws tx) := by
    have kept : dropReplaced tx (opened ws tx).txPool = (opened ws tx).txPool := by
      unfold dropReplaced
      rw [absent]
    rw [onPool_ok, kept]
  have fits : Fits cfg ws.txPool.view tx := by
    rw [← viewed]
    exact ⟨valid, free, room absent⟩
  rw [bind_ok passed, bind_ok drops]
  rcases spares (opened ws tx) with ⟨paid, funded, pool⟩ | ⟨_, paid, refused, pool⟩
  swap
  · rw [bind_error refused]
    refine .refused _ _ (pool ▸ viewed) fun passes => ?_
    obtain ⟨_, funded⟩ := passes.2.1
    cases refused.symm.trans funded
  rw [bind_ok funded]
  have viewedPaid : paid.txPool.view = ws.txPool.view := pool ▸ viewed
  have pending : paid.txPool.pending = ws.txPool.pending := congrArg PoolView.pending viewedPaid
  have ready : Ready paid.txPool tx.fromAddr := by
    rw [pool]
    simp [opened, Ready, Pool.openSender]
  rcases makeRoom_cases cfg tx paid with ⟨room, made⟩ | ⟨stuck, _, refused⟩ | ⟨victim, evicts, made⟩
  · obtain ⟨after, committed, admitted⟩ := commit_admits paid ready
    rw [bind_ok made, committed]
    rw [viewedPaid] at admitted
    exact .admitted paid after fits funded (pending ▸ room) admitted
  · rw [bind_error refused]
    rw [pending, viewedPaid] at stuck
    exact .refused _ _ viewedPaid fun passes => stuck passes.2.2
  · rw [bind_ok made]
    have listed := evicts.pending
    have indexedPaid : paid.txPool.view.Indexed := viewedPaid ▸ indexed
    by_cases last : OwnLast paid.txPool.view tx victim
    · rw [commit_panics (removeInternal_missing indexedPaid last)]
      rw [viewedPaid] at evicts last
      exact .panicked paid _ victim fits funded evicts last
    obtain ⟨after, committed, admitted⟩ := commit_admits
      { paid with txPool := paid.txPool.removeInternal victim }
      (ready_removeInternal indexedPaid listed ready last)
    rw [committed]
    rw [Pool.view_removeInternal, viewedPaid] at admitted
    rw [viewedPaid] at evicts last
    exact .evicted paid after victim fits funded evicts last admitted

end TransactionPool

namespace PoolView

variable {view : PoolView} {maxTxs : Int} {managed : Bool} {admitted : Address → Int}

def pendingCost (view : PoolView) (addr : Address) : Int :=
  ((view.senders addr).entries.map Transaction.totalCostBig).sum

structure Kept (maxTxs : Int) (managed : Bool) (admitted : Address → Int) (view : PoolView) :
    Prop where
  indexed : view.Indexed
  size : (view.pending.entries.length : Int) ≤ max maxTxs 0
  senders : ∀ addr, (view.senders addr).entries.length ≤ maxTransactionsPerSender
  gas : ∀ tx ∈ view.pending.entries, 0 < tx.gas
  funded : managed = true → ∀ addr, view.pendingCost addr ≤ admitted addr

theorem totalCostBig_nonneg (gas : 0 < tx.gas) : 0 ≤ tx.totalCostBig := by
  have positive : 0 ≤ tx.gas.toInt := (Int64.lt_iff_toInt_lt.mp gas).le
  have cost : 0 ≤ tx.gasCostBig := mul_nonneg positive (Int.natCast_nonneg _)
  have amt : 0 ≤ tx.amountBig := Int.natCast_nonneg _
  exact add_nonneg amt cost

theorem sublist_remove :
    ((view.remove tx).senders addr).entries.Sublist (view.senders addr).entries := by
  by_cases own : addr = tx.fromAddr
  · subst own
    simp only [remove, Function.update_self]
    exact List.filter_sublist
  · simp only [remove, Function.update_of_ne own]
    exact List.Sublist.refl _

namespace Kept

theorem costs (kept : view.Kept maxTxs managed admitted) (addr : Address) :
    ∀ cost ∈ (view.senders addr).entries.map Transaction.totalCostBig, 0 ≤ cost := by
  intro cost listed
  obtain ⟨tx, mem, rfl⟩ := List.mem_map.mp listed
  exact totalCostBig_nonneg (kept.gas tx ((kept.indexed.senders addr tx).mp mem).1)

theorem pendingCost_remove (kept : view.Kept maxTxs managed admitted) (tx : Transaction)
    (addr : Address) : (view.remove tx).pendingCost addr ≤ view.pendingCost addr :=
  (sublist_remove.map _).sum_le_sum (kept.costs addr)

theorem remove (kept : view.Kept maxTxs managed admitted) (mem : tx ∈ view.pending.entries) :
    (view.remove tx).Kept maxTxs managed admitted := by
  have shorter := KeyedMap.length_erase_lt mem
  refine ⟨kept.indexed.remove mem, ?_, fun addr => ?_, fun other listed => ?_, fun on addr => ?_⟩
  · have size := kept.size
    change ((view.pending.erase tx.id).entries.length : Int) ≤ _
    omega
  · exact sublist_remove.length_le.trans (kept.senders addr)
  · exact kept.gas other ((KeyedMap.mem_erase_iff _ _ _).mp listed).1
  · exact (kept.pendingCost_remove tx addr).trans (kept.funded on addr)

theorem add (kept : view.Kept maxTxs managed admitted) (free : view.Free tx) (gas : 0 < tx.gas)
    (size : (view.pending.entries.length : Int) < max maxTxs 0)
    (room : (view.senders tx.fromAddr).entries.length < maxTransactionsPerSender) {bal : Int}
    (pays : managed = true → view.pendingCost tx.fromAddr + tx.totalCostBig ≤ bal) :
    (view.add tx).Kept maxTxs managed (Function.update admitted tx.fromAddr bal) := by
  refine ⟨kept.indexed.add free, ?_, fun addr => ?_, fun other listed => ?_, fun on addr => ?_⟩
  · have longer := KeyedMap.length_insert_le view.pending tx
    change ((view.pending.insert tx).entries.length : Int) ≤ _
    omega
  · by_cases own : addr = tx.fromAddr
    · subst own
      simp only [PoolView.add, Function.update_self]
      exact (KeyedMap.length_insert_le _ _).trans room
    · simp only [PoolView.add, Function.update_of_ne own]
      exact kept.senders addr
  · rcases (mem_insert_of_absent free.id).mp listed with rfl | old
    · exact gas
    · exact kept.gas other old
  · by_cases own : addr = tx.fromAddr
    · subst own
      have inserted := KeyedMap.insert_perm (view.senders tx.fromAddr) tx
      rw [KeyedMap.erase_of_absent (kept.indexed.absent free)] at inserted
      simp only [pendingCost, PoolView.add, Function.update_self]
      rw [(inserted.map _).sum_eq, List.map_cons, List.sum_cons, add_comm]
      exact pays on
    · simp only [pendingCost, PoolView.add, Function.update_of_ne own]
      exact kept.funded on addr

end Kept

theorem kept_blank (nonnegative : managed = true → ∀ addr, 0 ≤ admitted addr) :
    Pool.new.view.Kept maxTxs managed admitted := by
  refine ⟨⟨fun _ => Iff.rfl, fun addr tx => ?_, fun addr nonce => Iff.rfl⟩, le_max_right _ _,
    fun addr => Nat.zero_le _, fun tx listed => absurd listed List.not_mem_nil, nonnegative⟩
  exact ⟨fun listed => absurd listed List.not_mem_nil, And.left⟩

end PoolView

end Thrylos
