import Thrylos.Library.Runs
import Thrylos.SettledLedger

/-!
Transfers between two shards, each with its own cross-shard manager. A record never leaves the
manager that debited the sender, and the same transfer within the same second takes over the record
of the first.
-/

namespace Thrylos

open CrossShardManager (checkDebit completeTransfer initiateTransfer transferHash)

def CrossShardState.withLedger (st : CrossShardState) (am : Ledger) : CrossShardState :=
  { st with staking := { st.staking with world := { st.staking.world with ledger := am } } }

def CrossShardTransfer.value (transfer : CrossShardTransfer) : Int :=
  (decimalText transfer.amount).getD 0

namespace CrossShardState

def balances (st : CrossShardState) : Nat :=
  st.ledger.accounts.total fun acc => parseBigInt acc.balance

def pendingValue (st : CrossShardState) : Int :=
  ((st.pendingTransfers.entries.filter fun transfer => transfer.status = .pending).map
    CrossShardTransfer.value).sum

def worth (st : CrossShardState) : Int := st.balances + st.pendingValue

end CrossShardState

structure ShardPair where
  states : Bool → CrossShardState
  initiated : List (Bool × CrossShardTransfer)

inductive TransferCall where
  | initiate (sender receiver : Address) (amt : Bytes) (nonce : UInt64)
  | complete (transferHash : Bytes)

def ShardPair.next (configs : Bool → StakingConfig) (pair : ShardPair) (side : Bool) :
    TransferCall → ShardPair
  | .initiate sender receiver amt nonce =>
    match initiateTransfer (configs side) sender receiver amt nonce (pair.states side) with
    | .ok transfer after =>
      ⟨Function.update pair.states side after, (side, transfer) :: pair.initiated⟩
    | .error _ after => { pair with states := Function.update pair.states side after }
  | .complete transferHash =>
    let result := completeTransfer (configs side) transferHash (pair.states side)
    { pair with states := Function.update pair.states side result.final }

def ShardPair.total (pair : ShardPair) : Int := (pair.states false).worth + (pair.states true).worth

structure CrossShardState.Kept (cfg : StakingConfig) (st : CrossShardState) : Prop where
  settled : st.ledger.Settled cfg
  outgoing : ∀ transfer ∈ st.pendingTransfers.entries,
    transfer.toShard ≠ cfg.shardID ∧ transfer.status = .pending

def CrossShardState.nextHash (cfg : StakingConfig) (st : CrossShardState)
    (sender receiver : Address) (amt : Bytes) (nonce : UInt64) : Bytes :=
  transferHash cfg sender receiver amt nonce
    (wholeSeconds (cfg.clock st.staking.world.ticks))

section Manager

variable {cfg : StakingConfig} {st : CrossShardState} {am : Ledger}

theorem onShardAccounts_ok {α : Type} {prog : LedgerM α} {value : α}
    (ran : prog st.ledger = .ok value am) :
    onShardAccounts prog st = .ok value (st.withLedger am) := by
  have ranThere : prog st.staking.world.ledger = .ok value am := ran
  simp only [onShardAccounts, onStakingState, onAccounts, onWorldState, onLedger, ranThere]
  rfl

theorem onShardAccounts_error {α : Type} {prog : LedgerM α} {err : String}
    (ran : prog st.ledger = .error err am) :
    onShardAccounts prog st = .error err (st.withLedger am) := by
  have ranThere : prog st.staking.world.ledger = .error err am := ran
  simp only [onShardAccounts, onStakingState, onAccounts, onWorldState, onLedger, ranThere]
  rfl

theorem completeTransfer_refused (kept : st.Kept cfg) (transferHash : Bytes) :
    ∃ err, completeTransfer cfg transferHash st = .error err st := by
  unfold completeTransfer
  rw [bind_ok get_ok]
  cases found : st.pendingTransfers.find? transferHash with
  | none => exact ⟨_, rfl⟩
  | some transfer =>
    have away := (kept.outgoing transfer (KeyedMap.find?_mem found)).1
    simp only [away, ne_eq, not_false_eq_true, if_true]
    exact ⟨_, rfl⟩

theorem saveAccount_again {acc : Account} (updated : Updated cfg acc acc)
    (stored : am.accounts.find? acc.address = some acc) : saveAccount acc am = .ok () am := by
  have norm : normalizeAccountCompat acc = .ok acc := updated.canonical
  simp only [saveAccount, norm, KeyedMap.insert_of_find? stored]

structure Debited (cfg : StakingConfig) (st : CrossShardState) (sender receiver : Address)
    (amt : Bytes) (nonce : UInt64) (transfer : CrossShardTransfer) (after : CrossShardState) :
    Prop where
  amountText : transfer.amount = amt
  hash : transfer.hash = st.nextHash cfg sender receiver amt nonce
  outgoing : transfer.toShard ≠ cfg.shardID ∧ transfer.status = .pending
  covered : transfer.value ≤ parseBigInt (st.ledger.record sender).balance
  recorded : after.pendingTransfers = st.pendingTransfers.insert transfer
  settled : after.ledger.Settled cfg
  debited : ∃ norm, after.ledger.accounts = st.ledger.accounts.insert norm ∧
    Updated cfg ((st.ledger.record sender).credited (-transfer.value)) norm

theorem checkDebit_ok {sender : Account} {amt : Bytes} {nonce : UInt64} {amountBig : Int}
    (checked : checkDebit sender amt nonce = .ok amountBig) :
    amountBig = (decimalText amt).getD 0 ∧ amountBig ≤ parseBigInt sender.balance := by
  unfold checkDebit at checked
  dsimp only at checked
  split_ifs at checked with short
  cases checked
  exact ⟨rfl, not_lt.mp short⟩

theorem initiateTransfer_cases (settled : st.ledger.Settled cfg)
    (sender receiver : Address) (amt : Bytes) (nonce : UInt64) :
    (∃ err after, initiateTransfer cfg sender receiver amt nonce st =
        .error err after ∧ after.ledger.Settled cfg ∧ after.ledger.accounts = st.ledger.accounts ∧
        after.pendingTransfers = st.pendingTransfers) ∨
    ∃ transfer after, initiateTransfer cfg sender receiver amt nonce st =
        .ok transfer after ∧ Debited cfg st sender receiver amt nonce transfer after := by
  unfold initiateTransfer
  by_cases inside : calculateShardID cfg sender =
      calculateShardID cfg receiver
  · rw [if_pos inside]
    exact .inl ⟨_, _, rfl, settled, rfl, rfl⟩
  rw [if_neg inside]
  by_cases foreign : calculateShardID cfg sender ≠ cfg.shardID
  · rw [if_pos foreign]
    exact .inl ⟨_, _, rfl, settled, rfl, rfl⟩
  rw [if_neg foreign]
  by_cases readable : Readable cfg sender
  swap
  · obtain ⟨_, hidden⟩ := getAccount_hidden readable st.ledger
    rw [adapt_error (onShardAccounts_error hidden)]
    exact .inl ⟨_, _, rfl, settled, rfl, rfl⟩
  obtain ⟨loaded, looked, loadedSettled, sameAccounts⟩ := settled.getAccount readable
  rw [adapt_ok (onShardAccounts_ok looked)]
  cases checked : checkDebit (st.ledger.record sender) amt nonce with
  | error =>
    rw [check_error]
    exact .inl ⟨_, _, rfl, loadedSettled, sameAccounts, rfl⟩
  | ok =>
  obtain ⟨rfl, covered⟩ := checkDebit_ok checked
  rw [check_ok]
  -- The clock is read before the sender is debited; it is no part of the ledger.
  generalize tickedEq : { (st.withLedger loaded) with staking := { (st.withLedger loaded).staking with
    world := { (st.withLedger loaded).staking.world with
      ticks := (st.withLedger loaded).staking.world.ticks + 1 } } } = ticked
  have clocked : onStakingState (onWorldState (readClock cfg))
      (st.withLedger loaded) = .ok (cfg.clock st.staking.world.ticks) ticked := by
    rw [← tickedEq]
    rfl
  have tickedLedger : ticked.ledger = loaded := by rw [← tickedEq]; rfl
  have tickedPending : ticked.pendingTransfers = st.pendingTransfers := by rw [← tickedEq]; rfl
  rw [bind_ok clocked]
  have valid : validateAccount ((st.ledger.record sender).credited (-(decimalText amt).getD 0)) =
      .ok () := by
    rw [validateAccount_credited]
    exact (settled.updated readable).valid
  have shard : belongsToShard cfg
      ((st.ledger.record sender).credited (-(decimalText amt).getD 0)).address = true := by
    change belongsToShard _ (st.ledger.record sender).address = true
    rw [st.ledger.record_address]
    exact readable.2
  obtain ⟨norm, stored, assigned, updated, storedSettled, inserted⟩ :=
    loadedSettled.assignAccount valid shard
  rw [← tickedLedger] at assigned
  rw [adapt_ok (onShardAccounts_ok assigned)]
  have saved : saveAccount norm stored = .ok () stored :=
    saveAccount_again updated.again (by rw [inserted, KeyedMap.find?_insert, if_pos rfl])
  rw [adapt_ok (onShardAccounts_ok
    (show saveAccount norm (ticked.withLedger stored).ledger = _ from saved))]
  refine .inr ⟨_, _, rfl, rfl, rfl, ⟨fun same => inside ?_, rfl⟩, covered, ?_, storedSettled,
    norm, ?_, updated⟩
  · exact (not_not.mp foreign).trans same.symm
  · change ticked.pendingTransfers.insert _ = _
    rw [tickedPending]
  · change stored.accounts = _
    rw [inserted, sameAccounts]

theorem pendingValue_insert {pending : KeyedMap CrossShardTransfer.hash}
    {transfer : CrossShardTransfer} (fresh : pending.find? transfer.hash = none)
    (status : transfer.status = .pending) :
    (((pending.insert transfer).entries.filter fun transfer => transfer.status = .pending).map
      CrossShardTransfer.value).sum =
    transfer.value + ((pending.entries.filter fun transfer => transfer.status = .pending).map
      CrossShardTransfer.value).sum := by
  have permuted := KeyedMap.insert_perm pending transfer
  rw [KeyedMap.erase_of_absent fresh] at permuted
  rw [((permuted.filter _).map CrossShardTransfer.value).sum_eq, List.filter_cons_of_pos (by simp [status]),
    List.map_cons, List.sum_cons]

variable {sender receiver : Address} {amt : Bytes} {nonce : UInt64}
  {transfer : CrossShardTransfer} {after : CrossShardState}

theorem Debited.balances (debited : Debited cfg st sender receiver amt nonce transfer after)
    (nonnegative : 0 ≤ transfer.value) : (after.balances : Int) + transfer.value = st.balances := by
  obtain ⟨norm, inserted, updated⟩ := debited.debited
  have covered := debited.covered
  have moved := st.ledger.total_insert_record norm (fun acc => parseBigInt acc.balance) fun _ => rfl
  have address : norm.address = sender :=
    updated.sameHoldings.address.trans (st.ledger.record_address sender)
  have debit : (parseBigInt norm.balance : Int) =
      parseBigInt (st.ledger.record sender).balance - transfer.value := by
    rw [updated.sameHoldings.balance]
    have bounded := parseBigInt_lt (st.ledger.record sender).balance
    exact parseBigInt_mustUint256Bytes _ (by omega) (by omega)
  rw [← inserted, address] at moved
  change ((after.ledger.accounts.total fun acc => parseBigInt acc.balance : Nat) : Int) + _ =
    (st.ledger.accounts.total fun acc => parseBigInt acc.balance : Nat)
  omega

theorem Debited.worth (debited : Debited cfg st sender receiver amt nonce transfer after)
    (nonnegative : 0 ≤ transfer.value)
    (fresh : st.pendingTransfers.find? transfer.hash = none) : after.worth = st.worth := by
  have balances := debited.balances nonnegative
  have pending : after.pendingValue = transfer.value + st.pendingValue := by
    rw [CrossShardState.pendingValue, debited.recorded,
      pendingValue_insert fresh debited.outgoing.2]
    rfl
  unfold CrossShardState.worth
  omega

theorem Debited.kept (debited : Debited cfg st sender receiver amt nonce transfer after)
    (kept : st.Kept cfg) : after.Kept cfg := by
  refine ⟨debited.settled, fun other mem => ?_⟩
  rw [debited.recorded] at mem
  rcases KeyedMap.mem_insertEntry mem with rfl | old
  · exact debited.outgoing
  · exact kept.outgoing other old

end Manager

def Accounted (cfg : StakingConfig) (st : CrossShardState) : TransferCall → Prop
  | .initiate sender receiver amt nonce =>
    match initiateTransfer cfg sender receiver amt nonce st with
    | .ok transfer after => 0 ≤ transfer.value ∧
        st.pendingTransfers.find? transfer.hash = none ∧ after.worth = st.worth
    | .error _ after => after.worth = st.worth
  | .complete transferHash => ∃ err, completeTransfer cfg transferHash st = .error err st

def SoundTransfer (cfg : StakingConfig) (st : CrossShardState) : TransferCall → Prop
  | .initiate sender receiver amt nonce =>
    (initiateTransfer cfg sender receiver amt nonce st).value?.isSome →
      0 ≤ (decimalText amt).getD 0 ∧
      st.pendingTransfers.find? (st.nextHash cfg sender receiver amt nonce) = none
  | .complete _ => True

theorem accounted_iff_soundTransfer {cfg : StakingConfig} {st : CrossShardState}
    (kept : st.Kept cfg) (call : TransferCall) :
    Accounted cfg st call ↔ SoundTransfer cfg st call := by
  cases call with
  | complete transferHash => exact iff_of_true (completeTransfer_refused kept transferHash) trivial
  | initiate sender receiver amt nonce =>
  rcases initiateTransfer_cases kept.settled sender receiver amt nonce with
    ⟨err, after, ran, _, accounts, pending⟩ | ⟨transfer, after, ran, debited⟩
  · simp only [Accounted, SoundTransfer, ran, EStateM.Result.value?]
    refine iff_of_true ?_ fun made => absurd made (by simp)
    simp only [CrossShardState.worth, CrossShardState.balances, CrossShardState.pendingValue,
      accounts, pending]
  · have value : transfer.value = (decimalText amt).getD 0 := by
      rw [CrossShardTransfer.value, debited.amountText]
    simp only [Accounted, SoundTransfer, ran, EStateM.Result.value?, Option.isSome_some, forall_const,
      ← value, ← debited.hash]
    exact ⟨fun ⟨nonnegative, fresh, _⟩ => ⟨nonnegative, fresh⟩, fun ⟨nonnegative, fresh⟩ =>
      ⟨nonnegative, fresh, debited.worth nonnegative fresh⟩⟩

structure ShardPair.Opening (configs : Bool → StakingConfig) (pair : ShardPair) : Prop where
  settled : ∀ side, (pair.states side).ledger.Settled (configs side).toShardConfig
  unused : ∀ side, (pair.states side).pendingTransfers = KeyedMap.empty
  initiated : pair.initiated = []

structure ExactlyOnce (configs : Bool → StakingConfig) (start pair : ShardPair) : Prop where
  conserved : pair.total = start.total
  nonnegative : ∀ made ∈ pair.initiated, 0 ≤ made.2.value
  distinct : (pair.initiated.map fun made => (made.1, made.2.hash)).Nodup
  recorded : ∀ made ∈ pair.initiated,
    (pair.states made.1).pendingTransfers.find? made.2.hash = some made.2
  uncredited : ∀ side transferHash, ∃ err, completeTransfer (configs side)
    transferHash (pair.states side) = .error err (pair.states side)

section Runs

variable {configs : Bool → StakingConfig} {start pair : ShardPair} {side : Bool}
  {after : CrossShardState}

theorem total_update (initiated : List (Bool × CrossShardTransfer))
    (same : after.worth = (pair.states side).worth) :
    (ShardPair.mk (Function.update pair.states side after) initiated).total = pair.total := by
  cases side <;> simp [ShardPair.total, Function.update, same]

theorem kept_update
    (kept : ∀ side, (pair.states side).Kept (configs side)) (keptAfter : after.Kept (configs side)) :
    ∀ other, (Function.update pair.states side after other).Kept (configs other) := by
  intro other
  by_cases same : other = side
  · subst same
    rwa [Function.update_self]
  · rw [Function.update_of_ne same]
    exact kept other

structure Bookkeeping (configs : Bool → StakingConfig) (start pair : ShardPair) : Prop where
  kept : ∀ side, (pair.states side).Kept (configs side)
  exactly : ExactlyOnce configs start pair

theorem ShardPair.Opening.bookkeeping (opening : start.Opening configs) :
    Bookkeeping configs start start := by
  have kept : ∀ side, (start.states side).Kept (configs side) := fun side =>
    ⟨opening.settled side, fun transfer mem => by
      rw [opening.unused side] at mem
      exact absurd mem List.not_mem_nil⟩
  refine ⟨kept, rfl, ?_, ?_, ?_, fun side => completeTransfer_refused (kept side)⟩
  · intro made mem
    rw [opening.initiated] at mem
    cases mem
  · simp [opening.initiated]
  · intro made mem
    rw [opening.initiated] at mem
    cases mem

theorem Bookkeeping.unrecorded (books : Bookkeeping configs start pair)
    (keptAfter : after.Kept (configs side))
    (worth : after.worth = (pair.states side).worth)
    (pending : after.pendingTransfers = (pair.states side).pendingTransfers) :
    Bookkeeping configs start { pair with states := Function.update pair.states side after } := by
  have kept := kept_update books.kept keptAfter
  have recorded : ∀ made ∈ pair.initiated,
      (Function.update pair.states side after made.1).pendingTransfers.find? made.2.hash =
        some made.2 := by
    intro made mem
    by_cases same : made.1 = side
    · rw [same, Function.update_self, pending, ← same]
      exact books.exactly.recorded made mem
    · rw [Function.update_of_ne same]
      exact books.exactly.recorded made mem
  exact ⟨kept, (total_update _ worth).trans books.exactly.conserved, books.exactly.nonnegative,
    books.exactly.distinct, recorded, fun side => completeTransfer_refused (kept side)⟩

theorem Bookkeeping.recorded (books : Bookkeeping configs start pair)
    {sender receiver : Address} {amt : Bytes} {nonce : UInt64} {transfer : CrossShardTransfer}
    (debited : Debited (configs side) (pair.states side) sender receiver amt nonce transfer after)
    (nonnegative : 0 ≤ transfer.value)
    (fresh : (pair.states side).pendingTransfers.find? transfer.hash = none) :
    Bookkeeping configs start
      ⟨Function.update pair.states side after, (side, transfer) :: pair.initiated⟩ := by
  have kept := kept_update books.kept (debited.kept (books.kept side))
  -- The hash is new to this manager, and every transfer made here is still found under its own.
  have unused (made : Bool × CrossShardTransfer) (mem : made ∈ pair.initiated)
      (same : made.1 = side) : made.2.hash ≠ transfer.hash := by
    intro hashes
    have found := books.exactly.recorded made mem
    rw [same, hashes, fresh] at found
    cases found
  refine ⟨kept, (total_update _ (debited.worth nonnegative fresh)).trans books.exactly.conserved,
    ?_, ?_, ?_, fun side => completeTransfer_refused (kept side)⟩
  · intro made mem
    rcases List.mem_cons.mp mem with rfl | old
    · exact nonnegative
    · exact books.exactly.nonnegative made old
  · rw [List.map_cons, List.nodup_cons]
    refine ⟨fun taken => ?_, books.exactly.distinct⟩
    obtain ⟨made, mem, same⟩ := List.mem_map.mp taken
    exact unused made mem (congrArg Prod.fst same) (congrArg Prod.snd same)
  · intro made mem
    dsimp only
    rcases List.mem_cons.mp mem with rfl | old
    · rw [Function.update_self, debited.recorded, KeyedMap.find?_insert, if_pos rfl]
    by_cases same : made.1 = side
    · rw [same, Function.update_self, debited.recorded, KeyedMap.find?_insert,
        if_neg (unused made old same).symm, ← same]
      exact books.exactly.recorded made old
    · rw [Function.update_of_ne same]
      exact books.exactly.recorded made old

theorem Bookkeeping.next (books : Bookkeeping configs start pair) (side : Bool) (call : TransferCall)
    (sound : SoundTransfer (configs side) (pair.states side) call) :
    Bookkeeping configs start (pair.next configs side call) := by
  cases call with
  | complete transferHash =>
    obtain ⟨err, ran⟩ := completeTransfer_refused (books.kept side) transferHash
    simp only [ShardPair.next, ran, EStateM.Result.final]
    exact books.unrecorded (books.kept side) rfl rfl
  | initiate sender receiver amt nonce =>
  rcases initiateTransfer_cases (books.kept side).settled sender receiver amt nonce with
    ⟨err, after, ran, settled, accounts, pending⟩ | ⟨transfer, after, ran, debited⟩
  · simp only [ShardPair.next, ran]
    refine books.unrecorded ⟨settled, fun transfer mem => ?_⟩ ?_ pending
    · rw [pending] at mem
      exact (books.kept side).outgoing transfer mem
    · simp only [CrossShardState.worth, CrossShardState.balances, CrossShardState.pendingValue,
        accounts, pending]
  · simp only [SoundTransfer, ran, EStateM.Result.value?, Option.isSome_some, forall_const,
      ← debited.hash] at sound
    simp only [ShardPair.next, ran]
    refine books.recorded debited ?_ sound.2
    rw [CrossShardTransfer.value, debited.amountText]
    exact sound.1

end Runs

/-- A call keeps the books exactly if it is sound, and a run of sound calls keeps the total of both
shards. -/
theorem transfers_exactly_once_iff_sound (configs : Bool → StakingConfig) :
    (∀ cfg st call, CrossShardState.Kept cfg st →
      (Accounted cfg st call ↔ SoundTransfer cfg st call)) ∧ ∀ start pair, start.Opening configs →
      Run (fun pair (call : Bool × TransferCall) => some (ShardPair.next configs pair call.1 call.2))
        (fun pair call => SoundTransfer (configs call.1) (pair.states call.1) call.2) start pair →
      ExactlyOnce configs start pair := by
  refine ⟨fun cfg st call kept => accounted_iff_soundTransfer kept call,
    fun start pair opening run => ?_⟩
  refine (run.keeps (Bookkeeping configs start) opening.bookkeeping ?_).exactly
  intro before call after books sound made
  cases made
  exact books.next call.1 call.2 sound

def sampleShards (side : Bool) : StakingConfig :=
  { sampleStaking with
    totalShards := 2
    shardID := if side then 1 else 0 }

def sampleShardPair : ShardPair :=
  ⟨fun side => ⟨⟨sampleWorld (if side then [sampleAccount 97 [9]] else []), 0, []⟩, KeyedMap.empty⟩, []⟩

def sampleCrossTransfer (amt : String) : TransferCall :=
  .initiate (sampleAddress 97) (sampleAddress 98) (GoText.ascii amt) 0

/-- Twice the same transfer leaves one record; a transfer of minus five gives the sender five. -/
theorem a_repeated_transfer_loses_a_record :
    let once := sampleShardPair.next sampleShards true (sampleCrossTransfer "4")
    let twice := once.next sampleShards true (sampleCrossTransfer "4")
    let negative := sampleShardPair.next sampleShards true (sampleCrossTransfer "-5")
    sampleShardPair.total = 9 ∧ once.total = 9 ∧ twice.total = 5 ∧ twice.initiated.length = 2 ∧
      (twice.states true).pendingTransfers.entries.length = 1 ∧
      negative.initiated.map (·.2.value) = [-5] ∧ (negative.states true).balances = 14 := by
  decide +kernel

theorem sampleShardPair_opening : sampleShardPair.Opening sampleShards := by
  refine ⟨fun side => ⟨fun addr acc _ cached => ?_, fun addr acc found => ?_⟩, fun _ => rfl, rfl⟩
  · cases cached
  · cases side with
    | false => cases found
    | true =>
      have mem := KeyedMap.find?_mem found
      have canonical : (sampleAccount 97 [9]).Canonical := rfl
      rw [List.mem_singleton.mp mem]
      exact (Updated.iff_of_canonical canonical).mpr ⟨rfl, rfl, by decide +kernel⟩

theorem one_transfer_is_booked : ExactlyOnce sampleShards sampleShardPair
      (sampleShardPair.next sampleShards true (sampleCrossTransfer "4")) := by
  have sound : SoundTransfer (sampleShards true) (sampleShardPair.states true)
      (sampleCrossTransfer "4") := fun _ => ⟨by decide +kernel, rfl⟩
  exact (transfers_exactly_once_iff_sound sampleShards).2 _ _ sampleShardPair_opening
    (.call (true, sampleCrossTransfer "4") _ .start sound rfl)

end Thrylos
