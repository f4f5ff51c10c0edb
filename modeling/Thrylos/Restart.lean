import Thrylos.BlockAtomicity
import Thrylos.Consistency
import Thrylos.OverlayRoot

/-!
`SaveState` and `LoadState` of the world state over one database. Only the number of transactions is
written in two ways: in decimal by `CommitBlock` and in eight bytes by `SaveTotalTransactions`.
-/

namespace Thrylos

open GoText (decimal)

abbrev StoredValidators := KeyedMap Validator.address

structure Database where
  height : Option Int64
  stateRoot : Option Bytes
  stateRootEncodingVersion : Option UInt32
  totalTransactions : Option Bytes
  validators : StoredValidators

structure Node where
  staking : StakingState
  totalSupply : Bytes
  database : Database

abbrev NodeM := EStateM String Node

namespace Node

def world (node : Node) : WorldState := node.staking.world

def withWorld (node : Node) (ws : WorldState) : Node :=
  { node with staking := { node.staking with world := ws } }

end Node

def saveValidators : List (Address × Validator) → ValidatorSet → StoredValidators →
    ValidatorSet × StoredValidators × Option String
  | [], vals, stored => (vals, stored, none)
  | (addr, val) :: rest, vals, stored =>
    match normalizeValidatorCompat val with
    | (norm, some err) => (vals.insert (addr, norm), stored,
        some s!"failed to save validator {text val.address}: failed to normalize validator amounts: {err}")
    | (norm, none) =>
      saveValidators rest (vals.insert (addr, norm)) (stored.insert norm)

def saveAccounts (am : Ledger) : Ledger :=
  { am with accounts := am.accounts.merge (getAllAccounts am) }

def saveState : NodeM Unit := fun node =>
  let ws := node.world
  let database := { node.database with
    height := some ws.height
    stateRoot := some ws.stateRoot
    stateRootEncodingVersion := some (getStateRootEncodingVersion ws) }
  let ws := { ws with ledger := saveAccounts ws.ledger }
  match saveValidators ws.validators.entries ws.validators database.validators with
  | (vals, stored, some err) => .error err
      { node.withWorld { ws with validators := vals } with
        database := { database with validators := stored } }
  | (vals, stored, none) => .ok ()
      { node.withWorld { ws with validators := vals } with
        database := { database with validators := stored } }

section

variable (cfg : StakingConfig)

/-- `NewWorldState` over the database of a node. -/
def Node.reopened (now : Int64) (node : Node) : Node where
  staking := {
    world := { newWorldState cfg now node.world.governance with
      ledger := { Ledger.new with
        accounts := node.world.ledger.accounts
        nonces := node.world.ledger.nonces }
      blocks := node.world.blocks
      blocksByHeight := node.world.blocksByHeight
      transactions := node.world.transactions
      contracts := node.world.contracts
      ticks := node.world.ticks }
    totalStaked := 0
    unbondingQueue := [] }
  totalSupply := cfg.genesisSupply
  database := node.database

/-- `GetTotalTransactions`: any eight bytes are a number. -/
def getTotalTransactions (database : Database) : Option Int64 :=
  match database.totalTransactions with
  | none => none
  | some data => if data.length ≠ 8 then none else some (Int64.ofNat (BigEndian.decode data))

def countTransactions (ws : WorldState) (position : Nat) : Nat → Int64
  | 0 => 0
  | count + 1 =>
    match getBlockByHeight ws (Int64.ofNat position) with
    | none => 0
    | some blk =>
      Int64.ofNat blk.transactions.length + countTransactions ws (position + 1) count

def recalculateTotalTransactions (ws : WorldState) : Int64 :=
  countTransactions ws 0 (ws.height.toInt + 1).toNat

def accountTotal (acc : Account) : Nat :=
  parseBigInt acc.balance + parseBigInt acc.stakedAmount + parseBigInt acc.rewards

def readValidator (val : Validator) : Option (Address × Validator) :=
  match normalizeValidatorCompat val with
  | (norm, none) => some (norm.address, norm)
  | (_, some _) => none

def getAllValidators (stored : StoredValidators) : ValidatorSet :=
  KeyedMap.ofList (stored.entries.filterMap readValidator)

def networkStake (vals : ValidatorSet) : Int :=
  (vals.entries.map fun entry => (parseBigInt entry.2.stake : Int)).sum

/-- The chain part of `LoadState`. -/
def loadChain (database : Database) (ws : WorldState) : WorldState :=
  let height := database.height.getD (-1)
  let version := database.stateRootEncodingVersion.getD 0
  { ws with
    height := if 0 ≤ height then height else ws.height
    stateRoot := database.stateRoot.getD []
    stateRootEncodingVersion := if version = 0 then 1 else version
    totalTransactions := (getTotalTransactions database).getD 0 }

def settleTransactions (node : Node) : Node :=
  if node.world.totalTransactions = 0 ∧ 0 ≤ node.world.height then
    let count := recalculateTotalTransactions node.world
    { node.withWorld { node.world with totalTransactions := count } with
      database := { node.database with
        totalTransactions := some (BigEndian.fixed 8 count.toUInt64.toNat) } }
  else node

def loadedNode (node : Node) (am : Ledger) : Node :=
  let ws := loadChain node.database node.world
  let vals := getAllValidators node.database.validators
  settleTransactions { node with
    staking := { node.staking with
      world := { ws with ledger := am, validators := vals }
      totalStaked := networkStake vals }
    totalSupply := decimal ((getAllAccounts ws.ledger).entries.map accountTotal).sum }

def loadState : NodeM Unit := fun node =>
  let ws := loadChain node.database node.world
  let entries := (getAllAccounts ws.ledger).entries.map fun acc => (acc.address, acc)
  let am := { Ledger.new with accounts := ws.ledger.accounts, nonces := ws.ledger.nonces }
  match restoreAccounts cfg entries am with
  | .error err am => .error err (node.withWorld { ws with ledger := am })
  | .ok () am => .ok () (loadedNode node am)

structure SameState (before after : Node) : Prop where
  accounts : readAccount cfg after.world.ledger = readAccount cfg before.world.ledger
  validators : after.world.validators = before.world.validators
  unbondingQueue : after.staking.unbondingQueue = before.staking.unbondingQueue
  height : after.world.height = before.world.height
  currentHash : after.world.currentHash = before.world.currentHash
  lastTimestamp : after.world.lastTimestamp = before.world.lastTimestamp
  totalSupply : after.totalSupply = before.totalSupply
  totalStaked : after.staking.totalStaked = before.staking.totalStaked
  totalTransactions : after.world.totalTransactions = before.world.totalTransactions
  stateRoot : after.world.stateRoot = before.world.stateRoot
  encodingVersion : after.world.stateRootEncodingVersion = before.world.stateRootEncodingVersion

def RestartTransparent (now : Int64) (node : Node) : Prop :=
  ∃ saved loaded, saveState node = .ok () saved ∧
    loadState cfg (saved.reopened cfg now) = .ok () loaded ∧ SameState cfg node loaded

def recoveredTransactions (node : Node) : Int64 :=
  let stored := (getTotalTransactions node.database).getD 0
  if stored = 0 then recalculateTotalTransactions node.world else stored

def AccountsPass (cfg : ShardConfig) (node : Node) : Prop :=
  ∀ acc ∈ (getAllAccounts node.world.ledger).entries,
    validateAccount acc = .ok () ∧ belongsToShard cfg acc.address = true

/-- What a restart needs: no head, no queue, totals that are sums, nothing cached that is not
stored, and the same validators in memory and in the database. -/
structure Restartable (now : Int64) (node : Node) : Prop where
  currentHash : node.world.currentHash = []
  unbondingQueue : node.staking.unbondingQueue = []
  lastTimestamp : node.world.lastTimestamp = now
  height : 0 ≤ node.world.height
  encodingVersion : node.world.stateRootEncodingVersion ≠ 0
  cache : readAccount cfg node.world.ledger = recordView cfg node.world.ledger.accounts
  accounts : AccountsPass cfg node
  registered : ∀ entry ∈ node.world.validators.entries, readValidator entry.2 = some entry
  stored : ∀ val ∈ node.database.validators.entries, (readValidator val).isSome = true →
    (node.world.validators.find? val.address).isSome = true
  totalSupply : node.totalSupply =
    decimal ((getAllAccounts node.world.ledger).entries.map accountTotal).sum
  totalStaked : node.staking.totalStaked = networkStake node.world.validators
  totalTransactions : node.world.totalTransactions = recoveredTransactions node

end

section Validators

variable {stored : StoredValidators} {vals validators' : ValidatorSet}

theorem readValidator_some {val : Validator} {entry : Address × Validator}
    (read : readValidator val = some entry) :
    normalizeValidatorCompat val = (entry.2, none) ∧ entry.1 = val.address ∧
      entry.2.address = val.address ∧ readValidator entry.2 = some entry := by
  unfold readValidator at read
  split at read
  · rename_i norm normalised
    cases read
    suffices settled : norm.address = val.address ∧ normalizeValidatorCompat norm = (norm, none) by
      refine ⟨normalised, settled.1, settled.1, ?_⟩
      simp only [readValidator, settled.2]
    unfold normalizeValidatorCompat at normalised
    cases stakeOk : canonicalizeUint256Bytes val.stake with
    | error => simp [stakeOk] at normalised
    | ok =>
    cases selfOk : canonicalizeUint256Bytes val.selfStake with
    | error => simp [stakeOk, selfOk] at normalised
    | ok =>
    cases delegatedOk : canonicalizeUint256Bytes val.delegatedStake with
    | error => simp [stakeOk, selfOk, delegatedOk] at normalised
    | ok =>
    cases delegatorsOk : canonicalizeUint256ByteMap val.delegators with
    | error => simp [stakeOk, selfOk, delegatedOk, delegatorsOk] at normalised
    | ok =>
    simp only [stakeOk, selfOk, delegatedOk, delegatorsOk, Prod.mk.injEq, and_true] at normalised
    subst normalised
    refine ⟨rfl, ?_⟩
    simp only [normalizeValidatorCompat, canonicalizeUint256Bytes_ok stakeOk,
      canonicalizeUint256Bytes_ok selfOk, canonicalizeUint256Bytes_ok delegatedOk,
      canonicalizeUint256Bytes_encode (parseBigInt_lt _),
      canonicalizeUint256ByteMap_idem delegatorsOk]
  · cases read

theorem find?_getAllValidators (addr : Address) :
    (getAllValidators stored).find? addr = (stored.find? addr).bind readValidator := by
  have keys : ((stored.entries.filterMap readValidator).map Prod.fst).Nodup := by
    refine List.pairwise_map.mpr (List.Pairwise.filterMap readValidator ?_ stored.sorted)
    intro first second below entry read other readOther
    rw [(readValidator_some read).2.1, (readValidator_some readOther).2.1]
    exact below.ne
  refine Option.ext fun entry => ?_
  rw [getAllValidators, KeyedMap.find?_ofList_iff keys, Option.bind_eq_some_iff, List.mem_filterMap]
  constructor
  · rintro ⟨⟨val, mem, read⟩, rfl⟩
    rw [KeyedMap.mem_entries_iff] at mem
    exact ⟨val, (readValidator_some read).2.1 ▸ mem, read⟩
  · rintro ⟨val, found, read⟩
    refine ⟨⟨val, KeyedMap.find?_mem found, read⟩, ?_⟩
    exact (readValidator_some read).2.1.trans (KeyedMap.find?_key found)

def normalForms (entries : List (Address × Validator)) : List Validator :=
  entries.filterMap fun entry => (readValidator entry.2).map Prod.snd

variable {entries : List (Address × Validator)}

theorem saveValidators_readable
    (readable : ∀ entry ∈ entries, (readValidator entry.2).isSome = true)
    (vals : ValidatorSet) (stored : StoredValidators) :
    ∃ validators', saveValidators entries vals stored =
      (validators', (normalForms entries).foldl KeyedMap.insert stored, none) := by
  induction entries generalizing vals stored with
  | nil => exact ⟨vals, rfl⟩
  | cons entry _ ih =>
    obtain ⟨addr, _⟩ := entry
    obtain ⟨norm, read⟩ := Option.isSome_iff_exists.mp (readable _ List.mem_cons_self)
    obtain ⟨normalised, -⟩ := readValidator_some read
    obtain ⟨validators', saved⟩ := ih
      (fun other mem => readable other (List.mem_cons_of_mem _ mem))
      (vals.insert (addr, norm.2)) (stored.insert norm.2)
    refine ⟨validators', ?_⟩
    simp only [saveValidators, normalised, saved, normalForms, List.filterMap_cons, read,
      Option.map_some, List.foldl_cons]

theorem saveValidators_stops {stored' : StoredValidators}
    (saved : saveValidators entries vals stored = (validators', stored', none)) :
    ∀ entry ∈ entries, (readValidator entry.2).isSome = true := by
  induction entries generalizing vals stored with
  | nil => simp
  | cons entry rest ih =>
    simp only [saveValidators] at saved
    split at saved
    · simp at saved
    · rename_i norm normalised
      rintro other (_ | ⟨_, mem⟩)
      · simp [readValidator, normalised]
      · exact ih saved other mem

theorem mem_normalForms {norm : Validator} : norm ∈ normalForms entries ↔
      ∃ entry ∈ entries, ∃ read, readValidator entry.2 = some read ∧ read.2 = norm := by
  simp only [normalForms, List.mem_filterMap, Option.map_eq_some_iff]

theorem find?_reloaded (addr : Address) :
    (getAllValidators ((normalForms entries).foldl KeyedMap.insert stored)).find? addr =
      (((KeyedMap.ofList (normalForms entries) : StoredValidators).find? addr).or
        (stored.find? addr)).bind readValidator := by
  rw [find?_getAllValidators, KeyedMap.find?_foldl_insert]

theorem reloaded_eq_iff (vals : ValidatorSet) (stored : StoredValidators) :
    getAllValidators ((normalForms vals.entries).foldl KeyedMap.insert stored) = vals ↔
      (∀ entry ∈ vals.entries, readValidator entry.2 = some entry) ∧
        ∀ val ∈ stored.entries, (readValidator val).isSome = true →
          (vals.find? val.address).isSome = true := by
  constructor
  · intro same
    have registered : ∀ entry ∈ vals.entries, readValidator entry.2 = some entry := by
      intro entry mem
      rw [KeyedMap.mem_entries_iff, ← same, find?_reloaded, Option.bind_eq_some_iff] at mem
      obtain ⟨val, -, read⟩ := mem
      exact (readValidator_some read).2.2.2
    refine ⟨registered, fun val mem readable => ?_⟩
    rw [KeyedMap.mem_entries_iff] at mem
    rw [← same, find?_reloaded, mem]
    cases saved : (KeyedMap.ofList (normalForms vals.entries) : StoredValidators).find?
        val.address with
    | none => simpa using readable
    | some norm =>
      obtain ⟨entry, -, read, readEntry, rfl⟩ :=
        mem_normalForms.mp (KeyedMap.find?_ofList_mem saved).1
      simp [(readValidator_some readEntry).2.2.2]
  · rintro ⟨registered, known⟩
    have norm : normalForms vals.entries = vals.entries.map Prod.snd := by
      rw [← List.filterMap_eq_map]
      refine List.filterMap_congr fun entry mem => ?_
      rw [registered entry mem, Option.map_some, Function.comp_apply]
    have addresses : ∀ entry ∈ vals.entries, entry.2.address = entry.1 := fun entry mem =>
      (readValidator_some (registered entry mem)).2.1.symm
    have keys : ((vals.entries.map Prod.snd).map Validator.address).Nodup := by
      have same : (vals.entries.map Prod.snd).map Validator.address = vals.keys := by
        rw [List.map_map]
        exact List.map_congr_left addresses
      exact same ▸ vals.keys_nodup
    have held : ∀ addr, (KeyedMap.ofList (vals.entries.map Prod.snd) : StoredValidators).find? addr =
        (vals.find? addr).map Prod.snd := by
      refine fun addr => Option.ext fun val => ?_
      rw [KeyedMap.find?_ofList_iff keys, Option.map_eq_some_iff]
      constructor
      · rintro ⟨mem, rfl⟩
        obtain ⟨entry, listed, rfl⟩ := List.mem_map.mp mem
        refine ⟨entry, ?_, rfl⟩
        rw [addresses entry listed]
        exact (KeyedMap.mem_entries_iff vals entry).mp listed
      · rintro ⟨entry, found, rfl⟩
        have mem := KeyedMap.find?_mem found
        exact ⟨List.mem_map_of_mem mem, (addresses entry mem).trans (KeyedMap.find?_key found)⟩
    refine KeyedMap.ext_find? fun addr => ?_
    rw [find?_reloaded, norm, held]
    cases found : vals.find? addr with
    | some entry => exact registered entry (KeyedMap.find?_mem found)
    | none =>
    rw [Option.bind_eq_none_iff]
    intro val inDatabase
    by_contra readable
    have listed := known val (KeyedMap.find?_mem inDatabase)
      (Option.isSome_iff_ne_none.mpr readable)
    rw [KeyedMap.find?_key inDatabase, found] at listed
    simp at listed

end Validators

section Accounts

variable {cfg : ShardConfig} {am : Ledger}

theorem acceptedAccount_of_canonical {acc : Account} (canonical : acc.Canonical) :
    acceptedAccount acc = some acc := by
  have norm : normalizeAccountCompat acc = .ok acc := canonical
  simp only [acceptedAccount, norm]

theorem find?_getAllAccounts (addr : Address) :
    (getAllAccounts am).find? addr = (am.accounts.find? addr).bind acceptedAccount :=
  KeyedMap.find?_filterMap ..

theorem find?_saveAccounts (addr : Address) : (saveAccounts am).accounts.find? addr =
      ((getAllAccounts am).find? addr).or (am.accounts.find? addr) :=
  KeyedMap.find?_merge ..

theorem storedAccount_saveAccounts (am : Ledger) (addr : Address) :
    storedAccount (saveAccounts am) addr = storedAccount am addr := by
  unfold storedAccount
  rw [find?_saveAccounts, find?_getAllAccounts]
  cases am.accounts.find? addr with
  | none => rfl
  | some acc =>
  cases normalised : normalizeAccountCompat acc with
  | error => simp [acceptedAccount, normalised]
  | ok norm =>
    have again : normalizeAccountCompat norm = .ok norm :=
      normalizeAccountCompat_canonical normalised
    simp [acceptedAccount, normalised, again]

theorem getAllAccounts_saveAccounts (am : Ledger) :
    getAllAccounts (saveAccounts am) = getAllAccounts am := by
  refine KeyedMap.ext_find? fun addr => ?_
  rw [find?_getAllAccounts, find?_saveAccounts]
  cases listed : (getAllAccounts am).find? addr with
  | none => rw [Option.none_or, ← find?_getAllAccounts, listed]
  | some =>
    have canonical := getAllAccounts_canonical (KeyedMap.find?_mem listed)
    rw [Option.some_or, Option.bind_some, acceptedAccount_of_canonical canonical]

variable {entries : List (Address × Account)}

theorem restoreAccounts_held (coherent : am.Coherent)
    (held : ∀ entry ∈ entries, entry.2.Canonical ∧ am.accounts.find? entry.2.address = some entry.2)
    (passes : ∀ entry ∈ entries, validateAccount entry.2 = .ok () ∧
      belongsToShard cfg entry.2.address = true) :
    ∃ final, restoreAccounts cfg entries am = .ok () final ∧
      final.accounts = am.accounts ∧ final.Coherent := by
  induction entries generalizing am with
  | nil => exact ⟨am, rfl, rfl, coherent⟩
  | cons entry _ ih =>
    obtain ⟨_, acc⟩ := entry
    rw [List.forall_mem_cons] at held passes
    obtain ⟨⟨canonical, found⟩, heldRest⟩ := held
    have updated : Updated cfg acc acc :=
      (Updated.iff_of_canonical canonical).mpr ⟨rfl, passes.1⟩
    have same : ((am.write acc).store acc).accounts = am.accounts :=
      KeyedMap.insert_of_find? found
    obtain ⟨final, ran, records, settled⟩ := ih (coherent.write_store canonical)
      (by rw [same]; exact heldRest) passes.2
    refine ⟨final, ?_, records.trans same, settled⟩
    unfold restoreAccounts
    rw [EStateM.bind_ok (EStateM.adaptExcept_ok (updateAccount_ok updated am) _)]
    exact ran

theorem restoreAccounts_passes {final : Ledger} (canonical : ∀ entry ∈ entries, entry.2.Canonical)
    (restored : restoreAccounts cfg entries am = .ok () final) :
    ∀ entry ∈ entries, validateAccount entry.2 = .ok () ∧
      belongsToShard cfg entry.2.address = true := by
  rcases restoreAccounts_outcome cfg entries am with ⟨ok, -⟩ | ⟨-, _, _, ran⟩
  · intro entry mem
    obtain ⟨_, updated⟩ := ok entry mem
    exact ((Updated.iff_of_canonical (canonical entry mem)).mp updated).2
  · rw [ran] at restored
    cases restored

end Accounts

section Restarts

variable {cfg : StakingConfig} {now : Int64} {node saved loaded : Node}

def Node.stored (node : Node) : Node :=
  { node.withWorld { node.world with ledger := saveAccounts node.world.ledger } with
    database := { node.database with
      height := some node.world.height
      stateRoot := some node.world.stateRoot
      stateRootEncodingVersion := some (getStateRootEncodingVersion node.world)
      validators :=
        (normalForms node.world.validators.entries).foldl KeyedMap.insert node.database.validators } }

theorem saveState_ok (readable : ∀ entry ∈ node.world.validators.entries,
    (readValidator entry.2).isSome = true) : ∃ saved, saveState node = .ok () saved := by
  obtain ⟨_, ran⟩ :=
    saveValidators_readable readable node.world.validators node.database.validators
  unfold saveState
  dsimp only
  rw [ran]
  exact ⟨_, rfl⟩

theorem saveState_stored (ran : saveState node = .ok () saved) :
    saved.reopened cfg now = node.stored.reopened cfg now := by
  unfold saveState at ran
  dsimp only at ran
  split at ran
  · cases ran
  rename_i vals stored kept
  obtain ⟨_, same⟩ := saveValidators_readable (saveValidators_stops kept)
    node.world.validators node.database.validators
  rw [same] at kept
  cases kept
  cases ran
  rfl

def Node.restoring (node : Node) : List (Address × Account) :=
  (getAllAccounts node.world.ledger).entries.map fun acc => (acc.address, acc)

theorem loadState_stored : loadState cfg (node.stored.reopened cfg now) =
      match restoreAccounts cfg node.restoring { Ledger.new with
        accounts := (saveAccounts node.world.ledger).accounts
        nonces := node.world.ledger.nonces } with
      | .error err am => .error err ((node.stored.reopened cfg now).withWorld
          { loadChain node.stored.database (node.stored.reopened cfg now).world with ledger := am })
      | .ok () am => .ok () (loadedNode (node.stored.reopened cfg now) am) := by
  have same : getAllAccounts (loadChain (node.stored.reopened cfg now).database
      (node.stored.reopened cfg now).world).ledger = getAllAccounts node.world.ledger :=
    getAllAccounts_saveAccounts node.world.ledger
  unfold loadState
  dsimp only
  rw [same]
  rfl

theorem reopened_coherent (records : KeyedMap Account.address)
    (nonces : KeyedMap (Prod.fst : Address × UInt64 → Address)) :
    Ledger.Coherent { Ledger.new with accounts := records, nonces } := by
  intro addr acc _ cached
  simp [Ledger.new, LruCache.new, LruCache.peek] at cached

theorem restored_reads (cfg : ShardConfig) (passes : AccountsPass cfg node) :
    ∃ am, restoreAccounts cfg node.restoring { Ledger.new with
      accounts := (saveAccounts node.world.ledger).accounts
      nonces := node.world.ledger.nonces } = .ok () am ∧
      readAccount cfg am = recordView cfg node.world.ledger.accounts := by
  have held : ∀ entry ∈ node.restoring, entry.2.Canonical ∧
      (saveAccounts node.world.ledger).accounts.find? entry.2.address = some entry.2 := by
    intro entry mem
    obtain ⟨acc, listed, rfl⟩ := List.mem_map.mp mem
    refine ⟨getAllAccounts_canonical listed, ?_⟩
    rw [find?_saveAccounts, (KeyedMap.mem_entries_iff _ _).mp listed, Option.some_or]
  have ok : ∀ entry ∈ node.restoring, validateAccount entry.2 = .ok () ∧
      belongsToShard cfg entry.2.address = true := by
    intro entry mem
    obtain ⟨acc, listed, rfl⟩ := List.mem_map.mp mem
    exact passes acc listed
  obtain ⟨am, ran, records, coherent⟩ :=
    restoreAccounts_held (reopened_coherent _ node.world.ledger.nonces) held ok
  refine ⟨am, ran, ?_⟩
  rw [readAccount_recordView coherent, records]
  funext addr
  unfold recordView
  by_cases readable : Readable cfg addr
  · have same := storedAccount_saveAccounts node.world.ledger addr
    rw [readAccount_of_readable readable, readAccount_of_readable readable]
    exact congrArg (fun stored : Except String (Option Account) =>
      stored.map (·.getD (Account.fresh addr))) same
  · exact readAccount_of_not_readable readable _ _

variable {am : Ledger}

theorem restored_passes {final : Ledger}
    (ran : restoreAccounts cfg node.restoring am = .ok () final) : AccountsPass cfg node := by
  intro acc listed
  refine restoreAccounts_passes ?_ ran (acc.address, acc) (List.mem_map_of_mem listed)
  intro entry mem
  obtain ⟨_, listed, rfl⟩ := List.mem_map.mp mem
  exact getAllAccounts_canonical listed

theorem restarts (readable : ∀ entry ∈ node.world.validators.entries,
    (readValidator entry.2).isSome = true) (passes : AccountsPass cfg node) :
    ∃ saved am, saveState node = .ok () saved ∧ loadState cfg (saved.reopened cfg now) =
        .ok () (loadedNode (node.stored.reopened cfg now) am) ∧
      readAccount cfg am = recordView cfg node.world.ledger.accounts := by
  obtain ⟨saved, ran⟩ := saveState_ok readable
  obtain ⟨am, restored, reads⟩ := restored_reads cfg passes
  refine ⟨saved, am, ran, ?_, reads⟩
  rw [saveState_stored ran, loadState_stored, restored]

theorem loaded_of_restart (ran : saveState node = .ok () saved)
    (reload : loadState cfg (saved.reopened cfg now) = .ok () loaded) : AccountsPass cfg node ∧
      ∃ am, loaded = loadedNode (node.stored.reopened cfg now) am ∧
        readAccount cfg am = recordView cfg node.world.ledger.accounts := by
  rw [saveState_stored ran, loadState_stored] at reload
  split at reload
  · cases reload
  rename_i am restored
  cases reload
  have passes := restored_passes restored
  obtain ⟨_, restored', reads⟩ := restored_reads cfg passes
  rw [restored] at restored'
  cases restored'
  exact ⟨passes, am, rfl, reads⟩

theorem countTransactions_congr {left right : WorldState}
    (same : left.blocksByHeight = right.blocksByHeight) (count position : Nat) :
    countTransactions left position count = countTransactions right position count := by
  induction count generalizing position with
  | zero => rfl
  | succ _ ih => simp only [countTransactions, getBlockByHeight, same, ih]

theorem settleTransactions_staking : (settleTransactions node).staking = { node.staking with
      world := { node.world with
        totalTransactions :=
          if node.world.totalTransactions = 0 ∧ 0 ≤ node.world.height then
            recalculateTotalTransactions node.world
          else node.world.totalTransactions } } := by
  unfold settleTransactions
  split_ifs <;> rfl

theorem settleTransactions_totalSupply :
    (settleTransactions node).totalSupply = node.totalSupply := by
  unfold settleTransactions
  split_ifs <;> rfl

section

variable (cfg : StakingConfig)

def Node.reloadedChain (now : Int64) (node : Node) : WorldState :=
  loadChain node.stored.database (node.stored.reopened cfg now).world

theorem reloadedChain_height (now : Int64) (node : Node) : (node.reloadedChain cfg now).height =
      if 0 ≤ node.world.height then node.world.height else 0 := rfl

theorem reloadedChain_version (now : Int64) (node : Node) :
    (node.reloadedChain cfg now).stateRootEncodingVersion =
      getStateRootEncodingVersion node.world := by
  have named : getStateRootEncodingVersion node.world ≠ 0 := by
    unfold getStateRootEncodingVersion
    split_ifs with unset
    · decide
    · exact unset
  exact if_neg named

theorem loadedNode_staking (now : Int64) (node : Node) (am : Ledger) :
    ∃ count, (0 ≤ node.world.height → count = recoveredTransactions node) ∧
      (loadedNode (node.stored.reopened cfg now) am).staking = {
        world := { node.reloadedChain cfg now with
          ledger := am
          validators := getAllValidators node.stored.database.validators
          totalTransactions := count }
        totalStaked := networkStake (getAllValidators node.stored.database.validators)
        unbondingQueue := [] } := by
  refine ⟨_, fun forward => ?_, settleTransactions_staking⟩
  have height : (node.reloadedChain cfg now).height = node.world.height := by
    rw [reloadedChain_height, if_pos forward]
  have counted : ∀ ws : WorldState, ws.height = node.world.height →
      ws.blocksByHeight = node.world.blocksByHeight →
        recalculateTotalTransactions ws = recalculateTotalTransactions node.world := by
    intro ws sameHeight sameBlocks
    rw [recalculateTotalTransactions, recalculateTotalTransactions, sameHeight,
      countTransactions_congr sameBlocks]
  unfold recoveredTransactions
  by_cases uncounted : (getTotalTransactions node.database).getD 0 = 0
  · rw [if_pos uncounted]
    refine (if_pos ⟨uncounted, ?_⟩).trans (counted _ height rfl)
    exact height.symm ▸ forward
  · rw [if_neg uncounted]
    exact if_neg fun settled => uncounted settled.1

theorem loadedNode_totalSupply (now : Int64) (node : Node)
    (am : Ledger) : (loadedNode (node.stored.reopened cfg now) am).totalSupply =
      decimal ((getAllAccounts node.world.ledger).entries.map accountTotal).sum := by
  unfold loadedNode
  rw [settleTransactions_totalSupply]
  exact congrArg (fun accounts : KeyedMap Account.address =>
    decimal (accounts.entries.map accountTotal).sum) (getAllAccounts_saveAccounts node.world.ledger)

end

theorem getStateRootEncodingVersion_self_iff (ws : WorldState) :
    getStateRootEncodingVersion ws = ws.stateRootEncodingVersion ↔
      ws.stateRootEncodingVersion ≠ 0 := by
  unfold getStateRootEncodingVersion
  split_ifs with unset
  · simp [unset, stateRootEncodingVersionLegacy]
  · simp [unset]

theorem sameState_iff (passes : AccountsPass cfg node)
    (reads : readAccount cfg am = recordView cfg node.world.ledger.accounts) :
    SameState cfg node (loadedNode (node.stored.reopened cfg now) am) ↔
      Restartable cfg now node := by
  obtain ⟨_, recovered, staking⟩ := loadedNode_staking cfg now node am
  have supply := loadedNode_totalSupply cfg now node am
  generalize loadedNode (node.stored.reopened cfg now) am = loaded at staking supply
  obtain ⟨_, _, _⟩ := loaded
  subst staking supply
  have known := reloaded_eq_iff node.world.validators node.database.validators
  constructor
  · intro same
    have forward : 0 ≤ node.world.height := by
      have kept : (if 0 ≤ node.world.height then node.world.height else 0) = node.world.height :=
        same.height
      split_ifs at kept with forward
      · exact forward
      · exact kept ▸ Int64.le_refl 0
    have listed := known.mp same.validators
    exact {
      currentHash := same.currentHash.symm
      unbondingQueue := same.unbondingQueue.symm
      lastTimestamp := same.lastTimestamp.symm
      height := forward
      encodingVersion := (getStateRootEncodingVersion_self_iff _).mp
        ((reloadedChain_version cfg now node).symm.trans same.encodingVersion)
      cache := same.accounts.symm.trans reads
      accounts := passes
      registered := listed.1
      stored := listed.2
      totalSupply := same.totalSupply.symm
      totalStaked := same.totalStaked.symm.trans (congrArg networkStake same.validators)
      totalTransactions := same.totalTransactions.symm.trans (recovered forward) }
  · intro fit
    have listed := known.mpr ⟨fit.registered, fit.stored⟩
    exact {
      accounts := reads.trans fit.cache.symm
      validators := listed
      unbondingQueue := fit.unbondingQueue.symm
      height := (reloadedChain_height cfg now node).trans (if_pos fit.height)
      currentHash := fit.currentHash.symm
      lastTimestamp := fit.lastTimestamp.symm
      totalSupply := fit.totalSupply.symm
      totalStaked := (congrArg networkStake listed).trans fit.totalStaked.symm
      totalTransactions := (recovered fit.height).trans fit.totalTransactions.symm
      stateRoot := rfl
      encodingVersion := (reloadedChain_version cfg now node).trans
        ((getStateRootEncodingVersion_self_iff _).mpr fit.encodingVersion) }

theorem RestartTransparent.restartable (transparent : RestartTransparent cfg now node) :
    Restartable cfg now node := by
  obtain ⟨_, _, ran, reload, same⟩ := transparent
  obtain ⟨passes, _, rfl, reads⟩ := loaded_of_restart ran reload
  exact (sameState_iff passes reads).mp same

theorem restart_transparent_iff (cfg : StakingConfig) (now : Int64) (node : Node) :
    RestartTransparent cfg now node ↔ Restartable cfg now node := by
  constructor
  · exact RestartTransparent.restartable
  · intro fit
    have readable : ∀ entry ∈ node.world.validators.entries, (readValidator entry.2).isSome = true :=
      fun entry mem => by simp [fit.registered entry mem]
    obtain ⟨saved, _, ran, reload, reads⟩ := restarts readable fit.accounts
    exact ⟨saved, _, ran, reload, (sameState_iff fit.accounts reads).mpr fit⟩

end Restarts

def sampleCommitted (ws : WorldState) : Node where
  staking := ⟨ws, 0, []⟩
  totalSupply := decimal 0
  database := ⟨some ws.height, none, none, some (decimal 0), KeyedMap.empty⟩

theorem the_head_is_forgotten :
    ∃ added ws, addBlock sampleStaking.toNodeConfig (sampleBlock 0 [] [7] [])
      (newWorldState sampleStaking.toNodeConfig 0 .blank) = .ok added ws ∧
        ¬ RestartTransparent sampleStaking 0 (sampleCommitted ws) := by
  obtain ⟨added, ws, ran, head⟩ : ∃ added ws, addBlock sampleStaking.toNodeConfig
      (sampleBlock 0 [] [7] []) (newWorldState sampleStaking.toNodeConfig 0 .blank) =
        .ok added ws ∧ ws.currentHash = [7] := ⟨_, _, rfl, rfl⟩
  refine ⟨added, ws, ran, fun transparent => ?_⟩
  have forgotten : ws.currentHash = [] := transparent.restartable.currentHash
  simp [head] at forgotten

end Thrylos
