import Thrylos.BlockAddition
import Thrylos.Consistency

/-!
State snapshots between peers: `StateSyncer` of `sync/state_sync.go` and `performFastSync` of
`sync/sync.go`. Maps are walked in key order.
-/

namespace Thrylos

open GoText (signedDecimal)

/-- The digest in hex, and the commission of a validator as `%f` prints it. -/
structure SyncConfig extends StakingConfig where
  sha256Hex : Bytes → Bytes
  commissionText : Validator → Bytes

/-- `stakes` lists delegator, validator and amount. -/
structure PeerSnapshot where
  height : Int64
  stateRoot : Bytes
  timestamp : Int64
  accounts : KeyedMap (Prod.fst : Address × Account → Address)
  validators : ValidatorSet
  stakes : List (Address × Address × Int64)
  checksum : Bytes

namespace StateSyncer

def eightBytes (value : Int64) : Bytes := BigEndian.fixed 8 value.toUInt64.toNat

def checksumAccount (acc : Account) : Bytes :=
  acc.address ++ acc.balance ++ BigEndian.fixed 8 acc.nonce.toNat ++ acc.stakedAmount ++ acc.rewards

section

variable (cfg : SyncConfig)

def checksumValidator (val : Validator) : Bytes :=
  val.address ++ val.stake ++ cfg.commissionText val ++ [if val.active then 1 else 0]

/-- Delegations, stakes and keys are not in it. -/
def calculateChecksum (snap : PeerSnapshot) : Bytes :=
  cfg.sha256Hex (eightBytes snap.height ++ snap.stateRoot ++
    eightBytes snap.timestamp ++ snap.accounts.entries.flatMap (checksumAccount ·.2) ++
    snap.validators.entries.flatMap (checksumValidator cfg ·.2))

/-- An amount that `ParseInt` finds too large is skipped. -/
def exportStakes (am : Ledger) : List (Address × Address × Int64) :=
  (getAllAccounts am).entries.flatMap fun acc =>
    acc.delegatedTo.entries.filterMap fun (val, amt) =>
      if parseBigInt amt < 2 ^ 63 then
        some (acc.address, val, Int64.ofNat (parseBigInt amt))
      else none

def createSnapshot (now : Int64) (st : StakingState) : PeerSnapshot :=
  let snap : PeerSnapshot := {
    height := st.world.height
    stateRoot := st.world.stateRoot
    timestamp := now
    accounts := KeyedMap.ofList
      ((getAllAccounts st.world.ledger).entries.map fun acc => (acc.address, acc))
    validators := st.world.validators
    stakes := exportStakes st.world.ledger
    checksum := [] }
  { snap with checksum := calculateChecksum cfg snap }

def validateSnapshot (ws : WorldState) : Option PeerSnapshot → Except String Unit
  | none => .error "snapshot is nil"
  | some snap =>
    if snap.height ≤ 0 then .error s!"invalid snapshot height: {snap.height}"
    else if snap.stateRoot = [] then .error "snapshot state root is empty"
    else
      match getBlockByHeight ws snap.height with
      | none => .error s!"cannot verify snapshot: trusted block at height {snap.height} not found (sync headers first)"
      | some trustedBlock =>
        if snap.stateRoot ≠ trustedBlock.header.stateRoot then
          .error s!"CRITICAL: snapshot state root mismatch! Block says: {text trustedBlock.header.stateRoot}, Snapshot says: {text snap.stateRoot}"
        else if snap.accounts.entries = [] then .error "snapshot contains no accounts"
        else if snap.checksum ≠ calculateChecksum cfg snap then
          .error s!"snapshot checksum mismatch: expected {text (calculateChecksum cfg snap)}, got {text snap.checksum}"
        else .ok ()

/-- `Clear`, which leaves the records of the accounts in the database. -/
def clear : WorldLockM Unit :=
  Locked.exclusively .chain (Locked.exclusively .validator (Locked.exclusively .stateRoot
    (Locked.update fun st => {
      world := { st.world with
        ledger := { st.world.ledger with
          cache := LruCache.new accountCacheSize accountCacheSize_pos }
        validators := KeyedMap.empty
        currentHash := []
        height := -1
        stateRoot := []
        lastTimestamp := 0
        txPool := Pool.new }
      totalStaked := 0
      unbondingQueue := st.unbondingQueue })))

def setAccounts (cfg : ShardConfig) : List (Address × Account) → LedgerM Unit
  | [] => return ()
  | (addr, acc) :: rest => do
    let _ ← (updateAccount cfg acc).adaptExcept (s!"failed to set account {text addr}: " ++ ·)
    setAccounts cfg rest

def setValidator (addr : Address) (val : Validator) : WorldLockM Unit :=
  Locked.exclusively .validator
    (if val.address ≠ addr then throw (.refused "validator address mismatch")
    else
      match validateAddress addr with
      | .error err => throw (.refused s!"invalid validator address: {err}")
      | .ok () => Locked.update fun st => { st with
          world := { st.world with validators := st.world.validators.insert (addr, val) } })

def setValidators : List (Address × Validator) → WorldLockM Unit
  | [] => return ()
  | (addr, val) :: rest => do
    (setValidator addr val).adaptExcept (naming s!"failed to set validator {text addr}: ")
    setValidators rest

def stakedAccount (delegator : Account) (valAddr : Address) (amt : Int64) : Account :=
  if 0 < amt then
    { delegator with
      delegatedTo := delegator.delegatedTo.insert (valAddr, signedDecimal amt.toInt)
      stakedAmount := mustUint256Bytes (parseBigInt delegator.stakedAmount + amt.toInt) }
  else { delegator with delegatedTo := delegator.delegatedTo.erase valAddr }

def setStake (cfg : ShardConfig) (delAddr valAddr : Address) (amt : Int64) : LedgerM Unit := do
  let delegator ← tryCatch (getAccount cfg delAddr) fun _ =>
    return Account.fresh delAddr
  let _ ← updateAccount cfg (stakedAccount delegator valAddr amt)

def setStakes (cfg : ShardConfig) : List (Address × Address × Int64) → LedgerM Unit
  | [] => return ()
  | (delegator, val, amt) :: rest => do
    (setStake cfg delegator val amt).adaptExcept
      (s!"failed to set stake {text delegator}->{text val}: " ++ ·)
    setStakes cfg rest

/-- `SetStateRoot` and `SetCurrentHeight`. -/
def setHead (snap : PeerSnapshot) : WorldLockM Unit := do
  Locked.exclusively .stateRoot (Locked.update fun st => { st with
    world := { st.world with
      stateRoot := snap.stateRoot
      stateRootEncodingVersion := getStateRootEncodingVersion st.world } })
  Locked.exclusively .chain (Locked.update fun st => { st with
    world := { st.world with height := snap.height } })

def applySnapshotData (snap : PeerSnapshot) : WorldLockM Unit := do
  clear
  underLocks (onAccounts (setAccounts cfg.toShardConfig snap.accounts.entries))
  setValidators snap.validators.entries
  underLocks (onAccounts (setStakes cfg.toShardConfig snap.stakes))
  setHead snap

def verifyStateConsistency (snap : PeerSnapshot) : WorldLockM Unit := do
  (validateStateConsistency cfg.toStakingConfig).adaptExcept
    (naming "internal state consistency check failed: ")
  let st ← Locked.read
  if st.world.stateRoot ≠ snap.stateRoot then
    throw (.refused s!"state root mismatch after application: expected {text snap.stateRoot}, got {text st.world.stateRoot}")
  else if st.world.height ≠ snap.height then
    throw (.refused "height mismatch after applying snapshot")
  else return ()

def orRestore (restore : WorldLockM Unit) (context : String) (prog : WorldLockM Unit) :
    WorldLockM Unit :=
  tryCatch prog fun
    | .refused err => do
      restore
      throw (.refused (context ++ err))
    | halt => throw halt

def applyWith (now : Int64) (restoreFromBackup : PeerSnapshot → WorldLockM Unit)
    (snap : PeerSnapshot) : WorldLockM Unit := do
  let backup := createSnapshot cfg now (← Locked.read)
  orRestore (restoreFromBackup backup) "failed to apply snapshot: " (applySnapshotData cfg snap)
  orRestore (restoreFromBackup backup) "state consistency check failed: "
    (verifyStateConsistency cfg snap)

/-- `ApplyStateSnapshot` and `restoreFromBackup` call each other; a call deeper than `depth` is
taken not to come back. -/
def applyStateSnapshot (cfg : SyncConfig) (now : Int64) : Nat → PeerSnapshot → WorldLockM Unit
  | 0 => applyWith cfg now fun _ => throw .deadlock
  | depth + 1 => applyWith cfg now fun backup =>
    tryCatch (applyStateSnapshot cfg now depth backup) fun
      | .refused _ => return ()
      | halt => throw halt

structure Transferred (peer final : StakingState) : Prop where
  accounts : getAllAccounts final.world.ledger = getAllAccounts peer.world.ledger
  validators : final.world.validators = peer.world.validators
  totalStaked : final.totalStaked = peer.totalStaked
  root : rootOf cfg.toNodeConfig (getStateRootEncodingVersion final.world)
    (getAllAccounts final.world.ledger) final.world.validators = peer.world.stateRoot

structure StateSyncs (now : Int64) (peer node : StakingState) : Prop where
  transferred : ∃ depth final, applyStateSnapshot cfg now depth (createSnapshot cfg now peer)
    (Locked.unheld node) = .ok () final ∧ Transferred cfg peer final.data
  tamperProof : ∀ snap, snap.height = peer.world.height → snap.stateRoot = peer.world.stateRoot →
    ¬ (snap.accounts = (createSnapshot cfg now peer).accounts ∧
      snap.validators = peer.world.validators ∧
      snap.stakes = exportStakes peer.world.ledger) →
    validateSnapshot cfg node.world (some snap) ≠ .ok ()
  restored : ∀ snap, ∃ depth result,
    applyStateSnapshot cfg now depth snap (Locked.unheld node) = result ∧
      (result = .ok () result.final ∨ ∃ err, result = .error (.refused err) (Locked.unheld node))

end

section Snapshots

variable {cfg : SyncConfig} {now : Int64}

theorem verifyStateConsistency_not_ok (snap : PeerSnapshot) (st final : LockedWorld) :
    verifyStateConsistency cfg snap st ≠ .ok () final := by
  intro ran
  obtain ⟨_, _, consistent, -⟩ := EStateM.bind_ok_iff.mp ran
  exact validateStateConsistency_not_ok _ _ _ (EStateM.adaptExcept_ok_iff.mp consistent)

theorem orRestore_ok {restore prog : WorldLockM Unit} {context : String}
    {st final : LockedWorld} (ran : orRestore restore context prog st = .ok () final) :
    prog st = .ok () final := by
  cases inner : prog st with
  | ok =>
    change EStateM.tryCatch prog _ st = _ at ran
    simpa only [EStateM.tryCatch, inner] using ran
  | error halt =>
  change EStateM.tryCatch prog _ st = _ at ran
  simp only [EStateM.tryCatch, inner] at ran
  cases halt with
  | refused =>
    obtain ⟨_, _, _, thrown⟩ := EStateM.bind_ok_iff.mp ran
    cases thrown
  | deadlock | panic => cases ran

theorem applyStateSnapshot_not_ok (depth : Nat) (snap : PeerSnapshot)
    (st final : LockedWorld) : applyStateSnapshot cfg now depth snap st ≠ .ok () final := by
  intro ran
  have shape : ∃ restore, applyStateSnapshot cfg now depth snap =
      applyWith cfg now restore snap := by
    cases depth with
    | zero | succ => exact ⟨_, rfl⟩
  obtain ⟨_, same⟩ := shape
  rw [same] at ran
  obtain ⟨_, _, _, ran⟩ := EStateM.bind_ok_iff.mp ran
  obtain ⟨_, _, _, ran⟩ := EStateM.bind_ok_iff.mp ran
  exact verifyStateConsistency_not_ok snap _ _ (orRestore_ok ran)

/-- Nothing of the trusted block is compared with the accounts, the validators or the stakes. -/
theorem validateSnapshot_tampered {ws : WorldState} {snap : PeerSnapshot}
    (ok : validateSnapshot cfg ws (some snap) = .ok ())
    {accounts : KeyedMap (Prod.fst : Address × Account → Address)} (present : accounts.entries ≠ [])
    (vals : ValidatorSet) (stakes : List (Address × Address × Int64)) :
    ∃ checksum, validateSnapshot cfg ws (some ⟨snap.height, snap.stateRoot,
      snap.timestamp, accounts, vals, stakes, checksum⟩) = .ok () := by
  refine ⟨calculateChecksum cfg ⟨snap.height, snap.stateRoot, snap.timestamp, accounts, vals,
    stakes, []⟩, ?_⟩
  unfold validateSnapshot at ok ⊢
  dsimp only at ok ⊢
  by_cases low : snap.height ≤ 0
  · simp [low] at ok
  by_cases rootless : snap.stateRoot = []
  · simp [low, rootless] at ok
  cases found : getBlockByHeight ws snap.height with
  | none => simp [low, rootless, found] at ok
  | some blk =>
    simp only [low, rootless, found, if_false] at ok ⊢
    split_ifs at ok with other
    rw [if_neg other, if_neg present]
    exact if_neg (not_not.mpr rfl)

theorem state_sync_never_succeeds (cfg : SyncConfig) (now : Int64) (peer node : StakingState) :
    ¬ StateSyncs cfg now peer node := by
  intro syncs
  obtain ⟨depth, _, ran, -⟩ := syncs.transferred
  exact applyStateSnapshot_not_ok depth _ _ _ ran

end Snapshots

def sampleSync : SyncConfig :=
  { sampleStaking with
    sha256Hex := id
    commissionText := fun _ => [] }

theorem a_snapshot_is_not_applied :
    let st : StakingState := ⟨sampleTip [sampleAccount 97 [100]], 0, []⟩
    ¬ StateSyncs sampleSync 0 st st := by
  intro st syncs
  obtain ⟨depth, _, ran, -⟩ := syncs.transferred
  exact applyStateSnapshot_not_ok depth _ _ _ ran

theorem a_snapshot_is_tampered_with :
    let blk := sampleBlock 1 [7] [8] []
    let ws := { sampleWorld [] with
      blocksByHeight := KeyedMap.empty.insert { blk with header.stateRoot := [9] } }
    let accounts amt := KeyedMap.empty.insert (sampleAddress 97, sampleAccount 97 [amt])
    let snap : PeerSnapshot := ⟨1, [9], 0, accounts 1, KeyedMap.empty, [], []⟩
    ∃ checksum, validateSnapshot sampleSync ws
      (some { snap with accounts := accounts 2, checksum := checksum }) = .ok () := by
  intro blk ws accounts snap
  have ok : validateSnapshot sampleSync ws (some { snap with
      checksum := calculateChecksum sampleSync snap }) = .ok () := by decide +kernel
  have present : (accounts 2).entries ≠ [] := by decide
  exact validateSnapshot_tampered ok present _ _

end StateSyncer

end Thrylos
