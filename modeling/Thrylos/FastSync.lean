import Thrylos.StateSync

/-!
`RequestStateSnapshot` of the state syncer and `performFastSync` of the sync manager. A snapshot is
checked against a block of the node that asks for it.
-/

namespace Thrylos

structure Syncer where
  isRunning : Bool
  bannedPeers : KeyedMap (Prod.fst : Bytes × Int → Bytes)
  currentHeight : Int64
  world : LockedWorld

abbrev SyncerM := EStateM (Halt String) Syncer

abbrev SnapshotNetwork := Bytes → Int64 → Except String PeerSnapshot

namespace Syncer

def isBanned (now : Int) (syncer : Syncer) (peerID : Bytes) : Bool :=
  match syncer.bannedPeers.find? peerID with
  | none => false
  | some (_, banExpiry) => now < banExpiry

def banPeer (now : Int) (peerID : Bytes) (syncer : Syncer) : Syncer :=
  { syncer with bannedPeers := syncer.bannedPeers.insert (peerID, now + 24 * 3600 * 1000000000) }

def forgetBan (peerID : Bytes) (syncer : Syncer) : Syncer :=
  { syncer with bannedPeers := syncer.bannedPeers.erase peerID }

def requestStateSnapshot (cfg : SyncConfig) (now : Int) (network : SnapshotNetwork)
    (peerID : Bytes) (height : Int64) : SyncerM PeerSnapshot := do
  let syncer ← get
  if ¬ syncer.isRunning then throw (.refused "state syncer not running")
  else if syncer.isBanned now peerID then throw (.refused s!"peer {text peerID} is banned")
  else
    modify (forgetBan peerID)
    match network peerID height with
    | .error err =>
      throw (.refused s!"failed to get snapshot from peer {text peerID}: {err}")
    | .ok snap =>
      match StateSyncer.validateSnapshot cfg syncer.world.data.world (some snap) with
      | .error err =>
        modify (banPeer now peerID)
        throw (.refused s!"invalid snapshot: {err}")
      | .ok () => return snap

def onWorldLocks (prog : WorldLockM Unit) : SyncerM Unit := fun syncer =>
  match prog syncer.world with
  | .ok () ws => .ok () { syncer with world := ws }
  | .error halt ws => .error halt { syncer with world := ws }

/-- `bestPeer` is the peer `getBestSyncPeer` scores highest. -/
def performFastSync (cfg : SyncConfig) (now : Int) (depth : Nat) (network : SnapshotNetwork)
    (bestPeer : Option Bytes) (targetHeight : Int64) : SyncerM Unit :=
  match bestPeer with
  | none => throw (.refused "no suitable peer for fast sync")
  | some peerID => do
    let snap ← (requestStateSnapshot cfg now network peerID targetHeight).adaptExcept
      (naming "failed to get state snapshot: ")
    (onWorldLocks (StateSyncer.applyStateSnapshot cfg (Int64.ofInt (wholeSeconds now)) depth
      snap)).adaptExcept (naming "failed to apply state snapshot: ")
    modify fun syncer => { syncer with currentHeight := snap.height }

section Honest

variable {cfg : SyncConfig} {now : Int} {peerID : Bytes} {snap : PeerSnapshot}
  {network : SnapshotNetwork} {height : Int64} {syncer : Syncer}

theorem performFastSync_not_ok (depth : Nat) (bestPeer : Option Bytes) (final : Syncer) :
    performFastSync cfg now depth network bestPeer height syncer ≠ .ok () final := by
  intro ran
  cases bestPeer with
  | none => cases ran
  | some peerID =>
  obtain ⟨snap, _, -, ran⟩ := EStateM.bind_ok_iff.mp ran
  obtain ⟨_, _, applied, -⟩ := EStateM.bind_ok_iff.mp ran
  have applied := EStateM.adaptExcept_ok_iff.mp applied
  unfold onWorldLocks at applied
  split at applied
  · rename_i ws applies
    exact StateSyncer.applyStateSnapshot_not_ok depth snap _ _ applies
  · cases applied

end Honest

structure FastSyncs (cfg : SyncConfig) (now : Int) (peerNow : Int64) (peerID : Bytes)
    (peer : StakingState) (syncer : Syncer) : Prop where
  synced : ∃ depth final, performFastSync cfg now depth
    (fun _ _ => .ok (StateSyncer.createSnapshot cfg peerNow peer)) (some peerID)
    peer.world.height syncer = .ok () final ∧ StateSyncer.Transferred cfg peer final.world.data ∧
      final.world.data.world.height = peer.world.height ∧ final.currentHeight = peer.world.height
  trusted : (requestStateSnapshot cfg now
    (fun _ _ => .ok (StateSyncer.createSnapshot cfg peerNow peer)) peerID peer.world.height
    syncer).final.isBanned now peerID = false

/-- Fast sync never succeeds, whatever the peer and the node. -/
theorem fast_sync_never_succeeds (cfg : SyncConfig) (now : Int) (peerNow : Int64) (peerID : Bytes)
    (peer : StakingState) (syncer : Syncer) : ¬ FastSyncs cfg now peerNow peerID peer syncer := by
  intro syncs
  obtain ⟨depth, final, ran, -⟩ := syncs.synced
  exact performFastSync_not_ok depth _ final ran

theorem a_peer_ahead_is_banned :
    let ws := sampleTip [sampleAccount 97 [100]]
    ∃ added after, addBlock sampleStaking.toNodeConfig (sampleBlock 1 [7] [8] []) ws =
        .ok added after ∧
      ¬ FastSyncs StateSyncer.sampleSync 0 0 [65] ⟨after, 0, []⟩
        ⟨true, KeyedMap.empty, 0, Locked.unheld ⟨ws, 0, []⟩⟩ := by
  refine ⟨_, _, rfl, fun syncs => ?_⟩
  have trusted := syncs.trusted
  cases trusted

end Syncer

end Thrylos
