import Thrylos.SlashingEffects

/-!
`SyncManager.SyncWithPeers` of `sync/sync.go`, with the discovery of peers. The synchronisation
itself runs in its own goroutine and is no part of the call.
-/

namespace Thrylos

inductive SyncStatus where
  | idle
  | syncing
  | catchingUp
  | complete
  | failed
  deriving DecidableEq

structure SyncPeer where
  peerID : Bytes
  height : Int64

structure SyncManagerState where
  status : SyncStatus
  currentHeight : Int64
  targetHeight : Int64
  syncPeers : KeyedMap SyncPeer.peerID

structure PeerNetwork where
  connectedPeers : List Bytes
  requestPeerHeight : Bytes → Option Int64

structure SyncManagerConfig where
  p2pNetwork : Option PeerNetwork
  chainHeight : Int64

abbrev PeerSyncM := EStateM (Halt String) (Guarded SyncManagerState)

def loggedIDLength : Nat := 12

variable (cfg : SyncManagerConfig)

namespace SyncManager

def requestPeerHeights (network : PeerNetwork) : List Bytes → PeerSyncM (List SyncPeer)
  | [] => return []
  | peerID :: rest =>
    if peerID.length < loggedIDLength then
      throw (.panic s!"slice bounds out of range [:{loggedIDLength}] with length {peerID.length}")
    else do
      let results ← requestPeerHeights network rest
      match network.requestPeerHeight peerID with
      | none => return results
      | some height => return ⟨peerID, height⟩ :: results

def newPeers (results : List SyncPeer) : KeyedMap SyncPeer.peerID :=
  results.foldl KeyedMap.insert KeyedMap.empty

def discoverSyncPeers : PeerSyncM Unit :=
  match cfg.p2pNetwork with
  | none => throw (.refused "P2P network not available")
  | some network =>
    if network.connectedPeers = [] then throw (.refused "no connected peers")
    else do
      let results ← requestPeerHeights network network.connectedPeers
      Guarded.exclusively (Guarded.update fun st => { st with syncPeers := newPeers results })

def getMaxPeerHeight : PeerSyncM Int64 := Guarded.shared do
  let st ← Guarded.read
  return st.syncPeers.entries.foldl
    (fun maxHeight peer => if maxHeight < peer.height then peer.height else maxHeight) 0

def checkPeers : PeerSyncM Unit := do
  let st ← Guarded.read
  if st.syncPeers.entries = [] then throw (.refused "no peers available for sync")
  else
    Guarded.update fun st => { st with currentHeight := cfg.chainHeight }
    let targetHeight ← getMaxPeerHeight
    Guarded.update fun st => { st with targetHeight }
    if targetHeight ≤ cfg.chainHeight then return ()
    else Guarded.update fun st => { st with status := .syncing }

def syncWithPeers : PeerSyncM Unit := Guarded.exclusively do
  let st ← Guarded.read
  if st.status = .syncing then throw (.refused "sync already in progress")
  else
    (discoverSyncPeers cfg).adaptExcept (naming "failed to discover peers: ")
    checkPeers cfg

def FindsPeers (st : SyncManagerState) : Prop :=
  st.status ≠ .syncing ∧ ∃ network, cfg.p2pNetwork = some network ∧
    network.connectedPeers ≠ [] ∧ ∀ peerID ∈ network.connectedPeers, loggedIDLength ≤ peerID.length

theorem requestPeerHeights_outcome (network : PeerNetwork) (peers : List Bytes)
    (st : Guarded SyncManagerState) : ((∀ peerID ∈ peers, loggedIDLength ≤ peerID.length) ∧
      ∃ results, requestPeerHeights network peers st = .ok results st) ∨
    (¬ (∀ peerID ∈ peers, loggedIDLength ≤ peerID.length) ∧
      ∃ message, requestPeerHeights network peers st = .error (.panic message) st) := by
  induction peers with
  | nil => exact Or.inl ⟨nofun, [], rfl⟩
  | cons peerID _ ih =>
    unfold requestPeerHeights
    by_cases short : peerID.length < loggedIDLength
    · rw [if_pos short]
      refine Or.inr ⟨fun long => ?_, _, rfl⟩
      exact absurd (long peerID (List.mem_cons_self ..)) (not_le.mpr short)
    rw [if_neg short]
    simp only [List.forall_mem_cons, not_lt.mp short, true_and]
    rcases ih with ⟨long, _, ran⟩ | ⟨found, message, ran⟩
    · refine Or.inl ⟨long, ?_⟩
      rw [bind_ok ran]
      cases network.requestPeerHeight peerID with
      | none | some => exact ⟨_, rfl⟩
    · exact Or.inr ⟨found, message, bind_error ran _⟩

theorem discoverSyncPeers_outcome (st : SyncManagerState) :
    ((∃ network, cfg.p2pNetwork = some network ∧ network.connectedPeers ≠ [] ∧
        ∀ peerID ∈ network.connectedPeers, loggedIDLength ≤ peerID.length) ∧
      discoverSyncPeers cfg ⟨true, st⟩ = .error .deadlock ⟨true, st⟩) ∨
    (¬ (∃ network, cfg.p2pNetwork = some network ∧ network.connectedPeers ≠ [] ∧
        ∀ peerID ∈ network.connectedPeers, loggedIDLength ≤ peerID.length) ∧
      ∃ halt, halt.isDeadlock = false ∧
        discoverSyncPeers cfg ⟨true, st⟩ = .error halt ⟨true, st⟩) := by
  unfold discoverSyncPeers
  cases cfg.p2pNetwork with
  | none => exact Or.inr ⟨by rintro ⟨network, ⟨⟩, _⟩, _, rfl, rfl⟩
  | some network =>
  dsimp only
  by_cases alone : network.connectedPeers = []
  · rw [if_pos alone]
    refine Or.inr ⟨?_, _, rfl, rfl⟩
    rintro ⟨_, ⟨⟩, connected, _⟩
    exact connected alone
  · rw [if_neg alone]
    rcases requestPeerHeights_outcome network network.connectedPeers ⟨true, st⟩ with
      ⟨long, results, ran⟩ | ⟨short, message, ran⟩
    · refine Or.inl ⟨⟨network, rfl, alone, long⟩, ?_⟩
      rw [bind_ok ran]
      exact Guarded.exclusively_held rfl _
    · refine Or.inr ⟨?_, _, rfl, bind_error ran _⟩
      rintro ⟨_, ⟨⟩, _, long⟩
      exact short long

theorem syncWithPeers_stuck_iff (st : SyncManagerState) :
    Guarded.stuck (syncWithPeers cfg ⟨false, st⟩) = true ↔ FindsPeers cfg st := by
  unfold syncWithPeers FindsPeers
  rw [Guarded.stuck_exclusively, bind_ok (show Guarded.read _ = .ok st _ from rfl)]
  by_cases busy : st.status = .syncing
  · rw [if_pos busy]
    exact iff_of_false Bool.false_ne_true fun finds => finds.1 busy
  rw [if_neg busy]
  simp only [ne_eq, busy, not_false_eq_true, true_and]
  rcases discoverSyncPeers_outcome cfg st with ⟨found, ran⟩ | ⟨missing, _, awake, ran⟩
  · rw [adapt_error ran]
    exact iff_of_true rfl found
  · rw [adapt_error ran]
    refine iff_of_false ?_ missing
    rw [Guarded.stuck, naming_isDeadlock, awake]
    exact Bool.false_ne_true

end SyncManager

end Thrylos
