import Mathlib.Logic.Relation
import Thrylos.ForkChoiceRuns

/-!
What fork choice finalises. Reaching the quorum makes `ProcessAttestation` ask for the lock it
already holds, so it never sets a checkpoint.
-/

namespace Thrylos

open Guarded (wp wp_pure wp_throw wp_read wp_update wp_bind)

section Checkpoints

variable {σ : Type} {cfg : ForkChoiceConfig σ} {justified finalized : Option Checkpoint}

def HasCheckpoints (justified finalized : Option Checkpoint) (fc : ForkChoice σ) : Prop :=
  fc.justifiedCheckpoint = justified ∧ fc.finalizedCheckpoint = finalized

variable {fc : ForkChoice σ} {after st : Guarded (ForkChoice σ)} {epoch : UInt64}
   {blockHash : Bytes}

theorem HasCheckpoints.of_remainder {after : ForkChoice σ}
    (holds : HasCheckpoints justified finalized fc) (same : after.remainder = fc.remainder) :
    HasCheckpoints justified finalized after :=
  ⟨(congrArg Prod.fst same).trans holds.1, (congrArg (·.2.1) same).trans holds.2⟩

theorem Processed.checkpoints {att : Attestation} {after : ForkChoice σ}
    (processed : Processed cfg att fc after)
    (holds : HasCheckpoints justified finalized fc) : HasCheckpoints justified finalized after := by
  cases processed with
  | ignored | conflict | repeated => exact holds
  | counted _ attestationsByBlock _ _ _ _ _ cached =>
    obtain ⟨_, _, _, same⟩ := cached
    subst same
    exact holds.of_remainder (counted_remainder att _ attestationsByBlock fc)

/-- A justified checkpoint old enough to be copied. The difference of the epochs wraps around. -/
def Matured (cfg : ForkChoiceConfig σ) (currentEpoch : UInt64) (checkpoint : Checkpoint) : Prop :=
  finalizationDepth cfg ≤ currentEpoch - checkpoint.epoch

def loaded : Option StoredCheckpoint → Option Checkpoint
  | some (.saved checkpoint) => some checkpoint
  | _ => none

inductive CheckpointStep (cfg : ForkChoiceConfig σ) (fc after : ForkChoice σ) :
    ForkChoiceCall σ → Prop where
  | attested (att : Attestation)
      (kept : HasCheckpoints fc.justifiedCheckpoint fc.finalizedCheckpoint after) :
      CheckpointStep cfg fc after (.processAttestation att)
  | cleaned (kept : HasCheckpoints fc.justifiedCheckpoint fc.finalizedCheckpoint after) :
      CheckpointStep cfg fc after .cleanupOldEpochs
  | matured (currentEpoch : UInt64) (checkpoint : Checkpoint)
      (present : fc.justifiedCheckpoint = some checkpoint)
      (mature : Matured cfg currentEpoch checkpoint)
      (set : HasCheckpoints fc.justifiedCheckpoint (some checkpoint) after) :
      CheckpointStep cfg fc after (.updateFinalization currentEpoch)
  | young (currentEpoch : UInt64)
      (immature : ∀ checkpoint, fc.justifiedCheckpoint = some checkpoint →
        ¬ Matured cfg currentEpoch checkpoint)
      (kept : HasCheckpoints fc.justifiedCheckpoint fc.finalizedCheckpoint after) :
      CheckpointStep cfg fc after (.updateFinalization currentEpoch)
  | justified (checkpoint : Checkpoint)
      (set : HasCheckpoints (some checkpoint) fc.finalizedCheckpoint after) :
      CheckpointStep cfg fc after (.updateJustifiedCheckpoint checkpoint.epoch checkpoint.blockHash)
  | finalized (checkpoint : Checkpoint) (saves : Bool)
      (set : HasCheckpoints fc.justifiedCheckpoint (some checkpoint) after) :
      CheckpointStep cfg fc after
        (.updateFinalizedCheckpoint checkpoint.epoch checkpoint.blockHash saves)
  | restarted (slashing : Option σ) (reset : HasCheckpoints none (loaded fc.database) after) :
      CheckpointStep cfg fc after (.restart slashing)

theorem wp_newCheckpoint
    {post : Checkpoint → ForkChoice σ → Prop} {fail : Halt String → ForkChoice σ → Prop}
    (returned : ∀ checkpoint after, checkpoint.epoch = epoch → checkpoint.blockHash = blockHash →
      HasCheckpoints fc.justifiedCheckpoint fc.finalizedCheckpoint after → post checkpoint after) :
    wp (newCheckpoint cfg epoch blockHash) post fail fc := by
  refine wp_bind (wp_read (wp_bind (wp_getTotalActiveStake fun total after cached => ?_)))
  obtain ⟨_, _, _, same⟩ := cached
  subst same
  exact wp_bind (wp_forkChoiceClock fun now => wp_pure (returned _ _ rfl rfl ⟨rfl, rfl⟩))

theorem updateFinalization_step {currentEpoch : UInt64}
    (made : next? cfg st (.updateFinalization currentEpoch) = some after) :
    (st.held = true ∧ after = st) ∨ (st.held = false ∧
      CheckpointStep cfg st.data after.data (.updateFinalization currentEpoch)) := by
  refine next?_exclusively (CheckpointStep cfg st.data · _) rfl (wp_bind (wp_read ?_)) made
  cases present : st.data.justifiedCheckpoint with
  | none =>
    refine wp_pure (CheckpointStep.young currentEpoch (fun checkpoint other => ?_) ⟨rfl, rfl⟩)
    rw [present] at other
    cases other
  | some checkpoint =>
  dsimp only
  split
  · rename_i early
    refine wp_pure (CheckpointStep.young currentEpoch (fun other same mature => ?_) ⟨rfl, rfl⟩)
    rw [present, Option.some.injEq] at same
    subst same
    exact absurd early (UInt64.not_lt.mpr mature)
  · rename_i late
    exact wp_update (CheckpointStep.matured currentEpoch checkpoint present
      (UInt64.not_lt.mp late) ⟨rfl, rfl⟩)

theorem updateJustifiedCheckpoint_step
    (made : next? cfg st (.updateJustifiedCheckpoint epoch blockHash) = some after) :
    (st.held = true ∧ after = st) ∨ (st.held = false ∧
      CheckpointStep cfg st.data after.data (.updateJustifiedCheckpoint epoch blockHash)) := by
  refine next?_exclusively (CheckpointStep cfg st.data · _) rfl (wp_bind (wp_newCheckpoint ?_)) made
  rintro checkpoint between rfl rfl kept
  exact wp_update (.justified checkpoint ⟨rfl, kept.2⟩)

theorem updateFinalizedCheckpoint_step {saves : Bool}
    (made : next? cfg st (.updateFinalizedCheckpoint epoch blockHash saves) = some after) :
    (st.held = true ∧ after = st) ∨ (st.held = false ∧ CheckpointStep cfg st.data after.data
        (.updateFinalizedCheckpoint epoch blockHash saves)) := by
  refine next?_exclusively (CheckpointStep cfg st.data · _) rfl (wp_bind (wp_newCheckpoint ?_)) made
  rintro checkpoint between rfl rfl kept
  refine wp_bind (wp_update ?_)
  split
  · exact wp_update (.finalized checkpoint _ ⟨kept.1, rfl⟩)
  · exact wp_pure (.finalized checkpoint _ ⟨kept.1, rfl⟩)

theorem cleanupOldEpochs_step (made : next? cfg st .cleanupOldEpochs = some after) :
    (st.held = true ∧ after = st) ∨ (st.held = false ∧
      CheckpointStep cfg st.data after.data .cleanupOldEpochs) := by
  refine next?_exclusively (CheckpointStep cfg st.data · _) rfl (wp_update (.cleaned ?_)) made
  exact HasCheckpoints.of_remainder ⟨rfl, rfl⟩ (ForkChoice.cleanupOldEpochsLocked_remainder _)

theorem restart_step {slashing : Option σ} (made : next? cfg st (.restart slashing) = some after) :
    CheckpointStep cfg st.data after.data (.restart slashing) := by
  refine survivor?_exclusively (CheckpointStep cfg st.data · _) (wp_bind (wp_read ?_)) made
  split
  · rename_i absent
    exact wp_pure (CheckpointStep.restarted slashing (by rw [absent]; exact ⟨rfl, rfl⟩))
  · rename_i missing
    exact wp_pure (CheckpointStep.restarted slashing (by rw [missing]; exact ⟨rfl, rfl⟩))
  · rename_i malformed
    exact wp_throw (CheckpointStep.restarted slashing (by rw [malformed]; exact ⟨rfl, rfl⟩))
  · rename_i checkpoint saved
    refine wp_bind (wp_update ?_)
    split
    · exact wp_throw trivial
    · exact wp_pure (CheckpointStep.restarted slashing (by rw [saved]; exact ⟨rfl, rfl⟩))

end Checkpoints

namespace WorldStateReader

def totalStake (reader : WorldStateReader) : Nat := stakeOf reader.getActiveValidators

def stakeAmong (reader : WorldStateReader) (chosen : Address → Bool) : Nat :=
  stakeOf ((reader.validators.entries.filter fun entry => chosen entry.1).map Prod.snd)

def IsParent (reader : WorldStateReader) (child parent : Bytes) : Prop :=
  ∃ blk, reader.getBlockByHash child = some blk ∧ blk.header.prevHash = parent

def IsAncestor (reader : WorldStateReader) (ancestor blk : Bytes) : Prop :=
  Relation.ReflTransGen reader.IsParent blk ancestor

end WorldStateReader

def soleValidator : WorldStateReader where
  validators := KeyedMap.empty.insert (sampleAddress 97, {
    address := sampleAddress 97, pubkey := [], stake := [90], selfStake := [90]
    delegatedStake := [], delegators := KeyedMap.empty, active := true, jailUntil := 0 })
  blocks := KeyedMap.empty

/-- With the values of `DefaultForkChoiceConfig`. -/
def sampleForkChoiceConfig (reader : WorldStateReader) : ForkChoiceConfig Unit where
  maxEpochsToKeep := 2
  maxBlocksPerEpoch := 100
  maxAttestationsPerBlock := 1000
  stakeCacheTTL := 30000000000
  maxReorgDepth := 100
  requiredBasisPoints := 6600
  finalizationEpochs := 2
  checkpointInterval := 10
  worldState := reader
  slashingManager := ⟨fun _ st => (some .accepted, st), fun _ st => (true, st),
    fun _ _ st => (some (), st)⟩
  clock := fun _ => 0

def sampleAttestation (val : Byte) (blockHash : Bytes) (epoch : UInt64) : Attestation where
  validatorAddress := sampleAddress val
  blockHash := blockHash
  blockHeight := 0
  epoch := epoch
  slot := 32 * epoch
  signature := []
  timestamp := 0

end Thrylos
