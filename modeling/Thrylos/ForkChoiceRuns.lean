import Thrylos.ForkChoiceLemmas

/-!
Runs of a fork choice node. A call is one of its entry points or a restart, and a run goes on as
long as no call panics.
-/

namespace Thrylos

open Guarded (exclusively wp exclusively_held exclusively_cases)

inductive ForkChoiceCall (σ : Type) where
  | processAttestation (att : Attestation)
  | updateFinalization (currentEpoch : UInt64)
  | updateJustifiedCheckpoint (epoch : UInt64) (blockHash : Bytes)
  | updateFinalizedCheckpoint (epoch : UInt64) (blockHash : Bytes) (saves : Bool)
  | cleanupOldEpochs
  | restart (slashing : Option σ)

section

variable {σ : Type} {cfg : ForkChoiceConfig σ} {st : Guarded (ForkChoice σ)}

/-- `NewConsensusEngine` builds fork choice anew and loads the checkpoint from the database. -/
def restarted (slashing : Option σ) (st : Guarded (ForkChoice σ)) : Guarded (ForkChoice σ) :=
  newForkChoice slashing st.data.database st.data.ticks

def perform (cfg : ForkChoiceConfig σ) : ForkChoiceCall σ → ForkChoiceM σ Unit
  | .processAttestation att => processAttestation cfg att
  | .updateFinalization currentEpoch => updateFinalization cfg currentEpoch
  | .updateJustifiedCheckpoint epoch blockHash => updateJustifiedCheckpoint cfg epoch blockHash
  | .updateFinalizedCheckpoint epoch blockHash saves =>
    updateFinalizedCheckpoint cfg epoch blockHash saves
  | .cleanupOldEpochs => cleanupOldEpochs cfg
  | .restart slashing => fun st => loadFinalizedCheckpoint (restarted slashing st)

def survivor? : EStateM.Result (Halt String) (Guarded (ForkChoice σ)) Unit →
    Option (Guarded (ForkChoice σ))
  | .error (.panic _) _ => none
  | result => some result.final

def next? (cfg : ForkChoiceConfig σ) (st : Guarded (ForkChoice σ))
    (call : ForkChoiceCall σ) : Option (Guarded (ForkChoice σ)) :=
  survivor? (perform cfg call st)

variable {call : ForkChoiceCall σ} {prog : ForkChoiceM σ Unit} {after : Guarded (ForkChoice σ)}

theorem next?_of_isSome {cfg : ForkChoiceConfig σ} {st : Guarded (ForkChoice σ)}
    (survives : (next? cfg st call).isSome = true) :
    next? cfg st call = some (perform cfg call st).final := by
  unfold next? survivor? at survives ⊢
  split at survives
  · cases survives
  · rfl

inductive Reached (cfg : ForkChoiceConfig σ) (start : Guarded (ForkChoice σ)) :
    List (ForkChoiceCall σ) → Guarded (ForkChoice σ) → Prop where
  | start : Reached cfg start [] start
  | call {calls st} (call : ForkChoiceCall σ) (after : Guarded (ForkChoice σ))
      (before : Reached cfg start calls st) (made : next? cfg st call = some after) :
      Reached cfg start (call :: calls) after

theorem survivor?_exclusively {data : ForkChoice σ} (post : ForkChoice σ → Prop)
    (holds : wp prog (fun _ => post) (unlessPanic post) data)
    (made : survivor? (exclusively prog ⟨false, data⟩) = some after) : post after.data := by
  rcases exclusively_cases holds with ⟨_, _, ran, kept⟩ | ⟨halt, _, ran, kept⟩
  · rw [ran] at made
    cases made
    exact kept
  rw [ran] at made
  cases halt with
  | panic => cases made
  | refused | deadlock =>
    cases made
    exact kept

theorem next?_exclusively (post : ForkChoice σ → Prop) (body : perform cfg call = exclusively prog)
    (holds : wp prog (fun _ => post) (unlessPanic post) st.data)
    (made : next? cfg st call = some after) :
    (st.held = true ∧ after = st) ∨ (st.held = false ∧ post after.data) := by
  unfold next? at made
  rw [body] at made
  cases held : st.held with
  | true =>
    rw [exclusively_held held] at made
    exact Or.inl ⟨rfl, (Option.some.inj made).symm⟩
  | false =>
    have free : st = ⟨false, st.data⟩ := by rw [← held]
    rw [free] at made
    exact Or.inr ⟨rfl, survivor?_exclusively post holds made⟩

theorem next?_processAttestation {att : Attestation}
    (made : next? cfg st (.processAttestation att) = some after) :
    (st.held = true ∧ after = st) ∨ (st.held = false ∧
      Processed cfg att { st.data with slashing := judged cfg att st.data.slashing } after.data) :=
  next?_exclusively _ rfl (wp_countAttestation cfg att st.data) made

end

end Thrylos
