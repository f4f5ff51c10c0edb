import Thrylos.SelfDeadlock

/-!
Attestations from the network, `handleAttestation` and `validateAttestation` of
`consensus/pos/consensus.go`. Every call reads the world state of its own time. `maxTimestampAge` is
in whole seconds, as the code rounds it.
-/

namespace Thrylos

open Guarded (attempt exclusively_cases read update)

structure AttestationCall where
  attestation : Attestation
  worldState : WorldStateReader
  currentTime : Int64

section Handling

variable (cfg : EngineConfig) (forkChoice : ForkChoiceConfig (Guarded Engine))
  (maxTimestampAge : Int64) (call : AttestationCall)

def isValidatorActive (addr : Address) : ForkChoiceM (Guarded Engine) Bool := do
  match (← read).slashing with
  | none => throw (.panic "invalid memory address or nil pointer dereference")
  | some slashing =>
    let (active, slashing) := (slashingManager cfg).isValidatorActive addr slashing
    update fun fc => { fc with slashing := some slashing }
    return active

def validateAttestation : ForkChoiceM (Guarded Engine) Unit := do
  let att := call.attestation
  let addr := text att.validatorAddress
  match call.worldState.getValidator att.validatorAddress with
  | none => throw (.refused s!"validator not found: validator {addr} not found")
  | some val =>
    if ¬ val.active then throw (.refused "validator not active")
    else if ¬ (← isValidatorActive cfg att.validatorAddress) then
      throw (.refused s!"validator {addr} is jailed or slashed, cannot attest")
    else
      match verifyAttestationSignature cfg call.worldState.validators att with
      | .error err => throw (.refused s!"invalid signature: {err}")
      | .ok () =>
        if maxTimestampAge < call.currentTime - att.timestamp then
          throw (.refused "attestation too old")

def processedWith : ForkChoiceConfig (Guarded Engine) :=
  wired cfg { forkChoice with worldState := call.worldState }

def handleAttestation : ForkChoiceM (Guarded Engine) Unit := do
  match verifyAttestationSignature cfg call.worldState.validators call.attestation with
  | .error _ => return
  | .ok () =>
    match ← attempt (validateAttestation cfg maxTimestampAge call) with
    | .error _ => return
    | .ok () => processAttestation (processedWith cfg forkChoice call) call.attestation

/-- The attestation is valid, and its processing waits for a lock it holds or panics. -/
def Fatal (node : ConsensusNode) : Prop :=
  verifyAttestationSignature cfg call.worldState.validators call.attestation = .ok () ∧
  ∃ after, validateAttestation cfg maxTimestampAge call node = .ok () after ∧
    (ReachesQuorum (processedWith cfg forkChoice call) call.attestation after.data ∨
      Crashes (processedWith cfg forkChoice call) call.attestation after.data)

def Survivable : List AttestationCall → ConsensusNode → Prop
  | [], _ => True
  | call :: rest, node => ¬ Fatal cfg forkChoice maxTimestampAge call node ∧
      Survivable rest (handleAttestation cfg forkChoice maxTimestampAge call node).final

end Handling

structure Unlocked (node : ConsensusNode) : Prop where
  free : node.held = false
  manager : ∃ ce, node.data.slashing = some ce ∧ ce.held = false

theorem Unlocked.engines_free {node : ConsensusNode} (unlocked : Unlocked node) :
    ∀ ce, node.data.slashing = some ce → ce.held = false := by
  obtain ⟨_, present, free⟩ := unlocked.manager
  intro other found
  cases present.symm.trans found
  exact free

section Calls

variable {cfg : EngineConfig} {forkChoice : ForkChoiceConfig (Guarded Engine)}
  {maxTimestampAge : Int64} {call : AttestationCall} {node : ConsensusNode}

theorem isValidatorActive_unlocked (addr : Address) (unlocked : Unlocked node) :
    ∃ active after, isValidatorActive cfg addr node = .ok active after ∧ Unlocked after := by
  obtain ⟨_, present, free⟩ := unlocked.manager
  unfold isValidatorActive
  rw [bind_ok (show read node = .ok node.data node from rfl), present]
  exact ⟨_, _, rfl, unlocked.free, _, rfl, (isValidatorActive_held cfg addr).trans free⟩

theorem validateAttestation_cases (cfg : EngineConfig) (maxTimestampAge : Int64)
    (call : AttestationCall) (unlocked : Unlocked node) :
    (∃ after, validateAttestation cfg maxTimestampAge call node = .ok () after ∧ Unlocked after) ∨
    ∃ err after, validateAttestation cfg maxTimestampAge call node =
      .error (.refused err) after ∧ Unlocked after := by
  unfold validateAttestation
  cases call.worldState.getValidator call.attestation.validatorAddress with
  | none => exact Or.inr ⟨_, node, rfl, unlocked⟩
  | some =>
  dsimp only
  split
  · exact Or.inr ⟨_, node, rfl, unlocked⟩
  obtain ⟨_, after, ran, kept⟩ := isValidatorActive_unlocked
    call.attestation.validatorAddress unlocked
  rw [bind_ok ran]
  split
  · exact Or.inr ⟨_, after, rfl, kept⟩
  cases verifyAttestationSignature cfg call.worldState.validators call.attestation with
  | error => exact Or.inr ⟨_, after, rfl, kept⟩
  | ok =>
    split
    · exact Or.inr ⟨_, after, rfl, kept⟩
    · exact Or.inl ⟨after, rfl, kept⟩

theorem judged_unlocked
    (att : Attestation) {slashing : Guarded Engine} (free : slashing.held = false) :
    ∃ ce, judged (wired cfg forkChoice) att (some slashing) = some ce ∧ ce.held = false := by
  have freed := (judged_free cfg forkChoice att
    fun ce (same : some slashing = some ce) => Option.some.inj same ▸ free).2
  have present : ∃ ce, judged (wired cfg forkChoice) att (some slashing) = some ce := by
    simp only [judged]
    split <;> exact ⟨_, rfl⟩
  obtain ⟨ce, found⟩ := present
  exact ⟨ce, found, freed ce found⟩

theorem processAttestation_unlocked (att : Attestation) (unlocked : Unlocked node)
    {reached : ForkChoice (Guarded Engine)}
    (ran : processAttestation (wired cfg forkChoice) att node =
      .ok () ⟨false, reached⟩) : Unlocked ⟨false, reached⟩ := by
  obtain ⟨_, present, free⟩ := unlocked.manager
  have made : next? (wired cfg forkChoice) node (.processAttestation att) =
      some ⟨false, reached⟩ := by
    simp only [next?, perform, ran, survivor?, EStateM.Result.final]
  rcases next?_processAttestation made with ⟨held, -⟩ | ⟨-, processed⟩
  · exact absurd (held.symm.trans unlocked.free) (by decide)
  obtain ⟨judge, judgedAs, kept⟩ := judged_unlocked att free
  rw [present, judgedAs] at processed
  refine ⟨rfl, ?_⟩
  rcases processed.slashing with same | ⟨_, -, -, same⟩
  · exact ⟨judge, same, kept⟩
  rw [same, reported]
  split
  · rename_i _ previous judged _
    cases judged
    exact ⟨_, rfl, (applyDoubleVoteSlashing_answered cfg att previous kept).2⟩
  · exact ⟨judge, rfl, kept⟩

theorem handleAttestation_cases (unlocked : Unlocked node) :
    (Fatal cfg forkChoice maxTimestampAge call node ∧ ∃ halt after,
      handleAttestation cfg forkChoice maxTimestampAge call node = .error halt after) ∨
    (¬ Fatal cfg forkChoice maxTimestampAge call node ∧ ∃ after,
      handleAttestation cfg forkChoice maxTimestampAge call node = .ok () after ∧
        Unlocked after) := by
  unfold Fatal handleAttestation
  cases verified : verifyAttestationSignature cfg call.worldState.validators call.attestation with
  | error => exact Or.inr ⟨nofun, node, rfl, unlocked⟩
  | ok =>
  dsimp only
  rcases validateAttestation_cases cfg maxTimestampAge call unlocked with
    ⟨valid, ran, kept⟩ | ⟨err, valid, ran, kept⟩
  · have tried : attempt (validateAttestation cfg maxTimestampAge call) node =
        .ok (.ok ()) valid := by
      simp only [attempt, ran]
    rw [bind_ok tried]
    have counts := processAttestation_classified cfg
      { forkChoice with worldState := call.worldState } call.attestation valid.data
      kept.engines_free
    obtain ⟨held, _⟩ := valid
    obtain rfl : held = false := kept.free
    rcases exclusively_cases counts with ⟨_, _, done, safe⟩ | ⟨halt, _, done, fails⟩
    · refine Or.inr ⟨?_, _, done, processAttestation_unlocked _ kept done⟩
      rintro ⟨-, other, again, fatal⟩
      cases ran.symm.trans again
      exact fatal.elim safe.1 safe.2
    · refine Or.inl ⟨⟨rfl, _, ran, ?_⟩, halt, _, done⟩
      exact fails.imp And.right fun crash => crash.2.2
  · have tried : attempt (validateAttestation cfg maxTimestampAge call) node =
        .ok (.error err) valid := by
      simp only [attempt, ran]
    rw [bind_ok tried]
    refine Or.inr ⟨?_, valid, rfl, kept⟩
    rintro ⟨-, _, again, -⟩
    cases ran.symm.trans again

end Calls

theorem attestations_handled_iff_survivable (cfg : EngineConfig)
    (forkChoice : ForkChoiceConfig (Guarded Engine)) (maxTimestampAge : Int64)
    (calls : List AttestationCall) {node : ConsensusNode} (unlocked : Unlocked node) :
    (∃ after, forM calls (handleAttestation cfg forkChoice maxTimestampAge) node =
      .ok () after) ↔ Survivable cfg forkChoice maxTimestampAge calls node := by
  induction calls generalizing node with
  | nil => exact iff_of_true ⟨node, rfl⟩ trivial
  | cons _ _ ih =>
    rw [List.forM_cons]
    rcases handleAttestation_cases unlocked with
      ⟨fatal, halt, after, ran⟩ | ⟨survives, after, ran, kept⟩
    · rw [bind_error ran]
      refine iff_of_false ?_ fun survivable => survivable.1 fatal
      rintro ⟨_, impossible⟩
      cases impossible
    · rw [bind_ok ran, ih kept]
      refine ⟨fun safe => ⟨survives, ?_⟩, fun safe => ?_⟩
      · rw [ran]
        exact safe
      · have safe := safe.2
        rw [ran] at safe
        exact safe

def signedCall (blockHash : Bytes) (slot : UInt64) : AttestationCall :=
  let att : Attestation := ⟨sampleAddress 97, blockHash, 100, 3, slot, [], 1000⟩
  { attestation := match signAttestation sampleEngineConfig [1] att with
      | .ok signature => { att with signature := signature }
      | .error _ => att
    worldState := ⟨openNode.data.world.validators, KeyedMap.empty⟩
    currentTime := 1000 }

theorem openConsensusNode_unlocked : Unlocked openConsensusNode := ⟨rfl, openNode, rfl, rfl⟩

theorem a_long_second_vote_is_survived : Survivable sampleEngineConfig sampleWiring 600
      [signedCall [1, 1, 1, 1, 1, 1, 1, 1] 96, signedCall [2, 2, 2, 2, 2, 2, 2, 2] 97]
      openConsensusNode := by
  have returned : (forM [signedCall [1, 1, 1, 1, 1, 1, 1, 1] 96,
      signedCall [2, 2, 2, 2, 2, 2, 2, 2] 97]
      (handleAttestation sampleEngineConfig sampleWiring 600) openConsensusNode
      ).value?.isSome = true := by
    decide +kernel
  obtain ⟨_, done⟩ := EStateM.Result.ok_of_value? returned
  exact (attestations_handled_iff_survivable _ _ _ _ openConsensusNode_unlocked).mp ⟨_, done⟩

theorem a_short_second_vote_crashes :
    let first := handleAttestation sampleEngineConfig sampleWiring 600 (signedCall [1] 96)
      openConsensusNode
    let second := signedCall [2] 97
    first.value?.isSome = true ∧
      (validateAttestation sampleEngineConfig 600 second first.final).value?.isSome = true ∧
      (handleAttestation sampleEngineConfig sampleWiring 600 second first.final).outcome.1 =
        .error (.panic "slice bounds out of range") := by
  decide +kernel

end Thrylos
