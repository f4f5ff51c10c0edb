import Thrylos.Library.Runs
import Thrylos.SlashingEngine

/-!
The attestations a node signs, `processSlot` and `createAttestation` of
`consensus/pos/consensus.go`. The guard against a second one in an epoch is set after an attestation
has been signed, and starts from zero with the process.
-/

namespace Thrylos

open GoText (ascii decimal)

structure AttesterConfig extends EngineConfig where
  minActiveValidators : Int

def AttesterConfig.requiredValidators (cfg : AttesterConfig) : Int :=
  if 0 < cfg.minActiveValidators then cfg.minActiveValidators else 1

/-- What `processSlot` finds around it. `fallback` is none where nobody else is eligible. -/
structure SlotContext where
  validatorSetSize : Int
  isSyncing : Bool
  proposer : Option Address
  proposerActive : Bool
  fallback : Option (Option Address)
  isCurrentNodeValidator : Bool
  currentHead : Option Block
  now : Int
  channelFree : Bool

/-- What `processSlot` uses for attestations, and everything the node has signed. -/
structure Attester where
  currentSlot : UInt64
  currentEpoch : UInt64
  lastAttestedEpoch : UInt64
  attestations : KeyedMap (Prod.fst : Bytes × Attestation → Bytes)
  broadcasts : List Attestation
  signed : List Attestation

def slotsPerEpoch : UInt64 := 32

namespace Attester

def new (signed : List Attestation) : Attester where
  currentSlot := 0
  currentEpoch := 0
  lastAttestedEpoch := 0
  attestations := KeyedMap.empty
  broadcasts := []
  signed := signed

def nextSlot (node : Attester) : Attester :=
  let currentSlot := node.currentSlot + 1
  { node with currentSlot := currentSlot, currentEpoch := currentSlot / slotsPerEpoch }

def enqueueAttestation (context : SlotContext) (att : Attestation) (node : Attester) :
    Bool × Attester :=
  if context.channelFree then
    (true, { node with
      broadcasts := node.broadcasts ++ [att]
      lastAttestedEpoch := node.currentEpoch })
  else (false, node)

def store (cfg : EngineConfig) (att : Attestation) (node : Attester) : Attester :=
  let attestationKey := cfg.nodeAddress ++ ascii "-" ++ decimal node.currentSlot.toNat
  { node with
    attestations := node.attestations.insert (attestationKey, att)
    signed := node.signed ++ [att] }

def unsigned (cfg : EngineConfig) (context : SlotContext) (head : Block) (node : Attester) :
    Attestation where
  validatorAddress := cfg.nodeAddress
  blockHash := head.hash
  blockHeight := head.header.index
  epoch := node.currentEpoch
  slot := node.currentSlot
  signature := []
  timestamp := Int64.ofInt (context.now / nanosPerSecond)

def createAttestation (cfg : EngineConfig) (context : SlotContext) (node : Attester) :
    Except String Unit × Attester :=
  if node.currentEpoch ≤ node.lastAttestedEpoch ∧ 0 < node.currentSlot then (.ok (), node)
  else
    match context.currentHead with
    | none => (.error "no current head block", node)
    | some head =>
      let att := node.unsigned cfg context head
      match signAttestation cfg cfg.nodePrivateKey att with
      | .error err => (.error s!"failed to sign attestation: {err}", node)
      | .ok signature =>
        let att := { att with signature }
        match (node.store cfg att).enqueueAttestation context att with
        | (true, node) => (.ok (), node)
        | (false, node) => (.error "attestation broadcast channel full", node)

end Attester

def SlotContext.slotProposer (context : SlotContext) : Option Address :=
  match context.proposer with
  | none => none
  | some proposer =>
    if context.proposerActive then some proposer
    else
      match context.fallback with
      | none => some proposer
      | some fallback => fallback

/-- Log lines cut the proposer's address to ten bytes, and the node's to eight where it is not its
turn. -/
def logPanics (cfg : EngineConfig) (proposer : Address) : Bool :=
  proposer.length < 10 ∨ (proposer ≠ cfg.nodeAddress ∧ cfg.nodeAddress.length < 8)

/-- `processSlot`, with the message of a panic where it ends in one. -/
def processSlot (cfg : AttesterConfig) (context : SlotContext) (node : Attester) :
    Except String Attester :=
  if context.validatorSetSize < cfg.requiredValidators then .ok node
  else if context.isSyncing then .ok node
  else
    let node := node.nextSlot
    match context.slotProposer with
    | none => .ok node
    | some proposer =>
      if logPanics cfg.toEngineConfig proposer then .error "slice bounds out of range"
      else if context.isCurrentNodeValidator then
        .ok (node.createAttestation cfg.toEngineConfig context).2
      else .ok node

inductive SlotEvent where
  | slot (context : SlotContext)
  | restart

def SlotEvent.next? (cfg : AttesterConfig) (node : Attester) : SlotEvent → Option Attester
  | .slot context => (processSlot cfg context node).toOption
  | .restart => some (Attester.new node.signed)

def NeverEquivocates (signed : List Attestation) : Prop :=
  ∀ first ∈ signed, ∀ second ∈ signed, first.epoch = second.epoch →
    first.blockHash = second.blockHash

def Unhindered (node : Attester) : SlotEvent → Prop
  | .slot context => 0 < node.nextSlot.currentSlot ∧
      (context.isCurrentNodeValidator = true → node.lastAttestedEpoch < node.nextSlot.currentEpoch →
        context.channelFree = true)
  | .restart => node.signed = []

section Steps

variable {cfg : AttesterConfig} {context : SlotContext} {node after : Attester}

theorem createAttestation_cases (cfg : EngineConfig) (context : SlotContext) (node : Attester) :
    let after := (node.createAttestation cfg context).2
    after = node ∨ ∃ att, after.signed = node.signed ++ [att] ∧ att.epoch = node.currentEpoch ∧
      ¬ (node.currentEpoch ≤ node.lastAttestedEpoch ∧ 0 < node.currentSlot) ∧
      (context.channelFree = true → after.lastAttestedEpoch = node.currentEpoch) := by
  unfold Attester.createAttestation
  split
  · exact Or.inl rfl
  rename_i due
  cases context.currentHead with
  | none => exact Or.inl rfl
  | some head =>
  dsimp only
  split
  · exact Or.inl rfl
  rename_i signature _
  refine Or.inr ⟨{ node.unsigned cfg context head with signature }, ?_⟩
  cases free : context.channelFree with
  | true =>
    simp only [Attester.enqueueAttestation, free, if_true]
    exact ⟨rfl, rfl, due, fun _ => rfl⟩
  | false =>
    simp only [Attester.enqueueAttestation, free]
    exact ⟨rfl, rfl, due, fun sent => absurd sent (by decide)⟩

structure Guarding (node : Attester) : Prop where
  consistent : NeverEquivocates node.signed
  guarded : ∀ att ∈ node.signed, att.epoch ≤ node.lastAttestedEpoch

theorem Guarding.nextSlot (guarding : Guarding node) : Guarding node.nextSlot := { guarding with }

theorem Guarding.attest (guarding : Guarding node) {att : Attestation}
    (signed : after.signed = node.signed ++ [att]) (new : node.lastAttestedEpoch < att.epoch)
    (enqueued : after.lastAttestedEpoch = att.epoch) : Guarding after := by
  have apart : ∀ earlier ∈ node.signed, earlier.epoch ≠ att.epoch := by
    intro earlier mem same
    have behind := guarding.guarded earlier mem
    rw [same] at behind
    exact absurd new (UInt64.not_lt.mpr behind)
  have members : ∀ {each}, each ∈ after.signed → each ∈ node.signed ∨ each = att := by
    simp [signed]
  refine ⟨fun first firstIn second secondIn same => ?_, fun each mem => ?_⟩
  · rcases members firstIn with old | rfl <;> rcases members secondIn with older | rfl
    · exact guarding.consistent first old second older same
    · exact absurd same (apart first old)
    · exact absurd same.symm (apart second older)
    · rfl
  · rw [enqueued]
    rcases members mem with old | rfl
    · exact UInt64.le_of_lt (UInt64.lt_of_le_of_lt (guarding.guarded each old) new)
    · exact UInt64.le_refl _

theorem createAttestation_guarding (guarding : Guarding node) (started : 0 < node.currentSlot)
    (free : node.lastAttestedEpoch < node.currentEpoch → context.channelFree = true) :
    Guarding (node.createAttestation cfg.toEngineConfig context).2 := by
  rcases createAttestation_cases cfg.toEngineConfig context node with
    same | ⟨att, signed, epoch, due, enqueued⟩
  · rw [same]
    exact guarding
  · have new : node.lastAttestedEpoch < node.currentEpoch :=
      UInt64.not_le.mp fun behind => due ⟨behind, started⟩
    exact guarding.attest signed (epoch ▸ new) ((enqueued (free new)).trans epoch.symm)

theorem processSlot_guarding (guarding : Guarding node)
    (unhindered : Unhindered node (.slot context))
    (ran : processSlot cfg context node = .ok after) : Guarding after := by
  obtain ⟨started, free⟩ := unhindered
  unfold processSlot at ran
  split at ran
  · cases ran
    exact guarding
  split at ran
  · cases ran
    exact guarding
  split at ran
  · cases ran
    exact guarding.nextSlot
  split at ran
  · cases ran
  split at ran
  · rename_i val
    cases ran
    exact createAttestation_guarding guarding.nextSlot started (free val)
  · cases ran
    exact guarding.nextSlot

theorem Guarding.event {event : SlotEvent} (guarding : Guarding node)
    (unhindered : Unhindered node event) (made : event.next? cfg node = some after) :
    Guarding after := by
  cases event with
  | slot context =>
    simp only [SlotEvent.next?, Except.toOption] at made
    split at made
    · rename_i reached ran
      cases made
      exact processSlot_guarding guarding unhindered ran
    · cases made
  | restart =>
    cases made
    have nothing : node.signed = [] := unhindered
    rw [nothing]
    exact ⟨nofun, nofun⟩

end Steps

/-- A node whose broadcasts find room, that is not restarted and whose slots do not wrap signs for
one block in each epoch. -/
theorem honest_node_never_equivocates (cfg : AttesterConfig) (start node : Attester)
    (fresh : start.signed = []) (run : Run (SlotEvent.next? cfg) Unhindered start node) :
    NeverEquivocates node.signed := by
  refine (run.keeps Guarding ?_ fun _ _ _ guarding => guarding.event).consistent
  exact ⟨by simp [NeverEquivocates, fresh], by simp [fresh]⟩

def sampleAttester : AttesterConfig := { sampleEngineConfig with minActiveValidators := 1 }

def sampleSlot (headHash : Bytes) (channelFree : Bool) : SlotContext where
  validatorSetSize := 1
  isSyncing := false
  proposer := some (sampleAddress 99)
  proposerActive := true
  fallback := none
  isCurrentNodeValidator := true
  currentHead := some (sampleBlock 1 [] headHash [])
  now := 0
  channelFree := channelFree

def performSlots (events : List SlotEvent) (node : Attester) : Option Attester :=
  events.foldlM (SlotEvent.next? sampleAttester) node

def Attester.votes (node : Attester) : List (UInt64 × Bytes) :=
  node.signed.map fun att => (att.epoch, att.blockHash)

theorem honest_node_never_equivocates_on_new_head :
    ∃ node, performSlots [.slot (sampleSlot [7] true), .slot (sampleSlot [8] true)]
        { Attester.new [] with currentSlot := 31 } = some node ∧
      node.votes = [(1, [7])] ∧ NeverEquivocates node.signed := by
  let start : Attester := { Attester.new [] with currentSlot := 31 }
  obtain ⟨first, reached⟩ : ∃ first, SlotEvent.next? sampleAttester start
      (.slot (sampleSlot [7] true)) = some first := ⟨_, rfl⟩
  obtain ⟨second, done⟩ : ∃ second, SlotEvent.next? sampleAttester first
      (.slot (sampleSlot [8] true)) = some second := by
    exact ⟨_, rfl⟩
  have run : performSlots [.slot (sampleSlot [7] true), .slot (sampleSlot [8] true)] start =
      some second := by
    simp [performSlots, reached, done]
  have votes : (performSlots [.slot (sampleSlot [7] true), .slot (sampleSlot [8] true)] start).map
      Attester.votes = some [(1, [7])] := by decide +kernel
  refine ⟨second, run, ?_, ?_⟩
  · rw [run] at votes
    exact Option.some.inj votes
  · refine honest_node_never_equivocates sampleAttester start second rfl ?_
    refine .call (SlotEvent.slot (sampleSlot [8] true)) second (.call
      (SlotEvent.slot (sampleSlot [7] true)) first .start ⟨by decide, fun _ _ => rfl⟩ reached) ?_ done
    cases reached
    exact ⟨by decide +kernel, fun _ _ => rfl⟩

/-- The first attestation of an epoch meets a full channel, and the node signs another in the next
slot. After a restart it counts anew. -/
theorem attester_equivocates : (performSlots (List.replicate 31 (.slot (sampleSlot [7] true)) ++
      [.slot (sampleSlot [7] false), .slot (sampleSlot [8] true)]) (Attester.new [])).map
        Attester.votes = some [(1, [7]), (1, [8])] ∧
    (performSlots (List.replicate 32 (.slot (sampleSlot [7] true)) ++ [.restart] ++
      List.replicate 32 (.slot (sampleSlot [8] true))) (Attester.new [])).map
        Attester.votes = some [(1, [7]), (1, [8])] := by
  decide +kernel

end Thrylos
