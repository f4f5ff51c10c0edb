import Thrylos.EvidenceMasking
import Thrylos.ForkChoiceRuns

/-!
How often one double vote is paid for. It is known again only by a hash over everything the two
attestations carry, their order and unsigned fields included.
-/

namespace Thrylos

open Guarded (Keeps Moves)

def attestationFromRecord (record : AttestationRecord) : Attestation where
  validatorAddress := record.validatorAddress
  blockHash := record.blockHash
  blockHeight := (record.epoch * 32).toInt64
  epoch := record.epoch
  slot := record.slot
  signature := record.signature
  timestamp := Int64.ofInt (record.timestamp / nanosPerSecond)

def slashingManager (cfg : EngineConfig) : SlashingManager (Guarded Engine) where
  processAttestation att st :=
    match Manager.processAttestation cfg att st with
    | .ok .accepted after => (some .accepted, after)
    | .ok (.refused _) after => (some .violation, after)
    | .ok (.doubleSigning record) after => (some (.doubleVote (attestationFromRecord record)), after)
    | .error .deadlock after => (none, after)
    | .error _ after => (some .violation, after)
  isValidatorActive addr st :=
    match Manager.isValidatorActive cfg addr st with
    | .ok active after => (active, after)
    | .error _ after => (false, after)
  applyDoubleVoteSlashing att1 att2 st :=
    match Manager.applyDoubleVoteSlashing cfg (some att1) (some att2) st with
    | .error .deadlock after => (none, after)
    | .error _ after => (some (), after)
    | .ok _ after => (some (), after)

abbrev ConsensusNode := Guarded (ForkChoice (Guarded Engine))

def onEngine (change : Guarded Engine → Guarded Engine) (node : ConsensusNode) : ConsensusNode :=
  { node with data := { node.data with slashing := node.data.slashing.map change } }

inductive Arrival where
  | attestation (attestation : Attestation)
  | received (ev : SlashingEvidence)
  | submitted (proof : DoubleVoteProof)
  | blocks (ws : WorldState)

section

variable (cfg : EngineConfig) (forkChoice : ForkChoiceConfig (Guarded Engine))

def wired : ForkChoiceConfig (Guarded Engine) :=
  { forkChoice with slashingManager := slashingManager cfg }

def Arrival.next? (node : ConsensusNode) : Arrival → Option ConsensusNode
  | .attestation att => Thrylos.next? (wired cfg forkChoice) node (.processAttestation att)
  | .received ev => some (onEngine
      (fun ce => (Engine.processReceivedSlashingEvidence cfg ev ce).final) node)
  | .submitted proof => some (onEngine
      (fun ce => (Manager.processEvidence cfg proof.evidence ce).final) node)
  | .blocks ws => some (onEngine (fun ce => { ce with data := { ce.data with world := ws } }) node)

/-- The earlier attestation fork choice reports: one the manager has a record of, or one fork choice
has kept itself. -/
inductive Confronted (node : ConsensusNode) (attestation : Attestation) : Attestation → Prop where
  | recorded {previous : Attestation} {ce after : Guarded Engine}
      (present : node.data.slashing = some ce)
      (verdict : (slashingManager cfg).processAttestation attestation ce =
        (some (.doubleVote previous), after)) :
      Confronted node attestation previous
  | tracked {previous : Attestation} {prevVote : Bytes}
      (voted : (latestVotes node.data attestation.epoch).find? attestation.validatorAddress =
        some (attestation.validatorAddress, prevVote))
      (ne : prevVote ≠ attestation.blockHash)
      (found : findValidatorAttestation node.data prevVote attestation.validatorAddress
        attestation.epoch = some previous) :
      Confronted node attestation previous

end

structure DoubleVote where
  validatorAddress : Address
  epoch : UInt64
  block1 : Bytes
  block2 : Bytes

namespace DoubleVote

variable (vote : DoubleVote)

def casts (attestation : Attestation) (blk : Bytes) : Bool :=
  attestation.validatorAddress = vote.validatorAddress ∧ attestation.epoch = vote.epoch ∧
    attestation.blockHash = blk

def shownBy (ev : OffenceEvidence) : Bool :=
  match ev.firstAttestation, ev.secondAttestation with
  | some att1, some att2 =>
    (vote.casts att1 vote.block1 && vote.casts att2 vote.block2) ||
      (vote.casts att1 vote.block2 && vote.casts att2 vote.block1)
  | _, _ => false

def penaltiesIn (records : List SlashingRecord) : Nat :=
  records.countP fun record => vote.shownBy record.evidence

def penalties (node : ConsensusNode) : Nat :=
  match node.data.slashing with
  | none => 0
  | some ce => vote.penaltiesIn (ce.data.recordsOf vote.validatorAddress)

def KnownAs (cfg : EngineConfig) (key : Bytes) (att1 att2 : Attestation) : Prop :=
  let ev := (Manager.doubleVoteOffence att1 att2).evidence
  vote.shownBy ev = true → ev.hash cfg = key

def OneKey (cfg : EngineConfig) (key : Bytes) (node : ConsensusNode) : Arrival → Prop
  | .attestation attestation =>
    ∀ previous, Confronted cfg node attestation previous → vote.KnownAs cfg key previous attestation
  | .received ev =>
    ∀ att1 att2, ev.evidence = some (.doubleVote (some att1) (some att2)) →
      vote.KnownAs cfg key att1 att2
  | .submitted proof => vote.KnownAs cfg key proof.att1 proof.att2
  | .blocks _ => True

end DoubleVote

def DoubleVote.scope (cfg : EngineConfig) (vote : DoubleVote) (key : Bytes) : Scope where
  victim := fun _ => True
  offence := fun offence => vote.shownBy offence.evidence = true → offence.evidence.hash cfg = key
  key := fun _ => True
  evidenceID := fun _ => True

def Essence.recordsOf (essence : Essence) (addr : Address) : List SlashingRecord :=
  match essence.slashingRecords.find? addr with
  | none => []
  | some entry => entry.2

structure PaidOnce (vote : DoubleVote) (key : Bytes) (essence : Essence) : Prop where
  atMostOnce : vote.penaltiesIn (essence.recordsOf vote.validatorAddress) ≤ 1
  marked : 0 < vote.penaltiesIn (essence.recordsOf vote.validatorAddress) →
    (essence.processedEvidence.find? key).isSome = true

def Due (vote : DoubleVote) (key : Bytes) (record : SlashingRecord) (essence : Essence) : Prop :=
  PaidOnce vote key essence ∧ (vote.shownBy record.evidence = true →
    vote.penaltiesIn (essence.recordsOf vote.validatorAddress) = 0 ∧
      (essence.processedEvidence.find? key).isSome = true)

section Payment

variable {cfg : EngineConfig} {vote : DoubleVote} {key : Bytes} {record : SlashingRecord}
  {before after : Essence} {scope : Scope}

theorem Effect.records (effect : Effect cfg scope before after) (addr : Address) :
    after.recordsOf addr = before.recordsOf addr := by
  cases effect <;> rfl

theorem Effect.marked (effect : Effect cfg scope before after)
    (marked : (before.processedEvidence.find? key).isSome = true) :
    (after.processedEvidence.find? key).isSome = true := by
  cases effect with
  | mark | remember =>
    rw [KeyedMap.find?_insert]
    split
    · rfl
    · exact marked
  | load | charge | spoil | jail | release | touch | track | save => exact marked

theorem PaidOnce.effect (paid : PaidOnce vote key before)
    (effect : Effect cfg scope before after) : PaidOnce vote key after where
  atMostOnce := effect.records vote.validatorAddress ▸ paid.atMostOnce
  marked positive := effect.marked (paid.marked (effect.records vote.validatorAddress ▸ positive))

theorem Due.effect (due : Due vote key record before)
    (effect : Effect cfg scope before after) : Due vote key record after := by
  refine ⟨due.1.effect effect, fun shown => ?_⟩
  obtain ⟨unpaid, marked⟩ := due.2 shown
  exact ⟨effect.records vote.validatorAddress ▸ unpaid, effect.marked marked⟩

variable {ce : Engine}

theorem due_of_fresh (paid : PaidOnce vote key ce.essence)
    (known : vote.shownBy record.evidence = true → record.evidence.hash cfg = key)
    (fresh : ce.isProcessed (record.evidence.hash cfg) = false) :
    Due vote key record (ce.markProcessed (record.evidence.hash cfg)).essence := by
  have effect : Effect cfg (vote.scope cfg key) ce.essence
      (ce.markProcessed (record.evidence.hash cfg)).essence := by
    rw [Engine.essence_markProcessed]
    exact .mark _ trivial
  refine ⟨paid.effect effect, fun shown => ?_⟩
  have same := known shown
  subst same
  refine ⟨?_, ?_⟩
  · rw [effect.records]
    by_contra positive
    have marked := paid.marked (Nat.pos_of_ne_zero positive)
    exact absurd (marked.symm.trans fresh) (by decide)
  · rw [Engine.essence_markProcessed]
    simp [KeyedMap.find?_insert]

theorem penaltiesIn_appendRecord (vote : DoubleVote) (record : SlashingRecord) (ce : Engine) :
    vote.penaltiesIn ((Manager.appendRecord record ce).essence.recordsOf vote.validatorAddress) ≤
      vote.penaltiesIn (ce.essence.recordsOf vote.validatorAddress) +
        if vote.shownBy record.evidence then 1 else 0 := by
  by_cases own : record.validatorAddress = vote.validatorAddress
  · have appended : (Manager.appendRecord record ce).essence.recordsOf vote.validatorAddress =
        ce.essence.recordsOf vote.validatorAddress ++ [record] := by
      rw [← own]
      simp only [Essence.recordsOf, Manager.appendRecord, Engine.essence, KeyedMap.find?_insert,
        if_true]
      rfl
    rw [appended, DoubleVote.penaltiesIn, List.countP_append, List.countP_singleton]
    exact le_rfl
  · have same : (Manager.appendRecord record ce).essence.recordsOf vote.validatorAddress =
        ce.essence.recordsOf vote.validatorAddress := by
      simp only [Essence.recordsOf, Manager.appendRecord, Engine.essence, KeyedMap.find?_insert,
        if_neg own]
    rw [same]
    exact Nat.le_add_right _ _

theorem paidOnce_of_due (due : Due vote key record ce.essence) :
    PaidOnce vote key (Manager.appendRecord record ce).essence := by
  obtain ⟨paid, pays⟩ := due
  have count := penaltiesIn_appendRecord vote record ce
  cases shown : vote.shownBy record.evidence with
  | true =>
    obtain ⟨unpaid, marked⟩ := pays shown
    rw [shown, unpaid] at count
    exact ⟨count, fun _ => marked⟩
  | false =>
    rw [shown] at count
    exact ⟨count.trans paid.atMostOnce, fun positive => paid.marked (positive.trans_le count)⟩

/-- What a record stands for: the call that appends it takes its amount from the balance, once, and a
call that fails appends nothing. Nothing else appends records (`Effect.records`). -/
theorem wp_applySlashing_pays : Guarded.wp (Manager.applySlashing cfg record)
    (fun _ after => after.recordsOf record.validatorAddress =
        ce.recordsOf record.validatorAddress ++ [record] ∧
      ∃ bal, balanceOf cfg ce.world record.validatorAddress = .ok bal ∧
        balanceOf cfg after.world record.validatorAddress = .ok (bal - record.slashedAmount))
    (fun _ after => ∀ addr, after.recordsOf addr = ce.recordsOf addr) ce := by
  refine Manager.wp_applySlashing (fun _ _ _ => rfl) (fun _ _ _ _ _ => rfl) ?_
  intro _ bal after charged
  exact ⟨charged.records, bal, charged.chargeable.1, charged.charged.1⟩

theorem applySlashing_paidOnce {asks : Bool}
    (known : vote.shownBy record.evidence = true → record.evidence.hash cfg = key) :
    Respects (PaidOnce vote key) asks (Manager.applySlashing cfg record) := by
  have closed : Closed cfg (vote.scope cfg key) (Due vote key record) :=
    fun _ _ => Due.effect
  have journey := closed.journey
  have paid : ∀ ce : Engine, Due vote key record ce.essence →
      PaidOnce vote key ce.essence := fun _ due => due.1
  refine Moves.bind_read fun ce holds => ?_
  split
  · exact fun st same => ⟨same ▸ holds, fun _ => ⟨rfl, rfl⟩⟩
  rename_i fresh
  have marked : Moves (· = ce) (fun data => Due vote key record data.essence) asks
      (Guarded.update (·.markProcessed (record.evidence.hash cfg)) : EngineM PUnit) := by
    refine Moves.update fun data same => ?_
    subst same
    exact due_of_fresh holds known (Bool.eq_false_iff.mpr fresh)
  refine Moves.bind marked paid fun _ => ?_
  refine Moves.bind journey.validatorBalance paid fun bal => ?_
  refine Moves.bind ((journey.updateBalance trivial _).adaptExcept (naming_isDeadlock _))
    paid fun _ => ?_
  refine Moves.bind (journey.jailIfSevere trivial) paid fun _ => ?_
  refine Moves.bind (journey.demote _) paid fun _ => ?_
  exact Moves.update fun ce due => paidOnce_of_due due

theorem tolerates_paidOnce (cfg : EngineConfig) (vote : DoubleVote) (key : Bytes) :
    Tolerates cfg (vote.scope cfg key) (PaidOnce vote key) where
  closed := fun _ _ => PaidOnce.effect
  slashing := fun _ _ _ _ known => applySlashing_paidOnce known

theorem scope_covers {ev : SlashingEvidence}
    (known : ∀ att1 att2, ev.evidence = some (.doubleVote (some att1) (some att2)) →
      vote.KnownAs cfg key att1 att2) : (vote.scope cfg key).Covers ev := by
  unfold Scope.Covers
  split
  · rename_i body
    exact known _ _ body
  · exact fun _ => nofun
  · exact ⟨trivial, fun _ _ => nofun, fun _ _ => trivial⟩
  · trivial
  · trivial

end Payment

def ConsensusNode.Holds (inv : Essence → Prop) (node : ConsensusNode) : Prop :=
  ∀ ce, node.data.slashing = some ce → inv ce.data.essence

section Steps

variable {cfg : EngineConfig} {forkChoice : ForkChoiceConfig (Guarded Engine)}
  {vote : DoubleVote} {key : Bytes} {node after : ConsensusNode} {attestation : Attestation}
  {inv : Essence → Prop}

theorem onEngine_holds {change : Guarded Engine → Guarded Engine} (holds : node.Holds inv)
    (kept : ∀ ce, inv ce.data.essence → inv (change ce).data.essence) :
    (onEngine change node).Holds inv := by
  intro ce present
  obtain ⟨before, found, rfl⟩ := Option.map_eq_some_iff.mp present
  exact kept before (holds before found)

theorem processAttestation_final (ce : Guarded Engine) :
    ((slashingManager cfg).processAttestation attestation ce).2 =
      (Manager.processAttestation cfg attestation ce).final := by
  simp only [slashingManager]
  cases Manager.processAttestation cfg attestation ce with
  | ok verdict => cases verdict <;> rfl
  | error halt => cases halt <;> rfl

theorem isValidatorActive_final (addr : Address) (ce : Guarded Engine) :
    ((slashingManager cfg).isValidatorActive addr ce).2 =
      (Manager.isValidatorActive cfg addr ce).final := by
  simp only [slashingManager]
  cases Manager.isValidatorActive cfg addr ce <;> rfl

theorem applyDoubleVoteSlashing_final (att1 att2 : Attestation) (ce : Guarded Engine) :
    ((slashingManager cfg).applyDoubleVoteSlashing att1 att2 ce).2 =
      (Manager.applyDoubleVoteSlashing cfg (some att1) (some att2) ce).final := by
  simp only [slashingManager]
  cases Manager.applyDoubleVoteSlashing cfg (some att1) (some att2) ce with
  | ok => rfl
  | error halt => cases halt <;> rfl

variable {ce : Guarded Engine}

theorem applyDoubleVoteSlashing_paidOnce {previous : Attestation}
    (known : vote.KnownAs cfg key previous attestation) (paid : PaidOnce vote key ce.data.essence) :
    PaidOnce vote key ((slashingManager cfg).applyDoubleVoteSlashing previous attestation
      ce).2.data.essence := by
  have respected : Respects (PaidOnce vote key) true
      (Manager.applyDoubleVoteSlashing cfg (some previous) (some attestation)) :=
    Keeps.exclusively ((tolerates_paidOnce cfg vote key).procedure.applyDoubleVoteSlashingLocked
      (by rintro _ ⟨⟩ _ ⟨⟩; exact known))
  rw [applyDoubleVoteSlashing_final]
  exact (respected ce paid).1

theorem judged_paidOnce {judge : Guarded Engine} (known : ∀ previous after,
      (slashingManager cfg).processAttestation attestation ce =
        (some (.doubleVote previous), after) → vote.KnownAs cfg key previous attestation)
    (paid : PaidOnce vote key ce.data.essence)
    (reached : judged (wired cfg forkChoice) attestation (some ce) = some judge) :
    PaidOnce vote key judge.data.essence := by
  have tolerates := tolerates_paidOnce cfg vote key
  have looked := (tolerates.procedure.processAttestation attestation ce paid).1
  rw [← processAttestation_final] at looked
  simp only [judged, wired] at reached
  split at reached
  · rename_i previous after verdict
    rw [verdict] at looked
    cases reached
    exact applyDoubleVoteSlashing_paidOnce (known previous after verdict) looked
  · rename_i after verdict
    rw [verdict] at looked
    cases reached
    have active : Respects (PaidOnce vote key) false
        (Manager.isValidatorActive cfg attestation.validatorAddress) :=
      tolerates.procedure.isValidatorActive
    rw [isValidatorActive_final]
    exact (active after looked).1
  · rename_i answer after _ _ verdict
    rw [verdict] at looked
    cases reached
    exact looked

theorem Processed.slashing {cfg : ForkChoiceConfig (Guarded Engine)}
    {fc reached : ForkChoice (Guarded Engine)} (processed : Processed cfg attestation fc reached) :
    reached.slashing = fc.slashing ∨ ∃ prevVote,
      (latestVotes fc attestation.epoch).find? attestation.validatorAddress =
        some (attestation.validatorAddress, prevVote) ∧ prevVote ≠ attestation.blockHash ∧
      reached.slashing = reported cfg attestation prevVote fc := by
  cases processed with
  | ignored => exact Or.inl rfl
  | conflict prevVote found ne => exact Or.inr ⟨prevVote, found, ne, rfl⟩
  | repeated => exact Or.inl rfl
  | counted _ attestationsByBlock _ _ _ _ _ cached =>
    obtain ⟨_, _, _, rfl⟩ := cached
    exact Or.inl (congrArg (·.2.2.1) (counted_remainder attestation _ attestationsByBlock fc))

theorem attestation_paidOnce (holds : node.Holds (PaidOnce vote key))
    (known : ∀ previous, Confronted cfg node attestation previous →
      vote.KnownAs cfg key previous attestation)
    (made : next? (wired cfg forkChoice) node (.processAttestation attestation) = some after) :
    after.Holds (PaidOnce vote key) := by
  rcases next?_processAttestation made with ⟨_, rfl⟩ | ⟨_, processed⟩
  · exact holds
  have asked : ∀ judge, judged (wired cfg forkChoice) attestation node.data.slashing =
      some judge → PaidOnce vote key judge.data.essence := by
    intro judge reached
    cases present : node.data.slashing with
    | none =>
      rw [present] at reached
      cases reached
    | some ce =>
      rw [present] at reached
      exact judged_paidOnce (fun previous _ verdict => known previous (.recorded present verdict))
        (holds ce present) reached
  intro ce present
  rcases processed.slashing with same | ⟨_, voted, ne, same⟩
  · exact asked ce (same.symm.trans present)
  rw [same, reported] at present
  split at present
  · rename_i judge previous judgedAs found
    cases present
    exact applyDoubleVoteSlashing_paidOnce (known previous (.tracked voted ne found))
      (asked judge judgedAs)
  · exact asked ce present

theorem arrival_paidOnce {arrival : Arrival} (holds : node.Holds (PaidOnce vote key))
    (known : vote.OneKey cfg key node arrival)
    (made : arrival.next? cfg forkChoice node = some after) : after.Holds (PaidOnce vote key) := by
  have tolerates := tolerates_paidOnce cfg vote key
  cases arrival with
  | attestation => exact attestation_paidOnce holds known made
  | received ev =>
    cases made
    refine onEngine_holds holds fun ce paid => ?_
    have body : (ev.identified cfg).evidence = ev.evidence := by
      unfold SlashingEvidence.identified
      split <;> rfl
    exact (Engine.processReceivedSlashingEvidence_respects tolerates (fun _ _ kept => { kept with })
      trivial trivial (fun _ _ _ => scope_covers (body.symm ▸ known)) ce paid).1
  | submitted proof =>
    cases made
    refine onEngine_holds holds fun ce paid => ?_
    have covered : (vote.scope cfg key).CoversSubmission cfg (proof.identified cfg) := by
      unfold Scope.CoversSubmission
      rw [identified_type, identified_body]
      exact ⟨trivial, known⟩
    exact (tolerates.procedure.processEvidence (fun _ _ _ _ => covered) ce paid).1
  | blocks =>
    cases made
    exact onEngine_holds holds fun ce paid => { paid with }

end Steps

/-- While every arrival that shows a double vote shows it under one and the same key, it is paid for
at most once. -/
theorem double_vote_paid_once (cfg : EngineConfig) (forkChoice : ForkChoiceConfig (Guarded Engine))
    (vote : DoubleVote) (key : Bytes) (start node : ConsensusNode)
    (unpaid : vote.penalties start = 0)
    (run : Run (Arrival.next? cfg forkChoice) (vote.OneKey cfg key) start node) :
    vote.penalties node ≤ 1 := by
  have initially : start.Holds (PaidOnce vote key) := by
    intro ce present
    have none : vote.penaltiesIn (ce.data.essence.recordsOf vote.validatorAddress) = 0 := by
      rw [DoubleVote.penalties, present] at unpaid
      exact unpaid
    exact ⟨none.trans_le (Nat.zero_le 1), fun positive => absurd none positive.ne'⟩
  have paid := run.keeps (ConsensusNode.Holds (PaidOnce vote key)) initially
    fun _ _ _ holds known made => arrival_paidOnce holds known made
  unfold DoubleVote.penalties
  split
  · exact Nat.zero_le 1
  · rename_i ce present
    exact (paid ce present).atMostOnce

def sampleWiring : ForkChoiceConfig (Guarded Engine) where
  maxEpochsToKeep := 100
  maxBlocksPerEpoch := 1000
  maxAttestationsPerBlock := 1000
  stakeCacheTTL := 10
  maxReorgDepth := 32
  requiredBasisPoints := 6600
  finalizationEpochs := 2
  checkpointInterval := 10
  worldState := ⟨KeyedMap.empty, KeyedMap.empty⟩
  slashingManager := slashingManager sampleEngineConfig
  clock := fun _ => 0

def openConsensusNode : ConsensusNode := newForkChoice (some openNode) none 0

def provenDoubleVote : DoubleVote := ⟨sampleAddress 97, 3, [1], [2]⟩

def arrive (arrival : Arrival) (node : ConsensusNode) : ConsensusNode :=
  (arrival.next? sampleEngineConfig sampleWiring node).getD node

theorem double_vote_paid_once_repeated :
    let received := arrive (.received doubleVoteProof.evidence) openConsensusNode
    provenDoubleVote.penalties received = 1 ∧
      provenDoubleVote.penalties (arrive (.submitted doubleVoteProof) received) ≤ 1 := by
  have known : provenDoubleVote.KnownAs sampleEngineConfig (doubleVoteProof.key sampleEngineConfig)
      doubleVoteProof.att1 doubleVoteProof.att2 := fun _ => rfl
  refine ⟨by decide +kernel, ?_⟩
  refine double_vote_paid_once sampleEngineConfig sampleWiring provenDoubleVote
    (doubleVoteProof.key sampleEngineConfig) openConsensusNode _ rfl ?_
  refine .call (Arrival.submitted doubleVoteProof) _ (.call
    (Arrival.received doubleVoteProof.evidence) _ .start ?_ rfl) known rfl
  intro att1 att2 body
  cases body
  exact known

def loftyProof : SlashingEvidence :=
  let cfg := sampleEngineConfig
  let ev := SlashingEvidence.new cfg .doubleVoting (sampleAddress 97)
    (.doubleVote (some { provenAttestation 1 with blockHeight := 101 }) (some (provenAttestation 2)))
    (sampleAddress 99) 1000
  let signature := match Engine.signEvidence cfg ev with
    | .ok signed => signed.reporterSignature
    | .error _ => []
  { ev with reporterSignature := signature }

/-- The two votes are paid for twice: once as they were signed, once at another height. -/
theorem double_vote_paid_twice :
    let bal (node : ConsensusNode) := node.data.slashing.map fun ce =>
      balanceOf sampleEngineConfig ce.data.world (sampleAddress 97)
    let once := arrive (.received doubleVoteProof.evidence) openConsensusNode
    let twice := arrive (.received loftyProof) once
    (provenDoubleVote.penalties openConsensusNode = 0 ∧ bal openConsensusNode = some (.ok 100)) ∧
      (provenDoubleVote.penalties once = 1 ∧ bal once = some (.ok 50)) ∧
      (provenDoubleVote.penalties twice = 2 ∧ bal twice = some (.ok 25)) := by
  decide +kernel

end Thrylos
