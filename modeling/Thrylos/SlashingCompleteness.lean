import Thrylos.SlashingLemmas

/-!
What becomes of a double vote that a node detects itself. Its evidence is not signed, and
`HandleSlashingEvidence` asks for the reporter's signature first.
-/

namespace Thrylos

open Guarded (update Keeps wp)

def Engine.outcome (ce : Engine) :=
  (ce.world.ledger, ce.jailedValidators, ce.slashingRecords, ce.processedEvidence, ce.broadcasts)

structure Punished (cfg : EngineConfig) (ev : SlashingEvidence) (addr : Address)
    (before after : Engine) : Prop where
  valid : ∃ now, ev.validate cfg before.world.validators now = .ok ()
  penalty : ∃ bal, balanceOf cfg before.world addr = .ok bal ∧ balanceOf cfg after.world addr =
      .ok (bal - bal * cfg.slashing.doubleVotingPenalty.toNat / 100)
  processed : (after.evidenceTracker.peek ev.id).isSome = true
  broadcast : ∃ signed, after.broadcasts = before.broadcasts ++ [.evidence signed]

namespace Engine

variable {cfg : EngineConfig} {ev : SlashingEvidence}

theorem isEvidenceProcessed_keeps {outcome} (evidenceID : Bytes) :
    Keeps (fun ce : Engine => ce.outcome = outcome) false (isEvidenceProcessed evidenceID) := by
  have touched : Keeps (fun ce : Engine => ce.outcome = outcome) false
      (update (touchEvidence evidenceID) : EngineM PUnit) := Keeps.update fun _ => id
  have tracked : Keeps (fun ce : Engine => ce.outcome = outcome) false
      (update (track evidenceID) : EngineM PUnit) := Keeps.update fun _ => id
  refine Keeps.bind_read fun ce _ => touched.bind fun _ => ?_
  split
  · exact Keeps.pure _
  split
  · exact tracked.bind fun _ => Keeps.pure _
  · exact Keeps.pure _

theorem verifyEvidenceSignature_unsigned (unsigned : ev.reporterSignature = [])
    (vals : ValidatorSet) : verifyEvidenceSignature cfg vals ev = .error "evidence not signed" := by
  simp [verifyEvidenceSignature, unsigned, throw, throwThe, MonadExceptOf.throw, bind, Except.bind]

theorem handleSlashingEvidence_keeps {outcome} (unsigned : ev.reporterSignature = []) :
    Keeps (fun ce : Engine => ce.outcome = outcome) false (handleSlashingEvidence cfg ev) := by
  refine (isEvidenceProcessed_keeps ev.id).bind fun processed => ?_
  split
  · exact Keeps.pure _
  have named : (ev.identified cfg).reporterSignature = [] := by
    unfold SlashingEvidence.identified
    split <;> exact unsigned
  have ticked : Keeps (fun ce : Engine => ce.outcome = outcome) false
      (Manager.unixNow cfg) := fun _ holds => ⟨holds, fun _ => ⟨rfl, rfl⟩⟩
  refine ticked.bind fun now => Keeps.bind_read fun ce _ => ?_
  dsimp only
  split
  · exact Keeps.throw rfl
  · rw [verifyEvidenceSignature_unsigned named]
    exact Keeps.throw rfl

end Engine

/-- The evidence a node builds itself changes nothing and is neither recorded nor broadcast. -/
theorem detected_double_vote_unpunished (cfg : EngineConfig) (att : Attestation)
    (record : AttestationRecord) (st : Guarded Engine) : ∃ ev middle,
      Engine.createSlashingEvidenceFromAttestation cfg att (.doubleSigning record) st =
        .ok (some ev) middle ∧
      (Engine.handleSlashingEvidence cfg ev middle).final.data.outcome = st.data.outcome ∧
      ¬ Punished cfg ev att.validatorAddress st.data
        (Engine.handleSlashingEvidence cfg ev middle).final.data := by
  obtain ⟨ev, middle, built, unsigned, ticked⟩ : ∃ ev middle,
      Engine.createSlashingEvidenceFromAttestation cfg att (.doubleSigning record) st =
        .ok (some ev) middle ∧ ev.reporterSignature = [] ∧
      middle.data.outcome = st.data.outcome := ⟨_, _, rfl, rfl, rfl⟩
  have same : (Engine.handleSlashingEvidence cfg ev middle).final.data.outcome =
      st.data.outcome := (Engine.handleSlashingEvidence_keeps unsigned middle ticked).1
  refine ⟨ev, middle, built, same, ?_⟩
  rintro ⟨-, -, -, _, sent⟩
  have unsent : (Engine.handleSlashingEvidence cfg ev middle).final.data.broadcasts =
      st.data.broadcasts := congrArg (·.2.2.2.2) same
  rw [unsent] at sent
  simpa using congrArg List.length sent

def detectingNode : Guarded Engine :=
  sampleEngine (sampleChain [sampleAccount 97 [100]]
    [sampleValidator 97 40 1, sampleValidator 99 40 9]) none

def signedAttestation (blk : Byte) : Attestation :=
  let att : Attestation := ⟨sampleAddress 97, [blk], 100, 3, 100, [], 1000⟩
  match signAttestation sampleEngineConfig [1] att with
  | .ok signature => { att with signature }
  | .error _ => att

def firstSeen : Guarded Engine :=
  (Manager.processAttestation sampleEngineConfig (signedAttestation 1) detectingNode).final

def conflicting : AttestationRecord :=
  ⟨sampleAddress 97, 3, 100, [1], (signedAttestation 1).signature, 1000 * nanosPerSecond⟩

def handled : Option (SlashingEvidence × Guarded Engine) :=
  match Engine.createSlashingEvidenceFromAttestation sampleEngineConfig (signedAttestation 2)
    (.doubleSigning conflicting) firstSeen with
  | .ok (some ev) middle =>
    match Engine.handleSlashingEvidence sampleEngineConfig ev middle with
    | .error _ after => some (ev, after)
    | .ok _ _ => none
  | _ => none

/-- Two attestations for one slot: the node detects the second, and the call that should punish it
fails. -/
theorem double_vote_goes_unpunished :
    let vals := detectingNode.data.world.validators
    (signedAttestation 1).slot = (signedAttestation 2).slot ∧
      (signedAttestation 1).blockHash ≠ (signedAttestation 2).blockHash ∧
      verifyAttestationSignature sampleEngineConfig vals (signedAttestation 1) = .ok () ∧
      verifyAttestationSignature sampleEngineConfig vals (signedAttestation 2) = .ok () ∧
      (Manager.processAttestation sampleEngineConfig (signedAttestation 2) firstSeen).value? =
        some (.doubleSigning conflicting) ∧
      ∃ ev after, handled = some (ev, after) ∧
        balanceOf sampleEngineConfig after.data.world (sampleAddress 97) = .ok 100 ∧
        after.data.broadcasts = [] ∧ (after.data.evidenceTracker.peek ev.id).isSome = false := by
  refine ⟨by decide +kernel, by decide +kernel, by decide +kernel, by decide +kernel,
    by decide +kernel, ?_⟩
  have failed : handled.any (fun outcome =>
      (balanceOf sampleEngineConfig outcome.2.data.world (sampleAddress 97) = .ok 100) ∧
      outcome.2.data.broadcasts = [] ∧
      (outcome.2.data.evidenceTracker.peek outcome.1.id).isSome = false) = true := by decide +kernel
  cases outcome : handled with
  | none => simp [outcome] at failed
  | some pair =>
    simp only [outcome, Option.any_some, decide_eq_true_eq] at failed
    exact ⟨pair.1, pair.2, rfl, failed⟩

def SlashNotConsumed (cfg : EngineConfig) (record : SlashingRecord) (data : Engine) : Prop :=
  match Manager.applySlashing cfg record ⟨true, data⟩ with
  | .ok _ after => ∃ bal, balanceOf cfg data.world record.validatorAddress = .ok bal ∧
      balanceOf cfg after.data.world record.validatorAddress =
        .ok (bal - min record.slashedAmount bal)
  | .error _ after =>
    after.data.processedEvidence = data.processedEvidence ∧
    after.data.slashingRecords = data.slashingRecords ∧
    after.data.validatorStatus = data.validatorStatus ∧
    balanceOf cfg after.data.world record.validatorAddress =
      balanceOf cfg data.world record.validatorAddress ∧
    ∃ ws done, Manager.applySlashing cfg record ⟨true, { after.data with world := ws }⟩ =
      .ok () done

theorem applySlashing_processed {cfg : EngineConfig} {record : SlashingRecord} {data : Engine}
    (processed : data.isProcessed (record.evidence.hash cfg) = true) (done : Guarded Engine) :
    Manager.applySlashing cfg record ⟨true, data⟩ ≠ .ok () done := by
  have holds : wp (Manager.applySlashing cfg record) (fun _ _ => False) (fun _ _ => True) data :=
    Manager.wp_applySlashing (fun _ _ => trivial) (fun _ _ _ _ => trivial)
      fun fresh => absurd processed (by rw [fresh]; exact Bool.false_ne_true)
  intro ran
  unfold wp at holds
  rw [ran] at holds
  exact holds.2

/-- A slash is not consumed exactly if it is not refused: every refusal leaves the evidence marked. -/
theorem failed_slash_not_consumed_iff (cfg : EngineConfig) (record : SlashingRecord)
    (data : Engine) : SlashNotConsumed cfg record data ↔
      data.isProcessed (record.evidence.hash cfg) = false ∧
      ∃ bal, Chargeable cfg data.world record.validatorAddress bal := by
  have holds : wp (Manager.applySlashing cfg record)
      (fun _ after => data.isProcessed (record.evidence.hash cfg) = false ∧
        ∃ bal, Manager.Charged cfg record bal data after)
      (fun _ after => after.isProcessed (record.evidence.hash cfg) = true ∧
        ¬ (data.isProcessed (record.evidence.hash cfg) = false ∧
          ∃ bal, Chargeable cfg data.world record.validatorAddress bal))
      data := by
    refine Manager.wp_applySlashing (fun known err => ⟨known, fun fresh => ?_⟩)
      (fun fresh never err ws => ⟨?_, fun able => ?_⟩)
      fun fresh bal after charged => ⟨fresh, bal, charged⟩
    · exact Bool.false_ne_true (fresh.1.symm.trans known)
    · simp [Engine.isProcessed, Engine.markProcessed]
    · exact never able.2.choose able.2.choose_spec
  unfold wp at holds
  unfold SlashNotConsumed
  cases ran : Manager.applySlashing cfg record ⟨true, data⟩ with
  | ok =>
    rw [ran] at holds
    obtain ⟨_, fresh, bal, charged⟩ := holds
    refine ⟨fun _ => ⟨fresh, bal, charged.chargeable⟩, fun _ => ⟨bal, charged.chargeable.1, ?_⟩⟩
    rw [charged.charged.1]
    congr 1
    omega
  | error _ after =>
    rw [ran] at holds
    obtain ⟨_, marked, refused⟩ := holds
    refine ⟨?_, fun able => absurd able refused⟩
    rintro ⟨-, -, -, -, ws, done, later⟩
    have still : ({ after.data with world := ws } : Engine).isProcessed
        (record.evidence.hash cfg) = true := marked
    exact (applySlashing_processed still done later).elim

def unpayableRecord : SlashingRecord := ⟨[1], .downtime, 0, 0, {}, 5, "downtime"⟩

theorem a_failed_slash_is_consumed :
    ¬ SlashNotConsumed sampleEngineConfig unpayableRecord detectingNode.data := by
  have marked : (Manager.applySlashing sampleEngineConfig unpayableRecord
      ⟨true, detectingNode.data⟩).failed?.any (fun after =>
        after.data.processedEvidence ≠ detectingNode.data.processedEvidence) = true := by
    decide +kernel
  obtain ⟨_, _, failed, changed⟩ := EStateM.Result.exists_of_failed? marked
  unfold SlashNotConsumed
  rw [failed]
  exact fun kept => of_decide_eq_true changed kept.1

end Thrylos
