import Thrylos.SlashingSoundness

/-!
Whether evidence a node has seen keeps it from applying a later proof of a double vote. Evidence is
remembered by an identifier in which its body does not take part.
-/

namespace Thrylos

open Guarded (wp exclusively_cases)

inductive Delivery where
  | received (ev : SlashingEvidence)
  | submitted (ev : SlashingEvidence)

def Delivery.next? (cfg : EngineConfig) (st : Guarded Engine) : Delivery → Option (Guarded Engine)
  | .received ev =>
    some (Engine.processReceivedSlashingEvidence cfg ev st).final
  | .submitted ev => some (Manager.processEvidence cfg ev st).final

structure DoubleVoteProof where
  evidence : SlashingEvidence
  att1 : Attestation
  att2 : Attestation
  type : evidence.type = .doubleVoting
  body : evidence.evidence = some (.doubleVote (some att1) (some att2))

namespace DoubleVoteProof

variable (cfg : EngineConfig) (proof : DoubleVoteProof)

def offender : Address := proof.att1.validatorAddress

def key : Bytes :=
  (Manager.doubleVoteOffence proof.att1 proof.att2).evidence.hash cfg

def identified : SlashingEvidence := proof.evidence.identified cfg

def Named (evidenceID : Bytes) : Prop :=
  evidenceID = proof.evidence.id ∨ evidenceID = (proof.identified cfg).id

def unmasked : Scope where
  victim := fun _ => True
  offence := fun offence => offence.evidence.hash cfg ≠ proof.key cfg ∧
    ¬ proof.Named cfg (offence.evidence.hash cfg)
  key := fun key => key ≠ proof.key cfg ∧ ¬ proof.Named cfg key
  evidenceID := fun evidenceID => ¬ proof.Named cfg evidenceID

structure Open (validators : ValidatorSet) (essence : Essence) : Prop where
  untracked : ∀ evidenceID, proof.Named cfg evidenceID →
    essence.evidenceTracker.peek evidenceID = none
  unstored : ∀ stored, essence.storedEvidence = some stored →
    ∀ evidenceID, proof.Named cfg evidenceID → stored.find? evidenceID = none
  unmarked : essence.processedEvidence.find? (proof.key cfg) = none
  settled : essence.ledger.SettledAt proof.offender
  account : ∃ account norm, readAccount cfg essence.ledger proof.offender = .ok account ∧
      (parseUint256Bytes account.balance).isOk = true ∧
      Updated cfg account norm
  validators : essence.validators = validators

end DoubleVoteProof

def Unmasking (cfg : EngineConfig) (proof : DoubleVoteProof) (st : Guarded Engine) : Delivery → Prop
  | .received received =>
    let ev := received.identified cfg
    ¬ proof.Named cfg received.id ∧ ¬ proof.Named cfg ev.id ∧
      (Accepted cfg st.data.world.validators ev → (proof.unmasked cfg).Covers ev)
  | .submitted received =>
    let ev := received.identified cfg
    ∀ now, ev.validate cfg st.data.world.validators now = .ok () →
      (proof.unmasked cfg).CoversSubmission cfg ev

namespace DoubleVoteProof.Open

variable {cfg : EngineConfig} {proof : DoubleVoteProof} {vals : ValidatorSet}
  {essence after : Essence}

theorem ledger_other {am : Ledger} (ready : proof.Open cfg vals essence)
    (settled : am.SettledAt proof.offender)
    (same : am.accounts.find? proof.offender = essence.ledger.accounts.find? proof.offender) :
    proof.Open cfg vals { essence with ledger := am } := by
  refine { ready with settled := settled, account := ?_ }
  obtain ⟨acc, norm, found, parsed, updated⟩ := ready.account
  refine ⟨acc, norm, ?_, parsed, updated⟩
  rw [settled.readAccount_congr ready.settled same]
  exact found

theorem charge_self {acc norm : Account} {raw : Bytes} (ready : proof.Open cfg vals essence)
    (found : readAccount cfg essence.ledger proof.offender = .ok acc)
    (updated : Updated cfg { acc with balance := raw } norm) :
    proof.Open cfg vals { essence with
      ledger := ((essence.ledger.load proof.offender).write norm).store norm } := by
  have asked : acc.address = proof.offender := readAccount_address found
  have address : norm.address = proof.offender := updated.sameHoldings.address.trans asked
  have stored : norm.balance = BigEndian.encode (parseBigInt raw) := by
    rw [updated.amounts]
    rfl
  refine { ready with settled := ?_, account := ⟨norm, norm, ?_, ?_, ?_⟩ }
  · exact address ▸ Ledger.SettledAt.store_self updated.canonical
  · exact readAccount_store_self _ address (readAccount_readable found)
  · rw [stored, parseUint256Bytes_encode (parseBigInt_lt raw)]
    rfl
  · exact (Updated.iff_of_canonical updated.canonical).mpr ⟨rfl, updated.valid, updated.shard⟩

theorem insert_stored {key : Bytes} (ready : proof.Open cfg vals essence)
    (other : ¬ proof.Named cfg key) :
    ∀ stored, essence.storedEvidence.map (·.insert key) = some stored →
      ∀ evidenceID, proof.Named cfg evidenceID → stored.find? evidenceID = none := by
  intro stored found evidenceID named
  rw [Option.map_eq_some_iff] at found
  obtain ⟨before, present, rfl⟩ := found
  have ne : id key ≠ evidenceID := by
    rintro rfl
    exact other named
  rw [KeyedMap.find?_insert, if_neg ne]
  exact ready.unstored before present evidenceID named

theorem effect (ready : proof.Open cfg vals essence)
    (effect : Effect cfg (proof.unmasked cfg) essence after) : proof.Open cfg vals after := by
  cases effect with
  | load other => exact ready.ledger_other (ready.settled.load other) (by rw [load_accounts])
  | @charge victim acc norm raw _ found updated =>
    by_cases self : victim = proof.offender
    · subst self
      exact ready.charge_self found updated
    have asked : acc.address = victim := readAccount_address found
    have ne : norm.address ≠ proof.offender := by
      rw [updated.sameHoldings.address]
      exact asked ▸ self
    refine ready.ledger_other (((ready.settled.load victim).write ne).store_other ne) ?_
    simp [Ledger.store, Ledger.write, ne]
  | @spoil victim acc norm raw _ found same refused =>
    by_cases self : victim = proof.offender
    · subst self
      obtain ⟨other, _, answer, _, updated⟩ := ready.account
      obtain rfl : acc = other := Except.ok.inj (found.symm.trans answer)
      obtain ⟨charged, ok⟩ := updated.withBalance raw
      exact absurd ok (refused charged)
    · have asked : acc.address = victim := readAccount_address found
      have ne : norm.address ≠ proof.offender := by
        rw [same.address]
        exact asked ▸ self
      exact ready.ledger_other ((ready.settled.load victim).write ne) (by simp [Ledger.write])
  | jail | release => exact { ready with }
  | mark key allowed =>
    refine { ready with unmarked := ?_, unstored := ready.insert_stored allowed.2 }
    rw [KeyedMap.find?_insert, if_neg (show id key ≠ proof.key cfg from allowed.1)]
    exact ready.unmarked
  | remember key allowed =>
    refine { ready with unmarked := ?_ }
    rw [KeyedMap.find?_insert, if_neg (show id key ≠ proof.key cfg from allowed.1)]
    exact ready.unmarked
  | touch =>
    refine { ready with untracked := fun wanted named => ?_ }
    rw [LruCache.peek_touch]
    exact ready.untracked wanted named
  | track evidenceID other =>
    refine { ready with untracked := fun wanted named => ?_ }
    have ne : id evidenceID ≠ wanted := by
      rintro rfl
      exact other named
    cases found : (essence.evidenceTracker.add evidenceID).peek wanted with
    | none => rfl
    | some =>
      have absent := ready.untracked wanted named
      rw [LruCache.peek_add_other ne found] at absent
      cases absent
  | save _ other => exact { ready with unstored := ready.insert_stored other }

theorem chargeable {ws : WorldState} (ready : proof.Open cfg vals essence)
    (same : ws.ledger = essence.ledger) : ∃ bal, Chargeable cfg ws proof.offender bal := by
  obtain ⟨acc, norm, found, parsed, updated⟩ := ready.account
  cases bal : parseUint256Bytes acc.balance with
  | error => simp [bal, Except.isOk, Except.toBool] at parsed
  | ok value =>
  have answer : readAccount cfg ws.ledger proof.offender = .ok acc := by
    rw [same]
    exact found
  refine ⟨value, ?_, acc, norm, answer, updated⟩
  simp [balanceOf, answer, bind, Except.bind, bal]

end DoubleVoteProof.Open

section Application

variable {cfg : EngineConfig} {proof : DoubleVoteProof} {vals : ValidatorSet}

def DoubleVoteProof.Applied (cfg : EngineConfig) (proof : DoubleVoteProof)
    (before after : Engine) : Prop :=
  ∃ bal record, balanceOf cfg before.world proof.offender = .ok bal ∧
    balanceOf cfg after.world proof.offender =
      .ok (bal - bal * cfg.slashing.doubleVotingPenalty.toNat / 100) ∧
    after.recordsOf proof.offender = before.recordsOf proof.offender ++ [record] ∧
    record.condition = .doubleVoting ∧
    (after.jailedValidators.find? proof.offender).isSome = true

variable {after data : Engine} {ev : SlashingEvidence} {evidenceID : Bytes}

theorem applied_of_charged {before : Engine} {timestamp : Int} {bal : Nat}
    (charged : Manager.Charged cfg ((Manager.doubleVoteOffence proof.att1 proof.att2).record
      timestamp (bal * (cfg.slashing.doubleVotingPenalty.toNat : Int).toNat / 100))
      bal before after) : proof.Applied cfg before after := by
  refine ⟨bal, _, charged.chargeable.1, charged.charged.1, charged.records, rfl, ?_⟩
  obtain ⟨_, jailed⟩ := charged.jailed
  rw [jailed]
  simp [DoubleVoteProof.offender, Offence.record, Manager.doubleVoteOffence]

theorem applySlashing_applied (data : Engine) (type : ev.type = .doubleVoting)
    (body : ev.evidence = some (.doubleVote (some proof.att1) (some proof.att2)))
    (same : proof.att1.validatorAddress = proof.att2.validatorAddress)
    (percent : cfg.slashing.doubleVotingPenalty.toNat ≤ 100)
    (unmarked : data.processedEvidence.find? (proof.key cfg) = none)
    (able : ∃ bal, Chargeable cfg data.world proof.offender bal) :
    ∃ after, Engine.applySlashing cfg ev ⟨false, data⟩ = .ok () ⟨false, after⟩ ∧
      proof.Applied cfg data after := by
  have spec : wp (Manager.applyDoubleVoteSlashingLocked cfg (some proof.att1) (some proof.att2))
      (fun _ => proof.Applied cfg data) (fun _ _ => False) data := by
    simp only [Manager.applyDoubleVoteSlashingLocked, same, ne_eq, not_true_eq_false, if_false]
    refine Manager.wp_slashOnce (fun known _ => ?_) (fun unable _ _ => ?_)
      fun _ _ _ timestamp bal after charged => applied_of_charged charged
    · change (data.processedEvidence.find? (proof.key cfg)).isSome = true at known
      simp [unmarked] at known
    · obtain ⟨bal, able⟩ := able
      rcases unable with negative | above | never
      · omega
      · omega
      · exact never bal able
  unfold Engine.applySlashing
  rw [type, body]
  rcases exclusively_cases spec with ⟨_, after, ran, applied⟩ | ⟨_, _, _, impossible⟩
  · exact ⟨after, adaptExcept_ok ran _, applied⟩
  · exact impossible.elim

theorem isEvidenceProcessed_new (untracked : data.evidenceTracker.peek evidenceID = none)
    (unstored : data.isStored evidenceID = false) (held : Bool) :
    Engine.isEvidenceProcessed evidenceID ⟨held, data⟩ =
      .ok false ⟨held, data.touchEvidence evidenceID⟩ := by
  unfold Engine.isEvidenceProcessed
  rw [bind_ok (show Guarded.read ⟨held, data⟩ = .ok data ⟨held, data⟩ from rfl)]
  simp only [untracked, unstored, Option.isSome_none, Bool.false_eq_true, if_false]
  rfl

theorem DoubleVoteProof.Open.isStored (ready : proof.Open cfg vals data.essence)
    (named : proof.Named cfg evidenceID) : data.isStored evidenceID = false := by
  unfold Engine.isStored
  cases stored : data.storage with
  | none => rfl
  | some storage =>
    have absent := ready.unstored storage.processedEvidence (by simp [Engine.essence, stored])
      evidenceID named
    simp [absent]

theorem identified_type (cfg : EngineConfig) (proof : DoubleVoteProof) :
    (proof.identified cfg).type = .doubleVoting := by
  unfold DoubleVoteProof.identified SlashingEvidence.identified
  split <;> exact proof.type

theorem identified_body (cfg : EngineConfig) (proof : DoubleVoteProof) :
    (proof.identified cfg).evidence = some (.doubleVote (some proof.att1) (some proof.att2)) := by
  unfold DoubleVoteProof.identified SlashingEvidence.identified
  split <;> exact proof.body

theorem sameValidator_of_valid {now : Int}
    (valid : (proof.identified cfg).validate cfg vals now = .ok ()) :
    proof.att1.validatorAddress = proof.att2.validatorAddress := by
  obtain ⟨-, _, given, checked⟩ := SlashingEvidence.validate_ok valid
  rw [identified_body] at given
  cases given
  simp only [SlashingEvidence.validateTypeSpecific, identified_type] at checked
  exact (SlashingEvidence.validateDoubleVoteEvidence_ok checked).1

theorem processNewEvidence_ok (valid : ev.validate cfg data.world.validators
      (cfg.clock data.world.ticks / nanosPerSecond) = .ok ())
    (signed : Engine.verifyEvidenceSignature cfg data.world.validators ev = .ok ())
    (ran : Engine.applySlashing cfg ev ⟨false,
      (data.ticked (data.world.ticks + 1)).markEvidenceProcessed ev.id⟩ = .ok () ⟨false, after⟩) :
    Engine.processNewEvidence cfg ev ⟨false, data⟩ = .ok () ⟨false, after⟩ := by
  let ticked := data.ticked (data.world.ticks + 1)
  have now : Manager.unixNow cfg ⟨false, data⟩ =
      .ok (cfg.clock data.world.ticks / nanosPerSecond) ⟨false, ticked⟩ := rfl
  have seen : (Guarded.read : EngineM Engine) ⟨false, ticked⟩ = .ok ticked ⟨false, ticked⟩ := rfl
  have marked : (Guarded.update (Engine.markEvidenceProcessed ev.id) : EngineM PUnit)
      ⟨false, ticked⟩ = .ok ⟨⟩ ⟨false, ticked.markEvidenceProcessed ev.id⟩ := rfl
  have attempted : Guarded.attempt (Engine.applySlashing cfg ev)
      ⟨false, ticked.markEvidenceProcessed ev.id⟩ = .ok (.ok ()) ⟨false, after⟩ := by
    unfold Guarded.attempt
    rw [ran]
  have stillValid : ev.validate cfg ticked.world.validators
      (cfg.clock data.world.ticks / nanosPerSecond) = .ok () := valid
  have stillSigned : Engine.verifyEvidenceSignature cfg ticked.world.validators ev =
      .ok () := signed
  unfold Engine.processNewEvidence
  rw [bind_ok now, bind_ok seen]
  simp only [stillValid, stillSigned]
  rw [bind_ok marked, bind_ok attempted]
  rfl

theorem received_applied {st : Guarded Engine} (idle : Idle st)
    (ready : proof.Open cfg st.data.world.validators st.data.essence)
    (percent : cfg.slashing.doubleVotingPenalty.toNat ≤ 100)
    (valid : (proof.identified cfg).validate cfg st.data.world.validators
      (cfg.clock st.data.world.ticks / nanosPerSecond) = .ok ())
    (signed : Engine.verifyEvidenceSignature cfg st.data.world.validators
      (proof.identified cfg) = .ok ()) : proof.Applied cfg st.data
      (Engine.processReceivedSlashingEvidence cfg proof.evidence st).final.data := by
  obtain ⟨_, data⟩ := st
  obtain ⟨rfl, free⟩ := idle
  have free : data.busy = false := free
  let ev := proof.identified cfg
  let busy : Engine := { data with busy := true }
  let looked := busy.touchEvidence proof.evidence.id
  let marked := (looked.ticked (data.world.ticks + 1)).markEvidenceProcessed ev.id
  obtain ⟨after, ran, bal, record, owed, paid, recorded, condition, jailed⟩ :=
    applySlashing_applied marked (identified_type cfg proof)
      (identified_body cfg proof) (sameValidator_of_valid valid) percent ready.unmarked
      (ready.chargeable rfl)
  have asked : Engine.isEvidenceProcessed proof.evidence.id ⟨false, busy⟩ =
      .ok false ⟨false, looked⟩ := by
    have untracked : busy.evidenceTracker.peek proof.evidence.id = none :=
      ready.untracked _ (Or.inl rfl)
    have unstored : busy.isStored proof.evidence.id = false := ready.isStored (Or.inl rfl)
    exact isEvidenceProcessed_new untracked unstored false
  have processed : Engine.processNewEvidence cfg ev ⟨false, looked⟩ =
      .ok () ⟨false, after⟩ := processNewEvidence_ok valid signed ran
  have final : (Engine.processReceivedSlashingEvidence cfg proof.evidence ⟨false, data⟩).final =
      ⟨false, { after with busy := false }⟩ := by
    unfold Engine.processReceivedSlashingEvidence Engine.locked
    simp only [free, Bool.false_eq_true, if_false]
    rw [bind_ok asked]
    simp only [Bool.false_eq_true, if_false]
    rw [show proof.evidence.identified cfg = ev from rfl, processed]
    rfl
  rw [final]
  exact ⟨bal, record, owed, paid, recorded, condition, jailed⟩

end Application

theorem DoubleVoteProof.Open.delivery {cfg : EngineConfig} {proof : DoubleVoteProof}
    {vals : ValidatorSet} {st after : Guarded Engine} {delivery : Delivery}
    (ready : proof.Open cfg vals st.data.essence) (idle : Idle st)
    (unmasking : Unmasking cfg proof st delivery) (made : delivery.next? cfg st = some after) :
    proof.Open cfg vals after.data.essence ∧ Idle after := by
  have tolerates : Tolerates cfg (proof.unmasked cfg) (proof.Open cfg vals) :=
    .of_closed (fun _ _ => DoubleVoteProof.Open.effect) (fun _ allowed => ⟨trivial, allowed⟩)
      fun _ _ kept => { kept with }
  have registered : st.data.world.validators = vals := ready.validators
  cases delivery with
  | received =>
    cases made
    obtain ⟨asked, tracked, covered⟩ := unmasking
    obtain ⟨reached, free⟩ := Engine.processReceivedSlashingEvidence_respects tolerates
      (fun _ _ kept => { kept with }) asked tracked
      (fun essence kept ok => covered (by
        rw [registered, ← kept.validators]
        exact ok)) st ready
    exact ⟨reached, free idle⟩
  | submitted =>
    cases made
    obtain ⟨⟨reached, unlocked⟩, orderly⟩ := (tolerates.busy
      false).procedure.processEvidence (fun ce now kept valid => unmasking now (by
        rw [registered, ← kept.1.validators]
        exact valid)) st ⟨ready, idle.2⟩
    exact ⟨reached, (orderly fun _ => idle.1).2.trans idle.1, unlocked⟩

/-- After deliveries that leave no mark in its way, a valid signed proof is applied. -/
theorem valid_evidence_applied (cfg : EngineConfig) (proof : DoubleVoteProof)
    (start st : Guarded Engine) (idle : Idle start)
    (ready : proof.Open cfg start.data.world.validators start.data.essence)
    (percent : cfg.slashing.doubleVotingPenalty.toNat ≤ 100)
    (run : Run (Delivery.next? cfg) (Unmasking cfg proof) start st)
    (valid : (proof.identified cfg).validate cfg st.data.world.validators
      (cfg.clock st.data.world.ticks / nanosPerSecond) = .ok ())
    (signed : Engine.verifyEvidenceSignature cfg st.data.world.validators
      (proof.identified cfg) = .ok ()) : proof.Applied cfg st.data
      (Engine.processReceivedSlashingEvidence cfg proof.evidence st).final.data := by
  obtain ⟨opened, free⟩ : proof.Open cfg start.data.world.validators st.data.essence ∧ Idle st :=
    run.keeps (fun st => proof.Open cfg start.data.world.validators st.data.essence ∧
      Idle st) ⟨ready, idle⟩ fun st delivery after holds unmasking made =>
        holds.1.delivery holds.2 unmasking made
  have registered : st.data.world.validators = start.data.world.validators := opened.validators
  exact received_applied free (registered ▸ opened) percent valid signed

def provenAttestation (blk : Byte) : Attestation :=
  let cfg := sampleEngineConfig
  let att : Attestation := ⟨sampleAddress 97, [blk], 100, 3, 100, [], 1000⟩
  match sign cfg.keccak256 cfg.curve [1]
    (SlashingEvidence.hashAttestation cfg att) with
  | .ok signature => { att with signature := signature.bytes }
  | .error _ => att

def doubleVoteProof : DoubleVoteProof where
  evidence :=
    let cfg := sampleEngineConfig
    let ev := SlashingEvidence.new cfg .doubleVoting (sampleAddress 97)
      (.doubleVote (some (provenAttestation 1)) (some (provenAttestation 2))) (sampleAddress 99) 1000
    let signature := match Engine.signEvidence cfg ev with
      | .ok signed => signed.reporterSignature
      | .error _ => []
    { ev with reporterSignature := signature }
  att1 := provenAttestation 1
  att2 := provenAttestation 2
  type := rfl
  body := rfl

def openNode : Guarded Engine :=
  sampleEngine (sampleChain [sampleAccount 97 [100]]
    [sampleValidator 97 40 1, sampleValidator 99 40 9]) none

def receive (ev : SlashingEvidence) (st : Guarded Engine) : Guarded Engine :=
  (Engine.processReceivedSlashingEvidence sampleEngineConfig ev st).final

theorem openNode_open :
    doubleVoteProof.Open sampleEngineConfig openNode.data.world.validators openNode.data.essence where
  untracked := fun _ _ => rfl
  unstored := nofun
  unmarked := rfl
  settled := nofun
  account := by
    refine ⟨sampleAccount 97 [100], sampleAccount 97 [100], by decide +kernel, by decide +kernel, ?_⟩
    have canonical : (sampleAccount 97 [100]).Canonical := by
      unfold Account.Canonical
      decide +kernel
    exact (Updated.iff_of_canonical canonical).mpr ⟨rfl, by decide +kernel, by decide +kernel⟩
  validators := rfl

def strayEvidence : SlashingEvidence := { doubleVoteProof.evidence with id := [1] }

theorem valid_evidence_applied_after_stray :
    doubleVoteProof.Applied sampleEngineConfig (receive strayEvidence openNode).data
      (receive doubleVoteProof.evidence (receive strayEvidence openNode)).data := by
  have unnamed : ¬ doubleVoteProof.Named sampleEngineConfig [1] := by
    rintro (same | same)
    · exact absurd same (by decide +kernel)
    · exact absurd same (by decide +kernel)
  have run : Run (Delivery.next? sampleEngineConfig) (Unmasking sampleEngineConfig doubleVoteProof)
      openNode (receive strayEvidence openNode) := by
    refine .call (Delivery.received strayEvidence) _ .start ?_ rfl
    refine ⟨unnamed, unnamed, ?_⟩
    rintro ⟨⟨_, valid⟩, -⟩
    have misnamed := (SlashingEvidence.validate_ok valid).1
    exact absurd misnamed (by decide +kernel)
  exact valid_evidence_applied sampleEngineConfig doubleVoteProof openNode _ ⟨rfl, rfl⟩ openNode_open
    (by decide) run (by decide +kernel) (by decide +kernel)

def unsignedCopy : SlashingEvidence := { doubleVoteProof.evidence with reporterSignature := [] }

/-- The unsigned copy is refused, and the proof itself is then taken for known. -/
theorem refused_evidence_masks_proof :
    let cfg := sampleEngineConfig
    let refused := receive unsignedCopy openNode
    let bal (st : Guarded Engine) :=
      balanceOf cfg st.data.world (sampleAddress 97)
    (Engine.processReceivedSlashingEvidence cfg unsignedCopy openNode).value? = none ∧
      (doubleVoteProof.identified cfg).validate cfg
        refused.data.world.validators 1000 = .ok () ∧
      Engine.verifyEvidenceSignature cfg refused.data.world.validators
        (doubleVoteProof.identified cfg) = .ok () ∧
      bal (receive doubleVoteProof.evidence openNode) = .ok 50 ∧
      bal (receive doubleVoteProof.evidence refused) = .ok 100 := by
  decide +kernel

end Thrylos
