import Thrylos.Library.Runs
import Thrylos.SlashingEffects

/-!
Evidence against a validator that has signed nothing it can be slashed for. Only evidence of double
votes comes with signatures that are checked.
-/

namespace Thrylos

section

variable (cfg : EngineConfig)

def Unforgeable (vals : ValidatorSet) (addr : Address) (signed : Bytes → Prop) : Prop :=
  ∀ entry, vals.find? addr = some entry → ∀ key message sig,
    newPublicKeyFromBytes cfg.curve entry.2.pubkey = .ok key →
    verify cfg.keccak256 cfg.curve key message sig = .ok () →
    signed (cfg.keccak256 message)

def NeverDoubleVoted (addr : Address) (signed : Bytes → Prop) : Prop :=
  ∀ att1 att2 : Attestation, att1.validatorAddress = addr → att2.validatorAddress = addr →
    att1.slot = att2.slot → att1.blockHash ≠ att2.blockHash →
    signed (cfg.keccak256 (SlashingEvidence.hashAttestation cfg att1)) →
    ¬ signed (cfg.keccak256 (SlashingEvidence.hashAttestation cfg att2))

def SlashingEvidence.Unproven (addr : Address) (ev : SlashingEvidence) : Prop :=
  match ev.type, ev.evidence with
  | .invalidProposal, some (.invalidProposal (some prop) _ _) => prop.proposer = addr
  | .downtime, some (.downtime _ _ _ _) => ev.validatorAddress = addr
  | .invalidSignature, some (.invalidSignature _ _ _ _) => ev.validatorAddress = addr
  | _, _ => False

def deliver (st : Guarded Engine) (received : SlashingEvidence) : Option (Guarded Engine) :=
  some (Engine.processReceivedSlashingEvidence cfg received st).final

def ProvesAgainst (addr : Address) (st : Guarded Engine) (received : SlashingEvidence) : Prop :=
  let ev := received.identified cfg
  Accepted cfg st.data.world.validators ev → ¬ ev.Unproven addr

structure Spared (addr : Address) (start essence : Essence) : Prop where
  account : readAccount cfg essence.ledger addr = readAccount cfg start.ledger addr
  settled : essence.ledger.SettledAt addr
  validators : essence.validators = start.validators
  jail : ∀ entry, essence.jailedValidators.find? addr = some entry →
    start.jailedValidators.find? addr = some entry

end

def sparing (addr : Address) : Scope where
  victim := (· ≠ addr)
  offence := (·.validatorAddress ≠ addr)
  key := fun _ => True
  evidenceID := fun _ => True

variable {cfg : EngineConfig} {addr : Address} {start essence after : Essence}

theorem Spared.ledger {am : Ledger} (spared : Spared cfg addr start essence)
    (settled : am.SettledAt addr)
    (same : am.accounts.find? addr = essence.ledger.accounts.find? addr) :
    Spared cfg addr start { essence with ledger := am } :=
  { spared with
    account := (settled.readAccount_congr spared.settled same).trans spared.account
    settled := settled }

theorem Spared.effect (spared : Spared cfg addr start essence)
    (effect : Effect cfg (sparing addr) essence after) : Spared cfg addr start after := by
  cases effect with
  | load other => exact spared.ledger (spared.settled.load other) (by rw [load_accounts])
  | @charge victim acc norm raw innocent found updated =>
    have asked : acc.address = victim := readAccount_address found
    have ne : norm.address ≠ addr := by
      rw [updated.sameHoldings.address]
      exact asked ▸ innocent
    refine spared.ledger (((spared.settled.load victim).write ne).store_other ne) ?_
    simp [Ledger.store, Ledger.write, ne]
  | @spoil victim acc norm raw innocent found same refused =>
    have asked : acc.address = victim := readAccount_address found
    have ne : norm.address ≠ addr := by
      rw [same.address]
      exact asked ▸ innocent
    exact spared.ledger ((spared.settled.load victim).write ne) (by simp [Ledger.write])
  | jail jailed victim =>
    have ne : jailed.validatorAddress ≠ addr := victim
    refine { spared with jail := fun entry found => spared.jail entry ?_ }
    simpa [ne] using found
  | release =>
    refine { spared with jail := fun entry found => spared.jail entry ?_ }
    rw [KeyedMap.find?_erase] at found
    split at found
    · cases found
    · exact found
  | mark | remember | touch | track | save => exact { spared with }

section Validation

variable {vals : ValidatorSet} {ev : SlashingEvidence} {att1 att2 : Attestation}

namespace SlashingEvidence

theorem validate_ok {cfg : EvidenceConfig} {now : Int} (valid : ev.validate cfg vals now = .ok ()) :
    ev.id = ev.generateID cfg ∧ ∃ body, ev.evidence = some body ∧
      ev.validateTypeSpecific cfg vals body = .ok () := by
  unfold validate at valid
  split at valid
  · cases valid
  rename_i named
  split at valid
  · cases valid
  split at valid
  · cases valid
  rename_i body given
  split at valid
  · cases valid
  split at valid
  · cases valid
  split at valid
  · cases valid
  · exact ⟨not_not.mp named, body, given, valid⟩

theorem verifySignature_true {cfg : EvidenceConfig} {publicKeyBytes message signature : Bytes}
    (verified : verifySignature cfg publicKeyBytes message signature = true) :
    ∃ key sig, newPublicKeyFromBytes cfg.curve publicKeyBytes = .ok key ∧
      newSignatureFromBytes signature = .ok sig ∧
      verify cfg.keccak256 cfg.curve key message sig = .ok () := by
  unfold verifySignature at verified
  split at verified
  · rename_i key sig parsedKey parsedSig
    split at verified
    · rename_i ok
      exact ⟨key, sig, parsedKey, parsedSig, ok⟩
    · cases verified
  · cases verified

theorem verifyAttestationPair_ok {cfg : EvidenceConfig} {first second : String}
    (verified : verifyAttestationPair cfg vals first second att1 att2 = .ok ()) :
    ∃ entry, vals.find? att1.validatorAddress = some entry ∧
      verifySignature cfg entry.2.pubkey (hashAttestation cfg att1) att1.signature = true ∧
      verifySignature cfg entry.2.pubkey (hashAttestation cfg att2) att2.signature = true := by
  unfold verifyAttestationPair at verified
  split at verified
  · cases verified
  rename_i key val found
  split at verified
  · cases verified
  rename_i firstSigned
  split at verified
  · cases verified
  rename_i secondSigned
  exact ⟨_, found, not_not.mp firstSigned, not_not.mp secondSigned⟩

theorem validateDoubleVoteEvidence_ok {cfg : EvidenceConfig}
    (valid : validateDoubleVoteEvidence cfg vals (.doubleVote (some att1) (some att2)) = .ok ()) :
    att1.validatorAddress = att2.validatorAddress ∧ att1.slot = att2.slot ∧
      att1.blockHash ≠ att2.blockHash ∧
      verifyAttestationPair cfg vals "attestation 1" "attestation 2" att1 att2 = .ok () := by
  simp only [validateDoubleVoteEvidence] at valid
  split at valid
  · cases valid
  rename_i same
  split at valid
  · cases valid
  rename_i together
  split at valid
  · cases valid
  rename_i ne
  exact ⟨not_not.mp same, not_not.mp together, ne, valid⟩

end SlashingEvidence

variable {signed : Bytes → Prop}

theorem not_accused_of_valid (unforgeable : Unforgeable cfg vals addr signed)
    (honest : NeverDoubleVoted cfg addr signed)
    (valid : SlashingEvidence.validateDoubleVoteEvidence cfg vals
      (.doubleVote (some att1) (some att2)) = .ok ()) : att1.validatorAddress ≠ addr := by
  intro accused
  obtain ⟨same, together, ne, pair⟩ := SlashingEvidence.validateDoubleVoteEvidence_ok valid
  obtain ⟨entry, found, first, second⟩ := SlashingEvidence.verifyAttestationPair_ok pair
  rw [accused] at found
  obtain ⟨key, sig, parsed, -, verified⟩ := SlashingEvidence.verifySignature_true first
  obtain ⟨key2, sig2, parsed2, -, verified2⟩ := SlashingEvidence.verifySignature_true second
  exact honest att1 att2 accused (same.symm.trans accused) together ne
    (unforgeable entry found key _ sig parsed verified)
    (unforgeable entry found key2 _ sig2 parsed2 verified2)

theorem sparing_covers (unforgeable : Unforgeable cfg vals addr signed)
    (honest : NeverDoubleVoted cfg addr signed) (ok : Accepted cfg vals ev)
    (proves : ¬ ev.Unproven addr) : (sparing addr).Covers ev := by
  obtain ⟨⟨_, valid⟩, _⟩ := ok
  obtain ⟨_, _, given, checked⟩ := SlashingEvidence.validate_ok valid
  unfold Scope.Covers
  unfold SlashingEvidence.Unproven at proves
  split
  · rename_i att1 att2 type pair
    rw [pair] at given
    cases given
    simp only [SlashingEvidence.validateTypeSpecific, type] at checked
    exact not_accused_of_valid unforgeable honest checked
  · rename_i type claimed
    simp only [type, claimed] at proves
    exact fun _ => proves
  · rename_i type claimed
    simp only [type, claimed] at proves
    exact ⟨proves, fun _ _ => proves, fun _ _ => trivial⟩
  · rename_i type claimed
    simp only [type, claimed] at proves
    exact proves
  · trivial

end Validation

/-- Evidence that proves what it claims leaves a validator alone that has never double voted. -/
theorem honest_validator_spared (cfg : EngineConfig) (addr : Address) (signed : Bytes → Prop)
    (start st : Guarded Engine) (settled : start.data.world.ledger.SettledAt addr)
    (unforgeable : Unforgeable cfg start.data.world.validators addr signed)
    (honest : NeverDoubleVoted cfg addr signed)
    (run : Run (deliver cfg) (ProvesAgainst cfg addr) start st) : balanceOf cfg st.data.world addr =
        balanceOf cfg start.data.world addr ∧
      ∀ entry, st.data.jailedValidators.find? addr = some entry →
        start.data.jailedValidators.find? addr = some entry := by
  have spared : Spared cfg addr start.data.essence st.data.essence := by
    refine run.keeps (fun st => Spared cfg addr start.data.essence st.data.essence)
      ⟨rfl, settled, rfl, fun _ => id⟩ ?_
    intro st received after spared proves made
    cases made
    have tolerates : Tolerates cfg (sparing addr) (Spared cfg addr start.data.essence) :=
      .of_closed (fun _ _ => Spared.effect) (fun _ other => ⟨other, trivial⟩)
        fun _ _ kept => { kept with }
    refine (Engine.processReceivedSlashingEvidence_respects tolerates
      (fun _ _ kept => { kept with }) trivial trivial (fun essence kept ok => ?_) st
      spared).1
    have registered : essence.validators = start.data.world.validators := kept.validators
    have same : st.data.world.validators = start.data.world.validators := spared.validators
    rw [registered] at ok
    exact sparing_covers unforgeable honest ok (proves (same.symm ▸ ok))
  refine ⟨?_, spared.jail⟩
  unfold balanceOf
  rw [show readAccount cfg st.data.world.ledger addr = _ from spared.account]
  rfl

def loneSigner : EngineConfig :=
  { sampleEngineConfig with
    curve := { sampleCurve with
      sigToPub := fun _ _ => .ok ⟨9, 0⟩
      verifySignature := fun _ _ _ => true } }

def accusedNode : Guarded Engine :=
  sampleEngine (sampleChain [sampleAccount 97 [100]]
    [sampleValidator 97 40 1, sampleValidator 99 40 9]) none

theorem accused_unforgeable :
    Unforgeable loneSigner accusedNode.data.world.validators (sampleAddress 97) fun _ => False := by
  intro entry found key message sig parsed verified
  obtain rfl : entry = sampleValidator 97 40 1 := by
    have registered : accusedNode.data.world.validators.find? (sampleAddress 97) =
        some (sampleValidator 97 40 1) := by decide +kernel
    exact Option.some.inj (found.symm.trans registered)
  obtain rfl : key = ⟨1, 0⟩ := by
    have known : newPublicKeyFromBytes loneSigner.curve (sampleValidator 97 40 1).2.pubkey =
        .ok ⟨1, 0⟩ := by decide +kernel
    exact Except.ok.inj (parsed.symm.trans known)
  unfold verify verifyHash at verified
  have recovered : loneSigner.curve.sigToPub = fun _ _ => .ok ⟨9, 0⟩ := rfl
  rw [recovered] at verified
  by_cases length : (loneSigner.keccak256 message).length = 32
  · simp [length, Except.mapError, bind, Except.bind, throw, throwThe, MonadExceptOf.throw]
      at verified
  · simp [length, bind, Except.bind, throw, throwThe, MonadExceptOf.throw] at verified

def baseless (accused : Byte) : SlashingEvidence :=
  let ev := SlashingEvidence.new loneSigner.toEvidenceConfig .downtime (sampleAddress accused)
    (.downtime 10 [1, 2, 3, 4, 5, 6, 7, 8, 9, 10] 0 0) (sampleAddress 99) 1
  { ev with reporterSignature := BigEndian.fixed 32 9 ++ BigEndian.fixed 32 1 ++ [0] }

def slandered (accused : Byte) : Guarded Engine :=
  (Engine.processReceivedSlashingEvidence loneSigner (baseless accused) accusedNode).final

theorem honest_validator_spared_bystander :
    balanceOf loneSigner.toNodeConfig (slandered 98).data.world (sampleAddress 97) =
        balanceOf loneSigner.toNodeConfig accusedNode.data.world (sampleAddress 97) ∧
      ∀ entry, (slandered 98).data.jailedValidators.find? (sampleAddress 97) = some entry →
        accusedNode.data.jailedValidators.find? (sampleAddress 97) = some entry := by
  have settled : accusedNode.data.world.ledger.SettledAt (sampleAddress 97) := nofun
  have run : Run (deliver loneSigner) (ProvesAgainst loneSigner (sampleAddress 97)) accusedNode
      (slandered 98) := by
    refine .call (baseless 98) _ .start (fun _ accused => ?_) rfl
    exact absurd (show sampleAddress 98 = sampleAddress 97 from accused) (by decide)
  exact honest_validator_spared loneSigner (sampleAddress 97) (fun _ => False) accusedNode
    (slandered 98) settled accused_unforgeable (fun _ _ _ _ _ _ signed => signed.elim) run

/-- A validator that has signed nothing at all pays and is jailed on a single report. -/
theorem baseless_evidence_penalises :
    Unforgeable loneSigner accusedNode.data.world.validators (sampleAddress 97) (fun _ => False) ∧
      deliver loneSigner accusedNode (baseless 97) = some (slandered 97) ∧
      balanceOf loneSigner.toNodeConfig accusedNode.data.world (sampleAddress 97) = .ok 100 ∧
      balanceOf loneSigner.toNodeConfig (slandered 97).data.world (sampleAddress 97) = .ok 99 ∧
      accusedNode.data.jailedValidators.find? (sampleAddress 97) = none ∧
      ((slandered 97).data.jailedValidators.find? (sampleAddress 97)).isSome = true :=
  ⟨accused_unforgeable, rfl, by decide +kernel, by decide +kernel, by decide +kernel,
    by decide +kernel⟩

end Thrylos
