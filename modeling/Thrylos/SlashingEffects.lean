import Thrylos.SlashingLemmas

/-!
Everything the slashing code can do to the accounts, the jail and the marks of processed evidence. A
property that survives these effects is kept.
-/

namespace Thrylos

open Guarded (exclusively update Keeps Moves)

structure Essence where
  ledger : Ledger
  validators : ValidatorSet
  height : Int64
  jailedValidators : Jail
  slashingRecords : KeyedMap (Prod.fst : Address × List SlashingRecord → Address)
  processedEvidence : KeySet
  storedEvidence : Option KeySet
  evidenceTracker : LruCache (id : Bytes → Bytes)
  votesByValidator : KeyedMap (Prod.fst : Address × List Vote → Address)
  savedVotes : List Vote
  busy : Bool

def Engine.essence (ce : Engine) : Essence where
  ledger := ce.world.ledger
  validators := ce.world.validators
  height := ce.world.height
  jailedValidators := ce.jailedValidators
  slashingRecords := ce.slashingRecords
  processedEvidence := ce.processedEvidence
  storedEvidence := ce.storage.map (·.processedEvidence)
  evidenceTracker := ce.evidenceTracker
  votesByValidator := ce.votesByValidator
  savedVotes := ce.savedVotes
  busy := ce.busy

namespace Engine

theorem essence_setStatus (addr : Address) (status : ValidatorStatus) (ce : Engine) :
    (ce.setStatus addr status).essence = ce.essence := by
  cases stored : ce.storage <;>
    simp [setStatus, essence, stored, SlashingStorage.saveValidatorStatus]

theorem essence_jail (jailed : JailedValidator) (ce : Engine) :
    (ce.jail jailed).essence = { ce.essence with
      jailedValidators :=
        ce.essence.jailedValidators.insert (jailed.validatorAddress, jailed) } := by
  rw [jail, essence_setStatus]
  cases stored : ce.storage <;> simp [essence, stored, SlashingStorage.saveJailedValidator]

theorem essence_release (addr : Address) (ce : Engine) :
    (ce.release addr).essence = { ce.essence with
      jailedValidators := ce.essence.jailedValidators.erase addr } := by
  rw [release, essence_setStatus]
  cases stored : ce.storage <;> simp [essence, stored, SlashingStorage.deleteJailedValidator]

theorem essence_markProcessed (key : Bytes) (ce : Engine) :
    (ce.markProcessed key).essence = { ce.essence with
      processedEvidence := ce.essence.processedEvidence.insert key
      storedEvidence := ce.essence.storedEvidence.map (·.insert key) } := by
  cases stored : ce.storage <;>
    simp [markProcessed, essence, stored, SlashingStorage.saveProcessedEvidence]

theorem essence_markEvidenceProcessed (evidenceID : Bytes) (ce : Engine) :
    (ce.markEvidenceProcessed evidenceID).essence = { ce.essence with
      evidenceTracker := ce.essence.evidenceTracker.add evidenceID
      storedEvidence := ce.essence.storedEvidence.map (·.insert evidenceID) } := by
  cases stored : ce.storage <;>
    simp [markEvidenceProcessed, track, essence, stored, SlashingStorage.saveProcessedEvidence]

end Engine

structure Scope where
  victim : Address → Prop
  offence : Offence → Prop
  key : Bytes → Prop
  evidenceID : Bytes → Prop

def emptyKey (cfg : EngineConfig) : Bytes :=
  ({} : OffenceEvidence).hash cfg

def Scope.Covers (scope : Scope) (ev : SlashingEvidence) : Prop :=
  match ev.type, ev.evidence with
  | .doubleVoting, some (.doubleVote (some att1) (some att2)) =>
    scope.offence (Manager.doubleVoteOffence att1 att2)
  | .invalidProposal, some (.invalidProposal (some prop) _ _) =>
    ∀ reason, scope.offence (Manager.invalidProposalOffence ⟨prop.proposer, prop.slot,
      prop.epoch, prop.signature⟩ reason)
  | .downtime, some (.downtime _ _ _ _) =>
    scope.victim ev.validatorAddress ∧ (∀ reason history, scope.offence
        (Manager.downtimeOffence ev.validatorAddress reason history)) ∧
      ∀ reason missed, scope.key (Manager.downtimeKey ev.validatorAddress reason missed)
  | .invalidSignature, some (.invalidSignature _ _ _ _) => scope.victim ev.validatorAddress
  | _, _ => True

/-- What `ProcessEvidence` may do with valid evidence. It does not come back from an invalid
proposal. -/
def Scope.CoversSubmission (scope : Scope) (cfg : EngineConfig) (ev : SlashingEvidence) : Prop :=
  scope.key (ev.hash cfg) ∧
  match ev.type, ev.evidence with
  | .doubleVoting, some (.doubleVote (some att1) (some att2)) =>
    scope.offence (Manager.doubleVoteOffence att1 att2)
  | .surroundVoting, some (.surroundVote (some inner) (some outer)) =>
    ∀ reason, scope.offence (Manager.surroundVoteOffence reason inner outer)
  | .invalidProposal, some (.invalidProposal (some _) _ _) => False
  | _, _ => True

def Accepted (cfg : EngineConfig) (vals : ValidatorSet) (ev : SlashingEvidence) : Prop :=
  (∃ now, ev.validate cfg vals now = .ok ()) ∧ Engine.verifyEvidenceSignature cfg vals ev = .ok ()

/-- One change within a scope. A charge that `UpdateAccount` refuses is left in the cache. -/
inductive Effect (cfg : ShardConfig) (scope : Scope) (before : Essence) : Essence → Prop where
  | load (addr : Address) :
      Effect cfg scope before { before with ledger := before.ledger.load addr }
  | charge {addr : Address} {acc norm : Account} (raw : Bytes) (victim : scope.victim addr)
      (found : readAccount cfg before.ledger addr = .ok acc)
      (updated : Updated cfg { acc with balance := raw } norm) :
      Effect cfg scope before { before with
        ledger := ((before.ledger.load addr).write norm).store norm }
  | spoil {addr : Address} {acc norm : Account} (raw : Bytes) (victim : scope.victim addr)
      (found : readAccount cfg before.ledger addr = .ok acc)
      (same : SameHoldings norm { acc with balance := raw })
      (refused : ∀ final, ¬ Updated cfg { acc with balance := raw } final) :
      Effect cfg scope before { before with ledger := (before.ledger.load addr).write norm }
  | jail (jailed : JailedValidator) (victim : scope.victim jailed.validatorAddress) :
      Effect cfg scope before { before with
        jailedValidators := before.jailedValidators.insert (jailed.validatorAddress, jailed) }
  | release (addr : Address) :
      Effect cfg scope before { before with jailedValidators := before.jailedValidators.erase addr }
  | mark (key : Bytes) (marked : scope.key key) :
      Effect cfg scope before { before with
        processedEvidence := before.processedEvidence.insert key
        storedEvidence := before.storedEvidence.map (·.insert key) }
  | remember (key : Bytes) (marked : scope.key key) :
      Effect cfg scope before { before with processedEvidence := before.processedEvidence.insert key }
  | touch (evidenceID : Bytes) :
      Effect cfg scope before { before with
        evidenceTracker := before.evidenceTracker.touch evidenceID }
  | track (evidenceID : Bytes) (tracked : scope.evidenceID evidenceID) :
      Effect cfg scope before { before with evidenceTracker := before.evidenceTracker.add evidenceID }
  | save (evidenceID : Bytes) (saved : scope.evidenceID evidenceID) :
      Effect cfg scope before { before with
        storedEvidence := before.storedEvidence.map (·.insert evidenceID) }

def Closed (cfg : ShardConfig) (scope : Scope) (inv : Essence → Prop) : Prop :=
  ∀ before after, inv before → Effect cfg scope before after → inv after

def everything : Scope := ⟨fun _ => True, fun _ => True, fun _ => True, fun _ => True⟩

abbrev Respects {α : Type} (inv : Essence → Prop) (asks : Bool) (prog : EngineM α) : Prop :=
  Keeps (fun ce => inv ce.essence) asks prog

structure Engine.SameCustody (ce after : Engine) : Prop where
  jail : after.jailedValidators = ce.jailedValidators
  status : after.validatorStatus = ce.validatorStatus
  storage : after.storage = ce.storage

structure Journey (cfg : EngineConfig) (scope : Scope) (pre post : Engine → Prop) : Prop where
  weaken : ∀ ce, pre ce → post ce
  quiet : ∀ ce after, ce.SameCustody after → after.essence = ce.essence → pre ce → pre after
  release : ∀ ce addr entry, ce.jailedValidators.find? addr = some entry → pre ce →
    pre (ce.release addr)
  effect : ∀ ce after, ce.SameCustody after → after.essence = ce.essence ∨
    Effect cfg scope ce.essence after.essence → post ce → post after
  jail : ∀ ce record, scope.victim record.validatorAddress → post ce → post (ce.jail record)
  slash : ∀ ce addr, post ce → post (ce.setStatus addr .slashed)
  mark : ∀ ce key, scope.key key → post ce → post (ce.markProcessed key)

structure Procedure (cfg : EngineConfig) (scope : Scope) (pre post : Engine → Prop) : Prop
    extends Journey cfg scope pre post where
  slashing : ∀ offence timestamp slashedAmount asks, scope.offence offence →
    Keeps post asks (Manager.applySlashing cfg (offence.record timestamp slashedAmount))

section Rules

variable {cfg : EngineConfig} {scope : Scope} {pre post inv : Engine → Prop} {asks : Bool}
  {addr : Address}

theorem naming_isDeadlock (context : String) (halt : Halt String) :
    (naming context halt).isDeadlock = halt.isDeadlock := by
  cases halt <;> rfl

theorem keeps_refuse {α : Type} (err : String) : Keeps inv asks (refuse err : EngineM α) :=
  Keeps.throw rfl

namespace Journey

variable (journey : Journey cfg scope pre post)
include journey

theorem still {change : Engine → Engine} (custody : ∀ ce : Engine, ce.SameCustody (change ce))
    (same : ∀ ce, (change ce).essence = ce.essence) : Keeps post asks (update change : EngineM Unit) :=
  Keeps.update fun ce => journey.effect _ _ (custody ce) (.inl (same ce))

theorem clock : Keeps post asks (clock cfg) := fun st holds =>
  ⟨journey.effect st.data _ ⟨rfl, rfl, rfl⟩ (.inl rfl) holds, fun _ => ⟨rfl, rfl⟩⟩

theorem clockEarly : Keeps pre asks (Thrylos.clock cfg) := fun st holds =>
  ⟨journey.quiet st.data _ ⟨rfl, rfl, rfl⟩ rfl holds, fun _ => ⟨rfl, rfl⟩⟩

theorem onWorld {α : Type} {prog : WorldM α}
    (moves : ∀ ce : Engine, { ce with world := (prog ce.world).final }.essence = ce.essence ∨
      Effect cfg scope ce.essence { ce with world := (prog ce.world).final }.essence) :
    Keeps post asks (onWorld prog) := by
  intro st holds
  have reached := journey.effect st.data { st.data with world := (prog st.data.world).final }
    ⟨rfl, rfl, rfl⟩ (moves st.data) holds
  unfold Thrylos.onWorld
  cases ran : prog st.data.world with
  | ok value ws | error err ws =>
    rw [ran] at reached
    exact ⟨reached, fun _ => ⟨rfl, rfl⟩⟩

theorem getBalance : Keeps post asks (Thrylos.onWorld (getBalance cfg addr)) :=
  journey.onWorld fun ce => by
    rcases getBalance_final cfg addr ce.world with same | loaded
    · rw [same]
      exact .inl rfl
    · rw [loaded]
      exact .inr (.load addr)

theorem getAccount : Keeps post asks (Thrylos.onWorld (onLedger (getAccount cfg addr))) :=
  journey.onWorld fun ce => by
    cases answer : readAccount cfg ce.world.ledger addr with
    | ok =>
      rw [onLedger_ok (getAccount_ok answer)]
      exact .inr (.load addr)
    | error =>
      rw [onLedger_error (getAccount_error answer)]
      exact .inl rfl

theorem updateBalance (victim : scope.victim addr) (newBalance : Nat) :
    Keeps post asks (Thrylos.onWorld (updateBalance cfg addr newBalance)) :=
  journey.onWorld fun ce => by
    rcases updateBalance_cases cfg addr newBalance ce.world with
      ⟨err, _, failed⟩ | ⟨acc, norm, found, updated, done⟩ |
      ⟨acc, norm, err, found, same, refused, failed⟩
    · rw [failed]
      exact .inl rfl
    · rw [done]
      exact .inr (.charge _ victim found updated)
    · rw [failed]
      exact .inr (.spoil _ victim found same refused)

theorem validatorBalance : Keeps post asks (Manager.validatorBalance cfg addr) :=
  journey.getBalance.adaptExcept (naming_isDeadlock _)

theorem jailValidator (victim : scope.victim addr) (reason : SlashingCondition) :
    Keeps post asks (Manager.jailValidator cfg addr reason) :=
  journey.clock.bind fun _ => Keeps.update fun ce => journey.jail ce _ victim

theorem isValidatorJailed : Keeps pre asks (Manager.isValidatorJailed cfg addr) := by
  refine Moves.bind_read fun ce holds => ?_
  split
  · exact fun _ same => ⟨same ▸ holds, fun _ => ⟨rfl, rfl⟩⟩
  rename_i found
  have ticked : Moves (· = ce) (fun after => pre after ∧ after.jailedValidators = ce.jailedValidators)
      asks (Thrylos.clock cfg) := by
    rintro st rfl
    exact ⟨⟨journey.quiet st.data _ ⟨rfl, rfl, rfl⟩ rfl holds, rfl⟩, fun _ => ⟨rfl, rfl⟩⟩
  refine ticked.bind (fun _ kept => kept.1) fun now => ?_
  split
  · refine Moves.bind (Moves.update fun after kept => ?_) (fun _ => id) fun _ => Keeps.pure _
    exact journey.release _ _ _ (kept.2 ▸ found) kept.1
  · exact fun _ kept => ⟨kept.1, fun _ => ⟨rfl, rfl⟩⟩

theorem isValidatorActive : Moves pre post asks (Manager.isValidatorActive cfg addr) := by
  refine Moves.bind journey.isValidatorJailed journey.weaken fun jailed => .late journey.weaken ?_
  split
  · exact Keeps.pure _
  have logged : Keeps post asks (Manager.logBalance cfg addr) := by
    unfold Manager.logBalance
    split
    · exact journey.getBalance.attempt.bind fun _ => Keeps.pure _
    · exact Keeps.pure _
  refine Keeps.bind_read fun ce _ => ?_
  split
  · exact Keeps.pure _
  · exact Keeps.pure _
  · exact Keeps.pure _
  · exact logged.bind fun _ => Keeps.pure _
  · exact logged.bind fun _ => Keeps.pure _

theorem demote (newBalance : Nat) :
    Keeps post asks (update (Manager.demote cfg addr newBalance) : EngineM Unit) :=
  Keeps.update fun ce holds => by
    unfold Manager.demote
    split
    · exact journey.slash ce addr holds
    · exact holds

variable {record : SlashingRecord}

theorem jailIfSevere (victim : scope.victim record.validatorAddress) :
    Keeps post asks (Manager.jailIfSevere cfg record) := by
  unfold Manager.jailIfSevere
  split
  · exact journey.jailValidator victim _
  · exact Keeps.pure _

theorem applySlashing (victim : scope.victim record.validatorAddress)
    (marked : scope.key (record.evidence.hash cfg))
    (recorded : ∀ ce, post ce → post (Manager.appendRecord record ce)) :
    Keeps post asks (Manager.applySlashing cfg record) := by
  refine Keeps.bind_read fun ce _ => ?_
  split
  · exact keeps_refuse _
  refine (Keeps.update fun ce => journey.mark ce _ marked).bind fun _ => ?_
  refine journey.validatorBalance.bind fun bal => ?_
  refine ((journey.updateBalance victim _).adaptExcept (naming_isDeadlock _)).bind fun _ => ?_
  refine (journey.jailIfSevere victim).bind fun _ => ?_
  exact (journey.demote _).bind fun _ => Keeps.update recorded

end Journey

theorem keeps_penaltyOf (bal : Nat) (percent : Int) :
    Keeps inv asks (Manager.penaltyOf bal percent) := by
  unfold Manager.penaltyOf
  split
  · exact keeps_refuse _
  · exact Keeps.pure _

namespace Procedure

variable (procedure : Procedure cfg scope pre post) {percent : Int} {offence : Offence}
  {reason : String} {ev : SlashingEvidence}
include procedure

theorem penalise (allowed : scope.offence offence) :
    Keeps post asks (Manager.penalise cfg percent offence) :=
  procedure.validatorBalance.bind fun bal => (keeps_penaltyOf bal percent).bind fun _ =>
    procedure.clock.bind fun _ => procedure.slashing offence _ _ _ allowed

theorem slashOnce (allowed : scope.offence offence) :
    Keeps post asks (Manager.slashOnce cfg percent offence) := by
  refine Keeps.bind_read fun ce _ => ?_
  split
  · exact keeps_refuse _
  · exact procedure.penalise allowed

theorem applyDoubleVoteSlashingLocked {att1 att2 : Option Attestation}
    (allowed : ∀ first ∈ att1, ∀ second ∈ att2,
      scope.offence (Manager.doubleVoteOffence first second)) :
    Keeps post asks (Manager.applyDoubleVoteSlashingLocked cfg att1 att2) := by
  unfold Manager.applyDoubleVoteSlashingLocked
  split
  · split
    · exact keeps_refuse _
    · exact procedure.slashOnce (allowed _ rfl _ rfl)
  · exact keeps_refuse _

theorem applySurroundVoteAttestationEvidenceLocked {inner outer : Option Attestation}
    (allowed : ∀ innerAtt ∈ inner, ∀ outerAtt ∈ outer,
      scope.offence (Manager.surroundVoteOffence reason innerAtt outerAtt)) : Keeps post asks
      (Manager.applySurroundVoteAttestationEvidenceLocked cfg reason inner outer) := by
  unfold Manager.applySurroundVoteAttestationEvidenceLocked
  split
  · split
    · exact keeps_refuse _
    · exact procedure.slashOnce (allowed _ rfl _ rfl)
  · exact keeps_refuse _

theorem applySurroundVoteSlashing {inner outer : Option Vote} (allowed : ∀ reason innerAtt outerAtt,
      scope.offence (Manager.surroundVoteOffence reason innerAtt outerAtt)) :
    Keeps post true (Manager.applySurroundVoteSlashing cfg inner outer) := by
  refine Keeps.exclusively ?_
  split
  · split
    · exact keeps_refuse _
    split
    · exact keeps_refuse _
    · have rebuilt (vote : Vote) : Keeps post false (Manager.attestationOfVote cfg vote) :=
        procedure.clock.bind fun _ => Keeps.pure _
      exact (rebuilt _).bind fun innerAtt => (rebuilt _).bind fun outerAtt =>
        procedure.applySurroundVoteAttestationEvidenceLocked fun _ _ _ _ => allowed _ _ _
  · exact keeps_refuse _

theorem processAttestation (att : Attestation) :
    Moves pre post true (Manager.processAttestation cfg att) := by
  have recorded (record : AttestationRecord) :
      Keeps post false (update (Manager.recordAttestation record) : EngineM Unit) :=
    procedure.still (fun _ => ⟨rfl, rfl, rfl⟩) fun _ => rfl
  refine Moves.exclusively procedure.weaken
    (Moves.bind procedure.clockEarly procedure.weaken fun now => ?_)
  split
  · exact .late procedure.weaken (Keeps.pure _)
  refine Moves.bind_read fun ce holds => ?_
  have early : ∀ data, data = ce → pre data := fun _ same => same ▸ holds
  refine .late early ?_
  split
  · exact .late procedure.weaken (Keeps.pure _)
  refine Moves.bind procedure.isValidatorJailed procedure.weaken fun jailed =>
    .late procedure.weaken ?_
  split
  · exact Keeps.pure _
  · refine procedure.clock.bind fun timestamp => Keeps.bind_read fun ce _ => ?_
    split
    · exact Keeps.pure _
    · exact (recorded _).bind fun _ => Keeps.pure _

theorem lenientBalance : Keeps post asks (Manager.lenientBalance cfg addr) := by
  refine procedure.getAccount.attempt.bind fun answer => ?_
  split
  · exact Keeps.pure _
  · split <;> exact Keeps.pure _

theorem slashValidator {history : AttestationHistory}
    (allowed : scope.offence (Manager.downtimeOffence addr reason history))
    (remembered : scope.key (Manager.downtimeKey addr reason history.missedSlots)) :
    Keeps post asks (Manager.slashValidator cfg addr percent reason history) := by
  refine Keeps.bind_read fun ce _ => ?_
  split
  · exact Keeps.pure _
  refine procedure.lenientBalance.bind fun bal => ?_
  split
  · exact Keeps.pure _
  split
  · exact Keeps.pure _
  rename_i penalty _
  refine procedure.clock.bind fun timestamp => ?_
  have applied := procedure.slashing _ timestamp penalty asks allowed
  refine applied.attempt.bind fun outcome => ?_
  split
  · exact Keeps.pure _
  · exact Keeps.update fun ce =>
      procedure.effect _ _ ⟨rfl, rfl, rfl⟩ (.inr (.remember _ remembered))

theorem reportMissedAttestation (victim : scope.victim addr)
    (allowed : ∀ reason history, scope.offence (Manager.downtimeOffence addr reason history))
    (remembered : ∀ reason missed, scope.key (Manager.downtimeKey addr reason missed))
    (slot : UInt64) : Moves pre post true (Manager.reportMissedAttestation cfg addr slot) := by
  have punished {percent : Int} {reason : String} {history : AttestationHistory} :
      Keeps post false (Manager.slashValidator cfg addr percent reason history) :=
    procedure.slashValidator (allowed _ _) (remembered _ _)
  refine Moves.exclusively procedure.weaken (Moves.bind_read fun ce holds => ?_)
  refine Moves.bind (Moves.update ?_) procedure.weaken fun _ => ?_
  · rintro after rfl
    exact procedure.quiet after _ ⟨rfl, rfl, rfl⟩ rfl holds
  unfold Manager.punishDowntime
  dsimp only
  split
  · exact .late procedure.weaken
      ((Keeps.update fun ce => procedure.slash ce addr).bind fun _ => punished)
  split
  · refine Moves.bind procedure.isValidatorJailed procedure.weaken fun jailed =>
      .late procedure.weaken ?_
    split
    · exact Keeps.pure _
    · exact (procedure.jailValidator victim _).bind fun _ => punished
  refine .late procedure.weaken ?_
  split
  · exact punished
  split
  · exact punished
  · exact Keeps.pure _

theorem reportInvalidProposal {prop : ReportedProposal}
    (allowed : scope.offence (Manager.invalidProposalOffence prop reason)) :
    Keeps post true (Manager.reportInvalidProposal cfg prop reason) := by
  refine Keeps.exclusively (Keeps.bind_read fun ce _ => ?_)
  split
  · exact Keeps.pure _
  · exact procedure.penalise allowed

theorem setReporter (stats : ReporterStats) :
    Keeps post asks (update (Manager.setReporter addr stats) : EngineM Unit) :=
  procedure.still (fun _ => ⟨rfl, rfl, rfl⟩) fun _ => rfl

theorem checkReporter : Keeps post asks (Manager.checkReporter cfg addr) := by
  refine procedure.clock.bind fun now => Keeps.bind_read fun ce _ => ?_
  refine (procedure.setReporter _).bind fun _ => ?_
  split
  · exact keeps_refuse _
  refine (procedure.setReporter _).bind fun _ => ?_
  split
  · exact keeps_refuse _
  split
  · exact keeps_refuse _
  · exact procedure.setReporter _

theorem recordRejection : Keeps post asks (Manager.recordRejection cfg addr) := by
  refine Keeps.bind_read fun ce _ => ?_
  split
  · exact Keeps.pure _
  · refine (procedure.setReporter _).bind fun _ => ?_
    split
    · exact procedure.clock.bind fun _ => procedure.setReporter _
    · exact Keeps.pure _

theorem checkCooldown (type : SlashingEvidenceType) :
    Keeps post asks (Manager.checkCooldown cfg addr type) := by
  refine Keeps.bind_read fun ce _ => ?_
  split
  · exact Keeps.pure _
  · refine procedure.clock.bind fun now => ?_
    dsimp only
    split
    · exact keeps_refuse _
    · exact Keeps.pure _

theorem addConfirmation : Keeps post asks (Manager.addConfirmation cfg ev addr) := by
  have set (evidenceID : Bytes) (pending : PendingEvidence) :
      Keeps post asks (update (Manager.setPending evidenceID pending) : EngineM Unit) :=
    procedure.still (fun _ => ⟨rfl, rfl, rfl⟩) fun _ => rfl
  have dropped (evidenceID : Bytes) :
      Keeps post asks (update (Manager.dropPending evidenceID) : EngineM Unit) :=
    procedure.still (fun _ => ⟨rfl, rfl, rfl⟩) fun _ => rfl
  refine procedure.clock.bind fun now => Keeps.bind_read fun ce _ => ?_
  dsimp only
  refine (set _ _).bind fun _ => ?_
  split
  · exact (dropped _).bind fun _ => keeps_refuse _
  split
  · exact keeps_refuse _
  split
  · exact (dropped _).bind fun _ => Keeps.pure _
  · exact (set _ _).bind fun _ => Keeps.pure _

theorem recordAcceptance :
    Keeps post asks (update (Manager.recordAcceptance addr) : EngineM Unit) := by
  refine procedure.still (fun ce => ?_) fun ce => ?_
  · unfold Manager.recordAcceptance
    split <;> exact ⟨rfl, rfl, rfl⟩
  · unfold Manager.recordAcceptance
    split <;> rfl

theorem recordSlashing (type : SlashingEvidenceType) :
    Keeps post asks (Manager.recordSlashing cfg addr type) :=
  procedure.clock.bind fun _ => procedure.still (fun _ => ⟨rfl, rfl, rfl⟩) fun _ => rfl

theorem executeEvidence (covered : scope.CoversSubmission cfg ev) :
    Keeps post asks (Manager.executeEvidence cfg ev) := by
  have covered := covered.2
  unfold Manager.executeEvidence
  split
  · rename_i type body
    refine procedure.applyDoubleVoteSlashingLocked ?_
    rintro first ⟨⟩ second ⟨⟩
    simpa only [type, body] using covered
  · exact keeps_refuse _
  · rename_i type body
    refine procedure.applySurroundVoteAttestationEvidenceLocked ?_
    rintro inner ⟨⟩ outer ⟨⟩
    simp only [type, body] at covered
    exact covered _
  · exact keeps_refuse _
  · rename_i type body
    simp only [type, body] at covered
  · exact Keeps.throw rfl
  · exact keeps_refuse _
  · exact keeps_refuse _

theorem processValidEvidence (marked : scope.key (ev.hash cfg))
    (execute : Keeps post asks (Manager.executeEvidence cfg ev)) :
    Keeps post asks (Manager.processValidEvidence cfg ev) := by
  refine Keeps.bind_read fun ce _ => ?_
  split
  · exact keeps_refuse _
  refine (procedure.checkCooldown _).bind fun _ => procedure.addConfirmation.bind fun enough => ?_
  split
  · refine (Keeps.update fun ce => procedure.mark ce _ marked).bind fun _ => ?_
    exact procedure.recordAcceptance.bind fun _ => execute.bind fun _ => procedure.recordSlashing _
  · exact Keeps.pure _

theorem processEvidence_locked {received : SlashingEvidence} (execute : ∀ ce now, post ce →
      (received.identified cfg).validate cfg ce.world.validators now = .ok () →
      scope.key ((received.identified cfg).hash cfg) ∧
        Keeps post asks (Manager.executeEvidence cfg (received.identified cfg))) :
    ∃ body, Manager.processEvidence cfg received = exclusively body ∧ Keeps post asks body := by
  refine ⟨_, rfl, Keeps.bind_read fun ce _ => ?_⟩
  split
  · exact Keeps.pure _
  refine (procedure.checkReporter.adaptExcept (naming_isDeadlock _)).bind fun _ => ?_
  refine (procedure.clock.bind fun _ => Keeps.pure _).bind fun now =>
    Keeps.bind_read fun ce holds => ?_
  split
  · exact procedure.recordRejection.bind fun _ => keeps_refuse _
  · rename_i valid
    obtain ⟨marked, executed⟩ := execute _ now holds valid
    exact procedure.processValidEvidence marked executed

theorem processEvidence {received : SlashingEvidence} (covered : ∀ ce now, post ce →
      (received.identified cfg).validate cfg ce.world.validators now = .ok () →
      scope.CoversSubmission cfg (received.identified cfg)) :
    Keeps post true (Manager.processEvidence cfg received) := by
  obtain ⟨body, same, kept⟩ := procedure.processEvidence_locked fun ce now holds valid =>
    have within := covered ce now holds valid
    ⟨within.1, procedure.executeEvidence within⟩
  exact same ▸ Keeps.exclusively kept

end Procedure

end Rules

structure Tolerates (cfg : EngineConfig) (scope : Scope) (inv : Essence → Prop) : Prop where
  closed : Closed cfg scope inv
  slashing : ∀ offence timestamp slashedAmount asks, scope.offence offence →
    Respects inv asks (Manager.applySlashing cfg (offence.record timestamp slashedAmount))

section Tolerance

variable {cfg : EngineConfig} {scope : Scope} {inv : Essence → Prop}

theorem Closed.journey (closed : Closed cfg scope inv) :
    Journey cfg scope (fun ce => inv ce.essence) fun ce => inv ce.essence where
  weaken _ := id
  quiet _ _ _ same holds := same ▸ holds
  release ce addr _ _ holds := by
    rw [Engine.essence_release]
    exact closed _ _ holds (.release addr)
  effect _ _ _ moved holds := by
    rcases moved with same | effect
    · exact same ▸ holds
    · exact closed _ _ holds effect
  jail ce record victim holds := by
    rw [Engine.essence_jail]
    exact closed _ _ holds (.jail record victim)
  slash ce addr holds := (ce.essence_setStatus addr .slashed).symm ▸ holds
  mark ce key marked holds := by
    rw [Engine.essence_markProcessed]
    exact closed _ _ holds (.mark key marked)

theorem Closed.busy (closed : Closed cfg scope inv) (busy : Bool) :
    Closed cfg scope fun essence => inv essence ∧ essence.busy = busy := by
  rintro before after ⟨holds, same⟩ effect
  refine ⟨closed before after holds effect, ?_⟩
  cases effect <;> exact same

namespace Tolerates

theorem of_closed (closed : Closed cfg scope inv)
    (within : ∀ offence, scope.offence offence → scope.victim offence.validatorAddress ∧
      scope.key (offence.evidence.hash cfg))
    (unrecorded : ∀ essence slashingRecords, inv essence → inv { essence with slashingRecords }) :
    Tolerates cfg scope inv where
  closed := closed
  slashing offence _ _ _ allowed :=
    have inside := within offence allowed
    closed.journey.applySlashing inside.1 inside.2 fun ce => unrecorded ce.essence _

theorem procedure (tolerates : Tolerates cfg scope inv) :
    Procedure cfg scope (fun ce => inv ce.essence) fun ce => inv ce.essence :=
  { tolerates.closed.journey with slashing := tolerates.slashing }

theorem busy (tolerates : Tolerates cfg scope inv) (busy : Bool) :
    Tolerates cfg scope fun essence => inv essence ∧ essence.busy = busy where
  closed := tolerates.closed.busy busy
  slashing offence timestamp slashedAmount asks allowed := by
    have steady : Closed cfg everything fun essence => essence.busy = busy := by
      intro before after same effect
      cases effect <;> exact same
    exact Moves.and (tolerates.slashing offence timestamp slashedAmount asks allowed)
      (steady.journey.applySlashing trivial trivial fun _ => id)

end Tolerates

end Tolerance

def Idle (st : Guarded Engine) : Prop := st.held = false ∧ st.data.busy = false

namespace Engine

section

variable {cfg : EngineConfig} {scope : Scope} {inv : Essence → Prop} {asks : Bool}
  {addr : Address} (tolerates : Tolerates cfg scope inv)
include tolerates

omit tolerates in
theorem respects_dereference {α β : Type} {part : Option α} {next : α → EngineM β}
    (rest : ∀ value, part = some value → Respects inv asks (next value)) :
    Respects inv asks (dereference part >>= next) := by
  cases part with
  | some value => exact rest value rfl
  | none => exact fun _ holds => ⟨holds, fun _ => ⟨rfl, rfl⟩⟩

theorem respects_slashInvalidSignature (victim : scope.victim addr) :
    Respects inv asks (slashInvalidSignature cfg addr) :=
  tolerates.procedure.validatorBalance.bind fun bal => (keeps_penaltyOf bal _).bind fun _ =>
    (tolerates.procedure.updateBalance victim _).adaptExcept (naming_isDeadlock _)

variable {ev : SlashingEvidence}

theorem respects_applySlashing
    (covered : scope.Covers ev) : Respects inv true (applySlashing cfg ev) := by
  unfold applySlashing
  split
  · rename_i type body
    refine (Keeps.exclusively (tolerates.procedure.applyDoubleVoteSlashingLocked
      ?_)).adaptExcept (naming_isDeadlock _)
    rintro first ⟨⟩ second ⟨⟩
    simpa only [Scope.Covers, type, body] using covered
  · exact keeps_refuse _
  · refine respects_dereference fun inner _ => ?_
    refine Keeps.bind (tolerates.procedure.processAttestation inner) fun _ => ?_
    refine respects_dereference fun outer _ => ?_
    exact Keeps.bind (tolerates.procedure.processAttestation outer) fun _ => Keeps.pure _
  · exact keeps_refuse _
  · rename_i prop validationErrors _ type body
    refine respects_dereference fun given found => ?_
    subst found
    simp only [Scope.Covers, type, body] at covered
    exact tolerates.procedure.reportInvalidProposal (covered _)
  · exact keeps_refuse _
  · rename_i type body
    simp only [Scope.Covers, type, body] at covered
    exact Keeps.forM (fun slot => tolerates.procedure.reportMissedAttestation covered.1
      covered.2.1 covered.2.2 slot) _
  · exact keeps_refuse _
  · rename_i type body
    simp only [Scope.Covers, type, body] at covered
    exact respects_slashInvalidSignature tolerates covered
  · exact keeps_refuse _
  · exact keeps_refuse _

theorem respects_isEvidenceProcessed {evidenceID : Bytes} (tracked : scope.evidenceID evidenceID) :
    Respects inv asks (isEvidenceProcessed evidenceID) := by
  refine Keeps.bind_read fun ce _ => ?_
  have touched : Respects inv asks (update (touchEvidence evidenceID)) :=
    Keeps.update fun _ holds => tolerates.closed _ _ holds (.touch evidenceID)
  have added : Respects inv asks (update (track evidenceID)) :=
    Keeps.update fun _ holds => tolerates.closed _ _ holds (.track evidenceID tracked)
  refine touched.bind fun _ => ?_
  split
  · exact Keeps.pure _
  split
  · exact added.bind fun _ => Keeps.pure _
  · exact Keeps.pure _

theorem respects_processNewEvidence (tracked : scope.evidenceID ev.id)
    (covered : ∀ essence, inv essence → Accepted cfg essence.validators ev → scope.Covers ev) :
    Respects inv true (processNewEvidence cfg ev) := by
  have added : Respects inv true (update (track ev.id)) :=
    Keeps.update fun _ holds => tolerates.closed _ _ holds (.track ev.id tracked)
  have marked : Respects inv true (update (markEvidenceProcessed ev.id)) :=
    Keeps.update fun ce holds => by
      rw [essence_markEvidenceProcessed]
      exact tolerates.closed _ _ (tolerates.closed _ _ holds (.track ev.id tracked)) (.save ev.id tracked)
  refine (tolerates.procedure.clock.bind fun _ => Keeps.pure _).bind fun now =>
    Keeps.bind_read fun ce holds => ?_
  dsimp only
  split
  · exact keeps_refuse _
  rename_i valid
  split
  · exact added.bind fun _ => keeps_refuse _
  · rename_i signed
    have respected := respects_applySlashing tolerates (covered ce.essence holds
      ⟨⟨now, valid⟩, signed⟩)
    exact marked.bind fun _ => respected.attempt.bind fun _ => Keeps.pure _

omit tolerates in
theorem locked_respects {prog : EngineM PUnit}
    (blind : ∀ essence busy, inv essence → inv { essence with busy })
    (respects : Respects (fun essence => inv essence ∧ essence.busy = true) true prog)
    (st : Guarded Engine) (holds : inv st.data.essence) :
    inv (locked prog st).final.data.essence ∧ (Idle st → Idle (locked prog st).final) := by
  unfold locked
  split
  · rename_i busy
    exact ⟨holds, fun idle => absurd (busy.symm.trans idle.2) (by decide)⟩
  obtain ⟨⟨reached, -⟩, orderly⟩ := respects { st with data := { st.data with busy := true } }
    ⟨blind _ true holds, rfl⟩
  cases ran : prog { st with data := { st.data with busy := true } } with
  | ok =>
    rw [ran] at reached orderly
    refine ⟨blind _ false reached, fun idle => ⟨?_, rfl⟩⟩
    exact (orderly fun _ => idle.1).2.trans idle.1
  | error halt =>
    rw [ran] at reached orderly
    refine ⟨blind _ halt.isDeadlock reached, fun idle => ?_⟩
    obtain ⟨awake, kept⟩ := orderly fun _ => idle.1
    exact ⟨kept.trans idle.1, awake⟩

theorem processReceivedSlashingEvidence_respects {received : SlashingEvidence}
    (blind : ∀ essence busy, inv essence → inv { essence with busy })
    (asked : scope.evidenceID received.id) (tracked : scope.evidenceID (received.identified cfg).id)
    (covered : ∀ essence, inv essence → Accepted cfg essence.validators (received.identified cfg) →
      scope.Covers (received.identified cfg)) (st : Guarded Engine) (holds : inv st.data.essence) :
    let after := (processReceivedSlashingEvidence cfg received st).final
    inv after.data.essence ∧ (Idle st → Idle after) := by
  refine locked_respects blind ?_ st holds
  have tolerates := tolerates.busy true
  refine (respects_isEvidenceProcessed tolerates asked).bind fun processed => ?_
  split
  · exact Keeps.pure _
  · exact respects_processNewEvidence tolerates tracked fun essence kept => covered essence kept.1

end

end Engine

end Thrylos
