import Thrylos.Consistency
import Thrylos.Finality
import Thrylos.OffencePenalties
import Thrylos.SyncManager
import Thrylos.ValidatorManager

/-!
Calls that wait for a lock they hold. Each of six public operations has a path on which a function
that takes a lock calls another that takes the same one.
-/

namespace Thrylos

open Guarded (Keeps stuck stuck_exclusively wp wp_pure wp_read wp_update wp_bind)

section Quorum

variable {σ : Type} {cfg : ForkChoiceConfig σ} {att : Attestation} {fc : ForkChoice σ}

structure ReachesQuorum (cfg : ForkChoiceConfig σ) (att : Attestation)
    (fc : ForkChoice σ) : Prop where
  cleared : clears cfg att fc.slashing = true
  voter : ∃ val, cfg.worldState.getValidator att.validatorAddress = some val ∧
    val.active = true ∧ quorumThreshold (activeStake cfg fc) ≤
      ForkChoice.score fc.blockScores att.blockHash + parseBigInt val.stake
  consistent : Consistent fc att
  absent : att.validatorAddress ∉ attestersOf fc att.blockHash
  storable : Storable cfg att fc

theorem activeStake_eq {left right : ForkChoice σ} (same : left.untallied = right.untallied) :
    activeStake cfg left = activeStake cfg right := by
  have kept := congrArg (activeStake cfg) same
  exact kept

structure Crashes (cfg : ForkChoiceConfig σ) (att : Attestation) (fc : ForkChoice σ) : Prop where
  cleared : clears cfg att fc.slashing = true
  voter : ∃ val, cfg.worldState.getValidator att.validatorAddress = some val ∧ val.active = true
  fault : (∃ prevVote, (latestVotes fc att.epoch).find? att.validatorAddress =
      some (att.validatorAddress, prevVote) ∧ prevVote ≠ att.blockHash ∧
      TooShort att prevVote) ∨
    (Consistent fc att ∧ att.validatorAddress ∉ attestersOf fc att.blockHash ∧
      ¬ Storable cfg att fc)

theorem wp_countAttestation_quorum (answers : unanswered cfg att fc.slashing = false)
    (reports : ∀ prevVote asked, asked.slashing = judged cfg att fc.slashing →
      unreported cfg att prevVote asked = false) : wp (countAttestation cfg att)
      (fun _ _ => ¬ ReachesQuorum cfg att fc ∧ ¬ Crashes cfg att fc)
      (fun halt _ => (halt.isDeadlock = true ∧ ReachesQuorum cfg att fc) ∨
        (halt.isDeadlock = false ∧ ¬ ReachesQuorum cfg att fc ∧ Crashes cfg att fc)) fc := by
  refine wp_bind (wp_passesSlashing ?_ fun silent => ?_)
  swap
  · rw [answers] at silent
    cases silent
  split
  · rename_i refused
    exact wp_pure ⟨fun reaches => refused reaches.cleared, fun crash => refused crash.cleared⟩
  rename_i cleared
  have cleared := not_not.mp cleared
  cases registered : cfg.worldState.getValidator att.validatorAddress with
  | none =>
    refine wp_pure ⟨fun reaches => ?_, fun crash => ?_⟩
    · obtain ⟨val, found, -⟩ := reaches.voter
      exact absurd (registered.symm.trans found) (by simp)
    · obtain ⟨val, found, -⟩ := crash.voter
      exact absurd (registered.symm.trans found) (by simp)
  | some val =>
  have same : ∀ {other}, cfg.worldState.getValidator att.validatorAddress =
      some other → other = val := fun found => Option.some.inj (found.symm.trans registered)
  by_cases active : val.active = true
  swap
  · simp only [active]
    refine wp_pure ⟨fun reaches => ?_, fun crash => ?_⟩
    · obtain ⟨_, found, works, -⟩ := reaches.voter
      exact active (same found ▸ works)
    · obtain ⟨_, found, works⟩ := crash.voter
      exact active (same found ▸ works)
  simp only [active, not_true_eq_false, if_false]
  have voter : ∃ val, cfg.worldState.getValidator att.validatorAddress =
      some val ∧ val.active = true := ⟨val, registered, active⟩
  refine wp_bind (wp_trackLatestMessage (fun consistent => ?_)
    fun prevVote found ne => ⟨fun long => wp_pure ?_, fun silent => ?_, fun short _ _ => ?_⟩)
  · refine wp_bind (wp_markAttested (fun mem => ?_) fun absent => ?_)
    · refine wp_pure ⟨fun reaches => reaches.absent mem, fun crash => ?_⟩
      rcases crash.fault with ⟨prevVote, found, ne, -⟩ | ⟨-, absent, -⟩
      · exact ne (consistent _ found)
      · exact absent mem
    · refine wp_bind (wp_storeAttestation (fun storable attestationsByBlock => ?_)
        fun crowded _ _ => Or.inr ⟨rfl, fun reaches => crowded reaches.storable,
          ⟨cleared, voter, Or.inr ⟨consistent, absent, crowded⟩⟩⟩)
      refine wp_bind (wp_read (wp_bind (wp_update (wp_bind (wp_update ?_)))))
      have total : activeStake cfg (counted cfg att
          (parseBigInt val.stake) attestationsByBlock
          { fc with slashing := judged cfg att fc.slashing }) = activeStake cfg fc :=
        (activeStake_eq (counted_untallied att _ _ _)).trans rfl
      refine wp_checkQuorum (fun below _ _ => ⟨fun reaches => ?_, fun crash => ?_⟩)
        fun reached _ _ => ?_
      · obtain ⟨_, found, -, quorum⟩ := reaches.voter
        obtain rfl := same found
        exact absurd (below.trans_eq (congrArg quorumThreshold total)) (not_lt.mpr quorum)
      · rcases crash.fault with ⟨prevVote, found, ne, -⟩ | ⟨-, -, crowded⟩
        · exact ne (consistent _ found)
        · exact crowded storable
      · have quorum := (congrArg quorumThreshold total).symm.trans_le reached
        exact Or.inl ⟨rfl,
          ⟨cleared, ⟨val, registered, active, quorum⟩, consistent, absent, storable⟩⟩
  · refine ⟨fun reaches => ne (reaches.consistent _ found), fun crash => ?_⟩
    rcases crash.fault with ⟨_, found', -, short⟩ | ⟨consistent, -⟩
    · cases found.symm.trans found'
      exact long short
    · exact ne (consistent _ found)
  · rw [reports prevVote _ rfl] at silent
    cases silent
  · exact Or.inr ⟨rfl, fun reaches => ne (reaches.consistent _ found),
      ⟨cleared, voter, Or.inl ⟨prevVote, found, ne, short⟩⟩⟩

end Quorum

def unconstrained (_ : Essence) : Prop := True

theorem tolerates_everything (cfg : EngineConfig) : Tolerates cfg everything unconstrained :=
  .of_closed (fun _ _ _ _ => trivial) (fun _ _ => ⟨trivial, trivial⟩) fun _ _ _ => trivial

section Wiring

variable (cfg : EngineConfig) (forkChoice : ForkChoiceConfig (Guarded Engine))
  (att : Attestation) {ce : Guarded Engine}

theorem processAttestation_answered (free : ce.held = false) :
    ((slashingManager cfg).processAttestation att ce).1.isSome = true ∧
      ((slashingManager cfg).processAttestation att ce).2.held = false := by
  obtain ⟨awake, kept⟩ := ((tolerates_everything cfg).procedure.processAttestation att
    ce trivial).2 fun _ => free
  rw [processAttestation_final]
  refine ⟨?_, kept.trans free⟩
  simp only [slashingManager]
  cases ran : Manager.processAttestation cfg att ce with
  | ok verdict => cases verdict <;> rfl
  | error halt =>
  rw [ran] at awake
  cases halt with
  | deadlock => cases awake
  | refused | panic => rfl

theorem isValidatorActive_held (addr : Address) :
    ((slashingManager cfg).isValidatorActive addr ce).2.held = ce.held := by
  rw [isValidatorActive_final]
  have respected : Respects unconstrained false (Manager.isValidatorActive cfg addr) :=
    (tolerates_everything cfg).procedure.isValidatorActive
  exact ((respected ce trivial).2 nofun).2

theorem applyDoubleVoteSlashing_answered (previous : Attestation) (free : ce.held = false) :
    ((slashingManager cfg).applyDoubleVoteSlashing previous att ce).1.isNone = false ∧
    ((slashingManager cfg).applyDoubleVoteSlashing previous att ce).2.held = false := by
  have respected : Respects unconstrained true
      (Manager.applyDoubleVoteSlashing cfg (some previous) (some att)) :=
    Keeps.exclusively ((tolerates_everything cfg).procedure.applyDoubleVoteSlashingLocked
      fun _ _ _ _ => trivial)
  obtain ⟨awake, kept⟩ := (respected ce trivial).2 fun _ => free
  rw [applyDoubleVoteSlashing_final]
  refine ⟨?_, kept.trans free⟩
  simp only [slashingManager]
  cases ran : Manager.applyDoubleVoteSlashing cfg (some previous) (some att) ce with
  | ok => rfl
  | error halt =>
  rw [ran] at awake
  cases halt with
  | deadlock => cases awake
  | refused | panic => rfl

theorem judged_free {slashing : Option (Guarded Engine)}
    (free : ∀ ce, slashing = some ce → ce.held = false) :
    unanswered (wired cfg forkChoice) att slashing = false ∧
      ∀ ce, judged (wired cfg forkChoice) att slashing = some ce → ce.held = false := by
  cases slashing with
  | none =>
    refine ⟨rfl, fun ce same => ?_⟩
    simp only [judged, reduceCtorEq] at same
  | some ce =>
  have returned := processAttestation_answered cfg att (free ce rfl)
  simp only [unanswered, judged, wired]
  rcases asked : (slashingManager cfg).processAttestation att ce with
    ⟨verdict, after⟩
  rw [asked] at returned
  cases verdict with
  | none => cases returned.1
  | some verdict =>
  cases verdict with
  | violation =>
    refine ⟨rfl, fun ce same => ?_⟩
    cases same
    exact returned.2
  | accepted =>
    refine ⟨rfl, fun ce same => ?_⟩
    cases same
    exact (isValidatorActive_held cfg _).trans returned.2
  | doubleVote previous =>
    have applied := applyDoubleVoteSlashing_answered cfg att previous returned.2
    refine ⟨applied.1, fun ce same => ?_⟩
    cases same
    exact applied.2

theorem unreported_free {fc : ForkChoice (Guarded Engine)} (prevVote : Bytes)
    (free : ∀ ce, fc.slashing = some ce → ce.held = false) :
    unreported (wired cfg forkChoice) att prevVote fc = false := by
  unfold unreported
  split
  · rename_i ce previous present found
    exact (applyDoubleVoteSlashing_answered cfg att previous (free ce present)).1
  · rfl

theorem processAttestation_classified (fc : ForkChoice (Guarded Engine))
    (free : ∀ ce, fc.slashing = some ce → ce.held = false) :
    wp (countAttestation (wired cfg forkChoice) att)
      (fun _ _ => ¬ ReachesQuorum (wired cfg forkChoice) att fc ∧
        ¬ Crashes (wired cfg forkChoice) att fc) (fun halt _ =>
        (halt.isDeadlock = true ∧ ReachesQuorum (wired cfg forkChoice) att fc) ∨
        (halt.isDeadlock = false ∧ ¬ ReachesQuorum (wired cfg forkChoice) att fc ∧
          Crashes (wired cfg forkChoice) att fc)) fc := by
  obtain ⟨answers, freed⟩ := judged_free cfg forkChoice att free
  exact wp_countAttestation_quorum answers fun prevVote asked same =>
    unreported_free cfg forkChoice att prevVote fun ce present =>
      freed ce (same ▸ present)

theorem processAttestation_stuck_iff (fc : ForkChoice (Guarded Engine))
    (free : ∀ ce, fc.slashing = some ce → ce.held = false) :
    stuck (processAttestation (wired cfg forkChoice) att ⟨false, fc⟩) = true ↔
      ReachesQuorum (wired cfg forkChoice) att fc := by
  have counts := processAttestation_classified cfg forkChoice att fc free
  unfold processAttestation
  rw [stuck_exclusively]
  unfold wp at counts
  split at counts
  · rename_i value after ran
    rw [ran]
    exact iff_of_false nofun counts.2.1
  · rename_i halt after ran
    rw [ran]
    rcases counts.2 with ⟨waits, reaches⟩ | ⟨awake, below, -⟩
    · exact iff_of_true waits reaches
    · exact iff_of_false (fun waits => Bool.false_ne_true (awake.symm.trans waits)) below

end Wiring

namespace Manager

open Guarded (read update exclusively)

variable (cfg : EngineConfig)

def confirmValidEvidence (ev : SlashingEvidence) : EngineM Bool := do
  let evidenceHash := ev.hash cfg
  if (← read).isProcessed evidenceHash then refuse "evidence already processed"
  else
    checkCooldown cfg ev.validatorAddress ev.type
    if ← addConfirmation cfg ev ev.reporterAddress then
      update (·.markProcessed evidenceHash)
      update (recordAcceptance ev.reporterAddress)
      return true
    else return false

/-- `ProcessEvidence` as far as the decision to execute the evidence. -/
def confirmEvidence (received : SlashingEvidence) : EngineM Bool := do
  if (← read).world.height < 100 then return false
  else
    (checkReporter cfg received.reporterAddress).adaptExcept (naming "rate limit exceeded: ")
    let ev := received.identified cfg
    let now ← unixNow cfg
    match ev.validate cfg (← read).world.validators now with
    | .error err =>
      recordRejection cfg ev.reporterAddress
      refuse s!"invalid evidence: {err}"
    | .ok () => confirmValidEvidence cfg ev

def carryOut (ev : SlashingEvidence) (confirmed : Bool) : EngineM Unit :=
  if confirmed then do
    executeEvidence cfg ev
    recordSlashing cfg ev.validatorAddress ev.type
  else return ()

theorem processValidEvidence_eq (ev : SlashingEvidence) :
    processValidEvidence cfg ev = confirmValidEvidence cfg ev >>= carryOut cfg ev := by
  unfold processValidEvidence confirmValidEvidence
  simp only [bind_assoc]
  refine bind_congr fun ce => ?_
  split
  · rfl
  simp only [bind_assoc]
  refine bind_congr fun _ => bind_congr fun confirmed => ?_
  split
  · rfl
  · rfl

theorem processEvidence_eq (received : SlashingEvidence) :
    processEvidence cfg received = exclusively (confirmEvidence cfg received >>=
      carryOut cfg (received.identified cfg)) := by
  unfold processEvidence confirmEvidence
  simp only [bind_assoc]
  congr 1
  refine bind_congr fun ce => ?_
  split
  · rfl
  simp only [bind_assoc]
  refine bind_congr fun _ => bind_congr fun now => bind_congr fun ce => ?_
  cases SlashingEvidence.validate cfg ce.world.validators now (received.identified cfg) with
  | error =>
    simp only [bind_assoc]
    rfl
  | ok => exact processValidEvidence_eq cfg _

variable {cfg} {ev received : SlashingEvidence}

theorem keeps_confirmValidEvidence : Respects unconstrained false
    (confirmValidEvidence cfg ev) := by
  have procedure := (tolerates_everything cfg).procedure
  refine Keeps.bind_read fun ce _ => ?_
  split
  · exact keeps_refuse _
  refine (procedure.checkCooldown _).bind fun _ => procedure.addConfirmation.bind fun enough => ?_
  split
  · exact (Keeps.update fun _ _ => trivial).bind fun _ =>
      (Keeps.update fun _ _ => trivial).bind fun _ => Keeps.pure _
  · exact Keeps.pure _

theorem keeps_confirmEvidence : Respects unconstrained false (confirmEvidence cfg received) := by
  have procedure := (tolerates_everything cfg).procedure
  refine Keeps.bind_read fun ce _ => ?_
  split
  · exact Keeps.pure _
  refine (procedure.checkReporter.adaptExcept (naming_isDeadlock _)).bind fun _ => ?_
  refine (procedure.clock.bind fun _ => Keeps.pure _).bind fun now =>
    Keeps.bind_read fun ce holds => ?_
  split
  · exact procedure.recordRejection.bind fun _ => keeps_refuse _
  · exact keeps_confirmValidEvidence

def namesProposal (ev : SlashingEvidence) : Bool :=
  match ev.type, ev.evidence with
  | .invalidProposal, some (.invalidProposal (some _) _ _) => true
  | _, _ => false

theorem namesProposal_iff : namesProposal ev = true ↔ ev.type = .invalidProposal ∧
    ∃ prop errors root, ev.evidence = some (.invalidProposal (some prop) errors root) := by
  unfold namesProposal
  split
  · rename_i type body
    exact iff_of_true rfl ⟨type, _, _, _, body⟩
  · rename_i other
    refine iff_of_false nofun ?_
    rintro ⟨type, _, _, _, body⟩
    exact other _ _ _ type body

theorem executeEvidence_proposal (named : namesProposal ev = true) (st : Guarded Engine)
    (held : st.held = true) : executeEvidence cfg ev st = .error .deadlock st := by
  obtain ⟨type, _, _, _, body⟩ := namesProposal_iff.mp named
  unfold executeEvidence
  simp only [type, body]
  refine EStateM.bind_error ?_ _
  unfold Guarded.attempt reportInvalidProposal
  rw [Guarded.exclusively_held held]

theorem coversSubmission_everything (other : namesProposal ev = false) :
    everything.CoversSubmission cfg ev := by
  refine ⟨trivial, ?_⟩
  split
  · trivial
  · exact fun _ => trivial
  · rename_i type body
    exact absurd (namesProposal_iff.mpr ⟨type, _, _, _, body⟩) (by simp [other])
  · trivial

theorem processEvidence_stuck_iff (received : SlashingEvidence) (ce : Engine) :
    stuck (processEvidence cfg received ⟨false, ce⟩) = true ↔
      namesProposal (received.identified cfg) = true ∧
        ∃ after, confirmEvidence cfg received ⟨true, ce⟩ = .ok true after := by
  have confirms : Respects unconstrained false (confirmEvidence cfg received) :=
    keeps_confirmEvidence
  obtain ⟨awake, held⟩ := (confirms ⟨true, ce⟩ trivial).2 nofun
  rw [processEvidence_eq, stuck_exclusively]
  cases ran : confirmEvidence cfg received ⟨true, ce⟩ with
  | error =>
    rw [ran] at awake
    rw [EStateM.bind_error ran]
    exact iff_of_false (Bool.not_eq_true _ ▸ awake) (by rintro ⟨_, _, ⟨⟩⟩)
  | ok confirmed after =>
  rw [ran] at held
  rw [EStateM.bind_ok ran]
  cases confirmed with
  | false => exact iff_of_false nofun (by rintro ⟨_, _, ⟨⟩⟩)
  | true =>
  cases named : namesProposal (received.identified cfg) with
  | true =>
    have blocked : carryOut cfg (received.identified cfg) true
        after = .error .deadlock after :=
      EStateM.bind_error (executeEvidence_proposal named after held) _
    rw [blocked]
    exact iff_of_true rfl ⟨rfl, after, rfl⟩
  | false =>
  have carries : Respects unconstrained false
      (carryOut cfg (received.identified cfg) true) :=
    ((tolerates_everything cfg).procedure.executeEvidence (coversSubmission_everything named)).bind
      fun _ => (tolerates_everything cfg).procedure.recordSlashing _
  refine iff_of_false ?_ fun holds => Bool.noConfusion holds.1
  rw [((carries after trivial).2 nofun).1]
  exact Bool.false_ne_true

end Manager

inductive PublicCall where
  | processAttestation (cfg : EngineConfig) (forkChoice : ForkChoiceConfig (Guarded Engine))
      (fc : ForkChoice (Guarded Engine)) (manager : Option Engine) (att : Attestation)
  | processEvidence (cfg : EngineConfig) (manager : Engine) (ev : SlashingEvidence)
  | recordBlockProposal (cfg : ManagerConfig) (manager : ManagerState) (addr : Address)
      (success : Bool)
  | validateStateConsistency (cfg : StakingConfig) (ws : StakingState)
  | restoreFromSnapshot (cfg : StakingConfig) (ws : StakingState) (snap : Option StateSnapshot)
  | syncWithPeers (cfg : SyncManagerConfig) (manager : SyncManagerState)

namespace PublicCall

def idle (fc : ForkChoice (Guarded Engine)) (manager : Option Engine) :
    ForkChoice (Guarded Engine) :=
  { fc with slashing := manager.map (Guarded.mk false) }

def returns : PublicCall → Bool
  | .processAttestation cfg forkChoice fc manager att =>
    !stuck (Thrylos.processAttestation (wired cfg forkChoice) att ⟨false, idle fc manager⟩)
  | .processEvidence cfg manager ev =>
    !stuck (Manager.processEvidence cfg ev ⟨false, manager⟩)
  | .recordBlockProposal cfg manager addr success =>
    !stuck (ValidatorManager.recordBlockProposal cfg addr success ⟨false, manager⟩)
  | .validateStateConsistency cfg ws =>
    !Locked.stuck (Thrylos.validateStateConsistency cfg (Locked.unheld ws))
  | .restoreFromSnapshot cfg ws snap =>
    !Locked.stuck (Thrylos.restoreFromSnapshot cfg snap (Locked.unheld ws))
  | .syncWithPeers cfg manager =>
    !stuck (SyncManager.syncWithPeers cfg ⟨false, manager⟩)

def RunsIntoItself : PublicCall → Prop
  | .processAttestation cfg forkChoice fc manager att =>
    ReachesQuorum (wired cfg forkChoice) att (idle fc manager)
  | .processEvidence cfg manager ev =>
    Manager.namesProposal (ev.identified cfg) = true ∧
      ∃ after, Manager.confirmEvidence cfg ev ⟨true, manager⟩ = .ok true after
  | .recordBlockProposal cfg manager addr success =>
    success = false ∧ ValidatorManager.MissesTooMany cfg manager addr
  | .validateStateConsistency cfg ws => PassesChecks cfg ws
  | .restoreFromSnapshot cfg _ snap =>
    ∃ given, snap = some given ∧ Restorable cfg given
  | .syncWithPeers cfg manager => SyncManager.FindsPeers cfg manager

end PublicCall

/-- Each of the six operations comes back exactly if it is not led to a lock it holds. -/
theorem returns_iff_not_runsIntoItself (call : PublicCall) :
    call.returns = true ↔ ¬ call.RunsIntoItself := by
  have negated {waits : Bool} {path : Prop} (same : waits = true ↔ path) :
      (!waits) = true ↔ ¬ path := by
    rw [← same]
    cases waits <;> simp
  cases call with
  | processAttestation cfg forkChoice _ _ att =>
    refine negated (processAttestation_stuck_iff cfg forkChoice att _ ?_)
    intro ce present
    obtain ⟨_, -, rfl⟩ := Option.map_eq_some_iff.mp present
    rfl
  | processEvidence _ manager ev =>
    exact negated (Manager.processEvidence_stuck_iff ev manager)
  | recordBlockProposal cfg manager addr success =>
    exact negated (ValidatorManager.recordBlockProposal_stuck_iff cfg addr success manager)
  | validateStateConsistency cfg ws =>
    exact negated (validateStateConsistency_stuck_iff cfg ws)
  | restoreFromSnapshot cfg ws snap =>
    exact negated (restoreFromSnapshot_stuck_iff cfg snap ws)
  | syncWithPeers cfg manager => exact negated (SyncManager.syncWithPeers_stuck_iff cfg manager)

def proposalEvidence (reporter : Byte) : SlashingEvidence :=
  .new sampleEngineConfig .invalidProposal (sampleAddress 97)
    (.invalidProposal (some ⟨none, sampleAddress 97, 32, 1, []⟩) [[1]] [2]) (sampleAddress reporter)
    1000

def confirmedTwice : Guarded Engine :=
  let once := (Manager.processEvidence sampleEngineConfig (proposalEvidence 98) openNode).final
  (Manager.processEvidence sampleEngineConfig (proposalEvidence 99) once).final

def sampleStaked (accounts : List Account) (vals : List (Address × Validator)) : StakingState where
  world := sampleChain accounts vals
  totalStaked := (vals.map fun entry => (parseBigInt entry.2.stake : Int)).sum
  unbondingQueue := []

def sampleManager : ManagerConfig :=
  { sampleStaking with
    performanceWindow := 2
    belowMinSigned := fun signed _ => signed = 0
    maxSlashingEvents := 3
    retentionPercent := 50
    autoRemoveOnDoubleSign := true
    slashPortion := fun _ stake => stake / 100
    penalises := fun _ => true }

theorem six_calls_wait_for_themselves :
    let staked := sampleStaked [sampleAccount 97 [100]] [sampleValidator 97 40 1]
    let metrics : ValidatorMetrics := ⟨0, 1, 0, 0, 0, 0, []⟩
    let managed : ManagerState :=
      ⟨staked, KeyedMap.empty.insert (sampleAddress 97, metrics), KeyedMap.empty, KeyedMap.empty⟩
    let snap : StateSnapshot := ⟨100, [], 0, 0, [], KeyedMap.empty, none⟩
    let network : PeerNetwork := ⟨[List.replicate 12 65], fun _ => none⟩
    let calls : List PublicCall := [
      .processAttestation sampleEngineConfig { sampleWiring with worldState := soleValidator }
        openConsensusNode.data none (sampleAttestation 97 [1] 10),
      .processEvidence sampleEngineConfig confirmedTwice.data (proposalEvidence 100),
      .recordBlockProposal sampleManager managed (sampleAddress 97) false,
      .validateStateConsistency sampleStaking staked,
      .restoreFromSnapshot sampleStaking staked (some snap),
      .syncWithPeers ⟨some network, 0⟩ ⟨.idle, 0, 0, KeyedMap.empty⟩]
    calls.map PublicCall.returns = List.replicate 6 false := by
  decide +kernel

end Thrylos
