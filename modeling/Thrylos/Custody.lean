import Thrylos.SlashingEffects
import Thrylos.Library.Runs

/-!
What the slashing manager holds on one validator: its jail record and its status, in memory and in
the database. A jail record that runs out makes its validator active, whatever the status was.
-/

namespace Thrylos

open EStateM (Leads)
open Guarded (exclusively read attempt Keeps Moves)

structure Custody where
  jailed : Option (Address × JailedValidator)
  status : Option (Address × ValidatorStatus)
  stored : Option (Option (Address × JailedValidator) × Option (Address × ValidatorStatus))

def Engine.custody (ce : Engine) (addr : Address) : Custody where
  jailed := ce.jailedValidators.find? addr
  status := ce.validatorStatus.find? addr
  stored := ce.storage.map fun storage =>
    (storage.jailedValidators.find? addr, storage.validatorStatus.find? addr)

namespace Custody

def Mirrored (custody : Custody) : Prop :=
  ∀ kept, custody.stored = some kept → kept = (custody.jailed, custody.status)

def mark (custody : Custody) (addr : Address) (status : ValidatorStatus) : Custody where
  jailed := custody.jailed
  status := some (addr, status)
  stored := custody.stored.map fun kept => (kept.1, some (addr, status))

def lock (custody : Custody) (addr : Address) (record : JailedValidator) : Custody where
  jailed := some (addr, record)
  status := some (addr, .jailed)
  stored := custody.stored.map fun _ => (some (addr, record), some (addr, .jailed))

def free (custody : Custody) (addr : Address) : Custody where
  jailed := none
  status := some (addr, .active)
  stored := custody.stored.map fun _ => (none, some (addr, .active))

structure Ended (addr : Address) (custody : Custody) : Prop where
  unjailed : custody.jailed = none
  slashed : custody.status = some (addr, .slashed)
  mirrored : custody.Mirrored

structure Barred (addr : Address) (custody : Custody) : Prop where
  slashed : custody.jailed = none → custody.status = some (addr, .slashed)
  mirrored : custody.Mirrored

variable {custody : Custody}

theorem Mirrored.mark (mirrored : custody.Mirrored) (addr : Address)
    (status : ValidatorStatus) : (custody.mark addr status).Mirrored := by
  intro kept stored
  obtain ⟨old, before, rfl⟩ := Option.map_eq_some_iff.mp stored
  rw [mirrored old before]
  rfl

theorem Mirrored.lock (addr : Address) (record : JailedValidator) :
    (custody.lock addr record).Mirrored := by
  intro kept stored
  obtain ⟨_, _, rfl⟩ := Option.map_eq_some_iff.mp stored
  rfl

theorem Mirrored.free (addr : Address) : (custody.free addr).Mirrored := by
  intro kept stored
  obtain ⟨_, _, rfl⟩ := Option.map_eq_some_iff.mp stored
  rfl

end Custody

namespace Engine

theorem custody_setStatus (ce : Engine) (other : Address) (status : ValidatorStatus)
    (addr : Address) : (ce.setStatus other status).custody addr =
      if other = addr then (ce.custody addr).mark other status else ce.custody addr := by
  unfold setStatus custody Custody.mark
  cases stored : ce.storage with
  | none => by_cases own : other = addr <;> simp [own]
  | some =>
    by_cases own : other = addr <;> simp [own, SlashingStorage.saveValidatorStatus]

theorem custody_jail (ce : Engine) (record : JailedValidator) (addr : Address) :
    (ce.jail record).custody addr =
      if record.validatorAddress = addr then (ce.custody addr).lock record.validatorAddress record
      else ce.custody addr := by
  unfold jail setStatus custody Custody.lock
  cases stored : ce.storage with
  | none => by_cases own : record.validatorAddress = addr <;> simp [own]
  | some =>
    by_cases own : record.validatorAddress = addr <;>
      simp [own, SlashingStorage.saveValidatorStatus, SlashingStorage.saveJailedValidator]

theorem custody_release (ce : Engine) (other addr : Address) : (ce.release other).custody addr =
      if other = addr then (ce.custody addr).free other else ce.custody addr := by
  unfold release setStatus custody Custody.free
  cases stored : ce.storage with
  | none =>
    by_cases own : other = addr
    · simp [own]
    · simp [own, Ne.symm own]
  | some =>
    by_cases own : other = addr
    · simp [own, SlashingStorage.saveValidatorStatus, SlashingStorage.deleteJailedValidator]
    · simp [own, Ne.symm own, SlashingStorage.saveValidatorStatus,
        SlashingStorage.deleteJailedValidator]

theorem custody_markProcessed (ce : Engine) (key : Bytes) (addr : Address) :
    (ce.markProcessed key).custody addr = ce.custody addr := by
  unfold markProcessed custody
  cases stored : ce.storage <;> simp [SlashingStorage.saveProcessedEvidence]

theorem SameCustody.custody {ce after : Engine} (same : ce.SameCustody after) (addr : Address) :
    after.custody addr = ce.custody addr := by
  unfold Engine.custody
  rw [same.jail, same.status, same.storage]

end Engine

abbrev Watches {α : Type} (addr : Address) (pre post : Custody → Prop) (prog : EngineM α) : Prop :=
  Leads (fun st => pre (st.data.custody addr)) (fun st => post (st.data.custody addr)) prog

structure Phases (addr : Address) (pre post : Custody → Prop) : Prop where
  look : ∀ custody, pre custody → custody.jailed ≠ none → pre (custody.free addr)
  weaken : ∀ custody, pre custody → post custody
  lock : ∀ custody record, post custody → post (custody.lock addr record)
  slash : ∀ custody, post custody → post (custody.mark addr .slashed)

theorem phases_mirrored (addr : Address) : Phases addr Custody.Mirrored Custody.Mirrored where
  look _ _ _ := Custody.Mirrored.free addr
  weaken _ := id
  lock _ record _ := Custody.Mirrored.lock addr record
  slash _ mirrored := mirrored.mark addr .slashed

theorem phases_ended (addr : Address) : Phases addr (Custody.Ended addr) (Custody.Barred addr) where
  look _ ended jailed := absurd ended.unjailed jailed
  weaken _ ended := ⟨fun _ => ended.slashed, ended.mirrored⟩
  lock _ record _ := ⟨nofun, Custody.Mirrored.lock addr record⟩
  slash _ barred := ⟨fun _ => rfl, barred.mirrored.mark addr .slashed⟩

def afterTick (st : Guarded Engine) : Guarded Engine :=
  { st with data := { st.data with
    world := { st.data.world with ticks := st.data.world.ticks + 1 } } }

inductive JailLook (cfg : EngineConfig) (addr : Address) (st : Guarded Engine) :
    EStateM.Result (Halt String) (Guarded Engine) Bool → Prop where
  | absent (none_ : st.data.jailedValidators.find? addr = none) :
      JailLook cfg addr st (.ok false st)
  | serving (entry : Address × JailedValidator)
      (found : st.data.jailedValidators.find? addr = some entry)
      (early : ¬ entry.2.releaseTime < cfg.clock st.data.world.ticks) :
      JailLook cfg addr st (.ok true (afterTick st))
  | expired (entry : Address × JailedValidator)
      (found : st.data.jailedValidators.find? addr = some entry)
      (late : entry.2.releaseTime < cfg.clock st.data.world.ticks) :
      JailLook cfg addr st
        (.ok false { afterTick st with data := (afterTick st).data.release addr })

theorem isValidatorJailed_look (cfg : EngineConfig) (addr : Address) (st : Guarded Engine) :
    JailLook cfg addr st (Manager.isValidatorJailed cfg addr st) := by
  unfold Manager.isValidatorJailed
  rw [bind_ok (show read st = .ok st.data st from rfl)]
  cases found : st.data.jailedValidators.find? addr with
  | none => exact .absent found
  | some entry =>
  have read : clock cfg st = .ok (cfg.clock st.data.world.ticks) (afterTick st) :=
    rfl
  dsimp only
  rw [bind_ok read]
  by_cases late : entry.2.releaseTime < cfg.clock st.data.world.ticks
  · rw [if_pos late]
    exact .expired entry found late
  · rw [if_neg late]
    exact .serving entry found late

namespace Phases

variable {addr : Address} {pre post : Custody → Prop} (phases : Phases addr pre post)
  (cfg : EngineConfig)
include phases

theorem journey : Journey cfg everything (fun ce => pre (ce.custody addr))
    fun ce => post (ce.custody addr) where
  weaken _ := phases.weaken _
  quiet _ _ same _ holds := same.custody addr ▸ holds
  release ce other entry found holds := by
    rw [Engine.custody_release]
    split_ifs with own
    · cases own
      have jailed : (ce.custody addr).jailed = some entry := found
      exact phases.look _ holds (jailed ▸ Option.some_ne_none entry)
    · exact holds
  effect _ _ same _ holds := same.custody addr ▸ holds
  jail ce record _ holds := by
    rw [Engine.custody_jail]
    split_ifs with own
    · cases own
      exact phases.lock _ _ holds
    · exact holds
  slash ce other holds := by
    rw [Engine.custody_setStatus]
    split_ifs with own
    · cases own
      exact phases.slash _ holds
    · exact holds
  mark ce key _ holds := (ce.custody_markProcessed key addr).symm ▸ holds

theorem procedure : Procedure cfg everything (fun ce => pre (ce.custody addr))
    fun ce => post (ce.custody addr) :=
  { phases.journey cfg with
    slashing := fun _ _ _ _ _ => (phases.journey cfg).applySlashing trivial trivial fun _ => id }

theorem executeEvidence (ev : SlashingEvidence) :
    Keeps (fun ce => post (ce.custody addr)) true (Manager.executeEvidence cfg ev) := by
  have procedure := phases.procedure cfg
  unfold Manager.executeEvidence
  split
  · exact procedure.applyDoubleVoteSlashingLocked fun _ _ _ _ => trivial
  · exact keeps_refuse _
  · exact procedure.applySurroundVoteAttestationEvidenceLocked fun _ _ _ _ => trivial
  · exact keeps_refuse _
  · refine (procedure.reportInvalidProposal trivial).attempt.bind fun _ =>
      Keeps.bind_read fun ce _ => ?_
    split
    · exact keeps_refuse _
    · exact procedure.clock.bind fun timestamp => procedure.slashing _ _ _ _ trivial
  · exact Keeps.throw rfl
  · exact keeps_refuse _
  · exact keeps_refuse _

theorem processEvidence (ev : SlashingEvidence) :
    Watches addr post post (Manager.processEvidence cfg ev) := by
  obtain ⟨body, same, kept⟩ := (phases.procedure cfg).processEvidence_locked
    fun _ _ _ _ => ⟨trivial, phases.executeEvidence cfg (ev.identified cfg)⟩
  rw [same]
  intro st holds
  unfold exclusively
  split
  · exact holds
  · have reached := kept.leads { st with held := true } holds
    cases ran : body { st with held := true } with
    | ok value after | error halt after =>
      rw [ran] at reached
      exact reached

/-- The calls that begin by looking whether the validator is jailed. -/
theorem afterLook {α : Type} {other : Address} {next : Bool → EngineM α}
    (rest : ∀ jailed, Keeps (fun ce => post (ce.custody addr)) false (next jailed)) :
    Moves (fun ce => pre (ce.custody addr)) (fun ce => post (ce.custody addr)) false
      (Manager.isValidatorJailed cfg other >>= next) :=
  Moves.bind (phases.journey cfg).isValidatorJailed (fun _ => phases.weaken _)
    fun jailed => .late (fun _ => phases.weaken _) (rest jailed)

theorem afterGrace {α : Type} {value : α} {other : Address} {next : Bool → EngineM α}
    (rest : ∀ jailed, Keeps (fun ce => post (ce.custody addr)) false (next jailed)) :
    Watches addr pre post (exclusively do
      if (← read).world.height < 100 then return value
      else Manager.isValidatorJailed cfg other >>= next) := by
  refine (Moves.exclusively (phases.journey cfg).weaken (Moves.bind_read fun ce holds => ?_)).leads
  have early : ∀ data, data = ce → pre (data.custody addr) := fun _ same => same ▸ holds
  refine .late early ?_
  split
  · exact .late (fun _ => phases.weaken _) (Keeps.pure _)
  · exact phases.afterLook cfg rest

theorem processVote (vote : Vote) : Watches addr pre post (Manager.processVote cfg vote) := by
  refine phases.afterGrace cfg fun jailed => ?_
  split
  · exact Keeps.pure _
  · refine Keeps.bind_read fun ce _ => ?_
    split
    · exact Keeps.pure _
    · have recorded : Keeps (fun ce => post (ce.custody addr)) false
          (Guarded.update (Manager.recordVote vote) : EngineM Unit) := Keeps.update fun _ => id
      exact recorded.bind fun _ => Keeps.pure _

theorem reportBlockWithholding (other : Address) :
    Watches addr pre post (Manager.reportBlockWithholding cfg other) := by
  have procedure := phases.procedure cfg
  refine phases.afterGrace cfg fun jailed => ?_
  split
  · exact Keeps.pure _
  · refine procedure.clock.bind fun now => Keeps.bind_read fun ce _ => ?_
    split
    · exact Keeps.pure _
    refine procedure.validatorBalance.bind fun bal => (keeps_penaltyOf bal _).bind fun penalty =>
      Keeps.bind_read fun ce _ => ?_
    split
    · exact Keeps.pure _
    · exact procedure.clock.bind fun timestamp => (procedure.slashing _ _ _ _ trivial).bind
        fun _ => procedure.jailValidator trivial _

end Phases

def Manager.processBlockProposal (cfg : EngineConfig) (proposer : Address) : EngineM Unit :=
  exclusively do
    if ← isValidatorJailed cfg proposer then
      refuse s!"validator {text proposer} is jailed and cannot propose blocks"
    else return

/-- The manager's operations, a restart, and whatever else happens to the world state in between. -/
inductive ManagerCall where
  | processEvidence (ev : SlashingEvidence)
  | processVote (vote : Vote)
  | processAttestation (attestation : Attestation)
  | processBlockProposal (proposer : Address)
  | applyDoubleVoteSlashing (att1 att2 : Option Attestation)
  | applySurroundVoteSlashing (inner outer : Option Vote)
  | reportBlockWithholding (addr : Address)
  | reportMissedAttestation (addr : Address) (slot : UInt64)
  | reportInvalidProposal (prop : ReportedProposal) (reason : String)
  | isValidatorActive (addr : Address)
  | reload
  | advance (ws : WorldState)

/-- Without a database there is nothing to load. -/
def reloaded (st : Guarded Engine) : Guarded Engine :=
  match st.data.storage with
  | none => st
  | some storage => newConsensusEngine st.data.world (some storage) st.data.savedVotes

def ManagerCall.next (cfg : EngineConfig) (st : Guarded Engine) : ManagerCall → Guarded Engine
  | .processEvidence ev => (Manager.processEvidence cfg ev st).final
  | .processVote vote => (Manager.processVote cfg vote st).final
  | .processAttestation attestation => (Manager.processAttestation cfg attestation st).final
  | .processBlockProposal proposer => (Manager.processBlockProposal cfg proposer st).final
  | .applyDoubleVoteSlashing att1 att2 =>
    (Manager.applyDoubleVoteSlashing cfg att1 att2 st).final
  | .applySurroundVoteSlashing inner outer =>
    (Manager.applySurroundVoteSlashing cfg inner outer st).final
  | .reportBlockWithholding addr => (Manager.reportBlockWithholding cfg addr st).final
  | .reportMissedAttestation addr slot =>
    (Manager.reportMissedAttestation cfg addr slot st).final
  | .reportInvalidProposal prop reason =>
    (Manager.reportInvalidProposal cfg prop reason st).final
  | .isValidatorActive addr => (Manager.isValidatorActive cfg addr st).final
  | .reload => reloaded st
  | .advance ws => { st with data := { st.data with world := ws } }

def managerStep (cfg : EngineConfig) (st : Guarded Engine) (call : ManagerCall) :
    Option (Guarded Engine) := some (call.next cfg st)

theorem custody_newConsensusEngine (ws : WorldState) (storage : Option SlashingStorage)
    (savedVotes : List Vote) (addr : Address) :
    ((newConsensusEngine ws storage savedVotes).data.custody addr).Mirrored := by
  intro kept stored
  cases storage with
  | none => cases stored
  | some =>
    cases stored
    rfl

variable {st : Guarded Engine} {addr : Address} {cfg : EngineConfig}

theorem custody_reloaded (mirrored : (st.data.custody addr).Mirrored) :
    (reloaded st).data.custody addr = st.data.custody addr := by
  unfold reloaded
  cases present : st.data.storage with
  | none => rfl
  | some storage =>
  have stored : (st.data.custody addr).stored =
      some (storage.jailedValidators.find? addr, storage.validatorStatus.find? addr) := by
    change st.data.storage.map _ = _
    rw [present]
    rfl
  have same := Prod.mk.inj (mirrored _ stored)
  have loaded : (newConsensusEngine st.data.world (some storage)
      st.data.savedVotes).data.custody addr =
        ⟨storage.jailedValidators.find? addr, storage.validatorStatus.find? addr,
          some (storage.jailedValidators.find? addr, storage.validatorStatus.find? addr)⟩ := rfl
  rw [loaded, ← stored, same.1, same.2]

theorem ManagerCall.next_custody {pre post : Custody → Prop}
    (phases : Phases addr pre post) (mirrored : ∀ custody, pre custody → custody.Mirrored)
    (call : ManagerCall) (st : Guarded Engine) (holds : pre (st.data.custody addr)) :
    post ((call.next cfg st).data.custody addr) := by
  have late := phases.weaken _ holds
  have procedure := phases.procedure cfg
  cases call with
  | processEvidence ev => exact phases.processEvidence cfg ev st late
  | processVote vote => exact phases.processVote cfg vote st holds
  | processAttestation att => exact (procedure.processAttestation att).leads st holds
  | processBlockProposal proposer =>
    refine (Moves.exclusively (fun _ => phases.weaken _) (phases.afterLook cfg fun jailed =>
      ?_)).leads st holds
    split
    · exact keeps_refuse _
    · exact Keeps.pure _
  | applyDoubleVoteSlashing att1 att2 =>
    exact (Keeps.exclusively (procedure.applyDoubleVoteSlashingLocked
      fun _ _ _ _ => trivial)).leads st late
  | applySurroundVoteSlashing inner outer =>
    exact (procedure.applySurroundVoteSlashing fun _ _ _ => trivial).leads st late
  | reportBlockWithholding other => exact phases.reportBlockWithholding cfg other st holds
  | reportMissedAttestation other slot =>
    exact (procedure.reportMissedAttestation trivial (fun _ _ => trivial) (fun _ _ => trivial)
      slot).leads st holds
  | reportInvalidProposal prop reason =>
    exact (procedure.reportInvalidProposal trivial).leads st late
  | isValidatorActive other =>
    have looked : Moves _ _ false (Manager.isValidatorActive cfg other) := procedure.isValidatorActive
    exact looked.leads st holds
  | reload =>
    change post ((reloaded st).data.custody addr)
    rw [custody_reloaded (mirrored _ holds)]
    exact late
  | advance => exact late

def Inactive (cfg : EngineConfig) (addr : Address) (st : Guarded Engine) : Prop :=
  ∃ after, Manager.isValidatorActive cfg addr st = .ok false after

def AlwaysInactive (cfg : EngineConfig) (addr : Address) (st : Guarded Engine) : Prop :=
  ∀ clock : Nat → Int, Inactive { cfg with clock } addr st

def Unjailed (addr : Address) (st : Guarded Engine) : Prop :=
  st.data.jailedValidators.find? addr = none

theorem logBalance_ok : ∃ after, Manager.logBalance cfg addr st = .ok () after := by
  unfold Manager.logBalance
  split
  · have asked : ∃ answer after,
        attempt (onWorld (getBalance cfg addr)) st = .ok answer after := by
      unfold attempt onWorld
      cases getBalance cfg addr st.data.world with
      | ok | error => exact ⟨_, _, rfl⟩
    obtain ⟨_, after, ran⟩ := asked
    exact ⟨after, by rw [bind_ok ran]; rfl⟩
  · exact ⟨st, rfl⟩

theorem isValidatorActive_released (cfg : EngineConfig) {entry : Address × JailedValidator}
    (found : st.data.jailedValidators.find? addr = some entry)
    (late : entry.2.releaseTime < cfg.clock st.data.world.ticks) :
    ∃ after, Manager.isValidatorActive cfg addr st = .ok true after := by
  have look := isValidatorJailed_look cfg addr st
  generalize ran : Manager.isValidatorJailed cfg addr st = result at look
  cases look with
  | absent missing => exact absurd (missing.symm.trans found) nofun
  | serving _ same early =>
    rw [Option.some.inj (same.symm.trans found)] at early
    exact absurd late early
  | expired =>
    have active : ((afterTick st).data.release addr).validatorStatus.find? addr =
        some (addr, .active) := by
      have freed := (afterTick st).data.custody_release addr addr
      rw [if_pos rfl] at freed
      exact congrArg Custody.status freed
    obtain ⟨after, logged⟩ := logBalance_ok
    refine ⟨after, ?_⟩
    unfold Manager.isValidatorActive
    rw [bind_ok ran, if_neg Bool.false_ne_true]
    have asked : read (ε := String) { afterTick st with data := (afterTick st).data.release addr } =
      .ok ((afterTick st).data.release addr) _ := rfl
    rw [bind_ok asked]
    simp only [active]
    rw [bind_ok logged]
    rfl

theorem isValidatorActive_slashed (unjailed : Unjailed addr st)
    (slashed : st.data.validatorStatus.find? addr = some (addr, .slashed)) :
    Inactive cfg addr st := by
  have look := isValidatorJailed_look cfg addr st
  generalize ran : Manager.isValidatorJailed cfg addr st = result at look
  cases look with
  | absent =>
    refine ⟨st, ?_⟩
    unfold Manager.isValidatorActive
    rw [bind_ok ran, if_neg Bool.false_ne_true]
    have asked : read (ε := String) st = .ok st.data st := rfl
    rw [bind_ok asked]
    simp only [slashed]
    rfl
  | serving _ found | expired _ found => exact absurd (unjailed.symm.trans found) nofun

theorem AlwaysInactive.unjailed (inactive : AlwaysInactive cfg addr st) : Unjailed addr st := by
  unfold Unjailed
  cases found : st.data.jailedValidators.find? addr with
  | none => rfl
  | some entry =>
  -- a clock that has passed the release
  obtain ⟨_, no⟩ := inactive fun _ => entry.2.releaseTime + 1
  obtain ⟨_, yes⟩ := isValidatorActive_released
    { cfg with clock := fun _ => entry.2.releaseTime + 1 } found (Int.lt_succ _)
  rw [yes] at no
  cases no

theorem Custody.Ended.inactive
    (ended : (st.data.custody addr).Ended addr) : AlwaysInactive cfg addr st :=
  fun _ => isValidatorActive_slashed ended.unjailed ended.slashed

theorem Custody.Barred.ended
    (barred : (st.data.custody addr).Barred addr) (unjailed : Unjailed addr st) :
    (st.data.custody addr).Ended addr :=
  ⟨unjailed, barred.slashed unjailed, barred.mirrored⟩

theorem mirrored_of_run {allowed : Guarded Engine → ManagerCall → Prop}
    {start : Guarded Engine} (run : Run (managerStep cfg) allowed start st)
    (initially : (start.data.custody addr).Mirrored) : (st.data.custody addr).Mirrored := by
  refine run.keeps (fun st => (st.data.custody addr).Mirrored) initially ?_
  intro st call after mirrored _ made
  cases made
  exact call.next_custody (phases_mirrored addr) (fun _ => id) st mirrored

theorem ended_of_run {slashed : Guarded Engine} (ended : (slashed.data.custody addr).Ended addr)
    (run : Run (managerStep cfg) (fun st call => Unjailed addr (call.next cfg st))
      slashed st) : (st.data.custody addr).Ended addr := by
  refine run.keeps (fun st => (st.data.custody addr).Ended addr) ended ?_
  intro st call after ended unjailed made
  cases made
  exact (call.next_custody (phases_ended addr) (fun _ ended => ended.mirrored) st ended).ended
    unjailed

/-- A slashed validator is inactive for good exactly while it has no jail record. -/
theorem slashed_is_final_iff_never_jailed (cfg : EngineConfig) (addr : Address)
    (ws : WorldState) (storage : Option SlashingStorage) (savedVotes : List Vote)
    (slashed st : Guarded Engine) (reached : Run (managerStep cfg) (fun _ _ => True)
      (newConsensusEngine ws storage savedVotes) slashed)
    (status : slashed.data.validatorStatus.find? addr = some (addr, .slashed)) :
    (AlwaysInactive cfg addr slashed ∧
      Run (managerStep cfg) (fun st call => AlwaysInactive cfg addr (call.next cfg st))
        slashed st) ↔ (Unjailed addr slashed ∧
      Run (managerStep cfg) (fun st call => Unjailed addr (call.next cfg st)) slashed st) := by
  have mirrored := mirrored_of_run reached (custody_newConsensusEngine ws storage savedVotes addr)
  constructor
  · rintro ⟨inactive, run⟩
    exact ⟨inactive.unjailed, run.mono fun _ _ inactive => inactive.unjailed⟩
  · rintro ⟨unjailed, run⟩
    have ended : (slashed.data.custody addr).Ended addr := ⟨unjailed, status, mirrored⟩
    refine ⟨ended.inactive, ?_⟩
    induction run with
    | start => exact .start
    | call call _ before meets made ih =>
      cases made
      exact .call call _ ih (ended_of_run ended (.call call _ before meets rfl)).inactive rfl

def strictConfig : EngineConfig := { sampleEngineConfig with
  slashing := { sampleEngineConfig.slashing with maxMissedAttestations := 1 } }

def custodyWorld : WorldState := sampleChain [sampleAccount 97 [100]] [sampleValidator 97 40 1]

def emptyStorage : SlashingStorage := ⟨KeyedMap.empty, KeyedMap.empty, KeyedMap.empty⟩

def storedManager : Guarded Engine := newConsensusEngine custodyWorld (some emptyStorage) []

def ejected : Guarded Engine :=
  (ManagerCall.reportMissedAttestation (sampleAddress 97) 7).next strictConfig storedManager

theorem an_ejected_validator_stays_out : AlwaysInactive strictConfig (sampleAddress 97) ejected ∧
      Run (managerStep strictConfig)
        (fun st call => AlwaysInactive strictConfig (sampleAddress 97) (call.next strictConfig st))
        ejected (reloaded ejected) := by
  have made : managerStep strictConfig storedManager
      (.reportMissedAttestation (sampleAddress 97) 7) = some ejected := by
    rfl
  have reached : Run (managerStep strictConfig) (fun _ _ => True) storedManager ejected :=
    .call _ ejected .start trivial made
  have restarts : ∀ st, managerStep strictConfig st .reload = some (reloaded st) :=
    fun _ => rfl
  refine (slashed_is_final_iff_never_jailed strictConfig (sampleAddress 97) custodyWorld
    (some emptyStorage) [] ejected (reloaded ejected) reached ?_).mpr
    ⟨?_, ?_⟩
  · decide +kernel
  · unfold Unjailed
    decide +kernel
  · refine Run.call ManagerCall.reload _ Run.start ?_ (restarts ejected)
    unfold Unjailed
    decide +kernel

def slowConfig : EngineConfig := { sampleEngineConfig with
  clock := fun tick => 25 * tick * nanosPerHour
  slashing := { sampleEngineConfig.slashing with minimumStake := 60 } }

def doubleVoted : Guarded Engine :=
  (ManagerCall.applyDoubleVoteSlashing (some ⟨sampleAddress 97, [1], 100, 3, 100, [], 1000⟩)
    (some ⟨sampleAddress 97, [2], 100, 3, 100, [], 1000⟩)).next slowConfig storedManager

theorem a_slashed_validator_returns :
    doubleVoted.data.validatorStatus.find? (sampleAddress 97) = some (sampleAddress 97, .slashed) ∧
      (Manager.isValidatorActive slowConfig (sampleAddress 97) doubleVoted).value? = some true := by
  decide +kernel

end Thrylos
