import Thrylos.ValidatorManager
import Thrylos.BlockValidation
import Thrylos.Library.Runs

/-!
Jailing and release by `validator.go` and `lifecycle.go` of `consensus/validator`. Both keep the end
of a sentence in the same field, the one as a unix time and the other as a block height.
-/

namespace Thrylos

open EStateM (Leads)
open Guarded (exclusively)

structure LifecycleConfig extends ManagerConfig where
  minSelfStake : Int

namespace ValidatorManager

def isJailed (val : Validator) (now : Int) : Bool := unixSeconds now < val.jailUntil

def belowMinimum (cfg : LifecycleConfig) (val : Validator) : Prop :=
  (parseBigInt val.stake : Int) < cfg.minValidatorStake

instance (cfg : LifecycleConfig) (val : Validator) : Decidable (belowMinimum cfg val) :=
  inferInstanceAs (Decidable ((parseBigInt val.stake : Int) < cfg.minValidatorStake))

/-- The object in the map is changed before `UpdateValidator` looks at it. -/
def assignValidator (addr : Address) (val : Validator) : ManagerM Unit := do
  onStaking (setValidator addr val)
  onStaking (updateValidator val)

def unjailValidator (cfg : LifecycleConfig) (addr : Address) : ManagerM Unit := exclusively do
  let val ← (onStaking (getValidator addr)).adaptExcept (naming "validator not found: ")
  let first ← time cfg.toManagerConfig
  if ¬ isJailed val first then throw (.refused "validator is not jailed")
  else
    let second ← time cfg.toManagerConfig
    if unixSeconds second < val.jailUntil then
      throw (.refused "validator jail time has not expired")
    else if belowMinimum cfg val then
      throw (.refused s!"validator stake {text val.stake} below minimum {cfg.minValidatorStake} after slashing")
    else assignValidator addr { val with jailUntil := 0 }

def activateValidator (cfg : LifecycleConfig) (addr : Address) : ManagerM Unit := exclusively do
  let val ← (onStaking (getValidator addr)).adaptExcept (naming "validator not found: ")
  if belowMinimum cfg val then
    throw (.refused s!"validator stake {text val.stake} below minimum {cfg.minValidatorStake}")
  else if (parseBigInt val.selfStake : Int) < cfg.minSelfStake then
    throw (.refused s!"validator self-stake {text val.selfStake} below minimum {cfg.minSelfStake}")
  else
    let now ← time cfg.toManagerConfig
    if isJailed val now then
      throw (.refused s!"validator is jailed until {val.jailUntil}")
    else assignValidator addr { val with active := true }

def deactivateValidator (addr : Address) : ManagerM Unit := exclusively do
  let val ← (onStaking (getValidator addr)).adaptExcept (naming "validator not found: ")
  assignValidator addr { val with active := false }

end ValidatorManager

namespace LifecycleManager

open ValidatorManager

inductive ValidatorState where
  | jailed
  | active
  | inactive
  | registered
  deriving DecidableEq

def getValidatorState (cfg : LifecycleConfig) (height : Int64) (val : Validator) : ValidatorState :=
  if height < val.jailUntil then .jailed
  else if val.active then .active
  else if belowMinimum cfg val then .inactive
  else .registered

def avgBlockTime : Int64 := 3000000000

def blocksToJail (duration : Int64) : Int64 :=
  if duration / avgBlockTime < 1 then 1 else duration / avgBlockTime

/-- `ProcessJailing`: the sentence of `SlashValidator` is replaced by one in blocks. -/
def processJailing (cfg : LifecycleConfig) (addr : Address) (reason : SlashingReason)
    (duration : Int64) : ManagerM Unit := do
  let _ ← (onStaking (getValidator addr)).adaptExcept (naming "validator not found: ")
  let jailUntilBlock := (← Guarded.read).staking.world.height + blocksToJail duration
  (slashValidator cfg.toManagerConfig addr reason []).adaptExcept (naming "slashing failed: ")
  let val ← (onStaking (getValidator addr)).adaptExcept
    (naming "failed to reload validator after slashing: ")
  (assignValidator addr { val with jailUntil := jailUntilBlock }).adaptExcept
    (naming "failed to update validator jail duration: ")

def meetsActivationRequirements (cfg : LifecycleConfig) (height : Int64) (val : Validator) : Bool :=
  ¬ belowMinimum cfg val ∧ ¬ (parseBigInt val.selfStake : Int) < cfg.minSelfStake ∧
    ¬ height < val.jailUntil

/-- `ProcessUnjailing`, which drops the error of the activation. -/
def processUnjailing (cfg : LifecycleConfig) (addr : Address) : ManagerM Unit := do
  let val ← (onStaking (getValidator addr)).adaptExcept (naming "validator not found: ")
  let height := (← Guarded.read).staking.world.height
  if height < val.jailUntil then
    throw (.refused s!"validator {text addr} is still jailed until block {val.jailUntil} (current: {height})")
  else
    (unjailValidator cfg addr).adaptExcept (naming "unjailing failed: ")
    let released ← onStaking (getValidator addr)
    if meetsActivationRequirements cfg height released then
      let _ ← Guarded.attempt (activateValidator cfg addr)
    else return

end LifecycleManager

open ValidatorManager LifecycleManager

inductive LifecycleCall where
  | slash (reason : SlashingReason) (ev : Bytes)
  | unjail
  | activate
  | deactivate
  | jailing (reason : SlashingReason) (duration : Int64)
  | unjailing

def LifecycleCall.run (cfg : LifecycleConfig) (addr : Address) : LifecycleCall → ManagerM Unit
  | .slash reason ev => slashValidator cfg.toManagerConfig addr reason ev
  | .unjail => unjailValidator cfg addr
  | .activate => activateValidator cfg addr
  | .deactivate => deactivateValidator addr
  | .jailing reason duration => processJailing cfg addr reason duration
  | .unjailing => processUnjailing cfg addr

def ManagerState.validators (st : ManagerState) :
    KeyedMap (Prod.fst : Address × Validator → Address) := st.staking.world.validators

def OnRecord (addr : Address) (holds : Validator → Prop) (st : Guarded ManagerState) : Prop :=
  ∀ entry, st.data.validators.find? addr = some entry → holds entry.2

section OnRecord

variable {addr : Address} {holds : Validator → Prop} {α : Type}

abbrev KeepsRecord (addr : Address) (holds : Validator → Prop) (prog : ManagerM α) : Prop :=
  Leads (OnRecord addr holds) (OnRecord addr holds) prog

variable {prog : ManagerM α} {val : Validator}

theorem keepsRecord_exclusively (keeps : KeepsRecord addr holds prog) :
    KeepsRecord addr holds (exclusively prog) := by
  intro st recorded
  unfold exclusively
  split
  · exact recorded
  · have reached := keeps { st with held := true } recorded
    cases ran : prog { st with held := true } with
    | ok value after | error halt after =>
      rw [ran] at reached
      exact reached

theorem keepsRecord_attempt (keeps : KeepsRecord addr holds prog) :
    KeepsRecord addr holds (Guarded.attempt prog) := by
  intro st recorded
  have reached := keeps st recorded
  unfold Guarded.attempt
  cases ran : prog st with
  | ok =>
    rw [ran] at reached
    exact reached
  | error halt =>
    rw [ran] at reached
    cases halt <;> exact reached

theorem keepsRecord_time (cfg : ManagerConfig) : KeepsRecord addr holds (time cfg) :=
  fun _ => id

theorem keepsRecord_throw (halt : Halt String) : KeepsRecord addr holds (throw halt : ManagerM α) :=
  fun _ => id

theorem keepsRecord_setValidator (other : Address) (fits : holds val) :
    KeepsRecord addr holds (onStaking (setValidator other val)) := by
  intro st recorded entry found
  have stored : (st.data.validators.insert (other, val)).find? addr = some entry := found
  rw [KeyedMap.find?_insert] at stored
  split at stored
  · cases stored
    exact fits
  · exact recorded entry stored

theorem updateValidator_final (val : Validator) (st : Guarded ManagerState) :
    (onStaking (updateValidator val) st).final = st ∨ (onStaking (updateValidator val) st).final =
        (onStaking (setValidator val.address val) st).final := by
  unfold onStaking updateValidator
  cases found : st.data.staking.world.validators.find? val.address with
  | none =>
    have missing : getValidator val.address st.data.staking =
        .error s!"validator {text val.address} not found" st.data.staking := by
      simp only [getValidator, found]
    rw [bind_error missing]
    exact .inl rfl
  | some entry =>
  have here : getValidator val.address st.data.staking = .ok entry.2 st.data.staking := by
    simp only [getValidator, found]
  rw [bind_ok here]
  cases validateAddress val.address with
  | error => exact .inl rfl
  | ok => exact .inr rfl

theorem keepsRecord_updateValidator (fits : holds val) :
    KeepsRecord addr holds (onStaking (updateValidator val)) := by
  intro st recorded
  rcases updateValidator_final val st with same | written
  · rwa [same]
  · rw [written]
    exact keepsRecord_setValidator val.address fits st recorded

theorem keepsRecord_assign (other : Address) (fits : holds val) :
    KeepsRecord addr holds (assignValidator other val) :=
  (keepsRecord_setValidator other fits).seq fun _ => keepsRecord_updateValidator fits

theorem getValidator_missing (st : Guarded ManagerState) (missing : st.data.validators.find? addr = none) :
    onStaking (getValidator addr) st = .error (.refused s!"validator {text addr} not found") st := by
  unfold ManagerState.validators at missing
  simp only [onStaking, getValidator, missing]

theorem getValidator_found (st : Guarded ManagerState) {entry : Address × Validator}
    (found : st.data.validators.find? addr = some entry) :
    onStaking (getValidator addr) st = .ok entry.2 st := by
  unfold ManagerState.validators at found
  simp only [onStaking, getValidator, found]

theorem keepsRecord_look {other : Address} :
    KeepsRecord addr holds (onStaking (getValidator other)) := by
  intro st recorded
  unfold onStaking getValidator
  cases st.data.staking.world.validators.find? other <;> exact recorded

theorem keepsRecord_getValidator {relabel : Halt String → Halt String}
    {next : Validator → ManagerM α} (keeps : ∀ val, holds val → KeepsRecord addr holds (next val)) :
    KeepsRecord addr holds ((onStaking (getValidator addr)).adaptExcept relabel >>= next) := by
  intro st recorded
  cases found : st.data.validators.find? addr with
  | none =>
    rw [adapt_error (getValidator_missing _ found)]
    exact recorded
  | some entry =>
    rw [adapt_ok (getValidator_found _ found)]
    exact keeps entry.2 (recorded entry found) st recorded

theorem keepsRecord_replaceValidator (other : Address) (fits : holds val) :
    KeepsRecord addr holds (onStaking (replaceValidator other val)) := by
  intro st recorded
  have written := keepsRecord_setValidator other fits st recorded
  unfold onStaking replaceValidator
  split_ifs
  · exact recorded
  · cases validateAddress other with
    | error => exact recorded
    | ok => exact written

theorem keepsRecord_update {change : ManagerState → ManagerState}
    (same : ∀ st, (change st).validators = st.validators) :
    KeepsRecord addr holds (Guarded.update change) := by
  intro st recorded entry found
  have kept : (change st.data).validators.find? addr = some entry := found
  rw [same] at kept
  exact recorded entry kept

end OnRecord

section Slashed

variable {addr : Address}

def Down (val : Validator) : Prop := val.active = false

theorem keepsRecord_removeValidator (cfg : ManagerConfig) :
    KeepsRecord addr Down (removeValidator cfg addr) := by
  refine keepsRecord_getValidator fun val down => (keepsRecord_time cfg).seq fun now => ?_
  have fits : Down { val with
    active := false
    jailUntil := unixAfter now (365 * secondsPerDay) } := rfl
  exact (keepsRecord_setValidator addr fits).seq fun _ =>
    (keepsRecord_replaceValidator addr fits).adaptExcept _

variable {val : Validator} {after before : Guarded ManagerState} {cfg : ManagerConfig}
   {reason : SlashingReason} {ev : Bytes}

theorem keepsRecord_removeOrUpdate
    (down : Down val) : KeepsRecord addr Down (removeOrUpdate cfg addr val) := by
  refine (keepsRecord_attempt (keepsRecord_removeValidator cfg)).seq fun outcome => ?_
  cases outcome with
  | ok => exact fun _ => id
  | error =>
    exact (keepsRecord_attempt (keepsRecord_updateValidator down)).seq fun _ => fun _ => id

theorem keepsRecord_enforce (newSlashCount newStake : Nat) (down : Down val) :
    KeepsRecord addr Down (enforce cfg addr reason newSlashCount newStake val) := by
  unfold enforce
  split_ifs
  any_goals exact keepsRecord_removeOrUpdate down
  exact (keepsRecord_updateValidator down).adaptExcept _

theorem onRecord_found {holds : Validator → Prop} {st : Guarded ManagerState}
    (found : st.data.validators.find? addr = some (addr, val)) (fits : holds val) :
    OnRecord addr holds st := by
  intro entry stored
  cases stored.symm.trans found
  exact fits

theorem onRecord_written {holds : Validator → Prop} {st : Guarded ManagerState}
    (written : onStaking (setValidator addr val) st = .ok () after)
    (fits : holds val) : OnRecord addr holds after := by
  cases written
  exact onRecord_found ((KeyedMap.find?_insert _ _ _).trans (if_pos rfl)) fits

theorem applySlash_down {duration : Int}
    (ran : applySlash cfg addr reason ev duration val before = .ok () after) :
    OnRecord addr Down after := by
  obtain ⟨st, _, _, ran⟩ := bind_ok_iff.mp ran
  obtain ⟨_, _, _, ran⟩ := bind_ok_iff.mp ran
  obtain ⟨_, _, _, ran⟩ := bind_ok_iff.mp ran
  split at ran
  · cases ran
  obtain ⟨_, _, _, ran⟩ := bind_ok_iff.mp ran
  -- from here on the record is that of an inactive validator
  obtain ⟨_, inactive, written, ran⟩ := bind_ok_iff.mp ran
  have down : OnRecord addr Down inactive := onRecord_written written rfl
  refine Leads.of_ok ?_ down ran
  refine (keepsRecord_time cfg).seq fun timestamp => ?_
  refine (keepsRecord_update fun _ => by rfl).seq fun _ => ?_
  refine (keepsRecord_update fun st => ?_).seq fun _ => keepsRecord_enforce _ _ rfl
  exact congrArg (fun staking => staking.world.validators) (putMetrics_staking addr _ st)

theorem slashValidator_down (ran : slashValidator cfg addr reason ev before = .ok () after) :
    OnRecord addr Down after := by
  unfold slashValidator exclusively at ran
  split at ran
  · cases ran
  cases inner : slashLocked cfg addr reason ev { before with held := true } with
  | error =>
    rw [inner] at ran
    cases ran
  | ok _ middle =>
  rw [inner] at ran
  cases ran
  obtain ⟨_, _, _, inner⟩ := bind_ok_iff.mp inner
  split at inner
  · cases inner
  obtain ⟨st, _, _, inner⟩ := bind_ok_iff.mp inner
  cases known : jailDuration (st.eventsOf addr).length reason with
  | none =>
    simp only [known] at inner
    cases inner
  | some =>
    simp only [known] at inner
    have down : OnRecord addr Down middle := applySlash_down inner
    exact down

theorem processJailing_down {cfg : LifecycleConfig} {duration : Int64}
    (ran : processJailing cfg addr reason duration before = .ok () after) :
    OnRecord addr Down after := by
  obtain ⟨_, _, _, ran⟩ := bind_ok_iff.mp ran
  obtain ⟨_, _, _, ran⟩ := bind_ok_iff.mp ran
  obtain ⟨_, _, slashed, ran⟩ := bind_ok_iff.mp ran
  have down := slashValidator_down (adaptExcept_ok_iff.mp slashed)
  refine Leads.of_ok ?_ down ran
  refine keepsRecord_getValidator fun val down => ?_
  refine Leads.adaptExcept (keepsRecord_assign addr ?_) _
  exact down

end Slashed

def Grounded (cfg : LifecycleConfig) (val : Validator) : Prop :=
  val.active = false ∧ belowMinimum cfg val

theorem LifecycleCall.keepsGrounded (cfg : LifecycleConfig) (addr : Address) (call : LifecycleCall) :
    KeepsRecord addr (Grounded cfg) (call.run cfg addr) := by
  have slashed : ∀ reason ev,
      KeepsRecord addr (Grounded cfg) (slashValidator cfg.toManagerConfig addr reason ev) := by
    intro reason ev
    refine keepsRecord_exclusively (keepsRecord_getValidator fun val grounded => ?_)
    rw [if_pos (by simp [grounded.1])]
    exact keepsRecord_throw _
  have unjailed : KeepsRecord addr (Grounded cfg) (unjailValidator cfg addr) := by
    refine keepsRecord_exclusively (keepsRecord_getValidator fun val grounded => ?_)
    refine (keepsRecord_time _).seq fun first => ?_
    split
    · exact keepsRecord_throw _
    · refine (keepsRecord_time _).seq fun second => ?_
      split
      · exact keepsRecord_throw _
      · rw [if_pos grounded.2]
        exact keepsRecord_throw _
  have activated : KeepsRecord addr (Grounded cfg) (activateValidator cfg addr) := by
    refine keepsRecord_exclusively (keepsRecord_getValidator fun val grounded => ?_)
    rw [if_pos grounded.2]
    exact keepsRecord_throw _
  have reads : KeepsRecord addr (Grounded cfg) Guarded.read := fun _ => id
  cases call with
  | slash reason ev => exact slashed reason ev
  | unjail => exact unjailed
  | activate => exact activated
  | deactivate =>
    exact keepsRecord_exclusively (keepsRecord_getValidator fun val grounded =>
      keepsRecord_assign addr ⟨rfl, grounded.2⟩)
  | jailing reason =>
    refine keepsRecord_getValidator fun val grounded => reads.seq fun st => ?_
    refine (slashed reason []).adapted fun _ => ?_
    refine keepsRecord_getValidator fun val grounded => ?_
    exact (keepsRecord_assign addr ⟨grounded.1, grounded.2⟩).adaptExcept _
  | unjailing =>
    refine keepsRecord_getValidator fun val grounded => reads.seq fun st => ?_
    dsimp only
    split
    · exact keepsRecord_throw _
    · refine unjailed.adapted fun _ => ?_
      refine keepsRecord_look.seq fun released => ?_
      split
      · exact (keepsRecord_attempt activated).seq fun _ => fun _ => id
      · exact fun _ => id

structure Occasion where
  clock : Nat → Int
  height : Int64

namespace Occasion

def config (occasion : Occasion) (cfg : LifecycleConfig) : LifecycleConfig :=
  { cfg with clock := occasion.clock }

def state (occasion : Occasion) (st : Guarded ManagerState) : Guarded ManagerState :=
  { st with data := { st.data with staking := { st.data.staking with
    world := { st.data.staking.world with height := occasion.height } } } }

def Follows (occasion : Occasion) (now height : Int64) : Prop :=
  (∀ tick, now ≤ unixSeconds (occasion.clock tick)) ∧ height ≤ occasion.height

def Within (occasion : Occasion) (ends : Int) : Prop :=
  ∀ tick, (unixSeconds (occasion.clock tick)).toInt < ends

def Past (occasion : Occasion) (ends : Int) : Prop :=
  ∀ tick, ends ≤ (unixSeconds (occasion.clock tick)).toInt

end Occasion

def lifecycleStep (cfg : LifecycleConfig) (addr : Address) (st : Guarded ManagerState)
    (call : Occasion × LifecycleCall) : Option (Guarded ManagerState) :=
  some (call.2.run (call.1.config cfg) addr (call.1.state st)).final

inductive Jailing (cfg : LifecycleConfig) (addr : Address) (before after : Guarded ManagerState) :
    Int → Prop where
  | slash (reason : SlashingReason) (ev : Bytes) (period : Int)
      (known : jailDuration (before.data.eventsOf addr).length reason = some period)
      (ran : slashValidator cfg.toManagerConfig addr reason ev before = .ok () after) :
      Jailing cfg addr before after period
  | lifecycle (reason : SlashingReason) (duration : Int64)
      (ran : processJailing cfg addr reason duration before = .ok () after) :
      Jailing cfg addr before after (wholeSeconds duration.toInt)

variable {cfg : LifecycleConfig} {addr : Address} {after st : Guarded ManagerState}

theorem Jailing.down {before : Guarded ManagerState} {period : Int}
    (jailing : Jailing cfg addr before after period) : OnRecord addr Down after := by
  cases jailing with
  | slash _ _ _ _ ran => exact slashValidator_down ran
  | lifecycle _ _ ran => exact processJailing_down ran

def ManagerState.height (st : ManagerState) : Int64 := st.staking.world.height

def ManagerState.ticks (st : ManagerState) : Nat := st.staking.world.ticks

structure SentenceServed (cfg : LifecycleConfig) (addr : Address) (jailed : Guarded ManagerState)
    (val : Validator) (now : Int64) (ends : Int) : Prop where
  barred : ∀ st, Run (lifecycleStep cfg addr)
      (fun _ call => call.1.Follows now jailed.data.height ∧ call.1.Within ends) jailed st →
    ∀ occasion : Occasion, occasion.Follows now jailed.data.height → occasion.Within ends →
      ∀ (tick : Nat) (blk : Block), blk.header.validator = addr →
        BlockValidator.validateProposer (occasion.clock tick)
          (occasion.state st).data.staking.world blk ≠ .ok ()
  released : ¬ belowMinimum cfg val →
    ∃ occasion : Occasion, occasion.Follows now jailed.data.height ∧ occasion.Past ends ∧
      ∃ call ∈ [LifecycleCall.unjail, LifecycleCall.unjailing], ∃ after,
        call.run (occasion.config cfg) addr (occasion.state jailed) = .ok () after
  agreed : ∀ occasion : Occasion, occasion.Follows now jailed.data.height → ∀ tick,
    (isJailed val (occasion.clock tick) = true ↔
      getValidatorState cfg occasion.height val = .jailed)

theorem getValidatorState_jailed_iff (height : Int64) (val : Validator) :
    getValidatorState cfg height val = .jailed ↔ height < val.jailUntil := by
  unfold getValidatorState
  split_ifs <;> simp_all

theorem isJailed_iff (val : Validator) (now : Int) :
    isJailed val now = true ↔ unixSeconds now < val.jailUntil := by
  exact decide_eq_true_iff

theorem getValidator_state {val : Validator}
    (got : onStaking (getValidator addr) st = .ok val after) : after = st := by
  cases found : st.data.validators.find? addr with
  | none => cases (getValidator_missing _ found).symm.trans got
  | some =>
    cases (getValidator_found _ found).symm.trans got
    rfl

theorem unjailValidator_ok (ran : unjailValidator cfg addr st = .ok () after) :
    ∃ entry, st.data.validators.find? addr = some entry ∧
      unixSeconds (cfg.clock st.data.ticks) < entry.2.jailUntil := by
  unfold unjailValidator exclusively at ran
  split at ran
  · cases ran
  cases found : st.data.validators.find? addr with
  | none =>
    rw [adapt_error (getValidator_missing { st with held := true } found)] at ran
    cases ran
  | some entry =>
  refine ⟨entry, rfl, ?_⟩
  rw [adapt_ok (getValidator_found { st with held := true } found)] at ran
  by_contra free
  have first : time cfg.toManagerConfig { st with held := true } =
      .ok (cfg.clock st.data.ticks) _ := rfl
  rw [bind_ok first, if_pos fun jailed => free ((isJailed_iff _ _).mp jailed)] at ran
  cases ran

theorem release_refused (served : OnRecord addr (fun val =>
      ∀ tick, val.jailUntil ≤ unixSeconds (cfg.clock tick)) st)
    {call : LifecycleCall}
    (release : call ∈ [LifecycleCall.unjail, LifecycleCall.unjailing]) :
    call.run cfg addr st ≠ .ok () after := by
  have refused : ∀ after, unjailValidator cfg addr st ≠ .ok () after := by
    intro after ran
    obtain ⟨entry, found, serving⟩ := unjailValidator_ok ran
    exact Int64.not_lt.mpr (served entry found _) serving
  rcases List.mem_pair.mp release with rfl | rfl
  · exact refused after
  intro ran
  obtain ⟨_, middle, got, ran⟩ := bind_ok_iff.mp ran
  have same : middle = st := getValidator_state (adaptExcept_ok_iff.mp got)
  obtain ⟨_, _, looked, ran⟩ := bind_ok_iff.mp ran
  cases looked
  split at ran
  · cases ran
  · obtain ⟨_, _, unjailed, _⟩ := bind_ok_iff.mp ran
    rw [same] at unjailed
    exact refused _ (adaptExcept_ok_iff.mp unjailed)

theorem unixSeconds_toInt (seconds : Int64) :
    unixSeconds (seconds.toInt * nanosPerSecond) = seconds := by
  unfold unixSeconds
  rw [Int.mul_ediv_cancel _ (by decide)]
  exact Int64.ofInt_toInt seconds

theorem agreed_iff (cfg : LifecycleConfig) (val : Validator) (now height : Int64) :
    (∀ occasion : Occasion, occasion.Follows now height → ∀ tick,
      (isJailed val (occasion.clock tick) = true ↔
        getValidatorState cfg occasion.height val = .jailed)) ↔
      val.jailUntil ≤ height ∧ val.jailUntil ≤ now := by
  simp only [isJailed_iff, getValidatorState_jailed_iff]
  constructor
  · intro agreed
    have standing (seconds : Int64) (later : now ≤ seconds) :
        seconds < val.jailUntil ↔ height < val.jailUntil := by
      have seen := agreed ⟨fun _ => seconds.toInt * nanosPerSecond, height⟩
        ⟨fun _ => (unixSeconds_toInt seconds).symm ▸ later, Int64.le_refl _⟩ 0
      rwa [unixSeconds_toInt] at seen
    have low : val.jailUntil ≤ height := by
      apply Int64.not_lt.mp
      rcases Int64.le_total now val.jailUntil with before | served
      · exact (standing _ before).not.mp Int64.lt_irrefl
      · exact (standing now (Int64.le_refl _)).not.mp (Int64.not_lt.mpr served)
    refine ⟨low, Int64.not_lt.mp ?_⟩
    exact (standing now (Int64.le_refl _)).not.mpr (Int64.not_lt.mpr low)
  · rintro ⟨low, early⟩ _ ⟨later, higher⟩ tick
    exact iff_of_false (Int64.not_lt.mpr (Int64.le_trans early (later tick)))
      (Int64.not_lt.mpr (Int64.le_trans low higher))

theorem OnRecord.occasion {holds : Validator → Prop}
    (recorded : OnRecord addr holds st) (occasion : Occasion) :
    OnRecord addr holds (occasion.state st) := recorded

theorem grounded_of_run {allowed : Guarded ManagerState → Occasion × LifecycleCall → Prop}
    {jailed : Guarded ManagerState} (run : Run (lifecycleStep cfg addr) allowed jailed st)
    (grounded : OnRecord addr (Grounded cfg) jailed) : OnRecord addr (Grounded cfg) st := by
  refine run.keeps (OnRecord addr (Grounded cfg)) grounded ?_
  intro st call after grounded _ made
  cases made
  exact call.2.keepsGrounded (call.1.config cfg) addr _ (grounded.occasion call.1)

theorem validateProposer_down (down : OnRecord addr Down st) (now : Int) {blk : Block}
    (proposer : blk.header.validator = addr) :
    BlockValidator.validateProposer now st.data.staking.world blk ≠ .ok () := by
  intro ok
  unfold BlockValidator.validateProposer at ok
  cases found : st.data.staking.world.validators.find? blk.header.validator with
  | none =>
    simp only [found] at ok
    cases ok
  | some entry =>
  simp only [found] at ok
  have inactive : entry.2.active = false := down entry (proposer ▸ found)
  unfold BlockValidator.checkStanding at ok
  rw [if_pos (by simp [inactive])] at ok
  cases ok

/-- A sentence is served exactly when it was over before it began and the validator has too little
stake to be released. -/
theorem sentence_served_iff (cfg : LifecycleConfig) (addr : Address)
    (before after : Guarded ManagerState) (period : Int)
    (jailing : Jailing cfg addr before after period) (val : Validator)
    (found : after.data.validators.find? addr = some (addr, val)) :
    let now := unixSeconds (cfg.clock after.data.ticks)
    let ends := wholeSeconds (cfg.clock before.data.ticks) + period
    (SentenceServed cfg addr after val now ends ↔
      belowMinimum cfg val ∧ val.jailUntil ≤ after.data.height ∧ val.jailUntil ≤ now) ∧
    ∀ occasion : Occasion, (∀ tick, val.jailUntil ≤ unixSeconds (occasion.clock tick)) →
      ∀ call ∈ [LifecycleCall.unjail, LifecycleCall.unjailing], ∀ released,
        call.run (occasion.config cfg) addr (occasion.state after) ≠ .ok () released := by
  intro now ends
  have expired {occasion : Occasion}
      (past : ∀ tick, val.jailUntil ≤ unixSeconds (occasion.clock tick)) :
      OnRecord addr (fun val =>
        ∀ tick, val.jailUntil ≤ unixSeconds ((occasion.config cfg).clock tick))
        (occasion.state after) := onRecord_found found past
  refine ⟨⟨?_, ?_⟩, fun occasion past call release released =>
    release_refused (expired past) release⟩
  · intro served
    obtain ⟨low, early⟩ := (agreed_iff cfg val now after.data.height).mp served.agreed
    refine ⟨by_contra fun enough => ?_, low, early⟩
    obtain ⟨occasion, follows, _, _, release, released, ran⟩ := served.released enough
    exact release_refused (expired fun tick => Int64.le_trans early (follows.1 tick)) release ran
  · rintro ⟨poor, low, early⟩
    refine ⟨?_, fun enough => absurd poor enough,
      (agreed_iff cfg val now after.data.height).mpr ⟨low, early⟩⟩
    intro st run occasion _ _ tick blk proposer
    have grounded : OnRecord addr (Grounded cfg) after :=
      onRecord_found found ⟨jailing.down _ found, poor⟩
    have down : OnRecord addr Down (occasion.state st) := fun entry stored =>
      ((grounded_of_run run grounded).occasion occasion entry stored).1
    exact validateProposer_down down _ proposer

def jailerConfig : LifecycleConfig where
  toStakingConfig := { sampleStaking with
    clock := fun _ => 1700000000 * nanosPerSecond
    minValidatorStake := 10 }
  performanceWindow := 1
  belowMinSigned := fun _ _ => true
  maxSlashingEvents := 3
  retentionPercent := 50
  autoRemoveOnDoubleSign := true
  slashPortion := fun _ stake => stake / 5
  penalises := fun _ => true
  minSelfStake := 10

def oneValidator : Guarded ManagerState :=
  ⟨false, ⟨⟨sampleChain [] [sampleValidator 97 40 1], 40, []⟩, KeyedMap.empty, KeyedMap.empty,
    KeyedMap.empty⟩⟩

def jailedByManager : Guarded ManagerState :=
  ((LifecycleCall.slash .downtime []).run jailerConfig (sampleAddress 97) oneValidator).final

def jailedByLifecycle : Guarded ManagerState :=
  ((LifecycleCall.jailing .downtime 86400000000000).run jailerConfig (sampleAddress 97)
    oneValidator).final

def jailedRecord : Validator := { (sampleValidator 97 40 1).2 with
  stake := [32]
  selfStake := [32]
  active := false
  jailUntil := 1700086400 }

theorem a_day_is_not_served :
    ¬ SentenceServed jailerConfig (sampleAddress 97) jailedByManager jailedRecord
      (unixSeconds (jailerConfig.clock jailedByManager.data.ticks))
      (wholeSeconds (jailerConfig.clock oneValidator.data.ticks) + secondsPerDay) := by
  have ran : slashValidator jailerConfig.toManagerConfig (sampleAddress 97) .downtime []
      oneValidator = .ok () jailedByManager :=
    EStateM.Result.eq_ok_of_value? (by decide +kernel)
  intro served
  have condition := (sentence_served_iff jailerConfig (sampleAddress 97) oneValidator jailedByManager
    secondsPerDay (.slash .downtime [] secondsPerDay (by decide +kernel) ran) jailedRecord
    (by decide +kernel)).1.mp served
  exact absurd condition.1 (by decide +kernel)

/-- A day later only the lifecycle manager releases the validator; one it has jailed for a day can
be active at once. -/
theorem a_sentence_in_two_units :
    let addr := sampleAddress 97
    let later : Occasion := ⟨fun _ => 1700086401 * nanosPerSecond, 100⟩
    let free := (LifecycleCall.activate.run jailerConfig addr jailedByLifecycle).final
    jailedByManager.data.validators.find? addr = some (addr, jailedRecord) ∧
      (LifecycleCall.unjail.run (later.config jailerConfig) addr (later.state jailedByManager)).outcome.1 =
        .error (.refused "validator is not jailed") ∧
      isJailed jailedRecord (later.clock 0) = false ∧
      getValidatorState jailerConfig later.height jailedRecord = .jailed ∧
      BlockValidator.validateProposer (jailerConfig.clock 0) free.data.staking.world
        (sampleBlock 101 [] [] []) = .ok () := by
  decide +kernel

end Thrylos
