import Thrylos.SlashingEffects
import Thrylos.Staking

/-!
`RecordBlockProposal` and `SlashValidator` of `consensus/validator/validator.go`. Block counters,
time stamps and the uptime percentage are left out.
-/

namespace Thrylos

open Guarded (attempt exclusively read stuck update)

inductive SlashingReason where
  | doubleSign
  | downtime
  | invalidBlock
  | other (name : String)
  deriving DecidableEq

def SlashingReason.name : SlashingReason → String
  | .doubleSign => "double_sign"
  | .downtime => "downtime"
  | .invalidBlock => "invalid_block"
  | .other name => name

structure JailEvent where
  reason : SlashingReason
  jailTime : Int64
  duration : Int
  deriving DecidableEq

structure ValidatorMetrics where
  blocksProposed : UInt64
  blocksMissed : UInt64
  attestationsMade : UInt64
  attestationsMissed : UInt64
  slashCount : Nat
  totalSlashed : Int
  jailHistory : List JailEvent
  deriving DecidableEq

structure SlashingEvent where
  reason : SlashingReason
  amount : Int
  blockHeight : Int64
  timestamp : Int
  evidence : Bytes
  deriving DecidableEq

/-- An entry of the manager's own unbonding queue, which is not the world state's. -/
structure PendingUnbonding where
  validatorAddress : Address
  amount : Int
  deriving DecidableEq

abbrev PendingUnbondings := KeyedMap (Prod.fst : Address × List PendingUnbonding → Address)

structure ManagerState where
  staking : StakingState
  validatorMetrics : KeyedMap (Prod.fst : Address × ValidatorMetrics → Address)
  slashingEvents : KeyedMap (Prod.fst : Address × List SlashingEvent → Address)
  unbondingQueue : PendingUnbondings

/-- Big-float results: `slashPortion` of a stake, whether the fraction is positive (`penalises`),
the signed share against the limit, and the retained share of the minimum stake. -/
structure ManagerConfig extends StakingConfig where
  performanceWindow : Int64
  belowMinSigned : UInt64 → UInt64 → Bool
  maxSlashingEvents : Int
  retentionPercent : Int
  autoRemoveOnDoubleSign : Bool
  slashPortion : SlashingReason → Nat → Int
  penalises : SlashingReason → Bool

instance : CoeOut ManagerConfig StakingConfig := ⟨ManagerConfig.toStakingConfig⟩

abbrev ManagerM := EStateM (Halt String) (Guarded ManagerState)

def ManagerState.metricsOf (st : ManagerState) (addr : Address) : Option ValidatorMetrics :=
  (st.validatorMetrics.find? addr).map Prod.snd

def ManagerState.eventsOf (st : ManagerState) (addr : Address) : List SlashingEvent :=
  match st.slashingEvents.find? addr with
  | none => []
  | some entry => entry.2

def onStaking {α : Type} (prog : StakingM α) : ManagerM α := fun st =>
  match prog st.data.staking with
  | .ok value staking => .ok value { st with data := { st.data with staking } }
  | .error err staking =>
    .error (.refused err) { st with data := { st.data with staking } }

def ValidatorMetrics.slashed (metrics : ValidatorMetrics) (reason : SlashingReason) (amt : Int)
    (jailUntil : Int64) (duration : Int) : ValidatorMetrics :=
  { metrics with
    slashCount := metrics.slashCount + 1
    totalSlashed := metrics.totalSlashed + amt
    jailHistory := metrics.jailHistory ++ [⟨reason, jailUntil, duration⟩] }

def ValidatorMetrics.totalActivity (metrics : ValidatorMetrics) : UInt64 :=
  metrics.blocksProposed + metrics.blocksMissed + metrics.attestationsMade +
    metrics.attestationsMissed

def ValidatorMetrics.signed (metrics : ValidatorMetrics) : UInt64 :=
  metrics.blocksProposed + metrics.attestationsMade

def ValidatorMetrics.recorded (metrics : ValidatorMetrics) (success : Bool) : ValidatorMetrics :=
  if success then { metrics with blocksProposed := metrics.blocksProposed + 1 }
  else { metrics with blocksMissed := metrics.blocksMissed + 1 }

def ManagerState.putMetrics (addr : Address) (change : ValidatorMetrics → ValidatorMetrics)
    (st : ManagerState) : ManagerState :=
  match st.metricsOf addr with
  | none => st
  | some metrics => { st with
      validatorMetrics := st.validatorMetrics.insert (addr, change metrics) }

variable (cfg : ManagerConfig)

namespace ValidatorManager

def time : ManagerM Int :=
  onStaking (onWorldState (readClock cfg))

/-- `WorldState.GetValidator`. -/
def getValidator (addr : Address) : StakingM Validator := fun st =>
  match st.world.validators.find? addr with
  | none => .error s!"validator {text addr} not found" st
  | some entry => .ok entry.2 st

/-- `WorldState.UpdateValidator`. -/
def updateValidator (val : Validator) : StakingM Unit := do
  let _ ← getValidator val.address
  ofExcept ((validateAddress val.address).mapError ("invalid validator address: " ++ ·))
  setValidator val.address val

/-- `WorldState.SetValidator`. -/
def replaceValidator (addr : Address) (val : Validator) : StakingM Unit := do
  if val.address ≠ addr then throw "validator address mismatch"
  else
    ofExcept ((validateAddress addr).mapError ("invalid validator address: " ++ ·))
    setValidator addr val

def secondsPerDay : Int := 86400

def unixAfter (now seconds : Int) : Int64 := Int64.ofInt (wholeSeconds now + seconds)

/-- The object in the map is changed first, whatever `SetValidator` then says of it. -/
def removeValidator (addr : Address) : ManagerM Unit := do
  let val ← (onStaking (getValidator addr)).adaptExcept (naming "validator not found: ")
  let now ← time cfg
  let val := { val with active := false, jailUntil := unixAfter now (365 * secondsPerDay) }
  onStaking (setValidator addr val)
  (onStaking (replaceValidator addr val)).adaptExcept (naming "failed to update validator: ")

def slashPending (valAddr : Address) :
    List PendingUnbonding → (remainingSlash remainingBase : Int) → List PendingUnbonding
  | [], _, _ => []
  | entry :: rest, remainingSlash, remainingBase =>
    if entry.validatorAddress ≠ valAddr ∨ entry.amount ≤ 0 then
      entry :: slashPending valAddr rest remainingSlash remainingBase
    else
      let entrySlash := if 0 < remainingSlash ∧ 0 < remainingBase
        then min (remainingSlash * entry.amount / remainingBase) entry.amount else 0
      { entry with amount := entry.amount - entrySlash } ::
        slashPending valAddr rest (remainingSlash - entrySlash) (remainingBase - entry.amount)

def applySlashToPendingUnbondings (queue : PendingUnbondings) (delAddr valAddr : Address)
    (totalDelegation delegatorSlash : Int) : PendingUnbondings :=
  if delegatorSlash ≤ 0 ∨ totalDelegation ≤ 0 then queue
  else
    match queue.find? delAddr with
    | none => queue
    | some (_, entries) =>
      queue.insert (delAddr, slashPending valAddr entries delegatorSlash totalDelegation)

/-- What the loop over the delegators leaves. It panics where it divides by a remaining stake of
zero. -/
structure Apportioned where
  delegators : Delegations
  queue : PendingUnbondings
  panics : Bool

def shareSlash (last : Bool) (remainingSlash remainingStake amt : Int) : Int :=
  if remainingSlash ≤ 0 then 0
  else if last ∨ remainingStake = amt then min remainingSlash amt
  else min (remainingSlash * amt / remainingStake) amt

def apportion (valAddr : Address) : List (Address × Bytes) →
    (remainingSlash remainingStake : Int) → Delegations → PendingUnbondings → Apportioned
  | [], _, _, delegators, queue => ⟨delegators, queue, false⟩
  | (addr, raw) :: rest, remainingSlash, remainingStake, delegators, queue =>
    let amt : Int := parseBigInt raw
    if amt ≤ 0 then
      apportion valAddr rest remainingSlash remainingStake (delegators.erase addr) queue
    else if 0 < remainingSlash ∧ rest ≠ [] ∧ remainingStake = 0 then ⟨delegators, queue, true⟩
    else
      let share := shareSlash rest.isEmpty remainingSlash remainingStake amt
      let newAmount := amt - share
      let delegators := if newAmount ≤ 0 then delegators.erase addr
        else delegators.insert (addr, BigEndian.encode newAmount.toNat)
      apportion valAddr rest (remainingSlash - share) (remainingStake - amt) delegators
        (applySlashToPendingUnbondings queue addr valAddr amt share)

/-- What `applySlashToDelegatedStake` makes of a validator and of the queue. -/
def applySlashToDelegatedStake (val : Validator) (queue : PendingUnbondings)
    (slashAmount : Int) : Validator × PendingUnbondings × Bool :=
  let totalStake : Int := parseBigInt val.stake
  if slashAmount ≤ 0 ∨ totalStake = 0 then (val, queue, false)
  else
    let selfStake : Int := parseBigInt val.selfStake
    let delegatedStake : Int := parseBigInt val.delegatedStake
    let delegatedSlash := min (slashAmount * delegatedStake / totalStake) delegatedStake
    let selfSlash := min (slashAmount - delegatedSlash) selfStake
    let slashed := { val with
      selfStake := BigEndian.encode (selfStake - selfSlash).toNat
      delegatedStake := BigEndian.encode (delegatedStake - delegatedSlash).toNat }
    if delegatedSlash = 0 then (slashed, queue, false)
    else
      let apportioned := apportion val.address val.delegators.entries delegatedSlash
        delegatedStake val.delegators queue
      ({ slashed with delegators := apportioned.delegators }, apportioned.queue, apportioned.panics)

/-- In seconds, and none for an unknown reason. Repeated downtime jails for longer. -/
def jailDuration (slashCount : Nat) : SlashingReason → Option Int
  | .doubleSign => some (30 * secondsPerDay)
  | .downtime =>
    match slashCount with
    | 0 => some secondsPerDay
    | 1 => some (7 * secondsPerDay)
    | _ => some (30 * secondsPerDay)
  | .invalidBlock => some secondsPerDay
  | .other _ => none

def slashAmount (reason : SlashingReason) (stake : Nat) : Int :=
  let portion := cfg.slashPortion reason stake
  if cfg.penalises reason ∧ portion = 0 then 1 else portion

def maxEvents : Int :=
  if 0 < cfg.maxSlashingEvents then cfg.maxSlashingEvents else 3

def safetyThreshold : Int :=
  cfg.minValidatorStake * cfg.retentionPercent / 100

def removeOrUpdate (addr : Address) (val : Validator) : ManagerM Unit := do
  match ← attempt (removeValidator cfg addr) with
  | .ok () => return ()
  | .error _ =>
    let _ ← attempt (onStaking (updateValidator val))
    return ()

/-- The four enforcement rules that end `SlashValidator`. -/
def enforce (addr : Address) (reason : SlashingReason)
    (newSlashCount newStake : Nat) (val : Validator) : ManagerM Unit :=
  if reason = .doubleSign ∧ cfg.autoRemoveOnDoubleSign = true then
    removeOrUpdate cfg addr val
  else if maxEvents cfg ≤ newSlashCount then removeOrUpdate cfg addr val
  else if (newStake : Int) < safetyThreshold cfg then
    removeOrUpdate cfg addr val
  else (onStaking (updateValidator val)).adaptExcept (naming "failed to update slashed validator: ")

def applySlash (addr : Address) (reason : SlashingReason)
    (ev : Bytes) (duration : Int) (val : Validator) : ManagerM Unit := do
  let st ← read
  let slashCount := (st.eventsOf addr).length
  let amt := slashAmount cfg reason (parseBigInt val.stake)
  let (slashed, queue, panics) := applySlashToDelegatedStake val st.unbondingQueue amt
  update fun st => { st with unbondingQueue := queue }
  onStaking (setValidator addr slashed)
  if panics then throw (.panic "division by zero")
  else
    let now ← time cfg
    let jailUntil := unixAfter now duration
    let newStake := (parseBigInt val.stake - amt).toNat
    let slashed := { slashed with stake := BigEndian.encode newStake, jailUntil, active := false }
    onStaking (setValidator addr slashed)
    let timestamp ← time cfg
    update fun st => { st with
      slashingEvents := st.slashingEvents.insert (addr, st.eventsOf addr ++
        [⟨reason, amt, st.staking.world.height, wholeSeconds timestamp, ev⟩]) }
    update (ManagerState.putMetrics addr (·.slashed reason amt jailUntil duration))
    enforce cfg addr reason (slashCount + 1) newStake slashed

def slashLocked (addr : Address) (reason : SlashingReason) (ev : Bytes) : ManagerM Unit := do
  let val ← (onStaking (getValidator addr)).adaptExcept (naming "validator not found: ")
  if ¬ val.active then
    throw (.refused s!"cannot slash validator {text addr}: validator is not active")
  else
    let st ← read
    match jailDuration (st.eventsOf addr).length reason with
    | none => throw (.refused s!"unknown slashing reason: {reason.name}")
    | some duration => applySlash cfg addr reason ev duration val

def slashValidator (addr : Address) (reason : SlashingReason) (ev : Bytes) : ManagerM Unit :=
  exclusively (slashLocked cfg addr reason ev)

def offline (metrics : ValidatorMetrics) : Bool :=
  cfg.performanceWindow.toUInt64 ≤ metrics.totalActivity &&
    cfg.belowMinSigned (metrics.signed) (metrics.totalActivity)

def gracePeriod : Int64 := 100

def checkDowntimeSlashing (addr : Address) : ManagerM Unit := do
  let _ ← onStaking (getValidator addr)
  let st ← read
  if st.staking.world.height < gracePeriod then return ()
  else
    match st.metricsOf addr with
    | none => return ()
    | some metrics =>
      if offline cfg metrics then slashValidator cfg addr .downtime []
      else return ()

def recordBlockProposal (addr : Address) (success : Bool) : ManagerM Unit := exclusively do
  let val ← (onStaking (getValidator addr)).adaptExcept (naming "validator not found: ")
  update (ManagerState.putMetrics addr (·.recorded success))
  if success then onStaking (updateValidator val)
  else
    (checkDowntimeSlashing cfg addr).adaptExcept (naming "downtime check failed: ")
    onStaking (updateValidator val)

theorem stuck_onStaking {α : Type} (prog : StakingM α) (st : Guarded ManagerState) :
    stuck (onStaking prog st) = false := by
  unfold onStaking
  cases prog st.data.staking with
  | ok | error => rfl

theorem metricsOf_putMetrics (addr : Address) (change : ValidatorMetrics → ValidatorMetrics)
    (st : ManagerState) :
    (st.putMetrics addr change).metricsOf addr = (st.metricsOf addr).map change := by
  unfold ManagerState.putMetrics
  cases found : st.metricsOf addr with
  | none => exact found
  | some => simp [ManagerState.metricsOf]

theorem putMetrics_staking (addr : Address) (change : ValidatorMetrics → ValidatorMetrics)
    (st : ManagerState) : (st.putMetrics addr change).staking = st.staking := by
  unfold ManagerState.putMetrics
  cases st.metricsOf addr with
  | none | some => rfl

structure MissesTooMany (st : ManagerState) (addr : Address) : Prop where
  registered : (st.staking.world.validators.find? addr).isSome = true
  mature : gracePeriod ≤ st.staking.world.height
  offline : ∃ metrics, st.metricsOf addr = some metrics ∧
    offline cfg (metrics.recorded false) = true

theorem checkDowntimeSlashing_outcome {st : ManagerState}
    {addr : Address} (registered : (st.staking.world.validators.find? addr).isSome = true) :
    ((gracePeriod ≤ st.staking.world.height ∧ ∃ metrics, st.metricsOf addr = some metrics ∧
        offline cfg metrics = true) ∧
      checkDowntimeSlashing cfg addr ⟨true, st⟩ = .error .deadlock ⟨true, st⟩) ∨
    (¬ (gracePeriod ≤ st.staking.world.height ∧ ∃ metrics,
        st.metricsOf addr = some metrics ∧ offline cfg metrics = true) ∧
      checkDowntimeSlashing cfg addr ⟨true, st⟩ = .ok () ⟨true, st⟩) := by
  obtain ⟨entry, found⟩ := Option.isSome_iff_exists.mp registered
  have here : onStaking (getValidator addr) ⟨true, st⟩ = .ok entry.2 ⟨true, st⟩ := by
    simp only [onStaking, getValidator, found]
  unfold checkDowntimeSlashing
  rw [bind_ok here, bind_ok (show read _ = .ok st ⟨true, st⟩ from rfl)]
  by_cases young : st.staking.world.height < gracePeriod
  · rw [if_pos young]
    exact Or.inr ⟨fun holds => Int64.not_le.mpr young holds.1, rfl⟩
  rw [if_neg young]
  cases known : st.metricsOf addr with
  | none => exact Or.inr ⟨by rintro ⟨_, _, ⟨⟩, _⟩, rfl⟩
  | some metrics =>
  dsimp only
  by_cases missing : offline cfg metrics = true
  · rw [if_pos missing]
    exact Or.inl ⟨⟨Int64.not_lt.mp young, metrics, rfl, missing⟩, Guarded.exclusively_held rfl _⟩
  · rw [if_neg missing]
    refine Or.inr ⟨?_, rfl⟩
    rintro ⟨_, _, ⟨⟩, found⟩
    exact missing found

theorem recordBlockProposal_stuck_iff (addr : Address) (success : Bool) (st : ManagerState) :
    stuck (recordBlockProposal cfg addr success ⟨false, st⟩) = true ↔
      success = false ∧ MissesTooMany cfg st addr := by
  unfold recordBlockProposal
  rw [Guarded.stuck_exclusively]
  cases found : st.staking.world.validators.find? addr with
  | none =>
    have missing : onStaking (getValidator addr) ⟨true, st⟩ =
        .error (.refused s!"validator {text addr} not found") ⟨true, st⟩ := by
      simp only [onStaking, getValidator, found]
    rw [adapt_error missing]
    refine iff_of_false nofun fun holds => ?_
    have registered := holds.2.registered
    rw [found] at registered
    cases registered
  | some entry =>
    have here : onStaking (getValidator addr) ⟨true, st⟩ = .ok entry.2 ⟨true, st⟩ := by
      simp only [onStaking, getValidator, found]
    rw [adapt_ok here, bind_ok (show update (ManagerState.putMetrics addr (·.recorded success))
        ⟨true, st⟩ = .ok () ⟨true, st.putMetrics addr (·.recorded success)⟩ from rfl)]
    cases success with
    | true =>
      rw [if_pos rfl, stuck_onStaking]
      exact iff_of_false nofun fun holds => Bool.noConfusion holds.1
    | false =>
    rw [if_neg Bool.false_ne_true]
    have same := putMetrics_staking addr (·.recorded false) st
    have counted := metricsOf_putMetrics addr (·.recorded false) st
    have registered : ((st.putMetrics addr (·.recorded false)).staking.world.validators.find?
        addr).isSome = true := by
      rw [same, found]
      rfl
    rcases checkDowntimeSlashing_outcome cfg registered with
      ⟨⟨mature, metrics, known, missing⟩, ran⟩ | ⟨fine, ran⟩
    · rw [adapt_error ran]
      rw [counted] at known
      obtain ⟨before, found, rfl⟩ := Option.map_eq_some_iff.mp known
      rw [same] at mature registered
      exact iff_of_true rfl ⟨rfl, registered, mature, before, found, missing⟩
    · rw [adapt_ok ran, stuck_onStaking]
      refine iff_of_false nofun fun holds => fine ⟨same ▸ holds.2.mature, ?_⟩
      obtain ⟨_, known, missing⟩ := holds.2.offline
      exact ⟨_, counted.trans (congrArg _ known), missing⟩

end ValidatorManager

end Thrylos
