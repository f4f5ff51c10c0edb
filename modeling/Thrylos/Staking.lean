import Thrylos.AccountOps
import Thrylos.WorldState

/-!
The staking manager and the unbonding queue of `core/state/worldstate.go`. A validator object is the
one in the map, so what is assigned to it stays even if the call then fails.
-/

namespace Thrylos

structure UnbondingEntry where
  delegatorAddr : Address
  validatorAddr : Address
  amount : Int
  creationTime : Int
  completionTime : Int
  deriving DecidableEq

structure StakingState where
  world : WorldState
  totalStaked : Int
  unbondingQueue : List UnbondingEntry

abbrev StakingM := EStateM String StakingState

/-- Amounts are numbers. `concentration` is the share a validator would have, in big floats: none
within the limit, else the two percentages of the error. -/
structure StakingConfig extends NodeConfig where
  minDelegation : Int
  maxDelegationsPerValidator : Int
  maxValidatorStake : Int
  concentration : Int → Int → Option (String × String)
  unbondingPeriod : Int
  minValidatorStake : Int
  genesisSupply : Bytes
  commission : Validator → Nat → Int
  delegatorShare : Nat → Nat → Int → Int
  failureRate : Nat → Nat → String

instance : CoeOut StakingConfig NodeConfig := ⟨StakingConfig.toNodeConfig⟩

def onWorldState {α : Type} (prog : WorldM α) : StakingM α := fun st =>
  match prog st.world with
  | .ok value ws => .ok value { st with world := ws }
  | .error err ws => .error err { st with world := ws }

def onAccounts {α : Type} (prog : LedgerM α) : StakingM α := onWorldState (onLedger prog)

def wholeSeconds (nanoseconds : Int) : Int := nanoseconds / 1000000000

def setValidator (addr : Address) (val : Validator) : StakingM Unit := modify fun st =>
  { st with world := { st.world with validators := st.world.validators.insert (addr, val) } }

/-- What a validator holds of a delegator; nothing reads as the empty string. -/
def delegatorRaw (val : Validator) (delegator : Address) : Bytes :=
  match val.delegators.find? delegator with
  | none => []
  | some entry => entry.2

variable (cfg : StakingConfig)

def checkConcentration (totalStaked newStake amt : Int) : Except String Unit :=
  if 0 < totalStaked then
    match cfg.concentration newStake (totalStaked + amt) with
    | none => .ok ()
    | some (percentage, limit) => .error s!"delegation would exceed network stake concentration limit: validator would have {percentage}% of total stake (max: {limit}%)"
  else .ok ()

def checkDelegation (totalStaked : Int) (delegator : Account)
    (valAddr : Address) (val : Validator) (amt : Int) : Except String Unit :=
  let currentStake : Int := parseBigInt val.stake
  let newStake := currentStake + amt
  if ¬ val.active then .error s!"validator {text valAddr} is not active"
  else if (parseBigInt delegator.balance : Int) < amt then
    .error s!"insufficient balance: have {text delegator.balance}, need {amt}"
  else if cfg.maxDelegationsPerValidator ≤ val.delegators.entries.length then
    .error s!"validator has reached maximum delegations ({cfg.maxDelegationsPerValidator})"
  else if cfg.maxValidatorStake < newStake then
    .error s!"delegation would exceed validator maximum stake of {cfg.maxValidatorStake} (current: {currentStake}, trying to add: {amt}, would be: {newStake})"
  else checkConcentration cfg totalStaked newStake amt

def delegatedValidator (val : Validator) (delAddr : Address) (amt : Int) : Validator :=
  let held := parseBigInt (delegatorRaw val delAddr) + amt
  { val with
    delegators := val.delegators.insert (delAddr, mustUint256Bytes held)
    delegatedStake := mustUint256Bytes (parseBigInt val.delegatedStake + amt)
    stake := mustUint256Bytes (parseBigInt val.stake + amt) }

namespace StakingManager

def delegate (delAddr valAddr : Address) (amt : Int) : StakingM Unit := do
  if amt < cfg.minDelegation then
    throw s!"delegation amount {amt} below minimum {cfg.minDelegation}"
  else
    let delegator ← (onAccounts (getAccount cfg delAddr)).adaptExcept
      ("failed to get delegator account: " ++ ·)
    let st ← get
    match st.world.validators.find? valAddr with
    | none => throw s!"validator {text valAddr} not found"
    | some (_, val) =>
      ofExcept (checkDelegation cfg st.totalStaked delegator valAddr val amt)
      let acc ← (onAccounts (assignAccount cfg
        (delegatingAccount delegator valAddr amt))).adaptExcept
          ("failed to update delegator account: " ++ ·)
      (onAccounts (saveAccount acc)).adaptExcept ("failed to save delegator account: " ++ ·)
      setValidator valAddr (delegatedValidator val delAddr amt)
      modify fun st => { st with totalStaked := st.totalStaked + amt }

end StakingManager

def undelegatedValidator (val : Validator) (delAddr : Address) (amt : Int) : Validator :=
  { val with
    delegatedStake := mustUint256Bytes (parseBigInt val.delegatedStake - amt)
    stake := mustUint256Bytes (parseBigInt val.stake - amt)
    delegators := withdrawFrom val.delegators delAddr
      (parseBigInt (delegatorRaw val delAddr) - amt) }

def unbondingEntry (delAddr valAddr : Address) (amt now : Int) : UnbondingEntry where
  delegatorAddr := delAddr
  validatorAddr := valAddr
  amount := amt
  creationTime := wholeSeconds now
  completionTime := wholeSeconds (now + cfg.unbondingPeriod)

namespace StakingManager

/-- The delegation map of an account the account manager hands out is never nil. -/
def undelegate (delAddr valAddr : Address) (amt : Int) : StakingM Unit := do
  if amt ≤ 0 then throw "undelegation amount must be positive"
  else
    let delegator ← (onAccounts (getAccount cfg delAddr)).adaptExcept
      ("failed to get delegator account: " ++ ·)
    match delegator.delegatedTo.find? valAddr with
    | none => throw s!"delegation not found for validator {text valAddr}"
    | some (_, delegated) =>
      if (parseBigInt delegated : Int) < amt then
        throw s!"insufficient delegation: have {text delegated}, want {amt}"
      else
        let st ← get
        match st.world.validators.find? valAddr with
        | none => throw "validator not found"
        | some (_, val) =>
          let acc := undelegatingAccount delegator valAddr amt
          onAccounts (writeThrough acc)
          setValidator valAddr (undelegatedValidator val delAddr amt)
          modify fun st => { st with totalStaked := st.totalStaked - amt }
          let _ ← onAccounts (updateAccount cfg acc)
          let now ← onWorldState (readClock cfg)
          let entry := unbondingEntry cfg delAddr valAddr amt now
          modify fun st => { st with unbondingQueue := st.unbondingQueue ++ [entry] }

def claimRewards (delAddr : Address) : StakingM Unit := do
  ofExcept ((validateAddress delAddr).mapError ("invalid delegator address: " ++ ·))
  let delegator ← (onAccounts (getAccount cfg delAddr)).adaptExcept
    ("failed to get delegator account: " ++ ·)
  if parseBigInt delegator.rewards = 0 then throw "no rewards available to claim"
  else
    let acc := { delegator with
      balance := mustUint256Bytes (parseBigInt delegator.balance + parseBigInt delegator.rewards)
      rewards := [] }
    let _ ← (onAccounts (assignAccount cfg acc)).adaptExcept
      ("failed to update delegator account: " ++ ·)

end StakingManager

def tolerate {α : Type} (prog : StakingM α) : StakingM (Except String α) := fun st =>
  match prog st with
  | .ok value after => .ok (.ok value) after
  | .error err after => .ok (.error err) after

def completeUnbonding (entry : UnbondingEntry) : StakingM Unit := do
  let delegator ← (onAccounts (getAccount cfg entry.delegatorAddr)).adaptExcept
    ("failed to get delegator account: " ++ ·)
  let acc := { delegator with
    balance := mustUint256Bytes (parseBigInt delegator.balance + entry.amount) }
  let _ ← (onAccounts (assignAccount cfg acc)).adaptExcept
    ("failed to update account: " ++ ·)

/-- The entries that stay: those not yet complete and those whose delegator could not be paid. -/
def completeUnbondings (cfg : StakingConfig) (currentTime : Int) :
    List UnbondingEntry → StakingM (List UnbondingEntry)
  | [] => return []
  | entry :: rest =>
    if entry.completionTime ≤ currentTime then do
      let paid ← tolerate (completeUnbonding cfg entry)
      let remaining ← completeUnbondings cfg currentTime rest
      match paid with
      | .ok () => return remaining
      | .error _ => return entry :: remaining
    else do
      let remaining ← completeUnbondings cfg currentTime rest
      return entry :: remaining

def processUnbondingQueue : StakingM Unit := do
  let now ← onWorldState (readClock cfg)
  let st ← get
  let remaining ← completeUnbondings cfg (wholeSeconds now) st.unbondingQueue
  modify fun st => { st with unbondingQueue := remaining }

structure Distribution where
  successCount : Nat
  failureCount : Nat

def Distribution.count (tally : Distribution) : Except String Unit → Distribution
  | .ok () => { tally with successCount := tally.successCount + 1 }
  | .error _ => { tally with failureCount := tally.failureCount + 1 }

def creditRewards (addr : Address) (rewards : Account → Bytes) : StakingM Unit := do
  let acc ← onAccounts (getAccount cfg addr)
  let _ ← onAccounts (assignAccount cfg { acc with rewards := rewards acc })

def addReward (raw : Bytes) (amt : Int) : Bytes := mustUint256Bytes (parseBigInt raw + amt)

def rewardDelegators (cfg : StakingConfig) (delegatedStake : Nat) (reward : Int) :
    List (Address × Bytes) → Distribution → StakingM Distribution
  | [], tally => return tally
  | (addr, amt) :: rest, tally =>
    let share := cfg.delegatorShare (parseBigInt amt) delegatedStake reward
    if share ≤ 0 then rewardDelegators cfg delegatedStake reward rest tally
    else do
      let paid ← tolerate (creditRewards cfg addr fun acc =>
        addReward acc.rewards share)
      rewardDelegators cfg delegatedStake reward rest (tally.count paid)

def rewardValidator (val : Validator) (validatorReward : Nat)
    (tally : Distribution) : StakingM Distribution := do
  let commission := cfg.commission val validatorReward
  let delegatorReward := validatorReward - commission
  let paid ← tolerate (creditRewards cfg val.address fun acc =>
    let rewards := addReward acc.rewards commission
    if val.delegators.entries = [] then addReward rewards delegatorReward else rewards)
  match paid with
  | .error _ => return tally.count paid
  | .ok () =>
    if parseBigInt val.delegatedStake = 0 then return tally.count paid
    else
      rewardDelegators cfg (parseBigInt val.delegatedStake) delegatorReward
        val.delegators.entries (tally.count paid)

def rewardValidators (cfg : StakingConfig) (totalRewards totalVotingPower : Nat) :
    List Validator → Distribution → StakingM Distribution
  | [], tally => return tally
  | val :: rest, tally => do
    let reward := totalRewards * parseBigInt val.stake / totalVotingPower
    if reward = 0 then rewardValidators cfg totalRewards totalVotingPower rest tally
    else
      let tally ← rewardValidator cfg val reward tally
      rewardValidators cfg totalRewards totalVotingPower rest tally

namespace StakingManager

/-- Rewards that are no number are none. The call fails if over a tenth of the payments do, after
making the others. -/
def distributeRewards (totalRewards : Option Int) : StakingM Unit := do
  let totalRewards := totalRewards.getD 0
  if totalRewards ≤ 0 then throw "rewards must be positive"
  else
    let st ← get
    let activeValidators := (st.world.validators.entries.map Prod.snd).filter (·.active)
    if activeValidators = [] then throw "no active validators"
    else
      let totalVotingPower := (activeValidators.map fun val =>
        parseBigInt val.stake).sum
      if totalVotingPower = 0 then throw "total voting power is zero"
      else
        let tally ← rewardValidators cfg totalRewards.toNat totalVotingPower activeValidators ⟨0, 0⟩
        let attempts := tally.successCount + tally.failureCount
        if attempts < 10 * tally.failureCount then
          throw s!"reward distribution had {tally.failureCount} failures ({cfg.failureRate tally.failureCount attempts}% failure rate)"
        else return ()

end StakingManager

def sampleStaking : StakingConfig :=
  { sampleConfig with
    minDelegation := 1
    maxDelegationsPerValidator := 100
    maxValidatorStake := 1000000
    concentration := fun _ _ => none
    unbondingPeriod := 10 * 1000000000
    minValidatorStake := 1
    genesisSupply := [49]
    commission := fun _ _ => 0
    delegatorShare := fun _ _ _ => 0
    failureRate := fun _ _ => "" }

end Thrylos
