import Thrylos.EpochSeed
import Thrylos.Library.Apportionment
import Thrylos.Library.Swaps

/-!
The proposer schedule of an epoch, `BuildEpochSchedule` of `consensus/validator/selection.go`. The
slots are apportioned to the stake domains and each domain's slots to its validators.
-/

namespace Thrylos

open Apportionment Swaps

structure MapOrder where
  run : List (Bytes × Nat) → List (Bytes × Nat)
  perm : ∀ entries, (run entries).Perm entries

structure EpochScheduleCache where
  epoch : UInt64
  key : Bytes
  value : List Address
  deriving DecidableEq

/-- The fields of `Set` that scheduling uses. -/
structure ProposerSet where
  historyReader : Option ProposerHistoryReader
  scheduleCache : Option EpochScheduleCache

def Validator.weight (val : Validator) : Nat := parseBigInt val.stake

variable (keccak256 : Bytes → Bytes) (schedule : List Bytes)

def shuffleSchedule (seed : Bytes) : List Bytes :=
  if schedule.length < 2 then schedule
  else
    let baseSeed := keccak256 seed
    let pick := fun position =>
      BigEndian.decode ((keccak256 (baseSeed ++ BigEndian.fixed 8 position)).take 8) % (position + 1)
    shuffleDown pick (schedule.length - 1) schedule

def hasRecentMatch (index cooldownWindow : Nat) (candidate : Bytes) : Bool :=
  ((schedule.take index).drop (index - cooldownWindow)).contains candidate

def violatesCooldown (index cooldownWindow : Nat) : Bool :=
  match schedule[index]? with
  | none => false
  | some current => hasRecentMatch schedule index cooldownWindow current

/-- The inner loop of `applyCooldown`, from position `next` on. -/
def seekReplacement (cooldownWindow index : Nat) : Nat → Nat → List Bytes → List Bytes
  | 0, _, schedule => schedule
  | steps + 1, next, schedule =>
    match schedule[next]? with
    | none => schedule
    | some candidate =>
      if hasRecentMatch schedule index cooldownWindow candidate then
        seekReplacement cooldownWindow index steps (next + 1) schedule
      else
        let swapped := swapAt schedule index next
        if ¬ violatesCooldown swapped index cooldownWindow then swapped
        else seekReplacement cooldownWindow index steps (next + 1) (swapAt swapped index next)

/-- The outer loop of `applyCooldown`, from position `index` on. -/
def cooldownPass (cooldownWindow : Nat) : Nat → Nat → List Bytes → List Bytes
  | 0, _, schedule => schedule
  | steps + 1, index, schedule =>
    cooldownPass cooldownWindow steps (index + 1)
      (if violatesCooldown schedule index cooldownWindow then
        seekReplacement cooldownWindow index (schedule.length - (index + 1)) (index + 1) schedule
      else schedule)

def applyCooldown (cooldownWindow : Nat) : List Bytes :=
  if cooldownWindow = 0 ∨ schedule.length < 2 then schedule
  else cooldownPass cooldownWindow (schedule.length - 1) 1 schedule

abbrev DomainGroups := KeyedMap (Prod.fst : Bytes × List Validator → Bytes)

def domainIDOf (history : Option ProposerHistoryReader) (addr : Address) : Bytes :=
  match history.bind ProposerHistoryReader.stakeDomain with
  | none => addr
  | some getValidatorStakeDomain =>
    if getValidatorStakeDomain addr ≠ [] then getValidatorStakeDomain addr else addr

def DomainGroups.members (groups : DomainGroups) (dom : Bytes) : List Validator :=
  match groups.find? dom with
  | none => []
  | some (_, vals) => vals

def groupValidatorsByDomain (history : Option ProposerHistoryReader)
    (candidates : List Validator) : DomainGroups :=
  candidates.foldl (fun groups val =>
    let dom := domainIDOf history val.address
    groups.insert (dom, groups.members dom ++ [val])) KeyedMap.empty

abbrev Weights := KeyedMap (Prod.fst : Bytes × Nat → Bytes)

def allocateQuotas (order : MapOrder) (weights : Weights) (slots : Nat) : List (Allocation Bytes) :=
  allocate (order.run weights.entries) slots

def stakeWeights (groups : DomainGroups) : Weights :=
  KeyedMap.ofList (groups.entries.map fun group => (group.1, (group.2.map Validator.weight).sum))

def allocateStakeQuotas (order : MapOrder) (groups : DomainGroups) (slots : Nat) :
    List (Allocation Bytes) := allocateQuotas order (stakeWeights groups) slots

def validatorWeights (vals : List Validator) : Weights :=
  KeyedMap.ofList (vals.map fun val => (val.address, val.weight))

def allocateValidatorQuotas (order : MapOrder) (vals : List Validator) (slots : Nat) :
    List (Allocation Bytes) := allocateQuotas order (validatorWeights vals) slots

structure DomainScheduleState where
  domainID : Bytes
  order : List Address
  index : Nat

abbrev DomainStates := KeyedMap DomainScheduleState.domainID

def memberSchedule (order : MapOrder) (seed : Bytes)
    (members : List Validator) (allocation : Allocation Bytes) : List Address :=
  shuffleSchedule keccak256 (expand (allocateValidatorQuotas order members allocation.quota))
    (keccak256 (seed ++ allocation.key))

def domainStates (order : Bytes → MapOrder) (seed : Bytes)
    (groups : DomainGroups) (allocations : List (Allocation Bytes)) : DomainStates :=
  KeyedMap.ofList ((allocations.filter (·.quota ≠ 0)).map fun allocation =>
    { domainID := allocation.key
      order := memberSchedule keccak256 (order allocation.key) seed (groups.members allocation.key)
        allocation
      index := 0 })

def nameValidators : List Bytes → DomainStates → List Address
  | [], _ => []
  | dom :: rest, states =>
    match states.find? dom with
    | none => nameValidators rest states
    | some st =>
      let index := if st.order.length ≤ st.index then 0 else st.index
      match st.order[index]? with
      | none => nameValidators rest states
      | some addr => addr :: nameValidators rest (states.insert { st with index := index + 1 })

/-- `buildScheduleCacheKey`; the entries of a map stand in the order of their keys. -/
def buildScheduleCacheKey (epoch : UInt64)
    (slotsPerEpoch cooldownWindow : Nat) (seed : Bytes) (groups : DomainGroups) : Bytes :=
  keccak256 (seed ++ BigEndian.fixed 8 epoch.toNat ++ BigEndian.fixed 4 slotsPerEpoch ++
    BigEndian.fixed 4 cooldownWindow ++ groups.entries.flatMap fun group =>
      group.1 ++ (group.2.insertionSort fun first second => first.address ≤ second.address).flatMap
        fun mem => mem.address ++ mem.stake)

def ProposerSet.copyCachedSchedule (set : ProposerSet) (epoch : UInt64) (cacheKey : Bytes) :
    Option (List Address) :=
  match set.scheduleCache with
  | none => none
  | some cache =>
    if cache.epoch ≠ epoch then none
    else if cache.key ≠ cacheKey then none
    -- A copy of an empty schedule is nil.
    else if cache.value = [] then none
    else some cache.value

/-- What `BuildEpochSchedule` builds when it has nothing cached. The order of the outer map is that
of `none`. -/
def freshSchedule (order : Option Bytes → MapOrder) (seed : Bytes)
    (groups : DomainGroups) (slotsPerEpoch cooldownWindow : Nat) : List Address :=
  let allocations := allocateStakeQuotas (order none) groups slotsPerEpoch
  let domainSchedule := applyCooldown (shuffleSchedule keccak256 (expand allocations) seed)
    cooldownWindow
  nameValidators domainSchedule
    (domainStates keccak256 (fun dom => order (some dom)) seed groups allocations)

def buildEpochSchedule (order : Option Bytes → MapOrder)
    (candidates : List Validator) (epoch : UInt64) (slotsPerEpoch cooldownWindow : Int) :
    EStateM String ProposerSet (List Address) := fun set =>
  let slots := slotsPerEpoch.toNat
  let window := cooldownWindow.toNat
  let snap := candidates.filter fun val => 0 < val.weight
  if candidates = [] then .error "no validator candidates" set
  else if slotsPerEpoch ≤ 0 then .error "slots per epoch must be positive" set
  else if snap = [] ∨ (snap.map Validator.weight).sum = 0 then .error "total stake is zero" set
  else
    let seed := buildEpochSeed keccak256 set.historyReader epoch slots
    let groups := groupValidatorsByDomain set.historyReader snap
    let cacheKey := buildScheduleCacheKey keccak256 epoch slots window seed groups
    match set.copyCachedSchedule epoch cacheKey with
    | some cached => .ok cached set
    | none =>
      let schedule := freshSchedule keccak256 order seed groups slots window
      if schedule.length ≠ slots then .error "failed to build complete epoch schedule" set
      else .ok schedule { set with scheduleCache := some ⟨epoch, cacheKey, schedule⟩ }

end Thrylos
