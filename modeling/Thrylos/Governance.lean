import Thrylos.Execution
import Thrylos.StakeDomains

/-!
The manager of `consensus/governance/manager.go` behind the three governance transactions. A
finalisation compares the stake of every domain that voted with that of the domains active
validators vote for.
-/

namespace Thrylos

open GoText

structure ProposalPayload where
  parameter : Bytes
  proposedValue : Bytes

structure VotePayload where
  proposalID : Bytes
  approve : Bool

structure FinalizePayload where
  proposalID : Bytes

/-- The `governance` section of the configuration and the library code called. A Go map is visited
in any order. -/
structure GovernanceConfig where
  enabled : Bool
  votingPeriod : Int64
  quorum : UInt64
  approvalThreshold : UInt64
  ownershipDomainsEnabled : Bool
  unmarshalProposal : Bytes → Except String ProposalPayload
  unmarshalVote : Bytes → Except String VotePayload
  unmarshalFinalize : Bytes → Except String FinalizePayload
  parseFloat : Bytes → UInt64 × Option String
  atoi : Bytes → Int × Option String
  ratioBelow : Nat → Nat → UInt64 → Bool
  visit : List (Bytes × Governance.Vote) → List (Bytes × Governance.Vote)
  visit_perm : ∀ votes, (visit votes).Perm votes

abbrev WallClock := WorldState → Nat → Int64

inductive GovernedParameter where
  | inflationRate
  | communityTax
  | maxCommission
  | maxStakePercentage
  | minActiveValidators
  | evmMaxGasPerWindow
  | evmMaxTxPerWindow
  | evmWindowDurationSeconds
  deriving DecidableEq

namespace GovernedParameter

def all : List GovernedParameter :=
  [inflationRate, communityTax, maxCommission, maxStakePercentage, minActiveValidators,
    evmMaxGasPerWindow, evmMaxTxPerWindow, evmWindowDurationSeconds]

def name : GovernedParameter → String
  | inflationRate => "economics.inflation_rate"
  | communityTax => "economics.community_tax"
  | maxCommission => "staking.max_commission"
  | maxStakePercentage => "staking.max_stake_percentage"
  | minActiveValidators => "consensus.min_active_validators"
  | evmMaxGasPerWindow => "economics.evm_max_gas_per_window"
  | evmMaxTxPerWindow => "economics.evm_max_tx_per_window"
  | evmWindowDurationSeconds => "economics.evm_window_duration_seconds"

def named? (parameter : Bytes) : Option GovernedParameter :=
  all.find? fun governed => decide (ascii governed.name = parameter)

def isFloat : GovernedParameter → Bool
  | inflationRate | communityTax | maxCommission | maxStakePercentage => true
  | _ => false

end GovernedParameter

/-- `value < 0` for the float with these bits: neither a NaN nor a zero, and the sign is set. -/
def floatNegative (bits : UInt64) : Bool :=
  decide (0x8000000000000000 < bits) && decide (bits ≤ 0xFFF0000000000000)

/-- `1 < value` for the float with these bits. -/
def floatAboveOne (bits : UInt64) : Bool :=
  decide (0x3FF0000000000000 < bits) && decide (bits ≤ 0x7FF0000000000000)

section

variable (cfg : GovernanceConfig)

def validateParameterChange (parameter value : Bytes) : Except String Unit :=
  match GovernedParameter.named? parameter with
  | none => .error s!"parameter {text parameter} is not governance-managed"
  | some governed =>
    if governed.isFloat then
      match cfg.parseFloat value with
      | (_, some err) => .error s!"invalid float value for {text parameter}: {err}"
      | (parsed, none) =>
        if floatNegative parsed || floatAboveOne parsed then
          .error s!"{text parameter} must be between 0 and 1"
        else .ok ()
    else
      match cfg.atoi value with
      | (_, some err) => .error s!"invalid integer value for {text parameter}: {err}"
      | (parsed, none) =>
        if parsed ≤ 0 then .error s!"{text parameter} must be positive" else .ok ()

def parseProposalPayload (data : Bytes) : Except String ProposalPayload :=
  match cfg.unmarshalProposal data with
  | .error err => .error s!"invalid governance proposal payload: {err}"
  | .ok payload =>
    if trimSpace payload.parameter = [] then .error "proposal parameter cannot be empty"
    else if trimSpace payload.proposedValue = [] then .error "proposal value cannot be empty"
    else .ok payload

def parseVotePayload (data : Bytes) : Except String VotePayload :=
  match cfg.unmarshalVote data with
  | .error err => .error s!"invalid governance vote payload: {err}"
  | .ok payload =>
    if trimSpace payload.proposalID = [] then .error "proposal ID cannot be empty" else .ok payload

def parseFinalizePayload (data : Bytes) : Except String FinalizePayload :=
  match cfg.unmarshalFinalize data with
  | .error err => .error s!"invalid governance finalize payload: {err}"
  | .ok payload =>
    if trimSpace payload.proposalID = [] then .error "proposal ID cannot be empty" else .ok payload

variable (vals : ValidatorSet)

def ensureActiveValidator (address : Address) : Except String Unit :=
  match vals.find? address with
  | none => .error s!"validator {text address} not found"
  | some (_, val) =>
    if val.active then .ok () else .error s!"validator {text address} is not active"

def GovernanceState.saving (st : GovernanceState) (prop : Proposal) : GovernanceState :=
  { st with proposals := st.proposals.insert prop }

def saveProposal (prop : Proposal) : GovernanceM Unit := modify (·.saving prop)

def getProposal (id : Bytes) : GovernanceM Proposal := do
  match (← get).proposals.find? id with
  | none => throw s!"proposal {text id} not found"
  | some prop => return prop

def nanosecondsPerSecond : Int64 := 1000000000

def votingEnd (now : Int64) : Int64 :=
  if cfg.votingPeriod ≤ 0 then now else now + cfg.votingPeriod / nanosecondsPerSecond

def newProposal (now : Int64) (id : Bytes) (proposer : Address)
    (parameter proposedValue : Bytes) : Proposal where
  id := id
  parameter := parameter
  proposedValue := proposedValue
  proposer := proposer
  status := .active
  createdAt := now
  votingEndsAt := votingEnd cfg now
  finalizedAt := 0
  yesStake := ascii "0"
  noStake := ascii "0"
  votes := KeyedMap.empty

/-- Whether a proposal has the id already is not asked. -/
def submitProposal (now : Nat → Int64) (vals : ValidatorSet)
    (id : Bytes) (proposer : Address) (parameter proposedValue : Bytes) : GovernanceM Proposal := do
  if cfg.enabled = false then throw "governance is disabled"
  else if trimSpace id = [] then throw "proposal ID cannot be empty"
  else
    ofExcept (ensureActiveValidator vals proposer)
    ofExcept (validateParameterChange cfg parameter proposedValue)
    let prop := newProposal cfg (now 0) id proposer parameter proposedValue
    saveProposal prop
    return prop

def GovernanceState.votingDomain (st : GovernanceState) (valAddr : Address) : Bytes :=
  if cfg.ownershipDomainsEnabled = false then valAddr else st.stakeDomain valAddr

def Proposal.withVote (prop : Proposal) (dom : Bytes) (valAddr : Address)
    (approve : Bool) (castAt : Int64) : Proposal :=
  { prop with votes := prop.votes.insert (dom, ⟨valAddr, dom, approve, castAt⟩) }

def votedThrough (prop : Proposal) (dom : Bytes) (valAddr : Address) : Option Address :=
  match prop.votes.find? dom with
  | none => none
  | some (_, existing) =>
    if existing.validatorAddress = valAddr then none else some existing.validatorAddress

def castVote (now : Nat → Int64) (vals : ValidatorSet)
    (proposalID : Bytes) (valAddr : Address) (approve : Bool) : GovernanceM Unit := do
  if cfg.enabled = false then throw "governance is disabled"
  else
    let prop ← getProposal proposalID
    if prop.status ≠ .active then throw s!"proposal {text proposalID} is not active"
    else if prop.votingEndsAt < now 0 then
      throw s!"proposal {text proposalID} voting period has ended"
    else
      ofExcept (ensureActiveValidator vals valAddr)
      let dom := (← get).votingDomain cfg valAddr
      match votedThrough prop dom valAddr with
      | some other =>
        throw s!"stake domain {text dom} has already voted through {text other}"
      | none => saveProposal (prop.withVote dom valAddr approve (now 1))

def ValidatorSet.active : List Address :=
  ((vals.entries.map Prod.snd).filter (·.active)).map (·.address)

/-- The loop of `totalEligibleDomainStake`, with the domains counted so far and their stake. -/
def addEligibleStake (cfg : GovernanceConfig) (vals : ValidatorSet) :
    List Address → List Bytes → Nat → GovernanceM Nat
  | [], _, total => return total
  | valAddr :: rest, seenDomains, total => do
    let dom := (← get).votingDomain cfg valAddr
    if dom ∈ seenDomains then addEligibleStake cfg vals rest seenDomains total
    else
      let domainStake ← getStakeDomainTotalStake vals dom
      addEligibleStake cfg vals rest (dom :: seenDomains) (total + domainStake)

def totalEligibleDomainStake : GovernanceM Nat :=
  addEligibleStake cfg vals vals.active [] 0

def addVotes (vals : ValidatorSet) :
    List (Bytes × Governance.Vote) → Nat → Nat → GovernanceM (Nat × Nat)
  | [], yesStake, noStake => return (yesStake, noStake)
  | (dom, vote) :: rest, yesStake, noStake => do
    let domainStake ← getStakeDomainTotalStake vals dom
    if vote.approve then addVotes vals rest (yesStake + domainStake) noStake
    else addVotes vals rest yesStake (noStake + domainStake)

def GovernanceState.assign (st : GovernanceState) (value : Bytes) :
    GovernedParameter → GovernanceState
  | .inflationRate => { st with inflationRate := (cfg.parseFloat value).1 }
  | .communityTax => { st with communityTax := (cfg.parseFloat value).1 }
  | .maxCommission => { st with maxCommission := (cfg.parseFloat value).1 }
  | .maxStakePercentage => { st with maxStakePercentage := (cfg.parseFloat value).1 }
  | .minActiveValidators => { st with minActiveValidators := (cfg.atoi value).1 }
  | .evmMaxGasPerWindow => { st with evmMaxGasPerWindow := (cfg.atoi value).1 }
  | .evmMaxTxPerWindow => { st with evmMaxTxPerWindow := (cfg.atoi value).1 }
  | .evmWindowDurationSeconds => { st with evmWindowDurationSeconds := (cfg.atoi value).1 }

def applyApprovedParameterChange (parameter value : Bytes) : GovernanceM Unit :=
  match GovernedParameter.named? parameter with
  | none => throw s!"parameter {text parameter} is not governance-managed"
  | some governed => modify fun st =>
    { st.assign cfg value governed with parameters := st.parameters.insert (parameter, value) }

def GovernanceConfig.carried (totalEligibleStake yesStake noStake : Nat) : Bool :=
  decide (totalEligibleStake ≠ 0) && decide (yesStake + noStake ≠ 0) &&
    !(cfg.ratioBelow (yesStake + noStake) totalEligibleStake cfg.quorum ||
      cfg.ratioBelow yesStake (yesStake + noStake) cfg.approvalThreshold)

def Proposal.closed (prop : Proposal) (status : ProposalStatus) (yesStake noStake : Nat)
    (finalizedAt : Int64) : Proposal :=
  { prop with status, yesStake := decimal yesStake, noStake := decimal noStake, finalizedAt }

/-- The part of `FinalizeProposal` after the checks. -/
def concludeProposal (prop : Proposal) (finalizedAt : Int64) : GovernanceM Proposal := do
  let totalEligibleStake ← totalEligibleDomainStake cfg vals
  let (yesStake, noStake) ← addVotes vals (cfg.visit prop.votes.entries) 0 0
  if cfg.carried totalEligibleStake yesStake noStake then
    applyApprovedParameterChange cfg prop.parameter prop.proposedValue
    let approved := prop.closed .approved yesStake noStake finalizedAt
    saveProposal approved
    return approved
  else
    let rejected := prop.closed .rejected yesStake noStake finalizedAt
    saveProposal rejected
    return rejected

def finalizeProposal (now : Nat → Int64) (vals : ValidatorSet)
    (proposalID : Bytes) : GovernanceM Proposal := do
  let prop ← getProposal proposalID
  if prop.status ≠ .active then return prop
  else if now 0 < prop.votingEndsAt then
    throw s!"proposal {text proposalID} is still in the voting period"
  else concludeProposal cfg vals prop (now 1)

end

section Steps

variable (cfg : GovernanceConfig) (now : Nat → Int64) (vals : ValidatorSet) (tx : Transaction)

def governanceProposal : GovernanceM Unit := do
  let payload ← ofExcept (parseProposalPayload cfg tx.data)
  let _ ← submitProposal cfg now vals tx.hash tx.fromAddr payload.parameter payload.proposedValue

def governanceVote : GovernanceM Unit := do
  let payload ← ofExcept (parseVotePayload cfg tx.data)
  castVote cfg now vals payload.proposalID tx.fromAddr payload.approve

def governanceFinalize : GovernanceM Unit := do
  let payload ← ofExcept (parseFinalizePayload cfg tx.data)
  let _ ← finalizeProposal cfg now vals payload.proposalID

def GovernanceConfig.handle : GovernanceM Unit :=
  match tx.type with
  | .governancePropose => governanceProposal cfg now vals tx
  | .governanceVote => governanceVote cfg now vals tx
  | .governanceFinalize => governanceFinalize cfg now vals tx
  | _ => return ()

end Steps

def GovernanceConfig.manager (cfg : GovernanceConfig) (clock : WallClock) (ws : WorldState)
    (tx : Transaction) : Except String Unit × GovernanceState :=
  (cfg.handle (clock ws) ws.validators tx ws.governance).outcome

def NodeConfig.governedBy (cfg : NodeConfig) (gov : GovernanceConfig) (clock : WallClock) :
    NodeConfig :=
  { cfg with governance := gov.manager clock }

/-- Proposals are open for ten seconds, and the shares are compared as whole percents. -/
def sampleGovernance : GovernanceConfig where
  enabled := true
  votingPeriod := 10 * nanosecondsPerSecond
  quorum := 50
  approvalThreshold := 50
  ownershipDomainsEnabled := true
  unmarshalProposal := fun _ => .ok ⟨ascii "economics.community_tax", ascii "0"⟩
  unmarshalVote := fun _ => .ok ⟨[2], true⟩
  unmarshalFinalize := fun _ => .ok ⟨[2]⟩
  parseFloat := fun _ => (0, none)
  atoi := fun _ => (0, none)
  ratioBelow := fun part whole percent => decide (part * 100 < whole * percent.toNat)
  visit := id
  visit_perm := fun votes => .refl votes

def sampleElector (digit stake : Byte) (active : Bool) : Address × Validator :=
  (sampleAddress digit, {
    address := sampleAddress digit
    pubkey := []
    stake := [stake]
    selfStake := [stake]
    delegatedStake := []
    delegators := KeyedMap.empty
    active
    jailUntil := 0 })

end Thrylos
