import Thrylos.Library.GoText
import Thrylos.Library.Program
import Thrylos.WorldState

/-!
The stake domains of `core/state/stake_domains.go`. A validator of no domain is a domain of its own,
under its address. Reading the members of a domain drops those that are no longer registered.
-/

namespace Thrylos

open GoText

abbrev GovernanceM := EStateM String GovernanceState

def normalizeStakeDomainID (dom : Bytes) (valAddr : Address) : Bytes :=
  let normalized := trimSpace dom
  if normalized = [] then valAddr else normalized

/-- `getValidatorStakeDomainLocked` -/
def GovernanceState.stakeDomain (st : GovernanceState) (valAddr : Address) : Bytes :=
  normalizeStakeDomainID (((st.validatorDomains.find? valAddr).map Prod.snd).getD []) valAddr

/-- `readStakeDomainMembersLocked` -/
def GovernanceState.members (st : GovernanceState) (dom : Bytes) : List Address :=
  ((st.domainMembers.find? dom).map Prod.snd).getD []

def writeStakeDomainMembers (dom : Bytes) (members : List Address) : GovernanceM Unit :=
  modify fun st => { st with domainMembers := st.domainMembers.insert (dom, members) }

variable (valAddr : Address)

section

variable (vals : ValidatorSet)

def ValidatorSet.registered (addr : Address) : Bool :=
  (vals.find? addr).isSome

def ValidatorSet.stake (addr : Address) : Nat :=
  match vals.find? addr with
  | none => 0
  | some (_, val) => parseBigInt val.stake

section

variable (dom : Bytes)

def getStakeDomainValidators : GovernanceM (List Address) := do
  if dom = [] then throw "stake domain cannot be empty"
  else
    let members := (← get).members dom
    if members = [] then return if vals.registered dom then [dom] else []
    else
      let filtered := members.filter vals.registered
      if filtered.length ≠ members.length then
        writeStakeDomainMembers dom filtered
        return filtered
      else return filtered

def getStakeDomainTotalStake : GovernanceM Nat := do
  let listed ← getStakeDomainValidators vals (trimSpace dom)
  return (listed.map vals.stake).sum

def assignStakeDomain : GovernanceM Unit :=
  modify fun st =>
    { st with validatorDomains := st.validatorDomains.insert (valAddr, dom) }

def leaveStakeDomain : GovernanceM Unit := do
  if dom ≠ [] ∧ dom ≠ valAddr then
    let members := (← get).members dom
    writeStakeDomainMembers dom (members.filter (· ≠ valAddr))
  else return ()

def joinStakeDomain : GovernanceM Unit := do
  if dom = valAddr then assignStakeDomain valAddr []
  else
    assignStakeDomain valAddr dom
    let members := (← get).members dom
    writeStakeDomainMembers dom (if valAddr ∈ members then members
      else (members ++ [valAddr]).mergeSort (fun first second => decide (first ≤ second)))

/-- The validator is not looked up. -/
def setValidatorStakeDomain : GovernanceM Unit := do
  if trimSpace valAddr = [] then throw "validator address cannot be empty"
  else
    let newDomainID := normalizeStakeDomainID dom valAddr
    let currentDomainID := (← get).stakeDomain valAddr
    if currentDomainID = newDomainID then
      if newDomainID = valAddr then assignStakeDomain valAddr []
      else return ()
    else
      leaveStakeDomain valAddr currentDomainID
      joinStakeDomain valAddr newDomainID

def ValidatorSet.listed (members : List Address) : List Address :=
  if members = [] then if vals.registered dom then [dom] else []
  else members.filter vals.registered

def ValidatorSet.domainStake (members : List Address) : Nat :=
  if members = [] then vals.stake dom
  else ((members.filter vals.registered).map vals.stake).sum

end

def ValidatorSet.Deserted (members : List Address) : Prop :=
  members ≠ [] ∧ members.filter vals.registered = []

def SameBusiness (before after : GovernanceState) : Prop :=
  after = { before with domainMembers := after.domainMembers }

structure Visited (domains : List Bytes) (before after : GovernanceState) : Prop where
  business : SameBusiness before after
  members : ∀ dom, after.members dom =
    if dom ∈ domains then (before.members dom).filter vals.registered
    else before.members dom

end

section Reading

variable {vals : ValidatorSet} {st before middle after : GovernanceState}
  {dom : Bytes} {members : List Address} {first second : List Bytes}

theorem SameBusiness.refl (st : GovernanceState) : SameBusiness st st := rfl

theorem SameBusiness.trans (early : SameBusiness before middle) (late : SameBusiness middle after) :
    SameBusiness before after := by
  unfold SameBusiness at early late ⊢
  rw [late, early]

theorem SameBusiness.stakeDomain (same : SameBusiness before after) (addr : Address) :
    after.stakeDomain addr = before.stakeDomain addr := by
  rw [same]
  rfl

theorem Visited.none (vals : ValidatorSet) (st : GovernanceState) : Visited vals [] st st :=
  ⟨.refl st, fun _ => by simp⟩

theorem Visited.append (early : Visited vals first before middle)
    (late : Visited vals second middle after) : Visited vals (first ++ second) before after := by
  refine ⟨early.business.trans late.business, fun dom => ?_⟩
  rw [late.members, early.members]
  by_cases inFirst : dom ∈ first <;> by_cases inSecond : dom ∈ second <;> simp [inFirst, inSecond]

theorem members_insert (st : GovernanceState) (dom other : Bytes) (members : List Address) :
    { st with domainMembers := st.domainMembers.insert (dom, members) }.members other =
      if dom = other then members else st.members other := by
  unfold GovernanceState.members
  rw [KeyedMap.find?_insert]
  by_cases same : dom = other <;> simp [same]

theorem stake_of_unregistered {addr : Address} (gone : vals.registered addr = false) :
    vals.stake addr = 0 := by
  unfold ValidatorSet.registered at gone
  unfold ValidatorSet.stake
  cases found : vals.find? addr with
  | none => rfl
  | some => simp [found] at gone

theorem sum_listed :
    ((vals.listed dom members).map vals.stake).sum = vals.domainStake dom members := by
  unfold ValidatorSet.listed ValidatorSet.domainStake
  split
  · by_cases registered : vals.registered dom = true
    · simp [registered]
    · simp [registered, stake_of_unregistered (Bool.eq_false_iff.mpr registered)]
  · rfl

theorem getStakeDomainValidators_ok (named : dom ≠ []) :
    ∃ after, getStakeDomainValidators vals dom st = .ok (vals.listed dom (st.members dom)) after ∧
      Visited vals [dom] st after := by
  unfold getStakeDomainValidators ValidatorSet.listed
  rw [if_neg named, EStateM.bind_ok EStateM.get_ok]
  by_cases empty : st.members dom = []
  · rw [if_pos empty, if_pos empty]
    refine ⟨_, rfl, .refl st, fun other => ?_⟩
    by_cases same : other = dom <;> simp [same, empty]
  rw [if_neg empty, if_neg empty]
  by_cases kept : ((st.members dom).filter vals.registered).length ≠ (st.members dom).length
  · rw [if_pos kept]
    refine ⟨_, EStateM.bind_ok (EStateM.modify_ok _) _, rfl, fun other => ?_⟩
    rw [members_insert]
    by_cases same : dom = other
    · simp [same]
    · simp [same, Ne.symm same]
  · rw [if_neg kept]
    have all := (List.filter_sublist).eq_of_length (not_not.mp kept)
    refine ⟨_, rfl, .refl st, fun other => ?_⟩
    by_cases same : other = dom
    · simp [same, all]
    · simp [same]

theorem getStakeDomainTotalStake_ok (named : trimSpace dom ≠ []) :
    ∃ after, getStakeDomainTotalStake vals dom st =
        .ok (vals.domainStake (trimSpace dom) (st.members (trimSpace dom))) after ∧
      Visited vals [trimSpace dom] st after := by
  obtain ⟨after, ran, visited⟩ := getStakeDomainValidators_ok named
  refine ⟨after, ?_, visited⟩
  unfold getStakeDomainTotalStake
  rw [EStateM.bind_ok ran, ← sum_listed]
  rfl

theorem getStakeDomainTotalStake_unnamed (unnamed : trimSpace dom = []) :
    getStakeDomainTotalStake vals dom st = .error "stake domain cannot be empty" st := by
  unfold getStakeDomainTotalStake getStakeDomainValidators
  rw [if_pos unnamed]
  rfl

theorem domainStake_filter : vals.domainStake dom members ≤
        vals.domainStake dom (members.filter vals.registered) ∧ (vals.domainStake dom members =
          vals.domainStake dom (members.filter vals.registered) ↔
        (vals.Deserted members → vals.stake dom = 0)) := by
  unfold ValidatorSet.domainStake ValidatorSet.Deserted
  by_cases empty : members = []
  · simp [empty]
  by_cases gone : members.filter vals.registered = []
  · simp only [empty, gone, if_true, if_false, List.map_nil, List.sum_nil, Nat.zero_le, true_and]
    simp [empty, eq_comm]
  · simp [empty, gone]

end Reading

end Thrylos
