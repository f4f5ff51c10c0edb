import Mathlib.Algebra.BigOperators.Group.List.Lemmas
import Thrylos.Genesis
import Thrylos.StakeDomains

/-!
Which validators a stake domain lists, over runs of `AddValidatorWithStakeDomain` and
`SetValidatorStakeDomain`. Addresses are taken to be UTF-8.
-/

namespace Thrylos

open EStateM (Stays)
open GoText (trimSpace trimmed_trimSpace)

def addValidatorWithStakeDomain (genesis : GenesisConfig) (val : Validator)
    (dom : Bytes) : WorldM Unit := do
  addValidator genesis val
  fun ws =>
    match setValidatorStakeDomain val.address dom ws.governance with
    | .ok () gov => .ok () { ws with governance := gov }
    | .error err gov => .error err { ws with
        governance := gov, validators := ws.validators.erase val.address }

inductive DomainCall where
  | add (val : Validator) (dom : Bytes)
  | assign (valAddr : Address) (dom : Bytes)

def DomainCall.next (genesis : GenesisConfig) (ws : WorldState) : DomainCall → WorldState
  | .add val dom => (addValidatorWithStakeDomain genesis val dom ws).final
  | .assign addr dom =>
    { ws with governance := (setValidatorStakeDomain addr dom ws.governance).final }

structure MembersRecorded (st : GovernanceState) : Prop where
  distinct : ∀ dom, (st.members dom).Nodup
  members : ∀ dom addr, addr ∈ st.members dom ↔ st.stakeDomain addr = dom ∧ dom ≠ addr

section Assigning

variable {st after : GovernanceState} {addr : Address} {dom newDomainID : Bytes}

theorem stakeDomain_assign (st : GovernanceState) (addr other : Address) (dom : Bytes) :
    { st with validatorDomains := st.validatorDomains.insert (addr, dom) }.stakeDomain
      other = if addr = other then normalizeStakeDomainID dom addr else
        st.stakeDomain other := by
  unfold GovernanceState.stakeDomain
  rw [KeyedMap.find?_insert]
  by_cases same : addr = other <;> simp [same]

theorem stakeDomain_named (named : addr ≠ []) : st.stakeDomain addr ≠ [] := by
  unfold GovernanceState.stakeDomain normalizeStakeDomainID
  dsimp only
  split
  · exact named
  · assumption

theorem leaveStakeDomain_ok : ∃ after, leaveStakeDomain addr dom st = .ok () after ∧
      (∀ other, after.stakeDomain other = st.stakeDomain other) ∧
      ∀ listed, after.members listed = if listed = dom ∧ dom ≠ [] ∧ dom ≠ addr then
        (st.members listed).filter (· ≠ addr) else st.members listed := by
  unfold leaveStakeDomain
  by_cases explicit : dom ≠ [] ∧ dom ≠ addr
  · rw [if_pos explicit]
    refine ⟨_, modify_ok _, fun _ => rfl, fun listed => ?_⟩
    rw [members_insert]
    by_cases same : dom = listed
    · simp [← same, explicit]
    · simp [same, Ne.symm same]
  · rw [if_neg explicit]
    refine ⟨st, rfl, fun _ => rfl, fun listed => ?_⟩
    rw [if_neg fun both => explicit both.2]

theorem joinStakeDomain_final (absent : addr ∉ st.members dom) :
    let after := (joinStakeDomain addr dom st).final
    (∀ other, after.stakeDomain other =
      if addr = other then normalizeStakeDomainID (if dom = addr then [] else dom) addr
      else st.stakeDomain other) ∧
    ∀ listed, (after.members listed).Perm (if listed = dom ∧ dom ≠ addr then
      addr :: st.members listed else st.members listed) := by
  unfold joinStakeDomain
  by_cases own : dom = addr
  · simp only [own, if_true, ne_eq, not_true_eq_false, and_false, if_false]
    exact ⟨fun other => stakeDomain_assign st addr other [], fun listed => .refl _⟩
  simp only [own, if_false]
  refine ⟨fun other => stakeDomain_assign st addr other dom, fun listed => ?_⟩
  refine (List.Perm.of_eq (members_insert { st with validatorDomains := _ } dom listed _)).trans ?_
  by_cases same : dom = listed
  · subst same
    rw [if_pos (show dom = dom ∧ dom ≠ addr from ⟨rfl, own⟩), if_pos rfl]
    exact ((List.Perm.of_eq (if_neg absent)).trans (List.mergeSort_perm _ _)).trans
      (List.perm_append_singleton _ _)
  · rw [if_neg same, if_neg fun both => same both.1.symm]
    exact .refl _

theorem normalizeStakeDomainID_again :
    let newDomainID := normalizeStakeDomainID dom addr
    normalizeStakeDomainID (if newDomainID = addr then [] else newDomainID) addr = newDomainID := by
  unfold normalizeStakeDomainID
  by_cases empty : trimSpace dom = []
  · simp only [empty, if_true]
    exact if_pos rfl
  simp only [empty, if_false]
  by_cases own : trimSpace dom = addr
  · simp only [own, if_true]
    exact if_pos rfl
  · have again : trimSpace (trimSpace dom) = trimSpace dom :=
      Trim.trim_of_trimmed (trimmed_trimSpace dom)
    simp only [own, if_false, again, empty]

theorem setValidatorStakeDomain_recorded (recorded : MembersRecorded st) (addr : Address)
    (dom : Bytes) : MembersRecorded (setValidatorStakeDomain addr dom st).final := by
  unfold setValidatorStakeDomain
  by_cases unnamed : trimSpace addr = []
  · rw [if_pos unnamed]
    exact recorded
  have named : addr ≠ [] := by
    rintro rfl
    exact unnamed rfl
  rw [if_neg unnamed, bind_ok get_ok]
  by_cases same : st.stakeDomain addr = normalizeStakeDomainID dom addr
  · rw [if_pos same]
    split
    · rename_i own
      refine ⟨recorded.distinct, fun listed other => (recorded.members listed other).trans ?_⟩
      have kept : (assignStakeDomain addr [] st).final.stakeDomain other =
          st.stakeDomain other := by
        refine (stakeDomain_assign st addr other []).trans ?_
        split
        · rename_i this
          rw [← this, same, own]
          rfl
        · rfl
      rw [kept]
    · exact recorded
  rw [if_neg same]
  obtain ⟨left, ran, domains, members⟩ := leaveStakeDomain_ok
  rw [bind_ok ran]
  have mem : ∀ listed other, other ∈ left.members listed ↔
      other ≠ addr ∧ other ∈ st.members listed := by
    intro listed other
    rw [members]
    split
    · rw [List.mem_filter, decide_eq_true_eq, and_comm]
    · rename_i elsewhere
      refine (and_iff_right_of_imp fun listedThere => ?_).symm
      rintro rfl
      obtain ⟨here, apart⟩ := (recorded.members listed other).mp listedThere
      exact elsewhere ⟨here.symm, stakeDomain_named named, here ▸ apart⟩
  have distinct : ∀ listed, (left.members listed).Nodup := by
    intro listed
    rw [members]
    split
    · exact (recorded.distinct listed).filter _
    · exact recorded.distinct listed
  have absent : addr ∉ left.members (normalizeStakeDomainID dom addr) :=
    fun listed => ((mem _ _).mp listed).1 rfl
  obtain ⟨joined, lists⟩ := joinStakeDomain_final absent
  refine ⟨fun listed => ?_, fun listed other => ?_⟩
  · refine (lists listed).nodup_iff.mpr ?_
    split
    · rename_i here
      exact List.nodup_cons.mpr ⟨here.1 ▸ absent, distinct listed⟩
    · exact distinct listed
  · have old := recorded.members listed other
    rw [joined, normalizeStakeDomainID_again]
    by_cases this : addr = other <;> grind

end Assigning

structure Partitioned (vals : ValidatorSet) (st : GovernanceState) : Prop where
  listed : ∀ dom ≠ [], ∃ listed after,
    getStakeDomainValidators vals dom st = .ok listed after ∧ listed.Nodup ∧
      ∀ addr, addr ∈ listed ↔ vals.registered addr = true ∧ st.stakeDomain addr = dom
  counted : ∀ domains : List Bytes, domains.Nodup →
    (∀ dom ∈ domains, dom ≠ [] ∧ trimSpace dom = dom) →
    (∀ addr, vals.registered addr = true → st.stakeDomain addr ∈ domains) →
    (domains.map fun dom =>
      (getStakeDomainTotalStake vals dom st).value?.getD 0).sum =
        (vals.entries.map fun entry => parseBigInt entry.2.stake).sum

def OwnDomainsFit (vals : ValidatorSet) (st : GovernanceState) : Prop :=
  ∀ addr, vals.registered addr = true → (st.members addr = [] ↔ st.stakeDomain addr = addr)

section Listing

variable {vals : ValidatorSet} {st : GovernanceState}

theorem listed_iff (recorded : MembersRecorded st) (dom : Bytes) :
    (∀ addr, addr ∈ vals.listed dom (st.members dom) ↔
      vals.registered addr = true ∧ st.stakeDomain addr = dom) ↔
    (vals.registered dom = true → (st.members dom = [] ↔ st.stakeDomain dom = dom)) := by
  have members := recorded.members dom
  unfold ValidatorSet.listed
  by_cases empty : st.members dom = []
  · by_cases registered : vals.registered dom = true <;> grind
  · grind

theorem listed_distinct (recorded : MembersRecorded st) (dom : Bytes) :
    (vals.listed dom (st.members dom)).Nodup := by
  have distinct := (recorded.distinct dom).filter vals.registered
  unfold ValidatorSet.listed
  split_ifs <;> simp [distinct]

theorem sum_stake_keys : (vals.keys.map vals.stake).sum =
      (vals.entries.map fun entry => parseBigInt entry.2.stake).sum := by
  unfold KeyedMap.keys
  rw [List.map_map]
  congr 1
  refine List.map_congr_left fun entry member => ?_
  have found := (KeyedMap.mem_entries_iff vals entry).mp member
  simp [ValidatorSet.stake, found]

theorem registered_iff (vals : ValidatorSet) (addr : Address) :
    vals.registered addr = true ↔ addr ∈ vals.keys := by
  unfold ValidatorSet.registered
  rw [← not_iff_not, Bool.not_eq_true, Option.isSome_eq_false_iff, Option.isNone_iff_eq_none]
  exact KeyedMap.find?_eq_none

theorem stakes_counted_once (recorded : MembersRecorded st)
    (listed : ∀ dom addr, addr ∈ vals.listed dom (st.members dom) ↔
      vals.registered addr = true ∧ st.stakeDomain addr = dom)
    {domains : List Bytes} (distinct : domains.Nodup)
    (named : ∀ dom ∈ domains, dom ≠ [] ∧ trimSpace dom = dom)
    (all : ∀ addr, vals.registered addr = true → st.stakeDomain addr ∈ domains) :
    (domains.map fun dom =>
      (getStakeDomainTotalStake vals dom st).value?.getD 0).sum =
        (vals.entries.map fun entry => parseBigInt entry.2.stake).sum := by
  have perm : (domains.flatMap fun dom =>
      vals.listed dom (st.members dom)).Perm vals.keys := by
    refine (List.perm_ext_iff_of_nodup ?_ vals.keys_nodup).mpr fun addr => ?_
    · refine List.nodup_flatMap.mpr ⟨fun dom _ => listed_distinct recorded dom,
        distinct.imp fun apart addr first second => apart ?_⟩
      exact ((listed _ _).mp first).2.symm.trans ((listed _ _).mp second).2
    · rw [List.mem_flatMap, ← registered_iff]
      constructor
      · rintro ⟨dom, -, here⟩
        exact ((listed _ _).mp here).1
      · exact fun present => ⟨_, all addr present, (listed _ _).mpr ⟨present, rfl⟩⟩
  rw [← sum_stake_keys, ← (perm.map vals.stake).sum_eq, List.map_flatMap, List.flatMap,
    List.sum_flatten, List.map_map]
  congr 1
  refine List.map_congr_left fun dom member => ?_
  obtain ⟨_, trimmed⟩ := named dom member
  obtain ⟨_, ran, -⟩ := getStakeDomainTotalStake_ok (by rwa [trimmed] : trimSpace dom ≠ [])
  rw [ran, trimmed, ← sum_listed]
  rfl

theorem partitioned_iff (recorded : MembersRecorded st)
    (named : ∀ addr, vals.registered addr = true → addr ≠ []) :
    Partitioned vals st ↔ OwnDomainsFit vals st := by
  constructor
  · intro partitioned addr registered
    refine (listed_iff recorded addr).mp (fun other => ?_) registered
    obtain ⟨listed, after, ran, -, mem⟩ := partitioned.listed addr (named addr registered)
    obtain ⟨_, again, -⟩ := getStakeDomainValidators_ok (named addr registered)
    cases ran.symm.trans again
    exact mem other
  · intro fit
    have listed : ∀ dom addr, addr ∈ vals.listed dom (st.members dom) ↔
        vals.registered addr = true ∧ st.stakeDomain addr = dom :=
      fun dom => (listed_iff recorded dom).mpr (fit dom)
    refine ⟨fun dom present => ?_, fun domains => stakes_counted_once recorded listed⟩
    obtain ⟨after, ran, -⟩ := getStakeDomainValidators_ok present
    exact ⟨_, after, ran, listed_distinct recorded dom, listed dom⟩

end Listing

structure Undivided (ws : WorldState) : Prop where
  validators : ws.validators = KeyedMap.empty
  domains : ws.governance.validatorDomains = KeyedMap.empty
  members : ws.governance.domainMembers = KeyedMap.empty

structure Divided (ws : WorldState) : Prop where
  recorded : MembersRecorded ws.governance
  named : ∀ addr, ws.validators.registered addr = true → addr ≠ []

theorem Undivided.divided {ws : WorldState} (undivided : Undivided ws) : Divided ws := by
  have none_ : ∀ dom, ws.governance.members dom = [] := by
    simp [GovernanceState.members, undivided.members]
  refine ⟨⟨fun dom => ?_, fun dom addr => ?_⟩, fun addr registered => ?_⟩
  · rw [none_]
    exact List.nodup_nil
  · rw [none_]
    have own : ws.governance.stakeDomain addr = addr := by
      unfold GovernanceState.stakeDomain
      rw [undivided.domains]
      rfl
    refine iff_of_false List.not_mem_nil fun here => here.2 (here.1.symm.trans own)
  · rw [undivided.validators] at registered
    cases registered

theorem addValidator_divided (genesis : GenesisConfig) (val : Validator) :
    Stays Divided (addValidator genesis val) := by
  intro ws divided
  unfold addValidator
  split
  · exact divided
  rename_i named
  repeat' split
  all_goals try exact divided
  refine ⟨divided.recorded, fun addr registered => ?_⟩
  simp only [EStateM.Result.final, ValidatorSet.registered, KeyedMap.find?_insert] at registered
  split at registered
  · rename_i same
    exact same ▸ named
  · exact divided.named addr registered

theorem addValidatorWithStakeDomain_divided (genesis : GenesisConfig) (val : Validator)
    (dom : Bytes) : Stays Divided (addValidatorWithStakeDomain genesis val dom) := by
  refine (addValidator_divided genesis val).seq fun _ ws divided => ?_
  have recorded := setValidatorStakeDomain_recorded divided.recorded val.address dom
  split
  · rename_i gov ran
    rw [ran] at recorded
    exact ⟨recorded, divided.named⟩
  rename_i err gov ran
  rw [ran] at recorded
  refine ⟨recorded, fun addr registered => divided.named addr ?_⟩
  simp only [EStateM.Result.final, ValidatorSet.registered, KeyedMap.find?_erase] at registered
  split at registered
  · cases registered
  · exact registered

theorem Divided.next {ws : WorldState} (divided : Divided ws) (genesis : GenesisConfig)
    (call : DomainCall) : Divided (call.next genesis ws) := by
  cases call with
  | assign addr dom =>
    exact ⟨setValidatorStakeDomain_recorded divided.recorded addr dom, divided.named⟩
  | add val dom =>
    exact addValidatorWithStakeDomain_divided genesis val dom ws divided

theorem stake_domains_partition_iff (genesis : GenesisConfig) (calls : List DomainCall)
    {start : WorldState} (undivided : Undivided start) :
    let ws := calls.foldl (DomainCall.next genesis) start
    Partitioned ws.validators ws.governance ↔ OwnDomainsFit ws.validators ws.governance := by
  have divided : ∀ ws, Divided ws → Divided (calls.foldl (DomainCall.next genesis) ws) := by
    induction calls with
    | nil => exact fun _ => id
    | cons call rest ih => exact fun ws holds => ih _ (holds.next genesis call)
  have reached := divided start undivided.divided
  exact partitioned_iff reached.recorded reached.named

def joining (digit : Byte) (dom : Bytes) : DomainCall :=
  .add ⟨sampleAddress digit, [2], [5], [5], [], KeyedMap.empty, true, 0⟩ dom

def afterCalls (calls : List DomainCall) : WorldState :=
  calls.foldl (DomainCall.next ⟨[], 0, 1⟩) (sampleWorld [])

/-- One validator leaves a domain for the one named after another, which moves to the domain named
after it; the third has none but its own. -/
def exchange : List DomainCall :=
  [joining 97 [112], joining 98 [], joining 99 [], .assign (sampleAddress 97) (sampleAddress 98),
    .assign (sampleAddress 98) (sampleAddress 97)]

theorem own_domains_partition :
    let ws := afterCalls exchange
    ws.validators.keys.map ws.governance.stakeDomain =
        [sampleAddress 98, sampleAddress 97, sampleAddress 99] ∧
      Partitioned ws.validators ws.governance := by
  have fits : ∀ addr ∈ (afterCalls exchange).validators.keys,
      (afterCalls exchange).governance.members addr = [] ↔
        (afterCalls exchange).governance.stakeDomain addr = addr := by
    decide +kernel
  exact ⟨by decide +kernel, (stake_domains_partition_iff _ _ ⟨rfl, rfl, rfl⟩).mpr
    fun addr registered => fits addr ((registered_iff _ _).mp registered)⟩

/-- A validator that joins another domain stays in its own; one whose name another validator has as
a domain is listed nowhere. -/
theorem a_validator_is_counted_twice_or_never :
    let listed (ws : WorldState) (dom : Bytes) :=
      (getStakeDomainValidators ws.validators dom ws.governance).value?
    let joined := afterCalls [joining 97 [112]]
    let taken := afterCalls [joining 97 [], joining 98 (sampleAddress 97)]
    (joined.governance.stakeDomain (sampleAddress 97) = [112] ∧
      listed joined [112] = some [sampleAddress 97] ∧
      listed joined (sampleAddress 97) = some [sampleAddress 97]) ∧
    (taken.governance.stakeDomain (sampleAddress 97) = sampleAddress 97 ∧
      listed taken (sampleAddress 97) = some [sampleAddress 98]) := by
  decide +kernel

end Thrylos
