import Thrylos.EpochSchedule

/-!
What an epoch's schedule gives to each domain and each validator. Shuffling and spreading only
rearrange the domains, so the schedule holds the quotas of the two apportionments.
-/

namespace Thrylos

open Apportionment Swaps

section Rearranging

variable (keccak256 : Bytes → Bytes)

theorem shuffleSchedule_perm (schedule : List Bytes) (seed : Bytes) :
    (shuffleSchedule keccak256 schedule seed).Perm schedule := by
  unfold shuffleSchedule
  split
  · exact List.Perm.refl schedule
  · exact shuffleDown_perm _ _ schedule

theorem seekReplacement_perm (cooldownWindow index steps next : Nat) (schedule : List Bytes) :
    (seekReplacement cooldownWindow index steps next schedule).Perm schedule := by
  induction steps generalizing next schedule with
  | zero => exact List.Perm.refl schedule
  | succ steps ih =>
    unfold seekReplacement
    split
    · exact List.Perm.refl schedule
    split
    · exact ih _ schedule
    · dsimp only
      split
      · exact swapAt_perm schedule index next
      · exact (ih _ _).trans ((swapAt_perm _ index next).trans (swapAt_perm schedule index next))

theorem cooldownPass_perm (cooldownWindow steps index : Nat) (schedule : List Bytes) :
    (cooldownPass cooldownWindow steps index schedule).Perm schedule := by
  induction steps generalizing index schedule with
  | zero => exact List.Perm.refl schedule
  | succ _ ih =>
    refine (ih _ _).trans ?_
    split
    · exact seekReplacement_perm _ _ _ _ schedule
    · exact List.Perm.refl schedule

theorem applyCooldown_perm (schedule : List Bytes) (cooldownWindow : Nat) :
    (applyCooldown schedule cooldownWindow).Perm schedule := by
  unfold applyCooldown
  split
  · exact List.Perm.refl schedule
  · exact cooldownPass_perm _ _ _ schedule

end Rearranging

section Naming

def DomainStates.upcoming (states : DomainStates) (dom : Bytes) : List Address :=
  match states.find? dom with
  | none => []
  | some st => st.order.drop st.index

def DomainStates.Enough (states : DomainStates) (domains : List Bytes) : Prop :=
  ∀ dom ∈ domains, ∃ st, states.find? dom = some st ∧ st.index + domains.count dom ≤ st.order.length

variable {states : DomainStates} {domains : List Bytes}

theorem DomainStates.Enough.step {dom : Bytes} {rest : List Bytes}
    (enough : states.Enough (dom :: rest)) :
    ∃ st addr, states.find? dom = some st ∧ st.order[st.index]? = some addr ∧
      nameValidators (dom :: rest) states =
        addr :: nameValidators rest (states.insert { st with index := st.index + 1 }) ∧
      DomainStates.Enough (states.insert { st with index := st.index + 1 }) rest := by
  obtain ⟨st, found, room⟩ := enough dom List.mem_cons_self
  have own : st.domainID = dom := KeyedMap.find?_key found
  rw [List.count_cons_self] at room
  have within : st.index < st.order.length := by omega
  have picked : st.order[st.index]? = some st.order[st.index] :=
    List.getElem?_eq_getElem within
  refine ⟨st, _, found, picked, ?_, fun other mem => ?_⟩
  · simp only [nameValidators, found, if_neg (Nat.not_le.mpr within), picked]
  · rw [KeyedMap.find?_insert]
    by_cases same : st.domainID = other
    · rw [if_pos same]
      refine ⟨_, rfl, ?_⟩
      rw [← same, own]
      change st.index + 1 + _ ≤ st.order.length
      omega
    · rw [if_neg same]
      obtain ⟨kept, foundToo, roomToo⟩ := enough other (List.mem_cons_of_mem _ mem)
      refine ⟨kept, foundToo, ?_⟩
      rwa [List.count_cons_of_ne (fun equal => same (own.trans equal))] at roomToo

theorem nameValidators_length
    (enough : states.Enough domains) : (nameValidators domains states).length = domains.length := by
  induction domains generalizing states with
  | nil => rfl
  | cons dom rest ih =>
    obtain ⟨_, _, _, _, named, next⟩ := enough.step
    rw [named, List.length_cons, List.length_cons, ih next]

theorem mem_nameValidators
    (enough : states.Enough domains) {addr : Address} (mem : addr ∈ nameValidators domains states) :
    ∃ dom st, states.find? dom = some st ∧ addr ∈ st.order := by
  induction domains generalizing states with
  | nil => cases mem
  | cons dom rest ih =>
    obtain ⟨st, _, found, picked, named, next⟩ := enough.step
    rw [named] at mem
    rcases List.mem_cons.mp mem with rfl | deeper
    · exact ⟨dom, st, found, List.mem_of_getElem? picked⟩
    obtain ⟨other, kept, foundToo, listed⟩ := ih next deeper
    rw [KeyedMap.find?_insert] at foundToo
    split_ifs at foundToo
    · cases foundToo
      exact ⟨dom, st, found, listed⟩
    · exact ⟨other, kept, foundToo, listed⟩

theorem countP_nameValidators (enough : states.Enough domains) (kind : Address → Bool) (dom : Bytes)
    (only : ∀ other st, states.find? other = some st → other ≠ dom →
      ∀ addr ∈ st.order, kind addr = false) : (nameValidators domains states).countP kind =
      ((states.upcoming dom).take (domains.count dom)).countP kind := by
  induction domains generalizing states with
  | nil => simp [nameValidators]
  | cons first rest ih =>
    obtain ⟨st, addr, found, picked, named, next⟩ := enough.step
    have own : st.domainID = first := KeyedMap.find?_key found
    have kept := ih next (by
      intro other after foundToo apart
      rw [KeyedMap.find?_insert] at foundToo
      split_ifs at foundToo with same
      · cases foundToo
        exact only first st found (fun equal => apart (same.symm.trans (own.trans equal)))
      · exact only other after foundToo apart)
    rw [named, List.countP_cons, kept]
    unfold DomainStates.upcoming
    rw [KeyedMap.find?_insert]
    by_cases same : first = dom
    · subst same
      obtain ⟨within, rfl⟩ := List.getElem?_eq_some_iff.mp picked
      rw [if_pos own, found, List.count_cons_self]
      dsimp only
      rw [List.drop_eq_getElem_cons within, List.take_succ_cons, List.countP_cons]
    · rw [if_neg (fun equal => same (own.symm.trans equal)), List.count_cons_of_ne same,
        only first st found same addr (List.mem_of_getElem? picked)]
      simp

end Naming

section Grouping

variable (history : Option ProposerHistoryReader)

section

variable (candidates : List Validator)

def membersOf (dom : Bytes) : List Validator :=
  candidates.filter fun val => domainIDOf history val.address = dom

def stakeIn (dom : Bytes) : Nat :=
  ((membersOf history candidates dom).map Validator.weight).sum

theorem groupValidatorsByDomain_snoc (val : Validator) :
    groupValidatorsByDomain history (candidates ++ [val]) =
      (groupValidatorsByDomain history candidates).insert (domainIDOf history val.address,
          (groupValidatorsByDomain history candidates).members
            (domainIDOf history val.address) ++ [val]) := by
  simp [groupValidatorsByDomain]

theorem groupValidatorsByDomain_members (dom : Bytes) :
    (groupValidatorsByDomain history candidates).members dom =
      membersOf history candidates dom := by
  induction candidates using List.reverseRecOn with
  | nil => rfl
  | append_singleton _ val ih =>
    rw [groupValidatorsByDomain_snoc]
    unfold DomainGroups.members membersOf at ih ⊢
    rw [List.filter_append]
    by_cases own : domainIDOf history val.address = dom
    · subst own
      simp [ih]
    · simp [own, ih]

theorem membersOf_snoc (val : Validator) (dom : Bytes) :
    membersOf history (candidates ++ [val]) dom = membersOf history candidates dom ++
        if domainIDOf history val.address = dom then [val] else [] := by
  unfold membersOf
  rw [List.filter_append]
  by_cases own : domainIDOf history val.address = dom
  · simp [own]
  · simp [own]

theorem groupValidatorsByDomain_find? (dom : Bytes) :
    (groupValidatorsByDomain history candidates).find? dom =
      if membersOf history candidates dom = [] then none
      else some (dom, membersOf history candidates dom) := by
  induction candidates using List.reverseRecOn with
  | nil => rfl
  | append_singleton _ val ih =>
    rw [groupValidatorsByDomain_snoc, membersOf_snoc, groupValidatorsByDomain_members]
    by_cases own : domainIDOf history val.address = dom
    · subst own
      simp
    · simp [own, ih]

theorem groupValidatorsByDomain_total : (groupValidatorsByDomain history candidates).total
        (fun group => (group.2.map Validator.weight).sum) = (candidates.map Validator.weight).sum := by
  induction candidates using List.reverseRecOn with
  | nil => rfl
  | append_singleton candidates val ih =>
    rw [groupValidatorsByDomain_snoc, KeyedMap.total_insert, groupValidatorsByDomain_members]
    have found := groupValidatorsByDomain_find? history candidates (domainIDOf history val.address)
    simp only [List.map_append, List.sum_append, List.map_cons, List.map_nil, List.sum_cons,
      List.sum_nil]
    by_cases none_ : membersOf history candidates (domainIDOf history val.address) = []
    · rw [if_pos none_] at found
      rw [KeyedMap.erase_of_absent found, ih, none_]
      simp
    · rw [if_neg none_] at found
      have rest := KeyedMap.total_erase (fun group => (group.2.map Validator.weight).sum) found
      dsimp only at rest ⊢
      omega

end

variable {candidates others : List Validator}

theorem stakeWeights_find? {dom : Bytes} {weight : Bytes × Nat} :
    (stakeWeights (groupValidatorsByDomain history candidates)).find? dom = some weight ↔
      membersOf history candidates dom ≠ [] ∧ weight = (dom, stakeIn history candidates dom) := by
  unfold stakeWeights
  rw [KeyedMap.find?_ofList_iff (by
    rw [List.map_map]
    exact (groupValidatorsByDomain history candidates).keys_nodup), List.mem_map]
  constructor
  · rintro ⟨⟨group, listed, rfl⟩, rfl⟩
    have found := (KeyedMap.mem_entries_iff _ group).mp listed
    rw [groupValidatorsByDomain_find?] at found
    split_ifs at found with none_
    rw [Option.some.injEq] at found
    refine ⟨none_, ?_⟩
    rw [← found]
    rfl
  · rintro ⟨some_, rfl⟩
    have found := groupValidatorsByDomain_find? history candidates dom
    rw [if_neg some_] at found
    exact ⟨⟨_, KeyedMap.find?_mem found, rfl⟩, rfl⟩

def weighed (members : List Validator) : List (Bytes × Nat) :=
  members.map fun val => (val.address, val.weight)

theorem totalWeight_weighed (members : List Validator) :
    totalWeight (weighed members) = (members.map Validator.weight).sum := by
  unfold totalWeight weighed
  rw [List.map_map]
  rfl

/-- Each domain has validators of the same addresses and weights. -/
def Alike (history other : Option ProposerHistoryReader) (candidates others : List Validator) :
    Prop :=
  ∀ dom, (weighed (membersOf history candidates dom)).Perm (weighed (membersOf other others dom))

theorem alike_of_perm (perm : candidates.Perm others) : Alike history history candidates others :=
  fun _ => (perm.filter _).map _

variable {history} {other : Option ProposerHistoryReader}

theorem Alike.stakeWeights_eq (alike : Alike history other candidates others) :
    stakeWeights (groupValidatorsByDomain history candidates) =
      stakeWeights (groupValidatorsByDomain other others) := by
  refine KeyedMap.ext_find? fun dom => Option.ext fun weight => ?_
  have stake : stakeIn history candidates dom = stakeIn other others dom := by
    unfold stakeIn
    rw [← totalWeight_weighed, ← totalWeight_weighed, totalWeight_perm (alike dom)]
  have lengths : (membersOf history candidates dom).length = (membersOf other others dom).length := by
    simpa [weighed] using (alike dom).length_eq
  have empty : membersOf history candidates dom = [] ↔ membersOf other others dom = [] := by
    rw [← List.length_eq_zero_iff, lengths, List.length_eq_zero_iff]
  rw [stakeWeights_find?, stakeWeights_find?, stake, Ne, empty]

theorem stakeWeights_total :
    totalWeight (stakeWeights (groupValidatorsByDomain history candidates)).entries =
      (candidates.map Validator.weight).sum := by
  have distinct : (((groupValidatorsByDomain history candidates).entries.map fun group =>
      (group.1, (group.2.map Validator.weight).sum)).map Prod.fst).Nodup := by
    rw [List.map_map]
    exact (groupValidatorsByDomain history candidates).keys_nodup
  unfold stakeWeights
  rw [totalWeight_perm (KeyedMap.ofList_perm distinct), ← groupValidatorsByDomain_total history]
  unfold totalWeight KeyedMap.total
  rw [List.map_map]
  rfl

end Grouping

section Quotas

theorem run_keys_nodup (order : MapOrder) (weights : Weights) :
    ((order.run weights.entries).map Prod.fst).Nodup :=
  ((order.perm _).map Prod.fst).nodup_iff.mpr weights.keys_nodup

theorem allocateQuotas_order (first second : MapOrder) (weights : Weights) (slots : Nat) :
    allocateQuotas first weights slots = allocateQuotas second weights slots :=
  allocate_eq_of_perm ((first.perm _).trans (second.perm _).symm) (run_keys_nodup first weights)

variable {slots : Nat} {members : List Validator}

theorem allocateQuotas_apportioned (order : MapOrder) (weights : Weights)
    (some_ : slots ≠ 0) (positive : totalWeight weights.entries ≠ 0) :
    Apportioned weights.entries slots (expand (allocateQuotas order weights slots)) := by
  have apportioned := apportioned_allocate (run_keys_nodup order weights) some_
    (by rwa [totalWeight_perm (order.perm _)])
  exact apportioned.of_perm (order.perm _) (List.Perm.refl _)

theorem allocateQuotas_keys (order : MapOrder) (weights : Weights)
    (some_ : slots ≠ 0) (positive : totalWeight weights.entries ≠ 0) :
    ((allocateQuotas order weights slots).map Allocation.key).Nodup := by
  have keys : ((allocateQuotas order weights slots).map Allocation.key).Perm
      ((order.run weights.entries).map Prod.fst) :=
    allocate_keys some_ (by rwa [totalWeight_perm (order.perm _)])
  exact keys.nodup_iff.mpr (run_keys_nodup order weights)

variable (keccak256 : Bytes → Bytes)

theorem validatorWeights_perm (distinct : (members.map Validator.address).Nodup) :
    (validatorWeights members).entries.Perm (weighed members) :=
  KeyedMap.ofList_perm (by rwa [List.map_map])

theorem memberSchedule_apportioned (order : MapOrder) (seed : Bytes)
    {allocation : Allocation Bytes} (distinct : (members.map Validator.address).Nodup)
    (positive : (members.map Validator.weight).sum ≠ 0) (some_ : allocation.quota ≠ 0) :
    Apportioned (weighed members) allocation.quota
      (memberSchedule keccak256 order seed members allocation) := by
  have perm := validatorWeights_perm distinct
  have apportioned := allocateQuotas_apportioned order (validatorWeights members) some_
    (by rwa [totalWeight_perm perm, totalWeight_weighed])
  exact apportioned.of_perm perm (shuffleSchedule_perm _ _ _)

theorem memberSchedule_eq (first second : MapOrder) (seed : Bytes) {others : List Validator}
    (distinct : (members.map Validator.address).Nodup) (perm : (weighed members).Perm (weighed others))
    (allocation : Allocation Bytes) : memberSchedule keccak256 first seed members allocation =
      memberSchedule keccak256 second seed others allocation := by
  have keys : ((weighed members).map Prod.fst).Nodup := by
    unfold weighed
    rwa [List.map_map]
  have same : validatorWeights members = validatorWeights others :=
    KeyedMap.ofList_eq_of_perm keys perm
  unfold memberSchedule allocateValidatorQuotas
  rw [same, allocateQuotas_order first second]

theorem domainStates_find? (order : Bytes → MapOrder) (seed : Bytes) (groups : DomainGroups)
    {allocations : List (Allocation Bytes)} (distinct : (allocations.map Allocation.key).Nodup)
    {dom : Bytes} {st : DomainScheduleState} :
    (domainStates keccak256 order seed groups allocations).find? dom = some st ↔
      ∃ allocation ∈ allocations, allocation.quota ≠ 0 ∧ allocation.key = dom ∧
        st = ⟨dom, memberSchedule keccak256 (order dom) seed (groups.members dom)
          allocation, 0⟩ := by
  have keys : (((allocations.filter (·.quota ≠ 0)).map fun allocation =>
      (⟨allocation.key, memberSchedule keccak256 (order allocation.key) seed
        (groups.members allocation.key) allocation, 0⟩ : DomainScheduleState)).map
          DomainScheduleState.domainID).Nodup := by
    rw [List.map_map]
    exact distinct.sublist (List.filter_sublist.map Allocation.key)
  unfold domainStates
  rw [KeyedMap.find?_ofList_iff keys, List.mem_map]
  constructor
  · rintro ⟨⟨allocation, listed, rfl⟩, rfl⟩
    obtain ⟨mem, some_⟩ := List.mem_filter.mp listed
    exact ⟨allocation, mem, of_decide_eq_true some_, rfl, rfl⟩
  · rintro ⟨allocation, mem, some_, rfl, rfl⟩
    exact ⟨⟨allocation, List.mem_filter.mpr ⟨mem, decide_eq_true some_⟩, rfl⟩, rfl⟩

end Quotas

def domainSlots (history : Option ProposerHistoryReader) (schedule : List Address)
    (dom : Bytes) : Nat :=
  schedule.countP fun addr => domainIDOf history addr = dom

structure Proportional (history : Option ProposerHistoryReader) (candidates : List Validator)
    (slots : Nat) (schedule : List Address) : Prop where
  length : schedule.length = slots
  staked : ∀ addr ∈ schedule, ∃ val ∈ candidates, val.address = addr ∧ 0 < val.weight
  domains : ∀ dom,
    let share := slots * stakeIn history candidates dom / (candidates.map Validator.weight).sum
    share ≤ domainSlots history schedule dom ∧ domainSlots history schedule dom ≤ share + 1
  validators : ∀ val ∈ candidates,
    let dom := domainIDOf history val.address
    let share := domainSlots history schedule dom * val.weight / stakeIn history candidates dom
    share ≤ schedule.count val.address ∧ schedule.count val.address ≤ share + 1

theorem sum_weight_ne_zero {members : List Validator}
    (positive : ∀ val ∈ members, 0 < val.weight) (some_ : members ≠ []) :
    (members.map Validator.weight).sum ≠ 0 := by
  obtain ⟨first, _, rfl⟩ := List.exists_cons_of_ne_nil some_
  have weight := positive first List.mem_cons_self
  rw [List.map_cons, List.sum_cons]
  omega

structure ScheduledEpoch where
  keccak256 : Bytes → Bytes
  order : Option Bytes → MapOrder
  seed : Bytes
  historyReader : Option ProposerHistoryReader
  cooldownWindow : Nat
  snapshot : List Validator
  slots : Nat
  distinct : (snapshot.map Validator.address).Nodup
  positive : ∀ val ∈ snapshot, 0 < val.weight
  staked : snapshot ≠ []
  some_ : slots ≠ 0

namespace ScheduledEpoch

variable (epoch : ScheduledEpoch)

def groups : DomainGroups := groupValidatorsByDomain epoch.historyReader epoch.snapshot

def quotas : List (Allocation Bytes) :=
  allocateStakeQuotas (epoch.order none) epoch.groups epoch.slots

def domains : List Bytes :=
  applyCooldown (shuffleSchedule epoch.keccak256 (expand epoch.quotas) epoch.seed)
    epoch.cooldownWindow

def states : DomainStates :=
  domainStates epoch.keccak256 (fun dom => epoch.order (some dom)) epoch.seed epoch.groups
    epoch.quotas

def schedule : List Address := nameValidators epoch.domains epoch.states

theorem freshSchedule_eq :
    freshSchedule epoch.keccak256 epoch.order epoch.seed epoch.groups epoch.slots
      epoch.cooldownWindow = epoch.schedule := rfl

theorem weighed_ne_zero : totalWeight (stakeWeights epoch.groups).entries ≠ 0 := by
  rw [groups, stakeWeights_total]
  exact sum_weight_ne_zero epoch.positive epoch.staked

theorem domains_perm : epoch.domains.Perm (expand epoch.quotas) :=
  (applyCooldown_perm _ _).trans (shuffleSchedule_perm _ _ _)

theorem domains_apportioned :
    Apportioned (stakeWeights epoch.groups).entries epoch.slots epoch.domains :=
  (allocateQuotas_apportioned (epoch.order none) _ epoch.some_ epoch.weighed_ne_zero).of_perm
    (List.Perm.refl _) epoch.domains_perm

theorem quotas_keys : (epoch.quotas.map Allocation.key).Nodup :=
  allocateQuotas_keys _ _ epoch.some_ epoch.weighed_ne_zero

theorem domains_count {allocation : Allocation Bytes} (mem : allocation ∈ epoch.quotas) :
    epoch.domains.count allocation.key = allocation.quota := by
  rw [epoch.domains_perm.count_eq]
  exact count_expand epoch.quotas_keys mem

theorem domain_bounds (dom : Bytes) :
    let share := epoch.slots * stakeIn epoch.historyReader epoch.snapshot dom /
      (epoch.snapshot.map Validator.weight).sum
    let count := epoch.domains.count dom
    share ≤ count ∧ count ≤ share + 1 := by
  have apportioned := epoch.domains_apportioned
  by_cases none_ : membersOf epoch.historyReader epoch.snapshot dom = []
  · have stake : stakeIn epoch.historyReader epoch.snapshot dom = 0 := by
      simp [stakeIn, none_]
    have count : epoch.domains.count dom = 0 := by
      refine List.count_eq_zero.mpr fun mem => ?_
      obtain ⟨weight, entry, rfl⟩ := apportioned.keys dom mem
      exact ((stakeWeights_find? epoch.historyReader).mp
        ((KeyedMap.mem_entries_iff _ weight).mp entry)).1 none_
    simp [stake, count]
  · have entry := KeyedMap.find?_mem ((stakeWeights_find? epoch.historyReader).mpr ⟨none_, rfl⟩)
    have low := apportioned.low _ entry
    have high := apportioned.high _ entry
    rw [groups, stakeWeights_total] at low high
    rw [Nat.mul_comm epoch.slots]
    exact ⟨low, high⟩

variable {epoch} {dom : Bytes} {st : DomainScheduleState}

theorem states_find? (found : epoch.states.find? dom = some st) :
    st.index = 0 ∧ Apportioned (weighed (membersOf epoch.historyReader epoch.snapshot dom))
      (epoch.domains.count dom) st.order := by
  obtain ⟨allocation, mem, quota, rfl, rfl⟩ :=
    (domainStates_find? epoch.keccak256 _ epoch.seed _ epoch.quotas_keys).mp found
  have count := epoch.domains_count mem
  refine ⟨rfl, ?_⟩
  rw [count, groups, groupValidatorsByDomain_members]
  have listed : allocation.key ∈ epoch.domains := List.count_pos_iff.mp (by omega)
  obtain ⟨weight, entry, own⟩ := epoch.domains_apportioned.keys _ listed
  obtain ⟨members, -⟩ := (stakeWeights_find? epoch.historyReader).mp
    ((KeyedMap.mem_entries_iff _ weight).mp entry)
  rw [own] at members
  refine memberSchedule_apportioned epoch.keccak256 _ epoch.seed
    (epoch.distinct.sublist (List.filter_sublist.map Validator.address)) ?_ quota
  exact sum_weight_ne_zero
    (fun val inside => epoch.positive val (List.mem_filter.mp inside).1) members

theorem mem_order (found : epoch.states.find? dom = some st) {addr : Address}
    (mem : addr ∈ st.order) :
    domainIDOf epoch.historyReader addr = dom ∧ ∃ val ∈ epoch.snapshot, val.address = addr := by
  obtain ⟨-, apportioned⟩ := states_find? found
  obtain ⟨_, listed, rfl⟩ := apportioned.keys addr mem
  obtain ⟨val, inside, rfl⟩ := List.mem_map.mp listed
  obtain ⟨candidate, own⟩ := List.mem_filter.mp inside
  exact ⟨of_decide_eq_true own, val, candidate, rfl⟩

variable (epoch)

theorem states_enough : epoch.states.Enough epoch.domains := by
  intro dom mem
  obtain ⟨allocation, listed, own, quota⟩ := mem_expand (epoch.domains_perm.mem_iff.mp mem)
  have found := (domainStates_find? epoch.keccak256 (fun dom => epoch.order (some dom))
    epoch.seed epoch.groups epoch.quotas_keys).mpr ⟨allocation, listed, quota, own, rfl⟩
  obtain ⟨index, apportioned⟩ := states_find? found
  refine ⟨_, found, ?_⟩
  rw [apportioned.length, Nat.zero_add]

theorem countP_schedule (kind : Address → Bool) (dom : Bytes)
    (only : ∀ addr, domainIDOf epoch.historyReader addr ≠ dom → kind addr = false) :
    epoch.schedule.countP kind =
      match epoch.states.find? dom with
      | none => 0
      | some st => st.order.countP kind := by
  unfold schedule
  rw [countP_nameValidators epoch.states_enough kind dom (by
      intro other st found apart addr mem
      obtain ⟨own, -⟩ := mem_order found mem
      exact only addr (fun same => apart (own.symm.trans same)))]
  unfold DomainStates.upcoming
  cases found : epoch.states.find? dom with
  | none => simp
  | some =>
    obtain ⟨index, apportioned⟩ := states_find? found
    dsimp only
    rw [index, List.drop_zero, ← apportioned.length, List.take_length]

theorem count_of_find?_none (none_ : epoch.states.find? dom = none) :
    epoch.domains.count dom = 0 := by
  refine List.count_eq_zero.mpr fun mem => ?_
  obtain ⟨_, found, _⟩ := epoch.states_enough dom mem
  rw [none_] at found
  cases found

theorem domainSlots_schedule (dom : Bytes) :
    domainSlots epoch.historyReader epoch.schedule dom = epoch.domains.count dom := by
  unfold domainSlots
  rw [epoch.countP_schedule _ dom (fun addr apart => decide_eq_false apart)]
  cases found : epoch.states.find? dom with
  | none => exact (epoch.count_of_find?_none found).symm
  | some =>
    obtain ⟨-, apportioned⟩ := states_find? found
    rw [← apportioned.length]
    refine List.countP_eq_length.mpr fun addr mem => decide_eq_true ?_
    exact (mem_order found mem).1

theorem validator_bounds {val : Validator} (mem : val ∈ epoch.snapshot) :
    let dom := domainIDOf epoch.historyReader val.address
    let share := epoch.domains.count dom * val.weight /
      stakeIn epoch.historyReader epoch.snapshot dom
    let count := epoch.schedule.count val.address
    share ≤ count ∧ count ≤ share + 1 := by
  intro dom share count
  have named := epoch.countP_schedule (· == val.address) dom (by
      intro addr apart
      refine beq_eq_false_iff_ne.mpr fun same => apart ?_
      rw [same])
  change count = _ at named
  cases found : epoch.states.find? dom with
  | none =>
    have nothing := epoch.count_of_find?_none found
    rw [found] at named
    have free : share = 0 := by simp [share, nothing]
    rw [free, named]
    exact ⟨Nat.le_refl 0, Nat.zero_le _⟩
  | some =>
  obtain ⟨-, apportioned⟩ := states_find? found
  rw [found] at named
  have listed : (val.address, val.weight) ∈
      weighed (membersOf epoch.historyReader epoch.snapshot dom) :=
    List.mem_map_of_mem (List.mem_filter.mpr ⟨mem, decide_eq_true rfl⟩)
  have low := apportioned.low _ listed
  have high := apportioned.high _ listed
  rw [totalWeight_weighed, Nat.mul_comm] at low high
  rw [named]
  exact ⟨low, high⟩

theorem schedule_proportional :
    Proportional epoch.historyReader epoch.snapshot epoch.slots epoch.schedule := by
  have enough := epoch.states_enough
  refine ⟨(nameValidators_length enough).trans epoch.domains_apportioned.length,
    fun addr mem => ?_, fun dom => ?_, fun val mem => ?_⟩
  · obtain ⟨_, _, found, listed⟩ := mem_nameValidators enough mem
    obtain ⟨-, val, candidate, rfl⟩ := mem_order found listed
    exact ⟨val, candidate, rfl, epoch.positive val candidate⟩
  · simp only [epoch.domainSlots_schedule]
    exact epoch.domain_bounds dom
  · simp only [epoch.domainSlots_schedule]
    exact epoch.validator_bounds mem

end ScheduledEpoch

section Order

variable (history : Option ProposerHistoryReader) {candidates others : List Validator}

variable {history} in
theorem Alike.freshSchedule_eq {other : Option ProposerHistoryReader}
    (alike : Alike history other candidates others)
    (distinct : (candidates.map Validator.address).Nodup) (keccak256 : Bytes → Bytes)
    (first second : Option Bytes → MapOrder) (seed : Bytes) (slots cooldownWindow : Nat) :
    freshSchedule keccak256 first seed (groupValidatorsByDomain history candidates) slots
        cooldownWindow =
      freshSchedule keccak256 second seed (groupValidatorsByDomain other others) slots
        cooldownWindow := by
  have allocations : allocateStakeQuotas (first none) (groupValidatorsByDomain history candidates)
      slots = allocateStakeQuotas (second none) (groupValidatorsByDomain other others) slots := by
    unfold allocateStakeQuotas
    rw [alike.stakeWeights_eq, allocateQuotas_order (first none) (second none)]
  have states (allocations : List (Allocation Bytes)) :
      domainStates keccak256 (fun dom => first (some dom)) seed
          (groupValidatorsByDomain history candidates) allocations =
        domainStates keccak256 (fun dom => second (some dom)) seed
          (groupValidatorsByDomain other others) allocations := by
    refine congrArg KeyedMap.ofList (List.map_congr_left fun allocation _ => ?_)
    have own : ((membersOf history candidates allocation.key).map Validator.address).Nodup :=
      distinct.sublist (List.filter_sublist.map Validator.address)
    rw [groupValidatorsByDomain_members, groupValidatorsByDomain_members,
      memberSchedule_eq keccak256 _ (second (some allocation.key)) seed own
        (alike allocation.key)]
  unfold freshSchedule
  simp only [allocations, states]

theorem sum_weight_filter (members : List Validator) :
    ((members.filter fun val => 0 < val.weight).map Validator.weight).sum =
      (members.map Validator.weight).sum := by
  induction members with
  | nil => rfl
  | cons first _ ih =>
    by_cases weight : 0 < first.weight
    · rw [List.filter_cons_of_pos (by simpa using weight), List.map_cons, List.map_cons,
        List.sum_cons, List.sum_cons, ih]
    · rw [List.filter_cons_of_neg (by simpa using weight), List.map_cons, List.sum_cons]
      omega

theorem stakeIn_filter (dom : Bytes) :
    stakeIn history (candidates.filter fun val => 0 < val.weight) dom =
      stakeIn history candidates dom := by
  unfold stakeIn
  rw [← sum_weight_filter (membersOf history candidates dom)]
  unfold membersOf
  rw [List.filter_comm]

variable {history} in
theorem Proportional.of_filter {slots : Nat} {schedule : List Address}
    (proportional : Proportional history
      (candidates.filter fun val => 0 < val.weight) slots schedule)
    (distinct : (candidates.map Validator.address).Nodup) :
    Proportional history candidates slots schedule where
  length := proportional.length
  staked addr mem := by
    obtain ⟨val, listed, same⟩ := proportional.staked addr mem
    exact ⟨val, (List.mem_filter.mp listed).1, same⟩
  domains dom := by
    have bounds := proportional.domains dom
    rwa [stakeIn_filter, sum_weight_filter] at bounds
  validators val mem := by
    by_cases weight : 0 < val.weight
    · have bounds := proportional.validators val (List.mem_filter.mpr ⟨mem, decide_eq_true weight⟩)
      simpa only [stakeIn_filter] using bounds
    have nothing : val.weight = 0 := by omega
    have absent : schedule.count val.address = 0 := by
      refine List.count_eq_zero.mpr fun scheduled => ?_
      obtain ⟨_, listed, same, positive⟩ := proportional.staked _ scheduled
      obtain rfl := List.inj_on_of_nodup_map distinct (List.mem_filter.mp listed).1 mem same
      exact weight positive
    simp [nothing, absent]

end Order

def MapOrder.byKey : MapOrder := ⟨id, fun _ => List.Perm.refl _⟩

theorem epoch_schedule_proportional (keccak256 : Bytes → Bytes) (set : ProposerSet)
    (candidates : List Validator) (epoch : UInt64) (slotsPerEpoch cooldownWindow : Int)
    (distinct : (candidates.map Validator.address).Nodup)
    (staked : ∃ val ∈ candidates, 0 < val.weight) (positive : 0 < slotsPerEpoch)
    (uncached : set.scheduleCache = none) :
    ∃ schedule, Proportional set.historyReader candidates slotsPerEpoch.toNat schedule ∧
      ∀ (order : Option Bytes → MapOrder) (others : List Validator), others.Perm candidates →
        ∃ after, buildEpochSchedule keccak256 order others epoch slotsPerEpoch cooldownWindow set =
          .ok schedule after := by
  obtain ⟨_, mem, weight⟩ := staked
  have snapshotDistinct : ((candidates.filter fun val => 0 < val.weight).map
      Validator.address).Nodup := distinct.sublist (List.filter_sublist.map Validator.address)
  have snapshotStaked : (candidates.filter fun val => 0 < val.weight) ≠ [] :=
    List.ne_nil_of_mem (List.mem_filter.mpr ⟨mem, decide_eq_true weight⟩)
  have weighted : ∀ val ∈ candidates.filter fun val => 0 < val.weight,
      0 < val.weight := fun val inside => of_decide_eq_true (List.mem_filter.mp inside).2
  have slots : slotsPerEpoch.toNat ≠ 0 := by omega
  have proportional := ScheduledEpoch.schedule_proportional ⟨keccak256, fun _ => MapOrder.byKey,
    buildEpochSeed keccak256 set.historyReader epoch slotsPerEpoch.toNat, set.historyReader,
    cooldownWindow.toNat, _, _, snapshotDistinct, weighted, snapshotStaked, slots⟩
  rw [← ScheduledEpoch.freshSchedule_eq] at proportional
  dsimp only [ScheduledEpoch.groups] at proportional
  refine ⟨_, proportional.of_filter distinct, fun order others perm => ?_⟩
  have kept := perm.filter fun val => decide (0 < val.weight)
  have same := (alike_of_perm set.historyReader kept).freshSchedule_eq
    ((kept.map Validator.address).nodup_iff.mpr snapshotDistinct)
    keccak256 order (fun _ => MapOrder.byKey)
    (buildEpochSeed keccak256 set.historyReader epoch slotsPerEpoch.toNat) slotsPerEpoch.toNat
    cooldownWindow.toNat
  have some_ : others ≠ [] := List.ne_nil_of_mem (perm.mem_iff.mpr mem)
  have stakedToo : ¬ ((others.filter fun val => 0 < val.weight) = [] ∨
      ((others.filter fun val => 0 < val.weight).map Validator.weight).sum = 0) := by
    have nonempty := List.ne_nil_of_mem (kept.mem_iff.mpr
      (List.mem_filter.mpr ⟨mem, decide_eq_true weight⟩))
    exact not_or.mpr ⟨nonempty, sum_weight_ne_zero
      (fun val inside => of_decide_eq_true (List.mem_filter.mp inside).2) nonempty⟩
  unfold buildEpochSchedule ProposerSet.copyCachedSchedule
  simp only [if_neg some_, if_neg (not_le.mpr positive), if_neg stakedToo, uncached, same]
  rw [if_neg (not_not.mpr proportional.length)]
  exact ⟨_, rfl⟩

def sampleCandidate (digit stake : Byte) : Validator where
  address := sampleAddress digit
  pubkey := []
  stake := [stake]
  selfStake := [stake]
  delegatedStake := []
  delegators := KeyedMap.empty
  active := true
  jailUntil := 0

def sampleCandidates : List Validator :=
  [sampleCandidate 97 3, sampleCandidate 98 2, sampleCandidate 99 0]

theorem three_candidates_share_an_epoch :
    ∃ schedule, Proportional none sampleCandidates 8 schedule ∧
      ∃ after, buildEpochSchedule id (fun _ => MapOrder.byKey) sampleCandidates.reverse 1 8 1
        ⟨none, none⟩ = .ok schedule after := by
  obtain ⟨schedule, proportional, built⟩ := epoch_schedule_proportional id ⟨none, none⟩
    sampleCandidates 1 8 1 (by decide) ⟨_, List.mem_cons_self, by decide⟩ (by decide) rfl
  exact ⟨schedule, proportional, built _ _ sampleCandidates.reverse_perm⟩

end Thrylos
