import Mathlib.Algebra.Order.BigOperators.Group.List
import Thrylos.ProposerAgreement

/-!
The root of the simulation overlay against the root a block addition sets. The overlay's is under
the version of the height before the block, the other under that of the block's own height.
-/

namespace Thrylos

open EStateM (Leads)

section Encoding

variable {version : UInt32} {raw : Bytes} {canonical : Bytes} {other : UInt32}

theorem canonicalizeUint256Bytes_length (ok : canonicalizeUint256Bytes raw = .ok canonical) :
    raw.length < 2 + canonical.length := by
  have encoded := canonicalizeUint256Bytes_ok ok
  cases parsed : parseUint256Bytes raw with
  | error => simp [canonicalizeUint256Bytes, parsed] at ok
  | ok =>
  obtain ⟨rfl, -, zero | leading⟩ := parseUint256Bytes_ok parsed
  · rw [zero, List.length_singleton]
    omega
  · rw [parseBigInt, parsed, BigEndian.encode_decode leading] at encoded
    rw [encoded]
    omega

theorem appendStateUint256_congr (same : 2 ≤ version ↔ 2 ≤ other) :
    appendStateUint256 version = appendStateUint256 other := by
  funext raw
  exact if_congr same rfl rfl

theorem appendStateUint256_refused {err : String}
    (refused : canonicalizeUint256Bytes raw = .error err) :
    appendStateUint256 version raw = raw := by
  unfold appendStateUint256
  rw [refused]
  split_ifs <;> rfl

theorem appendStateUint256_accepted (ok : canonicalizeUint256Bytes raw = .ok canonical) :
    appendStateUint256 2 raw = BigEndian.fixed 2 canonical.length ++ canonical := by
  unfold appendStateUint256
  rw [if_pos (by decide), ok]

theorem appendStateUint256_length_lt (ok : canonicalizeUint256Bytes raw = .ok canonical) :
    (appendStateUint256 1 raw).length < (appendStateUint256 2 raw).length := by
  have shorter := canonicalizeUint256Bytes_length ok
  have legacy : appendStateUint256 1 raw = raw := if_neg (by decide)
  rw [legacy, appendStateUint256_accepted ok, List.length_append, BigEndian.fixed_length]
  omega

theorem appendStateUint256_length_le (raw : Bytes) :
    (appendStateUint256 1 raw).length ≤ (appendStateUint256 2 raw).length := by
  cases ok : canonicalizeUint256Bytes raw with
  | error => rw [appendStateUint256_refused ok, appendStateUint256_refused ok]
  | ok => exact (appendStateUint256_length_lt ok).le

theorem length_flatMap_le {α : Type} {items : List α} {short long : α → Bytes}
    (each : ∀ item ∈ items, (short item).length ≤ (long item).length) :
    (items.flatMap short).length ≤ (items.flatMap long).length := by
  simp only [List.length_flatMap]
  exact List.sum_le_sum each

theorem length_flatMap_lt {α : Type} {items : List α} {short long : α → Bytes} {item : α}
    (each : ∀ item ∈ items, (short item).length ≤ (long item).length) (mem : item ∈ items)
    (longer : (short item).length < (long item).length) :
    (items.flatMap short).length < (items.flatMap long).length := by
  simp only [List.length_flatMap]
  exact List.sum_lt_sum _ _ each ⟨item, mem, longer⟩

theorem accountStateData_length_lt {acc : Account} (canonical : acc.Canonical) :
    (accountStateData 1 acc).length < (accountStateData 2 acc).length := by
  have bal : canonicalizeUint256Bytes acc.balance = .ok acc.balance := by
    rw [← canonical.fields.1]
    exact canonicalizeUint256Bytes_encode (parseBigInt_lt _)
  have delegations : (acc.delegatedTo.entries.flatMap (delegationStateData 1)).length ≤
      (acc.delegatedTo.entries.flatMap (delegationStateData 2)).length := by
    refine length_flatMap_le fun entry _ => ?_
    simp only [delegationStateData, List.length_append]
    have amt := appendStateUint256_length_le entry.2
    omega
  have longer := appendStateUint256_length_lt bal
  have staked := appendStateUint256_length_le acc.stakedAmount
  have rewards := appendStateUint256_length_le acc.rewards
  simp only [accountStateData, List.length_append]
  omega

theorem validatorStateData_length_le (val : Validator) :
    (validatorStateData 1 val).length ≤ (validatorStateData 2 val).length := by
  have stake := appendStateUint256_length_le val.stake
  simp only [validatorStateData, List.length_append]
  omega

theorem stateData_congr (same : 2 ≤ version ↔ 2 ≤ other)
    (accounts : KeyedMap Account.address) (vals : ValidatorSet) :
    stateData version accounts vals = stateData other accounts vals := by
  unfold stateData accountStateData validatorStateData delegationStateData
  rw [appendStateUint256_congr same]

def NothingEncoded (accounts : KeyedMap Account.address) (vals : ValidatorSet) : Prop :=
  accounts.entries = [] ∧
    ∀ entry ∈ vals.entries, ∃ err, canonicalizeUint256Bytes entry.2.stake = .error err

theorem stateData_versions_iff {accounts : KeyedMap Account.address} {vals : ValidatorSet}
    (canonical : ∀ acc ∈ accounts.entries, acc.Canonical) :
    stateData 1 accounts vals = stateData 2 accounts vals ↔ NothingEncoded accounts vals := by
  have accountsLe : (accounts.entries.flatMap (accountStateData 1)).length ≤
      (accounts.entries.flatMap (accountStateData 2)).length :=
    length_flatMap_le fun acc mem => (accountStateData_length_lt (canonical acc mem)).le
  have validatorsLe : (vals.entries.flatMap (validatorStateData 1 ·.2)).length ≤
      (vals.entries.flatMap (validatorStateData 2 ·.2)).length :=
    length_flatMap_le fun entry _ => validatorStateData_length_le entry.2
  constructor
  · intro same
    have lengths := congrArg List.length same
    simp only [stateData, List.length_append] at lengths
    constructor
    · by_contra nonempty
      obtain ⟨acc, mem⟩ := List.exists_mem_of_ne_nil _ nonempty
      have longer := length_flatMap_lt
        (fun acc mem => (accountStateData_length_lt (canonical acc mem)).le) mem
        (accountStateData_length_lt (canonical acc mem))
      omega
    · intro entry mem
      cases ok : canonicalizeUint256Bytes entry.2.stake with
      | error err => exact ⟨err, rfl⟩
      | ok stake =>
      have stakeLonger := appendStateUint256_length_lt ok
      have longer : (vals.entries.flatMap (validatorStateData 1 ·.2)).length <
          (vals.entries.flatMap (validatorStateData 2 ·.2)).length := by
        refine length_flatMap_lt (fun other _ => validatorStateData_length_le other.2) mem ?_
        simp only [validatorStateData, List.length_append]
        omega
      omega
  · rintro ⟨empty, refused⟩
    have stakes : vals.entries.flatMap (validatorStateData 1 ·.2) =
        vals.entries.flatMap (validatorStateData 2 ·.2) := by
      refine List.flatMap_congr fun entry mem => ?_
      obtain ⟨_, stake⟩ := refused entry mem
      simp only [validatorStateData, appendStateUint256_refused stake]
    simp only [stateData, empty, List.flatMap_nil, stakes]

end Encoding

theorem getAllAccounts_canonical {am : Ledger} {acc : Account}
    (mem : acc ∈ (getAllAccounts am).entries) : acc.Canonical := by
  obtain ⟨_, -, ok⟩ := List.mem_filterMap.mp mem
  unfold acceptedAccount at ok
  split at ok
  · cases ok
  · rename_i norm normalised
    cases ok
    exact normalizeAccountCompat_canonical normalised

structure CrossesUpgrade (cfg : NodeConfig) (ws : WorldState) : Prop where
  configured : 0 < cfg.stateEncodingUpgradeHeight
  moved : ¬ (cfg.stateEncodingUpgradeHeight ≤ ws.height ↔
    cfg.stateEncodingUpgradeHeight ≤ ws.height + 1)
  legacy : getStateRootEncodingVersion ws < stateRootEncodingVersionCanonical

section Versions

variable {cfg : NodeConfig} {ws : WorldState}

theorem versionAt_canonical_iff (configured : 0 < cfg.stateEncodingUpgradeHeight)
    (height : Int64) : 2 ≤ versionAt cfg ws height ↔
      cfg.stateEncodingUpgradeHeight ≤ height ∨ 2 ≤ getStateRootEncodingVersion ws := by
  unfold versionAt desiredStateRootEncodingVersionForHeight getStateRootEncodingVersion
  by_cases reached : cfg.stateEncodingUpgradeHeight ≤ height
  · simp only [configured, reached, and_self, if_true, true_or, iff_true]
    decide
  · by_cases unset : ws.stateRootEncodingVersion = 0
    · simp [configured, reached, unset]
    · simp [reached, unset]

theorem versionAt_unconfigured (unconfigured : ¬ 0 < cfg.stateEncodingUpgradeHeight)
    (first second : Int64) : versionAt cfg ws first = versionAt cfg ws second := by
  simp only [versionAt, desiredStateRootEncodingVersionForHeight, unconfigured, false_and, if_false]

theorem versions_apart_iff :
    ¬ (2 ≤ versionAt cfg ws ws.height ↔ 2 ≤ versionAt cfg ws (ws.height + 1)) ↔
      CrossesUpgrade cfg ws := by
  by_cases configured : 0 < cfg.stateEncodingUpgradeHeight
  · rw [versionAt_canonical_iff configured, versionAt_canonical_iff configured]
    by_cases canonical : 2 ≤ getStateRootEncodingVersion ws
    · simp only [canonical, or_true, iff_self, not_true, false_iff]
      exact fun crosses => absurd canonical (UInt32.not_le.mpr crosses.legacy)
    · simp only [canonical, or_false]
      exact ⟨fun moved => ⟨configured, moved, UInt32.not_le.mp canonical⟩, fun crosses => crosses.moved⟩
  · rw [versionAt_unconfigured configured ws.height (ws.height + 1)]
    simp only [iff_self, not_true, false_iff]
    exact fun crosses => configured crosses.configured

def EncodingsApart (cfg : NodeConfig) (accounts : KeyedMap Account.address)
    (vals : ValidatorSet) : Prop :=
  cfg.keccak256 (stateData 1 accounts vals) = cfg.keccak256 (stateData 2 accounts vals) →
    stateData 1 accounts vals = stateData 2 accounts vals

variable {version : UInt32}

theorem rootOf_canonical (canonical : 2 ≤ version)
    (accounts : KeyedMap Account.address) (vals : ValidatorSet) :
    rootOf cfg version accounts vals = rootOf cfg 2 accounts vals := by
  have same : 2 ≤ version ↔ 2 ≤ (2 : UInt32) := iff_of_true canonical (by decide)
  unfold rootOf
  rw [stateData_congr same]

theorem rootOf_legacy (legacy : ¬ 2 ≤ version)
    (accounts : KeyedMap Account.address) (vals : ValidatorSet) :
    rootOf cfg version accounts vals = rootOf cfg 1 accounts vals := by
  have same : 2 ≤ version ↔ 2 ≤ (1 : UInt32) := iff_of_false legacy (by decide)
  unfold rootOf
  rw [stateData_congr same]

theorem rootOf_next_iff {accounts : KeyedMap Account.address} {vals : ValidatorSet}
    (canonical : ∀ acc ∈ accounts.entries, acc.Canonical)
    (apart : EncodingsApart cfg accounts vals) :
    rootOf cfg (versionAt cfg ws ws.height) accounts vals =
        rootOf cfg (versionAt cfg ws (ws.height + 1)) accounts vals ↔
      ¬ CrossesUpgrade cfg ws ∨ NothingEncoded accounts vals := by
  have roots : rootOf cfg 1 accounts vals = rootOf cfg 2 accounts vals ↔
      stateData 1 accounts vals = stateData 2 accounts vals :=
    ⟨fun same => apart (hexBytes_injective same), fun same => congrArg _ (congrArg _ same)⟩
  rw [← stateData_versions_iff canonical, ← versions_apart_iff, not_not]
  by_cases now : 2 ≤ versionAt cfg ws ws.height
  · rw [rootOf_canonical now]
    by_cases next : 2 ≤ versionAt cfg ws (ws.height + 1)
    · rw [rootOf_canonical next]
      simp only [now, next, true_or]
    · rw [rootOf_legacy next, eq_comm, roots]
      simp only [now, next, iff_false, not_true, false_or]
  · rw [rootOf_legacy now]
    by_cases next : 2 ≤ versionAt cfg ws (ws.height + 1)
    · rw [rootOf_canonical next, roots]
      simp only [now, next, iff_true, false_or]
    · rw [rootOf_legacy next]
      simp only [now, next, true_or]

end Versions

section Simulated

variable (cfg : ShardConfig)

abbrev LeavesRecords {α : Type} (prog : SimulationM α) : Prop :=
  ∀ records, Leads (fun store : SimulationStore => store.ledger.accounts = records)
    (fun store => store.ledger.accounts = records) prog

theorem lookup_leavesRecords (role : String) (addr : Address) :
    LeavesRecords (Simulation.lookup cfg role addr) := by
  intro records
  refine Leads.adaptExcept (fun store same => ?_) _
  unfold Simulation.getAccount
  cases store.overlay.find? addr with
  | some => exact same
  | none =>
    rw [getAccount_apply]
    cases readAccount cfg store.ledger addr with
    | ok => exact load_accounts.trans same
    | error => exact same

theorem assign_leavesRecords (addr : Address) (change : Account → Account) :
    LeavesRecords (Simulation.assign addr change) := by
  intro records store same
  unfold Simulation.assign
  rw [EStateM.modify_ok]
  split <;> exact same

theorem applyOnSender_leavesRecords (tx : Transaction) (change : Account → Except String Account) :
    LeavesRecords (Simulation.applyOnSender cfg tx change) := fun records =>
  (lookup_leavesRecords cfg _ _ records).seq fun _ => Leads.check fun _ =>
    assign_leavesRecords _ _ records

theorem applyTransfer_leavesRecords (tx : Transaction) :
    LeavesRecords (Simulation.applyTransfer cfg tx) := by
  intro records
  refine (lookup_leavesRecords cfg _ _ records).seq fun _ => (lookup_leavesRecords cfg _ _ records).seq
    fun _ => ?_
  split
  · exact (Leads.fail _).seq fun _ => (assign_leavesRecords _ _ records).seq fun _ =>
      assign_leavesRecords _ _ records
  · exact (assign_leavesRecords _ _ records).seq fun _ => assign_leavesRecords _ _ records

theorem applyTransaction_leavesRecords (tx : Transaction) :
    LeavesRecords (Simulation.applyTransaction cfg tx) := by
  unfold Simulation.applyTransaction
  split
  · exact applyTransfer_leavesRecords cfg tx
  all_goals first
    | exact applyOnSender_leavesRecords cfg tx _
    | exact fun _ => .fail _

theorem applyTransactions_leavesRecords (txs : List Transaction) :
    LeavesRecords (Simulation.applyTransactions cfg txs) := by
  induction txs with
  | nil => exact fun records => .skip _
  | cons tx _ ih =>
    exact fun records => ((applyTransaction_leavesRecords cfg tx records).adaptExcept _).seq
      fun _ => ih records

variable {cfg} in
theorem simulated_getAllAccounts {txs : List Transaction} {am : Ledger}
    {store : SimulationStore} (simulated : Simulation.applyTransactions cfg txs
      ⟨KeyedMap.empty, am⟩ = .ok () store) : getAllAccounts store.ledger = getAllAccounts am := by
  have untouched : store.ledger.accounts = am.accounts := by
    have reached := applyTransactions_leavesRecords cfg txs am.accounts ⟨KeyedMap.empty, am⟩ rfl
    rwa [simulated] at reached
  unfold getAllAccounts
  congr 1

end Simulated

section Roots

variable {cfg : NodeConfig} {ws exec : WorldState} {blk : Block}
  {store : SimulationStore} {txs : List Transaction}

theorem addBlock_stateRoot (ok : validateBlockForAddition cfg ws blk = .ok ())
    (loop : applyBlockTransactions cfg blk.transactions ws = .ok txs exec) :
    (addBlock cfg blk ws).final.stateRoot = rootAfter cfg ws blk.header.index exec := by
  have outcome := addBlock_outcome cfg blk ws
  generalize addBlock cfg blk ws = result at outcome ⊢
  cases outcome with
  | refused _ _ why => simp [ok] at why
  | halted _ _ _ _ failed => simp [loop] at failed
  | unsaved _ _ _ _ ran | uncommitted _ _ _ _ _ _ ran | added _ _ _ _ ran =>
    rw [loop] at ran
    cases ran
    exact (headed_stateRoot cfg blk.executed (applyBlockTransactions_settled loop)).1

/-- The overlay's root is the root the block addition sets unless the block steps onto the upgrade
height. -/
theorem overlay_root_eq_committed_root_iff (next : blk.header.index = ws.height + 1)
    (ok : validateBlockForAddition cfg ws blk = .ok ())
    (loop : applyBlockTransactions cfg blk.transactions ws = .ok txs exec)
    (simulated : Simulation.applyTransactions cfg blk.transactions
      ⟨KeyedMap.empty, ws.ledger⟩ = .ok () store)
    (same : (getAllAccounts ws.ledger).merge store.overlay = getAllAccounts exec.ledger)
    (apart : EncodingsApart cfg (getAllAccounts exec.ledger) ws.validators) :
    calculateStateRootFromOverlay cfg { ws with ledger := store.ledger } store.overlay =
        (addBlock cfg blk ws).final.stateRoot ↔
      ¬ CrossesUpgrade cfg ws ∨ NothingEncoded (getAllAccounts exec.ledger) ws.validators := by
  rw [addBlock_stateRoot ok loop, next]
  have version : desiredStateRootEncodingVersionForHeight cfg
      { ws with ledger := store.ledger } ws.height = versionAt cfg ws ws.height :=
    desiredVersion_congr rfl
  unfold calculateStateRootFromOverlay rootAfter
  rw [simulated_getAllAccounts simulated, same, version]
  exact rootOf_next_iff (fun acc => getAllAccounts_canonical) apart

end Roots

def upgradeConfig (height : Int64) : NodeConfig :=
  { sampleConfig with stateEncodingUpgradeHeight := height }

def legacyTip : WorldState :=
  { sampleTip [sampleAccount 97 [255, 255]] with stateRootEncodingVersion := 1 }

def transferBlock : Block := sampleBlock 1 [7] [8] [sampleTransaction .transfer [5] 0]

theorem overlay_root_differs_at_upgrade :
    let exec := (applyBlockTransactions (upgradeConfig 1) transferBlock.transactions
      legacyTip).final
    let store := (Simulation.applyTransactions (upgradeConfig 1).toShardConfig
      transferBlock.transactions ⟨KeyedMap.empty, legacyTip.ledger⟩).final
    transferBlock.header.index = legacyTip.height + 1 ∧
    (addBlock (upgradeConfig 1) transferBlock legacyTip).value?.isSome = true ∧
    (getAllAccounts legacyTip.ledger).merge store.overlay = getAllAccounts exec.ledger ∧
    exec.validators = legacyTip.validators ∧
    calculateStateRootFromOverlay (upgradeConfig 1) { legacyTip with ledger := store.ledger }
        store.overlay ≠
      (addBlock (upgradeConfig 1) transferBlock legacyTip).final.stateRoot := by
  decide +kernel

theorem overlay_root_eq_committed_root_iff_later :
    let store := (Simulation.applyTransactions (upgradeConfig 2).toShardConfig
      transferBlock.transactions ⟨KeyedMap.empty, legacyTip.ledger⟩).final
    calculateStateRootFromOverlay (upgradeConfig 2) { legacyTip with ledger := store.ledger }
        store.overlay =
      (addBlock (upgradeConfig 2) transferBlock legacyTip).final.stateRoot := by
  have executes : (applyBlockTransactions (upgradeConfig 2) transferBlock.transactions
      legacyTip).value?.isSome = true := by decide +kernel
  have simulates : (Simulation.applyTransactions (upgradeConfig 2).toShardConfig
      transferBlock.transactions ⟨KeyedMap.empty, legacyTip.ledger⟩).value?.isSome = true := by
    decide +kernel
  obtain ⟨_, loop⟩ := EStateM.Result.ok_of_value? executes
  obtain ⟨_, simulated⟩ := EStateM.Result.ok_of_value? simulates
  refine (overlay_root_eq_committed_root_iff (by decide +kernel) (by decide +kernel) loop simulated
    (by decide +kernel) fun same => same).mpr (Or.inl fun crosses => ?_)
  exact crosses.moved (by decide +kernel)

end Thrylos
