import Thrylos.ExecutionFrame
import Thrylos.NodeCalls

/-!
What is in the account store of a node. An account gets into the database only through
`UpdateAccount`, or by being read from it and written back.
-/

namespace Thrylos

open EStateM (Leads Returns Stays)

structure StoreInvariant (cfg : ShardConfig) (inv : Ledger → Prop) : Prop
    extends RecordInvariant cfg inv where
  nonces : ∀ am nonces, inv am → inv { am with nonces }
  committed : ∀ am, inv am → inv { am with accounts := am.accounts.merge (getAllAccounts am) }

abbrev WorldStays {α : Type} (inv : Ledger → Prop) (prog : WorldM α) : Prop :=
  Stays (fun ws => inv ws.ledger) prog

abbrev StakingStays {α : Type} (inv : Ledger → Prop) (prog : StakingM α) : Prop :=
  Stays (fun st => inv st.world.ledger) prog

namespace RecordInvariant

variable {cfg : ShardConfig} {inv : Ledger → Prop} (kept : RecordInvariant cfg inv)
include kept

theorem getAccountReadOnly (addr : Address) : Stays inv (getAccountReadOnly cfg addr) := by
  intro am holds
  unfold Thrylos.getAccountReadOnly
  repeat' split
  · exact holds
  · exact kept.cached _ _ holds
  · exact kept.cached _ _ holds
  · exact holds

theorem createGenesisAccount (genesisAddr : Address) (initialSupply : Int) :
    Stays inv (createGenesisAccount cfg genesisAddr initialSupply) := by
  refine (Leads.ofExcept _ _).adapted fun _ => .refuse (.refuse
    ((kept.getAccountReadOnly genesisAddr).seq fun found => ?_))
  cases found with
  | some => exact .fail _
  | none => exact (kept.updateAccount _).seq fun _ => .skip _

theorem transfer (fromAddr toAddr : Address) (amt : Int64) :
    Stays inv (AccountManager.transfer cfg fromAddr toAddr amt) := by
  refine .refuse (.refuse (Leads.check fun _ => Leads.check fun _ =>
    (kept.getAccount _).adapted fun _ => .refuse ((kept.getAccount _).adapted fun _ => .refuse ?_)))
  exact (kept.writeThrough _).seq fun _ => (kept.writeThrough _).seq fun _ =>
    (kept.updateAccount _).adapted fun _ => (kept.updateAccount _).adapted fun _ => .skip _

theorem accountCall (call : AccountCall) : Stays inv (call.run cfg) := by
  have changing (lookupFailure : String) (addr : Address)
      (change : Account → Except String Account) :
      Stays inv (do let _ ← Thrylos.changeAccount cfg lookupFailure addr change) :=
    (kept.changeAccount _ _ _).seq fun _ => .skip _
  have rewarding (addr : Address) (rewards : Int) :
      Stays inv (AccountManager.addRewardsBig cfg addr rewards) := by
    exact .refuse (changing _ _ _)
  cases call with
  | getAccount addr => exact (kept.getAccount addr).seq fun _ => .skip _
  | getAccountReadOnly addr => exact (kept.getAccountReadOnly addr).seq fun _ => .skip _
  | updateAccount acc => exact (kept.putAccount acc).seq fun _ => .skip _
  | setAccount => exact (kept.putAccount _).seq fun _ => .skip _
  | stake =>
    exact .refuse (changing _ _ _)
  | unstake =>
    exact .refuse (changing _ _ _)
  | delegate =>
    exact .refuse (.refuse (Leads.check fun _ => changing _ _ _))
  | undelegate =>
    exact .refuse (Leads.check fun _ => changing _ _ _)
  | addRewards =>
    exact .refuse (rewarding _ _)
  | addRewardsBig addr rewards => exact rewarding addr rewards
  | claimRewards => exact changing _ _ _
  | transfer fromAddr toAddr amt => exact kept.transfer fromAddr toAddr amt
  | createGenesisAccount genesisAddr initialSupply =>
    exact kept.createGenesisAccount genesisAddr initialSupply

end RecordInvariant

namespace StoreInvariant

variable {cfg : NodeConfig} {inv : Ledger → Prop} (kept : StoreInvariant cfg inv)
include kept

omit kept in
theorem elsewhere {change : WorldState → WorldState} (same : ∀ ws, (change ws).ledger = ws.ledger) :
    WorldStays inv (modify change : WorldM Unit) :=
  .modify fun ws holds => by
    rw [same ws]
    exact holds

theorem applyBlockTransactions (txs : List Transaction) :
    WorldStays inv (applyBlockTransactions cfg txs) := by
  induction txs with
  | nil => exact .skip _
  | cons tx _ ih =>
    refine (kept.everywhere.executeTransaction kept.nonces tx).adapted fun exec =>
      (Leads.adaptExcept (fun ws holds => ?_) _).seq fun _ =>
      (elsewhere (by intro; rfl)).seq fun _ => ih.seq fun _ => .skip _
    unfold saveTransactionWithIndex
    split <;> exact holds

omit kept in
theorem saveBlock (blk : Block) : WorldStays inv (saveBlock blk) := by
  intro ws holds
  unfold Thrylos.saveBlock
  split <;> exact holds

omit kept in
theorem saveBlockByHeight (blk : Block) : WorldStays inv (saveBlockByHeight blk) := by
  intro ws holds
  unfold Thrylos.saveBlockByHeight
  split <;> exact holds

theorem commitBlock (blk : Block) : WorldStays inv (commitBlock blk) := by
  intro ws holds
  unfold Thrylos.commitBlock
  split
  · exact holds
  · split
    · exact holds
    · exact kept.committed _ holds

theorem addBlock (blk : Block) : WorldStays inv (addBlock cfg blk) :=
  (Leads.get _).seq fun _ => (Leads.ofExcept _ _).adapted fun _ =>
    (kept.applyBlockTransactions _).seq fun _ =>
    (elsewhere (by intro; rfl)).seq fun _ => (elsewhere (by intro; rfl)).seq fun _ =>
    (Leads.get _).seq fun _ =>
    (saveBlock _).adapted fun _ => (saveBlockByHeight _).adapted fun _ =>
    (kept.commitBlock _).adaptExcept _

omit kept in
theorem syncStateRoot (blk : Block) : WorldStays inv (syncStateRoot cfg blk) := by
  unfold Thrylos.syncStateRoot
  split
  · exact (elsewhere (by intro; rfl)).seq fun _ => .skip _
  · refine (elsewhere (by intro; rfl)).seq fun _ => (Leads.get _).seq fun _ => ?_
    split
    · exact .fail _
    · exact .skip _

theorem addBlockFromSync (blk : Block) : WorldStays inv (addBlockFromSync cfg blk) := by
  have adopting (ws : WorldState) : (adoptEncodingVersion blk ws).ledger = ws.ledger := by
    unfold adoptEncodingVersion
    split <;> rfl
  have marking (blk : Block) (ws : WorldState) :
      (markGenesisCommitted blk ws).ledger = ws.ledger := by
    unfold markGenesisCommitted
    split <;> rfl
  exact (Leads.get _).seq fun _ => (Leads.ofExcept _ _).adapted fun _ =>
    (elsewhere adopting).seq fun _ => (kept.applyBlockTransactions _).seq fun _ =>
    (elsewhere (by intro; rfl)).seq fun _ => (syncStateRoot _).seq fun _ =>
    (saveBlock _).adapted fun _ => (elsewhere (marking _)).seq fun _ =>
    (saveBlockByHeight _).adapted fun _ => (kept.commitBlock _).adaptExcept _

end StoreInvariant

theorem leads_onWorldState {α : Type} {pre post : WorldState → Prop} {prog : WorldM α}
    (leads : Leads pre post prog) :
    Leads (fun st => pre st.world) (fun st => post st.world) (onWorldState prog : StakingM α) := by
  intro st holds
  have reached := leads st.world holds
  unfold onWorldState
  cases ran : prog st.world <;> rw [ran] at reached <;> exact reached

theorem leads_onAccounts {α : Type} {pre post : Ledger → Prop} {prog : LedgerM α}
    (leads : Leads pre post prog) :
    Leads (fun st => pre st.world.ledger) (fun st => post st.world.ledger)
      (onAccounts prog : StakingM α) :=
  leads_onWorldState (leads_onLedger leads)

theorem onAccounts_returns {α : Type} {accept : α → Prop} {prog : LedgerM α}
    (returns : Returns accept prog) : Returns accept (onAccounts prog : StakingM α) := by
  intro st value after ran
  unfold onAccounts onWorldState onLedger at ran
  cases stopped : prog st.world.ledger with
  | ok =>
    simp only [stopped, EStateM.Result.ok.injEq] at ran
    exact ran.1 ▸ returns _ _ _ stopped
  | error => simp [stopped] at ran

theorem assignAccount_returns (cfg : ShardConfig) (acc : Account) :
    Returns (fun saved => Updated cfg saved saved) (assignAccount cfg acc) := by
  intro am saved after ran
  exact (updateAccount_returns cfg acc _ _ _ ran).1

theorem leads_tolerate {α : Type} {inv : StakingState → Prop} {prog : StakingM α}
    (leads : Stays inv prog) : Stays inv (tolerate prog) := by
  intro st holds
  have reached := leads st holds
  unfold tolerate
  cases ran : prog st <;> rw [ran] at reached <;> exact reached

namespace StoreInvariant

variable {cfg : StakingConfig} {inv : Ledger → Prop} (kept : StoreInvariant cfg inv)

omit kept in
theorem aside {change : StakingState → StakingState}
    (same : ∀ st, (change st).world.ledger = st.world.ledger) :
    StakingStays inv (modify change : StakingM Unit) :=
  .modify fun st holds => by
    rw [same st]
    exact holds

omit kept in
theorem readClock :
    Leads (fun st : StakingState => inv st.world.ledger) (fun st => inv st.world.ledger)
      (onWorldState (Thrylos.readClock cfg)) :=
  fun _ holds => holds

include kept

theorem delegate (delAddr valAddr : Address) (amt : Int) :
    StakingStays inv (StakingManager.delegate cfg delAddr valAddr amt) := by
  refine .refuse ((leads_onAccounts (kept.getAccount _)).adapted fun _ =>
    (Leads.get _).seq fun _ => ?_)
  split
  · exact .fail _
  refine Leads.check fun _ => ?_
  exact ((leads_onAccounts (kept.assignAccount _)).adaptExcept _).seqOf
      ((onAccounts_returns (assignAccount_returns _ _)).adaptExcept _) fun _ ok =>
    (leads_onAccounts (kept.saveAccount ok)).adapted fun _ =>
    (aside (by intro; rfl)).seq fun _ => aside (by intro; rfl)

theorem undelegate (delAddr valAddr : Address) (amt : Int) :
    StakingStays inv (StakingManager.undelegate cfg delAddr valAddr amt) := by
  refine .refuse ((leads_onAccounts (kept.getAccount _)).adapted fun _ => ?_)
  split
  · exact .fail _
  refine .refuse ((Leads.get _).seq fun _ => ?_)
  split
  · exact .fail _
  exact (leads_onAccounts (kept.writeThrough _)).seq fun _ =>
    (aside (by intro; rfl)).seq fun _ => (aside (by intro; rfl)).seq fun _ =>
    (leads_onAccounts (kept.updateAccount _)).seq fun _ => readClock.seq fun _ =>
    aside (by intro; rfl)

theorem claimRewards (delAddr : Address) :
    StakingStays inv (StakingManager.claimRewards cfg delAddr) := by
  exact Leads.check fun _ => (leads_onAccounts (kept.getAccount _)).adapted fun _ =>
    .refuse ((leads_onAccounts (kept.assignAccount _)).adapted fun _ => .skip _)

theorem completeUnbonding (entry : UnbondingEntry) :
    StakingStays inv (completeUnbonding cfg entry) :=
  (leads_onAccounts (kept.getAccount _)).adapted fun _ =>
    (leads_onAccounts (kept.assignAccount _)).adapted fun _ => .skip _

theorem completeUnbondings (currentTime : Int) (queue : List UnbondingEntry) :
    StakingStays inv (completeUnbondings cfg currentTime queue) := by
  induction queue with
  | nil => exact .skip _
  | cons entry _ ih =>
    unfold Thrylos.completeUnbondings
    split
    · refine (leads_tolerate (kept.completeUnbonding entry)).seq fun _ => ih.seq fun _ => ?_
      split <;> exact .skip _
    · exact ih.seq fun _ => .skip _

theorem processUnbondingQueue : StakingStays inv (processUnbondingQueue cfg) :=
  readClock.seq fun _ => (Leads.get _).seq fun _ => (kept.completeUnbondings _ _).seq fun _ =>
    aside (by intro; rfl)

theorem creditRewards (addr : Address) (rewards : Account → Bytes) :
    StakingStays inv (creditRewards cfg addr rewards) :=
  (leads_onAccounts (kept.getAccount _)).seq fun _ =>
    (leads_onAccounts (kept.assignAccount _)).seq fun _ => .skip _

theorem rewardDelegators (delegatedStake : Nat) (reward : Int) (delegators : List (Address × Bytes))
    (tally : Distribution) : StakingStays inv
      (rewardDelegators cfg delegatedStake reward delegators tally) := by
  induction delegators generalizing tally with
  | nil => exact .skip _
  | cons _ _ ih =>
    unfold Thrylos.rewardDelegators
    dsimp only
    split
    · exact ih tally
    · exact (leads_tolerate (kept.creditRewards _ _)).seq fun _ => ih _

theorem rewardValidator (val : Validator) (validatorReward : Nat) (tally : Distribution) :
    StakingStays inv (rewardValidator cfg val validatorReward tally) := by
  refine (leads_tolerate (kept.creditRewards _ _)).seq fun _ => ?_
  split
  · exact .skip _
  split
  · exact .skip _
  · exact kept.rewardDelegators _ _ _ _

theorem rewardValidators (totalRewards totalVotingPower : Nat) (vals : List Validator)
    (tally : Distribution) : StakingStays inv
      (rewardValidators cfg totalRewards totalVotingPower vals tally) := by
  induction vals generalizing tally with
  | nil => exact .skip _
  | cons _ _ ih =>
    unfold Thrylos.rewardValidators
    dsimp only
    split
    · exact ih tally
    · exact (kept.rewardValidator _ _ _).seq fun _ => ih _

theorem distributeRewards (totalRewards : Option Int) :
    StakingStays inv (StakingManager.distributeRewards cfg totalRewards) := by
  exact .refuse ((Leads.get _).seq fun _ => .refuse (.refuse
    ((kept.rewardValidators _ _ _ _).seq fun _ => .refuse (.skip _))))

theorem accountingCall (call : AccountingCall) : StakingStays inv (call.run cfg) := by
  cases call with
  | account call => exact leads_onAccounts (kept.accountCall call)
  | executeTransaction tx =>
    exact (leads_onWorldState (kept.everywhere.executeTransaction kept.nonces tx)).seq fun _ => .skip _
  | staking call =>
    cases call with
    | delegate => exact kept.delegate _ _ _
    | undelegate => exact kept.undelegate _ _ _
    | claimRewards => exact kept.claimRewards _
    | distributeRewards => exact kept.distributeRewards _
    | processUnbondingQueue => exact kept.processUnbondingQueue

end StoreInvariant

theorem leads_onStakingState {α : Type} {pre post : StakingState → Prop} {prog : StakingM α}
    (leads : Leads pre post prog) : Leads (fun st => pre st.staking) (fun st => post st.staking)
      (onStakingState prog : CrossShardM α) := by
  intro st holds
  have reached := leads st.staking holds
  unfold onStakingState
  cases ran : prog st.staking <;> rw [ran] at reached <;> exact reached

theorem onStakingState_returns {α : Type} {accept : α → Prop} {prog : StakingM α}
    (returns : Returns accept prog) : Returns accept (onStakingState prog : CrossShardM α) := by
  intro st value after ran
  unfold onStakingState at ran
  cases stopped : prog st.staking with
  | ok =>
    simp only [stopped, EStateM.Result.ok.injEq] at ran
    exact ran.1 ▸ returns _ _ _ stopped
  | error => simp [stopped] at ran

def CrossShardState.ledger (st : CrossShardState) : Ledger := st.staking.world.ledger

namespace StoreInvariant

variable {cfg : StakingConfig} {inv : Ledger → Prop} (kept : StoreInvariant cfg inv)
include kept

theorem creditReceiver (receiver : Address) (amt : Option Int) :
    Stays inv (CrossShardManager.creditReceiver cfg receiver amt) := by
  have looked : Stays inv (EStateM.attempt (getAccount cfg receiver)) := by
    intro am holds
    have reached := kept.getAccount receiver am holds
    unfold EStateM.attempt
    cases ran : getAccount cfg receiver am <;> rw [ran] at reached <;> exact reached
  refine looked.seq fun found => ?_
  cases amt with
  | none => exact .fail _
  | some =>
  cases found with
  | ok =>
    exact (kept.assignAccount _).adapted fun _ => .skip _
  | error =>
    exact (kept.putAccount _).adapted fun _ => .skip _

theorem completeTransfer (transferHash : Bytes) :
    Stays (fun st => inv st.ledger) (CrossShardManager.completeTransfer cfg transferHash) := by
  refine (Leads.get _).seq fun _ => ?_
  split
  · exact .fail _
  split
  · exact .fail _
  · exact (leads_onStakingState (leads_onAccounts (kept.creditReceiver _ _))).seq fun _ =>
      fun _ holds => holds

theorem initiateTransfer (sender receiver : Address) (amt : Bytes) (nonce : UInt64) :
    Stays (fun st => inv st.ledger)
      (CrossShardManager.initiateTransfer cfg sender receiver amt nonce) := by
  refine .refuse (.refuse ((leads_onStakingState (leads_onAccounts (kept.getAccount _))).adapted
    fun _ => Leads.check fun _ => (leads_onStakingState readClock).seq fun _ => ?_))
  exact ((leads_onStakingState (leads_onAccounts (kept.assignAccount _))).adaptExcept _).seqOf
    ((onStakingState_returns (onAccounts_returns (assignAccount_returns _ _))).adaptExcept _)
    fun _ ok =>
    ((leads_onStakingState (leads_onAccounts (kept.saveAccount ok))).adaptExcept _).seq
    fun _ _ holds => holds

theorem nodeCall (call : NodeCall) : Stays (fun st => inv st.ledger) (call.run cfg) := by
  cases call with
  | accounting call => exact leads_onStakingState (kept.accountingCall call)
  | initiateTransfer sender receiver amt nonce =>
    exact (kept.initiateTransfer sender receiver amt nonce).seq fun _ => .skip _
  | completeTransfer transferHash => exact kept.completeTransfer transferHash
  | addBlock blk =>
    exact (leads_onStakingState (leads_onWorldState (StoreInvariant.addBlock kept blk))).seq
      fun _ => .skip _
  | addBlockFromSync blk =>
    exact (leads_onStakingState (leads_onWorldState
      (StoreInvariant.addBlockFromSync kept blk))).seq fun _ => .skip _
  | commitBlock blk =>
    exact (leads_onStakingState (leads_onWorldState
      (StoreInvariant.commitBlock kept blk))).seq
      fun _ => .skip _

theorem runAll (calls : List NodeCall) (st : CrossShardState) (holds : inv st.ledger) :
    inv (NodeCall.runAll cfg calls st).ledger := by
  induction calls generalizing st with
  | nil => exact holds
  | cons call _ ih => exact ih _ (kept.nodeCall call st holds)

end StoreInvariant

def Ledger.WellKept (cfg : ShardConfig) (am : Ledger) : Prop :=
  ∀ addr acc, am.accounts.find? addr = some acc → Updated cfg acc acc

theorem wellKept_storeInvariant (cfg : ShardConfig) : StoreInvariant cfg (Ledger.WellKept cfg) where
  cached _ _ kept := kept
  nonces _ _ kept := kept
  stored am acc ok kept addr found stored := by
    rw [KeyedMap.find?_insert] at stored
    split at stored
    · cases stored
      exact ok
    · exact kept addr found stored
  committed am kept addr acc stored := by
    rw [KeyedMap.find?_merge] at stored
    -- A record that is read back is canonical, so what is written again is the record.
    have reread : (getAllAccounts am).find? addr = am.accounts.find? addr := by
      unfold getAllAccounts
      rw [KeyedMap.find?_filterMap]
      cases found : am.accounts.find? addr with
      | none => rfl
      | some record =>
        have norm : normalizeAccountCompat record = .ok record := (kept addr record found).canonical
        simp [acceptedAccount, norm]
    rw [reread] at stored
    cases found : am.accounts.find? addr with
    | none => simp [found] at stored
    | some record =>
      simp only [found, Option.some_or, Option.some.injEq] at stored
      exact stored ▸ kept addr record found

def IsUint256 (raw : Bytes) : Prop := ∃ value < 2 ^ 256, raw = BigEndian.encode value

theorem Updated.isUint256 {cfg : ShardConfig} {acc : Account} (ok : Updated cfg acc acc) :
    IsUint256 acc.balance ∧ IsUint256 acc.stakedAmount ∧ IsUint256 acc.rewards := by
  have amounts := (canonical_iff.mp ok.canonical).1
  refine ⟨⟨_, parseBigInt_lt acc.balance, ?_⟩, ⟨_, parseBigInt_lt acc.stakedAmount, ?_⟩,
    ⟨_, parseBigInt_lt acc.rewards, ?_⟩⟩
  · exact (congrArg Account.balance amounts).symm
  · exact (congrArg Account.stakedAmount amounts).symm
  · exact (congrArg Account.rewards amounts).symm

theorem stored_accounts_are_valid (cfg : StakingConfig) (start : CrossShardState)
    (empty : start.ledger.accounts = KeyedMap.empty) (calls : List NodeCall) :
    ∀ acc ∈ (NodeCall.runAll cfg calls start).ledger.accounts.entries,
      IsUint256 acc.balance ∧ IsUint256 acc.stakedAmount ∧ IsUint256 acc.rewards ∧
      (∀ entry ∈ acc.delegatedTo.entries, 0 < parseBigInt entry.2) ∧
      (acc.delegatedTo.entries.map fun entry => parseBigInt entry.2).sum ≤
        parseBigInt acc.stakedAmount := by
  intro acc mem
  have initially : start.ledger.WellKept cfg := by
    intro addr acc found
    simp [empty] at found
  have kept := (wellKept_storeInvariant cfg).runAll calls start initially
  have ok := kept _ acc ((KeyedMap.mem_entries_iff _ _).mp mem)
  obtain ⟨bal, stakedAmount, rewards⟩ := ok.isUint256
  obtain ⟨_, delegations, staked⟩ := validateAccount_ok_iff.mp ok.valid
  exact ⟨bal, stakedAmount, rewards,
    fun entry entryMember => Nat.pos_of_ne_zero (delegations entry entryMember).2, staked⟩

def sampleShardNode : CrossShardState := ⟨⟨sampleWorld [], 0, []⟩, KeyedMap.empty⟩

theorem a_staked_account_is_valid :
    let calls : List NodeCall := [
      .accounting (.account (.createGenesisAccount (sampleAddress 97) 5000000000)),
      .accounting (.account (.stake (sampleAddress 97) 2000000000)),
      .accounting (.account (.delegate (sampleAddress 97) [1] (10 ^ 17))),
      .accounting (.executeTransaction (sampleTransaction .unstake [1] 7))]
    let reached := NodeCall.runAll sampleStaking calls sampleShardNode
    sampleShardNode.ledger.accounts = KeyedMap.empty ∧ reached.ledger.accounts.entries ≠ [] ∧
    ∀ acc ∈ reached.ledger.accounts.entries,
      IsUint256 acc.balance ∧ IsUint256 acc.stakedAmount ∧ IsUint256 acc.rewards ∧
      (∀ entry ∈ acc.delegatedTo.entries, 0 < parseBigInt entry.2) ∧
      (acc.delegatedTo.entries.map fun entry => parseBigInt entry.2).sum ≤
        parseBigInt acc.stakedAmount :=
  ⟨rfl, by decide +kernel, stored_accounts_are_valid sampleStaking sampleShardNode rfl _⟩

theorem stored_account_updated (cfg : StakingConfig) {start : CrossShardState}
    (empty : start.ledger.accounts = KeyedMap.empty) {calls : List NodeCall} {acc : Account}
    (stored : acc ∈ (NodeCall.runAll cfg calls start).ledger.accounts.entries) :
    Updated cfg acc acc := by
  have initially : start.ledger.WellKept cfg := by
    intro addr acc found
    simp [empty] at found
  exact (wellKept_storeInvariant cfg).runAll calls start initially _ acc
    ((KeyedMap.mem_entries_iff _ _).mp stored)

/-- Whatever is called on two nodes of different shards, no account is stored on both. -/
theorem shards_store_disjoint_accounts (left right : StakingConfig)
    (assigned : ∀ addr, calculateShardID left addr = calculateShardID right addr)
    (apart : left.shardID ≠ right.shardID) (leftShard : left.shardID ≠ beaconShardID)
    (rightShard : right.shardID ≠ beaconShardID) {start other : CrossShardState}
    (empty : start.ledger.accounts = KeyedMap.empty)
    (otherEmpty : other.ledger.accounts = KeyedMap.empty) (calls otherCalls : List NodeCall) :
    ∀ acc ∈ (NodeCall.runAll left calls start).ledger.accounts.entries,
      ∀ held ∈ (NodeCall.runAll right otherCalls other).ledger.accounts.entries,
        acc.address ≠ held.address := by
  intro acc stored held storedThere same
  have here := (stored_account_updated left empty stored).shard
  have there := (stored_account_updated right otherEmpty storedThere).shard
  simp only [belongsToShard, Bool.or_eq_true, decide_eq_true_eq, leftShard, rightShard,
    false_or] at here there
  rw [← here, ← there, same, assigned] at apart
  exact apart rfl

theorem two_genesis_accounts_are_apart :
    let left := { sampleStaking with totalShards := 2 }
    let right := { left with shardID := 1 }
    let calls digit := [NodeCall.accounting (.account (.createGenesisAccount (sampleAddress digit) 5))]
    ∀ acc ∈ (NodeCall.runAll left (calls 98) sampleShardNode).ledger.accounts.entries,
      ∀ held ∈ (NodeCall.runAll right (calls 97) sampleShardNode).ledger.accounts.entries,
        acc.address ≠ held.address := by
  intro left right calls
  refine shards_store_disjoint_accounts left right (fun _ => rfl) ?_ ?_ ?_ rfl rfl _ _
  all_goals decide

end Thrylos
