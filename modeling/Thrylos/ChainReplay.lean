import Thrylos.ContractRuns
import Thrylos.EncodingVersion
import Thrylos.GovernanceFees

/-!
Replaying on one node the blocks that another produced. Only the governance manager and the gas
windows of the contract executor read a clock.
-/

namespace Thrylos

open GoText
open EStateM (check_ok_iff)

section Retiming

variable {gov : GovernanceConfig} {vals : ValidatorSet} {tx : Transaction}
  {st left : GovernanceState} {ours theirs : Nat → Int64}

def Synchronous (gov : GovernanceConfig) (st : GovernanceState) (tx : Transaction)
    (ours theirs : Nat → Int64) : Prop :=
  match tx.type with
  | .governancePropose => theirs 0 = ours 0
  | .governanceVote => ∀ payload prop, parseVotePayload gov tx.data = .ok payload →
      st.proposals.find? payload.proposalID = some prop →
        ¬ prop.votingEndsAt < theirs 0 ∧ theirs 1 = ours 1
  | .governanceFinalize => ∀ payload prop, parseFinalizePayload gov tx.data = .ok payload →
      st.proposals.find? payload.proposalID = some prop → prop.status = .active →
        ¬ theirs 0 < prop.votingEndsAt ∧ theirs 1 = ours 1
  | _ => True

theorem saving_eq_iff {first second : Proposal} (named : first.id = second.id) :
    st.saving first = st.saving second ↔ first = second := by
  refine ⟨fun same => ?_, fun same => congrArg _ same⟩
  have found := congrArg (fun after => after.proposals.find? first.id) same
  simp only [GovernanceState.saving, KeyedMap.find?_insert, if_pos, named] at found
  exact Option.some.inj found

variable {first second : Int64} {prop : Proposal}

theorem newProposal_eq_iff {id : Bytes} {proposer : Address} {parameter proposedValue : Bytes} :
    newProposal gov first id proposer parameter proposedValue =
      newProposal gov second id proposer parameter proposedValue ↔ first = second :=
  ⟨fun same => congrArg Proposal.createdAt same, fun same => by rw [same]⟩

theorem withVote_eq_iff {dom : Bytes} {valAddr : Address} {approve : Bool} :
    prop.withVote dom valAddr approve first =
      prop.withVote dom valAddr approve second ↔ first = second := by
  refine ⟨fun same => ?_, fun same => by rw [same]⟩
  have found := congrArg (fun voted => voted.votes.find? dom) same
  simp only [Proposal.withVote, KeyedMap.find?_insert, if_pos] at found
  exact congrArg (fun entry => entry.2.castAt) (Option.some.inj found)

theorem closed_eq_iff {status : ProposalStatus} {yesStake noStake : Nat} :
    prop.closed status yesStake noStake first = prop.closed status yesStake noStake second ↔
      first = second :=
  ⟨fun same => congrArg Proposal.finalizedAt same, fun same => by rw [same]⟩

theorem ok_eq_iff {after : GovernanceState} :
    (EStateM.Result.ok () after : EStateM.Result String GovernanceState Unit) = .ok () left ↔
      after = left :=
  ⟨fun same => by cases same; rfl, fun same => by rw [same]⟩

theorem forall_found_iff {α : Type} {payload : α} (search : α → Option Proposal)
    (found : search payload = some prop) {claim : Proposal → Prop} :
    (∀ read named, (Except.ok payload : Except String α) = .ok read → search read = some named →
      claim named) ↔ claim prop := by
  constructor
  · exact fun all => all payload prop rfl found
  · intro timely read named same foundAs
    cases same
    cases found.symm.trans foundAs
    exact timely

theorem governanceProposal_retimed (kind : tx.type = .governancePropose)
    (ran : governanceProposal gov ours vals tx st = .ok () left) :
    governanceProposal gov theirs vals tx st = .ok () left ↔ Synchronous gov st tx ours theirs := by
  unfold governanceProposal at ran ⊢
  simp only [Synchronous, kind]
  obtain ⟨payload, parsed, ran⟩ := check_ok_iff.mp ran
  rw [parsed, check_ok]
  rcases submitProposal_cases gov vals tx.hash tx.fromAddr payload.parameter
    payload.proposedValue st with ⟨err, failed⟩ | submitted
  · rw [bind_error (failed ours)] at ran
    cases ran
  · rw [bind_ok (submitted ours)] at ran
    rw [bind_ok (submitted theirs)]
    cases ran
    refine ok_eq_iff.trans ((saving_eq_iff ?_).trans newProposal_eq_iff)
    rfl

theorem governanceVote_retimed (kind : tx.type = .governanceVote)
    (ran : governanceVote gov ours vals tx st = .ok () left) :
    governanceVote gov theirs vals tx st = .ok () left ↔ Synchronous gov st tx ours theirs := by
  unfold governanceVote at ran ⊢
  simp only [Synchronous, kind]
  obtain ⟨payload, parsed, ran⟩ := check_ok_iff.mp ran
  rw [parsed, check_ok]
  rcases castVote_cases gov vals payload.proposalID tx.fromAddr payload.approve st
    with failed | ⟨prop, found, _, ended, voted⟩
  · obtain ⟨err, failed⟩ := failed ours
    cases failed.symm.trans ran
  rw [forall_found_iff (fun read : VotePayload => st.proposals.find? read.proposalID) found]
  by_cases late : prop.votingEndsAt < theirs 0
  · obtain ⟨err, failed⟩ := ended theirs late
    rw [failed]
    exact iff_of_false nofun fun timely => timely.1 late
  have inTime : ¬ prop.votingEndsAt < ours 0 := fun lateOurs => by
    obtain ⟨_, failed⟩ := ended ours lateOurs
    cases failed.symm.trans ran
  rw [voted ours inTime] at ran
  rw [voted theirs late]
  cases ran
  refine (ok_eq_iff.trans ((saving_eq_iff ?_).trans withVote_eq_iff)).trans
    (and_iff_right late).symm
  rfl

theorem governanceFinalize_retimed (kind : tx.type = .governanceFinalize)
    (ran : governanceFinalize gov ours vals tx st = .ok () left) :
    governanceFinalize gov theirs vals tx st = .ok () left ↔ Synchronous gov st tx ours theirs := by
  unfold governanceFinalize at ran ⊢
  simp only [Synchronous, kind]
  obtain ⟨payload, parsed, ran⟩ := check_ok_iff.mp ran
  rw [parsed, check_ok]
  cases found : st.proposals.find? payload.proposalID with
  | none =>
    obtain ⟨err, absent⟩ := finalizeProposal_absent gov vals found
    rw [bind_error absent] at ran
    cases ran
  | some prop =>
  rw [forall_found_iff (fun read : FinalizePayload => st.proposals.find? read.proposalID) found]
  by_cases active : prop.status = .active
  swap
  · rw [bind_ok (finalizeProposal_earlier gov vals found active)]
      at ran ⊢
    exact iff_of_true ran fun again => absurd again active
  by_cases early : ours 0 < prop.votingEndsAt
  · obtain ⟨err, refused⟩ := finalizeProposal_early gov vals found active early
    rw [bind_error refused] at ran
    cases ran
  rcases concludeProposal_cases gov vals prop st with
    ⟨err, after, same, failed⟩ |
    ⟨totalEligibleStake, yesStake, noStake, surveyed, counted, kept, totalled, added, same, concluded⟩
  · rw [bind_error ((finalizeProposal_due gov vals found active early).trans (failed _))] at ran
    cases ran
  rw [bind_ok ((finalizeProposal_due gov vals found active early).trans (concluded _))] at ran
  cases ran
  by_cases soon : theirs 0 < prop.votingEndsAt
  · obtain ⟨_, refused⟩ := finalizeProposal_early gov vals found active soon
    rw [bind_error refused]
    exact iff_of_false nofun fun timely => (timely active).1 soon
  · rw [bind_ok ((finalizeProposal_due gov vals found active soon).trans (concluded _))]
    refine (ok_eq_iff.trans ((saving_eq_iff ?_).trans closed_eq_iff)).trans ?_
    · rfl
    · exact ⟨fun same _ => ⟨soon, same⟩, fun timely => (timely active).2⟩

theorem handle_retimed (ran : gov.handle ours vals tx st = .ok () left) :
    gov.handle theirs vals tx st = .ok () left ↔ Synchronous gov st tx ours theirs := by
  cases kind : tx.type with
  | governancePropose =>
    simp only [GovernanceConfig.handle, kind] at ran ⊢
    exact governanceProposal_retimed kind ran
  | governanceVote =>
    simp only [GovernanceConfig.handle, kind] at ran ⊢
    exact governanceVote_retimed kind ran
  | governanceFinalize =>
    simp only [GovernanceConfig.handle, kind] at ran ⊢
    exact governanceFinalize_retimed kind ran
  | _ =>
    simp only [GovernanceConfig.handle, Synchronous, kind] at ran ⊢
    exact iff_of_true ran trivial

end Retiming

structure NodeClock where
  ticks : Nat → Int
  wall : WallClock

def NodeConfig.running (cfg : NodeConfig) (gov : GovernanceConfig) (clock : NodeClock) :
    NodeConfig :=
  { cfg with clock := clock.ticks }.governedBy gov clock.wall

structure NodeLocal where
  txPool : Pool
  stateRootEncodingVersion : UInt32
  genesisCommitted : Bool
  evmGas : EvmGas
  ticks : Nat

def WorldState.on (ws : WorldState) (node : NodeLocal) : WorldState :=
  { ws with
    txPool := node.txPool
    stateRootEncodingVersion := node.stateRootEncodingVersion
    genesisCommitted := node.genesisCommitted
    evmGas := node.evmGas
    ticks := node.ticks }

def Twin (left right : WorldState) : Prop := ∃ node, right = left.on node

section Execution

variable {cfg : NodeConfig} {gov : GovernanceConfig} {ours theirs : NodeClock}
  {tx value : Transaction} {ws other after : WorldState}

theorem managed_retimed {node : NodeLocal} {left : GovernanceState}
    (ran : managed (cfg.running gov ours) ws tx = (.ok (), left)) :
    managed (cfg.running gov theirs) (ws.on node) tx = (.ok (), left) ↔
      Synchronous gov ws.governance tx (ours.wall (ws.afterNonce tx))
        (theirs.wall ((ws.on node).afterNonce tx)) :=
  EStateM.Result.outcome_ok_iff.trans (handle_retimed (EStateM.Result.outcome_ok_iff.mp ran))

variable (twin : Twin ws other)
  (ran : executeTransaction (cfg.running gov ours) tx ws = .ok value after)
include twin ran

theorem executeTransaction_twin_native (native : tx.type.isNative = true) :
    ∃ final, executeTransaction (cfg.running gov theirs) tx other = .ok value final ∧
      Twin after final := by
  obtain ⟨node, rfl⟩ := twin
  have first := executeTransaction_native (cfg.running gov ours) native ws
  have second := executeTransaction_native (cfg.running gov theirs) native (ws.on node)
  rw [ran] at first
  generalize executeTransaction (cfg.running gov theirs) tx (ws.on node) = result
    at second ⊢
  cases first with
  | executed am amounts current exec =>
  cases second with
  | refused _ why =>
    rcases why with ⟨_, refused⟩ | stale
    · cases amounts.symm.trans refused
    · exact absurd current stale
  | failed _ _ _ _ failed => cases exec.symm.trans failed
  | executed _ _ _ again =>
    cases exec.symm.trans again
    exact ⟨_, rfl, node, rfl⟩

theorem executeTransaction_twin_governance (kind : tx.type.isGovernance = true) :
    (∃ final, executeTransaction (cfg.running gov theirs) tx other = .ok value final ∧
        Twin after final) ↔ Synchronous gov ws.governance tx (ours.wall (ws.afterNonce tx))
        (theirs.wall (other.afterNonce tx)) := by
  obtain ⟨node, rfl⟩ := twin
  have first := executeTransaction_outcome (cfg.running gov ours) ws kind
  have second := executeTransaction_outcome (cfg.running gov theirs) (ws.on node) kind
  rw [ran] at first
  cases first with
  | paid accepts coversFee applied read charged =>
  have managedOurs : managed (cfg.running gov ours) ws tx = (.ok (), _) :=
    Prod.ext accepts.accepted rfl
  rw [← managed_retimed managedOurs]
  generalize executeTransaction (cfg.running gov theirs) tx (ws.on node) = result
    at second ⊢
  cases second with
  | unmanaged unaccepted same | refused unaccepted =>
    refine iff_of_false (fun ⟨_, granted, _⟩ => nomatch granted) fun same => unaccepted ?_
    exact ⟨accepts.amounts, accepts.current, congrArg Prod.fst same⟩
  | unpaid _ uncovered => exact absurd coversFee (uncovered _)
  | paid again _ appliedThere =>
    cases applied.symm.trans appliedThere
    constructor
    · rintro ⟨_, granted, _, same⟩
      cases granted
      refine Prod.ext again.accepted ?_
      exact congrArg WorldState.governance same
    · intro same
      refine ⟨_, rfl, node, ?_⟩
      rw [same]
      rfl

def NodeConfig.ReadsChain (cfg : NodeConfig) : Prop :=
  ∀ ws node tx, cfg.revm (WorldState.on ws node) tx = cfg.revm ws tx

theorem executeTransaction_twin_contract (contract : tx.type.isEVM = true)
    (reads : cfg.ReadsChain) :
    (∃ final, executeTransaction (cfg.running gov theirs) tx other = .ok value final ∧
        Twin after final) ↔ HasRoom (cfg.running gov theirs) other tx.gas.toUInt64 := by
  constructor
  · rintro ⟨_, again, -⟩
    obtain ⟨-, _, _, _, run⟩ := executeTransaction_contract contract again
    exact ⟨run.enters.room.count, run.enters.room.window, run.enters.room.block⟩
  intro room
  obtain ⟨node, rfl⟩ := twin
  obtain ⟨rfl, funds, paid, am, run⟩ := executeTransaction_contract contract ran
  have reserves : reserveContract (cfg.running gov theirs) tx.canonical (ws.on node) =
      .ok funds { ws.on node with ledger := paid } :=
    ledgerOnly_reserveContract.elsewhere run.reserves (ws.on node) rfl
  have outcome := interpret_outcome (cfg.running gov theirs) tx.canonical
    { ws.on node with ledger := paid }
  generalize interpreted : interpret (cfg.running gov theirs) tx.canonical
    { ws.on node with ledger := paid } = result at outcome
  have report : (cfg.running gov theirs).revm (WorldState.entered
      (cfg.running gov theirs) { ws.on node with ledger := paid } tx.canonical)
      tx.canonical = (cfg.running gov ours).revm (WorldState.entered
        (cfg.running gov ours) { ws with ledger := paid } tx.canonical) tx.canonical :=
    reads (WorldState.entered (cfg.running gov ours) { ws with ledger := paid }
      tx.canonical) ⟨_, _, _, _, _⟩ tx.canonical
  cases outcome with
  | unentered _ _ _ unmet =>
    exact absurd ⟨run.enters.bounded, { room with }, run.enters.current⟩ unmet
  | entered failure evmGas ticks there _ looked same =>
  rw [report] at looked same interpreted
  have sameLedger : there = am := by
    have first := run.looked
    rw [lookupAccounts_congr (show (cfg.running gov ours).toShardConfig =
      (cfg.running gov theirs).toShardConfig from rfl)] at first
    have again := (ledgerOnly_lookupAccounts _).elsewhere first (WorldState.entered
      (cfg.running gov theirs) { ws.on node with ledger := paid } tx.canonical) rfl
    cases looked.symm.trans again
    rfl
  subst sameLedger
  have granted : failure = none := by
    rw [← Option.isNone_iff_eq_none, same, Option.isNone_iff_eq_none]
    exact run.succeeds
  subst granted
  obtain ⟨_, _, settles⟩ := run.settles
  obtain ⟨_, _, -, -, rfl⟩ := (ledgerOnly_settleContract _ _).run_ok settles
  have settlesThere : settleContract (cfg.running gov theirs) tx.canonical funds
      (_, none) { ws.on node with
        ledger := there
        evmGas
        ticks } = .ok () _ := (ledgerOnly_settleContract _ _).elsewhere settles _ rfl
  exact ⟨_, executeTransaction_contract_ok contract run.amounts reserves interpreted settlesThere,
    ⟨_, _, _, _, _⟩, rfl⟩

def Timely (cfg : NodeConfig) (gov : GovernanceConfig) (ours theirs : NodeClock)
    (ws other : WorldState) (tx : Transaction) : Prop :=
  if tx.type.isEVM then HasRoom (cfg.running gov theirs) other tx.gas.toUInt64
  else Synchronous gov ws.governance tx (ours.wall (ws.afterNonce tx))
    (theirs.wall (other.afterNonce tx))

theorem executeTransaction_twin (reads : cfg.ReadsChain) :
    (∃ final, executeTransaction (cfg.running gov theirs) tx other = .ok value final ∧
        Twin after final) ↔ Timely cfg gov ours theirs ws other tx := by
  unfold Timely
  by_cases contract : tx.type.isEVM = true
  · rw [if_pos contract]
    exact executeTransaction_twin_contract twin ran contract reads
  rw [if_neg contract]
  by_cases governed : tx.type.isGovernance = true
  · exact executeTransaction_twin_governance twin ran governed
  by_cases native : tx.type.isNative = true
  · refine iff_of_true (executeTransaction_twin_native twin ran native) ?_
    cases kind : tx.type <;> simp_all [Synchronous, TransactionType.isNative]
  · obtain ⟨code, kind⟩ : ∃ code, tx.type = .unknown code := by
      cases kind : tx.type <;> simp_all [TransactionType.isNative, TransactionType.isGovernance,
        TransactionType.isEVM]
    exact absurd ran (executeTransaction_unknown kind)

end Execution

def TimelyAll (cfg : NodeConfig) (gov : GovernanceConfig) (ours theirs : NodeClock) :
    List Transaction → WorldState → WorldState → Prop
  | [], _, _ => True
  | tx :: rest, ws, other => Timely cfg gov ours theirs ws other tx ∧
      ∀ after final, executeTransaction (cfg.running gov ours) tx ws = .ok tx.canonical after →
        executeTransaction (cfg.running gov theirs) tx other = .ok tx.canonical final →
        TimelyAll cfg gov ours theirs rest (after.record tx.canonical) (final.record tx.canonical)

section Loop

variable {cfg : NodeConfig} {gov : GovernanceConfig} {ours theirs : NodeClock}
  {ws other after final : WorldState}

theorem Twin.record (twin : Twin after final) (tx : Transaction) :
    Twin (after.record tx) (final.record tx) := by
  obtain ⟨_, rfl⟩ := twin
  exact ⟨⟨_, _, _, _, _⟩, rfl⟩

theorem applyBlockTransactions_twin (reads : cfg.ReadsChain) {txs exec : List Transaction}
    (twin : Twin ws other) (timely : TimelyAll cfg gov ours theirs txs ws other)
    (ran : applyBlockTransactions (cfg.running gov ours) txs ws = .ok exec after) :
    ∃ final, applyBlockTransactions (cfg.running gov theirs)
        (txs.map Transaction.canonical) other = .ok exec final ∧ Twin after final := by
  induction txs generalizing ws other exec after with
  | nil =>
    cases ran
    exact ⟨other, rfl, twin⟩
  | cons tx rest ih =>
    obtain ⟨err, stopped, -, failed⟩ | ⟨_, first, went⟩ :=
      applyBlockTransactions_cons rest
    · rw [failed] at ran
      cases ran
    rw [went] at ran
    obtain ⟨_, _, loop, returned⟩ := bind_ok_iff.mp ran
    cases returned
    obtain ⟨_, second, near⟩ := (executeTransaction_twin twin first reads).mpr timely.1
    obtain ⟨final, again, last⟩ := ih (near.record tx.canonical) (timely.2 _ _ first second) loop
    rw [← executeTransaction_canonical (executeTransaction_amounts first)] at second
    obtain ⟨_, _, failed, -⟩ | ⟨_, here, went⟩ :=
      applyBlockTransactions_cons (rest.map Transaction.canonical)
    · cases failed.symm.trans second
    rw [canonical_canonical] at here went
    cases here.symm.trans second
    refine ⟨final, ?_, last⟩
    exact went.trans ((bind_ok again _).trans rfl)

end Loop

section Version

variable {cfg : NodeConfig} {ws other : WorldState} {height : Int64}

theorem desiredVersion_adopted (adopted : other.stateRootEncodingVersion =
      desiredStateRootEncodingVersionForHeight cfg ws height) :
    desiredStateRootEncodingVersionForHeight cfg other height =
      desiredStateRootEncodingVersionForHeight cfg ws height := by
  by_cases reached : 0 < cfg.stateEncodingUpgradeHeight ∧ cfg.stateEncodingUpgradeHeight ≤ height
  · exact (if_pos reached).trans (if_pos reached).symm
  · rw [← adopted]
    refine (if_neg reached).trans (if_pos ?_)
    rw [adopted]
    exact desiredVersion_ne_zero

theorem getStateRootEncodingVersion_headed (cfg : NodeConfig) (ws : WorldState) (blk : Block) :
    getStateRootEncodingVersion (ws.headed cfg blk) =
      desiredStateRootEncodingVersionForHeight cfg ws blk.header.index :=
  if_neg desiredVersion_ne_zero

end Version

section Blocks

variable {cfg : NodeConfig} {gov : GovernanceConfig} {ours theirs : NodeClock}
  {ws other after exec : WorldState} {blk sealed : Block}

theorem validateBlockForAddition_sealed (node : NodeLocal) (headed : WorldState) :
    validateBlockForAddition (cfg.running gov theirs) (ws.on node) (blk.sealed headed) =
      validateBlockForAddition (cfg.running gov ours) ws blk := by
  have length : (blk.sealed headed).transactions.length = blk.transactions.length :=
    List.length_map _
  have current : getCurrentBlock (ws.on node) = getCurrentBlock ws := rfl
  unfold validateBlockForAddition
  rw [current]
  simp only [length]
  rfl

theorem Block.canonical_canonical (blk : Block) : blk.canonical.canonical = blk.canonical := by
  have transactions : Transaction.canonical ∘ Transaction.canonical = Transaction.canonical :=
    funext Thrylos.canonical_canonical
  simp only [Block.canonical, Block.executed, List.map_map, transactions,
    parseBigInt_encode (parseBigInt_lt _)]

theorem Twin.adopt (twin : Twin ws other) (blk : Block) :
    ∃ node, adoptEncodingVersion blk other = ws.on node ∧ (blk.header.stateEncodingVersion ≠ 0 →
        node.stateRootEncodingVersion = blk.header.stateEncodingVersion) := by
  obtain ⟨node, rfl⟩ := twin
  unfold adoptEncodingVersion
  split
  · exact ⟨⟨_, _, _, _, _⟩, rfl, fun _ => rfl⟩
  · next unset => exact ⟨node, rfl, fun set => absurd set unset⟩

variable {final : WorldState}

theorem adopted_version {txs exec : List Transaction} {node : NodeLocal}
    (ran : applyBlockTransactions cfg txs (ws.on node) = .ok exec final) :
    final.stateRootEncodingVersion = node.stateRootEncodingVersion := by
  have kept := loop_version cfg txs (ws.on node)
  rw [ran] at kept
  exact kept

abbrev producedBlock (cfg : NodeConfig) (blk : Block) (exec : WorldState) : Block :=
  blk.sealed (exec.headed cfg blk.executed)

section Produced

variable {place : NodeLocal} {made : Block} (adopted : place.stateRootEncodingVersion =
    desiredStateRootEncodingVersionForHeight (cfg.running gov ours) exec blk.header.index)
  (madeAs : producedBlock (cfg.running gov ours) blk exec = made)
include adopted madeAs

theorem headed_root (theirs : NodeClock) :
    ((exec.on place).headed (cfg.running gov theirs) made.executed).stateRoot =
      (exec.headed (cfg.running gov ours) blk.executed).stateRoot := by
  subst madeAs
  have version : desiredStateRootEncodingVersionForHeight (cfg.running gov theirs)
      (exec.on place) blk.header.index =
        desiredStateRootEncodingVersionForHeight (cfg.running gov ours) exec blk.header.index :=
    desiredVersion_adopted adopted
  change rootOf cfg (desiredStateRootEncodingVersionForHeight (cfg.running gov theirs)
    (exec.on place) blk.header.index) _ _ = _
  rw [version]
  rfl

theorem synced_twin (theirs : NodeClock) : Twin (exec.headed (cfg.running gov ours) blk.executed)
      ((exec.on place).synced (cfg.running gov theirs) made.executed) := by
  have root := headed_root adopted madeAs theirs
  have head : advanceHead made.executed (exec.on place) =
      (advanceHead blk.executed exec).on place := by
    subst madeAs
    simp [advanceHead, producedBlock, Block.sealed, Block.canonical, Block.executed, stampStateRoot,
      WorldState.on]
  have shape : (exec.on place).headed (cfg.running gov theirs) made.executed =
    { advanceHead made.executed (exec.on place) with
      stateRootEncodingVersion := desiredStateRootEncodingVersionForHeight
        (cfg.running gov theirs) (exec.on place) made.header.index
      stateRoot := ((exec.on place).headed (cfg.running gov theirs) made.executed).stateRoot } := rfl
  unfold WorldState.synced
  split
  · rw [head]
    subst madeAs
    exact ⟨⟨_, _, _, _, _⟩, rfl⟩
  · rw [shape, root, head]
    exact ⟨⟨_, _, _, _, _⟩, rfl⟩

theorem syncedIn_produced (theirs : NodeClock) :
    made.syncedIn ((exec.on place).synced (cfg.running gov theirs) made.executed) = made := by
  have root := headed_root adopted madeAs theirs
  have version : getStateRootEncodingVersion
      ((exec.on place).headed (cfg.running gov theirs) made.executed) =
      getStateRootEncodingVersion (exec.headed (cfg.running gov ours) blk.executed) := by
    subst madeAs
    rw [getStateRootEncodingVersion_headed, getStateRootEncodingVersion_headed]
    exact desiredVersion_adopted adopted
  have stamped : stampStateRoot
      ((exec.on place).headed (cfg.running gov theirs) made.executed) made = made := by
    unfold stampStateRoot
    rw [root, version]
    subst madeAs
    rfl
  have canonical : made.canonical = made := by
    subst madeAs
    exact Block.canonical_canonical _
  unfold Block.syncedIn Block.syncedBy
  by_cases first : made.header.index = 0
  · rw [if_pos first]
    exact canonical
  · have settled : (exec.on place).synced (cfg.running gov theirs) made.executed = _ := if_neg first
    rw [if_neg first, settled, stamped]
    exact canonical

end Produced

theorem Twin.saved (twin : Twin after final) (blk : Block) :
    Twin (after.saved blk) (final.savedFromSync blk) := by
  obtain ⟨_, rfl⟩ := twin
  unfold WorldState.savedFromSync markGenesisCommitted
  split <;> exact ⟨⟨_, _, _, _, _⟩, rfl⟩

theorem Twin.committed (twin : Twin after final) (blk : Block) (vals : ValidatorSet) :
    Twin (after.committed blk vals) (final.committed blk vals) := by
  obtain ⟨node, rfl⟩ := twin
  exact ⟨node, rfl⟩

theorem addBlock_replayed (reads : cfg.ReadsChain) (twin : Twin ws other)
    (ran : addBlock (cfg.running gov ours) blk ws = .ok sealed after)
    (timely : TimelyAll cfg gov ours theirs blk.transactions ws
      (adoptEncodingVersion sealed other)) :
    ∃ final, addBlockFromSync (cfg.running gov theirs) sealed other = .ok sealed final ∧
      Twin after final := by
  have made := addBlock_outcome (cfg.running gov ours) blk ws
  rw [ran] at made
  cases made with
  | added exec fees _ ok loop _ committed =>
  generalize madeAs : blk.sealed (exec.headed (cfg.running gov ours) blk.executed) = made
    at timely ⊢
  obtain ⟨node, opened, named⟩ := twin.adopt made
  rw [opened] at timely
  obtain ⟨_, again, near⟩ := applyBlockTransactions_twin reads ⟨node, rfl⟩ timely loop
  have version := getStateRootEncodingVersion_headed (cfg.running gov ours) exec blk.executed
  have stamped := (congrArg (·.header.stateEncodingVersion) madeAs).symm.trans version
  obtain ⟨place, rfl⟩ := near
  have adopted : place.stateRootEncodingVersion = desiredStateRootEncodingVersionForHeight
      (cfg.running gov ours) exec blk.header.index :=
    (adopted_version again).trans
      ((named (stamped.trans_ne desiredVersion_ne_zero)).trans stamped)
  have valid : validateBlockForAddition (cfg.running gov theirs) other made = .ok () := by
    obtain ⟨_, rfl⟩ := twin
    exact madeAs ▸ (validateBlockForAddition_sealed _ _).trans ok
  have transactions : made.transactions = blk.transactions.map Transaction.canonical :=
    madeAs ▸ rfl
  rw [← opened, ← transactions] at again
  have outcome := addBlockFromSync_outcome (cfg.running gov theirs) made other
  generalize addBlockFromSync (cfg.running gov theirs) made other = result at outcome ⊢
  cases outcome with
  | refused _ _ why => cases why.symm.trans valid
  | halted _ _ _ _ failed => cases failed.symm.trans again
  | unsaved _ _ _ reaches why =>
    obtain rfl := (EStateM.Result.ok.inj (reaches.symm.trans again)).2
    subst madeAs
    rcases why with differs | ⟨_, fees⟩
    · exact absurd (fun _ => (headed_root adopted rfl theirs).symm) differs
    · have canonical := canonicalizeUint256Bytes_encode (parseBigInt_lt blk.header.totalFees)
      cases fees.symm.trans canonical
  | uncommitted _ _ _ _ _ _ reaches _ _ failed =>
    obtain rfl := (EStateM.Result.ok.inj (reaches.symm.trans again)).2
    cases failed.symm.trans committed
  | added _ _ _ _ reaches _ _ finished =>
    obtain rfl := (EStateM.Result.ok.inj (reaches.symm.trans again)).2
    rw [syncedIn_produced adopted madeAs theirs]
    have twins := synced_twin adopted madeAs theirs
    cases finished.symm.trans committed
    exact ⟨_, rfl, (twins.saved _).committed _ _⟩

end Blocks

def addBlocks (cfg : NodeConfig) : List Block → WorldM (List Block)
  | [] => pure []
  | blk :: rest => do
    let sealed ← addBlock cfg blk
    let others ← addBlocks cfg rest
    return sealed :: others

def addBlocksFromSync (cfg : NodeConfig) : List Block → WorldM (List Block)
  | [] => pure []
  | blk :: rest => do
    let sealed ← addBlockFromSync cfg blk
    let others ← addBlocksFromSync cfg rest
    return sealed :: others

def TimelyChain (cfg : NodeConfig) (gov : GovernanceConfig) (ours theirs : NodeClock) :
    List Block → WorldState → WorldState → Prop
  | [], _, _ => True
  | blk :: rest, ws, other => ∀ sealed after,
      addBlock (cfg.running gov ours) blk ws = .ok sealed after →
        TimelyAll cfg gov ours theirs blk.transactions ws (adoptEncodingVersion sealed other) ∧
        ∀ final, addBlockFromSync (cfg.running gov theirs) sealed other = .ok sealed final →
          TimelyChain cfg gov ours theirs rest after final

section Chain

variable {cfg : NodeConfig} {gov : GovernanceConfig} {ours theirs : NodeClock}
  {ws other after : WorldState}

theorem addBlocks_replayed (reads : cfg.ReadsChain) {blocks sealed : List Block}
    (twin : Twin ws other) (ran : addBlocks (cfg.running gov ours) blocks ws = .ok sealed after)
    (timely : TimelyChain cfg gov ours theirs blocks ws other) :
    ∃ final, addBlocksFromSync (cfg.running gov theirs) sealed other = .ok sealed final ∧
      Twin after final := by
  induction blocks generalizing ws other sealed after with
  | nil =>
    cases ran
    exact ⟨other, rfl, twin⟩
  | cons _ _ ih =>
    obtain ⟨first, middle, added, ran⟩ := bind_ok_iff.mp ran
    obtain ⟨_, _, went, returned⟩ := bind_ok_iff.mp ran
    cases returned
    obtain ⟨inTime, later⟩ := timely first middle added
    obtain ⟨there, replayed, near⟩ := addBlock_replayed reads twin added inTime
    obtain ⟨final, again, last⟩ := ih near went (later there replayed)
    refine ⟨final, ?_, last⟩
    exact (bind_ok replayed _).trans ((bind_ok again _).trans rfl)

/-- A transaction has the same effect on another node exactly if it comes in time there, and a chain
of such transactions leads to the same state. -/
theorem replay_agrees_iff_timely (cfg : NodeConfig) (gov : GovernanceConfig)
    (ours theirs : NodeClock) (reads : cfg.ReadsChain) : (∀ ws other tx value after, Twin ws other →
      executeTransaction (cfg.running gov ours) tx ws = .ok value after →
      ((∃ final, executeTransaction (cfg.running gov theirs) tx other = .ok value final ∧
        Twin after final) ↔ Timely cfg gov ours theirs ws other tx)) ∧
    ∀ blocks sealed ws other after, Twin ws other →
      addBlocks (cfg.running gov ours) blocks ws = .ok sealed after →
      TimelyChain cfg gov ours theirs blocks ws other →
      ∃ final, addBlocksFromSync (cfg.running gov theirs) sealed other = .ok sealed final ∧
        Twin after final :=
  ⟨fun _ _ _ _ _ twin ran => executeTransaction_twin twin ran reads,
    fun _ _ _ _ _ twin ran timely => addBlocks_replayed reads twin ran timely⟩

end Chain

def sampleSession : List Block :=
  [sampleBlock 0 [] [7] [sampleTransaction .governancePropose [0] 0],
    sampleBlock 1 [7] [8] [sampleTransaction .governanceFinalize [0] 1]]

def sampleProducer : NodeClock where
  ticks := fun _ => 0
  wall := fun ws _ => if ws.currentHash = [] then 100 else 111

def sampleFollower : NodeClock where
  ticks := fun _ => 0
  wall := fun _ _ => 1000

theorem a_replayed_proposal_is_still_open :
    ∃ sealed after, addBlocks (sampleConfig.running sampleGovernance sampleProducer) sampleSession
        (sampleCouncil [2, 0]) = .ok sealed after ∧
      ∃ err stopped, addBlocksFromSync (sampleConfig.running sampleGovernance sampleFollower) sealed
        (sampleCouncil [2, 0]) = .error err stopped := by
  have refused : ((addBlocks (sampleConfig.running sampleGovernance sampleProducer) sampleSession
      (sampleCouncil [2, 0])).value?.any fun sealed =>
        (addBlocksFromSync (sampleConfig.running sampleGovernance sampleFollower) sealed
          (sampleCouncil [2, 0])).failed?.any fun _ => true) = true := by decide +kernel
  obtain ⟨sealed, after, made, stopped⟩ := EStateM.Result.exists_of_value? refused
  obtain ⟨err, final, failed, -⟩ := EStateM.Result.exists_of_failed? stopped
  exact ⟨sealed, after, made, err, final, failed⟩

/-- Another count of ticks, and the time at which the producer took the proposal. -/
def samplePrompt : NodeClock where
  ticks := fun ticks => ticks
  wall := fun _ _ => 100

def samplePromptBlock : Block :=
  sampleBlock 0 [] [7] [sampleTransaction .governancePropose [0] 0, sampleTransaction .transfer [1] 1]

theorem a_prompt_proposal_is_replayed :
    ∃ sealed after final, addBlocks (sampleConfig.running sampleGovernance sampleProducer)
        [samplePromptBlock] (sampleCouncil [2, 0]) = .ok sealed after ∧
      addBlocksFromSync (sampleConfig.running sampleGovernance samplePrompt) sealed
        (sampleCouncil [2, 0]) = .ok sealed final ∧ Twin after final := by
  have ok : ((addBlocks (sampleConfig.running sampleGovernance sampleProducer)
      [samplePromptBlock] (sampleCouncil [2, 0])).value?.any fun _ => true) = true := by
    decide +kernel
  obtain ⟨sealed, after, made, -⟩ := EStateM.Result.exists_of_value? ok
  have start : Twin (sampleCouncil [2, 0]) (sampleCouncil [2, 0]) := ⟨⟨_, _, _, _, _⟩, rfl⟩
  have prompt (other : WorldState) : Timely sampleConfig sampleGovernance sampleProducer
      samplePrompt (sampleCouncil [2, 0]) other (sampleTransaction .governancePropose [0] 0) := by
    show (100 : Int64) = _
    decide +kernel
  obtain ⟨final, replayed, twin⟩ := (replay_agrees_iff_timely sampleConfig sampleGovernance
    sampleProducer samplePrompt fun _ _ _ => rfl).2 _ _ _ _ _ start made
      fun _ _ _ => ⟨⟨prompt _, fun _ _ _ _ => ⟨trivial, fun _ _ _ _ => trivial⟩⟩, fun _ _ => trivial⟩
  exact ⟨sealed, after, final, made, replayed, twin⟩

end Thrylos
