import Thrylos.BlockAddition
import Thrylos.ExecutionFrame

/-!
Where the addition of a block can end, and the world state each ending leaves.
-/

namespace Thrylos

open EStateM (Leads)

theorem normalizeTransactionAmounts_canonical (tx : Transaction) :
    normalizeTransactionAmounts tx.canonical = .ok tx.canonical := by
  have amt := canonicalizeUint256Bytes_encode (parseBigInt_lt tx.amount)
  have gasPrice := canonicalizeUint256Bytes_encode (parseBigInt_lt tx.gasPrice)
  simp only [normalizeTransactionAmounts, Transaction.canonical, amt, gasPrice]
  rfl

theorem normalizeTransactionList_canonical (txs : List Transaction) :
    normalizeTransactionList (txs.map Transaction.canonical) =
      .ok (txs.map Transaction.canonical) := by
  induction txs with
  | nil => rfl
  | cons _ _ ih =>
    simp only [List.map_cons, normalizeTransactionList, normalizeTransactionAmounts_canonical, ih]
    rfl

def Block.executed (blk : Block) : Block :=
  { blk with transactions := blk.transactions.map Transaction.canonical }

def Block.canonical (blk : Block) : Block :=
  { blk.executed with header :=
    { blk.header with totalFees := BigEndian.encode (parseBigInt blk.header.totalFees) } }

variable {blk : Block} {cfg : NodeConfig} {tx exec : Transaction}
   {ws after : WorldState} {txs : List Transaction}

theorem normalizeBlockCompat_error {err : String}
    (fees : canonicalizeUint256Bytes blk.header.totalFees = .error err) :
    normalizeBlockCompat blk = .error err := by
  simp only [normalizeBlockCompat, fees]
  rfl

theorem normalizeBlockCompat_executed {fees : Bytes}
    (ok : canonicalizeUint256Bytes blk.header.totalFees = .ok fees) :
    normalizeBlockCompat blk.executed = .ok blk.canonical := by
  obtain rfl := canonicalizeUint256Bytes_ok ok
  simp only [normalizeBlockCompat, Block.executed, ok, normalizeTransactionList_canonical]
  rfl

theorem normalizeBlockCompat_canonical :
    normalizeBlockCompat blk.canonical = .ok blk.canonical := by
  have fees : canonicalizeUint256Bytes blk.canonical.header.totalFees =
      .ok blk.canonical.header.totalFees :=
    canonicalizeUint256Bytes_encode (parseBigInt_lt blk.header.totalFees)
  simp only [normalizeBlockCompat, fees]
  simp only [Block.canonical, Block.executed, normalizeTransactionList_canonical]
  rfl

theorem executeTransaction_ok (ran : executeTransaction cfg tx ws = .ok exec after) :
    exec = tx.canonical := by
  obtain ⟨_, _, normalised, dispatched⟩ := bind_ok_iff.mp ran
  obtain ⟨_, _, -, returned⟩ := bind_ok_iff.mp dispatched
  cases returned
  cases amounts : normalizeTransactionAmounts tx with
  | error =>
    rw [amounts] at normalised
    cases normalised
  | ok =>
    rw [amounts] at normalised
    cases normalised
    exact normalizeTransactionAmounts_ok amounts

theorem saveTransactionWithIndex_canonical (tx : Transaction) (ws : WorldState) :
    saveTransactionWithIndex tx.canonical ws =
      .ok () { ws with transactions := ws.transactions.insert tx.canonical } := by
  simp only [saveTransactionWithIndex, normalizeTransactionAmounts_canonical]

theorem canonical_canonical (tx : Transaction) : tx.canonical.canonical = tx.canonical :=
  (normalizeTransactionAmounts_ok (normalizeTransactionAmounts_canonical tx)).symm

theorem executeTransaction_amounts (ran : executeTransaction cfg tx ws = .ok exec after) :
    normalizeTransactionAmounts tx = .ok tx.canonical := by
  cases amounts : normalizeTransactionAmounts tx with
  | error =>
    rw [executeTransaction, amounts] at ran
    cases ran
  | ok => rw [normalizeTransactionAmounts_ok amounts]

theorem executeTransaction_unknown {code : Int} (kind : tx.type = .unknown code) :
    executeTransaction cfg tx ws ≠ .ok exec after := by
  intro ran
  have amounts := executeTransaction_amounts ran
  have kindNow : tx.canonical.type = .unknown code := kind
  rw [executeTransaction, amounts, adapt_ok (ofExcept_ok rfl)] at ran
  obtain ⟨_, _, dispatched, -⟩ := bind_ok_iff.mp ran
  rw [dispatchTransaction, kindNow] at dispatched
  obtain ⟨_, _, _, native⟩ := bind_ok_iff.mp dispatched
  rw [executeNative, kindNow] at native
  cases native

theorem executeTransaction_canonical (amounts : normalizeTransactionAmounts tx = .ok tx.canonical) :
    executeTransaction cfg tx.canonical = executeTransaction cfg tx := by
  rw [executeTransaction, executeTransaction, amounts, normalizeTransactionAmounts_canonical]

def WorldState.record (ws : WorldState) (tx : Transaction) : WorldState :=
  { ws with transactions := ws.transactions.insert tx, txPool := ws.txPool.removeTransaction tx.id }

theorem applyBlockTransactions_cons (rest : List Transaction) :
    (∃ err after, executeTransaction cfg tx ws = .error err after ∧
      applyBlockTransactions cfg (tx :: rest) ws =
        .error (s!"failed to execute transaction {text tx.id}: " ++ err) after) ∨
    ∃ after, executeTransaction cfg tx ws = .ok tx.canonical after ∧
      applyBlockTransactions cfg (tx :: rest) ws = (do
          let others ← applyBlockTransactions cfg rest
          return tx.canonical :: others) (after.record tx.canonical) := by
  rw [applyBlockTransactions]
  cases ran : executeTransaction cfg tx ws with
  | error err after =>
    rw [adapt_error ran]
    exact Or.inl ⟨err, after, rfl, rfl⟩
  | ok _ after =>
  obtain rfl := executeTransaction_ok ran
  rw [adapt_ok ran, bind_ok
    (adaptExcept_ok (saveTransactionWithIndex_canonical tx after) _)]
  exact Or.inr ⟨after, rfl, rfl⟩

theorem applyBlockTransactions_ok {exec : List Transaction}
    (ran : applyBlockTransactions cfg txs ws = .ok exec after) :
    exec = txs.map Transaction.canonical := by
  induction txs generalizing ws exec after with
  | nil =>
    cases ran
    rfl
  | cons tx rest ih =>
    obtain ⟨_, _, -, failed⟩ | ⟨_, -, went⟩ :=
      applyBlockTransactions_cons rest
    · rw [failed] at ran
      cases ran
    · rw [went] at ran
      obtain ⟨_, _, went, returned⟩ := bind_ok_iff.mp ran
      cases returned
      rw [ih went, List.map_cons]

theorem applyBlockTransactions_within (cfg : NodeConfig) (txs : List Transaction) (steps : Nat)
    (start : WorldState) : Leads (Within steps start) (Within (steps + txs.length) start)
      (applyBlockTransactions cfg txs) := by
  induction txs generalizing steps with
  | nil => exact .skip _
  | cons tx rest ih =>
    intro ws within
    have reached := executeTransaction_within cfg tx steps start ws within
    have grow {count : Nat} {st : WorldState} (near : Within (steps + 1) start st) :
        Within (steps + 1 + count) start st := by
      induction count with
      | zero => exact near
      | succ _ more => exact more.more
    have lengths : steps + (tx :: rest).length = steps + 1 + rest.length := by
      rw [List.length_cons]
      omega
    rw [lengths]
    obtain ⟨_, _, ran, failed⟩ | ⟨_, ran, went⟩ :=
      applyBlockTransactions_cons rest
    · rw [ran] at reached
      rw [failed]
      exact grow reached
    · rw [ran] at reached
      rw [went]
      exact (ih (steps + 1)).bind (fun _ => .skip _) (fun _ => id) _ (reached.sameNonces rfl rfl)

theorem applyBlockTransactions_settled {exec : List Transaction}
    (ran : applyBlockTransactions cfg txs ws = .ok exec after) :
    after.settled = ws.settled := by
  have reached := applyBlockTransactions_within cfg txs 0 ws ws (.refl ws)
  rw [ran] at reached
  exact reached.settled

def WorldState.headed (cfg : NodeConfig) (blk : Block) (ws : WorldState) : WorldState :=
  updateStateRoot cfg (advanceHead blk ws)

def WorldState.saved (ws : WorldState) (blk : Block) : WorldState :=
  { ws with blocks := ws.blocks.insert blk, blocksByHeight := ws.blocksByHeight.insert blk }

def WorldState.committed (ws : WorldState) (blk : Block) (vals : ValidatorSet) : WorldState :=
  { ws with
    validators := vals
    blocks := ws.blocks.insert blk
    ledger := { ws.ledger with accounts := ws.ledger.accounts.merge (getAllAccounts ws.ledger) } }

section Saving

variable (blk : Block) (ws : WorldState) {fees : Bytes} {err : String}

theorem saveBlock_error (refused : canonicalizeUint256Bytes blk.header.totalFees = .error err) :
    ∃ message, saveBlock blk ws = .error message ws := by
  simp only [saveBlock, normalizeBlockCompat_error refused]
  exact ⟨_, rfl⟩

theorem saveBlock_ok (ok : canonicalizeUint256Bytes blk.header.totalFees = .ok fees) :
    saveBlock blk.executed ws =
      .ok blk.canonical { ws with blocks := ws.blocks.insert blk.canonical } := by
  simp only [saveBlock, normalizeBlockCompat_executed ok]

theorem saveBlockByHeight_canonical : saveBlockByHeight blk.canonical ws =
      .ok blk.canonical { ws with blocksByHeight := ws.blocksByHeight.insert blk.canonical } := by
  simp only [saveBlockByHeight, normalizeBlockCompat_canonical]

variable {vals : ValidatorSet}

theorem commitBlock_ok
    (norm : normalizeValidators ws.validators.entries ws.validators = (vals, none)) :
    commitBlock blk.canonical ws = .ok blk.canonical (ws.committed blk.canonical vals) := by
  simp only [commitBlock, normalizeBlockCompat_canonical, norm, WorldState.committed]

theorem commitBlock_error
    (failed : normalizeValidators ws.validators.entries ws.validators = (vals, some err)) :
    ∃ message, commitBlock blk.canonical ws = .error message { ws with validators := vals } := by
  simp only [commitBlock, normalizeBlockCompat_canonical, failed]
  exact ⟨_, rfl⟩

end Saving

def Block.sealed (blk : Block) (ws : WorldState) : Block :=
  (stampStateRoot ws blk).canonical

inductive AddBlockOutcome (cfg : NodeConfig) (blk : Block) (ws : WorldState) :
    EStateM.Result String WorldState Block → Prop where
  | refused (err message : String)
      (why : validateBlockForAddition cfg ws blk = .error message) :
      AddBlockOutcome cfg blk ws (.error err ws)
  | halted (err message : String) (after : WorldState)
      (ok : validateBlockForAddition cfg ws blk = .ok ())
      (loop : applyBlockTransactions cfg blk.transactions ws = .error message after) :
      AddBlockOutcome cfg blk ws (.error err after)
  | unsaved (err message : String) (exec : WorldState)
      (ok : validateBlockForAddition cfg ws blk = .ok ())
      (loop : applyBlockTransactions cfg blk.transactions ws = .ok blk.executed.transactions exec)
      (fees : canonicalizeUint256Bytes blk.header.totalFees = .error message) :
      AddBlockOutcome cfg blk ws (.error err (exec.headed cfg blk.executed))
  | uncommitted (err message : String) (exec : WorldState) (fees : Bytes)
      (vals : ValidatorSet)
      (ok : validateBlockForAddition cfg ws blk = .ok ())
      (loop : applyBlockTransactions cfg blk.transactions ws = .ok blk.executed.transactions exec)
      (norm : canonicalizeUint256Bytes blk.header.totalFees = .ok fees)
      (failed : normalizeValidators exec.validators.entries exec.validators =
        (vals, some message)) :
      AddBlockOutcome cfg blk ws (.error err
        { (exec.headed cfg blk.executed).saved
            (blk.sealed (exec.headed cfg blk.executed)) with validators := vals })
  | added (exec : WorldState) (fees : Bytes) (vals : ValidatorSet)
      (ok : validateBlockForAddition cfg ws blk = .ok ())
      (loop : applyBlockTransactions cfg blk.transactions ws = .ok blk.executed.transactions exec)
      (norm : canonicalizeUint256Bytes blk.header.totalFees = .ok fees)
      (committed : normalizeValidators exec.validators.entries exec.validators = (vals, none)) :
      AddBlockOutcome cfg blk ws
        (.ok (blk.sealed (exec.headed cfg blk.executed))
          (((exec.headed cfg blk.executed).saved
            (blk.sealed (exec.headed cfg blk.executed))).committed
              (blk.sealed (exec.headed cfg blk.executed)) vals))

theorem addBlock_outcome (cfg : NodeConfig) (blk : Block) (ws : WorldState) :
    AddBlockOutcome cfg blk ws (addBlock cfg blk ws) := by
  unfold addBlock
  rw [bind_ok get_ok]
  cases checked : validateBlockForAddition cfg ws blk with
  | error message =>
    rw [adapt_error (ofExcept_error rfl)]
    exact .refused _ message checked
  | ok =>
  rw [adapt_ok (ofExcept_ok rfl)]
  cases loop : applyBlockTransactions cfg blk.transactions ws with
  | error message after =>
    rw [bind_error loop]
    exact .halted message message after checked loop
  | ok _ exec =>
  obtain rfl := applyBlockTransactions_ok loop
  rw [bind_ok loop]
  change AddBlockOutcome cfg blk ws
    (((saveBlock (stampStateRoot (exec.headed cfg blk.executed) blk).executed).adaptExcept
      _ >>= _) (exec.headed cfg blk.executed))
  generalize headedEq : exec.headed cfg blk.executed = headed
  have kept : headed.validators = exec.validators := by rw [← headedEq]; rfl
  cases fees : canonicalizeUint256Bytes blk.header.totalFees with
  | error message =>
    obtain ⟨err, unsaved⟩ := saveBlock_error (stampStateRoot headed blk).executed headed fees
    rw [adapt_error unsaved, ← headedEq]
    exact .unsaved _ message exec checked loop fees
  | ok canonical =>
  rw [adapt_ok (saveBlock_ok (stampStateRoot headed blk) headed fees),
    adapt_ok (saveBlockByHeight_canonical _ _)]
  change AddBlockOutcome cfg blk ws
    ((commitBlock (blk.sealed headed)).adaptExcept _ (headed.saved (blk.sealed headed)))
  cases norm : normalizeValidators exec.validators.entries exec.validators with
  | mk vals failure =>
  have reached : normalizeValidators (headed.saved (blk.sealed headed)).validators.entries
      (headed.saved (blk.sealed headed)).validators = (vals, failure) := by
    rw [← norm, ← kept]
    rfl
  cases failure with
  | some message =>
    obtain ⟨err, uncommitted⟩ : ∃ message, commitBlock (blk.sealed headed)
        (headed.saved (blk.sealed headed)) =
          .error message { headed.saved (blk.sealed headed) with validators := vals } :=
      commitBlock_error (stampStateRoot headed blk) _ reached
    rw [adaptExcept_error uncommitted, ← headedEq]
    exact .uncommitted _ message exec canonical vals checked loop fees norm
  | none =>
    have committed : commitBlock (blk.sealed headed) (headed.saved (blk.sealed headed)) =
        .ok (blk.sealed headed) ((headed.saved (blk.sealed headed)).committed
          (blk.sealed headed) vals) :=
      commitBlock_ok (stampStateRoot headed blk) _ reached
    rw [adaptExcept_ok committed, ← headedEq]
    exact .added exec canonical vals checked loop fees norm

def WorldState.synced (cfg : NodeConfig) (blk : Block) (ws : WorldState) : WorldState :=
  if blk.header.index = 0 then adoptGenesisRoot blk (advanceHead blk ws)
  else ws.headed cfg blk

def Block.syncedBy (blk : Block) (ws : WorldState) : Block :=
  if blk.header.index = 0 then blk else stampStateRoot ws blk

def RootAgrees (cfg : NodeConfig) (blk : Block) (exec : WorldState) : Prop :=
  blk.header.index ≠ 0 → blk.header.stateRoot = (exec.headed cfg blk).stateRoot

theorem syncStateRoot_ok {exec : WorldState} (agrees : RootAgrees cfg blk exec) :
    syncStateRoot cfg blk (advanceHead blk exec) =
      .ok (blk.syncedBy (exec.synced cfg blk)) (exec.synced cfg blk) := by
  unfold syncStateRoot Block.syncedBy WorldState.synced
  by_cases genesis : blk.header.index = 0
  · simp only [genesis, if_true]
    rfl
  · have same := agrees genesis
    simp only [genesis, if_false]
    rw [bind_ok (modify_ok _)]
    exact congrFun (if_neg (not_not.mpr same)) _

theorem syncStateRoot_error {exec : WorldState} (differs : ¬ RootAgrees cfg blk exec) :
    ∃ err, syncStateRoot cfg blk (advanceHead blk exec) = .error err (exec.synced cfg blk) := by
  have later : blk.header.index ≠ 0 := fun genesis => differs fun other => absurd genesis other
  have unequal : blk.header.stateRoot ≠ (exec.headed cfg blk).stateRoot :=
    fun same => differs fun _ => same
  unfold syncStateRoot WorldState.synced
  simp only [later, if_false]
  rw [bind_ok (modify_ok _)]
  exact ⟨_, congrFun (if_pos unequal) _⟩

abbrev Block.syncedIn (blk : Block) (ws : WorldState) : Block :=
  (blk.syncedBy ws).canonical

def WorldState.savedFromSync (ws : WorldState) (blk : Block) : WorldState :=
  { markGenesisCommitted blk { ws with blocks := ws.blocks.insert blk } with
    blocksByHeight := ws.blocksByHeight.insert blk }

inductive AddBlockFromSyncOutcome (cfg : NodeConfig) (blk : Block) (ws : WorldState) :
    EStateM.Result String WorldState Block → Prop where
  | refused (err message : String)
      (why : validateBlockForAddition cfg ws blk = .error message) :
      AddBlockFromSyncOutcome cfg blk ws (.error err ws)
  | halted (err message : String) (after : WorldState)
      (ok : validateBlockForAddition cfg ws blk = .ok ())
      (loop : applyBlockTransactions cfg blk.transactions (adoptEncodingVersion blk ws) =
        .error message after) :
      AddBlockFromSyncOutcome cfg blk ws (.error err after)
  | unsaved (err : String) (exec : WorldState)
      (ok : validateBlockForAddition cfg ws blk = .ok ())
      (loop : applyBlockTransactions cfg blk.transactions (adoptEncodingVersion blk ws) =
        .ok blk.executed.transactions exec)
      (why : ¬ RootAgrees cfg blk.executed exec ∨
        ∃ message, canonicalizeUint256Bytes blk.header.totalFees = .error message) :
      AddBlockFromSyncOutcome cfg blk ws (.error err (exec.synced cfg blk.executed))
  | uncommitted (err message : String) (exec : WorldState) (fees : Bytes)
      (vals : ValidatorSet)
      (ok : validateBlockForAddition cfg ws blk = .ok ())
      (loop : applyBlockTransactions cfg blk.transactions (adoptEncodingVersion blk ws) =
        .ok blk.executed.transactions exec)
      (agrees : RootAgrees cfg blk.executed exec)
      (norm : canonicalizeUint256Bytes blk.header.totalFees = .ok fees)
      (failed : normalizeValidators exec.validators.entries exec.validators =
        (vals, some message)) :
      AddBlockFromSyncOutcome cfg blk ws (.error err
        { (exec.synced cfg blk.executed).savedFromSync
            (blk.syncedIn (exec.synced cfg blk.executed)) with validators := vals })
  | added (exec : WorldState) (fees : Bytes) (vals : ValidatorSet)
      (ok : validateBlockForAddition cfg ws blk = .ok ())
      (loop : applyBlockTransactions cfg blk.transactions (adoptEncodingVersion blk ws) =
        .ok blk.executed.transactions exec)
      (agrees : RootAgrees cfg blk.executed exec)
      (norm : canonicalizeUint256Bytes blk.header.totalFees = .ok fees)
      (committed : normalizeValidators exec.validators.entries exec.validators = (vals, none)) :
      AddBlockFromSyncOutcome cfg blk ws
        (.ok (blk.syncedIn (exec.synced cfg blk.executed))
          (((exec.synced cfg blk.executed).savedFromSync
            (blk.syncedIn (exec.synced cfg blk.executed))).committed
              (blk.syncedIn (exec.synced cfg blk.executed)) vals))

theorem synced_validators (cfg : NodeConfig) (blk : Block) (exec : WorldState) :
    (exec.synced cfg blk).validators = exec.validators := by
  unfold WorldState.synced
  split <;> rfl

theorem savedFromSync_validators : (ws.savedFromSync blk).validators = ws.validators := by
  unfold WorldState.savedFromSync markGenesisCommitted
  split <;> rfl

theorem addBlockFromSync_outcome (cfg : NodeConfig) (blk : Block) (ws : WorldState) :
    AddBlockFromSyncOutcome cfg blk ws (addBlockFromSync cfg blk ws) := by
  unfold addBlockFromSync
  rw [bind_ok get_ok]
  cases checked : validateBlockForAddition cfg ws blk with
  | error message =>
    rw [adapt_error (ofExcept_error rfl)]
    exact .refused _ message checked
  | ok =>
  rw [adapt_ok (ofExcept_ok rfl), bind_ok (modify_ok _)]
  cases loop : applyBlockTransactions cfg blk.transactions (adoptEncodingVersion blk ws) with
  | error message after =>
    rw [bind_error loop]
    exact .halted message message after checked loop
  | ok _ exec =>
  obtain rfl := applyBlockTransactions_ok loop
  rw [bind_ok loop]
  change AddBlockFromSyncOutcome cfg blk ws
    ((syncStateRoot cfg blk.executed >>= _) (advanceHead blk.executed exec))
  by_cases agrees : RootAgrees cfg blk.executed exec
  case neg =>
    obtain ⟨err, mismatched⟩ := syncStateRoot_error agrees
    rw [bind_error mismatched]
    exact .unsaved err exec checked loop (Or.inl agrees)
  rw [bind_ok (syncStateRoot_ok agrees)]
  have header : (blk.executed.syncedBy (exec.synced cfg blk.executed)) =
      (blk.syncedBy (exec.synced cfg blk.executed)).executed := by
    change (if blk.header.index = 0 then _ else _) = Block.executed (if _ then _ else _)
    split <;> rfl
  have totalFees : (blk.syncedBy (exec.synced cfg blk.executed)).header.totalFees =
      blk.header.totalFees := by
    unfold Block.syncedBy
    split <;> rfl
  have validatorsKept := synced_validators cfg blk.executed exec
  rw [header]
  generalize syncedEq : exec.synced cfg blk.executed = synced at *
  cases fees : canonicalizeUint256Bytes blk.header.totalFees with
  | error message =>
    obtain ⟨err, unsaved⟩ := saveBlock_error (blk.syncedBy synced).executed synced
      (totalFees ▸ fees)
    rw [adapt_error unsaved, ← syncedEq]
    exact .unsaved _ exec checked loop (Or.inr ⟨message, fees⟩)
  | ok canonical =>
  rw [adapt_ok (saveBlock_ok (blk.syncedBy synced) synced
      (totalFees ▸ fees)), bind_ok (modify_ok _),
    adapt_ok (saveBlockByHeight_canonical _ _)]
  have written : ({ markGenesisCommitted (blk.syncedIn synced)
        { synced with blocks := synced.blocks.insert (blk.syncedIn synced) } with
      blocksByHeight := (markGenesisCommitted (blk.syncedIn synced)
        { synced with blocks := synced.blocks.insert (blk.syncedIn synced) }).blocksByHeight.insert
          (blk.syncedIn synced) } : WorldState) = synced.savedFromSync (blk.syncedIn synced) := by
    unfold WorldState.savedFromSync markGenesisCommitted
    split <;> rfl
  rw [written]
  cases norm : normalizeValidators exec.validators.entries exec.validators with
  | mk vals failure =>
  have reached : normalizeValidators (synced.savedFromSync (blk.syncedIn synced)).validators.entries
      (synced.savedFromSync (blk.syncedIn synced)).validators = (vals, failure) := by
    rw [savedFromSync_validators, validatorsKept]
    exact norm
  cases failure with
  | some message =>
    obtain ⟨_, uncommitted⟩ := commitBlock_error (blk.syncedBy synced) _ reached
    rw [adaptExcept_error uncommitted, ← syncedEq]
    exact .uncommitted _ message exec canonical vals checked loop agrees fees norm
  | none =>
    rw [adaptExcept_ok (commitBlock_ok (blk.syncedBy synced) _ reached), ← syncedEq]
    exact .added exec canonical vals checked loop agrees fees norm

theorem desiredVersion_ne_zero {height : Int64} :
    desiredStateRootEncodingVersionForHeight cfg ws height ≠ 0 := by
  unfold desiredStateRootEncodingVersionForHeight
  dsimp only
  split_ifs with canonical stored legacy
  · decide
  · exact stored
  · decide
  · decide

end Thrylos
