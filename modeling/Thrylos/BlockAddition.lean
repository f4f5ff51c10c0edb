import Thrylos.Execution
import Thrylos.StateRoot

/-!
Adding a block to the world state: `AddBlock` and `AddBlockFromSync`. Both work on the live state,
so whatever fails leaves what was done before it. The block object is changed on the way and
returned.
-/

namespace Thrylos

def normalizeTransactionList : List Transaction → Except String (List Transaction)
  | [] => .ok []
  | tx :: rest => do
    let norm ← normalizeTransactionAmounts tx
    let others ← normalizeTransactionList rest
    return norm :: others

variable (blk : Block)

def normalizeBlockCompat : Except String Block := do
  let totalFees ← canonicalizeUint256Bytes blk.header.totalFees
  let txs ← normalizeTransactionList blk.transactions
  return { blk with header := { blk.header with totalFees }, transactions := txs }

def normalizeValidatorCompat (val : Validator) : Validator × Option String :=
  match canonicalizeUint256Bytes val.stake with
  | .error err => ({ val with stake := [] }, some err)
  | .ok stake =>
    let val := { val with stake }
    match canonicalizeUint256Bytes val.selfStake with
    | .error err => ({ val with selfStake := [] }, some err)
    | .ok selfStake =>
      let val := { val with selfStake }
      match canonicalizeUint256Bytes val.delegatedStake with
      | .error err => ({ val with delegatedStake := [] }, some err)
      | .ok delegatedStake =>
        let val := { val with delegatedStake }
        match canonicalizeUint256ByteMap val.delegators with
        | .error err => ({ val with delegators := KeyedMap.empty }, some err)
        | .ok delegators => ({ val with delegators }, none)

/-- `GetBlock` and `GetBlockByHeight` fail on a record they cannot normalise. -/
def readBlock : Option Block → Option Block
  | none => none
  | some blk =>
    match normalizeBlockCompat blk with
    | .error _ => none
    | .ok norm => some norm

variable (ws : WorldState)

def getBlock (hash : Bytes) : Option Block := readBlock (ws.blocks.find? hash)

def getBlockByHeight (height : Int64) : Option Block :=
  readBlock (ws.blocksByHeight.find? height.toInt)

def getCurrentBlock : Option Block :=
  let byHash := if ws.currentHash ≠ [] then getBlock ws ws.currentHash else none
  match byHash with
  | some blk => some blk
  | none => if 0 ≤ ws.height then getBlockByHeight ws ws.height else none

def validateBlockForAddition (cfg : NodeConfig) (ws : WorldState) (blk : Block) :
    Except String Unit :=
  match getCurrentBlock ws with
  | none =>
    if blk.header.index ≠ 0 then
      .error s!"first block must be genesis (index 0), got {blk.header.index}"
    else if blk.header.prevHash ≠ [] then
      .error "genesis block must have empty previous hash"
    else .ok ()
  | some currentBlock =>
    if blk.header.index ≠ currentBlock.header.index + 1 then
      .error s!"invalid block index: expected {currentBlock.header.index + 1}, got {blk.header.index}"
    else if blk.header.prevHash ≠ currentBlock.hash then
      .error s!"invalid previous hash: expected {text currentBlock.hash}, got {text blk.header.prevHash}"
    else if blk.header.timestamp ≤ currentBlock.header.timestamp then
      .error "block timestamp must be greater than previous block"
    else if cfg.maxBlockSize < blk.header.gasUsed then
      .error s!"block gas used ({blk.header.gasUsed}) exceeds maximum block size ({cfg.maxBlockSize})"
    else if cfg.maxTxPerBlock < blk.transactions.length then
      .error s!"block contains {blk.transactions.length} transactions, maximum allowed is {cfg.maxTxPerBlock}"
    else .ok ()

/-- The address indexes it also writes are not modelled. -/
def saveTransactionWithIndex (tx : Transaction) : WorldM Unit := fun ws =>
  match normalizeTransactionAmounts tx with
  | .error err => .error s!"failed to normalize transaction amounts: {err}" ws
  | .ok norm => .ok () { ws with transactions := ws.transactions.insert norm }

def applyBlockTransactions (cfg : NodeConfig) : List Transaction → WorldM (List Transaction)
  | [] => pure []
  | tx :: rest => do
    let exec ← (executeTransaction cfg tx).adaptExcept
      (s!"failed to execute transaction {text tx.id}: " ++ ·)
    (saveTransactionWithIndex exec).adaptExcept
      (s!"failed to save transaction {text tx.id} with indexing: " ++ ·)
    modify fun ws => { ws with txPool := ws.txPool.removeTransaction exec.id }
    let others ← applyBlockTransactions cfg rest
    return exec :: others

def advanceHead : WorldState :=
  { ws with
    currentHash := blk.hash
    height := blk.header.index
    lastTimestamp := blk.header.timestamp
    totalTransactions := ws.totalTransactions + Int64.ofNat blk.transactions.length }

def saveBlock : WorldM Block := fun ws =>
  match normalizeBlockCompat blk with
  | .error err => .error s!"failed to normalize block amounts: {err}" ws
  | .ok norm => .ok norm { ws with blocks := ws.blocks.insert norm }

def saveBlockByHeight : WorldM Block := fun ws =>
  match normalizeBlockCompat blk with
  | .error err => .error s!"failed to normalize block amounts: {err}" ws
  | .ok norm => .ok norm { ws with blocksByHeight := ws.blocksByHeight.insert norm }

def normalizeValidators : List (Address × Validator) → ValidatorSet → ValidatorSet × Option String
  | [], vals => (vals, none)
  | (addr, val) :: rest, vals =>
    match normalizeValidatorCompat val with
    | (norm, some err) => (vals.insert (addr, norm), some err)
    | (norm, none) => normalizeValidators rest (vals.insert (addr, norm))

/-- One database transaction: nothing is written unless every record can be normalised. -/
def commitBlock : WorldM Block := fun ws =>
  match normalizeBlockCompat blk with
  | .error err => .error s!"failed to normalize block amounts: {err}" ws
  | .ok norm =>
    match normalizeValidators ws.validators.entries ws.validators with
    | (vals, some err) =>
      .error s!"failed to normalize validator amounts: {err}" { ws with validators := vals }
    | (vals, none) =>
      let accounts := ws.ledger.accounts.merge (getAllAccounts ws.ledger)
      .ok norm { ws with
        validators := vals
        blocks := ws.blocks.insert norm
        ledger := { ws.ledger with accounts } }

def stampStateRoot (blk : Block) : Block :=
  { blk with header := { blk.header with
      stateRoot := ws.stateRoot
      stateEncodingVersion := getStateRootEncodingVersion ws } }

def addBlock (cfg : NodeConfig) (blk : Block) : WorldM Block := do
  (ofExcept (validateBlockForAddition cfg (← get) blk) : WorldM Unit).adaptExcept
    ("block validation failed: " ++ ·)
  let txs ← applyBlockTransactions cfg blk.transactions
  let blk := { blk with transactions := txs }
  modify (advanceHead blk)
  modify (updateStateRoot cfg)
  let blk := stampStateRoot (← get) blk
  let blk ← (saveBlock blk).adaptExcept ("failed to save block: " ++ ·)
  let blk ← (saveBlockByHeight blk).adaptExcept ("failed to save block by height: " ++ ·)
  (commitBlock blk).adaptExcept ("failed to commit block to storage: " ++ ·)

def adoptEncodingVersion : WorldState :=
  if blk.header.stateEncodingVersion ≠ 0 then
    { ws with stateRootEncodingVersion := blk.header.stateEncodingVersion }
  else ws

def adoptGenesisRoot : WorldState :=
  { ws with
    stateRoot := blk.header.stateRoot
    stateRootEncodingVersion :=
      if blk.header.stateEncodingVersion ≠ 0 then blk.header.stateEncodingVersion
      else stateRootEncodingVersionLegacy }

def syncStateRoot (cfg : NodeConfig) (blk : Block) : WorldM Block :=
  if blk.header.index = 0 then do
    modify (adoptGenesisRoot blk)
    return blk
  else do
    modify (updateStateRoot cfg)
    let ws ← get
    if blk.header.stateRoot ≠ ws.stateRoot then
      throw s!"state root mismatch during sync: block={text blk.header.stateRoot} computed={text ws.stateRoot}"
    else
      return stampStateRoot ws blk

def markGenesisCommitted : WorldState :=
  if blk.header.index = 0 then { ws with genesisCommitted := true } else ws

def addBlockFromSync (cfg : NodeConfig) (blk : Block) : WorldM Block := do
  (ofExcept (validateBlockForAddition cfg (← get) blk) : WorldM Unit).adaptExcept
    ("block validation failed: " ++ ·)
  modify (adoptEncodingVersion blk)
  let txs ← applyBlockTransactions cfg blk.transactions
  let blk := { blk with transactions := txs }
  modify (advanceHead blk)
  let blk ← syncStateRoot cfg blk
  let blk ← (saveBlock blk).adaptExcept ("failed to save block: " ++ ·)
  modify (markGenesisCommitted blk)
  let blk ← (saveBlockByHeight blk).adaptExcept ("failed to save block by height: " ++ ·)
  (commitBlock blk).adaptExcept ("failed to commit block to storage: " ++ ·)

end Thrylos
