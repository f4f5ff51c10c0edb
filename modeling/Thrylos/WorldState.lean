import Thrylos.Executor

/-!
The world state of `core/state/worldstate.go`: the ledger with the validators, the chain, the state
root, the pool and the gas counters. Database writes are taken to succeed.
-/

namespace Thrylos

open KeyedMap (empty insert)

structure Validator where
  address : Address
  pubkey : Bytes
  stake : Bytes
  selfStake : Bytes
  delegatedStake : Bytes
  delegators : Delegations
  active : Bool
  jailUntil : Int64
  deriving DecidableEq

abbrev ValidatorSet := KeyedMap (Prod.fst : Address × Validator → Address)

structure BlockHeader where
  index : Int64
  prevHash : Bytes
  timestamp : Int64
  validator : Address
  txRoot : Bytes
  stateRoot : Bytes
  gasUsed : Int64
  gasLimit : Int64
  slot : UInt64
  epoch : UInt64
  totalFees : Bytes
  merkleRoot : Bytes
  vrfOutput : Bytes
  vrfProof : Bytes
  stateEncodingVersion : UInt32
  deriving DecidableEq

structure Block where
  header : BlockHeader
  transactions : List Transaction
  hash : Bytes
  signature : Bytes
  deriving DecidableEq

def Block.height (blk : Block) : Int := blk.header.index.toInt

abbrev SenderTransactions := KeyedMap (fun tx : Transaction => tx.nonce.toNat)

abbrev NonceSet := KeyedMap (UInt64.toNat)

/-- The four indexes of `core/transaction/pool.go` and its removal counter. -/
structure Pool where
  pending : KeyedMap Transaction.id
  byAddress : KeyedMap (Prod.fst : Address × SenderTransactions → Address)
  byHash : KeyedMap Transaction.hash
  nonceReservations : KeyedMap (Prod.fst : Address × NonceSet → Address)
  totalRemoved : Int64
  deriving DecidableEq

/-- Gas counters of `RevmExecutor`; `windowStart` is none for the zero time. -/
structure EvmGas where
  blockGasUsed : UInt64
  blockGasLimit : UInt64
  windowStart : Option Int
  windowGasUsed : UInt64
  windowTxCount : UInt64
  deriving DecidableEq

inductive ProposalStatus where
  | active
  | approved
  | rejected
  deriving DecidableEq

structure Governance.Vote where
  validatorAddress : Address
  domainID : Bytes
  approve : Bool
  castAt : Int64
  deriving DecidableEq

structure Proposal where
  id : Bytes
  parameter : Bytes
  proposedValue : Bytes
  proposer : Address
  status : ProposalStatus
  createdAt : Int64
  votingEndsAt : Int64
  finalizedAt : Int64
  yesStake : Bytes
  noStake : Bytes
  votes : KeyedMap (Prod.fst : Bytes × Governance.Vote → Bytes)
  deriving DecidableEq

/-- What governance keeps and changes: metadata records by the four prefixes of their keys, whose
JSON gives back what was saved, and the parameters a proposal can set, a float as its bits. -/
structure GovernanceState where
  /-- `governance/proposal/`, where a proposal is saved under its own id. -/
  proposals : KeyedMap Proposal.id
  /-- `governance/param/` -/
  parameters : KeyedMap (Prod.fst : Bytes × Bytes → Bytes)
  /-- `ownership/validator/` -/
  validatorDomains : KeyedMap (Prod.fst : Address × Bytes → Address)
  /-- `ownership/domain/` -/
  domainMembers : KeyedMap (Prod.fst : Bytes × List Address → Bytes)
  evmMaxGasPerWindow : Int
  evmMaxTxPerWindow : Int
  evmWindowDurationSeconds : Int
  inflationRate : UInt64
  communityTax : UInt64
  maxCommission : UInt64
  maxStakePercentage : UInt64
  minActiveValidators : Int
  deriving DecidableEq

def GovernanceState.blank : GovernanceState :=
  ⟨empty, empty, empty, empty, 0, 0, 0, 0, 0, 0, 0, 0⟩

structure WorldState where
  ledger : Ledger
  validators : ValidatorSet
  blocks : KeyedMap Block.hash
  blocksByHeight : KeyedMap Block.height
  transactions : KeyedMap Transaction.id
  txPool : Pool
  currentHash : Bytes
  height : Int64
  lastTimestamp : Int64
  totalTransactions : Int64
  stateRoot : Bytes
  stateRootEncodingVersion : UInt32
  genesisCommitted : Bool
  evmGas : EvmGas
  governance : GovernanceState
  /-- The records under `code:` and `storage:`. -/
  contracts : KeyedMap (Prod.fst : Bytes × Bytes → Bytes) := empty
  /-- How often the clock has been read. -/
  ticks : Nat

abbrev WorldM := EStateM String WorldState

/-- What the interpreter reports for one run, with the accounts it looked up. -/
structure RevmResult where
  errorCode : Int
  success : Bool
  gasUsed : UInt64
  errorMessage : Option String
  lookups : List Address

/-- A node's configuration, with the code it calls and does not contain. `checksumHex` is
`common.HexToAddress(addr).Hex()`. -/
structure NodeConfig extends ShardConfig where
  chainID : Bytes
  maxTxPerBlock : Int
  maxBlockSize : Int64
  stateEncodingUpgradeHeight : Int64
  checksumHex : Address → Address
  revm : WorldState → Transaction → RevmResult
  governance : WorldState → Transaction → Except String Unit × GovernanceState
  clock : Nat → Int

instance : CoeOut NodeConfig ShardConfig := ⟨NodeConfig.toShardConfig⟩

def onLedger {α : Type} (prog : LedgerM α) : WorldM α := fun ws =>
  match prog ws.ledger with
  | .ok value am => .ok value { ws with ledger := am }
  | .error err am => .error err { ws with ledger := am }

variable (cfg : NodeConfig)

def readClock : WorldM Int := fun ws =>
  .ok (cfg.clock ws.ticks) { ws with ticks := ws.ticks + 1 }

def getBalance (addr : Address) : WorldM Nat := do
  let acc ← onLedger (getAccount cfg addr)
  ofExcept (parseUint256Bytes acc.balance)

def getNonce (addr : Address) : WorldM UInt64 := do
  let acc ← onLedger (getAccount cfg addr)
  return acc.nonce

def updateBalance (addr : Address) (newBalance : Int) : WorldM Unit := do
  if newBalance < 0 then throw "cannot set negative balance"
  let acc ← (onLedger (getAccount cfg addr)).adaptExcept
    (s!"failed to get account {text addr}: " ++ ·)
  let acc := { acc with balance := mustUint256Bytes newBalance }
  onLedger (writeThrough acc)
  let _ ← (onLedger (updateAccount cfg acc)).adaptExcept
    (s!"failed to update account {text addr}: " ++ ·)

def Pool.removeInternal (pool : Pool) (tx : Transaction) : Pool where
  pending := pool.pending.erase tx.id
  byHash := pool.byHash.erase tx.hash
  byAddress :=
    match pool.byAddress.find? tx.fromAddr with
    | none => pool.byAddress
    | some (_, senderTxs) =>
      let remaining := senderTxs.erase tx.nonce.toNat
      if remaining.entries = [] then pool.byAddress.erase tx.fromAddr
      else pool.byAddress.insert (tx.fromAddr, remaining)
  nonceReservations :=
    match pool.nonceReservations.find? tx.fromAddr with
    | none => pool.nonceReservations
    | some (_, reservations) =>
      let remaining := reservations.erase tx.nonce.toNat
      if remaining.entries = [] then pool.nonceReservations.erase tx.fromAddr
      else pool.nonceReservations.insert (tx.fromAddr, remaining)
  totalRemoved := pool.totalRemoved + 1

/-- `RemoveTransaction`, whose callers drop the error for an unknown id. -/
def Pool.removeTransaction (pool : Pool) (txID : Bytes) : Pool :=
  match pool.pending.find? txID with
  | none => pool
  | some tx => pool.removeInternal tx

/-- The number of accounts `NewAccountManager` caches. -/
def accountCacheSize : Nat := 50000

theorem accountCacheSize_pos : 0 < accountCacheSize := by decide

def Ledger.new : Ledger where
  cache := LruCache.new accountCacheSize accountCacheSize_pos
  accounts := empty
  nonces := empty

def Pool.new : Pool where
  pending := empty
  byAddress := empty
  byHash := empty
  nonceReservations := empty
  totalRemoved := 0

/-- `NewWorldState` over an empty database. -/
def newWorldState (now : Int64) (gov : GovernanceState) : WorldState where
  ledger := Ledger.new
  validators := empty
  blocks := empty
  blocksByHeight := empty
  transactions := empty
  txPool := Pool.new
  currentHash := []
  height := 0
  lastTimestamp := now
  totalTransactions := 0
  stateRoot := []
  stateRootEncodingVersion := if 0 < cfg.stateEncodingUpgradeHeight then 1 else 2
  genesisCommitted := false
  evmGas := ⟨0, 0, none, 0, 0⟩
  governance := gov
  ticks := 0

/-- A single-shard node for concrete runs: identities for hashes, contract runs without gas,
governance calls without effect. -/
def sampleConfig : NodeConfig where
  shardID := 0
  totalShards := 1
  keccak256 := id
  chainID := [49]
  maxTxPerBlock := 10
  maxBlockSize := 30000000
  stateEncodingUpgradeHeight := 0
  checksumHex := id
  revm := fun _ _ => ⟨0, true, 0, none, []⟩
  governance := fun ws _ => (.ok (), ws.governance)
  clock := fun _ => 0

def sampleAddress (digit : Byte) : Address := 48 :: 120 :: List.replicate 40 digit

def sampleAccount (digit : Byte) (bal : Bytes) : Account :=
  { Account.fresh (sampleAddress digit) with balance := bal }

def sampleWorld (accounts : List Account) : WorldState :=
  { newWorldState sampleConfig 0 .blank with
    ledger := { Ledger.new with accounts := accounts.foldl insert empty } }

def sampleTransaction (type : TransactionType) (amt : Bytes) (nonce : UInt64) : Transaction where
  id := [1]
  fromAddr := sampleAddress 97
  toAddr := sampleAddress 98
  amount := amt
  gas := 100
  gasPrice := [2]
  nonce := nonce
  data := []
  type := type
  signature := []
  hash := [2]
  timestamp := 0
  fromPubkey := []
  chainId := [49]
  encodingVersion := 0

def sampleBlock (index : Int64) (prevHash hash : Bytes) (txs : List Transaction) : Block where
  header := {
    index := index, prevHash := prevHash, timestamp := index, validator := sampleAddress 97
    txRoot := [], stateRoot := [], gasUsed := 0, gasLimit := 0, slot := 0, epoch := 0
    totalFees := [], merkleRoot := [], vrfOutput := [], vrfProof := [], stateEncodingVersion := 2 }
  transactions := txs
  hash := hash
  signature := []

/-- `sampleWorld` with a genesis block at its head. -/
def sampleTip (accounts : List Account) : WorldState :=
  let genesis := sampleBlock 0 [] [7] []
  { sampleWorld accounts with
    blocks := KeyedMap.empty.insert genesis
    blocksByHeight := KeyedMap.empty.insert genesis
    currentHash := genesis.hash }

end Thrylos
