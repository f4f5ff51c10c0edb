import Thrylos.Library.LruCache
import Thrylos.Types
import Thrylos.Uint256

/-!
Accounts as a node keeps them: `core/account/account.go` over the records of `storage/state.go`.
`GetAccount` hands out the cached object, so an assignment to it is a `writeThrough` whether or not
`UpdateAccount` then accepts it.
-/

namespace Thrylos

abbrev NonceStore := KeyedMap (Prod.fst : Address × UInt64 → Address)

structure Ledger where
  cache : LruCache Account.address
  accounts : KeyedMap Account.address
  nonces : NonceStore

abbrev LedgerM := EStateM String Ledger

structure ShardConfig where
  shardID : Int
  totalShards : Int
  keccak256 : Bytes → Bytes

def beaconShardID : Int := -1

def text (raw : Bytes) : String := String.ofList (raw.map fun byte => Char.ofNat byte.val)

def isHexDigit (byte : Byte) : Bool :=
  (48 ≤ byte && byte ≤ 57) || (65 ≤ byte && byte ≤ 70) || (97 ≤ byte && byte ≤ 102)

def trimPrefix (lead raw : Bytes) : Bytes :=
  if lead.isPrefixOf raw then raw.drop lead.length else raw

/-- `address.Validate`. Only `0x` and `0X` lower to `0x`. -/
def validateAddress (addr : Address) : Except String Unit :=
  if addr = [] then .error "address cannot be empty"
  else if ¬ ([48, 120] <+: addr ∨ [48, 88] <+: addr) then
    .error "address must start with 0x prefix"
  else
    let addrHex := trimPrefix [48, 88] (trimPrefix [48, 120] addr)
    if addrHex.length ≠ 40 then
      .error s!"address must be 40 hex characters (20 bytes), got {addrHex.length}"
    else if ¬ addrHex.all isHexDigit then .error "address contains invalid hex characters"
    else .ok ()

variable (cfg : ShardConfig)

def calculateShardID (addr : Address) : Int :=
  if cfg.totalShards ≤ 1 then 0
  else (BigEndian.decode ((cfg.keccak256 addr).take 8) % cfg.totalShards.toNat : Nat)

def belongsToShard (addr : Address) : Bool :=
  cfg.shardID = beaconShardID || calculateShardID cfg addr = cfg.shardID

def wrongShard (addr : Address) : String :=
  let shard := calculateShardID cfg addr
  s!"address {text addr} belongs to shard {shard}, not {cfg.shardID}"

def canonicalizeUint256ByteMap (raw : Delegations) : Except String Delegations :=
  raw.update
    (fun entry =>
      match canonicalizeUint256Bytes entry.2 with
      | .error err => .error s!"invalid uint256 value for key {text entry.1}: {err}"
      | .ok canonical => .ok (entry.1, canonical))
    (by
      intro entry updated ok
      split at ok
      · simp at ok
      · cases ok
        rfl)

variable (acc : Account)

def normalizeAccountCompat : Except String Account := do
  let bal ← canonicalizeUint256Bytes acc.balance
  let stakedAmount ← canonicalizeUint256Bytes acc.stakedAmount
  let rewards ← canonicalizeUint256Bytes acc.rewards
  let delegatedTo ← canonicalizeUint256ByteMap acc.delegatedTo
  return { acc with balance := bal, stakedAmount, rewards, delegatedTo }

/-- `StateStorage.GetAccount`. -/
def storedAccount (am : Ledger) (addr : Address) : Except String (Option Account) :=
  match am.accounts.find? addr with
  | none => .ok none
  | some acc =>
    match normalizeAccountCompat acc with
    | .error err => .error s!"failed to normalize account amounts: {err}"
    | .ok norm => .ok (some norm)

/-- `StateStorage.SaveAccount`. -/
def saveAccount : LedgerM Unit := fun am =>
  match normalizeAccountCompat acc with
  | .error err => .error s!"failed to normalize account amounts: {err}" am
  | .ok norm => .ok () { am with accounts := am.accounts.insert norm }

def storedNonce (am : Ledger) (addr : Address) : UInt64 :=
  match am.nonces.find? addr with
  | none => 0
  | some entry => entry.2

def atomicIncrementNonce (addr : Address) (expectedNonce : UInt64) : LedgerM (Bool × UInt64) :=
  fun am =>
    let currentNonce := storedNonce am addr
    if currentNonce ≠ expectedNonce then .ok (false, currentNonce) am
    else .ok (true, currentNonce) { am with nonces := am.nonces.insert (addr, currentNonce + 1) }

def getAccount (addr : Address) : LedgerM Account := fun am =>
  match validateAddress addr with
  | .error err => .error s!"invalid address format: {err}" am
  | .ok () =>
    if ¬ belongsToShard cfg addr then .error (wrongShard cfg addr) am
    else
      match am.cache.peek addr with
      | some acc => .ok acc { am with cache := am.cache.touch addr }
      | none =>
        match storedAccount am addr with
        | .error err => .error err am
        | .ok none => .ok (Account.fresh addr) am
        | .ok (some acc) => .ok acc { am with cache := am.cache.add acc }

/-- Assigns the fields of an account object that a caller got from `GetAccount`. -/
def writeThrough : LedgerM Unit := fun am =>
  .ok () { am with cache := am.cache.write acc }

def validateDelegations : List (Address × Bytes) → Except String Nat
  | [] => .ok 0
  | (val, amountRaw) :: rest =>
    match validateAddress val with
    | .error err => .error s!"invalid validator address {text val}: {err}"
    | .ok () =>
      let amt := parseBigInt amountRaw
      if amt = 0 then
        .error s!"delegation amount to {text val} must be positive: {amt}"
      else
        match validateDelegations rest with
        | .error err => .error err
        | .ok others => .ok (amt + others)

/-- The checks that an amount is not negative are left out: amounts parse as naturals. -/
def validateAccount : Except String Unit :=
  match validateAddress acc.address with
  | .error err => .error s!"invalid account address: {err}"
  | .ok () =>
    match validateDelegations acc.delegatedTo.entries with
    | .error err => .error err
    | .ok totalDelegated =>
      if parseBigInt acc.stakedAmount < totalDelegated then
        .error s!"total delegated amount ({totalDelegated}) exceeds staked amount ({text acc.stakedAmount})"
      else .ok ()

/-- The shortest encodings `UpdateAccount` first assigns. These assignments never fail. -/
def canonicalAmounts : Account :=
  { acc with
    balance := BigEndian.encode (parseBigInt acc.balance)
    stakedAmount := BigEndian.encode (parseBigInt acc.stakedAmount)
    rewards := BigEndian.encode (parseBigInt acc.rewards) }

/-- `UpdateAccount`, returning the account object as it leaves it. -/
def updateAccount : LedgerM Account := do
  let acc := canonicalAmounts acc
  writeThrough acc
  match canonicalizeUint256ByteMap acc.delegatedTo with
  | .error err => throw s!"invalid delegated amounts: {err}"
  | .ok delegatedTo =>
    let acc := { acc with delegatedTo }
    writeThrough acc
    match validateAccount acc with
    | .error err => throw s!"account validation failed: {err}"
    | .ok () =>
      if ¬ belongsToShard cfg acc.address then
        throw (wrongShard cfg acc.address)
      else
        saveAccount acc
        modify fun am => { am with cache := am.cache.add acc }
        return acc

end Thrylos
