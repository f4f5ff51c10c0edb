import Thrylos.Evm
import Thrylos.StateRoot

/-!
`WorldState.InitializeGenesis`: the configured accounts or one fallback account, and the genesis
validators with an account each. A balance is the number its decimal text stands for, and zero if it
is none.
-/

namespace Thrylos

structure GenesisConfig where
  accounts : List (Address × Int)
  genesisSupply : Int
  minValidatorStake : Int

def validatorFunding : Int := 10000000000000000000000

def getAccountReadOnly (cfg : ShardConfig) (addr : Address) : LedgerM (Option Account) :=
  fun am =>
    if ¬ belongsToShard cfg addr then .ok none am
    else
      match am.cache.peek addr with
      | some acc => .ok (some acc) { am with cache := am.cache.touch addr }
      | none =>
        match storedAccount am addr with
        | .ok (some acc) => .ok (some acc) { am with cache := am.cache.add acc }
        | _ => .ok none am

def createGenesisAccount (cfg : ShardConfig) (genesisAddr : Address) (initialSupply : Int) :
    LedgerM Unit := do
  (ofExcept (validateAddress genesisAddr) : LedgerM Unit).adaptExcept
    ("invalid genesis address: " ++ ·)
  if initialSupply ≤ 0 then throw s!"initial supply must be positive: {initialSupply}"
  else if ¬ belongsToShard cfg genesisAddr then
    throw s!"genesis address {text genesisAddr} does not belong to shard {cfg.shardID}"
  else
    match ← getAccountReadOnly cfg genesisAddr with
    | some _ => throw s!"genesis account {text genesisAddr} already exists"
    | none =>
      let _ ← updateAccount cfg
        { Account.fresh genesisAddr with balance := BigEndian.encode initialSupply.toNat }

def createGenesisAccounts (cfg : NodeConfig) : List (Address × Int) → WorldM Unit
  | [] => pure ()
  | (addr, bal) :: rest => do
    ignoreFailure (onLedger (createGenesisAccount cfg addr bal))
    createGenesisAccounts cfg rest

def addValidator (genesis : GenesisConfig) (val : Validator) : WorldM Unit := fun ws =>
  if val.address = [] then .error "validator address cannot be empty" ws
  else
    match validateAddress val.address with
    | .error err => .error s!"invalid validator address: {err}" ws
    | .ok () =>
      if val.pubkey = [] then .error "validator public key cannot be empty" ws
      else if (parseBigInt val.stake : Int) < genesis.minValidatorStake then
        .error s!"validator stake {text val.stake} below minimum {genesis.minValidatorStake}" ws
      else if (ws.validators.find? val.address).isSome then
        .error s!"validator {text val.address} already exists" ws
      else .ok () { ws with validators := ws.validators.insert (val.address, val) }

def addValidators (genesis : GenesisConfig) : List Validator → WorldM Unit
  | [] => pure ()
  | val :: rest => do
    (addValidator genesis val).adaptExcept
      (s!"failed to add genesis validator {text val.address}: " ++ ·)
    addValidators genesis rest

def initializeGenesis (cfg : NodeConfig) (genesis : GenesisConfig) (genesisAccount : Address)
    (initialSupply : Int) (genesisValidators : List Validator) : WorldM Unit := do
  (ofExcept (validateAddress genesisAccount) : WorldM Unit).adaptExcept
    ("invalid genesis account address: " ++ ·)
  let initialSupply := if initialSupply = 0 then genesis.genesisSupply else initialSupply
  if genesis.accounts ≠ [] then createGenesisAccounts cfg genesis.accounts
  else
    (onLedger (createGenesisAccount cfg genesisAccount initialSupply)).adaptExcept
      ("failed to create genesis account: " ++ ·)
  addValidators genesis genesisValidators
  createGenesisAccounts cfg (genesisValidators.map fun val => (val.address, validatorFunding))
  modify fun ws => updateStateRoot cfg { ws with height := 0 }

end Thrylos
