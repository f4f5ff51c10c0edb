import Thrylos.Executor

/-!
The other operations of `core/account/account.go`. Most assign the object they were handed and only
then have `UpdateAccount` check it. Totals over the store are left out.
-/

namespace Thrylos

def minimumStakeAmount : Int64 := 1000000000

def minimumTransfer : Int64 := 10000000

def minimumDelegation : Int := 10 ^ 18 / 10

variable (cfg : ShardConfig) (acc : Account)

/-- Assigns the object the account manager handed out and passes it to `UpdateAccount`. -/
def assignAccount : LedgerM Account := do
  writeThrough acc
  updateAccount cfg acc

/-- `UpdateAccount` on an object the cache does not hold: what it assigns before it fails stays
there. -/
def putAccount : LedgerM Account := fun am =>
  match updateAccount cfg acc am with
  | .ok saved after => .ok saved after
  | .error err _ => .error err am

def changeAccount (lookupFailure : String) (addr : Address)
    (change : Account → Except String Account) : LedgerM Account := do
  let acc ← (getAccount cfg addr).adaptExcept (lookupFailure ++ ·)
  let changed ← ofExcept (change acc)
  assignAccount cfg changed

def delegatingAccount (delegator : Account) (valAddr : Address) (amt : Int) : Account :=
  let delegation := parseBigInt (delegationRaw delegator valAddr) + amt
  { delegator with
    balance := mustUint256Bytes (parseBigInt delegator.balance - amt)
    stakedAmount := mustUint256Bytes (parseBigInt delegator.stakedAmount + amt)
    delegatedTo := delegator.delegatedTo.insert (valAddr, mustUint256Bytes delegation) }

def withdrawFrom (held : Delegations) (holder : Address) (remaining : Int) : Delegations :=
  if remaining = 0 then held.erase holder else held.insert (holder, mustUint256Bytes remaining)

def undelegatingAccount (delegator : Account) (valAddr : Address) (amt : Int) : Account :=
  { delegator with
    stakedAmount := mustUint256Bytes (parseBigInt delegator.stakedAmount - amt)
    delegatedTo := withdrawFrom delegator.delegatedTo valAddr
      (parseBigInt (delegationRaw delegator valAddr) - amt) }

def Account.credited (amt : Int) : Account :=
  { acc with balance := mustUint256Bytes (parseBigInt acc.balance + amt) }

namespace AccountManager

/-- The object is given the address, whatever it had. -/
def setAccount (addr : Address) (acc : Account) : LedgerM Unit := do
  let _ ← putAccount cfg { acc with address := addr }

def stakeChange (amt : Int64) (acc : Account) : Except String Account :=
  if (parseBigInt acc.balance : Int) < amt.toInt then
    .error s!"insufficient balance: have {parseBigInt acc.balance}, need {amt}"
  else .ok { acc with
    balance := mustUint256Bytes (parseBigInt acc.balance - amt.toInt)
    stakedAmount := mustUint256Bytes (parseBigInt acc.stakedAmount + amt.toInt) }

def stake (cfg : ShardConfig) (addr : Address) (amt : Int64) : LedgerM Unit := do
  if amt < minimumStakeAmount then
    throw s!"stake amount {amt} below minimum {minimumStakeAmount}"
  else
    let _ ← changeAccount cfg "failed to get account: " addr (stakeChange amt)

def totalDelegated : Nat :=
  (acc.delegatedTo.entries.map fun entry => parseBigInt entry.2).sum

def unstakeChange (amt : Int64) (acc : Account) : Except String Account :=
  let staked : Int := parseBigInt acc.stakedAmount
  let remainingStake := staked - amt.toInt
  if staked < amt.toInt then
    .error s!"insufficient staked amount: have {staked}, need {amt}"
  else if remainingStake < totalDelegated acc then
    .error "cannot unstake: would leave insufficient stake for delegations"
  else .ok { acc with
    stakedAmount := mustUint256Bytes remainingStake
    balance := mustUint256Bytes (parseBigInt acc.balance + amt.toInt) }

def unstake (cfg : ShardConfig) (addr : Address) (amt : Int64) : LedgerM Unit := do
  if amt ≤ 0 then throw "unstake amount must be positive"
  else
    let _ ← changeAccount cfg "failed to get account: " addr (unstakeChange amt)

def delegateChange (valAddr : Address) (amt : Int) (delegator : Account) : Except String Account :=
  if (parseBigInt delegator.balance : Int) < amt then
    .error "insufficient balance for delegation"
  else .ok (delegatingAccount delegator valAddr amt)

def delegate (cfg : ShardConfig) (delAddr valAddr : Address) (amt : Int) : LedgerM Unit := do
  if amt < minimumDelegation then
    throw s!"delegation amount {amt} below minimum {minimumDelegation}"
  else if delAddr = valAddr then throw "cannot delegate to self"
  else
    ofExcept ((validateAddress valAddr).mapError ("invalid validator address: " ++ ·))
    let _ ← changeAccount cfg "failed to get delegator account: " delAddr
      (delegateChange valAddr amt)

def undelegateChange (valAddr : Address) (amt : Int64) (delegator : Account) :
    Except String Account :=
  match delegator.delegatedTo.find? valAddr with
  | none => .error s!"no delegation found for validator {text valAddr}"
  | some (_, delegated) =>
    if (parseBigInt delegated : Int) < amt.toInt then
      .error s!"insufficient delegation to {text valAddr}: have {parseBigInt delegated}, need {amt}"
    else .ok ((undelegatingAccount delegator valAddr amt.toInt).credited amt.toInt)

def undelegate (delAddr valAddr : Address) (amt : Int64) : LedgerM Unit := do
  if amt ≤ 0 then throw "undelegation amount must be positive"
  else
    ofExcept ((validateAddress valAddr).mapError ("invalid validator address: " ++ ·))
    let _ ← changeAccount cfg "failed to get delegator account: " delAddr
      (undelegateChange valAddr amt)

def addRewardsBig (addr : Address) (rewards : Int) : LedgerM Unit := do
  if rewards ≤ 0 then throw "rewards must be positive"
  else
    let _ ← changeAccount cfg "failed to get account: " addr fun acc =>
      .ok { acc with rewards := mustUint256Bytes (parseBigInt acc.rewards + rewards) }

def addRewards (addr : Address) (rewards : Int64) : LedgerM Unit :=
  if rewards ≤ 0 then throw s!"rewards must be positive: {rewards}"
  else addRewardsBig cfg addr rewards.toInt

def claimRewardsChange : Except String Account :=
  if parseBigInt acc.rewards = 0 then .error "no rewards to claim"
  else .ok { acc.credited (parseBigInt acc.rewards) with rewards := [] }

def claimRewards (addr : Address) : LedgerM Unit := do
  let _ ← changeAccount cfg "failed to get account: " addr claimRewardsChange

def transfer (cfg : ShardConfig) (fromAddr toAddr : Address) (amt : Int64) : LedgerM Unit := do
  if amt < minimumTransfer then
    throw s!"transfer amount {amt} below minimum {minimumTransfer}"
  else if fromAddr = toAddr then throw "cannot transfer to self"
  else
    ofExcept ((validateAddress fromAddr).mapError ("invalid sender address: " ++ ·))
    ofExcept ((validateAddress toAddr).mapError ("invalid recipient address: " ++ ·))
    let fromAccount ← (getAccount cfg fromAddr).adaptExcept ("failed to get sender account: " ++ ·)
    if ¬ belongsToShard cfg toAddr then
      throw s!"cross-shard transfer to {text toAddr} not implemented at account level"
    else
      let toAccount ← (getAccount cfg toAddr).adaptExcept ("failed to get receiver account: " ++ ·)
      if (parseBigInt fromAccount.balance : Int) < amt.toInt then
        throw s!"insufficient balance: have {parseBigInt fromAccount.balance}, need {amt}"
      else
        writeThrough (fromAccount.credited (-amt.toInt))
        writeThrough (toAccount.credited amt.toInt)
        let _ ← (updateAccount cfg (fromAccount.credited (-amt.toInt))).adaptExcept
          ("failed to update sender account: " ++ ·)
        let _ ← (updateAccount cfg (toAccount.credited amt.toInt)).adaptExcept
          ("CRITICAL: failed to update receiver account (sender deducted): " ++ ·)

end AccountManager

end Thrylos
