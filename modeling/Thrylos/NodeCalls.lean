import Thrylos.BlockAddition
import Thrylos.CrossShard
import Thrylos.Genesis

/-!
The calls that reach the accounts of a node. Each may fail and still leave something behind.
-/

namespace Thrylos

/-- The getters are all one `getAccount`; an account passed in is an object the cache does not hold.
-/
inductive AccountCall where
  | getAccount (addr : Address)
  | getAccountReadOnly (addr : Address)
  | updateAccount (acc : Account)
  | setAccount (addr : Address) (acc : Account)
  | stake (addr : Address) (amt : Int64)
  | unstake (addr : Address) (amt : Int64)
  | delegate (delAddr valAddr : Address) (amt : Int)
  | undelegate (delAddr valAddr : Address) (amt : Int64)
  | addRewards (addr : Address) (rewards : Int64)
  | addRewardsBig (addr : Address) (rewards : Int)
  | claimRewards (addr : Address)
  | transfer (fromAddr toAddr : Address) (amt : Int64)
  | createGenesisAccount (genesisAddr : Address) (initialSupply : Int)

def AccountCall.run (cfg : ShardConfig) : AccountCall → LedgerM Unit
  | .getAccount addr => do
    let _ ← Thrylos.getAccount cfg addr
  | .getAccountReadOnly addr => do
    let _ ← Thrylos.getAccountReadOnly cfg addr
  | .updateAccount acc => do
    let _ ← putAccount cfg acc
  | .setAccount addr acc => AccountManager.setAccount cfg addr acc
  | .stake addr amt => AccountManager.stake cfg addr amt
  | .unstake addr amt => AccountManager.unstake cfg addr amt
  | .delegate delAddr valAddr amt =>
    AccountManager.delegate cfg delAddr valAddr amt
  | .undelegate delAddr valAddr amt =>
    AccountManager.undelegate cfg delAddr valAddr amt
  | .addRewards addr rewards => AccountManager.addRewards cfg addr rewards
  | .addRewardsBig addr rewards => AccountManager.addRewardsBig cfg addr rewards
  | .claimRewards addr => AccountManager.claimRewards cfg addr
  | .transfer fromAddr toAddr amt => AccountManager.transfer cfg fromAddr toAddr amt
  | .createGenesisAccount genesisAddr initialSupply =>
    Thrylos.createGenesisAccount cfg genesisAddr initialSupply

inductive StakingCall where
  | delegate (delAddr valAddr : Address) (amt : Int)
  | undelegate (delAddr valAddr : Address) (amt : Int)
  | claimRewards (delAddr : Address)
  | distributeRewards (totalRewards : Option Int)
  | processUnbondingQueue

variable (cfg : StakingConfig)

def StakingCall.run : StakingCall → StakingM Unit
  | .delegate delAddr valAddr amt =>
    StakingManager.delegate cfg delAddr valAddr amt
  | .undelegate delAddr valAddr amt =>
    StakingManager.undelegate cfg delAddr valAddr amt
  | .claimRewards delAddr => StakingManager.claimRewards cfg delAddr
  | .distributeRewards totalRewards => StakingManager.distributeRewards cfg totalRewards
  | .processUnbondingQueue => Thrylos.processUnbondingQueue cfg

inductive AccountingCall where
  | account (call : AccountCall)
  | executeTransaction (tx : Transaction)
  | staking (call : StakingCall)

def AccountingCall.run : AccountingCall → StakingM Unit
  | .account call => onAccounts (call.run cfg)
  | .executeTransaction tx => do
    let _ ← onWorldState (Thrylos.executeTransaction cfg tx)
  | .staking call => call.run cfg

inductive NodeCall where
  | accounting (call : AccountingCall)
  | initiateTransfer (sender receiver : Address) (amt : Bytes) (nonce : UInt64)
  | completeTransfer (transferHash : Bytes)
  | addBlock (blk : Block)
  | addBlockFromSync (blk : Block)
  | commitBlock (blk : Block)

def NodeCall.run : NodeCall → CrossShardM Unit
  | .accounting call => onStakingState (call.run cfg)
  | .initiateTransfer sender receiver amt nonce => do
    let _ ← CrossShardManager.initiateTransfer cfg sender receiver amt nonce
  | .completeTransfer transferHash => CrossShardManager.completeTransfer cfg transferHash
  | .addBlock blk => do
    let _ ← onStakingState (onWorldState (Thrylos.addBlock cfg blk))
  | .addBlockFromSync blk => do
    let _ ← onStakingState (onWorldState (Thrylos.addBlockFromSync cfg blk))
  | .commitBlock blk => do
    let _ ← onStakingState (onWorldState (Thrylos.commitBlock blk))

def NodeCall.runAll (calls : List NodeCall) (st : CrossShardState) : CrossShardState :=
  calls.foldl (fun st call => (call.run cfg st).final) st

end Thrylos
