import Thrylos.Library.KeyedMap
import Thrylos.Library.BigEndian

/-!
The records of `proto/account.proto` that the ledger reads and writes. Strings and byte slices are
both `Bytes`; a nil map and an empty one are the same `KeyedMap`.
-/

namespace Thrylos

abbrev Address := Bytes

abbrev Delegations := KeyedMap (Prod.fst : Address × Bytes → Address)

/-- The contract fields `code_hash` and `storage_root` are copied around and never read here. -/
structure Account where
  address : Address
  balance : Bytes
  nonce : UInt64
  stakedAmount : Bytes
  delegatedTo : Delegations
  rewards : Bytes
  deriving DecidableEq

/-- What `GetAccount` returns for an address nothing is stored under. -/
def Account.fresh (address : Address) : Account where
  address := address
  balance := []
  nonce := 0
  stakedAmount := []
  delegatedTo := KeyedMap.empty
  rewards := []

inductive TransactionType where
  | transfer
  | stake
  | unstake
  | delegate
  | undelegate
  | claimRewards
  | evmContractCall
  | evmContractDeploy
  | governancePropose
  | governanceVote
  | governanceFinalize
  | unknown (code : Int)
  deriving DecidableEq

/-- The `%v` form: the name of the protobuf constant, or the bare number of an unknown one. -/
def TransactionType.name : TransactionType → String
  | .transfer => "TRANSFER"
  | .stake => "STAKE"
  | .unstake => "UNSTAKE"
  | .delegate => "DELEGATE"
  | .undelegate => "UNDELEGATE"
  | .claimRewards => "CLAIM_REWARDS"
  | .evmContractCall => "EVM_CONTRACT_CALL"
  | .evmContractDeploy => "EVM_CONTRACT_DEPLOY"
  | .governancePropose => "GOVERNANCE_PROPOSE"
  | .governanceVote => "GOVERNANCE_VOTE"
  | .governanceFinalize => "GOVERNANCE_FINALIZE"
  | .unknown code => toString code

structure Transaction where
  id : Bytes
  fromAddr : Address
  toAddr : Address
  amount : Bytes
  gas : Int64
  gasPrice : Bytes
  nonce : UInt64
  data : Bytes
  type : TransactionType
  signature : Bytes
  hash : Bytes
  timestamp : Int64
  fromPubkey : Bytes
  chainId : Bytes
  encodingVersion : UInt32
  deriving DecidableEq

def TransactionType.isNative : TransactionType → Bool
  | .transfer | .stake | .unstake | .delegate | .undelegate | .claimRewards => true
  | _ => false

end Thrylos
