import Thrylos.Library.GoText
import Thrylos.StateRoot
import Thrylos.Staking

/-!
The cross-shard manager of `core/state/worldstate.go`. A transfer is debited on the shard of its
sender, kept under the hash of its fields, and credited by that hash on the shard of its receiver.
That it is forgotten an hour after a credit is left out.
-/

namespace Thrylos

inductive TransferStatus where
  | pending
  | completed
  deriving DecidableEq

structure CrossShardTransfer where
  fromShard : Int
  toShard : Int
  sender : Address
  receiver : Address
  amount : Bytes
  nonce : UInt64
  hash : Bytes
  timestamp : Int
  status : TransferStatus
  deriving DecidableEq

structure CrossShardState where
  staking : StakingState
  pendingTransfers : KeyedMap CrossShardTransfer.hash

abbrev CrossShardM := EStateM String CrossShardState

def onStakingState {α : Type} (prog : StakingM α) : CrossShardM α := fun st =>
  match prog st.staking with
  | .ok value staking => .ok value { st with staking }
  | .error err staking => .error err { st with staking }

def onShardAccounts {α : Type} (prog : LedgerM α) : CrossShardM α :=
  onStakingState (onAccounts prog)

/-- `big.Int.SetString` in base ten. -/
def decimalText (raw : Bytes) : Option Int :=
  let number (digits : Bytes) : Option Nat :=
    if digits ≠ [] ∧ digits.all (fun digit => 48 ≤ digit && digit ≤ 57) then
      some (digits.foldl (fun value digit => 10 * value + (digit.val - 48)) 0)
    else none
  match raw with
  | 43 :: digits => (number digits).map Int.ofNat
  | 45 :: digits => (number digits).map fun value => -(value : Int)
  | digits => (number digits).map Int.ofNat

example : decimalText (GoText.ascii "-120") = some (-120) ∧
    decimalText (GoText.ascii "") = none ∧ decimalText (GoText.ascii "1_0") = none := by
  decide +kernel

def uint64Bytes (value : Nat) : Bytes :=
  (List.range 8).map fun place => Fin.ofNat 256 (value / 256 ^ (7 - place))

namespace CrossShardManager

def transferHash (cfg : NodeConfig) (sender receiver amt : Bytes) (nonce : UInt64)
    (timestamp : Int) : Bytes :=
  hexBytes (cfg.keccak256 (sender ++ receiver ++ amt ++ uint64Bytes nonce.toNat ++
    uint64Bytes (timestamp % 2 ^ 64).toNat))

def checkDebit (sender : Account) (amt : Bytes) (nonce : UInt64) : Except String Int :=
  let amountBig := (decimalText amt).getD 0
  if (parseBigInt sender.balance : Int) < amountBig then
    .error s!"insufficient balance: have {text sender.balance}, need {text amt}"
  else if sender.nonce ≠ nonce then
    .error s!"invalid nonce: expected {sender.nonce}, got {nonce}"
  else .ok amountBig

def initiateTransfer (cfg : StakingConfig) (sender receiver : Address) (amt : Bytes)
    (nonce : UInt64) : CrossShardM CrossShardTransfer := do
  let fromShard := calculateShardID cfg sender
  let toShard := calculateShardID cfg receiver
  if fromShard = toShard then
    throw s!"not a cross-shard transfer: both addresses in shard {fromShard}"
  else if fromShard ≠ cfg.shardID then
    throw s!"can only initiate transfers from local shard {cfg.shardID}, got {fromShard}"
  else
    let senderAccount ← (onShardAccounts (getAccount cfg sender)).adaptExcept
      ("failed to get sender account: " ++ ·)
    let amountBig ← ofExcept (checkDebit senderAccount amt nonce)
    let now ← onStakingState (onWorldState (readClock cfg))
    let timestamp := wholeSeconds now
    let transfer : CrossShardTransfer :=
      { fromShard, toShard, sender, receiver, amount := amt, nonce, timestamp, status := .pending
        hash := transferHash cfg sender receiver amt nonce timestamp }
    let saved ← (onShardAccounts (assignAccount cfg
      (senderAccount.credited (-amountBig)))).adaptExcept ("failed to update sender account: " ++ ·)
    (onShardAccounts (saveAccount saved)).adaptExcept ("failed to save sender account: " ++ ·)
    modify fun st =>
      { st with pendingTransfers := st.pendingTransfers.insert transfer }
    return transfer

/-- A receiver that cannot be looked up is taken to be new, and its object is not the cached one. -/
def creditReceiver (cfg : ShardConfig) (receiver : Address) (amt : Option Int) : LedgerM Unit := do
  let found ← (getAccount cfg receiver).attempt
  match amt with
  | none => throw "invalid transfer amount format"
  | some amountBig =>
    match found with
    | .ok acc =>
      let _ ← (assignAccount cfg (acc.credited amountBig)).adaptExcept
        ("failed to update recipient account: " ++ ·)
    | .error _ =>
      let _ ← (putAccount cfg ((Account.fresh receiver).credited amountBig)).adaptExcept
        ("failed to update recipient account: " ++ ·)

def completeTransfer (cfg : StakingConfig) (transferHash : Bytes) : CrossShardM Unit := do
  let st ← get
  match st.pendingTransfers.find? transferHash with
  | none => throw s!"transfer {text transferHash} not found"
  | some transfer =>
    if transfer.toShard ≠ cfg.shardID then
      throw s!"can only complete transfers to local shard {cfg.shardID}, got {transfer.toShard}"
    else
      onShardAccounts (creditReceiver cfg transfer.receiver
        (decimalText transfer.amount))
      modify fun st => { st with
        pendingTransfers := st.pendingTransfers.insert { transfer with status := .completed } }

end CrossShardManager

end Thrylos
