import Thrylos.AccountManagerLemmas
import Thrylos.WorldState

/-!
The state root: the accounts and validators in key order, serialised and hashed. Only the canonical
encoding prefixes amounts by their length.
-/

namespace Thrylos

def stateRootEncodingVersionLegacy : UInt32 := 1

def stateRootEncodingVersionCanonical : UInt32 := 2

def hexDigit (value : Nat) : Byte := Fin.ofNat 256 (if value < 10 then 48 + value else 87 + value)

/-- The `%x` form of a byte string. -/
def hexBytes (raw : Bytes) : Bytes :=
  raw.flatMap fun byte => [hexDigit (byte.val / 16), hexDigit (byte.val % 16)]

def getStateRootEncodingVersion (ws : WorldState) : UInt32 :=
  if ws.stateRootEncodingVersion = 0 then stateRootEncodingVersionLegacy
  else ws.stateRootEncodingVersion

def desiredStateRootEncodingVersionForHeight (cfg : NodeConfig) (ws : WorldState)
    (height : Int64) : UInt32 :=
  let upgradeHeight := cfg.stateEncodingUpgradeHeight
  if 0 < upgradeHeight ∧ upgradeHeight ≤ height then stateRootEncodingVersionCanonical
  else if ws.stateRootEncodingVersion ≠ 0 then ws.stateRootEncodingVersion
  else if 0 < upgradeHeight then stateRootEncodingVersionLegacy
  else stateRootEncodingVersionCanonical

variable (version : UInt32)

def appendStateUint256 (raw : Bytes) : Bytes :=
  if stateRootEncodingVersionCanonical ≤ version then
    match canonicalizeUint256Bytes raw with
    | .error _ => raw
    | .ok canonical => BigEndian.fixed 2 canonical.length ++ canonical
  else raw

def delegationStateData (delegation : Address × Bytes) : Bytes :=
  delegation.1 ++ appendStateUint256 version delegation.2

def accountStateData (acc : Account) : Bytes :=
  acc.address ++ appendStateUint256 version acc.balance ++
    BigEndian.fixed 8 acc.nonce.toNat ++ appendStateUint256 version acc.stakedAmount ++
    appendStateUint256 version acc.rewards ++
    acc.delegatedTo.entries.flatMap (delegationStateData version)

def validatorStateData (val : Validator) : Bytes :=
  val.address ++ val.pubkey ++ appendStateUint256 version val.stake ++ [if val.active then 1 else 0]

def stateData (accounts : KeyedMap Account.address) (vals : ValidatorSet) : Bytes :=
  accounts.entries.flatMap (accountStateData version) ++
    vals.entries.flatMap (fun entry => validatorStateData version entry.2)

def acceptedAccount (acc : Account) : Option Account :=
  match normalizeAccountCompat acc with
  | .error _ => none
  | .ok norm => some norm

/-- `GetAllAccounts` reads the database and skips the records it cannot normalise. -/
def getAllAccounts (am : Ledger) : KeyedMap Account.address :=
  am.accounts.filterMap acceptedAccount (by
    intro acc norm ok
    unfold acceptedAccount at ok
    split at ok
    · simp at ok
    · rename_i normalised
      cases ok
      exact normalizeAccountCompat_address normalised)

def rootOf (cfg : NodeConfig) (version : UInt32) (accounts : KeyedMap Account.address)
    (vals : ValidatorSet) : Bytes :=
  hexBytes (cfg.keccak256 (stateData version accounts vals))

def updateStateRoot (cfg : NodeConfig) (ws : WorldState) : WorldState :=
  let version := desiredStateRootEncodingVersionForHeight cfg ws ws.height
  { ws with
    stateRootEncodingVersion := version
    stateRoot := rootOf cfg version (getAllAccounts ws.ledger) ws.validators }

def calculateStateRootFromOverlay (cfg : NodeConfig) (ws : WorldState)
    (overlay : KeyedMap Account.address) : Bytes :=
  rootOf cfg (desiredStateRootEncodingVersionForHeight cfg ws ws.height)
    ((getAllAccounts ws.ledger).merge overlay) ws.validators

end Thrylos
