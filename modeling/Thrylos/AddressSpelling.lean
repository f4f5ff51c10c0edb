import Thrylos.PoolIndexes
import Thrylos.TransactionValidator
import Thrylos.ProposalHandling
import Thrylos.Discovery

/-!
The spellings of an address. `address.Validate` accepts hex digits of either case after `0x`, `0X`
and even `0x0X`, and `FromString` reads the same 20 bytes from all of them.
-/

section

variable (keccak256 : Bytes → Bytes)

namespace Thrylos

open TransactionPool
open TransactionValidator (validateTransfer)

/-- `address.FromString`. -/
def addressFromString (addr : Address) : Except String Bytes :=
  match validateAddress addr with
  | .error err => .error s!"invalid address format: {err}"
  | .ok () =>
    match hexDecode ((trimPrefix [48, 88] (trimPrefix [48, 120] addr)).map lowerByte) with
    | none => .error "failed to decode hex address"
    | some decoded =>
      if decoded.length ≠ 20 then
        .error s!"decoded address has wrong length: expected 20, got {decoded.length}"
      else .ok decoded

theorem valid_of_fromString {addr : Address} {value : Bytes}
    (denotes : addressFromString addr = .ok value) : validateAddress addr = .ok () := by
  unfold addressFromString at denotes
  cases validated : validateAddress addr with
  | error =>
    rw [validated] at denotes
    cases denotes
  | ok => rfl

def holdings (cfg : ShardConfig) (addr : Address) (am : Ledger) : Option Account :=
  (getAccount cfg addr am).value?.map fun acc => { acc with address := [] }

def SharesAccount (left right : Address) : Prop :=
  ∀ (shardID totalShards : Int) (am : Ledger), holdings ⟨shardID, totalShards, keccak256⟩ left am =
      holdings ⟨shardID, totalShards, keccak256⟩ right am

def SharesNonce (left right : Address) : Prop :=
  ∀ (nonce current : UInt64) (am after : Ledger),
    atomicIncrementNonce left nonce am = .ok (true, current) after →
      ∃ next, (atomicIncrementNonce right nonce after).value? = some (false, next)

def SharesShard (left right : Address) : Prop :=
  ∀ shardID totalShards : Int,
    calculateShardID ⟨shardID, totalShards, keccak256⟩ left =
      calculateShardID ⟨shardID, totalShards, keccak256⟩ right

def SharesIndex (left right : Address) : Prop :=
  ∀ (cfg : PoolConfig) (tx : Transaction) (ws after : WorldState),
    cfg.keccak256 = keccak256 → tx.fromAddr = left →
    addTransaction cfg tx ws = .ok () after → tx ∈ after.txPool.getTransactionsForAddress right

def RefusesSelfTransfer (left right : Address) : Prop :=
  ∀ (tx : Transaction) (sender : Account), tx.fromAddr = left → tx.toAddr = right →
    validateTransfer tx sender ≠ .ok ()

structure OneAccount (left right : Address) : Prop where
  account : SharesAccount keccak256 left right
  nonce : SharesNonce left right
  shard : SharesShard keccak256 left right
  sender : SharesIndex keccak256 left right
  transfer : RefusesSelfTransfer left right

def fundedLedger (addr : Address) : Ledger :=
  { Ledger.new with accounts := KeyedMap.empty.insert { Account.fresh addr with balance := [1] } }

theorem storedAccount_funded (addr wanted : Address) : storedAccount (fundedLedger addr) wanted =
      .ok (if addr = wanted then some { Account.fresh addr with balance := [1] } else none) := by
  unfold storedAccount fundedLedger
  by_cases same : addr = wanted
  · have found : (KeyedMap.empty.insert { Account.fresh addr with balance := [1] } :
        KeyedMap Account.address).find? wanted = some { Account.fresh addr with balance := [1] } := by
      simp [same, Account.fresh]
    rw [if_pos same]
    simp only [found]
    rfl
  · have missing : (KeyedMap.empty.insert { Account.fresh addr with balance := [1] } :
        KeyedMap Account.address).find? wanted = none := by
      simp [same, Account.fresh]
    rw [if_neg same]
    simp only [missing]

theorem holdings_funded (addr : Address) {wanted : Address}
    (valid : validateAddress wanted = .ok ()) :
    (holdings ⟨beaconShardID, 1, keccak256⟩ wanted (fundedLedger addr)).map Account.balance =
      some (if addr = wanted then [1] else []) := by
  have readable : Readable ⟨beaconShardID, 1, keccak256⟩ wanted := ⟨valid, rfl⟩
  have read : readAccount ⟨beaconShardID, 1, keccak256⟩ (fundedLedger addr) wanted =
      .ok (if addr = wanted then { Account.fresh addr with balance := [1] }
        else Account.fresh wanted) := by
    rw [readAccount_of_readable readable, storedAccount_funded]
    by_cases same : addr = wanted
    · simp only [if_pos same]
      rfl
    · simp only [if_neg same]
      rfl
  unfold holdings
  rw [getAccount_ok read]
  split <;> rfl

variable {left : Address}

theorem sharesAccount_iff {right : Address}
    (leftValid : validateAddress left = .ok ()) (rightValid : validateAddress right = .ok ()) :
    SharesAccount keccak256 left right ↔ left = right := by
  constructor
  · intro shares
    by_contra distinct
    have seen := congrArg (Option.map Account.balance) (shares beaconShardID 1 (fundedLedger left))
    rw [holdings_funded keccak256 left leftValid, holdings_funded keccak256 left rightValid,
      if_pos rfl, if_neg distinct] at seen
    cases seen
  · rintro rfl shardID totalShards am
    rfl

theorem sharesNonce_iff (left right : Address) : SharesNonce left right ↔ left = right := by
  constructor
  · intro shares
    by_contra distinct
    obtain ⟨_, refused⟩ := shares 0 0 Ledger.new _ rfl
    have unused : storedNonce { Ledger.new with nonces := KeyedMap.empty.insert (left, 0 + 1) }
        right = 0 := by
      simp [storedNonce, distinct]
    have again : (atomicIncrementNonce right 0
        { Ledger.new with nonces := KeyedMap.empty.insert (left, 0 + 1) }).value? =
          some (true, 0) := by
      unfold atomicIncrementNonce
      simp only [unused]
      rfl
    cases again.symm.trans refused
  · rintro rfl nonce current am after incremented
    unfold atomicIncrementNonce at incremented
    dsimp only at incremented
    split at incremented
    · cases incremented
    rename_i expected
    have held : storedNonce am left = nonce := not_not.mp expected
    cases incremented
    refine ⟨storedNonce am left + 1, ?_⟩
    unfold atomicIncrementNonce
    have moved : storedNonce { am with
        nonces := am.nonces.insert (left, storedNonce am left + 1) } left =
          storedNonce am left + 1 := by
      simp [storedNonce]
    have spent : storedNonce am left + 1 ≠ nonce := by
      rw [held]
      simp
    simp only [moved]
    rw [if_pos spent]
    rfl

theorem refusesSelfTransfer_iff (left right : Address) :
    RefusesSelfTransfer left right ↔ left = right := by
  constructor
  · intro refuses
    by_contra distinct
    refine refuses { sampleTransaction .transfer [] 0 with
      fromAddr := left
      toAddr := right
      gasPrice := [] } (Account.fresh left) rfl rfl ?_
    exact if_neg distinct
  · rintro rfl tx sender own other ok
    obtain ⟨_, _, ok⟩ := Except.bind_ok_iff.mp ok
    rw [if_pos (own.trans other.symm)] at ok
    cases ok

def smallPool : PoolConfig where
  toNodeConfig := { sampleConfig with shardID := beaconShardID, keccak256 := keccak256 }
  maxTxs := 1
  minGasPrice := 0
  visit := id
  visit_perm := List.Perm.refl

def freeTransaction (sender : Address) : Transaction := { sampleTransaction .transfer [] 0 with
  fromAddr := sender
  gasPrice := []
  signature := [1] }

theorem smallPool_takes {sender : Address} (valid : validateAddress sender = .ok ()) :
    ∃ after, addTransaction (smallPool keccak256) (freeTransaction sender) (sampleWorld []) =
        .ok () after ∧
      ∀ other, other ≠ sender → after.txPool.getTransactionsForAddress other = [] := by
  have checked : validateTransactionForPool (smallPool keccak256)
      (freeTransaction sender) = .ok () := by
    have named : sender ≠ [] := by
      rintro rfl
      cases valid
    have known : (freeTransaction sender).fromAddr ≠ [] := named
    unfold validateTransactionForPool
    rw [if_neg known]
    rfl
  have acc : readAccount (smallPool keccak256).toShardConfig Ledger.new sender =
      .ok (Account.fresh sender) := by
    have readable : Readable (smallPool keccak256).toShardConfig sender := ⟨valid, rfl⟩
    rw [readAccount_of_readable readable]
    rfl
  have indexed : (sampleWorld []).txPool.view.Indexed := by
    constructor
    · exact fun _ => .rfl
    · exact fun _ _ => iff_of_false List.not_mem_nil fun listed => List.not_mem_nil listed.1
    · exact fun _ _ => .rfl
  have funded : ∃ paid, TransactionPool.checkFunds (smallPool keccak256) (freeTransaction sender)
      (opened (sampleWorld []) (freeTransaction sender)) = .ok () paid := by
    have own : (opened (sampleWorld []) (freeTransaction sender)).txPool.senderTransactions
        (freeTransaction sender).fromAddr = KeyedMap.empty :=
      congrFun (congrArg PoolView.senders (Pool.view_openSender _ _)) sender
    unfold TransactionPool.checkFunds refusing validateTotalPendingBalance
    rw [EStateM.adapt_ok (onLedger_ok (getAccount_ok acc)), EStateM.bind_ok EStateM.get_ok]
    simp only [totalRequired, own]
    exact ⟨_, rfl⟩
  have outcome : Added _ _ _ _ (addTransaction (smallPool keccak256) (freeTransaction sender) _) :=
    addWith_cases spares_checkFunds indexed
  generalize addTransaction _ _ _ = result at outcome ⊢
  cases outcome with
  | refused _ _ _ fails =>
    exact absurd ⟨⟨checked, ⟨rfl, rfl, rfl⟩, Nat.zero_lt_succ _⟩, funded, .inl Int.zero_lt_one⟩ fails
  | admitted _ after _ _ _ viewed =>
    refine ⟨after, rfl, fun other ne => ?_⟩
    have own := congrFun (congrArg PoolView.senders viewed) other
    exact congrArg KeyedMap.entries (own.trans (Function.update_of_ne ne _ _))
  | evicted _ _ _ _ _ evicts | panicked _ _ _ _ _ evicts =>
    exact absurd evicts.full (not_le.mpr Int.zero_lt_one)

theorem sharesIndex_iff (right : Address) (leftValid : validateAddress left = .ok ()) :
    SharesIndex keccak256 left right ↔ left = right := by
  constructor
  · intro shares
    by_contra distinct
    obtain ⟨after, added, elsewhere⟩ := smallPool_takes keccak256 leftValid
    have found := shares (smallPool keccak256) (freeTransaction left) (sampleWorld []) after rfl rfl added
    rw [elsewhere right (Ne.symm distinct)] at found
    cases found
  · rintro rfl cfg tx ws after _ rfl added
    exact addTransaction_indexed added

/-- Two spellings of one address are one account exactly when they are the same text. -/
theorem one_account_iff_same_spelling (left right : Address)
    (value : Bytes) (leftDenotes : addressFromString left = .ok value)
    (rightDenotes : addressFromString right = .ok value) :
    (OneAccount keccak256 left right ↔ left = right) ∧
      (left ≠ right → ¬ SharesAccount keccak256 left right ∧ ¬ SharesNonce left right ∧
        ¬ SharesIndex keccak256 left right ∧ ¬ RefusesSelfTransfer left right) := by
  have leftValid := valid_of_fromString leftDenotes
  have rightValid := valid_of_fromString rightDenotes
  have acc := sharesAccount_iff keccak256 leftValid rightValid
  have nonce := sharesNonce_iff left right
  have sender := sharesIndex_iff keccak256 right leftValid
  have transfer := refusesSelfTransfer_iff left right
  refine ⟨⟨fun one => acc.mp one.account, ?_⟩, ?_⟩
  · intro same
    refine ⟨acc.mpr same, nonce.mpr same, ?_, sender.mpr same, transfer.mpr same⟩
    intro shardID totalShards
    rw [same]
  · intro distinct
    exact ⟨distinct ∘ acc.mp, distinct ∘ nonce.mp, distinct ∘ sender.mp, distinct ∘ transfer.mp⟩

theorem an_address_spelled_twice : OneAccount id (sampleAddress 97) (sampleAddress 97) ∧
      ¬ OneAccount id (sampleAddress 97) (sampleAddress 65) :=
  ⟨(one_account_iff_same_spelling id (sampleAddress 97) (sampleAddress 97) (List.replicate 20 170)
      (by decide +kernel) (by decide +kernel)).1.mpr rfl,
    fun one => absurd
      ((one_account_iff_same_spelling id (sampleAddress 97) (sampleAddress 65) (List.replicate 20 170)
        (by decide +kernel) (by decide +kernel)).1.mp one) (by decide)⟩

theorem capital_letters_make_another_account :
    addressFromString (sampleAddress 97) = addressFromString (sampleAddress 65) ∧
      (validateAddress (sampleAddress 97)).isOk ∧ (validateAddress (sampleAddress 65)).isOk ∧
      (holdings sampleConfig (sampleAddress 97) (fundedLedger (sampleAddress 97))).map
        Account.balance = some [1] ∧
      (holdings sampleConfig (sampleAddress 65) (fundedLedger (sampleAddress 97))).map
        Account.balance = some [] ∧
      ((atomicIncrementNonce (sampleAddress 97) 0 *> atomicIncrementNonce (sampleAddress 65) 0)
        Ledger.new).value? = some (true, 0) ∧
      (validateTransfer { freeTransaction (sampleAddress 97) with toAddr := sampleAddress 65 }
        (Account.fresh (sampleAddress 97))).isOk := by
  decide +kernel

end Thrylos

end
