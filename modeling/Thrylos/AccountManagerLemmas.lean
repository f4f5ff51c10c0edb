import Thrylos.Library.Program
import Thrylos.AccountManager

/-!
What each account operation does to the accounts as `GetAccount` reads them.
-/

namespace Thrylos

export EStateM (bind_ok bind_error bind_ok_iff ofExcept_ok ofExcept_error get_ok set_ok modify_ok
  adaptExcept_ok adaptExcept_error adaptExcept_ok_iff adapt_ok adapt_error check_ok check_error
  attempt_ok attempt_error)

variable {addr : Address} {acc norm : Account} {cfg : ShardConfig}

theorem validateAddress_shape (valid : validateAddress addr = .ok ()) :
    ∃ lead digits, (lead = [48, 120] ∨ lead = [48, 88] ∨ lead = [48, 120, 48, 88]) ∧
      addr = lead ++ digits ∧ digits.length = 40 ∧ ∀ digit ∈ digits, isHexDigit digit = true := by
  unfold validateAddress at valid
  by_cases empty : addr = []
  · simp [empty] at valid
  by_cases led : [48, 120] <+: addr ∨ [48, 88] <+: addr
  swap
  · simp [empty, led] at valid
  simp only [empty, led, not_true, if_false] at valid
  split_ifs at valid with long hex
  have sized := not_not.mp long
  have digits := List.all_eq_true.mp hex
  rcases led with ⟨rest, rfl⟩ | ⟨rest, rfl⟩
  · by_cases again : [48, 88] <+: rest
    · obtain ⟨inner, rfl⟩ := again
      exact ⟨[48, 120, 48, 88], inner, by simp, by simp, by simpa [trimPrefix] using sized,
        by simpa [trimPrefix] using digits⟩
    have kept : trimPrefix [48, 88] (trimPrefix [48, 120] ([48, 120] ++ rest)) = rest := by
      have unled : List.isPrefixOf [48, 88] rest = false := by
        rw [Bool.eq_false_iff]
        exact fun led => again (List.isPrefixOf_iff_prefix.mp led)
      simp [trimPrefix, unled]
    rw [kept] at sized digits
    exact ⟨[48, 120], rest, by simp, rfl, sized, digits⟩
  · exact ⟨[48, 88], rest, by simp, rfl, sized, digits⟩

theorem canonicalizeUint256ByteMap_idem {raw canonical : Delegations}
    (ok : canonicalizeUint256ByteMap raw = .ok canonical) :
    canonicalizeUint256ByteMap canonical = .ok canonical := by
  have related := KeyedMap.update_ok_iff.mp ok
  refine KeyedMap.update_ok_iff.mpr ?_
  generalize raw.entries = entries, canonical.entries = updated at related ⊢
  induction related with
  | nil => exact List.Forall₂.nil
  | cons headRelated _ ih =>
    refine List.Forall₂.cons ?_ ih
    split at headRelated
    · simp at headRelated
    · rename_i amt encoded
      cases headRelated
      rw [canonicalizeUint256Bytes_ok encoded, canonicalizeUint256Bytes_encode (parseBigInt_lt _)]

def Account.Canonical (acc : Account) : Prop := normalizeAccountCompat acc = .ok acc

theorem normalizeAccountCompat_ok (ok : normalizeAccountCompat acc = .ok norm) :
    ∃ delegatedTo, canonicalizeUint256ByteMap acc.delegatedTo = .ok delegatedTo ∧
      norm = { canonicalAmounts acc with delegatedTo } := by
  unfold normalizeAccountCompat at ok
  simp only [bind, Except.bind, pure, Except.pure] at ok
  split at ok
  · simp at ok
  rename_i bal balanceOk
  split at ok
  · simp at ok
  rename_i stakedAmount stakedAmountOk
  split at ok
  · simp at ok
  rename_i rewards rewardsOk
  split at ok
  · simp at ok
  rename_i delegatedTo delegatedToOk
  refine ⟨delegatedTo, delegatedToOk, ?_⟩
  rw [canonicalAmounts, ← canonicalizeUint256Bytes_ok balanceOk,
    ← canonicalizeUint256Bytes_ok stakedAmountOk, ← canonicalizeUint256Bytes_ok rewardsOk]
  exact (Except.ok.inj ok).symm

theorem canonicalAmounts_canonical {delegatedTo : Delegations}
    (ok : canonicalizeUint256ByteMap acc.delegatedTo = .ok delegatedTo) :
    ({ canonicalAmounts acc with delegatedTo } : Account).Canonical := by
  unfold Account.Canonical normalizeAccountCompat
  simp only [canonicalAmounts, canonicalizeUint256Bytes_encode (parseBigInt_lt _),
    canonicalizeUint256ByteMap_idem ok, bind, Except.bind, pure, Except.pure]

theorem canonical_iff : acc.Canonical ↔ canonicalAmounts acc = acc ∧
      canonicalizeUint256ByteMap acc.delegatedTo = .ok acc.delegatedTo := by
  constructor
  · intro ok
    obtain ⟨delegatedTo, delegations, same⟩ := normalizeAccountCompat_ok ok
    obtain rfl : acc.delegatedTo = delegatedTo := congrArg Account.delegatedTo same
    exact ⟨same.symm, delegations⟩
  · rintro ⟨amounts, delegations⟩
    have canonical := canonicalAmounts_canonical delegations
    rwa [show ({ canonicalAmounts acc with delegatedTo := acc.delegatedTo } : Account) = acc from
      amounts] at canonical

structure SameHoldings (left right : Account) : Prop where
  address : left.address = right.address
  nonce : left.nonce = right.nonce
  balance : parseBigInt left.balance = parseBigInt right.balance
  stakedAmount : parseBigInt left.stakedAmount = parseBigInt right.stakedAmount
  rewards : parseBigInt left.rewards = parseBigInt right.rewards

theorem canonicalAmounts_sameHoldings (acc : Account) :
    SameHoldings (canonicalAmounts acc) acc where
  address := rfl
  nonce := rfl
  balance := parseBigInt_encode (parseBigInt_lt _)
  stakedAmount := parseBigInt_encode (parseBigInt_lt _)
  rewards := parseBigInt_encode (parseBigInt_lt _)

theorem normalizeAccountCompat_address
    (ok : normalizeAccountCompat acc = .ok norm) : norm.address = acc.address := by
  obtain ⟨_, _, rfl⟩ := normalizeAccountCompat_ok ok
  rfl

namespace Ledger

def load (am : Ledger) (addr : Address) : Ledger :=
  match am.cache.peek addr with
  | some _ => { am with cache := am.cache.touch addr }
  | none =>
    match storedAccount am addr with
    | .ok (some acc) => { am with cache := am.cache.add acc }
    | _ => am

def write (am : Ledger) (acc : Account) : Ledger :=
  { am with cache := am.cache.write acc }

def store (am : Ledger) (acc : Account) : Ledger :=
  { am with cache := am.cache.add acc, accounts := am.accounts.insert acc }

end Ledger

def readAccount (cfg : ShardConfig) (am : Ledger) (addr : Address) : Except String Account :=
  match validateAddress addr with
  | .error err => .error s!"invalid address format: {err}"
  | .ok () =>
    if ¬ belongsToShard cfg addr then .error (wrongShard cfg addr)
    else
      match am.cache.peek addr with
      | some acc => .ok acc
      | none => (storedAccount am addr).map (·.getD (Account.fresh addr))

def Readable (cfg : ShardConfig) (addr : Address) : Prop :=
  validateAddress addr = .ok () ∧ belongsToShard cfg addr = true

section Reads

variable {cfg : ShardConfig} {am : Ledger} {addr : Address} {acc : Account}

theorem getAccount_apply (cfg : ShardConfig) (addr : Address) (am : Ledger) :
    getAccount cfg addr am =
      match readAccount cfg am addr with
      | .ok acc => .ok acc (am.load addr)
      | .error err => .error err am := by
  unfold getAccount readAccount Ledger.load
  cases validateAddress addr with
  | error => rfl
  | ok =>
  by_cases local_ : belongsToShard cfg addr
  · simp only [local_, not_true_eq_false, if_false]
    cases am.cache.peek addr with
    | some => rfl
    | none => rcases storedAccount am addr with err | _ | acc <;> rfl
  · simp [local_]

theorem getAccount_ok (read : readAccount cfg am addr = .ok acc) :
    getAccount cfg addr am = .ok acc (am.load addr) := by
  rw [getAccount_apply, read]

theorem getAccount_error {err : String} (read : readAccount cfg am addr = .error err) :
    getAccount cfg addr am = .error err am := by
  rw [getAccount_apply, read]

theorem readAccount_readable (read : readAccount cfg am addr = .ok acc) : Readable cfg addr := by
  unfold readAccount at read
  split at read
  · simp at read
  · rename_i valid
    split at read
    · simp at read
    · rename_i shard
      exact ⟨valid, by simpa using shard⟩

theorem readAccount_of_readable (readable : Readable cfg addr) : readAccount cfg am addr =
      match am.cache.peek addr with
      | some acc => .ok acc
      | none => (storedAccount am addr).map (·.getD (Account.fresh addr)) := by
  simp only [readAccount, readable.1, readable.2, not_true_eq_false, if_false]

theorem readAccount_of_not_readable (hidden : ¬ Readable cfg addr) (left right : Ledger) :
    readAccount cfg left addr = readAccount cfg right addr := by
  unfold readAccount
  split
  · rfl
  · rename_i valid
    split
    · rfl
    · rename_i shard
      exact absurd ⟨valid, by simpa using shard⟩ hidden

theorem readAccount_congr {left right : Ledger} (cached : left.cache.peek addr = right.cache.peek addr)
    (stored : left.accounts.find? addr = right.accounts.find? addr) :
    readAccount cfg left addr = readAccount cfg right addr := by
  unfold readAccount storedAccount
  rw [cached, stored]

theorem storedAccount_address (stored : storedAccount am addr = .ok (some acc)) :
    acc.address = addr := by
  unfold storedAccount at stored
  split at stored
  · simp at stored
  rename_i raw found
  split at stored
  · simp at stored
  · rename_i norm ok
    cases stored
    exact (normalizeAccountCompat_address ok).trans (KeyedMap.find?_key found)

theorem readAccount_address (read : readAccount cfg am addr = .ok acc) : acc.address = addr := by
  rw [readAccount_of_readable (readAccount_readable read)] at read
  split at read
  · rename_i cached found
    cases read
    exact LruCache.peek_key found
  rcases stored : storedAccount am addr with err | _ | saved
  · simp [stored, Except.map] at read
  · simp only [stored, Except.map, Option.getD_none, Except.ok.injEq] at read
    exact read ▸ rfl
  · simp only [stored, Except.map, Option.getD_some, Except.ok.injEq] at read
    exact read ▸ storedAccount_address stored

@[simp] theorem load_accounts : (am.load addr).accounts = am.accounts := by
  unfold Ledger.load
  repeat' split
  all_goals rfl

@[simp] theorem load_nonces : (am.load addr).nonces = am.nonces := by
  unfold Ledger.load
  repeat' split
  all_goals rfl

theorem load_evictions (am : Ledger) (addr : Address) :
    am.cache.evictions ≤ (am.load addr).cache.evictions := by
  unfold Ledger.load
  repeat' split
  · simp
  · exact LruCache.evictions_add_le _
  · exact Nat.le_refl _

variable {other : Address}

theorem load_peek_other (ne : addr ≠ other)
    (kept : (am.load addr).cache.evictions = am.cache.evictions) :
    (am.load addr).cache.peek other = am.cache.peek other := by
  unfold Ledger.load at kept ⊢
  cases cached : am.cache.peek addr with
  | some => simp
  | none =>
  rcases stored : storedAccount am addr with err | _ | acc
  · rfl
  · rfl
  · simp only [cached, stored] at kept ⊢
    rw [LruCache.peek_add _ kept, if_neg (storedAccount_address stored ▸ ne)]

theorem readAccount_load_self (cfg : ShardConfig) (am : Ledger) :
    readAccount cfg (am.load addr) addr = readAccount cfg am addr := by
  by_cases readable : Readable cfg addr
  · rw [readAccount_of_readable readable, readAccount_of_readable readable]
    have stored : storedAccount (am.load addr) addr = storedAccount am addr := by
      simp [storedAccount]
    rw [stored]
    unfold Ledger.load
    cases cached : am.cache.peek addr with
    | some => simp [cached]
    | none =>
    rcases record : storedAccount am addr with err | _ | acc
    · simp [cached]
    · simp [cached]
    · have address := storedAccount_address record
      subst address
      simp [Except.map]
  · exact readAccount_of_not_readable readable _ _

theorem readAccount_load (other : Address)
    (kept : (am.load addr).cache.evictions = am.cache.evictions) :
    readAccount cfg (am.load addr) other = readAccount cfg am other := by
  by_cases same : addr = other
  · rw [same, readAccount_load_self]
  · exact readAccount_congr (load_peek_other same kept) (by rw [load_accounts])

theorem load_peek (read : readAccount cfg am addr = .ok acc) :
    (am.load addr).cache.peek addr = some acc ∨
      ((am.load addr).cache.peek addr = none ∧ storedAccount am addr = .ok none ∧
        acc = Account.fresh addr) := by
  rw [readAccount_of_readable (readAccount_readable read)] at read
  unfold Ledger.load
  cases cached : am.cache.peek addr with
  | some =>
    simp only [cached, Except.ok.injEq] at read
    simp [cached, read]
  | none =>
  rcases stored : storedAccount am addr with err | _ | saved
  · simp [cached, stored, Except.map] at read
  · simp only [cached, stored, Except.map, Option.getD_none, Except.ok.injEq] at read
    exact Or.inr ⟨cached, rfl, read.symm⟩
  · simp only [cached, stored, Except.map, Option.getD_some, Except.ok.injEq] at read
    subst read
    have address := storedAccount_address stored
    simp [← address]

theorem readAccount_write_other (ne : acc.address ≠ other) :
    readAccount cfg (am.write acc) other = readAccount cfg am other :=
  readAccount_congr (by simp [Ledger.write, ne]) rfl

theorem readAccount_write_absent (address : acc.address = addr)
    (absent : am.cache.peek addr = none) (other : Address) :
    readAccount cfg (am.write acc) other = readAccount cfg am other := by
  refine readAccount_congr ?_ rfl
  by_cases same : addr = other
  · subst same
    simp [Ledger.write, absent]
  · simp [Ledger.write, address, same]

theorem readAccount_write_present {old : Account} (address : acc.address = addr)
    (readable : Readable cfg addr) (present : am.cache.peek addr = some old) :
    readAccount cfg (am.write acc) addr = .ok acc := by
  rw [readAccount_of_readable readable]
  simp [Ledger.write, address, present]

theorem write_write_ledger {first second : Account} (same : first.address = second.address) :
    (am.write first).write second = am.write second := by
  simp only [Ledger.write, LruCache.write_write _ same]

@[simp] theorem write_evictions (am : Ledger) (acc : Account) :
    (am.write acc).cache.evictions = am.cache.evictions := rfl

theorem store_evictions (am : Ledger) (acc : Account) :
    am.cache.evictions ≤ (am.store acc).cache.evictions :=
  LruCache.evictions_add_le _

theorem readAccount_store_self (am : Ledger) (address : acc.address = addr)
    (readable : Readable cfg addr) : readAccount cfg (am.store acc) addr = .ok acc := by
  subst address
  rw [readAccount_of_readable readable]
  simp [Ledger.store]

theorem readAccount_store_other (ne : acc.address ≠ other)
    (kept : (am.store acc).cache.evictions = am.cache.evictions) :
    readAccount cfg (am.store acc) other = readAccount cfg am other := by
  refine readAccount_congr ?_ ?_
  · simp only [Ledger.store] at kept ⊢
    rw [LruCache.peek_add _ kept, if_neg ne]
  · simp [Ledger.store, ne]

end Reads

structure Updated (cfg : ShardConfig) (acc norm : Account) : Prop where
  delegations : canonicalizeUint256ByteMap acc.delegatedTo = .ok norm.delegatedTo
  amounts : norm = { canonicalAmounts acc with delegatedTo := norm.delegatedTo }
  valid : validateAccount norm = .ok ()
  shard : belongsToShard cfg norm.address = true

namespace Updated

variable {cfg : ShardConfig} {acc norm : Account}

theorem canonical (updated : Updated cfg acc norm) : norm.Canonical := by
  rw [updated.amounts]
  exact canonicalAmounts_canonical updated.delegations

theorem sameHoldings (updated : Updated cfg acc norm) : SameHoldings norm acc := by
  have same := canonicalAmounts_sameHoldings acc
  rw [updated.amounts]
  exact { same with }

theorem unique {other : Account} (updated : Updated cfg acc norm)
    (updatedOther : Updated cfg acc other) : norm = other := by
  have delegations : norm.delegatedTo = other.delegatedTo :=
    Except.ok.inj (updated.delegations.symm.trans updatedOther.delegations)
  rw [updated.amounts, updatedOther.amounts, delegations]

theorem iff_of_canonical (canonical : acc.Canonical) :
    Updated cfg acc norm ↔ norm = acc ∧ validateAccount acc = .ok () ∧
      belongsToShard cfg acc.address = true := by
  obtain ⟨amounts, delegations⟩ := canonical_iff.mp canonical
  constructor
  · intro updated
    have sameDelegations : norm.delegatedTo = acc.delegatedTo :=
      Except.ok.inj (updated.delegations.symm.trans delegations)
    have same : norm = acc := by
      rw [updated.amounts, amounts, sameDelegations]
    exact ⟨same, same ▸ updated.valid, same ▸ updated.shard⟩
  · rintro ⟨rfl, valid, shard⟩
    exact ⟨delegations, by rw [amounts], valid, shard⟩

theorem readable (updated : Updated cfg acc norm) : Readable cfg norm.address := by
  refine ⟨?_, updated.shard⟩
  have valid := updated.valid
  unfold validateAccount at valid
  split at valid
  · simp at valid
  · assumption

end Updated

theorem writeThrough_ok (acc : Account) (am : Ledger) :
    writeThrough acc am = .ok () (am.write acc) := rfl

theorem saveAccount_ok (ok : normalizeAccountCompat acc = .ok norm) (am : Ledger) :
    saveAccount acc am = .ok () { am with accounts := am.accounts.insert norm } := by
  simp only [saveAccount, ok]

theorem validateDelegations_ok_iff {entries : List (Address × Bytes)} {total : Nat} :
    validateDelegations entries = .ok total ↔
      (∀ entry ∈ entries, validateAddress entry.1 = .ok () ∧ parseBigInt entry.2 ≠ 0) ∧
      total = (entries.map fun entry => parseBigInt entry.2).sum := by
  induction entries generalizing total with
  | nil => simp [validateDelegations, eq_comm]
  | cons head rest ih =>
    obtain ⟨val, amountRaw⟩ := head
    simp only [validateDelegations, List.forall_mem_cons, List.map_cons, List.sum_cons]
    cases address : validateAddress val with
    | error => simp
    | ok =>
    by_cases zero : parseBigInt amountRaw = 0
    · simp [zero]
    cases others : validateDelegations rest with
    | error =>
      simp only [zero, if_false, reduceCtorEq, false_iff, ne_eq, not_false_eq_true,
        and_self, true_and]
      rintro ⟨valid, _⟩
      cases others.symm.trans (ih.mpr ⟨valid, rfl⟩)
    | ok =>
      obtain ⟨valid, summed⟩ := ih.mp others
      simp only [zero, if_false, Except.ok.injEq, ne_eq, not_false_eq_true, and_self,
        true_and, ← summed]
      exact ⟨fun equal => ⟨valid, equal.symm⟩, fun equal => equal.2.symm⟩

theorem validateAccount_ok_iff :
    validateAccount acc = .ok () ↔ validateAddress acc.address = .ok () ∧
      (∀ entry ∈ acc.delegatedTo.entries,
        validateAddress entry.1 = .ok () ∧ parseBigInt entry.2 ≠ 0) ∧
      (acc.delegatedTo.entries.map fun entry => parseBigInt entry.2).sum ≤
        parseBigInt acc.stakedAmount := by
  unfold validateAccount
  cases validateAddress acc.address with
  | error => simp
  | ok _ =>
  cases delegations : validateDelegations acc.delegatedTo.entries with
  | error =>
    simp only [reduceCtorEq, false_iff, true_and]
    rintro ⟨valid, _⟩
    cases delegations.symm.trans (validateDelegations_ok_iff.mpr ⟨valid, rfl⟩)
  | ok total =>
  obtain ⟨valid, rfl⟩ := validateDelegations_ok_iff.mp delegations
  dsimp only
  split
  · rename_i short
    simp [Nat.not_le.mpr short]
  · rename_i enough
    exact ⟨fun _ => ⟨rfl, valid, Nat.not_lt.mp enough⟩, fun _ => rfl⟩

theorem fresh_valid (readable : Readable cfg addr) :
    validateAccount (Account.fresh addr) = .ok () := by
  have address : validateAddress (Account.fresh addr).address = .ok () := readable.1
  simp only [validateAccount, address]
  rfl

theorem validateAccount_congr {left right : Account} (address : left.address = right.address)
    (delegatedTo : left.delegatedTo = right.delegatedTo)
    (stakedAmount : left.stakedAmount = right.stakedAmount) :
    validateAccount left = validateAccount right := by
  simp only [validateAccount, address, delegatedTo, stakedAmount]

theorem updateAccount_apply (cfg : ShardConfig) (acc : Account) (am : Ledger) :
    updateAccount cfg acc am =
      match canonicalizeUint256ByteMap acc.delegatedTo with
      | .error err => .error s!"invalid delegated amounts: {err}" (am.write (canonicalAmounts acc))
      | .ok delegatedTo =>
        let norm := { canonicalAmounts acc with delegatedTo }
        match validateAccount norm with
        | .error err => .error s!"account validation failed: {err}" (am.write norm)
        | .ok () =>
          if belongsToShard cfg norm.address then
            .ok norm ((am.write norm).store norm)
          else .error (wrongShard cfg norm.address) (am.write norm) := by
  have sameDelegations : canonicalizeUint256ByteMap (canonicalAmounts acc).delegatedTo =
      canonicalizeUint256ByteMap acc.delegatedTo := rfl
  cases delegations : canonicalizeUint256ByteMap acc.delegatedTo with
  | error =>
    simp only [updateAccount]
    rw [bind_ok (writeThrough_ok _ _)]
    simp only [sameDelegations, delegations]
    rfl
  | ok delegatedTo =>
  have saved : normalizeAccountCompat { canonicalAmounts acc with delegatedTo } =
      .ok { canonicalAmounts acc with delegatedTo } :=
    canonicalAmounts_canonical delegations
  have writes : (am.write (canonicalAmounts acc)).write
      { canonicalAmounts acc with delegatedTo } =
        am.write { canonicalAmounts acc with delegatedTo } :=
    write_write_ledger rfl
  simp only [updateAccount]
  rw [bind_ok (writeThrough_ok _ _)]
  simp only [sameDelegations, delegations]
  rw [bind_ok (writeThrough_ok _ _), writes]
  cases validateAccount { canonicalAmounts acc with delegatedTo } with
  | error => rfl
  | ok =>
  by_cases shard : belongsToShard cfg (canonicalAmounts acc).address
  · have stored := saveAccount_ok saved (am.write { canonicalAmounts acc with delegatedTo })
    simp only [shard, not_true_eq_false, if_false, if_true]
    rw [bind_ok stored]
    rfl
  · simp only [shard]
    rfl

theorem updateAccount_ok (updated : Updated cfg acc norm) (am : Ledger) :
    updateAccount cfg acc am = .ok norm ((am.write norm).store norm) := by
  have shard : belongsToShard cfg (canonicalAmounts acc).address = true :=
    updated.sameHoldings.address ▸ updated.shard
  rw [updateAccount_apply, updated.delegations]
  simp only [← updated.amounts, updated.valid, shard, if_true]

theorem updateAccount_cases (cfg : ShardConfig) (acc : Account) (am : Ledger) :
    (∃ norm, Updated cfg acc norm ∧
      updateAccount cfg acc am = .ok norm ((am.write norm).store norm)) ∨
    (∃ norm err, SameHoldings norm acc ∧ (∀ final, ¬ Updated cfg acc final) ∧
      updateAccount cfg acc am = .error err (am.write norm)) := by
  by_cases fit : ∃ norm, Updated cfg acc norm
  · obtain ⟨norm, updated⟩ := fit
    exact Or.inl ⟨norm, updated, updateAccount_ok updated am⟩
  right
  have unfit := not_exists.mp fit
  have same := canonicalAmounts_sameHoldings acc
  rw [updateAccount_apply]
  split
  · exact ⟨_, _, same, unfit, rfl⟩
  rename_i delegatedTo delegations
  have holdings : SameHoldings { canonicalAmounts acc with delegatedTo } acc :=
    { same with }
  dsimp only
  split
  · exact ⟨_, _, holdings, unfit, rfl⟩
  · rename_i valid
    split
    · rename_i shard
      exact absurd ⟨delegations, rfl, valid, shard⟩ (unfit _)
    · exact ⟨_, _, holdings, unfit, rfl⟩

end Thrylos
