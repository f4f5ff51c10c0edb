import Thrylos.AccountOps
import Thrylos.AccountManagerLemmas

/-!
Which changes of an account `UpdateAccount` accepts: those to accounts that pass `ValidateAccount`
and belong to the node's shard.
-/

namespace Thrylos

def heldBy (held : Delegations) (holder : Address) : Nat :=
  match held.find? holder with
  | none => 0
  | some entry => parseBigInt entry.2

def heldTotal (held : Delegations) : Nat := held.total fun entry => parseBigInt entry.2

def WellHeld (held : Delegations) : Prop :=
  ∀ entry ∈ held.entries, validateAddress entry.1 = .ok () ∧ parseBigInt entry.2 ≠ 0

theorem validateAccount_iff {acc : Account} :
    validateAccount acc = .ok () ↔ validateAddress acc.address = .ok () ∧ WellHeld acc.delegatedTo ∧
      heldTotal acc.delegatedTo ≤ parseBigInt acc.stakedAmount :=
  validateAccount_ok_iff

section Canonical

variable {held canonical : Delegations}

theorem canonicalizeUint256Bytes_of_nonzero {raw : Bytes} (nonzero : parseBigInt raw ≠ 0) :
    ∃ canonical, canonicalizeUint256Bytes raw = .ok canonical := by
  unfold canonicalizeUint256Bytes
  cases parsed : parseUint256Bytes raw with
  | error => simp [parseBigInt, parsed] at nonzero
  | ok value =>
    have same : parseBigInt raw = value := by rw [parseBigInt, parsed]
    exact ⟨_, same ▸ bigIntToUint256Bytes_parseBigInt⟩

theorem WellHeld.canonicalizes (wellHeld : WellHeld held) :
    ∃ canonical, canonicalizeUint256ByteMap held = .ok canonical := by
  refine KeyedMap.exists_update fun entry mem => ?_
  obtain ⟨canonical, ok⟩ := canonicalizeUint256Bytes_of_nonzero (wellHeld entry mem).2
  exact ⟨(entry.1, canonical), by simp only [ok]⟩

theorem canonicalizeUint256ByteMap_entries (ok : canonicalizeUint256ByteMap held = .ok canonical) :
    List.Forall₂ (fun entry result => result.1 = entry.1 ∧ parseBigInt result.2 = parseBigInt entry.2)
      held.entries canonical.entries := by
  refine (KeyedMap.update_ok_iff.mp ok).imp fun entry result related => ?_
  split at related
  · simp at related
  · rename_i amt encoded
    cases related
    exact ⟨rfl, by rw [canonicalizeUint256Bytes_ok encoded, parseBigInt_encode (parseBigInt_lt _)]⟩

theorem heldTotal_canonical (ok : canonicalizeUint256ByteMap held = .ok canonical) :
    heldTotal canonical = heldTotal held := by
  have related := canonicalizeUint256ByteMap_entries ok
  unfold heldTotal KeyedMap.total
  generalize held.entries = entries, canonical.entries = results at related
  induction related with
  | nil => rfl
  | cons headRelated _ ih =>
    rw [List.map_cons, List.map_cons, List.sum_cons, List.sum_cons, ih, headRelated.2]

theorem wellHeld_canonical_iff (ok : canonicalizeUint256ByteMap held = .ok canonical) :
    WellHeld canonical ↔ WellHeld held := by
  have related := canonicalizeUint256ByteMap_entries ok
  unfold WellHeld
  generalize held.entries = entries, canonical.entries = results at related
  induction related with
  | nil => simp
  | cons headRelated _ ih =>
    rw [List.forall_mem_cons, List.forall_mem_cons, headRelated.1, headRelated.2]
    exact and_congr_right fun _ => ih

end Canonical

section Updated

variable {cfg : ShardConfig} {acc norm : Account}

theorem validateAccount_canonical {canonical : Delegations}
    (ok : canonicalizeUint256ByteMap acc.delegatedTo = .ok canonical) :
    validateAccount { canonicalAmounts acc with delegatedTo := canonical } = .ok () ↔
      validateAccount acc = .ok () := by
  rw [validateAccount_iff, validateAccount_iff]
  simp only [canonicalAmounts, parseBigInt_encode (parseBigInt_lt _),
    wellHeld_canonical_iff ok, heldTotal_canonical ok]

theorem exists_updated_iff : (∃ norm, Updated cfg acc norm) ↔
      validateAccount acc = .ok () ∧ belongsToShard cfg acc.address = true := by
  constructor
  · rintro ⟨_, updated⟩
    have valid := updated.valid
    rw [updated.amounts, validateAccount_canonical updated.delegations] at valid
    exact ⟨valid, updated.sameHoldings.address ▸ updated.shard⟩
  · rintro ⟨valid, shard⟩
    obtain ⟨canonical, ok⟩ := (validateAccount_iff.mp valid).2.1.canonicalizes
    exact ⟨{ canonicalAmounts acc with delegatedTo := canonical }, ok, rfl,
      (validateAccount_canonical ok).mpr valid, shard⟩

end Updated

theorem heldBy_insert (held : Delegations) (holder : Address) (raw : Bytes) (other : Address) :
    heldBy (held.insert (holder, raw)) other =
      if holder = other then parseBigInt raw else heldBy held other := by
  unfold heldBy
  rw [KeyedMap.find?_insert]
  by_cases same : holder = other <;> simp [same]

theorem heldBy_erase (held : Delegations) (holder other : Address) :
    heldBy (held.erase holder) other = if holder = other then 0 else heldBy held other := by
  unfold heldBy
  rw [KeyedMap.find?_erase]
  by_cases same : holder = other
  · simp [same]
  · simp [same, Ne.symm same]

theorem heldTotal_erase (held : Delegations) (holder : Address) :
    heldTotal (held.erase holder) + heldBy held holder = heldTotal held := by
  unfold heldTotal heldBy
  cases found : held.find? holder with
  | none => rw [KeyedMap.erase_of_absent found, Nat.add_zero]
  | some => exact KeyedMap.total_erase _ found

theorem heldTotal_insert (held : Delegations) (holder : Address) (raw : Bytes) :
    heldTotal (held.insert (holder, raw)) + heldBy held holder = heldTotal held + parseBigInt raw := by
  have inserted : heldTotal (held.insert (holder, raw)) =
      heldTotal (held.erase holder) + parseBigInt raw :=
    KeyedMap.total_insert (fun entry : Address × Bytes => parseBigInt entry.2)
  have erased := heldTotal_erase held holder
  omega

theorem validateAccount_credited (acc : Account) (amt : Int) :
    validateAccount (acc.credited amt) = validateAccount acc :=
  validateAccount_congr rfl rfl rfl

end Thrylos
