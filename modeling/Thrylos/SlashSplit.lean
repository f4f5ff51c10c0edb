import Thrylos.AccountChanges
import Thrylos.ValidatorManager

/-!
The split of a slash between a validator and its delegators. The slash that remains never exceeds
the stake that remains, so no share is cut and nothing is left.
-/

namespace Thrylos

open ValidatorManager

theorem proportion_bounds {slash stake amt : Int} (positive : 0 < stake) (nonnegative : 0 ≤ amt)
    (within : amt ≤ stake) (some : 0 ≤ slash) (covered : slash ≤ stake) :
    0 ≤ slash * amt / stake ∧ slash * amt / stake ≤ amt ∧
      slash * amt / stake ≤ slash ∧ slash - slash * amt / stake ≤ stake - amt := by
  have quotient := Int.mul_ediv_add_emod (slash * amt) stake
  have remainder := Int.emod_nonneg (slash * amt) positive.ne'
  have bounded := Int.emod_lt_of_pos (slash * amt) positive
  refine ⟨?_, ?_, ?_, ?_⟩ <;> nlinarith

theorem shareSlash_bounds {last : Bool} {slash stake amt : Int} (positive : 0 < amt)
    (within : amt ≤ stake) (nonnegative : 0 ≤ slash) (covered : slash ≤ stake)
    (final : last = true → stake = amt) :
    0 ≤ shareSlash last slash stake amt ∧ shareSlash last slash stake amt ≤ amt ∧
      shareSlash last slash stake amt ≤ slash ∧
      slash - shareSlash last slash stake amt ≤ stake - amt := by
  unfold shareSlash
  split_ifs with none whole
  · omega
  · have all : stake = amt := whole.elim final id
    omega
  · have bounds := proportion_bounds (by omega) positive.le within nonnegative covered
    rwa [min_eq_left bounds.2.1]

def shortened (delegators : Delegations) (addr : Address) (newAmount : Int) : Delegations :=
  if newAmount ≤ 0 then delegators.erase addr
  else delegators.insert (addr, BigEndian.encode newAmount.toNat)

theorem heldBy_shortened (delegators : Delegations) (addr : Address) {newAmount : Int}
    (nonnegative : 0 ≤ newAmount)
    (bounded : newAmount < uint256Bound) (other : Address) :
    (heldBy (shortened delegators addr newAmount) other : Int) =
      if addr = other then newAmount else heldBy delegators other := by
  unfold shortened
  split_ifs with gone same same
  · rw [heldBy_erase, if_pos same]
    omega
  · rw [heldBy_erase, if_neg same]
  · rw [heldBy_insert, if_pos same, parseBigInt_encode (by omega)]
    omega
  · rw [heldBy_insert, if_neg same]

theorem heldTotal_shortened (delegators : Delegations) (addr : Address) {newAmount : Int}
    (nonnegative : 0 ≤ newAmount)
    (bounded : newAmount < uint256Bound) :
    (heldTotal (shortened delegators addr newAmount) : Int) + heldBy delegators addr =
      heldTotal delegators + newAmount := by
  unfold shortened
  split_ifs with gone
  · have erased := heldTotal_erase delegators addr
    omega
  · have inserted := heldTotal_insert delegators addr (BigEndian.encode newAmount.toNat)
    rw [parseBigInt_encode (by omega)] at inserted
    omega

structure Split (slash : Int) (before : Delegations) (after : Apportioned) : Prop where
  returns : after.panics = false
  total : (heldTotal after.delegators : Int) + slash = heldTotal before
  taken : ∀ addr, heldBy after.delegators addr ≤ heldBy before addr

theorem Split.step {slash share : Int} {before middle : Delegations} {after : Apportioned}
    (later : Split (slash - share) middle after)
    (total : (heldTotal middle : Int) + share = heldTotal before)
    (taken : ∀ addr, heldBy middle addr ≤ heldBy before addr) : Split slash before after where
  returns := later.returns
  total := by
    have rest := later.total
    omega
  taken := fun addr => (later.taken addr).trans (taken addr)

theorem apportion_split {valAddr : Address} {entries : List (Address × Bytes)} {slash stake : Int}
    {delegators : Delegations} {queue : PendingUnbondings} (distinct : (entries.map Prod.fst).Nodup)
    (listed : ∀ entry ∈ entries, heldBy delegators entry.1 = parseBigInt entry.2)
    (positive : ∀ entry ∈ entries, 0 < parseBigInt entry.2)
    (whole : ((entries.map fun entry => parseBigInt entry.2).sum : Int) = stake)
    (nonnegative : 0 ≤ slash) (covered : slash ≤ stake) :
    Split slash delegators (apportion valAddr entries slash stake delegators queue) := by
  induction entries generalizing slash stake delegators queue with
  | nil =>
    simp only [List.map_nil, List.sum_nil, Nat.cast_zero] at whole
    exact ⟨rfl, by simp only [apportion]; omega, fun _ => le_rfl⟩
  | cons entry rest ih =>
    obtain ⟨addr, raw⟩ := entry
    have held := listed _ List.mem_cons_self
    have some := positive _ List.mem_cons_self
    have small := parseBigInt_lt raw
    simp only [List.map_cons, List.sum_cons, Nat.cast_add] at whole held some
    have final : rest.isEmpty = true → stake = parseBigInt raw := by
      intro last
      rw [List.isEmpty_iff.mp last] at whole
      simpa using whole.symm
    have bounds := shareSlash_bounds (show 0 < (parseBigInt raw : Int) by omega)
      (show _ ≤ stake by omega) nonnegative covered final
    rw [apportion, if_neg (by omega), if_neg (by omega)]
    generalize shareSlash rest.isEmpty slash stake (parseBigInt raw) = share at bounds ⊢
    have rest_ : 0 ≤ parseBigInt raw - share := by omega
    have fits : parseBigInt raw - share < uint256Bound := by omega
    have now := heldBy_shortened delegators addr rest_ fits
    have total := heldTotal_shortened delegators addr rest_ fits
    obtain ⟨apart, distinct⟩ := List.nodup_cons.mp distinct
    have listed' : ∀ entry ∈ rest, heldBy (shortened delegators addr (parseBigInt raw - share))
        entry.1 = parseBigInt entry.2 := by
      intro entry mem
      have ne : addr ≠ entry.1 := fun same =>
        apart (List.mem_map.mpr ⟨entry, mem, same.symm⟩)
      have kept := now entry.1
      rw [if_neg ne, listed entry (List.mem_cons_of_mem _ mem)] at kept
      omega
    have later : Split (slash - share) (shortened delegators addr (parseBigInt raw - share))
        (apportion valAddr rest (slash - share) (stake - parseBigInt raw)
          (shortened delegators addr (parseBigInt raw - share))
          (applySlashToPendingUnbondings queue addr valAddr (parseBigInt raw) share)) :=
      ih distinct listed' (fun entry mem => positive entry (List.mem_cons_of_mem _ mem))
        (by omega) (by omega) (by omega)
    refine later.step (by omega) fun other => ?_
    have changed := now other
    split_ifs at changed with same
    · subst same
      omega
    · omega

/-- The slash is taken in full, nothing becomes negative, and the delegators have the delegated
stake that is left. -/
theorem slash_split_is_exact (val : Validator) (queue : PendingUnbondings) (slash : Nat)
    (stake : parseBigInt val.selfStake + parseBigInt val.delegatedStake = parseBigInt val.stake)
    (delegated : heldTotal val.delegators = parseBigInt val.delegatedStake)
    (positive : ∀ entry ∈ val.delegators.entries, 0 < parseBigInt entry.2)
    (some : 0 < slash) (atMost : slash ≤ parseBigInt val.stake) :
    ∃ slashed queue', applySlashToDelegatedStake val queue slash = (slashed, queue', false) ∧
      parseBigInt slashed.selfStake + parseBigInt slashed.delegatedStake + slash =
        parseBigInt val.selfStake + parseBigInt val.delegatedStake ∧
      parseBigInt slashed.selfStake ≤ parseBigInt val.selfStake ∧
      parseBigInt slashed.delegatedStake ≤ parseBigInt val.delegatedStake ∧
      heldTotal slashed.delegators = parseBigInt slashed.delegatedStake ∧
      ∀ addr, heldBy slashed.delegators addr ≤ heldBy val.delegators addr := by
  have selfSmall := parseBigInt_lt val.selfStake
  have delegatedSmall := parseBigInt_lt val.delegatedStake
  have bounds := proportion_bounds (show 0 < (parseBigInt val.stake : Int) by omega)
    (show 0 ≤ (parseBigInt val.delegatedStake : Int) by omega) (by omega)
    (show 0 ≤ (slash : Int) by omega) (by omega)
  unfold applySlashToDelegatedStake
  rw [if_neg (by omega)]
  dsimp only
  rw [min_eq_left bounds.2.1]
  generalize (slash : Int) * parseBigInt val.delegatedStake /
    parseBigInt val.stake = share at bounds ⊢
  have rest : min (slash - share) (parseBigInt val.selfStake : Int) = slash - share := by omega
  rw [rest]
  have selfLeft : (parseBigInt (BigEndian.encode
      (parseBigInt val.selfStake - (slash - share)).toNat) : Int) =
        parseBigInt val.selfStake - (slash - share) := by
    rw [parseBigInt_encode (by omega)]
    omega
  have delegatedLeft : (parseBigInt (BigEndian.encode
      (parseBigInt val.delegatedStake - share).toNat) : Int) =
        parseBigInt val.delegatedStake - share := by
    rw [parseBigInt_encode (by omega)]
    omega
  split_ifs with none
  · refine ⟨_, _, rfl, ?_, ?_, ?_, ?_, fun _ => le_rfl⟩ <;> dsimp only <;> omega
  · have listed : ∀ entry ∈ val.delegators.entries,
        heldBy val.delegators entry.1 = parseBigInt entry.2 := by
      intro entry mem
      rw [heldBy, (KeyedMap.mem_entries_iff _ _).mp mem]
    have whole : ((val.delegators.entries.map fun entry => parseBigInt entry.2).sum : Int) =
        parseBigInt val.delegatedStake := congrArg Nat.cast delegated
    have split : Split share val.delegators (apportion val.address
        val.delegators.entries share (parseBigInt val.delegatedStake)
        val.delegators queue) :=
      apportion_split val.delegators.keys_nodup listed positive whole bounds.1 bounds.2.1
    have total := split.total
    refine ⟨_, _, by rw [split.returns], ?_, ?_, ?_, ?_, split.taken⟩ <;> dsimp only <;> omega

def sharedValidator : Validator where
  address := sampleAddress 97
  pubkey := []
  stake := [12]
  selfStake := [5]
  delegatedStake := [7]
  delegators := KeyedMap.ofList [(sampleAddress 98, [3]), (sampleAddress 99, [4])]
  active := true
  jailUntil := 0

theorem a_shared_validator_is_slashed_exactly :
    ∃ slashed queue', applySlashToDelegatedStake sharedValidator KeyedMap.empty (5 : Nat) =
        (slashed, queue', false) ∧
      parseBigInt slashed.selfStake + parseBigInt slashed.delegatedStake + 5 =
        parseBigInt sharedValidator.selfStake + parseBigInt sharedValidator.delegatedStake ∧
      parseBigInt slashed.selfStake ≤ parseBigInt sharedValidator.selfStake ∧
      parseBigInt slashed.delegatedStake ≤ parseBigInt sharedValidator.delegatedStake ∧
      heldTotal slashed.delegators = parseBigInt slashed.delegatedStake ∧
      ∀ addr, heldBy slashed.delegators addr ≤ heldBy sharedValidator.delegators addr :=
  slash_split_is_exact sharedValidator KeyedMap.empty 5 (by decide +kernel) (by decide +kernel)
    (by decide +kernel) (by decide) (by decide +kernel)

end Thrylos
