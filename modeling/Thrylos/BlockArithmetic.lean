import Thrylos.BlockBinding

/-!
The checks of a block that add and multiply in 64 bits: the gas its transactions use and the time of
its slot. They hold in exact integers as long as nothing wraps around.
-/

namespace Thrylos

section Gas

variable {ρ : Type} {cfg : ChainConfig ρ} {blk : Block}

theorem Blockchain.validateBlockStructure_gas {now : Int}
    (ok : Blockchain.validateBlockStructure cfg now blk = .ok ()) :
    blk.header.gasUsed = sumGas blk.transactions ∧ sumGas blk.transactions ≤ cfg.maxBlockSize := by
  unfold Blockchain.validateBlockStructure at ok
  dsimp only at ok
  generalize (if 0 < cfg.maxFutureBlockTime then _ else _) = maxDrift at ok
  split_ifs at ok with _ _ _ _ declared beyond
  exact ⟨(not_not.mp declared).symm, Int64.not_lt.mp beyond⟩

end Gas

/-- Either check holds the exact gas to the header and the limit exactly if the gas is an
`int64`. -/
theorem block_gas_exact_iff {ρ : Type} (cfg : ChainConfig ρ) (now : Int) (blk : Block)
    (ok : Blockchain.validateBlockStructure cfg now blk = .ok () ∨
      BlockValidator.validateGasUsage cfg blk = .ok ()) :
    (exactGas blk.transactions = blk.header.gasUsed.toInt ∧
      exactGas blk.transactions ≤ cfg.maxBlockSize.toInt) ↔
      -2 ^ 63 ≤ exactGas blk.transactions ∧ exactGas blk.transactions < 2 ^ 63 := by
  obtain ⟨declared, limited⟩ := ok.elim Blockchain.validateBlockStructure_gas
    BlockValidator.validateGasUsage_ok_iff.mp
  constructor
  · rintro ⟨same, _⟩
    rw [same]
    exact ⟨Int64.le_toInt _, Int64.toInt_lt _⟩
  · rintro ⟨low, high⟩
    have summed := sumGas_exact low high
    rw [Int64.le_iff_toInt_le, summed] at limited
    exact ⟨summed.symm.trans (congrArg Int64.toInt declared.symm), limited⟩

def sampleGas (gases : List Int64) (gasUsed : Int64) : Block :=
  let blk := sampleBlock 1 [7] [8] (gases.map fun gas =>
    { sampleTransaction .transfer [1] 0 with gas := gas })
  { blk with header := { blk.header with gasUsed := gasUsed } }

theorem a_block_of_two_gases_is_exact : (exactGas (sampleGas [40, 2] 42).transactions = 42 ∧
      exactGas (sampleGas [40, 2] 42).transactions ≤ sampleAdmission.maxBlockSize.toInt) ↔
      -2 ^ 63 ≤ exactGas (sampleGas [40, 2] 42).transactions ∧
        exactGas (sampleGas [40, 2] 42).transactions < 2 ^ 63 :=
  block_gas_exact_iff sampleAdmission 0 (sampleGas [40, 2] 42) (.inr rfl)

/-- Two gases of `2 ^ 63 - 1` and one of 44 add up to 42. -/
theorem gas_wraps_below_the_limit :
    let blk := sampleGas [9223372036854775807, 9223372036854775807, 44] 42
    Blockchain.validateBlockStructure sampleAdmission 0 blk = .ok () ∧
      BlockValidator.validateGasUsage sampleAdmission blk = .ok () ∧
      sampleAdmission.maxBlockSize.toInt < exactGas blk.transactions := by
  decide +kernel

namespace TimestampValidator

variable {val : TimestampValidator} {now : Int} {slot : UInt64} {timestamp : Int64}
  {parentTimestamp parentIndex : Int64}

def offset (val : TimestampValidator) (slot : UInt64) (timestamp : Int64) : Int :=
  timestamp.toInt - (val.genesisTimestamp.toInt + slot.toNat * val.slotDurationSeconds.toInt)

theorem difference_eq : timestamp - val.calculateSlotTimestamp slot =
    Int64.ofInt (val.offset slot timestamp) := by
  have slots : slot.toInt64 = Int64.ofInt slot.toNat := by
    rw [Int64.ofInt_eq_ofNat, ← UInt64.toInt64_ofNat', UInt64.ofNat_toNat]
  rw [offset, Int64.ofInt_sub, Int64.ofInt_add, Int64.ofInt_mul, ← slots, Int64.ofInt_toInt,
    Int64.ofInt_toInt, Int64.ofInt_toInt, calculateSlotTimestamp]

theorem abs64_exact {value : Int} (low : -2 ^ 63 < value) (high : value < 2 ^ 63) :
    (abs64 (Int64.ofInt value)).toInt = |value| := by
  have whole : (Int64.ofInt value).toInt = value := Int64.toInt_ofInt_of_le low.le high
  unfold abs64
  split
  · rename_i negative
    rw [Int64.lt_iff_toInt_lt, whole] at negative
    rw [← Int64.ofInt_neg, Int64.toInt_ofInt_of_le (by omega) (by omega), abs_of_neg negative]
  · rename_i positive
    rw [Int64.not_lt, Int64.le_iff_toInt_le, whole] at positive
    rw [whole, abs_of_nonneg positive]

theorem offset_le_iff
    (ok : val.validateBlockTimestamp now timestamp slot parentTimestamp parentIndex = .ok ()) :
    |val.offset slot timestamp| ≤ val.maxDriftSeconds.toInt ↔ |val.offset slot timestamp| < 2 ^ 63 := by
  have drift := val.maxDriftSeconds.toInt_lt
  refine ⟨fun near => near.trans_lt drift, fun near => ?_⟩
  obtain ⟨low, high⟩ := abs_lt.mp near
  unfold validateBlockTimestamp at ok
  dsimp only at ok
  split_ifs at ok with _ _ drifted
  rw [Int64.not_lt, Int64.le_iff_toInt_le, difference_eq, abs64_exact low high] at drifted
  exact drifted

theorem apart_of_offsets {drift : Int} {other : UInt64} {otherTimestamp : Int64}
    (near : |val.offset slot timestamp| ≤ drift) (also : |val.offset other otherTimestamp| ≤ drift) :
    |(slot.toNat : Int) - other.toNat| * val.slotDurationSeconds.toInt - 2 * drift ≤
      |timestamp.toInt - otherTimestamp.toInt| := by
  have slots : |(slot.toNat : Int) - other.toNat| * val.slotDurationSeconds.toInt ≤
      |((slot.toNat : Int) - other.toNat) * val.slotDurationSeconds.toInt| := by
    rw [abs_mul]
    exact mul_le_mul_of_nonneg_left (le_abs_self _) (abs_nonneg _)
  have spread : ((slot.toNat : Int) - other.toNat) * val.slotDurationSeconds.toInt =
      timestamp.toInt - otherTimestamp.toInt -
        (val.offset slot timestamp - val.offset other otherTimestamp) := by
    unfold offset
    ring
  rw [spread] at slots
  have outer := abs_sub (timestamp.toInt - otherTimestamp.toInt)
    (val.offset slot timestamp - val.offset other otherTimestamp)
  have inner := abs_sub (val.offset slot timestamp) (val.offset other otherTimestamp)
  omega

end TimestampValidator

/-- Two accepted timestamps are within the drift of their slots, and so as far apart as the slots
are, exactly if both offsets are less than `2 ^ 63`. -/
theorem slot_times_exact_iff (val : TimestampValidator) (now later : Int) (timestamp other : Int64)
    (slot otherSlot : UInt64) (parentTimestamp parentIndex otherParent otherIndex : Int64)
    (ok : val.validateBlockTimestamp now timestamp slot parentTimestamp parentIndex = .ok ())
    (otherOk : val.validateBlockTimestamp later other otherSlot otherParent otherIndex = .ok ()) :
    (|val.offset slot timestamp| ≤ val.maxDriftSeconds.toInt ∧
      |val.offset otherSlot other| ≤ val.maxDriftSeconds.toInt ∧
      |(slot.toNat : Int) - otherSlot.toNat| * val.slotDurationSeconds.toInt -
        2 * val.maxDriftSeconds.toInt ≤ |timestamp.toInt - other.toInt|) ↔
      |val.offset slot timestamp| < 2 ^ 63 ∧ |val.offset otherSlot other| < 2 ^ 63 := by
  have first := TimestampValidator.offset_le_iff ok
  have second := TimestampValidator.offset_le_iff otherOk
  constructor
  · rintro ⟨near, also, _⟩
    exact ⟨first.mp near, second.mp also⟩
  · rintro ⟨near, also⟩
    exact ⟨first.mpr near, second.mpr also,
      TimestampValidator.apart_of_offsets (first.mpr near) (second.mpr also)⟩

theorem two_slots_are_six_seconds_apart :
    let val : TimestampValidator := ⟨2, 6, 1000⟩
    (|val.offset 10 1060| ≤ 2 ∧ |val.offset 11 1066| ≤ 2 ∧
      |((10 : UInt64).toNat : Int) - (11 : UInt64).toNat| * 6 - 2 * 2 ≤
        |(1060 : Int64).toInt - (1066 : Int64).toInt|) ↔
      |val.offset 10 1060| < 2 ^ 63 ∧ |val.offset 11 1066| < 2 ^ 63 :=
  slot_times_exact_iff ⟨2, 6, 1000⟩ (1060 * nanosPerSecond) (1066 * nanosPerSecond) 1060 1066 10 11
    1054 9 1060 10 (by decide +kernel) (by decide +kernel)

/-- Six seconds times slot `2 ^ 63` are a multiple of `2 ^ 64`, so this slot has the time of
genesis. -/
theorem a_late_slot_has_an_early_time :
    let val : TimestampValidator := ⟨2, 6, 1000⟩
    val.validateBlockTimestamp (1000 * nanosPerSecond) 1000 9223372036854775808 999 1 = .ok () ∧
      val.maxDriftSeconds.toInt < |val.offset 9223372036854775808 1000| := by
  decide +kernel

end Thrylos
