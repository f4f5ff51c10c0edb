import Mathlib.Algebra.Order.Ring.Abs
import Thrylos.DigestLayouts
import Thrylos.ForgedTransactions

/-!
What the hash of a block says of its transactions. It is the hash of the header, and the header's
two roots, `TxRoot` and `MerkleRoot`, are compared with nothing; its gas is, so an empty block stays
empty.
-/

namespace Thrylos

def exactGas (txs : List Transaction) : Int := (txs.map (·.gas.toInt)).sum

theorem foldl_gas (txs : List Transaction) (start : Int64) :
    txs.foldl (fun total tx => total + tx.gas) start = start + Int64.ofInt (exactGas txs) := by
  induction txs generalizing start with
  | nil => simp [exactGas]
  | cons tx rest ih =>
    have split : exactGas (tx :: rest) = tx.gas.toInt + exactGas rest := List.sum_cons
    rw [List.foldl_cons, ih, split, Int64.ofInt_add, Int64.ofInt_toInt, Int64.add_assoc]

theorem sumGas_exact {txs : List Transaction} (low : -2 ^ 63 ≤ exactGas txs)
    (high : exactGas txs < 2 ^ 63) : (sumGas txs).toInt = exactGas txs := by
  rw [sumGas, foldl_gas, Int64.zero_add, Int64.toInt_ofInt_of_le low high]

theorem exactGas_bounds {low high : Int} {txs : List Transaction}
    (each : ∀ tx ∈ txs, low ≤ tx.gas.toInt ∧ tx.gas.toInt ≤ high) :
    txs.length * low ≤ exactGas txs ∧ exactGas txs ≤ txs.length * high := by
  induction txs with
  | nil => simp [exactGas]
  | cons tx rest ih =>
    obtain ⟨least, most⟩ := each tx List.mem_cons_self
    obtain ⟨leastRest, mostRest⟩ := ih fun other mem => each other (List.mem_cons_of_mem _ mem)
    have split : exactGas (tx :: rest) = tx.gas.toInt + exactGas rest := List.sum_cons
    rw [split, List.length_cons, Nat.cast_succ, add_one_mul, add_one_mul]
    omega

theorem Sound.gas {cfg : ValidatorConfig} {times : ValidationTimes} {ws : WorldState}
    {tx : Transaction} (sound : Sound cfg times ws tx) :
    cfg.minGasLimit ≤ tx.gas ∧ tx.gas ≤ cfg.maxGasPerTx := by
  have form := sound.form
  simp only [TransactionValidator.validateForm, Except.bind_ok_iff, Except.mapError_ok_iff] at form
  obtain ⟨_, -, _, structured, -⟩ := form
  unfold TransactionValidator.validateStructure at structured
  split at structured
  · cases structured
  split at structured
  · cases structured
  split at structured
  · cases structured
  simp only [Except.bind_ok_iff, Except.mapError_ok_iff] at structured
  obtain ⟨_, -, _, -, _, -, _, gas, -⟩ := structured
  unfold TransactionValidator.validateGas at gas
  split_ifs at gas with few many
  exact ⟨Int64.not_lt.mp few, Int64.not_lt.mp many⟩

namespace BlockValidator

variable {ρ : Type}

structure ListFits (cfg : ChainConfig ρ) (isSyncing : Bool) (header : BlockHeader)
    (chain : Chain ρ) (txs : List Transaction) : Prop where
  count : txs.length ≤ cfg.maxTxPerBlock
  passed : ∃ checked middle, validateBlockTransactions cfg 0 txs chain = .ok checked middle ∧
    header.gasUsed = sumGas checked ∧ sumGas checked ≤ cfg.maxBlockSize ∧
    (isSyncing = false → 0 < header.index → ∃ ws,
      simulateStateRoot cfg.toNodeConfig ⟨header, checked, [], []⟩ middle.world =
        .ok header.stateRoot ws)

section

variable {cfg : ChainConfig ρ} {readings : Readings} {isSyncing : Bool} {chain : Chain ρ}
  {blk : Block}

theorem validateGasUsage_ok_iff : validateGasUsage cfg blk = .ok () ↔
    blk.header.gasUsed = sumGas blk.transactions ∧ sumGas blk.transactions ≤ cfg.maxBlockSize := by
  unfold validateGasUsage
  by_cases same : blk.header.gasUsed = sumGas blk.transactions
  · by_cases beyond : cfg.maxBlockSize < sumGas blk.transactions
    · simp [same, beyond]
    · simp [same, beyond, Int64.not_lt.mp beyond]
  · simp [same]

end

section

variable {cfg : ChainConfig ρ} {readings : Readings} {isSyncing : Bool} {chain : Chain ρ}
  {blk : Block}

end

section

variable {cfg : ValidatingConfig} {chain middle : Chain ValidatorMemory}
  {txs checked : List Transaction} {position : Nat}

theorem validateBlockTransactions_gas
    (ran : validateBlockTransactions cfg.chain position txs chain = .ok checked middle) :
    ∀ tx ∈ checked, cfg.minGasLimit.toInt ≤ tx.gas.toInt ∧ tx.gas.toInt ≤ cfg.maxGasPerTx.toInt := by
  induction txs generalizing position chain checked with
  | nil =>
    cases ran
    exact fun _ none => absurd none List.not_mem_nil
  | cons first _ ih =>
    simp only [validateBlockTransactions, bind_ok_iff, adaptExcept_ok_iff] at ran
    obtain ⟨_, _, validated, _, _, remaining, finished⟩ := ran
    cases finished
    intro tx mem
    rcases List.mem_cons.mp mem with rfl | mem
    · obtain ⟨least, most⟩ := (passes_iff.mp ⟨_, _, validated⟩).1.gas
      rw [validateTransaction_canonical validated]
      exact ⟨Int64.le_iff_toInt_le.mp least, Int64.le_iff_toInt_le.mp most⟩
    · exact ih remaining tx mem

/-- A list that uses no gas is empty, as long as the sum of the gas cannot wrap around. -/
theorem ListFits.empty {isSyncing : Bool} {header : BlockHeader}
    (fits : ListFits cfg.chain isSyncing header chain txs) (unused : header.gasUsed = 0)
    (charged : 0 < cfg.minGasLimit)
    (bounded : cfg.maxTxPerBlock * cfg.maxGasPerTx.toInt < 2 ^ 63) : txs = [] := by
  obtain ⟨count, checked, middle, ran, declared, -⟩ := fits
  obtain ⟨least, most⟩ := exactGas_bounds (validateBlockTransactions_gas ran)
  have length : checked.length = txs.length := by
    rw [validateBlockTransactions_canonical ran, List.length_map]
  rw [length] at least most
  have positive : 0 < cfg.minGasLimit.toInt := Int64.lt_iff_toInt_lt.mp charged
  by_contra filled
  have some_ : 0 < (txs.length : Int) := by exact_mod_cast List.length_pos_iff.mpr filled
  have above : 0 < txs.length * cfg.minGasLimit.toInt := Int.mul_pos some_ positive
  have most_ : 0 < cfg.maxGasPerTx.toInt := by
    refine lt_of_mul_lt_mul_left ?_ some_.le
    rw [mul_zero]
    omega
  have roof : (txs.length : Int) * cfg.maxGasPerTx.toInt < 2 ^ 63 :=
    lt_of_le_of_lt (mul_le_mul_of_nonneg_right count most_.le) bounded
  have summed := sumGas_exact (by omega) (lt_of_le_of_lt most roof)
  rw [← declared, unused, Int64.toInt_zero] at summed
  omega

variable {readings : Readings} {isSyncing : Bool} {blk : Block}

end

end BlockValidator

end Thrylos
