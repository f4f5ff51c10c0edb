import Thrylos.BlockAdditionLemmas
import Thrylos.BlockValidation

/-!
What a block that passed the checks is known to be.
-/

namespace Thrylos

open Chain (check onState)

variable {ρ : Type} {chain after : Chain ρ} {blk : Block}

namespace Chain

theorem check_ok_iff {context : String} {outcome : Except String Unit} {value : Unit} :
    check context outcome chain = .ok value after ↔ outcome = .ok () ∧ chain = after := by
  cases outcome with
  | ok =>
    constructor
    · rintro ⟨⟩
      exact ⟨rfl, rfl⟩
    · rintro ⟨_, rfl⟩
      rfl
  | error =>
    constructor
    · rintro ⟨⟩
    · rintro ⟨⟨⟩, _⟩

theorem onState_ok_iff {α : Type} {prog : WorldM α} {value : α} :
    onState prog chain = .ok value after ↔
      ∃ ws, prog chain.world = .ok value ws ∧ { chain with world := ws } = after := by
  unfold onState
  cases prog chain.world <;> simp

end Chain

open Chain (check_ok_iff onState_ok_iff)

namespace BlockValidator

variable {cfg : ChainConfig ρ} {value : Unit} {readings : Readings} {isSyncing : Bool}
   {checked : Block}

theorem validateBlockHash_ok_iff : validateBlockHash cfg blk chain = .ok value after ↔
      calculateBlockHash cfg.toNodeConfig blk = .ok blk.hash ∧ chain = after := by
  unfold validateBlockHash
  cases hashed : calculateBlockHash cfg.toNodeConfig blk with
  | error =>
    constructor
    · rintro ⟨⟩
    · rintro ⟨⟨⟩, _⟩
  | ok expectedHash =>
    rw [check_ok_iff]
    by_cases same : blk.hash = expectedHash
    · simp [same]
    · simp [same, Ne.symm same]

structure HeaderValid (cfg : ChainConfig ρ) (readings : Readings) (ws : WorldState)
    (blk : Block) : Prop where
  structure_ : validateBlockStructure cfg readings.drift ws blk = .ok ()
  hash : calculateBlockHash cfg.toNodeConfig blk = .ok blk.hash
  signature : validateBlockSignature cfg readings.jail ws blk = .ok ()
  slotTime : 0 < blk.header.index → validateSlotTime cfg readings.slot ws blk = .ok ()
  vrfProof : 0 < blk.header.index → validateVRFProof cfg ws blk = .ok ()

theorem validateHeader_ok_iff : validateHeader cfg readings blk chain = .ok value after ↔
      HeaderValid cfg readings chain.world blk ∧ chain = after := by
  unfold validateHeader
  rw [bind_ok get_ok]
  by_cases positive : 0 < blk.header.index
  · simp only [positive, if_true, bind_ok_iff, check_ok_iff, validateBlockHash_ok_iff]
    constructor
    · rintro ⟨_, _, ⟨shaped, rfl⟩, _, _, ⟨hashed, rfl⟩, _, _, ⟨signed, rfl⟩, _, _, ⟨timed, rfl⟩,
        proved, rfl⟩
      exact ⟨⟨shaped, hashed, signed, fun _ => timed, fun _ => proved⟩, rfl⟩
    · rintro ⟨valid, rfl⟩
      exact ⟨(), chain, ⟨valid.structure_, rfl⟩, (), chain, ⟨valid.hash, rfl⟩, (), chain,
        ⟨valid.signature, rfl⟩, (), chain, ⟨valid.slotTime positive, rfl⟩, valid.vrfProof positive, rfl⟩
  · simp only [positive, if_false, bind_ok_iff, check_ok_iff, validateBlockHash_ok_iff]
    constructor
    · rintro ⟨_, _, ⟨shaped, rfl⟩, _, _, ⟨hashed, rfl⟩, _, _, ⟨signed, rfl⟩, ⟨⟩⟩
      exact ⟨⟨shaped, hashed, signed, fun above => absurd above positive,
        fun above => absurd above positive⟩, rfl⟩
    · rintro ⟨valid, rfl⟩
      exact ⟨(), chain, ⟨valid.structure_, rfl⟩, (), chain, ⟨valid.hash, rfl⟩, (), chain,
        ⟨valid.signature, rfl⟩, rfl⟩

theorem validateStateRoot_ok_iff : validateStateRoot cfg blk chain = .ok value after ↔
      ∃ ws, simulateStateRoot cfg.toNodeConfig blk chain.world =
        .ok blk.header.stateRoot ws ∧ { chain with world := ws } = after := by
  unfold validateStateRoot
  simp only [bind_ok_iff, adaptExcept_ok_iff, onState_ok_iff, check_ok_iff]
  constructor
  · rintro ⟨_, _, ⟨ws, simulated, rfl⟩, agrees, rfl⟩
    split at agrees
    · cases agrees
    · rename_i same
      rw [not_not.mp same]
      exact ⟨ws, simulated, rfl⟩
  · rintro ⟨ws, simulated, rfl⟩
    exact ⟨_, _, ⟨ws, simulated, rfl⟩, if_neg (not_not.mpr rfl), rfl⟩

structure Validated (cfg : ChainConfig ρ) (readings : Readings) (isSyncing : Bool)
    (blk checked : Block) (chain middle after : Chain ρ) : Prop where
  header : HeaderValid cfg readings chain.world blk
  same : checked = { blk with transactions := checked.transactions }
  transactions : validateBlockTransactions cfg 0 blk.transactions chain =
    .ok checked.transactions middle
  gasUsage : validateGasUsage cfg checked = .ok ()
  proposer : validateProposer readings.proposer middle.world checked = .ok ()
  stateRoot : if ¬ isSyncing ∧ 0 < blk.header.index then
      validateStateRoot cfg checked middle = .ok () after
    else middle = after

def Accepts (cfg : ChainConfig ρ) (readings : Readings) (isSyncing : Bool) (blk : Block)
    (chain : Chain ρ) : Prop :=
  ∃ checked after, validateBlock cfg readings isSyncing blk chain = .ok checked after

theorem validateBlock_ok (ran : validateBlock cfg readings isSyncing blk chain = .ok checked after) :
    ∃ middle, Validated cfg readings isSyncing blk checked chain middle after := by
  unfold validateBlock at ran
  simp only [bind_ok_iff, adaptExcept_ok_iff, validateHeader_ok_iff, check_ok_iff]
    at ran
  obtain ⟨_, _, ⟨header, rfl⟩, _, middle, validated, _, _, ⟨gas, rfl⟩, _, _, reached,
    _, _, ⟨proposer, rfl⟩, rest⟩ := ran
  cases reached
  by_cases compared : ¬ isSyncing ∧ 0 < blk.header.index
  · rw [if_pos compared] at rest
    obtain ⟨_, _, rooted, finished⟩ := bind_ok_iff.mp rest
    cases finished
    exact ⟨middle, header, rfl, validated, gas, proposer, by rw [if_pos compared]; exact rooted⟩
  · rw [if_neg compared] at rest
    cases rest
    exact ⟨after, header, rfl, validated, gas, proposer, by rw [if_neg compared]⟩

theorem Validated.accepts {middle : Chain ρ}
    (valid : Validated cfg readings isSyncing blk checked chain middle after) :
    Accepts cfg readings isSyncing blk chain := by
  refine ⟨checked, after, ?_⟩
  unfold validateBlock
  simp only [bind_ok_iff, adaptExcept_ok_iff, validateHeader_ok_iff, check_ok_iff]
  have same := valid.same
  have gas := valid.gasUsage
  have proposer := valid.proposer
  rw [same] at gas proposer
  refine ⟨(), chain, ⟨valid.header, rfl⟩, checked.transactions, middle, valid.transactions, (), middle,
    ⟨gas, rfl⟩, middle, middle, rfl, (), middle, ⟨proposer, rfl⟩, ?_⟩
  have rooted := valid.stateRoot
  by_cases compared : ¬ isSyncing ∧ 0 < blk.header.index
  · rw [if_pos compared] at rooted
    rw [same] at rooted
    rw [if_pos compared, bind_ok rooted, same]
    rfl
  · rw [if_neg compared] at rooted
    rw [if_neg compared, same, rooted]
    rfl

end BlockValidator

end Thrylos
