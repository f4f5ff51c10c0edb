import Thrylos.ProposalHandling
import Thrylos.TransactionValidator

/-!
What validating a transaction does to the next validation of it. The replay detector only lets
higher nonces of a sender through, so a transaction that was validated once is refused for ever.
-/

namespace Thrylos

open EStateM (Leads)
open BlockValidator (validateTransaction validateBlockTransactions validateBlock)

namespace ReplayDetector

variable {cfg : ValidatorConfig} {times : ValidationTimes} {height : Int64}
  {det after : ReplayDetector} {tx : Transaction}

def Spent (cfg : ValidatorConfig) (det : ReplayDetector) (tx : Transaction) : Prop :=
  ∃ previous, det.accountNonces.find? (normalizeReplayAddress cfg tx.fromAddr) =
    some previous ∧ tx.nonce ≤ previous.2

theorem checkNonce_spent (spent : Spent cfg det tx) :
    ∃ err, det.checkNonce cfg (normalizeReplayAddress cfg tx.fromAddr) tx.nonce = .error err := by
  obtain ⟨_, found, below⟩ := spent
  unfold checkNonce
  rw [found]
  dsimp only
  rw [if_pos below]
  exact ⟨_, rfl⟩

theorem checkNonce_ok {sender : Address} {nonce : UInt64} {previous : Address × UInt64}
    (ok : det.checkNonce cfg sender nonce = .ok ())
    (found : det.accountNonces.find? sender = some previous) : previous.2 < nonce := by
  unfold checkNonce at ok
  rw [found] at ok
  dsimp only at ok
  split at ok
  · cases ok
  · rename_i above
    exact UInt64.not_le.mp above

theorem checkReplayV3_passes (chainID : tx.chainId = cfg.chainID)
    (hash : det.checkHash times tx.hash height = .ok ())
    (nonce : det.checkNonce cfg (normalizeReplayAddress cfg tx.fromAddr) tx.nonce = .ok ()) :
    det.checkReplayV3 cfg times tx height = .ok () (det.record cfg times
      (normalizeReplayAddress cfg tx.fromAddr) tx height) := by
  unfold checkReplayV3
  simp only [chainID, hash, nonce, ne_eq, not_true, if_false]

theorem checkReplayV3_cases (cfg : ValidatorConfig) (times : ValidationTimes) (tx : Transaction)
    (height : Int64) (det : ReplayDetector) :
    (∃ err, det.checkReplayV3 cfg times tx height = .error err det) ∨
    (tx.chainId = cfg.chainID ∧ det.checkHash times tx.hash height = .ok () ∧
      det.checkNonce cfg (normalizeReplayAddress cfg tx.fromAddr) tx.nonce = .ok () ∧
      det.checkReplayV3 cfg times tx height = .ok () (det.record cfg times
        (normalizeReplayAddress cfg tx.fromAddr) tx height)) := by
  by_cases chainID : tx.chainId = cfg.chainID
  · cases hashed : det.checkHash times tx.hash height with
    | error err =>
      refine .inl ⟨err, ?_⟩
      simp only [checkReplayV3, chainID, hashed, ne_eq, not_true, if_false]
    | ok =>
    cases nonce : det.checkNonce cfg (normalizeReplayAddress cfg tx.fromAddr) tx.nonce with
    | error err =>
      refine .inl ⟨err, ?_⟩
      simp only [checkReplayV3, chainID, hashed, nonce, ne_eq, not_true, if_false]
    | ok => exact .inr ⟨chainID, rfl, rfl, checkReplayV3_passes chainID hashed nonce⟩
  · exact .inl ⟨_, if_pos chainID⟩

theorem record_nonces (sender : Address) : (det.record cfg times sender tx height).accountNonces =
      det.accountNonces.insert (sender, tx.nonce) := rfl

theorem checkReplayV3_spends
    (ran : det.checkReplayV3 cfg times tx height = .ok () after) : Spent cfg after tx := by
  rcases checkReplayV3_cases cfg times tx height det with ⟨_, refused⟩ | ⟨_, _, _, passed⟩
  · cases refused.symm.trans ran
  · cases passed.symm.trans ran
    refine ⟨(normalizeReplayAddress cfg tx.fromAddr, tx.nonce), ?_, UInt64.le_refl _⟩
    rw [record_nonces, KeyedMap.find?_insert, if_pos rfl]

theorem record_keeps (times : ValidationTimes) (other : Transaction) (height : Int64)
    (spent : Spent cfg det tx)
    (ok : det.checkNonce cfg (normalizeReplayAddress cfg other.fromAddr) other.nonce = .ok ()) :
    Spent cfg (det.record cfg times (normalizeReplayAddress cfg other.fromAddr) other
      height) tx := by
  obtain ⟨previous, found, below⟩ := spent
  by_cases same : normalizeReplayAddress cfg other.fromAddr = normalizeReplayAddress cfg tx.fromAddr
  · rw [← same] at found
    have above := checkNonce_ok ok found
    refine ⟨(normalizeReplayAddress cfg other.fromAddr, other.nonce), ?_,
      UInt64.le_of_lt (UInt64.lt_of_le_of_lt below above)⟩
    rw [record_nonces, KeyedMap.find?_insert, if_pos same]
  · refine ⟨previous, ?_, below⟩
    rw [record_nonces, KeyedMap.find?_insert, if_neg same]
    exact found

theorem checkReplayV3_keeps (times : ValidationTimes) (other : Transaction) (height : Int64)
    (spent : Spent cfg det tx) : Spent cfg (det.checkReplayV3 cfg times other height).final tx := by
  rcases checkReplayV3_cases cfg times other height det with
    ⟨_, refused⟩ | ⟨_, _, ok, passed⟩
  · rw [refused]
    exact spent
  · rw [passed]
    exact record_keeps times other height spent ok

theorem checkReplayV3_refuses (spent : Spent cfg det tx) :
    det.checkReplayV3 cfg times tx height ≠ .ok () after := by
  intro ran
  rcases checkReplayV3_cases cfg times tx height det with ⟨_, refused⟩ | ⟨_, _, ok, _⟩
  · cases refused.symm.trans ran
  · obtain ⟨_, refused⟩ := checkNonce_spent spent
    cases refused.symm.trans ok

end ReplayDetector

theorem TransactionValidator.validateNormal_seen (cfg : ValidatorConfig)
    (times : ValidationTimes) (ws : WorldState) (det : ReplayDetector) (tx : Transaction) :
    let answer := validateNormal cfg times ws det tx
    (∃ err, answer = ⟨.error err, det, []⟩) ∨
      det.checkReplayV3 cfg times tx ws.height = .ok () answer.seen := by
  unfold validateNormal
  cases validateChainIDMatch tx.chainId cfg.chainID with
  | error => exact .inl ⟨_, rfl⟩
  | ok =>
  rcases ReplayDetector.checkReplayV3_cases cfg times tx ws.height det with
    ⟨_, refused⟩ | ⟨_, _, _, passed⟩
  · rw [refused]
    exact .inl ⟨_, rfl⟩
  · rw [passed]
    cases validateForm cfg times tx with
    | error | ok => exact .inr rfl

section

variable {cfg : ValidatingConfig} {chain after : Chain ValidatorMemory}
  {tx norm : Transaction}

def Chain.Spent (cfg : ValidatingConfig) (chain : Chain ValidatorMemory) (tx : Transaction) :
    Prop :=
  ReplayDetector.Spent cfg chain.seen.detector tx

def Chain.atCall (chain : Chain ValidatorMemory) (calls : Nat) : Chain ValidatorMemory :=
  { chain with seen := { chain.seen with calls } }

theorem validateTransaction_final (cfg : ValidatingConfig) (tx : Transaction)
    (chain : Chain ValidatorMemory) :
    (∃ err calls, validateTransaction cfg.chain tx chain = .error err (chain.atCall calls)) ∨
      (validateTransaction cfg.chain tx chain).final.Spent cfg tx := by
  unfold validateTransaction
  cases amounts : normalizeTransactionAmounts tx with
  | error => exact .inl ⟨_, chain.seen.calls, rfl⟩
  | ok =>
  obtain rfl := normalizeTransactionAmounts_ok amounts
  rcases TransactionValidator.validateNormal_seen cfg
      (cfg.times chain.seen.calls) chain.world chain.seen.detector tx.canonical with
    ⟨err, refused⟩ | recorded
  · left
    simp only [ValidatingConfig.chain, refused]
    exact ⟨_, chain.seen.calls + 1, rfl⟩
  · right
    have spent := ReplayDetector.checkReplayV3_spends recorded
    simp only [ValidatingConfig.chain]
    split <;> exact spent

theorem validateTransaction_keeps (cfg : ValidatingConfig) (tx other : Transaction) :
    Leads (Chain.Spent cfg · tx) (Chain.Spent cfg · tx)
      (validateTransaction cfg.chain other) := by
  intro chain spent
  unfold validateTransaction
  cases amounts : normalizeTransactionAmounts other with
  | error => exact spent
  | ok norm =>
  have kept : ReplayDetector.Spent cfg
      (TransactionValidator.validateNormal cfg
        (cfg.times chain.seen.calls) chain.world chain.seen.detector norm).seen tx := by
    rcases TransactionValidator.validateNormal_seen cfg
        (cfg.times chain.seen.calls) chain.world chain.seen.detector norm with
      ⟨err, refused⟩ | recorded
    · rw [refused]
      exact spent
    · have final := ReplayDetector.checkReplayV3_keeps
        (cfg.times chain.seen.calls) norm chain.world.height spent
      rw [recorded] at final
      exact final
  simp only [ValidatingConfig.chain]
  split <;> exact kept

theorem validateTransaction_refuses (spent : chain.Spent cfg tx) :
    validateTransaction cfg.chain tx chain ≠ .ok norm after := by
  intro ran
  unfold validateTransaction at ran
  cases amounts : normalizeTransactionAmounts tx with
  | error =>
    rw [amounts] at ran
    cases ran
  | ok =>
  rw [amounts] at ran
  obtain rfl := normalizeTransactionAmounts_ok amounts
  rcases TransactionValidator.validateNormal_seen cfg
      (cfg.times chain.seen.calls) chain.world chain.seen.detector tx.canonical with
    ⟨err, refused⟩ | recorded
  · simp only [ValidatingConfig.chain, refused] at ran
    cases ran
  · have canonical : ReplayDetector.Spent cfg chain.seen.detector tx.canonical := spent
    exact ReplayDetector.checkReplayV3_refuses canonical recorded

theorem validateTransaction_spends
    (ran : validateTransaction cfg.chain tx chain = .ok norm after) : after.Spent cfg tx := by
  rcases validateTransaction_final cfg tx chain with ⟨_, _, refused⟩ | spent
  · cases refused.symm.trans ran
  · rw [ran] at spent
    exact spent

theorem validateTransaction_canonical
    (ran : validateTransaction cfg.chain tx chain = .ok norm after) : norm = tx.canonical := by
  unfold validateTransaction at ran
  split at ran
  · cases ran
  rename_i amounts
  dsimp only at ran
  split at ran
  · cases ran
  · cases ran
    exact normalizeTransactionAmounts_ok amounts

theorem validateBlockTransactions_keeps (position : Nat) (txs : List Transaction) :
    Leads (Chain.Spent cfg · tx) (Chain.Spent cfg · tx)
      (validateBlockTransactions cfg.chain position txs) := by
  induction txs generalizing position with
  | nil => exact .pure [] fun _ => id
  | cons other _ ih =>
    refine Leads.seq (.adaptExcept (validateTransaction_keeps cfg tx other) _) ?_
    intro norm
    exact .seq (ih (position + 1)) fun others => .skip _

variable {position : Nat} {txs checked : List Transaction}

theorem validateBlockTransactions_spends
    (ran : validateBlockTransactions cfg.chain position txs chain = .ok checked after)
    (listed : tx ∈ txs) : after.Spent cfg tx := by
  induction txs generalizing position chain checked with
  | nil => cases listed
  | cons _ rest ih =>
    simp only [validateBlockTransactions, bind_ok_iff, adaptExcept_ok_iff] at ran
    obtain ⟨_, middle, validated, _, _, remaining, finished⟩ := ran
    cases finished
    rcases List.mem_cons.mp listed with rfl | later
    · have kept := validateBlockTransactions_keeps (position + 1) rest middle
        (validateTransaction_spends validated)
      rw [remaining] at kept
      exact kept
    · exact ih remaining later

theorem validateBlockTransactions_refuses (spent : chain.Spent cfg tx) (listed : tx ∈ txs) :
    validateBlockTransactions cfg.chain position txs chain ≠ .ok checked after := by
  intro ran
  induction txs generalizing position chain checked with
  | nil => cases listed
  | cons first _ ih =>
    simp only [validateBlockTransactions, bind_ok_iff, adaptExcept_ok_iff] at ran
    obtain ⟨_, _, validated, _, _, remaining, finished⟩ := ran
    cases finished
    rcases List.mem_cons.mp listed with rfl | later
    · exact validateTransaction_refuses spent validated
    · have kept := validateTransaction_keeps cfg tx first chain spent
      rw [validated] at kept
      exact ih kept later remaining

theorem validateBlockTransactions_canonical
    (ran : validateBlockTransactions cfg.chain position txs chain = .ok checked after) :
    checked = txs.map Transaction.canonical := by
  induction txs generalizing position chain checked with
  | nil =>
    cases ran
    rfl
  | cons _ _ ih =>
    simp only [validateBlockTransactions, bind_ok_iff, adaptExcept_ok_iff] at ran
    obtain ⟨_, _, validated, _, _, remaining, finished⟩ := ran
    cases finished
    rw [List.map_cons, ih remaining, validateTransaction_canonical validated]

section Block

variable {readings : Readings} {isSyncing : Bool} {blk checked : Block}

theorem validateBlock_refuses (spent : chain.Spent cfg tx) (listed : tx ∈ blk.transactions) :
    validateBlock cfg.chain readings isSyncing blk chain ≠ .ok checked after := by
  intro ran
  obtain ⟨_, valid⟩ := BlockValidator.validateBlock_ok ran
  exact validateBlockTransactions_refuses spent listed valid.transactions

theorem validateBlock_spends
    (ran : validateBlock cfg.chain readings isSyncing blk chain = .ok checked after)
    (listed : tx ∈ blk.transactions) : after.Spent cfg tx := by
  obtain ⟨_, valid⟩ := BlockValidator.validateBlock_ok ran
  have spent := validateBlockTransactions_spends valid.transactions listed
  have rooted := valid.stateRoot
  split at rooted
  · obtain ⟨_, _, rfl⟩ := BlockValidator.validateStateRoot_ok_iff.mp rooted
    exact spent
  · rw [← rooted]
    exact spent

theorem validateBlock_empty (empty : blk.transactions = [])
    (ran : validateBlock cfg.chain readings isSyncing blk chain = .ok checked after) :
    checked = blk ∧ after = chain := by
  obtain ⟨_, valid⟩ := BlockValidator.validateBlock_ok ran
  have validated := valid.transactions
  rw [empty] at validated
  injection validated with none here
  subst here
  have unchanged : checked = blk := by
    rw [valid.same, ← none, ← empty]
  refine ⟨unchanged, ?_⟩
  have rooted := valid.stateRoot
  split at rooted
  · obtain ⟨_, simulated, rfl⟩ := BlockValidator.validateStateRoot_ok_iff.mp rooted
    unfold simulateStateRoot at simulated
    rw [← none] at simulated
    injection simulated with _ same
    rw [← same]
  · exact rooted.symm

end Block

section

variable (cfg : ValidatingConfig)

def ValidatingConfig.atTimes (times : Nat → ValidationTimes) : ValidatingConfig :=
  { cfg with times }

def validateEach (pool : List Transaction)
    (chain : Chain ValidatorMemory) : Chain ValidatorMemory :=
  pool.foldl (fun chain tx => (validateTransaction cfg.chain tx chain).final) chain

theorem validateEach_cons (first : Transaction) (rest : List Transaction) :
    validateEach cfg (first :: rest) chain =
      validateEach cfg rest (validateTransaction cfg.chain first chain).final := rfl

theorem validateEach_keeps (pool : List Transaction)
    (spent : chain.Spent cfg tx) : (validateEach cfg pool chain).Spent cfg tx := by
  induction pool generalizing chain with
  | nil => exact spent
  | cons first _ ih => exact ih (validateTransaction_keeps cfg tx first chain spent)

theorem validateEach_final (pool : List Transaction) (chain : Chain ValidatorMemory) :
    (∃ calls, validateEach cfg pool chain = chain.atCall calls) ∨
      ∃ tx ∈ pool, (validateEach cfg pool chain).Spent cfg tx := by
  induction pool generalizing chain with
  | nil => exact .inl ⟨chain.seen.calls, rfl⟩
  | cons first rest ih =>
    rw [validateEach_cons]
    rcases validateTransaction_final cfg first chain with ⟨_, calls, refused⟩ | spent
    · rw [refused]
      rcases ih (chain.atCall calls) with ⟨later, same⟩ | ⟨tx, listed, spent⟩
      · exact .inl ⟨later, same⟩
      · exact .inr ⟨tx, List.mem_cons_of_mem first listed, spent⟩
    · exact .inr ⟨first, List.mem_cons_self, validateEach_keeps cfg rest spent⟩

def afterPool (pool : List Transaction)
    (chain : Chain ValidatorMemory) : Chain ValidatorMemory :=
  (validateEach cfg pool chain).atCall chain.seen.calls

def Repeatable (readings : Readings) (isSyncing : Bool) (blk : Block)
    (chain : Chain ValidatorMemory) : Prop :=
  ∀ checked after, validateBlock cfg.chain readings isSyncing blk chain = .ok checked after →
    BlockValidator.Accepts cfg.chain readings isSyncing checked after

def PoolIndependent (readings : Readings) (isSyncing : Bool)
    (blk : Block) (chain : Chain ValidatorMemory) : Prop :=
  ∀ (times : Nat → ValidationTimes) (pool : List Transaction),
    (∀ tx ∈ pool, tx ∈ blk.transactions) →
    (BlockValidator.Accepts cfg.chain readings isSyncing blk (afterPool (cfg.atTimes times) pool chain) ↔
      BlockValidator.Accepts cfg.chain readings isSyncing blk chain)

end

section Block

variable {readings : Readings} {isSyncing : Bool} {blk : Block}

theorem repeatable_iff : Repeatable cfg readings isSyncing blk chain ↔
    (BlockValidator.Accepts cfg.chain readings isSyncing blk chain → blk.transactions = []) := by
  constructor
  · rintro again ⟨checked, after, ran⟩
    obtain ⟨_, _, repeated⟩ := again checked after ran
    apply List.eq_nil_iff_forall_not_mem.mpr
    intro tx listed
    obtain ⟨_, valid⟩ := BlockValidator.validateBlock_ok ran
    have norm : tx.canonical ∈ checked.transactions := by
      rw [validateBlockTransactions_canonical valid.transactions]
      exact List.mem_map_of_mem listed
    have spent : after.Spent cfg tx := validateBlock_spends ran listed
    have spentNormal : after.Spent cfg tx.canonical := spent
    exact validateBlock_refuses spentNormal norm repeated
  · intro empty checked after ran
    obtain ⟨rfl, rfl⟩ := validateBlock_empty (empty ⟨checked, after, ran⟩) ran
    exact ⟨_, _, ran⟩

theorem refused_after_pool (ok : BlockValidator.Accepts cfg.chain readings isSyncing blk chain)
    (filled : blk.transactions ≠ []) :
    ¬ BlockValidator.Accepts cfg.chain readings isSyncing blk (afterPool cfg blk.transactions chain) := by
  obtain ⟨_, _, ran⟩ := ok
  rintro ⟨_, _, later⟩
  obtain ⟨_, valid⟩ := BlockValidator.validateBlock_ok ran
  have validated := valid.transactions
  cases sent : blk.transactions with
  | nil => exact filled sent
  | cons first rest =>
  rw [sent] at validated
  simp only [validateBlockTransactions, bind_ok_iff, adaptExcept_ok_iff]
    at validated
  obtain ⟨_, _, passed, _⟩ := validated
  have spent : (afterPool cfg blk.transactions chain).Spent cfg first := by
    have kept := validateEach_keeps cfg rest (validateTransaction_spends passed)
    unfold afterPool
    rw [sent, validateEach_cons, passed]
    exact kept
  have listed : first ∈ blk.transactions := by
    rw [sent]
    exact List.mem_cons_self
  exact validateBlock_refuses spent listed later

theorem poolIndependent_iff : PoolIndependent cfg readings isSyncing blk chain ↔
    (BlockValidator.Accepts cfg.chain readings isSyncing blk chain → blk.transactions = []) := by
  constructor
  · intro independent ok
    by_contra filled
    have same := independent cfg.times blk.transactions fun _ listed => listed
    exact refused_after_pool ok filled (same.mpr ok)
  · intro empty times pool listed
    rcases validateEach_final (cfg.atTimes times) pool chain with
      ⟨calls, same⟩ | ⟨tx, sent, spent⟩
    · unfold afterPool
      rw [same]
      rfl
    -- a transaction of the block was recorded, so the block is refused and was refused before
    have held : (afterPool (cfg.atTimes times) pool chain).Spent cfg tx := spent
    constructor
    · rintro ⟨_, _, ran⟩
      exact absurd ran (validateBlock_refuses held (listed tx sent))
    · intro ok
      have none := listed tx sent
      rw [empty ok] at none
      cases none

end Block

/-- Validation uses a block up unless it is empty, and the proposal handler adds no block at all. -/
theorem block_validation_consumes (cfg : ValidatingConfig) :
    (∀ (readings : Readings) (isSyncing : Bool) (blk : Block) (chain : Chain ValidatorMemory),
      (Repeatable cfg readings isSyncing blk chain ↔
        (BlockValidator.Accepts cfg.chain readings isSyncing blk chain → blk.transactions = [])) ∧
      (PoolIndependent cfg readings isSyncing blk chain ↔
        (BlockValidator.Accepts cfg.chain readings isSyncing blk chain → blk.transactions = []))) ∧
    ∀ (context : ProposalContext) (first second : Readings) (prop : BlockProposal)
      (st after : Guarded (Chain ValidatorMemory)) (applied : Block),
      handleBlockProposal cfg.chain context first second prop st ≠ .ok (some applied) after := by
  constructor
  · intro readings isSyncing blk chain
    exact ⟨repeatable_iff, poolIndependent_iff⟩
  · intro context first second prop st after applied
    exact handleBlockProposal_adds_nothing cfg.chain context first second prop st applied after

end

theorem signed_transfer_used_up :
    let blk := sampleFilled [sampleTransfer [1]]
    blk.transactions ≠ [] ∧ BlockValidator.Accepts sampleValidating.chain sampleReadings false blk sampleBank ∧
      ¬ Repeatable sampleValidating sampleReadings false blk sampleBank ∧
      ¬ PoolIndependent sampleValidating sampleReadings false blk sampleBank := by
  have filled : (sampleFilled [sampleTransfer [1]]).transactions ≠ [] := List.cons_ne_nil _ _
  have ok : BlockValidator.Accepts sampleValidating.chain sampleReadings false
      (sampleFilled [sampleTransfer [1]]) sampleBank := by
    have returned : (validateBlock sampleValidating.chain sampleReadings false
        (sampleFilled [sampleTransfer [1]]) sampleBank).value?.isSome = true := by
      decide +kernel
    obtain ⟨checked, ran⟩ := EStateM.Result.ok_of_value? returned
    exact ⟨checked, _, ran⟩
  refine ⟨filled, ok, ?_, ?_⟩
  · intro again
    exact filled (repeatable_iff.mp again ok)
  · intro independent
    exact filled (poolIndependent_iff.mp independent ok)

end Thrylos
