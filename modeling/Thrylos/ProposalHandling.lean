import Thrylos.BlockValidationLemmas

/-!
`handleBlockProposal`, `consensus/pos/consensus.go`. The handler holds the engine's lock while the
validation asks for that lock to see whether the engine is syncing.
-/

namespace Thrylos

open BlockValidator (validateBlockHash validateBlockTransactions validateHeader validateTransaction)
open EStateM (Leads Stays)
open Guarded (exclusively shared attempt)
open GoText (ascii)

/-- What `hex.DecodeString` reads of one digit. -/
def hexValue (digit : Byte) : Option Nat :=
  if 48 ≤ digit ∧ digit ≤ 57 then some (digit.val - 48)
  else if 97 ≤ digit ∧ digit ≤ 102 then some (digit.val - 87)
  else if 65 ≤ digit ∧ digit ≤ 70 then some (digit.val - 55)
  else none

def hexDecode : Bytes → Option Bytes
  | [] => some []
  | [_] => none
  | high :: low :: rest => do
    let upper ← hexValue high
    let lower ← hexValue low
    let others ← hexDecode rest
    return Fin.ofNat 256 (16 * upper + lower) :: others

/-- `strings.ToLower`, and `getSlotProposer` with the engine's validators. -/
structure ProposalContext where
  toLower : Bytes → Bytes
  getSlotProposer : UInt64 → Except String Address
  blockSignature : Int

section

variable {ρ : Type}

section

variable (cfg : ChainConfig ρ)

/-- The key the proposal must be signed with. Errors of the two signature checks are only logged. -/
def proposerKey (context : ProposalContext) (ws : WorldState)
    (prop : BlockProposal) : Option PublicKey :=
  let lookupKey := ascii "0x" ++ context.toLower (trimPrefix (ascii "0x") prop.proposer)
  match ws.validators.find? lookupKey with
  | none => none
  | some (_, val) => (newPublicKeyFromBytes cfg.curve val.pubkey).toOption

def computeProposalHash (context : ProposalContext)
    (prop : BlockProposal) (blk : Block) : Option Bytes := do
  let chainID := context.toLower cfg.chainID
  let blockHash ← hexDecode (trimPrefix (ascii "0x") blk.hash)
  let proposer ← hexDecode (trimPrefix (ascii "0x") prop.proposer)
  return cfg.keccak256 (ascii "THRYLOS_PROPOSAL_V1" ++ BigEndian.fixed 4 chainID.length ++
    chainID ++ blockHash ++ proposer ++ BigEndian.fixed 8 prop.slot.toNat ++
    BigEndian.fixed 8 prop.epoch.toNat)

def verifyProposalSignature (context : ProposalContext)
    (prop : BlockProposal) (blk : Block) (pubKey : PublicKey) : Bool :=
  match computeProposalHash cfg context prop blk, newSignatureFromBytes prop.signature with
  | some hash, .ok signature => (verifyHash cfg.curve pubKey hash signature).isOk
  | _, _ => false

def verifyBlockWithSignatures (now : Int) (ws : WorldState) (blk : Block) : Bool :=
  if blk.header.index = 0 then true
  else if blk.signature = [] then false
  else
    match ws.validators.find? blk.header.validator with
    | none => false
    | some (_, val) =>
      if ¬ val.active ∨ unixSeconds now < val.jailUntil then false
      else
        match newPublicKeyFromBytes cfg.curve val.pubkey,
            computeBlockSigningHash cfg.toEngineConfig blk,
            newSignatureFromBytes blk.signature with
        | .ok pubKey, .ok msg, .ok sig => (verify cfg.keccak256 cfg.curve pubKey msg sig).isOk
        | _, _, _ => false

abbrev LockedM (ρ : Type) := EStateM (Halt String) (Guarded (Chain ρ))

def unlocked {α : Type} (prog : ChainM ρ α) : LockedM ρ α := fun st =>
  match prog st.data with
  | .ok value data => .ok value { st with data }
  | .error halt data => .error halt { st with data }

def isSyncing : LockedM ρ Bool := shared do
  return ((← Guarded.read).consensusEngine.map (·.isSyncing)).getD false

/-- `ValidateBlock` up to the question whether the engine is syncing. -/
def validateBeforeRoot (readings : Readings) (blk : Block) : ChainM ρ Block := do
  validateHeader cfg readings blk
  let transactions ← (validateBlockTransactions cfg 0 blk.transactions
    ).adaptExcept (naming "block transactions validation failed: ")
  let blk := { blk with transactions }
  Chain.check "gas usage validation failed: " (BlockValidator.validateGasUsage cfg blk)
  Chain.check "proposer validation failed: "
    (BlockValidator.validateProposer readings.proposer (← get).world blk)
  return blk

def validateBlockByEngine (readings : Readings) (blk : Block) : LockedM ρ Block := do
  let blk ← unlocked (validateBeforeRoot cfg readings blk)
  let syncing ← isSyncing
  if ¬ syncing ∧ 0 < blk.header.index then unlocked (BlockValidator.validateStateRoot cfg blk)
  return blk

def acceptProposal (context : ProposalContext) (first second : Readings)
    (prop : BlockProposal) (blk : Block) : LockedM ρ (Option Block) := do
  match ← attempt (validateBlockByEngine cfg first blk) with
  | .error _ => return none
  | .ok blk =>
    match ← attempt (validateBlockByEngine cfg second blk) with
    | .error _ => return none
    | .ok blk =>
      match context.getSlotProposer prop.slot with
      | .error _ => return none
      | .ok expectedProposer =>
        if expectedProposer ≠ prop.proposer then return none
        else
          match ← attempt (unlocked (Chain.onState (addBlock cfg.toNodeConfig blk))) with
          | .error _ => return none
          | .ok applied => return some applied

/-- A proposal without a block whose proposer is known is a panic. -/
def checkProposal (context : ProposalContext) (first second : Readings)
    (prop : BlockProposal) : LockedM ρ (Option Block) := do
  let ws := (← Guarded.read).world
  match proposerKey cfg context ws prop with
  | none => return none
  | some pubKey =>
    match prop.block with
    | none => throw (.panic "invalid memory address or nil pointer dereference")
    | some blk =>
      if ¬ verifyProposalSignature cfg context prop blk pubKey then return none
      else if ¬ verifyBlockWithSignatures cfg context.blockSignature ws blk then
        return none
      else acceptProposal cfg context first second prop blk

def handleBlockProposal (context : ProposalContext)
    (first second : Readings) (prop : BlockProposal) : LockedM ρ (Option Block) :=
  exclusively (checkProposal cfg context first second prop)

end

section Lock

variable {cfg : ChainConfig ρ} {readings : Readings} {blk : Block} {held : Bool}
  {data after : Chain ρ}

theorem unlocked_ok {α : Type} {prog : ChainM ρ α}
    {value : α} (ran : prog data = .ok value after) :
    unlocked prog ⟨held, data⟩ = .ok value ⟨held, after⟩ := by
  simp only [unlocked, ran]

theorem unlocked_error {α : Type} {prog : ChainM ρ α}
    {halt : Halt String} (ran : prog data = .error halt after) :
    unlocked prog ⟨held, data⟩ = .error halt ⟨held, after⟩ := by
  simp only [unlocked, ran]

structure SameChain (before after : Chain ρ) : Prop where
  world : after.world = { before.world with ledger := after.world.ledger }
  consensusEngine : after.consensusEngine = before.consensusEngine

theorem SameChain.refl (chain : Chain ρ) : SameChain chain chain := ⟨rfl, rfl⟩

theorem SameChain.trans {before middle : Chain ρ} (first : SameChain before middle)
    (second : SameChain middle after) : SameChain before after := by
  refine ⟨?_, second.consensusEngine.trans first.consensusEngine⟩
  have moved := second.world
  rw [first.world] at moved
  exact moved

theorem validateTransaction_same (cfg : ChainConfig ρ) (tx : Transaction) (chain : Chain ρ) :
    SameChain chain (validateTransaction cfg tx chain).final := by
  unfold validateTransaction
  cases normalizeTransactionAmounts tx with
  | error => exact .refl chain
  | ok norm =>
    dsimp only
    cases (cfg.checkTransaction chain.world chain.seen norm).verdict with
    | error | ok => exact ⟨rfl, rfl⟩

theorem validateBlockTransactions_same (cfg : ChainConfig ρ) (position : Nat)
    (txs : List Transaction) (start : Chain ρ) :
    Stays (SameChain start) (validateBlockTransactions cfg position txs) := by
  induction txs generalizing position with
  | nil => exact .pure [] fun _ => id
  | cons tx _ ih =>
    refine Leads.seq (Leads.adaptExcept ?_ _) fun norm => ?_
    · exact fun chain same => same.trans (validateTransaction_same cfg tx chain)
    · exact (ih (position + 1)).seq fun others => .skip _

theorem check_same (start : Chain ρ) (context : String) (outcome : Except String Unit) :
    Stays (SameChain start) (Chain.check context outcome) := by
  cases outcome with
  | ok => exact .pure () fun _ => id
  | error => exact .fail _

theorem validateHeader_same (start : Chain ρ) :
    Stays (SameChain start) (validateHeader cfg readings blk) := by
  refine (Leads.get _).seq fun chain => (check_same start _ _).seq fun _ => ?_
  refine Leads.seq ?_ fun _ => (check_same start _ _).seq fun _ => ?_
  · unfold validateBlockHash
    split
    · exact .fail _
    · exact check_same start _ _
  · split
    · exact (check_same start _ _).seq fun _ => check_same start _ _
    · exact .pure () fun _ => id

theorem validateBeforeRoot_same (cfg : ChainConfig ρ) (readings : Readings) (blk : Block)
    (start : Chain ρ) : Stays (SameChain start) (validateBeforeRoot cfg readings blk) := by
  refine (validateHeader_same start).seq fun _ => ?_
  refine (validateBlockTransactions_same cfg 0 _ start).adapted fun transactions => ?_
  refine (check_same start _ _).seq fun _ => (Leads.get _).seq fun chain => ?_
  exact (check_same start _ _).seq fun _ => .skip _

theorem validateBlockByEngine_held (chain : Chain ρ) :
    validateBlockByEngine cfg readings blk ⟨true, chain⟩ =
      match validateBeforeRoot cfg readings blk chain with
      | .ok _ after => .error .deadlock ⟨true, after⟩
      | .error halt after => .error halt ⟨true, after⟩ := by
  unfold validateBlockByEngine
  cases ran : validateBeforeRoot cfg readings blk chain with
  | error => rw [bind_error (unlocked_error ran)]
  | ok _ after =>
    have stuck : isSyncing (⟨true, after⟩ : Guarded (Chain ρ)) = .error .deadlock ⟨true, after⟩ := rfl
    rw [bind_ok (unlocked_ok ran), bind_error stuck]

def Alive {α : Type} (prog : ChainM ρ α) : Prop :=
  ∀ chain halt after, prog chain = .error halt after → halt ≠ .deadlock

theorem Alive.bind {α β : Type} {prog : ChainM ρ α} {next : α → ChainM ρ β}
    (first : Alive prog) (rest : ∀ value, Alive (next value)) : Alive (prog >>= next) := by
  intro chain halt after failed
  cases ran : prog chain with
  | ok value middle =>
    rw [bind_ok ran] at failed
    exact rest value middle halt after failed
  | error =>
    rw [bind_error ran] at failed
    cases failed
    exact first chain _ _ ran

theorem Alive.pure {α : Type} (value : α) : Alive (pure value : ChainM ρ α) := by
  rintro _ _ _ ⟨⟩

theorem Alive.get : Alive (get : ChainM ρ (Chain ρ)) := by
  rintro _ _ _ ⟨⟩

theorem Alive.naming {α : Type} {prog : ChainM ρ α} (alive : Alive prog) (context : String) :
    Alive (prog.adaptExcept (Thrylos.naming context)) := by
  intro chain halt after failed
  cases ran : prog chain with
  | ok =>
    rw [adaptExcept_ok ran] at failed
    cases failed
  | error err =>
  rw [adaptExcept_error ran] at failed
  cases failed
  have other := alive chain _ _ ran
  cases err with
  | refused => rintro ⟨⟩
  | deadlock => exact absurd rfl other
  | panic => rintro ⟨⟩

theorem check_alive (context : String) (outcome : Except String Unit) :
    Alive (Chain.check context outcome : ChainM ρ Unit) := by
  cases outcome with
  | ok => exact .pure ()
  | error =>
    rintro _ _ _ ⟨⟩
    rintro ⟨⟩

theorem validateTransaction_alive (cfg : ChainConfig ρ) (tx : Transaction) :
    Alive (validateTransaction cfg tx : ChainM ρ Transaction) := by
  intro chain halt after failed
  unfold validateTransaction at failed
  split at failed
  · cases failed
    rintro ⟨⟩
  · dsimp only at failed
    split at failed
    · cases failed
      rintro ⟨⟩
    · cases failed

theorem validateBlockTransactions_alive (cfg : ChainConfig ρ) (position : Nat)
    (txs : List Transaction) :
    Alive (validateBlockTransactions cfg position txs : ChainM ρ (List Transaction)) := by
  induction txs generalizing position with
  | nil => exact .pure []
  | cons tx _ ih =>
    refine ((validateTransaction_alive cfg tx).naming _).bind fun norm => ?_
    exact (ih (position + 1)).bind fun others => .pure _

theorem validateHeader_alive : Alive (validateHeader cfg readings blk : ChainM ρ Unit) := by
  refine Alive.get.bind fun chain => (check_alive _ _).bind fun _ => ?_
  refine Alive.bind ?_ fun _ => (check_alive _ _).bind fun _ => ?_
  · unfold validateBlockHash
    split
    · rintro _ _ _ ⟨⟩
      rintro ⟨⟩
    · exact check_alive _ _
  · split
    · exact (check_alive _ _).bind fun _ => check_alive _ _
    · exact .pure ()

theorem validateBeforeRoot_alive (cfg : ChainConfig ρ) (readings : Readings) (blk : Block) :
    Alive (validateBeforeRoot cfg readings blk : ChainM ρ Block) := by
  refine validateHeader_alive.bind fun _ => ?_
  refine ((validateBlockTransactions_alive cfg 0 _).naming _).bind fun transactions => ?_
  refine (check_alive _ _).bind fun _ => Alive.get.bind fun chain => ?_
  exact (check_alive _ _).bind fun _ => .pure _

end Lock

inductive HandlingOutcome (cfg : ChainConfig ρ) (context : ProposalContext) (first : Readings)
    (prop : BlockProposal) (chain : Chain ρ) :
    EStateM.Result (Halt String) (Guarded (Chain ρ)) (Option Block) → Prop where
  | dropped (after : Chain ρ) (same : SameChain chain after) :
      HandlingOutcome cfg context first prop chain (.ok none ⟨false, after⟩)
  | crashed (message : String) (after : Chain ρ) (same : SameChain chain after) :
      HandlingOutcome cfg context first prop chain (.error (.panic message) ⟨false, after⟩)
  | stuck (blk checked : Block) (pubKey : PublicKey) (after : Chain ρ)
      (sent : prop.block = some blk)
      (key : proposerKey cfg context chain.world prop = some pubKey)
      (proposed : verifyProposalSignature cfg context prop blk pubKey = true)
      (signed : verifyBlockWithSignatures cfg context.blockSignature chain.world blk = true)
      (passed : validateBeforeRoot cfg first blk chain = .ok checked after) :
      HandlingOutcome cfg context first prop chain (.error .deadlock ⟨true, after⟩)

def HandlerFails (cfg : ChainConfig ρ) (first : Readings) (blk : Block) (chain : Chain ρ)
    (halt : Halt String) (after : Chain ρ) : Prop :=
  (∃ message, halt = .panic message ∧ SameChain chain after) ∨
  (halt = .deadlock ∧ ∃ checked, validateBeforeRoot cfg first blk chain = .ok checked after)

theorem acceptProposal_gives_up (cfg : ChainConfig ρ) (context : ProposalContext)
    (first second : Readings) (prop : BlockProposal) (blk : Block) (chain : Chain ρ) :
    Guarded.wp (acceptProposal cfg context first second prop blk)
      (fun applied after => applied = none ∧ SameChain chain after)
      (HandlerFails cfg first blk chain) chain := by
  refine Guarded.wp_bind (Guarded.wp_attempt ?_)
  unfold Guarded.wp
  rw [validateBlockByEngine_held]
  have same := validateBeforeRoot_same cfg first blk chain chain (.refl chain)
  have alive := validateBeforeRoot_alive cfg first blk chain
  cases ran : validateBeforeRoot cfg first blk chain with
  | ok checked => exact ⟨rfl, .inr ⟨rfl, checked, ran⟩⟩
  | error halt =>
  rw [ran] at same
  cases halt with
  | refused => exact ⟨rfl, rfl, rfl, same⟩
  | deadlock => exact absurd rfl (alive _ _ ran)
  | panic message => exact ⟨rfl, .inl ⟨message, rfl, same⟩⟩

theorem checkProposal_gives_up (cfg : ChainConfig ρ) (context : ProposalContext)
    (first second : Readings) (prop : BlockProposal) (chain : Chain ρ) :
    Guarded.wp (checkProposal cfg context first second prop)
      (fun applied after => applied = none ∧ SameChain chain after)
      (fun halt after => HandlingOutcome cfg context first prop chain
        (.error halt ⟨halt.isDeadlock, after⟩)) chain := by
  refine Guarded.wp_bind (Guarded.wp_read ?_)
  dsimp only
  cases key : proposerKey cfg context chain.world prop with
  | none => exact Guarded.wp_pure ⟨rfl, .refl chain⟩
  | some pubKey =>
  cases sent : prop.block with
  | none => exact Guarded.wp_throw (.crashed _ chain (.refl chain))
  | some blk =>
  by_cases proposed : verifyProposalSignature cfg context prop blk pubKey = true
  · simp only [if_neg (not_not.mpr proposed)]
    by_cases signed : verifyBlockWithSignatures cfg context.blockSignature chain.world blk = true
    · simp only [if_neg (not_not.mpr signed)]
      refine Guarded.wp_mono (acceptProposal_gives_up cfg context first second prop blk chain)
        (fun _ _ => id) ?_
      rintro _ after (⟨message, rfl, same⟩ | ⟨rfl, checked, passed⟩)
      · exact .crashed message after same
      · exact .stuck blk checked pubKey after sent key proposed signed passed
    · simp only [if_pos signed]
      exact Guarded.wp_pure ⟨rfl, .refl chain⟩
  · simp only [if_pos proposed]
    exact Guarded.wp_pure ⟨rfl, .refl chain⟩

theorem handleBlockProposal_outcome (cfg : ChainConfig ρ) (context : ProposalContext)
    (first second : Readings) (prop : BlockProposal) (chain : Chain ρ) :
    HandlingOutcome cfg context first prop chain
      (handleBlockProposal cfg context first second prop ⟨false, chain⟩) := by
  unfold handleBlockProposal
  rcases Guarded.exclusively_cases
      (checkProposal_gives_up cfg context first second prop chain) with
    ⟨applied, after, ran, rfl, same⟩ | ⟨halt, after, ran, outcome⟩
  · rw [ran]
    exact .dropped after same
  · rw [ran]
    exact outcome

theorem handleBlockProposal_adds_nothing (cfg : ChainConfig ρ) (context : ProposalContext)
    (first second : Readings) (prop : BlockProposal) (st : Guarded (Chain ρ))
    (applied : Block) (after : Guarded (Chain ρ)) :
    handleBlockProposal cfg context first second prop st ≠ .ok (some applied) after := by
  obtain ⟨held, chain⟩ := st
  intro ran
  cases held with
  | true =>
    cases ran
  | false =>
    have outcome := handleBlockProposal_outcome cfg context first second prop chain
    rw [ran] at outcome
    cases outcome

end

end Thrylos
