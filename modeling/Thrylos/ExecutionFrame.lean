import Thrylos.RecordFrame

/-!
What executing a transaction can reach. The validators, the blocks, the pool and the chain head are
out of reach of every transaction.
-/

namespace Thrylos

open EStateM (Leads Stays)

theorem leads_onLedger {α : Type} {pre post : Ledger → Prop} {prog : LedgerM α}
    (leads : Leads pre post prog) :
    Leads (fun ws => pre ws.ledger) (fun ws => post ws.ledger) (onLedger prog : WorldM α) := by
  intro ws holds
  have reached := leads ws.ledger holds
  unfold onLedger
  cases ran : prog ws.ledger <;> rw [ran] at reached <;> exact reached

theorem stays_getAccount {cfg : ShardConfig} {addr : Address} {inv : WorldState → Prop}
    (load : ∀ ws, inv ws → inv { ws with ledger := ws.ledger.load addr }) :
    Stays inv (onLedger (getAccount cfg addr)) := by
  intro ws holds
  unfold onLedger
  rw [getAccount_apply]
  cases readAccount cfg ws.ledger addr with
  | ok => exact load ws holds
  | error => exact holds

structure Stable (cfg : NodeConfig) (payer : Address) (inv : WorldState → Prop) : Prop where
  clock : ∀ ws ticks, inv ws → inv { ws with ticks }
  gas : ∀ ws evmGas, inv ws → inv { ws with evmGas }
  read : ∀ ws addr, inv ws → inv { ws with ledger := ws.ledger.load addr }
  balance : ∀ newBalance, Leads inv inv (updateBalance cfg payer newBalance)

namespace Stable

variable {cfg : NodeConfig} {payer : Address} {inv : WorldState → Prop}
  (stable : Stable cfg payer inv)
include stable

theorem getAccount (addr : Address) : Stays inv (onLedger (getAccount cfg addr)) :=
  stays_getAccount fun ws => stable.read ws addr

theorem readClock : Stays inv (readClock cfg) := fun ws holds =>
  stable.clock ws _ holds

theorem getNonce (addr : Address) : Stays inv (getNonce cfg addr) :=
  (stable.getAccount addr).seq fun _ => .skip _

theorem getBalance (addr : Address) : Stays inv (getBalance cfg addr) :=
  (stable.getAccount addr).seq fun _ => .ofExcept _ _

omit stable in
theorem ignoreFailure {prog : WorldM Unit} (leads : Stays inv prog) :
    Stays inv (ignoreFailure prog) :=
  leads.tryCatch (fun _ => .skip _) fun _ => id

theorem addBalance (amt : Int) : Stays inv (addBalance cfg payer amt) :=
  ignoreFailure ((stable.getBalance payer).seq fun _ => stable.balance _)

theorem checkAndReserveWindowGas (gasLimit : UInt64) :
    Stays inv (checkAndReserveWindowGas cfg gasLimit) := by
  intro ws holds
  unfold Thrylos.checkAndReserveWindowGas
  rw [bind_ok (show Thrylos.readClock cfg ws = .ok _ _ from rfl), bind_ok get_ok]
  dsimp only
  rw [bind_ok (set_ok _)]
  have ticked := stable.clock ws (ws.ticks + 1) holds
  split_ifs <;> exact stable.gas _ _ ticked

theorem checkAndReserveGas (gasLimit : UInt64) : Stays inv (checkAndReserveGas gasLimit) := by
  intro ws holds
  unfold Thrylos.checkAndReserveGas
  dsimp only
  split
  · exact holds
  · exact stable.gas ws _ holds

theorem refundGas (gasRefund : UInt64) : Stays inv (refundGas gasRefund) :=
  .modify fun ws holds => stable.gas ws _ holds

theorem refundWindowReservation (gasRefund : UInt64) (releaseTx : Bool) :
    Stays inv (refundWindowReservation cfg gasRefund releaseTx) :=
  stable.readClock.seq fun now => .modify fun ws holds => by
    dsimp only
    split <;> exact stable.gas ws _ holds

theorem lookupAccounts (addrs : List Address) : Stays inv (lookupAccounts cfg addrs) := by
  induction addrs with
  | nil => exact .skip _
  | cons addr _ ih =>
    refine Leads.seq (Leads.tryCatch ?_ (fun _ => .skip _) fun _ => id) fun _ => ih
    exact (stable.getAccount addr).seq fun _ => .skip _

theorem checkEVMFunds (tx : Transaction) (purpose : String) :
    Stays inv (checkEVMFunds cfg tx purpose) := by
  refine (Leads.ofExcept _ _).adapted fun _ => ((Leads.ofExcept _ _).adaptExcept _).seq
    fun _ => (stable.getNonce _).adapted fun _ => ?_
  split
  · exact .fail _
  refine (stable.getBalance _).adapted fun _ => ?_
  split
  · exact .fail _
  · exact .skip _

theorem refundUnused {prog : WorldM Unit} (tx : Transaction) (gasPrice : Nat) (gasUsed : UInt64)
    (leads : Stays inv prog) : Stays inv (do
      if 0 < gasRefund tx gasPrice gasUsed then
        Thrylos.addBalance cfg payer (gasRefund tx gasPrice gasUsed)
      prog) := by
  split
  · exact (stable.addBalance _).seq fun _ => leads
  · exact leads

end Stable

theorem OwnerInvariant.stable {cfg : NodeConfig} {owned : Address → Prop} {inv : Ledger → Prop}
    (kept : OwnerInvariant cfg owned inv) {payer : Address} (own : owned payer) :
    Stable cfg payer fun ws => inv ws.ledger where
  clock _ _ := id
  gas _ _ := id
  read _ _ := kept.loaded _ _
  balance newBalance := by
    intro ws holds
    have loaded := kept.loaded _ payer holds
    rcases updateBalance_cases cfg payer newBalance ws with
      ⟨_, _, ran⟩ | ⟨acc, norm, read, updated, ran⟩ | ⟨acc, norm, _, read, same, _, ran⟩
    · rw [ran]
      exact holds
    · have own : owned norm.address := by
        rwa [updated.sameHoldings.address, readAccount_address read]
      rw [ran]
      exact kept.added _ _ own (kept.saved _ _ own updated.again (kept.written _ _ own loaded))
    · have own : owned norm.address := by rwa [same.address, readAccount_address read]
      rw [ran]
      exact kept.written _ _ own loaded

theorem leads_executeGovernance {cfg : NodeConfig} {inv : Ledger → Prop} {tx : Transaction}
    (paid : Stays inv (applyGovernanceGasAndNonce cfg tx)) :
    Stays (fun ws => inv ws.ledger) (executeGovernance cfg tx) := by
  intro ws holds
  unfold executeGovernance
  rw [bind_ok get_ok]
  dsimp only
  rw [bind_ok (set_ok _)]
  exact Leads.check (fun _ => leads_onLedger paid) _ holds

structure NonceStep (cfg : NodeConfig) (tx : Transaction) (before after : WorldState → Prop) :
    Prop where
  stableBefore : Stable cfg tx.fromAddr before
  stableAfter : Stable cfg tx.fromAddr after
  weaken : ∀ ws, before ws → after ws
  step : Leads before after (onLedger (atomicIncrementNonce (cfg.checksumHex tx.fromAddr) tx.nonce))

namespace NonceStep

variable {cfg : NodeConfig} {tx : Transaction} {before after : WorldState → Prop}
  (frame : NonceStep cfg tx before after)
include frame

theorem runRevm : Leads before after (runRevm cfg tx tx.nonce) := by
  unfold Thrylos.runRevm
  refine (frame.stableBefore.checkAndReserveWindowGas _).bind (fun err => ?_) frame.weaken
  cases err with
  | some => exact .pure _ frame.weaken
  | none =>
  refine (frame.stableBefore.checkAndReserveGas _).bind (fun err => ?_) frame.weaken
  cases err with
  | some =>
    exact (frame.stableBefore.refundWindowReservation _ _).bind (fun _ => .pure _ frame.weaken)
      frame.weaken
  | none =>
  refine frame.step.bind (fun stepped => ?_) fun _ => id
  dsimp only
  split
  · exact (frame.stableAfter.refundWindowReservation _ _).seq fun _ =>
      (frame.stableAfter.refundGas _).seq fun _ => .skip _
  · refine (Leads.get _).seq fun _ => (frame.stableAfter.lookupAccounts _).seq fun _ => ?_
    split
    · exact (frame.stableAfter.refundGas _).seq fun _ =>
        (frame.stableAfter.refundWindowReservation _ _).seq fun _ => .skip _
    · exact .skip _

theorem executeCall : Leads before after (executeCall cfg tx tx.nonce) := by
  unfold Thrylos.executeCall
  dsimp only
  split_ifs
  · exact .pure _ frame.weaken
  · exact .pure _ frame.weaken
  · exact frame.runRevm

theorem deployContract : Leads before after (deployContract cfg tx) := by
  unfold Thrylos.deployContract
  dsimp only
  split_ifs
  · exact .pure _ frame.weaken
  · exact .pure _ frame.weaken
  · exact .pure _ frame.weaken
  · exact frame.runRevm.bind (fun _ => .skip _) fun _ => id

theorem executeEVMCall : Leads before after (executeEVMCall cfg tx) := by
  unfold Thrylos.executeEVMCall
  refine (Leads.ofExcept _ _).bind (fun _ => (Leads.ofExcept _ _).bind (fun _ =>
    (frame.stableBefore.checkEVMFunds tx _).bind (fun _ =>
    (Stable.ignoreFailure (frame.stableBefore.balance _)).bind (fun _ =>
    frame.executeCall.bind (fun _ => frame.stableAfter.refundUnused tx _ _ ?_)
      fun _ => id) frame.weaken) frame.weaken) frame.weaken) frame.weaken
  split
  · exact .skip _
  · exact (frame.stableAfter.addBalance _).seq fun _ => .fail _

theorem executeEVMDeploy : Leads before after (executeEVMDeploy cfg tx) := by
  unfold Thrylos.executeEVMDeploy
  refine (Leads.ofExcept _ _).bind (fun _ => (frame.stableBefore.checkEVMFunds tx _).bind (fun _ =>
    ((frame.stableBefore.balance _).adaptExcept _).bind (fun _ =>
    frame.deployContract.bind (fun _ => frame.stableAfter.refundUnused tx _ _ ?_)
      fun _ => id) frame.weaken) frame.weaken) frame.weaken
  split
  · exact .skip _
  · exact (frame.stableAfter.getBalance _).adapted fun _ =>
      (frame.stableAfter.balance _).adapted fun _ => .fail _

theorem dispatchTransaction (consume : Leads before after (onLedger (consumeNonce tx)))
    (gov : Stays after (executeGovernance cfg tx))
    (native : Stays after (onLedger (executeNative cfg tx))) :
    Leads before after (dispatchTransaction cfg tx) := by
  unfold Thrylos.dispatchTransaction
  split
  · exact frame.executeEVMCall
  · exact frame.executeEVMDeploy
  · exact consume.bind (fun _ => gov) fun _ => id
  · exact consume.bind (fun _ => gov) fun _ => id
  · exact consume.bind (fun _ => gov) fun _ => id
  · exact consume.bind (fun _ => native) fun _ => id

end NonceStep

theorem leads_executeTransaction {cfg : NodeConfig} {before after : WorldState → Prop}
    (weaken : ∀ ws, before ws → after ws)
    (dispatch : ∀ tx, Leads before after (dispatchTransaction cfg tx)) (tx : Transaction) :
    Leads before after (executeTransaction cfg tx) :=
  ((Leads.ofExcept _ _).adaptExcept _).bind (fun _ =>
    (dispatch _).bind (fun _ => .skip _) fun _ => id) weaken

section

variable {cfg : NodeConfig} {inv : Ledger → Prop}
  (nonces : ∀ am nonces, inv am → inv { am with nonces })
include nonces

theorem leads_atomicIncrementNonce (addr : Address) (nonce : UInt64) :
    Stays inv (atomicIncrementNonce addr nonce) := by
  intro am holds
  unfold atomicIncrementNonce
  dsimp only
  split
  · exact holds
  · exact nonces _ _ holds

theorem leads_consumeNonce (tx : Transaction) : Stays inv (consumeNonce tx) := by
  refine (leads_atomicIncrementNonce nonces _ _).seq fun _ => ?_
  dsimp only
  split
  · exact .fail _
  · exact .skip _

theorem OwnerInvariant.executeTransaction (kept : OwnerInvariant cfg (fun _ => True) inv)
    (tx : Transaction) : Stays (fun ws => inv ws.ledger) (executeTransaction cfg tx) := by
  refine leads_executeTransaction (fun _ => id) (fun tx => ?_) tx
  have frame : NonceStep cfg tx (fun ws => inv ws.ledger) fun ws => inv ws.ledger :=
    { stableBefore := kept.stable trivial
      stableAfter := kept.stable trivial
      weaken := fun _ => id
      step := leads_onLedger (leads_atomicIncrementNonce nonces _ _) }
  exact frame.dispatchTransaction (leads_onLedger (leads_consumeNonce nonces tx))
    (leads_executeGovernance (kept.applyGovernanceGasAndNonce trivial))
    (leads_onLedger (kept.executeNative trivial fun _ => trivial))

end

abbrev LeavesNonces {α : Type} (prog : LedgerM α) : Prop :=
  ∀ nonces : NonceStore, Leads (·.nonces = nonces) (·.nonces = nonces) prog

theorem nonces_recordInvariant (cfg : ShardConfig) (nonces : NonceStore) :
    RecordInvariant cfg (·.nonces = nonces) where
  cached _ _ same := same
  stored _ _ _ same := same

theorem executeNative_leavesNonces (cfg : ShardConfig) (tx : Transaction) :
    LeavesNonces (executeNative cfg tx) :=
  fun nonces => (nonces_recordInvariant cfg nonces).everywhere.executeNative trivial fun _ => trivial

def WorldState.settled (ws : WorldState) : WorldState :=
  { ws with
    ledger := Ledger.new
    evmGas := ⟨0, 0, none, 0, 0⟩
    governance := .blank
    ticks := 0
    transactions := KeyedMap.empty
    txPool := Pool.new }

structure Within (steps : Nat) (start ws : WorldState) : Prop where
  settled : ws.settled = start.settled
  nonces : ∀ addr, ∃ taken ≤ steps,
    storedNonce ws.ledger addr = storedNonce start.ledger addr + UInt64.ofNat taken

variable (cfg : NodeConfig)

namespace Within

variable {steps : Nat} {start ws : WorldState}

theorem refl (ws : WorldState) : Within 0 ws ws :=
  ⟨rfl, fun _ => ⟨0, le_rfl, by simp⟩⟩

theorem more (within : Within steps start ws) : Within (steps + 1) start ws :=
  ⟨within.settled, fun addr => by
    obtain ⟨taken, bound, moved⟩ := within.nonces addr
    exact ⟨taken, bound.trans (Nat.le_succ _), moved⟩⟩

theorem sameNonces {other : WorldState} (within : Within steps start ws)
    (settled : other.settled = ws.settled) (nonces : other.ledger.nonces = ws.ledger.nonces) :
    Within steps start other :=
  ⟨settled.trans within.settled, fun addr => by
    have same : storedNonce other.ledger addr = storedNonce ws.ledger addr := by
      simp only [storedNonce, nonces]
    rw [same]
    exact within.nonces addr⟩

theorem onLedger {α : Type} {prog : LedgerM α} (leaves : LeavesNonces prog) :
    Stays (Within steps start) (onLedger prog) := by
  intro ws within
  have same := leaves ws.ledger.nonces ws.ledger rfl
  unfold Thrylos.onLedger
  cases ran : prog ws.ledger with
  | ok | error =>
    rw [ran] at same
    exact within.sameNonces rfl same

theorem stable (addr : Address) (steps : Nat) (start : WorldState) :
    Stable cfg addr (Within steps start) where
  clock _ _ within := within.sameNonces rfl rfl
  gas _ _ within := within.sameNonces rfl rfl
  read _ _ within := within.sameNonces rfl load_nonces
  balance newBalance := by
    intro ws within
    rcases updateBalance_cases cfg addr newBalance ws with
      ⟨_, _, ran⟩ | ⟨_, _, _, _, ran⟩ | ⟨_, _, _, _, _, _, ran⟩
    · rw [ran]
      exact within
    · rw [ran]
      exact within.sameNonces rfl load_nonces
    · rw [ran]
      exact within.sameNonces rfl load_nonces

theorem bumpNonce (within : Within steps start ws) (addr : Address) :
    Within (steps + 1) start { ws with ledger := ws.ledger.bumpNonce addr } := by
  refine ⟨within.settled, fun other => ?_⟩
  obtain ⟨taken, bound, moved⟩ := within.nonces other
  by_cases same : addr = other
  · subst same
    refine ⟨taken + 1, Nat.succ_le_succ bound, ?_⟩
    have bumped : storedNonce (ws.ledger.bumpNonce addr) addr = storedNonce ws.ledger addr + 1 := by
      simp [storedNonce, Ledger.bumpNonce]
    rw [bumped, moved, UInt64.ofNat_add, UInt64.add_assoc]
    rfl
  · refine ⟨taken, bound.trans (Nat.le_succ _), ?_⟩
    have kept : storedNonce (ws.ledger.bumpNonce addr) other = storedNonce ws.ledger other := by
      simp [storedNonce, Ledger.bumpNonce, same]
    exact kept.trans moved

theorem consumeNonce (tx : Transaction) :
    Leads (Within steps start) (Within (steps + 1) start) (Thrylos.onLedger (consumeNonce tx)) := by
  intro ws within
  by_cases current : storedNonce ws.ledger tx.fromAddr = tx.nonce
  · rw [onLedger_ok (consumeNonce_ok current)]
    exact within.bumpNonce tx.fromAddr
  · obtain ⟨_, stale⟩ := consumeNonce_error current
    rw [onLedger_error stale]
    exact within.more

theorem nonceStep (tx : Transaction) (steps : Nat) (start : WorldState) :
    NonceStep cfg tx (Within steps start) (Within (steps + 1) start) where
  stableBefore := stable cfg tx.fromAddr steps start
  stableAfter := stable cfg tx.fromAddr (steps + 1) start
  weaken _ := more
  step ws within := by
    unfold Thrylos.onLedger atomicIncrementNonce
    dsimp only
    split_ifs with stale
    · exact within.more
    · exact within.bumpNonce (cfg.checksumHex tx.fromAddr)

theorem executeGovernance (tx : Transaction) :
    Stays (Within steps start) (executeGovernance cfg tx) := by
  intro ws within
  unfold Thrylos.executeGovernance
  rw [bind_ok get_ok]
  dsimp only
  rw [bind_ok (set_ok _)]
  refine (Leads.ofExcept _ _).seq (fun _ => onLedger fun nonces =>
      (nonces_recordInvariant _ nonces).everywhere.applyGovernanceGasAndNonce trivial)
    _ ?_
  exact within.sameNonces rfl rfl

theorem dispatchTransaction (tx : Transaction) :
    Leads (Within steps start) (Within (steps + 1) start) (dispatchTransaction cfg tx) :=
  (nonceStep cfg tx steps start).dispatchTransaction (consumeNonce tx)
    (executeGovernance cfg tx) (onLedger (executeNative_leavesNonces _ tx))

end Within

theorem executeTransaction_within (tx : Transaction) (steps : Nat) (start : WorldState) :
    Leads (Within steps start) (Within (steps + 1) start) (executeTransaction cfg tx) :=
  leads_executeTransaction (fun _ => Within.more) (Within.dispatchTransaction cfg) tx

end Thrylos
