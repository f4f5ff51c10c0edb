import Thrylos.AccountOps
import Thrylos.ExecutionPlan

/-!
What the account operations can do to the records of the database: the only ones they write are
accounts that `UpdateAccount` has accepted.
-/

namespace Thrylos

open EStateM (Leads Returns Stays)

theorem Updated.again {cfg : ShardConfig} {acc norm : Account}
    (updated : Updated cfg acc norm) : Updated cfg norm norm :=
  (Updated.iff_of_canonical updated.canonical).mpr ⟨rfl, updated.valid, updated.shard⟩

structure OwnerInvariant (cfg : ShardConfig) (owned : Address → Prop) (inv : Ledger → Prop) :
    Prop where
  loaded : ∀ am addr, inv am → inv (am.load addr)
  written : ∀ am acc, owned acc.address → inv am → inv (am.write acc)
  added : ∀ am acc, owned acc.address → inv am → inv { am with cache := am.cache.add acc }
  saved : ∀ am acc, owned acc.address → Updated cfg acc acc → inv am →
    inv { am with accounts := am.accounts.insert acc }

structure RecordInvariant (cfg : ShardConfig) (inv : Ledger → Prop) : Prop where
  cached : ∀ am cache, inv am → inv { am with cache }
  stored : ∀ am acc, Updated cfg acc acc → inv am →
    inv { am with accounts := am.accounts.insert acc }

theorem updateAccount_returns (cfg : ShardConfig) (acc : Account) :
    Returns (fun saved => Updated cfg saved saved ∧ saved.address = acc.address)
      (updateAccount cfg acc) := by
  intro am saved after ran
  rcases updateAccount_cases cfg acc am with
    ⟨norm, updated, result⟩ | ⟨norm, err, _, _, result⟩
  · cases result.symm.trans ran
    exact ⟨updated.again, updated.sameHoldings.address⟩
  · cases result.symm.trans ran

namespace OwnerInvariant

variable {cfg : ShardConfig} {owned : Address → Prop} {inv : Ledger → Prop}
  (kept : OwnerInvariant cfg owned inv) {acc : Account} {tx : Transaction}
include kept

theorem getAccount (addr : Address) : Stays inv (getAccount cfg addr) := by
  intro am holds
  rw [getAccount_apply]
  cases readAccount cfg am addr with
  | ok => exact kept.loaded _ _ holds
  | error => exact holds

theorem reading {α : Type} {addr : Address} {relabel : String → String} {next : Account → LedgerM α}
    (rest : ∀ acc, acc.address = addr → Stays inv (next acc)) :
    Stays inv ((Thrylos.getAccount cfg addr).adaptExcept relabel >>= next) := by
  intro am holds
  cases read : readAccount cfg am addr with
  | ok acc =>
    rw [adapt_ok (getAccount_ok read)]
    exact rest acc (readAccount_address read) _ (kept.loaded _ _ holds)
  | error =>
    rw [adapt_error (getAccount_error read)]
    exact holds

theorem writeThrough (own : owned acc.address) : Stays inv (writeThrough acc) :=
  fun _ holds => kept.written _ _ own holds

theorem saveAccount (own : owned acc.address) (ok : Updated cfg acc acc) :
    Stays inv (saveAccount acc) := by
  intro am holds
  have saved : normalizeAccountCompat acc = .ok acc := ok.canonical
  rw [saveAccount_ok saved]
  exact kept.saved _ _ own ok holds

theorem updateAccount (own : owned acc.address) : Stays inv (updateAccount cfg acc) := by
  intro am holds
  rcases updateAccount_cases cfg acc am with
    ⟨norm, updated, result⟩ | ⟨norm, err, same, _, result⟩
  · rw [← updated.sameHoldings.address] at own
    rw [result]
    exact kept.added _ _ own (kept.saved _ _ own updated.again (kept.written _ _ own holds))
  · rw [result]
    exact kept.written _ _ (same.address ▸ own) holds

theorem updateAndSave (own : owned acc.address) (updating saving : String → String) : Stays inv (do
      let saved ← (Thrylos.updateAccount cfg acc).adaptExcept updating
      (Thrylos.saveAccount saved).adaptExcept saving) :=
  ((kept.updateAccount own).adaptExcept _).seqOf ((updateAccount_returns cfg acc).adaptExcept _)
    fun _ ok => (kept.saveAccount (ok.2 ▸ own) ok.1).adaptExcept _

theorem executeOnSender {lookupFailure : String} {change : Account → Except String Account}
    (own : owned tx.fromAddr)
    (address : ∀ acc changed, change acc = .ok changed → changed.address = acc.address) :
    Stays inv (executeOnSender cfg lookupFailure tx change) :=
  Leads.check fun _ => Leads.check fun _ => kept.reading fun acc isFrom =>
    Leads.check fun _ => Leads.checkOf fun changed ok => by
      have changedOwn : owned changed.address := by rwa [address acc changed ok, isFrom]
      exact (kept.writeThrough changedOwn).seq fun _ =>
        (kept.updateAccount changedOwn).seq fun _ => .skip _

theorem atomicTransfer (own : owned tx.fromAddr) (ownTo : owned tx.toAddr) :
    Stays inv (atomicTransfer cfg tx) := by
  refine kept.reading fun sender isFrom => ?_
  have paid (bal : Bytes) (nonce : UInt64) :
      owned { sender with balance := bal, nonce }.address := isFrom ▸ own
  split
  · exact Leads.check fun _ => (kept.writeThrough (paid _ _)).seq fun _ =>
      kept.updateAndSave (paid _ _) _ _
  refine kept.reading fun receiver isTo => ?_
  have credited (bal : Bytes) : owned { receiver with balance := bal }.address := isTo ▸ ownTo
  exact Leads.check fun _ => (kept.writeThrough (paid _ _)).seq fun _ =>
    (kept.writeThrough (credited _)).seq fun _ =>
    ((kept.updateAccount (paid _ _)).adaptExcept _).seqOf
      ((updateAccount_returns cfg _).adaptExcept _) fun _ ok =>
    (kept.saveAccount (ok.2 ▸ paid _ _) ok.1).adapted fun _ => kept.updateAndSave (credited _) _ _

theorem executeNative (own : owned tx.fromAddr) (ownTo : tx.type = .transfer → owned tx.toAddr) :
    Stays inv (executeNative cfg tx) := by
  have moved {acc changed} (ok : nativeChange tx acc = .ok changed) :
      changed.address = acc.address := (nativeChange_advances ok).address
  unfold Thrylos.executeNative
  unfold nativeChange at moved
  split
  next kind =>
    exact Leads.check fun _ => Leads.check fun _ => Leads.check fun _ =>
      kept.atomicTransfer own (ownTo kind)
  iterate 5
    next kind =>
      simp only [kind] at moved
      exact kept.executeOnSender own fun _ _ => moved
  · exact .fail _

theorem applyGovernanceGasAndNonce (own : owned tx.fromAddr) :
    Stays inv (applyGovernanceGasAndNonce cfg tx) := by
  refine kept.reading fun acc isFrom => ?_
  rw [← isFrom] at own
  have paying {paid : Account} (own : owned paid.address) : Stays inv (do
      Thrylos.writeThrough paid
      let _ ← Thrylos.updateAccount cfg paid) :=
    (kept.writeThrough own).seq fun _ => (kept.updateAccount own).seq fun _ => .skip _
  split
  · exact (Leads.fail _).seq fun _ => paying own
  · exact paying own

end OwnerInvariant

variable (acc : Account)

namespace RecordInvariant

variable {cfg : ShardConfig} {inv : Ledger → Prop} (kept : RecordInvariant cfg inv)
include kept

theorem load {am : Ledger} (addr : Address) (holds : inv am) : inv (am.load addr) := by
  unfold Ledger.load
  split
  · exact kept.cached _ _ holds
  · split
    · exact kept.cached _ _ holds
    · exact holds

theorem everywhere : OwnerInvariant cfg (fun _ => True) inv where
  loaded _ := kept.load
  written _ _ _ := kept.cached _ _
  added _ _ _ := kept.cached _ _
  saved _ _ _ := kept.stored _ _

theorem getAccount (addr : Address) : Stays inv (getAccount cfg addr) :=
  kept.everywhere.getAccount addr

theorem writeThrough : Stays inv (writeThrough acc) := kept.everywhere.writeThrough trivial

theorem saveAccount {acc : Account} (ok : Updated cfg acc acc) : Stays inv (saveAccount acc) :=
  kept.everywhere.saveAccount trivial ok

theorem updateAccount : Stays inv (updateAccount cfg acc) := kept.everywhere.updateAccount trivial

theorem assignAccount : Stays inv (assignAccount cfg acc) :=
  (kept.writeThrough acc).seq fun _ => kept.updateAccount acc

theorem putAccount : Stays inv (putAccount cfg acc) := by
  intro am holds
  have reached := kept.updateAccount acc am holds
  unfold Thrylos.putAccount
  cases ran : Thrylos.updateAccount cfg acc am with
  | ok =>
    rw [ran] at reached
    exact reached
  | error => exact holds

theorem changeAccount (lookupFailure : String) (addr : Address)
    (change : Account → Except String Account) :
    Stays inv (changeAccount cfg lookupFailure addr change) :=
  (kept.getAccount addr).adapted fun _ => Leads.check fun _ =>
    kept.assignAccount _

end RecordInvariant

end Thrylos
