import Thrylos.AccountChanges
import Thrylos.StoredAccounts

/-!
A ledger whose cache agrees with the database and whose records `UpdateAccount` would accept. What
it holds is a sum over the records.
-/

namespace Thrylos

structure Ledger.Settled (cfg : ShardConfig) (am : Ledger) : Prop where
  coherent : am.Coherent
  wellKept : am.WellKept cfg

def Ledger.record (am : Ledger) (addr : Address) : Account :=
  (am.accounts.find? addr).getD (Account.fresh addr)

variable {cfg : ShardConfig}

theorem assignAccount_ok {acc norm : Account} (am : Ledger) (updated : Updated cfg acc norm) :
    assignAccount cfg acc am = .ok norm ((am.write norm).store norm) := by
  unfold assignAccount
  rw [EStateM.bind_ok (writeThrough_ok _ _), updateAccount_ok updated,
    write_write_ledger updated.sameHoldings.address.symm]

theorem getAccount_hidden {addr : Address} (hidden : ¬ Readable cfg addr)
    (am : Ledger) : ∃ err, getAccount cfg addr am = .error err am := by
  cases read : readAccount cfg am addr with
  | ok => exact absurd (readAccount_readable read) hidden
  | error err => exact ⟨err, getAccount_error read⟩

namespace Ledger

variable {cfg : ShardConfig} {am : Ledger} {addr : Address} {acc : Account}

theorem record_address (am : Ledger) (addr : Address) : (am.record addr).address = addr := by
  unfold record
  cases found : am.accounts.find? addr with
  | none => rfl
  | some => exact KeyedMap.find?_key found

theorem total_insert_record (am : Ledger) (acc : Account) (measure : Account → Nat)
    (nothing : ∀ addr, measure (Account.fresh addr) = 0) :
    (am.accounts.insert acc).total measure + measure (am.record acc.address) =
      am.accounts.total measure + measure acc := by
  rw [KeyedMap.total_insert]
  unfold record
  cases found : am.accounts.find? acc.address with
  | none =>
    rw [KeyedMap.erase_of_absent found, Option.getD_none, nothing]
    omega
  | some =>
    have whole := KeyedMap.total_erase measure found
    rw [Option.getD_some]
    omega

namespace Settled

theorem read (settled : am.Settled cfg) (readable : Readable cfg addr) :
    readAccount cfg am addr = .ok (am.record addr) := by
  rw [readAccount_coherent settled.coherent readable]
  unfold storedAccount record
  cases found : am.accounts.find? addr with
  | none => rfl
  | some acc =>
    have norm : normalizeAccountCompat acc = .ok acc :=
      (settled.wellKept addr acc found).canonical
    simp only [norm]
    rfl

theorem updated (settled : am.Settled cfg) (readable : Readable cfg addr) :
    Updated cfg (am.record addr) (am.record addr) := by
  unfold record
  cases found : am.accounts.find? addr with
  | none =>
    have shard : belongsToShard cfg addr = true := readable.2
    exact (Updated.iff_of_canonical fresh_canonical).mpr ⟨rfl, fresh_valid readable, shard⟩
  | some acc => exact settled.wellKept addr acc found

theorem load (settled : am.Settled cfg) (addr : Address) : (am.load addr).Settled cfg where
  coherent := settled.coherent.load addr
  wellKept other acc found := settled.wellKept other acc (by rwa [load_accounts] at found)

theorem getAccount (settled : am.Settled cfg) (readable : Readable cfg addr) :
    ∃ loaded, Thrylos.getAccount cfg addr am = .ok (am.record addr) loaded ∧
      loaded.Settled cfg ∧ loaded.accounts = am.accounts :=
  ⟨am.load addr, getAccount_ok (settled.read readable), settled.load addr, load_accounts⟩

theorem assigned {norm : Account} (settled : am.Settled cfg)
    (updated : Updated cfg acc norm) : ((am.write norm).store norm).Settled cfg := by
  refine ⟨settled.coherent.write_store updated.canonical, fun addr found stored => ?_⟩
  change (am.accounts.insert norm).find? addr = some found at stored
  rw [KeyedMap.find?_insert] at stored
  split_ifs at stored
  · cases stored
    exact updated.again
  · exact settled.wellKept addr found stored

theorem assignAccount (settled : am.Settled cfg) (valid : validateAccount acc = .ok ())
    (shard : belongsToShard cfg acc.address = true) :
    ∃ norm after, Thrylos.assignAccount cfg acc am = .ok norm after ∧
      Updated cfg acc norm ∧ after.Settled cfg ∧ after.accounts = am.accounts.insert norm := by
  obtain ⟨norm, updated⟩ := exists_updated_iff.mpr ⟨valid, shard⟩
  exact ⟨norm, _, assignAccount_ok am updated, updated, settled.assigned updated, rfl⟩

end Settled

end Ledger

end Thrylos
