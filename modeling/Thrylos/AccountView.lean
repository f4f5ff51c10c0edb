import Mathlib.Logic.Function.Basic
import Thrylos.ExecutionLemmas

/-!
The accounts of a node as a function from addresses, and a ledger whose cache and records agree on
it. There a native transaction is a plan: the accounts it assigns, worked out from the view alone.
-/

namespace Thrylos

abbrev View := Address → Except String Account

namespace View

def set (view : View) (acc : Account) : View :=
  Function.update view acc.address (.ok acc)

def assign (view : View) (accounts : List Account) : View := accounts.foldl set view

end View

def Ledger.SettledAt (am : Ledger) (addr : Address) : Prop :=
  ∀ acc, am.cache.peek addr = some acc → storedAccount am addr = .ok (some acc)

def Ledger.CoherentExcept (am : Ledger) (loose : List Address) : Prop :=
  ∀ addr acc, addr ∉ loose → am.cache.peek addr = some acc → storedAccount am addr = .ok (some acc)

abbrev Ledger.Coherent (am : Ledger) : Prop := am.CoherentExcept []

section Coherence

variable {cfg : ShardConfig} {am : Ledger} {addr : Address} {acc : Account} {loose : List Address}

theorem normalizeAccountCompat_canonical {acc norm : Account}
    (ok : normalizeAccountCompat acc = .ok norm) : norm.Canonical := by
  obtain ⟨_, delegations, rfl⟩ := normalizeAccountCompat_ok ok
  exact canonicalAmounts_canonical delegations

theorem storedAccount_canonical (stored : storedAccount am addr = .ok (some acc)) :
    acc.Canonical := by
  unfold storedAccount at stored
  split at stored
  · simp at stored
  · split at stored
    · simp at stored
    · rename_i norm ok
      cases stored
      exact normalizeAccountCompat_canonical ok

theorem fresh_canonical : (Account.fresh addr).Canonical := rfl

theorem storedAccount_insert_self (canonical : acc.Canonical)
    (stored : am.accounts.find? acc.address = some acc) :
    storedAccount am acc.address = .ok (some acc) := by
  have norm : normalizeAccountCompat acc = .ok acc := canonical
  simp only [storedAccount, stored, norm]

variable {left right : Ledger}

theorem storedAccount_congr (same : left.accounts.find? addr = right.accounts.find? addr) :
    storedAccount left addr = storedAccount right addr := by
  simp only [storedAccount, same]

namespace Ledger.SettledAt

variable {watched : Address}

theorem load (settled : am.SettledAt watched) (addr : Address) :
    (am.load addr).SettledAt watched := by
  intro acc cached
  rw [storedAccount_congr (congrArg (KeyedMap.find? · watched) load_accounts)]
  unfold Ledger.load at cached
  cases hit : am.cache.peek addr with
  | some => exact settled acc (by simpa [hit] using cached)
  | none =>
  rcases stored : storedAccount am addr with err | _ | saved
  · exact settled acc (by simpa [hit, stored] using cached)
  · exact settled acc (by simpa [hit, stored] using cached)
  · simp only [hit, stored] at cached
    have address := storedAccount_address stored
    by_cases same : saved.address = watched
    · rw [← same, LruCache.peek_add_self] at cached
      rw [← same, ← cached, address, stored]
    · exact settled acc (LruCache.peek_add_other same cached)

theorem write (settled : am.SettledAt watched) (ne : acc.address ≠ watched) :
    (am.write acc).SettledAt watched := by
  intro cached found
  refine settled cached ?_
  simpa [Ledger.write, ne] using found

theorem store_other (settled : am.SettledAt watched) (ne : acc.address ≠ watched) :
    (am.store acc).SettledAt watched := by
  intro cached found
  rw [← settled cached (LruCache.peek_add_other ne found)]
  exact storedAccount_congr (by simp [Ledger.store, ne])

theorem store_self (canonical : acc.Canonical) : (am.store acc).SettledAt acc.address := by
  intro cached found
  simp only [Ledger.store, LruCache.peek_add_self, Option.some.injEq] at found
  subst found
  exact storedAccount_insert_self canonical (by simp [Ledger.store])

theorem readAccount_eq (settled : am.SettledAt watched) (readable : Readable cfg watched) :
    readAccount cfg am watched =
      (storedAccount am watched).map (·.getD (Account.fresh watched)) := by
  rw [readAccount_of_readable readable]
  cases cached : am.cache.peek watched with
  | none => rfl
  | some acc => simp [settled acc cached, Except.map]

theorem readAccount_congr {other : Ledger} (settled : am.SettledAt watched)
    (otherSettled : other.SettledAt watched)
    (same : am.accounts.find? watched = other.accounts.find? watched) :
    readAccount cfg am watched = readAccount cfg other watched := by
  by_cases readable : Readable cfg watched
  · rw [settled.readAccount_eq readable, otherSettled.readAccount_eq readable,
      storedAccount_congr same]
  · exact readAccount_of_not_readable readable am other

end Ledger.SettledAt

namespace Ledger.CoherentExcept

theorem settledAt (coherent : am.CoherentExcept loose) (tight : addr ∉ loose) :
    am.SettledAt addr := fun acc => coherent addr acc tight

theorem load (coherent : am.CoherentExcept loose) (addr : Address) :
    (am.load addr).CoherentExcept loose :=
  fun _ acc tight => (coherent.settledAt tight).load addr acc

theorem write (coherent : am.CoherentExcept loose) (acc : Account) :
    (am.write acc).CoherentExcept (acc.address :: loose) := by
  intro other cached tight
  simp only [List.mem_cons, not_or] at tight
  exact (coherent.settledAt tight.2).write (Ne.symm tight.1) cached

theorem store {rest : List Address} (coherent : am.CoherentExcept loose)
    (canonical : acc.Canonical) (covers : ∀ addr ∈ loose, addr = acc.address ∨ addr ∈ rest) :
    (am.store acc).CoherentExcept rest := by
  intro other cached tight
  by_cases same : acc.address = other
  · subst same
    exact Ledger.SettledAt.store_self canonical cached
  · have settled : am.SettledAt other := coherent.settledAt fun mem =>
      (covers other mem).elim (fun equal => same equal.symm) tight
    exact settled.store_other same cached

theorem write_store (coherent : am.Coherent) (canonical : acc.Canonical) :
    ((am.write acc).store acc).Coherent :=
  (coherent.write acc).store canonical (by simp)

end Ledger.CoherentExcept

theorem readAccount_coherent (coherent : am.Coherent) (readable : Readable cfg addr) :
    readAccount cfg am addr = (storedAccount am addr).map (·.getD (Account.fresh addr)) :=
  (coherent.settledAt (by simp)).readAccount_eq readable

theorem readAccount_eq_of_stored (coherentLeft : left.Coherent)
    (coherentRight : right.Coherent) (same : left.accounts.find? addr = right.accounts.find? addr) :
    readAccount cfg left addr = readAccount cfg right addr :=
  (coherentLeft.settledAt (by simp)).readAccount_congr (coherentRight.settledAt (by simp)) same

theorem Ledger.SettledAt.canonical (settled : am.SettledAt addr)
    (read : readAccount cfg am addr = .ok acc) : acc.Canonical := by
  rw [settled.readAccount_eq (readAccount_readable read)] at read
  rcases stored : storedAccount am addr with err | _ | saved
  · simp [stored, Except.map] at read
  · simp only [stored, Except.map, Option.getD_none, Except.ok.injEq] at read
    exact read ▸ fresh_canonical
  · simp only [stored, Except.map, Option.getD_some, Except.ok.injEq] at read
    exact read ▸ storedAccount_canonical stored

theorem readAccount_canonical (coherent : am.Coherent)
    (read : readAccount cfg am addr = .ok acc) : acc.Canonical :=
  (coherent.settledAt (by simp)).canonical read

theorem readAccount_load_coherent (coherent : am.Coherent) (first other : Address) :
    readAccount cfg (am.load first) other = readAccount cfg am other :=
  readAccount_eq_of_stored (coherent.load first) coherent (by rw [load_accounts])

def recordView (cfg : ShardConfig) (records : KeyedMap Account.address) : View :=
  readAccount cfg { Ledger.new with accounts := records }

theorem readAccount_recordView (coherent : am.Coherent) :
    readAccount cfg am = recordView cfg am.accounts := by
  funext other
  exact readAccount_eq_of_stored coherent
    (fun _ _ _ cached => by simp [Ledger.new, LruCache.new, LruCache.peek] at cached) rfl

theorem recordView_insert (records : KeyedMap Account.address)
    (readable : Readable cfg acc.address) (canonical : acc.Canonical) :
    recordView cfg (records.insert acc) = View.set (recordView cfg records) acc := by
  funext other
  unfold View.set recordView
  by_cases same : other = acc.address
  · subst same
    rw [readAccount_of_readable readable, storedAccount_insert_self canonical (by simp),
      Function.update_self]
    rfl
  · rw [Function.update_of_ne same]
    exact readAccount_congr rfl (by simp [Ne.symm same])

theorem recordView_foldl (accounts : List Account) (records : KeyedMap Account.address)
    (fit : ∀ acc ∈ accounts, Readable cfg acc.address ∧ acc.Canonical) :
    recordView cfg (accounts.foldl KeyedMap.insert records) =
      View.assign (recordView cfg records) accounts := by
  induction accounts generalizing records with
  | nil => rfl
  | cons acc _ ih =>
    obtain ⟨readable, canonical⟩ := fit acc (by simp)
    rw [List.foldl_cons, ih _ (fun other mem => fit other (by simp [mem])),
      recordView_insert records readable canonical]
    rfl

end Coherence

theorem updateBalance_cases (cfg : NodeConfig) (addr : Address) (newBalance : Int)
    (ws : WorldState) :
    (∃ err, (0 ≤ newBalance → ∃ unread, readAccount cfg ws.ledger addr = .error unread) ∧
      updateBalance cfg addr newBalance ws = .error err ws) ∨
    (∃ acc norm, readAccount cfg ws.ledger addr = .ok acc ∧
      Updated cfg { acc with balance := mustUint256Bytes newBalance } norm ∧
      updateBalance cfg addr newBalance ws = .ok () { ws with
        ledger := ((ws.ledger.load addr).write norm).store norm }) ∨
    (∃ acc norm err, readAccount cfg ws.ledger addr = .ok acc ∧
      SameHoldings norm { acc with balance := mustUint256Bytes newBalance } ∧
      (∀ final, ¬ Updated cfg { acc with balance := mustUint256Bytes newBalance } final) ∧
      updateBalance cfg addr newBalance ws = .error err { ws with
        ledger := (ws.ledger.load addr).write norm }) := by
  unfold updateBalance
  split_ifs with negative
  · exact Or.inl ⟨_, fun nonnegative => absurd negative (not_lt.mpr nonnegative), rfl⟩
  dsimp only
  cases found : readAccount cfg ws.ledger addr with
  | error err =>
    have failed := onLedger_error (getAccount_error found)
    exact Or.inl ⟨_, fun _ => ⟨err, rfl⟩, adapt_error failed⟩
  | ok acc =>
  refine Or.inr ?_
  rw [adapt_ok (onLedger_ok (getAccount_ok found)), bind_ok (onLedger_ok (writeThrough_ok _ _))]
  rcases updateAccount_cases cfg
      { acc with balance := mustUint256Bytes newBalance }
      ((ws.ledger.load addr).write { acc with balance := mustUint256Bytes newBalance }) with
    ⟨norm, updated, ran⟩ | ⟨norm, err, same, refused, ran⟩
  · refine Or.inl ⟨acc, norm, rfl, updated, ?_⟩
    rw [adapt_ok (onLedger_ok ran), write_write_ledger updated.sameHoldings.address.symm]
    rfl
  · refine Or.inr ⟨acc, norm, s!"failed to update account {text addr}: " ++ err, rfl,
      same, refused, ?_⟩
    rw [adapt_error (onLedger_error ran), write_write_ledger same.address.symm]

end Thrylos
