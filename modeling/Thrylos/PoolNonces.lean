import Thrylos.PoolRuns

/-!
What the pool answers about nonces: the one to use next, and the ones that are missing.
-/

namespace Thrylos

variable {nonce highest : UInt64}

theorem toNat_next (nonce : UInt64) (bounded : nonce + 1 ≠ 0) : (nonce + 1).toNat = nonce.toNat + 1 := by
  have wraps := UInt64.toNat_add nonce 1
  have below := nonce.toNat_lt
  have nonzero : (nonce + 1).toNat ≠ 0 := fun zero => bounded (UInt64.toNat.inj zero)
  have one : (1 : UInt64).toNat = 1 := rfl
  omega

namespace Pool

def highestNonce (start : UInt64) : List UInt64 → UInt64
  | [] => start
  | nonce :: rest => highestNonce (if start < nonce then nonce else start) rest

def getNextNonce (pool : Pool) (addr : Address) (currentNonce : UInt64) : UInt64 :=
  match pool.byAddress.find? addr with
  | none =>
    if currentNonce ∈ (pool.reservations addr).entries then currentNonce + 1 else currentNonce
  | some (_, senderTxs) =>
    let highest := highestNonce (currentNonce - 1) (senderTxs.entries.map Transaction.nonce)
    highestNonce highest (pool.reservations addr).entries + 1

/-- The loop of `GetAddressNonceGap`; none when it has not ended after so many rounds. -/
def gapsFrom (senderTxs : SenderTransactions) (highest : UInt64) :
    Nat → UInt64 → Option (List UInt64)
  | 0, _ => none
  | rounds + 1, nonce =>
    if nonce ≤ highest then
      (gapsFrom senderTxs highest rounds (nonce + 1)).map fun gaps =>
        if senderTxs.find? nonce.toNat = none then nonce :: gaps else gaps
    else some []

def getAddressNonceGap (pool : Pool) (addr : Address) (currentNonce : UInt64) (rounds : Nat) :
    Option (List UInt64) :=
  match pool.byAddress.find? addr with
  | none => some []
  | some (_, senderTxs) =>
    let highest := highestNonce (currentNonce - 1) (senderTxs.entries.map Transaction.nonce)
    gapsFrom senderTxs highest rounds currentNonce

theorem highestNonce_spec (start : UInt64) (nonces : List UInt64) :
    start ≤ highestNonce start nonces ∧ (∀ nonce ∈ nonces, nonce ≤ highestNonce start nonces) ∧
      (highestNonce start nonces = start ∨ highestNonce start nonces ∈ nonces) := by
  induction nonces generalizing start with
  | nil | cons nonce rest ih => grind [highestNonce]

theorem highestNonce_next (currentNonce : UInt64) (nonces : List UInt64) :
    highestNonce (currentNonce - 1) nonces + 1 ≠ 0 ↔
      currentNonce ≠ 0 ∧ ∀ nonce ∈ nonces, nonce + 1 ≠ 0 := by
  obtain ⟨above, bounds, among⟩ := highestNonce_spec (currentNonce - 1) nonces
  constructor
  · refine fun bounded => ⟨by grind, fun nonce listed last => ?_⟩
    have below := bounds nonce listed
    grind
  · rintro ⟨positive, each⟩
    rcases among with same | listed
    · grind
    · exact each _ listed

theorem gapsFrom_none (senderTxs : SenderTransactions) (last : highest + 1 = 0) (rounds : Nat) :
    gapsFrom senderTxs highest rounds nonce = none := by
  induction rounds generalizing nonce with
  | zero => rfl
  | succ rounds ih =>
    have inside : nonce ≤ highest := by grind
    rw [gapsFrom, if_pos inside, ih]
    rfl

theorem gapsFrom_some (senderTxs : SenderTransactions) (bounded : highest + 1 ≠ 0)
    (nonce : UInt64) (rounds : Nat) (enough : highest.toNat < nonce.toNat + rounds) :
    ∃ gaps, gapsFrom senderTxs highest (rounds + 1) nonce = some gaps ∧ gaps.Pairwise (· < ·) ∧
      ∀ gap, gap ∈ gaps ↔ nonce ≤ gap ∧ gap ≤ highest ∧ senderTxs.find? gap.toNat = none := by
  induction rounds generalizing nonce with
  | zero =>
    have above : ¬ nonce ≤ highest := by
      rw [UInt64.le_iff_toNat_le]
      omega
    exact ⟨[], by rw [gapsFrom, if_neg above], .nil, by grind⟩
  | succ rounds ih =>
    rw [gapsFrom]
    by_cases inside : nonce ≤ highest
    · have next := toNat_next nonce (by grind)
      obtain ⟨gaps, ran, increasing, listed⟩ := ih (nonce + 1) (by omega)
      rw [if_pos inside, ran, Option.map_some]
      have first : ∀ gap, nonce ≤ gap ↔ gap = nonce ∨ nonce + 1 ≤ gap := by grind
      refine ⟨_, rfl, ?_, fun gap => ?_⟩
      · split_ifs
        · refine .cons (fun gap later => ?_) increasing
          have above := ((listed gap).mp later).1
          grind
        · exact increasing
      · rw [first]
        split_ifs <;> grind
    · exact ⟨[], by rw [if_neg inside], .nil, by grind⟩

variable {pool : Pool} {addr : Address}

def pendingNonces (pool : Pool) (addr : Address) : List UInt64 :=
  (pool.senderTransactions addr).entries.map Transaction.nonce

theorem pendingNonces_of_missing (missing : pool.byAddress.find? addr = none) :
    pool.pendingNonces addr = [] := by
  simp only [pendingNonces, senderTransactions, missing]
  rfl

theorem pendingNonces_of_find? {entry : Address × SenderTransactions}
    (found : pool.byAddress.find? addr = some entry) :
    pool.pendingNonces addr = entry.2.entries.map Transaction.nonce := by
  simp only [pendingNonces, senderTransactions, found]

theorem reserved_pending (indexed : pool.view.Indexed)
    (reserved : nonce ∈ (pool.reservations addr).entries) : nonce ∈ pool.pendingNonces addr := by
  obtain ⟨tx, pending, sender, same⟩ := (indexed.reserved_iff addr nonce).mp reserved
  exact List.mem_map.mpr ⟨tx, (indexed.senders addr tx).mpr ⟨pending, sender⟩, same⟩

theorem getNextNonce_eq (indexed : pool.view.Indexed) (currentNonce : UInt64) :
    pool.getNextNonce addr currentNonce =
      highestNonce (currentNonce - 1) (pool.pendingNonces addr) + 1 := by
  unfold getNextNonce
  cases found : pool.byAddress.find? addr with
  | none =>
    have alone := pendingNonces_of_missing found
    have free : currentNonce ∉ (pool.reservations addr).entries := fun reserved =>
      List.not_mem_nil (alone ▸ reserved_pending indexed reserved)
    simp only [if_neg free, alone, highestNonce, UInt64.sub_add_cancel]
  | some entry =>
  obtain ⟨_, bounds, _⟩ := highestNonce_spec (currentNonce - 1) (pool.pendingNonces addr)
  dsimp only
  rw [← pendingNonces_of_find? found]
  obtain ⟨above, _, same | reserved⟩ := highestNonce_spec
    (highestNonce (currentNonce - 1) (pool.pendingNonces addr)) (pool.reservations addr).entries
  · rw [same]
  · rw [UInt64.le_antisymm (bounds _ (reserved_pending indexed reserved)) above]

end Pool

namespace TransactionPool

structure Usable (pool : Pool) (addr : Address) (currentNonce next : UInt64) : Prop where
  current : currentNonce ≤ next
  unreserved : next ∉ (pool.reservations addr).entries
  above : ∀ nonce ∈ pool.pendingNonces addr, nonce < next

theorem next_nonce_usable_iff (cfg : PoolConfig) (managed : Bool) (st : PoolState)
    (reached : Reached cfg managed st) (addr : Address) (currentNonce : UInt64) :
    let pool := st.world.txPool
    Usable pool addr currentNonce (pool.getNextNonce addr currentNonce) ↔
      pool.pendingNonces addr = [] ∨
        currentNonce ≠ 0 ∧ ∀ nonce ∈ pool.pendingNonces addr, nonce + 1 ≠ 0 := by
  intro pool
  have indexed : pool.view.Indexed := reached.kept.indexed
  rw [Pool.getNextNonce_eq indexed, ← Pool.highestNonce_next]
  obtain ⟨above, bounds, among⟩ := Pool.highestNonce_spec (currentNonce - 1) (pool.pendingNonces addr)
  constructor
  · intro usable
    refine or_iff_not_imp_left.mpr fun some zero => ?_
    obtain ⟨nonce, listed⟩ := List.exists_mem_of_ne_nil _ some
    have below := usable.above nonce listed
    rw [zero] at below
    exact absurd below UInt64.not_lt_zero
  · intro condition
    have higher : ∀ nonce ∈ pool.pendingNonces addr,
        nonce < Pool.highestNonce (currentNonce - 1) (pool.pendingNonces addr) + 1 := by
      grind
    refine ⟨?_, fun reserved => ?_, higher⟩
    · grind
    · exact UInt64.lt_irrefl _ (higher _ (Pool.reserved_pending indexed reserved))

theorem sampleOne_pendingNonces :
    (sampleOne 2).world.txPool.pendingNonces (sampleAddress 97) = [0] := by
  decide +kernel

theorem the_nonce_after_a_pending_one_is_usable :
    Usable (sampleOne 2).world.txPool (sampleAddress 97) 1
      ((sampleOne 2).world.txPool.getNextNonce (sampleAddress 97) 1) := by
  refine (next_nonce_usable_iff (samplePool 2) true (sampleOne 2) (sampleOne_reached (.inr rfl))
    (sampleAddress 97) 1).mpr (.inr ⟨by decide, ?_⟩)
  rw [sampleOne_pendingNonces]
  simp

/-- The seed of the maximum wraps around, and no pending nonce is higher. -/
theorem the_pending_nonce_zero_is_next : Reached (samplePool 2) true (sampleOne 2) ∧
      (sampleOne 2).world.txPool.getNextNonce (sampleAddress 97) 0 ∈
        (sampleOne 2).world.txPool.pendingNonces (sampleAddress 97) := by
  have reached := sampleOne_reached (.inr rfl)
  have indexed : (sampleOne 2).world.txPool.view.Indexed := reached.kept.indexed
  rw [Pool.getNextNonce_eq indexed, sampleOne_pendingNonces]
  exact ⟨reached, by decide⟩

structure Missing (pool : Pool) (addr : Address) (currentNonce : UInt64) (gaps : List UInt64) :
    Prop where
  increasing : gaps.Pairwise (· < ·)
  complete : ∀ gap, gap ∈ gaps ↔ currentNonce ≤ gap ∧
    (∃ nonce ∈ pool.pendingNonces addr, gap < nonce) ∧ gap ∉ pool.pendingNonces addr

theorem gap_listing_iff (pool : Pool) (addr : Address) (currentNonce : UInt64) :
    (∃ rounds gaps, pool.getAddressNonceGap addr currentNonce rounds = some gaps ∧
        Missing pool addr currentNonce gaps) ↔ pool.byAddress.find? addr = none ∨
        currentNonce ≠ 0 ∧ ∀ nonce ∈ pool.pendingNonces addr, nonce + 1 ≠ 0 := by
  unfold Pool.getAddressNonceGap
  cases found : pool.byAddress.find? addr with
  | none =>
    refine ⟨fun _ => .inl rfl, fun _ => ⟨0, [], rfl, .nil, fun gap => ?_⟩⟩
    simp [Pool.pendingNonces_of_missing found]
  | some entry =>
  have own := Pool.pendingNonces_of_find? found
  have unused : ∀ nonce, entry.2.find? nonce.toNat = none ↔ nonce ∉ pool.pendingNonces addr := by
    intro nonce
    rw [KeyedMap.find?_eq_none, own]
    simp [KeyedMap.keys, UInt64.toNat_inj]
  obtain ⟨_, bounds, among⟩ := Pool.highestNonce_spec (currentNonce - 1) (pool.pendingNonces addr)
  simp only [reduceCtorEq, false_or, ← own]
  rw [← Pool.highestNonce_next]
  constructor
  · rintro ⟨rounds, gaps, ran, _⟩ last
    rw [Pool.gapsFrom_none _ last] at ran
    cases ran
  · intro bounded
    obtain ⟨gaps, ran, increasing, listed⟩ := Pool.gapsFrom_some entry.2 bounded
      currentNonce (_ + 1) (Nat.lt_add_left _ (Nat.lt_succ_self _))
    refine ⟨_, gaps, ran, increasing, fun gap => ?_⟩
    rw [listed, unused]
    grind

/-- No nonce is above the wrapped seed, so the walk from zero does not end. -/
theorem gaps_from_zero_are_never_listed : Reached (samplePool 2) true (sampleOne 2) ∧
      ∀ rounds, (sampleOne 2).world.txPool.getAddressNonceGap (sampleAddress 97) 0 rounds = none := by
  refine ⟨sampleOne_reached (.inr rfl), fun rounds => ?_⟩
  have present : (sampleOne 2).world.txPool.byAddress.find? (sampleAddress 97) ≠ none := by
    intro missing
    cases (Pool.pendingNonces_of_missing missing).symm.trans sampleOne_pendingNonces
  obtain ⟨entry, found⟩ := Option.ne_none_iff_exists'.mp present
  unfold Pool.getAddressNonceGap
  rw [found]
  refine Pool.gapsFrom_none _ ?_ rounds
  by_contra bounded
  exact ((Pool.highestNonce_next 0 _).mp bounded).1 rfl

end TransactionPool

end Thrylos
