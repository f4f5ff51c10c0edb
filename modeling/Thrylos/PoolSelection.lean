import Thrylos.PoolRuns

/-!
`GetExecutableTransactions`: a first pass takes what each sender can execute, and a second one fills
the rest up with what pays best.
-/

namespace Thrylos

/-- The orders of the walk over the senders and of the sort by price, and what the account manager
answers; a failed answer is none. -/
structure Selection where
  walk : List Address → List Address
  walk_perm : ∀ addrs, (walk addrs).Perm addrs
  byPrice : List Transaction → List Transaction
  byPrice_perm : ∀ txs, (byPrice txs).Perm txs
  byPrice_sorted : ∀ txs, (byPrice txs).Pairwise fun first second =>
    second.gasPriceBig ≤ first.gasPriceBig
  account : Address → Option Account
  maxCount : Int

def costOf (txs : List Transaction) : Int := (txs.map Transaction.totalCostBig).sum

namespace Selection

variable (sel : Selection)

/-- The inner loop of the first pass, over one sender's transactions. -/
def takeRun : UInt64 → Int → List Transaction → List Transaction → List Transaction
  | _, _, executable, [] => executable
  | expectedNonce, remaining, executable, tx :: rest =>
    if sel.maxCount ≤ executable.length then executable
    else if tx.nonce = expectedNonce then
      if tx.totalCostBig ≤ remaining then
        takeRun (expectedNonce + 1) (remaining - tx.totalCostBig) (executable ++ [tx]) rest
      else executable
    else if expectedNonce < tx.nonce then executable
    else takeRun expectedNonce remaining executable rest

def firstPass (pool : Pool) : List Transaction → List Address → List Transaction
  | executable, [] => executable
  | executable, addr :: rest =>
    if sel.maxCount ≤ executable.length then executable
    else match sel.account addr with
    | none => firstPass pool executable rest
    | some acc =>
      firstPass pool (sel.takeRun acc.nonce (parseBigInt acc.balance) executable
        (pool.getTransactionsForAddress addr)) rest

/-- A nonce that cannot be read counts as zero. -/
def secondPass : List Transaction → List Transaction → List Transaction
  | executable, [] => executable
  | executable, tx :: rest =>
    let currentNonce := (sel.account tx.fromAddr).elim 0 Account.nonce
    if sel.maxCount ≤ executable.length then executable
    else if currentNonce ≤ tx.nonce ∧ tx.nonce ≤ currentNonce + 5 then
      secondPass (executable ++ [tx]) rest
    else secondPass executable rest

def inOrder (pool : Pool) : List Transaction :=
  sel.firstPass pool [] (sel.walk pool.byAddress.keys)

def remaining (pool : Pool) : List Transaction :=
  pool.pending.entries.filter fun tx => (sel.inOrder pool).all fun taken => taken.id ≠ tx.id

def getExecutableTransactions (pool : Pool) : List Transaction :=
  let executable := sel.inOrder pool
  if executable.length < sel.maxCount ∧ executable.length < pool.pending.entries.length / 2 then
    sel.secondPass executable (sel.byPrice (sel.remaining pool))
  else executable

def ownedBy (addr : Address) (txs : List Transaction) : List Transaction :=
  txs.filter fun tx => tx.fromAddr = addr

def Consecutive : UInt64 → List Transaction → Prop
  | _, [] => True
  | nonce, tx :: rest => tx.nonce = nonce ∧ Consecutive (nonce + 1) rest

structure Executable (txs : List Transaction) : Prop where
  count : (txs.length : Int) ≤ sel.maxCount
  once : txs.Nodup
  runs : ∀ addr, ownedBy addr txs ≠ [] → ∃ acc, sel.account addr = some acc ∧
    Consecutive acc.nonce (ownedBy addr txs) ∧ costOf (ownedBy addr txs) ≤ parseBigInt acc.balance

structure Taken (nonce : UInt64) (funds : Int) (txs run : List Transaction) (full : Prop) : Prop where
  sub : run.Sublist txs
  consecutive : Consecutive nonce run
  cost : costOf run ≤ funds
  maximal : full ∨ ∀ tx ∈ txs, tx ∉ run → nonce ≤ tx.nonce → Consecutive nonce (run ++ [tx]) →
    funds < costOf run + tx.totalCostBig

variable {sel} {nonce : UInt64} {funds : Int} {txs run executable : List Transaction}
  {tx : Transaction} {full : Prop}

theorem costOf_cons : costOf (tx :: txs) = tx.totalCostBig + costOf txs := by
  simp [costOf]

theorem costOf_append (first second : List Transaction) :
    costOf (first ++ second) = costOf first + costOf second := by
  simp [costOf]

theorem Taken.nothing (solvent : 0 ≤ funds)
    (maximal : full ∨ ∀ tx ∈ txs, tx.nonce = nonce → funds < tx.totalCostBig) :
    Taken nonce funds txs [] full where
  sub := List.nil_sublist _
  consecutive := trivial
  cost := solvent
  maximal := maximal.imp_right fun short tx listed _ _ next => by
    simpa [costOf] using short tx listed next.1

theorem Taken.cons (taken : Taken (nonce + 1) (funds - tx.totalCostBig) txs run full)
    (next : tx.nonce = nonce) (later : ∀ other ∈ txs, tx.nonce < other.nonce) :
    Taken nonce funds (tx :: txs) (tx :: run) full where
  sub := taken.sub.cons_cons tx
  consecutive := ⟨next, taken.consecutive⟩
  cost := by
    have cost := taken.cost
    rw [costOf_cons]
    omega
  maximal := taken.maximal.imp_right fun maximal other listed new _ runs => by
    have short := maximal other (by grind) (by grind) (by grind) runs.2
    rw [costOf_cons]
    omega

theorem Taken.skip (taken : Taken nonce funds txs run full) (passed : tx.nonce < nonce) :
    Taken nonce funds (tx :: txs) run full where
  sub := taken.sub.cons tx
  consecutive := taken.consecutive
  cost := taken.cost
  maximal := taken.maximal.imp_right fun maximal other listed => by grind

theorem takeRun_spec (sel : Selection) (nonce : UInt64) (executable : List Transaction)
    (ordered : txs.Pairwise fun first second => first.nonce < second.nonce) (solvent : 0 ≤ funds) :
    ∃ run, sel.takeRun nonce funds executable txs = executable ++ run ∧
      Taken nonce funds txs run (sel.maxCount ≤ (executable ++ run).length) ∧
      (run = [] ∨ ((executable ++ run).length : Int) ≤ sel.maxCount) := by
  induction txs generalizing nonce funds executable with
  | nil => exact ⟨[], by simp [takeRun], .nothing solvent (.inr (by simp)), .inl rfl⟩
  | cons tx rest ih =>
    obtain ⟨later, ordered⟩ := List.pairwise_cons.mp ordered
    rw [takeRun]
    split_ifs with stop next covered gap
    · exact ⟨[], by simp, .nothing solvent (.inl (by simpa using stop)), .inl rfl⟩
    · obtain ⟨run, ran, taken, room⟩ :=
        ih (nonce + 1) (executable ++ [tx]) ordered (sub_nonneg.mpr covered)
      rw [List.append_assoc] at ran taken room
      refine ⟨tx :: run, ran, taken.cons next later, .inr ?_⟩
      rcases room with rfl | room
      · simp
        omega
      · exact room
    · exact ⟨[], by simp, .nothing solvent (.inr (by grind)), .inl rfl⟩
    · exact ⟨[], by simp, .nothing solvent (.inr (by grind)), .inl rfl⟩
    · obtain ⟨run, ran, taken, room⟩ := ih nonce executable ordered solvent
      exact ⟨run, ran, taken.skip (by grind), room⟩

structure RunOf (sel : Selection) (pool : Pool) (addr : Address) (run : List Transaction)
    (full : Prop) : Prop where
  unread : sel.account addr = none → run = []
  taken : ∀ acc, sel.account addr = some acc →
    Taken acc.nonce (parseBigInt acc.balance) (pool.getTransactionsForAddress addr) run full

variable {pool : Pool} {addr : Address} {addrs : List Address} {wider : Prop}

theorem RunOf.nothing (done : full) : RunOf sel pool addr [] full :=
  ⟨fun _ => rfl, fun _ _ => .nothing (Int.natCast_nonneg _) (.inl done)⟩

theorem RunOf.weaken (runs : RunOf sel pool addr run full) (weaker : full → wider) :
    RunOf sel pool addr run wider :=
  ⟨runs.unread, fun acc read =>
    { runs.taken acc read with maximal := (runs.taken acc read).maximal.imp_left weaker }⟩

theorem ownedBy_append (addr : Address) (first second : List Transaction) :
    ownedBy addr (first ++ second) = ownedBy addr first ++ ownedBy addr second :=
  List.filter_append ..

theorem firstPass_spec (sel : Selection) (executable : List Transaction)
    (indexed : pool.view.Indexed) (nodup : addrs.Nodup) :
    ∃ taken, sel.firstPass pool executable addrs = executable ++ taken ∧
      (∀ tx ∈ taken, tx.fromAddr ∈ addrs) ∧ (∀ addr, RunOf sel pool addr (ownedBy addr taken)
        (addr ∉ addrs ∨ sel.maxCount ≤ (executable ++ taken).length)) ∧
      (taken = [] ∨ ((executable ++ taken).length : Int) ≤ sel.maxCount) := by
  induction addrs generalizing executable with
  | nil => exact ⟨[], by simp [firstPass], by simp, fun _ => .nothing (by simp), .inl rfl⟩
  | cons addr rest ih =>
    obtain ⟨new, nodup⟩ := List.nodup_cons.mp nodup
    rw [firstPass]
    by_cases stop : sel.maxCount ≤ executable.length
    · rw [if_pos stop]
      exact ⟨[], by simp, by simp, fun _ => .nothing (.inr (by simpa using stop)), .inl rfl⟩
    rw [if_neg stop]
    cases read : sel.account addr with
    | none =>
      obtain ⟨taken, ran, owners, runs, room⟩ := ih executable nodup
      refine ⟨taken, ran, fun tx listed => .tail _ (owners tx listed), fun other => ?_, room⟩
      by_cases own : other = addr
      · subst own
        exact ⟨(runs other).unread, fun acc found => by cases read.symm.trans found⟩
      · exact (runs other).weaken (by simp [own])
    | some acc =>
      have ordered : (pool.getTransactionsForAddress addr).Pairwise
          fun first second => first.nonce < second.nonce :=
        (pool.senderTransactions addr).sorted.imp UInt64.lt_iff_toNat_lt.mpr
      obtain ⟨run, ran, taken, room⟩ := takeRun_spec sel acc.nonce executable ordered
        (Int.natCast_nonneg (parseBigInt acc.balance))
      have owners : ∀ tx ∈ run, tx.fromAddr = addr := fun tx listed =>
        ((indexed.senders addr tx).mp (taken.sub.subset listed)).2
      obtain ⟨others, ranOthers, ownersOthers, runs, roomOthers⟩ :=
        ih (executable ++ run) nodup
      rw [List.append_assoc] at ranOthers runs roomOthers
      refine ⟨run ++ others, ?_, ?_, fun other => ?_, ?_⟩
      · dsimp only
        rw [ran, ranOthers]
      · grind
      · rw [ownedBy_append]
        by_cases own : other = addr
        · subst own
          have all : ownedBy other run = run := List.filter_eq_self.mpr (by simpa using owners)
          have none : ownedBy other others = [] := List.filter_eq_nil_iff.mpr (by grind)
          rw [all, none, List.append_nil]
          refine ⟨fun missing => ?_, fun acc' found => ?_⟩
          · cases read.symm.trans missing
          · cases read.symm.trans found
            refine { taken with maximal := taken.maximal.imp_left fun full => .inr ?_ }
            rw [← List.append_assoc, List.length_append]
            omega
        · have none : ownedBy other run = [] := List.filter_eq_nil_iff.mpr (by grind)
          rw [none]
          exact (runs other).weaken (by simp [own])
      · rcases roomOthers with rfl | roomOthers
        · simpa using room
        · exact .inr roomOthers

theorem secondPass_spec (sel : Selection) (executable txs : List Transaction) :
    ∃ more, sel.secondPass executable txs = executable ++ more ∧ more.Sublist txs ∧
      ∀ tx ∈ more, (sel.account tx.fromAddr).elim 0 Account.nonce ≤ tx.nonce := by
  induction txs generalizing executable with
  | nil => exact ⟨[], by simp [secondPass], .slnil, by simp⟩
  | cons tx rest ih =>
    rw [secondPass]
    split_ifs with stop close
    · exact ⟨[], by simp, List.nil_sublist _, by simp⟩
    · obtain ⟨more, ran, sub, current⟩ := ih (executable ++ [tx])
      exact ⟨tx :: more, by simp [ran], sub.cons_cons tx, by grind⟩
    · obtain ⟨more, ran, sub, current⟩ := ih executable
      exact ⟨more, ran, sub.cons tx, current⟩

/-- What the second pass looks for. -/
def Near (sel : Selection) (tx : Transaction) : Prop :=
  let currentNonce := (sel.account tx.fromAddr).elim 0 Account.nonce
  currentNonce ≤ tx.nonce ∧ tx.nonce ≤ currentNonce + 5

instance (sel : Selection) (tx : Transaction) : Decidable (sel.Near tx) :=
  inferInstanceAs (Decidable (_ ∧ _))

theorem secondPass_eq_iff (room : executable.length < sel.maxCount) :
    sel.secondPass executable txs = executable ↔ ∀ tx ∈ txs, ¬ sel.Near tx := by
  induction txs with
  | nil => simp [secondPass]
  | cons tx rest ih =>
    rw [secondPass, List.forall_mem_cons, ← ih, if_neg (not_le.mpr room)]
    dsimp only [Near]
    split_ifs with near
    · obtain ⟨more, ran, -⟩ := secondPass_spec sel (executable ++ [tx]) rest
      rw [ran]
      simp [near]
    · simp [near]

/-- The first pass comes short and leaves a transaction that the second pass takes. -/
def Backfills (sel : Selection) (pool : Pool) : Prop :=
  ((sel.inOrder pool).length < sel.maxCount ∧
    (sel.inOrder pool).length < pool.pending.entries.length / 2) ∧
    ∃ tx ∈ sel.remaining pool, sel.Near tx

theorem getExecutableTransactions_eq_iff :
    sel.getExecutableTransactions pool = sel.inOrder pool ↔ ¬ sel.Backfills pool := by
  unfold getExecutableTransactions Backfills
  dsimp only
  split_ifs with short
  · rw [secondPass_eq_iff short.1]
    simp [short, (sel.byPrice_perm _).mem_iff]
  · simp [short]

theorem nodup_of_ownedBy (each : ∀ addr, (ownedBy addr txs).Nodup) : txs.Nodup := by
  rw [List.nodup_iff_count_le_one]
  intro tx
  have own := List.nodup_iff_count_le_one.mp (each tx.fromAddr) tx
  rwa [ownedBy, List.count_filter (by simp)] at own

theorem Consecutive.first (runs : Consecutive nonce (run ++ tx :: txs)) :
    Consecutive nonce (run ++ [tx]) := by
  induction run generalizing nonce with
  | nil => exact ⟨runs.1, trivial⟩
  | cons head rest ih => exact ⟨runs.1, ih runs.2⟩

theorem executable_of_runs {full : Address → Prop}
    (runs : ∀ addr, RunOf sel pool addr (ownedBy addr txs) (full addr))
    (room : (txs.length : Int) ≤ sel.maxCount) : sel.Executable txs := by
  refine ⟨room, nodup_of_ownedBy fun addr => ?_, fun addr some => ?_⟩
  · cases read : sel.account addr with
    | none =>
      rw [(runs addr).unread read]
      exact .nil
    | some acc =>
      exact ((runs addr).taken acc read).sub.nodup (pool.senderTransactions addr).entries_nodup
  · cases read : sel.account addr with
    | none => exact absurd ((runs addr).unread read) some
    | some acc =>
      have own := (runs addr).taken acc read
      exact ⟨acc, rfl, own.consecutive, own.cost⟩

theorem Executable.nothing_more {more : List Transaction} (asked : sel.Executable (txs ++ more))
    (priced : ∀ tx ∈ more, 0 ≤ tx.totalCostBig)
    (short : ∀ tx ∈ more, ∀ acc, sel.account tx.fromAddr = some acc →
      Consecutive acc.nonce (ownedBy tx.fromAddr txs ++ [tx]) →
      parseBigInt acc.balance < costOf (ownedBy tx.fromAddr txs) + tx.totalCostBig) :
    more = [] := by
  cases more with
  | nil => rfl
  | cons tx more =>
  obtain ⟨acc, read, consecutive, cost⟩ := asked.runs tx.fromAddr (by simp [ownedBy])
  have own : ownedBy tx.fromAddr (txs ++ tx :: more) =
      ownedBy tx.fromAddr txs ++ tx :: ownedBy tx.fromAddr more := by
    simp [ownedBy]
  rw [own] at consecutive cost
  have short := short tx (.head _) acc read consecutive.first
  have rest : 0 ≤ costOf (ownedBy tx.fromAddr more) := by
    refine List.sum_nonneg fun cost mapped => ?_
    obtain ⟨other, later, rfl⟩ := List.mem_map.mp mapped
    exact priced other (.tail _ (List.mem_of_mem_filter later))
  rw [costOf_append, costOf_cons] at cost
  omega

/-- The answer is executable exactly if the second pass finds nothing to add. -/
theorem getExecutableTransactions_iff (sel : Selection) (cfg : PoolConfig) (managed : Bool)
    (st : TransactionPool.PoolState) (reached : TransactionPool.Reached cfg managed st) :
    let pool := st.world.txPool
    sel.Executable (sel.getExecutableTransactions pool) ↔
      0 ≤ sel.maxCount ∧ ¬ sel.Backfills pool := by
  intro pool
  rw [← getExecutableTransactions_eq_iff]
  have indexed : pool.view.Indexed := reached.kept.indexed
  have nodup : (sel.walk pool.byAddress.keys).Nodup :=
    (sel.walk_perm _).nodup_iff.mpr pool.byAddress.keys_nodup
  obtain ⟨taken, ran, -, runs, room⟩ := firstPass_spec sel [] indexed nodup
  change sel.inOrder pool = taken at ran
  constructor
  · intro asked
    refine ⟨(Int.natCast_nonneg _).trans asked.count, ?_⟩
    unfold getExecutableTransactions at asked ⊢
    dsimp only at asked ⊢
    split_ifs at asked ⊢ with unfilled
    · obtain ⟨more, filled, sub, current⟩ :=
        secondPass_spec sel (sel.inOrder pool) (sel.byPrice (sel.remaining pool))
      have left : ∀ tx ∈ more, tx ∈ pool.pending.entries ∧ tx ∉ taken := by
        intro tx listed
        have remains := (sel.byPrice_perm _).mem_iff.mp (sub.subset listed)
        simp only [remaining, List.mem_filter, List.all_eq_true, ran] at remains
        exact ⟨remains.1, fun again => by simpa using remains.2 tx again⟩
      rw [filled, ran] at asked
      rw [filled, asked.nothing_more (fun tx listed =>
        PoolView.totalCostBig_nonneg (reached.kept.gas tx (left tx listed).1)) ?_, List.append_nil]
      intro tx added acc read
      obtain ⟨pending, new⟩ := left tx added
      have listed : tx ∈ pool.getTransactionsForAddress tx.fromAddr :=
        (indexed.senders _ _).mpr ⟨pending, rfl⟩
      have known : tx.fromAddr ∈ sel.walk pool.byAddress.keys := by
        rw [(sel.walk_perm _).mem_iff]
        by_contra missing
        simp only [Pool.getTransactionsForAddress, Pool.senderTransactions,
          KeyedMap.find?_eq_none.mpr missing] at listed
        exact List.not_mem_nil listed
      exact ((runs tx.fromAddr).taken acc read).maximal.resolve_left
        (by simp [known, ← ran, unfilled.1]) tx listed
        (fun again => new (List.mem_of_mem_filter again))
        (by simpa [read] using current tx added)
    · rfl
  · rintro ⟨nonnegative, same⟩
    rw [same, ran]
    refine executable_of_runs runs ?_
    rcases room with rfl | room
    · exact nonnegative
    · exact room

end Selection

namespace TransactionPool

def sampleSelection : Selection where
  walk := id
  walk_perm _ := .refl _
  byPrice txs := txs.insertionSort fun first second => second.gasPriceBig ≤ first.gasPriceBig
  byPrice_perm _ := List.perm_insertionSort _ _
  byPrice_sorted txs := by
    have total : Std.Total fun first second : Transaction => second.gasPriceBig ≤ first.gasPriceBig :=
      ⟨fun _ _ => le_total _ _⟩
    have trans : IsTrans Transaction fun first second => second.gasPriceBig ≤ first.gasPriceBig :=
      ⟨fun _ _ _ below above => above.trans below⟩
    exact List.pairwise_insertionSort _ _
  account addr := some { Account.fresh addr with balance := [1, 0, 0] }
  maxCount := 2

theorem a_pending_transaction_is_executable : sampleSelection.Executable
      (sampleSelection.getExecutableTransactions (sampleOne 2).world.txPool) :=
  (sampleSelection.getExecutableTransactions_iff (samplePool 2) true (sampleOne 2)
    (sampleOne_reached (.inr rfl))).mpr (by
      unfold Selection.Backfills
      decide +kernel)

/-- Nonces 1 and 2 are returned for a sender whose nonce is 0. -/
theorem future_transactions_are_returned : ∃ st, Reached (samplePool 2) true st ∧
      (sampleSelection.getExecutableTransactions st.world.txPool).map Transaction.nonce = [1, 2] := by
  have returned : (run (samplePool 2) true
      [(sampleVisit, .add sampleFunds.ledger (samplePooled 1 1 2)),
        (sampleVisit, .add sampleFunds.ledger (samplePooled 2 2 2))]
      ⟨sampleFunds, 0, fun _ => 0⟩).any (fun st =>
        (sampleSelection.getExecutableTransactions st.world.txPool).map Transaction.nonce = [1, 2]) =
          true := by
    decide +kernel
  obtain ⟨st, ran, nonces⟩ := (Option.any_eq_true ..).mp returned
  exact ⟨st, ⟨_, _, _, rfl, ran⟩, of_decide_eq_true nonces⟩

end TransactionPool

end Thrylos
