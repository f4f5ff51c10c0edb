import Thrylos.AccountChanges
import Thrylos.BlockAtomicity
import Thrylos.Genesis

/-!
The two nonces of an account: the record the nonce step compares and the field the executions
compare. They agree as long as every consumed nonce is followed by an execution and no EVM
transaction gets through its own nonce step.
-/

namespace Thrylos

open EStateM (Stays Leads)

structure Ledger.Sound (cfg : ShardConfig) (am : Ledger) : Prop extends am.Agrees cfg where
  valid : ∀ addr acc, readAccount cfg am addr = .ok acc → validateAccount acc = .ok ()

section Ledger

variable {cfg : ShardConfig} {am after : Ledger} {addr : Address} {acc : Account}
  {accounts : List Account}

theorem View.assign_cases {view : View} (read : View.assign view accounts addr = .ok acc) :
    acc ∈ accounts ∨ view addr = .ok acc := by
  induction accounts generalizing view with
  | nil => exact Or.inr read
  | cons first rest ih =>
    have assigned : View.assign (view.set first) rest addr = .ok acc := read
    rcases ih assigned with later | assigned
    · exact Or.inl (List.mem_cons_of_mem _ later)
    unfold View.set at assigned
    by_cases same : addr = first.address
    · subst same
      rw [Function.update_self] at assigned
      cases assigned
      exact Or.inl List.mem_cons_self
    · rw [Function.update_of_ne same] at assigned
      exact Or.inr assigned

theorem Ledger.Sound.of_executed (coherent : am.Coherent) (exec : Executed cfg accounts am after)
    (nonces : ∀ addr acc, View.assign (readAccount cfg am) accounts addr = .ok acc →
      storedNonce am addr = acc.nonce)
    (valid : ∀ addr acc, View.assign (readAccount cfg am) accounts addr = .ok acc →
      validateAccount acc = .ok ()) : after.Sound cfg := by
  have view := exec.view coherent
  refine ⟨⟨exec.coherent, fun addr acc read => ?_⟩, fun addr acc read => ?_⟩
  · rw [view] at read
    have recorded : storedNonce after addr = storedNonce am addr := by
      simp only [storedNonce, exec.nonces]
    exact recorded.trans (nonces addr acc read)
  · rw [view] at read
    exact valid addr acc read

theorem Ledger.Sound.load (sound : am.Sound cfg) (addr : Address) : (am.load addr).Sound cfg := by
  refine ⟨⟨sound.coherent.load addr, fun other acc read => ?_⟩, fun other acc read => ?_⟩
  · rw [readAccount_load_coherent sound.coherent] at read
    have recorded : storedNonce (am.load addr) other = storedNonce am other := by
      simp only [storedNonce, load_nonces]
    exact recorded.trans (sound.nonces other acc read)
  · rw [readAccount_load_coherent sound.coherent] at read
    exact sound.valid other acc read

theorem executed_single (coherent : am.Coherent) (canonical : acc.Canonical)
    (readable : Readable cfg acc.address) :
    Executed cfg [acc] am (((am.load addr).write acc).store acc) where
  coherent := (coherent.load addr).write_store canonical
  records := by simp [Ledger.store, Ledger.write]
  nonces := by simp [Ledger.store, Ledger.write]
  fit := by simpa using ⟨readable, canonical⟩

theorem Ledger.Sound.assign (coherent : am.Coherent)
    (others : ∀ other old, other ≠ acc.address → readAccount cfg am other = .ok old →
      storedNonce am other = old.nonce ∧ validateAccount old = .ok ())
    (canonical : acc.Canonical) (readable : Readable cfg acc.address)
    (nonce : storedNonce am acc.address = acc.nonce) (valid : validateAccount acc = .ok ()) :
    (((am.load addr).write acc).store acc).Sound cfg := by
  have read {other : Address} {found : Account}
      (read : View.assign (readAccount cfg am) [acc] other = .ok found) :
      storedNonce am other = found.nonce ∧ validateAccount found = .ok () := by
    simp only [View.assign, List.foldl_cons, List.foldl_nil, View.set] at read
    by_cases same : other = acc.address
    · subst same
      rw [Function.update_self] at read
      cases read
      exact ⟨nonce, valid⟩
    · rw [Function.update_of_ne same] at read
      exact others other found same read
  exact .of_executed coherent (executed_single coherent canonical readable)
    (fun _ _ found => (read found).1) (fun _ _ found => (read found).2)

theorem updateAccount_assigned (canonical : acc.Canonical)
    (valid : validateAccount acc = .ok ()) (shard : belongsToShard cfg acc.address = true)
    (am : Ledger) : updateAccount cfg acc (am.write acc) = .ok acc ((am.write acc).store acc) := by
  rw [updateAccount_ok ((Updated.iff_of_canonical canonical).mpr ⟨rfl, valid, shard⟩),
    write_write_ledger rfl]

theorem Ledger.Sound.setBalance (sound : am.Sound cfg)
    (read : readAccount cfg am addr = .ok acc) (newBalance : Int) :
    let changed := { acc with balance := mustUint256Bytes newBalance }
    updateAccount cfg changed ((am.load addr).write changed) =
        .ok changed (((am.load addr).write changed).store changed) ∧
      (((am.load addr).write changed).store changed).Sound cfg := by
  intro changed
  have address := readAccount_address read
  have fields := readAccount_canonical sound.coherent read
  have canonical : changed.Canonical := canonical_of_fields (by simp [changed]) fields.fields.2.1
    fields.fields.2.2 (canonical_iff.mp fields).2
  have valid : validateAccount changed = .ok () :=
    (validateAccount_congr rfl rfl rfl).trans (sound.valid addr acc read)
  have shard : belongsToShard cfg acc.address = true := readAccount_belongs read
  refine ⟨updateAccount_assigned canonical valid shard _, ?_⟩
  refine .assign sound.coherent (fun other old _ found =>
    ⟨sound.nonces other old found, sound.valid other old found⟩) canonical ?_ ?_ valid
  · exact address ▸ readAccount_readable read
  · have recorded := sound.nonces addr acc read
    rwa [← address] at recorded

theorem Ledger.Sound.bumpNonce (sound : am.Sound cfg) (foreign : ¬ Readable cfg addr) :
    (am.bumpNonce addr).Sound cfg := by
  refine ⟨⟨sound.bumpNonce_coherent addr, fun other acc read => ?_⟩, fun other acc read => ?_⟩
  · rw [readAccount_bumpNonce] at read
    have apart : addr ≠ other := by
      rintro rfl
      exact foreign (readAccount_readable read)
    rw [storedNonce_bumpNonce, if_neg apart]
    exact sound.nonces other acc read
  · rw [readAccount_bumpNonce] at read
    exact sound.valid other acc read

end Ledger

section Evm

variable {cfg : NodeConfig} {tx : Transaction}

theorem sound_stable (addr : Address) (records : NonceStore → Prop) : Stable cfg addr fun ws =>
      ws.ledger.Sound cfg ∧ records ws.ledger.nonces where
  clock _ _ holds := holds
  gas _ _ holds := holds
  read _ other holds := ⟨holds.1.load other, by simpa only [load_nonces] using holds.2⟩
  balance newBalance := by
    rintro ws ⟨sound, recorded⟩
    unfold updateBalance
    split
    · exact ⟨sound, recorded⟩
    dsimp only
    cases read : readAccount cfg ws.ledger addr with
    | error =>
      rw [adapt_error (onLedger_error (getAccount_error read))]
      exact ⟨sound, recorded⟩
    | ok acc =>
    obtain ⟨updated, after⟩ := sound.setBalance read newBalance
    rw [adapt_ok (onLedger_ok (getAccount_ok read)), bind_ok (onLedger_ok (writeThrough_ok _ _)),
      adapt_ok (onLedger_ok updated)]
    have kept : (ws.ledger.load addr).nonces = ws.ledger.nonces := load_nonces
    exact ⟨after, show records (ws.ledger.load addr).nonces from kept ▸ recorded⟩

theorem sound_nonceStep (start : Ledger) (apart : ¬ Readable cfg (cfg.checksumHex tx.fromAddr) ∨
      storedNonce start (cfg.checksumHex tx.fromAddr) ≠ tx.nonce) : NonceStep cfg tx
      (fun ws => ws.ledger.Sound cfg ∧ ws.ledger.nonces = start.nonces)
      (fun ws => ws.ledger.Sound cfg ∧ True) where
  stableBefore := sound_stable tx.fromAddr (· = start.nonces)
  stableAfter := sound_stable tx.fromAddr fun _ => True
  weaken _ holds := ⟨holds.1, trivial⟩
  step ws holds := by
    unfold onLedger atomicIncrementNonce
    dsimp only
    split_ifs with stale
    · exact ⟨holds.1, trivial⟩
    · rcases apart with foreign | other
      · exact ⟨holds.1.bumpNonce foreign, trivial⟩
      · have recorded : storedNonce ws.ledger (cfg.checksumHex tx.fromAddr) =
            storedNonce start (cfg.checksumHex tx.fromAddr) := by
          simp only [storedNonce, holds.2]
        exact absurd (recorded.symm.trans (not_not.mp stale)) other

end Evm

def TransactionType.isGovernance : TransactionType → Bool
  | .governancePropose | .governanceVote | .governanceFinalize => true
  | _ => false

structure GovernanceExecutable (cfg : NodeConfig) (ws : WorldState) (tx : Transaction) : Prop where
  amounts : normalizeTransactionAmounts tx = .ok tx.canonical
  accepted : (cfg.governance { ws with ledger := ws.ledger.bumpNonce tx.fromAddr }
    tx.canonical).1 = .ok ()
  payable : ∃ sender, readAccount cfg ws.ledger tx.fromAddr = .ok sender ∧
    checkNonce tx sender = .ok () ∧ tx.gasCostBig ≤ parseBigInt sender.balance

section Governance

variable {cfg : NodeConfig} {ws : WorldState} {tx : Transaction} {sender : Account}

theorem checkNonce_ok {tx : Transaction} (matched : checkNonce tx sender = .ok ()) :
    sender.nonce = tx.nonce := by
  unfold checkNonce at matched
  split_ifs at matched with other
  exact not_not.mp other

def paidGovernance (tx : Transaction) (sender : Account) : Account :=
  { sender with
    balance := mustUint256Bytes (parseBigInt sender.balance - tx.gasCostBig)
    nonce := sender.nonce + 1 }

structure CoversFee (cfg : ShardConfig) (am : Ledger) (tx : Transaction) (sender : Account) :
    Prop where
  read : readAccount cfg am tx.fromAddr = .ok sender
  covered : tx.gasCostBig ≤ parseBigInt sender.balance
  valid : validateAccount sender = .ok ()

section Gas

variable {cfg : ShardConfig} {am : Ledger}

theorem applyGovernanceGasAndNonce_coversFee (coversFee : CoversFee cfg am tx sender) :
    ∃ norm, Updated cfg (paidGovernance tx sender) norm ∧ applyGovernanceGasAndNonce cfg tx am =
        .ok () (((am.load tx.fromAddr).write norm).store norm) := by
  have valid : validateAccount (paidGovernance tx sender) = .ok () :=
    (validateAccount_congr rfl rfl rfl).trans coversFee.valid
  have shard : belongsToShard cfg sender.address = true := readAccount_belongs coversFee.read
  obtain ⟨norm, updated⟩ := exists_updated_iff.mpr ⟨valid, shard⟩
  refine ⟨norm, updated, ?_⟩
  unfold applyGovernanceGasAndNonce
  rw [adapt_ok (getAccount_ok coversFee.read), if_neg (not_lt.mpr coversFee.covered)]
  dsimp only
  rw [bind_ok (writeThrough_ok _ _), ← write_write_ledger updated.sameHoldings.address.symm]
  exact bind_ok (updateAccount_ok updated _) _

theorem applyGovernanceGasAndNonce_uncovered (uncovered : ∀ sender, ¬ CoversFee cfg am tx sender) :
    ∃ err after, applyGovernanceGasAndNonce cfg tx am = .error err after := by
  unfold applyGovernanceGasAndNonce
  cases read : readAccount cfg am tx.fromAddr with
  | error =>
    exact ⟨_, _, adapt_error (getAccount_error read)⟩
  | ok sender =>
  rw [adapt_ok (getAccount_ok read)]
  by_cases short : (parseBigInt sender.balance : Int) < tx.gasCostBig
  · rw [if_pos short]
    exact ⟨_, _, rfl⟩
  rw [if_neg short]
  dsimp only
  rw [bind_ok (writeThrough_ok _ _)]
  rcases updateAccount_cases cfg (paidGovernance tx sender)
      ((am.load tx.fromAddr).write (paidGovernance tx sender)) with
    ⟨norm, updated, _⟩ | ⟨_, err, _, _, refused⟩
  · have valid := (exists_updated_iff.mp ⟨norm, updated⟩).1
    exact absurd ⟨read, not_lt.mp short, (validateAccount_congr rfl rfl rfl).trans valid⟩
      (uncovered sender)
  · exact ⟨err, _, bind_error refused _⟩

end Gas

theorem dispatchTransaction_governance (kind : tx.type.isGovernance = true) :
    dispatchTransaction cfg tx = (do
      onLedger (consumeNonce tx)
      executeGovernance cfg tx) := by
  unfold dispatchTransaction
  cases type : tx.type <;> simp_all [TransactionType.isGovernance]

theorem executeTransaction_governance (kind : tx.type.isGovernance = true)
    (sound : ws.ledger.Sound cfg) (executable : GovernanceExecutable cfg ws tx) :
    ∃ after, executeTransaction cfg tx ws = .ok tx.canonical after ∧ after.ledger.Sound cfg := by
  obtain ⟨sender, read, matched, covered⟩ := executable.payable
  have address := readAccount_address read
  have current : storedNonce ws.ledger tx.fromAddr = tx.nonce :=
    (sound.nonces _ _ read).trans (checkNonce_ok matched)
  have canonicalKind : tx.canonical.type.isGovernance = true := kind
  have bumpedRead : readAccount cfg (ws.ledger.bumpNonce tx.fromAddr)
      tx.canonical.fromAddr = .ok sender := by
    rw [readAccount_bumpNonce]
    exact read
  have stored := readAccount_canonical sound.coherent read
  have canonical : (paidGovernance tx.canonical sender).Canonical :=
    canonical_of_fields (by simp [paidGovernance]) stored.fields.2.1 stored.fields.2.2
      (canonical_iff.mp stored).2
  obtain ⟨norm, updated, applied⟩ := applyGovernanceGasAndNonce_coversFee
    ⟨bumpedRead, canonical_gasCostBig tx ▸ covered, sound.valid _ _ read⟩
  obtain ⟨rfl, valid, _⟩ := (Updated.iff_of_canonical canonical).mp updated
  have consumed : onLedger (consumeNonce tx.canonical) ws =
      .ok () { ws with ledger := ws.ledger.bumpNonce tx.fromAddr } :=
    onLedger_ok (consumeNonce_ok current)
  rw [executeTransaction_dispatch executable.amounts, dispatchTransaction_governance canonicalKind,
    bind_assoc, bind_ok consumed]
  unfold executeGovernance
  rw [bind_assoc, bind_ok get_ok]
  dsimp only
  rw [bind_assoc, bind_ok (set_ok _), bind_assoc, bind_ok (ofExcept_ok executable.accepted),
    bind_ok (onLedger_ok applied)]
  refine ⟨_, rfl, ?_⟩
  refine .assign (sound.bumpNonce_coherent tx.fromAddr) (fun other old apart found => ?_) canonical
    ?_ ?_ valid
  · rw [readAccount_bumpNonce] at found
    have ne : tx.fromAddr ≠ other := fun same => apart (same.symm.trans address.symm)
    rw [storedNonce_bumpNonce, if_neg ne]
    exact ⟨sound.nonces _ _ found, sound.valid _ _ found⟩
  · exact address ▸ readAccount_readable read
  · have recorded : storedNonce (ws.ledger.bumpNonce tx.fromAddr) sender.address =
        storedNonce ws.ledger tx.fromAddr + 1 := by
      rw [storedNonce_bumpNonce, if_pos address.symm]
    exact recorded.trans (congrArg (· + 1) (sound.nonces _ _ read))

end Governance

section Genesis

variable {cfg : ShardConfig} {am : Ledger} {addr : Address}

def Ledger.Unspent (cfg : ShardConfig) (am : Ledger) : Prop :=
  am.Sound cfg ∧ am.nonces = KeyedMap.empty

theorem Ledger.Unspent.new (cfg : ShardConfig) : Ledger.new.Unspent cfg := by
  have agrees : Ledger.new.Agrees cfg :=
    agrees_of_unused cfg rfl rfl fun acc stored => by cases stored
  refine ⟨⟨agrees, fun addr acc read => ?_⟩, rfl⟩
  have readable := readAccount_readable read
  rw [readAccount_coherent agrees.coherent readable] at read
  have fresh : acc = Account.fresh addr := (Except.ok.inj read).symm
  exact fresh ▸ fresh_valid readable

theorem getAccountReadOnly_load (shard : belongsToShard cfg addr = true) :
    ∃ found, getAccountReadOnly cfg addr am = .ok found (am.load addr) := by
  unfold getAccountReadOnly Ledger.load
  rw [if_neg (not_not.mpr shard)]
  cases am.cache.peek addr with
  | some => exact ⟨_, rfl⟩
  | none =>
    rcases storedAccount am addr with err | found
    · exact ⟨_, rfl⟩
    · cases found <;> exact ⟨_, rfl⟩

def genesisRecord (addr : Address) (bal : Bytes) : Account :=
  { canonicalAmounts { Account.fresh addr with balance := bal } with delegatedTo := KeyedMap.empty }

theorem genesisRecord_updated (readable : Readable cfg addr) (bal : Bytes) :
    Updated cfg { Account.fresh addr with balance := bal } (genesisRecord addr bal) where
  delegations := KeyedMap.update_self_iff.mpr fun entry mem => by cases mem
  amounts := rfl
  valid := (validateAccount_congr rfl rfl rfl).trans (fresh_valid readable)
  shard := readable.2

theorem createGenesisAccount_unspent (cfg : ShardConfig) (addr : Address) (supply : Int) :
    Stays (Ledger.Unspent cfg) (createGenesisAccount cfg addr supply) := by
  intro am unspent
  unfold createGenesisAccount
  cases valid : validateAddress addr with
  | error =>
    rw [adapt_error (ofExcept_error rfl)]
    exact unspent
  | ok =>
  rw [adapt_ok (ofExcept_ok rfl)]
  split_ifs with none shard
  · exact unspent
  swap
  · exact unspent
  obtain ⟨found, looked⟩ := getAccountReadOnly_load shard
  have loaded : (am.load addr).Unspent cfg :=
    ⟨unspent.1.load addr, load_nonces.trans unspent.2⟩
  rw [bind_ok looked]
  cases found with
  | some => exact loaded
  | none =>
  have readable : Readable cfg addr := ⟨valid, shard⟩
  have updated := genesisRecord_updated readable (BigEndian.encode supply.toNat)
  dsimp only
  rw [bind_ok (updateAccount_ok updated _)]
  refine ⟨.assign unspent.1.coherent (fun other old _ read =>
    ⟨unspent.1.nonces other old read, unspent.1.valid other old read⟩) updated.canonical
    readable ?_ updated.valid, loaded.2⟩
  simp only [storedNonce, unspent.2]
  rfl

abbrev GenesisRuns (cfg : NodeConfig) (ws : WorldState) : Prop :=
  ws.ledger.Unspent cfg

theorem createGenesisAccounts_unspent (cfg : NodeConfig) (accounts : List (Address × Int)) :
    Stays (GenesisRuns cfg) (createGenesisAccounts cfg accounts) := by
  induction accounts with
  | nil => exact .skip _
  | cons _ _ ih =>
    exact (Stable.ignoreFailure (leads_onLedger (createGenesisAccount_unspent _ _ _))).seq
      fun _ => ih

theorem addValidators_unspent (cfg : NodeConfig) (genesis : GenesisConfig) (vals : List Validator) :
    Stays (GenesisRuns cfg) (addValidators genesis vals) := by
  induction vals with
  | nil => exact .skip _
  | cons _ _ ih =>
    refine (Leads.adaptExcept (fun ws unspent => ?_) _).seq fun _ => ih
    unfold addValidator
    repeat' split
    all_goals exact unspent

theorem initializeGenesis_unspent (cfg : NodeConfig) (genesis : GenesisConfig)
    (genesisAccount : Address) (initialSupply : Int) (vals : List Validator) :
    Stays (GenesisRuns cfg) (initializeGenesis cfg genesis genesisAccount initialSupply vals) := by
  have rest : Stays (GenesisRuns cfg) (do
      addValidators genesis vals
      createGenesisAccounts cfg (vals.map fun val => (val.address, validatorFunding))
      modify fun ws => updateStateRoot cfg { ws with height := 0 }) :=
    (addValidators_unspent cfg genesis vals).seq fun _ =>
      (createGenesisAccounts_unspent cfg _).seq fun _ => .modify fun _ unspent => unspent
  refine (Leads.ofExcept _ _).adapted fun _ => ?_
  dsimp only
  split
  · exact (createGenesisAccounts_unspent cfg _).seq fun _ => rest
  · exact (leads_onLedger (createGenesisAccount_unspent _ _ _)).adapted fun _ => rest

end Genesis

inductive Feasible (cfg : NodeConfig) (ws : WorldState) (tx : Transaction) : Prop where
  | native (kind : tx.type.isNative = true) (near : tx.Local cfg)
      (amounts : normalizeTransactionAmounts tx = .ok tx.canonical) (accounts : List Account)
      (executable : Executable tx (readAccount cfg ws.ledger) accounts)
  | governance (kind : tx.type.isGovernance = true) (executable : GovernanceExecutable cfg ws tx)

inductive SafeStep (cfg : NodeConfig) (ws : WorldState) (tx : Transaction) : Prop where
  | refused (first : RefusedFirst cfg ws tx)
  | executed (feasible : Feasible cfg ws tx)
  | evm (kind : tx.type.isEVM = true)
      (apart : ¬ Readable cfg (cfg.checksumHex tx.fromAddr) ∨
        storedNonce ws.ledger (cfg.checksumHex tx.fromAddr) ≠ tx.nonce)

inductive ReachedSafely (cfg : NodeConfig) (start : WorldState) : WorldState → Prop where
  | start : ReachedSafely cfg start start
  | step {ws : WorldState} (reached : ReachedSafely cfg start ws) (tx : Transaction)
      (safe : SafeStep cfg ws tx) :
      ReachedSafely cfg start (executeTransaction cfg tx ws).final

section Runs

variable {cfg : NodeConfig} {ws start : WorldState} {tx : Transaction}

theorem Feasible.executes (sound : ws.ledger.Sound cfg) (feasible : Feasible cfg ws tx) :
    ∃ value after, executeTransaction cfg tx ws = .ok value after ∧ after.ledger.Sound cfg := by
  cases feasible with
  | native kind near amounts _ executable =>
    obtain ⟨value, after, ran⟩ := executeTransaction_of_executable sound.toAgrees kind near amounts
      executable
    obtain ⟨-, _, exec, agrees, view⟩ :=
      executeTransaction_executed sound.toAgrees kind ran
    refine ⟨value, after, ran, agrees, fun addr acc read => ?_⟩
    rw [view] at read
    rcases View.assign_cases read with fresh | old
    · exact exec.valid acc fresh
    · exact sound.valid addr acc old
  | governance kind executable =>
    obtain ⟨after, ran, left⟩ := executeTransaction_governance kind sound executable
    exact ⟨tx.canonical, after, ran, left⟩

theorem evm_sound (kind : tx.type.isEVM = true) (sound : ws.ledger.Sound cfg)
    (apart : ¬ Readable cfg (cfg.checksumHex tx.fromAddr) ∨
      storedNonce ws.ledger (cfg.checksumHex tx.fromAddr) ≠ tx.nonce) :
    (executeTransaction cfg tx ws).final.ledger.Sound cfg := by
  have frame : NonceStep cfg tx.canonical _ _ := sound_nonceStep ws.ledger apart
  have dispatched : Leads
      (fun other : WorldState => other.ledger.Sound cfg ∧ other.ledger.nonces = ws.ledger.nonces)
      (fun other => other.ledger.Sound cfg ∧ True)
      (dispatchTransaction cfg tx.canonical) := by
    have canonicalKind : tx.canonical.type.isEVM = true := kind
    unfold dispatchTransaction
    split
    · exact frame.executeEVMCall
    · exact frame.executeEVMDeploy
    all_goals simp_all [TransactionType.isEVM]
  cases amounts : normalizeTransactionAmounts tx with
  | error err =>
    have first : RefusedFirst cfg ws tx := .amounts err amounts
    obtain ⟨_, failed⟩ := executeTransaction_refused first
    rw [failed]
    exact sound
  | ok =>
    obtain rfl := normalizeTransactionAmounts_ok amounts
    rw [executeTransaction_dispatch amounts]
    exact ((dispatched.bind (fun _ => .pure tx.canonical fun _ => id) fun _ => id) ws
      ⟨sound, rfl⟩).1

theorem SafeStep.sound (sound : ws.ledger.Sound cfg) (safe : SafeStep cfg ws tx) :
    (executeTransaction cfg tx ws).final.ledger.Sound cfg := by
  cases safe with
  | refused first =>
    obtain ⟨_, failed⟩ := executeTransaction_refused first
    rw [failed]
    exact sound
  | executed feasible =>
    obtain ⟨_, _, ran, left⟩ := feasible.executes sound
    rw [ran]
    exact left
  | evm kind apart => exact evm_sound kind sound apart

theorem ReachedSafely.sound (reached : ReachedSafely cfg start ws)
    (sound : start.ledger.Sound cfg) : ws.ledger.Sound cfg := by
  induction reached with
  | start => exact sound
  | step _ _ safe ih => exact safe.sound ih

/-- Along a safe run from genesis the nonce records and the accounts agree, so a payable transaction
with the sender's nonce is executed. -/
theorem safe_run_nonces_agree (cfg : NodeConfig) (genesis : GenesisConfig)
    (genesisAccount : Address) (initialSupply : Int) (vals : List Validator) (now : Int64)
    (gov : GovernanceState) {ws : WorldState} (reached : ReachedSafely cfg
      (initializeGenesis cfg genesis genesisAccount initialSupply vals
        (newWorldState cfg now gov)).final ws) :
    (∀ addr acc, readAccount cfg ws.ledger addr = .ok acc →
      storedNonce ws.ledger addr = acc.nonce) ∧
    ∀ tx, Feasible cfg ws tx → ∃ value after, executeTransaction cfg tx ws = .ok value after := by
  have started := initializeGenesis_unspent cfg genesis genesisAccount initialSupply vals
    (newWorldState cfg now gov) (.new _)
  have sound := reached.sound started.1
  refine ⟨sound.nonces, fun tx feasible => ?_⟩
  obtain ⟨value, after, ran, -⟩ := feasible.executes sound
  exact ⟨value, after, ran⟩

end Runs

def sampleGenesis : WorldState :=
  (initializeGenesis sampleConfig ⟨[(sampleAddress 97, 1000)], 1000, 1⟩ (sampleAddress 97) 1000 []
    (newWorldState sampleConfig 0 .blank)).final

theorem sampleTransfer_feasible :
    Feasible sampleConfig sampleGenesis (sampleTransaction .transfer [1] 0) := by
  have planned : (plan (sampleTransaction .transfer [1] 0)
      (nativeChange (sampleTransaction .transfer [1] 0))
      (readAccount sampleConfig sampleGenesis.ledger)).isSome = true := by
    decide +kernel
  obtain ⟨accounts, assigned⟩ := Option.isSome_iff_exists.mp planned
  have valid : ((plan (sampleTransaction .transfer [1] 0)
      (nativeChange (sampleTransaction .transfer [1] 0))
      (readAccount sampleConfig sampleGenesis.ledger)).getD []).all
        (fun acc => validateAccount acc = .ok ()) = true := by
    decide +kernel
  rw [assigned] at valid
  refine .native rfl ⟨by decide, fun _ => by decide⟩ (by decide +kernel) accounts
    ⟨by decide, ?_, assigned, fun acc mem => ?_⟩
  · exact ⟨{ Account.fresh (sampleAddress 97) with balance := [3, 232] }, by decide +kernel⟩
  · exact of_decide_eq_true (List.all_eq_true.mp valid acc mem)

theorem safe_run_nonces_agree_transfer : ∃ ws, ReachedSafely sampleConfig sampleGenesis ws ∧
      storedNonce ws.ledger (sampleAddress 97) = 1 ∧
      (∀ addr acc, readAccount sampleConfig ws.ledger addr = .ok acc →
        storedNonce ws.ledger addr = acc.nonce) ∧ ∀ tx, Feasible sampleConfig ws tx →
        ∃ value after, executeTransaction sampleConfig tx ws = .ok value after := by
  have reached := ReachedSafely.start.step _ (.executed sampleTransfer_feasible)
  exact ⟨_, reached, by decide +kernel, safe_run_nonces_agree sampleConfig _ _ _ _ _ _ reached⟩

/-- A transfer that cannot be paid for consumes its nonce, and no later one of the sender is
executed. -/
theorem failed_transfer_blocks_sender :
    let failed := (executeTransaction sampleConfig (sampleTransaction .transfer [255, 255] 0)
      sampleGenesis).final
    storedNonce failed.ledger (sampleAddress 97) = 1 ∧
    (readAccount sampleConfig failed.ledger (sampleAddress 97)).map (·.nonce) = .ok 0 ∧
    Feasible sampleConfig sampleGenesis (sampleTransaction .transfer [1] 0) ∧
    ∀ nonce, ∃ err after, executeTransaction sampleConfig
      (sampleTransaction .transfer [1] nonce) failed = .error err after := by
  intro failed
  have record : storedNonce failed.ledger (sampleAddress 97) = 1 := by decide +kernel
  refine ⟨record, by decide +kernel, sampleTransfer_feasible, fun nonce => ?_⟩
  by_cases next : nonce = 1
  · subst next
    have stopped : (executeTransaction sampleConfig (sampleTransaction .transfer [1] 1)
        failed).failed?.any (fun _ => true) = true := by decide +kernel
    obtain ⟨err, after, ran, -⟩ := EStateM.Result.exists_of_failed? stopped
    exact ⟨err, after, ran⟩
  · have stale : storedNonce failed.ledger (sampleAddress 97) ≠ nonce := record ▸ Ne.symm next
    obtain ⟨err, ran⟩ := executeTransaction_refused
      (.nonce rfl stale : RefusedFirst sampleConfig failed (sampleTransaction .transfer [1] nonce))
    exact ⟨err, failed, ran⟩

inductive StorageError where
  | badgerKeyNotFound
  | keyNotFound

/-- `BadgerStorage.Get` of a nonce. A key that is not there has an error of its own. -/
def BadgerStorage.get (am : Ledger) (addr : Address) : Except StorageError UInt64 :=
  match am.nonces.find? addr with
  | none => .error .keyNotFound
  | some entry => .ok entry.2

/-- `StateStorage.GetNonce`, which compares with the error of Badger. -/
def StateStorage.getNonce (am : Ledger) (addr : Address) : Except StorageError UInt64 :=
  match BadgerStorage.get am addr with
  | .error .badgerKeyNotFound => .ok 0
  | result => result

def ReadsNextNonce (am : Ledger) (addr : Address) : Prop :=
  ∃ nonce, StateStorage.getNonce am addr = .ok nonce ∧ ∀ other, ∃ after,
    atomicIncrementNonce addr other am = .ok (decide (other = nonce), nonce) after

theorem reads_next_nonce_iff (am : Ledger) (addr : Address) :
    ReadsNextNonce am addr ↔ ∃ entry, am.nonces.find? addr = some entry := by
  unfold ReadsNextNonce StateStorage.getNonce BadgerStorage.get atomicIncrementNonce storedNonce
  cases am.nonces.find? addr with
  | none => simp
  | some entry =>
    refine iff_of_true ⟨entry.2, rfl, fun other => ?_⟩ ⟨entry, rfl⟩
    by_cases same : other = entry.2
    · simp [same]
    · simp [same, Ne.symm same]

/-- The nonce of an address never written: the read fails, and zero is taken. -/
theorem unwritten_nonce_is_not_read :
    StateStorage.getNonce Ledger.new (sampleAddress 97) = .error .keyNotFound ∧
      ∃ after, atomicIncrementNonce (sampleAddress 97) 0 Ledger.new = .ok (true, 0) after :=
  ⟨rfl, _, rfl⟩

end Thrylos
