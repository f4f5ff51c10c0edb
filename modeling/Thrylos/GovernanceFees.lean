import Thrylos.GovernanceLemmas
import Thrylos.NonceAgreement

/-!
The fee of a governance transaction. The manager has saved the proposal, or changed a parameter,
before the sender's balance is looked at, and nothing takes that back.
-/

namespace Thrylos

section Outcome

variable {cfg : NodeConfig} {ws : WorldState} {tx : Transaction}

def WorldState.afterNonce (ws : WorldState) (tx : Transaction) : WorldState :=
  { ws with ledger := ws.ledger.bumpNonce tx.fromAddr }

def managed (cfg : NodeConfig) (ws : WorldState) (tx : Transaction) :
    Except String Unit × GovernanceState :=
  cfg.governance (ws.afterNonce tx) tx.canonical

structure Accepts (cfg : NodeConfig) (ws : WorldState) (tx : Transaction) : Prop where
  amounts : normalizeTransactionAmounts tx = .ok tx.canonical
  current : storedNonce ws.ledger tx.fromAddr = tx.nonce
  accepted : (managed cfg ws tx).1 = .ok ()

inductive GovernanceOutcome (cfg : NodeConfig) (ws : WorldState) (tx : Transaction) :
    EStateM.Result String WorldState Transaction → Prop where
  | unmanaged {err : String} {after : WorldState} (unaccepted : ¬ Accepts cfg ws tx)
      (same : after.governance = ws.governance) :
      GovernanceOutcome cfg ws tx (.error err after)
  | refused {err : String} {after : WorldState} (unaccepted : ¬ Accepts cfg ws tx)
      (why : (managed cfg ws tx).1 = .error err)
      (left : after.governance = (managed cfg ws tx).2) :
      GovernanceOutcome cfg ws tx (.error err after)
  | unpaid {err : String} {after : WorldState} (accepts : Accepts cfg ws tx)
      (uncovered : ∀ sender, ¬ CoversFee cfg ws.ledger tx sender)
      (left : after.governance = (managed cfg ws tx).2) :
      GovernanceOutcome cfg ws tx (.error err after)
  | paid {sender paid : Account} {am : Ledger} (accepts : Accepts cfg ws tx)
      (coversFee : CoversFee cfg ws.ledger tx sender)
      (applied : applyGovernanceGasAndNonce cfg tx.canonical
        (ws.ledger.bumpNonce tx.fromAddr) = .ok () am)
      (read : readAccount cfg am tx.fromAddr = .ok paid)
      (charged : parseBigInt paid.balance =
        parseBigInt (mustUint256Bytes (parseBigInt sender.balance - tx.gasCostBig))) :
      GovernanceOutcome cfg ws tx (.ok tx.canonical
        { ws with ledger := am, governance := (managed cfg ws tx).2 })

theorem CoversFee.bumped {sender : Account} {addr : Address} :
    CoversFee cfg (ws.ledger.bumpNonce addr) tx.canonical sender ↔
      CoversFee cfg ws.ledger tx sender := by
  have read : readAccount cfg (ws.ledger.bumpNonce addr) tx.canonical.fromAddr =
      readAccount cfg ws.ledger tx.fromAddr := by
    rw [readAccount_bumpNonce]
    rfl
  constructor
  · intro coversFee
    exact ⟨read ▸ coversFee.read, canonical_gasCostBig tx ▸ coversFee.covered, coversFee.valid⟩
  · intro coversFee
    exact ⟨read ▸ coversFee.read, (canonical_gasCostBig tx).symm ▸ coversFee.covered, coversFee.valid⟩

variable {left : GovernanceState}

theorem executeGovernance_refused {err : String}
    (refused : cfg.governance ws tx = (.error err, left)) :
    executeGovernance cfg tx ws = .error err { ws with governance := left } := by
  unfold executeGovernance
  rw [bind_ok get_ok, refused]
  rfl

theorem executeGovernance_accepted (ok : cfg.governance ws tx = (.ok (), left)) :
    executeGovernance cfg tx ws =
      onLedger (applyGovernanceGasAndNonce cfg tx) { ws with governance := left } := by
  unfold executeGovernance
  rw [bind_ok get_ok, ok]
  rfl

theorem executeTransaction_outcome (cfg : NodeConfig) (ws : WorldState)
    (kind : tx.type.isGovernance = true) :
    GovernanceOutcome cfg ws tx (executeTransaction cfg tx ws) := by
  have native : tx.type.isEVM = false := by
    cases type : tx.type <;> simp_all [TransactionType.isGovernance, TransactionType.isEVM]
  by_cases refused : RefusedFirst cfg ws tx
  · obtain ⟨err, ran⟩ := executeTransaction_refused refused
    rw [ran]
    refine .unmanaged (fun accepts => ?_) rfl
    cases refused with
    | amounts _ refused => cases accepts.amounts.symm.trans refused
    | nonce _ stale => exact stale accepts.current
    | chainID kind => cases native.symm.trans kind
    | gas kind => simp [kind, TransactionType.isEVM] at native
  have current : storedNonce ws.ledger tx.fromAddr = tx.nonce := by
    by_contra stale
    exact refused (.nonce native stale)
  cases amounts : normalizeTransactionAmounts tx with
  | error err => exact absurd (.amounts err amounts) refused
  | ok =>
  obtain rfl := normalizeTransactionAmounts_ok amounts
  have consumed : onLedger (consumeNonce tx.canonical) ws = .ok () (ws.afterNonce tx) :=
    onLedger_ok (consumeNonce_ok current)
  have canonicalKind : tx.canonical.type.isGovernance = true := kind
  rw [executeTransaction_dispatch amounts, dispatchTransaction_governance canonicalKind,
    bind_assoc, bind_ok consumed]
  rcases ok : managed cfg ws tx with ⟨err | _, left⟩
  · rw [bind_error (executeGovernance_refused ok)]
    refine .refused (fun accepts => ?_) (by rw [ok]) (by rw [ok])
    have granted := accepts.accepted
    rw [ok] at granted
    cases granted
  · have accepts : Accepts cfg ws tx := ⟨amounts, current, by rw [ok]⟩
    have stepped := executeGovernance_accepted ok
    by_cases covered : ∃ sender, CoversFee cfg ws.ledger tx sender
    · obtain ⟨sender, coversFee⟩ := covered
      obtain ⟨norm, updated, charged⟩ :=
        applyGovernanceGasAndNonce_coversFee (CoversFee.bumped.mpr coversFee)
      have own : sender.address = tx.fromAddr := readAccount_address coversFee.read
      have address : norm.address = tx.fromAddr := updated.sameHoldings.address.trans own
      have bal := updated.sameHoldings.balance
      simp only [paidGovernance, canonical_gasCostBig] at bal
      rw [bind_ok (stepped.trans (onLedger_ok charged))]
      obtain rfl : (managed cfg ws tx).2 = left := by rw [ok]
      exact .paid accepts coversFee charged
        (readAccount_store_self _ address (readAccount_readable coversFee.read)) bal
    · obtain ⟨_, _, failed⟩ := applyGovernanceGasAndNonce_uncovered
        fun sender coversFee => covered ⟨sender, CoversFee.bumped.mp coversFee⟩
      rw [bind_error (stepped.trans (onLedger_error failed))]
      exact .unpaid accepts (not_exists.mp covered) (by rw [ok])

end Outcome

section Atomicity

variable {cfg : NodeConfig} {gov : GovernanceConfig} {clock : WallClock}
  {ws : WorldState} {tx : Transaction}

theorem Handled.of_canonical {now : Nat → Int64} {st : GovernanceState}
    {result : EStateM.Result String GovernanceState Unit}
    (handled : Handled gov now tx.canonical st result) : Handled gov now tx st result := by
  cases handled with
  | refused same => exact .refused same
  | idle other => exact .idle other
  | saved saves inserted =>
    refine .saved ?_ inserted
    cases saves with
    | proposed kind parsed same => exact .proposed kind parsed same
    | acted acts => exact .acted acts

theorem managed_handled : ∃ result, Handled gov (clock (ws.afterNonce tx)) tx ws.governance result ∧
      managed (cfg.governedBy gov clock) ws tx = result.outcome :=
  ⟨_, (handle_handled gov (clock (ws.afterNonce tx)) ws.validators
    ws.governance tx.canonical).of_canonical, rfl⟩

theorem executeTransaction_unpaid (kind : tx.type.isGovernance = true) (accepts : Accepts cfg ws tx)
    (uncovered : ∀ sender, ¬ CoversFee cfg ws.ledger tx sender) :
    ∃ err after, executeTransaction cfg tx ws = .error err after ∧
      after.governance = (managed cfg ws tx).2 := by
  have outcome := executeTransaction_outcome cfg ws kind
  generalize executeTransaction cfg tx ws = result at outcome
  cases outcome with
  | unmanaged unaccepted | refused unaccepted => exact absurd accepts unaccepted
  | unpaid _ _ left => exact ⟨_, _, rfl, left⟩
  | paid _ coversFee => exact absurd coversFee (uncovered _)

theorem executeTransaction_paid {sender : Account} (kind : tx.type.isGovernance = true)
    (accepts : Accepts cfg ws tx) (coversFee : CoversFee cfg ws.ledger tx sender) :
    ∃ after, executeTransaction cfg tx ws = .ok tx.canonical after := by
  have outcome := executeTransaction_outcome cfg ws kind
  generalize executeTransaction cfg tx ws = result at outcome
  cases outcome with
  | unmanaged unaccepted | refused unaccepted => exact absurd accepts unaccepted
  | unpaid _ uncovered => exact absurd coversFee (uncovered sender)
  | paid => exact ⟨_, rfl⟩

structure AtomicWithFee (cfg : NodeConfig) (gov : GovernanceConfig) (clock : WallClock)
    (ws : WorldState) (tx : Transaction) : Prop where
  undone : ∀ err after, executeTransaction (cfg.governedBy gov clock) tx ws = .error err after →
      SameBusiness ws.governance after.governance
  paid : ∀ value after, executeTransaction (cfg.governedBy gov clock) tx ws = .ok value after →
      ∃ sender payer, readAccount cfg ws.ledger tx.fromAddr = .ok sender ∧
        readAccount cfg after.ledger tx.fromAddr = .ok payer ∧
        (parseBigInt sender.balance : Int) = parseBigInt payer.balance + tx.gasCostBig
  kept : ∀ prop, ws.governance.proposals.find? prop.id = some prop → ¬ gov.actsOn tx prop.id →
      (executeTransaction (cfg.governedBy gov clock) tx ws).final.governance.proposals.find?
        prop.id = some prop

/-- The sender can pay for what changes, a negative fee keeps the balance in range, and a new
proposal finds its id free or is there already. -/
structure FeeSafe (cfg : NodeConfig) (gov : GovernanceConfig) (clock : WallClock)
    (ws : WorldState) (tx : Transaction) : Prop where
  covered : ¬ SameBusiness ws.governance (managed (cfg.governedBy gov clock) ws tx).2 →
    ∃ sender, CoversFee cfg ws.ledger tx sender
  bounded : ∀ sender, CoversFee cfg ws.ledger tx sender →
    parseBigInt sender.balance - tx.gasCostBig < uint256Bound
  unclaimed : ∀ payload old, tx.type = .governancePropose →
    parseProposalPayload gov tx.data = .ok payload →
    ws.governance.proposals.find? tx.hash = some old →
      old = newProposal gov (clock (ws.afterNonce tx) 0) tx.hash tx.fromAddr
        payload.parameter payload.proposedValue

theorem executeTransaction_left (kind : tx.type.isGovernance = true) (accepts : Accepts cfg ws tx) :
    (executeTransaction cfg tx ws).final.governance = (managed cfg ws tx).2 := by
  have outcome := executeTransaction_outcome cfg ws kind
  generalize executeTransaction cfg tx ws = result at outcome
  cases outcome with
  | unmanaged unaccepted => exact absurd accepts unaccepted
  | refused _ _ left | unpaid _ _ left => exact left
  | paid => rfl

theorem not_actsOn_of_proposes (proposes : tx.type = .governancePropose) (proposalID : Bytes) :
    ¬ gov.actsOn tx proposalID := by
  rintro (⟨votes, _⟩ | ⟨finalizes, _⟩)
  · cases proposes.symm.trans votes
  · cases proposes.symm.trans finalizes

theorem AtomicWithFee.feeSafe (atomic : AtomicWithFee cfg gov clock ws tx)
    (kind : tx.type.isGovernance = true) (accepts : Accepts (cfg.governedBy gov clock) ws tx) :
    FeeSafe cfg gov clock ws tx := by
  refine ⟨fun changed => ?_, fun sender coversFee => ?_, fun payload old proposes parsed found => ?_⟩
  · by_contra none
    obtain ⟨err, after, failed, left⟩ := executeTransaction_unpaid kind accepts (not_exists.mp none)
    exact changed (left ▸ atomic.undone err after failed)
  · obtain ⟨after, ran⟩ := executeTransaction_paid kind accepts coversFee
    obtain ⟨other, payer, read, _, _⟩ := atomic.paid _ after ran
    cases coversFee.read.symm.trans read
    have bound := parseBigInt_lt payer.balance
    omega
  · have own : old.id = tx.hash := KeyedMap.find?_key found
    have still := atomic.kept old (own ▸ found) (not_actsOn_of_proposes proposes old.id)
    have ok := accepts.accepted
    obtain ⟨_, handled, outcome⟩ := managed_handled
    rw [executeTransaction_left kind accepts, outcome] at still
    rw [outcome] at ok
    cases handled with
    | refused => cases ok
    | idle other => exact absurd proposes other
    | @saved saved after saves inserted =>
      change after.proposals.find? old.id = some old at still
      rw [inserted, KeyedMap.find?_insert] at still
      cases saves with
      | proposed _ parsedAs same =>
        cases parsed.symm.trans parsedAs
        have named : saved.id = old.id := by
          rw [same]
          exact own.symm
        rw [if_pos named, same] at still
        exact (Option.some.inj still).symm
      | acted acts => exact absurd acts (not_actsOn_of_proposes proposes _)

theorem FeeSafe.atomic (safe : Accepts (cfg.governedBy gov clock) ws tx →
    FeeSafe cfg gov clock ws tx) (kind : tx.type.isGovernance = true) :
    AtomicWithFee cfg gov clock ws tx := by
  have outcome := executeTransaction_outcome (cfg.governedBy gov clock) ws kind
  obtain ⟨_, handled, managedAs⟩ := managed_handled
  refine ⟨fun err after ran => ?_, fun value after ran => ?_, fun prop found passive => ?_⟩
  · rw [ran] at outcome
    cases outcome with
    | unmanaged _ same => exact same ▸ .refl _
    | refused _ why left =>
      rw [left]
      rw [managedAs] at why ⊢
      cases handled with
      | refused same => exact same
      | idle | saved => cases why
    | unpaid accepts uncovered left =>
      by_contra changed
      obtain ⟨sender, coversFee⟩ := (safe accepts).covered (left ▸ changed)
      exact uncovered sender coversFee
  · rw [ran] at outcome
    cases outcome with
    | @paid sender payer _ accepts coversFee applied read charged =>
    refine ⟨sender, payer, coversFee.read, read, ?_⟩
    have bounded := (safe accepts).bounded sender coversFee
    have covered := coversFee.covered
    have exactly := parseBigInt_mustUint256Bytes (parseBigInt sender.balance - tx.gasCostBig)
      (by omega) bounded
    omega
  · by_cases accepts : Accepts (cfg.governedBy gov clock) ws tx
    · rw [executeTransaction_left kind accepts, managedAs]
      cases handled with
      | refused same => exact same ▸ found
      | idle => exact found
      | @saved saved after saves inserted =>
        change after.proposals.find? prop.id = some prop
        rw [inserted, KeyedMap.find?_insert]
        by_cases named : saved.id = prop.id
        · rw [if_pos named]
          cases saves with
          | proposed proposes parsed same =>
            have hash : prop.id = tx.hash := by
              rw [← named, same]
              rfl
            have claimed := (safe accepts).unclaimed _ prop proposes parsed (hash ▸ found)
            rw [same, ← claimed]
          | acted acts => exact absurd (named ▸ acts) passive
        · rw [if_neg named]
          exact found
    · generalize executeTransaction (cfg.governedBy gov clock) tx ws = ended at outcome ⊢
      cases outcome with
      | unmanaged _ same => exact same ▸ found
      | @refused _ after unaccepted why left =>
        rw [managedAs] at why left
        cases handled with
        | @refused _ kept same =>
          have unmoved : after.governance = kept := left
          change after.governance.proposals.find? prop.id = some prop
          rw [unmoved, same]
          exact found
        | idle | saved => cases why
      | unpaid granted | paid granted => exact absurd granted accepts

/-- What is asked of a transaction the manager accepts is what makes any of them atomic. -/
theorem governance_atomic_iff_fee_safe (kind : tx.type.isGovernance = true) :
    AtomicWithFee cfg gov clock ws tx ↔
      (Accepts (cfg.governedBy gov clock) ws tx → FeeSafe cfg gov clock ws tx) :=
  ⟨fun atomic => atomic.feeSafe kind, fun safe => FeeSafe.atomic safe kind⟩

end Atomicity

def sampleCouncil (bal : Bytes) : WorldState :=
  { sampleWorld [sampleAccount 97 bal] with
    validators := KeyedMap.empty.insert (sampleElector 97 10 true) }

theorem a_covered_proposal_pays :
    AtomicWithFee sampleConfig sampleGovernance (fun _ _ => 100) (sampleCouncil [200])
      (sampleTransaction .governancePropose [0] 0) := by
  refine (governance_atomic_iff_fee_safe rfl).mpr fun _ => ?_
  have read : readAccount sampleConfig (sampleCouncil [200]).ledger
      (sampleAddress 97) = .ok (sampleAccount 97 [200]) := by decide +kernel
  refine ⟨fun _ => ⟨_, read, by decide +kernel, by decide +kernel⟩, fun sender coversFee => ?_,
    fun payload old _ _ found => ?_⟩
  · cases coversFee.read.symm.trans read
    decide +kernel
  · cases found

theorem an_unpaid_proposal_stays :
    ¬ AtomicWithFee sampleConfig sampleGovernance (fun _ _ => 100) (sampleCouncil [0])
      (sampleTransaction .governancePropose [0] 0) := by
  intro atomic
  have failed : (executeTransaction (sampleConfig.governedBy sampleGovernance fun _ _ => 100)
      (sampleTransaction .governancePropose [0] 0) (sampleCouncil [0])).failed?.any
        (fun after => (after.governance.proposals.find? [2]).isSome) = true := by decide +kernel
  obtain ⟨err, after, ran, saved⟩ := EStateM.Result.exists_of_failed? failed
  have same := atomic.undone err after ran
  rw [same] at saved
  cases saved

end Thrylos
