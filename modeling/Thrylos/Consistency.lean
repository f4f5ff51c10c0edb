import Thrylos.Library.LockSet
import Thrylos.SlashingEffects
import Thrylos.Staking

/-!
`ValidateStateConsistency` and `RestoreFromSnapshot` of `core/state/worldstate.go`, with the locks
they take. Amounts parse as naturals, so the checks that they are not negative are left out.
-/

namespace Thrylos

inductive WorldLock where
  | chain
  | validator
  | stateRoot
  deriving DecidableEq

abbrev LockedWorld := Locked WorldLock StakingState

abbrev WorldLockM := EStateM (Halt String) LockedWorld

def underLocks {α : Type} (prog : StakingM α) : WorldLockM α := fun st =>
  match prog st.data with
  | .ok value data => .ok value { st with data }
  | .error err data => .error (.refused err) { st with data }

def refuseUnless (outcome : Except String Unit) : WorldLockM Unit :=
  match outcome with
  | .ok () => return ()
  | .error err => throw (.refused err)

def applyStateRootEncodingVersionForHeight (cfg : NodeConfig) (height : Int64) :
    WorldLockM UInt32 :=
  Locked.exclusively .stateRoot do
    let st ← Locked.read
    let version := desiredStateRootEncodingVersionForHeight cfg st.world height
    Locked.update fun st => { st with
      world := { st.world with stateRootEncodingVersion := version } }
    return version

/-- `updateStateRoot`, with the lock it takes to set the encoding version. -/
def recalculateStateRoot (cfg : NodeConfig) : WorldLockM Unit := do
  let st ← Locked.read
  let version ← applyStateRootEncodingVersionForHeight cfg st.world.height
  Locked.update fun st => { st with
    world := { st.world with
      stateRoot := rootOf cfg version (getAllAccounts st.world.ledger) st.world.validators } }

theorem recalculateStateRoot_taken {cfg : NodeConfig} {st : LockedWorld}
    (taken : (st.holding .stateRoot).readers ≠ 0) :
    recalculateStateRoot cfg st = .error .deadlock st := by
  unfold recalculateStateRoot applyStateRootEncodingVersionForHeight
  rw [bind_ok (show Locked.read st = .ok st.data st from rfl)]
  exact bind_error (Locked.exclusively_taken taken) _

def checkAccountAddresses : List Account → Except String Unit
  | [] => .ok ()
  | acc :: rest =>
    match validateAddress acc.address with
    | .error err =>
      .error s!"account {text acc.address} has invalid address format: {err}"
    | .ok () => checkAccountAddresses rest

def checkValidatorStakes (cfg : StakingConfig) : List (Address × Validator) → Except String Unit
  | [] => .ok ()
  | (addr, val) :: rest =>
    match validateAddress addr with
    | .error err => .error s!"validator {text addr} has invalid address format: {err}"
    | .ok () =>
      if (parseBigInt val.stake : Int) < cfg.minValidatorStake then
        .error s!"validator {text addr} stake {text val.stake} below minimum {cfg.minValidatorStake}"
      else checkValidatorStakes cfg rest

variable (cfg : StakingConfig)

def validateStateConsistency : WorldLockM Unit :=
  Locked.shared .chain (Locked.shared .validator (Locked.shared .stateRoot do
    let st ← Locked.read
    refuseUnless (checkAccountAddresses (getAllAccounts st.world.ledger).entries)
    refuseUnless (checkValidatorStakes cfg st.world.validators.entries)
    recalculateStateRoot cfg
    let after ← Locked.read
    if after.world.stateRoot ≠ st.world.stateRoot then
      throw (.refused s!"state root mismatch: stored={text st.world.stateRoot}, calculated={text after.world.stateRoot}")
    else return ()))

/-- Accounts in the order the snapshot's map is walked. Without a configuration there is no genesis
supply. -/
structure StateSnapshot where
  height : Int64
  stateRoot : Bytes
  timestamp : Int64
  totalStaked : Int
  accounts : List (Address × Account)
  validators : ValidatorSet
  genesisSupply : Option Bytes

def StakingState.cleared (st : StakingState) : StakingState :=
  { st with world := { st.world with
    ledger := { st.world.ledger with cache := LruCache.new accountCacheSize accountCacheSize_pos }
    validators := KeyedMap.empty } }

def StakingState.restored (st : StakingState) (snap : StateSnapshot) : StakingState :=
  { st with
    world := { st.world with
      validators := snap.validators
      height := snap.height
      stateRoot := snap.stateRoot
      lastTimestamp := snap.timestamp }
    totalStaked := snap.totalStaked }

def restoreAccounts (cfg : ShardConfig) : List (Address × Account) → LedgerM Unit
  | [] => return ()
  | (addr, acc) :: rest => do
    let _ ← (updateAccount cfg acc).adaptExcept (s!"failed to restore account {text addr}: " ++ ·)
    restoreAccounts cfg rest

def StateSnapshot.compatible (snap : StateSnapshot) (cfg : StakingConfig) : Bool :=
  match snap.genesisSupply with
  | none => true
  | some supply => cfg.genesisSupply = supply

def restoreFromSnapshot (snap : Option StateSnapshot) : WorldLockM Unit :=
  match snap with
  | none => throw (.refused "snapshot cannot be nil")
  | some snap =>
    Locked.exclusively .chain (Locked.exclusively .validator (Locked.exclusively .stateRoot do
      if ¬ snap.compatible cfg then
        throw (.refused s!"incompatible genesis supply: current={text cfg.genesisSupply}, snapshot={text (snap.genesisSupply.getD [])}")
      else
        Locked.update StakingState.cleared
        underLocks (onAccounts (restoreAccounts cfg snap.accounts))
        Locked.update fun st => st.restored snap
        (validateStateConsistency cfg).adaptExcept
          (naming "restored state failed consistency check: ")))

theorem checkAccountAddresses_ok_iff (accounts : List Account) :
    checkAccountAddresses accounts = .ok () ↔
      ∀ acc ∈ accounts, validateAddress acc.address = .ok () := by
  induction accounts with
  | nil => exact iff_of_true rfl nofun
  | cons acc _ ih =>
    rw [List.forall_mem_cons, ← ih, checkAccountAddresses]
    cases validateAddress acc.address with
    | error | ok => simp

theorem checkValidatorStakes_ok_iff (vals : List (Address × Validator)) :
    checkValidatorStakes cfg vals = .ok () ↔ ∀ entry ∈ vals,
      validateAddress entry.1 = .ok () ∧ cfg.minValidatorStake ≤ parseBigInt entry.2.stake := by
  induction vals with
  | nil => exact iff_of_true rfl nofun
  | cons entry _ ih =>
    rw [List.forall_mem_cons, ← ih, checkValidatorStakes]
    cases validateAddress entry.1 with
    | error => simp
    | ok =>
      by_cases low : (parseBigInt entry.2.stake : Int) < cfg.minValidatorStake
      · simp [low]
      · simp [low, not_lt.mp low]

structure PassesChecks (st : StakingState) : Prop where
  accounts : ∀ acc ∈ (getAllAccounts st.world.ledger).entries, validateAddress acc.address = .ok ()
  validators : ∀ entry ∈ st.world.validators.entries, validateAddress entry.1 = .ok () ∧
    cfg.minValidatorStake ≤ parseBigInt entry.2.stake

theorem refuseUnless_outcome (outcome : Except String Unit) (st : LockedWorld) :
    (outcome = .ok () ∧ refuseUnless outcome st = .ok () st) ∨
      (outcome ≠ .ok () ∧ ∃ err, refuseUnless outcome st = .error (.refused err) st) := by
  cases outcome with
  | ok => exact Or.inl ⟨rfl, rfl⟩
  | error err => exact Or.inr ⟨nofun, err, rfl⟩

theorem validateStateConsistency_stuck_iff (data : StakingState) :
    Locked.stuck (validateStateConsistency cfg (Locked.unheld data)) = true ↔
      PassesChecks cfg data := by
  unfold validateStateConsistency
  rw [Locked.stuck_shared rfl, Locked.stuck_shared (Locked.hold_other _ (by decide)),
    Locked.stuck_shared ((Locked.hold_other _ (by decide)).trans (Locked.hold_other _ (by decide)))]
  generalize opened : Locked.hold (Locked.hold (Locked.hold (Locked.unheld data) WorldLock.chain _)
    WorldLock.validator _) WorldLock.stateRoot _ = st
  have taken : (st.holding .stateRoot).readers ≠ 0 := by
    rw [← opened, Locked.hold_same]
    decide
  have same : st.data = data := by rw [← opened]; rfl
  rw [bind_ok (show Locked.read st = .ok st.data st from rfl), same]
  rcases refuseUnless_outcome
    (checkAccountAddresses (getAllAccounts data.world.ledger).entries) st with
    ⟨addresses, ran⟩ | ⟨bad, err, ran⟩
  · rw [bind_ok ran]
    rcases refuseUnless_outcome (checkValidatorStakes cfg data.world.validators.entries) st
      with ⟨stakes, ran⟩ | ⟨bad, err, ran⟩
    · rw [bind_ok ran, bind_error (recalculateStateRoot_taken taken)]
      exact iff_of_true rfl ⟨(checkAccountAddresses_ok_iff _).mp addresses,
        (checkValidatorStakes_ok_iff cfg _).mp stakes⟩
    · rw [bind_error ran]
      exact iff_of_false nofun fun passes =>
        bad ((checkValidatorStakes_ok_iff cfg _).mpr passes.validators)
  · rw [bind_error ran]
    exact iff_of_false nofun fun passes =>
      bad ((checkAccountAddresses_ok_iff _).mpr passes.accounts)

theorem validateStateConsistency_not_ok (st final : LockedWorld) :
    validateStateConsistency cfg st ≠ .ok () final := by
  intro ran
  obtain ⟨_, ran⟩ := Locked.shared_returns ran
  obtain ⟨_, ran⟩ := Locked.shared_returns ran
  obtain ⟨_, ran⟩ := Locked.shared_returns ran
  obtain ⟨_, _, reading, ran⟩ := bind_ok_iff.mp ran
  obtain ⟨_, _, addresses, ran⟩ := bind_ok_iff.mp ran
  obtain ⟨_, _, stakes, ran⟩ := bind_ok_iff.mp ran
  obtain ⟨_, _, recalculated, -⟩ := bind_ok_iff.mp ran
  have unmoved : ∀ outcome (before after : LockedWorld),
      refuseUnless outcome before = .ok () after → after = before := by
    intro outcome before after ok
    cases outcome <;> cases ok
    rfl
  cases reading
  rw [unmoved _ _ _ stakes, unmoved _ _ _ addresses, recalculateStateRoot_taken] at recalculated
  · cases recalculated
  · simp

theorem restoreAccounts_outcome (cfg : ShardConfig) (accounts : List (Address × Account))
    (am : Ledger) : ((∀ entry ∈ accounts, ∃ norm, Updated cfg entry.2 norm) ∧
      ∃ after, restoreAccounts cfg accounts am = .ok () after) ∨
    (¬ (∀ entry ∈ accounts, ∃ norm, Updated cfg entry.2 norm) ∧
      ∃ err after, restoreAccounts cfg accounts am = .error err after) := by
  induction accounts generalizing am with
  | nil => exact Or.inl ⟨nofun, am, rfl⟩
  | cons entry _ ih =>
    rw [List.forall_mem_cons]
    unfold restoreAccounts
    rcases updateAccount_cases cfg entry.2 am with
      ⟨norm, updated, ran⟩ | ⟨norm, err, _, refused, ran⟩
    · rw [adapt_ok ran]
      have first : ∃ norm, Updated cfg entry.2 norm := ⟨norm, updated⟩
      simpa only [first, true_and] using ih _
    · refine Or.inr ⟨?_, _, _, adapt_error ran⟩
      rintro ⟨⟨final, updated⟩, -⟩
      exact refused final updated

section

variable {α : Type} {prog : LedgerM α} {st : LockedWorld} {am : Ledger}

theorem underLocks_onAccounts_ok {value : α} (ran : prog st.data.world.ledger = .ok value am) :
    underLocks (onAccounts prog) st = .ok value { st with data := { st.data with
        world := { st.data.world with ledger := am } } } := by
  simp only [underLocks, onAccounts, onWorldState, onLedger, ran]

theorem underLocks_onAccounts_error {err : String}
    (ran : prog st.data.world.ledger = .error err am) : underLocks (onAccounts prog) st =
      .error (.refused err) { st with data := { st.data with
        world := { st.data.world with ledger := am } } } := by
  simp only [underLocks, onAccounts, onWorldState, onLedger, ran]

end

structure Restorable (snap : StateSnapshot) : Prop where
  supply : snap.compatible cfg = true
  accounts : ∀ entry ∈ snap.accounts, ∃ norm, Updated cfg entry.2 norm

theorem restoreFromSnapshot_stuck_iff (snap : Option StateSnapshot) (data : StakingState) :
    Locked.stuck (restoreFromSnapshot cfg snap (Locked.unheld data)) = true ↔
      ∃ given, snap = some given ∧ Restorable cfg given := by
  cases snap with
  | none => exact iff_of_false nofun (by rintro ⟨_, ⟨⟩, _⟩)
  | some snap =>
  simp only [Option.some.injEq, exists_eq_left']
  unfold restoreFromSnapshot
  rw [Locked.stuck_exclusively rfl, Locked.stuck_exclusively (Locked.hold_other _ (by decide)),
    Locked.stuck_exclusively
      ((Locked.hold_other _ (by decide)).trans (Locked.hold_other _ (by decide)))]
  generalize opened : Locked.hold (Locked.hold (Locked.hold (Locked.unheld data)
    WorldLock.chain _) WorldLock.validator _) WorldLock.stateRoot _ = st
  have taken : (st.holding .chain).writer = true := by rw [← opened]; rfl
  by_cases supply : snap.compatible cfg = true
  · rw [if_neg (not_not.mpr supply),
      bind_ok (show Locked.update StakingState.cleared st =
        .ok () { st with data := st.data.cleared } from rfl)]
    rcases restoreAccounts_outcome cfg snap.accounts
      st.data.cleared.world.ledger with ⟨ok, after, ran⟩ | ⟨refused, err, after, ran⟩
    · rw [bind_ok (underLocks_onAccounts_ok ran)]
      refine iff_of_true ?_ ⟨supply, ok⟩
      have asked : ∀ waiting : LockedWorld, (waiting.holding .chain).writer = true →
          Locked.stuck ((validateStateConsistency cfg).adaptExcept
            (naming "restored state failed consistency check: ") waiting) = true := by
        intro waiting held
        have ends : validateStateConsistency cfg waiting = .error .deadlock waiting :=
          Locked.shared_taken held
        rw [adaptExcept_error ends]
        rfl
      rw [bind_ok (show Locked.update _ _ = .ok () _ from rfl)]
      exact asked _ taken
    · rw [bind_error (underLocks_onAccounts_error ran)]
      exact iff_of_false nofun fun restorable => refused restorable.accounts
  · rw [if_pos supply]
    exact iff_of_false nofun fun restorable => supply restorable.supply

end Thrylos
