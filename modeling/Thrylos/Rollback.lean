import Thrylos.BlockAddition
import Thrylos.Consistency

/-!
`CreateSnapshot` of `core/state/worldstate.go` and the way back from it. `RestoreFromSnapshot` keeps
three write locks while `ValidateStateConsistency` asks for the same locks for reading.
-/

namespace Thrylos

/-- The maps are copied, so a snapshot does not follow later changes. -/
def createSnapshot (cfg : StakingConfig) : WorldLockM StateSnapshot :=
  Locked.shared .chain (Locked.shared .validator (Locked.shared .stateRoot do
    let st ← Locked.read
    return {
      height := st.world.height
      stateRoot := st.world.stateRoot
      timestamp := st.world.lastTimestamp
      totalStaked := st.totalStaked
      accounts := (getAllAccounts st.world.ledger).entries.map fun acc =>
        (acc.address, acc)
      validators := st.world.validators
      genesisSupply := some cfg.genesisSupply }))

structure RolledBack (cfg : StakingConfig) (before final : StakingState) : Prop where
  accounts : readAccount cfg final.world.ledger = readAccount cfg before.world.ledger
  records : getAllAccounts final.world.ledger = getAllAccounts before.world.ledger
  validators : final.world.validators = before.world.validators
  unbondingQueue : final.unbondingQueue = before.unbondingQueue
  height : final.world.height = before.world.height
  currentHash : final.world.currentHash = before.world.currentHash
  stateRoot : final.world.stateRoot = before.world.stateRoot
  encodingVersion : final.world.stateRootEncodingVersion = before.world.stateRootEncodingVersion

def RollsBack (cfg : StakingConfig) (before after : StakingState) : Prop :=
  ∃ snap opened final, createSnapshot cfg (Locked.unheld before) = .ok snap opened ∧
    restoreFromSnapshot cfg (some snap) (Locked.unheld after) = .ok () final ∧
    RolledBack cfg before final.data

section Restoring

variable {cfg : StakingConfig}

theorem restoreFromSnapshot_not_ok (snap : Option StateSnapshot)
    (st final : LockedWorld) : restoreFromSnapshot cfg snap st ≠ .ok () final := by
  intro ran
  cases snap with
  | none => cases ran
  | some =>
  obtain ⟨_, ran⟩ := Locked.exclusively_returns ran
  obtain ⟨_, ran⟩ := Locked.exclusively_returns ran
  obtain ⟨_, ran⟩ := Locked.exclusively_returns ran
  split at ran
  · cases ran
  obtain ⟨_, _, _, ran⟩ := EStateM.bind_ok_iff.mp ran
  obtain ⟨_, _, _, ran⟩ := EStateM.bind_ok_iff.mp ran
  obtain ⟨_, waiting, _, ran⟩ := EStateM.bind_ok_iff.mp ran
  have consistent := EStateM.adaptExcept_ok_iff.mp ran
  exact validateStateConsistency_not_ok cfg waiting _ consistent

/-- No snapshot brings a state back: where the restore gets to its last check it waits for itself. -/
theorem rollback_never_returns (cfg : StakingConfig) (before after : StakingState) :
    ¬ RollsBack cfg before after := by
  rintro ⟨snap, _, final, _, restored, _⟩
  exact restoreFromSnapshot_not_ok (some snap) (Locked.unheld after) final restored

end Restoring

theorem a_block_is_not_rolled_back :
    ∃ added ws, addBlock sampleStaking.toNodeConfig (sampleBlock 0 [] [7] []) (sampleWorld []) =
      .ok added ws ∧ ¬ RollsBack sampleStaking ⟨sampleWorld [], 0, []⟩ ⟨ws, 0, []⟩ := by
  refine ⟨_, _, rfl, ?_⟩
  rintro ⟨snap, _, final, _, restored, _⟩
  exact restoreFromSnapshot_not_ok (some snap) _ final restored

end Thrylos
