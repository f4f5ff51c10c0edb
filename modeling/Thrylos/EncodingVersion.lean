import Thrylos.Library.Runs
import Thrylos.BlockAdditionLemmas

/-!
The encoding version in force while blocks are offered. The height rule sets it, and
`AddBlockFromSync` sets it to the version the header names before the root is compared.
-/

namespace Thrylos

inductive Offer where
  | add (blk : Block)
  | sync (blk : Block)

section

variable (cfg : NodeConfig) (ws : WorldState)

namespace Offer

def block : Offer → Block
  | .add blk => blk
  | .sync blk => blk

def run : Offer → WorldM Block
  | .add blk => addBlock cfg blk
  | .sync blk => addBlockFromSync cfg blk

def opened : Offer → WorldState
  | .add _ => ws
  | .sync blk => adoptEncodingVersion blk ws

def carried : Offer → UInt32
  | .add _ => ws.stateRootEncodingVersion
  | .sync blk =>
    if blk.header.stateEncodingVersion ≠ 0 then blk.header.stateEncodingVersion
    else if blk.header.index = 0 then stateRootEncodingVersionLegacy
    else ws.stateRootEncodingVersion

def Validated (offer : Offer) : Prop :=
  validateBlockForAddition cfg ws offer.block = .ok ()

def Executes (offer : Offer) : Prop :=
  ∃ transactions exec,
    applyBlockTransactions cfg offer.block.transactions (offer.opened ws) = .ok transactions exec

def Accepted (offer : Offer) : Prop :=
  (offer.run cfg ws).value?.isSome = true

instance (cfg : NodeConfig) (ws : WorldState) (offer : Offer) : Decidable (offer.Accepted cfg ws) :=
  inferInstanceAs (Decidable ((offer.run cfg ws).value?.isSome = true))

end Offer

def ReachesUpgrade (height : Int64) : Prop :=
  0 < cfg.stateEncodingUpgradeHeight ∧ cfg.stateEncodingUpgradeHeight ≤ height

instance (cfg : NodeConfig) (height : Int64) : Decidable (ReachesUpgrade cfg height) :=
  inferInstanceAs (Decidable (_ ∧ _))

def scheduledVersion (genesis : UInt32) (height : Int64) : UInt32 :=
  if ReachesUpgrade cfg height then stateRootEncodingVersionCanonical else genesis

def Steady (genesis : UInt32) (ws : WorldState) (offer : Offer) : Prop :=
  (offer.run cfg ws).final.stateRootEncodingVersion =
    if offer.Accepted cfg ws then scheduledVersion cfg genesis offer.block.header.index
    else ws.stateRootEncodingVersion

structure Unsteered (genesis : UInt32) (ws : WorldState) (offer : Offer) : Prop where
  interrupted : offer.Validated cfg ws → ¬ offer.Executes cfg ws →
    (offer.opened ws).stateRootEncodingVersion = ws.stateRootEncodingVersion
  rejected : offer.Validated cfg ws → offer.Executes cfg ws → ¬ offer.Accepted cfg ws →
    scheduledVersion cfg (offer.carried ws) offer.block.header.index = ws.stateRootEncodingVersion
  accepted : offer.Accepted cfg ws → ¬ ReachesUpgrade cfg offer.block.header.index →
    offer.carried ws = genesis

end

section Version

variable {cfg : NodeConfig} {genesis : UInt32} {ws after : WorldState} {blk : Block}

theorem updateStateRoot_version (set : ws.stateRootEncodingVersion ≠ 0) :
    (updateStateRoot cfg ws).stateRootEncodingVersion =
      scheduledVersion cfg ws.stateRootEncodingVersion ws.height := by
  unfold scheduledVersion
  by_cases reached : ReachesUpgrade cfg ws.height
  · rw [if_pos reached]
    exact if_pos reached
  · rw [if_neg reached]
    exact (if_neg reached).trans (if_pos set)

theorem loop_version (cfg : NodeConfig) (txs : List Transaction) (ws : WorldState) :
    (applyBlockTransactions cfg txs ws).final.stateRootEncodingVersion =
      ws.stateRootEncodingVersion := by
  have reached := applyBlockTransactions_within cfg txs 0 ws ws (.refl ws)
  have settled := congrArg WorldState.stateRootEncodingVersion reached.settled
  exact settled

theorem adoptEncodingVersion_version : (adoptEncodingVersion blk ws).stateRootEncodingVersion =
      if blk.header.stateEncodingVersion ≠ 0 then blk.header.stateEncodingVersion
      else ws.stateRootEncodingVersion := by
  unfold adoptEncodingVersion
  split_ifs <;> rfl

theorem headed_version (set : ws.stateRootEncodingVersion ≠ 0) :
    (ws.headed cfg blk).stateRootEncodingVersion =
      scheduledVersion cfg ws.stateRootEncodingVersion blk.header.index :=
  updateStateRoot_version set

theorem scheduledVersion_zero (version : UInt32) : scheduledVersion cfg version 0 = version := by
  refine if_neg fun reached => ?_
  exact Int64.lt_irrefl (Int64.lt_of_lt_of_le reached.1 reached.2)

theorem synced_version (set : ws.stateRootEncodingVersion ≠ 0) :
    (ws.synced cfg blk).stateRootEncodingVersion = scheduledVersion cfg
        (if blk.header.index = 0 then
          if blk.header.stateEncodingVersion ≠ 0 then blk.header.stateEncodingVersion
          else stateRootEncodingVersionLegacy
        else ws.stateRootEncodingVersion) blk.header.index := by
  unfold WorldState.synced
  by_cases first : blk.header.index = 0
  · rw [first, scheduledVersion_zero]
    rfl
  · rw [if_neg first, if_neg first]
    exact headed_version set

theorem savedFromSync_version :
    (ws.savedFromSync blk).stateRootEncodingVersion = ws.stateRootEncodingVersion := by
  unfold WorldState.savedFromSync markGenesisCommitted
  split <;> rfl

theorem adopted_set (set : ws.stateRootEncodingVersion ≠ 0) :
    (adoptEncodingVersion blk ws).stateRootEncodingVersion ≠ 0 := by
  rw [adoptEncodingVersion_version]
  split_ifs with named
  · exact named
  · exact set

inductive Progress (cfg : NodeConfig) (ws : WorldState) (offer : Offer) : Prop where
  | refused (invalid : ¬ offer.Validated cfg ws) (rejected : ¬ offer.Accepted cfg ws)
      (version : (offer.run cfg ws).final.stateRootEncodingVersion = ws.stateRootEncodingVersion)
  | interrupted (valid : offer.Validated cfg ws) (fails : ¬ offer.Executes cfg ws)
      (rejected : ¬ offer.Accepted cfg ws)
      (version : (offer.run cfg ws).final.stateRootEncodingVersion =
        (offer.opened ws).stateRootEncodingVersion)
  | settled (valid : offer.Validated cfg ws) (executes : offer.Executes cfg ws)
      (version : (offer.run cfg ws).final.stateRootEncodingVersion =
        scheduledVersion cfg (offer.carried ws) offer.block.header.index)

theorem addBlock_progress (set : ws.stateRootEncodingVersion ≠ 0) : Progress cfg ws (.add blk) := by
  have headed {exec : WorldState} {transactions : List Transaction}
      (loop : applyBlockTransactions cfg blk.transactions ws = .ok transactions exec) :
      (exec.headed cfg blk.executed).stateRootEncodingVersion =
        scheduledVersion cfg ws.stateRootEncodingVersion blk.header.index := by
    have kept := loop_version cfg blk.transactions ws
    rw [loop] at kept
    rw [← show exec.stateRootEncodingVersion = _ from kept]
    exact headed_version fun unset => set (kept.symm.trans unset)
  have outcome := addBlock_outcome cfg blk ws
  generalize ran : addBlock cfg blk ws = result at outcome
  have made : Offer.run cfg (.add blk) ws = result := ran
  cases outcome with
  | refused _ _ why =>
    refine .refused (fun valid => ?_) ?_ ?_
    · cases why.symm.trans valid
    · simp [Offer.Accepted, made, EStateM.Result.value?]
    · rw [made]
      rfl
  | halted _ _ _ valid loop =>
    have kept := loop_version cfg blk.transactions ws
    rw [loop] at kept
    refine .interrupted valid ?_ ?_ ?_
    · rintro ⟨_, _, finished⟩
      cases loop.symm.trans finished
    · simp [Offer.Accepted, made, EStateM.Result.value?]
    · rw [made]
      exact kept
  | unsaved _ _ _ valid loop | uncommitted _ _ _ _ _ valid loop | added _ _ _ valid loop =>
    refine .settled valid ⟨_, _, loop⟩ ?_
    rw [made]
    exact headed loop

theorem addBlockFromSync_progress (set : ws.stateRootEncodingVersion ≠ 0) :
    Progress cfg ws (.sync blk) := by
  have synced {exec : WorldState} {transactions : List Transaction}
      (loop : applyBlockTransactions cfg blk.transactions (adoptEncodingVersion blk ws) =
        .ok transactions exec) :
      (exec.synced cfg blk.executed).stateRootEncodingVersion =
        scheduledVersion cfg (Offer.carried ws (.sync blk)) blk.header.index := by
    have kept := loop_version cfg blk.transactions (adoptEncodingVersion blk ws)
    rw [loop] at kept
    have named : exec.stateRootEncodingVersion =
        if blk.header.stateEncodingVersion ≠ 0 then blk.header.stateEncodingVersion
        else ws.stateRootEncodingVersion := kept.trans adoptEncodingVersion_version
    have executedSet : exec.stateRootEncodingVersion ≠ 0 := fun unset =>
      adopted_set set (kept.symm.trans unset)
    rw [synced_version executedSet, named]
    have carried : (if blk.header.index = 0 then
          if blk.header.stateEncodingVersion ≠ 0 then blk.header.stateEncodingVersion
          else stateRootEncodingVersionLegacy
        else if blk.header.stateEncodingVersion ≠ 0 then blk.header.stateEncodingVersion
        else ws.stateRootEncodingVersion) = Offer.carried ws (.sync blk) := by
      simp only [Offer.carried]
      split_ifs <;> rfl
    exact congrArg (scheduledVersion cfg · blk.header.index) carried
  have outcome := addBlockFromSync_outcome cfg blk ws
  generalize ran : addBlockFromSync cfg blk ws = result at outcome
  have made : Offer.run cfg (.sync blk) ws = result := ran
  cases outcome with
  | refused _ _ why =>
    refine .refused (fun valid => ?_) ?_ ?_
    · cases why.symm.trans valid
    · simp [Offer.Accepted, made, EStateM.Result.value?]
    · rw [made]
      rfl
  | halted _ _ _ valid loop =>
    have kept := loop_version cfg blk.transactions (adoptEncodingVersion blk ws)
    rw [loop] at kept
    refine .interrupted valid ?_ ?_ ?_
    · rintro ⟨_, _, finished⟩
      cases loop.symm.trans finished
    · simp [Offer.Accepted, made, EStateM.Result.value?]
    · rw [made]
      exact kept
  | unsaved _ _ valid loop =>
    refine .settled valid ⟨_, _, loop⟩ ?_
    rw [made]
    exact synced loop
  | uncommitted _ _ _ _ _ valid loop | added _ _ _ valid loop =>
    refine .settled valid ⟨_, _, loop⟩ ?_
    rw [made]
    exact savedFromSync_version.trans (synced loop)

theorem offer_progress (cfg : NodeConfig) (offer : Offer) (set : ws.stateRootEncodingVersion ≠ 0) :
    Progress cfg ws offer := by
  cases offer with
  | add blk => exact addBlock_progress set
  | sync blk => exact addBlockFromSync_progress set

theorem scheduledVersion_eq_iff {version : UInt32} {height : Int64} :
    scheduledVersion cfg version height = scheduledVersion cfg genesis height ↔
      (¬ ReachesUpgrade cfg height → version = genesis) := by
  unfold scheduledVersion
  split_ifs with reached
  · exact iff_of_true rfl fun below => absurd reached below
  · exact ⟨fun same _ => same, fun same => same reached⟩

theorem steady_iff (offer : Offer) (set : ws.stateRootEncodingVersion ≠ 0) :
    Steady cfg genesis ws offer ↔ Unsteered cfg genesis ws offer := by
  unfold Steady
  cases offer_progress cfg offer set with
  | refused invalid rejected version =>
    rw [version, if_neg rejected]
    exact iff_of_true rfl ⟨fun valid => absurd valid invalid, fun valid => absurd valid invalid,
      fun ok => absurd ok rejected⟩
  | interrupted valid fails rejected version =>
    rw [version, if_neg rejected]
    refine ⟨fun same => ⟨fun _ _ => same, fun _ executes => absurd executes fails,
      fun ok => absurd ok rejected⟩, fun unsteered => unsteered.interrupted valid fails⟩
  | settled valid executes version =>
    rw [version]
    by_cases ok : offer.Accepted cfg ws
    · rw [if_pos ok, scheduledVersion_eq_iff]
      exact ⟨fun same => ⟨fun _ fails => absurd executes fails,
        fun _ _ rejected => absurd ok rejected, fun _ => same⟩,
        fun unsteered => unsteered.accepted ok⟩
    · rw [if_neg ok]
      exact ⟨fun same => ⟨fun _ fails => absurd executes fails, fun _ _ _ => same,
        fun taken => absurd taken ok⟩,
        fun unsteered => unsteered.rejected valid executes ok⟩

theorem offer_version_set (offer : Offer) (set : ws.stateRootEncodingVersion ≠ 0) :
    (offer.run cfg ws).final.stateRootEncodingVersion ≠ 0 := by
  have carried : offer.carried ws ≠ 0 := by
    cases offer with
    | add => exact set
    | sync =>
    simp only [Offer.carried]
    split_ifs with named first
    · exact named
    · decide
    · exact set
  cases offer_progress cfg offer set with
  | refused _ _ version =>
    rw [version]
    exact set
  | interrupted _ _ _ version =>
    rw [version]
    cases offer with
    | add => exact set
    | sync blk => exact adopted_set set
  | settled _ _ version =>
    rw [version]
    unfold scheduledVersion
    split_ifs
    · decide
    · exact carried

theorem scheduledVersion_monotone_iff : (∀ lower higher, lower ≤ higher →
      scheduledVersion cfg genesis lower ≤ scheduledVersion cfg genesis higher) ↔
      ¬ 0 < cfg.stateEncodingUpgradeHeight ∨ genesis ≤ stateRootEncodingVersionCanonical := by
  constructor
  · intro grows
    by_cases configured : 0 < cfg.stateEncodingUpgradeHeight
    · have step := grows 0 cfg.stateEncodingUpgradeHeight (Int64.le_of_lt configured)
      rw [scheduledVersion_zero, scheduledVersion, if_pos ⟨configured, Int64.le_refl _⟩] at step
      exact .inr step
    · exact .inl configured
  · intro limited lower higher above
    unfold scheduledVersion
    split_ifs with reachedLower reachedHigher reachedHigher
    · exact UInt32.le_refl _
    · exact absurd ⟨reachedLower.1, Int64.le_trans reachedLower.2 above⟩ reachedHigher
    · exact limited.resolve_left (not_not.mpr reachedHigher.1)
    · exact UInt32.le_refl _

end Version

/-- A block leaves the version of its height exactly if neither its header nor the height rule
steers the node elsewhere, and so does every later block. -/
theorem encoding_version_scheduled_iff_unsteered (cfg : NodeConfig) (genesis : UInt32) :
    (∀ ws offer, ws.stateRootEncodingVersion ≠ 0 →
      (Steady cfg genesis ws offer ↔ Unsteered cfg genesis ws offer)) ∧
    (∀ start st, start.stateRootEncodingVersion ≠ 0 →
      Run (fun ws offer => some (Offer.run cfg offer ws).final) (Unsteered cfg genesis) start st →
      ∀ offer, Unsteered cfg genesis st offer → Steady cfg genesis st offer) ∧
    ((∀ lower higher, lower ≤ higher →
      scheduledVersion cfg genesis lower ≤ scheduledVersion cfg genesis higher) ↔
      ¬ 0 < cfg.stateEncodingUpgradeHeight ∨ genesis ≤ stateRootEncodingVersionCanonical) := by
  refine ⟨fun ws offer set => steady_iff offer set, fun start st set run offer unsteered => ?_,
    scheduledVersion_monotone_iff⟩
  have stillSet := run.keeps (fun ws => ws.stateRootEncodingVersion ≠ 0) set (by
    intro ws offer after set _ made
    cases made
    exact offer_version_set offer set)
  exact (steady_iff offer stillSet).mpr unsteered

def sampleSteering (stateRoot : Bytes) : Block :=
  let blk := sampleBlock 1 [7] [8] []
  { blk with header := { blk.header with stateRoot, stateEncodingVersion := 1 } }

/-- A peer's header sets the version of a node, whether or not the block is accepted. -/
theorem a_header_steers_the_version : (sampleTip []).stateRootEncodingVersion = 2 ∧
      (Offer.sync (sampleSteering [])).Accepted sampleConfig (sampleTip []) ∧
      ((Offer.sync (sampleSteering [])).run sampleConfig
        (sampleTip [])).final.stateRootEncodingVersion = 1 ∧ scheduledVersion sampleConfig 2 1 = 2 ∧
      ¬ (Offer.sync (sampleSteering [9])).Accepted sampleConfig (sampleTip []) ∧
      ((Offer.sync (sampleSteering [9])).run sampleConfig
        (sampleTip [])).final.stateRootEncodingVersion = 1 := by
  decide +kernel

theorem an_agreeing_header_is_steady :
    Steady sampleConfig 2 (sampleTip []) (.sync (sampleBlock 1 [7] [8] [])) := by
  refine ((encoding_version_scheduled_iff_unsteered sampleConfig 2).1 _ _ (by decide)).mpr ?_
  refine ⟨fun _ _ => rfl, fun _ _ _ => by decide, fun _ _ => rfl⟩

end Thrylos
