import Thrylos.Finality
import Thrylos.Library.Runs

/-!
The order of checkpoints along a run. `UpdateJustifiedCheckpoint` and `UpdateFinalizedCheckpoint`
replace a checkpoint without a look at it, and a restart drops the justified one.
-/

namespace Thrylos

section

variable {σ : Type} {cfg : ForkChoiceConfig σ}

def NotAbove (first second : Option Checkpoint) : Prop :=
  ∀ lower, first = some lower → ∃ upper, second = some upper ∧ lower.epoch ≤ upper.epoch

theorem NotAbove.refl (checkpoint : Option Checkpoint) : NotAbove checkpoint checkpoint :=
  fun lower present => ⟨lower, present, UInt64.le_refl _⟩

variable {first : Option Checkpoint} {fc after : ForkChoice σ} {reader : WorldStateReader}
   {st : Guarded (ForkChoice σ)} {call : ForkChoiceCall σ}

theorem NotAbove.trans {second third : Option Checkpoint} (lower : NotAbove first second)
    (upper : NotAbove second third) : NotAbove first third := by
  intro low present
  obtain ⟨middle, middlePresent, below⟩ := lower low present
  obtain ⟨high, highPresent, above⟩ := upper middle middlePresent
  exact ⟨high, highPresent, UInt64.le_trans below above⟩

theorem notAbove_some {checkpoint : Checkpoint} :
    NotAbove first (some checkpoint) ↔ ∀ lower, first = some lower → lower.epoch ≤ checkpoint.epoch := by
  constructor
  · intro below lower present
    obtain ⟨_, same, least⟩ := below lower present
    cases same
    exact least
  · intro below lower present
    exact ⟨checkpoint, rfl, below lower present⟩

theorem notAbove_none : NotAbove first none ↔ first = none := by
  constructor
  · intro below
    cases first with
    | none => rfl
    | some lower =>
      obtain ⟨_, absurdity, _⟩ := below lower rfl
      cases absurdity
  · rintro rfl lower present
    cases present

def Ordered (fc : ForkChoice σ) : Prop := NotAbove fc.finalizedCheckpoint fc.justifiedCheckpoint

structure MovesForward (reader : WorldStateReader) (fc after : ForkChoice σ) : Prop where
  justified : NotAbove fc.justifiedCheckpoint after.justifiedCheckpoint
  finalized : NotAbove fc.finalizedCheckpoint after.finalizedCheckpoint
  descends : ∀ old new, fc.finalizedCheckpoint = some old → after.finalizedCheckpoint = some new →
    reader.IsAncestor old.blockHash new.blockHash

namespace MovesForward

variable {reader : WorldStateReader}

theorem refl (fc : ForkChoice σ) : MovesForward reader fc fc := by
  refine ⟨.refl _, .refl _, ?_⟩
  intro old new present same
  rw [present, Option.some.injEq] at same
  exact same ▸ Relation.ReflTransGen.refl

theorem trans {first second third : ForkChoice σ} (earlier : MovesForward reader first second)
    (later : MovesForward reader second third) : MovesForward reader first third := by
  refine ⟨earlier.justified.trans later.justified, earlier.finalized.trans later.finalized, ?_⟩
  intro old new oldPresent newPresent
  obtain ⟨middle, middlePresent, _⟩ := earlier.finalized old oldPresent
  have upper := later.descends middle new middlePresent newPresent
  exact upper.trans (earlier.descends old middle oldPresent middlePresent)

end MovesForward

def SafeCall (cfg : ForkChoiceConfig σ) (st : Guarded (ForkChoice σ)) : ForkChoiceCall σ → Prop
  | .processAttestation _ | .cleanupOldEpochs => True
  | .updateFinalization currentEpoch => st.held = true ∨
      ∀ justified finalized, st.data.justifiedCheckpoint = some justified →
        Matured cfg currentEpoch justified → st.data.finalizedCheckpoint = some finalized →
        cfg.worldState.IsAncestor finalized.blockHash justified.blockHash
  | .updateJustifiedCheckpoint epoch _ => st.held = true ∨
      (∀ justified, st.data.justifiedCheckpoint = some justified → justified.epoch ≤ epoch) ∧
      ∀ finalized, st.data.finalizedCheckpoint = some finalized → finalized.epoch ≤ epoch
  | .updateFinalizedCheckpoint epoch blockHash _ => st.held = true ∨
      (∃ justified, st.data.justifiedCheckpoint = some justified ∧ epoch ≤ justified.epoch) ∧
      ∀ finalized, st.data.finalizedCheckpoint = some finalized → finalized.epoch ≤ epoch ∧
        cfg.worldState.IsAncestor finalized.blockHash blockHash
  | .restart _ => st.data.justifiedCheckpoint = none ∧
      st.data.finalizedCheckpoint = none ∧ loaded st.data.database = none

theorem movesForward_iff
    {justified finalized : Option Checkpoint} (left : HasCheckpoints justified finalized after) :
    Ordered after ∧ MovesForward reader fc after ↔
      NotAbove finalized justified ∧ NotAbove fc.justifiedCheckpoint justified ∧
        NotAbove fc.finalizedCheckpoint finalized ∧
        ∀ old new, fc.finalizedCheckpoint = some old → finalized = some new →
          reader.IsAncestor old.blockHash new.blockHash := by
  obtain ⟨rfl, rfl⟩ := left
  constructor
  all_goals
    rintro ⟨ordered, justified, finalized, descends⟩
    exact ⟨ordered, justified, finalized, descends⟩

theorem kept_movesForward (ordered : Ordered fc)
    (kept : HasCheckpoints fc.justifiedCheckpoint fc.finalizedCheckpoint after) :
    Ordered after ∧ MovesForward reader fc after :=
  (movesForward_iff kept).mpr ⟨ordered, .refl _, .refl _, (MovesForward.refl fc).descends⟩

theorem CheckpointStep.safe_iff (step : CheckpointStep cfg st.data after call)
    (free : st.held = false) (ordered : Ordered st.data) :
    Ordered after ∧ MovesForward cfg.worldState st.data after ↔ SafeCall cfg st call := by
  have notHeld : st.held ≠ true := by simp [free]
  cases step with
  | attested _ kept | cleaned kept => exact iff_of_true (kept_movesForward ordered kept) trivial
  | young _ immature kept =>
    refine iff_of_true (kept_movesForward ordered kept) (Or.inr ?_)
    intro justified finalized present mature
    exact absurd mature (immature justified present)
  | matured _ checkpoint present mature set =>
    rw [movesForward_iff set, present]
    constructor
    · rintro ⟨_, _, _, descends⟩
      refine Or.inr fun justified finalized same _ finalizedPresent => ?_
      cases present.symm.trans same
      exact descends finalized checkpoint finalizedPresent rfl
    · intro safe
      refine ⟨.refl _, .refl _, present ▸ ordered, ?_⟩
      intro old new oldPresent same
      cases same
      exact safe.resolve_left notHeld checkpoint old present mature oldPresent
  | justified _ set =>
    rw [movesForward_iff set, notAbove_some, notAbove_some]
    constructor
    · rintro ⟨finalized, justified, _, _⟩
      exact Or.inr ⟨justified, finalized⟩
    · intro safe
      obtain ⟨justified, finalized⟩ := safe.resolve_left notHeld
      exact ⟨finalized, justified, .refl _, (MovesForward.refl st.data).descends⟩
  | finalized checkpoint _ set =>
    rw [movesForward_iff set, notAbove_some]
    constructor
    · rintro ⟨below, _, finalized, descends⟩
      refine Or.inr ⟨below checkpoint rfl, fun old present => ⟨finalized old present, ?_⟩⟩
      exact descends old checkpoint present rfl
    · intro safe
      obtain ⟨⟨justified, present, below⟩, finalized⟩ := safe.resolve_left notHeld
      refine ⟨?_, .refl _, fun old oldPresent => (finalized old oldPresent).1, ?_⟩
      · rw [present, notAbove_some]
        rintro lower same
        cases same
        exact below
      · intro old new oldPresent same
        cases same
        exact (finalized old oldPresent).2
  | restarted _ reset =>
    rw [movesForward_iff reset, notAbove_none, notAbove_none]
    constructor
    · rintro ⟨nothing, justified, finalized, _⟩
      rw [nothing, notAbove_none] at finalized
      exact ⟨justified, finalized, nothing⟩
    · rintro ⟨justified, finalized, nothing⟩
      rw [nothing, notAbove_none]
      refine ⟨rfl, justified, finalized, ?_⟩
      intro old new oldPresent
      rw [finalized] at oldPresent
      cases oldPresent

theorem safe_iff_of_cases {after : Guarded (ForkChoice σ)}
    (ordered : Ordered st.data) (harmless : st.held = true → SafeCall cfg st call)
    (cases : (st.held = true ∧ after = st) ∨
      (st.held = false ∧ CheckpointStep cfg st.data after.data call)) :
    Ordered after.data ∧ MovesForward cfg.worldState st.data after.data ↔ SafeCall cfg st call := by
  rcases cases with ⟨held, rfl⟩ | ⟨free, step⟩
  · exact iff_of_true ⟨ordered, .refl _⟩ (harmless held)
  · exact step.safe_iff free ordered

theorem next?_safe_iff {after : Guarded (ForkChoice σ)}
    (made : next? cfg st call = some after) (ordered : Ordered st.data) :
    Ordered after.data ∧ MovesForward cfg.worldState st.data after.data ↔ SafeCall cfg st call := by
  cases call with
  | processAttestation att =>
    refine safe_iff_of_cases ordered (fun _ => trivial) ((next?_processAttestation made).imp_right ?_)
    exact fun free => ⟨free.1, .attested att (free.2.checkpoints ⟨rfl, rfl⟩)⟩
  | updateFinalization =>
    exact safe_iff_of_cases ordered Or.inl (updateFinalization_step made)
  | updateJustifiedCheckpoint =>
    exact safe_iff_of_cases ordered Or.inl (updateJustifiedCheckpoint_step made)
  | updateFinalizedCheckpoint =>
    exact safe_iff_of_cases ordered Or.inl (updateFinalizedCheckpoint_step made)
  | cleanupOldEpochs =>
    exact safe_iff_of_cases ordered (fun _ => trivial) (cleanupOldEpochs_step made)
  | restart slashing =>
    -- a restart does not wait for the lock, so it makes the step of a free node
    let free : Guarded (ForkChoice σ) := ⟨false, st.data⟩
    have step : CheckpointStep cfg free.data after.data (.restart slashing) := restart_step made
    exact step.safe_iff rfl ordered

abbrev SafelyReached (cfg : ForkChoiceConfig σ) :
    Guarded (ForkChoice σ) → Guarded (ForkChoice σ) → Prop := Run (next? cfg) (SafeCall cfg)

theorem SafelyReached.movesForward {start : Guarded (ForkChoice σ)} (ordered : Ordered start.data)
    (reached : SafelyReached cfg start st) :
    Ordered st.data ∧ MovesForward cfg.worldState start.data st.data := by
  refine reached.keeps (fun st => Ordered st.data ∧
    MovesForward cfg.worldState start.data st.data) ⟨ordered, .refl _⟩ ?_
  intro st call after reachedBefore safe made
  have step := (next?_safe_iff made reachedBefore.1).mpr safe
  exact ⟨step.1, reachedBefore.2.trans step.2⟩

/-- Safe calls keep the checkpoints in order and move them forward, and a call that is not safe
breaks one of the two. -/
theorem checkpoints_monotone (cfg : ForkChoiceConfig σ) (slashing : Option σ)
    (database : Option StoredCheckpoint) (ticks : Nat) {middle st : Guarded (ForkChoice σ)}
    (before : SafelyReached cfg (newForkChoice slashing database ticks) middle)
    (later : SafelyReached cfg middle st) : Ordered middle.data ∧ Ordered st.data ∧
      MovesForward cfg.worldState middle.data st.data ∧
      ∀ call after, next? cfg st call = some after → (SafeCall cfg st call ↔
        Ordered after.data ∧ MovesForward cfg.worldState st.data after.data) := by
  have fresh : Ordered (newForkChoice slashing database ticks).data := notAbove_none.mpr rfl
  have start := (SafelyReached.movesForward fresh before).1
  obtain ⟨ordered, advanced⟩ := SafelyReached.movesForward start later
  exact ⟨start, ordered, advanced, fun call after made => (next?_safe_iff made ordered).symm⟩

end

def justifiedNode (epoch : UInt64) (st : Guarded (ForkChoice Unit)) : Guarded (ForkChoice Unit) :=
  (perform (sampleForkChoiceConfig soleValidator) (.updateJustifiedCheckpoint epoch [1]) st).final

theorem checkpoints_monotone_sample :
    let node : Guarded (ForkChoice Unit) := newForkChoice none none 0
    Ordered (justifiedNode 5 (justifiedNode 3 node)).data ∧
      MovesForward soleValidator (justifiedNode 3 node).data (justifiedNode 5 (justifiedNode 3 node)).data := by
  intro node
  have first : SafelyReached (sampleForkChoiceConfig soleValidator) node (justifiedNode 3 node) :=
    .call (ForkChoiceCall.updateJustifiedCheckpoint 3 [1]) _ .start (Or.inr ⟨nofun, nofun⟩)
      (next?_of_isSome (by decide +kernel))
  have second : SafelyReached (sampleForkChoiceConfig soleValidator) (justifiedNode 3 node)
      (justifiedNode 5 (justifiedNode 3 node)) := by
    refine .call (ForkChoiceCall.updateJustifiedCheckpoint 5 [1]) _ .start (Or.inr ⟨?_, ?_⟩)
      (next?_of_isSome (by decide +kernel))
    · intro justified present
      have least : ∀ checkpoint ∈ (justifiedNode 3 node).data.justifiedCheckpoint,
          checkpoint.epoch ≤ 5 := by decide +kernel
      exact least justified present
    · intro finalized present
      cases present
  obtain ⟨_, ordered, advanced, _⟩ :=
    checkpoints_monotone (sampleForkChoiceConfig soleValidator) none none 0 first second
  exact ⟨ordered, advanced⟩

/-- `UpdateJustifiedCheckpoint` with an earlier epoch moves the justified checkpoint back. -/
theorem justified_epoch_moves_back :
    let node : Guarded (ForkChoice Unit) := newForkChoice none none 0
    Reached (sampleForkChoiceConfig soleValidator) node
        [.updateJustifiedCheckpoint 3 [1], .updateJustifiedCheckpoint 5 [1]]
        (justifiedNode 3 (justifiedNode 5 node)) ∧
      (justifiedNode 5 node).data.justifiedCheckpoint.map (·.epoch) = some 5 ∧
      (justifiedNode 3 (justifiedNode 5 node)).data.justifiedCheckpoint.map (·.epoch) = some 3 := by
  intro node
  refine ⟨.call _ _ (.call _ (justifiedNode 5 node) .start ?_) ?_, by decide +kernel,
    by decide +kernel⟩
  · exact next?_of_isSome (by decide +kernel)
  · exact next?_of_isSome (by decide +kernel)

/-- What was finalized at one time is out of reach of every reorganisation asked for later. -/
theorem finalized_epoch_is_never_reorganized {σ : Type} (cfg : ForkChoiceConfig σ)
    {start st : Guarded (ForkChoice σ)} (ordered : Ordered start.data)
    (reached : SafelyReached cfg start st) (free : st.held = false) {finalized : Checkpoint}
    (present : start.data.finalizedCheckpoint = some finalized) {forkPointEpoch : UInt64}
    (old : forkPointEpoch ≤ finalized.epoch) (reorgDepth : Int) (newChainStake totalStake : Nat) :
    ∃ err, validateReorganization cfg reorgDepth forkPointEpoch newChainStake totalStake st =
      .error (.refused err) st := by
  obtain ⟨later, still, above⟩ := (reached.movesForward ordered).2.finalized finalized present
  have crosses : crossesFinality st.data forkPointEpoch = some later := by
    simp [crossesFinality, still, UInt64.le_trans old above]
  obtain ⟨err, refused⟩ : ∃ err, reorganizationError cfg st.data reorgDepth forkPointEpoch
      newChainStake totalStake = some err := by
    simp only [reorganizationError, crosses]
    split_ifs <;> exact ⟨_, rfl⟩
  refine ⟨err, (if_neg (by simp [free])).trans ?_⟩
  rw [EStateM.bind_ok (rfl : Guarded.read st = .ok st.data st), refused]
  rfl

def finalizedNode (epoch : UInt64) (st : Guarded (ForkChoice Unit)) : Guarded (ForkChoice Unit) :=
  (perform (sampleForkChoiceConfig soleValidator) (.updateFinalizedCheckpoint epoch [1] true)
    (justifiedNode epoch st)).final

/-- Epoch 5 is finalized after epoch 3, and epoch 2 stays out of reach. -/
theorem a_finalized_epoch_is_not_reorganized :
    let start := finalizedNode 3 (newForkChoice none none 0)
    ∃ err, validateReorganization (sampleForkChoiceConfig soleValidator) 1 2 1 1
      (finalizedNode 5 start) = .error (.refused err) (finalizedNode 5 start) := by
  intro start
  have ordered : ∀ checkpoint ∈ start.data.finalizedCheckpoint,
      ∃ upper ∈ start.data.justifiedCheckpoint, checkpoint.epoch ≤ upper.epoch := by decide +kernel
  have justify : ∀ checkpoint, start.data.justifiedCheckpoint = some checkpoint ∨
      start.data.finalizedCheckpoint = some checkpoint → checkpoint.epoch ≤ 5 := by
    rintro checkpoint (present | present)
    · exact (by decide +kernel : ∀ old ∈ start.data.justifiedCheckpoint, old.epoch ≤ 5) _ present
    · exact (by decide +kernel : ∀ old ∈ start.data.finalizedCheckpoint, old.epoch ≤ 5) _ present
  have kept : ∀ old ∈ (justifiedNode 5 start).data.finalizedCheckpoint,
      old.epoch ≤ 5 ∧ old.blockHash = [1] := by decide +kernel
  have above : ∃ upper ∈ (justifiedNode 5 start).data.justifiedCheckpoint, 5 ≤ upper.epoch := by
    decide +kernel
  have reached : SafelyReached (sampleForkChoiceConfig soleValidator) start
      (finalizedNode 5 start) := by
    refine .call (ForkChoiceCall.updateFinalizedCheckpoint 5 [1] true) _
      (.call (ForkChoiceCall.updateJustifiedCheckpoint 5 [1]) (justifiedNode 5 start) .start
        (.inr ⟨fun _ present => justify _ (.inl present), fun _ present => justify _ (.inr present)⟩)
        (next?_of_isSome (by decide +kernel)))
      (.inr ⟨above, fun old present => ?_⟩) (next?_of_isSome (by decide +kernel))
    obtain ⟨below, same⟩ := kept old present
    rw [same]
    exact ⟨below, .refl⟩
  obtain ⟨finalized, present, epoch⟩ : ∃ checkpoint, start.data.finalizedCheckpoint =
      some checkpoint ∧ checkpoint.epoch = 3 :=
    (by decide +kernel : ∃ checkpoint ∈ start.data.finalizedCheckpoint, checkpoint.epoch = 3)
  exact finalized_epoch_is_never_reorganized _ ordered reached (by decide +kernel) present
    (by rw [epoch]; decide) 1 1 1

end Thrylos
