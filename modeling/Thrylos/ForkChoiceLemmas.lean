import Thrylos.ForkChoice

/-!
What one call of fork choice can do. `Processed` lists every state `ProcessAttestation` can leave
behind short of a panic.
-/

namespace Thrylos

open Guarded (wp wp_pure wp_throw wp_read wp_update wp_bind wp_exclusively)

section

variable {σ : Type} {cfg : ForkChoiceConfig σ} {att : Attestation} {fc : ForkChoice σ}

def judged (cfg : ForkChoiceConfig σ) (att : Attestation) : Option σ → Option σ
  | none => none
  | some slashing =>
    let manager := cfg.slashingManager
    match manager.processAttestation att slashing with
    | (some (.doubleVote previous), slashing) =>
      some (manager.applyDoubleVoteSlashing previous att slashing).2
    | (some .accepted, slashing) =>
      some (manager.isValidatorActive att.validatorAddress slashing).2
    | (_, slashing) => some slashing

def reported (cfg : ForkChoiceConfig σ) (att : Attestation) (prevVote : Bytes)
    (fc : ForkChoice σ) : Option σ :=
  match fc.slashing, findValidatorAttestation fc prevVote att.validatorAddress att.epoch with
  | some slashing, some previous =>
    some (cfg.slashingManager.applyDoubleVoteSlashing previous att slashing).2
  | slashing, _ => slashing

def votesWith (fc : ForkChoice σ) (att : Attestation) :
    KeyedMap (Prod.fst : Address × Bytes → Address) :=
  (latestVotes fc att.epoch).insert (att.validatorAddress, att.blockHash)

def withVotes (fc : ForkChoice σ) (epoch : UInt64)
    (votes : KeyedMap (Prod.fst : Address × Bytes → Address)) : ForkChoice σ :=
  { fc with latestMessages := fc.latestMessages.insert (epoch.toNat, votes) }

def SameButCache (fc after : ForkChoice σ) : Prop :=
  ∃ totalActiveStake totalActiveStakeTime ticks,
    after = { fc with totalActiveStake, totalActiveStakeTime, ticks }

variable {fail : Halt String → ForkChoice σ → Prop} {post : Bool → ForkChoice σ → Prop}
   {prevVote : Bytes}

theorem wp_askSlashing {α : Type} {request : σ → Option α × σ} {slashing : σ}
    {post : α × σ → ForkChoice σ → Prop}
    (answered : ∀ value after, request slashing = (some value, after) →
      post (value, after) { fc with slashing := some after })
    (silent : ∀ after, request slashing = (none, after) →
      fail .deadlock { fc with slashing := some after }) :
    wp (askSlashing request slashing) post fail fc := by
  unfold askSlashing
  rcases asked : request slashing with ⟨answer, after⟩
  refine wp_bind (wp_update ?_)
  cases answer with
  | none => exact wp_throw (silent after asked)
  | some value => exact wp_pure (answered value after asked)

def clears (cfg : ForkChoiceConfig σ) (att : Attestation) : Option σ → Bool
  | none => true
  | some slashing =>
    let manager := cfg.slashingManager
    match manager.processAttestation att slashing with
    | (some .accepted, slashing) =>
      (manager.isValidatorActive att.validatorAddress slashing).1
    | _ => false

def unanswered (cfg : ForkChoiceConfig σ) (att : Attestation) : Option σ → Bool
  | none => false
  | some slashing =>
    let manager := cfg.slashingManager
    match manager.processAttestation att slashing with
    | (none, _) => true
    | (some (.doubleVote previous), slashing) =>
      (manager.applyDoubleVoteSlashing previous att slashing).1.isNone
    | _ => false

theorem wp_passesSlashing (returned : post (clears cfg att fc.slashing)
      { fc with slashing := judged cfg att fc.slashing })
    (blocked : unanswered cfg att fc.slashing = true →
      fail .deadlock { fc with slashing := judged cfg att fc.slashing }) :
    wp (passesSlashing cfg att) post fail fc := by
  refine wp_bind (wp_read ?_)
  cases present : fc.slashing with
  | none =>
    simp only [present, judged, clears] at returned
    exact wp_pure (by simpa [← present] using returned)
  | some =>
  simp only [present, judged, clears, unanswered] at returned blocked
  refine wp_bind (wp_askSlashing (fun verdict after asked => ?_) fun after asked => ?_)
  · simp only [asked] at returned blocked
    cases verdict with
    | violation => exact wp_pure returned
    | doubleVote =>
      refine wp_bind (wp_askSlashing (fun _ last applied => wp_pure ?_) fun last applied => ?_)
      · simpa [applied] using returned
      · simpa [applied] using blocked
    | accepted => exact wp_bind (wp_update (wp_pure returned))
  · simpa [asked] using blocked

def unreported (cfg : ForkChoiceConfig σ) (att : Attestation) (prevVote : Bytes)
    (fc : ForkChoice σ) : Bool :=
  match fc.slashing, findValidatorAttestation fc prevVote att.validatorAddress att.epoch with
  | some slashing, some previous =>
    (cfg.slashingManager.applyDoubleVoteSlashing previous att slashing).1.isNone
  | _, _ => false

/-- The report of a second vote cuts both hashes to eight bytes, and one of them is shorter. -/
def TooShort (att : Attestation) (prevVote : Bytes) : Prop :=
  prevVote.length < 8 ∨ att.blockHash.length < 8

theorem wp_reportEquivocation {post : PUnit → ForkChoice σ → Prop}
    (returned : ¬ TooShort att prevVote →
      post ⟨⟩ { fc with slashing := reported cfg att prevVote fc })
    (blocked : unreported cfg att prevVote fc = true →
      fail .deadlock { fc with slashing := reported cfg att prevVote fc })
    (crashed : TooShort att prevVote → ∀ message, fail (.panic message) fc) :
    wp (reportEquivocation cfg att prevVote) post fail fc := by
  unfold reportEquivocation
  split
  · rename_i short
    exact wp_throw (crashed short _)
  rename_i long
  have returned := returned long
  refine wp_bind (wp_read ?_)
  unfold reported at returned blocked
  unfold unreported at blocked
  split
  · rename_i slashing previous present found
    simp only [present, found] at returned blocked
    refine wp_bind (wp_askSlashing (fun _ after applied => wp_pure ?_) fun after applied => ?_)
    · simpa [applied] using returned
    · simpa [applied] using blocked
  · rename_i missing
    refine wp_pure ?_
    split at returned
    · rename_i slashing previous present found
      exact absurd found (missing slashing previous present)
    · exact returned

def Consistent (fc : ForkChoice σ) (att : Attestation) : Prop :=
  ∀ vote, (latestVotes fc att.epoch).find? att.validatorAddress = some vote → vote.2 = att.blockHash

theorem votesWith_of_found (found : (latestVotes fc att.epoch).find? att.validatorAddress =
      some (att.validatorAddress, prevVote)) (same : prevVote = att.blockHash) :
    votesWith fc att = latestVotes fc att.epoch := by
  subst same
  exact KeyedMap.insert_of_find? found

def conflicted (cfg : ForkChoiceConfig σ) (att : Attestation) (prevVote : Bytes)
    (fc : ForkChoice σ) : ForkChoice σ :=
  let touched := withVotes fc att.epoch (latestVotes fc att.epoch)
  { touched with slashing := reported cfg att prevVote touched }

theorem wp_trackLatestMessage
    (tracked : Consistent fc att → post true (withVotes fc att.epoch (votesWith fc att)))
    (conflict : ∀ prevVote, (latestVotes fc att.epoch).find? att.validatorAddress =
        some (att.validatorAddress, prevVote) → prevVote ≠ att.blockHash →
      (¬ TooShort att prevVote → post false (conflicted cfg att prevVote fc)) ∧
        (unreported cfg att prevVote (withVotes fc att.epoch (latestVotes fc att.epoch)) = true →
          fail .deadlock (conflicted cfg att prevVote fc)) ∧
        (TooShort att prevVote → ∀ message data, fail (.panic message) data)) :
    wp (trackLatestMessage cfg att) post fail fc := by
  refine wp_bind (wp_read (wp_bind (wp_update ?_)))
  split
  · rename_i voter prevVote found
    have address : voter = att.validatorAddress := KeyedMap.find?_key found
    subst address
    split
    · rename_i ne
      have outcome := conflict prevVote found ne
      exact wp_bind (wp_reportEquivocation (fun long => wp_pure (outcome.1 long)) outcome.2.1
        fun short _ => outcome.2.2 short _ _)
    · rename_i same
      have same := not_not.mp same
      have consistent : Consistent fc att := by
        intro vote other
        rw [found, Option.some.injEq] at other
        exact other ▸ same
      have cast := tracked consistent
      rw [votesWith_of_found found same] at cast
      exact wp_pure cast
  · rename_i absent
    have consistent : Consistent fc att := by
      intro vote other
      rw [absent] at other
      cases other
    have twice : withVotes (withVotes fc att.epoch (latestVotes fc att.epoch))
        att.epoch (votesWith fc att) = withVotes fc att.epoch (votesWith fc att) := by
      simp only [withVotes]
      congr 1
      exact KeyedMap.insert_insert rfl
    refine wp_bind (wp_update (wp_pure ?_))
    have cast := tracked consistent
    rw [← twice] at cast
    exact cast

theorem wp_markAttested
    (repeated : att.validatorAddress ∈ attestersOf fc att.blockHash → post false fc)
    (marked : att.validatorAddress ∉ attestersOf fc att.blockHash → post true { fc with
        validatorAttestations := fc.validatorAttestations.insert (att.blockHash,
          att.validatorAddress :: attestersOf fc att.blockHash) }) :
    wp (markAttested att) post fail fc := by
  refine wp_bind (wp_read ?_)
  dsimp only
  split
  · rename_i mem
    exact wp_pure (repeated mem)
  · rename_i absent
    exact wp_bind (wp_update (wp_pure (marked absent)))

def Storable (cfg : ForkChoiceConfig σ) (att : Attestation) (fc : ForkChoice σ) : Prop :=
  0 ≤ cfg.maxAttestationsPerBlock ∨ (fc.attestationsByBlock.find? att.blockHash).isSome = true

theorem wp_storeAttestation {post : PUnit → ForkChoice σ → Prop}
    (stored : Storable cfg att fc → ∀ attestationsByBlock, post ⟨⟩ { fc with attestationsByBlock })
    (crashed : ¬ Storable cfg att fc → ∀ message data, fail (.panic message) data) :
    wp (storeAttestation cfg att) post fail fc := by
  unfold Storable at stored crashed
  refine wp_bind (wp_read ?_)
  cases found : fc.attestationsByBlock.find? att.blockHash with
  | none =>
    simp only [found, Option.isSome_none, Bool.false_eq_true, or_false] at stored crashed
    dsimp only
    split
    · exact wp_throw (crashed (by omega) _ _)
    · exact wp_update (stored (by omega) _)
  | some =>
    simp only [found, Option.isSome_some, or_true, true_imp_iff] at stored
    dsimp only
    split
    · exact wp_update (stored _)
    · exact wp_pure (stored fc.attestationsByBlock)

theorem wp_forkChoiceClock {post : Int → ForkChoice σ → Prop}
    (returned : ∀ now, post now { fc with ticks := fc.ticks + 1 }) :
    wp (forkChoiceClock cfg) post fail fc :=
  wp_bind (wp_read (wp_bind (wp_update (wp_pure (returned _)))))

def activeStake (cfg : ForkChoiceConfig σ) (fc : ForkChoice σ) : Nat :=
  if stakeCacheFresh cfg fc (cfg.clock fc.ticks) then fc.totalActiveStake
  else stakeOf cfg.worldState.getActiveValidators

theorem wp_getTotalActiveStake_exact {post : Nat → ForkChoice σ → Prop}
    (returned : ∀ after, SameButCache fc after → post (activeStake cfg fc) after) :
    wp (getTotalActiveStake cfg) post fail fc := by
  have ticked : stakeCacheFresh cfg { fc with ticks := fc.ticks + 1 } (cfg.clock fc.ticks) =
      stakeCacheFresh cfg fc (cfg.clock fc.ticks) := rfl
  unfold activeStake at returned
  refine wp_bind (wp_bind (wp_read (wp_bind (wp_update (wp_pure (wp_bind (wp_read ?_)))))))
  rw [ticked]
  split
  · rename_i fresh
    rw [if_pos fresh] at returned
    exact wp_pure (returned _ ⟨_, _, _, rfl⟩)
  · rename_i stale
    rw [if_neg stale] at returned
    refine wp_bind (wp_forkChoiceClock fun cachedAt => wp_bind (wp_update (wp_pure ?_)))
    exact returned _ ⟨_, _, _, rfl⟩

theorem wp_getTotalActiveStake {post : Nat → ForkChoice σ → Prop}
    (returned : ∀ total after, SameButCache fc after → post total after) :
    wp (getTotalActiveStake cfg) post fail fc :=
  wp_getTotalActiveStake_exact (returned _)

theorem wp_checkQuorum {attestingStake : Nat} {post : PUnit → ForkChoice σ → Prop}
    (returned : attestingStake < quorumThreshold (activeStake cfg fc) →
      ∀ after, SameButCache fc after → post ⟨⟩ after)
    (blocked : quorumThreshold (activeStake cfg fc) ≤ attestingStake →
      ∀ after, SameButCache fc after → fail .deadlock after) :
    wp (checkQuorum cfg att attestingStake) post fail fc := by
  refine wp_bind (wp_getTotalActiveStake_exact fun after same => ?_)
  split
  · rename_i below
    exact wp_pure (returned below after same)
  · rename_i reached
    exact wp_bind (wp_exclusively (blocked (not_lt.mp reached) after same))

def counted (cfg : ForkChoiceConfig σ) (att : Attestation) (stake : Nat)
    (attestationsByBlock : KeyedMap (Prod.fst : Bytes × List Attestation → Bytes))
    (fc : ForkChoice σ) : ForkChoice σ :=
  let voted := withVotes fc att.epoch (votesWith fc att)
  let marked := { voted with
    validatorAttestations := fc.validatorAttestations.insert (att.blockHash,
      att.validatorAddress :: attestersOf fc att.blockHash)
    attestationsByBlock := attestationsByBlock }
  addEpochScore cfg att stake (addBlockScore cfg att
    (ForkChoice.score fc.blockScores att.blockHash + stake) marked)

variable (fc : ForkChoice σ)

namespace ForkChoice

def remainder : Option Checkpoint × Option Checkpoint × Option σ × Option StoredCheckpoint :=
  (fc.justifiedCheckpoint, fc.finalizedCheckpoint, fc.slashing, fc.database)

def untallied : ForkChoice σ :=
  { fc with
    blockScores := KeyedMap.empty
    attestationsByBlock := KeyedMap.empty
    validatorAttestations := KeyedMap.empty
    epochAttestations := KeyedMap.empty
    blockEpochMap := KeyedMap.empty
    epochBlockOrder := KeyedMap.empty
    latestMessages := KeyedMap.empty }

theorem remainder_eq {left right : ForkChoice σ} (same : left.untallied = right.untallied) :
    left.remainder = right.remainder := by
  have kept := congrArg remainder same
  exact kept

theorem eraseEpochScore_untallied (epoch : UInt64) (blockHash : Bytes) :
    (fc.eraseEpochScore epoch blockHash).untallied = fc.untallied := by
  unfold eraseEpochScore
  split <;> rfl

theorem removeTrackedBlockLocked_untallied (blockHash : Bytes) :
    (fc.removeTrackedBlockLocked blockHash).untallied = fc.untallied := by
  unfold removeTrackedBlockLocked
  split
  · rfl
  · rename_i epoch _
    refine (eraseEpochScore_untallied _ epoch blockHash).trans ?_
    split <;> rfl

theorem pruneLoop_untallied (maxBlocks : Nat) (epoch : UInt64) (rounds : Nat)
    (backing : List Bytes) (start : Nat) (fc : ForkChoice σ) :
    (pruneLoop maxBlocks epoch rounds backing start fc).untallied = fc.untallied := by
  induction rounds generalizing backing start fc with
  | zero => rfl
  | succ _ ih =>
    unfold pruneLoop
    split
    · rfl
    · split
      · rfl
      · exact (ih _ _ _).trans (removeTrackedBlockLocked_untallied fc _)

theorem pruneEpochBlocksLocked_untallied (epoch : UInt64) :
    (fc.pruneEpochBlocksLocked cfg epoch).untallied = fc.untallied := by
  unfold pruneEpochBlocksLocked
  split
  · rfl
  · exact pruneLoop_untallied _ epoch _ _ 0 fc

theorem cleanupOldEpochsLocked_untallied :
    (fc.cleanupOldEpochsLocked cfg).untallied = fc.untallied := by
  unfold cleanupOldEpochsLocked
  dsimp only
  generalize List.filter _ (KeyedMap.keys fc.blockScores) = removed
  -- the blocks are removed one after the other from the node without the old epochs
  suffices ∀ current : ForkChoice σ, current.untallied = fc.untallied →
      (removed.foldl removeTrackedBlockLocked current).untallied = fc.untallied from this _ rfl
  induction removed with
  | nil => exact fun _ => id
  | cons blockHash _ ih =>
    exact fun current held => ih _ ((removeTrackedBlockLocked_untallied current blockHash).trans held)

theorem cleanupOldEpochsLocked_remainder :
    (fc.cleanupOldEpochsLocked cfg).remainder = fc.remainder :=
  remainder_eq (cleanupOldEpochsLocked_untallied fc)

end ForkChoice

variable (att : Attestation)

theorem addBlockScore_untallied (newScore : Nat) (fc : ForkChoice σ) :
    (addBlockScore cfg att newScore fc).untallied = fc.untallied := by
  unfold addBlockScore
  dsimp only
  split
  · exact ForkChoice.pruneEpochBlocksLocked_untallied _ _
  · rfl

theorem addEpochScore_untallied (stake : Nat) (fc : ForkChoice σ) :
    (addEpochScore cfg att stake fc).untallied = fc.untallied := by
  unfold addEpochScore
  split
  · exact ForkChoice.cleanupOldEpochsLocked_untallied _
  · rfl

theorem counted_untallied (stake : Nat) (attestationsByBlock) (fc : ForkChoice σ) :
    (counted cfg att stake attestationsByBlock fc).untallied = fc.untallied :=
  (addEpochScore_untallied att stake _).trans (addBlockScore_untallied att _ _)

theorem counted_remainder (stake : Nat) (attestationsByBlock) (fc : ForkChoice σ) :
    (counted cfg att stake attestationsByBlock fc).remainder = fc.remainder :=
  ForkChoice.remainder_eq (counted_untallied att stake attestationsByBlock fc)

inductive Processed (cfg : ForkChoiceConfig σ) (att : Attestation) (fc : ForkChoice σ) :
    ForkChoice σ → Prop where
  | ignored : Processed cfg att fc fc
  | conflict (prevVote : Bytes)
      (found : (latestVotes fc att.epoch).find? att.validatorAddress =
        some (att.validatorAddress, prevVote))
      (ne : prevVote ≠ att.blockHash) :
      Processed cfg att fc (conflicted cfg att prevVote fc)
  | repeated (consistent : Consistent fc att)
      (mem : att.validatorAddress ∈ attestersOf fc att.blockHash) :
      Processed cfg att fc (withVotes fc att.epoch (votesWith fc att))
  | counted (val : Validator) (attestationsByBlock) (after : ForkChoice σ)
      (registered : cfg.worldState.getValidator att.validatorAddress = some val)
      (active : val.active = true) (consistent : Consistent fc att)
      (absent : att.validatorAddress ∉ attestersOf fc att.blockHash)
      (cached : SameButCache (counted cfg att (parseBigInt val.stake)
        attestationsByBlock fc) after) :
      Processed cfg att fc after

def unlessPanic (holds : ForkChoice σ → Prop) : Halt String → ForkChoice σ → Prop
  | .panic _, _ => True
  | _, after => holds after

theorem wp_countAttestation (cfg : ForkChoiceConfig σ) (att : Attestation) (fc : ForkChoice σ) :
    let asked := { fc with slashing := judged cfg att fc.slashing }
    wp (countAttestation cfg att) (fun _ => Processed cfg att asked)
      (unlessPanic (Processed cfg att asked)) fc := by
  refine wp_bind (wp_passesSlashing ?_ fun _ => .ignored)
  split
  · exact wp_pure .ignored
  cases registered : cfg.worldState.getValidator att.validatorAddress with
  | none => exact wp_pure .ignored
  | some val =>
  by_cases active : val.active = true
  · simp only [active, not_true_eq_false, if_false]
    refine wp_bind (wp_trackLatestMessage (fun consistent => ?_) fun prevVote found ne => ?_)
    · refine wp_bind (wp_markAttested (fun mem => ?_) fun absent => ?_)
      · exact wp_pure (.repeated consistent mem)
      · refine wp_bind (wp_storeAttestation (fun _ attestationsByBlock => ?_) fun _ _ _ => trivial)
        refine wp_checkQuorum (fun _ after cached => ?_) fun _ after cached => ?_
        all_goals
          exact .counted val attestationsByBlock after registered active consistent absent cached
    · exact ⟨fun _ => wp_pure (.conflict prevVote found ne),
        fun _ => .conflict prevVote found ne, fun _ _ _ => trivial⟩
  · simp only [active]
    exact wp_pure .ignored

end

end Thrylos
