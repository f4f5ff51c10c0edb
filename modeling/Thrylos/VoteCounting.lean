import Thrylos.Finality
import Thrylos.Library.Runs
import Thrylos.Library.Totals

/-!
What the scores of fork choice count: the stake of those marked as a block's attesters. The marks
can be dropped while the score is kept, and a repeated vote is then counted again.
-/

namespace Thrylos

namespace WorldStateReader

variable {reader : WorldStateReader} {chosen : Address → Bool}

def weight (chosen : Address → Bool) (entry : Address × Validator) : Nat :=
  if chosen entry.1 ∧ entry.2.active then parseBigInt entry.2.stake else 0

theorem stakeOf_eq_sum (vals : List Validator) : stakeOf vals = (vals.map fun val =>
        if val.active then parseBigInt val.stake else 0).sum := by
  have general : ∀ total : Nat, vals.foldl (fun (total : Nat) (val : Validator) =>
      if val.active then total + parseBigInt val.stake else total) total =
        total + (vals.map fun val =>
          if val.active then parseBigInt val.stake else 0).sum := by
    induction vals with
    | nil => simp
    | cons _ _ ih =>
      intro total
      rw [List.foldl_cons, ih, List.map_cons, List.sum_cons]
      split <;> omega
  simpa [stakeOf] using general 0

theorem sum_weight_filter (entries : List (Address × Validator)) :
    ((entries.filter fun entry => chosen entry.1).map fun entry =>
      if entry.2.active then parseBigInt entry.2.stake else 0).sum =
        (entries.map (weight chosen)).sum := by
  induction entries with
  | nil => rfl
  | cons first _ ih =>
    rw [List.map_cons, List.sum_cons, ← ih]
    by_cases picked : chosen first.1 = true <;> simp [picked, weight]

theorem stakeAmong_eq_sum : reader.stakeAmong chosen =
      ∑ entry ∈ reader.validators.entries.toFinset, weight chosen entry := by
  rw [List.sum_toFinset _ reader.validators.entries_nodup, ← sum_weight_filter]
  simp [stakeAmong, stakeOf_eq_sum, Function.comp_def]

theorem totalStake_eq_sum : reader.totalStake =
      ∑ entry ∈ reader.validators.entries.toFinset, weight (fun _ => true) entry := by
  rw [List.sum_toFinset _ reader.validators.entries_nodup, totalStake, stakeOf_eq_sum,
    getActiveValidators]
  induction reader.validators.entries with
  | nil => rfl
  | cons first =>
    by_cases active : first.2.active = true <;> simp_all [weight]

variable {after : Address → Bool}

theorem stakeAmong_mono (kept : ∀ addr, chosen addr = true → after addr = true) :
    reader.stakeAmong chosen ≤ reader.stakeAmong after := by
  rw [stakeAmong_eq_sum, stakeAmong_eq_sum]
  refine Finset.sum_le_sum fun entry _ => ?_
  unfold weight
  split
  · rename_i picked
    rw [if_pos ⟨kept _ picked.1, picked.2⟩]
  · exact Nat.zero_le _

theorem stakeAmong_add {addr : Address} {val : Validator}
    (registered : reader.getValidator addr = some val) (active : val.active = true)
    (unpicked : chosen addr = false) (picked : after addr = true)
    (same : ∀ other, other ≠ addr → after other = chosen other) :
    reader.stakeAmong after = reader.stakeAmong chosen + parseBigInt val.stake := by
  obtain ⟨entry, found, rfl⟩ := Option.map_eq_some_iff.mp registered
  have key : entry.1 = addr := KeyedMap.find?_key found
  subst key
  have mem : entry ∈ reader.validators.entries.toFinset :=
    List.mem_toFinset.mpr (KeyedMap.find?_mem found)
  have rest : ∀ other ∈ reader.validators.entries.toFinset, other ≠ entry →
      weight after other = weight chosen other := by
    intro other inside ne
    have apart : other.1 ≠ entry.1 := by
      intro equal
      have otherFound := (KeyedMap.mem_entries_iff _ _).mp (List.mem_toFinset.mp inside)
      rw [equal, found, Option.some.injEq] at otherFound
      exact ne otherFound.symm
    simp [weight, same other.1 apart]
  have change := Totals.sum_change_one mem rest
  rw [stakeAmong_eq_sum, stakeAmong_eq_sum]
  simpa [weight, unpicked, picked, active] using change

theorem stakeAmong_add_le {other : Address → Bool}
    (disjoint : ∀ addr, chosen addr = true → other addr = false) :
    reader.stakeAmong chosen + reader.stakeAmong other ≤ reader.totalStake := by
  rw [stakeAmong_eq_sum, stakeAmong_eq_sum, totalStake_eq_sum, ← Finset.sum_add_distrib]
  refine Finset.sum_le_sum fun entry _ => ?_
  cases picked : chosen entry.1 with
  | false =>
    simp only [weight, picked, Bool.false_eq_true, false_and, if_false, Nat.zero_add, true_and]
    split
    · rename_i both
      rw [if_pos both.2]
    · exact Nat.zero_le _
  | true => simp [weight, picked, disjoint _ picked]

def stakeAt (reader : WorldStateReader) (addr : Address) : Nat :=
  match reader.getValidator addr with
  | none => 0
  | some val => parseBigInt val.stake

end WorldStateReader

section

variable {σ : Type} {cfg : ForkChoiceConfig σ} {reader : WorldStateReader} {fc after : ForkChoice σ}

def epochScore (fc : ForkChoice σ) (epoch : UInt64) (blockHash : Bytes) : Nat :=
  match fc.epochAttestations.find? epoch.toNat with
  | none => 0
  | some entry => ForkChoice.score entry.2 blockHash

def votedFor (fc : ForkChoice σ) (epoch : UInt64) (blockHash : Bytes) (addr : Address) : Bool :=
  decide (((latestVotes fc epoch).find? addr).map Prod.snd = some blockHash)

variable {epoch : UInt64} {val : Validator} {stake : Nat} {blockHash : Bytes}

theorem votedFor_congr (same : latestVotes after epoch = latestVotes fc epoch) :
    votedFor after epoch = votedFor fc epoch := by
  unfold votedFor
  rw [same]

structure VotesCounted (reader : WorldStateReader) (fc : ForkChoice σ) : Prop where
  scores : ∀ blockHash, ForkChoice.score fc.blockScores blockHash =
    ((attestersOf fc blockHash).map reader.stakeAt).sum
  distinct : ∀ blockHash, (attestersOf fc blockHash).Nodup
  epochs : ∀ epoch blockHash,
    epochScore fc epoch blockHash ≤ reader.stakeAmong (votedFor fc epoch blockHash)

theorem VotesCounted.quorum_unique (counted : VotesCounted reader fc) {first second : Bytes}
    (firstReaches : quorumThreshold reader.totalStake ≤ epochScore fc epoch first)
    (secondReaches : quorumThreshold reader.totalStake ≤ epochScore fc epoch second) :
    first = second := by
  by_contra ne
  have disjoint : ∀ addr, votedFor fc epoch first addr = true →
      votedFor fc epoch second addr = false := by
    intro addr voted
    unfold votedFor at voted ⊢
    rw [decide_eq_true_eq] at voted
    rw [voted, decide_eq_false_iff_not, Option.some.injEq]
    exact ne
  have shared : reader.stakeAmong (votedFor fc epoch first) +
      reader.stakeAmong (votedFor fc epoch second) ≤ reader.totalStake :=
    WorldStateReader.stakeAmong_add_le disjoint
  have firstBound := counted.epochs epoch first
  have secondBound := counted.epochs epoch second
  unfold quorumThreshold at firstReaches secondReaches
  omega

structure Pruned (fc after : ForkChoice σ) : Prop where
  blocks : ∀ blockHash,
    (ForkChoice.score after.blockScores blockHash = ForkChoice.score fc.blockScores blockHash ∧
      attestersOf after blockHash = attestersOf fc blockHash) ∨
    (ForkChoice.score after.blockScores blockHash = 0 ∧ attestersOf after blockHash = [])
  votes : after.latestMessages = fc.latestMessages
  epochs : ∀ epoch blockHash, epochScore after epoch blockHash ≤ epochScore fc epoch blockHash

namespace Pruned

theorem refl (fc : ForkChoice σ) : Pruned fc fc := by
  constructor
  · intro blockHash
    exact Or.inl ⟨rfl, rfl⟩
  · rfl
  · intro epoch blockHash
    exact Nat.le_refl _

theorem trans {last : ForkChoice σ} (first : Pruned fc after) (second : Pruned after last) :
    Pruned fc last := by
  constructor
  · intro blockHash
    rcases second.blocks blockHash with ⟨score, attesters⟩ | gone
    · rw [score, attesters]
      exact first.blocks blockHash
    · exact Or.inr gone
  · exact second.votes.trans first.votes
  · intro epoch blockHash
    exact (second.epochs epoch blockHash).trans (first.epochs epoch blockHash)

theorem votedFor_eq (pruned : Pruned fc after) (epoch : UInt64) :
    votedFor after epoch = votedFor fc epoch := by
  refine votedFor_congr ?_
  unfold latestVotes
  rw [pruned.votes]

end Pruned

theorem VotesCounted.pruned (counted : VotesCounted reader fc) (pruned : Pruned fc after) :
    VotesCounted reader after := by
  constructor
  · intro blockHash
    rcases pruned.blocks blockHash with ⟨score, attesters⟩ | ⟨score, attesters⟩
    · rw [score, attesters]
      exact counted.scores blockHash
    · rw [score, attesters]
      rfl
  · intro blockHash
    rcases pruned.blocks blockHash with ⟨_, attesters⟩ | ⟨_, attesters⟩
    · rw [attesters]
      exact counted.distinct blockHash
    · rw [attesters]
      exact List.nodup_nil
  · intro epoch blockHash
    rw [pruned.votedFor_eq]
    exact (pruned.epochs epoch blockHash).trans (counted.epochs epoch blockHash)

namespace ForkChoice

theorem score_erase (scores : ScoreMap) (unwanted blockHash : Bytes) :
    score (scores.erase unwanted) blockHash =
      if blockHash = unwanted then 0 else score scores blockHash := by
  unfold score
  rw [KeyedMap.find?_erase]
  split_ifs <;> rfl

theorem score_insert (scores : ScoreMap) (blockHash other : Bytes) (value : Nat) :
    score (scores.insert (blockHash, value)) other =
      if blockHash = other then value else score scores other := by
  unfold score
  rw [KeyedMap.find?_insert]
  split_ifs <;> rfl

theorem setOrder_pruned (blocks : List Bytes) : Pruned fc (fc.setOrder epoch blocks) :=
  ⟨fun _ => Or.inl ⟨rfl, rfl⟩, rfl, fun _ _ => Nat.le_refl _⟩

theorem eraseEpochScore_pruned : Pruned fc (fc.eraseEpochScore epoch blockHash) := by
  unfold eraseEpochScore
  split
  · exact Pruned.refl fc
  rename_i key blocks found
  refine ⟨fun _ => Or.inl ⟨rfl, rfl⟩, rfl, ?_⟩
  intro other blk
  have smaller : score (blocks.erase blockHash) blk ≤ score blocks blk := by
    rw [score_erase]
    split_ifs
    · exact Nat.zero_le _
    · exact Nat.le_refl _
  unfold epochScore
  dsimp only
  by_cases same : epoch.toNat = other.toNat
  · rw [← same, found]
    split_ifs with last
    · simp
    · simpa using smaller
  · split_ifs with last
    · simp [Ne.symm same]
    · simp [same]

theorem removeTrackedBlockLocked_pruned : Pruned fc (fc.removeTrackedBlockLocked blockHash) := by
  unfold removeTrackedBlockLocked
  -- the entries of the block itself are erased from whatever the first part left
  have erased : ∀ between : ForkChoice σ, Pruned fc between → Pruned fc { between with
      blockScores := between.blockScores.erase blockHash
      attestationsByBlock := between.attestationsByBlock.erase blockHash
      validatorAttestations := between.validatorAttestations.erase blockHash
      blockEpochMap := between.blockEpochMap.erase blockHash } := by
    intro between pruned
    refine pruned.trans ⟨?_, rfl, fun _ _ => Nat.le_refl _⟩
    intro other
    by_cases same : other = blockHash
    · exact Or.inr (by simp [score, attestersOf, same])
    · exact Or.inl (by simp [score, attestersOf, same])
  split
  · exact erased fc (.refl fc)
  · refine erased _ (Pruned.trans ?_ eraseEpochScore_pruned)
    split
    · exact Pruned.refl fc
    · exact setOrder_pruned _

theorem foldl_removeTrackedBlockLocked_pruned (removed : List Bytes) :
    Pruned fc (removed.foldl removeTrackedBlockLocked fc) := by
  induction removed generalizing fc with
  | nil => exact Pruned.refl fc
  | cons first _ ih => exact removeTrackedBlockLocked_pruned.trans ih

theorem pruneLoop_pruned (maxBlocks rounds start : Nat) (backing : List Bytes) :
    Pruned fc (pruneLoop maxBlocks epoch rounds backing start fc) := by
  induction rounds generalizing backing start fc with
  | zero => exact setOrder_pruned _
  | succ _ ih =>
    unfold pruneLoop
    split
    · exact setOrder_pruned _
    · split
      · exact setOrder_pruned _
      · exact removeTrackedBlockLocked_pruned.trans (ih _ _)

theorem pruneEpochBlocksLocked_pruned : Pruned fc (fc.pruneEpochBlocksLocked cfg epoch) := by
  unfold pruneEpochBlocksLocked
  split
  · exact Pruned.refl fc
  · exact pruneLoop_pruned ..

theorem cleanupOldEpochsLocked_counted (counted : VotesCounted reader fc) :
    VotesCounted reader (fc.cleanupOldEpochsLocked cfg) := by
  refine VotesCounted.pruned ?_ (foldl_removeTrackedBlockLocked_pruned _)
  refine ⟨counted.scores, counted.distinct, ?_⟩
  intro epoch blockHash
  by_cases old : epoch.toNat < fc.cutoffEpoch cfg
  · unfold epochScore
    simp [KeyedMap.find?_erase_keys, old]
  rw [votedFor_congr]
  · refine le_of_eq_of_le ?_ (counted.epochs epoch blockHash)
    unfold epochScore
    simp [KeyedMap.find?_erase_keys, old]
  · unfold latestVotes
    simp [KeyedMap.find?_erase_keys, old]

end ForkChoice

variable {att : Attestation}

theorem latestVotes_withVotes (fc : ForkChoice σ) (epoch other : UInt64)
    (votes : KeyedMap (Prod.fst : Address × Bytes → Address)) :
    latestVotes (withVotes fc epoch votes) other =
      if epoch = other then votes else latestVotes fc other := by
  unfold latestVotes withVotes
  simp only [KeyedMap.find?_insert, UInt64.toNat_inj]
  split_ifs <;> rfl

theorem votedFor_withVote (addr : Address) :
    votedFor (withVotes fc att.epoch (votesWith fc att)) epoch blockHash addr =
      if att.epoch = epoch ∧ att.validatorAddress = addr then
        decide (att.blockHash = blockHash) else votedFor fc epoch blockHash addr := by
  have votes := latestVotes_withVotes fc att.epoch epoch (votesWith fc att)
  by_cases sameEpoch : att.epoch = epoch
  · subst sameEpoch
    unfold votedFor
    rw [votes, votesWith]
    by_cases sameAddr : att.validatorAddress = addr <;> simp [sameAddr]
  · rw [if_neg sameEpoch] at votes
    rw [votedFor_congr votes, if_neg fun same => sameEpoch same.1]

theorem stakeAmong_withVote (consistent : Consistent fc att) :
    reader.stakeAmong (votedFor fc epoch blockHash) ≤ reader.stakeAmong
      (votedFor (withVotes fc att.epoch (votesWith fc att)) epoch blockHash) := by
  refine WorldStateReader.stakeAmong_mono fun addr voted => ?_
  rw [votedFor_withVote]
  split
  · rename_i same
    obtain ⟨rfl, rfl⟩ := same
    obtain ⟨vote, found, rfl⟩ := Option.map_eq_some_iff.mp (of_decide_eq_true voted)
    exact decide_eq_true (consistent vote found).symm
  · exact voted

theorem VotesCounted.voted (counted : VotesCounted reader fc) (consistent : Consistent fc att) :
    VotesCounted reader (withVotes fc att.epoch (votesWith fc att)) :=
  ⟨counted.scores, counted.distinct, fun epoch blockHash =>
    (counted.epochs epoch blockHash).trans (stakeAmong_withVote consistent)⟩

def RepeatRecognised (fc : ForkChoice σ) (att : Attestation) : Prop :=
  votedFor fc att.epoch att.blockHash att.validatorAddress = true →
    att.validatorAddress ∈ attestersOf fc att.blockHash

theorem stakeAmong_newVote (registered : reader.getValidator att.validatorAddress = some val)
    (active : val.active = true)
    (new : votedFor fc att.epoch att.blockHash att.validatorAddress = false) :
    reader.stakeAmong (votedFor (withVotes fc att.epoch (votesWith fc att))
        att.epoch att.blockHash) =
      reader.stakeAmong (votedFor fc att.epoch att.blockHash) + parseBigInt val.stake := by
  refine WorldStateReader.stakeAmong_add registered active new ?_ ?_
  · rw [votedFor_withVote, if_pos ⟨rfl, rfl⟩, decide_eq_true_eq]
  · intro other ne
    rw [votedFor_withVote, if_neg]
    rintro ⟨_, same⟩
    exact ne same.symm

theorem addBlockScore_pruned (cfg : ForkChoiceConfig σ) (fc : ForkChoice σ)
    (att : Attestation) (newScore : Nat) :
    Pruned { fc with blockScores := fc.blockScores.insert (att.blockHash, newScore) }
      (addBlockScore cfg att newScore fc) := by
  unfold addBlockScore
  dsimp only
  split
  · refine Pruned.trans ?_ ForkChoice.pruneEpochBlocksLocked_pruned
    exact ⟨fun _ => Or.inl ⟨rfl, rfl⟩, rfl, fun _ _ => Nat.le_refl _⟩
  · exact ⟨fun _ => Or.inl ⟨rfl, rfl⟩, rfl, fun _ _ => Nat.le_refl _⟩

theorem epochScore_insert (other : UInt64) (scores : ScoreMap) :
    epochScore { fc with epochAttestations := fc.epochAttestations.insert (epoch.toNat, scores) }
        other blockHash =
      if epoch = other then ForkChoice.score scores blockHash else epochScore fc other blockHash := by
  unfold epochScore
  simp only [KeyedMap.find?_insert, UInt64.toNat_inj]
  split_ifs <;> rfl

theorem VotesCounted.withEpochScore {scores : ScoreMap} (counted : VotesCounted reader fc)
    (added : ∀ blockHash, ForkChoice.score scores blockHash = if att.blockHash = blockHash
      then epochScore fc att.epoch blockHash + stake else epochScore fc att.epoch blockHash)
    (room : epochScore fc att.epoch att.blockHash + stake ≤
      reader.stakeAmong (votedFor fc att.epoch att.blockHash)) : VotesCounted reader { fc with
      epochAttestations := fc.epochAttestations.insert (att.epoch.toNat, scores) } := by
  refine ⟨counted.scores, counted.distinct, ?_⟩
  intro epoch blockHash
  rw [epochScore_insert]
  split_ifs with sameEpoch
  · subst sameEpoch
    rw [added]
    split_ifs with sameBlock
    · subst sameBlock
      exact room
    · exact counted.epochs _ blockHash
  · exact counted.epochs epoch blockHash

theorem addEpochScore_counted (counted : VotesCounted reader fc)
    (room : epochScore fc att.epoch att.blockHash + stake ≤
      reader.stakeAmong (votedFor fc att.epoch att.blockHash)) :
    VotesCounted reader (addEpochScore cfg att stake fc) := by
  unfold addEpochScore
  split
  · rename_i missing
    refine ForkChoice.cleanupOldEpochsLocked_counted (counted.withEpochScore ?_ room)
    intro blockHash
    rw [ForkChoice.score_insert]
    simp [epochScore, missing, ForkChoice.score]
  · rename_i key scores found
    refine counted.withEpochScore ?_ room
    intro blockHash
    rw [ForkChoice.score_insert]
    unfold epochScore
    rw [found]
    split_ifs with same
    · rw [same]
    · rfl

theorem attestersOf_insert {attesters : List Address}
    (set : after.validatorAttestations = fc.validatorAttestations.insert (blockHash, attesters))
    (other : Bytes) :
    attestersOf after other = if blockHash = other then attesters else attestersOf fc other := by
  unfold attestersOf
  rw [set, KeyedMap.find?_insert]
  split_ifs <;> rfl

theorem VotesCounted.marked {addr : Address} (counted : VotesCounted reader fc)
    (absent : addr ∉ attestersOf fc blockHash)
    (attesters : after.validatorAttestations = fc.validatorAttestations.insert
      (blockHash, addr :: attestersOf fc blockHash))
    (scores : after.blockScores = fc.blockScores.insert
      (blockHash, ForkChoice.score fc.blockScores blockHash + reader.stakeAt addr))
    (epochs : ∀ epoch blockHash,
      epochScore after epoch blockHash ≤ reader.stakeAmong (votedFor after epoch blockHash)) :
    VotesCounted reader after := by
  refine ⟨?_, ?_, epochs⟩
  · intro other
    rw [scores, ForkChoice.score_insert, attestersOf_insert attesters]
    split_ifs with same
    · rw [List.map_cons, List.sum_cons, counted.scores, Nat.add_comm]
    · exact counted.scores other
  · intro other
    rw [attestersOf_insert attesters]
    split_ifs with same
    · exact List.nodup_cons.mpr ⟨absent, counted.distinct blockHash⟩
    · exact counted.distinct other

theorem counted_votesCounted {attestationsByBlock} (before : VotesCounted reader fc)
    (registered : reader.getValidator att.validatorAddress = some val) (active : val.active = true)
    (consistent : Consistent fc att) (absent : att.validatorAddress ∉ attestersOf fc att.blockHash)
    (recognised : RepeatRecognised fc att) :
    VotesCounted reader (counted cfg att (parseBigInt val.stake) attestationsByBlock fc) := by
  have stake : reader.stakeAt att.validatorAddress = parseBigInt val.stake := by
    simp [WorldStateReader.stakeAt, registered]
  have new : votedFor fc att.epoch att.blockHash att.validatorAddress = false :=
    Bool.eq_false_iff.mpr fun voted => absent (recognised voted)
  have grown := stakeAmong_newVote registered active new
  have pruned := addBlockScore_pruned cfg {
    withVotes fc att.epoch (votesWith fc att) with
    validatorAttestations := fc.validatorAttestations.insert (att.blockHash,
      att.validatorAddress :: attestersOf fc att.blockHash)
    attestationsByBlock := attestationsByBlock } att
      (ForkChoice.score fc.blockScores att.blockHash + parseBigInt val.stake)
  refine addEpochScore_counted (VotesCounted.pruned ?_ pruned) ?_
  · refine (before.voted consistent).marked absent rfl ?_ (before.voted consistent).epochs
    rw [stake]
    rfl
  · rw [pruned.votedFor_eq]
    refine (Nat.add_le_add_right (pruned.epochs _ _) _).trans ?_
    refine le_trans ?_ grown.ge
    exact Nat.add_le_add_right (before.epochs _ _) _

theorem Processed.votesCounted (processed : Processed cfg att fc after)
    (before : VotesCounted cfg.worldState fc) (recognised : RepeatRecognised fc att) :
    VotesCounted cfg.worldState after := by
  cases processed with
  | ignored => exact before
  | conflict prevVote =>
    refine ⟨before.scores, before.distinct, fun epoch blockHash => ?_⟩
    have votes : latestVotes (conflicted cfg att prevVote fc) epoch = latestVotes fc epoch := by
      refine (latestVotes_withVotes fc att.epoch epoch _).trans ?_
      split_ifs with same
      · rw [same]
      · rfl
    rw [votedFor_congr votes]
    exact before.epochs epoch blockHash
  | repeated consistent => exact before.voted consistent
  | counted val attestationsByBlock _ registered active consistent absent cached =>
    obtain ⟨_, _, _, rfl⟩ := cached
    have tallied : VotesCounted cfg.worldState (Thrylos.counted cfg att
        (parseBigInt val.stake) attestationsByBlock fc) :=
      counted_votesCounted before registered active consistent absent recognised
    exact { tallied with }

def CountingCall (st : Guarded (ForkChoice σ)) : ForkChoiceCall σ → Prop
  | .processAttestation att => st.held = true ∨ RepeatRecognised st.data att
  | .cleanupOldEpochs => True
  | _ => False

theorem next?_votesCounted {st next : Guarded (ForkChoice σ)} {call : ForkChoiceCall σ}
    (before : VotesCounted cfg.worldState st.data) (counting : CountingCall st call)
    (made : next? cfg st call = some next) : VotesCounted cfg.worldState next.data := by
  cases call with
  | processAttestation att =>
    rcases next?_processAttestation made with ⟨_, rfl⟩ | ⟨free, processed⟩
    · exact before
    · refine processed.votesCounted { before with } ?_
      exact counting.resolve_left (by simp [free])
  | cleanupOldEpochs =>
    have step := next?_exclusively (VotesCounted cfg.worldState) rfl
      (Guarded.wp_update (ForkChoice.cleanupOldEpochsLocked_counted before)) made
    rcases step with ⟨_, rfl⟩ | ⟨_, after⟩
    · exact before
    · exact after
  | updateFinalization _ | updateJustifiedCheckpoint _ _ | updateFinalizedCheckpoint _ _ _
  | restart => exact counting.elim

theorem newForkChoice_votesCounted (slashing : Option σ) (database : Option StoredCheckpoint)
    (ticks : Nat) : VotesCounted reader (newForkChoice slashing database ticks).data :=
  ⟨fun _ => rfl, fun _ => List.nodup_nil, fun _ _ => Nat.zero_le _⟩

theorem votes_counted_once (cfg : ForkChoiceConfig σ) (slashing : Option σ)
    (database : Option StoredCheckpoint) (ticks : Nat) {st : Guarded (ForkChoice σ)}
    (run : Run (next? cfg) CountingCall (newForkChoice slashing database ticks) st) :
    VotesCounted cfg.worldState st.data ∧ ∀ epoch first second,
      quorumThreshold cfg.worldState.totalStake ≤ epochScore st.data epoch first →
      quorumThreshold cfg.worldState.totalStake ≤ epochScore st.data epoch second →
      first = second := by
  have counted : VotesCounted cfg.worldState st.data := by
    refine run.keeps (fun st => VotesCounted cfg.worldState st.data)
      (newForkChoice_votesCounted slashing database ticks) ?_
    intro st call after before counting made
    exact next?_votesCounted before counting made
  exact ⟨counted, fun epoch first second => counted.quorum_unique⟩

end

def threeValidators : WorldStateReader where
  validators :=
    let val (name stake : Byte) : Address × Validator := (sampleAddress name, {
      address := sampleAddress name, pubkey := [], stake := [stake], selfStake := [stake]
      delegatedStake := [], delegators := KeyedMap.empty, active := true, jailUntil := 0 })
    ((KeyedMap.empty.insert (val 97 10)).insert (val 98 10)).insert (val 99 80)
  blocks := KeyedMap.empty

def attested (att : Attestation) (st : Guarded (ForkChoice Unit)) : Guarded (ForkChoice Unit) :=
  (perform (sampleForkChoiceConfig threeValidators) (.processAttestation att) st).final

def freshNode : Guarded (ForkChoice Unit) := newForkChoice none none 0

theorem attested_next {att : Attestation} {st : Guarded (ForkChoice Unit)}
    (survives : (next? (sampleForkChoiceConfig threeValidators) st
      (.processAttestation att)).isSome = true) :
    next? (sampleForkChoiceConfig threeValidators) st (.processAttestation att) =
      some (attested att st) :=
  next?_of_isSome survives

theorem votes_counted_once_resent :
    let vote := sampleAttestation 97 [1] 51
    VotesCounted threeValidators (attested vote (attested vote freshNode)).data ∧
      epochScore (attested vote (attested vote freshNode)).data 51 [1] = 10 := by
  intro vote
  have run : Run (next? (sampleForkChoiceConfig threeValidators)) CountingCall freshNode
      (attested vote (attested vote freshNode)) := by
    refine .call (ForkChoiceCall.processAttestation vote) _
      (.call (ForkChoiceCall.processAttestation vote) (attested vote freshNode) .start ?_ ?_) ?_ ?_
    · exact Or.inr fun voted => absurd voted (by decide +kernel)
    · exact attested_next (by decide +kernel)
    · exact Or.inr fun _ => by decide +kernel
    · exact attested_next (by decide +kernel)
  exact ⟨(votes_counted_once (sampleForkChoiceConfig threeValidators) none none 0 run).1,
    by decide +kernel⟩

def recounted : Guarded (ForkChoice Unit) :=
  attested (sampleAttestation 97 [1] 51) (attested (sampleAttestation 98 [2] 53)
    (attested (sampleAttestation 98 [1] 50) (attested (sampleAttestation 97 [1] 51) freshNode)))

theorem vote_counted_twice : Reached (sampleForkChoiceConfig threeValidators) freshNode
        [.processAttestation (sampleAttestation 97 [1] 51),
          .processAttestation (sampleAttestation 98 [2] 53),
          .processAttestation (sampleAttestation 98 [1] 50),
          .processAttestation (sampleAttestation 97 [1] 51)] recounted ∧
      epochScore recounted.data 51 [1] = 20 ∧
      threeValidators.stakeAmong (votedFor recounted.data 51 [1]) = 10 := by
  refine ⟨?_, by decide +kernel, by decide +kernel⟩
  refine .call _ _ (.call _ _ (.call _ _ (.call _ _ .start (attested_next ?_)) (attested_next ?_))
    (attested_next ?_)) (attested_next ?_)
  · decide +kernel
  · decide +kernel
  · decide +kernel
  · decide +kernel

end Thrylos
