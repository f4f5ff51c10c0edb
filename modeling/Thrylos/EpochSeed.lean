import Thrylos.BlockAddition
import Thrylos.StakeDomains

/-!
The seed of an epoch's schedule, `buildEpochSeed` of `consensus/validator/selection.go`. It comes
from the blocks of the epoch before, so it is settled once that epoch is over.
-/

namespace Thrylos

structure ProposerHistoryReader where
  getHeight : Int64
  getBlock : Int64 → Option Block
  stakeDomain : Option (Address → Bytes)

def generateSeedFromInputs (keccak256 : Bytes → Bytes) (blockHashes vrfOutputs : List Bytes)
    (slot : UInt64) : Bytes :=
  if blockHashes = [] ∧ vrfOutputs = [] then keccak256 (BigEndian.fixed 8 slot.toNat)
  else keccak256 (blockHashes.flatten ++ vrfOutputs.flatten ++ BigEndian.fixed 8 slot.toNat)

/-- The loop of `buildEpochSeed` over the heights below the given one, highest first. -/
def collectSeedInputs (blk : Nat → Option Block) (targetEpoch : UInt64) (slotsPerEpoch : Nat) :
    Nat → List Bytes → List Bytes → List Bytes × List Bytes
  | 0, blockHashes, vrfOutputs => (blockHashes, vrfOutputs)
  | height + 1, blockHashes, vrfOutputs =>
    match blk height with
    | none => collectSeedInputs blk targetEpoch slotsPerEpoch height blockHashes vrfOutputs
    | some found =>
      if targetEpoch < found.header.epoch then
        collectSeedInputs blk targetEpoch slotsPerEpoch height blockHashes vrfOutputs
      else if found.header.epoch < targetEpoch then (blockHashes, vrfOutputs)
      else
        let hashes := if found.hash ≠ [] then blockHashes ++ [found.hash] else blockHashes
        let outputs := if found.header.vrfOutput ≠ [] then vrfOutputs ++ [found.header.vrfOutput]
          else vrfOutputs
        if slotsPerEpoch ≤ hashes.length then (hashes, outputs)
        else collectSeedInputs blk targetEpoch slotsPerEpoch height hashes outputs

def buildEpochSeed (keccak256 : Bytes → Bytes) (history : Option ProposerHistoryReader)
    (epoch : UInt64) (slotsPerEpoch : Nat) : Bytes :=
  match history with
  | none => generateSeedFromInputs keccak256 [] [] epoch
  | some reader =>
    if reader.getHeight < 0 then generateSeedFromInputs keccak256 [] [] epoch
    else if epoch = 0 then generateSeedFromInputs keccak256 [] [] epoch
    else
      let inputs := collectSeedInputs (fun height => reader.getBlock (Int64.ofNat height))
        (epoch - 1) slotsPerEpoch (reader.getHeight.toInt.toNat + 1) [] []
      generateSeedFromInputs keccak256 inputs.1 inputs.2 epoch

namespace ProposerHistoryReader

def Holds (reader : ProposerHistoryReader) (height : Nat) (blk : Block) : Prop :=
  (height : Int) ≤ reader.getHeight.toInt ∧ reader.getBlock (Int64.ofNat height) = some blk

def AgreeBelow (epoch : UInt64) (first second : ProposerHistoryReader) : Prop :=
  ∀ height blk, blk.header.epoch < epoch → (first.Holds height blk ↔ second.Holds height blk)

structure GrownFrom (epoch : UInt64) (first later : ProposerHistoryReader) : Prop where
  kept : ∀ height blk, first.Holds height blk → later.Holds height blk
  added : ∀ height blk, later.Holds height blk → first.Holds height blk ∨ epoch ≤ blk.header.epoch

variable {epoch : UInt64} {first : ProposerHistoryReader}

theorem GrownFrom.agreeBelow {later : ProposerHistoryReader}
    (grown : GrownFrom epoch first later) : AgreeBelow epoch first later := by
  intro height blk below
  constructor
  · exact grown.kept height blk
  · intro held
    rcases grown.added height blk held with old | late
    · exact old
    · exact absurd below (UInt64.not_lt.mpr late)

def past (reader : ProposerHistoryReader) (epoch : UInt64) (height : Nat) : Option Block :=
  if (height : Int) ≤ reader.getHeight.toInt then
    (reader.getBlock (Int64.ofNat height)).filter fun blk => blk.header.epoch < epoch
  else none

theorem past_eq_some_iff {reader : ProposerHistoryReader} {height : Nat} {blk : Block} :
    reader.past epoch height = some blk ↔ reader.Holds height blk ∧ blk.header.epoch < epoch := by
  unfold past Holds
  split_ifs with within
  · rw [Option.filter_eq_some_iff, decide_eq_true_iff]
    tauto
  · simp [within]

theorem AgreeBelow.past_eq {second : ProposerHistoryReader}
    (agree : AgreeBelow epoch first second) : first.past epoch = second.past epoch := by
  funext height
  refine Option.ext fun blk => ?_
  rw [past_eq_some_iff, past_eq_some_iff]
  constructor
  · rintro ⟨held, below⟩
    exact ⟨(agree height blk below).mp held, below⟩
  · rintro ⟨held, below⟩
    exact ⟨(agree height blk below).mpr held, below⟩

end ProposerHistoryReader

section Collecting

variable {blk other : Nat → Option Block} {targetEpoch : UInt64} {slotsPerEpoch : Nat}

theorem collectSeedInputs_congr {height : Nat} (same : ∀ below < height, other below =
      (blk below).filter fun found => ¬ targetEpoch < found.header.epoch)
    (blockHashes vrfOutputs : List Bytes) :
    collectSeedInputs other targetEpoch slotsPerEpoch height blockHashes vrfOutputs =
      collectSeedInputs blk targetEpoch slotsPerEpoch height blockHashes vrfOutputs := by
  induction height generalizing blockHashes vrfOutputs with
  | zero => rfl
  | succ height ih =>
    have rest := ih fun below less => same below (by omega)
    unfold collectSeedInputs
    rw [same height (by omega)]
    cases blk height with
    | none => exact rest blockHashes vrfOutputs
    | some found =>
      by_cases late : targetEpoch < found.header.epoch
      · simp [Option.filter, late, rest]
      · simp [Option.filter, late, rest]

theorem collectSeedInputs_skip {low high : Nat} (ordered : low ≤ high)
    (missing : ∀ height, low ≤ height → height < high → blk height = none)
    (blockHashes vrfOutputs : List Bytes) :
    collectSeedInputs blk targetEpoch slotsPerEpoch high blockHashes vrfOutputs =
      collectSeedInputs blk targetEpoch slotsPerEpoch low blockHashes vrfOutputs := by
  induction high, ordered using Nat.le_induction with
  | base => rfl
  | succ high ordered ih =>
    conv_lhs => unfold collectSeedInputs
    rw [missing high ordered (by omega)]
    exact ih fun height from_ below => missing height from_ (by omega)

end Collecting

variable {epoch : UInt64}

theorem pred_lt_iff {other : UInt64} (positive : epoch ≠ 0) :
    epoch - 1 < other ↔ ¬ other < epoch := by
  have one : (1 : UInt64) ≤ epoch := by
    rw [UInt64.le_iff_toNat_le]
    have apart : epoch.toNat ≠ 0 := fun zero => positive (UInt64.toNat_inj.mp zero)
    change 1 ≤ epoch.toNat
    omega
  rw [UInt64.not_lt, UInt64.lt_iff_toNat_lt, UInt64.le_iff_toNat_le, UInt64.toNat_sub_of_le _ _ one]
  have nonzero := UInt64.le_iff_toNat_le.mp one
  change 1 ≤ epoch.toNat at nonzero
  change epoch.toNat - 1 < other.toNat ↔ _
  omega

theorem buildEpochSeed_past (keccak256 : Bytes → Bytes) (reader : ProposerHistoryReader)
    (positive : epoch ≠ 0) (slotsPerEpoch : Nat) {high : Nat}
    (above : reader.getHeight.toInt < high) :
    buildEpochSeed keccak256 (some reader) epoch slotsPerEpoch =
      let inputs := collectSeedInputs (reader.past epoch) (epoch - 1) slotsPerEpoch high [] []
      generateSeedFromInputs keccak256 inputs.1 inputs.2 epoch := by
  have missing (height : Nat) (beyond : reader.getHeight.toInt < height) :
      reader.past epoch height = none := by
    unfold ProposerHistoryReader.past
    rw [if_neg (by omega)]
  unfold buildEpochSeed
  by_cases negative : reader.getHeight < 0
  · have below : reader.getHeight.toInt < 0 := Int64.lt_iff_toInt_lt.mp negative
    rw [collectSeedInputs_skip (Nat.zero_le high) fun height _ _ => missing height (by omega)]
    simp only [if_pos negative]
    rfl
  · have known : 0 ≤ reader.getHeight.toInt := by
      have := Int64.le_iff_toInt_le.mp (Int64.not_lt.mp negative)
      exact this
    simp only [if_neg negative, if_neg positive]
    rw [collectSeedInputs_skip (show reader.getHeight.toInt.toNat + 1 ≤ high by omega)
      fun height from_ _ => missing height (by omega)]
    have same : ∀ height < reader.getHeight.toInt.toNat + 1, reader.past epoch height =
        (reader.getBlock (Int64.ofNat height)).filter
          fun found => ¬ epoch - 1 < found.header.epoch := by
      intro height below
      unfold ProposerHistoryReader.past
      rw [if_pos (by omega)]
      congr 1
      funext found
      exact decide_eq_decide.mpr (by rw [pred_lt_iff positive, not_not])
    rw [collectSeedInputs_congr same]

theorem epoch_seed_fixed_by_past (keccak256 : Bytes → Bytes) (epoch : UInt64) (slotsPerEpoch : Nat) :
    (∀ reader later, ProposerHistoryReader.GrownFrom epoch reader later →
      buildEpochSeed keccak256 (some later) epoch slotsPerEpoch =
        buildEpochSeed keccak256 (some reader) epoch slotsPerEpoch) ∧
    ∀ first second, ProposerHistoryReader.AgreeBelow epoch first second →
      buildEpochSeed keccak256 (some first) epoch slotsPerEpoch =
        buildEpochSeed keccak256 (some second) epoch slotsPerEpoch := by
  have agreeing (first second : ProposerHistoryReader)
      (agree : ProposerHistoryReader.AgreeBelow epoch first second) :
      buildEpochSeed keccak256 (some first) epoch slotsPerEpoch =
        buildEpochSeed keccak256 (some second) epoch slotsPerEpoch := by
    by_cases genesis : epoch = 0
    · simp [buildEpochSeed, genesis]
    -- A height above both heads.
    have left : first.getHeight.toInt <
        (first.getHeight.toInt.toNat + second.getHeight.toInt.toNat + 1 : Nat) := by omega
    have right : second.getHeight.toInt <
        (first.getHeight.toInt.toNat + second.getHeight.toInt.toNat + 1 : Nat) := by omega
    rw [buildEpochSeed_past keccak256 first genesis slotsPerEpoch left,
      buildEpochSeed_past keccak256 second genesis slotsPerEpoch right, agree.past_eq]
  exact ⟨fun reader later grown => (agreeing reader later grown.agreeBelow).symm, agreeing⟩

def sampleHistory (epochs : List UInt64) : ProposerHistoryReader where
  getHeight := Int64.ofNat epochs.length - 1
  getBlock := fun index => epochs[index.toInt.toNat]?.map fun epoch =>
    let blk := sampleBlock index [] [7] []
    { blk with header := { blk.header with epoch } }
  stakeDomain := none

theorem a_seed_survives_later_blocks :
    buildEpochSeed id (some (sampleHistory [0, 0])) 1 32 = [7, 7, 0, 0, 0, 0, 0, 0, 0, 1] ∧
      buildEpochSeed id (some (sampleHistory [0, 0, 1, 2])) 1 32 =
        buildEpochSeed id (some (sampleHistory [0, 0])) 1 32 := by
  refine ⟨by decide +kernel, (epoch_seed_fixed_by_past id 1 32).1 _ _ ⟨?_, ?_⟩⟩
  · rintro height blk ⟨within, found⟩
    have two : height < 2 := by
      change (height : Int) ≤ 1 at within
      omega
    refine ⟨show (height : Int) ≤ 3 by omega, ?_⟩
    match height, two with
    | 0, _ => exact found
    | 1, _ => exact found
  · rintro height _ ⟨within, found⟩
    have four : height < 4 := by
      change (height : Int) ≤ 3 at within
      omega
    match height, four with
    | 0, _ => exact Or.inl ⟨by decide, found⟩
    | 1, _ => exact Or.inl ⟨by decide, found⟩
    | 2, _ =>
      cases found
      exact Or.inr (by decide)
    | 3, _ =>
      cases found
      exact Or.inr (by decide)

end Thrylos
