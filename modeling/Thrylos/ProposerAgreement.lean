import Thrylos.BlockAdditionLemmas
import Thrylos.Proposer
import Thrylos.Simulation

/-!
Whether a validator in the proposer's state accepts the block a proposer broadcasts. Adding the
block changes the hashed header and leaves the hash.
-/

namespace Thrylos

open BigEndian (encode fixed)

theorem hexDigit_injective {left right : Nat} (leftSmall : left < 16) (rightSmall : right < 16)
    (same : hexDigit left = hexDigit right) : left = right := by
  have values := congrArg Fin.val same
  simp only [hexDigit, Fin.val_ofNat] at values
  split_ifs at values <;> omega

theorem hexBytes_injective : Function.Injective hexBytes := by
  intro left
  induction left with
  | nil =>
    intro right same
    cases right with
    | nil => rfl
    | cons => simp [hexBytes] at same
  | cons first _ ih =>
    intro right same
    cases right with
    | nil => simp [hexBytes] at same
    | cons byte =>
    simp only [hexBytes, List.flatMap_cons, List.cons_append, List.nil_append,
      List.cons.injEq] at same
    obtain ⟨high, low, tail⟩ := same
    have highSame := hexDigit_injective (by omega) (by omega) high
    have lowSame := hexDigit_injective (by omega) (by omega) low
    have firstSame : first = byte := Fin.ext (by omega)
    rw [firstSame, ih tail]

section Version

variable {cfg : NodeConfig} {ws other : WorldState} {height : Int64}

theorem desiredVersion_congr (same : other.stateRootEncodingVersion = ws.stateRootEncodingVersion) :
    desiredStateRootEncodingVersionForHeight cfg other height =
      desiredStateRootEncodingVersionForHeight cfg ws height := by
  simp only [desiredStateRootEncodingVersionForHeight, same]

end Version

abbrev versionAt (cfg : NodeConfig) (ws : WorldState) (index : Int64) : UInt32 :=
  desiredStateRootEncodingVersionForHeight cfg ws index

def rootAfter (cfg : NodeConfig) (ws : WorldState) (index : Int64) (exec : WorldState) : Bytes :=
  rootOf cfg (versionAt cfg ws index) (getAllAccounts exec.ledger) ws.validators

variable {ws : WorldState} {cfg : NodeConfig} {blk : Block} {header : BlockHeader} {root : Bytes}

theorem headed_stateRoot (cfg : NodeConfig) (blk : Block) {exec : WorldState}
    (kept : exec.settled = ws.settled) :
    (exec.headed cfg blk).stateRoot = rootAfter cfg ws blk.header.index exec ∧
    getStateRootEncodingVersion (exec.headed cfg blk) = versionAt cfg ws blk.header.index := by
  have version : exec.stateRootEncodingVersion = ws.stateRootEncodingVersion := by
    have same := congrArg WorldState.stateRootEncodingVersion kept
    exact same
  have vals : exec.validators = ws.validators := by
    have same := congrArg WorldState.validators kept
    exact same
  have desired : desiredStateRootEncodingVersionForHeight cfg (advanceHead blk exec)
      (advanceHead blk exec).height = versionAt cfg ws blk.header.index :=
    desiredVersion_congr version
  refine ⟨?_, ?_⟩
  · simp only [WorldState.headed, updateStateRoot, desired, rootAfter]
    rw [← vals]
    rfl
  · simp only [getStateRootEncodingVersion, WorldState.headed, updateStateRoot, desired]
    exact if_neg desiredVersion_ne_zero

theorem addBlock_added {added : Block} {final : WorldState}
    (ran : addBlock cfg blk ws = .ok added final) :
    ∃ exec fees, applyBlockTransactions cfg blk.transactions ws =
        .ok (blk.transactions.map Transaction.canonical) exec ∧
      canonicalizeUint256Bytes blk.header.totalFees = .ok fees ∧ added = { blk with
        transactions := blk.transactions.map Transaction.canonical
        header := { blk.header with
          stateRoot := rootAfter cfg ws blk.header.index exec
          stateEncodingVersion := versionAt cfg ws blk.header.index
          totalFees := encode (parseBigInt blk.header.totalFees) } } := by
  have outcome := addBlock_outcome cfg blk ws
  rw [ran] at outcome
  cases outcome with
  | added exec fees _ _ loop norm =>
  obtain ⟨root, version⟩ := headed_stateRoot cfg blk.executed (applyBlockTransactions_settled loop)
  refine ⟨exec, fees, loop, norm, ?_⟩
  simp only [Block.sealed, Block.canonical, Block.executed, stampStateRoot]
  simp only [Block.executed] at root version
  rw [root, version]

def BlockHeader.unsealed (header : BlockHeader) (root : Bytes) : BlockHeader :=
  { header with stateRoot := root, stateEncodingVersion := 0 }

theorem canonicalizeUint256Bytes_encode_of_ok {value : Nat} {canonical : Bytes}
    (ok : canonicalizeUint256Bytes (encode value) = .ok canonical) :
    encode (parseBigInt (encode value)) = encode value := by
  unfold canonicalizeUint256Bytes at ok
  cases parsed : parseUint256Bytes (encode value) with
  | error => simp [parsed] at ok
  | ok =>
    obtain ⟨rfl, -, -⟩ := parseUint256Bytes_ok parsed
    rw [parseBigInt, parsed, BigEndian.decode_encode]

section Proposing

variable {cfg : NodeConfig} {ws : WorldState} {nodeAddress : Address} {now : Int64}
  {transactions : List Transaction} {slot epoch : UInt64} {vrfOutput vrfProof : Bytes}

structure BuiltOn (cfg : NodeConfig) (ws : WorldState) (transactions : List Transaction)
    (blk : Block) : Prop where
  index : blk.header.index = (nextPosition ws).1
  unsealed : blk.header = blk.header.unsealed ws.stateRoot
  transactions : blk.transactions = transactions
  fees : ∃ value, blk.header.totalFees = encode value
  hashed : canonicalBlockHash cfg blk = .ok blk.hash

variable {blk original : Block} {signature : Bytes} {final : WorldState}

theorem BuiltOn.added (origin : BuiltOn cfg ws transactions original)
    (ran : addBlock cfg { original with signature } ws = .ok blk final) :
    ∃ exec, applyBlockTransactions cfg transactions ws =
        .ok (transactions.map Transaction.canonical) exec ∧
      blk.transactions = transactions.map Transaction.canonical ∧
      blk.header.stateRoot = rootAfter cfg ws (nextPosition ws).1 exec ∧
      blk.header.stateEncodingVersion = versionAt cfg ws (nextPosition ws).1 ∧
      canonicalizeUint256Bytes blk.header.totalFees = .ok blk.header.totalFees ∧
      canonicalBlockHash cfg { blk with header := blk.header.unsealed ws.stateRoot } =
        .ok blk.hash := by
  obtain ⟨exec, _, loop, norm, rfl⟩ := addBlock_added ran
  obtain ⟨_, feesEq⟩ := origin.fees
  have feesKept : encode (parseBigInt original.header.totalFees) = original.header.totalFees := by
    rw [feesEq] at norm ⊢
    exact canonicalizeUint256Bytes_encode_of_ok norm
  have header : ({ original.header with
      stateRoot := rootAfter cfg ws original.header.index exec
      stateEncodingVersion := versionAt cfg ws original.header.index
      totalFees := encode (parseBigInt original.header.totalFees) } :
        BlockHeader).unsealed ws.stateRoot = original.header := by
    rw [feesKept]
    exact origin.unsealed.symm
  refine ⟨exec, ?_, ?_, ?_, ?_, ?_, ?_⟩
  · rw [← origin.transactions]
    exact loop
  · rw [← origin.transactions]
  · rw [← origin.index]
  · rw [← origin.index]
  · exact canonicalizeUint256Bytes_encode (parseBigInt_lt _)
  · rw [header]
    exact origin.hashed

end Proposing

end Thrylos
