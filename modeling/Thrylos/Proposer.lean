import Thrylos.BlockAddition
import Thrylos.BlockHash

/-!
How a proposer builds its block, `consensus/pos/proposer.go`. The header carries the root of the
state before the block and no encoding version.
-/

namespace Thrylos

def safeAdd (a b : Int64) : Except String Int64 :=
  if 0 < a ∧ 0 < b ∧ Int64.maxValue - b < a then
    .error s!"overflow in SafeAdd({a}, {b}): {a} + {b} exceeds MaxInt64 ({Int64.maxValue})"
  else if a < 0 ∧ b < 0 ∧ a < Int64.minValue - b then
    .error s!"underflow in SafeAdd({a}, {b}): {a} + {b} below MinInt64 ({Int64.minValue})"
  else .ok (a + b)

def nullHash : Bytes := List.replicate 32 0

variable (cfg : NodeConfig)

def merkleParent (left right : Bytes) : Bytes :=
  cfg.keccak256 (left ++ right)

def merkleLevel (cfg : NodeConfig) : List Bytes → List Bytes
  | [] => []
  | [last] => [merkleParent cfg last last]
  | left :: right :: rest => merkleParent cfg left right :: merkleLevel cfg rest

theorem merkleLevel_length_le (level : List Bytes) :
    (merkleLevel cfg level).length ≤ level.length := by
  induction level using merkleLevel.induct with
  | case1 => simp [merkleLevel]
  | case2 => simp [merkleLevel]
  | case3 =>
    simp only [merkleLevel, List.length_cons]
    omega

def merkleRoot (cfg : NodeConfig) : List Bytes → Bytes
  | [] => nullHash
  | [root] => root
  | left :: right :: rest => merkleRoot cfg (merkleLevel cfg (left :: right :: rest))
termination_by level => level.length
decreasing_by
  have shorter := merkleLevel_length_le cfg rest
  simp only [merkleLevel, List.length_cons]
  omega

/-- A hashing failure is a panic. -/
def calculateBlockHash (cfg : NodeConfig) (blk : Block) : Except String Bytes :=
  match canonicalBlockHash cfg blk with
  | .error err => .error s!"calculateBlockHash: {err}"
  | .ok hash => .ok hash

def nextPosition (ws : WorldState) : Int64 × Bytes :=
  match getCurrentBlock ws with
  | some currentBlock => (currentBlock.header.index + 1, currentBlock.hash)
  | none => (0, [])

end Thrylos
