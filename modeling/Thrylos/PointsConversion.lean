import Thrylos.Discovery
import Thrylos.ProposalHandling

/-!
The approvals of a conversion of testnet points, `core/migration/points_conversion.go`. Its
`deriveAddress` is a stub that gives every key the empty address.
-/

namespace Thrylos.Migration

def requiredApprovals : Nat := 3

structure Approval where
  approverAddress : Address
  signature : Bytes

structure MigrationConfig extends EvidenceConfig where
  verifyASN1 : PublicKey → Bytes → Bytes → Bool

instance : CoeOut MigrationConfig EvidenceConfig := ⟨MigrationConfig.toEvidenceConfig⟩

/-- `InvalidByteError` of `encoding/hex`, with the character where it can be printed. -/
def invalidByte (byte : Byte) : String :=
  let code := (String.ofList (Nat.toDigits 16 byte.val)).toUpper
  let printed := if 32 ≤ byte ∧ byte ≤ 126 ∨ 161 ≤ byte ∧ byte ≠ 173 then
    s!" '{Char.ofNat byte.val}'" else ""
  "encoding/hex: invalid byte: U+00" ++ (if byte < 16 then "0" else "") ++ code ++ printed

/-- `hex.DecodeString`. -/
def decodeString : Bytes → Except String Bytes
  | [] => .ok []
  | [digit] =>
    if (hexValue digit).isNone then .error (invalidByte digit)
    else .error "encoding/hex: odd length hex string"
  | high :: low :: rest =>
    match hexValue high, hexValue low with
    | none, _ => .error (invalidByte high)
    | _, none => .error (invalidByte low)
    | some upper, some lower => do
      return Fin.ofNat 256 (16 * upper + lower) :: (← decodeString rest)

variable (cfg : MigrationConfig)

def deriveAddress (_pub : PublicKey) : Address := []

def verifySignature (pubKey : PublicKey) (digest sigBytes : Bytes) (expectedAddress : Address) :
    Bool :=
  if deriveAddress pubKey ≠ expectedAddress then false
  else cfg.verifyASN1 pubKey digest sigBytes

section Approvals

variable (digest : Bytes) (authorised : List PublicKey)

def countApprovals : List Address → Nat → List Approval → Except String Nat
  | _, count, [] => .ok count
  | seen, count, approval :: rest =>
    if approval.approverAddress ∈ seen then
      .error s!"duplicate approval from address {text approval.approverAddress}"
    else
      match decodeString approval.signature with
      | .error err =>
        .error s!"invalid signature encoding for {text approval.approverAddress}: {err}"
      | .ok sigBytes =>
        let verified := fun pubKey =>
          verifySignature cfg pubKey digest sigBytes approval.approverAddress
        countApprovals (approval.approverAddress :: seen)
          (if authorised.any verified then count + 1 else count) rest

def countValidApprovals (approvals : List Approval) : Except String Nat :=
  countApprovals cfg digest authorised [] 0 approvals

def checkApprovals (approvals : List Approval) : Except String Unit :=
  match countValidApprovals cfg digest authorised approvals with
  | .error err => .error s!"approval verification failed: {err}"
  | .ok validApprovals =>
    if validApprovals < requiredApprovals then
      .error s!"insufficient approvals: need {requiredApprovals}, have {validApprovals} valid signatures from whitelisted approvers"
    else .ok ()

end Approvals

section Counting

variable (digest : Bytes) (authorised : List PublicKey)

def signs (approval : Approval) (key : PublicKey) : Bool :=
  match decodeString approval.signature with
  | .ok sigBytes => cfg.verifyASN1 key digest sigBytes
  | .error _ => false

def signers (approvals : List Approval) : Nat :=
  let address := addressOf cfg.keccak256 cfg.curve
  let approves := fun key => approvals.any fun approval =>
    approval.approverAddress = address key && signs cfg digest approval key
  ((authorised.filter approves).map address).dedup.length

/-- The approval is by an authorised key and names no address. -/
def unnamed (approval : Approval) : Bool :=
  approval.approverAddress = [] && authorised.any (signs cfg digest approval)

def WellFormed (approvals : List Approval) : Prop :=
  (approvals.map Approval.approverAddress).Nodup ∧
    ∀ approval ∈ approvals, ∃ sigBytes, decodeString approval.signature = .ok sigBytes

theorem countP_unnamed_le {approvals : List Approval} (wellFormed : WellFormed approvals) :
    approvals.countP (unnamed cfg digest authorised) ≤ 1 := by
  have once := List.nodup_iff_count_le_one.mp wellFormed.1 []
  rw [List.count, List.countP_map] at once
  refine le_trans (List.countP_mono_left fun approval _ here => ?_) once
  simp only [unnamed, Bool.and_eq_true, decide_eq_true_eq] at here
  simp [here.1]

variable {cfg digest authorised} {approvals : List Approval}

theorem countApprovals_ok_iff {seen : List Address} {count total : Nat} :
    countApprovals cfg digest authorised seen count approvals = .ok total ↔
      (WellFormed approvals ∧ ∀ approval ∈ approvals, approval.approverAddress ∉ seen) ∧
        total = count + approvals.countP (unnamed cfg digest authorised) := by
  induction approvals generalizing seen count with
  | nil => simp [countApprovals, WellFormed, eq_comm]
  | cons approval rest ih =>
    rw [countApprovals]
    by_cases known : approval.approverAddress ∈ seen
    · simp [known]
    cases decoded : decodeString approval.signature with
    | error => simp [known, WellFormed, decoded]
    | ok sigBytes =>
    have counted : authorised.any (fun pubKey => verifySignature cfg pubKey digest sigBytes
        approval.approverAddress) = unnamed cfg digest authorised approval := by
      have signed : signs cfg digest approval = (cfg.verifyASN1 · digest sigBytes) := by
        funext key
        simp [signs, decoded]
      by_cases named : approval.approverAddress = []
      · simp [verifySignature, deriveAddress, unnamed, signed, named]
      · simp [verifySignature, deriveAddress, unnamed, Ne.symm named, named]
    simp only [known, if_false, counted, ih]
    unfold WellFormed
    grind

theorem checkApprovals_refuses (approvals : List Approval) :
    checkApprovals cfg digest authorised approvals ≠ .ok () := by
  unfold checkApprovals
  cases counted : countValidApprovals cfg digest authorised approvals with
  | error => exact nofun
  | ok total =>
  obtain ⟨⟨wellFormed, -⟩, rfl⟩ := countApprovals_ok_iff.mp counted
  have few := countP_unnamed_le cfg digest authorised wellFormed
  simp only
  rw [if_pos (by unfold requiredApprovals; omega)]
  exact nofun

end Counting

theorem approvals_counted_iff (digest : Bytes) (authorised : List PublicKey)
    (approvals : List Approval) : (countValidApprovals cfg digest authorised approvals =
        .ok (signers cfg digest authorised approvals) ∧
      (checkApprovals cfg digest authorised approvals = .ok () ↔
        requiredApprovals ≤ signers cfg digest authorised approvals)) ↔
    WellFormed approvals ∧ signers cfg digest authorised approvals =
      approvals.countP (unnamed cfg digest authorised) := by
  rw [countValidApprovals, countApprovals_ok_iff, iff_false_left (checkApprovals_refuses approvals)]
  constructor
  · rintro ⟨⟨⟨wellFormed, -⟩, total⟩, -⟩
    exact ⟨wellFormed, by omega⟩
  · rintro ⟨wellFormed, total⟩
    have few := countP_unnamed_le cfg digest authorised wellFormed
    refine ⟨⟨⟨wellFormed, fun _ _ => List.not_mem_nil⟩, by omega⟩, ?_⟩
    unfold requiredApprovals
    omega

def sampleMigration : MigrationConfig where
  toEvidenceConfig := sampleEngineConfig
  verifyASN1 := fun key _ sigBytes => sigBytes == [Fin.ofNat 256 key.x]

/-- Three signers under their own addresses count for nothing; one without an address counts. -/
theorem three_approvals_are_not_counted :
    let keys : List PublicKey := [⟨1, 0⟩, ⟨2, 0⟩, ⟨3, 0⟩]
    let own : List Approval := keys.map fun key =>
      ⟨addressOf sampleMigration.keccak256 sampleMigration.curve key, hexBytes [Fin.ofNat 256 key.x]⟩
    (signers sampleMigration [] keys own = 3 ∧
      (countValidApprovals sampleMigration [] keys own).toOption = some 0) ∧
    (signers sampleMigration [] keys [⟨[], hexBytes [1]⟩] = 0 ∧
      (countValidApprovals sampleMigration [] keys [⟨[], hexBytes [1]⟩]).toOption = some 1) := by
  decide +kernel

end Thrylos.Migration
