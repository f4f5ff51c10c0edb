import Thrylos.Crypto

/-!
`Normalize` of `crypto/signature.go`. A high `s` is replaced by its mirror image and the last bit of
the recovery byte is flipped, which leaves the two legacy bytes 27 and 28.
-/

namespace Thrylos

open BigEndian (fixed)

/-- A `SignatureImpl` with any recovery byte, as `Normalize` returns it. -/
structure SignatureImpl where
  r : Nat
  s : Nat
  v : Byte
  rValid : 0 < r ∧ r < curveOrder
  sValid : 0 < s ∧ s < curveOrder

def Signature.impl (sig : Signature) : SignatureImpl :=
  ⟨sig.r, sig.s, sig.v, sig.rValid, sig.sValid⟩

namespace SignatureImpl

def bytes (sig : SignatureImpl) : Bytes := fixed 32 sig.r ++ fixed 32 sig.s ++ [sig.v]

def isNormalized (sig : SignatureImpl) : Bool := sig.s ≤ curveOrder / 2

theorem mirror_valid {s : Nat} (valid : 0 < s ∧ s < curveOrder) :
    0 < curveOrder - s ∧ curveOrder - s < curveOrder := by omega

def normalize (sig : SignatureImpl) : SignatureImpl :=
  if sig.isNormalized then sig
  else ⟨sig.r, curveOrder - sig.s, sig.v ^^^ 1, sig.rValid, mirror_valid sig.sValid⟩

def isValid (sig : SignatureImpl) : Bool :=
  0 < sig.r && 0 < sig.s && sig.r < curveOrder && sig.s < curveOrder &&
    (sig.v = 27 || sig.v = 28 || sig.v = 0 || sig.v = 1)

/-- The chain id taken out of a byte from 35 on is always zero. -/
def recoveryID (sig : SignatureImpl) : Byte :=
  if 35 ≤ sig.v then .ofNat 256 ((sig.v.val - 35) % 2)
  else if 27 ≤ sig.v then sig.v - 27
  else sig.v

/-- `Recover`, which calls `RecoverPublicKey`. -/
def recover (curve : Curve) (hash : Bytes) (sig : SignatureImpl) : Except String PublicKey :=
  if hash.length ≠ 32 then .error s!"hash must be 32 bytes, got {hash.length}"
  else (curve.sigToPub hash (fixed 32 sig.r ++ fixed 32 sig.s ++ [sig.recoveryID])).mapError
    ("failed to recover public key: " ++ ·)

end SignatureImpl

/-- The two signatures of one point recover the same key. -/
def Curve.Mirrored (curve : Curve) : Prop :=
  ∀ hash r s, 0 < s → s < curveOrder → ∀ v : Byte, v = 0 ∨ v = 1 →
    curve.sigToPub hash (fixed 32 r ++ fixed 32 (curveOrder - s) ++ [v ^^^ 1]) =
      curve.sigToPub hash (fixed 32 r ++ fixed 32 s ++ [v])

open SignatureImpl

theorem newSignatureFromBytes_bytes (sig : SignatureImpl)
    (known : sig.v = 0 ∨ sig.v = 1 ∨ sig.v = 27 ∨ sig.v = 28) :
    newSignatureFromBytes sig.bytes = .ok ⟨sig.r, sig.s, sig.v, sig.rValid, sig.sValid, known⟩ := by
  have width (value : Nat) (below : value < curveOrder) :
      BigEndian.decode (fixed 32 value) = value := by
    rw [BigEndian.decode_fixed, Nat.mod_eq_of_lt]
    exact below.trans (by decide)
  simp [newSignatureFromBytes, signatureSize, bytes, width _ sig.rValid.2, width _ sig.sValid.2,
    known, sig.rValid, sig.sValid]

theorem isValid_iff (sig : SignatureImpl) :
    sig.isValid = true ↔ sig.v = 0 ∨ sig.v = 1 ∨ sig.v = 27 ∨ sig.v = 28 := by
  simp only [isValid, sig.rValid, sig.sValid, decide_true, Bool.true_and, Bool.or_eq_true,
    decide_eq_true_eq]
  tauto

theorem normalize_isNormalized (sig : SignatureImpl) : sig.normalize.isNormalized = true := by
  unfold SignatureImpl.normalize
  split
  · assumption
  · rename_i high
    simp only [isNormalized, decide_eq_true_eq] at high ⊢
    omega

/-- A high `s` may not come with a legacy recovery byte. -/
theorem normalize_sound_iff {curve : Curve} (mirrored : curve.Mirrored) (sig : Signature) :
    (sig.impl.normalize.isValid ∧ sig.impl.normalize.isNormalized ∧
      (∃ parsed, newSignatureFromBytes sig.impl.normalize.bytes = .ok parsed ∧
        parsed.impl = sig.impl.normalize) ∧
      (∀ hash, sig.impl.normalize.recover curve hash = sig.impl.recover curve hash) ∧
      sig.impl.normalize.normalize = sig.impl.normalize) ↔
    sig.s ≤ curveOrder / 2 ∨ sig.v = 0 ∨ sig.v = 1 := by
  have low := normalize_isNormalized sig.impl
  have settled : sig.impl.normalize.normalize = sig.impl.normalize := if_pos low
  by_cases normalized : sig.s ≤ curveOrder / 2
  · have same : sig.impl.normalize = sig.impl := if_pos (decide_eq_true normalized)
    rw [same] at low ⊢
    refine iff_of_true ⟨(isValid_iff _).mpr sig.vKnown, low, ?_, fun _ => rfl, same⟩ (.inl normalized)
    exact ⟨_, newSignatureFromBytes_bytes _ sig.vKnown, rfl⟩
  have mirror : sig.impl.normalize =
      ⟨sig.r, curveOrder - sig.s, sig.v ^^^ 1, sig.rValid, mirror_valid sig.sValid⟩ :=
    if_neg (mt of_decide_eq_true normalized)
  rw [or_iff_right normalized]
  constructor
  · rintro ⟨valid, -⟩
    rw [isValid_iff, mirror] at valid
    rcases sig.vKnown with known | known | known | known <;> simp [known] at valid ⊢
  · intro plain
    have known : sig.impl.normalize.v = 0 ∨ sig.impl.normalize.v = 1 := by
      rw [mirror]
      rcases plain with plain | plain <;> simp [plain]
    refine ⟨(isValid_iff _).mpr (by tauto), low, ?_, fun hash => ?_, settled⟩
    · exact ⟨_, newSignatureFromBytes_bytes _ (by tauto), rfl⟩
    · have flipped : sig.impl.normalize.recoveryID = sig.impl.recoveryID ^^^ 1 := by
        rw [mirror]
        rcases plain with plain | plain <;> simp [recoveryID, Signature.impl, plain]
      have same : sig.impl.recoveryID = sig.v := by
        rcases plain with plain | plain <;> simp [recoveryID, Signature.impl, plain]
      have recovered := mirrored hash sig.r sig.s sig.sValid.1 sig.sValid.2 sig.v plain
      rw [recover, recover, flipped, same, mirror]
      dsimp only [Signature.impl]
      rw [recovered]

/-- The key depends on the hash, on `r` and on which of the two points the signature means: the
recovery byte says so, and the other one is meant if `s` is high. -/
def sidedCurve : Curve :=
  { (⟨fun _ => .ok ⟨0, 0⟩, fun _ => .ok ⟨0, 0⟩, fun _ => [], fun _ _ => .ok ⟨0, 0⟩,
      fun _ _ _ => true, fun _ _ => .ok []⟩ : Curve) with
    sigToPub := fun hash sig =>
      let v := sig.getD 64 0
      let high := decide (curveOrder / 2 < BigEndian.decode ((sig.drop 32).take 32))
      .ok ⟨BigEndian.decode hash + BigEndian.decode (sig.take 32),
        if high then (v ^^^ 1).val else v.val⟩ }

theorem sidedCurve_mirrored : sidedCurve.Mirrored := by
  intro hash r s positive below v plain
  have decoded (value : Nat) (small : value < curveOrder) :
      BigEndian.decode (fixed 32 value) = value := by
    rw [BigEndian.decode_fixed, Nat.mod_eq_of_lt (small.trans (by decide))]
  have sides : curveOrder / 2 < curveOrder - s ↔ ¬ curveOrder / 2 < s := by
    have odd : curveOrder = 2 * (curveOrder / 2) + 1 := by decide
    omega
  rcases plain with rfl | rfl <;> by_cases high : curveOrder / 2 < s <;>
    simp [sidedCurve, decoded s below, decoded (curveOrder - s) (by omega), sides, high]

theorem plain_high_signature_normalizes : sidedCurve.Mirrored ∧
    ∃ sig : Signature, curveOrder / 2 < sig.s ∧ sig.impl.normalize.isValid ∧
      (∀ hash, sig.impl.normalize.recover sidedCurve hash = sig.impl.recover sidedCurve hash) ∧
      ∃ hash, { sig.impl.normalize with v := sig.v }.recover sidedCurve hash ≠
        sig.impl.recover sidedCurve hash := by
  let sig : Signature := ⟨1, curveOrder - 1, 0, by decide, by decide, by decide⟩
  obtain ⟨valid, -, -, recovered, -⟩ := (normalize_sound_iff sidedCurve_mirrored sig).mpr (by decide)
  exact ⟨sidedCurve_mirrored, sig, by decide, valid, recovered, List.replicate 32 0,
    by decide +kernel⟩

theorem legacy_high_signature_spoilt : ∃ sig : Signature, sig.v = 27 ∧ sig.impl.normalize.v = 26 ∧
      sig.impl.normalize.isValid = false :=
  ⟨⟨1, curveOrder - 1, 27, by decide, by decide, by decide⟩, rfl, by decide⟩

end Thrylos
