import Thrylos.BlockValidation

/-!
The outputs of the random function of `consensus/pos/vrf.go`. The output is the hash of a
signature's bytes, and the recovery byte has two forms that are both accepted.
-/

namespace Thrylos

open BigEndian (decode decode_inj fixed fixed_length)

/-- `IsNormalized`. -/
def Signature.isNormalized (sig : Signature) : Bool := sig.s ≤ curveOrder / 2

/-- `GenerateVRFProof`, the output and the proof. -/
def generateVRFProof (cfg : EngineConfig) (privateKey input : Bytes) :
    Except String (Bytes × Bytes) := do
  let signature ← (signHash cfg.curve privateKey (computeVRFSigningHash cfg input)).mapError
    ("failed to sign VRF input: " ++ ·)
  return (cfg.sha256 signature.bytes, signature.bytes)

def UniqueSignatures (curve : Curve) : Prop :=
  ∀ (key : PublicKey) (hash : Bytes) (first second : Signature),
    first.isNormalized = true → second.isNormalized = true →
    verifyHash curve key hash first = .ok () → verifyHash curve key hash second = .ok () →
    first.r = second.r ∧ first.s = second.s

def LowS (proof : Bytes) : Prop := decode ((proof.drop 32).take 32) ≤ curveOrder / 2

def Collides (hash : Bytes → Bytes) (left right : Bytes) : Prop :=
  left ≠ right ∧ hash left = hash right

def SameForm (left right : Bytes) : Prop := left.getD 64 0 = right.getD 64 0

structure AcceptedProof (cfg : EngineConfig) (publicKey alpha output proof : Bytes)
    (pubKey : PublicKey) (signature : Signature) : Prop where
  key : newPublicKeyFromBytes cfg.curve publicKey = .ok pubKey
  parsed : newSignatureFromBytes proof = .ok signature
  verified : verifyHash cfg.curve pubKey (computeVRFSigningHash cfg alpha) signature = .ok ()
  output_eq : cfg.sha256 proof = output

section Lemmas

variable {cfg : EngineConfig} {publicKey alpha output proof : Bytes}

theorem newSignatureFromBytes_ok {sigBytes : Bytes} {signature : Signature}
    (parsed : newSignatureFromBytes sigBytes = .ok signature) :
    sigBytes.length = 65 ∧ signature.r = decode (sigBytes.take 32) ∧
      signature.s = decode ((sigBytes.drop 32).take 32) ∧ signature.v = sigBytes.getD 64 0 := by
  unfold newSignatureFromBytes at parsed
  split at parsed
  · cases parsed
  rename_i length
  dsimp only at parsed
  split at parsed
  · split at parsed
    · split at parsed
      · cases parsed
        exact ⟨not_not.mp length, rfl, rfl, rfl⟩
      · cases parsed
    · cases parsed
  · cases parsed

theorem verifyVRFProof_ok (ok : verifyVRFProof cfg publicKey alpha output proof = .ok ()) :
    ∃ pubKey signature, AcceptedProof cfg publicKey alpha output proof pubKey signature := by
  unfold verifyVRFProof at ok
  by_cases empty : proof = []
  · rw [if_pos empty] at ok
    cases ok
  rw [if_neg empty] at ok
  by_cases length : proof.length ≠ signatureSize
  · rw [if_pos length] at ok
    cases ok
  rw [if_neg length] at ok
  obtain ⟨pubKey, key, ok⟩ := Except.bind_ok_iff.mp ok
  obtain ⟨signature, parsed, ok⟩ := Except.bind_ok_iff.mp ok
  obtain ⟨_, verified, ok⟩ := Except.bind_ok_iff.mp ok
  by_cases output_eq : cfg.sha256 proof = output
  · exact ⟨pubKey, signature, Except.mapError_ok_iff.mp key, Except.mapError_ok_iff.mp parsed,
      Except.mapError_ok_iff.mp verified, output_eq⟩
  · rw [if_pos output_eq] at ok
    cases ok

theorem verifyHash_ok {curve : Curve} {key : PublicKey} {hash : Bytes} {sig : Signature}
    (verified : verifyHash curve key hash sig = .ok ()) :
    curve.sigToPub hash (fixed 32 sig.r ++ fixed 32 sig.s ++ [sig.recoveryID]) = .ok key ∧
      curve.verifySignature (curve.fromECDSAPub key) hash
        (fixed 32 sig.r ++ fixed 32 sig.s) = true := by
  unfold verifyHash at verified
  by_cases length : hash.length ≠ 32
  · rw [if_pos length] at verified
    cases verified
  rw [if_neg length] at verified
  obtain ⟨recovered, recovers, verified⟩ := Except.bind_ok_iff.mp verified
  by_cases other : recovered ≠ key
  · rw [if_pos other] at verified
    cases verified
  rw [if_neg other] at verified
  by_cases keyLength : (curve.fromECDSAPub key).length ≠ 65
  · rw [if_pos keyLength] at verified
    cases verified
  rw [if_neg keyLength] at verified
  obtain rfl := not_not.mp other
  refine ⟨Except.mapError_ok_iff.mp recovers, ?_⟩
  by_contra refused
  have pair : (fixed 32 sig.r ++ fixed 32 sig.s ++ [sig.recoveryID]).take 64 =
      fixed 32 sig.r ++ fixed 32 sig.s := by
    rw [List.take_append_of_le_length (by simp), List.take_of_length_le (by simp)]
  rw [pair, if_pos refused] at verified
  cases verified

theorem proof_ext {left right : Bytes} (leftLength : left.length = 65) (rightLength : right.length = 65)
    (r : decode (left.take 32) = decode (right.take 32))
    (s : decode ((left.drop 32).take 32) = decode ((right.drop 32).take 32))
    (v : SameForm left right) : left = right := by
  have parts (raw : Bytes) (length : raw.length = 65) :
      raw = raw.take 32 ++ ((raw.drop 32).take 32 ++ [raw.getD 64 0]) := by
    have last : raw.drop 64 = [raw.getD 64 0] := by
      rw [List.drop_eq_getElem_cons (by omega), List.getD_eq_getElem?_getD,
        List.getElem?_eq_getElem (by omega), List.drop_eq_nil_of_le (by omega)]
      rfl
    have rest : (raw.drop 32).take 32 ++ raw.drop 64 = raw.drop 32 := by
      rw [show 64 = 32 + 32 from rfl, ← List.drop_drop, List.take_append_drop]
    rw [← last, rest, List.take_append_drop]
  rw [parts left leftLength, parts right rightLength, v,
    decode_inj (by simp [leftLength, rightLength]) r,
    decode_inj (by simp [leftLength, rightLength]) s]

theorem vrf_outputs_agree_iff_same_form {first second firstOutput secondOutput : Bytes}
    (unique : UniqueSignatures cfg.curve)
    (ok : verifyVRFProof cfg publicKey alpha firstOutput first = .ok ())
    (again : verifyVRFProof cfg publicKey alpha secondOutput second = .ok ())
    (low : LowS first) (lowAgain : LowS second) :
    firstOutput = secondOutput ↔ SameForm first second ∨ Collides cfg.sha256 first second := by
  obtain ⟨_, _, one⟩ := verifyVRFProof_ok ok
  obtain ⟨_, _, other⟩ := verifyVRFProof_ok again
  cases one.key.symm.trans other.key
  obtain ⟨length, r, s, -⟩ := newSignatureFromBytes_ok one.parsed
  obtain ⟨lengthAgain, rAgain, sAgain, -⟩ := newSignatureFromBytes_ok other.parsed
  have numbers := unique _ _ _ _ (decide_eq_true (s ▸ low)) (decide_eq_true (sAgain ▸ lowAgain))
    one.verified other.verified
  rw [r, s, rAgain, sAgain] at numbers
  rw [← one.output_eq, ← other.output_eq]
  constructor
  · intro same
    by_cases equal : first = second
    · exact Or.inl (by rw [equal]; rfl)
    · exact Or.inr ⟨equal, same⟩
  · rintro (form | collides)
    · rw [proof_ext length lengthAgain numbers.1 numbers.2 form]
    · exact collides.2

end Lemmas

theorem sampleCurve_unique : UniqueSignatures sampleCurve := by
  intro key hash first second _ _ verified again
  have numbers (sig : Signature) (verified : verifyHash sampleCurve key hash sig = .ok ()) :
      sig.r = key.x ∧ sig.s = sampleSeal hash := by
    obtain ⟨recovers, sealed⟩ := verifyHash_ok verified
    have small : curveOrder < 256 ^ 32 := by decide
    have whole {number : Nat} (below : number < curveOrder) :
        decode (fixed 32 number) = number := by
      rw [BigEndian.decode_fixed, Nat.mod_eq_of_lt (below.trans small)]
    have point (hash raw : Bytes) :
        sampleCurve.sigToPub hash raw = .ok ⟨decode (raw.take 32), 0⟩ := rfl
    have check (key hash raw : Bytes) : sampleCurve.verifySignature key hash raw =
        decide (decode (raw.drop 32) = sampleSeal hash) := rfl
    rw [point, List.append_assoc, List.take_left' (fixed_length 32 _),
      whole sig.rValid.2, Except.ok.injEq] at recovers
    rw [check, List.drop_left' (fixed_length 32 _), whole sig.sValid.2] at sealed
    exact ⟨congrArg PublicKey.x recovers, of_decide_eq_true sealed⟩
  exact ⟨(numbers first verified).1.trans (numbers second again).1.symm,
    (numbers first verified).2.trans (numbers second again).2.symm⟩

def sampleRandom : EngineConfig :=
  { sampleEngineConfig with sha256 := sampleEngineConfig.keccak256 }

def sampleTicket (recovery : Byte) : Bytes :=
  fixed 32 7 ++ fixed 32 (sampleSeal (computeVRFSigningHash sampleRandom [1])) ++ [recovery]

theorem a_ticket_has_one_output :
    ∃ output, generateVRFProof sampleRandom [7] [1] = .ok (output, sampleTicket 0) ∧
      verifyVRFProof sampleRandom (samplePubkey 7) [1] output (sampleTicket 0) = .ok () ∧
      ∀ other, verifyVRFProof sampleRandom (samplePubkey 7) [1] other (sampleTicket 0) = .ok () →
        output = other := by
  have ok : verifyVRFProof sampleRandom (samplePubkey 7) [1]
      (sampleRandom.sha256 (sampleTicket 0)) (sampleTicket 0) = .ok () := by decide +kernel
  have low : LowS (sampleTicket 0) := by unfold LowS; decide +kernel
  have generated : generateVRFProof sampleRandom [7] [1] =
      .ok (sampleRandom.sha256 (sampleTicket 0), sampleTicket 0) := by decide +kernel
  have unique : UniqueSignatures sampleRandom.curve := sampleCurve_unique
  have form : SameForm (sampleTicket 0) (sampleTicket 0) := Eq.refl _
  exact ⟨sampleRandom.sha256 (sampleTicket 0), generated, ok, fun other again =>
    (vrf_outputs_agree_iff_same_form unique ok again low low).mpr (Or.inl form)⟩

/-- The same signature with its recovery byte as 0 and as 27: two outputs. -/
theorem a_ticket_has_two_outputs :
    UniqueSignatures sampleRandom.curve ∧ LowS (sampleTicket 0) ∧ LowS (sampleTicket 27) ∧
    ∃ output other,
      verifyVRFProof sampleRandom (samplePubkey 7) [1] output (sampleTicket 0) = .ok () ∧
      verifyVRFProof sampleRandom (samplePubkey 7) [1] other (sampleTicket 27) = .ok () ∧
      output ≠ other := by
  refine ⟨sampleCurve_unique, ?_, ?_, sampleRandom.sha256 (sampleTicket 0),
    sampleRandom.sha256 (sampleTicket 27), ?_, ?_, ?_⟩
  · unfold LowS
    decide +kernel
  · unfold LowS
    decide +kernel
  · decide +kernel
  · decide +kernel
  · decide +kernel

end Thrylos
