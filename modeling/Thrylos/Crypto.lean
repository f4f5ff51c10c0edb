import Thrylos.StateRoot

/-!
Keys and signatures, `crypto/public_key.go`, `private_key.go` and `signature.go`. The curve itself
is go-ethereum's: a `Curve` is what the node calls there.
-/

namespace Thrylos

def curveOrder : Nat :=
  0xFFFFFFFFFFFFFFFFFFFFFFFFFFFFFFFEBAAEDCE6AF48A03BBFD25E8CD0364141

structure PublicKey where
  x : Nat
  y : Nat
  deriving DecidableEq

/-- The functions of go-ethereum's `crypto` package. A private key is its bytes. -/
structure Curve where
  decompressPubkey : Bytes → Except String PublicKey
  unmarshalPubkey : Bytes → Except String PublicKey
  fromECDSAPub : PublicKey → Bytes
  sigToPub : Bytes → Bytes → Except String PublicKey
  verifySignature : Bytes → Bytes → Bytes → Bool
  sign : Bytes → Bytes → Except String Bytes

/-- `SignatureImpl`, which only `NewSignatureFromBytes` builds. -/
structure Signature where
  r : Nat
  s : Nat
  v : Byte
  rValid : 0 < r ∧ r < curveOrder
  sValid : 0 < s ∧ s < curveOrder
  vKnown : v = 0 ∨ v = 1 ∨ v = 27 ∨ v = 28

def hexByte (byte : Byte) : String := text (hexBytes [byte])

def newPublicKeyFromCompressed (curve : Curve) (data : Bytes) : Except String PublicKey :=
  match data with
  | first :: _ =>
    if first ≠ 2 ∧ first ≠ 3 then
      .error s!"invalid compressed public key prefix: 0x{hexByte first}"
    else (curve.decompressPubkey data).mapError ("failed to decompress public key: " ++ ·)
  | [] => .error "compressed public key must be 33 bytes"

def newPublicKeyFromUncompressed (curve : Curve) (data : Bytes) : Except String PublicKey :=
  match data with
  | first :: _ =>
    if first ≠ 4 then
      .error s!"invalid uncompressed public key prefix: expected 0x04, got 0x{hexByte first}"
    else (curve.unmarshalPubkey data).mapError ("failed to unmarshal public key: " ++ ·)
  | [] => .error "uncompressed public key must be 65 bytes"

def newPublicKeyFromBytes (curve : Curve) (data : Bytes) : Except String PublicKey :=
  if data.length = 33 then newPublicKeyFromCompressed curve data
  else if data.length = 65 then newPublicKeyFromUncompressed curve data
  else .error s!"invalid public key length: expected 33 or 65 bytes, got {data.length}"

def signatureSize : Nat := 65

def newSignatureFromBytes (sigBytes : Bytes) : Except String Signature :=
  if sigBytes.length ≠ signatureSize then
    .error s!"invalid signature length: expected 65 bytes, got {sigBytes.length}"
  else
    let r := BigEndian.decode (sigBytes.take 32)
    let s := BigEndian.decode ((sigBytes.drop 32).take 32)
    let v := sigBytes.getD 64 0
    if vKnown : v = 0 ∨ v = 1 ∨ v = 27 ∨ v = 28 then
      if positive : 0 < r ∧ 0 < s then
        if below : r < curveOrder ∧ s < curveOrder then
          .ok {
            r := r
            s := s
            v := v
            rValid := ⟨positive.1, below.1⟩
            sValid := ⟨positive.2, below.2⟩
            vKnown := vKnown }
        else .error "invalid signature: R or S exceeds curve order"
      else .error "invalid signature: R or S is zero or negative"
    else .error s!"invalid recovery ID (V): {v.val}"

namespace Signature

def bytes (sig : Signature) : Bytes := BigEndian.fixed 32 sig.r ++ BigEndian.fixed 32 sig.s ++ [sig.v]

/-- The form for chain-encoded recovery bytes is never taken: `v` is at most 28. -/
def recoveryID (sig : Signature) : Byte := if 27 ≤ sig.v then sig.v - 27 else sig.v

end Signature

/-- `VerifyHash`. The recovery byte handed to the curve is the normalized one. -/
def verifyHash (curve : Curve) (key : PublicKey) (hash : Bytes) (sig : Signature) :
    Except String Unit := do
  if hash.length ≠ 32 then throw s!"hash must be 32 bytes, got {hash.length}"
  let sigBytes := BigEndian.fixed 32 sig.r ++ BigEndian.fixed 32 sig.s ++ [sig.recoveryID]
  let recovered ← (curve.sigToPub hash sigBytes).mapError
    ("failed to recover public key from signature: " ++ ·)
  if recovered ≠ key then throw "signature verification failed: public key mismatch"
  let keyBytes := curve.fromECDSAPub key
  if keyBytes.length ≠ 65 then throw s!"public key must be 65 bytes, got {keyBytes.length}"
  if ¬ curve.verifySignature keyBytes hash (sigBytes.take 64) then
    throw "signature verification failed"

/-- `Verify` of keys and of signatures: both hash the data first. -/
def verify (keccak256 : Bytes → Bytes) (curve : Curve) (key : PublicKey) (data : Bytes)
    (sig : Signature) : Except String Unit := verifyHash curve key (keccak256 data) sig

def signHash (curve : Curve) (privateKey hash : Bytes) : Except String Signature := do
  if hash.length ≠ 32 then throw s!"hash must be 32 bytes, got {hash.length}"
  let sigBytes ← (curve.sign hash privateKey).mapError ("failed to sign hash: " ++ ·)
  newSignatureFromBytes sigBytes

def sign (keccak256 : Bytes → Bytes) (curve : Curve) (privateKey msg : Bytes) :
    Except String Signature := signHash curve privateKey (keccak256 msg)

end Thrylos
