import Thrylos.Library.BigEndian

/-!
The byte-encoded amounts of `core/math/uint256.go` and `big_utils.go`: a big-endian string of at
most 32 bytes without a leading zero; `[0]` is accepted as zero.
-/

namespace Thrylos

open BigEndian (decode encode encode_length_le)

def maxUint256Bytes : Nat := 32

def uint256Bound : Nat := 256 ^ maxUint256Bytes

theorem uint256Bound_eq : uint256Bound = 2 ^ 256 := rfl

def validateCanonicalUint256Bytes (raw : Bytes) : Except String Unit :=
  if maxUint256Bytes < raw.length then
    .error s!"uint256 byte length {raw.length} exceeds max {maxUint256Bytes}"
  else if 1 < raw.length ∧ raw.head? = some 0 then
    .error "uint256 byte encoding is not canonical"
  else .ok ()

def parseUint256Bytes (raw : Bytes) : Except String Nat :=
  match validateCanonicalUint256Bytes raw with
  | .error err => .error err
  | .ok () => .ok (decode raw)

/-- `ParseBigInt` on bytes reads what it refuses as zero. -/
def parseBigInt (raw : Bytes) : Nat :=
  match parseUint256Bytes raw with
  | .error _ => 0
  | .ok value => value

def bigIntToUint256Bytes (value : Int) : Except String Bytes :=
  if value = 0 then .ok []
  else if value < 0 then .error "uint256 value cannot be negative"
  else
    let raw := encode value.toNat
    if maxUint256Bytes < raw.length then
      .error s!"uint256 byte length {raw.length} exceeds max {maxUint256Bytes}"
    else .ok raw

def mustUint256Bytes (value : Int) : Bytes :=
  match bigIntToUint256Bytes value with
  | .error _ => []
  | .ok raw => raw

def canonicalizeUint256Bytes (raw : Bytes) : Except String Bytes :=
  match parseUint256Bytes raw with
  | .error err => .error err
  | .ok value => bigIntToUint256Bytes value

variable {value : Nat} {raw : Bytes}

theorem bigIntToUint256Bytes_natCast (bounded : value < uint256Bound) :
    bigIntToUint256Bytes value = .ok (encode value) := by
  unfold bigIntToUint256Bytes
  by_cases zero : value = 0
  · simp [zero]
  · have short : ¬ maxUint256Bytes < (encode value).length := by
      rw [not_lt, encode_length_le]
      exact bounded
    simp [zero, short]

theorem mustUint256Bytes_natCast (bounded : value < uint256Bound) :
    mustUint256Bytes value = encode value := by
  rw [mustUint256Bytes, bigIntToUint256Bytes_natCast bounded]

theorem parseUint256Bytes_ok (parsed : parseUint256Bytes raw = .ok value) :
    value = decode raw ∧ raw.length ≤ maxUint256Bytes ∧ (raw = [0] ∨ raw.head? ≠ some 0) := by
  unfold parseUint256Bytes validateCanonicalUint256Bytes at parsed
  split_ifs at parsed with long leading
  refine ⟨by simpa using parsed.symm, not_lt.mp long, ?_⟩
  by_cases zeroHead : raw.head? = some 0
  · left
    rcases raw with _ | ⟨_, _ | ⟨_, _⟩⟩
    · simp at zeroHead
    · simpa using zeroHead
    · simp [zeroHead] at leading
  · exact Or.inr zeroHead

theorem parseBigInt_lt (raw : Bytes) : parseBigInt raw < uint256Bound := by
  unfold parseBigInt
  split
  · exact Nat.pow_pos (by decide)
  · rename_i value parsed
    obtain ⟨rfl, short, _⟩ := parseUint256Bytes_ok parsed
    exact (BigEndian.decode_lt raw).trans_le (Nat.pow_le_pow_right (by decide) short)

theorem parseUint256Bytes_encode (bounded : value < uint256Bound) :
    parseUint256Bytes (encode value) = .ok value := by
  have short : ¬ maxUint256Bytes < (encode value).length := by
    rw [not_lt, encode_length_le]
    exact bounded
  simp [parseUint256Bytes, validateCanonicalUint256Bytes, short, BigEndian.encode_head?]

theorem parseBigInt_encode (bounded : value < uint256Bound) :
    parseBigInt (encode value) = value := by
  rw [parseBigInt, parseUint256Bytes_encode bounded]

theorem bigIntToUint256Bytes_parseBigInt :
    bigIntToUint256Bytes (parseBigInt raw) = .ok (encode (parseBigInt raw)) :=
  bigIntToUint256Bytes_natCast (parseBigInt_lt raw)

theorem parseBigInt_mustUint256Bytes (value : Int) (nonnegative : 0 ≤ value)
    (bounded : value < uint256Bound) : (parseBigInt (mustUint256Bytes value) : Int) = value := by
  obtain ⟨amt, rfl⟩ := Int.eq_ofNat_of_zero_le nonnegative
  have small : amt < uint256Bound := by exact_mod_cast bounded
  rw [mustUint256Bytes_natCast small, parseBigInt_encode small]

theorem bigIntToUint256Bytes_ok {value : Int} (encoded : bigIntToUint256Bytes value = .ok raw) :
    ∃ amt < uint256Bound, value = amt ∧ raw = encode amt := by
  have nonnegative : 0 ≤ value := by
    by_contra negative
    have below := not_le.mp negative
    simp [bigIntToUint256Bytes, below, below.ne] at encoded
  obtain ⟨amt, rfl⟩ := Int.eq_ofNat_of_zero_le nonnegative
  have bounded : amt < uint256Bound := by
    by_contra large
    have nonzero : amt ≠ 0 := by
      rintro rfl
      exact large (Nat.pow_pos (by decide))
    have long : maxUint256Bytes < (encode amt).length := by
      rw [← not_le, encode_length_le]
      exact large
    have sign : ¬ (amt : Int) < 0 := not_lt.mpr nonnegative
    simp [bigIntToUint256Bytes, nonzero, long, sign] at encoded
  rw [bigIntToUint256Bytes_natCast bounded] at encoded
  exact ⟨amt, bounded, rfl, (Except.ok.inj encoded).symm⟩

theorem parseBigInt_mustUint256Bytes_of_le (large : uint256Bound ≤ value) :
    parseBigInt (mustUint256Bytes value) = 0 := by
  have positive : value ≠ 0 := by
    have : 0 < uint256Bound := parseBigInt_lt []
    omega
  have nonnegative : ¬ (value : Int) < 0 := by omega
  have long : maxUint256Bytes < (encode value).length := by
    rw [← not_le, encode_length_le, not_lt]
    exact large
  have empty : mustUint256Bytes value = [] := by
    simp [mustUint256Bytes, bigIntToUint256Bytes, positive, nonnegative, long]
  rw [empty]
  rfl

theorem mustUint256Bytes_encode (value : Int) :
    mustUint256Bytes value = encode (parseBigInt (mustUint256Bytes value)) := by
  cases encoded : bigIntToUint256Bytes value with
  | error =>
    simp [mustUint256Bytes, encoded, parseBigInt, parseUint256Bytes, validateCanonicalUint256Bytes]
  | ok =>
    obtain ⟨_, bounded, rfl, rfl⟩ := bigIntToUint256Bytes_ok encoded
    rw [mustUint256Bytes_natCast bounded, parseBigInt_encode bounded]

theorem canonicalizeUint256Bytes_ok {canonical : Bytes}
    (ok : canonicalizeUint256Bytes raw = .ok canonical) : canonical = encode (parseBigInt raw) := by
  unfold canonicalizeUint256Bytes at ok
  split at ok
  · simp at ok
  · rename_i value parsed
    have same : parseBigInt raw = value := by rw [parseBigInt, parsed]
    rw [← same, bigIntToUint256Bytes_parseBigInt] at ok
    exact (Except.ok.inj ok).symm

theorem canonicalizeUint256Bytes_encode (bounded : value < uint256Bound) :
    canonicalizeUint256Bytes (encode value) = .ok (encode value) := by
  rw [canonicalizeUint256Bytes, parseUint256Bytes_encode bounded]
  exact bigIntToUint256Bytes_natCast bounded

/-- The codec. Only the single zero byte is accepted and written differently: zero is the empty
string. -/
theorem uint256_codec_iff (value : Int) (raw : Bytes) :
    (0 ≤ value → value < 2 ^ 256 → ∃ encoded, bigIntToUint256Bytes value = .ok encoded ∧
      parseUint256Bytes encoded = .ok value.toNat) ∧
    ((∃ err, bigIntToUint256Bytes value = .error err) ↔ value < 0 ∨ 2 ^ 256 ≤ value) ∧
    (∀ amt, parseUint256Bytes raw = .ok amt → ∃ canonical,
      canonicalizeUint256Bytes raw = .ok canonical ∧ parseUint256Bytes canonical = .ok amt ∧
        canonicalizeUint256Bytes canonical = .ok canonical) ∧
    ((validateCanonicalUint256Bytes raw = .ok () → ∃ amt : Nat,
      parseUint256Bytes raw = .ok amt ∧ bigIntToUint256Bytes amt = .ok raw) ↔ raw ≠ [0]) := by
  have encodes (fits : 0 ≤ value ∧ value < 2 ^ 256) :
      bigIntToUint256Bytes value = .ok (encode value.toNat) ∧ value.toNat < uint256Bound := by
    obtain ⟨amt, rfl⟩ := Int.eq_ofNat_of_zero_le fits.1
    have bounded : amt < uint256Bound := by exact_mod_cast fits.2
    exact ⟨bigIntToUint256Bytes_natCast bounded, bounded⟩
  have reads (amt : Nat) (parsed : parseUint256Bytes raw = .ok amt) :
      amt = decode raw ∧ amt < uint256Bound := by
    have bounded := parseBigInt_lt raw
    rw [parseBigInt, parsed] at bounded
    exact ⟨(parseUint256Bytes_ok parsed).1, bounded⟩
  refine ⟨fun low high => ?_, ⟨?_, ?_⟩, fun amt parsed => ?_, ?_, fun single valid => ?_⟩
  · obtain ⟨encoded, bounded⟩ := encodes ⟨low, high⟩
    exact ⟨_, encoded, parseUint256Bytes_encode bounded⟩
  · rintro ⟨err, refused⟩
    by_contra inside
    rw [not_or, not_lt, not_le] at inside
    rw [(encodes inside).1] at refused
    cases refused
  · intro outside
    cases encoded : bigIntToUint256Bytes value with
    | error err => exact ⟨err, rfl⟩
    | ok =>
      obtain ⟨amt, bounded, rfl, -⟩ := bigIntToUint256Bytes_ok encoded
      rw [uint256Bound_eq] at bounded
      omega
  · have bounded := (reads amt parsed).2
    refine ⟨encode amt, ?_, parseUint256Bytes_encode bounded, canonicalizeUint256Bytes_encode bounded⟩
    rw [canonicalizeUint256Bytes, parsed]
    exact bigIntToUint256Bytes_natCast bounded
  · rintro same rfl
    obtain ⟨amt, parsed, encoded⟩ := same rfl
    cases parsed
    cases encoded
  · have parsed : parseUint256Bytes raw = .ok (decode raw) := by rw [parseUint256Bytes, valid]
    have leading := (parseUint256Bytes_ok parsed).2.2.resolve_left single
    have encoded := bigIntToUint256Bytes_natCast (reads _ parsed).2
    rw [BigEndian.encode_decode leading] at encoded
    exact ⟨_, parsed, encoded⟩

theorem zero_byte_reencodes_empty :
    validateCanonicalUint256Bytes [0] = .ok () ∧ parseUint256Bytes [0] = .ok 0 ∧
      bigIntToUint256Bytes 0 = .ok [] := ⟨rfl, rfl, rfl⟩

end Thrylos
