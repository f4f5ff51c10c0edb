import Thrylos.Library.Rlp

/-!
The address of a created contract is a hash of its deployer and the deployer's nonce. Go writes the
two down in `crypto/address/address.go`, Rust in `revm_wrapper/src/lib.rs`, where the length of the
list is that of a nonce of one byte.
-/

namespace Thrylos

/-- The loop of `toBytes`, with the bytes it has found. -/
def toBytesLoop (n : Nat) (bytes : Bytes) : Bytes :=
  if n = 0 then bytes else toBytesLoop (n / 256) (Fin.ofNat 256 n :: bytes)

def toBytes (n : UInt64) : Bytes := if n = 0 then [0] else toBytesLoop n.toNat []

def encodeRLPUint (n : UInt64) : Bytes :=
  if n = 0 then [128]
  else if n < 128 then [Fin.ofNat 256 n.toNat]
  else
    let bytes := toBytes n
    Fin.ofNat 256 (128 + bytes.length) :: bytes

def rlpEncodeCreateAddress (address : Bytes) (nonce : UInt64) : Bytes :=
  let nonceBytes := encodeRLPUint nonce
  let listLen := 1 + address.length + nonceBytes.length
  let lead := if listLen < 56 then [Fin.ofNat 256 (192 + listLen)]
    else
      let lenBytes := toBytes (UInt64.ofNat listLen)
      Fin.ofNat 256 (247 + lenBytes.length) :: lenBytes
  lead ++ 148 :: address ++ nonceBytes

structure CAddress where
  bytes : Bytes
  size : bytes.length = 20

/-- What `revm_calculate_create_address` hashes. -/
def revmCalculateCreateAddress (deployer : CAddress) (nonce : UInt64) : Bytes :=
  let nonceBytes := BigEndian.fixed 8 nonce.toNat
  let start := (nonceBytes.findIdx? (· ≠ 0)).getD 0
  [214, 148] ++ deployer.bytes ++
    if nonce = 0 then [128]
    else if nonce < 128 then [Fin.ofNat 256 nonce.toNat]
    else Fin.ofNat 256 (128 + (8 - start)) :: nonceBytes.drop start

theorem toBytesLoop_eq (n : Nat) (bytes : Bytes) :
    toBytesLoop n bytes = BigEndian.encode n ++ bytes := by
  induction n using Nat.strong_induction_on generalizing bytes with
  | _ n ih =>
    rw [toBytesLoop]
    split_ifs with none_
    · simp [none_]
    · rw [ih (n / 256) (by omega), BigEndian.encode, BigEndian.encode,
        Nat.digits_def' (by decide) (Nat.pos_of_ne_zero none_)]
      simp [Fin.ext_iff]

theorem encodeRLPUint_eq (n : UInt64) : encodeRLPUint n = Rlp.encodeNat n.toNat := by
  unfold encodeRLPUint toBytes Rlp.encodeNat Rlp.encodeBytes
  rw [BigEndian.decode_encode, toBytesLoop_eq, List.append_nil]
  by_cases none_ : n = 0
  · subst none_
    decide
  by_cases small : n < 128
  · have value : n.toNat < 128 := UInt64.lt_iff_toNat_lt.mp small
    have digit : BigEndian.encode n.toNat = [Fin.ofNat 256 n.toNat] := by
      rw [BigEndian.encode, Nat.digits_of_lt 256 n.toNat (UInt64.toNat_inj.not.mpr none_) (by omega)]
      rfl
    simp [none_, small, value, digit]
  · have value : ¬ n.toNat < 128 := UInt64.lt_iff_toNat_lt.not.mp small
    have bound : (BigEndian.encode n.toNat).length ≤ 8 :=
      (BigEndian.encode_length_le _ _).mpr n.toNat_lt
    simp [none_, small, value, Rlp.header_short (Nat.lt_of_le_of_lt bound (by decide))]

theorem encodeRLPUint_length (n : UInt64) : n < 128 ∧ (encodeRLPUint n).length = 1 ∨
      ¬ n < 128 ∧ 2 ≤ (encodeRLPUint n).length ∧ (encodeRLPUint n).length ≤ 9 := by
  unfold encodeRLPUint toBytes
  by_cases none_ : n = 0
  · simp [none_]
  by_cases small : n < 128
  · simp [none_, small]
  · have above : ¬ n.toNat < 256 ^ 0 := by
      rw [Nat.pow_zero, Nat.lt_one_iff]
      exact UInt64.toNat_inj.not.mpr none_
    rw [← BigEndian.encode_length_le] at above
    have below := (BigEndian.encode_length_le n.toNat 8).mpr n.toNat_lt
    rw [if_neg none_, if_neg small, if_neg none_, toBytesLoop_eq, List.append_nil]
    exact .inr ⟨small, Nat.succ_le_succ (not_le.mp above), Nat.succ_le_succ below⟩

theorem rlpEncodeCreateAddress_short (sender : CAddress) (nonce : UInt64) :
    rlpEncodeCreateAddress sender.bytes nonce =
      Fin.ofNat 256 (213 + (encodeRLPUint nonce).length) :: 148 :: sender.bytes ++
        encodeRLPUint nonce := by
  have short : 1 + 20 + (encodeRLPUint nonce).length < 56 := by
    have sizes := encodeRLPUint_length nonce
    omega
  simp only [rlpEncodeCreateAddress, sender.size, if_pos short]
  rw [show 192 + (1 + 20 + (encodeRLPUint nonce).length) = 213 + (encodeRLPUint nonce).length by
    omega]
  rfl

theorem rlpEncodeCreateAddress_eq (sender : CAddress) (nonce : UInt64) :
    rlpEncodeCreateAddress sender.bytes nonce =
      Rlp.encodeList [Rlp.encodeBytes sender.bytes, Rlp.encodeNat nonce.toNat] := by
  have item : Rlp.encodeBytes sender.bytes = 148 :: sender.bytes := by
    simp [Rlp.encodeBytes, Rlp.header, sender.size]
  have total : [148 :: sender.bytes, encodeRLPUint nonce].flatten.length =
      21 + (encodeRLPUint nonce).length := by
    simp [sender.size]
    omega
  have sizes := encodeRLPUint_length nonce
  rw [rlpEncodeCreateAddress_short, Rlp.encodeList, ← encodeRLPUint_eq, item, total,
    Rlp.header_short (by omega), ← Nat.add_assoc]
  simp

theorem revmCalculateCreateAddress_long (sender : CAddress) {nonce : UInt64}
    (long : ¬ nonce < 128) :
    revmCalculateCreateAddress sender nonce ≠ rlpEncodeCreateAddress sender.bytes nonce := by
  intro same
  rw [rlpEncodeCreateAddress_short] at same
  obtain ⟨_, least, most⟩ := (encodeRLPUint_length nonce).resolve_left fun small => long small.1
  have lead := congrArg Fin.val (List.cons.inj same).1
  simp at lead
  omega

theorem create_address_bytes_agree_iff (sender : CAddress) (nonce : UInt64) :
    (rlpEncodeCreateAddress sender.bytes nonce =
        Rlp.encodeList [Rlp.encodeBytes sender.bytes, Rlp.encodeNat nonce.toNat] ∧
      revmCalculateCreateAddress sender nonce = rlpEncodeCreateAddress sender.bytes nonce) ↔
    nonce < 128 := by
  rw [and_iff_right (rlpEncodeCreateAddress_eq sender nonce)]
  refine ⟨fun same => not_not.mp fun long => revmCalculateCreateAddress_long sender long same,
    fun small => ?_⟩
  rw [rlpEncodeCreateAddress_short]
  obtain ⟨_, one⟩ := (encodeRLPUint_length nonce).resolve_right fun long => long.1 small
  rw [one]
  simp [revmCalculateCreateAddress, small, encodeRLPUint]

/-- The list of a nonce of two bytes has the length of one with a nonce of one. -/
theorem created_addresses_differ :
    revmCalculateCreateAddress ⟨List.replicate 20 0, rfl⟩ 128 ≠
      rlpEncodeCreateAddress (List.replicate 20 0) 128 :=
  revmCalculateCreateAddress_long _ (by decide)

end Thrylos
