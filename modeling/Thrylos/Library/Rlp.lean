import Thrylos.Library.BigEndian

/-!
Recursive length prefixes: the encodings of byte strings, of numbers and of lists of encoded items.
-/

namespace Rlp

/-- The bytes before a payload: one that holds its length up to 55 bytes, else one that holds the
length of the length that follows. -/
def header (offset length : Nat) : Bytes :=
  if length < 56 then [Fin.ofNat 256 (offset + length)]
  else
    let size := BigEndian.encode length
    Fin.ofNat 256 (offset + 55 + size.length) :: size

def encodeBytes (raw : Bytes) : Bytes :=
  if raw.length = 1 ∧ BigEndian.decode raw < 128 then raw else header 128 raw.length ++ raw

def encodeNat (value : Nat) : Bytes := encodeBytes (BigEndian.encode value)

def encodeList (items : List Bytes) : Bytes := header 192 items.flatten.length ++ items.flatten

theorem header_short {offset length : Nat} (short : length < 56) :
    header offset length = [Fin.ofNat 256 (offset + length)] := if_pos short

end Rlp
