import Thrylos.Library.BigEndian

/-!
What a byte string becomes in a text format that only has valid UTF-8: every byte that starts no
valid sequence turns into the replacement character.
-/

namespace Utf8

def isContinuation (byte : Byte) : Bool := 128 ≤ byte && byte ≤ 191

def runeLength : Bytes → Option Nat
  | [] => none
  | first :: rest =>
    if first < 128 then some 1
    else
      match rest with
      | [] => none
      | second :: rest =>
        if 194 ≤ first && first ≤ 223 && isContinuation second then some 2
        else
          match rest with
          | [] => none
          | third :: rest =>
            let longer : Bool :=
              (first = 224 && 160 ≤ second) || (first = 237 && second ≤ 159) ||
                (225 ≤ first && first ≤ 239 && first ≠ 237)
            if longer && isContinuation second && isContinuation third then some 3
            else
              match rest with
              | [] => none
              | fourth :: _ =>
                let longest : Bool :=
                  (first = 240 && 144 ≤ second) || (first = 244 && second ≤ 143) ||
                    (241 ≤ first && first ≤ 243)
                if longest && isContinuation second && isContinuation third &&
                    isContinuation fourth then some 4
                else none

/-- `pending` bytes belong to a sequence that was accepted already. -/
def coerceFrom : Nat → Bytes → Bytes
  | _, [] => []
  | pending + 1, byte :: rest => byte :: coerceFrom pending rest
  | 0, byte :: rest =>
    match runeLength (byte :: rest) with
    | none => [239, 191, 189] ++ coerceFrom 0 rest
    | some length => byte :: coerceFrom (length - 1) rest

def coerce (raw : Bytes) : Bytes := coerceFrom 0 raw

example : coerce [97, 255, 195, 169] = [97, 239, 191, 189, 195, 169] := by decide

end Utf8
