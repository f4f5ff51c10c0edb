import Thrylos.Library.BigEndian
import Thrylos.Library.Trim

/-!
Text as the bytes of a Go string: constants, the `%d` and `%v` forms, and `strings.TrimSpace`.
-/

namespace GoText

def ascii (text : String) : Bytes := text.toList.map fun letter => Fin.ofNat 256 letter.toNat

def decimal (value : Nat) : Bytes :=
  (Nat.toDigits 10 value).map fun digit => Fin.ofNat 256 digit.toNat

def signedDecimal : Int → Bytes
  | .ofNat value => decimal value
  | .negSucc value => 45 :: decimal (value + 1)

def bracketed (raw : Bytes) : Bytes :=
  91 :: List.intercalate [32] (raw.map fun byte => decimal byte.val) ++ [93]

example : ascii "a:" ++ decimal 120 ++ bracketed [1, 20] =
    [97, 58, 49, 50, 48, 91, 49, 32, 50, 48, 93] := by decide +kernel

/-- The characters `unicode.IsSpace` accepts, in UTF-8. -/
def spaces : List Bytes :=
  [[9], [10], [11], [12], [13], [32], [194, 133], [194, 160], [225, 154, 128], [226, 128, 128],
    [226, 128, 129], [226, 128, 130], [226, 128, 131], [226, 128, 132], [226, 128, 133],
    [226, 128, 134], [226, 128, 135], [226, 128, 136], [226, 128, 137], [226, 128, 138],
    [226, 128, 168], [226, 128, 169], [226, 128, 175], [226, 129, 159], [227, 128, 128]]

def trimSpace (text : Bytes) : Bytes := Trim.trim spaces text

theorem trimmed_trimSpace (text : Bytes) : Trim.Trimmed spaces (trimSpace text) :=
  Trim.trimmed_trim (by decide)

theorem trimmed_of_printable {text : Bytes} (printable : ∀ letter ∈ text, 32 < letter ∧ letter < 127) :
    Trim.Trimmed spaces text := by
  have foreign : ∀ found ∈ spaces, ∃ letter ∈ found, ¬ (32 < letter ∧ letter < 127) := by
    decide +kernel
  refine Trim.trimmed_of_foreign fun found mem => ?_
  obtain ⟨letter, inside, unprintable⟩ := foreign found mem
  exact ⟨letter, inside, fun present => unprintable (printable letter present)⟩

example : trimSpace (ascii " a b" ++ [194, 160, 10]) = ascii "a b" := by decide +kernel

end GoText
