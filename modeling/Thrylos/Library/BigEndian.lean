import Mathlib.Data.Nat.Digits.Lemmas
import Mathlib.Data.List.Lex
import Mathlib.Order.Fin.Basic

/-!
Byte strings and big-endian numbers: the shortest encoding of a natural number, which is empty for
zero, and the fixed-width one.
-/

abbrev Byte := Fin 256

abbrev Bytes := List Byte

instance byteNeZero : NeZero (256 : ℕ) := ⟨by decide⟩

instance decidableMemBytes (raw : Bytes) (texts : List Bytes) : Decidable (raw ∈ texts) :=
  inferInstance

namespace BigEndian

def decode (raw : Bytes) : Nat := Nat.ofDigits 256 (raw.reverse.map Fin.val)

def encode (value : Nat) : Bytes := (Nat.digits 256 value).reverse.map (Fin.ofNat 256)

/-- The low `width` bytes of a number, most significant first. -/
def fixed : Nat → Nat → Bytes
  | 0, _ => []
  | width + 1, value => fixed width (value / 256) ++ [Fin.ofNat 256 value]

@[simp] theorem decode_nil : decode [] = 0 := rfl

@[simp] theorem encode_zero : encode 0 = [] := by simp [encode]

theorem encode_vals (value : Nat) : (encode value).reverse.map Fin.val = Nat.digits 256 value := by
  simp only [encode, ← List.map_reverse, List.reverse_reverse, List.map_map]
  refine (List.map_congr_left fun digit mem => ?_).trans (List.map_id _)
  exact Nat.mod_eq_of_lt (Nat.digits_lt_base (by decide) mem)

@[simp] theorem decode_encode (value : Nat) : decode (encode value) = value := by
  rw [decode, encode_vals, Nat.ofDigits_digits]

@[simp] theorem encode_length_le (value width : Nat) :
    (encode value).length ≤ width ↔ value < 256 ^ width := by
  rw [encode, List.length_map, List.length_reverse, Nat.digits_length_le_iff (by decide)]

theorem decode_lt (raw : Bytes) : decode raw < 256 ^ raw.length := by
  have bound := Nat.ofDigits_lt_base_pow_length (b := 256) (l := raw.reverse.map Fin.val)
    (by decide) (by
      intro digit mem
      obtain ⟨byte, _, rfl⟩ := List.mem_map.mp mem
      exact byte.isLt)
  simpa [decode] using bound

theorem decode_inj {left right : Bytes} (length : left.length = right.length)
    (same : decode left = decode right) : left = right := by
  have digits (raw : Bytes) : ∀ digit ∈ raw.reverse.map Fin.val, digit < 256 := by
    intro digit mem
    obtain ⟨byte, -, rfl⟩ := List.mem_map.mp mem
    exact byte.isLt
  have vals := Nat.ofDigits_inj_of_len_eq (by decide) (by simpa using length) (digits left)
    (digits right) same
  exact List.reverse_injective (List.map_injective_iff.mpr Fin.val_injective vals)

theorem encode_decode {raw : Bytes} (leading : raw.head? ≠ some 0) : encode (decode raw) = raw := by
  have digits : Nat.digits 256 (decode raw) = raw.reverse.map Fin.val := by
    refine Nat.digits_ofDigits 256 (by decide) _ ?_ ?_
    · intro digit mem
      obtain ⟨byte, _, rfl⟩ := List.mem_map.mp mem
      exact byte.isLt
    · intro nonempty zero
      cases raw with
      | nil => simp at nonempty
      | cons first =>
      refine leading ?_
      simp only [List.reverse_cons, List.map_append, List.map_cons, List.map_nil,
        List.getLast_append_singleton] at zero
      have firstZero : first = 0 := Fin.ext zero
      rw [List.head?_cons, firstZero]
  rw [encode, digits, ← List.map_reverse, List.reverse_reverse, List.map_map]
  refine (List.map_congr_left fun byte _ => ?_).trans (List.map_id raw)
  exact Fin.ofNat_val_eq_self byte

theorem encode_head? (value : Nat) : (encode value).head? ≠ some 0 := by
  intro leading
  have nonzero : value ≠ 0 := by
    rintro rfl
    simp at leading
  have last := Nat.getLast_digit_ne_zero 256 nonzero
  rw [encode, List.head?_map, List.head?_reverse,
    List.getLast?_eq_some_getLast (Nat.digits_ne_nil_iff_ne_zero.mpr nonzero)] at leading
  have small := Nat.digits_lt_base (b := 256) (by decide)
    (List.getLast_mem (Nat.digits_ne_nil_iff_ne_zero.mpr nonzero))
  simp only [Option.map_some, Option.some.injEq] at leading
  have value := congrArg Fin.val leading
  simp only [Fin.val_ofNat, Fin.val_zero] at value
  rw [Nat.mod_eq_of_lt small] at value
  exact last value

@[simp] theorem fixed_length (width value : Nat) : (fixed width value).length = width := by
  induction width generalizing value with
  | zero => rfl
  | succ _ ih => simp [fixed, ih]

theorem decode_fixed (width value : Nat) : decode (fixed width value) = value % 256 ^ width := by
  induction width generalizing value with
  | zero => simp [fixed, Nat.mod_one]
  | succ width ih =>
    have low : decode (fixed width (value / 256) ++ [Fin.ofNat 256 value]) =
        value % 256 + 256 * decode (fixed width (value / 256)) := by
      simp [decode, Nat.ofDigits_cons]
    rw [fixed, low, ih, Nat.pow_succ', Nat.mod_mul]

theorem fixed_inj {width first second : Nat} (small : first < 256 ^ width)
    (smallSecond : second < 256 ^ width) :
    fixed width first = fixed width second ↔ first = second := by
  refine ⟨fun same => ?_, congrArg _⟩
  have decoded := congrArg decode same
  rwa [decode_fixed, decode_fixed, Nat.mod_eq_of_lt small, Nat.mod_eq_of_lt smallSecond] at decoded

end BigEndian
