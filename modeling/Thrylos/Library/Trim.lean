import Mathlib.Data.List.Basic
import Mathlib.Data.List.Infix

/-!
Cutting the units of a fixed set, such as the encodings of the blanks, off both ends of a text.
-/

namespace Trim

variable {α : Type} [DecidableEq α] {units : List (List α)} {text : List α}

def stripStart (units : List (List α)) : Nat → List α → List α
  | 0, text => text
  | fuel + 1, text =>
    match units.find? (·.isPrefixOf text) with
    | none => text
    | some found => stripStart units fuel (text.drop found.length)

def stripEnd (units : List (List α)) (text : List α) : List α :=
  (stripStart (units.map List.reverse) text.length text.reverse).reverse

def trim (units : List (List α)) (text : List α) : List α :=
  stripEnd units (stripStart units text.length text)

structure Trimmed (units : List (List α)) (text : List α) : Prop where
  start : ∀ found ∈ units, ¬ found <+: text
  finish : ∀ found ∈ units, ¬ found <:+ text

theorem stripStart_of_start (fuel : Nat) (start : ∀ found ∈ units, ¬ found <+: text) :
    stripStart units fuel text = text := by
  cases fuel with
  | zero => rfl
  | succ =>
    have none : units.find? (·.isPrefixOf text) = none := by
      simpa [List.find?_eq_none, List.isPrefixOf_iff_prefix] using start
    rw [stripStart, none]

theorem stripStart_suffix (fuel : Nat) (text : List α) : stripStart units fuel text <:+ text := by
  induction fuel generalizing text with
  | zero => exact List.suffix_refl text
  | succ _ ih =>
    rw [stripStart]
    split
    · exact List.suffix_refl text
    · exact (ih _).trans (List.drop_suffix _ _)

theorem stripStart_start (proper : ∀ found ∈ units, found ≠ []) {fuel : Nat}
    (enough : text.length ≤ fuel) : ∀ found ∈ units, ¬ found <+: stripStart units fuel text := by
  induction fuel generalizing text with
  | zero =>
    intro found mem led
    have nothing : text = [] := List.length_eq_zero_iff.mp (Nat.le_zero.mp enough)
    rw [stripStart, nothing] at led
    exact proper found mem (List.prefix_nil.mp led)
  | succ fuel ih =>
    rw [stripStart]
    split
    · rename_i none
      simpa [List.find?_eq_none, List.isPrefixOf_iff_prefix] using none
    · rename_i first found
      apply ih
      have positive := List.length_pos_of_ne_nil (proper first (List.mem_of_find?_eq_some found))
      rw [List.length_drop]
      omega

theorem stripEnd_of_end (apart : ∀ found ∈ units, ¬ found <:+ text) : stripEnd units text = text := by
  unfold stripEnd
  rw [stripStart_of_start, List.reverse_reverse]
  intro back mem led
  obtain ⟨found, present, rfl⟩ := List.mem_map.mp mem
  exact apart found present (List.reverse_prefix.mp led)

theorem stripEnd_leads : stripEnd units text <+: text := by
  have stripped : stripStart (units.map List.reverse) text.length text.reverse <:+ text.reverse :=
    stripStart_suffix text.length text.reverse
  rw [← List.reverse_prefix, List.reverse_reverse] at stripped
  exact stripped

theorem trim_of_trimmed (trimmed : Trimmed units text) : trim units text = text := by
  unfold trim
  rw [stripStart_of_start _ trimmed.start, stripEnd_of_end trimmed.finish]

omit [DecidableEq α] in
theorem trimmed_of_foreign (foreign : ∀ found ∈ units, ∃ letter ∈ found, letter ∉ text) :
    Trimmed units text := by
  constructor
  · intro found mem led
    obtain ⟨letter, inside, outside⟩ := foreign found mem
    exact outside (led.subset inside)
  · intro found mem closed
    obtain ⟨_, inside, outside⟩ := foreign found mem
    exact outside (closed.subset inside)

theorem trimmed_trim (proper : ∀ found ∈ units, found ≠ []) : Trimmed units (trim units text) := by
  constructor
  · intro found mem led
    exact stripStart_start proper le_rfl found mem (led.trans stripEnd_leads)
  · intro found mem closed
    have reversed : ∀ back ∈ units.map List.reverse, back ≠ [] := by
      intro back mem
      obtain ⟨found, present, rfl⟩ := List.mem_map.mp mem
      exact fun nothing => proper found present (List.reverse_eq_nil_iff.mp nothing)
    have short : (stripStart units text.length text).reverse.length ≤
        (stripStart units text.length text).length := List.length_reverse.le
    apply stripStart_start reversed short found.reverse (List.mem_map_of_mem mem)
    rw [← List.reverse_suffix, List.reverse_reverse]
    exact closed

end Trim
