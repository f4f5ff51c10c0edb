import Mathlib.Data.List.Basic
import Thrylos.Library.BigEndian

/-!
Reading a concatenation back. Records are framed when the first of them can be split off the front
of what may follow it; a list of framed records is then determined by the concatenation.
-/

namespace Framing

variable {α β σ : Type}

def Framed (valid : α → Prop) (tail : List β → Prop) (encode : α → List β) : Prop :=
  ∀ ⦃first second : α⦄, valid first → valid second → ∀ ⦃rest others : List β⦄, tail rest →
    tail others → encode first ++ rest = encode second ++ others → first = second ∧ rest = others

def Anything (_ : List β) : Prop := True

section Lists

variable {valid : α → Prop} {tail : List β → Prop} {encode : α → List β}

theorem framed_of_width {width : Nat} (sized : ∀ record, valid record → (encode record).length = width)
    (injective : ∀ ⦃first second⦄, valid first → valid second → encode first = encode second →
      first = second) : Framed valid Anything encode := by
  intro first second validFirst validSecond rest others _ _ same
  have lengths : (encode first).length = (encode second).length := by
    rw [sized first validFirst, sized second validSecond]
  obtain ⟨records, tails⟩ := List.append_inj same lengths
  exact ⟨injective validFirst validSecond records, tails⟩

variable {records others : List α}

theorem Framed.flatMap_inj (framed : Framed valid tail encode) (ends : tail [])
    (opens : ∀ record, valid record → ∀ rest, tail (encode record ++ rest))
    (nonempty : ∀ record, valid record → encode record ≠ [])
    (valids : ∀ record ∈ records, valid record) (validOthers : ∀ record ∈ others, valid record)
    (same : records.flatMap encode = others.flatMap encode) : records = others := by
  have follows (list : List α) (all : ∀ record ∈ list, valid record) :
      tail (list.flatMap encode) := by
    cases list with
    | nil => exact ends
    | cons record => exact opens record (all record (.head _)) _
  induction records generalizing others with
  | nil =>
    cases others with
    | nil => rfl
    | cons other =>
      have empty := (List.append_eq_nil_iff.mp same.symm).1
      exact absurd empty (nonempty other (validOthers other (.head _)))
  | cons record rest ih =>
    cases others with
    | nil =>
      have empty := (List.append_eq_nil_iff.mp same).1
      exact absurd empty (nonempty record (valids record (.head _)))
    | cons other others =>
    have validRest : ∀ record ∈ rest, valid record := fun record mem =>
      valids record (.tail _ mem)
    have validTail : ∀ record ∈ others, valid record := fun record mem =>
      validOthers record (.tail _ mem)
    obtain ⟨rfl, tails⟩ := framed (valids record (.head _)) (validOthers other (.head _))
      (follows rest validRest) (follows others validTail) same
    rw [ih validRest validTail tails]

theorem flatMap_inj_of_layout {layout : α → σ}
    (framed : ∀ shape, Framed (fun record => valid record ∧ layout record = shape) Anything encode)
    (valids : ∀ record ∈ records, valid record)
    (validOthers : ∀ record ∈ others, valid record)
    (layouts : records.map layout = others.map layout)
    (same : records.flatMap encode = others.flatMap encode) : records = others := by
  induction records generalizing others with
  | nil => exact (List.map_eq_nil_iff.mp layouts.symm).symm
  | cons record _ ih =>
    cases others with
    | nil => cases layouts
    | cons other =>
    obtain ⟨shape, shapes⟩ := List.cons.inj layouts
    obtain ⟨rfl, tails⟩ := framed (layout other) ⟨valids record (.head _), shape⟩
      ⟨validOthers other (.head _), rfl⟩ trivial trivial same
    have equal := ih (fun record mem => valids record (.tail _ mem))
      (fun record mem => validOthers record (.tail _ mem)) shapes tails
    rw [equal]

end Lists

theorem parts_eq_iff {parts others : List (List β)} (same : parts.flatten = others.flatten) :
    parts = others ↔ parts.map List.length = others.map List.length := by
  rw [List.eq_iff_flatten_eq, and_iff_right same]

def lengthPrefixed (width : Nat) (raw : Bytes) : Bytes :=
  BigEndian.fixed width raw.length ++ raw

theorem framed_lengthPrefixed (width : Nat) :
    Framed (fun raw : Bytes => raw.length < 256 ^ width) Anything (lengthPrefixed width) := by
  intro first second short shortSecond rest others _ _ same
  simp only [lengthPrefixed, List.append_assoc] at same
  obtain ⟨lengths, bodies⟩ := List.append_inj same (by simp)
  exact List.append_inj bodies ((BigEndian.fixed_inj short shortSecond).mp lengths)

end Framing
