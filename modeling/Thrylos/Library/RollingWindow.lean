import Mathlib.Data.List.Basic

/-!
A filter that lets an entry through unless it clashes with one of the last few it let through.
-/

namespace RollingWindow

variable {α : Type}

def recent (limit : Nat) (entries : List α) : List α := entries.drop (entries.length - limit)

def passed (limit : Nat) (clash : α → α → Bool) : List α → List α → List α
  | _, [] => []
  | kept, entry :: rest =>
    if kept.any (clash entry) then passed limit clash kept rest
    else entry :: passed limit clash (recent limit (kept ++ [entry])) rest

variable {limit : Nat} {clash : α → α → Bool}

theorem recent_recent (first second : List α) :
    recent limit (recent limit first ++ second) = recent limit (first ++ second) := by
  unfold recent
  rw [← List.drop_append_of_le_length (Nat.sub_le _ _), List.drop_drop]
  congr 1
  simp only [List.length_drop, List.length_append]
  omega

theorem passed_quiet (kept : List α) {entries rest : List α}
    (quiet : ∀ entry ∈ entries, ∀ other ∈ kept ++ entries, clash entry other = false) :
    passed limit clash (recent limit kept) (entries ++ rest) =
      entries ++ passed limit clash (recent limit (kept ++ entries)) rest := by
  induction entries generalizing kept with
  | nil => simp
  | cons entry entries ih =>
    have agrees : ¬ (recent limit kept).any (clash entry) = true := by
      rw [List.any_eq_true]
      rintro ⟨other, mem, clashes⟩
      have inside := List.mem_append_left (entry :: entries) (List.mem_of_mem_drop mem)
      rw [quiet entry List.mem_cons_self other inside] at clashes
      cases clashes
    have later : ∀ next ∈ entries, ∀ other ∈ (kept ++ [entry]) ++ entries,
        clash next other = false := by
      intro next mem other inside
      rw [List.append_assoc] at inside
      exact quiet next (List.mem_cons_of_mem _ mem) other inside
    rw [List.cons_append, passed, if_neg agrees, recent_recent, ih _ later, List.append_assoc]
    rfl

theorem passed_flood {old filler new : α}
    (quiet : ∀ entry ∈ [old, filler], ∀ other ∈ [old, filler], clash entry other = false)
    (agrees : clash new filler = false) :
    passed limit clash [] ([old] ++ List.replicate limit filler ++ [new]) =
      [old] ++ List.replicate limit filler ++ [new] := by
  have among : ∀ entry ∈ [old] ++ List.replicate limit filler, entry ∈ [old, filler] := by
    intro entry mem
    simp only [List.mem_append, List.mem_singleton, List.mem_replicate] at mem
    rcases mem with rfl | ⟨_, rfl⟩ <;> simp
  have forgotten : recent limit ([] ++ ([old] ++ List.replicate limit filler)) =
      List.replicate limit filler := by
    simp [recent]
  have last : passed limit clash (List.replicate limit filler) [new] = [new] := by
    rw [passed, if_neg (by simp [agrees]), passed]
  have nothing : recent limit ([] : List α) = [] := List.drop_nil
  calc
    _ = passed limit clash (recent limit []) ([old] ++ List.replicate limit filler ++ [new]) := by
      rw [nothing]
    _ = _ := by
      rw [passed_quiet [] fun entry mem other inside =>
        quiet entry (among entry mem) other (among other inside), forgotten, last]

end RollingWindow
