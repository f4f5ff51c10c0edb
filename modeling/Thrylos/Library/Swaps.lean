import Mathlib.Data.List.Perm.Basic

/-!
Lists rearranged in place by exchanging two entries at a time.
-/

namespace Swaps

variable {α : Type}

/-- The entries at two positions exchanged; a position outside changes nothing. -/
def swapAt (items : List α) (first second : Nat) : List α :=
  match items[first]?, items[second]? with
  | some one, some other => (items.set first other).set second one
  | _, _ => items

theorem swapAt_perm (items : List α) (first second : Nat) : (swapAt items first second).Perm items := by
  unfold swapAt
  split
  · rename_i one other found foundToo
    obtain ⟨within, rfl⟩ := List.getElem?_eq_some_iff.mp found
    obtain ⟨withinToo, rfl⟩ := List.getElem?_eq_some_iff.mp foundToo
    exact List.set_set_perm within withinToo
  · exact List.Perm.refl items

/-- Every position from the last to the second exchanged with a picked one. -/
def shuffleDown (pick : Nat → Nat) : Nat → List α → List α
  | 0, items => items
  | last + 1, items => shuffleDown pick last (swapAt items (last + 1) (pick (last + 1)))

theorem shuffleDown_perm (pick : Nat → Nat) (last : Nat) (items : List α) :
    (shuffleDown pick last items).Perm items := by
  induction last generalizing items with
  | zero => exact List.Perm.refl items
  | succ _ ih => exact (ih _).trans (swapAt_perm items _ _)

end Swaps
