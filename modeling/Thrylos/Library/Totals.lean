import Mathlib.Algebra.GroupWithZero.Nat
import Mathlib.Algebra.BigOperators.Group.Finset.Basic
import Mathlib.Algebra.Order.BigOperators.Group.List
import Mathlib.Algebra.Order.BigOperators.Group.Finset

/-!
Totals of a quantity over finitely many holders. A change at one or two holders moves the total by
exactly what it moves there.
-/

namespace Totals

variable {α : Type} [DecidableEq α] {holders : Finset α} {before after : α → ℕ}

theorem sum_change_one {holder : α} (mem : holder ∈ holders)
    (same : ∀ other ∈ holders, other ≠ holder → after other = before other) :
    (∑ other ∈ holders, after other) + before holder =
      (∑ other ∈ holders, before other) + after holder := by
  have rest : ∑ other ∈ holders.erase holder, after other = ∑ other ∈ holders.erase holder, before other :=
    Finset.sum_congr rfl fun other inside =>
      same other (Finset.mem_of_mem_erase inside) (Finset.ne_of_mem_erase inside)
  have afterSplit := Finset.add_sum_erase holders after mem
  have beforeSplit := Finset.add_sum_erase holders before mem
  omega

variable {first second : α}

theorem sum_change_two (firstMember : first ∈ holders)
    (secondMember : second ∈ holders) (ne : first ≠ second)
    (same : ∀ other, other ≠ first → other ≠ second → after other = before other) :
    (∑ other ∈ holders, after other) + (before first + before second) =
      (∑ other ∈ holders, before other) + (after first + after second) := by
  have inner : second ∈ holders.erase first := Finset.mem_erase.mpr ⟨ne.symm, secondMember⟩
  have rest : ∑ other ∈ (holders.erase first).erase second, after other =
      ∑ other ∈ (holders.erase first).erase second, before other := by
    refine Finset.sum_congr rfl fun other inside => ?_
    have outside := Finset.mem_erase.mp inside
    exact same other (Finset.ne_of_mem_erase outside.2) outside.1
  have afterOuter := Finset.add_sum_erase holders after firstMember
  have beforeOuter := Finset.add_sum_erase holders before firstMember
  have afterInner := Finset.add_sum_erase (holders.erase first) after inner
  have beforeInner := Finset.add_sum_erase (holders.erase first) before inner
  omega

theorem add_le_sum (firstMember : first ∈ holders)
    (secondMember : second ∈ holders) (ne : first ≠ second) :
    before first + before second ≤ ∑ other ∈ holders, before other := by
  have inner : second ∈ holders.erase first := Finset.mem_erase.mpr ⟨ne.symm, secondMember⟩
  have outer := Finset.add_sum_erase holders before firstMember
  have single := Finset.single_le_sum (fun other _ => Nat.zero_le (before other)) inner
  omega

omit [DecidableEq α] in
theorem list_sum_eq_iff {entries : List α} (below : ∀ entry ∈ entries, before entry ≤ after entry) :
    (entries.map before).sum = (entries.map after).sum ↔
      ∀ entry ∈ entries, before entry = after entry := by
  induction entries with
  | nil => simp
  | cons first rest ih =>
    have firstBelow := below first List.mem_cons_self
    have restBelow : (rest.map before).sum ≤ (rest.map after).sum :=
      List.sum_le_sum fun entry mem => below entry (List.mem_cons_of_mem _ mem)
    have tail := ih fun entry mem => below entry (List.mem_cons_of_mem _ mem)
    rw [List.map_cons, List.map_cons, List.sum_cons, List.sum_cons, List.forall_mem_cons, ← tail]
    omega

end Totals
