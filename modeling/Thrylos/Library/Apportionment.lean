import Mathlib.Algebra.GroupWithZero.Nat
import Mathlib.Data.List.Sort
import Mathlib.Algebra.BigOperators.Group.List.Basic
import Mathlib.Algebra.Order.BigOperators.Group.List

/-!
Apportionment by largest remainders: every key gets its share rounded down, and what is left goes
one by one to the keys whose shares lost the most, the smaller key first among equals.
-/

namespace Apportionment

variable {κ : Type}

structure Allocation (κ : Type) where
  key : κ
  quota : Nat
  remainder : Nat
  deriving DecidableEq

def totalWeight (weights : List (κ × Nat)) : Nat := (weights.map Prod.snd).sum

def share (total slots : Nat) (weight : κ × Nat) : Allocation κ :=
  ⟨weight.1, weight.2 * slots / total, weight.2 * slots % total⟩

def shares (weights : List (κ × Nat)) (slots : Nat) : List (Allocation κ) :=
  weights.map (share (totalWeight weights) slots)

def Ranked [LinearOrder κ] (first second : Allocation κ) : Prop :=
  second.remainder < first.remainder ∨ first.remainder = second.remainder ∧ first.key ≤ second.key

instance [LinearOrder κ] : DecidableRel (@Ranked κ _) := fun _ _ => inferInstanceAs (Decidable (_ ∨ _))

def topUp : Nat → List (Allocation κ) → List (Allocation κ)
  | 0, allocations => allocations
  | _ + 1, [] => []
  | extra + 1, first :: rest => { first with quota := first.quota + 1 } :: topUp extra rest

def quotas (allocations : List (Allocation κ)) : Nat := (allocations.map Allocation.quota).sum

def allocate [LinearOrder κ] (weights : List (κ × Nat)) (slots : Nat) : List (Allocation κ) :=
  if slots = 0 ∨ totalWeight weights = 0 then []
  else
    let shared := shares weights slots
    (topUp (slots - quotas shared) (shared.insertionSort Ranked)).insertionSort
      fun first second => first.key ≤ second.key

def expand (allocations : List (Allocation κ)) : List κ :=
  allocations.flatMap fun allocation => List.replicate allocation.quota allocation.key

theorem totalWeight_perm {left right : List (κ × Nat)} (perm : left.Perm right) :
    totalWeight left = totalWeight right := (perm.map Prod.snd).sum_nat

theorem quotas_perm {left right : List (Allocation κ)} (perm : left.Perm right) :
    quotas left = quotas right := (perm.map Allocation.quota).sum_nat

theorem sum_div_mod (total slots : Nat) (weights : List (κ × Nat)) :
    total * quotas (weights.map (share total slots)) +
        ((weights.map (share total slots)).map Allocation.remainder).sum =
      totalWeight weights * slots := by
  induction weights with
  | nil => simp [quotas, totalWeight]
  | cons weight _ ih =>
    have whole := Nat.div_add_mod (weight.2 * slots) total
    simp only [quotas, totalWeight, List.map_cons, List.sum_cons, share, Nat.mul_add,
      Nat.add_mul] at ih ⊢
    omega

theorem sum_remainders_le (total slots : Nat) (positive : 0 < total) (weights : List (κ × Nat)) :
    ((weights.map (share total slots)).map Allocation.remainder).sum ≤ weights.length * total := by
  induction weights with
  | nil => simp
  | cons weight =>
    have small : (share total slots weight).remainder < total := Nat.mod_lt _ positive
    simp only [List.map_cons, List.sum_cons, List.length_cons, Nat.add_mul]
    omega

theorem remaining_le (weights : List (κ × Nat)) (slots : Nat) (positive : 0 < totalWeight weights) :
    quotas (shares weights slots) ≤ slots ∧
      slots - quotas (shares weights slots) ≤ weights.length := by
  have whole := sum_div_mod (totalWeight weights) slots weights
  have few := sum_remainders_le (totalWeight weights) slots positive weights
  change totalWeight weights * quotas (shares weights slots) + _ = _ at whole
  have below : quotas (shares weights slots) ≤ slots :=
    Nat.le_of_mul_le_mul_left (show _ ≤ totalWeight weights * slots by omega) positive
  refine ⟨below, Nat.le_of_mul_le_mul_left ?_ positive⟩
  rw [Nat.mul_sub, Nat.mul_comm _ weights.length]
  omega

theorem quotas_topUp (extra : Nat) (allocations : List (Allocation κ))
    (enough : extra ≤ allocations.length) :
    quotas (topUp extra allocations) = quotas allocations + extra := by
  induction extra generalizing allocations with
  | zero => rfl
  | succ _ ih =>
    cases allocations with
    | nil => simp at enough
    | cons _ rest =>
      have more := ih rest (by simpa using enough)
      simp only [quotas, topUp, List.map_cons, List.sum_cons] at more ⊢
      omega

theorem topUp_keys (extra : Nat) (allocations : List (Allocation κ)) :
    (topUp extra allocations).map Allocation.key = allocations.map Allocation.key := by
  induction extra generalizing allocations with
  | zero => rfl
  | succ _ ih =>
    cases allocations with
    | nil => rfl
    | cons => simp [topUp, ih]

theorem mem_topUp {extra : Nat} {allocations : List (Allocation κ)} {allocation : Allocation κ}
    (mem : allocation ∈ topUp extra allocations) :
    ∃ old ∈ allocations, allocation.key = old.key ∧ old.quota ≤ allocation.quota ∧
      allocation.quota ≤ old.quota + 1 := by
  induction extra generalizing allocations with
  | zero => exact ⟨allocation, mem, rfl, le_rfl, Nat.le_succ _⟩
  | succ _ ih =>
    cases allocations with
    | nil => cases mem
    | cons first =>
      rcases List.mem_cons.mp mem with rfl | deeper
      · exact ⟨first, List.mem_cons_self, rfl, Nat.le_succ _, le_rfl⟩
      · obtain ⟨old, found, same⟩ := ih deeper
        exact ⟨old, List.mem_cons_of_mem _ found, same⟩

theorem shares_keys (weights : List (κ × Nat)) (slots : Nat) :
    (shares weights slots).map Allocation.key = weights.map Prod.fst := by
  simp [shares, share, Function.comp_def]

section Allocate

variable [LinearOrder κ] {weights : List (κ × Nat)} {slots : Nat}

theorem allocate_perm_topUp (some_ : slots ≠ 0) (positive : totalWeight weights ≠ 0) :
    (allocate weights slots).Perm (topUp (slots - quotas (shares weights slots))
      ((shares weights slots).insertionSort Ranked)) := by
  unfold allocate
  rw [if_neg (not_or.mpr ⟨some_, positive⟩)]
  exact List.perm_insertionSort _ _

theorem allocate_keys (some_ : slots ≠ 0) (positive : totalWeight weights ≠ 0) :
    ((allocate weights slots).map Allocation.key).Perm (weights.map Prod.fst) := by
  refine ((allocate_perm_topUp some_ positive).map _).trans ?_
  rw [topUp_keys, ← shares_keys weights slots]
  exact (List.perm_insertionSort _ _).map _

theorem quotas_allocate (some_ : slots ≠ 0) (positive : totalWeight weights ≠ 0) :
    quotas (allocate weights slots) = slots := by
  obtain ⟨_, few⟩ := remaining_le weights slots (Nat.pos_of_ne_zero positive)
  have same : quotas ((shares weights slots).insertionSort Ranked) = quotas (shares weights slots) :=
    quotas_perm (List.perm_insertionSort _ _)
  rw [quotas_perm (allocate_perm_topUp some_ positive), quotas_topUp, same]
  · omega
  · rw [(List.perm_insertionSort _ _).length_eq, shares, List.length_map]
    exact few

theorem mem_allocate {allocation : Allocation κ} (mem : allocation ∈ allocate weights slots) :
    ∃ weight ∈ weights, allocation.key = weight.1 ∧
      weight.2 * slots / totalWeight weights ≤ allocation.quota ∧
      allocation.quota ≤ weight.2 * slots / totalWeight weights + 1 := by
  by_cases nothing : slots = 0 ∨ totalWeight weights = 0
  · rw [allocate, if_pos nothing] at mem
    cases mem
  obtain ⟨some_, positive⟩ := not_or.mp nothing
  obtain ⟨_, sorted, key, low, high⟩ :=
    mem_topUp ((allocate_perm_topUp some_ positive).mem_iff.mp mem)
  obtain ⟨weight, listed, rfl⟩ :=
    List.mem_map.mp ((List.perm_insertionSort _ _).mem_iff.mp sorted)
  exact ⟨weight, listed, key, low, high⟩

theorem insertionSort_ranked_eq {left right : List (Allocation κ)} (perm : left.Perm right)
    (distinct : (left.map Allocation.key).Nodup) :
    left.insertionSort Ranked = right.insertionSort Ranked := by
  have total : Std.Total (@Ranked κ _) := ⟨fun first second => by
    rcases lt_trichotomy first.remainder second.remainder with less | same | more
    · exact Or.inr (Or.inl less)
    · exact (le_total first.key second.key).imp (fun le => Or.inr ⟨same, le⟩)
        (fun le => Or.inr ⟨same.symm, le⟩)
    · exact Or.inl (Or.inl more)⟩
  have trans : IsTrans (Allocation κ) Ranked := ⟨fun first second third one other => by
    rcases one with less | ⟨same, le⟩ <;> rcases other with less' | ⟨same', le'⟩
    · exact Or.inl (less'.trans less)
    · exact Or.inl (same' ▸ less)
    · exact Or.inl (same ▸ less')
    · exact Or.inr ⟨same.trans same', le.trans le'⟩⟩
  have sorted := List.perm_insertionSort Ranked left
  have sortedToo := List.perm_insertionSort Ranked right
  refine List.Perm.eq_of_pairwise (fun first second mem member' one other => ?_)
    (List.pairwise_insertionSort Ranked left) (List.pairwise_insertionSort Ranked right)
    (sorted.trans (perm.trans sortedToo.symm))
  have key : first.key = second.key := by
    rcases one with less | ⟨same, le⟩ <;> rcases other with less' | ⟨same', le'⟩
    · omega
    · omega
    · omega
    · exact le_antisymm le le'
  exact List.inj_on_of_nodup_map distinct (sorted.mem_iff.mp mem)
    (perm.mem_iff.mpr (sortedToo.mem_iff.mp member')) key

theorem allocate_eq_of_perm {other : List (κ × Nat)} (perm : weights.Perm other)
    (distinct : (weights.map Prod.fst).Nodup) : allocate weights slots = allocate other slots := by
  have total := totalWeight_perm perm
  have shared : (shares weights slots).Perm (shares other slots) := by
    unfold shares
    rw [total]
    exact perm.map _
  have ranked := insertionSort_ranked_eq shared (by rwa [shares_keys])
  unfold allocate
  simp only [total, quotas_perm shared, ranked]

end Allocate

section Expand

variable {allocations : List (Allocation κ)} {weights : List (κ × Nat)} {slots : Nat}

theorem count_expand [BEq κ] [LawfulBEq κ] {allocation : Allocation κ}
    (distinct : (allocations.map Allocation.key).Nodup) (mem : allocation ∈ allocations) :
    (expand allocations).count allocation.key = allocation.quota := by
  induction allocations with
  | nil => cases mem
  | cons first rest ih =>
    obtain ⟨fresh, distinct⟩ := List.nodup_cons.mp distinct
    have absent {key : κ} (missing : key ∉ rest.map Allocation.key) :
        (expand rest).count key = 0 := by
      refine List.count_eq_zero.mpr fun found => ?_
      obtain ⟨other, listed, repeated⟩ := List.mem_flatMap.mp found
      exact missing (List.mem_map.mpr ⟨other, listed, (List.eq_of_mem_replicate repeated).symm⟩)
    have split : expand (first :: rest) = List.replicate first.quota first.key ++ expand rest := rfl
    rw [split, List.count_append]
    rcases List.mem_cons.mp mem with rfl | deeper
    · rw [List.count_replicate_self, absent fresh, Nat.add_zero]
    · have apart : first.key ≠ allocation.key := fun same =>
        fresh (same ▸ List.mem_map_of_mem deeper)
      rw [ih distinct deeper, List.count_replicate, if_neg (by simpa using apart), Nat.zero_add]

theorem expand_length : (expand allocations).length = quotas allocations := by
  simp [expand, quotas, List.length_flatMap]

theorem mem_expand {key : κ} (found : key ∈ expand allocations) :
    ∃ allocation ∈ allocations, allocation.key = key ∧ allocation.quota ≠ 0 := by
  obtain ⟨allocation, listed, repeated⟩ := List.mem_flatMap.mp found
  obtain ⟨positive, same⟩ := List.mem_replicate.mp repeated
  exact ⟨allocation, listed, same.symm, positive⟩

structure Apportioned [BEq κ] (weights : List (κ × Nat)) (slots : Nat) (items : List κ) : Prop where
  length : items.length = slots
  keys : ∀ key ∈ items, ∃ weight ∈ weights, weight.1 = key
  low : ∀ weight ∈ weights, weight.2 * slots / totalWeight weights ≤ items.count weight.1
  high : ∀ weight ∈ weights, items.count weight.1 ≤ weight.2 * slots / totalWeight weights + 1

theorem Apportioned.of_perm [BEq κ] {others : List (κ × Nat)}
    {items rearranged : List κ} (apportioned : Apportioned weights slots items)
    (same : weights.Perm others) (perm : rearranged.Perm items) :
    Apportioned others slots rearranged where
  length := perm.length_eq.trans apportioned.length
  keys key mem := by
    obtain ⟨weight, listed, own⟩ := apportioned.keys key (perm.mem_iff.mp mem)
    exact ⟨weight, same.mem_iff.mp listed, own⟩
  low weight listed := by
    rw [← totalWeight_perm same, perm.count_eq]
    exact apportioned.low weight (same.mem_iff.mpr listed)
  high weight listed := by
    rw [← totalWeight_perm same, perm.count_eq]
    exact apportioned.high weight (same.mem_iff.mpr listed)

theorem apportioned_allocate [LinearOrder κ] [BEq κ] [LawfulBEq κ]
    (distinct : (weights.map Prod.fst).Nodup) (some_ : slots ≠ 0)
    (positive : totalWeight weights ≠ 0) :
    Apportioned weights slots (expand (allocate weights slots)) := by
  have keys := allocate_keys some_ positive
  have distinctKeys : ((allocate weights slots).map Allocation.key).Nodup := keys.nodup_iff.mpr distinct
  -- The allocation of a key is one whose bounds are those of the key's weight.
  have bounds (weight : κ × Nat) (listed : weight ∈ weights) :
      weight.2 * slots / totalWeight weights ≤ (expand (allocate weights slots)).count weight.1 ∧
        (expand (allocate weights slots)).count weight.1 ≤
          weight.2 * slots / totalWeight weights + 1 := by
    obtain ⟨allocation, mem, own⟩ :=
      List.mem_map.mp (keys.mem_iff.mpr (List.mem_map_of_mem listed))
    obtain ⟨other, listedToo, key, low, high⟩ := mem_allocate mem
    obtain rfl : weight = other :=
      List.inj_on_of_nodup_map distinct listed listedToo (own.symm.trans key)
    rw [← own, count_expand distinctKeys mem]
    exact ⟨low, high⟩
  refine ⟨?_, fun key mem => ?_, fun weight listed => (bounds weight listed).1,
    fun weight listed => (bounds weight listed).2⟩
  · rw [expand_length, quotas_allocate some_ positive]
  · obtain ⟨_, listed, rfl, _⟩ := mem_expand mem
    exact List.mem_map.mp (keys.mem_iff.mp (List.mem_map_of_mem listed))

end Expand

end Apportionment
