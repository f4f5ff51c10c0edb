import Thrylos.Library.KeyedMap

/-!
Maps under the keys of a map, where a missing one counts as empty and an empty one may be dropped.
-/

namespace KeyedMap

variable {κ μ ν : Type} [LinearOrder κ] [LinearOrder μ] {key : ν → κ}

section

variable {map : KeyedMap key} {value other : ν} {wanted unwanted : κ}

theorem eq_of_key (mem : value ∈ map.entries) (listed : other ∈ map.entries)
    (same : key other = key value) : other = value := by
  rw [mem_entries_iff] at mem listed
  rw [same, mem] at listed
  exact (Option.some.inj listed).symm

theorem mem_erase_of_mem (mem : value ∈ map.entries) :
    other ∈ (map.erase (key value)).entries ↔ other ∈ map.entries ∧ other ≠ value := by
  rw [mem_erase_iff]
  refine and_congr_right fun listed => not_congr ⟨eq_of_key mem listed, ?_⟩
  rintro rfl
  rfl

theorem mem_insert_of_absent (absent : map.find? (key value) = none) :
    other ∈ (map.insert value).entries ↔ other = value ∨ other ∈ map.entries := by
  rw [(insert_perm map value).mem_iff, List.mem_cons, erase_of_absent absent]

theorem mem_keys_erase : wanted ∈ (map.erase unwanted).keys ↔ wanted ∈ map.keys ∧ wanted ≠ unwanted := by
  rw [← not_iff_not, ← find?_eq_none, find?_erase]
  by_cases same : unwanted = wanted
  · simp [same]
  · simp [Ne.symm same, find?_eq_none]

theorem mem_keys_insert : wanted ∈ (map.insert value).keys ↔ wanted = key value ∨ wanted ∈ map.keys := by
  rw [← not_iff_not, ← find?_eq_none, find?_insert]
  by_cases same : key value = wanted
  · simp [same]
  · simp [same, Ne.symm same, find?_eq_none]

theorem length_erase_lt (mem : value ∈ map.entries) :
    (map.erase (key value)).entries.length < map.entries.length :=
  List.length_filter_lt_length_iff_exists.mpr ⟨value, mem, by simp⟩

theorem length_insert_le (map : KeyedMap key) (value : ν) :
    (map.insert value).entries.length ≤ map.entries.length + 1 := by
  rw [(insert_perm map value).length_eq, List.length_cons]
  exact Nat.succ_le_succ (List.length_filter_le _ _)

end

abbrev Nested (μ : Type) [LinearOrder μ] (key : ν → κ) :=
  KeyedMap (Prod.fst : μ × KeyedMap key → μ)

namespace Nested

variable {map : Nested μ key} {outer wanted : μ} {entries : KeyedMap key}

def inner (map : Nested μ key) (outer : μ) : KeyedMap key :=
  match map.find? outer with
  | none => empty
  | some (_, entries) => entries

/-- Stores what is under a key, or drops the key when that is empty. -/
def store (map : Nested μ key) (outer : μ) (entries : KeyedMap key) : Nested μ key :=
  if entries.entries = [] then map.erase outer else map.insert (outer, entries)

def remove (map : Nested μ key) (outer : μ) (unwanted : κ) : Nested μ key :=
  match map.find? outer with
  | none => map
  | some (_, entries) => store map outer (entries.erase unwanted)

theorem inner_of_find? (found : map.find? outer = some (wanted, entries)) :
    inner map outer = entries := by
  rw [inner, found]

theorem inner_insert [DecidableEq μ] :
    inner (map.insert (outer, entries)) = Function.update (inner map) outer entries := by
  funext wanted
  unfold inner
  rw [find?_insert, Function.update_apply]
  by_cases same : wanted = outer
  · simp [same]
  · simp [same, Ne.symm same]

theorem inner_store [DecidableEq μ] :
    inner (store map outer entries) = Function.update (inner map) outer entries := by
  unfold store
  by_cases emptied : entries.entries = []
  · have blank : entries = empty := eq_of_entries emptied
    rw [if_pos emptied, blank]
    funext wanted
    unfold inner
    rw [find?_erase, Function.update_apply]
    by_cases same : wanted = outer <;> simp [same]
  · rw [if_neg emptied, inner_insert]

theorem inner_remove [DecidableEq μ] (unwanted : κ) : inner (remove map outer unwanted) =
      Function.update (inner map) outer ((inner map outer).erase unwanted) := by
  unfold remove
  split
  · rename_i missing
    have blank : inner map outer = empty := by rw [inner, missing]
    have unchanged : (inner map outer).erase unwanted = inner map outer := by
      rw [blank]
      rfl
    rw [unchanged, Function.update_eq_self]
  · rename_i found
    rw [inner_store, inner_of_find? found]

theorem find?_remove_of_ne (unwanted : κ) (ne : outer ≠ wanted) :
    (remove map outer unwanted).find? wanted = map.find? wanted := by
  unfold remove store
  split
  · rfl
  · split_ifs <;> simp [ne, Ne.symm ne]

theorem find?_remove_eq_none (unwanted : κ) : (remove map outer unwanted).find? outer = none ↔
      ((inner map outer).erase unwanted).entries = [] := by
  unfold remove
  split
  · rename_i missing
    simp [missing, inner, erase, empty]
  · rename_i found
    rw [inner_of_find? found, store]
    split_ifs with emptied <;> simp [emptied]

end Nested

end KeyedMap
