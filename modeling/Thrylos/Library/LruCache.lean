import Mathlib.Data.List.Nodup
import Mathlib.Data.List.Basic

/-!
A least-recently-used cache of values that carry their own key, most recent first. `evictions`
counts the insertions that dropped the oldest entry.
-/

variable {κ ν : Type}

structure LruCache [DecidableEq κ] (key : ν → κ) where
  capacity : Nat
  entries : List ν
  evictions : Nat
  positive : 0 < capacity
  distinct : (entries.map key).Nodup
  bounded : entries.length ≤ capacity

namespace LruCache

variable [DecidableEq κ] {key : ν → κ}

def new (capacity : Nat) (positive : 0 < capacity) : LruCache key where
  capacity := capacity
  entries := []
  evictions := 0
  positive := positive
  distinct := List.nodup_nil
  bounded := Nat.zero_le _

section

variable (cache : LruCache key)

def peek (wanted : κ) : Option ν :=
  cache.entries.find? (fun value => decide (key value = wanted))

def keys : List κ := cache.entries.map key

def promoted (value : ν) : List ν :=
  value :: cache.entries.filter (fun entry => decide (key entry ≠ key value))

theorem promoted_distinct (value : ν) : ((cache.promoted value).map key).Nodup := by
  rw [promoted, List.map_cons, List.nodup_cons]
  refine ⟨by simp, (List.Sublist.map key List.filter_sublist).nodup cache.distinct⟩

theorem promoted_find? (value : ν) (wanted : κ) :
    (cache.promoted value).find? (fun entry => decide (key entry = wanted)) =
      if key value = wanted then some value else cache.peek wanted := by
  unfold promoted
  by_cases same : key value = wanted
  · simp [same]
  · simp only [List.find?_cons, same, decide_false, if_false, List.find?_filter, peek]
    congr 1
    funext entry
    by_cases hit : key entry = wanted <;> simp [hit, Ne.symm same]

theorem promoted_length_le (value : ν) :
    (cache.promoted value).length ≤ cache.entries.length + 1 := by
  simpa [promoted] using List.length_filter_le _ cache.entries

def touch (wanted : κ) : LruCache key :=
  match found : cache.peek wanted with
  | none => cache
  | some value =>
    { cache with
      entries := cache.promoted value
      distinct := cache.promoted_distinct value
      bounded := by
        have mem : value ∈ cache.entries := List.mem_of_find?_eq_some found
        have shorter : (cache.entries.filter
            (fun entry => decide (key entry ≠ key value))).length < cache.entries.length :=
          List.length_filter_lt_length_iff_exists.mpr ⟨value, mem, by simp⟩
        have bounded := cache.bounded
        simp only [promoted, List.length_cons]
        omega }

/-- Inserts at the front. An insertion that overfills the cache drops the oldest entry. -/
def add (value : ν) : LruCache key :=
  if full : cache.capacity < (cache.promoted value).length then
    { cache with
      entries := (cache.promoted value).dropLast
      evictions := cache.evictions + 1
      distinct := (List.Sublist.map key (List.dropLast_sublist _)).nodup
        (cache.promoted_distinct value)
      bounded := by
        have bounded := cache.bounded
        have length := cache.promoted_length_le value
        rw [List.length_dropLast]
        omega }
  else
    { cache with
      entries := cache.promoted value
      distinct := cache.promoted_distinct value
      bounded := Nat.le_of_not_lt full }

/-- Writes through a reference to a cached value: the entry changes where it stands, and its age
does not. -/
def write (value : ν) : LruCache key :=
  { cache with
    entries := cache.entries.map fun entry => if key entry = key value then value else entry
    distinct := by
      have keysSame : (cache.entries.map fun entry =>
          if key entry = key value then value else entry).map key = cache.entries.map key := by
        rw [List.map_map]
        refine List.map_congr_left fun entry _ => ?_
        by_cases same : key entry = key value <;> simp [same]
      rw [keysSame]
      exact cache.distinct
    bounded := by simpa using cache.bounded }

end

variable {cache : LruCache key} {wanted : κ} {value : ν}

theorem peek_key (found : cache.peek wanted = some value) : key value = wanted := by
  simpa using List.find?_some found

theorem peek_eq_none : cache.peek wanted = none ↔ wanted ∉ cache.keys := by
  simp [peek, keys]

section

variable (cache : LruCache key)

@[simp] theorem peek_touch (touched wanted : κ) :
    (cache.touch touched).peek wanted = cache.peek wanted := by
  unfold touch
  split
  · rfl
  · rename_i value found
    refine (cache.promoted_find? value wanted).trans ?_
    split_ifs with same
    · rw [← found, ← peek_key found, same]
    · rfl

@[simp] theorem evictions_touch (touched : κ) :
    (cache.touch touched).evictions = cache.evictions := by
  unfold touch
  split <;> rfl

@[simp] theorem peek_write : (cache.write value).peek wanted =
      if key value = wanted then (cache.peek wanted).map (fun _ => value)
      else cache.peek wanted := by
  obtain ⟨_, entries, _, _, distinct, bounded⟩ := cache
  simp only [peek, write]
  clear distinct bounded
  induction entries with
  | nil => simp
  | cons head _ ih =>
    rw [List.map_cons, List.find?_cons, List.find?_cons, ih]
    by_cases replaced : key head = key value
    · by_cases same : key value = wanted <;> simp [replaced, same]
    · by_cases hit : key head = wanted
      · have other : key value ≠ wanted := fun same => replaced (hit.trans same.symm)
        simp [hit, other, Ne.symm other]
      · simp [replaced, hit]

theorem write_write {first second : ν} (same : key first = key second) :
    (cache.write first).write second = cache.write second := by
  simp only [write, List.map_map, mk.injEq, true_and, and_true]
  refine List.map_congr_left fun entry _ => ?_
  by_cases hit : key entry = key second <;> simp [hit, same]

theorem evictions_add_le : cache.evictions ≤ (cache.add value).evictions := by
  unfold add
  split
  · exact Nat.le_succ _
  · exact Nat.le_refl _

theorem peek_add (kept : (cache.add value).evictions = cache.evictions) :
    (cache.add value).peek wanted =
      if key value = wanted then some value else cache.peek wanted := by
  unfold add at kept ⊢
  split at kept
  · simp at kept
  · rename_i roomy
    rw [dif_neg roomy]
    exact cache.promoted_find? value wanted

@[simp] theorem peek_add_self : (cache.add value).peek (key value) = some value := by
  unfold add
  split
  · rename_i full
    have positive := cache.positive
    rw [promoted, List.length_cons] at full
    have older : cache.entries.filter (fun entry => decide (key entry ≠ key value)) ≠ [] :=
      List.ne_nil_of_length_pos (by omega)
    simp only [peek, promoted]
    rw [List.dropLast_cons_of_ne_nil older]
    simp
  · exact (cache.promoted_find? value (key value)).trans (if_pos rfl)

end

theorem peek_add_other {found : ν}
    (ne : key value ≠ wanted) (present : (cache.add value).peek wanted = some found) :
    cache.peek wanted = some found := by
  have promotedFind := (cache.promoted_find? value wanted).trans (if_neg ne)
  rw [← promotedFind]
  unfold add at present
  split at present
  · exact (List.dropLast_prefix _).find?_eq_some present
  · exact present

end LruCache
