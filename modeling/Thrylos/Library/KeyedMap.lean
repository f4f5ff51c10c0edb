import Mathlib.Algebra.GroupWithZero.Nat
import Mathlib.Order.Defs.LinearOrder
import Mathlib.Data.List.Sort
import Mathlib.Data.List.Perm.Basic

/-!
Finite maps whose values carry their own key, kept as a list in strictly increasing key order. Two
maps with the same lookups are equal.
-/

variable {κ ν : Type}

structure KeyedMap [LinearOrder κ] (key : ν → κ) where
  entries : List ν
  sorted : entries.Pairwise (fun first second => key first < key second)

namespace KeyedMap

variable [LinearOrder κ] {key : ν → κ}

instance [DecidableEq ν] : DecidableEq (KeyedMap key) := fun left right =>
  decidable_of_iff (left.entries = right.entries) (by
    cases left
    cases right
    simp)

def empty : KeyedMap key := ⟨[], List.Pairwise.nil⟩

def find? (map : KeyedMap key) (wanted : κ) : Option ν :=
  map.entries.find? (fun value => decide (key value = wanted))

def keys (map : KeyedMap key) : List κ := map.entries.map key

def insertEntry (key : ν → κ) (value : ν) : List ν → List ν
  | [] => [value]
  | head :: rest =>
    if key value < key head then value :: head :: rest
    else if key value = key head then value :: rest
    else head :: insertEntry key value rest

variable {value : ν} {entries updated values : List ν} {map left right : KeyedMap key} {wanted : κ}

theorem mem_insertEntry {entry : ν}
    (mem : entry ∈ insertEntry key value entries) : entry = value ∨ entry ∈ entries := by
  induction entries with
  | nil => simpa [insertEntry] using mem
  | cons _ _ ih =>
    simp only [insertEntry] at mem
    split_ifs at mem
    · simpa using mem
    · rcases List.mem_cons.mp mem with same | old
      · exact Or.inl same
      · exact Or.inr (List.mem_cons_of_mem _ old)
    · rcases List.mem_cons.mp mem with same | deeper
      · exact Or.inr (by simp [same])
      · exact (ih deeper).imp_right (List.mem_cons_of_mem _)

theorem insertEntry_sorted
    (sorted : entries.Pairwise (fun first second => key first < key second)) :
    (insertEntry key value entries).Pairwise (fun first second => key first < key second) := by
  induction entries with
  | nil => simp [insertEntry]
  | cons head rest ih =>
    have below : ∀ entry ∈ rest, key head < key entry := fun entry =>
      List.rel_of_pairwise_cons sorted
    simp only [insertEntry]
    split_ifs with smaller same
    · refine sorted.cons ?_
      intro entry mem
      rcases List.mem_cons.mp mem with rfl | old
      · exact smaller
      · exact smaller.trans (below entry old)
    · exact sorted.of_cons.cons fun entry mem => same ▸ below entry mem
    · refine (ih sorted.of_cons).cons ?_
      intro entry mem
      rcases mem_insertEntry mem with rfl | old
      · exact lt_of_le_of_ne (not_lt.mp smaller) (Ne.symm same)
      · exact below entry old

def insert (map : KeyedMap key) (value : ν) : KeyedMap key :=
  ⟨insertEntry key value map.entries, insertEntry_sorted map.sorted⟩

def erase (map : KeyedMap key) (unwanted : κ) : KeyedMap key :=
  ⟨map.entries.filter (fun value => decide (key value ≠ unwanted)), map.sorted.filter _⟩

/-- Keeps the entries an update accepts, in place. The update may not move an entry to another key. -/
def filterMap (map : KeyedMap key) (update : ν → Option ν)
    (keeps : ∀ value updated, update value = some updated → key updated = key value) :
    KeyedMap key :=
  ⟨map.entries.filterMap update, by
    refine List.pairwise_filterMap.mpr (map.sorted.imp ?_)
    intro first second below firstUpdated firstEq secondUpdated secondEq
    rw [keeps first firstUpdated firstEq, keeps second secondUpdated secondEq]
    exact below⟩

theorem find?_key (found : map.find? wanted = some value) : key value = wanted := by
  simpa using List.find?_some found

theorem find?_mem (found : map.find? wanted = some value) : value ∈ map.entries :=
  List.mem_of_find?_eq_some found

@[simp] theorem find?_empty (wanted : κ) : (empty : KeyedMap key).find? wanted = none := rfl

theorem find?_eq_none : map.find? wanted = none ↔ wanted ∉ map.keys := by
  simp [find?, keys]

theorem insertEntry_find? :
    (insertEntry key value entries).find? (fun entry => decide (key entry = wanted)) =
      if key value = wanted then some value
      else entries.find? (fun entry => decide (key entry = wanted)) := by
  induction entries with
  | nil => by_cases same : key value = wanted <;> simp [insertEntry, same]
  | cons head _ ih =>
    by_cases same : key value = wanted
    · simp only [insertEntry, same, if_true]
      split_ifs with smaller replaced
      · simp [same]
      · simp [same]
      · simp [Ne.symm replaced, ih, same]
    · simp only [insertEntry, same, if_false]
      split_ifs with smaller replaced
      · simp [same]
      · simp [same, replaced ▸ same]
      · by_cases hit : key head = wanted <;> simp [hit, ih, same]

@[simp] theorem find?_insert (map : KeyedMap key) (value : ν) (wanted : κ) :
    (map.insert value).find? wanted =
      if key value = wanted then some value else map.find? wanted :=
  insertEntry_find?

@[simp] theorem find?_erase (unwanted wanted : κ) : (map.erase unwanted).find? wanted =
      if wanted = unwanted then none else map.find? wanted := by
  unfold find? erase
  rw [List.find?_filter]
  split_ifs with same
  · subst same
    simp
  · congr 1
    funext value
    by_cases hit : key value = wanted <;> simp [hit, same]

theorem find?_foldl_erase (unwanted : List κ) :
    (unwanted.foldl erase map).find? wanted = if wanted ∈ unwanted then none else map.find? wanted := by
  induction unwanted generalizing map with
  | nil => simp
  | cons first rest ih =>
    rw [List.foldl_cons, ih, find?_erase]
    by_cases later : wanted ∈ rest
    · simp [later]
    · by_cases same : wanted = first <;> simp [later, same]

theorem find?_erase_keys (drop : κ → Bool) : ((map.keys.filter drop).foldl erase map).find? wanted =
      if drop wanted then none else map.find? wanted := by
  rw [find?_foldl_erase]
  by_cases dropped : drop wanted = true
  · by_cases present : wanted ∈ map.keys
    · simp [dropped, present]
    · simp [find?_eq_none.mpr present]
  · simp [dropped]

theorem mem_entries_iff (map : KeyedMap key) (value : ν) :
    value ∈ map.entries ↔ map.find? (key value) = some value := by
  refine ⟨fun mem => ?_, find?_mem⟩
  obtain ⟨entries, sorted⟩ := map
  simp only [find?] at mem ⊢
  induction entries with
  | nil => simp at mem
  | cons head _ ih =>
    rcases List.mem_cons.mp mem with rfl | old
    · simp
    · have below : key head < key value := List.rel_of_pairwise_cons sorted old
      simpa [List.find?_cons, below.ne] using ih sorted.of_cons old

theorem entries_nodup (map : KeyedMap key) : map.entries.Nodup :=
  map.sorted.imp fun below equal => below.ne (congrArg key equal)

theorem keys_nodup (map : KeyedMap key) : map.keys.Nodup :=
  List.pairwise_map.mpr (map.sorted.imp fun below => below.ne)

theorem eq_of_entries (same : left.entries = right.entries) : left = right := by
  cases left
  cases right
  cases same
  rfl

theorem ext_find? (same : ∀ wanted, left.find? wanted = right.find? wanted) : left = right := by
  have members : ∀ value, value ∈ left.entries ↔ value ∈ right.entries := fun value => by
    rw [mem_entries_iff, mem_entries_iff, same]
  have permuted : left.entries.Perm right.entries :=
    (List.perm_ext_iff_of_nodup left.entries_nodup right.entries_nodup).mpr members
  exact eq_of_entries (List.Perm.eq_of_pairwise
    (fun first second _ _ below above => absurd below above.not_gt) left.sorted right.sorted permuted)

/-- `base` with the entries of `upper` in place of those it has under the same keys. -/
def merge (base upper : KeyedMap key) : KeyedMap key :=
  upper.entries.foldr (fun value map => map.insert value) base

theorem foldr_insert_find? (base : KeyedMap key) :
    (entries.foldr (fun value map => map.insert value) base).find? wanted =
      (entries.find? (fun value => decide (key value = wanted))).or (base.find? wanted) := by
  induction entries with
  | nil => rfl
  | cons head _ ih =>
    rw [List.foldr_cons, find?_insert, List.find?_cons]
    by_cases hit : key head = wanted <;> simp [hit, ih]

theorem find?_merge (base upper : KeyedMap key) :
    (base.merge upper).find? wanted = (upper.find? wanted).or (base.find? wanted) :=
  foldr_insert_find? base

theorem insert_of_find? (found : map.find? (key value) = some value) : map.insert value = map := by
  refine ext_find? fun wanted => ?_
  rw [find?_insert]
  split_ifs with same
  · rw [← same, found]
  · rfl

theorem insert_insert {first second : ν} (same : key first = key second) :
    (map.insert first).insert second = map.insert second := by
  refine ext_find? fun wanted => ?_
  simp only [find?_insert, same]
  split_ifs <;> rfl

theorem find?_filterMap (update : ν → Option ν)
    (keeps : ∀ value updated, update value = some updated → key updated = key value) :
    (map.filterMap update keeps).find? wanted = (map.find? wanted).bind update := by
  cases found : map.find? wanted with
  | none =>
    rw [find?_eq_none] at found
    rw [Option.bind_none, find?_eq_none]
    intro mem
    obtain ⟨updated, updatedMem, updatedKey⟩ := List.mem_map.mp mem
    obtain ⟨value, valueMem, ok⟩ := List.mem_filterMap.mp updatedMem
    exact found (List.mem_map.mpr ⟨value, valueMem, (keeps value updated ok) ▸ updatedKey⟩)
  | some value =>
    have valueKey := find?_key found
    rw [Option.bind_some]
    cases ok : update value with
    | some updated =>
      have updatedKey : key updated = wanted := (keeps value updated ok).trans valueKey
      have updatedMem : updated ∈ (map.filterMap update keeps).entries :=
        List.mem_filterMap.mpr ⟨value, find?_mem found, ok⟩
      rwa [mem_entries_iff, updatedKey] at updatedMem
    | none =>
    rw [find?_eq_none]
    intro mem
    obtain ⟨updated, updatedMem, updatedKey⟩ := List.mem_map.mp mem
    obtain ⟨other, otherMem, otherAccepted⟩ := List.mem_filterMap.mp updatedMem
    have otherKey : key other = wanted := (keeps other updated otherAccepted) ▸ updatedKey
    rw [mem_entries_iff, otherKey, found] at otherMem
    cases Option.some.inj otherMem
    simp [ok] at otherAccepted

def updateEntries {ε : Type} (update : ν → Except ε ν) : List ν → Except ε (List ν)
  | [] => .ok []
  | head :: rest =>
    match update head with
    | .error err => .error err
    | .ok updated =>
      match updateEntries update rest with
      | .error err => .error err
      | .ok others => .ok (updated :: others)

theorem updateEntries_ok_iff {ε : Type} {update : ν → Except ε ν} :
    updateEntries update entries = .ok updated ↔
      List.Forall₂ (fun value result => update value = .ok result) entries updated := by
  induction entries generalizing updated with
  | nil => cases updated <;> simp [updateEntries]
  | cons head rest ih =>
    simp only [updateEntries]
    cases first : update head with
    | error => cases updated <;> simp [first]
    | ok =>
    cases tail : updateEntries update rest with
    | error =>
      refine ⟨fun equal => (by simp at equal), fun related => ?_⟩
      cases related with
      | cons _ restRelated => simp [ih.mpr restRelated] at tail
    | ok =>
    have restRelated := ih.mp tail
    constructor
    · intro equal
      cases equal
      exact List.Forall₂.cons first restRelated
    · intro related
      cases related with
      | cons headRelated otherRelated =>
      rw [first] at headRelated
      rw [ih.mpr otherRelated] at tail
      cases headRelated
      cases tail
      rfl

omit [LinearOrder κ] in
theorem updateEntries_keys {ε : Type} {update : ν → Except ε ν}
    (keeps : ∀ value updated, update value = .ok updated → key updated = key value)
    (ok : updateEntries update entries = .ok updated) :
    updated.map key = entries.map key := by
  have related := updateEntries_ok_iff.mp ok
  clear ok
  induction related with
  | nil => rfl
  | cons headRelated _ ih => rw [List.map_cons, List.map_cons, keeps _ _ headRelated, ih]

def update {ε : Type} (map : KeyedMap key) (step : ν → Except ε ν)
    (keeps : ∀ value updated, step value = .ok updated → key updated = key value) :
    Except ε (KeyedMap key) :=
  match ok : updateEntries step map.entries with
  | .error err => .error err
  | .ok entries => .ok ⟨entries, by
      rw [← List.pairwise_map, updateEntries_keys keeps ok, List.pairwise_map]
      exact map.sorted⟩

theorem update_ok_iff {ε : Type} {updated : KeyedMap key} {step : ν → Except ε ν}
    {keeps : ∀ value result, step value = .ok result → key result = key value} :
    map.update step keeps = .ok updated ↔
      List.Forall₂ (fun value result => step value = .ok result) map.entries updated.entries := by
  rw [← updateEntries_ok_iff]
  unfold update
  split
  · rename_i err refused
    simp [refused]
  · rename_i entries ok
    obtain ⟨_, _⟩ := updated
    simp [ok]

theorem exists_update {ε : Type} {step : ν → Except ε ν}
    {keeps : ∀ value result, step value = .ok result → key result = key value}
    (accepts : ∀ entry ∈ map.entries, ∃ result, step entry = .ok result) :
    ∃ updated, map.update step keeps = .ok updated := by
  have along (entries : List ν) (accepts : ∀ entry ∈ entries, ∃ result, step entry = .ok result) :
      ∃ updated, updateEntries step entries = .ok updated := by
    induction entries with
    | nil => exact ⟨[], rfl⟩
    | cons head rest ih =>
      obtain ⟨result, first⟩ := accepts head List.mem_cons_self
      obtain ⟨others, tail⟩ := ih fun entry mem => accepts entry (List.mem_cons_of_mem _ mem)
      exact ⟨result :: others, by simp only [updateEntries, first, tail]⟩
  obtain ⟨_, ok⟩ := along map.entries accepts
  unfold update
  split
  · rename_i err refused
    cases ok.symm.trans refused
  · exact ⟨_, rfl⟩

theorem update_self_iff {ε : Type} {step : ν → Except ε ν}
    {keeps : ∀ value result, step value = .ok result → key result = key value} :
    map.update step keeps = .ok map ↔ ∀ entry ∈ map.entries, step entry = .ok entry := by
  rw [update_ok_iff, List.forall₂_same]

theorem mem_erase_iff (map : KeyedMap key) (unwanted : κ) (value : ν) :
    value ∈ (map.erase unwanted).entries ↔ value ∈ map.entries ∧ key value ≠ unwanted := by
  simp [erase]

theorem erase_of_absent {unwanted : κ} (absent : map.find? unwanted = none) :
    map.erase unwanted = map := by
  refine ext_find? fun wanted => ?_
  rw [find?_erase]
  split_ifs with same
  · rw [same, absent]
  · rfl

theorem insert_perm (map : KeyedMap key) (value : ν) :
    (map.insert value).entries.Perm (value :: (map.erase (key value)).entries) := by
  have fresh : value ∉ (map.erase (key value)).entries := by simp [mem_erase_iff]
  refine (List.perm_ext_iff_of_nodup (entries_nodup _)
    (List.nodup_cons.mpr ⟨fresh, entries_nodup _⟩)).mpr fun entry => ?_
  rw [List.mem_cons, mem_entries_iff, mem_erase_iff, mem_entries_iff, find?_insert]
  by_cases same : key value = key entry
  · simp [same, eq_comm]
  · have ne : entry ≠ value := fun equal => same (by rw [equal])
    simp [same, ne, Ne.symm same]

theorem eq_of_perm (perm : left.entries.Perm right.entries) : left = right :=
  eq_of_entries (perm.eq_of_pairwise
    (fun _ _ _ _ below above => absurd (below.trans above) (lt_irrefl _)) left.sorted right.sorted)

/-- The map a list of values makes, a later one replacing an earlier one of its key. -/
def ofList (values : List ν) : KeyedMap key := values.foldl insert empty

theorem foldl_insert_perm (distinct : (values.map key).Nodup) :
    ∀ map : KeyedMap key, (∀ value ∈ values, map.find? (key value) = none) →
      (values.foldl insert map).entries.Perm (values ++ map.entries) := by
  induction values with
  | nil => exact fun map _ => List.Perm.refl map.entries
  | cons first rest ih =>
    obtain ⟨fresh, distinct⟩ := List.nodup_cons.mp distinct
    intro map absent
    have missing := absent first List.mem_cons_self
    have apart : ∀ value ∈ rest, (map.insert first).find? (key value) = none := by
      intro value mem
      have other : key first ≠ key value := fun same =>
        fresh (same ▸ List.mem_map_of_mem mem)
      rw [find?_insert, if_neg other]
      exact absent value (List.mem_cons_of_mem _ mem)
    have inserted : (map.insert first).entries.Perm (first :: map.entries) := by
      have placed := insert_perm map first
      rwa [erase_of_absent missing] at placed
    exact (ih distinct (map.insert first) apart).trans
      ((inserted.append_left rest).trans List.perm_middle)

theorem ofList_perm (distinct : (values.map key).Nodup) :
    (ofList values : KeyedMap key).entries.Perm values := by
  have placed := foldl_insert_perm distinct empty fun value _ => find?_empty (key value)
  rwa [show (empty : KeyedMap key).entries = [] from rfl, List.append_nil] at placed

theorem find?_ofList_iff (distinct : (values.map key).Nodup) :
    (ofList values : KeyedMap key).find? wanted = some value ↔ value ∈ values ∧ key value = wanted := by
  rw [← (ofList_perm distinct).mem_iff, mem_entries_iff]
  constructor
  · intro found
    have same := find?_key found
    exact ⟨same ▸ found, same⟩
  · rintro ⟨found, rfl⟩
    exact found

theorem find?_foldl_insert (values : List ν) (map : KeyedMap key) (wanted : κ) :
    (values.foldl insert map).find? wanted = ((ofList values : KeyedMap key).find? wanted).or
      (map.find? wanted) := by
  induction values generalizing map with
  | nil => simp [ofList]
  | cons first _ ih =>
    rw [ofList, List.foldl_cons, List.foldl_cons, ih (map.insert first), ih (empty.insert first),
      find?_insert, find?_insert, find?_empty, Option.or_assoc]
    split_ifs <;> rfl

theorem find?_ofList_mem (found : (ofList values : KeyedMap key).find? wanted = some value) :
    value ∈ values ∧ key value = wanted := by
  refine ⟨?_, find?_key found⟩
  induction values with
  | nil => simp [ofList] at found
  | cons first _ ih =>
    rw [ofList, List.foldl_cons, find?_foldl_insert, Option.or_eq_some_iff] at found
    rcases found with found | ⟨-, found⟩
    · exact List.mem_cons_of_mem first (ih found)
    · rw [find?_insert, find?_empty] at found
      split_ifs at found
      exact Option.some.inj found ▸ List.mem_cons_self

theorem ofList_eq_of_perm {left right : List ν} (distinct : (left.map key).Nodup)
    (perm : left.Perm right) : (ofList left : KeyedMap key) = ofList right :=
  eq_of_perm ((ofList_perm distinct).trans (perm.trans
    (ofList_perm ((perm.map key).nodup_iff.mp distinct)).symm))

section Total

variable (measure : ν → ℕ)

def total (map : KeyedMap key) : ℕ := (map.entries.map measure).sum

theorem total_insert :
    (map.insert value).total measure = (map.erase (key value)).total measure + measure value := by
  rw [total, ((insert_perm map value).map measure).sum_nat, List.map_cons, List.sum_cons,
    Nat.add_comm, total]

theorem total_erase {map : KeyedMap key} {value : ν} {wanted : κ}
    (found : map.find? wanted = some value) :
    (map.erase wanted).total measure + measure value = map.total measure := by
  have same := find?_key found
  subst same
  rw [← total_insert, insert_of_find? found]

end Total

end KeyedMap
