import Thrylos.ScheduleQuotas
import Thrylos.Library.Framing
import Thrylos.Library.Memo

/-!
The one schedule a `Set` keeps, `scheduleCache` of `consensus/validator/selection.go`. Its key joins
the domains, addresses and stakes without their lengths, so it tells two calls apart only if these
are equally long.
-/

namespace Thrylos

open Framing (Framed Anything framed_of_width flatMap_inj_of_layout)

structure ScheduleCall where
  history : Option ProposerHistoryReader
  order : Option Bytes → MapOrder
  candidates : List Validator
  epoch : UInt64
  slotsPerEpoch : Int
  cooldownWindow : Int

namespace ScheduleCall

variable (keccak256 : Bytes → Bytes) (call : ScheduleCall)

def build (cache : Option EpochScheduleCache) :
    Except String (List Address) × Option EpochScheduleCache :=
  match buildEpochSchedule keccak256 call.order call.candidates call.epoch call.slotsPerEpoch
    call.cooldownWindow ⟨call.history, cache⟩ with
  | .ok schedule set => (.ok schedule, set.scheduleCache)
  | .error err set => (.error err, set.scheduleCache)

def fresh : Except String (List Address) := (call.build keccak256 none).1

def snapshot : List Validator := call.candidates.filter fun val => 0 < val.weight

def seed : Bytes :=
  buildEpochSeed keccak256 call.history call.epoch call.slotsPerEpoch.toNat

def groups : DomainGroups := groupValidatorsByDomain call.history call.snapshot

/-- The epoch and the key that the cache is asked for after the checks. -/
def cacheKey? : Option (UInt64 × Bytes) :=
  if call.candidates = [] ∨ call.slotsPerEpoch ≤ 0 ∨ call.snapshot = [] ∨
      (call.snapshot.map Validator.weight).sum = 0 then none
  else some (call.epoch, buildScheduleCacheKey keccak256 call.epoch call.slotsPerEpoch.toNat
    call.cooldownWindow.toNat (call.seed keccak256) call.groups)

def memo : Memo ScheduleCall (UInt64 × Bytes) (Except String (List Address))
    (Option EpochScheduleCache) where
  key := cacheKey? keccak256
  value := fresh keccak256
  empty := none
  lookup cache key := (ProposerSet.copyCachedSchedule ⟨none, cache⟩ key.1 key.2).map .ok
  store cache key value :=
    match value with
    | .ok schedule => some ⟨key.1, key.2, schedule⟩
    | .error _ => cache
  unknown _ := rfl
  stored := by
    intro cache key value other found hit
    cases value with
    | error => exact .inr hit
    | ok schedule =>
      simp only [ProposerSet.copyCachedSchedule] at hit
      split_ifs at hit with epoch same none_
      · cases hit
      · cases hit
      · cases hit
      · cases hit
        exact .inl ⟨Prod.ext (not_not.mp epoch).symm (not_not.mp same).symm, rfl⟩

theorem build_eq_ask (cache : Option EpochScheduleCache) :
    call.build keccak256 cache = (memo keccak256).ask cache call := by
  unfold Memo.ask
  simp only [memo, cacheKey?, seed, groups, fresh, build, buildEpochSchedule]
  by_cases none_ : call.candidates = []
  · simp [none_]
  by_cases few : call.slotsPerEpoch ≤ 0
  · simp [none_, few]
  by_cases unstaked : call.snapshot = [] ∨ (call.snapshot.map Validator.weight).sum = 0
  all_goals unfold snapshot at unstaked ⊢
  · simp only [none_, few, unstaked, or_true, if_true, if_false]
  simp only [none_, few, unstaked, or_false, if_false]
  have again : ProposerSet.copyCachedSchedule ⟨call.history, cache⟩ =
      ProposerSet.copyCachedSchedule ⟨none, cache⟩ := rfl
  rw [again]
  cases ProposerSet.copyCachedSchedule ⟨none, cache⟩ call.epoch _ with
  | some => rfl
  | none =>
    split_ifs <;> rfl

end ScheduleCall

def keptSchedule (keccak256 : Bytes → Bytes) (calls : List ScheduleCall) :
    Option EpochScheduleCache :=
  calls.foldl (fun cache call => (call.build keccak256 cache).2) none

/-- What the key holds of a domain: its members' addresses and stakes. -/
abbrev DomainContent := Bytes × List (Bytes × Bytes)

namespace DomainContent

def of (group : Bytes × List Validator) : DomainContent :=
  (group.1, (group.2.insertionSort fun first second => first.address ≤ second.address).map
    fun mem => (mem.address, mem.stake))

def encode (content : DomainContent) : Bytes :=
  content.1 ++ content.2.flatMap fun mem => mem.1 ++ mem.2

def layout (content : DomainContent) : Nat × List (Nat × Nat) :=
  (content.1.length, content.2.map fun mem => (mem.1.length, mem.2.length))

theorem framed_member (shape : Nat × Nat) : Framed (fun mem : Bytes × Bytes =>
    True ∧ (mem.1.length, mem.2.length) = shape) Anything fun mem => mem.1 ++ mem.2 := by
  have sized (mem : Bytes × Bytes) (same : True ∧ (mem.1.length, mem.2.length) = shape) :
      (mem.1 ++ mem.2).length = shape.1 + shape.2 := same.2 ▸ List.length_append
  refine framed_of_width sized ?_
  rintro first second ⟨-, rfl⟩ ⟨-, same⟩ joined
  obtain ⟨addresses, stakes⟩ := List.append_inj joined (congrArg Prod.fst same).symm
  exact Prod.ext addresses stakes

theorem encode_length (content : DomainContent) : content.encode.length =
    content.layout.1 + (content.layout.2.map fun mem => mem.1 + mem.2).sum := by
  simp [encode, layout, List.length_flatMap, Function.comp_def]

theorem framed_content (shape : Nat × List (Nat × Nat)) :
    Framed (fun content : DomainContent => True ∧ content.layout = shape) Anything encode := by
  refine framed_of_width (fun content same => same.2 ▸ content.encode_length) ?_
  rintro first second ⟨-, rfl⟩ ⟨-, same⟩ joined
  obtain ⟨names, members⟩ := List.append_inj joined (congrArg Prod.fst same).symm
  refine Prod.ext names (flatMap_inj_of_layout framed_member ?_ ?_ (congrArg Prod.snd same).symm
    members)
  · exact fun _ _ => trivial
  · exact fun _ _ => trivial

end DomainContent

namespace DomainGroups

def contents (groups : DomainGroups) : List DomainContent := groups.entries.map .of

theorem weighed_members (groups : DomainGroups) (dom : Bytes) : (weighed (groups.members dom)).Perm
    (((groups.contents.find? fun content => content.1 = dom).elim [] Prod.snd).map
      fun mem => (mem.1, parseBigInt mem.2)) := by
  have lookup : (groups.contents.find? fun content => content.1 = dom) =
      (groups.find? dom).map .of := by
    unfold contents KeyedMap.find?
    rw [List.find?_map]
    congr 2
    exact funext fun group => decide_eq_decide.mpr Iff.rfl
  unfold members weighed
  rw [lookup]
  cases groups.find? dom with
  | none => exact .refl _
  | some group =>
    simp only [Option.map_some, Option.elim_some, DomainContent.of, List.map_map]
    exact ((group.2.perm_insertionSort _).symm.map _)

end DomainGroups

namespace ScheduleCall

variable (keccak256 : Bytes → Bytes) (call : ScheduleCall)

def keyInput : Bytes :=
  call.seed keccak256 ++ BigEndian.fixed 8 call.epoch.toNat ++
    BigEndian.fixed 4 call.slotsPerEpoch.toNat ++ BigEndian.fixed 4 call.cooldownWindow.toNat ++
    call.groups.contents.flatMap DomainContent.encode

def layout : Nat × List (Nat × List (Nat × Nat)) :=
  ((call.seed keccak256).length, call.groups.contents.map DomainContent.layout)

structure Fits : Prop where
  slots : call.slotsPerEpoch < 2 ^ 32
  window : call.cooldownWindow < 2 ^ 32
  distinct : (call.candidates.map Validator.address).Nodup

variable {keccak256 call} {past : ScheduleCall} {key : UInt64 × Bytes}

theorem key_eq (keyed : call.cacheKey? keccak256 = some key) :
    key = (call.epoch, keccak256 (call.keyInput keccak256)) := by
  unfold cacheKey? at keyed
  split_ifs at keyed
  rw [← Option.some.inj keyed]
  simp only [buildScheduleCacheKey, keyInput, DomainGroups.contents, DomainContent.of,
    DomainContent.encode, List.flatMap_map]

theorem fresh_eq (keyed : call.cacheKey? keccak256 = some key) : call.fresh keccak256 =
    let schedule := freshSchedule keccak256 call.order (call.seed keccak256) call.groups
      call.slotsPerEpoch.toNat call.cooldownWindow.toNat
    if schedule.length ≠ call.slotsPerEpoch.toNat then
      .error "failed to build complete epoch schedule"
    else .ok schedule := by
  unfold cacheKey? at keyed
  split_ifs at keyed with checks
  simp only [not_or] at checks
  unfold snapshot at checks
  simp only [fresh, build, buildEpochSchedule, checks, if_false, or_self,
    ProposerSet.copyCachedSchedule, seed, groups, snapshot]
  split_ifs with short
  · exact (if_pos short).symm
  · exact (if_neg short).symm

/-- Under one layout the joined bytes tell everything the schedule is built from. -/
theorem fresh_of_keyInput (fits : call.Fits) (fitsPast : past.Fits)
    (keyed : call.cacheKey? keccak256 = some key) (pastKeyed : past.cacheKey? keccak256 = some key)
    (layouts : past.layout keccak256 = call.layout keccak256)
    (same : past.keyInput keccak256 = call.keyInput keccak256) :
    past.fresh keccak256 = call.fresh keccak256 := by
  obtain ⟨lengths, shapes⟩ := Prod.mk.inj layouts
  unfold keyInput at same
  obtain ⟨front, contents⟩ := List.append_inj same (by simp [lengths])
  obtain ⟨front, windows⟩ := List.append_inj front (by simp [lengths])
  obtain ⟨front, slots⟩ := List.append_inj front (by simp [lengths])
  have seeds := (List.append_inj front lengths).1
  have window := (BigEndian.fixed_inj (by have := fitsPast.window; omega)
    (by have := fits.window; omega)).mp windows
  have slot := (BigEndian.fixed_inj (by have := fitsPast.slots; omega)
    (by have := fits.slots; omega)).mp slots
  have told : past.groups.contents = call.groups.contents :=
    flatMap_inj_of_layout DomainContent.framed_content (fun _ _ => trivial) (fun _ _ => trivial)
      shapes contents
  have alike : Alike past.history call.history past.snapshot call.snapshot := fun dom => by
    rw [← groupValidatorsByDomain_members, ← groupValidatorsByDomain_members]
    have members := past.groups.weighed_members dom
    rw [told] at members
    exact members.trans (call.groups.weighed_members dom).symm
  rw [fresh_eq keyed, fresh_eq pastKeyed, seeds, window, slot, groups, groups,
    alike.freshSchedule_eq (fitsPast.distinct.sublist (List.filter_sublist.map _)) keccak256
      past.order call.order]

end ScheduleCall

/-- A call is answered as by a set without a cache if no earlier call of its epoch joins to the same
bytes under another layout. -/
theorem schedule_cache_transparent (keccak256 : Bytes → Bytes) (earlier : List ScheduleCall)
    (call : ScheduleCall) (fits : ∀ other ∈ call :: earlier, other.Fits)
    (readable : ∀ past ∈ earlier, past.epoch = call.epoch →
      past.keyInput keccak256 = call.keyInput keccak256 →
      past.layout keccak256 = call.layout keccak256)
    (apart : ∀ past ∈ earlier, keccak256 (past.keyInput keccak256) =
      keccak256 (call.keyInput keccak256) → past.keyInput keccak256 = call.keyInput keccak256) :
    (call.build keccak256 (keptSchedule keccak256 earlier)).1 = call.fresh keccak256 := by
  have run : keptSchedule keccak256 earlier = (ScheduleCall.memo keccak256).run earlier := by
    unfold keptSchedule Memo.run
    simp only [ScheduleCall.build_eq_ask]
    rfl
  rw [run, ScheduleCall.build_eq_ask]
  refine Memo.ask_run fun past mem key pastKeyed keyed => ?_
  obtain ⟨epochs, keys⟩ := Prod.mk.inj
    ((ScheduleCall.key_eq pastKeyed).symm.trans (ScheduleCall.key_eq keyed))
  have bytes := apart past mem keys
  exact ScheduleCall.fresh_of_keyInput (fits call List.mem_cons_self)
    (fits past (List.mem_cons_of_mem _ mem)) keyed pastKeyed (readable past mem epochs bytes) bytes

def sampleScheduleCall (stake dom : Bytes) : ScheduleCall where
  history := some ⟨-1, fun _ => none, some fun addr => if addr = sampleAddress 97 then [0] else dom⟩
  order _ := MapOrder.byKey
  candidates := [{ sampleCandidate 97 0 with stake }, sampleCandidate 98 100]
  epoch := 0
  slotsPerEpoch := 1
  cooldownWindow := 0

/-- The last call is answered from the cache, with the schedule of its own stakes. -/
theorem equally_long_stakes_are_told_apart :
    let calls := [sampleScheduleCall [200] [101], sampleScheduleCall [5] [101]]
    let call := sampleScheduleCall [5] [101]
    (call.build id (keptSchedule id calls)).1 = call.fresh id ∧
      (keptSchedule id calls).isSome = true ∧ call.fresh id ≠ (sampleScheduleCall [200] [101]).fresh id := by
  intro calls call
  refine ⟨schedule_cache_transparent id calls call (fun other mem => ?_) ?_ fun _ _ same => same,
    by decide +kernel, by decide +kernel⟩
  · simp only [calls, call, List.mem_cons, List.not_mem_nil, or_false] at mem
    rcases mem with rfl | rfl | rfl
    all_goals exact ⟨by decide, by decide, by decide +kernel⟩
  · have layouts : ∀ past ∈ calls, past.layout id = call.layout id := by decide +kernel
    exact fun past mem _ _ => layouts past mem

/-- Here the last byte of one stake is the first of the next domain in the other call. -/
theorem a_schedule_of_other_stakes :
    let past := sampleScheduleCall [5] [65, 101]
    let call := sampleScheduleCall [5, 65] [101]
    (call.build id (keptSchedule id [past])).1 = .ok [sampleAddress 98] ∧
      call.fresh id = .ok [sampleAddress 97] := by
  decide +kernel

end Thrylos
