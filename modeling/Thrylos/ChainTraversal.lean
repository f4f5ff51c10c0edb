import Thrylos.ForkChoice

/-!
Walks along the parents of a block, `consensus/pos/consensus_chain_traversal.go`. The answers about
ancestry are kept in a cache that nothing clears, also where a later block connects two blocks.
-/

namespace Thrylos

abbrev BlockStore := KeyedMap Block.hash

section Ancestry

variable (blocks : BlockStore)

/-- The loop of `computeIsDescendant`; none if it goes on for too long. -/
def seekAncestor (ancestorHash : Bytes) : Nat → Bytes → Option Bool
  | 0, _ => none
  | depth + 1, currentHash =>
    match blocks.find? currentHash with
    | none => some false
    | some blk =>
      if blk.header.prevHash = ancestorHash then some true
      else if blk.header.prevHash = [] then some false
      else seekAncestor ancestorHash depth blk.header.prevHash

/-- `computeIsDescendant`; none where the log line cuts a hash that is too short, which panics. -/
def computeIsDescendant (blockHash ancestorHash : Bytes) : Option Bool :=
  if blockHash = ancestorHash then some true
  else match seekAncestor blocks ancestorHash 1000 blockHash with
    | some found => some found
    | none => if blockHash.length < 8 ∨ ancestorHash.length < 8 then none else some false

abbrev ChainCache := Bytes × Bytes → Option Bool

def isDescendant (blockHash ancestorHash : Bytes) (chainCache : ChainCache) :
    Option Bool × ChainCache :=
  if blockHash = ancestorHash then (some true, chainCache)
  else match chainCache (ancestorHash, blockHash) with
    | some cached => (some cached, chainCache)
    | none =>
      -- After a panic there is no answer to keep.
      (computeIsDescendant blocks blockHash ancestorHash, fun key =>
        if key = (ancestorHash, blockHash) then computeIsDescendant blocks blockHash ancestorHash
        else chainCache key)

end Ancestry

inductive ChainEvent where
  | insert (blk : Block)
  | query (blockHash ancestorHash : Bytes)

structure AncestryQuery where
  blocks : BlockStore
  blockHash : Bytes
  ancestorHash : Bytes

def queriesOf : BlockStore → List ChainEvent → List AncestryQuery
  | _, [] => []
  | blocks, .insert blk :: rest => queriesOf (blocks.insert blk) rest
  | blocks, .query blockHash ancestorHash :: rest =>
    ⟨blocks, blockHash, ancestorHash⟩ :: queriesOf blocks rest

namespace AncestryQuery

def key (query : AncestryQuery) : Bytes × Bytes := (query.ancestorHash, query.blockHash)

def computed (query : AncestryQuery) : Option Bool :=
  computeIsDescendant query.blocks query.blockHash query.ancestorHash

def ask (query : AncestryQuery) (cache : ChainCache) : Option Bool × ChainCache :=
  isDescendant query.blocks query.blockHash query.ancestorHash cache

end AncestryQuery

def answered (queries : List AncestryQuery) : ChainCache :=
  queries.foldl (fun cache query => (query.ask cache).2) fun _ => none

def UpToDate (queries : List AncestryQuery) : Prop :=
  ∀ earlier query later, queries = earlier ++ query :: later →
    (query.ask (answered earlier)).1 = query.computed

section Staleness

variable {queries later : List AncestryQuery} {past query : AncestryQuery} {cache : ChainCache}
  {key : Bytes × Bytes} {found : Bool}

theorem answered_append : answered (queries ++ [query]) = (query.ask (answered queries)).2 := by
  simp [answered]

theorem UpToDate.before (fresh : UpToDate (queries ++ later)) : UpToDate queries :=
  fun first query rest split => fresh first query (rest ++ later) (by simp [split])

theorem computed_same (same : query.blockHash = query.ancestorHash) : query.computed = some true :=
  if_pos same

theorem ask_stores (apart : query.blockHash ≠ query.ancestorHash) :
    (query.ask cache).2 query.key = (query.ask cache).1 := by
  unfold AncestryQuery.ask isDescendant
  rw [if_neg apart]
  split
  · assumption
  · exact if_pos rfl

theorem ask_keeps (known : cache key = some found) : (query.ask cache).2 key = some found := by
  unfold AncestryQuery.ask isDescendant
  split_ifs
  · exact known
  · split
    · exact known
    · rename_i none_
      refine (if_neg ?_).trans known
      rintro rfl
      cases known.symm.trans none_

theorem computed_of_answered (known : answered queries key = some found) :
    ∃ past ∈ queries, past.key = key ∧ past.computed = some found := by
  induction queries using List.reverseRecOn with
  | nil => cases known
  | append_singleton earlier query ih =>
    by_cases old : answered earlier key = some found
    · obtain ⟨past, mem, computed⟩ := ih old
      exact ⟨past, List.mem_append_left _ mem, computed⟩
    refine ⟨query, by simp, ?_⟩
    rw [answered_append] at known
    unfold AncestryQuery.ask isDescendant at known
    split_ifs at known
    · exact absurd known old
    · split at known
      · exact absurd known old
      · by_cases own : key = query.key
        · subst own
          exact ⟨rfl, (if_pos rfl).symm.trans known⟩
        · exact absurd ((if_neg own).symm.trans known) old

theorem answered_of_fresh (fresh : UpToDate queries) (mem : past ∈ queries)
    (apart : past.blockHash ≠ past.ancestorHash) (computed : past.computed = some found) :
    answered queries past.key = some found := by
  induction queries using List.reverseRecOn with
  | nil => cases mem
  | append_singleton earlier query ih =>
    rw [answered_append]
    rcases List.mem_append.mp mem with old | new
    · exact ask_keeps (ih fresh.before old)
    · obtain rfl := List.mem_singleton.mp new
      rw [ask_stores apart, fresh earlier past [] rfl, computed]

theorem upToDate_iff : UpToDate queries ↔ ∀ earlier query later,
    queries = earlier ++ query :: later → ∀ past ∈ earlier, past.key = query.key →
      past.computed ≠ none → query.computed = past.computed := by
  constructor
  · intro fresh earlier query later split past mem same kept
    obtain ⟨found, computed⟩ := Option.ne_none_iff_exists'.mp kept
    obtain ⟨ancestor, descendant⟩ := Prod.mk.inj same
    by_cases own : query.blockHash = query.ancestorHash
    · rw [computed_same own, computed_same (descendant.trans (own.trans ancestor.symm))]
    have known := answered_of_fresh (split ▸ fresh).before mem
      (fun equal => own (descendant.symm.trans (equal.trans ancestor))) computed
    rw [computed, ← fresh earlier query later split, ← ask_stores own]
    exact ask_keeps (same ▸ known)
  · intro steady earlier query later split
    unfold AncestryQuery.ask isDescendant
    split_ifs with own
    · exact (computed_same own).symm
    · split
      · rename_i known
        obtain ⟨past, mem, same, computed⟩ := computed_of_answered known
        rw [steady earlier query later split past mem same (by simp [computed]), computed]
      · rfl

end Staleness

section CommonAncestor

variable (blocks : BlockStore)

def prevHash? (hash : Bytes) : Option Bytes :=
  ((blocks.find? hash).map (·.header.prevHash)).filter (· ≠ [])

def chainPathLoop (blockHash ancestorHash : Bytes) :
    Nat → Bytes → List Bytes → Except String (List Bytes)
  | 0, _, _ => .error "chain path exceeded max depth"
  | depth + 1, currentHash, path =>
    match blocks.find? currentHash with
    | none => .error s!"block {text currentHash} not found in chain"
    | some blk =>
      if blk.header.prevHash = ancestorHash then .ok (path ++ [ancestorHash])
      else if blk.header.prevHash = [] then
        .error s!"ancestor {text ancestorHash} not found in chain from {text blockHash}"
      else chainPathLoop blockHash ancestorHash depth blk.header.prevHash
        (path ++ [blk.header.prevHash])

def getChainPath (blockHash ancestorHash : Bytes) : Except String (List Bytes) :=
  if blockHash = ancestorHash then .ok [blockHash]
  else chainPathLoop blocks blockHash ancestorHash 1000 blockHash [blockHash]

/-- The first loop of `getCommonAncestor`; the second is `meet`. -/
def ancestry : Nat → Bytes → List Bytes
  | 0, _ => []
  | depth + 1, currentHash =>
    currentHash :: match prevHash? blocks currentHash with
      | none => []
      | some prevHash => ancestry depth prevHash

def meet (path : List Bytes) : Nat → Bytes → Option Bytes
  | 0, _ => none
  | depth + 1, currentHash =>
    if currentHash ∈ path then some currentHash
    else match prevHash? blocks currentHash with
      | none => none
      | some prevHash => meet path depth prevHash

/-- `getCommonAncestor`; the message of its error panics over a hash that is too short. -/
def getCommonAncestor (first second : Bytes) : Except (Halt String) Bytes :=
  if first = second then .ok first
  else match meet blocks (ancestry blocks 1000 first) 1000 second with
    | some found => .ok found
    | none =>
      if first.length < 8 ∨ second.length < 8 then .error (.panic "slice bounds out of range")
      else .error (.refused (s!"no common ancestor found between {text (first.take 8)} and " ++
        text (second.take 8)))

def ancestor? : Nat → Bytes → Option Bytes
  | 0, hash => some hash
  | steps + 1, hash => (prevHash? blocks hash).bind (ancestor? steps)

def IsAncestor (ancestor hash : Bytes) : Prop := ∃ steps, ancestor? blocks steps hash = some ancestor

structure ParentChain (start stop : Bytes) (path : List Bytes) : Prop where
  starts : path.head? = some start
  stops : path.getLast? = some stop
  linked : path.IsChain fun hash prevHash =>
    ∃ blk, blocks.find? hash = some blk ∧ blk.header.prevHash = prevHash

variable {blocks} {hash found first second : Bytes} {path : List Bytes} {steps more depth : Nat}

theorem ancestor?_between (near : ancestor? blocks steps hash = some first)
    (far : ancestor? blocks more hash = some second) (less : steps ≤ more) :
    IsAncestor blocks second first := by
  induction steps generalizing hash more with
  | zero =>
    cases near
    exact ⟨more, far⟩
  | succ steps ih =>
    obtain ⟨prevHash, parent, rest⟩ := Option.bind_eq_some_iff.mp near
    cases more with
    | zero => omega
    | succ more =>
      rw [ancestor?, parent] at far
      exact ih rest far (by omega)

theorem mem_ancestry :
    found ∈ ancestry blocks depth hash ↔ ∃ steps < depth, ancestor? blocks steps hash = some found := by
  induction depth generalizing hash with
  | zero => simp [ancestry]
  | succ depth ih =>
    rw [ancestry, Nat.exists_lt_succ_left]
    cases parent : prevHash? blocks hash with
    | none => simp [ancestor?, parent, eq_comm]
    | some prevHash => simp [ancestor?, parent, ih, eq_comm]

theorem meet_of_least (near : steps < depth) (reached : ancestor? blocks steps hash = some found)
    (listed : found ∈ path)
    (least : ∀ fewer < steps, ¬ ∃ other ∈ path, ancestor? blocks fewer hash = some other) :
    meet blocks path depth hash = some found := by
  induction depth generalizing hash steps with
  | zero => omega
  | succ depth ih =>
    rw [meet]
    cases steps with
    | zero =>
      cases reached
      exact if_pos listed
    | succ steps =>
      obtain ⟨prevHash, parent, rest⟩ := Option.bind_eq_some_iff.mp reached
      rw [if_neg fun here => least 0 steps.succ_pos ⟨hash, here, rfl⟩, parent]
      refine ih (by omega) rest fun fewer small listed => least (fewer + 1) (by omega) ?_
      rwa [ancestor?, parent]

theorem chainPathLoop_path (start : Bytes) (path : List Bytes) (near : steps < depth)
    (reached : ancestor? blocks (steps + 1) hash = some found) :
    ∃ tail, chainPathLoop blocks start found depth hash path = .ok (path ++ tail) ∧
      ParentChain blocks hash found (hash :: tail) := by
  induction depth generalizing hash path steps with
  | zero => omega
  | succ depth ih =>
    obtain ⟨prevHash, parent, rest⟩ := Option.bind_eq_some_iff.mp reached
    obtain ⟨recorded, parented⟩ := Option.filter_eq_some_iff.mp parent
    obtain ⟨blk, stored, rfl⟩ := Option.map_eq_some_iff.mp recorded
    rw [chainPathLoop, stored]
    dsimp only
    by_cases last : blk.header.prevHash = found
    · subst last
      exact ⟨_, if_pos rfl, rfl, rfl, .cons_cons ⟨blk, stored, rfl⟩ (.singleton _)⟩
    cases steps with
    | zero => exact absurd (Option.some.inj rest) last
    | succ steps =>
      rw [if_neg last, if_neg (of_decide_eq_true parented)]
      obtain ⟨tail, ran, chain⟩ := ih (path ++ [blk.header.prevHash]) (by omega) rest
      exact ⟨_ :: tail, by simpa using ran, rfl, chain.stops, .cons_cons ⟨blk, stored, rfl⟩ chain.linked⟩

theorem getChainPath_path (near : steps ≤ 1000)
    (reached : ancestor? blocks steps hash = some found) :
    ∃ path, getChainPath blocks hash found = .ok path ∧ ParentChain blocks hash found path := by
  by_cases own : hash = found
  · exact ⟨[hash], if_pos own, rfl, congrArg some own, .singleton _⟩
  cases steps with
  | zero => exact absurd (Option.some.inj reached) own
  | succ steps =>
    obtain ⟨tail, ran, chain⟩ := chainPathLoop_path hash [hash] near reached
    exact ⟨hash :: tail, (if_neg own).trans ran, chain⟩

end CommonAncestor

/-- Two blocks that share an ancestor get the one every other shared ancestor is an ancestor of,
and the path to it. -/
theorem common_ancestor_is_lowest (blocks : BlockStore) (first second shared : Bytes)
    (steps more : Nat) (near : steps ≤ 999) (close : more ≤ 999)
    (reached : ancestor? blocks steps first = some shared)
    (alsoReached : ancestor? blocks more second = some shared) :
    ∃ lowest, getCommonAncestor blocks first second = .ok lowest ∧
      IsAncestor blocks lowest first ∧ IsAncestor blocks lowest second ∧
      (∀ other, IsAncestor blocks other first → IsAncestor blocks other second →
        IsAncestor blocks other lowest) ∧
      ∀ start ∈ [first, second], ∃ path, getChainPath blocks start lowest = .ok path ∧
        ParentChain blocks start lowest path := by
  classical
  unfold getCommonAncestor
  by_cases same : first = second
  · subst same
    refine ⟨first, if_pos rfl, ⟨0, rfl⟩, ⟨0, rfl⟩, fun _ up _ => up, ?_⟩
    simpa using getChainPath_path (Nat.zero_le 1000) rfl
  have meets : ∃ distance, ∃ other ∈ ancestry blocks 1000 first,
      ancestor? blocks distance second = some other :=
    ⟨more, shared, mem_ancestry.mpr ⟨steps, by omega, reached⟩, alsoReached⟩
  have below : Nat.find meets ≤ more :=
    Nat.find_min' meets ⟨shared, mem_ancestry.mpr ⟨steps, by omega, reached⟩, alsoReached⟩
  obtain ⟨lowest, listed, here⟩ := Nat.find_spec meets
  obtain ⟨up, few, upHere⟩ := mem_ancestry.mp listed
  have met := meet_of_least (show Nat.find meets < 1000 by omega) here listed
    fun _ => Nat.find_min meets
  refine ⟨lowest, by rw [if_neg same, met], ⟨up, upHere⟩, ⟨_, here⟩, ?_, ?_⟩
  · rintro other ⟨higher, left⟩ ⟨further, right⟩
    by_cases past : Nat.find meets ≤ further
    · exact ancestor?_between here right past
    · -- The second walk passed it by, so it is too far from the first block to be listed.
      refine ancestor?_between upHere left (not_lt.mp fun close => ?_)
      exact Nat.find_min meets (not_le.mp past) ⟨other, mem_ancestry.mpr ⟨higher, by omega, left⟩, right⟩
  · simpa using ⟨getChainPath_path (by omega) upHere, getChainPath_path (by omega) here⟩

theorem two_forks_meet_at_genesis :
    let blocks : BlockStore := KeyedMap.ofList
      [sampleBlock 0 [] [7] [], sampleBlock 1 [7] [8] [], sampleBlock 1 [7] [9] []]
    ∃ lowest, getCommonAncestor blocks [8] [9] = .ok lowest ∧
      IsAncestor blocks lowest [8] ∧ IsAncestor blocks lowest [9] := by
  obtain ⟨lowest, met, left, right, _⟩ := common_ancestor_is_lowest (KeyedMap.ofList
    [sampleBlock 0 [] [7] [], sampleBlock 1 [7] [8] [], sampleBlock 1 [7] [9] []]) [8] [9] [7] 1 1
    (by decide) (by decide) (by decide +kernel) (by decide +kernel)
  exact ⟨lowest, met, left, right⟩

theorem seekAncestor_true_iff {blocks : BlockStore} {ancestorHash : Bytes}
    (named : ancestorHash ≠ []) (depth : Nat) (hash : Bytes) :
    seekAncestor blocks ancestorHash depth hash = some true ↔
      ∃ steps < depth, ancestor? blocks (steps + 1) hash = some ancestorHash := by
  induction depth generalizing hash with
  | zero => simp [seekAncestor]
  | succ depth ih =>
    rw [seekAncestor, Nat.exists_lt_succ_left]
    cases found : blocks.find? hash with
    | none => simp [ancestor?, prevHash?, found]
    | some blk =>
      by_cases genesis : blk.header.prevHash = []
      · have parent : prevHash? blocks hash = none := by simp [prevHash?, found, genesis]
        simp [ancestor?, parent, genesis, Ne.symm named]
      · have parent : prevHash? blocks hash = some blk.header.prevHash := by
          simp [prevHash?, found, genesis]
        by_cases last : blk.header.prevHash = ancestorHash
        · simp [ancestor?, parent, last]
        · simp [ancestor?, parent, last, genesis, ih]

section Growth

/-- A block that comes again under a stored hash has the same parent. -/
def OneParent : BlockStore → List ChainEvent → Prop
  | _, [] => True
  | blocks, .insert blk :: rest =>
    (∀ stored ∈ blocks.find? blk.hash, stored.header.prevHash = blk.header.prevHash) ∧
      OneParent (blocks.insert blk) rest
  | blocks, .query _ _ :: rest => OneParent blocks rest

def Grows (blocks later : BlockStore) : Prop :=
  ∀ hash parent, prevHash? blocks hash = some parent → prevHash? later hash = some parent

theorem Grows.ancestor? {blocks later : BlockStore} (grows : Grows blocks later) {steps : Nat}
    {hash found : Bytes} (reached : ancestor? blocks steps hash = some found) :
    ancestor? later steps hash = some found := by
  induction steps generalizing hash with
  | zero => exact reached
  | succ steps ih =>
    obtain ⟨parent, stored, rest⟩ := Option.bind_eq_some_iff.mp reached
    exact Option.bind_eq_some_iff.mpr ⟨parent, grows hash parent stored, ih rest⟩

theorem insert_grows {blocks : BlockStore} {blk : Block}
    (single : ∀ stored ∈ blocks.find? blk.hash, stored.header.prevHash = blk.header.prevHash) :
    Grows blocks (blocks.insert blk) := by
  intro hash parent found
  unfold prevHash? at found ⊢
  rw [KeyedMap.find?_insert]
  split_ifs with own
  · obtain ⟨recorded, named⟩ := Option.filter_eq_some_iff.mp found
    obtain ⟨stored, here, rfl⟩ := Option.map_eq_some_iff.mp recorded
    rw [Option.map_some, ← single stored (own ▸ here)]
    exact Option.filter_eq_some_iff.mpr ⟨rfl, named⟩
  · exact found

namespace AncestryQuery

def Linked (query : AncestryQuery) : Prop :=
  ∃ steps ≤ 1000, ancestor? query.blocks steps query.blockHash = some query.ancestorHash

instance (query : AncestryQuery) : Decidable query.Linked :=
  inferInstanceAs (Decidable (∃ _ ≤ _, _ = _))

/-- The log line of an unfinished search does not panic. -/
def Long (query : AncestryQuery) : Prop :=
  8 ≤ query.blockHash.length ∧ 8 ≤ query.ancestorHash.length

variable {past query : AncestryQuery}

theorem linked_iff (long : query.Long) : query.Linked ↔ query.blockHash = query.ancestorHash ∨
    seekAncestor query.blocks query.ancestorHash 1000 query.blockHash = some true := by
  have named : query.ancestorHash ≠ [] := by
    intro empty
    simp [Long, empty] at long
  simp only [Linked, Nat.le_iff_lt_add_one, Nat.exists_lt_succ_left, ← seekAncestor_true_iff named]
  exact or_congr_left Option.some_inj

theorem computed_eq (long : query.Long) : query.computed = some (decide query.Linked) := by
  simp only [linked_iff long, computed, computeIsDescendant, Nat.not_lt.mpr long.1,
    Nat.not_lt.mpr long.2, or_self, if_false]
  split_ifs with own
  · simp [own]
  · cases seekAncestor query.blocks query.ancestorHash 1000 query.blockHash with
    | none => simp [own]
    | some found => simp [own]

theorem Linked.later (linked : past.Linked) (grows : Grows past.blocks query.blocks)
    (same : past.key = query.key) : query.Linked := by
  obtain ⟨steps, few, reached⟩ := linked
  obtain ⟨ancestor, descendant⟩ := Prod.mk.inj same
  refine ⟨steps, few, ?_⟩
  rw [← ancestor, ← descendant]
  exact grows.ancestor? reached

end AncestryQuery

/-- A query has all the parents that were stored when an earlier one was asked. -/
theorem queriesOf_grow {blocks : BlockStore} {events : List ChainEvent}
    (single : OneParent blocks events) :
    (∀ query ∈ queriesOf blocks events, Grows blocks query.blocks) ∧
      (queriesOf blocks events).Pairwise fun past query => Grows past.blocks query.blocks := by
  induction events generalizing blocks with
  | nil => exact ⟨fun _ none => absurd none List.not_mem_nil, .nil⟩
  | cons event _ ih =>
    cases event with
    | insert blk =>
      obtain ⟨later, pairwise⟩ := ih single.2
      refine ⟨fun query mem hash parent found => ?_, pairwise⟩
      exact later query mem hash parent (insert_grows single.1 hash parent found)
    | query =>
      obtain ⟨later, pairwise⟩ := ih single
      refine ⟨fun query mem => ?_, .cons later pairwise⟩
      rcases List.mem_cons.mp mem with rfl | mem
      · exact fun _ _ => id
      · exact later query mem

end Growth

/-- Every query is answered as the blocks of its time have it exactly if no two blocks are asked
about before and again after a chain of parents between them is stored. -/
theorem cached_ancestry_fresh_iff (blocks : BlockStore) (events : List ChainEvent)
    (single : OneParent blocks events) (long : ∀ query ∈ queriesOf blocks events, query.Long) :
    UpToDate (queriesOf blocks events) ↔
      ∀ earlier query later, queriesOf blocks events = earlier ++ query :: later →
        ∀ past ∈ earlier, past.key = query.key → query.Linked → past.Linked := by
  rw [upToDate_iff]
  refine forall₄_congr fun earlier query later split => forall₃_congr fun past mem same => ?_
  have grows : Grows past.blocks query.blocks := by
    have pairwise := (queriesOf_grow single).2
    rw [split, List.pairwise_append] at pairwise
    exact pairwise.2.2 past mem query List.mem_cons_self
  rw [split] at long
  rw [AncestryQuery.computed_eq (long past (List.mem_append_left _ mem)),
    AncestryQuery.computed_eq (long query (by simp))]
  constructor
  · intro steady linked
    simpa [linked] using steady (by simp)
  · intro steady _
    have both : query.Linked ↔ past.Linked := ⟨steady, fun linked => linked.later grows same⟩
    simp [both]

/-- Both answers are asked for again after another block. -/
def growingChain : List ChainEvent :=
  let named (digit : Byte) := List.replicate 8 digit
  [.insert (sampleBlock 0 [] (named 7) []), .insert (sampleBlock 1 (named 7) (named 8) []),
    .query (named 8) (named 7), .query (named 7) (named 8),
    .insert (sampleBlock 2 (named 8) (named 9) []), .query (named 9) (named 7),
    .query (named 8) (named 7), .query (named 7) (named 8)]

theorem a_growing_chain_is_answered_fresh : UpToDate (queriesOf KeyedMap.empty growingChain) := by
  have steady : ∀ past ∈ queriesOf KeyedMap.empty growingChain, past.Linked ∨
      ∀ query ∈ queriesOf KeyedMap.empty growingChain, past.key = query.key → ¬ query.Linked := by
    decide +kernel
  refine (cached_ancestry_fresh_iff _ _ ?_ ?_).mpr ?_
  · simp only [growingChain, OneParent]
    decide +kernel
  · simp only [AncestryQuery.Long]
    decide +kernel
  · intro earlier query later split past mem same linked
    rw [split] at steady
    exact (steady past (List.mem_append_left _ mem)).resolve_right fun never =>
      never query (by simp) same linked

theorem a_block_asked_for_too_early :
    let blocks : BlockStore := KeyedMap.empty.insert (sampleBlock 0 [] [7] [])
    let first : AncestryQuery := ⟨blocks, [8], [7]⟩
    let second : AncestryQuery := ⟨blocks.insert (sampleBlock 1 [7] [8] []), [8], [7]⟩
    queriesOf blocks [.query [8] [7], .insert (sampleBlock 1 [7] [8] []), .query [8] [7]] =
        [first, second] ∧
      (second.ask (answered [first])).1 = some false ∧ second.computed = some true :=
  ⟨rfl, by decide +kernel, by decide +kernel⟩

/-- The search finds exactly the ancestors within a thousand steps. -/
theorem descendant_found_iff (blocks : BlockStore) (hash : Bytes) {ancestorHash : Bytes}
    (named : ancestorHash ≠ []) : computeIsDescendant blocks hash ancestorHash = some true ↔
      ∃ steps ≤ 1000, ancestor? blocks steps hash = some ancestorHash := by
  simp only [Nat.le_iff_lt_add_one, Nat.exists_lt_succ_left, ← seekAncestor_true_iff named]
  unfold computeIsDescendant
  by_cases same : hash = ancestorHash
  · simp [same, ancestor?]
  · rw [if_neg same]
    cases seekAncestor blocks ancestorHash 1000 hash with
    | some found => simp [ancestor?, same]
    | none => split_ifs <;> simp [ancestor?, same]

theorem a_child_descends_from_its_parent :
    computeIsDescendant (KeyedMap.empty.insert (sampleBlock 1 [7] [8] [])) [8] [7] = some true :=
  (descendant_found_iff _ _ (by decide)).mpr ⟨1, by decide, rfl⟩

end Thrylos
