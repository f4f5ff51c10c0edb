import Thrylos.BlockConsumption

/-!
Transactions with a bad signature against one with a good one. The detector writes the forged ones
down before their signatures are looked at.
-/

namespace Thrylos

open TransactionValidator (validateForm validateNormal validateOnState validateSignature)
open BlockValidator (validateTransaction)
open ReplayDetector (normalizeReplayAddress)

def ValidationTimes.Before (earlier later : ValidationTimes) : Prop :=
  ∀ reading ∈ [earlier.has, earlier.get, earlier.expiry, earlier.cleanup],
    reading ≤ later.has ∧ reading ≤ later.get

abbrev Chain.now (chain : Chain ValidatorMemory) (cfg : ValidatingConfig) :
    ValidationTimes := cfg.times chain.seen.calls

abbrev Transaction.replaySender (tx : Transaction) (cfg : ValidatorConfig) : Address :=
  normalizeReplayAddress cfg tx.fromAddr

namespace ReplayCache

variable {cache : KeyedMap CachedTransaction.txHash} {txHash : Bytes} {now later : Int}

theorem find?_cleanupExpired : (cleanupExpired cache now).find? txHash =
    (cache.find? txHash).filter fun cached => decide (now ≤ cached.expiresAt) := by
  have erased : cleanupExpired cache now = ((cache.entries.filter
      fun cached => decide (cached.expiresAt < now)).map (·.txHash)).foldl KeyedMap.erase cache := by
    unfold cleanupExpired
    rw [List.foldl_map]
  rw [erased, KeyedMap.find?_foldl_erase]
  cases found : cache.find? txHash with
  | none => simp
  | some cached =>
  obtain rfl := KeyedMap.find?_key found
  by_cases expired : cached.expiresAt < now
  · have listed : cached ∈ cache.entries := KeyedMap.find?_mem found
    have dropped : cached.txHash ∈ (cache.entries.filter
        fun cached => decide (cached.expiresAt < now)).map (·.txHash) :=
      List.mem_map_of_mem (List.mem_filter.mpr ⟨listed, decide_eq_true expired⟩)
    rw [if_pos dropped]
    simp [Option.filter, expired]
  · have kept : cached.txHash ∉ (cache.entries.filter
        fun cached => decide (cached.expiresAt < now)).map (·.txHash) := by
      intro dropped
      obtain ⟨other, chosen, same⟩ := List.mem_map.mp dropped
      obtain ⟨listed, old⟩ := List.mem_filter.mp chosen
      have foundOther := (KeyedMap.mem_entries_iff cache other).mp listed
      rw [same, found] at foundOther
      cases foundOther
      exact expired (of_decide_eq_true old)
    rw [if_neg kept]
    simp [Option.filter, Int.not_lt.mp expired]

theorem live_add (entry : CachedTransaction) (cleaned : now ≤ later) :
    live (add cache entry now) txHash later = live (cache.insert entry) txHash later := by
  unfold add
  dsimp only
  split
  · unfold live
    rw [find?_cleanupExpired]
    cases (cache.insert entry).find? txHash with
    | none => rfl
    | some cached =>
      by_cases seen : later ≤ cached.expiresAt
      · simp [Option.filter, seen, Int.le_trans cleaned seen]
      · by_cases kept : now ≤ cached.expiresAt <;> simp [Option.filter, seen, kept]
  · rfl

theorem live_earlier (seen : (live cache txHash later).isSome = true) (earlier : now ≤ later) :
    (live cache txHash now).isSome = true := by
  unfold live at seen ⊢
  cases found : cache.find? txHash with
  | none => simp [found] at seen
  | some cached =>
    have fits : later ≤ cached.expiresAt := by simpa [found, Option.filter] using seen
    simpa [Option.filter] using Int.le_trans earlier fits

end ReplayCache

section

variable {cfg : ValidatingConfig} {chain : Chain ValidatorMemory} {tx : Transaction}

def Forged (cfg : ValidatingConfig) (tx : Transaction) : Prop :=
  ∀ norm, normalizeTransactionAmounts tx = .ok norm → validateSignature cfg norm ≠ .ok ()

def Passes (cfg : ValidatingConfig) (tx : Transaction) (chain : Chain ValidatorMemory) : Prop :=
  ∃ norm after, validateTransaction cfg.chain tx chain = .ok norm after

structure Sound (cfg : ValidatorConfig) (times : ValidationTimes) (ws : WorldState)
    (tx : Transaction) : Prop where
  amounts : normalizeTransactionAmounts tx = .ok tx.canonical
  matching : validateChainIDMatch tx.chainId cfg.chainID = .ok ()
  chainID : tx.chainId = cfg.chainID
  form : validateForm cfg times tx.canonical = .ok ()
  state : validateOnState cfg times ws tx.canonical = .ok ()

structure Fresh (cfg : ValidatorConfig) (times : ValidationTimes) (height : Int64)
    (tx : Transaction) (det : ReplayDetector) : Prop where
  hash : det.checkHash times tx.hash height = .ok ()
  nonce : det.checkNonce cfg (normalizeReplayAddress cfg tx.fromAddr) tx.nonce = .ok ()

theorem validateNormal_ok_iff (cfg : ValidatorConfig) (times : ValidationTimes)
    (ws : WorldState) (det : ReplayDetector) (tx : Transaction) :
    (validateNormal cfg times ws det tx).verdict = .ok () ↔
      validateChainIDMatch tx.chainId cfg.chainID = .ok () ∧ tx.chainId = cfg.chainID ∧
      (det.checkHash times tx.hash ws.height = .ok () ∧
        det.checkNonce cfg (tx.replaySender cfg) tx.nonce = .ok ()) ∧
      validateForm cfg times tx = .ok () ∧ validateOnState cfg times ws tx = .ok () := by
  unfold validateNormal
  cases validateChainIDMatch tx.chainId cfg.chainID with
  | error => simp
  | ok =>
  unfold ReplayDetector.checkReplayV3
  by_cases same : tx.chainId = cfg.chainID
  · cases det.checkHash times tx.hash ws.height with
    | error => simp [same]
    | ok =>
      cases nonce : det.checkNonce cfg (tx.replaySender cfg) tx.nonce with
      | error => simp [same, nonce]
      | ok => cases validateForm cfg times tx <;> simp [same, nonce]
  · simp [same]

theorem passes_iff : Passes cfg tx chain ↔ Sound cfg (chain.now cfg) chain.world tx ∧
      Fresh cfg (chain.now cfg) chain.world.height tx chain.seen.detector := by
  unfold Passes validateTransaction
  cases amounts : normalizeTransactionAmounts tx with
  | error =>
    constructor
    · rintro ⟨_, _, ⟨⟩⟩
    · rintro ⟨sound, _⟩
      cases amounts.symm.trans sound.amounts
  | ok norm =>
  obtain rfl := normalizeTransactionAmounts_ok amounts
  have verdict := validateNormal_ok_iff cfg
    (chain.now cfg) chain.world chain.seen.detector tx.canonical
  constructor
  · rintro ⟨_, _, ran⟩
    dsimp only [ValidatingConfig.chain] at ran
    split at ran
    · cases ran
    · rename_i ok
      obtain ⟨matching, chainID, ⟨hash, nonce⟩, form, st⟩ := verdict.mp ok
      exact ⟨⟨amounts, matching, chainID, form, st⟩, ⟨hash, nonce⟩⟩
  · rintro ⟨sound, fresh⟩
    have ok := verdict.mpr
      ⟨sound.matching, sound.chainID, ⟨fresh.hash, fresh.nonce⟩, sound.form, sound.state⟩
    dsimp only [ValidatingConfig.chain]
    rw [ok]
    exact ⟨_, _, rfl⟩

def Chain.noting (cfg : ValidatingConfig) (times : ValidationTimes) (tx : Transaction)
    (chain : Chain ValidatorMemory) : Chain ValidatorMemory :=
  { chain with seen := { chain.seen with
      detector := chain.seen.detector.record cfg times
        (normalizeReplayAddress cfg tx.fromAddr) tx chain.world.height } }

variable {times : ValidationTimes} {forged : List Transaction} {det : ReplayDetector}

theorem validateForm_signature {cfg : ValidatorConfig} (ok : validateForm cfg times tx = .ok ()) :
    validateSignature cfg tx = .ok () := by
  unfold validateForm at ok
  simp only [Except.bind_ok_iff, Except.mapError_ok_iff] at ok
  obtain ⟨_, _, _, _, _, _, _, _, signed⟩ := ok
  exact signed

theorem validateTransaction_forged {forged : Transaction} (bad : Forged cfg forged) :
    ∃ calls, (validateTransaction cfg.chain forged chain).final = chain.atCall calls ∨
      Fresh cfg (chain.now cfg) chain.world.height forged chain.seen.detector ∧
      (validateTransaction cfg.chain forged chain).final =
        (chain.noting cfg (chain.now cfg) forged).atCall calls := by
  unfold validateTransaction
  cases amounts : normalizeTransactionAmounts forged with
  | error => exact ⟨chain.seen.calls, .inl rfl⟩
  | ok norm =>
  refine ⟨chain.seen.calls + 1, ?_⟩
  have refused : validateForm cfg
      (chain.now cfg) norm ≠ .ok () :=
    fun ok => bad norm amounts (validateForm_signature ok)
  obtain rfl := normalizeTransactionAmounts_ok amounts
  simp only [ValidatingConfig.chain, validateNormal]
  cases validateChainIDMatch forged.canonical.chainId cfg.chainID with
  | error => exact .inl rfl
  | ok =>
  rcases ReplayDetector.checkReplayV3_cases cfg
      (chain.now cfg) forged.canonical chain.world.height
      chain.seen.detector with ⟨_, replayed⟩ | ⟨_, hash, nonce, passed⟩
  · simp only [replayed]
    exact .inl rfl
  · simp only [passed]
    cases form : validateForm cfg (chain.now cfg) forged.canonical with
    | error => exact .inr ⟨⟨hash, nonce⟩, rfl⟩
    | ok => exact absurd form refused

def Chain.withDetector (chain : Chain ValidatorMemory) (det : ReplayDetector) :
    Chain ValidatorMemory :=
  { chain with seen := { chain.seen with detector := det } }

theorem afterPool_forged {times : Nat → ValidationTimes}
    (inv : ReplayDetector → Prop) (bad : ∀ tx ∈ forged, Forged cfg tx)
    (step : ∀ call, ∀ tx ∈ forged, ∀ det, inv det →
      Fresh cfg (times call) chain.world.height tx det →
      inv (det.record cfg (times call) (tx.replaySender cfg) tx chain.world.height))
    (start : inv chain.seen.detector) :
    ∃ det, inv det ∧ afterPool (cfg.atTimes times) forged chain = chain.withDetector det := by
  suffices run : ∀ (memory : ValidatorMemory), inv memory.detector → ∃ final, inv final.detector ∧
        validateEach (cfg.atTimes times) forged { chain with seen := memory } =
          { chain with seen := final } by
    obtain ⟨final, kept, ran⟩ := run chain.seen start
    refine ⟨final.detector, kept, ?_⟩
    unfold afterPool
    rw [ran]
    rfl
  induction forged with
  | nil => exact fun memory kept => ⟨memory, kept, rfl⟩
  | cons first _ ih =>
    intro memory kept
    have later := ih (fun tx listed => bad tx (List.mem_cons_of_mem first listed))
      (fun call tx listed => step call tx (List.mem_cons_of_mem first listed))
    have forgedFirst : Forged (cfg.atTimes times) first := bad first List.mem_cons_self
    rw [validateEach_cons]
    obtain ⟨calls, ended | ⟨fresh, ended⟩⟩ :=
      validateTransaction_forged forgedFirst
    · rw [ended]
      exact later ⟨memory.detector, calls⟩ kept
    · rw [ended]
      have noted := step memory.calls first List.mem_cons_self memory.detector kept fresh
      exact later ⟨_, calls⟩ noted

inductive Barred (cfg : ValidatorConfig) (times : ValidationTimes) (tx : Transaction)
    (det : ReplayDetector) : Prop where
  | hash (seen : (ReplayCache.live det.cache tx.hash times.has).isSome = true)
      (still : (ReplayCache.live det.cache tx.hash times.get).isSome = true) :
      Barred cfg times tx det
  | nonce (spent : ReplayDetector.Spent cfg det tx) : Barred cfg times tx det
  | gap (zero : cfg.replay.maxNonceGap = 0)
      (known : (det.accountNonces.find? (normalizeReplayAddress cfg tx.fromAddr)).isSome = true) :
      Barred cfg times tx det

section Detector

variable {cfg : ValidatorConfig} {times earlier : ValidationTimes} {height : Int64}
  {det : ReplayDetector} {forged : Transaction} {txHash : Bytes}

theorem checkHash_ok_iff : det.checkHash times txHash height = .ok () ↔
    ¬ ((ReplayCache.live det.cache txHash times.has).isSome = true ∧
      (ReplayCache.live det.cache txHash times.get).isSome = true) := by
  unfold ReplayDetector.checkHash
  cases ReplayCache.live det.cache txHash times.has <;>
    cases ReplayCache.live det.cache txHash times.get <;> simp

theorem checkNonce_ok_iff {sender : Address} {nonce : UInt64} :
    det.checkNonce cfg sender nonce = .ok () ↔
      ∀ previous, det.accountNonces.find? sender = some previous →
        previous.2 < nonce ∧ nonce - previous.2 ≤ cfg.replay.maxNonceGap := by
  unfold ReplayDetector.checkNonce
  cases found : det.accountNonces.find? sender with
  | none => simp
  | some previous =>
  dsimp only
  by_cases spent : nonce ≤ previous.2
  · rw [if_pos spent]
    simp [UInt64.not_lt.mpr spent]
  have above := UInt64.not_le.mp spent
  rw [if_neg spent]
  unfold validateNonceSequence
  rw [if_neg (UInt64.not_lt.mpr (UInt64.le_of_lt above))]
  by_cases wide : cfg.replay.maxNonceGap < nonce - previous.2
  · rw [if_pos wide]
    simp [wide]
  · rw [if_neg wide]
    simp [above, UInt64.not_lt.mp wide]

theorem checkNonce_next {sender : Address} {nonce : UInt64} {low : Address × UInt64}
    (found : det.accountNonces.find? sender = some low) (next : nonce.toNat = low.2.toNat + 1)
    (open_ : cfg.replay.maxNonceGap ≠ 0) : det.checkNonce cfg sender nonce = .ok () := by
  apply checkNonce_ok_iff.mpr
  intro previous known
  cases found.symm.trans known
  have above : low.2 < nonce := UInt64.lt_iff_toNat_lt.mpr (by omega)
  have distance := UInt64.toNat_sub_of_le _ _ (UInt64.le_of_lt above)
  have positive : cfg.replay.maxNonceGap.toNat ≠ 0 := fun zero => open_ (UInt64.toNat_inj.mp zero)
  exact ⟨above, UInt64.le_iff_toNat_le.mpr (by omega)⟩

theorem fresh_iff : Fresh cfg times height tx det ↔
    ¬ ((ReplayCache.live det.cache tx.hash times.has).isSome = true ∧
      (ReplayCache.live det.cache tx.hash times.get).isSome = true) ∧
    ∀ previous, det.accountNonces.find? (tx.replaySender cfg) = some previous →
      previous.2 < tx.nonce ∧ tx.nonce - previous.2 ≤ cfg.replay.maxNonceGap := by
  rw [← checkHash_ok_iff, ← checkNonce_ok_iff]
  exact ⟨fun fresh => ⟨fresh.hash, fresh.nonce⟩, fun ok => ⟨ok.1, ok.2⟩⟩

theorem Barred.not_fresh (barred : Barred cfg times tx det) : ¬ Fresh cfg times height tx det := by
  intro fresh
  obtain ⟨unseen, nonces⟩ := fresh_iff.mp fresh
  cases barred with
  | hash seen still => exact unseen ⟨seen, still⟩
  | nonce spent =>
    obtain ⟨previous, found, below⟩ := spent
    exact UInt64.not_lt.mpr below (nonces previous found).1
  | gap zero known =>
    obtain ⟨previous, found⟩ := Option.isSome_iff_exists.mp known
    obtain ⟨above, narrow⟩ := nonces previous found
    rw [zero] at narrow
    have distance := UInt64.toNat_sub_of_le _ _ (UInt64.le_of_lt above)
    rw [UInt64.lt_iff_toNat_lt] at above
    rw [UInt64.le_iff_toNat_le] at narrow
    have none : UInt64.toNat 0 = 0 := rfl
    omega

theorem live_record {later : Int} (cleaned : earlier.cleanup ≤ later)
    (ne : forged.hash ≠ txHash) (sender : Address) :
    ReplayCache.live (det.record cfg earlier sender forged height).cache txHash later =
      ReplayCache.live det.cache txHash later := by
  change ReplayCache.live (ReplayCache.add _ _ _) txHash later = _
  rw [ReplayCache.live_add _ cleaned]
  unfold ReplayCache.live
  rw [KeyedMap.find?_insert, if_neg ne]

theorem Barred.record (before : earlier.Before times)
    (fresh : Fresh cfg earlier height forged det) (barred : Barred cfg times tx det) :
    Barred cfg times tx (det.record cfg earlier
      (normalizeReplayAddress cfg forged.fromAddr) forged height) := by
  cases barred with
  | hash seen still =>
    have ne : forged.hash ≠ tx.hash := by
      intro same
      refine checkHash_ok_iff.mp fresh.hash ⟨?_, ?_⟩
      · rw [same]
        exact ReplayCache.live_earlier seen (before earlier.has (by simp)).1
      · rw [same]
        exact ReplayCache.live_earlier still (before earlier.get (by simp)).2
    have cleaned := before earlier.cleanup (by simp)
    apply Barred.hash
    · rw [live_record cleaned.1 ne]
      exact seen
    · rw [live_record cleaned.2 ne]
      exact still
  | nonce spent => exact .nonce (ReplayDetector.record_keeps earlier forged height spent fresh.nonce)
  | gap zero known =>
    apply Barred.gap zero
    rw [ReplayDetector.record_nonces, KeyedMap.find?_insert]
    split
    · rfl
    · exact known

end Detector

def forge (tx : Transaction) (hash : Bytes) (nonce : UInt64) : Transaction :=
  { tx with hash, nonce, signature := [] }

theorem forge_forged (hash : Bytes) (nonce : UInt64) : Forged cfg (forge tx hash nonce) := by
  intro norm amounts signed
  obtain rfl := normalizeTransactionAmounts_ok amounts
  cases signed

theorem normalizeTransactionAmounts_forge
    (amounts : normalizeTransactionAmounts tx = .ok tx.canonical) (hash : Bytes) (nonce : UInt64) :
    normalizeTransactionAmounts (forge tx hash nonce) = .ok (forge tx hash nonce).canonical := by
  obtain ⟨_, amountOk, rest⟩ := Except.bind_ok_iff.mp amounts
  obtain ⟨_, gasPriceOk, finished⟩ := Except.bind_ok_iff.mp rest
  cases finished
  exact Except.bind_ok_iff.mpr ⟨_, amountOk, Except.bind_ok_iff.mpr ⟨_, gasPriceOk, rfl⟩⟩

def Forging (cfg : ValidatorConfig) (times : ValidationTimes) (height : Int64) (tx : Transaction)
    (det after : ReplayDetector) : Prop :=
  ∃ hash nonce, det.cache.find? hash = none ∧ hash ≠ tx.hash ∧
    det.checkNonce cfg (normalizeReplayAddress cfg tx.fromAddr) nonce = .ok () ∧
    after = det.record cfg times (normalizeReplayAddress cfg tx.fromAddr)
      (forge tx hash nonce) height

theorem exists_unused (cache : KeyedMap CachedTransaction.txHash) (avoid : Bytes) :
    ∃ hash, cache.find? hash = none ∧ hash ≠ avoid := by
  obtain ⟨hash, unused⟩ := Infinite.exists_notMem_finset (insert avoid cache.keys.toFinset)
  rw [Finset.mem_insert, not_or, List.mem_toFinset] at unused
  exact ⟨hash, KeyedMap.find?_eq_none.mpr unused.2, unused.1⟩

section Detector

variable {cfg : ValidatorConfig} {times : ValidationTimes} {height : Int64} {det : ReplayDetector}

theorem exists_forging {nonce : UInt64}
    (ok : det.checkNonce cfg (tx.replaySender cfg) nonce = .ok ()) :
    ∃ after, Forging cfg times height tx det after ∧
      after.accountNonces.find? (tx.replaySender cfg) =
        some (normalizeReplayAddress cfg tx.fromAddr, nonce) ∧ ∀ later, times.cleanup ≤ later →
        ReplayCache.live after.cache tx.hash later = ReplayCache.live det.cache tx.hash later := by
  obtain ⟨hash, unused, ne⟩ := exists_unused det.cache tx.hash
  refine ⟨_, ⟨hash, nonce, unused, ne, ok, rfl⟩, ?_, ?_⟩
  · rw [ReplayDetector.record_nonces, KeyedMap.find?_insert, if_pos rfl]
    rfl
  · intro later cleaned
    exact live_record cleaned ne _

theorem climb (times : ValidationTimes) (height : Int64) (open_ : cfg.replay.maxNonceGap ≠ 0)
    (steps : Nat) {low : Address × UInt64}
    (found : det.accountNonces.find? (tx.replaySender cfg) = some low)
    (bounded : low.2.toNat + steps < 2 ^ 64) :
    ∃ after reached, Relation.ReflTransGen (Forging cfg times height tx) det after ∧
      after.accountNonces.find? (tx.replaySender cfg) = some reached ∧
      reached.2.toNat = low.2.toNat + steps ∧ ∀ later, times.cleanup ≤ later →
        ReplayCache.live after.cache tx.hash later = ReplayCache.live det.cache tx.hash later := by
  induction steps generalizing det low with
  | zero => exact ⟨det, low, .refl, found, rfl, fun _ _ => rfl⟩
  | succ steps ih =>
    have next : (low.2 + 1).toNat = low.2.toNat + 1 := by
      rw [UInt64.toNat_add, Nat.mod_eq_of_lt]
      · rfl
      · change low.2.toNat + 1 < 2 ^ 64
        omega
    obtain ⟨_, forging, raised, same⟩ := exists_forging (checkNonce_next found next open_)
    obtain ⟨after, reached, more, known, height_, sameAfter⟩ := ih raised (by dsimp only; omega)
    refine ⟨after, reached, .head forging more, known, ?_, ?_⟩
    · dsimp only at height_
      omega
    · intro later cleaned
      exact (sameAfter later cleaned).trans (same later cleaned)

end Detector

theorem validateTransaction_forge {calls : Nat} {hash : Bytes} {nonce : UInt64}
    (sound : Sound cfg (chain.now cfg) chain.world tx) (unused : det.cache.find? hash = none)
    (ok : det.checkNonce cfg (tx.replaySender cfg) nonce = .ok ()) :
    (validateTransaction (cfg.atTimes fun _ => times).chain (forge tx hash nonce)
      { chain with seen := ⟨det, calls⟩ }).final =
      { chain with seen := ⟨det.record cfg times
        (tx.replaySender cfg) (forge tx hash nonce)
        chain.world.height, calls + 1⟩ } := by
  have amounts := normalizeTransactionAmounts_forge sound.amounts hash nonce
  have refused : validateForm cfg times
      (forge tx hash nonce).canonical ≠ .ok () := fun ok =>
    forge_forged hash nonce _ amounts (validateForm_signature ok)
  have unseen : det.checkHash times hash chain.world.height = .ok () := by
    rw [checkHash_ok_iff, ReplayCache.live, unused]
    rintro ⟨⟨⟩, _⟩
  have recorded : det.checkReplayV3 cfg times
      (forge tx hash nonce).canonical chain.world.height = _ :=
    ReplayDetector.checkReplayV3_passes sound.chainID unseen ok
  have matching : validateChainIDMatch (forge tx hash nonce).canonical.chainId cfg.chainID =
    .ok () := sound.matching
  unfold validateTransaction
  rw [amounts]
  simp only [ValidatingConfig.chain, ValidatingConfig.atTimes, validateNormal, matching, recorded]
  cases form : validateForm cfg times (forge tx hash nonce).canonical with
  | ok => exact absurd form refused
  | error => rfl

theorem afterPool_forging (sound : Sound cfg (chain.now cfg) chain.world tx)
    (led : Relation.ReflTransGen
      (Forging cfg times chain.world.height tx) chain.seen.detector det) :
    ∃ forged, (∀ other ∈ forged, Forged cfg other) ∧
      afterPool (cfg.atTimes fun _ => times) forged chain = chain.withDetector det := by
  suffices run : ∀ start calls, Relation.ReflTransGen
      (Forging cfg times chain.world.height tx) start det →
      ∃ forged final, (∀ other ∈ forged, Forged cfg other) ∧
        validateEach (cfg.atTimes fun _ => times) forged { chain with seen := ⟨start, calls⟩ } =
          { chain with seen := ⟨det, final⟩ } by
    obtain ⟨forged, final, bad, ran⟩ := run chain.seen.detector chain.seen.calls led
    refine ⟨forged, bad, ?_⟩
    unfold afterPool
    rw [ran]
    rfl
  intro start calls steps
  induction steps using Relation.ReflTransGen.head_induction_on generalizing calls with
  | refl => exact ⟨[], calls, fun _ none => absurd none List.not_mem_nil, rfl⟩
  | head first _ ih =>
    obtain ⟨hash, nonce, unused, _, ok, rfl⟩ := first
    obtain ⟨forged, final, bad, ran⟩ := ih (calls + 1)
    refine ⟨forge tx hash nonce :: forged, final, ?_, ?_⟩
    · intro other listed
      rcases List.mem_cons.mp listed with rfl | later
      · exact forge_forged hash nonce
      · exact bad other later
    · rw [validateEach_cons, ← ran]
      congr 1
      exact validateTransaction_forge sound unused ok

def ValidationTimes.still (now : Int) : ValidationTimes := ⟨now, now, now, now, now, now, now⟩

theorem ValidationTimes.still_before (times : ValidationTimes) :
    (still (min times.has times.get)).Before times := by
  intro reading listed
  simp only [still, List.mem_cons, List.not_mem_nil, or_false, or_self] at listed
  subst listed
  exact ⟨min_le_left _ _, min_le_right _ _⟩

def Unblocked (cfg : ValidatingConfig) (tx : Transaction) (chain : Chain ValidatorMemory) :
    Prop :=
  ∀ (times : Nat → ValidationTimes) (forged : List Transaction),
    (∀ call, (times call).Before (cfg.times chain.seen.calls)) →
    (∀ other ∈ forged, Forged cfg other) →
    (Passes cfg tx (afterPool (cfg.atTimes times) forged chain) ↔ Passes cfg tx chain)

theorem passes_withDetector_iff : Passes cfg tx (chain.withDetector det) ↔
      Sound cfg (chain.now cfg) chain.world tx ∧
        Fresh cfg (chain.now cfg) chain.world.height tx det :=
  passes_iff

theorem unblocked_of_barred (barred : Sound cfg (chain.now cfg) chain.world tx →
      Barred cfg (chain.now cfg) tx chain.seen.detector) : Unblocked cfg tx chain := by
  intro times forged before bad
  by_cases sound : Sound cfg (chain.now cfg) chain.world tx
  · obtain ⟨det, kept, ended⟩ := afterPool_forged
      (Barred cfg (chain.now cfg) tx) bad
      (fun call _ _ _ held fresh => held.record (before call) fresh) (barred sound)
    rw [ended, passes_withDetector_iff, passes_iff]
    constructor
    · exact fun passed => absurd passed.2 kept.not_fresh
    · exact fun passed => absurd passed.2 (barred sound).not_fresh
  · obtain ⟨_, _, ended⟩ := afterPool_forged (fun _ => True) bad
      (fun _ _ _ _ _ _ => trivial) trivial
    rw [ended, passes_withDetector_iff, passes_iff]
    constructor <;> exact fun passed => absurd passed.1 sound

theorem Unblocked.forging (unblocked : Unblocked cfg tx chain)
    (sound : Sound cfg (chain.now cfg) chain.world tx) (led : Relation.ReflTransGen (Forging cfg
      (.still (min (chain.now cfg).has (chain.now cfg).get))
      chain.world.height tx) chain.seen.detector det) :
    Fresh cfg (chain.now cfg) chain.world.height tx det ↔
      Fresh cfg (chain.now cfg) chain.world.height tx chain.seen.detector := by
  obtain ⟨forged, bad, ended⟩ := afterPool_forging sound led
  have same := unblocked _ forged (fun _ => ValidationTimes.still_before (chain.now cfg)) bad
  rw [ended, passes_withDetector_iff, passes_iff] at same
  constructor
  · exact fun fresh => (same.mp ⟨sound, fresh⟩).2
  · exact fun fresh => (same.mpr ⟨sound, fresh⟩).2

theorem Unblocked.barred (unblocked : Unblocked cfg tx chain)
    (sound : Sound cfg (chain.now cfg) chain.world tx) :
    Barred cfg (chain.now cfg) tx chain.seen.detector := by
  by_contra free
  have hash : chain.seen.detector.checkHash (chain.now cfg) tx.hash
      chain.world.height = .ok () :=
    checkHash_ok_iff.mpr fun live => free (.hash live.1 live.2)
  by_cases nonce : chain.seen.detector.checkNonce cfg (tx.replaySender cfg) tx.nonce = .ok ()
  · -- the forger takes the nonce
    obtain ⟨after, forging, taken, _⟩ := exists_forging nonce
    have spent : Barred cfg (chain.now cfg) tx after :=
      .nonce ⟨_, taken, UInt64.le_refl _⟩
    exact spent.not_fresh ((unblocked.forging sound (.single forging)).mpr ⟨hash, nonce⟩)
  · -- the nonce is too far ahead, and the forger brings the recorded one closer
    obtain ⟨previous, found, far⟩ : ∃ previous, chain.seen.detector.accountNonces.find?
        (tx.replaySender cfg) = some previous ∧
        ¬ (previous.2 < tx.nonce ∧ tx.nonce - previous.2 ≤ cfg.replay.maxNonceGap) := by
      rw [checkNonce_ok_iff] at nonce
      simpa using nonce
    have above : previous.2 < tx.nonce :=
      UInt64.not_le.mp fun below => free (.nonce ⟨previous, found, below⟩)
    have open_ : cfg.replay.maxNonceGap ≠ 0 := by
      intro zero
      refine free (.gap zero ?_)
      rw [found]
      rfl
    have ordered := UInt64.lt_iff_toNat_lt.mp above
    have bounded := tx.nonce.toNat_lt
    obtain ⟨after, reached, led, known, _, same⟩ := climb
      (.still (min (chain.now cfg).has (chain.now cfg).get))
      chain.world.height open_ (tx.nonce.toNat - previous.2.toNat - 1) found (by omega)
    have fresh : Fresh cfg (chain.now cfg) chain.world.height tx
        after := by
      constructor
      · rw [checkHash_ok_iff, same _ (min_le_left _ _), same _ (min_le_right _ _)]
        exact checkHash_ok_iff.mp hash
      · exact checkNonce_next known (by omega) open_
    have before := (unblocked.forging sound led).mp fresh
    exact far (checkNonce_ok_iff.mp before.nonce previous found)

theorem passes_after_unrelated {times : Nat → ValidationTimes}
    (before : ∀ call, (times call).Before (chain.now cfg))
    (bad : ∀ other ∈ forged, Forged cfg other) (unrelated : ∀ other ∈ forged, other.hash ≠ tx.hash ∧
      normalizeReplayAddress cfg other.fromAddr ≠ normalizeReplayAddress cfg tx.fromAddr) :
    Passes cfg tx (afterPool (cfg.atTimes times) forged chain) ↔ Passes cfg tx chain := by
  obtain ⟨det, ⟨nonces, seen, still⟩, ended⟩ := afterPool_forged
    (fun det =>
      det.accountNonces.find? (tx.replaySender cfg) =
        chain.seen.detector.accountNonces.find? (tx.replaySender cfg) ∧
      ReplayCache.live det.cache tx.hash (chain.now cfg).has =
        ReplayCache.live chain.seen.detector.cache tx.hash (chain.now cfg).has ∧
      ReplayCache.live det.cache tx.hash (chain.now cfg).get =
        ReplayCache.live chain.seen.detector.cache tx.hash (chain.now cfg).get)
    bad
    (by
      rintro call other listed det ⟨nonces, seen, still⟩ _
      obtain ⟨hash, sender⟩ := unrelated other listed
      have cleaned := before call (times call).cleanup (by simp)
      refine ⟨?_, ?_, ?_⟩
      · rw [ReplayDetector.record_nonces, KeyedMap.find?_insert, if_neg sender]
        exact nonces
      · rw [live_record cleaned.1 hash]
        exact seen
      · rw [live_record cleaned.2 hash]
        exact still)
    ⟨rfl, rfl, rfl⟩
  rw [ended, passes_withDetector_iff, passes_iff, fresh_iff, fresh_iff, nonces, seen, still]

/-- Forged transactions make no difference exactly to those that are refused anyway. -/
theorem forged_transactions_block (cfg : ValidatingConfig) (tx : Transaction)
    (chain : Chain ValidatorMemory) : (Unblocked cfg tx chain ↔
      (Sound cfg (cfg.times chain.seen.calls) chain.world tx →
        Barred cfg (cfg.times chain.seen.calls) tx chain.seen.detector)) ∧
    (Passes cfg tx chain → ¬ Unblocked cfg tx chain) ∧
    ∀ (times : Nat → ValidationTimes) (forged : List Transaction),
      (∀ call, (times call).Before (cfg.times chain.seen.calls)) →
      (∀ other ∈ forged, Forged cfg other) → (∀ other ∈ forged, other.hash ≠ tx.hash ∧
        normalizeReplayAddress cfg other.fromAddr ≠ normalizeReplayAddress cfg tx.fromAddr) →
      (Passes cfg tx (afterPool (cfg.atTimes times) forged chain) ↔ Passes cfg tx chain) := by
  refine ⟨⟨Unblocked.barred, unblocked_of_barred⟩, ?_, ?_⟩
  · intro passed unblocked
    obtain ⟨sound, fresh⟩ := passes_iff.mp passed
    exact (unblocked.barred sound).not_fresh fresh
  · intro times forged before bad unrelated
    exact passes_after_unrelated before bad unrelated

end

theorem unsigned_copy_blocks :
    let transfer := sampleTransfer [1]
    let copy := { transfer with signature := [] }
    Forged sampleValidating copy ∧ Passes sampleValidating transfer sampleBank ∧
      ¬ Passes sampleValidating transfer (afterPool sampleValidating [copy] sampleBank) := by
  refine ⟨forge_forged _ _, ?_, ?_⟩
  · have returned : (validateTransaction sampleValidating.chain (sampleTransfer [1])
        sampleBank).value?.isSome = true := by
      decide +kernel
    obtain ⟨norm, ran⟩ := EStateM.Result.ok_of_value? returned
    exact ⟨norm, _, ran⟩
  · rintro ⟨_, _, ran⟩
    have refused : (validateTransaction sampleValidating.chain (sampleTransfer [1])
        (afterPool sampleValidating [{ sampleTransfer [1] with signature := [] }] sampleBank)
        ).value?.isSome = false := by
      decide +kernel
    rw [ran] at refused
    cases refused

end Thrylos
