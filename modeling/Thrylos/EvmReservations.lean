import Thrylos.ContractRuns
import Thrylos.Library.Runs

/-!
What the EVM executors keep between transactions: the gas window of `core/evm/revm_executor.go` and
`reserved_nonces` of `revm_wrapper/src/lib.rs`.
-/

namespace Thrylos

/-- A refund names the reservation it gives back from, by its place among the admitted ones. -/
inductive GasEvent where
  | reserve (gasLimit : UInt64)
  | refund (place : Nat) (gasRefund : UInt64) (releaseTx : Bool)

/-- `current` says that the reservation was made in the window that is open. -/
structure Reservation where
  current : Bool
  left : Nat

namespace Reservation

def counted (reservation : Reservation) : Nat :=
  if reservation.current then reservation.left else 0

def kept : List Reservation → Nat
  | [] => 0
  | first :: rest => first.counted + kept rest

theorem kept_append (reservations : List Reservation) (added : Reservation) :
    kept (reservations ++ [added]) = kept reservations + added.counted := by
  induction reservations with
  | nil => simp [kept]
  | cons first _ ih => simp [kept, ih, Nat.add_assoc]

theorem kept_set {reservations : List Reservation} {place : Nat} {old : Reservation}
    (found : reservations[place]? = some old) (new : Reservation) :
    kept (reservations.set place new) + old.counted = kept reservations + new.counted := by
  induction reservations generalizing place with
  | nil => simp at found
  | cons first rest ih =>
    cases place with
    | zero =>
      cases found
      simp only [List.set_cons_zero, kept]
      omega
    | succ place =>
      have others := ih found
      simp only [List.set_cons_succ, kept]
      omega

theorem kept_ended (reservations : List Reservation) :
    kept (reservations.map ({ · with current := false })) = 0 := by
  induction reservations with
  | nil => rfl
  | cons _ _ ih => simp [kept, counted, ih]

end Reservation

open Reservation (kept)

structure GasBooks where
  world : WorldState
  reservations : List Reservation

namespace GasBooks

variable (cfg : NodeConfig) (books : GasBooks)

/-- The reservations as the next call finds them: none is current once the window is over. -/
def rolled : List Reservation :=
  if windowExpired books.world.evmGas (cfg.clock books.world.ticks)
      (circuitBreakerLimits books.world.governance).2.2 then
    books.reservations.map ({ · with current := false })
  else books.reservations

def step : GasEvent → GasBooks
  | .reserve gasLimit =>
    match checkAndReserveWindowGas cfg gasLimit books.world with
    | .ok none world => ⟨world, books.rolled cfg ++ [⟨true, gasLimit.toNat⟩]⟩
    | result => ⟨result.final, books.rolled cfg⟩
  | .refund place gasRefund releaseTx =>
    match (books.rolled cfg)[place]? with
    | none => books
    | some reservation =>
      -- Nobody refunds more than is left of the reservation.
      if reservation.left < gasRefund.toNat then books
      else {
        world := (refundWindowReservation cfg gasRefund releaseTx books.world).final
        reservations := (books.rolled cfg).set place
          { reservation with left := reservation.left - gasRefund.toNat } }

def Exact : Prop :=
  books.world.evmGas.windowGasUsed.toNat = kept books.reservations ∧
    kept books.reservations ≤ (circuitBreakerLimits books.world.governance).1.toNat

def Proper : GasEvent → Prop
  | .reserve gasLimit =>
    let (maxGas, maxTx, _) := circuitBreakerLimits books.world.governance
    maxTx < (books.world.windowGas cfg).windowTxCount + 1 ∨
      kept (books.rolled cfg) + gasLimit.toNat < 2 ^ 64 ∨
      maxGas.toNat + 2 ^ 64 < kept (books.rolled cfg) + gasLimit.toNat
  | .refund place gasRefund _ => ∀ reservation ∈ (books.rolled cfg)[place]?,
      gasRefund.toNat ≤ reservation.left →
      reservation.current ∨ gasRefund = 0 ∨ kept (books.rolled cfg) = 0

variable {books}

theorem Exact.now (before : books.Exact) :
    (books.world.windowGas cfg).windowGasUsed.toNat = kept (books.rolled cfg) ∧
      kept (books.rolled cfg) ≤ (circuitBreakerLimits books.world.governance).1.toNat := by
  unfold WorldState.windowGas rolled
  split
  · rw [Reservation.kept_ended]
    exact ⟨rfl, Nat.zero_le _⟩
  · exact before

theorem Exact.reserve_iff (before : books.Exact) (gasLimit : UInt64) :
    (books.step cfg (.reserve gasLimit)).Exact ↔ books.Proper cfg (.reserve gasLimit) := by
  obtain ⟨counted, bounded⟩ := before.now cfg
  have sum := UInt64.toNat_add (books.world.windowGas cfg).windowGasUsed gasLimit
  have limit := (circuitBreakerLimits books.world.governance).1.toNat_lt
  have size := gasLimit.toNat_lt
  unfold step Proper
  dsimp only
  by_cases count : (circuitBreakerLimits books.world.governance).2.1 <
        (books.world.windowGas cfg).windowTxCount + 1
  · obtain ⟨err, refused⟩ := checkAndReserveWindowGas_full (.inl count)
    rw [refused]
    exact iff_of_true ⟨counted, bounded⟩ (.inl count)
  by_cases window : (circuitBreakerLimits books.world.governance).1 <
        (books.world.windowGas cfg).windowGasUsed + gasLimit
  · obtain ⟨err, refused⟩ := checkAndReserveWindowGas_full (.inr window)
    rw [refused]
    refine iff_of_true ⟨counted, bounded⟩ (.inr ?_)
    have beyond := UInt64.lt_iff_toNat_lt.mp window
    omega
  · rw [checkAndReserveWindowGas_room count window]
    have limited := UInt64.le_iff_toNat_le.mp (UInt64.not_lt.mp window)
    simp only [Exact, WorldState.windowed, Reservation.kept_append, Reservation.counted, if_true,
      count, false_or]
    omega

theorem Exact.refunded (before : books.Exact) (gasRefund : UInt64) (releaseTx : Bool) :
    ∃ world, (refundWindowReservation cfg gasRefund releaseTx books.world).final = world ∧
      world.evmGas.windowGasUsed.toNat = kept (books.rolled cfg) - gasRefund.toNat ∧
      world.governance = books.world.governance := by
  refine ⟨_, rfl, ?_⟩
  unfold refundWindowReservation rolled
  rw [bind_ok (show readClock cfg books.world = .ok _ _ from rfl), modify_ok]
  dsimp only [EStateM.Result.final]
  split
  · rw [Reservation.kept_ended]
    exact ⟨(Nat.zero_sub _).symm, rfl⟩
  · refine ⟨?_, rfl⟩
    rw [← before.1]
    dsimp only
    split_ifs with all
    · exact (Nat.sub_eq_zero_of_le (UInt64.le_iff_toNat_le.mp all)).symm
    · exact UInt64.toNat_sub_of_le _ _ (UInt64.le_of_lt (UInt64.not_le.mp all))

theorem Exact.refund_iff (before : books.Exact) (place : Nat) (gasRefund : UInt64)
    (releaseTx : Bool) : (books.step cfg (.refund place gasRefund releaseTx)).Exact ↔
      books.Proper cfg (.refund place gasRefund releaseTx) := by
  obtain ⟨_, bounded⟩ := before.now cfg
  obtain ⟨world, final, left, governed⟩ := before.refunded cfg gasRefund releaseTx
  simp only [step, Proper, final]
  cases found : (books.rolled cfg)[place]? with
  | none => exact iff_of_true before (by simp)
  | some reservation =>
  simp only [Option.mem_some_iff, forall_eq']
  split_ifs with more
  · exact iff_of_true before fun enough => absurd more (Nat.not_lt.mpr enough)
  · have rest := Reservation.kept_set found
      { reservation with left := reservation.left - gasRefund.toNat }
    simp only [Exact, left, governed, ← UInt64.toNat_inj, UInt64.toNat_zero]
    cases own : reservation.current with
    | true =>
      simp only [Reservation.counted, own, if_true] at rest
      exact iff_of_true ⟨by omega, by omega⟩ fun _ => .inl rfl
    | false =>
      simp only [Reservation.counted, own, Bool.false_eq_true, if_false] at rest
      simp only [Bool.false_eq_true, false_or]
      omega

def new (ws : WorldState) : GasBooks where
  world := { ws with evmGas := ⟨0, 0, none, 0, 0⟩ }
  reservations := []

def run (cfg : NodeConfig) (ws : WorldState) (events : List GasEvent) : GasBooks :=
  events.foldl (step cfg) (new ws)

end GasBooks

open GasBooks in
/-- At each point of a run the counter is the gas held in its window, and within the limit, exactly
if every event up to there is proper. -/
theorem window_gas_exact_iff (cfg : NodeConfig) (ws : WorldState) (events : List GasEvent) :
    (∀ earlier, earlier <+: events → (run cfg ws earlier).Exact) ↔
      ∀ earlier event, earlier ++ [event] <+: events → (run cfg ws earlier).Proper cfg event := by
  refine good_along_iff ⟨rfl, Nat.zero_le _⟩ (fun books event before => ?_) events
  cases event with
  | reserve gasLimit => exact before.reserve_iff cfg gasLimit
  | refund place gasRefund releaseTx => exact before.refund_iff cfg place gasRefund releaseTx

open GasBooks in
/-- A refund of an earlier window lets more in than the limit, and so does a sum that wraps. -/
theorem window_gas_exceeds_its_limit :
    let cfg := { sampleConfig with clock := fun ticks => if ticks = 0 then 0 else 10000000000 }
    let late := run cfg (sampleTip []) [.reserve 50, .reserve 300000000, .refund 0 50 false,
      .reserve 50]
    let wrapped := run cfg (sampleTip []) [.reserve 50, .reserve 50, .reserve (-50)]
    (late.world.evmGas.windowGasUsed = 300000000 ∧ kept late.reservations = 300000050) ∧
      kept wrapped.reservations = 2 ^ 64 := by
  decide +kernel

/-- One account: the nonce of the chain and the entry of `reserved_nonces`. -/
structure NonceReservations where
  current : UInt64
  reserved : List UInt64

inductive NonceEvent where
  | reserve
  | release (nonce : UInt64)
  | increase (nonce : UInt64)

namespace NonceReservations

variable (st : NonceReservations)

def maxNonce? : Option Nat := (st.reserved.map UInt64.toNat).max?

/-- A release build wraps after the last nonce. -/
def getNextNonce : UInt64 :=
  (st.maxNonce?.map fun maxNonce => UInt64.ofNat (maxNonce + 1)).getD st.current

def reserveNonce : UInt64 × NonceReservations :=
  (st.getNextNonce, { st with reserved := st.reserved ++ [st.getNextNonce] })

def releaseNonce (nonce : UInt64) : NonceReservations :=
  { st with reserved := st.reserved.filter (· ≠ nonce) }

def step : NonceEvent → NonceReservations
  | .reserve => st.reserveNonce.2
  | .release nonce => st.releaseNonce nonce
  | .increase nonce => { st with current := max st.current nonce }

def run (current : UInt64) (events : List NonceEvent) : NonceReservations :=
  events.foldl step ⟨current, []⟩

def IsSmallest (nonce : UInt64) : Prop :=
  (st.current ≤ nonce ∧ nonce ∉ st.reserved) ∧
    ∀ other, st.current ≤ other → other ∉ st.reserved → nonce ≤ other

def Gapless : Prop := ∀ last, st.maxNonce? = some last →
  if last + 1 = 2 ^ 64 then st.current = 0 ∧ 0 ∉ st.reserved
  else st.current.toNat ≤ last + 1 ∧
    ∀ nonce, st.current ≤ nonce → nonce.toNat ≤ last → nonce ∈ st.reserved

theorem isSmallest_getNextNonce_iff : st.IsSmallest st.getNextNonce ↔ st.Gapless := by
  unfold IsSmallest Gapless getNextNonce
  cases found : st.maxNonce? with
  | none =>
    have none_ : st.reserved = [] := by simpa [maxNonce?] using found
    simp [none_]
  | some last =>
    obtain ⟨listed, top⟩ := List.max?_eq_some_iff.mp found
    obtain ⟨greatest, _, rfl⟩ := List.mem_map.mp listed
    have bound := greatest.toNat_lt
    simp only [Option.map_some, Option.getD_some, Option.some.injEq, forall_eq']
    split_ifs with wraps
    · rw [wraps]
      simp
    · have next : (UInt64.ofNat (greatest.toNat + 1)).toNat = greatest.toNat + 1 :=
        UInt64.toNat_ofNat_of_lt' (lt_of_le_of_ne bound wraps)
      have free : UInt64.ofNat (greatest.toNat + 1) ∉ st.reserved := fun mem => by
        have le := top _ (List.mem_map_of_mem mem)
        omega
      rw [and_iff_left free]
      simp only [UInt64.le_iff_toNat_le, next]
      refine and_congr_right fun _ => forall₂_congr fun nonce _ => ?_
      rw [← not_imp_not, not_not, not_le, Nat.lt_succ_iff]

end NonceReservations

open NonceReservations in
/-- After any events the next nonce is the smallest free one exactly if there is no gap. -/
theorem reserved_nonces_smallest_iff (current : UInt64) (events : List NonceEvent) :
    let st := run current events
    st.IsSmallest st.getNextNonce ∧ st.IsSmallest st.reserveNonce.1 ↔ st.Gapless := by
  intro st
  exact (and_self_iff).trans st.isSmallest_getNextNonce_iff

open NonceReservations in
/-- A nonce given back is not used again, and one below the chain's is handed out. -/
theorem reserved_nonces_leave_gaps :
    let released := run 0 [.reserve, .reserve, .release 0]
    let stale := run 0 [.reserve, .increase 5]
    (released.getNextNonce = 2 ∧ 0 ∉ released.reserved) ∧
      stale.getNextNonce = 1 ∧ stale.current = 5 := by
  decide +kernel

end Thrylos
