import Mathlib.Algebra.GroupWithZero.Nat
import Thrylos.Proposer

/-!
The overflow-checked arithmetic of `core/math/safemath.go`. A product is taken with wrap-around and
divided back, which tells the exact products from the wrapped ones.
-/

namespace Thrylos

def maxUint64 : UInt64 := 0xFFFFFFFFFFFFFFFF

def add64 (a b : UInt64) : Except String UInt64 :=
  if maxUint64 - b < a then
    .error s!"overflow in Add64({a}, {b}): {a} + {b} exceeds MaxUint64 ({maxUint64})"
  else .ok (a + b)

def mul64 (a b : UInt64) : Except String UInt64 :=
  if a = 0 ∨ b = 0 then .ok 0
  else
    let result := a * b
    if result / b ≠ a then
      .error s!"overflow in Mul64({a}, {b}): {a} * {b} exceeds MaxUint64 ({maxUint64})"
    else .ok result

/-- The loops of `AddMany64` and `Pow64`: each value is taken into the result in turn. -/
def accumulate (step : UInt64 → UInt64 → Except String UInt64) (context : Nat → String)
    (result : UInt64) (position : Nat) : List UInt64 → Except String UInt64
  | [] => .ok result
  | value :: rest => do
    let newResult ← (step result value).mapError (context position ++ ·)
    accumulate step context newResult (position + 1) rest

def addMany64 : List UInt64 → Except String UInt64
  | [] => .ok 0
  | first :: rest => accumulate add64 (fun i => s!"overflow at position {i}: ") first 1 rest

def mulAdd64 (a b c : UInt64) : Except String UInt64 := do
  let product ← (mul64 a b).mapError ("multiplication overflow in MulAdd64: " ++ ·)
  (add64 product c).mapError ("addition overflow in MulAdd64 after multiplication: " ++ ·)

def mulDiv64 (a b c : UInt64) : Except String UInt64 :=
  if c = 0 then .error "division by zero in MulDiv64"
  else
    let result := a.toNat * b.toNat / c.toNat
    if result < UInt64.size then .ok (.ofNat result)
    else .error s!"overflow in MulDiv64({a}, {b}): result ({result}) exceeds MaxUint64"

def pow64 (base exp : UInt64) : Except String UInt64 :=
  if exp = 0 then .ok 1
  else if base = 0 then .ok 0
  else if base = 1 then .ok 1
  else if 63 < exp then
    .error s!"overflow in Pow64({base}, {exp}): exponent too large, would certainly overflow"
  else accumulate mul64 (fun i => s!"overflow in Pow64 at exponent {i}: ") 1 1
    (.replicate exp.toNat base)

def safeSub (a b : Int64) : Except String Int64 :=
  if 0 < b ∧ a < Int64.minValue + b then
    .error s!"underflow in SafeSub({a}, {b}): {a} - {b} below MinInt64 ({Int64.minValue})"
  else if b < 0 ∧ Int64.maxValue + b < a then
    .error s!"overflow in SafeSub({a}, {b}): {a} - ({b}) exceeds MaxInt64 ({Int64.maxValue})"
  else .ok (a - b)

def safeMul (a b : Int64) : Except String Int64 :=
  if a = 0 ∨ b = 0 then .ok 0
  else if a = 1 then .ok b
  else if b = 1 then .ok a
  else if a = -1 ∧ b = Int64.minValue then
    .error s!"overflow in SafeMul({a}, {b}): (-1) * MinInt64 would exceed MaxInt64"
  else if b = -1 ∧ a = Int64.minValue then
    .error s!"overflow in SafeMul({a}, {b}): MinInt64 * (-1) would exceed MaxInt64"
  else
    let result := a * b
    if result / b ≠ a then
      .error s!"overflow in SafeMul({a}, {b}): {a} * {b} exceeds safe int64 range"
    else .ok result

/-- What a checked operation owes: the exact result, and an error when and only when the type has no
such value. -/
structure Exact {α β : Type} (number : α → β) (outcome : Except String α) (exact : β) : Prop where
  value : ∀ result, outcome = .ok result → number result = exact
  fails : (∃ err, outcome = .error err) ↔ ∀ result, number result ≠ exact

namespace Exact

variable {α β : Type} {number : α → β} {exact : β}

theorem of_ok {result : α} (same : number result = exact) : Exact number (.ok result) exact where
  value _ returned := by
    cases returned
    exact same
  fails := ⟨by simp, fun none => absurd same (none result)⟩

theorem of_error {err : String} (none : ∀ result, number result ≠ exact) :
    Exact number (.error err) exact where
  value _ returned := by cases returned
  fails := ⟨fun _ => none, fun _ => ⟨err, rfl⟩⟩

theorem mapError {outcome : Except String α} (owed : Exact number outcome exact)
    (context : String → String) : Exact number (outcome.mapError context) exact := by
  cases outcome with
  | error err => exact .of_error (owed.fails.mp ⟨err, rfl⟩)
  | ok result => exact .of_ok (owed.value result rfl)

theorem bind {first : Except String α} {next : α → Except String α} {between : β}
    (owed : Exact number first between)
    (stays : (∀ result, number result ≠ between) → ∀ result, number result ≠ exact)
    (later : ∀ result, number result = between → Exact number (next result) exact) :
    Exact number (first >>= next) exact := by
  cases first with
  | error err => exact .of_error (stays (owed.fails.mp ⟨err, rfl⟩))
  | ok result => exact later result (owed.value result rfl)

end Exact

theorem none_uint64 {exact : Nat} : (∀ result : UInt64, result.toNat ≠ exact) ↔ 2 ^ 64 ≤ exact := by
  constructor
  · intro none
    by_contra below
    exact none (.ofNat exact) (UInt64.toNat_ofNat_of_lt (not_le.mp below))
  · intro large result
    have := result.toNat_lt
    omega

theorem none_int64 {exact : Int} (outside : exact < -2 ^ 63 ∨ 2 ^ 63 ≤ exact) (result : Int64) :
    result.toInt ≠ exact := by
  have high := result.toInt_lt
  have low := result.le_toInt
  omega

theorem add64_exact (a b : UInt64) : Exact UInt64.toNat (add64 a b) (a.toNat + b.toNat) := by
  have aHigh := a.toNat_lt
  have bHigh := b.toNat_lt
  have room : (maxUint64 - b).toNat = 2 ^ 64 - 1 - b.toNat := by
    rw [UInt64.toNat_sub_of_le]
    · rfl
    · exact UInt64.le_iff_toNat_le.mpr (Nat.le_sub_one_of_lt bHigh)
  unfold add64
  split <;> rename_i large <;> rw [UInt64.lt_iff_toNat_lt, room] at large
  · refine .of_error (none_uint64.mpr ?_)
    omega
  · refine .of_ok ?_
    rw [UInt64.toNat_add, Nat.mod_eq_of_lt]
    omega

theorem mul64_exact (a b : UInt64) : Exact UInt64.toNat (mul64 a b) (a.toNat * b.toNat) := by
  unfold mul64
  split
  · rename_i zero
    refine .of_ok ?_
    rcases zero with rfl | rfl <;> simp
  rename_i nonzero
  rw [not_or] at nonzero
  have positive : 0 < b.toNat := Nat.pos_of_ne_zero fun zero => nonzero.2 (UInt64.toNat_inj.mp zero)
  have divided : a * b / b = a ↔ a.toNat * b.toNat % 2 ^ 64 / b.toNat = a.toNat := by
    rw [← UInt64.toNat_inj, UInt64.toNat_div, UInt64.toNat_mul]
  by_cases fits : a.toNat * b.toNat < 2 ^ 64
  · rw [Nat.mod_eq_of_lt fits, Nat.mul_div_cancel _ positive] at divided
    rw [if_neg (not_not.mpr (divided.mpr rfl))]
    refine .of_ok ?_
    rw [UInt64.toNat_mul, Nat.mod_eq_of_lt fits]
  · -- The wrapped product is below 2 ^ 64 and so below the exact one; its quotient is below `a`.
    have wrapped := Nat.mod_lt (a.toNat * b.toNat) (Nat.two_pow_pos 64)
    have less : a.toNat * b.toNat % 2 ^ 64 / b.toNat < a.toNat :=
      (Nat.div_lt_iff_lt_mul positive).mpr (by omega)
    rw [if_pos fun back => less.ne (divided.mp back)]
    exact .of_error (none_uint64.mpr (not_lt.mp fits))

theorem le_foldl {op : Nat → Nat → Nat} (values : List Nat)
    (grows : ∀ total, ∀ value ∈ values, total ≤ op total value) (total : Nat) :
    total ≤ values.foldl op total := by
  induction values generalizing total with
  | nil => exact le_rfl
  | cons value rest ih =>
    have later := ih fun total next mem => grows total next (.tail _ mem)
    exact (grows total value (.head _)).trans (later _)

theorem accumulate_exact {step : UInt64 → UInt64 → Except String UInt64} {op : Nat → Nat → Nat}
    (exact : ∀ a b, Exact UInt64.toNat (step a b) (op a.toNat b.toNat))
    (context : Nat → String) (values : List UInt64)
    (grows : ∀ total, ∀ value ∈ values.map UInt64.toNat, total ≤ op total value)
    (result : UInt64) (position : Nat) :
    Exact UInt64.toNat (accumulate step context result position values)
      ((values.map UInt64.toNat).foldl op result.toNat) := by
  induction values generalizing result position with
  | nil => exact .of_ok rfl
  | cons value rest ih =>
    have later := fun total next mem => grows total next (.tail _ mem)
    rw [List.map_cons, List.foldl_cons, accumulate]
    refine ((exact result value).mapError _).bind (fun none => none_uint64.mpr ?_) fun next taken => ?_
    · exact (none_uint64.mp none).trans (le_foldl _ later _)
    · rw [← taken]
      exact ih later next (position + 1)

theorem addMany64_exact (values : List UInt64) :
    Exact UInt64.toNat (addMany64 values) (values.map UInt64.toNat).sum := by
  cases values with
  | nil => exact .of_ok UInt64.toNat_zero
  | cons first rest =>
    rw [List.sum_eq_foldl, List.map_cons, List.foldl_cons, Nat.zero_add]
    exact accumulate_exact add64_exact _ rest (fun _ _ _ => Nat.le_add_right _ _) first 1

theorem mulAdd64_exact (a b c : UInt64) :
    Exact UInt64.toNat (mulAdd64 a b c) (a.toNat * b.toNat + c.toNat) := by
  refine ((mul64_exact a b).mapError _).bind (fun none => none_uint64.mpr ?_) fun _ taken => ?_
  · exact (none_uint64.mp none).trans (Nat.le_add_right _ _)
  · rw [← taken]
    exact (add64_exact _ c).mapError _

theorem mulDiv64_exact (a b : UInt64) {c : UInt64} (nonzero : c ≠ 0) :
    Exact UInt64.toNat (mulDiv64 a b c) (a.toNat * b.toNat / c.toNat) := by
  rw [mulDiv64, if_neg nonzero]
  dsimp only
  split
  · rename_i fits
    exact .of_ok (UInt64.toNat_ofNat_of_lt fits)
  · rename_i large
    exact .of_error (none_uint64.mpr (not_lt.mp large))

theorem pow64_exact (base exp : UInt64) :
    Exact UInt64.toNat (pow64 base exp) (base.toNat ^ exp.toNat) := by
  unfold pow64
  split
  · rename_i none
    exact .of_ok (by simp [none])
  rename_i some
  have exponent : exp.toNat ≠ 0 := fun zero => some (UInt64.toNat_inj.mp zero)
  split
  · rename_i zero
    exact .of_ok (by simp [zero, exponent])
  rename_i nonzero
  split
  · rename_i one
    exact .of_ok (by simp [one])
  rename_i notOne
  have positive : 0 < base.toNat :=
    Nat.pos_of_ne_zero fun zero => nonzero (UInt64.toNat_inj.mp zero)
  split
  · rename_i large
    have two : 1 < base.toNat :=
      Nat.lt_of_le_of_ne positive fun one => notOne (UInt64.toNat_inj.mp one.symm)
    have long : 64 ≤ exp.toNat := UInt64.lt_iff_toNat_lt.mp large
    refine .of_error (none_uint64.mpr ?_)
    calc 2 ^ 64 ≤ 2 ^ exp.toNat := Nat.pow_le_pow_right (by decide) long
      _ ≤ base.toNat ^ exp.toNat := Nat.pow_le_pow_left two _
  · rw [← List.prod_replicate, ← List.map_replicate, List.prod_eq_foldl]
    refine accumulate_exact mul64_exact _ _ (fun total value mem => ?_) 1 1
    rw [List.map_replicate] at mem
    rw [List.eq_of_mem_replicate mem]
    exact Nat.le_mul_of_pos_right total positive

theorem guarded_exact {exact : Int} {result : Int64} {low high : Prop} [Decidable low]
    [Decidable high] {lowErr highErr : String} (wraps : result.toInt = exact.bmod (2 ^ 64))
    (outside : low ∨ high ↔ exact < -2 ^ 63 ∨ 2 ^ 63 ≤ exact) :
    Exact Int64.toInt (if low then .error lowErr else if high then .error highErr else .ok result)
      exact := by
  split_ifs with below above
  · exact .of_error (none_int64 (outside.mp (.inl below)))
  · exact .of_error (none_int64 (outside.mp (.inr above)))
  · have inside := mt outside.mpr (not_or.mpr ⟨below, above⟩)
    refine .of_ok (wraps.trans (Int.bmod_eq_of_le ?_ ?_)) <;> omega

section Signed

variable (a b : Int64)

theorem int64_bounds : -2 ^ 63 ≤ a.toInt ∧ a.toInt < 2 ^ 63 := ⟨a.le_toInt, a.toInt_lt⟩

theorem safeAdd_exact : Exact Int64.toInt (safeAdd a b) (a.toInt + b.toInt) := by
  have aBounds := int64_bounds a
  have bBounds := int64_bounds b
  refine guarded_exact (Int64.toInt_add a b) ?_
  simp only [Int64.lt_iff_toInt_lt, Int64.toInt_zero, Int64.toInt_sub, Int64.toInt_maxValue,
    Int64.toInt_minValue, Int.bmod_def]
  omega

theorem safeSub_exact : Exact Int64.toInt (safeSub a b) (a.toInt - b.toInt) := by
  have aBounds := int64_bounds a
  have bBounds := int64_bounds b
  refine guarded_exact (Int64.toInt_sub a b) ?_
  simp only [Int64.lt_iff_toInt_lt, Int64.toInt_zero, Int64.toInt_add, Int64.toInt_maxValue,
    Int64.toInt_minValue, Int.bmod_def]
  omega

end Signed

/-- Dividing the wrapped product back returns the factor only when nothing was lost: the remainder is
a multiple of 2 ^ 64 and smaller than the divisor. -/
theorem wrapped_product {a b : Int64} (nonzero : b ≠ 0) (edge : ¬ (b = -1 ∧ a = Int64.minValue)) :
    a * b / b = a ↔ -2 ^ 63 ≤ a.toInt * b.toInt ∧ a.toInt * b.toInt < 2 ^ 63 := by
  have aBounds := int64_bounds a
  have bBounds := int64_bounds b
  have divisor : b.toInt ≠ 0 := fun zero => nonzero (Int64.toInt_inj.mp zero)
  have wrappedHigh := Int.bmod_lt (x := a.toInt * b.toInt) (Nat.two_pow_pos 64)
  have wrappedLow := Int.le_bmod (x := a.toInt * b.toInt) (Nat.two_pow_pos 64)
  have divided : a * b / b = a ↔ ((a.toInt * b.toInt).bmod (2 ^ 64)).tdiv b.toInt = a.toInt := by
    rw [← Int64.toInt_inj, ← Int64.toInt_mul]
    by_cases minus : b = -1
    · rw [Int64.toInt_div_of_ne_left]
      rintro least
      have product := congrArg Int64.toInt least
      have factor : a.toInt ≠ -2 ^ 63 := fun low => edge ⟨minus, Int64.toInt_inj.mp low⟩
      have negated : a.toInt * b.toInt = -a.toInt := by simp [minus]
      rw [Int64.toInt_mul, negated, Int.bmod_eq_of_le (by omega) (by omega),
        Int64.toInt_minValue] at product
      omega
    · rw [Int64.toInt_div_of_ne_right _ _ minus]
  rw [divided]
  constructor
  · intro back
    have whole := Int.mul_tdiv_add_tmod ((a.toInt * b.toInt).bmod (2 ^ 64)) b.toInt
    have multiple := Int.dvd_self_sub_bmod (x := a.toInt * b.toInt) (m := 2 ^ 64)
    have small : (((a.toInt * b.toInt).bmod (2 ^ 64)).tmod b.toInt).natAbs < b.toInt.natAbs := by
      rw [Int.natAbs_tmod]
      exact Nat.mod_lt _ (by omega)
    rw [back, Int.mul_comm] at whole
    omega
  · rintro ⟨low, high⟩
    rw [Int.bmod_eq_of_le (by omega) (by omega), Int.mul_tdiv_cancel _ divisor]

theorem safeMul_exact (a b : Int64) : Exact Int64.toInt (safeMul a b) (a.toInt * b.toInt) := by
  unfold safeMul
  dsimp only
  split_ifs with zero oneA oneB edgeB edgeA back
  · refine .of_ok ?_
    rcases zero with rfl | rfl <;> simp
  · exact .of_ok (by simp [oneA])
  · exact .of_ok (by simp [oneB])
  · obtain ⟨rfl, rfl⟩ := edgeB
    exact .of_error (none_int64 (by decide))
  · obtain ⟨rfl, rfl⟩ := edgeA
    exact .of_error (none_int64 (by decide))
  · rw [ne_eq, wrapped_product (not_or.mp zero).2 edgeA] at back
    exact .of_error (none_int64 (by omega))
  · rw [not_not, wrapped_product (not_or.mp zero).2 edgeA] at back
    refine .of_ok ?_
    rw [Int64.toInt_mul, Int.bmod_eq_of_le] <;> omega

theorem checked_arithmetic_exact (values : List UInt64) (a b c : UInt64) (x y : Int64) :
    Exact UInt64.toNat (addMany64 values) (values.map UInt64.toNat).sum ∧
    Exact UInt64.toNat (mulAdd64 a b c) (a.toNat * b.toNat + c.toNat) ∧
    (c ≠ 0 → Exact UInt64.toNat (mulDiv64 a b c) (a.toNat * b.toNat / c.toNat)) ∧
    Exact UInt64.toNat (pow64 a b) (a.toNat ^ b.toNat) ∧
    Exact Int64.toInt (safeAdd x y) (x.toInt + y.toInt) ∧
    Exact Int64.toInt (safeSub x y) (x.toInt - y.toInt) ∧
    Exact Int64.toInt (safeMul x y) (x.toInt * y.toInt) :=
  ⟨addMany64_exact values, mulAdd64_exact a b c, mulDiv64_exact a b, pow64_exact a b,
    safeAdd_exact x y, safeSub_exact x y, safeMul_exact x y⟩

end Thrylos
