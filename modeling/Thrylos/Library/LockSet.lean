import Mathlib.Logic.Function.Basic
import Thrylos.Library.Mutex

/-!
Data behind several locks with readers and writers. Nothing else runs in between, so a program that
asks for a lock which is taken is stuck there.
-/

structure Holding where
  readers : Nat
  writer : Bool

def Holding.free : Holding := ⟨0, false⟩

structure Locked (ℓ σ : Type) where
  holding : ℓ → Holding
  data : σ

namespace Locked

variable {ε ℓ σ α : Type} [DecidableEq ℓ]

def hold (st : Locked ℓ σ) (lock : ℓ) (holding : Holding) : Locked ℓ σ :=
  { st with holding := Function.update st.holding lock holding }

def unheld (data : σ) : Locked ℓ σ := ⟨fun _ => .free, data⟩

/-- Runs the program with the lock held one way and puts it back where it was, unless the program is
stuck. -/
def within (lock : ℓ) (taken : Holding) (prog : EStateM (Halt ε) (Locked ℓ σ) α) :
    EStateM (Halt ε) (Locked ℓ σ) α := fun st =>
  match prog (st.hold lock taken) with
  | .ok value after => .ok value (after.hold lock (st.holding lock))
  | .error .deadlock after => .error .deadlock after
  | .error halt after => .error halt (after.hold lock (st.holding lock))

def exclusively (lock : ℓ) (prog : EStateM (Halt ε) (Locked ℓ σ) α) :
    EStateM (Halt ε) (Locked ℓ σ) α := fun st =>
  if (st.holding lock).writer ∨ (st.holding lock).readers ≠ 0 then .error .deadlock st
  else within lock ⟨0, true⟩ prog st

def shared (lock : ℓ) (prog : EStateM (Halt ε) (Locked ℓ σ) α) :
    EStateM (Halt ε) (Locked ℓ σ) α := fun st =>
  if (st.holding lock).writer then .error .deadlock st
  else within lock ⟨(st.holding lock).readers + 1, false⟩ prog st

def read : EStateM (Halt ε) (Locked ℓ σ) σ := fun st => .ok st.data st

def update (change : σ → σ) : EStateM (Halt ε) (Locked ℓ σ) PUnit :=
  modify fun st => { st with data := change st.data }

def stuck : EStateM.Result (Halt ε) (Locked ℓ σ) α → Bool
  | .ok _ _ => false
  | .error halt _ => halt.isDeadlock

section

variable {prog : EStateM (Halt ε) (Locked ℓ σ) α} {st : Locked ℓ σ} {lock other : ℓ}

@[simp] theorem hold_same (taken : Holding) : (st.hold lock taken).holding lock = taken := by
  simp only [hold, Function.update_self]

@[simp] theorem hold_other (taken : Holding) (ne : other ≠ lock) :
    (st.hold lock taken).holding other = st.holding other := by
  simp only [hold, Function.update_of_ne ne]

theorem stuck_within (taken : Holding) :
    stuck (within lock taken prog st) = stuck (prog (st.hold lock taken)) := by
  unfold within
  cases prog (st.hold lock taken) with
  | ok => rfl
  | error halt => cases halt <;> rfl

theorem stuck_exclusively (free : st.holding lock = .free) :
    stuck (exclusively lock prog st) = stuck (prog (st.hold lock ⟨0, true⟩)) := by
  unfold exclusively
  rw [free]
  exact stuck_within _

theorem stuck_shared (free : st.holding lock = .free) :
    stuck (shared lock prog st) = stuck (prog (st.hold lock ⟨1, false⟩)) := by
  unfold shared
  rw [free]
  exact stuck_within _

theorem exclusively_taken (taken : (st.holding lock).readers ≠ 0) :
    exclusively lock prog st = .error .deadlock st := by
  unfold exclusively
  rw [if_pos (Or.inr taken)]

theorem shared_taken (taken : (st.holding lock).writer = true) :
    shared lock prog st = .error .deadlock st := by
  unfold shared
  rw [if_pos taken]

variable {value : α} {after : Locked ℓ σ}

theorem within_returns {taken : Holding} (ran : within lock taken prog st = .ok value after) :
    ∃ inner, prog (st.hold lock taken) = .ok value inner := by
  unfold within at ran
  cases inner : prog (st.hold lock taken) with
  | ok _ last =>
    rw [inner] at ran
    cases ran
    exact ⟨last, rfl⟩
  | error halt =>
    rw [inner] at ran
    cases halt <;> cases ran

theorem exclusively_returns (ran : exclusively lock prog st = .ok value after) :
    ∃ inner, prog (st.hold lock ⟨0, true⟩) = .ok value inner := by
  unfold exclusively at ran
  split at ran
  · cases ran
  · exact within_returns ran

theorem shared_returns (ran : shared lock prog st = .ok value after) :
    ∃ inner, prog (st.hold lock ⟨(st.holding lock).readers + 1, false⟩) = .ok value inner := by
  unfold shared at ran
  split at ran
  · cases ran
  · exact within_returns ran

end

end Locked
