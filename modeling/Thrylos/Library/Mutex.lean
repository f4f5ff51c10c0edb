import Thrylos.Library.Program

/-!
Data behind a lock that its holder cannot take a second time. A program that asks for it again is
stuck; an error and a panic release what they took.
-/

inductive Halt (ε : Type) where
  | refused (err : ε)
  | deadlock
  | panic (message : String)
  deriving DecidableEq

def Halt.isDeadlock {ε : Type} : Halt ε → Bool
  | .deadlock => true
  | _ => false

structure Guarded (σ : Type) where
  held : Bool
  data : σ

namespace Guarded

variable {ε σ α β : Type}

section

variable (prog : EStateM (Halt ε) (Guarded σ) α)

def exclusively : EStateM (Halt ε) (Guarded σ) α :=
  fun st =>
    if st.held then .error .deadlock st
    else
      match prog { st with held := true } with
      | .ok value after => .ok value { after with held := false }
      | .error halt after => .error halt { after with held := halt.isDeadlock }

def shared : EStateM (Halt ε) (Guarded σ) α :=
  fun st => if st.held then .error .deadlock st else prog st

def read : EStateM (Halt ε) (Guarded σ) σ := fun st => .ok st.data st

def update (change : σ → σ) : EStateM (Halt ε) (Guarded σ) PUnit :=
  modify fun st => { st with data := change st.data }

def attempt : EStateM (Halt ε) (Guarded σ) (Except ε α) := fun st =>
  match prog st with
  | .ok value after => .ok (.ok value) after
  | .error (.refused err) after => .ok (.error err) after
  | .error halt after => .error halt after

theorem exclusively_held {st : Guarded σ} (held : st.held = true)
    (prog : EStateM (Halt ε) (Guarded σ) α) : exclusively prog st = .error .deadlock st := by
  simp only [exclusively, held, if_true]

/-- Run under the lock, the program returns with `post` or ends with `fail`. -/
def wp (post : α → σ → Prop) (fail : Halt ε → σ → Prop) (data : σ) : Prop :=
  match prog ⟨true, data⟩ with
  | .ok value after => after.held = true ∧ post value after.data
  | .error halt after => after.held = true ∧ fail halt after.data

end

section Rules

variable {post : α → σ → Prop} {fail : Halt ε → σ → Prop} {data : σ}
  {prog : EStateM (Halt ε) (Guarded σ) α} {value : α} {st : Guarded σ}

theorem wp_pure (holds : post value data) :
    wp (pure value : EStateM (Halt ε) (Guarded σ) α) post fail data := ⟨rfl, holds⟩

theorem wp_throw {halt : Halt ε} (holds : fail halt data) :
    wp (throw halt : EStateM (Halt ε) (Guarded σ) α) post fail data := ⟨rfl, holds⟩

theorem wp_read {post : σ → σ → Prop} (holds : post data data) :
    wp (read : EStateM (Halt ε) (Guarded σ) σ) post fail data := ⟨rfl, holds⟩

theorem wp_update {change : σ → σ} {post : PUnit → σ → Prop} (holds : post ⟨⟩ (change data)) :
    wp (update change : EStateM (Halt ε) (Guarded σ) PUnit) post fail data := ⟨rfl, holds⟩

theorem wp_mono {weaker : α → σ → Prop} {weakerFail : Halt ε → σ → Prop}
    (holds : wp prog post fail data)
    (returned : ∀ value after, post value after → weaker value after)
    (failed : ∀ halt after, fail halt after → weakerFail halt after) :
    wp prog weaker weakerFail data := by
  unfold wp at holds ⊢
  split at holds
  · exact ⟨holds.1, returned _ _ holds.2⟩
  · exact ⟨holds.1, failed _ _ holds.2⟩

theorem wp_bind {next : α → EStateM (Halt ε) (Guarded σ) β} {post : β → σ → Prop}
    (holds : wp prog (fun value => wp (next value) post fail) fail data) :
    wp (prog >>= next) post fail data := by
  unfold wp at holds ⊢
  cases ran : prog ⟨true, data⟩ with
  | ok _ after =>
    rw [ran] at holds
    have same : after = ⟨true, after.data⟩ := by rw [← holds.1]
    rw [EStateM.bind_ok ran, same]
    exact holds.2
  | error =>
    rw [ran] at holds
    rw [EStateM.bind_error ran]
    exact holds

theorem wp_exclusively (holds : fail .deadlock data) : wp (exclusively prog) post fail data := by
  unfold wp
  rw [exclusively_held rfl]
  exact ⟨rfl, holds⟩

theorem wp_attempt {post : Except ε α → σ → Prop} (holds : wp prog (fun value => post (.ok value))
      (fun halt after =>
        match halt with
        | .refused err => post (.error err) after
        | other => fail other after) data) :
    wp (attempt prog) post fail data := by
  unfold wp at holds ⊢
  unfold attempt
  cases ran : prog ⟨true, data⟩ with
  | ok =>
    rw [ran] at holds
    exact holds
  | error halt =>
    rw [ran] at holds
    cases halt <;> exact holds

theorem exclusively_cases (holds : wp prog post fail data) :
    (∃ value after, exclusively prog ⟨false, data⟩ = .ok value ⟨false, after⟩ ∧ post value after) ∨
    ∃ halt after, exclusively prog ⟨false, data⟩ = .error halt ⟨halt.isDeadlock, after⟩ ∧
      fail halt after := by
  unfold wp at holds
  simp only [exclusively, Bool.false_eq_true, if_false]
  cases ran : prog ⟨true, data⟩ with
  | ok value after =>
    rw [ran] at holds
    exact Or.inl ⟨value, after.data, rfl, holds.2⟩
  | error halt after =>
    rw [ran] at holds
    exact Or.inr ⟨halt, after.data, rfl, holds.2⟩

theorem exclusively_returns (holds : wp prog post (fun _ _ => False) data) :
    ∃ value after, exclusively prog ⟨false, data⟩ = .ok value ⟨false, after⟩ ∧
      post value after := by
  rcases exclusively_cases holds with returned | ⟨_, _, _, impossible⟩
  · exact returned
  · exact impossible.elim

theorem exclusively_ok (post : α → σ → Prop) {after : Guarded σ}
    (holds : wp prog post (fun _ _ => True) st.data)
    (ran : exclusively prog st = .ok value after) : post value after.data := by
  cases st with
  | mk held =>
  cases held with
  | true => simp [exclusively] at ran
  | false =>
  rcases exclusively_cases holds with ⟨_, _, done, reached⟩ | ⟨_, _, done, _⟩
  · rw [done] at ran
    cases ran
    exact reached
  · rw [done] at ran
    cases ran

theorem exclusively_final {ends : σ → Prop} (free : st.held = false)
    (holds : wp prog (fun _ => ends) (fun _ => ends) st.data) :
    ends (exclusively prog st).final.data := by
  obtain ⟨_, _⟩ := st
  subst free
  rcases exclusively_cases holds with ⟨_, _, ran, reached⟩ | ⟨_, _, ran, reached⟩
  · rw [ran]
    exact reached
  · rw [ran]
    exact reached

end Rules

def stuck : EStateM.Result (Halt ε) (Guarded σ) α → Bool
  | .ok _ _ => false
  | .error halt _ => halt.isDeadlock

theorem stuck_exclusively (prog : EStateM (Halt ε) (Guarded σ) α) (data : σ) :
    stuck (exclusively prog ⟨false, data⟩) = stuck (prog ⟨true, data⟩) := by
  simp only [exclusively, Bool.false_eq_true, if_false]
  cases prog ⟨true, data⟩ with
  | ok | error => rfl

/-- The program leads from data with one property to data with another and gets stuck nowhere if the
lock is free when it asks. -/
def Moves (pre post : σ → Prop) (asks : Bool) (prog : EStateM (Halt ε) (Guarded σ) α) : Prop :=
  ∀ st, pre st.data → post (prog st).final.data ∧
    ((asks = true → st.held = false) → stuck (prog st) = false ∧ (prog st).final.held = st.held)

abbrev Keeps (inv : σ → Prop) (asks : Bool) (prog : EStateM (Halt ε) (Guarded σ) α) : Prop :=
  Moves inv inv asks prog

namespace Moves

variable {pre middle post : σ → Prop} {asks : Bool} {prog : EStateM (Halt ε) (Guarded σ) α}

theorem bind (first : Moves pre middle asks prog) (weaken : ∀ data, middle data → post data)
    {next : α → EStateM (Halt ε) (Guarded σ) β} (rest : ∀ value, Moves middle post asks (next value)) :
    Moves pre post asks (prog >>= next) := by
  intro st holds
  obtain ⟨reached, orderly⟩ := first st holds
  cases ran : prog st with
  | ok value after =>
    rw [ran] at reached orderly
    rw [EStateM.bind_ok ran]
    obtain ⟨finished, finish⟩ := rest value after reached
    refine ⟨finished, fun ready => ?_⟩
    have same : after.held = st.held := (orderly ready).2
    obtain ⟨awake, kept⟩ := finish fun asked => same.trans (ready asked)
    exact ⟨awake, kept.trans same⟩
  | error =>
    rw [ran] at reached orderly
    rw [EStateM.bind_error ran]
    exact ⟨weaken _ reached, orderly⟩

theorem bind_read {next : σ → EStateM (Halt ε) (Guarded σ) β}
    (rest : ∀ data, pre data → Moves (· = data) post asks (next data)) :
    Moves pre post asks (Guarded.read >>= next) :=
  fun st holds => rest st.data holds st rfl

theorem update {change : σ → σ} (changed : ∀ data, pre data → post (change data)) :
    Moves pre post asks (update change : EStateM (Halt ε) (Guarded σ) PUnit) :=
  fun st holds => ⟨changed st.data holds, fun _ => ⟨rfl, rfl⟩⟩

theorem and {pre2 post2 : σ → Prop} (first : Moves pre post asks prog)
    (second : Moves pre2 post2 asks prog) :
    Moves (fun data => pre data ∧ pre2 data) (fun data => post data ∧ post2 data) asks prog :=
  fun st holds =>
    have reached := first st holds.1
    ⟨⟨reached.1, (second st holds.2).1⟩, reached.2⟩

theorem leads (moves : Moves pre post asks prog) :
    EStateM.Leads (fun st => pre st.data) (fun st => post st.data) prog :=
  fun st holds => (moves st holds).1

theorem late (weaken : ∀ data, pre data → middle data)
    (moves : Moves middle post asks prog) : Moves pre post asks prog :=
  fun st holds => moves st (weaken _ holds)

theorem exclusively (weaken : ∀ data, pre data → post data) (moves : Moves pre post false prog) :
    Moves pre post true (exclusively prog) := by
  intro st holds
  unfold Guarded.exclusively
  split
  · rename_i held
    refine ⟨weaken _ holds, fun ready => ?_⟩
    exact absurd (held.symm.trans (ready rfl)) (by decide)
  rename_i free
  obtain ⟨reached, orderly⟩ := moves { st with held := true } holds
  obtain ⟨awake, -⟩ := orderly fun asked => by cases asked
  cases ran : prog { st with held := true } with
  | ok =>
    rw [ran] at reached
    exact ⟨reached, fun ready => ⟨rfl, (ready rfl).symm⟩⟩
  | error =>
    rw [ran] at reached awake
    exact ⟨reached, fun ready => ⟨awake, awake.trans (ready rfl).symm⟩⟩

end Moves

namespace Keeps

variable {inv : σ → Prop} {asks : Bool} {prog : EStateM (Halt ε) (Guarded σ) α}

theorem pure (value : α) : Keeps inv asks (pure value : EStateM (Halt ε) (Guarded σ) α) :=
  fun _ holds => ⟨holds, fun _ => ⟨rfl, rfl⟩⟩

theorem throw {halt : Halt ε} (awake : halt.isDeadlock = false) :
    Keeps inv asks (throw halt : EStateM (Halt ε) (Guarded σ) α) :=
  fun _ holds => ⟨holds, fun _ => ⟨awake, rfl⟩⟩

theorem bind (first : Keeps inv asks prog) {next : α → EStateM (Halt ε) (Guarded σ) β}
    (rest : ∀ value, Keeps inv asks (next value)) : Keeps inv asks (prog >>= next) :=
  Moves.bind first (fun _ => id) rest

theorem bind_read {next : σ → EStateM (Halt ε) (Guarded σ) β}
    (rest : ∀ data, inv data → Keeps inv asks (next data)) :
    Keeps inv asks (Guarded.read >>= next) := fun st holds => rest st.data holds st holds

theorem update {change : σ → σ} (kept : ∀ data, inv data → inv (change data)) :
    Keeps inv asks (update change : EStateM (Halt ε) (Guarded σ) PUnit) := Moves.update kept

theorem adaptExcept (keeps : Keeps inv asks prog) {relabel : Halt ε → Halt ε}
    (same : ∀ halt, (relabel halt).isDeadlock = halt.isDeadlock) :
    Keeps inv asks (prog.adaptExcept relabel) := by
  intro st holds
  have reached := keeps st holds
  cases ran : prog st with
  | ok =>
    rw [ran] at reached
    rw [EStateM.adaptExcept_ok ran]
    exact reached
  | error halt =>
    rw [ran] at reached
    rw [EStateM.adaptExcept_error ran]
    refine ⟨reached.1, fun ready => ⟨?_, (reached.2 ready).2⟩⟩
    exact (same halt).trans (reached.2 ready).1

theorem wp (keeps : Keeps inv false prog) {data : σ} (holds : inv data) :
    wp prog (fun _ => inv) (fun _ => inv) data := by
  obtain ⟨reached, orderly⟩ := keeps ⟨true, data⟩ holds
  have locked := (orderly nofun).2
  unfold Guarded.wp
  cases ran : prog ⟨true, data⟩ with
  | ok value after | error halt after =>
    rw [ran] at reached locked
    exact ⟨locked, reached⟩

theorem exclusively (keeps : Keeps inv false prog) : Keeps inv true (exclusively prog) :=
  Moves.exclusively (fun _ => id) keeps

theorem attempt (keeps : Keeps inv asks prog) : Keeps inv asks (attempt prog) := by
  intro st holds
  have reached := keeps st holds
  unfold Guarded.attempt
  cases ran : prog st with
  | ok =>
    rw [ran] at reached
    exact ⟨reached.1, fun ready => ⟨rfl, (reached.2 ready).2⟩⟩
  | error halt =>
  rw [ran] at reached
  cases halt with
  | refused => exact ⟨reached.1, fun ready => ⟨rfl, (reached.2 ready).2⟩⟩
  | deadlock | panic => exact reached

theorem forM {item : Type} {body : item → EStateM (Halt ε) (Guarded σ) PUnit}
    (keeps : ∀ each, Keeps inv asks (body each)) (items : List item) :
    Keeps inv asks (items.forM body) := by
  induction items with
  | nil => exact pure PUnit.unit
  | cons first _ ih => exact bind (keeps first) fun _ => ih

end Keeps

end Guarded
