import Mathlib.Logic.Basic

/-!
Stateful programs that may fail and keep the state they failed in. `Leads` is a triple over the
state a program ends in, failed or not.
-/

namespace EStateM

variable {ε σ α β : Type} {st after : σ} {value : α} {err : ε}

def Result.final : Result ε σ α → σ
  | .ok _ st => st
  | .error _ st => st

def Result.value? : Result ε σ α → Option α
  | .ok value _ => some value
  | .error _ _ => none

def Result.outcome : Result ε σ α → Except ε α × σ
  | .ok value st => (.ok value, st)
  | .error err st => (.error err, st)

variable {result : Result ε σ α} {accept : α → Prop} {prog : EStateM ε σ α}
   {next : α → EStateM ε σ β} {outcome : Except ε α}

theorem Result.outcome_ok_iff : result.outcome = (.ok value, st) ↔ result = .ok value st := by
  cases result <;> simp [Result.outcome]

theorem Result.exists_of_value? {accept : α → Bool} (ok : result.value?.any accept = true) :
    ∃ value st, result = .ok value st ∧ accept value = true := by
  cases result with
  | ok value st => exact ⟨value, st, rfl, ok⟩
  | error => cases ok

theorem Result.ok_of_value? (returned : result.value?.isSome = true) :
    ∃ value, result = .ok value result.final := by
  cases result with
  | ok value => exact ⟨value, rfl⟩
  | error => cases returned

theorem Result.eq_ok_of_value? (returned : result.value? = some value) :
    result = .ok value result.final := by
  cases result with
  | ok =>
    cases returned
    rfl
  | error => cases returned

def Result.failed? : Result ε σ α → Option σ
  | .ok _ _ => none
  | .error _ st => some st

theorem Result.exists_of_failed? {accept : σ → Bool} (ok : result.failed?.any accept = true) :
    ∃ err st, result = .error err st ∧ accept st = true := by
  cases result with
  | ok => cases ok
  | error err st => exact ⟨err, st, rfl, ok⟩

/-- Runs a program and returns its failure in place of failing. -/
def attempt (prog : EStateM ε σ α) : EStateM ε σ (Except ε α) := fun st =>
  match prog st with
  | .ok value after => .ok (.ok value) after
  | .error err after => .ok (.error err) after

theorem attempt_ok (ran : prog st = .ok value after) : prog.attempt st = .ok (.ok value) after := by
  unfold attempt
  rw [ran]

theorem attempt_error (ran : prog st = .error err after) :
    prog.attempt st = .ok (.error err) after := by
  unfold attempt
  rw [ran]

theorem bind_ok (ran : prog st = .ok value after)
    (next : α → EStateM ε σ β) : (prog >>= next) st = next value after := by
  change EStateM.bind prog next st = _
  unfold EStateM.bind
  rw [ran]

theorem bind_error (ran : prog st = .error err after)
    (next : α → EStateM ε σ β) : (prog >>= next) st = .error err after := by
  change EStateM.bind prog next st = _
  unfold EStateM.bind
  rw [ran]

theorem bind_ok_iff {result : β} : (prog >>= next) st = .ok result after ↔
      ∃ value middle, prog st = .ok value middle ∧ next value middle = .ok result after := by
  cases ran : prog st with
  | ok value middle =>
    rw [bind_ok ran]
    constructor
    · exact fun finished => ⟨value, middle, rfl, finished⟩
    · rintro ⟨_, _, same, finished⟩
      cases same
      exact finished
  | error => simp [bind_error ran]

theorem adaptExcept_ok_iff {relabel : ε → ε} :
    prog.adaptExcept relabel st = .ok value after ↔ prog st = .ok value after := by
  unfold adaptExcept
  cases prog st <;> simp

theorem ofExcept_ok [ToString ε] (ok : outcome = .ok value) :
    (ofExcept outcome : EStateM ε σ α) st = .ok value st := by
  rw [ok]
  rfl

theorem ofExcept_error [ToString ε] (refused : outcome = .error err) :
    (ofExcept outcome : EStateM ε σ α) st = .error err st := by
  rw [refused]
  rfl

theorem modify_ok (change : σ → σ) :
    (modify change : EStateM ε σ PUnit) st = .ok () (change st) := rfl

theorem get_ok : (MonadState.get : EStateM ε σ σ) st = .ok st st := rfl

theorem set_ok (next : σ) : (set next : EStateM ε σ PUnit) st = .ok () next := rfl

theorem adaptExcept_ok (ran : prog st = .ok value after)
    (relabel : ε → ε) : prog.adaptExcept relabel st = .ok value after := by
  unfold adaptExcept
  rw [ran]

theorem adaptExcept_error (ran : prog st = .error err after)
    (relabel : ε → ε) : prog.adaptExcept relabel st = .error (relabel err) after := by
  unfold adaptExcept
  rw [ran]

theorem final_adaptExcept (relabel : ε → ε) :
    (prog.adaptExcept relabel st).final = (prog st).final := by
  unfold adaptExcept
  cases prog st <;> rfl

/-! What comes after a check that is an `Except`, and after a command whose errors are renamed. -/

theorem check_ok [ToString ε] :
    ((ofExcept (.ok value) : EStateM ε σ α) >>= next) st = next value st :=
  bind_ok (ofExcept_ok rfl) next

theorem check_error [ToString ε] :
    ((ofExcept (.error err) : EStateM ε σ α) >>= next) st = .error err st :=
  bind_error (ofExcept_error rfl) next

theorem check_ok_iff [ToString ε] {result : β} :
    ((ofExcept outcome : EStateM ε σ α) >>= next) st = .ok result after ↔
      ∃ value, outcome = .ok value ∧ next value st = .ok result after := by
  cases outcome with
  | ok value => simp [check_ok]
  | error => simp [check_error]

theorem adapt_ok (ran : prog st = .ok value after) {relabel : ε → ε} (next : α → EStateM ε σ β) :
    (prog.adaptExcept relabel >>= next) st = next value after :=
  bind_ok (adaptExcept_ok ran relabel) next

theorem adapt_error (ran : prog st = .error err after) {relabel : ε → ε} :
    (prog.adaptExcept relabel >>= next) st = .error (relabel err) after :=
  bind_error (adaptExcept_error ran relabel) next

/-- From a state with `pre` the program ends in one with `post`, whether or not it fails. -/
def Leads (pre post : σ → Prop) (prog : EStateM ε σ α) : Prop :=
  ∀ st, pre st → post (prog st).final

abbrev Stays (inv : σ → Prop) (prog : EStateM ε σ α) : Prop := Leads inv inv prog

namespace Leads

variable {pre middle post inv : σ → Prop} {prog : EStateM ε σ α}

theorem pure (value : α) (weaken : ∀ st, pre st → post st) :
    Leads pre post (pure value : EStateM ε σ α) := weaken

theorem skip (value : α) : Stays inv (Pure.pure value : EStateM ε σ α) := fun _ => id

theorem fail (err : ε) : Stays inv (MonadExcept.throw err : EStateM ε σ α) := fun _ => id

theorem refuse {refused : Prop} [Decidable refused] {err : ε} (rest : Stays inv prog) :
    Stays inv (if refused then MonadExcept.throw err else prog) := by
  split
  · exact fail err
  · exact rest

theorem get (inv : σ → Prop) : Leads inv inv (MonadState.get : EStateM ε σ σ) := fun _ => id

theorem modify {change : σ → σ} (moved : ∀ st, pre st → post (change st)) :
    Leads pre post (modify change : EStateM ε σ PUnit) := moved

theorem ofExcept [ToString ε] (outcome : Except ε α) (inv : σ → Prop) :
    Leads inv inv (ofExcept outcome : EStateM ε σ α) := by
  intro st holds
  cases outcome with
  | ok => rwa [ofExcept_ok rfl]
  | error => rwa [ofExcept_error rfl]

variable {next : α → EStateM ε σ β}

theorem bind (first : Leads pre middle prog)
    (rest : ∀ value, Leads middle post (next value)) (weaken : ∀ st, middle st → post st) :
    Leads pre post (prog >>= next) := by
  intro st holds
  have reached := first st holds
  cases ran : prog st with
  | ok value after =>
    rw [ran] at reached
    rw [bind_ok ran]
    exact rest value after reached
  | error _ after =>
    rw [ran] at reached
    rw [bind_error ran]
    exact weaken after reached

theorem seq (first : Leads inv inv prog)
    (rest : ∀ value, Leads inv inv (next value)) : Leads inv inv (prog >>= next) :=
  first.bind rest fun _ => id

theorem adaptExcept (leads : Leads pre post prog) (relabel : ε → ε) :
    Leads pre post (prog.adaptExcept relabel) := by
  intro st holds
  have reached := leads st holds
  cases ran : prog st with
  | ok => rwa [adaptExcept_ok ran, ← ran]
  | error =>
    rw [ran] at reached
    rw [adaptExcept_error ran]
    exact reached

theorem adapted (first : Stays inv prog) {relabel : ε → ε} (rest : ∀ value, Stays inv (next value)) :
    Stays inv (prog.adaptExcept relabel >>= next) :=
  (first.adaptExcept relabel).seq rest

theorem checkOf [ToString ε] {outcome : Except ε α}
    (rest : ∀ value, outcome = .ok value → Stays inv (next value)) :
    Stays inv ((MonadExcept.ofExcept outcome : EStateM ε σ α) >>= next) := by
  intro st holds
  cases outcome with
  | ok value => exact rest value rfl st holds
  | error => exact holds

theorem check [ToString ε] {outcome : Except ε α} (rest : ∀ value, Stays inv (next value)) :
    Stays inv ((MonadExcept.ofExcept outcome : EStateM ε σ α) >>= next) :=
  checkOf fun value _ => rest value

theorem tryCatch (leads : Leads pre middle prog) {handler : ε → EStateM ε σ α}
    (handled : ∀ err, Leads middle post (handler err)) (weaken : ∀ st, middle st → post st) :
    Leads pre post (tryCatch prog handler) := by
  intro st holds
  have reached := leads st holds
  change post (EStateM.tryCatch prog handler st).final
  unfold EStateM.tryCatch
  cases ran : prog st with
  | ok _ after =>
    rw [ran] at reached
    exact weaken after reached
  | error err after =>
    rw [ran] at reached
    exact handled err after reached

theorem of_ok (leads : Leads pre post prog) {st after : σ} {value : α} (holds : pre st)
    (ran : prog st = .ok value after) : post after := by
  have reached := leads st holds
  rw [ran] at reached
  exact reached

end Leads

def Returns (accept : α → Prop) (prog : EStateM ε σ α) : Prop :=
  ∀ st value after, prog st = .ok value after → accept value

theorem Returns.adaptExcept (returns : Returns accept prog) (relabel : ε → ε) :
    Returns accept (prog.adaptExcept relabel) :=
  fun st value after ran => returns st value after (adaptExcept_ok_iff.mp ran)

theorem Leads.seqOf {inv : σ → Prop}
    (first : Leads inv inv prog) (returns : Returns accept prog)
    (rest : ∀ value, accept value → Leads inv inv (next value)) :
    Leads inv inv (prog >>= next) := by
  intro st holds
  have reached := first st holds
  cases ran : prog st with
  | ok value after =>
    rw [ran] at reached
    rw [bind_ok ran]
    exact rest value (returns st value after ran) after reached
  | error =>
    rw [ran] at reached
    rw [bind_error ran]
    exact reached

end EStateM

namespace Except

variable {ε δ α β : Type} {outcome : Except ε α}

theorem bind_ok_iff {next : α → Except ε β} {result : β} :
    (outcome >>= next) = .ok result ↔ ∃ value, outcome = .ok value ∧ next value = .ok result := by
  cases outcome with
  | ok value =>
    constructor
    · exact fun finished => ⟨value, rfl, finished⟩
    · rintro ⟨_, same, finished⟩
      cases same
      exact finished
  | error =>
    constructor
    · rintro ⟨⟩
    · rintro ⟨_, ⟨⟩, _⟩

theorem exists_ok_unless {refused : Prop} [Decidable refused] {err : ε} :
    (∃ value, (if refused then .error err else outcome) = .ok value) ↔
      ¬ refused ∧ ∃ value, outcome = .ok value := by
  split
  · rename_i refused
    exact iff_of_false (by rintro ⟨_, ⟨⟩⟩) fun done => done.1 refused
  · rename_i passed
    exact (and_iff_right passed).symm

theorem mapError_ok_iff {relabel : ε → δ} {value : α} :
    outcome.mapError relabel = .ok value ↔ outcome = .ok value := by
  cases outcome with
  | ok =>
    constructor
    · rintro ⟨⟩
      rfl
    · rintro ⟨⟩
      rfl
  | error =>
    constructor <;> rintro ⟨⟩

end Except
