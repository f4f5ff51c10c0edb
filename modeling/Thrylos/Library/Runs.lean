import Mathlib.Data.List.Induction
import Mathlib.Logic.Relation

/-!
Runs of a machine whose calls may fail to lead anywhere. Each call meets a condition on the state it
is made in.
-/

/-- `Run next? allowed start state`: allowed calls lead from one state to the other. -/
inductive Run {State Call : Type} (next? : State → Call → Option State)
    (allowed : State → Call → Prop) (start : State) : State → Prop where
  | start : Run next? allowed start start
  | call {st : State} (call : Call) (after : State) (before : Run next? allowed start st)
      (meets : allowed st call) (made : next? st call = some after) :
      Run next? allowed start after

namespace Run

variable {State Call : Type} {next? : State → Call → Option State}
  {allowed : State → Call → Prop} {start st : State}

theorem keeps (run : Run next? allowed start st) (invariant : State → Prop)
    (initially : invariant start) (kept : ∀ st call after, invariant st → allowed st call →
      next? st call = some after → invariant after) : invariant st := by
  induction run with
  | start => exact initially
  | call call after _ meets made ih => exact kept _ call after ih meets made

theorem mono {weaker : State → Call → Prop} (run : Run next? allowed start st)
    (weaken : ∀ st call, allowed st call → weaker st call) : Run next? weaker start st := by
  induction run with
  | start => exact .start
  | call call after _ meets made ih => exact .call call after ih (weaken _ call meets) made

end Run

section Prefixes

variable {σ ε : Type} {step : σ → ε → σ} {Good : σ → Prop} {Proper : σ → ε → Prop}

/-- A state is good as long as its events are proper: if one event tells, so do whole runs. -/
theorem good_along_iff {start : σ} (first : Good start)
    (each : ∀ st event, Good st → (Good (step st event) ↔ Proper st event)) (events : List ε) :
    (∀ earlier, earlier <+: events → Good (earlier.foldl step start)) ↔
      ∀ earlier event, earlier ++ [event] <+: events → Proper (earlier.foldl step start) event := by
  constructor
  · intro good earlier event within
    have before := good earlier ((List.prefix_append _ _).trans within)
    have after := good _ within
    rw [List.foldl_append] at after
    exact (each _ _ before).mp after
  · intro proper earlier within
    induction earlier using List.reverseRecOn with
    | nil => exact first
    | append_singleton earlier event ih =>
      rw [List.foldl_append]
      exact (each _ _ (ih ((List.prefix_append _ _).trans within))).mpr (proper _ _ within)

end Prefixes
