import Mathlib.Data.List.Induction

/-!
Answers kept from earlier calls: a call whose key has an entry is answered from it, any other is
computed. Some calls have no key, and entries may be dropped at any time.
-/

structure Memo (Call Key Value Cache : Type) where
  key : Call → Option Key
  value : Call → Value
  empty : Cache
  lookup : Cache → Key → Option Value
  store : Cache → Key → Value → Cache
  unknown : ∀ key, lookup empty key = none
  stored : ∀ {cache key value other found}, lookup (store cache key value) other = some found →
    other = key ∧ found = value ∨ lookup cache other = some found

namespace Memo

variable {Call Key Value Cache : Type} (memo : Memo Call Key Value Cache)

def ask (cache : Cache) (call : Call) : Value × Cache :=
  match memo.key call with
  | none => (memo.value call, cache)
  | some key =>
    match memo.lookup cache key with
    | some found => (found, cache)
    | none => (memo.value call, memo.store cache key (memo.value call))

def run (calls : List Call) : Cache :=
  calls.foldl (fun cache call => (memo.ask cache call).2) memo.empty

variable {memo} {calls : List Call} {key : Key} {found : Value}

theorem computed_of_lookup (hit : memo.lookup (memo.run calls) key = some found) :
    ∃ call ∈ calls, memo.key call = some key ∧ memo.value call = found := by
  induction calls using List.reverseRecOn with
  | nil => cases (memo.unknown key).symm.trans hit
  | append_singleton earlier call ih =>
    have before (old : memo.lookup (memo.run earlier) key = some found) :
        ∃ past ∈ earlier ++ [call], memo.key past = some key ∧ memo.value past = found := by
      obtain ⟨past, mem, computed⟩ := ih old
      exact ⟨past, List.mem_append_left _ mem, computed⟩
    rw [run, List.foldl_append] at hit
    change memo.lookup (memo.ask (memo.run earlier) call).2 key = some found at hit
    unfold ask at hit
    split at hit
    · exact before hit
    rename_i keyed
    split at hit
    · exact before hit
    · rcases memo.stored hit with ⟨rfl, rfl⟩ | old
      · exact ⟨call, by simp, keyed, rfl⟩
      · exact before old

/-- A call is answered with what is computed for it if no earlier call of its key computed another
value. -/
theorem ask_run {call : Call} (same : ∀ past ∈ calls, ∀ key, memo.key past = some key →
    memo.key call = some key → memo.value past = memo.value call) :
    (memo.ask (memo.run calls) call).1 = memo.value call := by
  unfold ask
  split
  · rfl
  rename_i keyed
  split
  · rename_i hit
    obtain ⟨past, mem, pastKeyed, rfl⟩ := computed_of_lookup hit
    exact same past mem _ pastKeyed keyed
  · rfl

end Memo
