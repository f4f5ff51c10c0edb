import Thrylos.SlashingSoundness

/-!
Whether the votes a node accepts can be slashed for one another. Surrounding votes are looked for in
the manager's memory only, which starts empty and has room for a thousand votes of a validator.
-/

namespace Thrylos

open Guarded (read Keeps wp_pure wp_read wp_update wp_bind wp_mono exclusively_cases)
open Manager (Surrounds surroundPair)

inductive VoteEvent where
  | vote (vote : Vote)
  | blocks (ws : WorldState)
  | restart (ws : WorldState)

def VoteEvent.next? (cfg : EngineConfig) (st : Guarded Engine) : VoteEvent → Option (Guarded Engine)
  | .vote cast => some (Engine.handleVote cfg cast st).final
  | .blocks ws => some { st with data := { st.data with world := ws } }
  | .restart ws => some (newConsensusEngine ws st.data.storage st.data.savedVotes)

def NonSlashable (votes : List Vote) : Prop :=
  votes.Pairwise fun first second => first.validatorAddress = second.validatorAddress →
    first.targetEpoch ≠ second.targetEpoch ∧ ¬ Surrounds first second ∧ ¬ Surrounds second first

def Recalled (st : Guarded Engine) : VoteEvent → Prop
  | .vote vote => ∀ saved ∈ st.data.savedVotes, saved.validatorAddress = vote.validatorAddress →
      Surrounds saved vote ∨ Surrounds vote saved →
      ¬ st.data.world.height < 100 ∧ saved ∈ st.data.votesOf vote.validatorAddress
  | .blocks _ | .restart _ => True

def Unopposed (vote : Vote) (ce : Engine) : Prop :=
  ce.world.height < 100 ∨ ∀ prev ∈ ce.votesOf vote.validatorAddress, surroundPair vote prev = none

section Steps

variable {cfg : EngineConfig} {vote : Vote}

theorem surroundPair_none {prev : Vote} (apart : surroundPair vote prev = none) :
    ¬ Surrounds prev vote ∧ ¬ Surrounds vote prev := by
  unfold surroundPair at apart
  split at apart
  · cases apart
  rename_i outer
  split at apart
  · cases apart
  rename_i inner
  exact ⟨inner, outer⟩

def SameVotes (data : Engine) (essence : Essence) : Prop :=
  essence.savedVotes = data.savedVotes ∧ essence.votesByValidator = data.votesByValidator

def anything : Scope := ⟨fun _ => True, fun _ => True, fun _ => True, fun _ => True⟩

theorem tolerates_sameVotes (cfg : EngineConfig) (data : Engine) :
    Tolerates cfg anything (SameVotes data) :=
  .of_closed (fun _ _ same effect => by cases effect <;> exact same) (fun _ _ => ⟨trivial, trivial⟩)
    fun _ _ => id

variable {data after : Engine}

theorem votesOf_eq (same : SameVotes data after.essence) (addr : Address) :
    after.votesOf addr = data.votesOf addr := by
  have votes : after.votesByValidator = data.votesByValidator := same.2
  unfold Engine.votesOf
  rw [votes]

theorem processVote_cases (cfg : EngineConfig) (vote : Vote) (data : Engine) :
    (∃ verdict after, Manager.processVote cfg vote ⟨false, data⟩ = .ok verdict ⟨false, after⟩ ∧
      after.savedVotes = data.savedVotes ∧ (verdict = .accepted → Unopposed vote data)) ∨
    ∃ halt after, Manager.processVote cfg vote ⟨false, data⟩ =
        .error halt ⟨halt.isDeadlock, after⟩ ∧ after.savedVotes = data.savedVotes := by
  refine exclusively_cases (wp_bind (wp_read ?_))
  split
  · rename_i grace
    exact wp_pure ⟨rfl, fun _ => Or.inl grace⟩
  have looked : Respects (SameVotes data) false
      (Manager.isValidatorJailed cfg vote.validatorAddress) :=
    (tolerates_sameVotes cfg data).procedure.isValidatorJailed
  refine wp_bind (wp_mono (looked.wp ⟨rfl, rfl⟩) (fun jailed after same => ?_) fun _ _ same => same.1)
  split
  · exact wp_pure ⟨same.1, nofun⟩
  refine wp_bind (wp_read ?_)
  rw [votesOf_eq same]
  split
  · exact wp_pure ⟨same.1, nofun⟩
  · rename_i apart
    rw [List.findSome?_eq_none_iff] at apart
    exact wp_bind (wp_update (wp_pure ⟨same.1, fun _ => Or.inr apart⟩))

structure Saved (vote : Vote) (before after : Engine) : Prop where
  saved : after.savedVotes = before.savedVotes ++ [vote]
  unvoted : before.hasVoted vote = false
  unopposed : Unopposed vote before

theorem settleVote_cases (cfg : EngineConfig) (vote : Vote) (verdict : Manager.VoteVerdict)
    (data : Engine) :
    let after := (Engine.settleVote cfg vote verdict ⟨false, data⟩).final.data
    after.savedVotes = data.savedVotes ∨
      (verdict = .accepted ∧ after.savedVotes = data.savedVotes ++ [vote]) := by
  cases verdict with
  | accepted => exact Or.inr ⟨rfl, rfl⟩
  | refused => exact Or.inl rfl
  | surrounding inner outer =>
    have slashed : Respects (SameVotes data) true
        (Manager.applySurroundVoteSlashing cfg (some inner) (some outer)) :=
      (tolerates_sameVotes cfg data).procedure.applySurroundVoteSlashing fun _ _ _ => trivial
    have settled : Respects (SameVotes data) true
        (Engine.settleVote cfg vote (.surrounding inner outer)) :=
      slashed.attempt.bind fun _ => Keeps.pure _
    exact Or.inl (settled ⟨false, data⟩ ⟨rfl, rfl⟩).1.1

theorem countVote_cases {held : Bool} (unvoted : data.hasVoted vote = false) :
    let after := ((Manager.processVote cfg vote >>= Engine.settleVote cfg vote)
      ⟨held, data⟩).final.data
    after.savedVotes = data.savedVotes ∨ Saved vote data after := by
  cases held with
  | true =>
    have blocked : Manager.processVote cfg vote ⟨true, data⟩ = .error .deadlock ⟨true, data⟩ :=
      rfl
    rw [EStateM.bind_error blocked]
    exact Or.inl rfl
  | false =>
  rcases processVote_cases cfg vote data with
    ⟨verdict, after, ran, same, unopposed⟩ | ⟨halt, after, ran, same⟩
  · rw [EStateM.bind_ok ran]
    rcases settleVote_cases cfg vote verdict after with
      kept | ⟨ok, saved⟩
    · exact Or.inl (kept.trans same)
    · exact Or.inr ⟨same ▸ saved, unvoted, unopposed ok⟩
  · rw [EStateM.bind_error ran]
    exact Or.inl same

theorem Engine.locked_data {prog : EngineM PUnit} (inv : Engine → Prop)
    (blind : ∀ ce busy, inv ce → inv { ce with busy }) (st : Guarded Engine) (holds : inv st.data)
    (reached : inv (prog { st with data := { st.data with busy := true } }).final.data) :
    inv (locked prog st).final.data := by
  unfold locked
  split
  · exact holds
  · cases ran : prog { st with data := { st.data with busy := true } } with
    | ok value after | error halt after =>
      rw [ran] at reached
      exact blind _ _ reached

theorem handleVote_cases (cfg : EngineConfig) (vote : Vote) (st : Guarded Engine) :
    let after := (Engine.handleVote cfg vote st).final.data
    after.savedVotes = st.data.savedVotes ∨ Saved vote st.data after := by
  refine Engine.locked_data
    (fun after => after.savedVotes = st.data.savedVotes ∨ Saved vote st.data after)
    (fun _ _ reached => reached.imp id fun saved => { saved with }) st (Or.inl rfl) ?_
  obtain ⟨held, data⟩ := st
  let busy : Engine := { data with busy := true }
  have seen : (read : EngineM Engine) ⟨held, busy⟩ = .ok busy ⟨held, busy⟩ := rfl
  rw [EStateM.bind_ok seen]
  cases verifyVoteSignature cfg busy.world.validators vote with
  | error => exact Or.inl rfl
  | ok _ =>
  split
  · exact Or.inl rfl
  rename_i unvoted
  have unvoted : busy.hasVoted vote = false := Bool.eq_false_iff.mpr unvoted
  cases Engine.validateVote busy.world.validators vote with
  | error => exact Or.inl rfl
  | ok => exact (countVote_cases unvoted).imp id fun saved => { saved with }

theorem targetEpoch_ne {ce : Engine} {saved : Vote} (unvoted : ce.hasVoted vote = false)
    (mem : saved ∈ ce.savedVotes) (same : saved.validatorAddress = vote.validatorAddress) :
    saved.targetEpoch ≠ vote.targetEpoch := by
  intro target
  have voted : ce.hasVoted vote = true :=
    List.any_eq_true.mpr ⟨saved, mem, decide_eq_true ⟨target, same⟩⟩
  exact absurd (voted.symm.trans unvoted) (by decide)

theorem NonSlashable.saved {st : Guarded Engine}
    (safe : NonSlashable st.data.savedVotes) (recalled : Recalled st (.vote vote))
    (cast : Saved vote st.data after) : NonSlashable after.savedVotes := by
  unfold NonSlashable
  rw [cast.saved, List.pairwise_append]
  refine ⟨safe, List.pairwise_singleton _ _, fun earlier mem next new same => ?_⟩
  rw [List.mem_singleton.mp new] at same ⊢
  have apart : ¬ (Surrounds earlier vote ∨ Surrounds vote earlier) := by
    intro surround
    obtain ⟨late, remembered⟩ := recalled earlier mem same surround
    have alone := surroundPair_none (cast.unopposed.resolve_left late earlier remembered)
    exact surround.elim alone.1 alone.2
  exact ⟨targetEpoch_ne cast.unvoted mem same, fun outer => apart (Or.inl outer),
    fun inner => apart (Or.inr inner)⟩

end Steps

/-- While the manager remembers the votes that matter, nobody can be slashed for two votes the node
accepted. -/
theorem accepted_votes_nonslashable (cfg : EngineConfig) (start st : Guarded Engine)
    (fresh : start.data.savedVotes = []) (run : Run (VoteEvent.next? cfg) Recalled start st) :
    NonSlashable st.data.savedVotes := by
  refine run.keeps (fun st => NonSlashable st.data.savedVotes) ?_ ?_
  · rw [fresh]
    exact List.Pairwise.nil
  · intro st event after safe recalled made
    cases event with
    | vote vote =>
      cases made
      rcases handleVote_cases cfg vote st with same | cast
      · exact same.symm ▸ safe
      · exact safe.saved recalled cast
    | blocks ws | restart ws =>
      cases made
      exact safe

def signedVote (sourceEpoch targetEpoch : UInt64) : Vote :=
  let vote : Vote := ⟨sampleAddress 97, [1], [2], sourceEpoch, targetEpoch, []⟩
  match signHash sampleEngineConfig.curve [1] (computeVoteHash sampleEngineConfig vote) with
  | .ok signature => { vote with signature := signature.bytes }
  | .error _ => vote

def happen (event : VoteEvent) (st : Guarded Engine) : Guarded Engine :=
  (event.next? sampleEngineConfig st).getD st

theorem next?_happen (event : VoteEvent) (st : Guarded Engine) :
    event.next? sampleEngineConfig st = some (happen event st) := by
  cases event <;> rfl

theorem accepted_votes_nonslashable_in_a_row :
    let voted := happen (.vote (signedVote 2 3)) (happen (.vote (signedVote 1 2)) accusedNode)
    voted.data.savedVotes = [signedVote 1 2, signedVote 2 3] ∧ NonSlashable voted.data.savedVotes := by
  have apart : ∀ saved ∈ (happen (.vote (signedVote 1 2)) accusedNode).data.savedVotes,
      ¬ (Surrounds saved (signedVote 2 3) ∨ Surrounds (signedVote 2 3) saved) := by
    decide +kernel
  refine ⟨by decide +kernel, ?_⟩
  refine accepted_votes_nonslashable sampleEngineConfig accusedNode _ rfl ?_
  refine .call (VoteEvent.vote (signedVote 2 3)) _ (.call (VoteEvent.vote (signedVote 1 2)) _ .start
    nofun (next?_happen _ _)) ?_ (next?_happen _ _)
  exact fun saved mem _ surround => absurd surround (apart saved mem)

theorem surrounding_vote_accepted_after_restart :
    let voted := happen (.vote (signedVote 2 3)) accusedNode
    let restarted := happen (.restart voted.data.world) voted
    let again := happen (.vote (signedVote 1 4)) restarted
    accusedNode.data.savedVotes = [] ∧ again.data.savedVotes = [signedVote 2 3, signedVote 1 4] ∧
      Surrounds (signedVote 1 4) (signedVote 2 3) := by
  decide +kernel

end Thrylos
