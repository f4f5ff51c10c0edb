import Thrylos.Governance

/-!
What the governance manager's calls do to its records. A call that fails has at most dropped
unregistered members from domains; one that succeeds saves at most one proposal.
-/

namespace Thrylos

open EStateM (bind_ok bind_error get_ok Stays check_ok check_error)
open GoText
open EStateM (Leads)

section Tallying

variable (cfg : GovernanceConfig) (vals : ValidatorSet) (start : GovernanceState)
  {now : Nat → Int64} {st after : GovernanceState} {proposalID : Bytes}

theorem getStakeDomainTotalStake_business (dom : Bytes) :
    Stays (SameBusiness start) (getStakeDomainTotalStake vals dom) := by
  intro st same
  by_cases unnamed : trimSpace dom = []
  · rw [getStakeDomainTotalStake_unnamed unnamed]
    exact same
  · obtain ⟨_, ran, visited⟩ := getStakeDomainTotalStake_ok unnamed
    rw [ran]
    exact same.trans visited.business

theorem addEligibleStake_business (addresses : List Address) (seenDomains : List Bytes)
    (total : Nat) :
    Stays (SameBusiness start) (addEligibleStake cfg vals addresses seenDomains total) := by
  induction addresses generalizing seenDomains total with
  | nil => exact .skip _
  | cons _ _ ih =>
    refine (Leads.get _).seq fun read => ?_
    dsimp only
    split
    · exact ih _ _
    · exact (getStakeDomainTotalStake_business vals start _).seq fun _ => ih _ _

theorem addVotes_business (votes : List (Bytes × Governance.Vote)) (yesStake noStake : Nat) :
    Stays (SameBusiness start) (addVotes vals votes yesStake noStake) := by
  induction votes generalizing yesStake noStake with
  | nil => exact .skip _
  | cons entry _ ih =>
    refine (getStakeDomainTotalStake_business vals start entry.1).seq fun stake => ?_
    split <;> exact ih _ _

structure Tallied (cfg : GovernanceConfig) (now : Nat → Int64) (vals : ValidatorSet)
    (proposalID : Bytes) (st : GovernanceState) (prop : Proposal)
    (totalEligibleStake yesStake noStake : Nat) (counted : GovernanceState) : Prop where
  found : st.proposals.find? proposalID = some prop
  active : prop.status = .active
  due : prop.votingEndsAt ≤ now 0
  counts : ∃ surveyed, totalEligibleDomainStake cfg vals st = .ok totalEligibleStake surveyed ∧
    addVotes vals (cfg.visit prop.votes.entries) 0 0 surveyed = .ok (yesStake, noStake) counted

def GovernanceConfig.verdict (cfg : GovernanceConfig)
    (totalEligibleStake yesStake noStake : Nat) : ProposalStatus :=
  if cfg.carried totalEligibleStake yesStake noStake then .approved else .rejected

inductive Finalized (cfg : GovernanceConfig) (now : Nat → Int64) (vals : ValidatorSet)
    (proposalID : Bytes) (st : GovernanceState) :
    EStateM.Result String GovernanceState Proposal → Prop where
  | refused {err : String} {after : GovernanceState} (same : SameBusiness st after) :
      Finalized cfg now vals proposalID st (.error err after)
  | earlier {prop : Proposal} (found : st.proposals.find? proposalID = some prop)
      (closed : prop.status ≠ .active) :
      Finalized cfg now vals proposalID st (.ok prop st)
  | counted {prop : Proposal} {totalEligibleStake yesStake noStake : Nat}
      {counted after : GovernanceState}
      (tallied : Tallied cfg now vals proposalID st prop totalEligibleStake yesStake
        noStake counted)
      (saved : after.proposals = st.proposals.insert (prop.closed
        (cfg.verdict totalEligibleStake yesStake noStake) yesStake noStake (now 1))) :
      Finalized cfg now vals proposalID st (.ok (prop.closed
        (cfg.verdict totalEligibleStake yesStake noStake) yesStake noStake (now 1)) after)

theorem getProposal_ok {prop : Proposal} (found : st.proposals.find? proposalID = some prop) :
    getProposal proposalID st = .ok prop st := by
  unfold getProposal
  rw [bind_ok get_ok, found]
  rfl

theorem getProposal_none (absent : st.proposals.find? proposalID = none) :
    ∃ err, getProposal proposalID st = .error err st := by
  unfold getProposal
  rw [bind_ok get_ok, absent]
  exact ⟨_, rfl⟩

theorem applyApprovedParameterChange_cases (parameter value : Bytes) (st : GovernanceState) :
    (∃ err, applyApprovedParameterChange cfg parameter value st = .error err st) ∨
    ∃ after, applyApprovedParameterChange cfg parameter value st = .ok () after ∧
      after.proposals = st.proposals := by
  unfold applyApprovedParameterChange
  cases GovernedParameter.named? parameter with
  | none => exact .inl ⟨_, rfl⟩
  | some governed => exact .inr ⟨_, rfl, by cases governed <;> rfl⟩

theorem concludeProposal_cases (prop : Proposal) (st : GovernanceState) :
    (∃ err after, SameBusiness st after ∧
      ∀ finalizedAt, concludeProposal cfg vals prop finalizedAt st = .error err after) ∨
    ∃ totalEligibleStake yesStake noStake surveyed counted, ∃ kept : GovernanceState,
      totalEligibleDomainStake cfg vals st = .ok totalEligibleStake surveyed ∧
      addVotes vals (cfg.visit prop.votes.entries) 0 0 surveyed = .ok (yesStake, noStake) counted ∧
      kept.proposals = st.proposals ∧ ∀ finalizedAt, concludeProposal cfg vals prop finalizedAt st =
        .ok (prop.closed (cfg.verdict totalEligibleStake yesStake noStake) yesStake noStake
            finalizedAt)
          (kept.saving (prop.closed (cfg.verdict totalEligibleStake yesStake noStake) yesStake
            noStake finalizedAt)) := by
  unfold concludeProposal
  have surveying := addEligibleStake_business cfg vals st vals.active [] 0 st (.refl st)
  change SameBusiness st (totalEligibleDomainStake cfg vals st).final at surveying
  cases totalled : totalEligibleDomainStake cfg vals st with
  | error err surveyed =>
    rw [totalled] at surveying
    exact .inl ⟨err, surveyed, surveying, fun _ => bind_error totalled _⟩
  | ok totalEligibleStake surveyed =>
  rw [totalled] at surveying
  have counting := addVotes_business vals st (cfg.visit prop.votes.entries) 0 0 surveyed surveying
  cases added : addVotes vals (cfg.visit prop.votes.entries) 0 0 surveyed with
  | error err counted =>
    rw [added] at counting
    refine .inl ⟨err, counted, counting, fun _ => ?_⟩
    rw [bind_ok totalled, bind_error added]
  | ok votes counted =>
  obtain ⟨yesStake, noStake⟩ := votes
  rw [added] at counting
  have same : counted.proposals = st.proposals := by
    rw [show SameBusiness st counted from counting]
  by_cases carried : cfg.carried totalEligibleStake yesStake noStake = true
  · have verdict : cfg.verdict totalEligibleStake yesStake noStake = .approved :=
      if_pos carried
    rcases applyApprovedParameterChange_cases cfg prop.parameter
      prop.proposedValue counted with ⟨err, failed⟩ | ⟨changed, applied, kept⟩
    · refine .inl ⟨err, counted, counting, fun _ => ?_⟩
      rw [bind_ok totalled, bind_ok added]
      dsimp only
      rw [if_pos carried, bind_error failed]
    · refine .inr ⟨totalEligibleStake, yesStake, noStake, surveyed, counted, changed, rfl,
        added, kept.trans same, fun finalizedAt => ?_⟩
      rw [bind_ok totalled, bind_ok added]
      dsimp only
      rw [if_pos carried, bind_ok applied, verdict]
      rfl
  · have verdict : cfg.verdict totalEligibleStake yesStake noStake = .rejected :=
      if_neg carried
    refine .inr ⟨totalEligibleStake, yesStake, noStake, surveyed, counted, counted, rfl,
      added, same, fun finalizedAt => ?_⟩
    rw [bind_ok totalled, bind_ok added]
    dsimp only
    rw [if_neg carried, verdict]
    rfl

section Deciding

variable {prop : Proposal} (found : st.proposals.find? proposalID = some prop)
include found

theorem finalizeProposal_earlier (closed : prop.status ≠ .active) :
    finalizeProposal cfg now vals proposalID st = .ok prop st := by
  unfold finalizeProposal
  rw [bind_ok (getProposal_ok found), if_pos closed]
  rfl

theorem finalizeProposal_early (active : prop.status = .active)
    (early : now 0 < prop.votingEndsAt) :
    ∃ err, finalizeProposal cfg now vals proposalID st = .error err st := by
  unfold finalizeProposal
  rw [bind_ok (getProposal_ok found), if_neg (not_not.mpr active), if_pos early]
  exact ⟨_, rfl⟩

theorem finalizeProposal_due (active : prop.status = .active) (due : ¬ now 0 < prop.votingEndsAt) :
    finalizeProposal cfg now vals proposalID st = concludeProposal cfg vals prop (now 1) st := by
  unfold finalizeProposal
  rw [bind_ok (getProposal_ok found), if_neg (not_not.mpr active), if_neg due]

end Deciding

theorem finalizeProposal_absent (absent : st.proposals.find? proposalID = none) :
    ∃ err, finalizeProposal cfg now vals proposalID st = .error err st := by
  obtain ⟨err, missing⟩ := getProposal_none absent
  exact ⟨err, bind_error missing _⟩

theorem finalizeProposal_finalized (now : Nat → Int64) (proposalID : Bytes) (st : GovernanceState) :
    Finalized cfg now vals proposalID st (finalizeProposal cfg now vals proposalID st) := by
  cases found : st.proposals.find? proposalID with
  | none =>
    obtain ⟨err, absent⟩ := finalizeProposal_absent cfg vals found
    rw [absent]
    exact .refused (.refl st)
  | some prop =>
  by_cases active : prop.status = .active
  swap
  · rw [finalizeProposal_earlier cfg vals found active]
    exact .earlier found active
  by_cases early : now 0 < prop.votingEndsAt
  · obtain ⟨err, refused⟩ := finalizeProposal_early cfg vals found active early
    rw [refused]
    exact .refused (.refl st)
  rw [finalizeProposal_due cfg vals found active early]
  rcases concludeProposal_cases cfg vals prop st with
    ⟨err, after, same, failed⟩ |
    ⟨totalEligibleStake, yesStake, noStake, surveyed, counted, kept, totalled, added, same, ran⟩
  · rw [failed]
    exact .refused same
  · rw [ran]
    exact .counted ⟨found, active, Int64.not_lt.mp early, surveyed, totalled, added⟩
      (congrArg (KeyedMap.insert · _) same)

theorem submitProposal_cases (id : Bytes) (proposer : Address)
    (parameter proposedValue : Bytes) (st : GovernanceState) :
    (∃ err, ∀ now, submitProposal cfg now vals id proposer parameter proposedValue st =
      .error err st) ∨ ∀ now, submitProposal cfg now vals id proposer parameter proposedValue st =
      .ok (newProposal cfg (now 0) id proposer parameter proposedValue)
        (st.saving (newProposal cfg (now 0) id proposer parameter proposedValue)) := by
  unfold submitProposal
  by_cases disabled : cfg.enabled = false
  · simp only [if_pos disabled]
    exact .inl ⟨_, fun _ => rfl⟩
  simp only [if_neg disabled]
  by_cases unnamed : trimSpace id = []
  · simp only [if_pos unnamed]
    exact .inl ⟨_, fun _ => rfl⟩
  simp only [if_neg unnamed]
  cases active : ensureActiveValidator vals proposer with
  | error => exact .inl ⟨_, fun _ => check_error⟩
  | ok =>
  cases checked : validateParameterChange cfg parameter proposedValue with
  | error err =>
    refine .inl ⟨err, fun now => ?_⟩
    rw [check_ok, check_error]
  | ok =>
    refine .inr fun now => ?_
    rw [check_ok]
    rfl

theorem castVote_cases (proposalID : Bytes) (valAddr : Address) (approve : Bool)
    (st : GovernanceState) :
    (∀ now, ∃ err, castVote cfg now vals proposalID valAddr approve st = .error err st) ∨
    ∃ prop, st.proposals.find? proposalID = some prop ∧
      ensureActiveValidator vals valAddr = .ok () ∧
      (∀ now : Nat → Int64, prop.votingEndsAt < now 0 → ∃ err,
        castVote cfg now vals proposalID valAddr approve st = .error err st) ∧
      ∀ now : Nat → Int64, ¬ prop.votingEndsAt < now 0 →
        castVote cfg now vals proposalID valAddr approve st =
          .ok () (st.saving (prop.withVote (st.votingDomain cfg valAddr)
            valAddr approve (now 1))) := by
  unfold castVote
  by_cases disabled : cfg.enabled = false
  · simp only [if_pos disabled]
    exact .inl fun _ => ⟨_, rfl⟩
  simp only [if_neg disabled]
  cases found : st.proposals.find? proposalID with
  | none =>
    obtain ⟨err, absent⟩ := getProposal_none found
    exact .inl fun _ => ⟨err, bind_error absent _⟩
  | some prop =>
  simp only [bind_ok (getProposal_ok found)]
  by_cases closed : prop.status ≠ .active
  · simp only [if_pos closed]
    exact .inl fun _ => ⟨_, rfl⟩
  simp only [if_neg closed]
  have ended (now : Nat → Int64) (late : prop.votingEndsAt < now 0) (rest : GovernanceM Unit) :
      ∃ err, (if prop.votingEndsAt < now 0 then
        throw s!"proposal {text proposalID} voting period has ended" else rest) st =
          .error err st := by
    rw [if_pos late]
    exact ⟨_, rfl⟩
  cases active : ensureActiveValidator vals valAddr with
  | error =>
    refine .inl fun now => ?_
    by_cases late : prop.votingEndsAt < now 0
    · exact ended now late _
    · rw [if_neg late]
      exact ⟨_, check_error⟩
  | ok =>
  cases through : votedThrough prop (st.votingDomain cfg valAddr) valAddr with
  | some =>
    refine .inl fun now => ?_
    by_cases late : prop.votingEndsAt < now 0
    · exact ended now late _
    · rw [if_neg late, check_ok, bind_ok get_ok, through]
      exact ⟨_, rfl⟩
  | none =>
    refine .inr ⟨prop, rfl, rfl, fun now late => ended now late _, fun now stillOpen => ?_⟩
    rw [if_neg stillOpen, check_ok, bind_ok get_ok, through]
    rfl

end Tallying

section Transactions

def GovernanceConfig.actsOn (cfg : GovernanceConfig) (tx : Transaction) (proposalID : Bytes) :
    Prop :=
  (tx.type = .governanceVote ∧
    ∃ payload, parseVotePayload cfg tx.data = .ok payload ∧ payload.proposalID = proposalID) ∨
  (tx.type = .governanceFinalize ∧
    ∃ payload, parseFinalizePayload cfg tx.data = .ok payload ∧ payload.proposalID = proposalID)

inductive GovernanceConfig.Saves (cfg : GovernanceConfig) (now : Nat → Int64) (tx : Transaction)
    (saved : Proposal) : Prop where
  | proposed {payload : ProposalPayload} (kind : tx.type = .governancePropose)
      (parsed : parseProposalPayload cfg tx.data = .ok payload)
      (same : saved = newProposal cfg (now 0) tx.hash tx.fromAddr payload.parameter
        payload.proposedValue)
  | acted (acts : cfg.actsOn tx saved.id)

inductive Handled (cfg : GovernanceConfig) (now : Nat → Int64) (tx : Transaction)
    (st : GovernanceState) : EStateM.Result String GovernanceState Unit → Prop where
  | refused {err : String} {after : GovernanceState} (same : SameBusiness st after) :
      Handled cfg now tx st (.error err after)
  | idle (other : tx.type ≠ .governancePropose) : Handled cfg now tx st (.ok () st)
  | saved {saved : Proposal} {after : GovernanceState} (saves : cfg.Saves now tx saved)
      (inserted : after.proposals = st.proposals.insert saved) :
      Handled cfg now tx st (.ok () after)

variable (cfg : GovernanceConfig) (now : Nat → Int64) (vals : ValidatorSet)
  {tx : Transaction} (st : GovernanceState)

theorem governanceProposal_handled (kind : tx.type = .governancePropose) :
    Handled cfg now tx st (governanceProposal cfg now vals tx st) := by
  unfold governanceProposal
  cases parsed : parseProposalPayload cfg tx.data with
  | error =>
    rw [check_error]
    exact .refused (.refl st)
  | ok payload =>
  rw [check_ok]
  rcases submitProposal_cases cfg vals tx.hash tx.fromAddr payload.parameter
    payload.proposedValue st with ⟨err, failed⟩ | submitted
  · rw [bind_error (failed now)]
    exact .refused (.refl st)
  · rw [bind_ok (submitted now)]
    exact .saved (.proposed kind parsed rfl) rfl

theorem governanceVote_handled (kind : tx.type = .governanceVote) :
    Handled cfg now tx st (governanceVote cfg now vals tx st) := by
  unfold governanceVote
  cases parsed : parseVotePayload cfg tx.data with
  | error =>
    rw [check_error]
    exact .refused (.refl st)
  | ok payload =>
  rw [check_ok]
  rcases castVote_cases cfg vals payload.proposalID tx.fromAddr payload.approve
    st with failed | ⟨prop, found, _, ended, voted⟩
  · obtain ⟨err, failed⟩ := failed now
    rw [failed]
    exact .refused (.refl st)
  by_cases late : prop.votingEndsAt < now 0
  · obtain ⟨_, failed⟩ := ended now late
    rw [failed]
    exact .refused (.refl st)
  · rw [voted now late]
    have named : payload.proposalID = prop.id := (KeyedMap.find?_key found).symm
    refine .saved (.acted ?_) rfl
    exact .inl ⟨kind, payload, parsed, named⟩

theorem governanceFinalize_handled (kind : tx.type = .governanceFinalize) :
    Handled cfg now tx st (governanceFinalize cfg now vals tx st) := by
  unfold governanceFinalize
  cases parsed : parseFinalizePayload cfg tx.data with
  | error =>
    rw [check_error]
    exact .refused (.refl st)
  | ok payload =>
  rw [check_ok]
  have finalized := finalizeProposal_finalized cfg vals now payload.proposalID st
  cases ran : finalizeProposal cfg now vals payload.proposalID st with
  | error =>
    rw [ran] at finalized
    rw [bind_error ran]
    cases finalized with
    | refused same => exact .refused same
  | ok prop =>
  rw [ran] at finalized
  rw [bind_ok ran]
  cases finalized with
  | earlier => exact .idle (by simp [kind])
  | @counted prop _ _ _ _ _ tallied saved =>
    have named : payload.proposalID = prop.id := (KeyedMap.find?_key tallied.found).symm
    refine .saved (.acted ?_) saved
    exact .inr ⟨kind, payload, parsed, named⟩

theorem handle_handled (tx : Transaction) : Handled cfg now tx st (cfg.handle now vals tx st) := by
  unfold GovernanceConfig.handle
  cases kind : tx.type with
  | governancePropose => exact governanceProposal_handled cfg now vals st kind
  | governanceVote => exact governanceVote_handled cfg now vals st kind
  | governanceFinalize => exact governanceFinalize_handled cfg now vals st kind
  | _ => exact .idle (by simp [kind])

end Transactions

end Thrylos
