import Thrylos.AccountManagerLemmas
import Thrylos.GovernanceLemmas
import Thrylos.Library.Runs
import Thrylos.Library.Totals

/-!
What `FinalizeProposal` counts. A vote is kept under the domain its validator voted for at the time,
and weighed by what the domain is at the end.
-/

namespace Thrylos

open EStateM (Leads)
open GoText

structure ProperDomain (dom : Bytes) : Prop where
  named : dom ≠ []
  trimmed : Trim.Trimmed spaces dom

theorem ProperDomain.trimSpace {dom : Bytes} (proper : ProperDomain dom) :
    GoText.trimSpace dom = dom :=
  Trim.trim_of_trimmed proper.trimmed

theorem isHexDigit_printable :
    ∀ digit : Byte, isHexDigit digit = true → 32 < digit ∧ digit < 127 := by
  decide +kernel

variable {addr : Address}

theorem properDomain_of_validateAddress (valid : validateAddress addr = .ok ()) :
    ProperDomain addr := by
  obtain ⟨lead, _, leads, rfl, _, hex⟩ := validateAddress_shape valid
  have ledBy : lead ≠ [] ∧ ∀ letter ∈ lead, 32 < letter ∧ letter < 127 := by
    rcases leads with rfl | rfl | rfl <;> decide +kernel
  refine ⟨fun nothing => ledBy.1 (List.append_eq_nil_iff.mp nothing).1, trimmed_of_printable ?_⟩
  intro letter mem
  rcases List.mem_append.mp mem with early | late
  · exact ledBy.2 letter early
  · exact isHexDigit_printable letter (hex letter late)

structure Registry where
  validators : ValidatorSet
  proper : ∀ entry ∈ validators.entries,
    entry.2.address = entry.1 ∧ validateAddress entry.1 = .ok ()

theorem votingDomain_proper (cfg : GovernanceConfig) (st : GovernanceState)
    (valid : validateAddress addr = .ok ()) : ProperDomain (st.votingDomain cfg addr) := by
  have own := properDomain_of_validateAddress valid
  unfold GovernanceState.votingDomain GovernanceState.stakeDomain normalizeStakeDomainID
  split
  · exact own
  · dsimp only
    split
    · exact own
    · rename_i named
      exact ⟨named, trimmed_trimSpace _⟩

section Counting

variable {cfg : GovernanceConfig} {vals : ValidatorSet}

def GovernanceState.weight (st : GovernanceState) (vals : ValidatorSet) (dom : Bytes) : Nat :=
  vals.domainStake dom (st.members dom)

variable {before after : GovernanceState} {dom : Bytes}

theorem Visited.weight_of_unvisited {domains : List Bytes} (visited : Visited vals domains before after)
    (unvisited : dom ∉ domains) : after.weight vals dom = before.weight vals dom := by
  unfold GovernanceState.weight
  rw [visited.members, if_neg unvisited]

theorem SameBusiness.votingDomain (same : SameBusiness before after)
    (cfg : GovernanceConfig) (addr : Address) :
    after.votingDomain cfg addr = before.votingDomain cfg addr := by
  unfold GovernanceState.votingDomain
  rw [same.stakeDomain]

theorem getStakeDomainTotalStake_proper (vals : ValidatorSet)
    (proper : ProperDomain dom) (st : GovernanceState) :
    ∃ after, getStakeDomainTotalStake vals dom st = .ok (st.weight vals dom) after ∧
      Visited vals [dom] st after := by
  have named : GoText.trimSpace dom ≠ [] := by
    rw [proper.trimSpace]
    exact proper.named
  obtain ⟨after, ran, visited⟩ := getStakeDomainTotalStake_ok named
  rw [proper.trimSpace] at ran visited
  exact ⟨after, ran, visited⟩

theorem addEligibleStake_ok (vals : ValidatorSet) (addresses : List Address) (seen : List Bytes)
    (total : Nat)
    (st : GovernanceState) (proper : ∀ addr ∈ addresses, ProperDomain (st.votingDomain cfg addr)) :
    ∃ domains after, addEligibleStake cfg vals addresses seen total st =
        .ok (total + (domains.map (st.weight vals)).sum) after ∧
      Visited vals domains st after ∧ domains.Nodup ∧
      ∀ dom, dom ∈ domains ↔ dom ∈ addresses.map (st.votingDomain cfg) ∧ dom ∉ seen := by
  induction addresses generalizing seen total st with
  | nil => exact ⟨[], st, rfl, .none vals st, List.nodup_nil, by simp⟩
  | cons addr _ ih =>
    unfold addEligibleStake
    rw [bind_ok get_ok]
    by_cases known : st.votingDomain cfg addr ∈ seen
    · obtain ⟨domains, after, ran, visited, nodup, same⟩ := ih seen total st
        fun other mem => proper other (List.mem_cons_of_mem _ mem)
      refine ⟨domains, after, ?_, visited, nodup, fun dom => ?_⟩
      · rw [if_pos known, ran]
      · rw [same, List.map_cons, List.mem_cons]
        constructor
        · exact fun ⟨mem, fresh⟩ => ⟨.inr mem, fresh⟩
        · rintro ⟨rfl | mem, fresh⟩
          · exact absurd known fresh
          · exact ⟨mem, fresh⟩
    · obtain ⟨middle, read, first⟩ := getStakeDomainTotalStake_proper vals
        (proper addr List.mem_cons_self) st
      have sameDomain : middle.votingDomain cfg = st.votingDomain cfg :=
        funext fun other => first.business.votingDomain cfg other
      obtain ⟨domains, after, ran, visited, nodup, same⟩ := ih
        (st.votingDomain cfg addr :: seen)
        (total + st.weight vals (st.votingDomain cfg addr)) middle
        fun other mem => sameDomain ▸ proper other (List.mem_cons_of_mem _ mem)
      rw [sameDomain] at same
      have apart : st.votingDomain cfg addr ∉ domains := fun mem =>
        ((same _).mp mem).2 List.mem_cons_self
      have unmoved : domains.map (middle.weight vals) = domains.map (st.weight vals) :=
        List.map_congr_left fun dom mem => first.weight_of_unvisited
          fun again => apart (List.mem_singleton.mp again ▸ mem)
      refine ⟨st.votingDomain cfg addr :: domains, after, ?_, first.append visited,
        List.nodup_cons.mpr ⟨apart, nodup⟩, fun dom => ?_⟩
      · rw [if_neg known, bind_ok read, ran, unmoved, List.map_cons, List.sum_cons, Nat.add_assoc]
      · rw [List.mem_cons, same, List.map_cons, List.mem_cons, List.mem_cons]
        constructor
        · rintro (rfl | ⟨mem, fresh⟩)
          · exact ⟨.inl rfl, known⟩
          · exact ⟨.inr mem, fun old => fresh (.inr old)⟩
        · rintro ⟨rfl | mem, fresh⟩
          · exact .inl rfl
          · by_cases first : dom = st.votingDomain cfg addr
            · exact .inl first
            · exact .inr ⟨mem, fun old => old.elim first fresh⟩

def stakeFor (weight : Bytes → Nat) (approve : Bool) (votes : List (Bytes × Governance.Vote)) : Nat :=
  ((votes.filter (·.2.approve = approve)).map fun entry => weight entry.1).sum

theorem stakeFor_perm (weight : Bytes → Nat) (approve : Bool)
    {first second : List (Bytes × Governance.Vote)} (perm : first.Perm second) :
    stakeFor weight approve first = stakeFor weight approve second :=
  ((perm.filter _).map _).sum_nat

theorem stakeFor_congr {weight other : Bytes → Nat} (approve : Bool)
    {votes : List (Bytes × Governance.Vote)}
    (same : ∀ entry ∈ votes, weight entry.1 = other entry.1) :
    stakeFor weight approve votes = stakeFor other approve votes := by
  unfold stakeFor
  rw [List.map_congr_left fun entry mem => same entry (List.mem_of_mem_filter mem)]

theorem stakeFor_add (weight : Bytes → Nat) (votes : List (Bytes × Governance.Vote)) :
    stakeFor weight true votes + stakeFor weight false votes =
      ((votes.map Prod.fst).map weight).sum := by
  induction votes with
  | nil => rfl
  | cons entry _ ih =>
    unfold stakeFor at ih ⊢
    cases approve : entry.2.approve <;> simp [approve] at ih ⊢ <;> omega

theorem addVotes_ok (vals : ValidatorSet) (votes : List (Bytes × Governance.Vote))
    (yesStake noStake : Nat) (st : GovernanceState) (proper : ∀ entry ∈ votes, ProperDomain entry.1)
    (apart : (votes.map Prod.fst).Nodup) : ∃ after, addVotes vals votes yesStake noStake st =
      .ok (yesStake + stakeFor (st.weight vals) true votes,
        noStake + stakeFor (st.weight vals) false votes) after := by
  induction votes generalizing yesStake noStake st with
  | nil => exact ⟨st, rfl⟩
  | cons entry rest ih =>
    obtain ⟨middle, read, visited⟩ := getStakeDomainTotalStake_proper vals
      (proper entry List.mem_cons_self) st
    have unmoved : ∀ other ∈ rest, middle.weight vals other.1 = st.weight vals other.1 :=
      fun other mem => visited.weight_of_unvisited fun again =>
        (List.nodup_cons.mp apart).1 (List.mem_singleton.mp again ▸ List.mem_map_of_mem mem)
    have counted (approve : Bool) := stakeFor_congr approve unmoved
    have rested := fun yesStake noStake => ih yesStake noStake middle
      (fun other mem => proper other (List.mem_cons_of_mem _ mem)) (List.nodup_cons.mp apart).2
    simp only [counted] at rested
    unfold addVotes
    rw [bind_ok read]
    unfold stakeFor at rested ⊢
    cases approve : entry.2.approve with
    | true =>
      obtain ⟨after, ran⟩ := rested (yesStake + st.weight vals entry.1) noStake
      refine ⟨after, ran.trans ?_⟩
      simp [approve, Nat.add_assoc]
    | false =>
      obtain ⟨after, ran⟩ := rested yesStake (noStake + st.weight vals entry.1)
      refine ⟨after, ran.trans ?_⟩
      simp [approve, Nat.add_assoc]

end Counting

structure Poll where
  registry : Registry
  governance : GovernanceState

namespace Poll

variable (cfg : GovernanceConfig) (poll : Poll)

def validators : ValidatorSet := poll.registry.validators

def eligible : List Bytes := poll.validators.active.map (poll.governance.votingDomain cfg)

def weight (dom : Bytes) : Nat := poll.governance.weight poll.validators dom

def eligibleWeight (dom : Bytes) : Nat :=
  if dom ∈ poll.eligible cfg then poll.weight dom else 0

def eligibleStake : Nat := ∑ dom ∈ (poll.eligible cfg).toFinset, poll.weight dom

def eligibleFor (prop : Proposal) (approve : Bool) : Nat :=
  stakeFor (poll.eligibleWeight cfg) approve prop.votes.entries

def Stays (dom : Bytes) : Prop :=
  if dom ∈ poll.eligible cfg then
    poll.validators.Deserted (poll.governance.members dom) → poll.validators.stake dom = 0
  else poll.weight dom = 0

instance (dom : Bytes) : Decidable (poll.Stays cfg dom) :=
  inferInstanceAs (Decidable (if dom ∈ poll.eligible cfg then
    (poll.governance.members dom ≠ [] ∧
      (poll.governance.members dom).filter poll.validators.registered = []) →
        poll.validators.stake dom = 0
    else poll.weight dom = 0))

end Poll

structure FairTally (cfg : GovernanceConfig) (poll : Poll) (prop : Proposal)
    (status : ProposalStatus) (yesStake noStake : Nat) : Prop where
  yes : yesStake = poll.eligibleFor cfg prop true
  no : noStake = poll.eligibleFor cfg prop false
  bounded : yesStake + noStake ≤ poll.eligibleStake cfg
  shares : status = .approved →
    cfg.ratioBelow (poll.eligibleFor cfg prop true + poll.eligibleFor cfg prop false)
        (poll.eligibleStake cfg) cfg.quorum = false ∧
      cfg.ratioBelow (poll.eligibleFor cfg prop true)
        (poll.eligibleFor cfg prop true + poll.eligibleFor cfg prop false)
        cfg.approvalThreshold = false

section Fairness

variable {cfg : GovernanceConfig} {poll : Poll} {prop : Proposal}

theorem Registry.active_valid (registry : Registry) {addr : Address}
    (mem : addr ∈ registry.validators.active) : validateAddress addr = .ok () := by
  obtain ⟨_, kept, rfl⟩ := List.mem_map.mp mem
  obtain ⟨entry, present, rfl⟩ := List.mem_map.mp (List.mem_of_mem_filter kept)
  obtain ⟨own, valid⟩ := registry.proper entry present
  rw [own]
  exact valid

theorem eligibleFor_add_le :
    poll.eligibleFor cfg prop true + poll.eligibleFor cfg prop false ≤ poll.eligibleStake cfg := by
  have nodup : (prop.votes.entries.map Prod.fst).Nodup := KeyedMap.keys_nodup prop.votes
  unfold Poll.eligibleFor Poll.eligibleStake
  rw [stakeFor_add, ← List.sum_toFinset _ nodup]
  unfold Poll.eligibleWeight
  rw [← Finset.sum_filter]
  refine Finset.sum_le_sum_of_subset fun dom mem => ?_
  exact List.mem_toFinset.mpr (Finset.mem_filter.mp mem).2

variable {now : Nat → Int64} {proposalID : Bytes} {totalEligibleStake yesStake noStake : Nat}
   {counted : GovernanceState}

theorem Tallied.stakes (tallied : Tallied cfg now poll.validators proposalID poll.governance prop
      totalEligibleStake yesStake noStake counted)
    (proper : ∀ entry ∈ prop.votes.entries, ProperDomain entry.1) :
    ∃ domains surveyed, Visited poll.validators domains poll.governance surveyed ∧
      (∀ dom, dom ∈ domains ↔ dom ∈ poll.eligible cfg) ∧
      totalEligibleStake = poll.eligibleStake cfg ∧
      yesStake = stakeFor (surveyed.weight poll.validators) true prop.votes.entries ∧
      noStake = stakeFor (surveyed.weight poll.validators) false prop.votes.entries := by
  obtain ⟨surveyed, totalled, added⟩ := tallied.counts
  have eligibleProper : ∀ addr ∈ poll.validators.active,
      ProperDomain (poll.governance.votingDomain cfg addr) :=
    fun addr mem => votingDomain_proper cfg _ (poll.registry.active_valid mem)
  obtain ⟨domains, _, ran, visited, nodup, same⟩ := addEligibleStake_ok
    poll.validators poll.validators.active [] 0 poll.governance eligibleProper
  have order := cfg.visit_perm prop.votes.entries
  obtain ⟨_, votes⟩ := addVotes_ok poll.validators (cfg.visit prop.votes.entries) 0 0
    surveyed
    (fun entry mem => proper entry (order.mem_iff.mp mem))
    ((order.map Prod.fst).nodup_iff.mpr (KeyedMap.keys_nodup prop.votes))
  cases totalled.symm.trans ran
  cases added.symm.trans votes
  have eligible : ∀ dom, dom ∈ domains ↔ dom ∈ poll.eligible cfg := by
    intro dom
    rw [same]
    exact ⟨And.left, fun mem => ⟨mem, List.not_mem_nil⟩⟩
  refine ⟨domains, surveyed, visited, eligible, ?_, ?_, ?_⟩
  · have domainSet : domains.toFinset = (poll.eligible cfg).toFinset := by
      ext dom
      rw [List.mem_toFinset, List.mem_toFinset, eligible]
    unfold Poll.eligibleStake
    rw [← domainSet, List.sum_toFinset _ nodup, Nat.zero_add]
    rfl
  · rw [Nat.zero_add, stakeFor_perm _ _ order]
  · rw [Nat.zero_add, stakeFor_perm _ _ order]

theorem eligibleWeight_le {domains : List Bytes} {surveyed : GovernanceState}
    (visited : Visited poll.validators domains poll.governance surveyed)
    (eligible : ∀ dom, dom ∈ domains ↔ dom ∈ poll.eligible cfg) (dom : Bytes) :
    poll.eligibleWeight cfg dom ≤ surveyed.weight poll.validators dom ∧
      (poll.eligibleWeight cfg dom = surveyed.weight poll.validators dom ↔ poll.Stays cfg dom) := by
  unfold Poll.eligibleWeight Poll.Stays
  by_cases mem : dom ∈ poll.eligible cfg
  · rw [if_pos mem, if_pos mem]
    unfold Poll.weight GovernanceState.weight
    rw [visited.members, if_pos ((eligible dom).mpr mem)]
    exact domainStake_filter
  · rw [if_neg mem, if_neg mem,
      visited.weight_of_unvisited fun visit => mem ((eligible dom).mp visit)]
    exact ⟨Nat.zero_le _, eq_comm⟩

theorem ratios_of_approved
    (approved : cfg.verdict totalEligibleStake yesStake noStake = .approved) :
    cfg.ratioBelow (yesStake + noStake) totalEligibleStake cfg.quorum = false ∧
      cfg.ratioBelow yesStake (yesStake + noStake) cfg.approvalThreshold = false := by
  unfold GovernanceConfig.verdict at approved
  by_cases carried : cfg.carried totalEligibleStake yesStake noStake = true
  · simpa using (Bool.and_eq_true_iff.mp carried).2
  · rw [if_neg carried] at approved
    cases approved

theorem fairTally_iff (tallied : Tallied cfg now poll.validators proposalID poll.governance prop
      totalEligibleStake yesStake noStake counted)
    (proper : ∀ entry ∈ prop.votes.entries, ProperDomain entry.1) :
    FairTally cfg poll prop (cfg.verdict totalEligibleStake yesStake noStake) yesStake noStake ↔
      ∀ entry ∈ prop.votes.entries, poll.Stays cfg entry.1 := by
  obtain ⟨_, surveyed, visited, eligible, rfl, rfl, rfl⟩ := tallied.stakes proper
  have below := eligibleWeight_le visited eligible
  constructor
  · intro fair entry mem
    have side : poll.eligibleFor cfg prop entry.2.approve = stakeFor
        (surveyed.weight poll.validators) entry.2.approve prop.votes.entries := by
      cases entry.2.approve with
      | true => exact fair.yes.symm
      | false => exact fair.no.symm
    have pointwise := (Totals.list_sum_eq_iff fun voted _ => (below voted.1).1).mp side entry
      (List.mem_filter.mpr ⟨mem, decide_eq_true rfl⟩)
    exact (below entry.1).2.mp pointwise
  · intro stays
    have same (approve : Bool) : stakeFor (surveyed.weight poll.validators) approve
        prop.votes.entries = poll.eligibleFor cfg prop approve :=
      stakeFor_congr approve fun entry mem => ((below entry.1).2.mpr (stays entry mem)).symm
    rw [same true, same false]
    refine ⟨rfl, rfl, eligibleFor_add_le, fun approved => ?_⟩
    exact ratios_of_approved approved

end Fairness

inductive PollCall where
  | register (registry : Registry)
  | setStakeDomain (valAddr : Address) (dom : Bytes)
  | submit (now : Nat → Int64) (id : Bytes) (proposer : Address) (parameter proposedValue : Bytes)
  | vote (now : Nat → Int64) (proposalID : Bytes) (valAddr : Address) (approve : Bool)
  | finalize (now : Nat → Int64) (proposalID : Bytes)

def Poll.next? (cfg : GovernanceConfig) (poll : Poll) : PollCall → Option Poll
  | .register registry => some { poll with registry }
  | .setStakeDomain valAddr dom => some { poll with
      governance := (setValidatorStakeDomain valAddr dom poll.governance).final }
  | .submit now id proposer parameter proposedValue => some { poll with
      governance := (submitProposal cfg now poll.validators id proposer parameter proposedValue
        poll.governance).final }
  | .vote now proposalID valAddr approve => some { poll with
      governance := (castVote cfg now poll.validators proposalID valAddr approve
        poll.governance).final }
  | .finalize now proposalID => some { poll with
      governance := (finalizeProposal cfg now poll.validators proposalID poll.governance).final }

def WellVoted (proposals : KeyedMap Proposal.id) : Prop :=
  ∀ prop ∈ proposals.entries, ∀ entry ∈ prop.votes.entries, ProperDomain entry.1

section PollRuns

variable {cfg : GovernanceConfig} {poll : Poll}

theorem WellVoted.insert {proposals : KeyedMap Proposal.id} {saved : Proposal}
    (wellVoted : WellVoted proposals)
    (proper : ∀ entry ∈ saved.votes.entries, ProperDomain entry.1) :
    WellVoted (proposals.insert saved) := by
  intro prop mem
  rcases KeyedMap.mem_insertEntry mem with rfl | old
  · exact proper
  · exact wellVoted prop old

theorem setValidatorStakeDomain_proposals (valAddr : Address) (dom : Bytes)
    (proposals : KeyedMap Proposal.id) :
    Leads (fun st : GovernanceState => st.proposals = proposals)
      (fun st => st.proposals = proposals) (setValidatorStakeDomain valAddr dom) := by
  have assigned (addr : Address) (domain : Bytes) : Leads
      (fun st : GovernanceState => st.proposals = proposals)
      (fun st => st.proposals = proposals) (assignStakeDomain addr domain) :=
    .modify fun _ => id
  have written (domain : Bytes) (members : List Address) : Leads
      (fun st : GovernanceState => st.proposals = proposals)
      (fun st => st.proposals = proposals) (writeStakeDomainMembers domain members) :=
    .modify fun _ => id
  unfold setValidatorStakeDomain
  split
  · exact .fail _
  refine (Leads.get _).seq fun read => ?_
  dsimp only
  split
  · split
    · exact assigned _ _
    · exact .skip _
  refine Leads.seq ?_ fun _ => ?_
  · unfold leaveStakeDomain
    split
    · exact (Leads.get _).seq fun st => written _ _
    · exact .skip _
  · unfold joinStakeDomain
    split
    · exact assigned _ _
    · exact (assigned _ _).seq fun _ => (Leads.get _).seq fun st => written _ _

theorem ensureActiveValidator_ok {registry : Registry} {addr : Address}
    (active : ensureActiveValidator registry.validators addr = .ok ()) :
    validateAddress addr = .ok () := by
  unfold ensureActiveValidator at active
  cases found : registry.validators.find? addr with
  | none =>
    rw [found] at active
    cases active
  | some entry =>
    have own : entry.1 = addr := KeyedMap.find?_key found
    exact own ▸ (registry.proper entry (KeyedMap.find?_mem found)).2

theorem WellVoted.next {after : Poll} (call : PollCall)
    (wellVoted : WellVoted poll.governance.proposals) (made : poll.next? cfg call = some after) :
    WellVoted after.governance.proposals := by
  cases call with
  | register =>
    cases made
    exact wellVoted
  | setStakeDomain valAddr dom =>
    cases made
    have same := setValidatorStakeDomain_proposals valAddr dom poll.governance.proposals
      poll.governance rfl
    exact same ▸ wellVoted
  | submit _ id proposer parameter proposedValue =>
    cases made
    rcases submitProposal_cases cfg poll.validators id proposer parameter proposedValue
      poll.governance with ⟨err, failed⟩ | submitted
    · rw [failed]
      exact wellVoted
    · rw [submitted]
      exact wellVoted.insert fun entry mem => nomatch mem
  | vote now proposalID valAddr approve =>
    cases made
    rcases castVote_cases cfg poll.validators proposalID valAddr approve
      poll.governance with failed | ⟨prop, found, active, ended, voted⟩
    · obtain ⟨err, failed⟩ := failed now
      rw [failed]
      exact wellVoted
    by_cases late : prop.votingEndsAt < now 0
    · obtain ⟨_, failed⟩ := ended now late
      rw [failed]
      exact wellVoted
    · rw [voted now late]
      refine wellVoted.insert fun entry mem => ?_
      rcases KeyedMap.mem_insertEntry mem with rfl | old
      · exact votingDomain_proper cfg poll.governance (ensureActiveValidator_ok active)
      · exact wellVoted prop (KeyedMap.find?_mem found) entry old
  | finalize now proposalID =>
    cases made
    have finalized := finalizeProposal_finalized cfg poll.validators now proposalID poll.governance
    generalize finalizeProposal cfg now poll.validators proposalID poll.governance = result
      at finalized
    cases finalized with
    | refused same => exact (congrArg GovernanceState.proposals same) ▸ wellVoted
    | earlier => exact wellVoted
    | @counted prop _ _ _ _ saved tallied inserted =>
      change WellVoted saved.proposals
      rw [inserted]
      exact wellVoted.insert (wellVoted prop (KeyedMap.find?_mem tallied.found))

/-- A count is fair exactly if every domain that voted weighs what it weighs among the eligible
ones. -/
theorem tally_fair_iff_voters_stay {start : Poll} {now : Nat → Int64} {proposalID : Bytes}
    {prop result : Proposal} {after : GovernanceState}
    (opening : start.governance.proposals = KeyedMap.empty)
    (run : Run (Poll.next? cfg) (fun _ _ => True) start poll)
    (found : poll.governance.proposals.find? proposalID = some prop)
    (active : prop.status = .active)
    (finalized : finalizeProposal cfg now poll.validators proposalID poll.governance =
      .ok result after) : ∃ yesStake noStake,
      result = prop.closed (cfg.verdict (poll.eligibleStake cfg) yesStake noStake) yesStake
        noStake (now 1) ∧ (FairTally cfg poll prop result.status yesStake noStake ↔
        ∀ entry ∈ prop.votes.entries, poll.Stays cfg entry.1) := by
  have wellVoted : WellVoted poll.governance.proposals :=
    run.keeps (fun poll => WellVoted poll.governance.proposals)
      (opening ▸ fun prop mem => nomatch mem)
      fun _ call _ holds _ made => holds.next call made
  have proper := wellVoted prop (KeyedMap.find?_mem found)
  have ended := finalizeProposal_finalized cfg poll.validators now proposalID poll.governance
  rw [finalized] at ended
  cases ended with
  | earlier foundAs closed =>
    cases found.symm.trans foundAs
    exact absurd active closed
  | @counted counted total yesStake noStake _ _ tallied saved =>
    cases found.symm.trans tallied.found
    have fair := fairTally_iff tallied proper
    obtain ⟨_, _, _, _, rfl, _⟩ := tallied.stakes proper
    exact ⟨yesStake, noStake, rfl, fair⟩

end PollRuns

def sampleRegistry (active : Bool) : Registry where
  validators := (KeyedMap.empty.insert (sampleElector 97 100 active)).insert (sampleElector 98 10 true)
  proper := by cases active <;> decide +kernel

def samplePoll : Poll := ⟨sampleRegistry true, .blank⟩

def sampleSubmitted : Poll :=
  { samplePoll with
    governance := (submitProposal sampleGovernance (fun _ => 100) samplePoll.validators [2]
      (sampleAddress 97) (ascii "economics.community_tax") (ascii "0") samplePoll.governance).final }

def sampleVoted : Poll :=
  { sampleSubmitted with
    governance := (castVote sampleGovernance (fun _ => 105) sampleSubmitted.validators [2]
      (sampleAddress 97) true sampleSubmitted.governance).final }

theorem sampleVoted_reached :
    Run (Poll.next? sampleGovernance) (fun _ _ => True) samplePoll sampleVoted :=
  .call (.vote (fun _ => 105) [2] (sampleAddress 97) true) sampleVoted
    (.call (.submit (fun _ => 100) [2] (sampleAddress 97) (ascii "economics.community_tax")
      (ascii "0")) sampleSubmitted .start trivial rfl) trivial rfl

def sampleBallot : Proposal :=
  (newProposal sampleGovernance 100 [2] (sampleAddress 97) (ascii "economics.community_tax")
    (ascii "0")).withVote (sampleAddress 97) (sampleAddress 97) true 105

theorem a_lasting_vote_is_counted_fairly :
    ∃ yesStake noStake, FairTally sampleGovernance sampleVoted sampleBallot .approved yesStake
      noStake := by
  have found : sampleVoted.governance.proposals.find? [2] = some sampleBallot := by decide +kernel
  have counted : (finalizeProposal sampleGovernance (fun _ => 110) sampleVoted.validators [2]
      sampleVoted.governance).value? = some (sampleBallot.closed .approved 100 0 110) := by
    decide +kernel
  obtain ⟨yesStake, noStake, _, fair⟩ := tally_fair_iff_voters_stay rfl sampleVoted_reached found rfl
    (EStateM.Result.eq_ok_of_value? counted)
  refine ⟨yesStake, noStake, fair.mpr ?_⟩
  decide +kernel

def sampleDeparted : Poll := { sampleVoted with registry := sampleRegistry false }

/-- The vote of a validator that has become inactive outweighs all that is eligible. -/
theorem a_departed_vote_carries : ∃ poll result after,
      Run (Poll.next? sampleGovernance) (fun _ _ => True) samplePoll poll ∧
      finalizeProposal sampleGovernance (fun _ => 110) poll.validators [2] poll.governance =
        .ok result after ∧ result.status = .approved ∧ result.yesStake = ascii "100" ∧
      poll.eligibleStake sampleGovernance = 10 := by
  have counted : (finalizeProposal sampleGovernance (fun _ => 110) sampleDeparted.validators [2]
      sampleDeparted.governance).value? = some (sampleBallot.closed .approved 100 0 110) := by
    decide +kernel
  refine ⟨sampleDeparted, sampleBallot.closed .approved 100 0 110, _,
    .call (.register (sampleRegistry false)) sampleDeparted sampleVoted_reached trivial rfl,
    EStateM.Result.eq_ok_of_value? counted, rfl, ?_, ?_⟩
  · decide +kernel
  · decide +kernel

end Thrylos
