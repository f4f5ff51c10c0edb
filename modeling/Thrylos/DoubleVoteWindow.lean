import Thrylos.SlashingLemmas
import Thrylos.Library.RollingWindow

/-!
How long the slashing manager remembers an attestation: `ProcessAttestation` compares with the last
thousand records of the validator, and duplicates count as records.
-/

namespace Thrylos

open Guarded (wp wp_pure wp_read wp_update wp_bind exclusively_returns)
open RollingWindow (recent passed)

abbrev Ballot := UInt64 × UInt64 × Bytes

def AttestationRecord.ballot (record : AttestationRecord) : Ballot :=
  (record.epoch, record.slot, record.blockHash)

def Ballot.conflicts (ballot other : Ballot) : Bool :=
  ballot.1 = other.1 ∧ ballot.2.1 = other.2.1 ∧ ballot.2.2 ≠ other.2.2

theorem Ballot.conflicts_comm (left right : Ballot) : left.conflicts right = right.conflicts left := by
  simp only [Ballot.conflicts, eq_comm, ne_eq]

theorem Ballot.conflicts_trans {ballot left right : Ballot} (first : ballot.conflicts left = true)
    (second : ballot.conflicts right = true) (ne : left ≠ right) : right.conflicts left = true := by
  simp only [Ballot.conflicts, decide_eq_true_eq] at first second ⊢
  refine ⟨second.1.symm.trans first.1, second.2.1.symm.trans first.2.1, fun same => ne ?_⟩
  exact Prod.ext (first.1.symm.trans second.1)
    (Prod.ext (first.2.1.symm.trans second.2.1) same.symm)

def Attestation.record (att : Attestation) (timestamp : Int) : AttestationRecord where
  validatorAddress := att.validatorAddress
  epoch := att.epoch
  slot := att.slot
  blockHash := att.blockHash
  signature := att.signature
  timestamp := timestamp

def Attestation.ballot (att : Attestation) : Ballot := (att.epoch, att.slot, att.blockHash)

def Engine.ballotsOf (ce : Engine) (addr : Address) : List Ballot :=
  (ce.attestationsOf addr).map AttestationRecord.ballot

def ConflictFree (accepted : List Attestation) : Prop :=
  accepted.Pairwise fun att other => ∀ now later,
    (other.record later).conflicts (att.record now) = false

namespace Manager

/-- The calls one after another: the attestations for which `ProcessAttestation` returns nil. -/
def acceptedOf (cfg : EngineConfig) : List Attestation → Guarded Engine → List Attestation
  | [], _ => []
  | att :: rest, st =>
    match processAttestation cfg att st with
    | .ok .accepted after => att :: acceptedOf cfg rest after
    | result => acceptedOf cfg rest result.final

def Timely (cfg : EngineConfig) (addr : Address) : List Attestation → Guarded Engine → Prop
  | [], _ => True
  | att :: rest, st =>
    att.validatorAddress = addr ∧
    cfg.clock st.data.world.ticks - unixTime att.timestamp ≤ cfg.slashing.attestationWindow ∧
    Timely cfg addr rest (processAttestation cfg att st).final

/-- When an attestation is handed in, each accepted one it conflicts with is still on record. -/
def Remembers (cfg : EngineConfig) (addr : Address) :
    List Attestation → List Attestation → Guarded Engine → Prop
  | _, [], _ => True
  | accepted, att :: rest, st =>
    (∀ past ∈ accepted, att.ballot.conflicts past.ballot = true →
      past.ballot ∈ st.data.ballotsOf addr) ∧
    match processAttestation cfg att st with
    | .ok .accepted after => Remembers cfg addr (accepted ++ [att]) rest after
    | result => Remembers cfg addr accepted rest result.final

structure Attentive (addr : Address) (st : Guarded Engine) : Prop where
  free : st.held = false
  height : 100 ≤ st.data.world.height
  unjailed : st.data.jailedValidators.find? addr = none

inductive Compared (ballot : Ballot) (before after : List Ballot) : AttestationVerdict → Prop where
  | accepted (agrees : before.any ballot.conflicts = false)
      (recorded : after = recent 1000 (before ++ [ballot])) :
      Compared ballot before after .accepted
  | doubleSigning (previous : AttestationRecord) (clashes : before.any ballot.conflicts = true)
      (kept : after = before) : Compared ballot before after (.doubleSigning previous)

variable {cfg : EngineConfig} {addr : Address} {att : Attestation} {st : Guarded Engine}
  {fail : Halt String → Engine → Prop}

theorem any_ballotsOf (ce : Engine) (addr : Address) (att : Attestation) (timestamp : Int) :
    (ce.ballotsOf addr).any att.ballot.conflicts =
      (ce.attestationsOf addr).any ((att.record timestamp).conflicts ·) := by
  rw [Engine.ballotsOf, List.any_map]
  rfl

theorem ballotsOf_recordAttestation (timestamp : Int) (ce : Engine) :
    (recordAttestation (att.record timestamp) ce).ballotsOf att.validatorAddress =
      recent 1000 (ce.ballotsOf att.validatorAddress ++ [att.ballot]) := by
  have recorded : (recordAttestation (att.record timestamp) ce).attestationsOf
      att.validatorAddress =
        window (ce.attestationsOf att.validatorAddress ++ [att.record timestamp]) := by
    simp [recordAttestation, Engine.attestationsOf, Attestation.record]
  simp only [Engine.ballotsOf, recorded, window, recent, List.map_drop, List.map_append,
    List.length_append, List.length_map]
  rfl

theorem wp_compareAttestation (own : att.validatorAddress = addr) (data : Engine) :
    wp (compareAttestation cfg att) (fun verdict after =>
      after.world.height = data.world.height ∧ after.jailedValidators = data.jailedValidators ∧
        Compared att.ballot (data.ballotsOf addr) (after.ballotsOf addr) verdict) fail data := by
  subst own
  refine wp_bind (wp_now (wp_bind (wp_read ?_)))
  have compared := any_ballotsOf data att.validatorAddress att (cfg.clock data.world.ticks)
  split
  · rename_i previous found
    refine wp_pure ⟨rfl, rfl, .doubleSigning previous ?_ rfl⟩
    rw [compared, List.any_eq_true]
    exact ⟨previous, List.mem_of_find?_eq_some found, List.find?_some found⟩
  · rename_i found
    refine wp_bind (wp_update (wp_pure ⟨rfl, rfl, .accepted ?_ (ballotsOf_recordAttestation _ _)⟩))
    rw [compared, List.any_eq_false]
    exact List.find?_eq_none.mp found

theorem processAttestation_attentive (attentive : Attentive addr st)
    (own : att.validatorAddress = addr)
    (timely : cfg.clock st.data.world.ticks - unixTime att.timestamp ≤
      cfg.slashing.attestationWindow) :
    ∃ verdict after, processAttestation cfg att st = .ok verdict after ∧
      Attentive addr after ∧ Compared att.ballot (st.data.ballotsOf addr)
        (after.data.ballotsOf addr) verdict := by
  obtain ⟨_, data⟩ := st
  obtain ⟨free, height, unjailed⟩ := attentive
  subst free
  obtain ⟨verdict, after, ran, heightSame, jailSame, compared⟩ : ∃ verdict after,
      processAttestation cfg att ⟨false, data⟩ = .ok verdict ⟨false, after⟩ ∧
      after.world.height = data.world.height ∧ after.jailedValidators = data.jailedValidators ∧
      Compared att.ballot (data.ballotsOf addr) (after.ballotsOf addr) verdict := by
    refine exclusively_returns (wp_bind (wp_now ?_))
    rw [if_neg (not_lt.mpr timely)]
    refine wp_bind (wp_read ?_)
    have late : ¬ (data.ticked (data.world.ticks + 1)).world.height < 100 :=
      Int64.not_lt.mpr height
    rw [if_neg late]
    refine wp_bind (wp_bind (wp_read ?_))
    split
    · refine wp_pure ?_
      rw [if_neg Bool.false_ne_true]
      exact wp_compareAttestation own (data.ticked (data.world.ticks + 1))
    · rename_i jailed found
      rw [own] at found
      exact absurd (found.symm.trans unjailed) (by simp)
  exact ⟨verdict, ⟨false, after⟩, ran, ⟨rfl, heightSame ▸ height, jailSame ▸ unjailed⟩, compared⟩

theorem acceptedOf_ballots {atts : List Attestation} (attentive : Attentive addr st)
    (timely : Timely cfg addr atts st) : (acceptedOf cfg atts st).map Attestation.ballot =
      passed 1000 Ballot.conflicts (st.data.ballotsOf addr) (atts.map Attestation.ballot) := by
  induction atts generalizing st with
  | nil => rfl
  | cons _ _ ih =>
    obtain ⟨own, inTime, later⟩ := timely
    obtain ⟨_, _, ran, still, compared⟩ :=
      processAttestation_attentive attentive own inTime
    rw [ran] at later
    rw [acceptedOf, ran, List.map_cons, passed]
    cases compared with
    | accepted agrees recorded =>
      rw [if_neg (by rw [agrees]; exact Bool.false_ne_true), ← recorded, ← ih still later]
      rfl
    | doubleSigning _ clashes kept =>
      rw [if_pos clashes, ← kept, ← ih still later]
      rfl

/-- The ballots on record agree with every accepted attestation, also with a forgotten one. -/
def Agree (accepted : List Attestation) (ballots : List Ballot) : Prop :=
  ∀ past ∈ accepted, ∀ ballot ∈ ballots, ballot.conflicts past.ballot = false

theorem Agree.recorded {accepted : List Attestation} {ballots : List Ballot}
    (agree : Agree accepted ballots) (fresh : Agree accepted [att.ballot])
    (agrees : ballots.any att.ballot.conflicts = false) :
    Agree (accepted ++ [att]) (recent 1000 (ballots ++ [att.ballot])) := by
  intro past mem ballot kept
  have among := List.mem_append.mp (List.mem_of_mem_drop kept)
  rcases List.mem_append.mp mem with before | last
  · exact among.elim (agree past before ballot) (fresh past before ballot)
  obtain rfl := List.mem_singleton.mp last
  rcases among with old | new
  · rw [Ballot.conflicts_comm]
    exact Bool.eq_false_iff.mpr (List.any_eq_false.mp agrees ballot old)
  · obtain rfl := List.mem_singleton.mp new
    simp [Ballot.conflicts]

theorem conflictFree_append_iff {atts accepted : List Attestation} (attentive : Attentive addr st)
    (timely : Timely cfg addr atts st) (apart : ConflictFree accepted)
    (agree : Agree accepted (st.data.ballotsOf addr)) :
    ConflictFree (accepted ++ acceptedOf cfg atts st) ↔ Remembers cfg addr accepted atts st := by
  induction atts generalizing st accepted with
  | nil => simpa [acceptedOf, Remembers] using apart
  | cons att rest ih =>
    obtain ⟨own, inTime, later⟩ := timely
    obtain ⟨_, _, ran, still, compared⟩ :=
      processAttestation_attentive attentive own inTime
    rw [ran] at later
    rw [acceptedOf, Remembers, ran]
    cases compared with
    | accepted agrees recorded =>
      by_cases fresh : Agree accepted [att.ballot]
      · have clean : ∀ past ∈ accepted, att.ballot.conflicts past.ballot = false :=
          fun past mem => fresh past mem _ (.head _)
        have longer : ConflictFree (accepted ++ [att]) := by
          refine List.pairwise_append.mpr ⟨apart, List.pairwise_singleton _ _, ?_⟩
          rintro past mem _ (_ | ⟨_, ⟨⟩⟩) _ _
          exact clean past mem
        rw [List.append_cons]
        refine (ih still later longer (recorded ▸ agree.recorded fresh agrees)).trans
          (and_iff_right fun past mem clash => ?_).symm
        cases (clean past mem).symm.trans clash
      · simp only [Agree, List.forall_mem_singleton, not_forall] at fresh
        obtain ⟨past, mem, clash⟩ := fresh
        refine iff_of_false (fun pairwise => ?_) fun remembers => ?_
        · exact clash ((List.pairwise_append.mp pairwise).2.2 past mem att List.mem_cons_self 0 0)
        · have clashes := Bool.eq_true_of_not_eq_false clash
          exact List.any_eq_false.mp agrees _ (remembers.1 past mem clashes) clashes
    | doubleSigning _ clashes kept =>
      obtain ⟨ballot, held, clash⟩ := List.any_eq_true.mp clashes
      refine (ih still later apart (kept ▸ agree)).trans
        (and_iff_right fun past mem other => ?_).symm
      by_contra gone
      have ne : past.ballot ≠ ballot := fun same => gone (same ▸ held)
      cases (agree past mem ballot held).symm.trans (Ballot.conflicts_trans other clash ne)

theorem timely_of_forall {atts : List Attestation} (own : ∀ att ∈ atts, att.validatorAddress = addr)
    (inTime : ∀ att ∈ atts, ∀ ticks,
      cfg.clock ticks - unixTime att.timestamp ≤ cfg.slashing.attestationWindow)
    (st : Guarded Engine) : Timely cfg addr atts st := by
  induction atts generalizing st with
  | nil => trivial
  | cons att _ ih =>
    exact ⟨own att List.mem_cons_self, inTime att List.mem_cons_self _,
      ih (fun other mem => own other (List.mem_cons_of_mem _ mem))
        (fun other mem => inTime other (List.mem_cons_of_mem _ mem)) _⟩

end Manager

/-- No two accepted attestations conflict exactly if none is handed in that conflicts with an
accepted one whose record is gone. -/
theorem conflicting_attestations_caught_iff (cfg : EngineConfig) (addr : Address)
    (st : Guarded Engine) (atts : List Attestation)
    (attentive : Manager.Attentive addr st) (timely : Manager.Timely cfg addr atts st) :
    ConflictFree (Manager.acceptedOf cfg atts st) ↔ Manager.Remembers cfg addr [] atts st :=
  Manager.conflictFree_append_iff attentive timely .nil nofun

def slotVote (slot : UInt64) (blk : Byte) : Attestation :=
  ⟨sampleAddress 97, [blk], 100, 3, slot, [], 1000⟩

def floodedAttestations : List Attestation :=
  [slotVote 100 1] ++ List.replicate 1000 (slotVote 101 1) ++ [slotVote 100 2]

def floodedNode : Guarded Engine :=
  sampleEngine (sampleChain [sampleAccount 97 [100]] [sampleValidator 97 40 1]) none

theorem floodedNode_attentive : Manager.Attentive (sampleAddress 97) floodedNode :=
  ⟨by decide +kernel, by decide +kernel, by decide +kernel⟩

theorem mem_floodedAttestations {att : Attestation} (mem : att ∈ floodedAttestations) :
    att.validatorAddress = sampleAddress 97 ∧ att.timestamp = 1000 := by
  simp only [floodedAttestations, List.mem_append, List.mem_singleton, List.mem_replicate] at mem
  rcases mem with (rfl | ⟨_, rfl⟩) | rfl <;> exact ⟨rfl, rfl⟩

theorem floodedAttestations_timely :
    Manager.Timely sampleEngineConfig (sampleAddress 97) floodedAttestations floodedNode := by
  refine Manager.timely_of_forall (fun att mem => (mem_floodedAttestations mem).1) ?_ _
  intro att mem ticks
  rw [(mem_floodedAttestations mem).2]
  show 1000 * nanosPerSecond - unixTime 1000 ≤ nanosPerHour
  decide

theorem floodedAttestations_accepted :
    (Manager.acceptedOf sampleEngineConfig floodedAttestations floodedNode).map Attestation.ballot =
      floodedAttestations.map Attestation.ballot := by
  rw [Manager.acceptedOf_ballots floodedNode_attentive floodedAttestations_timely]
  have listed : floodedAttestations.map Attestation.ballot = [(slotVote 100 1).ballot] ++
      List.replicate 1000 (slotVote 101 1).ballot ++ [(slotVote 100 2).ballot] := by
    simp only [floodedAttestations, List.map_append, List.map_replicate, List.map_cons, List.map_nil]
  rw [listed]
  exact RollingWindow.passed_flood (by decide) (by decide)

theorem floodedAttestations_conflict :
    ¬ ConflictFree (Manager.acceptedOf sampleEngineConfig floodedAttestations floodedNode) := by
  intro caught
  have apart : (floodedAttestations.map Attestation.ballot).Pairwise fun ballot other =>
      other.conflicts ballot = false := by
    rw [← floodedAttestations_accepted, List.pairwise_map]
    exact caught.imp fun apart => apart 0 0
  rw [floodedAttestations, List.map_append, List.map_append] at apart
  exact absurd ((List.pairwise_append.mp apart).2.2 (slotVote 100 1).ballot
    (List.mem_append_left _ (List.mem_singleton_self _)) _ (List.mem_singleton_self _)) (by decide)

theorem a_flooded_manager_compares_a_thousand : Manager.Attentive (sampleAddress 97) floodedNode ∧
    Manager.Timely sampleEngineConfig (sampleAddress 97) floodedAttestations floodedNode ∧
    ¬ Manager.Remembers sampleEngineConfig (sampleAddress 97) [] floodedAttestations floodedNode :=
  ⟨floodedNode_attentive, floodedAttestations_timely, fun remembers => floodedAttestations_conflict
    ((conflicting_attestations_caught_iff sampleEngineConfig _ floodedNode _ floodedNode_attentive
      floodedAttestations_timely).mpr remembers)⟩

theorem a_conflicting_attestation_is_forgotten : Manager.Attentive (sampleAddress 97) floodedNode ∧
    Manager.Timely sampleEngineConfig (sampleAddress 97) floodedAttestations floodedNode ∧
    ¬ ConflictFree (Manager.acceptedOf sampleEngineConfig floodedAttestations floodedNode) :=
  ⟨floodedNode_attentive, floodedAttestations_timely, floodedAttestations_conflict⟩

end Thrylos
