import Thrylos.SlashingLemmas

/-!
How much of a validator's wealth a penalty for double or surround voting takes: a percentage of the
balance, and nothing of the stake.
-/

namespace Thrylos

open Guarded (wp wp_pure wp_bind wp_mono exclusively_ok)

inductive VoteSlashing where
  | doubleVote (att1 att2 : Attestation)
  | surroundVote (inner outer : Vote)

namespace VoteSlashing

def apply (cfg : EngineConfig) : VoteSlashing → EngineM Unit
  | .doubleVote att1 att2 => Manager.applyDoubleVoteSlashing cfg (some att1) (some att2)
  | .surroundVote inner outer => Manager.applySurroundVoteSlashing cfg (some inner) (some outer)

def offender : VoteSlashing → Address
  | .doubleVote att1 _ => att1.validatorAddress
  | .surroundVote inner _ => inner.validatorAddress

def percent (cfg : EngineConfig) : VoteSlashing → Nat
  | .doubleVote _ _ => cfg.slashing.doubleVotingPenalty.toNat
  | .surroundVote _ _ => cfg.slashing.surroundVotingPenalty.toNat

variable {cfg : EngineConfig} {data : Engine} {reason : String}

open Manager

def Taken (cfg : EngineConfig) (addr : Address) (percent : Nat) (before after : Engine) : Prop :=
  percent ≤ 100 ∧ ∃ record bal, record.validatorAddress = addr ∧
    record.slashedAmount = bal * percent / 100 ∧ Charged cfg record bal before after

variable {percent : Nat}

theorem Taken.of_ticked {addr : Address} {ticks : Nat} {after : Engine}
    (taken : Taken cfg addr percent (data.ticked ticks) after) :
    Taken cfg addr percent data after := by
  obtain ⟨atMost, record, bal, address, amt, charged⟩ := taken
  exact ⟨atMost, record, bal, address, amt, charged.of_ticked⟩

theorem wp_slashOnce_taken {offence : Offence} : wp (slashOnce cfg percent offence)
      (fun _ => Taken cfg offence.validatorAddress percent data) (fun _ _ => True) data := by
  refine wp_slashOnce (fun _ _ => trivial) (fun _ _ _ => trivial)
    fun _ _ atMost timestamp bal after charged => ?_
  exact ⟨by omega, _, bal, rfl, rfl, charged⟩

theorem wp_surround_taken {innerAtt outerAtt : Attestation} :
    wp (applySurroundVoteAttestationEvidenceLocked cfg reason (some innerAtt) (some outerAtt))
      (fun _ => Taken cfg innerAtt.validatorAddress cfg.slashing.surroundVotingPenalty.toNat
        data) (fun _ _ => True) data := by
  simp only [applySurroundVoteAttestationEvidenceLocked]
  split
  · exact wp_refuse trivial
  · exact wp_slashOnce_taken

theorem taken_of_apply {slashing : VoteSlashing} {st after : Guarded Engine}
    (ran : slashing.apply cfg st = .ok () after) :
    Taken cfg slashing.offender (slashing.percent cfg) st.data after.data := by
  cases slashing with
  | doubleVote att1 =>
    refine exclusively_ok (fun _ : PUnit => Taken cfg att1.validatorAddress
      cfg.slashing.doubleVotingPenalty.toNat st.data) ?_ ran
    simp only [applyDoubleVoteSlashingLocked]
    split
    · exact wp_refuse trivial
    · exact wp_slashOnce_taken
  | surroundVote inner =>
    refine exclusively_ok (fun _ : PUnit => Taken cfg inner.validatorAddress
      cfg.slashing.surroundVotingPenalty.toNat st.data) ?_ ran
    dsimp only
    split
    · exact wp_refuse trivial
    split
    · exact wp_refuse trivial
    · refine wp_bind (wp_bind (wp_clock fun _ innerTicks => wp_pure ?_))
      refine wp_bind (wp_bind (wp_clock fun _ outerTicks => wp_pure ?_))
      exact wp_mono wp_surround_taken (fun _ _ taken => taken.of_ticked.of_ticked) fun _ _ => id

end VoteSlashing

def wealth (cfg : EngineConfig) (ce : Engine) (addr : Address) : Option Nat :=
  match balanceOf cfg ce.world addr, ce.world.validators.find? addr with
  | .ok bal, some (_, val) => some (bal + parseBigInt val.selfStake)
  | _, _ => none

/-- A penalty takes its share of the self stake exactly when the same share of the balance is as
large. -/
theorem slashing_reaches_stake (cfg : EngineConfig) (slashing : VoteSlashing)
    (st after : Guarded Engine) (val : Validator)
    (registered : st.data.world.validators.find? slashing.offender = some (slashing.offender, val))
    (ran : slashing.apply cfg st = .ok () after) : ∃ bal before left,
      balanceOf cfg st.data.world slashing.offender = .ok bal ∧
      wealth cfg st.data slashing.offender = some before ∧
      wealth cfg after.data slashing.offender = some left ∧
      (left + parseBigInt val.selfStake * slashing.percent cfg / 100 ≤ before ↔
        parseBigInt val.selfStake * slashing.percent cfg / 100 ≤
          bal * slashing.percent cfg / 100) := by
  obtain ⟨atMost, record, bal, address, amt, charged⟩ := VoteSlashing.taken_of_apply ran
  have found := charged.chargeable.1
  have paid := charged.charged.1
  rw [address] at found paid
  have kept : after.data.world.validators.find? slashing.offender =
      some (slashing.offender, val) := by
    rw [charged.validators]
    exact registered
  refine ⟨bal, bal + parseBigInt val.selfStake,
    bal - record.slashedAmount + parseBigInt val.selfStake, found, ?_, ?_, ?_⟩
  · simp only [wealth, found, registered]
  · simp only [wealth, paid, kept]
  · rw [amt]
    have share : bal * slashing.percent cfg / 100 ≤ bal :=
      Nat.div_le_of_le_mul (by
        rw [Nat.mul_comm 100]
        exact Nat.mul_le_mul_left bal atMost)
    omega

def samplePair (digit : Byte) : VoteSlashing :=
  .doubleVote ⟨sampleAddress digit, [1], 0, 3, 100, [], 0⟩ ⟨sampleAddress digit, [2], 0, 3, 100, [], 0⟩

def splitWealth (bal selfStake : Byte) : Guarded Engine :=
  sampleEngine (sampleChain [sampleAccount 97 [bal]] [sampleValidator 97 selfStake 1]) none

def penalised (st : Guarded Engine) : Guarded Engine :=
  ((samplePair 97).apply sampleEngineConfig st).final

theorem penalised_ok {st : Guarded Engine}
    (returned : (((samplePair 97).apply sampleEngineConfig st).value?).isSome = true) :
    (samplePair 97).apply sampleEngineConfig st = .ok () (penalised st) := by
  obtain ⟨_, ran⟩ := EStateM.Result.ok_of_value? returned
  exact ran

theorem slashing_reaches_stake_even_split : ∃ bal before left,
      balanceOf sampleEngineConfig (splitWealth 40 40).data.world (sampleAddress 97) = .ok bal ∧
      wealth sampleEngineConfig (splitWealth 40 40).data (sampleAddress 97) = some before ∧
      wealth sampleEngineConfig (penalised (splitWealth 40 40)).data (sampleAddress 97) = some left ∧
      (left + 40 * 50 / 100 ≤ before ↔ 40 * 50 / 100 ≤ bal * 50 / 100) :=
  slashing_reaches_stake sampleEngineConfig (samplePair 97) (splitWealth 40 40)
    (penalised (splitWealth 40 40)) (sampleValidator 97 40 1).2 (by decide +kernel)
    (penalised_ok (by decide +kernel))

theorem bonded_stake_not_slashed : (samplePair 97).apply sampleEngineConfig (splitWealth 0 80) =
        .ok () (penalised (splitWealth 0 80)) ∧
      wealth sampleEngineConfig (splitWealth 0 80).data (sampleAddress 97) = some 80 ∧
      wealth sampleEngineConfig (penalised (splitWealth 0 80)).data (sampleAddress 97) = some 80 ∧
      (samplePair 97).percent sampleEngineConfig = 50 := by
  refine ⟨penalised_ok (by decide +kernel), ?_, ?_, ?_⟩ <;> decide +kernel

end Thrylos
