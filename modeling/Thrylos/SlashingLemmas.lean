import Thrylos.AccountView
import Thrylos.SlashingEngine

/-!
What the slashing code does to the accounts, in terms of balances.
-/

namespace Thrylos

open Guarded (wp wp_pure wp_throw wp_read wp_update wp_bind)

section World

variable {cfg : NodeConfig} {ws after : WorldState} {addr : Address}

def balanceOf (cfg : NodeConfig) (ws : WorldState) (addr : Address) : Except String Nat := do
  let acc ← readAccount cfg ws.ledger addr
  parseUint256Bytes acc.balance

def WorldState.load (ws : WorldState) (addr : Address) : WorldState :=
  { ws with ledger := ws.ledger.load addr }

variable {bal newBalance : Nat} {left right : WorldState}

theorem getBalance_ok_iff : getBalance cfg addr ws = .ok bal after ↔
      balanceOf cfg ws addr = .ok bal ∧ after = ws.load addr := by
  unfold getBalance balanceOf
  cases found : readAccount cfg ws.ledger addr with
  | error =>
    rw [bind_error (onLedger_error (getAccount_error found))]
    simp [bind, Except.bind]
  | ok acc =>
  rw [bind_ok (onLedger_ok (getAccount_ok found))]
  cases parsed : parseUint256Bytes acc.balance with
  | error =>
    rw [ofExcept_error rfl]
    simp [bind, Except.bind, parsed]
  | ok =>
    rw [ofExcept_ok rfl]
    simp [bind, Except.bind, parsed, WorldState.load, eq_comm]

theorem getBalance_final (cfg : NodeConfig) (addr : Address) (ws : WorldState) :
    (getBalance cfg addr ws).final = ws ∨ (getBalance cfg addr ws).final = ws.load addr := by
  unfold getBalance
  cases found : readAccount cfg ws.ledger addr with
  | error =>
    rw [bind_error (onLedger_error (getAccount_error found))]
    exact Or.inl rfl
  | ok acc =>
  rw [bind_ok (onLedger_ok (getAccount_ok found))]
  cases parsed : parseUint256Bytes acc.balance with
  | error =>
    rw [ofExcept_error rfl]
    exact Or.inr rfl
  | ok =>
    rw [ofExcept_ok rfl]
    exact Or.inr rfl

theorem balanceOf_updateBalance (bounded : newBalance < uint256Bound)
    (ran : updateBalance cfg addr newBalance ws = .ok () after) :
    balanceOf cfg after addr = .ok newBalance ∧ after.validators = ws.validators := by
  rcases updateBalance_cases cfg addr newBalance ws with
    ⟨err, _, failed⟩ | ⟨acc, norm, found, updated, done⟩ |
    ⟨acc, norm, err, found, same, refused, failed⟩
  · rw [failed] at ran
    cases ran
  · rw [done] at ran
    cases ran
    have asked : acc.address = addr := readAccount_address found
    have address : norm.address = addr := updated.sameHoldings.address.trans asked
    have stored : norm.balance = BigEndian.encode newBalance := by
      rw [updated.amounts]
      simp [canonicalAmounts, mustUint256Bytes_natCast bounded, parseBigInt_encode bounded]
    unfold balanceOf
    rw [readAccount_store_self _ address (readAccount_readable found)]
    simp [bind, Except.bind, stored, parseUint256Bytes_encode bounded]
  · rw [failed] at ran
    cases ran

theorem balanceOf_lt (found : balanceOf cfg ws addr = .ok bal) : bal < uint256Bound := by
  unfold balanceOf at found
  cases answer : readAccount cfg ws.ledger addr with
  | error => simp [answer, bind, Except.bind] at found
  | ok acc =>
    simp only [answer, bind, Except.bind] at found
    have small := parseBigInt_lt acc.balance
    rwa [parseBigInt, found] at small

@[simp] theorem balanceOf_load (cfg : NodeConfig) (ws : WorldState) (addr : Address) :
    balanceOf cfg (ws.load addr) addr = balanceOf cfg ws addr := by
  unfold balanceOf WorldState.load
  rw [readAccount_load_self]

theorem balanceOf_congr (same : left.ledger = right.ledger) :
    balanceOf cfg left addr = balanceOf cfg right addr := by
  unfold balanceOf
  rw [same]

def Chargeable (cfg : NodeConfig) (ws : WorldState) (addr : Address) (bal : Nat) : Prop :=
  balanceOf cfg ws addr = .ok bal ∧ ∃ acc norm, readAccount cfg ws.ledger addr = .ok acc ∧
      Updated cfg acc norm

theorem Chargeable.congr
    (chargeable : Chargeable cfg left addr bal) (same : right.ledger = left.ledger) :
    Chargeable cfg right addr bal := by
  obtain ⟨found, acc, norm, answer, updated⟩ := chargeable
  exact ⟨(balanceOf_congr same).trans found, acc, norm, same ▸ answer, updated⟩

theorem Updated.withBalance {cfg : ShardConfig} {acc norm : Account}
    (updated : Updated cfg acc norm) (raw : Bytes) :
    ∃ final, Updated cfg { acc with balance := raw } final := by
  refine ⟨{ norm with balance := BigEndian.encode (parseBigInt raw) }, updated.delegations, ?_, ?_,
    updated.shard⟩
  · rw [updated.amounts]
    rfl
  · rw [← updated.valid]
    exact validateAccount_congr rfl rfl rfl

@[simp] theorem chargeable_load :
    Chargeable cfg (ws.load addr) addr bal ↔ Chargeable cfg ws addr bal := by
  unfold Chargeable
  rw [balanceOf_load, WorldState.load, readAccount_load_self]

theorem updateBalance_of_chargeable (bounded : newBalance < uint256Bound)
    (chargeable : Chargeable cfg ws addr bal) :
    ∃ final, updateBalance cfg addr newBalance ws = .ok () final ∧
      Chargeable cfg final addr newBalance := by
  obtain ⟨_, _, _, answer, updated⟩ := chargeable
  obtain ⟨changed, ok⟩ := updated.withBalance (mustUint256Bytes newBalance)
  rcases updateBalance_cases cfg addr newBalance ws with
    ⟨_, unread, _⟩ | ⟨found, final, asked, stored, done⟩ | ⟨found, _, _, asked, _, refused, _⟩
  · obtain ⟨_, unread⟩ := unread (Int.natCast_nonneg _)
    rw [answer] at unread
    cases unread
  · have same : found.address = addr := readAccount_address asked
    have address : final.address = addr := stored.sameHoldings.address.trans same
    refine ⟨_, done, (balanceOf_updateBalance bounded done).1, final, final, ?_, ?_⟩
    · exact readAccount_store_self _ address (readAccount_readable asked)
    · exact (Updated.iff_of_canonical stored.canonical).mpr ⟨rfl, stored.valid, stored.shard⟩
  · rw [answer] at asked
    cases asked
    exact absurd ok (refused changed)

theorem chargeable_of_updateBalance (found : balanceOf cfg ws addr = .ok bal)
    (ran : updateBalance cfg addr newBalance ws = .ok () after) : Chargeable cfg ws addr bal := by
  rcases updateBalance_cases cfg addr newBalance ws with
    ⟨_, _, failed⟩ | ⟨acc, final, asked, updated, _⟩ | ⟨_, _, _, _, _, _, failed⟩
  · rw [failed] at ran
    cases ran
  · exact ⟨found, acc, updated.withBalance acc.balance |>.choose, asked,
      (updated.withBalance acc.balance).choose_spec⟩
  · rw [failed] at ran
    cases ran

end World

section Rules

variable {cfg : EngineConfig} {addr : Address} {data : Engine} {fail : Halt String → Engine → Prop}

theorem wp_onWorld {α : Type} {prog : WorldM α} {post : α → Engine → Prop}
    (returned : ∀ value ws, prog data.world = .ok value ws → post value { data with world := ws })
    (failed : ∀ err ws, prog data.world = .error err ws →
      fail (.refused err) { data with world := ws }) :
    wp (onWorld prog) post fail data := by
  unfold wp onWorld
  cases ran : prog data.world with
  | ok value ws => exact ⟨rfl, returned value ws ran⟩
  | error err ws => exact ⟨rfl, failed err ws ran⟩

theorem wp_adaptExcept {α : Type} {prog : EngineM α} {post : α → Engine → Prop}
    {context : String} (holds : wp prog post (fun halt => fail (naming context halt)) data) :
    wp (prog.adaptExcept (naming context)) post fail data := by
  unfold wp at holds ⊢
  cases ran : prog ⟨true, data⟩ with
  | ok =>
    rw [ran] at holds
    rw [adaptExcept_ok ran]
    exact holds
  | error =>
    rw [ran] at holds
    rw [adaptExcept_error ran]
    exact holds

def Engine.ticked (ce : Engine) (ticks : Nat) : Engine :=
  { ce with world := { ce.world with ticks } }

variable {post : Int → Engine → Prop}

theorem wp_now (returned : post (cfg.clock data.world.ticks) (data.ticked (data.world.ticks + 1))) :
    wp (clock cfg) post fail data := by
  refine wp_onWorld (fun value ws ran => ?_) fun err ws ran => ?_
  · cases ran
    exact returned
  · cases ran

theorem wp_clock
    (returned : ∀ now ticks, post now (data.ticked ticks)) : wp (clock cfg) post fail data :=
  wp_now (returned _ _)

theorem wp_refuse {α : Type} {err : String} {post : α → Engine → Prop}
    (holds : fail (.refused err) data) : wp (refuse err : EngineM α) post fail data :=
  wp_throw holds

namespace Manager

theorem wp_validatorBalance {post : Nat → Engine → Prop}
    (returned : ∀ bal, balanceOf cfg data.world addr = .ok bal →
      post bal { data with world := data.world.load addr })
    (failed : ∀ err ws, getBalance cfg addr data.world = .error err ws →
      fail (.refused ("failed to get validator balance: " ++ err)) { data with world := ws }) :
    wp (validatorBalance cfg addr) post fail data := by
  refine wp_adaptExcept (wp_onWorld (fun bal ws ran => ?_) failed)
  obtain ⟨found, rfl⟩ := getBalance_ok_iff.mp ran
  exact returned bal found

variable {post : PUnit → Engine → Prop} {bal ticks : Nat} {percent : Int}
   {record : SlashingRecord} {after : Engine} {offence : Offence}

theorem wp_penaltyOf {post : Nat → Engine → Prop}
    (returned : 0 ≤ percent → percent ≤ 100 → post (bal * percent.toNat / 100) data)
    (failed : ∀ err, percent < 0 ∨ 100 < percent → fail (.refused err) data) :
    wp (penaltyOf bal percent) post fail data := by
  unfold penaltyOf safePercentageBig
  by_cases outside : percent < 0 ∨ 100 < percent
  · simp only [outside, if_true]
    exact wp_refuse (failed _ outside)
  · simp only [outside, if_false]
    exact wp_pure (returned (by omega) (by omega))

theorem wp_jailValidator {reason : SlashingCondition}
    (returned : ∀ ticks jailed, jailed.validatorAddress = addr → jailed.reason = reason →
      post ⟨⟩ ((data.ticked ticks).jail jailed)) :
    wp (jailValidator cfg addr reason) post fail data :=
  wp_bind (wp_clock fun _ ticks => wp_update (returned ticks _ rfl rfl))

def sentenced (record : SlashingRecord) (ticks : Nat) (jail : JailedValidator) (ce : Engine) :
    Engine :=
  if severe record.condition then (ce.ticked ticks).jail jail else ce

theorem wp_jailIfSevere (returned : ∀ ticks jail, jail.validatorAddress = record.validatorAddress →
      post ⟨⟩ (sentenced record ticks jail data)) :
    wp (jailIfSevere cfg record) post fail data := by
  unfold jailIfSevere
  unfold sentenced at returned
  split
  · rename_i serious
    simp only [serious, if_true] at returned
    exact wp_jailValidator fun ticks jail address _ => returned ticks jail address
  · rename_i mild
    simp only [mild] at returned
    exact wp_pure (returned 0 ⟨record.validatorAddress, 0, 0, record.condition⟩ rfl)

section Frames

variable {record : SlashingRecord} {ticks newBalance : Nat} {jail : JailedValidator} {ce : Engine}

@[simp] theorem sentenced_ledger :
    (sentenced record ticks jail ce).world.ledger = ce.world.ledger := by
  unfold sentenced
  split <;> rfl

@[simp] theorem sentenced_validators :
    (sentenced record ticks jail ce).world.validators = ce.world.validators := by
  unfold sentenced
  split <;> rfl

@[simp] theorem sentenced_processedEvidence :
    (sentenced record ticks jail ce).processedEvidence = ce.processedEvidence := by
  unfold sentenced
  split <;> rfl

@[simp] theorem sentenced_slashingRecords :
    (sentenced record ticks jail ce).slashingRecords = ce.slashingRecords := by
  unfold sentenced
  split <;> rfl

@[simp] theorem demote_world : (demote cfg addr newBalance ce).world = ce.world := by
  unfold demote
  split <;> rfl

@[simp] theorem demote_processedEvidence :
    (demote cfg addr newBalance ce).processedEvidence = ce.processedEvidence := by
  unfold demote
  split <;> rfl

@[simp] theorem demote_slashingRecords :
    (demote cfg addr newBalance ce).slashingRecords = ce.slashingRecords := by
  unfold demote
  split <;> rfl

@[simp] theorem demote_jailedValidators :
    (demote cfg addr newBalance ce).jailedValidators = ce.jailedValidators := by
  unfold demote
  split <;> rfl

theorem recordsOf_appendRecord : (appendRecord record ce).recordsOf record.validatorAddress =
      ce.recordsOf record.validatorAddress ++ [record] := by
  simp [appendRecord, Engine.recordsOf]

theorem recordsOf_congr {left right : Engine} (same : left.slashingRecords = right.slashingRecords)
    (addr : Address) : left.recordsOf addr = right.recordsOf addr := by
  simp only [Engine.recordsOf, same]

end Frames

structure Charged (cfg : EngineConfig) (record : SlashingRecord) (bal : Nat)
    (before after : Engine) : Prop where
  chargeable : Chargeable cfg before.world record.validatorAddress bal
  charged : Chargeable cfg after.world record.validatorAddress
    (bal - record.slashedAmount)
  validators : after.world.validators = before.world.validators
  processed : after.processedEvidence = before.processedEvidence.insert (record.evidence.hash cfg)
  records : after.recordsOf record.validatorAddress =
    before.recordsOf record.validatorAddress ++ [record]
  jailed : if severe record.condition then
      ∃ jail, after.jailedValidators = before.jailedValidators.insert (record.validatorAddress, jail)
    else after.jailedValidators = before.jailedValidators

theorem charged_of_updateBalance {jail : JailedValidator} {ws : WorldState}
    (found : balanceOf cfg data.world record.validatorAddress = .ok bal)
    (ran : updateBalance cfg record.validatorAddress
      (bal - record.slashedAmount : Nat) (data.world.load record.validatorAddress) = .ok () ws)
    (address : jail.validatorAddress = record.validatorAddress) :
    Charged cfg record bal data (appendRecord record
      (demote cfg record.validatorAddress (bal - record.slashedAmount) (sentenced record ticks jail
          { data.markProcessed (record.evidence.hash cfg) with world := ws }))) := by
  have bounded : bal - record.slashedAmount < uint256Bound :=
    (Nat.sub_le _ _).trans_lt (balanceOf_lt found)
  have able := chargeable_of_updateBalance ((balanceOf_load _ _ _).trans found) ran
  obtain ⟨final, done, left⟩ := updateBalance_of_chargeable bounded able
  obtain rfl : ws = final := by
    rw [ran] at done
    cases done
    rfl
  have kept : ws.validators = data.world.validators := (balanceOf_updateBalance bounded ran).2
  refine ⟨chargeable_load.mp able, left.congr (by simp [appendRecord]), ?_, ?_, ?_, ?_⟩
  · simpa [appendRecord] using kept
  · simp [appendRecord, Engine.markProcessed]
  · rw [recordsOf_appendRecord]
    exact congrArg (· ++ [record]) (recordsOf_congr (by simp [Engine.markProcessed]) _)
  · unfold sentenced
    split
    · refine ⟨jail, ?_⟩
      simp [appendRecord, Engine.jail, Engine.setStatus, Engine.ticked, Engine.markProcessed, address]
    · simp [appendRecord, Engine.markProcessed]

theorem wp_applySlashing
    (known : data.isProcessed (record.evidence.hash cfg) = true → ∀ err, fail (.refused err) data)
    (unable : data.isProcessed (record.evidence.hash cfg) = false →
      (∀ bal, ¬ Chargeable cfg data.world record.validatorAddress bal) →
      ∀ err ws, fail (.refused err)
        { data.markProcessed (record.evidence.hash cfg) with world := ws })
    (charged : data.isProcessed (record.evidence.hash cfg) = false →
      ∀ bal after, Charged cfg record bal data after → post ⟨⟩ after) :
    wp (applySlashing cfg record) post fail data := by
  refine wp_bind (wp_read ?_)
  split
  · rename_i processed
    exact wp_refuse (known processed _)
  rename_i fresh
  have fresh := Bool.eq_false_iff.mpr fresh
  refine wp_bind (wp_update (wp_bind (wp_validatorBalance (fun bal found => ?_)
    fun err ws failed => unable fresh (fun bal able => ?_) _ _)))
  · have bounded : bal - record.slashedAmount < uint256Bound :=
      (Nat.sub_le _ _).trans_lt (balanceOf_lt found)
    refine wp_bind (wp_adaptExcept (wp_onWorld (fun _ ws ran => ?_)
      fun err ws failed => unable fresh (fun other able => ?_) _ _))
    · exact wp_bind (wp_jailIfSevere fun ticks jail address => wp_bind (wp_update (wp_update
        (charged fresh bal _ (charged_of_updateBalance found ran address)))))
    · obtain ⟨_, ran, _⟩ := updateBalance_of_chargeable bounded (chargeable_load.mpr able)
      exact absurd (failed.symm.trans ran) (by simp)
  · have ran := getBalance_ok_iff.mpr ⟨able.1, rfl⟩
    exact absurd (failed.symm.trans ran) (by simp)

theorem Charged.of_load (charged : Charged cfg record bal
      (Engine.ticked { data with world := data.world.load record.validatorAddress } ticks) after) :
    Charged cfg record bal data after :=
  { charged with chargeable := chargeable_load.mp (charged.chargeable.congr rfl) }

theorem Charged.of_ticked (charged : Charged cfg record bal (data.ticked ticks) after) :
    Charged cfg record bal data after :=
  { charged with chargeable := charged.chargeable.congr rfl }

theorem wp_slashOnce
    (known : data.isProcessed (offence.evidence.hash cfg) = true → ∀ err, fail (.refused err) data)
    (unable : (percent < 0 ∨ 100 < percent ∨
        ∀ bal, ¬ Chargeable cfg data.world offence.validatorAddress bal) →
      ∀ err after, fail (.refused err) after)
    (charged : data.isProcessed (offence.evidence.hash cfg) = false →
      0 ≤ percent → percent ≤ 100 → ∀ timestamp bal after,
      Charged cfg (offence.record timestamp (bal * percent.toNat / 100)) bal data after →
      post ⟨⟩ after) : wp (slashOnce cfg percent offence) post fail data := by
  refine wp_bind (wp_read ?_)
  split
  · rename_i processed
    exact wp_refuse (known processed _)
  · rename_i fresh
    refine wp_bind (wp_validatorBalance (fun bal found => ?_) fun err ws failed =>
      unable (Or.inr (Or.inr fun bal able => ?_)) _ _)
    · refine wp_bind (wp_penaltyOf (fun nonnegative atMost => ?_) fun err outside =>
        unable (outside.imp_right Or.inl) _ _)
      refine wp_bind (wp_clock fun timestamp ticks => wp_applySlashing
        (fun processed _ => absurd processed fresh)
        (fun _ never err after => unable (Or.inr (Or.inr fun other able => ?_)) _ _)
        fun unseen other after done => ?_)
      · exact never other ((chargeable_load.mpr able).congr rfl)
      · have same : other = bal :=
          Except.ok.inj (done.of_load.chargeable.1.symm.trans found)
        subst same
        exact charged unseen nonnegative atMost timestamp other after done.of_load
    · have ran := getBalance_ok_iff.mpr ⟨able.1, rfl⟩
      exact absurd (failed.symm.trans ran) (by simp)

end Manager

end Rules

end Thrylos
