import Thrylos.SlashingEffects

/-!
The penalties for downtime and for withholding blocks. All are marked as processed under one key:
whoever is penalised first is the last.
-/

namespace Thrylos

open Guarded (read update attempt wp wp_pure wp_read wp_update wp_bind wp_attempt)

inductive DowntimeReport where
  | missed (addr : Address) (slot : UInt64)
  | withheld (addr : Address)

section

variable (cfg : EngineConfig)

namespace DowntimeReport

def addr : DowntimeReport → Address
  | .missed addr _ => addr
  | .withheld addr => addr

def run : DowntimeReport → EngineM Unit
  | .missed addr slot => Manager.reportMissedAttestation cfg addr slot
  | .withheld addr => Manager.reportBlockWithholding cfg addr

end DowntimeReport

inductive Band where
  | ejection
  | jail
  | major
  | minor
  deriving DecidableEq

namespace Band

def reached (policy : DowntimePolicy) (missed : UInt64) : Option Band :=
  if policy.ejectionThreshold ≤ missed then some .ejection
  else if policy.jailThreshold ≤ missed then some .jail
  else if policy.majorSlashingStart ≤ missed then some .major
  else if policy.minorSlashingStart ≤ missed then some .minor
  else none

def percent (policy : DowntimePolicy) : Band → Int
  | .ejection | .jail => policy.jailPenalty
  | .major => policy.majorPenalty
  | .minor => policy.minorPenalty

def reason : Band → String
  | .ejection => "extended_downtime_ejection"
  | .jail => "extended_downtime_jail"
  | .major => "downtime_major"
  | .minor => "downtime_minor"

end Band

def serving (ce : Engine) (addr : Address) : Prop :=
  ∃ entry, ce.jailedValidators.find? addr = some entry ∧
    ¬ entry.2.releaseTime < cfg.clock ce.world.ticks

def nextTick (ce : Engine) (addr : Address) : Nat :=
  if (ce.jailedValidators.find? addr).isSome then ce.world.ticks + 1 else ce.world.ticks

structure Payable (ce : Engine) (addr : Address) (percent : Int) : Prop where
  percent : percent ≤ 100
  unmarked : ce.isProcessed (emptyKey cfg) = false
  chargeable : ∃ bal, Chargeable cfg ce.world addr bal

namespace DowntimeReport

def due (ce : Engine) : DowntimeReport → Option (Int × Bool)
  | .missed addr slot =>
    (Band.reached cfg.slashing.policy (Manager.recordMiss slot (ce.historyOf addr)).missedSlots
      ).map fun band => (band.percent cfg.slashing.policy, band = .jail)
  | .withheld _ => some (cfg.slashing.policy.jailPenalty, true)

def Proceeds (ce : Engine) : DowntimeReport → Prop
  | .missed addr slot =>
    let missed := (Manager.recordMiss slot (ce.historyOf addr)).missedSlots
    ∀ band, Band.reached cfg.slashing.policy missed = some band →
      ce.isProcessed (Manager.downtimeKey addr band.reason missed) = false ∧
      (band = .jail → ¬ serving cfg ce addr)
  | .withheld addr => ¬ serving cfg ce addr ∧
      ¬ (ce.recordsOf addr).any (Manager.slashedRecently (cfg.clock (nextTick ce addr)))

def PenaltyTaken (percent : Int) (jailDue : Bool) (cfg : EngineConfig) (report : DowntimeReport)
    (before after : Engine) : Prop :=
  ∃ bal record, balanceOf cfg before.world report.addr = .ok bal ∧
    balanceOf cfg after.world report.addr = .ok (bal - bal * percent.toNat / 100) ∧
    after.recordsOf report.addr = before.recordsOf report.addr ++ [record] ∧
    record.condition = .downtime ∧ record.slashedAmount = bal * percent.toNat / 100 ∧
    (jailDue = true → (after.jailedValidators.find? report.addr).isSome = true)

end DowntimeReport

end

section Rules

variable {cfg : EngineConfig} {data : Engine} {addr : Address} {fail : Halt String → Engine → Prop}

structure Looked (addr : Address) (before after : Engine) : Prop where
  ledger : after.world.ledger = before.world.ledger
  ticks : after.world.ticks = nextTick before addr
  processed : after.processedEvidence = before.processedEvidence
  records : after.slashingRecords = before.slashingRecords
  free : after.jailedValidators.find? addr = none

namespace Manager

theorem wp_isValidatorJailed {post : Bool → Engine → Prop}
    (kept : serving cfg data addr → ∀ ticks, post true (data.ticked ticks))
    (free : ¬ serving cfg data addr → ∀ after, Looked addr data after → post false after) :
    wp (isValidatorJailed cfg addr) post fail data := by
  refine wp_bind (wp_read ?_)
  split
  · rename_i found
    refine wp_pure (free (fun ⟨entry, jailed, _⟩ => ?_) data ⟨rfl, ?_, rfl, rfl, found⟩)
    · rw [found] at jailed
      cases jailed
    · simp [nextTick, found]
  · rename_i key jailed found
    refine wp_bind (wp_now ?_)
    split
    · rename_i beyond
      refine wp_bind (wp_update (wp_pure (free (fun ⟨entry, same, still⟩ => ?_) _ ?_)))
      · rw [found] at same
        cases same
        exact still beyond
      · exact ⟨rfl, by simp [nextTick, found, Engine.release, Engine.setStatus, Engine.ticked], rfl,
          rfl, by simp [Engine.release, Engine.setStatus]⟩
    · rename_i still
      exact wp_pure (kept ⟨_, found, still⟩ _)

theorem wp_lenientBalance {post : Option Nat → Engine → Prop}
    (unread : ∀ answer ws, (∀ bal, ¬ Chargeable cfg data.world addr bal) →
      (∀ bal, ¬ Chargeable cfg ws addr bal) → post answer { data with world := ws })
    (found : ∀ bal, balanceOf cfg data.world addr = .ok bal →
      post (some bal) { data with world := data.world.load addr }) :
    wp (lenientBalance cfg addr) post fail data := by
  refine wp_bind (wp_attempt (wp_onWorld (fun acc ws ran => ?_) fun err ws ran => ?_))
  · cases answer : readAccount cfg data.world.ledger addr with
    | error =>
      rw [onLedger_error (getAccount_error answer)] at ran
      cases ran
    | ok other =>
    rw [onLedger_ok (getAccount_ok answer)] at ran
    cases ran
    dsimp only
    split
    · rename_i err unparsed
      have never : ∀ bal, ¬ Chargeable cfg data.world addr bal := by
        intro bal able
        have found := able.1
        simp [balanceOf, answer, bind, Except.bind, unparsed] at found
      exact wp_pure (unread _ _ never fun bal able => never bal (chargeable_load.mp able))
    · rename_i bal parsed
      exact wp_pure (found bal (by simp [balanceOf, answer, bind, Except.bind, parsed]))
  · cases answer : readAccount cfg data.world.ledger addr with
    | ok =>
      rw [onLedger_ok (getAccount_ok answer)] at ran
      cases ran
    | error =>
    have never : ∀ bal, ¬ Chargeable cfg data.world addr bal := by
      rintro _ ⟨-, _, _, found, -⟩
      rw [answer] at found
      cases found
    rw [onLedger_error (getAccount_error answer)] at ran
    cases ran
    exact wp_pure (unread _ _ never never)

variable {post : PUnit → Engine → Prop}

theorem wp_attempt_applySlashing {record : SlashingRecord} {key : Bytes}
    (refused : data.isProcessed (record.evidence.hash cfg) = true ∨
        (∀ bal, ¬ Chargeable cfg data.world record.validatorAddress bal) →
      ∀ after : Engine, after.slashingRecords = data.slashingRecords → post ⟨⟩ after)
    (taken : data.isProcessed (record.evidence.hash cfg) = false →
      ∀ bal after, Charged cfg record bal data after → post ⟨⟩ (rememberKey key after)) : wp (do
      match ← attempt (applySlashing cfg record) with
      | .error _ => return
      | .ok () => update (rememberKey key)) post fail data := by
  refine wp_bind (wp_attempt (wp_applySlashing (fun known err => ?_)
    (fun _ never err ws => ?_) fun fresh bal after charged => ?_))
  · exact wp_pure (refused (Or.inl known) data rfl)
  · exact wp_pure (refused (Or.inr never) _ rfl)
  · exact wp_update (taken fresh bal after charged)

theorem wp_slashValidator {percent : Int} {reason : String} {history : AttestationHistory}
    (nonnegative : 0 ≤ percent)
    (remembered : data.isProcessed (downtimeKey addr reason history.missedSlots) = true →
      post ⟨⟩ data) (blocked : ¬ Payable cfg data addr percent → ∀ after : Engine,
      after.slashingRecords = data.slashingRecords → post ⟨⟩ after)
    (taken : data.isProcessed (downtimeKey addr reason history.missedSlots) = false →
      Payable cfg data addr percent → ∀ timestamp bal after,
      Charged cfg ((downtimeOffence addr reason history).record timestamp
        (bal * percent.toNat / 100)) bal data after →
      post ⟨⟩ (rememberKey (downtimeKey addr reason history.missedSlots) after)) :
    wp (slashValidator cfg addr percent reason history) post fail data := by
  refine wp_bind (wp_read ?_)
  split
  · rename_i processed
    exact wp_pure (remembered processed)
  rename_i fresh
  have fresh := Bool.eq_false_iff.mpr fresh
  refine wp_bind (wp_lenientBalance (fun answer ws never stillNever => ?_) fun bal found => ?_)
  · have hopeless : ¬ Payable cfg data addr percent := fun payable =>
      payable.chargeable.elim never
    cases answer with
    | none => exact wp_pure (blocked hopeless _ rfl)
    | some bal =>
    dsimp only
    split
    · exact wp_pure (blocked hopeless _ rfl)
    · refine wp_bind (wp_clock fun timestamp ticks => wp_attempt_applySlashing
        (fun _ after same => blocked hopeless after same) fun _ bal after charged => ?_)
      exact absurd (charged.chargeable.congr rfl) (stillNever bal)
  · by_cases outside : percent < 0 ∨ 100 < percent
    · simp only [safePercentageBig, outside, if_true]
      have above : ¬ Payable cfg data addr percent := fun payable => by
        have := payable.percent
        omega
      exact wp_pure (blocked above _ rfl)
    · simp only [safePercentageBig, outside, if_false]
      refine wp_bind (wp_clock fun timestamp ticks => wp_attempt_applySlashing
        (fun refused after same => blocked (fun payable => ?_) after same)
        fun unprocessed other after charged => ?_)
      · rcases refused with known | never
        · exact absurd (payable.unmarked.symm.trans known) (by decide)
        · obtain ⟨other, able⟩ := payable.chargeable
          exact never other ((chargeable_load.mpr able).congr rfl)
      · have charged := charged.of_load
        obtain rfl : bal = other := Except.ok.inj (found.symm.trans charged.chargeable.1)
        exact taken fresh ⟨by omega, unprocessed, _, charged.chargeable⟩ timestamp bal after charged

end Manager

structure Untouched (before after : Engine) : Prop where
  ledger : after.world.ledger = before.world.ledger
  processed : after.processedEvidence = before.processedEvidence
  records : after.slashingRecords = before.slashingRecords

namespace Untouched

variable {before after : Engine} (same : Untouched before after)
include same

theorem isProcessed : after.isProcessed = before.isProcessed := by
  funext key
  simp only [Engine.isProcessed, same.processed]

theorem recordsOf (addr : Address) : after.recordsOf addr = before.recordsOf addr :=
  Manager.recordsOf_congr same.records addr

theorem payable {percent : Int} (payable : Payable cfg before addr percent) :
    Payable cfg after addr percent := by
  obtain ⟨bal, able⟩ := payable.chargeable
  exact ⟨payable.percent, by rw [same.isProcessed, payable.unmarked], bal, able.congr same.ledger⟩

theorem symm : Untouched after before := ⟨same.ledger.symm, same.processed.symm, same.records.symm⟩

end Untouched

namespace DowntimeReport

structure Answers (cfg : EngineConfig) (report : DowntimeReport) (percent : Int) (jailDue : Bool)
    (before after : Engine) : Prop where
  taken : report.Proceeds cfg before → Payable cfg before report.addr percent →
    PenaltyTaken percent jailDue cfg report before after ∧ after.isProcessed (emptyKey cfg) = true
  spared : ¬ (report.Proceeds cfg before ∧ Payable cfg before report.addr percent) →
    after.recordsOf report.addr = before.recordsOf report.addr

variable {report : DowntimeReport} {percent : Int} {jailDue : Bool} {before after : Engine}

theorem Answers.of_spared
    (stopped : ¬ (report.Proceeds cfg before ∧ Payable cfg before report.addr percent))
    (same : after.slashingRecords = before.slashingRecords) :
    Answers cfg report percent jailDue before after where
  taken := fun proceeds payable => absurd ⟨proceeds, payable⟩ stopped
  spared := fun _ => Manager.recordsOf_congr same _

theorem Answers.iff (answers : Answers cfg report percent jailDue before after) :
    PenaltyTaken percent jailDue cfg report before after ↔
      report.Proceeds cfg before ∧ Payable cfg before report.addr percent := by
  constructor
  · rintro ⟨_, _, _, _, recorded, _⟩
    by_contra stopped
    rw [answers.spared stopped] at recorded
    simpa using congrArg List.length recorded
  · exact fun clear => (answers.taken clear.1 clear.2).1

theorem Answers.of_charged {offence : Offence} {timestamp : Int} {bal : Nat} {current final : Engine}
    (same : Untouched before current) (accused : offence.validatorAddress = report.addr)
    (downtime : offence.condition = .downtime) (key : offence.evidence.hash cfg = emptyKey cfg)
    (charged : Manager.Charged cfg (offence.record timestamp (bal * percent.toNat / 100))
      bal current after) (am : final.world.ledger = after.world.ledger)
    (processed : ∀ key, after.isProcessed key = true → final.isProcessed key = true)
    (records : final.slashingRecords = after.slashingRecords)
    (jailed : jailDue = true → (final.jailedValidators.find? report.addr).isSome = true)
    (clear : report.Proceeds cfg before ∧ Payable cfg before report.addr percent) :
    Answers cfg report percent jailDue before final := by
  have owed := charged.chargeable.congr same.ledger.symm
  have paid := charged.charged.congr am
  have recorded := charged.records
  have named : (offence.record timestamp (bal * percent.toNat / 100)).validatorAddress =
      report.addr := accused
  rw [named] at owed paid recorded
  refine ⟨fun _ _ => ⟨⟨bal, offence.record timestamp (bal * percent.toNat / 100), owed.1,
    paid.1, ?_, downtime, rfl, jailed⟩, processed _ ?_⟩, fun stopped => absurd clear stopped⟩
  · rw [Manager.recordsOf_congr records, recorded, same.recordsOf]
  · have marked := charged.processed
    change after.processedEvidence =
      current.processedEvidence.insert (offence.evidence.hash cfg) at marked
    simp [Engine.isProcessed, marked, key]

end DowntimeReport

open DowntimeReport

theorem Band.percent_nonneg (cfg : SlashingConfig) (band : Band) : 0 ≤ band.percent cfg.policy := by
  cases band <;> simp [Band.percent, SlashingConfig.policy]

section Missed

variable {slot : UInt64} {band : Band}

theorem wp_slashBand (band : Band) {current : Engine} (reached : Band.reached cfg.slashing.policy
      (Manager.recordMiss slot (data.historyOf addr)).missedSlots = some band)
    (same : Untouched data current) (unserved : band = .jail → ¬ serving cfg data addr)
    (jailed : band = .jail → (current.jailedValidators.find? addr).isSome = true) :
    wp (Manager.slashValidator cfg addr (band.percent cfg.slashing.policy) band.reason
        (Manager.recordMiss slot (data.historyOf addr)))
      (fun _ => Answers cfg (.missed addr slot) (band.percent cfg.slashing.policy)
        (band = .jail) data) fail current := by
  refine Manager.wp_slashValidator (band.percent_nonneg _) (fun remembered => ?_)
    (fun unpayable after records => ?_) fun fresh payable timestamp bal after charged => ?_
  · refine .of_spared (fun clear => ?_) same.records
    have unmarked := (clear.1 band reached).1
    rw [same.isProcessed] at remembered
    exact absurd (remembered.symm.trans unmarked) (by decide)
  · exact .of_spared (fun clear => unpayable (same.payable clear.2)) (records.trans same.records)
  · have kept : after.jailedValidators = current.jailedValidators := charged.jailed
    have unkeyed (history : AttestationHistory) :
        (Manager.downtimeOffence addr band.reason history).evidence.hash cfg = emptyKey cfg := rfl
    refine .of_charged same rfl rfl (unkeyed _) charged rfl
      (fun key marked => ?_) rfl (fun jailDue => ?_)
      ⟨fun other found => ?_, same.symm.payable payable⟩
    · simp only [Engine.isProcessed, Manager.rememberKey] at marked ⊢
      rw [KeyedMap.find?_insert]
      split
      · rfl
      · exact marked
    · simp only [Manager.rememberKey, kept]
      exact jailed (of_decide_eq_true jailDue)
    · rw [reached] at found
      cases found
      rw [same.isProcessed] at fresh
      exact ⟨fresh, unserved⟩

theorem wp_punishDowntime (reached : Band.reached cfg.slashing.policy
      (Manager.recordMiss slot (data.historyOf addr)).missedSlots = some band) :
    wp (Manager.punishDowntime cfg addr (Manager.recordMiss slot (data.historyOf addr)))
      (fun _ => Answers cfg (.missed addr slot) (band.percent cfg.slashing.policy)
        (band = .jail) data) fail
      (Manager.setHistory addr (Manager.recordMiss slot (data.historyOf addr)) data) := by
  have found := reached
  unfold Band.reached at found
  unfold Manager.punishDowntime
  dsimp only
  split
  · rename_i ejected
    simp only [ejected, if_true, Option.some.injEq] at found
    subst found
    exact wp_slashBand .ejection reached ⟨rfl, rfl, rfl⟩ (by rintro ⟨⟩) (by rintro ⟨⟩)
  rename_i unejected
  simp only [unejected, if_false] at found
  split
  · rename_i sentenced
    simp only [sentenced, if_true, Option.some.injEq] at found
    subst found
    refine wp_bind (Manager.wp_isValidatorJailed (fun kept ticks => ?_) fun free after looked => ?_)
    · exact wp_pure (.of_spared (fun clear => (clear.1 .jail reached).2 rfl kept) rfl)
    · refine wp_bind (Manager.wp_jailValidator fun ticks jailed address _ => ?_)
      refine wp_slashBand .jail reached { looked with } (fun _ => free) fun _ => ?_
      simp [Engine.jail, Engine.setStatus, address]
  rename_i unsentenced
  simp only [unsentenced, if_false] at found
  split
  · rename_i grave
    simp only [grave, if_true, Option.some.injEq] at found
    subst found
    exact wp_slashBand .major reached ⟨rfl, rfl, rfl⟩ (by rintro ⟨⟩) (by rintro ⟨⟩)
  rename_i slight
  simp only [slight, if_false] at found
  split
  · rename_i noticed
    simp only [noticed, if_true, Option.some.injEq] at found
    subst found
    exact wp_slashBand .minor reached ⟨rfl, rfl, rfl⟩ (by rintro ⟨⟩) (by rintro ⟨⟩)
  · rename_i unnoticed
    simp only [unnoticed, if_false] at found
    cases found

end Missed

section Withheld

theorem wp_slashWithholding {current : Engine}
    (proceeds : (withheld addr).Proceeds cfg data) (same : Untouched data current) :
    wp (Manager.slashWithholding cfg addr)
      (fun _ => Answers cfg (.withheld addr) cfg.slashing.policy.jailPenalty true data)
      (fun _ => Answers cfg (.withheld addr) cfg.slashing.policy.jailPenalty true data)
      current := by
  refine wp_bind (Manager.wp_validatorBalance (fun bal found => ?_) fun err ws failed => ?_)
  · refine wp_bind (Manager.wp_penaltyOf (fun _ atMost => ?_) fun err outside => ?_)
    · refine wp_bind (wp_read ?_)
      split
      · rename_i processed
        refine wp_pure (.of_spared (fun clear => ?_) same.records)
        have unmarked := (same.payable clear.2).unmarked
        exact absurd (processed.symm.trans unmarked) (by decide)
      · rename_i fresh
        refine wp_bind (wp_clock fun timestamp ticks => wp_bind (Manager.wp_applySlashing
          (fun known => absurd known fresh) (fun _ never err ws => ?_)
          fun unmarked other after charged => ?_))
        · refine .of_spared (fun clear => ?_) same.records
          obtain ⟨bal, able⟩ := (same.payable clear.2).chargeable
          exact never bal ((chargeable_load.mpr able).congr rfl)
        · have charged := charged.of_load
          obtain rfl : bal = other := Except.ok.inj (found.symm.trans charged.chargeable.1)
          refine Manager.wp_jailValidator fun later jailed address _ => ?_
          have payable : Payable cfg current addr cfg.slashing.policy.jailPenalty :=
            ⟨atMost, unmarked, _, charged.chargeable⟩
          refine .of_charged same rfl rfl rfl charged rfl (fun _ => id) rfl (fun _ => ?_)
            ⟨proceeds, same.symm.payable payable⟩
          simp [Engine.jail, Engine.setStatus, address, DowntimeReport.addr]
    · refine .of_spared (fun clear => ?_) same.records
      have atMost := clear.2.percent
      rcases outside with negative | above
      · exact absurd (Band.percent_nonneg cfg.slashing .jail) (by simpa [Band.percent] using negative)
      · omega
  · refine .of_spared (fun clear => ?_) same.records
    obtain ⟨_, able⟩ := (same.payable clear.2).chargeable
    exact absurd (failed.symm.trans (getBalance_ok_iff.mpr ⟨able.1, rfl⟩)) (by simp)

theorem wp_withheld (high : 100 ≤ data.world.height) : wp (do
        if (← read).world.height < 100 then return
        else if ← Manager.isValidatorJailed cfg addr then return
        else
          let now ← clock cfg
          if ((← read).recordsOf addr).any (Manager.slashedRecently now) then return
          else Manager.slashWithholding cfg addr)
      (fun _ => Answers cfg (.withheld addr) cfg.slashing.policy.jailPenalty true data)
      (fun _ => Answers cfg (.withheld addr) cfg.slashing.policy.jailPenalty true data)
      data := by
  refine wp_bind (wp_read ?_)
  rw [if_neg (Int64.not_lt.mpr high)]
  refine wp_bind (Manager.wp_isValidatorJailed (fun kept ticks => ?_) fun free after looked => ?_)
  · exact wp_pure (.of_spared (fun clear => clear.1.1 kept) rfl)
  rw [if_neg (by decide)]
  refine wp_bind (wp_now (wp_bind (wp_read ?_)))
  have same (ticks : Nat) : Untouched data (after.ticked ticks) :=
    { looked with }
  rw [(same _).recordsOf, looked.ticks]
  split
  · rename_i recently
    exact wp_pure (.of_spared (fun clear => clear.1.2 recently) (same 0).records)
  · rename_i overdue
    exact wp_slashWithholding ⟨free, overdue⟩ (same _)

end Withheld

end Rules

/-- A report that reaches a threshold leads to the penalty exactly when the charge is reached and no
downtime penalty was taken before. -/
theorem downtime_penalty_iff_unmarked (cfg : EngineConfig) (report : DowntimeReport)
    (st : Guarded Engine) (free : st.held = false) (high : 100 ≤ st.data.world.height)
    (percent : Int) (jailDue : Bool) (reached : report.due cfg st.data = some (percent, jailDue)) :
    let after := (report.run cfg st).final.data
    (report.PenaltyTaken percent jailDue cfg st.data after ↔
      report.Proceeds cfg st.data ∧ Payable cfg st.data report.addr percent) ∧
    (report.PenaltyTaken percent jailDue cfg st.data after →
      after.isProcessed (emptyKey cfg) = true) := by
  intro after
  have answers : DowntimeReport.Answers cfg report percent jailDue st.data after := by
    cases report with
    | missed =>
      simp only [DowntimeReport.due, Option.map_eq_some_iff, Prod.mk.injEq] at reached
      obtain ⟨_, found, rfl, rfl⟩ := reached
      exact Guarded.exclusively_final free (wp_bind (wp_read (wp_bind (wp_update
        (wp_punishDowntime found)))))
    | withheld =>
      cases reached
      exact Guarded.exclusively_final free (wp_withheld high)
  refine ⟨answers.iff, fun taken => ?_⟩
  obtain ⟨proceeds, payable⟩ := answers.iff.mp taken
  exact (answers.taken proceeds payable).2

def idlePair : Guarded Engine :=
  sampleEngine (sampleChain [sampleAccount 97 [100], sampleAccount 98 [100]]
    [sampleValidator 97 40 1, sampleValidator 98 40 2]) none

def withholding (digit : Byte) (st : Guarded Engine) : Guarded Engine :=
  ((DowntimeReport.withheld (sampleAddress digit)).run sampleEngineConfig st).final

theorem downtime_penalty_first_report :
    let report := DowntimeReport.withheld (sampleAddress 97)
    let after := (withholding 97 idlePair).data
    (report.PenaltyTaken 10 true sampleEngineConfig idlePair.data after ↔
      report.Proceeds sampleEngineConfig idlePair.data ∧
        Payable sampleEngineConfig idlePair.data (sampleAddress 97) 10) ∧
    (report.PenaltyTaken 10 true sampleEngineConfig idlePair.data after →
      after.isProcessed (emptyKey sampleEngineConfig) = true) :=
  downtime_penalty_iff_unmarked sampleEngineConfig (.withheld (sampleAddress 97)) idlePair rfl
    (by decide +kernel) 10 true (by decide +kernel)

theorem second_downtime_penalty_lost :
    let first := withholding 97 idlePair
    let second := withholding 98 first
    let bal (st : Guarded Engine) (digit : Byte) :=
      balanceOf sampleEngineConfig st.data.world (sampleAddress digit)
    let jailed (st : Guarded Engine) (digit : Byte) :=
      (st.data.jailedValidators.find? (sampleAddress digit)).isSome
    (DowntimeReport.withheld (sampleAddress 98)).due sampleEngineConfig first.data =
        some (10, true) ∧
      bal first 97 = .ok 90 ∧ jailed first 97 = true ∧
      bal second 98 = .ok 100 ∧ jailed second 98 = false := by
  decide +kernel

end Thrylos
