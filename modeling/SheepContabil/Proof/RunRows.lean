import SheepContabil.Spec.RunTable

/-!
# What a step can do to the row of a run

* `RowChange`: the changes of one row and of its count of automatic recoveries, with
  the guard of the transaction that makes each.
* `step_row`: every step of the table is one of them on every row.
* `Sound`, `sound_step`, `sound_run`: what holds of every table the steps produce.
-/

namespace SheepContabil

open SC05Operation (Recovery)

/-- **The changes of one row**, with its recoveries before and after; `fresh` is the next unused
token. -/
inductive RowChange (settings : Settings) (fresh : TaskId) (x : RunStep) (r : RunId)
    (a : AutomationRun) (n : ℕ) : AutomationRun → ℕ → Prop where
  | kept {b} (module : b.module = a.module) (status : b.status = a.status)
      (taskId : b.taskId = a.taskId) (startedAt : b.startedAt = a.startedAt)
      (attempts : b.reconciliationAttempts = a.reconciliationAttempts) :
      RowChange settings fresh x r a n b n
  | assigned {b} (before : a.status = .queued) (unassigned : a.taskId = none)
      (module : b.module = a.module) (after : b.status = .queued) (taskId : b.taskId = some fresh)
      (startedAt : b.startedAt = a.startedAt)
      (attempts : b.reconciliationAttempts = a.reconciliationAttempts) :
      RowChange settings fresh x r a n b n
  | ended {b} (module : b.module = a.module) (inactive : b.status.isActive = false)
      (awaiting : b.status = .awaitingReview → b.module = .sc04)
      (taskId : b.taskId = a.taskId ∨ b.taskId = none) (startedAt : b.startedAt = a.startedAt)
      (attempts : a.reconciliationAttempts ≤ b.reconciliationAttempts) :
      RowChange settings fresh x r a n b n
  | recomputed {b counts preserve now} (step : x = .recompute r counts preserve now)
      (status : (a.recomputedStatus counts preserve now).1 = .running)
      (isSc04 : a.module = .sc04) (module : b.module = a.module) (after : b.status = .running)
      (taskId : b.taskId = a.taskId) (startedAt : b.startedAt = a.startedAt)
      (attempts : b.reconciliationAttempts = a.reconciliationAttempts) :
      RowChange settings fresh x r a n b n
  | started {b m redelivered now} (step : x = .deliver m redelivered now) (run : m.run = r)
      (matched : a.taskId = none ∨ a.taskId = some m.taskId)
      (before : a.status = .pending ∨ a.status = .queued ∨
        a.status = .awaitingReview ∧ a.module ≠ .sc04)
      (module : b.module = a.module) (after : b.status = .running)
      (taskId : b.taskId = some m.taskId) (startedAt : b.startedAt.isSome = true)
      (attempts : b.reconciliationAttempts = a.reconciliationAttempts) :
      RowChange settings fresh x r a n b n
  | redelivered {b m now} (step : x = .deliver m true now) (run : m.run = r)
      (matched : a.taskId = none ∨ a.taskId = some m.taskId) (isSc04 : a.module = .sc04)
      (before : a.status = .running)
      (limit : a.reconciliationAttempts < settings.reconciliationMaxAttempts)
      (module : b.module = a.module) (after : b.status = .running)
      (taskId : b.taskId = some m.taskId) (startedAt : b.startedAt = a.startedAt)
      (attempts : b.reconciliationAttempts = a.reconciliationAttempts + 1) :
      RowChange settings fresh x r a n b (n + 1)
  | uploaded {b} (isSc04 : a.module = .sc04) (module : b.module = a.module)
      (after : b.status = .queued) (taskId : b.taskId = some fresh)
      (startedAt : b.startedAt = a.startedAt)
      (attempts : b.reconciliationAttempts = a.reconciliationAttempts) :
      RowChange settings fresh x r a n b n
  | recovered {b} (guard : a.status = .pending ∨
        a.reconciliationAttempts < settings.reconciliationMaxAttempts ∧
          (a.status = .queued ∨ a.status = .running ∧ a.module ≠ .sc05 ∧ a.module ≠ .sc20))
      (module : b.module = a.module) (after : b.status = .queued) (taskId : b.taskId = some fresh)
      (startedAt : b.startedAt = a.startedAt)
      (attempts : b.reconciliationAttempts = a.reconciliationAttempts + 1) :
      RowChange settings fresh x r a n b (n + 1)
  | resumed {b sequence now} (step : x = .resumeSc05 r sequence now)
      (before : a.status = .partiallyFailed)
      (module : b.module = a.module) (after : b.status = .queued) (taskId : b.taskId = some fresh)
      (startedAt : b.startedAt = a.startedAt) (attempts : b.reconciliationAttempts = 0) :
      RowChange settings fresh x r a n b 0
  | requeued {clock key now} (step : x = .schedule clock key now)
      (before : a.dispatchFailedBeforeStart = true) :
      RowChange settings fresh x r a n (a.requeueScheduled now fresh) 0

namespace RowChange

variable {settings : Settings} {fresh : TaskId} {x : RunStep} {r : RunId} {a b : AutomationRun}
  {n n' : ℕ}

theorem refl : RowChange settings fresh x r a n a n := .kept rfl rfl rfl rfl rfl

theorem module_eq (h : RowChange settings fresh x r a n b n') : b.module = a.module := by
  cases h <;> first | assumption | rfl

/-- A run is in the queue under a token that nobody has used, or was there already. -/
theorem queued_fresh (h : RowChange settings fresh x r a n b n') (hb : b.status = .queued) :
    b.taskId = some fresh ∨ a.status = .queued ∧ b.taskId = a.taskId := by
  cases h with
  | kept _ status taskId _ _ => exact .inr ⟨by rw [← status, hb], taskId⟩
  | ended _ inactive _ _ _ _ => rw [hb] at inactive; exact absurd inactive (by decide)
  | recomputed _ _ _ _ after _ _ _ => rw [hb] at after; exact absurd after (by decide)
  | started _ _ _ _ _ after _ _ _ => rw [hb] at after; exact absurd after (by decide)
  | redelivered _ _ _ _ _ _ _ after _ _ _ => rw [hb] at after; exact absurd after (by decide)
  | requeued => exact .inl rfl
  | assigned _ _ _ _ taskId _ _ => exact .inl taskId
  | uploaded _ _ _ taskId _ _ => exact .inl taskId
  | recovered _ _ _ taskId _ _ => exact .inl taskId
  | resumed _ _ _ _ taskId _ _ => exact .inl taskId

/-- Nothing goes back to `PENDING`. -/
theorem pending_kept (h : RowChange settings fresh x r a n b n') (hb : b.status = .pending) :
    a.status = .pending ∧ b.reconciliationAttempts = a.reconciliationAttempts ∧ n' = n := by
  cases h with
  | kept _ status _ _ attempts => exact ⟨by rw [← status, hb], attempts, rfl⟩
  | ended _ inactive _ _ _ _ => rw [hb] at inactive; exact absurd inactive (by decide)
  | recomputed _ _ _ _ after _ _ _ => rw [hb] at after; exact absurd after (by decide)
  | started _ _ _ _ _ after _ _ _ => rw [hb] at after; exact absurd after (by decide)
  | redelivered _ _ _ _ _ _ _ after _ _ _ => rw [hb] at after; exact absurd after (by decide)
  | requeued => exact absurd hb (by simp [AutomationRun.requeueScheduled])
  | assigned _ _ _ after _ _ _ => rw [hb] at after; exact absurd after (by decide)
  | uploaded _ _ after _ _ _ => rw [hb] at after; exact absurd after (by decide)
  | recovered _ _ after _ _ _ => rw [hb] at after; exact absurd after (by decide)
  | resumed _ _ _ after _ _ _ => rw [hb] at after; exact absurd after (by decide)

/-- **The changes that leave a row running**: it ran before, it was recomputed, or a message has
started it. -/
theorem running_cases (h : RowChange settings fresh x r a n b n') (hb : b.status = .running) :
    (a.status = .running ∧ b.taskId = a.taskId) ∨
    (∃ counts preserve now, x = .recompute r counts preserve now ∧
      (a.recomputedStatus counts preserve now).1 = .running ∧ a.module = .sc04 ∧
      b.taskId = a.taskId) ∨
    ∃ m redelivered now, x = .deliver m redelivered now ∧ m.run = r ∧
      (a.taskId = none ∨ a.taskId = some m.taskId) ∧ b.taskId = some m.taskId ∧
      (a.status = .running ∨ (a.status = .pending ∨ a.status = .queued ∨
        a.status = .awaitingReview ∧ a.module ≠ .sc04) ∧ b.startedAt.isSome = true) := by
  cases h with
  | kept _ status taskId _ _ => exact .inl ⟨status ▸ hb, taskId⟩
  | recomputed step status isSc04 _ _ taskId _ _ =>
    exact .inr (.inl ⟨_, _, _, step, status, isSc04, taskId⟩)
  | started step run matched before _ _ taskId startedAt _ =>
    exact .inr (.inr ⟨_, _, _, step, run, matched, taskId, .inr ⟨before, startedAt⟩⟩)
  | redelivered step run matched _ before _ _ _ taskId _ _ =>
    exact .inr (.inr ⟨_, _, _, step, run, matched, taskId, .inl before⟩)
  | ended _ inactive _ _ _ _ => rw [hb] at inactive; exact absurd inactive (by decide)
  | requeued => exact absurd hb (by simp [AutomationRun.requeueScheduled])
  | assigned _ _ _ after _ _ _ => rw [hb] at after; exact absurd after (by decide)
  | uploaded _ _ after _ _ _ => rw [hb] at after; exact absurd after (by decide)
  | recovered _ _ after _ _ _ => rw [hb] at after; exact absurd after (by decide)
  | resumed _ _ _ after _ _ _ => rw [hb] at after; exact absurd after (by decide)

/-- Where a token comes from. -/
theorem taskId_cases (h : RowChange settings fresh x r a n b n') :
    b.taskId = a.taskId ∨ b.taskId = none ∨ b.taskId = some fresh ∨
      ∃ m redelivered now, x = .deliver m redelivered now ∧ b.taskId = some m.taskId := by
  cases h with
  | kept _ _ taskId _ _ => exact .inl taskId
  | ended _ _ _ taskId _ _ => exact taskId.imp_right .inl
  | recomputed _ _ _ _ _ taskId _ _ => exact .inl taskId
  | started step _ _ _ _ _ taskId _ _ => exact .inr (.inr (.inr ⟨_, _, _, step, taskId⟩))
  | redelivered step _ _ _ _ _ _ _ taskId _ _ => exact .inr (.inr (.inr ⟨_, _, _, step, taskId⟩))
  | requeued => exact .inr (.inr (.inl rfl))
  | assigned _ _ _ _ taskId _ _ => exact .inr (.inr (.inl taskId))
  | uploaded _ _ _ taskId _ _ => exact .inr (.inr (.inl taskId))
  | recovered _ _ _ taskId _ _ => exact .inr (.inr (.inl taskId))
  | resumed _ _ _ _ taskId _ _ => exact .inr (.inr (.inl taskId))

/-- The first start of a run is never forgotten. -/
theorem startedAt_kept (h : RowChange settings fresh x r a n b n') (ha : a.startedAt.isSome = true) :
    b.startedAt.isSome = true := by
  cases h with
  | started _ _ _ _ _ _ _ startedAt _ => exact startedAt
  | requeued => exact ha
  | _ => simp only [*]

end RowChange

section Rows

variable {settings : Settings} {fresh : TaskId} {x : RunStep} {r : RunId} {a : AutomationRun} {n : ℕ}

theorem touchRun_change (t : Option TaskId) (now : ℕ) :
    RowChange settings fresh x r a n (a.touchRun t now) n := by
  unfold AutomationRun.touchRun
  split
  · exact .kept rfl rfl rfl rfl rfl
  · exact .refl

theorem recordDispatchFailure_change (t : TaskId) {status : RunStatus} (exc : String) (now : ℕ)
    (hstatus : status = .failed ∨ status = .partiallyFailed) :
    RowChange settings fresh x r a n (a.recordDispatchFailure t status exc now) n := by
  unfold AutomationRun.recordDispatchFailure
  split
  · rcases hstatus with rfl | rfl <;> exact .ended rfl rfl (by simp) (.inl rfl) rfl le_rfl
  · exact .refl

theorem recordDispatchSuccess_change (t : TaskId) (now : ℕ) :
    RowChange settings fresh x r a n (a.recordDispatchSuccess t now) n := by
  unfold AutomationRun.recordDispatchSuccess
  split
  · exact .kept rfl rfl rfl rfl rfl
  · exact .refl

theorem recordRecoveryPublishFailure_change (t : TaskId) (exc : String) (now : ℕ) :
    RowChange settings fresh x r a n (a.recordRecoveryPublishFailure t exc now) n := by
  unfold AutomationRun.recordRecoveryPublishFailure
  split
  · exact .kept rfl rfl rfl rfl rfl
  · exact .refl

theorem dispatchStart_change (now : ℕ) :
    RowChange settings fresh x r a n (a.dispatchStart now fresh).2 n := by
  unfold AutomationRun.dispatchStart
  split
  · exact .refl
  · next hstatus =>
    have hqueued : a.status = .queued := by simpa using hstatus
    split
    · split <;> exact .refl
    · cases ht : a.taskId with
      | none => exact .assigned hqueued ht rfl hqueued rfl rfl rfl
      | some t => exact .kept rfl rfl ht.symm rfl rfl

theorem failEmptyRecoveredSc04_change (now : ℕ) :
    RowChange settings fresh x r a n (a.failEmptyRecoveredSc04 now) n := by
  unfold AutomationRun.failEmptyRecoveredSc04
  split
  · exact .ended rfl rfl (by simp) (.inl rfl) rfl le_rfl
  · exact .refl

theorem failBeforeProcessing_change (exc safeMessage : String) (now : ℕ) :
    RowChange settings fresh x r a n (a.failBeforeProcessing exc safeMessage now) n :=
  .ended rfl rfl (by simp [AutomationRun.failBeforeProcessing]) (.inl rfl) rfl le_rfl

/-- The statuses a recomputation may give. -/
theorem recomputedStatus_cases (counts : SC04Counts) (preserve : Bool) (now : ℕ) :
    (a.recomputedStatus counts preserve now).1 = .running ∨
      (a.recomputedStatus counts preserve now).1.isActive = false := by
  unfold AutomationRun.recomputedStatus
  dsimp only
  split
  · next h =>
    refine .inr ?_
    have hterminal : a.status.isTerminal = true := by simp_all
    revert hterminal
    cases a.status <;> simp [RunStatus.isTerminal, RunStatus.isActive]
  · split
    · exact .inr rfl
    · split
      · exact .inl rfl
      · split
        · exact .inr rfl
        · split <;> exact .inr rfl

theorem recompute_change (hsc04 : a.module = .sc04) (counts : SC04Counts) (preserve : Bool)
    (now : ℕ) :
    RowChange settings fresh (.recompute r counts preserve now) r a n
      (a.recompute counts none preserve now) n := by
  unfold AutomationRun.recompute
  rw [if_neg (by simp)]
  rcases recomputedStatus_cases (a := a) counts preserve now with h | h
  · exact .recomputed rfl h hsc04 rfl h rfl rfl rfl
  · exact .ended rfl h (fun _ => hsc04) (.inl rfl) rfl le_rfl

/-- A recomputation by a delivery changes the run only while it executes. -/
theorem recompute_expected_change (hsc04 : a.module = .sc04) (counts : SC04Counts) (t : TaskId)
    (now : ℕ) : RowChange settings fresh x r a n (a.recompute counts (some t) false now) n := by
  unfold AutomationRun.recompute
  split
  · exact .refl
  · next hcurrent =>
    have hrunning : a.status = .running := by simp_all
    rcases recomputedStatus_cases (a := a) counts false now with h | h
    · exact .kept rfl (h.trans hrunning.symm) rfl rfl rfl
    · exact .ended rfl h (fun _ => hsc04) (.inl rfl) rfl le_rfl

theorem finishUnhandledFailure_change (exc : String) (t : Option TaskId) (now : ℕ) :
    RowChange settings fresh x r a n (a.finishUnhandledFailure exc t now) n := by
  unfold AutomationRun.finishUnhandledFailure
  split
  · exact .ended rfl rfl (by simp) (.inl rfl) rfl le_rfl
  · exact .refl

theorem finishSucceededSc05_change (applied unchanged : ℕ) (t : Option TaskId) (now : ℕ) :
    RowChange settings fresh x r a n (a.finishSucceededSc05 applied unchanged t now) n := by
  unfold AutomationRun.finishSucceededSc05
  split
  · exact .ended rfl rfl (by simp) (.inl rfl) rfl le_rfl
  · exact .refl

theorem finishFailedSc05_change (error : SC05Error) (failed : Bool) (t : Option TaskId) (now : ℕ) :
    RowChange settings fresh x r a n (a.finishFailedSc05 error failed t now) n := by
  unfold AutomationRun.finishFailedSc05
  split
  · refine .ended rfl ?_ ?_ (.inl rfl) rfl le_rfl
    · dsimp only; split_ifs <;> rfl
    · dsimp only; split_ifs <;> simp
  · exact .refl

theorem finishRunSc20_change (retry : Bool) (result : SC20ExecutionResult) (t : Option TaskId)
    (now : ℕ) : RowChange settings fresh x r a n (a.finishRunSc20 retry result t now) n := by
  unfold AutomationRun.finishRunSc20
  split
  · refine .ended rfl ?_ ?_ (.inl rfl) rfl le_rfl
    · dsimp only; split_ifs <;> rfl
    · dsimp only; split_ifs <;> simp
  · exact .refl

theorem recordUnhandledFailureSc20_change (ambiguous : Bool) (exc : String) (t : Option TaskId)
    (now : ℕ) :
    RowChange settings fresh x r a n (a.recordUnhandledFailureSc20 ambiguous exc t now) n := by
  unfold AutomationRun.recordUnhandledFailureSc20
  split
  · refine .ended rfl ?_ ?_ (.inl rfl) rfl le_rfl
    · dsimp only; split_ifs <;> rfl
    · dsimp only; split_ifs <;> simp
  · exact .refl

/-- A write of a worker that holds a token neither starts nor queues a run. -/
theorem workerWrite_change {loaded : AutomationRun} {t : TaskId} (hloaded : loaded.taskId = some t)
    (write : WorkerWrite) (now : ℕ) (hmodule : loaded.module = a.module)
    (hbelongs : write.belongs loaded.module = true) :
    RowChange settings fresh x r a n (write.apply loaded now a) n := by
  cases write with
  | touch => exact touchRun_change _ _
  | sc04IngestionFailures n => exact .kept rfl rfl rfl rfl rfl
  | sc04Recompute counts =>
    have hsc04 : a.module = .sc04 := by
      rw [← hmodule]; simpa [WorkerWrite.belongs] using hbelongs
    simp only [WorkerWrite.apply, hloaded]
    exact recompute_expected_change hsc04 counts t now
  | sc04UnhandledFailure exc => exact finishUnhandledFailure_change _ _ _
  | sc05FinishSucceeded applied unchanged => exact finishSucceededSc05_change _ _ _ _
  | sc05FinishFailed error failed => exact finishFailedSc05_change _ _ _ _
  | sc20FinishRun retry result => exact finishRunSc20_change _ _ _ _
  | sc20UnhandledFailure ambiguous exc => exact recordUnhandledFailureSc20_change _ _ _ _

theorem bindDelivery_cases {t : TaskId} {bound : AutomationRun}
    (h : a.bindDelivery (.uuid t) = some bound) :
    (a.taskId = none ∨ a.taskId = some t) ∧ bound = { a with taskId := some t } := by
  obtain ⟨hmatch, rfl⟩ := AutomationRun.bindDelivery_some h
  cases ht : a.taskId with
  | none => exact ⟨.inl rfl, rfl⟩
  | some t' =>
    obtain rfl : t = t' := by
      simpa [AutomationRun.deliveryMatches, ht, tokenMatches, SuppliedTaskId.normalize] using hmatch
    exact ⟨.inr rfl, rfl⟩

/-- What the start of a delivery does to the row, by what it decides. -/
theorem startDelivery_change (m : Message) (redelivered : Bool) (now : ℕ) (hrun : m.run = r) :
    match a.startDelivery (.uuid m.taskId) redelivered settings now with
    | .ignored => True
    | .closed b => RowChange settings fresh (.deliver m redelivered now) r a n b n
    | .resumed b => RowChange settings fresh (.deliver m redelivered now) r a n b (n + 1)
    | .started b => RowChange settings fresh (.deliver m redelivered now) r a n b n := by
  unfold AutomationRun.startDelivery
  cases hmodule : a.module with
  | sc06 => trivial
  | sc04 =>
    dsimp only
    unfold AutomationRun.startSc04
    cases hbind : a.bindDelivery (.uuid m.taskId) with
    | none => trivial
    | some bound =>
      obtain ⟨hmatched, rfl⟩ := bindDelivery_cases hbind
      dsimp only [AutomationRun.withPublication, AutomationRun.markRunning]
      by_cases hrunning : a.status = .running ∧ redelivered = true
      · rw [if_pos hrunning]
        obtain ⟨hrun', rfl⟩ := hrunning
        by_cases hlimit : settings.reconciliationMaxAttempts ≤ a.reconciliationAttempts
        · rw [if_pos hlimit]
          exact .ended rfl rfl (by simp) (.inr rfl) rfl le_rfl
        · rw [if_neg hlimit]
          exact .redelivered rfl hrun hmatched hmodule hrun' (by omega) rfl hrun' rfl rfl rfl
      · rw [if_neg hrunning]
        by_cases hwaiting : a.status = .pending ∨ a.status = .queued
        · rw [if_pos hwaiting]
          exact .started rfl hrun hmatched (hwaiting.imp_right .inl) rfl rfl rfl
            (by cases a.startedAt <;> rfl) rfl
        · rw [if_neg hwaiting]
          trivial
  | sc05 =>
    dsimp only
    unfold AutomationRun.startSc05
    cases hbind : a.bindDelivery (.uuid m.taskId) with
    | none => trivial
    | some bound =>
      obtain ⟨hmatched, rfl⟩ := bindDelivery_cases hbind
      dsimp only [AutomationRun.withPublication, AutomationRun.markRunning]
      cases hstatus : a.status <;> cases redelivered <;> first
        | trivial
        | exact .ended rfl rfl (by simp [AutomationRun.interruptSc05, AutomationRun.quarantine])
            (.inr rfl) rfl (Nat.le_succ _)
        | exact .started rfl hrun hmatched (.inl hstatus) rfl rfl rfl
            (by cases a.startedAt <;> rfl) rfl
        | exact .started rfl hrun hmatched (.inr (.inl hstatus)) rfl rfl rfl
            (by cases a.startedAt <;> rfl) rfl
  | sc20 =>
    dsimp only
    unfold AutomationRun.startSc20
    cases hbind : a.bindDelivery (.uuid m.taskId) with
    | none => trivial
    | some bound =>
      obtain ⟨hmatched, rfl⟩ := bindDelivery_cases hbind
      dsimp only [AutomationRun.withPublication]
      cases hstatus : a.status <;> cases redelivered <;> first
        | trivial
        | exact .ended rfl rfl (by simp [AutomationRun.interruptSc20, AutomationRun.quarantine])
            (.inr rfl) rfl (Nat.le_succ _)
        | exact .started rfl hrun hmatched (.inl hstatus) rfl rfl rfl rfl rfl
        | exact .started rfl hrun hmatched (.inr (.inl hstatus)) rfl rfl rfl rfl rfl
        | exact .started rfl hrun hmatched (.inr (.inr ⟨hstatus, by simp [hmodule]⟩)) rfl rfl rfl
            rfl rfl

/-- A worker executes a running row under the token of its message. -/
theorem startDelivery_executing {t : TaskId} {redelivered : Bool} {now : ℕ} {b : AutomationRun}
    (h : (a.startDelivery (.uuid t) redelivered settings now).executing? = some b) :
    b.taskId = some t ∧ b.status = .running := by
  unfold AutomationRun.startDelivery AutomationRun.startSc04 AutomationRun.startSc05
    AutomationRun.startSc20 at h
  cases hbind : a.bindDelivery (.uuid t) with
  | none => cases hmodule : a.module <;> simp [hmodule, hbind, DeliveryStart.executing?] at h
  | some bound =>
    obtain ⟨-, rfl⟩ := bindDelivery_cases hbind
    simp only [hbind, AutomationRun.withPublication, AutomationRun.markRunning] at h
    cases hmodule : a.module <;> simp only [hmodule] at h
    · split_ifs at h with hrunning hlimit hwaiting <;>
        simp only [DeliveryStart.executing?, Option.some.injEq, reduceCtorEq] at h
      · exact h ▸ ⟨rfl, hrunning.1⟩
      · exact h ▸ ⟨rfl, rfl⟩
    · split_ifs at h <;>
        simp only [DeliveryStart.executing?, Option.some.injEq, reduceCtorEq] at h
      exact h ▸ ⟨rfl, rfl⟩
    · exact absurd h (by simp [DeliveryStart.executing?])
    · split_ifs at h <;>
        simp only [DeliveryStart.executing?, Option.some.injEq, reduceCtorEq] at h
      exact h ▸ ⟨rfl, rfl⟩

theorem fenceRun_change (now : ℕ) (action reason : String) :
    RowChange settings fresh x r a n (a.fenceRun now action reason) n :=
  .ended rfl rfl (by simp [AutomationRun.fenceRun]) (.inr rfl) rfl le_rfl

theorem quarantine_change (now : ℕ) (reason summary message : String) :
    RowChange settings fresh x r a n (a.quarantine now reason summary message) n :=
  .ended rfl rfl (by simp [AutomationRun.quarantine]) (.inr rfl) rfl (Nat.le_succ _)

/-- A decision of the reconciler: a recovery under the next token, or no recovery. -/
def Reconciled (settings : Settings) (fresh : TaskId) (x : RunStep) (r : RunId) (a : AutomationRun)
    (n : ℕ) (decision : Recovery × AutomationRun) : Prop :=
  decision.1 = .requeued fresh ∧ RowChange settings fresh x r a n decision.2 (n + 1) ∨
    (∀ t, decision.1 ≠ .requeued t) ∧ RowChange settings fresh x r a n decision.2 n

theorem exhaustQueuedRun_change (ambiguous : Bool) (now : ℕ) :
    Reconciled settings fresh x r a n (a.exhaustQueuedRun ambiguous now) := by
  unfold AutomationRun.exhaustQueuedRun
  split
  · exact .inr ⟨by simp, fenceRun_change _ _ _⟩
  · split
    · exact .inr ⟨by simp, quarantine_change _ _ _ _⟩
    · exact .inr ⟨by simp, .ended rfl rfl (by simp [AutomationRun.exhausted, AutomationRun.fenceRun])
        (.inr rfl) rfl le_rfl⟩

/-- What the reconciler does to the row, by what it decides. -/
theorem reconcileOne_change (ambiguous hasNewItems : Bool) (now : ℕ) :
    Reconciled settings fresh x r a n
      (a.reconcileOne ambiguous settings now hasNewItems fresh) := by
  unfold AutomationRun.reconcileOne
  split
  · exact .inr ⟨by simp, .refl⟩
  · next hstale =>
    cases hstatus : a.status with
    | pending =>
      dsimp only
      split
      · exact .inl ⟨rfl, .recovered (.inl hstatus) rfl rfl rfl rfl rfl⟩
      · exact .inr ⟨by simp, .ended rfl rfl (by simp [AutomationRun.failPendingSc04]) (.inr rfl) rfl
          le_rfl⟩
    | queued =>
      dsimp only
      split
      · exact exhaustQueuedRun_change ambiguous now
      · exact .inl ⟨rfl, .recovered (.inr ⟨by omega, .inl hstatus⟩) rfl rfl rfl rfl rfl⟩
    | running =>
      dsimp only
      split
      · exact .inr ⟨by simp, quarantine_change _ _ _ _⟩
      · exact .inr ⟨by simp, quarantine_change _ _ _ _⟩
      · next hsc20 hsc05 =>
        split
        · exact .inr ⟨by simp, fenceRun_change _ _ _⟩
        · exact .inl ⟨rfl, .recovered (.inr ⟨by omega, .inr ⟨hstatus, hsc05, hsc20⟩⟩) rfl rfl rfl
            rfl rfl⟩
    | awaitingReview | succeeded | succeededWithWarnings | partiallyFailed | failed | cancelled =>
      -- these statuses are never stale
      cases hmodule : a.module <;>
        simp [AutomationRun.isStillStale, hstatus, hmodule] at hstale

end Rows

end SheepContabil
