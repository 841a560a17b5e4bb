import SheepContabil.Spec.Dispatching
import SheepContabil.Spec.Sc05Model
import SheepContabil.Spec.Sc20Model

/-!
# The row of a run: deliveries, ends and reconciliation

What `_start_run`, `recompute_sc04_run` and the other transactions of
`sc04/services.py` write to the row of a run, and the row part of the same
transactions of SC-05 and SC-20. What a transaction reads from other tables is an
argument: the counts of the documents, whether new items exist, whether the state
outside is ambiguous.

* `AutomationRun.startDelivery`: the start of a delivery, for each module.
* `AutomationRun.recompute`: `recompute_sc04_run`.
* `AutomationRun.reconcileOne`: `_reconcile_one`, for each module.
-/

namespace SheepContabil

/-- What the start of a delivery does to the locked run. An ignored delivery saves nothing; a
closed run is saved but not executed. -/
inductive DeliveryStart where
  | ignored
  | closed (run : AutomationRun)
  | resumed (run : AutomationRun)
  | started (run : AutomationRun)
  deriving DecidableEq, Repr

/-- The saved row, if any. -/
def DeliveryStart.saved? : DeliveryStart → Option AutomationRun
  | ignored => none
  | closed run | resumed run | started run => some run

/-- The row in the memory of a worker that executes. -/
def DeliveryStart.executing? : DeliveryStart → Option AutomationRun
  | resumed run | started run => some run
  | _ => none

/-- What `recompute_sc04_run` counts in the items and the documents of a run. -/
structure SC04Counts where
  items : ℕ
  duplicates : ℕ
  newItems : ℕ
  routed : ℕ
  awaitingReview : ℕ
  inProgress : ℕ
  duplicateFailed : ℕ
  newFailed : ℕ
  deriving DecidableEq, Repr

namespace AutomationRun

/-- `dispatch_started_at` and `broker_published_at` at the start of a delivery. -/
def withPublication (run : AutomationRun) (now : ℕ) : AutomationRun :=
  { run with
    dispatchStartedAt := (run.dispatchStartedAt.or run.queuedAt).or (some now)
    brokerPublishedAt := run.brokerPublishedAt.or (some now) }

/-- The last lines of `_start_run` of SC-04 and of `_prepare_operation`. -/
def markRunning (run : AutomationRun) (now : ℕ) : AutomationRun :=
  { run with
    status := .running, startedAt := run.startedAt.or (some now), finishedAt := none
    errorMessage := "", heartbeatAt := some now }

/-- The `summary` of a scheduled run that is put back on the queue. -/
def requeuedSummary : ModuleCode → String
  | .sc04 => "Triagem diária adicionada novamente à fila."
  | _ => "Execução mensal adicionada novamente à fila."

section Deliveries

variable (run : AutomationRun) (taskId : SuppliedTaskId) (resumeInterrupted : Bool)
  (settings : Settings) (now : ℕ)

/-- `_start_run` of SC-04. -/
def startSc04 : DeliveryStart :=
  match run.bindDelivery taskId with
  | none => .ignored
  | some bound =>
    let run := bound.withPublication now
    if run.status = .running ∧ resumeInterrupted = true then
      if settings.reconciliationMaxAttempts ≤ run.reconciliationAttempts then
        .closed { run with
          taskId := none, status := .failed
          summary := "A triagem foi interrompida repetidamente e não será retomada automaticamente."
          errorMessage := "Revise os documentos com falha antes de iniciar uma nova execução."
          metadata := run.metadata.withReconciliationEvent
            { action := "failed", reason := "broker_redelivery_exhausted", at_ := now
              previousTaskId := run.taskId }
          finishedAt := some now, heartbeatAt := some now }
      else
        .resumed { run with
          reconciliationAttempts := run.reconciliationAttempts + 1, heartbeatAt := some now
          metadata := run.metadata.withReconciliationEvent
            { action := "resumed", reason := "broker_redelivery", at_ := now
              previousTaskId := run.taskId, attempt := some (run.reconciliationAttempts + 1) } }
    else if run.status = .pending ∨ run.status = .queued then .started (run.markRunning now)
    else .ignored

/-- The run part of `_prepare_operation` of SC-05. -/
def startSc05 : DeliveryStart :=
  match run.bindDelivery taskId with
  | none => .ignored
  | some bound =>
    if !bound.status.isActive then .ignored
    else
      let run := bound.withPublication now
      if run.status == .running then
        if resumeInterrupted then
          .closed (run.interruptSc05 now)
        else .ignored
      else .started { run.markRunning now with summary := run.runningSummary }

/-- The run part of `_start_run` of SC-20. -/
def startSc20 : DeliveryStart :=
  match run.bindDelivery taskId with
  | none => .ignored
  | some bound =>
    let run := bound.withPublication now
    if run.status = .running then
      if resumeInterrupted then
        .closed (run.interruptSc20 now)
      else .ignored
    else if run.status.isTerminal then .ignored
    else .started { run with
      status := .running, startedAt := some now, errorMessage := "", heartbeatAt := some now }

/-- The task of the module of the run starts its execution. -/
def startDelivery : DeliveryStart :=
  match run.module with
  | .sc04 => run.startSc04 taskId resumeInterrupted settings now
  | .sc05 => run.startSc05 taskId resumeInterrupted now
  | .sc20 => run.startSc20 taskId resumeInterrupted now
  | .sc06 => .ignored

end Deliveries

section Recompute

variable (run : AutomationRun) (counts : SC04Counts)

/-- `ingestion_failures` of `recompute_sc04_run`. -/
def ingestionFailures : ℕ := run.metadata.ingestionFailures.getD 0

/-- The `result` of `recompute_sc04_run`. -/
def recomputedResult : SC04ExecutionResult where
  received := counts.items + run.ingestionFailures
  routed := counts.routed
  awaitingReview := counts.awaitingReview
  duplicates := counts.duplicates
  failed := counts.newFailed + run.ingestionFailures + counts.duplicateFailed

/-- The status and the end that `recompute_sc04_run` decides. -/
def recomputedStatus (preserveTerminalStatus : Bool) (now : ℕ) : RunStatus × Option ℕ :=
  let failed := (run.recomputedResult counts).failed
  if preserveTerminalStatus && run.status.isTerminal then
    (run.status, run.finishedAt.or (some now))
  else if counts.awaitingReview ≠ 0 then (.awaitingReview, none)
  else if counts.inProgress ≠ 0 then (.running, none)
  else if failed ≠ 0 ∧ counts.routed = 0 ∧ counts.newItems + run.ingestionFailures ≤ failed then
    (.failed, some now)
  else if failed ≠ 0 then (.succeededWithWarnings, some now)
  else (.succeeded, some now)

/-- `recompute_sc04_run`. -/
def recompute (expectedTaskId : Option TaskId) (preserveTerminalStatus : Bool) (now : ℕ) :
    AutomationRun :=
  if expectedTaskId.isSome && (run.status != .running || run.taskId != expectedTaskId) then run
  else
    { run with
      status := (run.recomputedStatus counts preserveTerminalStatus now).1
      summary := (run.recomputedResult counts).summary
      errorMessage :=
        if (run.recomputedResult counts).failed ≠ 0 then
          "Há documentos que exigem correção operacional ou nova tentativa."
        else ""
      metadata := { run.metadata with
        ingestionFailures := some run.ingestionFailures
        result := some (run.recomputedResult counts) }
      finishedAt := (run.recomputedStatus counts preserveTerminalStatus now).2
      heartbeatAt := some now }

end Recompute

/-- The second transaction of `create_manual_sc04_run`; `fresh` is its `uuid4()`. -/
def queueManualSc04 (run : AutomationRun) (now : ℕ) (fresh : TaskId) : AutomationRun :=
  { run with
    status := .queued, summary := "Documento validado e adicionado à fila."
    metadata := { received := some 1 }, taskId := some fresh, queuedAt := some now }

/-- `_fail_run_before_processing`. -/
def failBeforeProcessing (run : AutomationRun) (exc safeMessage : String) (now : ℕ) :
    AutomationRun :=
  { run with
    status := .failed, summary := "O upload não pôde ser preparado para processamento."
    errorMessage := safeMessage, metadata := { technicalError := some exc }
    finishedAt := some now }

/-- `_finish_unhandled_failure`. -/
def finishUnhandledFailure (run : AutomationRun) (exc : String) (expectedTaskId : Option TaskId)
    (now : ℕ) : AutomationRun :=
  if run.isLockedBy expectedTaskId then
    { run with
      status := .failed, summary := "A triagem não pôde ser concluída."
      errorMessage := "O pipeline documental encontrou uma falha operacional."
      metadata := { run.metadata with technicalError := some exc }
      finishedAt := some now, heartbeatAt := some now }
  else run

/-- The `update` of `execute_sc04` after the inbox: the metadata that was loaded, and the failures
of the ingestion. Nothing is locked or compared. -/
def saveIngestionFailures (run loaded : AutomationRun) (ingestionFailures : ℕ) : AutomationRun :=
  { run with
    metadata := { loaded.metadata with ingestionFailures := some ingestionFailures } }

/-- The run part of `_finish_succeeded` of SC-05, behind its guard. -/
def finishSucceededSc05 (run : AutomationRun) (applied unchanged : ℕ)
    (expectedTaskId : Option TaskId) (now : ℕ) : AutomationRun :=
  if run.deliveryIsCurrent expectedTaskId then
    { run with
      status := .succeeded, summary := run.succeededSummary applied unchanged, errorMessage := "", finishedAt := some now, heartbeatAt := some now }
  else run

/-- The run part of `_finish_failed` of SC-05, behind its guard. -/
def finishFailedSc05 (run : AutomationRun) (error : SC05Error) (compensationFailed : Bool)
    (expectedTaskId : Option TaskId) (now : ℕ) : AutomationRun :=
  if run.deliveryIsCurrent expectedTaskId then
    { run with
      status :=
        if error.code == .taskMarkerWithoutSnapshot then .failed
        else if compensationFailed then .partiallyFailed else .failed
      summary := run.failedSummary (error.code == .taskMarkerWithoutSnapshot) compensationFailed
      errorMessage := error.safeMessage, finishedAt := some now, heartbeatAt := some now }
  else run

/-- The run part of `_finish_run` of SC-20, behind its guard. -/
def finishRunSc20 (run : AutomationRun) (retry : Bool) (result : SC20ExecutionResult)
    (expectedTaskId : Option TaskId) (now : ℕ) : AutomationRun :=
  if run.isLockedBy expectedTaskId then
    { run with
      status := if result.failed ≠ 0 then .succeededWithWarnings else .succeeded
      summary := result.summary retry
      errorMessage := if result.failed ≠ 0 then
        "Há avisos com falha disponíveis para uma nova tentativa." else ""
      finishedAt := some now, heartbeatAt := some now }
  else run

/-- The run part of `_record_unhandled_failure` of SC-20, behind its guard. -/
def recordUnhandledFailureSc20 (run : AutomationRun) (ambiguous : Bool) (exc : String)
    (expectedTaskId : Option TaskId) (now : ℕ) : AutomationRun :=
  if run.isLockedBy expectedTaskId then
    { run with
      status := if ambiguous then .partiallyFailed else .failed
      summary := unhandledSummarySc20 ambiguous
      errorMessage := if ambiguous then
          "Confirme o histórico do provedor antes de autorizar uma nova tentativa."
        else "Não foi possível concluir a verificação de certificados."
      metadata := { run.metadata with
        technicalError := some exc, reconciliationRequired := ambiguous }
      finishedAt := some now, heartbeatAt := some now }
  else run

/-- The run part of `resume_sc05_run`; `fresh` is its `uuid4()`. -/
def resumeSc05 (run : AutomationRun) (sequence : ℕ) (now : ℕ) (fresh : TaskId) : AutomationRun :=
  { run with
    status := .queued, summary := run.resumedSummary, errorMessage := "", finishedAt := none,
    taskId := some fresh, queuedAt := some now, dispatchStartedAt := none, brokerPublishedAt := none,
    heartbeatAt := none, reconciliationAttempts := 0
    metadata := { run.metadata with
      sc05ResumeHistory := run.metadata.sc05ResumeHistory ++
        [{ sequence := sequence, requestedAt := now, previousFinishedAt := run.finishedAt
           previousSummary := run.summary, previousError := run.errorMessage }] } }

/-- What `prepare_scheduled_sc04_run` and `prepare_scheduled_sc20_run` write to a run whose
publication failed; `fresh` is their `uuid4()`. -/
def requeueScheduled (run : AutomationRun) (now : ℕ) (fresh : TaskId) : AutomationRun :=
  { run with
    status := .queued, summary := requeuedSummary run.module, errorMessage := "", metadata := {}
    finishedAt := none, taskId := some fresh, queuedAt := some now, dispatchStartedAt := none
    brokerPublishedAt := none, heartbeatAt := none, reconciliationAttempts := 0 }

/-- `_fail_pending_sc04`. -/
def failPendingSc04 (run : AutomationRun) (now : ℕ) : AutomationRun :=
  { run with
    status := .failed, taskId := none
    summary := "O upload ficou incompleto antes de chegar à fila."
    errorMessage := "Envie o documento novamente; nenhum processamento automático foi iniciado."
    metadata := run.metadata.withReconciliationEvent
      { action := "failed", reason := "stale_pending_upload", at_ := now
        previousTaskId := run.taskId }
    finishedAt := some now, heartbeatAt := some now }

/-- `_fail_empty_recovered_sc04`. -/
def failEmptyRecoveredSc04 (run : AutomationRun) (now : ℕ) : AutomationRun :=
  if run.status = .succeeded then
    { run with
      status := .failed
      summary := "A triagem órfã foi encerrada sem itens processados."
      errorMessage := "Inicie uma nova triagem para processar a origem novamente."
      finishedAt := some now, heartbeatAt := some now }
  else run

section Reconciler

variable (run : AutomationRun) (ambiguous : Bool) (settings : Settings) (now : ℕ)

open SC05Operation (Recovery)

/-- `_exhaust_queued_run`. -/
def exhaustQueuedRun : Recovery × AutomationRun :=
  match run.module with
  | .sc04 => (.failed, run.fenceRun now "failed" "stale_queue_recovery_exhausted")
  | module =>
    if module == .sc05 && ambiguous then
      (.quarantined, run.quarantineSc05 now "stale_queue_recovery_exhausted")
    else (.failed, run.exhausted now)

/-- `_reconcile_one`; `fresh` is the `uuid4()` of a recovery. -/
def reconcileOne (hasNewItems : Bool) (fresh : TaskId) : Recovery × AutomationRun :=
  if !run.isStillStale ((now : ℤ) - settings.queuedStaleAfterSeconds)
      ((now : ℤ) - settings.runningStaleAfterSeconds) then (.skipped, run)
  else match run.status with
    | .pending =>
      if hasNewItems then
        (.requeued fresh, run.claimRecovery now fresh "stale_pending_after_ingestion")
      else (.failed, run.failPendingSc04 now)
    | .queued =>
      if settings.reconciliationMaxAttempts ≤ run.reconciliationAttempts then
        run.exhaustQueuedRun ambiguous now
      else (.requeued fresh, run.claimRecovery now fresh "stale_queue")
    | _ =>
      match run.module with
      | .sc20 =>
        (.quarantined, run.quarantineSc20 now "stale_running_ambiguous_delivery")
      | .sc05 =>
        (.quarantined, run.quarantineSc05 now "stale_running_ambiguous_external_state")
      | _ =>
        if settings.reconciliationMaxAttempts ≤ run.reconciliationAttempts then
          (.failed, run.fenceRun now "failed" "stale_running_recovery_exhausted")
        else (.requeued fresh, run.claimRecovery now fresh "stale_running")

end Reconciler

end AutomationRun

section Agreement

/-! The rows above are the rows of the operations of SC-05 and of the runs of SC-20. -/

theorem prepare_row (op : SC05Operation) (taskId : SuppliedTaskId) (resumeInterrupted : Bool)
    (now : ℕ) :
    op.run.startSc05 taskId resumeInterrupted now =
      match op.prepare taskId resumeInterrupted now with
      | .ignored => .ignored
      | .quarantined op' => .closed op'.run
      | .execute op' => .started op'.run := by
  unfold AutomationRun.startSc05 SC05Operation.prepare
  cases op.run.bindDelivery taskId with
  | none => rfl
  | some run =>
    dsimp only
    split
    · rfl
    · by_cases hrunning : run.status = .running <;> cases resumeInterrupted <;>
        simp [hrunning, AutomationRun.withPublication, AutomationRun.markRunning]

theorem resume_row (op : SC05Operation) (now : ℕ) (fresh : TaskId) :
    (op.resume now fresh).run = op.run.resumeSc05 (op.resumeCount + 1) now fresh := rfl

theorem reconcileOne_row (op : SC05Operation) (client : SC05Client) (settings : Settings)
    (now : ℕ) (fresh : TaskId) (hmodule : op.run.module = .sc05) (hasNewItems : Bool) :
    op.run.reconcileOne (op.queueHasAmbiguousState client) settings now hasNewItems fresh =
      ((op.reconcileOne client settings now fresh).1,
        (op.reconcileOne client settings now fresh).2.1.run) := by
  unfold AutomationRun.reconcileOne SC05Operation.reconcileOne AutomationRun.exhaustQueuedRun
  split
  · rfl
  · next hstale =>
    cases hstatus : op.run.status <;> simp [AutomationRun.isStillStale, hmodule, hstatus] at hstale
    · dsimp only
      split
      · cases op.queueHasAmbiguousState client <;> simp [hmodule]
      · rfl
    · simp [hmodule]

theorem finishSucceeded_row (op : SC05Operation) (now : ℕ) :
    op.run.finishSucceededSc05 (op.stepsIn .applied) (op.stepsIn .unchanged) op.run.taskId now =
      if op.run.status = .running then (op.finishSucceeded now).run else op.run := by
  simp [AutomationRun.finishSucceededSc05, AutomationRun.deliveryIsCurrent,
    SC05Operation.finishSucceeded]

theorem finishFailed_row (op : SC05Operation) (error : SC05Error) (compensationFailed : Bool)
    (now : ℕ) :
    op.run.finishFailedSc05 error compensationFailed op.run.taskId now =
      if op.run.status = .running then (op.finishFailed error compensationFailed now).run
      else op.run := by
  simp [AutomationRun.finishFailedSc05, AutomationRun.deliveryIsCurrent, SC05Operation.finishFailed]

theorem start_row (r : SC20Run) (taskId : SuppliedTaskId) (resumeInterrupted : Bool) (now : ℕ) :
    r.run.startSc20 taskId resumeInterrupted now =
      match r.start taskId resumeInterrupted now with
      | .quarantined r' => .closed r'.run
      | .started r' => .started r'.run
      | _ => .ignored := by
  unfold AutomationRun.startSc20 SC20Run.start AutomationRun.withPublication
  cases r.run.bindDelivery taskId with
  | none => rfl
  | some run =>
    dsimp only
    split
    · cases resumeInterrupted <;> rfl
    · split <;> rfl

theorem requeue_row (r : SC20Run) (hmodule : r.run.module = .sc20) (now : ℕ) (fresh : TaskId) :
    (r.requeue now fresh).run = r.run.requeueScheduled now fresh := by
  simp [SC20Run.requeue, AutomationRun.requeueScheduled, AutomationRun.requeuedSummary, hmodule]

theorem reconcileSc20_row (run : AutomationRun) (settings : Settings) (now : ℕ) (fresh : TaskId)
    (hmodule : run.module = .sc20) (ambiguous hasNewItems : Bool) :
    (run.reconcileOne ambiguous settings now hasNewItems fresh).2 =
      run.reconcileSc20 settings now fresh := by
  unfold AutomationRun.reconcileOne AutomationRun.reconcileSc20 AutomationRun.exhaustQueuedRun
  cases hstale : run.isStillStale ((now : ℤ) - settings.queuedStaleAfterSeconds)
    ((now : ℤ) - settings.runningStaleAfterSeconds)
  · rfl
  · cases hstatus : run.status <;> simp [AutomationRun.isStillStale, hmodule, hstatus] at hstale
    · simp only [hmodule]
      by_cases hattempts : settings.reconciliationMaxAttempts ≤ run.reconciliationAttempts <;>
        simp [hattempts]
    · simp [hmodule]

end Agreement

end SheepContabil
