import SheepContabil.Spec.Run

/-!
# Publication and recovery of a run

The row-level part of `dispatching.py` and `reconciliation.py`: what each locked
transaction writes to the run. The broker call between the two transactions of
`dispatch_run`, and the tables of the modules, are in the modules' own systems.
-/

namespace SheepContabil

/-- The `AUTOMATION_RECONCILIATION_*` settings with their defaults. -/
structure Settings where
  queuedStaleAfterSeconds : ℕ := 1800
  runningStaleAfterSeconds : ℕ := 1800
  reconciliationMaxAttempts : ℕ := 1
  deriving DecidableEq, Repr

/-- What the first transaction of `dispatch_run` decides. -/
inductive DispatchStart where
  | refused
  | existing (taskId : TaskId)
  | started (taskId : TaskId)
  deriving DecidableEq, Repr

namespace AutomationRun

/-- The first transaction of `dispatch_run`; `fresh` is its `uuid4()`. -/
def dispatchStart (run : AutomationRun) (now : ℕ) (fresh : TaskId) :
    DispatchStart × AutomationRun :=
  if run.status != .queued then (.refused, run)
  else if run.brokerPublishedAt.isSome || run.dispatchStartedAt.isSome then
    match run.taskId with
    | none => (.refused, run)
    | some t => (.existing t, run)
  else
    let t := run.taskId.getD fresh
    (.started t, { run with
      taskId := some t, queuedAt := some now, dispatchStartedAt := some now,
      heartbeatAt := none, finishedAt := none })

/-- The `failure_summary` of the callers of `dispatch_run`; SC-05 asks for `PARTIALLY_FAILED` when it
dispatches a resumed operation. -/
def dispatchFailureSummary (run : AutomationRun) (status : RunStatus) : String :=
  match run.module, run.trigger with
  | .sc04, .manual => "Não foi possível adicionar a triagem ao processamento."
  | .sc04, .scheduled => "Não foi possível publicar a triagem diária."
  | .sc20, .manual => "Não foi possível adicionar a execução ao processamento."
  | .sc20, .scheduled => "Não foi possível publicar a execução mensal."
  | _, _ =>
    if status == .partiallyFailed then
      "A retomada não entrou na fila; o estado residual foi preservado para nova tentativa."
    else "Não foi possível adicionar o robô ao processamento."

/-- `_record_dispatch_failure`. -/
def recordDispatchFailure (run : AutomationRun) (taskId : TaskId) (status : RunStatus)
    (exc : String) (now : ℕ) : AutomationRun :=
  if run.taskId == some taskId && run.status == .queued then
    { run with
      status := status, summary := run.dispatchFailureSummary status
      errorMessage := "O serviço de execução está temporariamente indisponível."
      metadata := { run.metadata with dispatchError := some exc }
      finishedAt := some now }
  else run

/-- `_record_dispatch_success`. -/
def recordDispatchSuccess (run : AutomationRun) (taskId : TaskId) (now : ℕ) : AutomationRun :=
  if run.taskId == some taskId then
    { run with brokerPublishedAt := run.brokerPublishedAt.or (some now) }
  else run

/-- `_is_still_stale`. -/
def isStillStale (run : AutomationRun) (queuedCutoff runningCutoff : ℤ) : Bool :=
  match run.module with
  | .sc06 => false
  | module =>
    match run.status with
    | .pending => module == .sc04 && (run.createdAt : ℤ) ≤ queuedCutoff
    | .queued =>
      run.brokerPublishedAt.isNone &&
        (((run.dispatchStartedAt.or run.queuedAt).getD run.createdAt : ℕ) : ℤ) ≤ queuedCutoff
    | .running => (((run.heartbeatAt.or run.startedAt).getD run.createdAt : ℕ) : ℤ) ≤ runningCutoff
    | _ => false

/-- The `summary` that `_claim_recovery` writes. -/
def recoverySummary : ModuleCode → String
  | .sc04 => "Triagem órfã recuperada e adicionada novamente à fila."
  | .sc05 => "Operação RPA órfã recuperada e adicionada novamente à fila."
  | _ => "Verificação órfã recuperada e adicionada novamente à fila."

/-- `_claim_recovery`; `fresh` is its `uuid4()`. -/
def claimRecovery (run : AutomationRun) (now : ℕ) (fresh : TaskId) (reason : String) :
    AutomationRun :=
  { run with
    status := .queued, taskId := some fresh, queuedAt := some now, dispatchStartedAt := some now,
    brokerPublishedAt := none, heartbeatAt := none, finishedAt := none, errorMessage := ""
    summary := recoverySummary run.module
    reconciliationAttempts := run.reconciliationAttempts + 1
    metadata := run.metadata.withReconciliationEvent
      { action := "requeued", reason := reason, at_ := now, previousTaskId := run.taskId
        attempt := some (run.reconciliationAttempts + 1), taskId := some fresh } }

/-- `_fence_run`. -/
def fenceRun (run : AutomationRun) (now : ℕ) (action reason : String) : AutomationRun :=
  { run with
    taskId := none, status := .failed
    summary := "A execução órfã excedeu o limite de recuperação automática."
    errorMessage := "Revise os itens afetados antes de iniciar uma nova execução."
    metadata := run.metadata.withReconciliationEvent
      { action := action, reason := reason, at_ := now, previousTaskId := run.taskId }
    finishedAt := some now, heartbeatAt := some now }

/-- What a quarantine writes to the run. -/
def quarantine (run : AutomationRun) (now : ℕ) (reason summary message : String) : AutomationRun :=
  { run with
    reconciliationAttempts := run.reconciliationAttempts + 1
    taskId := none, status := .partiallyFailed, summary := summary, errorMessage := message
    metadata :=
      { run.metadata.withReconciliationEvent
          { action := "quarantined", reason := reason, at_ := now, previousTaskId := run.taskId
            attempt := some (run.reconciliationAttempts + 1) } with
        reconciliationRequired := true }
    finishedAt := some now, heartbeatAt := some now }

/-- The run part of `_quarantine_sc05`. -/
def quarantineSc05 (run : AutomationRun) (now : ℕ) (reason : String) : AutomationRun :=
  run.quarantine now reason (run.interruptedSummary "o estado externo exige retomada manual.")
    "Reconcilie os três portais antes de retomar a mesma execução."

/-- The run part of `_quarantine_sc20`. -/
def quarantineSc20 (run : AutomationRun) (now : ℕ) (reason : String) : AutomationRun :=
  run.quarantine now reason
    ("A verificação ficou sem confirmação durante uma comunicação; " ++
      "nenhum reenvio automático foi realizado.")
    "Confirme o histórico do provedor antes de autorizar uma nova tentativa."

/-- The end of `_exhaust_queued_run` behind `_fence_run`. -/
def exhausted (run : AutomationRun) (now : ℕ) : AutomationRun :=
  { run.fenceRun now "failed" "stale_queue_recovery_exhausted" with
    summary := "A execução não foi consumida após a tentativa automática de recuperação."
    errorMessage := "Verifique o worker e inicie uma nova execução." }

/-- A delivery of SC-05 that comes again while the operation runs. -/
def interruptSc05 (run : AutomationRun) (now : ℕ) : AutomationRun :=
  run.quarantine now "broker_redelivery_with_ambiguous_external_state"
    (run.interruptedSummary "nenhuma ação externa foi repetida automaticamente.")
    "Reconcilie os três portais antes de retomar a mesma execução."

/-- A delivery of SC-20 that comes again while the run runs. -/
def interruptSc20 (run : AutomationRun) (now : ℕ) : AutomationRun :=
  run.quarantine now "broker_redelivery_with_ambiguous_delivery"
    ("A verificação foi interrompida durante uma comunicação; " ++
      "nenhum reenvio automático foi realizado.")
    "Confirme o histórico do provedor antes de autorizar uma nova tentativa."

/-- `_record_recovery_publish_failure`. -/
def recordRecoveryPublishFailure (run : AutomationRun) (taskId : TaskId) (exc : String) (now : ℕ) :
    AutomationRun :=
  if run.taskId == some taskId && run.status == .queued then
    { run with
      errorMessage := "A recuperação foi preparada, mas o broker não confirmou a publicação."
      metadata := run.metadata.withReconciliationEvent
        { action := "publish_failed", reason := "broker_error", at_ := now
          previousTaskId := some taskId, technicalError := some exc } }
  else run

/-- `_record_inspection_failure`. -/
def recordInspectionFailure (run : AutomationRun) (exc : String) (now : ℕ) : AutomationRun :=
  { run with
    metadata := run.metadata.withReconciliationEvent
      { action := "inspection_failed", reason := "inconsistent_run_state", at_ := now
        previousTaskId := run.taskId, technicalError := some exc } }

end AutomationRun

end SheepContabil
