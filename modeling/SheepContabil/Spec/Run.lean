import Mathlib.Data.Int.Notation
import Mathlib.Tactic.Common

/-!
# The persisted run and its delivery token

`AutomationRun` is the row every module shares; `task_id` is the token of the
one delivery that owns it. The functions of `run_tracking.py` decide whether a
delivery still owns the run. Times are natural numbers.
-/

namespace SheepContabil

abbrev TaskId := ℕ
abbrev RunId := ℕ

inductive ModuleCode where
  | sc04 | sc05 | sc06 | sc20
  deriving DecidableEq, Repr

inductive RunTrigger where
  | manual | scheduled
  deriving DecidableEq, Repr

inductive RunStatus where
  | pending | queued | running | awaitingReview | succeeded | succeededWithWarnings
  | partiallyFailed | failed | cancelled
  deriving DecidableEq, Repr

/-- One entry of `metadata["reconciliation_history"]`. -/
structure ReconciliationEvent where
  action : String
  reason : String
  at_ : ℕ
  previousTaskId : Option TaskId
  attempt : Option ℕ := none
  taskId : Option TaskId := none
  technicalError : Option String := none
  deriving DecidableEq, Repr

/-- One entry of `metadata["sc05_resume_history"]`. -/
structure ResumeEvent where
  sequence : ℕ
  requestedAt : ℕ
  previousFinishedAt : Option ℕ
  previousSummary : String
  previousError : String
  deriving DecidableEq, Repr

structure SC04ExecutionResult where
  received : ℕ
  routed : ℕ
  awaitingReview : ℕ
  duplicates : ℕ
  failed : ℕ
  deriving DecidableEq, Repr

/-- The `summary` of `recompute_sc04_run`. -/
def SC04ExecutionResult.summary (r : SC04ExecutionResult) : String :=
  toString r.received ++ " item(ns) recebido(s); " ++ toString r.routed ++ " encaminhado(s); " ++
    toString r.awaitingReview ++ " em revisão; " ++ toString r.duplicates ++ " duplicado(s); " ++
    toString r.failed ++ " falha(s)."

/-- The keys of the JSON column `metadata` that the program writes or reads. -/
structure RunMetadata where
  received : Option ℕ := none
  ingestionFailures : Option ℕ := none
  result : Option SC04ExecutionResult := none
  dispatchError : Option String := none
  technicalError : Option String := none
  reconciliationHistory : List ReconciliationEvent := []
  reconciliationRequired : Bool := false
  sc05ResumeHistory : List ResumeEvent := []
  deriving DecidableEq, Repr

/-- What the texts of a run of SC-05 show of its operation: `get_action_display()` and the name of the
client, which no step changes. -/
structure OperationDisplay where
  action : String := ""
  client : String := ""
  deriving DecidableEq, Repr

structure AutomationRun where
  module : ModuleCode
  trigger : RunTrigger := .manual
  status : RunStatus := .pending
  taskId : Option TaskId := none
  summary : String := ""
  operation : OperationDisplay := {}
  errorMessage : String := ""
  metadata : RunMetadata := {}
  queuedAt : Option ℕ := none
  dispatchStartedAt : Option ℕ := none
  brokerPublishedAt : Option ℕ := none
  heartbeatAt : Option ℕ := none
  reconciliationAttempts : ℕ := 0
  createdAt : ℕ
  startedAt : Option ℕ := none
  finishedAt : Option ℕ := none
  deriving DecidableEq, Repr

/-- `ACTIVE_RUN_STATUSES`. -/
def RunStatus.isActive : RunStatus → Bool
  | .pending | .queued | .running => true
  | _ => false

/-- The token a message carries: none, a string that is no UUID, or a UUID. -/
inductive SuppliedTaskId where
  | absent
  | invalid
  | uuid (t : TaskId)
  deriving DecidableEq, Repr

namespace SuppliedTaskId

def ofOption : Option TaskId → SuppliedTaskId
  | none => absent
  | some t => uuid t

/-- `normalize_task_id`. -/
def normalize : SuppliedTaskId → Option TaskId
  | uuid t => some t
  | _ => none

end SuppliedTaskId

/-- `delivery_matches`, on the token of the run. -/
def tokenMatches (taskId : Option TaskId) : SuppliedTaskId → Bool
  | .absent => true
  | supplied =>
    match taskId with
    | none => supplied.normalize.isSome
    | some t => supplied.normalize == some t

namespace AutomationRun

/-- The `summary` of a run that an upload creates. -/
def uploadSummary : String := "Upload recebido; preparando ingestão segura."

/-- `delivery_matches`. -/
def deliveryMatches (run : AutomationRun) (supplied : SuppliedTaskId) : Bool :=
  tokenMatches run.taskId supplied

/-- `bind_delivery`: the run bound to the delivery, or `none` when it is another's. -/
def bindDelivery (run : AutomationRun) (supplied : SuppliedTaskId) : Option AutomationRun :=
  if run.deliveryMatches supplied then
    some { run with taskId := run.taskId.or supplied.normalize }
  else none

/-- `delivery_is_current`. -/
def deliveryIsCurrent (run : AutomationRun) (taskId : Option TaskId) : Bool :=
  run.status == .running && run.taskId == taskId

/-- `touch_run`. -/
def touchRun (run : AutomationRun) (taskId : Option TaskId) (now : ℕ) : AutomationRun :=
  if run.deliveryIsCurrent taskId then { run with heartbeatAt := some now } else run

/-- The `summary` of a run that is created in the queue. -/
def queuedSummary (module : ModuleCode) (trigger : RunTrigger) (operation : OperationDisplay) :
    String :=
  match module, trigger with
  | .sc04, .manual => "Caixa sintética adicionada à fila de triagem."
  | .sc04, .scheduled => "Triagem diária adicionada à fila."
  | .sc20, .manual => "Execução adicionada à fila."
  | .sc20, .scheduled => "Execução mensal adicionada à fila."
  | _, _ => operation.action ++ " " ++ operation.client ++ ": operação aguardando o worker RPA."

/-- The `summary` of a run of SC-05 that is interrupted. -/
def interruptedSummary (run : AutomationRun) (rest : String) : String :=
  run.operation.action ++ " interrompido para " ++ run.operation.client ++ "; " ++ rest

/-- The `summary` that `_prepare_operation` of SC-05 writes. -/
def runningSummary (run : AutomationRun) : String :=
  run.operation.action ++ " em andamento nos sistemas simulados."

/-- The `summary` that `resume_sc05_run` writes. -/
def resumedSummary (run : AutomationRun) : String :=
  "Retomada de " ++ run.operation.action.toLower ++ " aguardando o worker RPA."

/-- The `summary` that `_finish_succeeded` of SC-05 writes. -/
def succeededSummary (run : AutomationRun) (applied unchanged : ℕ) : String :=
  run.operation.action ++ " concluído para " ++ run.operation.client ++ ": " ++ toString applied ++
    " sistema(s) alterado(s) e " ++ toString unchanged ++ " já conforme."

/-- The `summary` that `_finish_failed` of SC-05 writes. -/
def failedSummary (run : AutomationRun) (withoutSnapshot compensationFailed : Bool) : String :=
  if withoutSnapshot then
    run.operation.action ++ " não iniciado com segurança para " ++ run.operation.client ++
      "; o estado anterior das tarefas exige reconciliação."
  else if compensationFailed then run.interruptedSummary "há estado residual que exige retomada."
  else
    run.operation.action ++ " não concluído para " ++ run.operation.client ++
      "; as alterações confirmadas foram restauradas."

/-- The guard of the locked transactions: `RUNNING` and `delivery_matches`. -/
def isLockedBy (run : AutomationRun) (expectedTaskId : Option TaskId) : Bool :=
  run.status == .running && run.deliveryMatches (.ofOption expectedTaskId)

end AutomationRun

/-- `with_reconciliation_event`: the last twenty events are kept. -/
def RunMetadata.withReconciliationEvent (m : RunMetadata) (e : ReconciliationEvent) : RunMetadata :=
  let history := m.reconciliationHistory ++ [e]
  { m with reconciliationHistory := history.drop (history.length - 20) }

/-- A bound delivery is of the run, and gives it a token when it has none. -/
theorem AutomationRun.bindDelivery_some {run bound : AutomationRun} {t : SuppliedTaskId}
    (h : run.bindDelivery t = some bound) :
    run.deliveryMatches t = true ∧ bound = { run with taskId := run.taskId.or t.normalize } := by
  unfold AutomationRun.bindDelivery at h
  split at h
  · next hmatch => exact ⟨hmatch, (Option.some.inj h).symm⟩
  · cases h

@[simp] theorem AutomationRun.touchRun_status (run : AutomationRun) (t : Option TaskId) (now : ℕ) :
    (run.touchRun t now).status = run.status := by
  unfold AutomationRun.touchRun; split <;> rfl

@[simp] theorem AutomationRun.touchRun_taskId (run : AutomationRun) (t : Option TaskId) (now : ℕ) :
    (run.touchRun t now).taskId = run.taskId := by
  unfold AutomationRun.touchRun; split <;> rfl

@[simp] theorem AutomationRun.touchRun_metadata (run : AutomationRun) (t : Option TaskId) (now : ℕ) :
    (run.touchRun t now).metadata = run.metadata := by
  unfold AutomationRun.touchRun; split <;> rfl

@[simp] theorem AutomationRun.touchRun_brokerPublishedAt (run : AutomationRun) (t : Option TaskId)
    (now : ℕ) : (run.touchRun t now).brokerPublishedAt = run.brokerPublishedAt := by
  unfold AutomationRun.touchRun; split <;> rfl

end SheepContabil
