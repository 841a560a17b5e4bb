import SheepContabil.Py.Value
import SheepContabil.Spec.Dispatching

/-!
# SC-05: rows, errors and desired states

The tables of the block/unblock saga (`models.py`), its errors (`contracts.py`)
and the functions of `services.py` that read and write no row: what a portal
should show after the operation, and what each locked transaction makes of the
operation and its client.

A step has no portal and position of its own: an operation has one step for each
portal, and `SC05Action.position` is the position it was created with. Operations
are numbered in creation order.
-/

namespace SheepContabil

abbrev ClientId := ℕ
abbrev OperationId := ℕ
abbrev PortalState := Py.Dict

inductive SC05ClientStatus where
  | active | blocked | partialState | unknown
  deriving DecidableEq, Repr

inductive SC05Action where
  | block | unblock
  deriving DecidableEq, Repr

inductive SC05Scenario where
  | happyPath | failTasksApply | timeoutAccountingApply | failTasksAndFilesCompensation
  deriving DecidableEq, Repr

inductive SC05Portal where
  | files | accounting | tasks
  deriving DecidableEq, Repr

inductive SC05StepStatus where
  | pending | running | applied | unchanged | failed | compensated | compensationFailed
  deriving DecidableEq, Repr

inductive SC05AttemptOperation where
  | inspect | apply | compensate
  deriving DecidableEq, Repr

inductive SC05AttemptStatus where
  | running | succeeded | failed
  deriving DecidableEq, Repr

inductive Phase where
  | apply | compensation
  deriving DecidableEq, Repr

/-- The class attribute or instance attribute `code` of an `SC05Error`. -/
inductive SC05ErrorCode where
  | sc05Error | configurationError | portalOperationError | portalTimeout | portalAuthentication
  | portalStateConflict | artifactStorageError | browserStartFailed | portalUnavailable
  | portalServerError | screenshotFailed | portalSelectorChanged | portalRejectedOperation
  | portalClientNotUnique | unexpectedWorkerError | workerInterrupted | taskMarkerWithoutSnapshot
  deriving DecidableEq, Repr

/-- The bytes of a PNG. -/
abbrev Screenshot := List ℕ

/-- `SC05Error` and its subclasses; only a `PortalOperationError` has a screenshot. -/
structure SC05Error where
  code : SC05ErrorCode
  safeMessage : String
  transient : Bool := false
  screenshot : Screenshot := []
  deriving DecidableEq, Repr

/-- `PortalStateConflictError()`. -/
def portalStateConflictError (message : String :=
    "O estado do sistema mudou depois da captura; a automação não sobrescreveu a alteração.") :
    SC05Error :=
  { code := .portalStateConflict, safeMessage := message }

/-- What an adapter, the screenshot storage or the browser session raises: an error of its own,
which is never the one `_validate_initial_state` raises, or any other exception. -/
inductive AdapterFault where
  | sc05 (e : SC05Error) (h : e.code ≠ .taskMarkerWithoutSnapshot)
  | other (name : String)

structure PortalEvidence where
  state : PortalState
  screenshot : Screenshot := [137]

namespace SC05Portal

/-- `get_portal_display()`. -/
def display : SC05Portal → String
  | files => "Portal de arquivos"
  | accounting => "Sistema contábil"
  | tasks => "Sistema de tarefas"

/-- `portal.label.lower()`. -/
def lowerLabel : SC05Portal → String
  | files => "portal de arquivos"
  | accounting => "sistema contábil"
  | tasks => "sistema de tarefas"

end SC05Portal

/-- `BLOCK_ORDER` and `UNBLOCK_ORDER`. -/
def SC05Action.order : SC05Action → List SC05Portal
  | .block => [.files, .accounting, .tasks]
  | .unblock => [.tasks, .accounting, .files]

/-- `SC05Action.label`. -/
def SC05Action.label : SC05Action → String
  | .block => "Bloquear"
  | .unblock => "Desbloquear"

/-- `SC05PortalStep.position`: the index in the order, from one. -/
def SC05Action.position (action : SC05Action) (portal : SC05Portal) : ℕ :=
  action.order.idxOf portal + 1

/-- The client's status when the operation has left no trace. -/
def SC05Action.undoneStatus : SC05Action → SC05ClientStatus
  | .block => .active
  | .unblock => .blocked

structure SC05Client where
  externalReference : String
  name : String := ""
  status : SC05ClientStatus := .active
  taskRestoreSnapshot : PortalState := []

structure SC05PortalStep where
  status : SC05StepStatus := .pending
  beforeState : PortalState := []
  desiredState : PortalState := []
  afterState : PortalState := []
  errorMessage : String := ""
  startedAt : Option ℕ := none
  finishedAt : Option ℕ := none

structure SC05StepAttempt where
  sequence : ℕ
  operation : SC05AttemptOperation
  status : SC05AttemptStatus := .running
  stateBefore : PortalState := []
  stateAfter : PortalState := []
  errorCode : Option SC05ErrorCode := none
  errorMessage : String := ""
  finishedAt : Option ℕ := none

/-- The key under which a screenshot is stored; `failure` marks the `-failure` suffix. -/
structure ScreenshotKey where
  run : OperationId
  position : ℕ
  portal : SC05Portal
  sequence : ℕ
  operation : SC05AttemptOperation
  failure : Bool
  deriving DecidableEq

/-- A stored screenshot; its content stands for its hash and its size. -/
structure StoredScreenshot where
  key : ScreenshotKey
  content : Screenshot
  deriving DecidableEq

structure SC05Artifact where
  portal : SC05Portal
  sequence : ℕ
  stored : StoredScreenshot
  deriving DecidableEq

/-- An operation with its steps and its run; `requestKey` is the one of the run's
`idempotency_key`. -/
structure SC05Operation where
  client : ClientId
  requestKey : ℕ := 0
  action : SC05Action
  scenario : SC05Scenario := .happyPath
  resumeCount : ℕ := 0
  run : AutomationRun
  steps : SC05Portal → SC05PortalStep := fun _ => {}
  attempts : SC05Portal → List SC05StepAttempt := fun _ => []
  artifacts : List SC05Artifact := []

/-- `BLOCKED_TASK_OWNER`. -/
def blockedTaskOwner : String := "BLOQUEADO_INADIMPLENCIA"

/-- `_states_equal`. -/
def statesEqual (left right : PortalState) : Bool := Py.Dict.eq left right

/-- `_execution_scenario`. -/
def executionScenario (scenario : SC05Scenario) (resumeCount : ℕ) : SC05Scenario :=
  if resumeCount = 0 then scenario else .happyPath

section DesiredState

/-- The loop of `_desired_state` over the observed tasks. -/
def desiredBlockedTasks : List Py.Value → Except SC05Error (List Py.Value)
  | [] => .ok []
  | task :: rest =>
    match task.dict? with
    | none => .error (portalStateConflictError "O sistema de tarefas retornou uma tarefa inválida.")
    | some t =>
      match (Py.Dict.get t "reference").str? with
      | none =>
        .error (portalStateConflictError "O sistema de tarefas retornou uma tarefa inválida.")
      | some _ => do
        let desired := if Py.Dict.isTrue t "is_open"
          then Py.Dict.set t "assignee" (.str blockedTaskOwner) else t
        let rest ← desiredBlockedTasks rest
        pure (.dict desired :: rest)

/-- `observed` as an active client with a list of tasks. -/
def activeTasks? (observed : PortalState) : Option (List Py.Value) :=
  if Py.Dict.isTrue observed "client_active" then (Py.Dict.get observed "tasks").list? else none

/-- `_validate_initial_state`. -/
def validateInitialState (action : SC05Action) (portal : SC05Portal) (observed : PortalState) :
    Except SC05Error Unit :=
  if action != .block || portal != .tasks then .ok ()
  else match activeTasks? observed with
    | none => .error (portalStateConflictError "O sistema de tarefas retornou um estado inválido.")
    | some tasks =>
      if tasks.any fun task => match task.dict? with
          | some t => (Py.Dict.get t "assignee").str? == some blockedTaskOwner
          | none => false
      then .error
        { code := .taskMarkerWithoutSnapshot
          safeMessage :=
            "Há tarefa com o marcador de inadimplência sem snapshot confiável; " ++
            "o cliente precisa ser reconciliado antes de um novo bloqueio." }
      else .ok ()

/-- `_prior_block_state`, given the captured state of the latest block that succeeded. -/
def priorBlockState (portal : SC05Portal) (prior : Option PortalState) :
    Except SC05Error PortalState :=
  match prior with
  | none => missing
  | some before =>
    if before.isEmpty || before.any fun kv => kv.1 != "blocked" then missing
    else match (Py.Dict.get before "blocked").bool? with
      | some b => .ok [("blocked", .bool b)]
      | none => .error (portalStateConflictError "O snapshot anterior da conta é inválido.")
where
  missing : Except SC05Error PortalState := .error (portalStateConflictError
    ("O snapshot anterior de " ++ portal.lowerLabel ++ " não está disponível para desfazer."))

/-- The assignees to restore, by reference: the open tasks of the snapshot. -/
def restoreAssignees : List Py.Value → List (String × String) →
    Except SC05Error (List (String × String))
  | [], acc => .ok acc
  | task :: rest, acc =>
    match task.dict? with
    | none => restoreAssignees rest acc
    | some t =>
      if Py.Dict.isTrue t "is_open" then
        match (Py.Dict.get t "reference").str?, (Py.Dict.get t "assignee").str? with
        | some reference, some assignee =>
          if reference.isEmpty then invalid
          else if (acc.lookup reference).isSome then
            .error (portalStateConflictError "O snapshot anterior possui tarefas duplicadas.")
          else restoreAssignees rest (acc ++ [(reference, assignee)])
        | _, _ => invalid
      else restoreAssignees rest acc
where
  invalid : Except SC05Error (List (String × String)) :=
    .error (portalStateConflictError "O snapshot anterior das tarefas é inválido.")

/-- A task the portal shows now, with its reference and assignee. -/
structure CurrentTask where
  reference : String
  assignee : String
  task : Py.Dict

/-- `current_by_reference`, in the order of the portal. -/
def currentByReference : List Py.Value → List CurrentTask →
    Except SC05Error (List CurrentTask)
  | [], acc => .ok acc
  | task :: rest, acc =>
    match task.dict? with
    | none => invalid
    | some t =>
      match (Py.Dict.get t "reference").str?, (Py.Dict.get t "assignee").str? with
      | some reference, some assignee =>
        if reference.isEmpty then invalid
        else if acc.any fun c => c.reference == reference then
          .error (portalStateConflictError "O sistema de tarefas retornou referências duplicadas.")
        else currentByReference rest (acc ++ [⟨reference, assignee, t⟩])
      | _, _ => invalid
where
  invalid : Except SC05Error (List CurrentTask) :=
    .error (portalStateConflictError "O sistema de tarefas retornou uma tarefa inválida.")

/-- The last loop of `_task_unblock_state`: every assignee of the snapshot goes back to its task,
if the task is there and still has the marker or that assignee. -/
def restoreTasks : List (String × String) → List CurrentTask → Except SC05Error (List CurrentTask)
  | [], current => .ok current
  | (reference, previous) :: rest, current =>
    match current.find? fun c => c.reference == reference with
    | none => .error (portalStateConflictError
        "Uma tarefa do snapshot não está mais disponível para restauração.")
    | some c =>
      if c.assignee != blockedTaskOwner && c.assignee != previous then
        .error (portalStateConflictError
          "O responsável de uma tarefa mudou depois do bloqueio; nada foi sobrescrito.")
      else restoreTasks rest (current.map fun c =>
        if c.reference == reference then
          ⟨reference, previous, Py.Dict.set c.task "assignee" (.str previous)⟩
        else c)

/-- `_task_unblock_state`. -/
def taskUnblockState (snapshot observed : PortalState) : Except SC05Error PortalState :=
  match activeTasks? snapshot, activeTasks? observed with
  | some snapshotTasks, some currentTasks => do
    let restore ← restoreAssignees snapshotTasks []
    let current ← currentByReference currentTasks []
    if current.any fun c => c.assignee == blockedTaskOwner && (restore.lookup c.reference).isNone
    then .error (portalStateConflictError
      "Há tarefas bloqueadas que não pertencem ao snapshot desta operação.")
    else do
      let tasks ← restoreTasks restore current
      pure [("client_active", .bool true), ("tasks", .list (tasks.map fun c => .dict c.task))]
  | _, _ => .error (portalStateConflictError
      "Não há responsáveis anteriores válidos para desbloquear as tarefas.")

/-- `_desired_state`; `prior` is what the query of `_prior_block_state` returns. -/
def desiredState (action : SC05Action) (portal : SC05Portal) (snapshot : PortalState)
    (prior : Option PortalState) (observed : PortalState) : Except SC05Error PortalState :=
  match portal, action with
  | .tasks, .unblock => taskUnblockState snapshot observed
  | .tasks, .block =>
    match activeTasks? observed with
    | none => .error (portalStateConflictError "O sistema de tarefas retornou um estado inválido.")
    | some tasks => do
      let desired ← desiredBlockedTasks tasks
      pure [("client_active", .bool true), ("tasks", .list desired)]
  | _, .block => .ok [("blocked", .bool true)]
  | portal, .unblock => priorBlockState portal prior

end DesiredState

namespace SC05Operation

/-- `operation.steps.order_by("position")`. -/
def orderedSteps (op : SC05Operation) : List (SC05Portal × SC05PortalStep) :=
  op.action.order.map fun p => (p, op.steps p)

/-- `operation.steps.exclude(before_state={}).order_by("-position")`. -/
def compensationCandidates (op : SC05Operation) : List (SC05Portal × SC05PortalStep) :=
  op.orderedSteps.reverse.filter fun s => !s.2.beforeState.isEmpty

def setStep (op : SC05Operation) (portal : SC05Portal) (step : SC05PortalStep) : SC05Operation :=
  { op with steps := Function.update op.steps portal step }

def setAttempts (op : SC05Operation) (portal : SC05Portal) (attempts : List SC05StepAttempt) :
    SC05Operation :=
  { op with attempts := Function.update op.attempts portal attempts }

/-- `_has_residual_state`. -/
def hasResidualState (op : SC05Operation) : Bool :=
  op.action.order.any fun p => match (op.steps p).status with
    | .running | .applied | .compensationFailed => true
    | _ => false

/-- The attempts that a lost worker left running, closed. -/
def closeRunningAttempts (op : SC05Operation) (message : String) (now : ℕ) : SC05Operation :=
  { op with attempts := fun p => (op.attempts p).map fun a =>
      if a.status == .running then
        { a with status := .failed, errorCode := some .workerInterrupted, errorMessage := message,
                 finishedAt := some now }
      else a }

/-- The steps that a lost worker left running, marked as failed. -/
def failRunningSteps (op : SC05Operation) (message : String) (now : ℕ) : SC05Operation :=
  { op with steps := fun p =>
      if (op.steps p).status == .running then
        { op.steps p with status := .failed, errorMessage := message, finishedAt := some now }
      else op.steps p }

/-- `_close_interrupted_sc05_attempts` of the worker. -/
def closeInterruptedAttempts (op : SC05Operation) (now : ℕ) : SC05Operation :=
  (op.closeRunningAttempts "A tentativa foi interrompida antes da confirmação." now).failRunningSteps
    "A etapa foi interrompida e será reconciliada." now

/-- `_close_sc05_interrupted_attempts` of the reconciler. -/
def closeOrphanAttempts (op : SC05Operation) (now : ℕ) : SC05Operation :=
  (op.closeRunningAttempts
    "A tentativa órfã foi encerrada pela reconciliação automática." now).failRunningSteps
    "A etapa órfã foi encerrada e será reconciliada." now

/-- What `_prepare_operation` decides about a delivery. -/
inductive Preparation where
  | ignored
  | quarantined (op : SC05Operation)
  | execute (op : SC05Operation)

/-- `_prepare_operation`. An ignored delivery changes no row. -/
def prepare (op : SC05Operation) (taskId : SuppliedTaskId) (resumeInterrupted : Bool) (now : ℕ) :
    Preparation :=
  match op.run.bindDelivery taskId with
  | none => .ignored
  | some run =>
    if !run.status.isActive then .ignored
    else
      let run := { run with
        dispatchStartedAt := (run.dispatchStartedAt.or run.queuedAt).or (some now)
        brokerPublishedAt := run.brokerPublishedAt.or (some now) }
      if run.status == .running then
        if resumeInterrupted then
          .quarantined { op.closeInterruptedAttempts now with
            run := run.interruptSc05 now }
        else .ignored
      else .execute { op with run := { run with
        status := .running, startedAt := run.startedAt.or (some now), finishedAt := none,
        summary := run.runningSummary, errorMessage := "", heartbeatAt := some now } }

/-- The locked part of `resume_sc05_run`, once the run is known to be resumable; `fresh` is its
`uuid4()`. -/
def resume (op : SC05Operation) (now : ℕ) (fresh : TaskId) : SC05Operation :=
  { op with
    resumeCount := op.resumeCount + 1
    run := { op.run with
      status := .queued, summary := op.run.resumedSummary, errorMessage := "", finishedAt := none,
      taskId := some fresh,
      queuedAt := some now, dispatchStartedAt := none, brokerPublishedAt := none,
      heartbeatAt := none, reconciliationAttempts := 0
      metadata := { op.run.metadata with
        sc05ResumeHistory := op.run.metadata.sc05ResumeHistory ++
          [{ sequence := op.resumeCount + 1, requestedAt := now,
             previousFinishedAt := op.run.finishedAt, previousSummary := op.run.summary,
             previousError := op.run.errorMessage }] } } }

/-- `steps.filter(status=…).count()`. -/
def stepsIn (op : SC05Operation) (status : SC05StepStatus) : ℕ :=
  op.action.order.countP fun p => (op.steps p).status == status

/-- The run part of `_finish_succeeded`. -/
def finishSucceeded (op : SC05Operation) (now : ℕ) : SC05Operation :=
  { op with run := { op.run with
      status := .succeeded, summary := op.run.succeededSummary (op.stepsIn .applied) (op.stepsIn .unchanged)
      errorMessage := "", finishedAt := some now, heartbeatAt := some now } }

/-- The run part of `_finish_failed`. -/
def finishFailed (op : SC05Operation) (error : SC05Error) (compensationFailed : Bool) (now : ℕ) :
    SC05Operation :=
  { op with run := { op.run with
      status :=
        if error.code == .taskMarkerWithoutSnapshot then .failed
        else if compensationFailed then .partiallyFailed else .failed
      summary := op.run.failedSummary (error.code == .taskMarkerWithoutSnapshot) compensationFailed
      errorMessage := error.safeMessage, finishedAt := some now, heartbeatAt := some now } }

/-- The client part of `_finish_failed`. -/
def failedClientStatus (op : SC05Operation) (error : SC05Error) (compensationFailed : Bool) :
    SC05ClientStatus :=
  if error.code == .taskMarkerWithoutSnapshot then .unknown
  else if compensationFailed then .partialState
  else op.action.undoneStatus

/-- The client part of `_finish_succeeded`. -/
def succeededClient (op : SC05Operation) (client : SC05Client) : SC05Client :=
  match op.action with
  | .block =>
    { client with status := .blocked, taskRestoreSnapshot := (op.steps .tasks).beforeState }
  | .unblock => { client with status := .active, taskRestoreSnapshot := [] }

/-- `_sc05_queue_has_ambiguous_state`. -/
def queueHasAmbiguousState (op : SC05Operation) (client : SC05Client) : Bool :=
  op.run.startedAt.isSome || op.resumeCount > 0 ||
    (client.status == .partialState || client.status == .unknown)

/-- What `_reconcile_one` decides. -/
inductive Recovery where
  | skipped
  | requeued (taskId : TaskId)
  | quarantined
  | failed
  deriving DecidableEq, Repr

/-- `_reconcile_one` on the run of an operation: the decision, the operation, and whether
`_quarantine_sc05` made the client partial; `fresh` is the `uuid4()` of a recovery. -/
def reconcileOne (op : SC05Operation) (client : SC05Client) (settings : Settings) (now : ℕ)
    (fresh : TaskId) : Recovery × SC05Operation × Bool :=
  if !op.run.isStillStale ((now : ℤ) - settings.queuedStaleAfterSeconds)
      ((now : ℤ) - settings.runningStaleAfterSeconds) then (.skipped, op, false)
  else match op.run.status with
    | .queued =>
      if settings.reconciliationMaxAttempts ≤ op.run.reconciliationAttempts then
        if op.queueHasAmbiguousState client then
          (.quarantined,
            { op with run := op.run.quarantineSc05 now "stale_queue_recovery_exhausted" }, true)
        else (.failed, { op with run := op.run.exhausted now }, false)
      else
        (.requeued fresh, { op with run := op.run.claimRecovery now fresh "stale_queue" }, false)
    | .running =>
      (.quarantined, { op.closeOrphanAttempts now with
        run := op.run.quarantineSc05 now "stale_running_ambiguous_external_state" }, true)
    | _ => (.skipped, op, false)

end SC05Operation

end SheepContabil
