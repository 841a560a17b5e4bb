import SheepContabil.Conc.Logic
import SheepContabil.Spec.Sc05Model

/-!
# SC-05: the saga and the processes around it

Every database transaction, query, portal call and storage call of the saga is one
action (`SC05Label`); the functions of `services.py`, `dispatching.py` and
`reconciliation.py` are programs of these actions, with the source's handlers.

* `SC05State.sem`: what an action does. A `Fate` says what the state does not
  determine: the time, whether the database or an adapter fails, and how the
  portal behaves.
* `executeSc05`: one delivery. `createAndDispatch`, `resumeAndDispatch`,
  `reconcile`: the web requests and one pass of the reconciler.
* `sc05System`: their interleavings, over any number of operations.

A portal adapter is a parameter (`PortalBackend`): a call returns evidence or
raises, before or after it has changed the portal. `traces` and `workers` record
the portal calls and the delivery that executes an operation; no action reads
them.
-/

namespace SheepContabil

open Conc (Prog)

/-- What the functions raise: `SupersededDelivery`, an `SC05Error`, a `ValidationError`, or an
exception of the platform. -/
inductive SC05Exception where
  | superseded
  | sc05 (e : SC05Error)
  | validation (message : String)
  | other (name : String)

def AdapterFault.raised : AdapterFault → SC05Exception
  | sc05 e _ => .sc05 e
  | other name => .other name

section Portals

inductive GatewayCall where
  | inspect
  | apply (action : SC05Action)
  | restore (expectedCurrentState targetState : PortalState)

def GatewayCall.isInspect : GatewayCall → Bool
  | inspect => true
  | _ => false

/-- A call of a `PortalGateway` with its arguments. -/
structure GatewayRequest where
  clientReference : String
  scenario : SC05Scenario
  phase : Phase
  call : GatewayCall

/-- How a portal call ends; `mutated` tells whether the portal was changed before the failure. -/
inductive CallOutcome where
  | returned (evidence : PortalEvidence)
  | failed (mutated : Bool) (fault : AdapterFault)

/-- The portals of all clients: what a call does to them, under a choice `ι` of its faults. -/
abbrev PortalBackend (W ι : Type) := SC05Portal → GatewayRequest → ι → W → CallOutcome × W

end Portals

section State

/-- Which call of `_finish_failed` closed the run. -/
inductive FailureSite where
  | compensated
  | outside
  deriving DecidableEq, Repr

/-- What happens to an operation. A portal call carries the states captured for its step. -/
inductive SC05Event where
  | started (pid : ℕ)
  | called (pid : ℕ) (portal : SC05Portal) (phase : Phase) (call : GatewayCall)
      (before desired : PortalState) (outcome : CallOutcome)
  | compensating (pid : ℕ) (failed : SC05Portal) (candidates : List SC05Portal)
  | succeeded (pid : ℕ)
  | failed (pid : ℕ) (site : FailureSite) (status : RunStatus) (client : SC05ClientStatus)

structure SC05State (W : Type) where
  operations : OperationId → SC05Operation
  operationCount : ℕ
  clients : ClientId → SC05Client
  published : List (OperationId × TaskId) := []
  nextTaskId : TaskId := 0
  portals : W
  traces : OperationId → List SC05Event := fun _ => []
  workers : OperationId → Option ℕ := fun _ => none

/-- The answers the state does not determine. -/
structure Fate (ι : Type) where
  now : ℕ := 0
  dbFails : Bool := false
  fault : Option AdapterFault := none
  call : ι

/-- The fields a `step.save` writes. -/
structure StepUpdate where
  status : Option SC05StepStatus := none
  beforeState : Option PortalState := none
  desiredState : Option PortalState := none
  afterState : Option PortalState := none
  errorMessage : Option String := none
  finished : Bool := false

/-- The operation in the memory of a worker, with its run and client as they were loaded. -/
structure LoadedOperation where
  id : OperationId
  op : SC05Operation
  client : SC05Client

structure SC05ExecutionResult where
  applied : ℕ
  unchanged : ℕ
  compensated : ℕ
  failed : ℕ
  partiallyFailed : Bool
  deriving DecidableEq, Repr

variable {W : Type}

namespace SC05State

def step (s : SC05State W) (o : OperationId) (p : SC05Portal) : SC05PortalStep :=
  (s.operations o).steps p

def run (s : SC05State W) (o : OperationId) : AutomationRun := (s.operations o).run

def setOperation (s : SC05State W) (o : OperationId) (op : SC05Operation) : SC05State W :=
  { s with operations := Function.update s.operations o op }

def setRun (s : SC05State W) (o : OperationId) (run : AutomationRun) : SC05State W :=
  s.setOperation o { s.operations o with run := run }

def setClientStatus (s : SC05State W) (c : ClientId) (status : SC05ClientStatus) : SC05State W :=
  { s with clients := Function.update s.clients c { s.clients c with status := status } }

def record (s : SC05State W) (o : OperationId) (e : SC05Event) : SC05State W :=
  { s with traces := Function.update s.traces o (e :: s.traces o) }

def setWorker (s : SC05State W) (o : OperationId) (w : Option ℕ) : SC05State W :=
  { s with workers := Function.update s.workers o w }

/-- `step.save(update_fields=...)`. -/
def saveStep (s : SC05State W) (o : OperationId) (p : SC05Portal) (u : StepUpdate) (now : ℕ) :
    SC05State W :=
  let step := s.step o p
  s.setOperation o ((s.operations o).setStep p { step with
    status := u.status.getD step.status
    beforeState := u.beforeState.getD step.beforeState
    desiredState := u.desiredState.getD step.desiredState
    afterState := u.afterState.getD step.afterState
    errorMessage := u.errorMessage.getD step.errorMessage
    finishedAt := if u.finished then some now else step.finishedAt })

/-- The attempts of a step with the one of this sequence changed. -/
def updateAttempt (s : SC05State W) (o : OperationId) (p : SC05Portal) (sequence : ℕ)
    (f : SC05StepAttempt → SC05StepAttempt) : SC05State W :=
  let op := s.operations o
  s.setOperation o
    (op.setAttempts p ((op.attempts p).map fun a => if a.sequence = sequence then f a else a))

/-- The query of `_prior_block_state`: the captured state of the latest earlier block of the
client that succeeded. -/
def latestBlock (s : SC05State W) (client : ClientId) (portal : SC05Portal) :
    OperationId → Option PortalState
  | 0 => none
  | o + 1 =>
    let op := s.operations o
    if op.client = client ∧ op.action = .block ∧ op.run.status = .succeeded then
      some (op.steps portal).beforeState
    else latestBlock s client portal o

/-- Some operation of the client other than `except` is pending, queued or running. -/
def hasActiveOperation (s : SC05State W) (client : ClientId) (excluded : Option OperationId) :
    Bool :=
  (List.range s.operationCount).any fun o =>
    (s.operations o).client == client && (s.operations o).run.status.isActive && excluded != some o

end SC05State

end State

/-- The atomic actions of the SC-05 processes. -/
inductive SC05Label where
  | prepareOperation (o : OperationId) (taskId : SuppliedTaskId) (resumeInterrupted : Bool)
  | buildScreenshotStorage (o : OperationId)
  | openSession (o : OperationId)
  | loadSteps (o : OperationId)
  | requireCurrentDelivery (o : OperationId) (taskId : Option TaskId)
  | touchRun (o : OperationId) (taskId : Option TaskId)
  | startStep (o : OperationId) (portal : SC05Portal) (startedAt : Option ℕ)
      (expectedTaskId : Option TaskId)
  | selectGateway (o : OperationId) (portal : SC05Portal)
  | startAttempt (o : OperationId) (portal : SC05Portal) (operation : SC05AttemptOperation)
      (stateBefore : PortalState) (expectedTaskId : Option TaskId)
  | callPortal (o : OperationId) (portal : SC05Portal) (request : GatewayRequest)
  | saveStep (o : OperationId) (portal : SC05Portal) (update : StepUpdate)
  | putScreenshot (o : OperationId) (key : ScreenshotKey) (content : Screenshot)
  | recordArtifact (o : OperationId) (portal : SC05Portal) (sequence : ℕ) (stored : StoredScreenshot)
  | succeedAttempt (o : OperationId) (portal : SC05Portal) (sequence : ℕ) (state : PortalState)
      (expectedTaskId : Option TaskId)
  | failAttempt (o : OperationId) (portal : SC05Portal) (sequence : ℕ) (error : SC05Error)
      (state : PortalState) (expectedTaskId : Option TaskId)
  | priorStep (o : OperationId) (client : ClientId) (portal : SC05Portal)
  | recordStepFinished (o : OperationId) (expectedTaskId : Option TaskId)
  | markStepFailed (o : OperationId) (portal : SC05Portal) (error : SC05Error)
      (expectedTaskId : Option TaskId)
  | compensationCandidates (o : OperationId) (failed : SC05Portal)
  | hasResidualState (o : OperationId)
  | finishSucceeded (o : OperationId) (expectedTaskId : Option TaskId)
  | finishFailed (o : OperationId) (error : SC05Error) (compensationFailed : Bool)
      (site : FailureSite) (expectedTaskId : Option TaskId)
  | summarize (o : OperationId) (loaded : Option RunStatus)
  | acknowledge (o : OperationId)
  | createRun (client : ClientId) (action : SC05Action) (scenario : SC05Scenario) (requestKey : ℕ)
  | resumeRun (o : OperationId)
  | dispatchStart (o : OperationId)
  | publish (o : OperationId) (taskId : TaskId)
  | recordDispatchFailure (o : OperationId) (taskId : TaskId) (status : RunStatus) (exc : String)
  | recordDispatchSuccess (o : OperationId) (taskId : TaskId)
  | reconcileOne (o : OperationId) (now : ℕ)
  | recordRecoveryPublishFailure (o : OperationId) (taskId : TaskId) (exc : String) (now : ℕ)
  | recordInspectionFailure (o : OperationId) (exc : String) (now : ℕ)

/-- What an action answers. -/
@[reducible] def SC05Label.Resp : SC05Label → Type
  | prepareOperation .. => (SC05Operation × SC05Client) × Bool
  | loadSteps _ => List (SC05Portal × SC05PortalStep)
  | startAttempt .. => ℕ
  | callPortal .. => PortalEvidence
  | putScreenshot .. => StoredScreenshot
  | priorStep .. => Option PortalState
  | compensationCandidates .. => List (SC05Portal × SC05PortalStep)
  | hasResidualState _ => Bool
  | summarize .. => SC05ExecutionResult
  | createRun .. => OperationId × Bool
  | dispatchStart _ => DispatchStart
  | reconcileOne .. => SC05Operation.Recovery
  | _ => Unit

section Semantics

variable {W ι : Type} (portal : PortalBackend W ι) (settings : Settings)

/-- A transaction: nothing happens when the database fails. -/
def transaction {α : Type} (i : Fate ι) (s : SC05State W)
    (body : Except SC05Exception α × SC05State W) : Except SC05Exception α × SC05State W :=
  if i.dbFails then (.error (.other "OperationalError"), s) else body

/-- The transactions that first lock the run and check that the delivery owns it. -/
def lockedTransaction {α : Type} (i : Fate ι) (s : SC05State W) (o : OperationId)
    (expectedTaskId : Option TaskId) (body : α × SC05State W) :
    Except SC05Exception α × SC05State W :=
  transaction i s <|
    if (s.run o).isLockedBy expectedTaskId then (.ok body.1, body.2) else (.error .superseded, s)

/-- A call of something outside the database. -/
def adapterCall {α : Type} (i : Fate ι) (s : SC05State W) (result : α × SC05State W) :
    Except SC05Exception α × SC05State W :=
  match i.fault with
  | some f => (.error f.raised, s)
  | none => (.ok result.1, result.2)

namespace SC05State

/-- `_prepare_operation`. -/
def prepareOperation (s : SC05State W) (pid : ℕ) (o : OperationId) (taskId : SuppliedTaskId)
    (resumeInterrupted : Bool) (now : ℕ) :
    Except SC05Exception ((SC05Operation × SC05Client) × Bool) × SC05State W :=
  if s.operationCount ≤ o then (.error (.other "DoesNotExist"), s)
  else
    let op := s.operations o
    let client := s.clients op.client
    match op.prepare taskId resumeInterrupted now with
    | .ignored => (.ok ((op, client), false), s)
    | .quarantined op' =>
      (.ok ((op', client), false),
        (s.setOperation o op').setClientStatus op.client .partialState)
    | .execute op' =>
      (.ok ((op', client), true),
        ((s.setOperation o op').setWorker o (some pid)).record o (.started pid))

/-- `create_sc05_run_result`. -/
def createRun (s : SC05State W) (c : ClientId) (action : SC05Action) (scenario : SC05Scenario)
    (requestKey : ℕ) (now : ℕ) : Except SC05Exception (OperationId × Bool) × SC05State W :=
  match (List.range s.operationCount).find? fun o => (s.operations o).requestKey == requestKey with
  | some existing => (.ok (existing, false), s)
  | none =>
    let client := s.clients c
    if client.status == .partialState || client.status == .unknown then
      refused "O cliente possui estado parcial; retome ou reconcilie a execução anterior."
    else if action == .block && client.status == .blocked then
      refused "O cliente já está bloqueado nos sistemas."
    else if action == .unblock && client.status != .blocked then
      refused "O cliente não está bloqueado."
    else if action == .unblock && client.taskRestoreSnapshot.isEmpty then
      refused "Os responsáveis anteriores das tarefas não estão disponíveis para restauração."
    else if s.hasActiveOperation c none then
      refused "Já existe uma operação em andamento para este cliente."
    else
      (.ok (s.operationCount, true),
        { s.setOperation s.operationCount
            { client := c, requestKey := requestKey, action := action, scenario := scenario
              run := { module := .sc05, status := .queued, taskId := some s.nextTaskId
                       summary := AutomationRun.queuedSummary .sc05 .manual ⟨action.label, client.name⟩
                       operation := ⟨action.label, client.name⟩
                       queuedAt := some now, createdAt := now } } with
          operationCount := s.operationCount + 1, nextTaskId := s.nextTaskId + 1 })
where
  refused (message : String) : Except SC05Exception (OperationId × Bool) × SC05State W :=
    (.error (.validation message), s)

/-- The transaction of `resume_sc05_run`. -/
def resumeRun (s : SC05State W) (o : OperationId) (now : ℕ) :
    Except SC05Exception Unit × SC05State W :=
  let op := s.operations o
  if s.operationCount ≤ o then (.error (.other "DoesNotExist"), s)
  else if op.run.status != .partiallyFailed then
    (.error (.validation "Somente uma execução com falha parcial pode ser retomada."), s)
  else if s.hasActiveOperation op.client (some o) then
    (.error (.validation "Já existe outra operação em andamento para este cliente."), s)
  else (.ok (), { s.setOperation o (op.resume now s.nextTaskId) with
    nextTaskId := s.nextTaskId + 1 })

/-- `_finish_succeeded`. -/
def finishSucceeded (s : SC05State W) (pid : ℕ) (o : OperationId) (expectedTaskId : Option TaskId)
    (now : ℕ) : SC05State W :=
  let op := s.operations o
  if op.run.deliveryIsCurrent expectedTaskId then
    { (s.setOperation o (op.finishSucceeded now)).record o (.succeeded pid) with
      clients := Function.update s.clients op.client (op.succeededClient (s.clients op.client)) }
  else s

/-- `_finish_failed`. -/
def finishFailed (s : SC05State W) (pid : ℕ) (o : OperationId) (error : SC05Error)
    (compensationFailed : Bool) (site : FailureSite) (expectedTaskId : Option TaskId) (now : ℕ) :
    SC05State W :=
  let op := s.operations o
  if op.run.deliveryIsCurrent expectedTaskId then
    let op' := op.finishFailed error compensationFailed now
    let client := op.failedClientStatus error compensationFailed
    ((s.setOperation o op').setClientStatus op.client client).record o
      (.failed pid site op'.run.status client)
  else s

/-- `_reconcile_one`. -/
def reconcileOne (s : SC05State W) (o : OperationId) (now : ℕ) :
    SC05Operation.Recovery × SC05State W :=
  let op := s.operations o
  match op.reconcileOne (s.clients op.client) settings now s.nextTaskId with
  | (.skipped, _, _) => (.skipped, s)
  | (recovery, op', quarantined) =>
    let s' := { s.setOperation o op' with nextTaskId := s.nextTaskId + 1 }
    (recovery, if quarantined then s'.setClientStatus op.client .partialState else s')

/-- `_summarize`. -/
def summarize (s : SC05State W) (o : OperationId) (loaded : Option RunStatus) :
    SC05ExecutionResult :=
  let count := fun status =>
    ((s.operations o).action.order.filter fun p => (s.step o p).status == status).length
  { applied := count .applied, unchanged := count .unchanged, compensated := count .compensated
    failed := count .failed + count .compensationFailed
    partiallyFailed := loaded.getD (s.run o).status == .partiallyFailed }

/-- The sequence the next attempt of a step gets. -/
def nextSequence (s : SC05State W) (o : OperationId) (p : SC05Portal) : ℕ :=
  (((s.operations o).attempts p).map (·.sequence)).foldl max 0 + 1

/-- What an action does when process `pid` performs it. -/
def sem (pid : ℕ) : (l : SC05Label) → Fate ι → SC05State W →
    Except SC05Exception l.Resp × SC05State W
  | .prepareOperation o taskId resumeInterrupted, i, s =>
    transaction i s (s.prepareOperation pid o taskId resumeInterrupted i.now)
  | .buildScreenshotStorage _, i, s => adapterCall i s ((), s)
  | .openSession _, i, s => adapterCall i s ((), s)
  | .loadSteps o, i, s => transaction i s (.ok (s.operations o).orderedSteps, s)
  | .requireCurrentDelivery o taskId, i, s =>
    transaction i s (if (s.run o).deliveryIsCurrent taskId then .ok () else .error .superseded, s)
  | .touchRun o taskId, i, s =>
    transaction i s (.ok (), s.setRun o ((s.run o).touchRun taskId i.now))
  | .startStep o p startedAt expectedTaskId, i, s =>
    lockedTransaction i s o expectedTaskId ((), s.setOperation o ((s.operations o).setStep p
      { s.step o p with status := .running, startedAt := startedAt.or (some i.now)
                        finishedAt := none, errorMessage := "" }))
  | .selectGateway _ _, i, s => adapterCall i s ((), s)
  | .startAttempt o p operation stateBefore expectedTaskId, i, s =>
    lockedTransaction i s o expectedTaskId (s.nextSequence o p, s.setOperation o
      ((s.operations o).setAttempts p ((s.operations o).attempts p ++
        [{ sequence := s.nextSequence o p, operation := operation, stateBefore := stateBefore }])))
  | .callPortal o p request, i, s =>
    let r := portal p request i.call s.portals
    let s' := { s with portals := r.2 }.record o (.called pid p request.phase request.call
      (s.step o p).beforeState (s.step o p).desiredState r.1)
    match r.1 with
    | .returned evidence => (.ok evidence, s')
    | .failed _ fault => (.error fault.raised, s')
  | .saveStep o p update, i, s => transaction i s (.ok (), s.saveStep o p update i.now)
  | .putScreenshot _ key content, i, s => adapterCall i s (⟨key, content⟩, s)
  | .recordArtifact o p sequence stored, i, s =>
    transaction i s (.ok (), s.setOperation o { s.operations o with
      artifacts := (s.operations o).artifacts ++ [⟨p, sequence, stored⟩] })
  | .succeedAttempt o p sequence state expectedTaskId, i, s =>
    lockedTransaction i s o expectedTaskId ((), s.updateAttempt o p sequence fun a =>
      { a with status := .succeeded, stateAfter := state, finishedAt := some i.now })
  | .failAttempt o p sequence error state expectedTaskId, i, s =>
    lockedTransaction i s o expectedTaskId ((), s.updateAttempt o p sequence fun a =>
      { a with status := .failed, stateAfter := state, errorCode := some error.code
               errorMessage := error.safeMessage, finishedAt := some i.now })
  | .priorStep o client p, i, s => transaction i s (.ok (s.latestBlock client p o), s)
  | .recordStepFinished o expectedTaskId, i, s => lockedTransaction i s o expectedTaskId ((), s)
  | .markStepFailed o p error expectedTaskId, i, s =>
    lockedTransaction i s o expectedTaskId ((), s.saveStep o p
      { status := some .failed, errorMessage := some error.safeMessage, finished := true } i.now)
  | .compensationCandidates o failed, i, s =>
    transaction i s (.ok (s.operations o).compensationCandidates,
      s.record o (.compensating pid failed
        ((s.operations o).compensationCandidates.map Prod.fst)))
  | .hasResidualState o, i, s => transaction i s (.ok (s.operations o).hasResidualState, s)
  | .finishSucceeded o expectedTaskId, i, s =>
    transaction i s (.ok (), s.finishSucceeded pid o expectedTaskId i.now)
  | .finishFailed o error compensationFailed site expectedTaskId, i, s =>
    transaction i s
      (.ok (), s.finishFailed pid o error compensationFailed site expectedTaskId i.now)
  | .summarize o loaded, i, s => transaction i s (.ok (s.summarize o loaded), s)
  | .acknowledge o, _, s => (.ok (), if s.workers o = some pid then s.setWorker o none else s)
  | .createRun client action scenario requestKey, i, s =>
    transaction i s (s.createRun client action scenario requestKey i.now)
  | .resumeRun o, i, s => transaction i s (s.resumeRun o i.now)
  | .dispatchStart o, i, s =>
    let r := (s.run o).dispatchStart i.now s.nextTaskId
    transaction i s (.ok r.1, { s.setRun o r.2 with nextTaskId := s.nextTaskId + 1 })
  | .publish o taskId, i, s =>
    adapterCall i s ((), { s with published := (o, taskId) :: s.published })
  | .recordDispatchFailure o taskId status exc, i, s =>
    transaction i s (.ok (), s.setRun o ((s.run o).recordDispatchFailure taskId status exc i.now))
  | .recordDispatchSuccess o taskId, i, s =>
    transaction i s (.ok (), s.setRun o ((s.run o).recordDispatchSuccess taskId i.now))
  | .reconcileOne o now, i, s =>
    let r := s.reconcileOne settings o now
    transaction i s (.ok r.1, r.2)
  | .recordRecoveryPublishFailure o taskId exc now, i, s =>
    transaction i s (.ok (), s.setRun o ((s.run o).recordRecoveryPublishFailure taskId exc now))
  | .recordInspectionFailure o exc now, i, s =>
    transaction i s (.ok (), s.setRun o ((s.run o).recordInspectionFailure exc now))

end SC05State

end Semantics

section Programs

abbrev SC05Prog := Prog SC05Label SC05Label.Resp SC05Exception

open SC05Label Conc.Prog

/-- The `-failure` screenshot of an error: its own failures are suppressed. -/
def storeFailureScreenshot (operation : LoadedOperation) (portal : SC05Portal) (sequence : ℕ)
    (attempt : SC05AttemptOperation) (e : SC05Error) : SC05Prog Unit :=
  if e.screenshot.isEmpty then ret ()
  else Prog.tryCatch (do
      let stored ← call (putScreenshot operation.id
        ⟨operation.id, operation.op.action.position portal, portal, sequence, attempt, true⟩
        e.screenshot)
      call (requireCurrentDelivery operation.id operation.op.run.taskId)
      call (recordArtifact operation.id portal sequence stored))
    fun _ => ret ()

/-- The handlers of `_invoke`. -/
def failInvocation {α : Type} (operation : LoadedOperation) (portal : SC05Portal) (sequence : ℕ)
    (attempt : SC05AttemptOperation) (evidence : Option PortalEvidence) :
    SC05Exception → SC05Prog α
  | .superseded => raise .superseded
  | .sc05 e => do
    call (requireCurrentDelivery operation.id operation.op.run.taskId)
    storeFailureScreenshot operation portal sequence attempt e
    call (requireCurrentDelivery operation.id operation.op.run.taskId)
    call (failAttempt operation.id portal sequence e ((evidence.map (·.state)).getD [])
      operation.op.run.taskId)
    raise (.sc05 e)
  | _ => do
    let error : SC05Error :=
      { code := .portalUnavailable, transient := true
        safeMessage := portal.display ++ " ficou indisponível durante a operação." }
    call (requireCurrentDelivery operation.id operation.op.run.taskId)
    call (failAttempt operation.id portal sequence error ((evidence.map (·.state)).getD [])
      operation.op.run.taskId)
    raise (.sc05 error)

/-- A call that may have changed the portal leaves the state it answered with in the step. -/
def saveAfterState (operation : LoadedOperation) (portal : SC05Portal)
    (attempt : SC05AttemptOperation) (evidence : PortalEvidence) : SC05Prog Unit :=
  if attempt = .inspect then ret ()
  else call (saveStep operation.id portal { afterState := some evidence.state })

/-- The evidence of a call is stored before the attempt succeeds. -/
def preserveEvidence (operation : LoadedOperation) (portal : SC05Portal) (sequence : ℕ)
    (attempt : SC05AttemptOperation) (evidence : PortalEvidence) : SC05Prog Unit := do
  call (requireCurrentDelivery operation.id operation.op.run.taskId)
  saveAfterState operation portal attempt evidence
  let stored ← call (putScreenshot operation.id
    ⟨operation.id, operation.op.action.position portal, portal, sequence, attempt, false⟩
    evidence.screenshot)
  call (requireCurrentDelivery operation.id operation.op.run.taskId)
  call (recordArtifact operation.id portal sequence stored)

/-- `_invoke`. `stateBefore` is the captured state the attempt is created with. -/
def invoke (operation : LoadedOperation) (portal : SC05Portal) (attempt : SC05AttemptOperation)
    (stateBefore : PortalState) (phase : Phase) (gatewayCall : GatewayCall) :
    SC05Prog PortalEvidence := do
  call (requireCurrentDelivery operation.id operation.op.run.taskId)
  let sequence ← call (startAttempt operation.id portal attempt stateBefore
    operation.op.run.taskId)
  let r ← Prog.attempt (call (callPortal operation.id portal
    { clientReference := operation.client.externalReference
      scenario := executionScenario operation.op.scenario operation.op.resumeCount
      phase := phase, call := gatewayCall }))
  match r with
  | .error e => failInvocation operation portal sequence attempt none e
  | .ok evidence =>
    Prog.tryCatch (preserveEvidence operation portal sequence attempt evidence)
      (failInvocation operation portal sequence attempt (some evidence))
    call (requireCurrentDelivery operation.id operation.op.run.taskId)
    call (succeedAttempt operation.id portal sequence evidence.state operation.op.run.taskId)
    ret evidence

/-- The state an attempt is created with: `step.after_state or step.before_state`. -/
def SC05PortalStep.lastState (step : SC05PortalStep) : PortalState :=
  if step.afterState.isEmpty then step.beforeState else step.afterState

/-- The desired state of a step that has none yet. -/
def computeDesiredState (operation : LoadedOperation) (portal : SC05Portal)
    (observed : PortalState) : SC05Prog PortalState :=
  match portal, operation.op.action with
  | .tasks, action => ofExcept (Except.mapError SC05Exception.sc05
      (desiredState action .tasks operation.client.taskRestoreSnapshot none observed))
  | portal, .block => ofExcept (Except.mapError SC05Exception.sc05
      (desiredState .block portal operation.client.taskRestoreSnapshot none observed))
  | portal, .unblock => do
    let prior ← call (priorStep operation.id operation.op.client portal)
    ofExcept (Except.mapError SC05Exception.sc05
      (desiredState .unblock portal operation.client.taskRestoreSnapshot prior observed))

/-- The first observation of a step must be one the operation may start from. -/
def checkFirstObservation (operation : LoadedOperation) (portal : SC05Portal)
    (step : SC05PortalStep) (observed : PortalState) : SC05Prog Unit :=
  if step.beforeState.isEmpty then
    ofExcept (Except.mapError SC05Exception.sc05
      (validateInitialState operation.op.action portal observed))
  else ret ()

/-- The desired state of a step: the one captured with `before_state`, or a new one. -/
def stepDesiredState (operation : LoadedOperation) (portal : SC05Portal) (step : SC05PortalStep)
    (observed : PortalState) : SC05Prog PortalState :=
  if !step.beforeState.isEmpty && !step.desiredState.isEmpty then ret step.desiredState
  else computeDesiredState operation portal observed

/-- The end of a step that the portal already shows as desired. -/
def finishUnchangedStep (operation : LoadedOperation) (portal : SC05Portal)
    (priorStatus : SC05StepStatus) : SC05Prog Unit := do
  call (saveStep operation.id portal
    { status := some (if priorStatus = .applied ∨ priorStatus = .compensationFailed
        then .applied else .unchanged)
      finished := true })
  call (recordStepFinished operation.id operation.op.run.taskId)

/-- The end of a step whose portal had to be changed. -/
def applyChange (operation : LoadedOperation) (portal : SC05Portal)
    (stateBefore desired : PortalState) : SC05Prog Unit := do
  let changed ← invoke operation portal .apply stateBefore .apply (.apply operation.op.action)
  call (requireCurrentDelivery operation.id operation.op.run.taskId)
  if !statesEqual changed.state desired then
    call (saveStep operation.id portal { afterState := some changed.state })
    raise (.sc05 (portalStateConflictError
      (portal.display ++ " não confirmou o estado solicitado.")))
  else
    call (saveStep operation.id portal
      { status := some .applied, afterState := some changed.state
        errorMessage := some "", finished := true })
    call (recordStepFinished operation.id operation.op.run.taskId)

/-- The captured state of a step: its first observation. -/
def SC05PortalStep.captured (step : SC05PortalStep) (observed : PortalState) : PortalState :=
  if step.beforeState.isEmpty then observed else step.beforeState

/-- `_apply_step`, once the observed, captured and desired states are saved. -/
def settleStep (operation : LoadedOperation) (portal : SC05Portal) (step : SC05PortalStep)
    (observed desired : PortalState) : SC05Prog Unit :=
  if !step.beforeState.isEmpty && !statesEqual observed (step.captured observed) &&
      !statesEqual observed desired then
    raise (.sc05 portalStateConflictError)
  else if statesEqual observed desired then finishUnchangedStep operation portal step.status
  else applyChange operation portal
    (if observed.isEmpty then step.captured observed else observed) desired

/-- `_apply_step`; `step` is the row as the worker loaded it. -/
def applyStep (operation : LoadedOperation) (portal : SC05Portal) (step : SC05PortalStep) :
    SC05Prog Unit := do
  call (startStep operation.id portal step.startedAt operation.op.run.taskId)
  call (selectGateway operation.id portal)
  let observed ← invoke operation portal .inspect step.lastState .apply .inspect
  call (requireCurrentDelivery operation.id operation.op.run.taskId)
  checkFirstObservation operation portal step observed.state
  let desired ← stepDesiredState operation portal step observed.state
  call (saveStep operation.id portal
    { beforeState := some (step.captured observed.state), desiredState := some desired
      afterState := some observed.state })
  settleStep operation portal step observed.state desired

/-- The loop of `execute_sc05` over the steps: the step that failed, with its error. -/
def applySteps (operation : LoadedOperation) :
    List (SC05Portal × SC05PortalStep) → SC05Prog (Option (SC05Portal × SC05Error))
  | [] => ret none
  | (portal, step) :: rest => do
    call (requireCurrentDelivery operation.id operation.op.run.taskId)
    call (SC05Label.touchRun operation.id operation.op.run.taskId)
    let r ← Prog.attempt (applyStep operation portal step)
    match r with
    | .ok () => applySteps operation rest
    | .error (.sc05 e) => do
      call (markStepFailed operation.id portal e operation.op.run.taskId)
      ret (some (portal, e))
    | .error e => raise e

/-- The portal shows the captured state: the step is compensated. -/
def markCompensated (operation : LoadedOperation) (portal : SC05Portal) (state : PortalState) :
    SC05Prog Unit := do
  call (saveStep operation.id portal
    { status := some .compensated, afterState := some state, errorMessage := some ""
      finished := true })
  call (recordStepFinished operation.id operation.op.run.taskId)

/-- The body of the loop of `_compensate`; `step` is the row as `_compensate` loaded it. -/
def compensateStep (operation : LoadedOperation) (portal : SC05Portal) (step : SC05PortalStep) :
    SC05Prog Unit := do
  let current ← invoke operation portal .inspect step.lastState .compensation .inspect
  if statesEqual current.state step.beforeState then
    call (requireCurrentDelivery operation.id operation.op.run.taskId)
    if step.status = .failed then ret ()
    else markCompensated operation portal current.state
  else if !statesEqual current.state step.desiredState then
    raise (.sc05 portalStateConflictError)
  else
    let restored ← invoke operation portal .compensate step.lastState .compensation
      (.restore current.state step.beforeState)
    if !statesEqual restored.state step.beforeState then
      raise (.sc05 (portalStateConflictError
        (portal.display ++ " não confirmou a restauração.")))
    else
      call (requireCurrentDelivery operation.id operation.op.run.taskId)
      markCompensated operation portal restored.state

/-- `_compensate` marks a step it could not restore. -/
def markCompensationFailed (operation : LoadedOperation) (portal : SC05Portal) (e : SC05Error) :
    SC05Prog Unit := do
  call (requireCurrentDelivery operation.id operation.op.run.taskId)
  call (saveStep operation.id portal
    { status := some .compensationFailed, errorMessage := some e.safeMessage, finished := true })
  call (recordStepFinished operation.id operation.op.run.taskId)

/-- The loop of `_compensate`; the flag is `compensation_failed` so far. -/
def compensateSteps (operation : LoadedOperation) (failed : SC05Portal) :
    List (SC05Portal × SC05PortalStep) → Bool → SC05Prog Bool
  | [], compensationFailed => ret compensationFailed
  | (portal, step) :: rest, compensationFailed =>
    if operation.op.action.position failed < operation.op.action.position portal then
      compensateSteps operation failed rest compensationFailed
    else if step.desiredState.isEmpty || step.beforeState.isEmpty then
      compensateSteps operation failed rest compensationFailed
    else do
      call (selectGateway operation.id portal)
      let r ← Prog.attempt (compensateStep operation portal step)
      match r with
      | .ok () => compensateSteps operation failed rest compensationFailed
      | .error (.sc05 e) => do
        markCompensationFailed operation portal e
        compensateSteps operation failed rest true
      | .error e => raise e

/-- `_compensate`. -/
def compensate (operation : LoadedOperation) (failed : SC05Portal) : SC05Prog Bool := do
  let candidates ← call (compensationCandidates operation.id failed)
  compensateSteps operation failed candidates false

/-- The `try` block of `execute_sc05`. -/
def runSaga (operation : LoadedOperation) : SC05Prog Unit := do
  call (buildScreenshotStorage operation.id)
  call (openSession operation.id)
  let steps ← call (loadSteps operation.id)
  let failure ← applySteps operation steps
  match failure with
  | some (failedStep, e) => do
    call (requireCurrentDelivery operation.id operation.op.run.taskId)
    call (SC05Label.touchRun operation.id operation.op.run.taskId)
    let compensationFailed ← compensate operation failedStep
    call (finishFailed operation.id e compensationFailed .compensated operation.op.run.taskId)
  | none => do
    call (requireCurrentDelivery operation.id operation.op.run.taskId)
    call (finishSucceeded operation.id operation.op.run.taskId)

/-- The error an unexpected exception is reported as. -/
def unexpectedWorkerError : SC05Error :=
  { code := .unexpectedWorkerError, transient := true
    safeMessage := "O worker RPA foi interrompido antes de confirmar todos os sistemas." }

/-- The last step of the handlers: the run is closed with the residue of its steps. -/
def failOutside (operation : LoadedOperation) (e : SC05Error) : SC05Prog Unit := do
  let residual ← call (hasResidualState operation.id)
  call (finishFailed operation.id e residual .outside operation.op.run.taskId)

/-- The handlers of `execute_sc05`. -/
def handleFailure (operation : LoadedOperation) : SC05Exception → SC05Prog Unit
  | .superseded => ret ()
  | .sc05 e => failOutside operation e
  | _ => do
    failOutside operation unexpectedWorkerError
    raise (.sc05 unexpectedWorkerError)

/-- `execute_sc05`. -/
def executeSc05 (o : OperationId) (taskId : SuppliedTaskId) (resumeInterrupted : Bool) :
    SC05Prog SC05ExecutionResult := do
  let ((op, client), shouldExecute) ← call (prepareOperation o taskId resumeInterrupted)
  let operation : LoadedOperation := ⟨o, op, client⟩
  if !shouldExecute then call (summarize o (some op.run.status))
  else do
    Prog.tryCatch (runSaga operation) (handleFailure operation)
    call (summarize o none)

/-- A delivery: the message is acknowledged when the task has ended. -/
def deliver (o : OperationId) (taskId : SuppliedTaskId) (redelivered : Bool) : SC05Prog Unit :=
  Prog.tryFinally (do let _ ← executeSc05 o taskId redelivered) (call (acknowledge o))

/-- The name under which `dispatch_run` reports an exception. -/
def SC05Exception.name : SC05Exception → String
  | superseded => "SupersededDelivery"
  | sc05 _ => "SC05Error"
  | validation _ => "ValidationError"
  | other name => name

/-- `dispatch_run`. -/
def dispatchRun (o : OperationId) (failureStatus : RunStatus) : SC05Prog Unit := do
  let start ← call (dispatchStart o)
  match start with
  | .refused => raise (.other "ValueError")
  | .existing _ => ret ()
  | .started taskId => do
    Prog.tryCatch (call (publish o taskId)) fun e => do
      call (recordDispatchFailure o taskId failureStatus e.name)
      raise e
    call (recordDispatchSuccess o taskId)

/-- The request that creates an operation: `create_sc05_run_result`, then `_dispatch_sc05`. -/
def createAndDispatch (client : ClientId) (action : SC05Action) (scenario : SC05Scenario)
    (requestKey : ℕ) : SC05Prog Unit := do
  let (o, created) ← call (createRun client action scenario requestKey)
  if created then Prog.tryCatch (dispatchRun o .failed) fun _ => ret ()

/-- The request that resumes an operation: `resume_sc05_run`, then `_dispatch_sc05`. -/
def resumeAndDispatch (o : OperationId) : SC05Prog Unit := do
  call (resumeRun o)
  Prog.tryCatch (dispatchRun o .partiallyFailed) fun _ => ret ()

/-- The part of `reconcile_stale_runs` for one run, in a pass that began at `now`. -/
def reconcile (o : OperationId) (now : ℕ) : SC05Prog Unit := do
  let r ← Prog.attempt (call (SC05Label.reconcileOne o now))
  match r with
  | .error e => call (recordInspectionFailure o e.name now)
  | .ok (.requeued taskId) =>
    Prog.tryCatch (do
        call (publish o taskId)
        call (recordDispatchSuccess o taskId))
      fun e => call (recordRecoveryPublishFailure o taskId e.name now)
  | .ok _ => ret ()

end Programs

/-- The processes of SC-05. -/
inductive SC05Process where
  | createAndDispatch (client : ClientId) (action : SC05Action) (scenario : SC05Scenario)
      (requestKey : ℕ)
  | resumeAndDispatch (o : OperationId)
  | deliver (o : OperationId) (taskId : SuppliedTaskId) (redelivered : Bool)
  | reconcile (o : OperationId) (now : ℕ)

def SC05Process.body : SC05Process → SC05Prog Unit
  | createAndDispatch client action scenario requestKey =>
    SheepContabil.createAndDispatch client action scenario requestKey
  | resumeAndDispatch o => SheepContabil.resumeAndDispatch o
  | deliver o taskId redelivered => SheepContabil.deliver o taskId redelivered
  | reconcile o now => SheepContabil.reconcile o now

/-- The SC-05 processes over shared rows and portals. The environment changes the portals. -/
def sc05System {W ι : Type} (portal : PortalBackend W ι) (settings : Settings) :
    Conc.System SC05Label SC05Label.Resp SC05Exception (SC05State W) (Fate ι) SC05Process
      (W → W) where
  sem := SC05State.sem portal settings
  body := SC05Process.body
  onCrash pid s :=
    { s with workers := fun o => if s.workers o = some pid then none else s.workers o }
  env f s := { s with portals := f s.portals }

end SheepContabil
