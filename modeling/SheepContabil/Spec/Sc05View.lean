import SheepContabil.Spec.Sc05Saga

/-!
# The view of one operation

`SagaView` keeps what decides the fate of one operation: who executes it, the
status and token of its run, the status and captured states of its steps, and its
portal calls.
-/

namespace SheepContabil

structure StepView where
  status : SC05StepStatus
  before : PortalState
  desired : PortalState

structure SagaView where
  worker : Option ℕ
  action : SC05Action
  status : RunStatus
  taskId : Option TaskId
  step : SC05Portal → StepView
  trace : List SC05Event

def SC05PortalStep.view (step : SC05PortalStep) : StepView :=
  ⟨step.status, step.beforeState, step.desiredState⟩

/-- The view of operation `o`. -/
def sagaView {W : Type} (o : OperationId) (s : SC05State W) : SagaView where
  worker := s.workers o
  action := (s.operations o).action
  status := (s.operations o).run.status
  taskId := (s.operations o).run.taskId
  step p := ((s.operations o).steps p).view
  trace := s.traces o

/-- The operation an action is about; the creation of an operation touches no existing one. -/
def SC05Label.op? : SC05Label → Option OperationId
  | prepareOperation o .. | buildScreenshotStorage o | openSession o | loadSteps o
  | requireCurrentDelivery o _ | touchRun o _ | startStep o .. | selectGateway o _
  | startAttempt o .. | callPortal o .. | saveStep o .. | putScreenshot o .. | recordArtifact o ..
  | succeedAttempt o .. | failAttempt o .. | priorStep o .. | recordStepFinished o _
  | markStepFailed o .. | compensationCandidates o _ | hasResidualState o | finishSucceeded o _
  | finishFailed o .. | summarize o _ | acknowledge o | resumeRun o | dispatchStart o
  | publish o _ | recordDispatchFailure o .. | recordDispatchSuccess o _ | reconcileOne o _
  | recordRecoveryPublishFailure o .. | recordInspectionFailure o .. => some o
  | createRun .. => none

namespace SagaView

/-- The delivery with this token still owns the run. -/
def Current (v : SagaView) (taskId : Option TaskId) : Prop :=
  v.status = .running ∧ v.taskId = taskId

/-- A delivery with this token starts an execution. -/
def Starts (v : SagaView) (supplied : SuppliedTaskId) : Prop :=
  v.status.isActive = true ∧ v.status ≠ .running ∧ tokenMatches v.taskId supplied = true

def setStep (v : SagaView) (p : SC05Portal) (step : StepView) : SagaView :=
  { v with step := Function.update v.step p step }

def setStatus (v : SagaView) (p : SC05Portal) (status : SC05StepStatus) : SagaView :=
  v.setStep p { v.step p with status := status }

def push (v : SagaView) (e : SC05Event) : SagaView := { v with trace := e :: v.trace }

/-- `step.save` on the view. -/
def saveStep (v : SagaView) (p : SC05Portal) (u : StepUpdate) : SagaView :=
  v.setStep p
    { status := u.status.getD (v.step p).status
      before := u.beforeState.getD (v.step p).before
      desired := u.desiredState.getD (v.step p).desired }

/-- A quarantine of a run that was executing. -/
def quarantine (v : SagaView) : SagaView :=
  { v with
    status := .partiallyFailed, taskId := none
    step := fun p => if (v.step p).status = .running then { v.step p with status := .failed }
      else v.step p }

/-- The steps a compensation has to consider, last position first. -/
def candidates (v : SagaView) : List (SC05Portal × StepView) :=
  (v.action.order.map fun p => (p, v.step p)).reverse.filter fun s => !s.2.before.isEmpty

def hasResidualState (v : SagaView) : Bool :=
  v.action.order.any fun p => match (v.step p).status with
    | .running | .applied | .compensationFailed => true
    | _ => false

end SagaView

end SheepContabil
