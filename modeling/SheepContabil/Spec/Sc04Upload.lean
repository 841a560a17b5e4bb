import SheepContabil.Spec.RunTable

/-!
# A manual upload against the reconciler and the workers

One SC-04 run from the first transaction of `create_manual_sc04_run` on: the request that
goes on with it, the passes of `reconcile_stale_runs` over it, the messages of the broker
and the deliveries in execution. A step is one transaction or one call of the broker, and
the programs interleave in any order; the request and a pass may die at any point.

* `UploadRequest`, `PassStage`: where the request and a pass are.
* `UploadState.step`: what a step does; `UploadState.after`: a history of steps.
* `NeverRewinds`, `Recoverable`: what the request may do, and what it may leave.
-/

namespace SheepContabil

open SC05Operation (Recovery)

/-- What `apply_async` does: a broker that accepts the message may still make it raise. -/
inductive BrokerOutcome where
  | accepted
  | acceptedAndRaised
  | refused
  deriving DecidableEq, Repr

/-- A program that publishes a token it has taken: before `apply_async`, or after it. -/
inductive Publication where
  | claimed (t : TaskId)
  | returned (t : TaskId)
  | raised (t : TaskId)
  deriving DecidableEq, Repr

/-- The request: in `ingest_document`, before `dispatch_run`, inside it, or at its end. -/
inductive UploadRequest where
  | ingesting
  | queued
  | dispatching (p : Publication)
  | ended
  deriving DecidableEq, Repr

/-- A pass after its `_reconcile_one` of the run. -/
inductive PassStage where
  | publishing (p : Publication)
  | recomputing
  | closingEmpty
  | ended
  deriving DecidableEq, Repr

structure UploadState where
  run : AutomationRun
  request : UploadRequest := .ingesting
  passes : List PassStage := []
  /-- The tokens of the messages the broker has accepted. -/
  messages : List TaskId := []
  /-- The deliveries in execution, as `_start_run` returned the run. -/
  workers : List AutomationRun := []
  nextTaskId : TaskId := 0

inductive UploadStep where
  /-- The second transaction of `create_manual_sc04_run`: the document is new. -/
  | queue (now : ℕ)
  /-- `_fail_run_before_processing`: the ingestion raised. -/
  | failUpload (exc safeMessage : String) (now : ℕ)
  /-- `recompute_sc04_run` of the request: the document is not new. -/
  | recomputeUpload (counts : SC04Counts) (now : ℕ)
  /-- The first transaction of `dispatch_run`. -/
  | dispatchStart (now : ℕ)
  /-- `apply_async` of `dispatch_run`. -/
  | publish (outcome : BrokerOutcome)
  /-- `_record_dispatch_success` or `_record_dispatch_failure`. -/
  | recordDispatch (exc : String) (now : ℕ)
  | crashRequest
  /-- `_reconcile_one` of some pass. -/
  | reconcileOne (hasNewItems : Bool) (now : ℕ)
  | recordInspectionFailure (exc : String) (now : ℕ)
  /-- `recompute_sc04_run` of a pass that gave the run up. -/
  | recomputeRecovered (pass : ℕ) (counts : SC04Counts) (now : ℕ)
  | failEmptyRecovered (pass : ℕ) (now : ℕ)
  /-- `publish_claimed_run`. -/
  | publishClaimed (pass : ℕ) (outcome : BrokerOutcome)
  /-- `confirm_claimed_run`. -/
  | confirmClaimed (pass : ℕ) (now : ℕ)
  /-- `_record_recovery_publish_failure`. -/
  | recordPublishFailure (pass : ℕ) (exc : String) (now : ℕ)
  | crashPass (pass : ℕ)
  /-- The broker delivers a message, for the first time or again. -/
  | deliver (t : TaskId) (redelivered : Bool) (now : ℕ)
  /-- A delivery in execution writes to the row. -/
  | work (worker : ℕ) (write : WorkerWrite) (now : ℕ)

/-- The steps of the web request. -/
def UploadStep.ofRequest : UploadStep → Bool
  | queue _ | failUpload .. | recomputeUpload .. | dispatchStart _ | publish _ | recordDispatch .. => true
  | _ => false

/-- What the call of the broker makes of a token to publish. -/
def Publication.afterCall (t : TaskId) : BrokerOutcome → Publication
  | .accepted => .returned t
  | _ => .raised t

namespace UploadState

/-- After the first transaction of `create_manual_sc04_run`. -/
def created (now : ℕ) : UploadState where
  run := { module := .sc04, summary := AutomationRun.uploadSummary, createdAt := now }

/-- The broker keeps what it accepts, to deliver it late or again. -/
def accept (s : UploadState) (t : TaskId) : BrokerOutcome → UploadState
  | .refused => s
  | _ => { s with messages := s.messages ++ [t] }

def setPass (s : UploadState) (pass : ℕ) (stage : PassStage) : UploadState :=
  { s with passes := s.passes.set pass stage }

/-- `_reconcile_one`, and what it leaves to do to its pass. -/
def reconcileOne (s : UploadState) (settings : Settings) (hasNewItems : Bool) (now : ℕ) :
    UploadState :=
  match s.run.reconcileOne false settings now hasNewItems s.nextTaskId with
  | (.requeued t, run) => { s with run, passes := s.passes ++ [.publishing (.claimed t)] }
  | (.failed, run) =>
    -- `_fail_pending_sc04` recomputes nothing
    if s.run.status = .pending then { s with run }
    else { s with run, passes := s.passes ++ [.recomputing] }
  | (_, run) => { s with run }

/-- `_start_run` of a delivery. -/
def deliver (s : UploadState) (settings : Settings) (t : TaskId) (redelivered : Bool) (now : ℕ) :
    UploadState :=
  match s.run.startDelivery (.uuid t) redelivered settings now with
  | .ignored => s
  | .closed run => { s with run }
  | .resumed run | .started run => { s with run, workers := s.workers ++ [run] }

/-- What a step does. A step that its program cannot take does nothing. -/
def perform (settings : Settings) (s : UploadState) : UploadStep → UploadState
  | .queue now =>
    if s.request = .ingesting then
      { s with run := s.run.queueManualSc04 now s.nextTaskId, request := .queued }
    else s
  | .failUpload exc safeMessage now =>
    if s.request = .ingesting then
      { s with run := s.run.failBeforeProcessing exc safeMessage now, request := .ended }
    else s
  | .recomputeUpload counts now =>
    if s.request = .ingesting then
      { s with run := s.run.recompute counts none false now, request := .ended }
    else s
  | .dispatchStart now =>
    if s.request = .queued then
      match s.run.dispatchStart now s.nextTaskId with
      | (.started t, run) => { s with run, request := .dispatching (.claimed t) }
      | _ => { s with request := .ended }
    else s
  | .publish outcome =>
    match s.request with
    | .dispatching (.claimed t) =>
      { s.accept t outcome with request := .dispatching (.afterCall t outcome) }
    | _ => s
  | .recordDispatch exc now =>
    match s.request with
    | .dispatching (.returned t) =>
      { s with run := s.run.recordDispatchSuccess t now, request := .ended }
    | .dispatching (.raised t) =>
      { s with run := s.run.recordDispatchFailure t .failed exc now, request := .ended }
    | _ => s
  | .crashRequest => { s with request := .ended }
  | .reconcileOne hasNewItems now => s.reconcileOne settings hasNewItems now
  | .recordInspectionFailure exc now => { s with run := s.run.recordInspectionFailure exc now }
  | .recomputeRecovered pass counts now =>
    if s.passes[pass]? = some .recomputing then
      { s.setPass pass (if (s.run.recomputedResult counts).received = 0 then .closingEmpty else .ended)
        with run := s.run.recompute counts none true now }
    else s
  | .failEmptyRecovered pass now =>
    if s.passes[pass]? = some .closingEmpty then
      { s.setPass pass .ended with run := s.run.failEmptyRecoveredSc04 now }
    else s
  | .publishClaimed pass outcome =>
    match s.passes[pass]? with
    | some (.publishing (.claimed t)) =>
      (s.accept t outcome).setPass pass (.publishing (.afterCall t outcome))
    | _ => s
  | .confirmClaimed pass now =>
    match s.passes[pass]? with
    | some (.publishing (.returned t)) =>
      { s.setPass pass .ended with run := s.run.recordDispatchSuccess t now }
    | _ => s
  | .recordPublishFailure pass exc now =>
    -- the confirmation may raise as well
    match s.passes[pass]? with
    | some (.publishing (.returned t)) | some (.publishing (.raised t)) =>
      { s.setPass pass .ended with run := s.run.recordRecoveryPublishFailure t exc now }
    | _ => s
  | .crashPass pass => s.setPass pass .ended
  | .deliver t redelivered now =>
    if t ∈ s.messages then s.deliver settings t redelivered now else s
  | .work worker write now =>
    match s.workers[worker]? with
    | none => s
    | some loaded =>
      if write.belongs .sc04 then { s with run := write.apply loaded now s.run } else s

/-- A step, whose `uuid4()` is the next token whether it uses it or not. -/
def step (settings : Settings) (s : UploadState) (x : UploadStep) : UploadState :=
  { s.perform settings x with nextTaskId := s.nextTaskId + 1 }

/-- The state after the steps. -/
def after (settings : Settings) (s : UploadState) (xs : List UploadStep) : UploadState :=
  xs.foldl (step settings) s

/-- The request moves the run to the queue, or gives it another token, from `PENDING` only. -/
def NeverRewinds (settings : Settings) (s : UploadState) : Prop :=
  ∀ x : UploadStep, x.ofRequest = true →
    (s.run.status ≠ .queued ∧ (s.step settings x).run.status = .queued ∨
      (s.step settings x).run.taskId ≠ s.run.taskId) → s.run.status = .pending

/-- Neither the request nor a pass is in progress. -/
def Quiet (s : UploadState) : Prop := s.request = .ended ∧ ∀ stage ∈ s.passes, stage = .ended

/-- A run that waits in the queue has its message, or the reconciler finds it stale in time. -/
def Recoverable (s : UploadState) : Prop :=
  s.Quiet → s.run.status = .queued →
    (∃ t ∈ s.messages, s.run.taskId = some t) ∨
      s.run.brokerPublishedAt = none ∧
        ∃ since : ℤ, ∀ queuedCutoff runningCutoff : ℤ, since ≤ queuedCutoff →
          s.run.isStillStale queuedCutoff runningCutoff = true

/-- A pass finds the run `PENDING` and stale while the request is still ingesting. -/
def takesUpload (settings : Settings) (s : UploadState) : UploadStep → Bool
  | .reconcileOne _ now =>
    s.request == .ingesting &&
      s.run.isStillStale ((now : ℤ) - settings.queuedStaleAfterSeconds)
        ((now : ℤ) - settings.runningStaleAfterSeconds)
  | _ => false

/-- No step of the history takes the run of an upload in progress. -/
def LeavesUpload (settings : Settings) : UploadState → List UploadStep → Prop
  | _, [] => True
  | s, x :: xs => s.takesUpload settings x = false ∧ LeavesUpload settings (s.step settings x) xs

end UploadState

end SheepContabil
