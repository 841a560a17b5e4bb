import SheepContabil.Spec.Sc04Run

/-!
# The table of the runs under every writer

The runs of SC-04, SC-05 and SC-20, the messages of the broker, the deliveries in
execution, and the transactions of the web, the scheduler, the publication, the
reconciler and the workers. A step is one transaction or one call of the broker; the
steps of the programs interleave in any order, and a program that crashes takes no
further step.

* `RunTable`: the rows, the unique keys of the scheduler, claims and messages.
* `PulseClock.due`: which schedules `_handle_pulse` prepares.
* `RunTable.step`: what a step does; `runTable`: a history of steps.
-/

namespace SheepContabil

open SC05Operation (Recovery)

/-- The `idempotency_key` of a scheduled run: its module and its competence. -/
inductive ScheduleKey where
  | sc04 (year month day : ℕ)
  | sc20 (year month : ℕ)
  deriving DecidableEq, Repr

def ScheduleKey.module : ScheduleKey → ModuleCode
  | sc04 .. => .sc04
  | sc20 .. => .sc20

/-- What `_handle_pulse` reads: the local time, `--force`, and the modules that are enabled. -/
structure PulseClock where
  year : ℕ
  month : ℕ
  day : ℕ
  hour : ℕ
  forced : Bool := false
  sc04Enabled : Bool := true
  sc20Enabled : Bool := true
  deriving DecidableEq, Repr

/-- `SC04_DAILY_HOUR` and `SC20_MONTHLY_HOUR`. -/
structure ScheduleSettings where
  sc04DailyHour : ℕ := 8
  sc20MonthlyHour : ℕ := 8
  deriving DecidableEq, Repr

/-- The schedules a pulse prepares. The competence of SC-20 is that of the first of the month. -/
def PulseClock.due (clock : PulseClock) (settings : ScheduleSettings) : List ScheduleKey :=
  (if clock.sc04Enabled && (clock.forced || decide (settings.sc04DailyHour ≤ clock.hour)) then
    [.sc04 clock.year clock.month clock.day] else []) ++
  (if clock.sc20Enabled &&
      (clock.forced || decide (1 < clock.day) || decide (settings.sc20MonthlyHour ≤ clock.hour)) then
    [.sc20 clock.year clock.month] else [])

/-- A message of the broker: the argument of the task and its identifier. -/
structure Message where
  run : RunId
  taskId : TaskId
  deriving DecidableEq, Repr

/-- A delivery in execution: the run as `_start_run` returned it. -/
structure Worker where
  run : RunId
  loaded : AutomationRun
  deriving DecidableEq, Repr

structure RunTable where
  runs : RunId → Option AutomationRun := fun _ => none
  runCount : ℕ := 0
  keys : RunId → Option ScheduleKey := fun _ => none
  nextTaskId : TaskId := 0
  /-- The upload requests whose ingestion is not over. -/
  uploads : List RunId := []
  /-- The tokens that a program has taken to publish. -/
  claims : List Message := []
  /-- What the broker has accepted. A message stays, to be delivered late or again. -/
  messages : List Message := []
  workers : List Worker := []
  /-- The automatic recoveries of a run since its creation, or since the last time that the user
  resumed it or the scheduler put it back on the queue. -/
  recoveries : RunId → ℕ := fun _ => 0

/-- The writes of a worker that executes. -/
inductive WorkerWrite where
  | touch
  | sc04IngestionFailures (n : ℕ)
  | sc04Recompute (counts : SC04Counts)
  | sc04UnhandledFailure (exc : String)
  | sc05FinishSucceeded (applied unchanged : ℕ)
  | sc05FinishFailed (error : SC05Error) (compensationFailed : Bool)
  | sc20FinishRun (retry : Bool) (result : SC20ExecutionResult)
  | sc20UnhandledFailure (ambiguous : Bool) (exc : String)

/-- The modules whose workers make a write. -/
def WorkerWrite.belongs : WorkerWrite → ModuleCode → Bool
  | touch, module => module != .sc06
  | sc04IngestionFailures _, module | sc04Recompute _, module | sc04UnhandledFailure _, module =>
    module == .sc04
  | sc05FinishSucceeded .., module | sc05FinishFailed .., module => module == .sc05
  | sc20FinishRun .., module | sc20UnhandledFailure .., module => module == .sc20

/-- What a write of a worker that loaded `loaded` does to the row. -/
def WorkerWrite.apply (loaded : AutomationRun) (now : ℕ) : WorkerWrite → AutomationRun →
    AutomationRun
  | touch, run => run.touchRun loaded.taskId now
  | sc04IngestionFailures n, run => run.saveIngestionFailures loaded n
  | sc04Recompute counts, run => run.recompute counts loaded.taskId false now
  | sc04UnhandledFailure exc, run => run.finishUnhandledFailure exc loaded.taskId now
  | sc05FinishSucceeded applied unchanged, run =>
    run.finishSucceededSc05 applied unchanged loaded.taskId now
  | sc05FinishFailed error compensationFailed, run =>
    run.finishFailedSc05 error compensationFailed loaded.taskId now
  | sc20FinishRun retry result, run => run.finishRunSc20 retry result loaded.taskId now
  | sc20UnhandledFailure ambiguous exc, run =>
    run.recordUnhandledFailureSc20 ambiguous exc loaded.taskId now

inductive RunStep where
  /-- The first transaction of `create_manual_sc04_run`. -/
  | createUpload (now : ℕ)
  /-- Its second transaction, once a new document is ingested. -/
  | queueUpload (r : RunId) (now : ℕ)
  /-- `_fail_run_before_processing`. -/
  | failUpload (r : RunId) (exc safeMessage : String) (now : ℕ)
  /-- `create_manual_sc04_inbox_run`, `create_sc05_run_result` or `create_sc20_run`. -/
  | createQueued (module : ModuleCode) (now : ℕ) (operation : OperationDisplay := {})
  /-- `recompute_sc04_run` without a token: a review, a retried route, an upload without new
  documents, or the reconciler. -/
  | recompute (r : RunId) (counts : SC04Counts) (preserveTerminalStatus : Bool) (now : ℕ)
  /-- `resume_sc05_run`, by the user. -/
  | resumeSc05 (r : RunId) (sequence : ℕ) (now : ℕ)
  /-- `prepare_scheduled_sc04_run` or `prepare_scheduled_sc20_run`, by a pulse. -/
  | schedule (clock : PulseClock) (key : ScheduleKey) (now : ℕ)
  /-- The first transaction of `dispatch_run`. -/
  | dispatchStart (r : RunId) (now : ℕ)
  /-- The broker accepts `apply_async`, whatever it then reports. -/
  | publish (m : Message)
  /-- `_record_dispatch_failure`. -/
  | recordDispatchFailure (m : Message) (status : RunStatus) (exc : String) (now : ℕ)
  /-- `_record_dispatch_success`. -/
  | recordDispatchSuccess (m : Message) (now : ℕ)
  /-- `_reconcile_one`. -/
  | reconcileOne (r : RunId) (hasNewItems ambiguous : Bool) (now : ℕ)
  | failEmptyRecoveredSc04 (r : RunId) (now : ℕ)
  | recordRecoveryPublishFailure (m : Message) (exc : String) (now : ℕ)
  | recordInspectionFailure (r : RunId) (exc : String) (now : ℕ)
  /-- The broker delivers a message, for the first time or again. -/
  | deliver (m : Message) (redelivered : Bool) (now : ℕ)
  /-- A delivery in execution writes to the row. -/
  | work (worker : ℕ) (write : WorkerWrite) (now : ℕ)

namespace RunTable

def setRun (s : RunTable) (r : RunId) (run : AutomationRun) : RunTable :=
  { s with runs := Function.update s.runs r (some run) }

/-- One locked update of a row. -/
def updateRun (s : RunTable) (r : RunId) (f : AutomationRun → AutomationRun) : RunTable :=
  match s.runs r with
  | some run => s.setRun r (f run)
  | none => s

/-- A run is inserted. -/
def insertRun (s : RunTable) (run : AutomationRun) (key : Option ScheduleKey) : RunTable :=
  { s.setRun s.runCount run with
    runCount := s.runCount + 1
    keys := Function.update s.keys s.runCount key
    recoveries := Function.update s.recoveries s.runCount 0 }

/-- The fields of a run that is created in the queue. -/
def queuedRun (module : ModuleCode) (trigger : RunTrigger) (now : ℕ) (fresh : TaskId)
    (operation : OperationDisplay := {}) : AutomationRun where
  module := module
  trigger := trigger
  status := .queued
  taskId := some fresh
  summary := AutomationRun.queuedSummary module trigger operation
  operation := operation
  queuedAt := some now
  createdAt := now

/-- `prepare_scheduled_sc04_run` and `prepare_scheduled_sc20_run`: `get_or_create` of the unique
key, then the test of the existing run. -/
def prepareScheduled (s : RunTable) (key : ScheduleKey) (now : ℕ) : RunTable :=
  match (List.range s.runCount).find? fun r => s.keys r == some key with
  | none => s.insertRun (queuedRun key.module .scheduled now s.nextTaskId) (some key)
  | some r =>
    match s.runs r with
    | none => s
    | some run =>
      if run.dispatchFailedBeforeStart then
        { s.setRun r (run.requeueScheduled now s.nextTaskId) with
          recoveries := Function.update s.recoveries r 0 }
      else s

/-- The first transaction of `dispatch_run`, which takes the token to publish. -/
def dispatchStart (s : RunTable) (r : RunId) (now : ℕ) : RunTable :=
  match s.runs r with
  | none => s
  | some run =>
    match run.dispatchStart now s.nextTaskId with
    | (.started t, run') => { s.setRun r run' with claims := s.claims ++ [⟨r, t⟩] }
    | _ => s

/-- `_reconcile_one`, which takes the token of a recovery to publish. -/
def reconcileOne (s : RunTable) (settings : Settings) (r : RunId) (hasNewItems ambiguous : Bool)
    (now : ℕ) : RunTable :=
  match s.runs r with
  | none => s
  | some run =>
    match run.reconcileOne ambiguous settings now hasNewItems s.nextTaskId with
    | (.requeued t, run') =>
      { s.setRun r run' with
        claims := s.claims ++ [⟨r, t⟩]
        recoveries := Function.update s.recoveries r (s.recoveries r + 1) }
    | (_, run') => s.setRun r run'

/-- A delivery starts: the transaction that decides whether it executes. -/
def deliver (s : RunTable) (settings : Settings) (m : Message) (redelivered : Bool) (now : ℕ) :
    RunTable :=
  match s.runs m.run with
  | none => s
  | some run =>
    match run.startDelivery (.uuid m.taskId) redelivered settings now with
    | .ignored => s
    | .closed run' => s.setRun m.run run'
    | .resumed run' =>
      { s.setRun m.run run' with
        workers := s.workers ++ [⟨m.run, run'⟩]
        recoveries := Function.update s.recoveries m.run (s.recoveries m.run + 1) }
    | .started run' => { s.setRun m.run run' with workers := s.workers ++ [⟨m.run, run'⟩] }

/-- What a step does. A step that its program cannot take does nothing. -/
def perform (settings : Settings) (schedules : ScheduleSettings) (s : RunTable) :
    RunStep → RunTable
  | .createUpload now =>
    { s.insertRun { module := .sc04, summary := AutomationRun.uploadSummary, createdAt := now } none with
      uploads := s.uploads ++ [s.runCount] }
  | .queueUpload r now =>
    if r ∈ s.uploads then
      { s.updateRun r fun run => run.queueManualSc04 now s.nextTaskId with
        uploads := s.uploads.filter (· != r) }
    else s
  | .failUpload r exc safeMessage now =>
    if r ∈ s.uploads then
      { s.updateRun r fun run => run.failBeforeProcessing exc safeMessage now with
        uploads := s.uploads.filter (· != r) }
    else s
  | .createQueued module now operation =>
    if module = .sc06 then s
    else s.insertRun (queuedRun module .manual now s.nextTaskId operation) none
  | .recompute r counts preserveTerminalStatus now =>
    s.updateRun r fun run =>
      if run.module = .sc04 then run.recompute counts none preserveTerminalStatus now else run
  | .resumeSc05 r sequence now =>
    match s.runs r with
    | none => s
    | some run =>
      if run.module = .sc05 ∧ run.status = .partiallyFailed then
        { s.setRun r (run.resumeSc05 sequence now s.nextTaskId) with
          recoveries := Function.update s.recoveries r 0 }
      else s
  | .schedule clock key now => if key ∈ clock.due schedules then s.prepareScheduled key now else s
  | .dispatchStart r now => s.dispatchStart r now
  | .publish m => if m ∈ s.claims then { s with messages := s.messages ++ [m] } else s
  | .recordDispatchFailure m status exc now =>
    -- SC-05 asks for `PARTIALLY_FAILED` when it dispatches a resumed operation
    if m ∈ s.claims ∧ (status = .failed ∨ status = .partiallyFailed) then
      s.updateRun m.run fun run => run.recordDispatchFailure m.taskId status exc now
    else s
  | .recordDispatchSuccess m now =>
    if m ∈ s.claims then s.updateRun m.run fun run => run.recordDispatchSuccess m.taskId now else s
  | .reconcileOne r hasNewItems ambiguous now =>
    s.reconcileOne settings r hasNewItems ambiguous now
  | .failEmptyRecoveredSc04 r now =>
    s.updateRun r fun run =>
      if run.module = .sc04 then run.failEmptyRecoveredSc04 now else run
  | .recordRecoveryPublishFailure m exc now =>
    if m ∈ s.claims then
      s.updateRun m.run fun run => run.recordRecoveryPublishFailure m.taskId exc now
    else s
  | .recordInspectionFailure r exc now =>
    s.updateRun r fun run => run.recordInspectionFailure exc now
  | .deliver m redelivered now =>
    if m ∈ s.messages then s.deliver settings m redelivered now else s
  | .work worker write now =>
    match s.workers[worker]? with
    | none => s
    | some k =>
      if write.belongs k.loaded.module then s.updateRun k.run (write.apply k.loaded now) else s

/-- A step, whose `uuid4()` is the next token whether it uses it or not. -/
def step (settings : Settings) (schedules : ScheduleSettings) (s : RunTable) (x : RunStep) :
    RunTable :=
  { s.perform settings schedules x with nextTaskId := s.nextTaskId + 1 }

end RunTable

/-- The table after a history of steps, from no run at all. -/
def runTable (settings : Settings) (schedules : ScheduleSettings) (xs : List RunStep) : RunTable :=
  xs.foldl (RunTable.step settings schedules) {}

end SheepContabil
