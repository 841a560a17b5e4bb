import SheepContabil.Spec.Sc04Delivery
import SheepContabil.Spec.Sc04Intake

/-!
# The result of a triage of the inbox

The passes of `execute_sc04` over the attachments of an inbox, and the result that
`recompute_sc04_run` writes. A pass takes the attachments in their order, and counts those whose
ingestion raises; it may end anywhere, and a redelivery or a requeue starts another. Other runs
ingest documents in between, and a call of an interrupted pass may still go on.

* `InboxRun.step`: one step of a pass, of the ingestions, of the processing or of a recomputation.
* `InboxRun.counted`: the attachments behind the failures in the metadata, which no function reads.
* `Accounted`: what the result should say of the attachments.
-/

namespace SheepContabil

open Py

/-- An attachment of the inbox; `validated` is what `validate_document` returns, if it does not
raise. -/
structure InboxAttachment where
  sourceReference : String
  validated : Option ValidatedDocument

/-- An execution of `_ingest_inbox`: the run as it was loaded, the attachments it has taken, the
call in progress, and the attachments that failed. -/
structure InboxPass where
  loaded : AutomationRun
  position : ℕ := 0
  call : Option ℕ := none
  failed : List ℕ := []
  listed : Bool := false

structure InboxRun where
  run : AutomationRun
  intake : IntakeState := {}
  statuses : DocumentId → DocumentStatus := fun _ => .queued
  pass : Option InboxPass := none
  counted : List ℕ := []

inductive InboxStep where
  /-- `_start_run` of a delivery. -/
  | start (taskId : SuppliedTaskId) (resumeInterrupted : Bool) (now : ℕ)
  /-- `_ingest_inbox` takes the next attachment. -/
  | next
  /-- The call of `ingest_document` has ended: its exception is counted. -/
  | settle
  /-- The listing is over, and the update of the metadata. -/
  | record
  /-- The delivery ends, or is interrupted. -/
  | stop
  /-- A step of a call of `ingest_document`, or a call for another run. -/
  | intake (x : IntakeStep)
  /-- The processing of a document, or its review. -/
  | status (d : DocumentId) (status : DocumentStatus)
  /-- Another transaction on the row. It keeps `ingestion_failures`. -/
  | write (run : AutomationRun)
  /-- `recompute_sc04_run`. -/
  | recompute (expectedTaskId : Option TaskId) (preserveTerminalStatus : Bool) (now : ℕ)

namespace InboxAttachment

/-- The call of `ingest_document` for a run. -/
def call (a : InboxAttachment) (r : RunId) (validated : ValidatedDocument) : IngestCall where
  run := r
  source := some .simulatedInbox
  sourceReference := a.sourceReference
  validated := validated

end InboxAttachment

namespace IntakeTables

/-- The documents of the items of a run with an outcome, each once. -/
def documentsOf (s : IntakeTables) (r : RunId) (outcome : DocumentRunOutcome) : List DocumentId :=
  ((s.items.filter fun item => item.run == r && item.outcome == outcome).map fun item =>
    s.documentOf item.intake).dedup

/-- The counts of `recompute_sc04_run`. -/
def counts (s : IntakeTables) (statuses : DocumentId → DocumentStatus) (r : RunId) :
    SC04Counts where
  items := s.items.countP (·.run == r)
  duplicates := s.items.countP fun item => item.run == r && item.outcome != .new
  newItems := s.items.countP fun item => item.run == r && item.outcome == .new
  routed := (s.documentsOf r .new).countP fun d => statuses d == .routed
  awaitingReview := (s.documentsOf r .new).countP fun d => statuses d == .awaitingReview
  inProgress := (s.documentsOf r .new).countP fun d =>
    statuses d == .queued || statuses d == .processing
  duplicateFailed := (s.documentsOf r .duplicateHash).countP fun d => statuses d == .failed
  newFailed := (s.documentsOf r .new).countP fun d => statuses d == .failed

end IntakeTables

namespace InboxRun

section Steps

variable (r : RunId) (listing : List InboxAttachment) (settings : Settings) (s : InboxRun)

/-- A delivery starts, when none executes. -/
def start (taskId : SuppliedTaskId) (resumeInterrupted : Bool) (now : ℕ) : InboxRun :=
  match s.pass, s.run.startSc04 taskId resumeInterrupted settings now with
  | none, .closed run => { s with run }
  | none, .resumed run | none, .started run => { s with run, pass := some { loaded := run } }
  | _, _ => s

/-- `validate_document` of the next attachment, and the call of `ingest_document`. -/
def next : InboxRun :=
  match s.pass with
  | none => s
  | some p =>
    if p.call.isSome then s
    else match listing[p.position]? with
      | none => s
      | some a =>
        match a.validated with
        | none =>
          { s with pass := some { p with
              position := p.position + 1, failed := p.failed ++ [p.position] } }
        | some validated =>
          { s with
            intake := s.intake.step (.start (a.call r validated))
            pass := some { p with
              position := p.position + 1, call := some s.intake.processes.length } }

/-- The end of the call. -/
def settle : InboxRun :=
  match s.pass with
  | none => s
  | some p =>
    match p.call.bind fun i => s.intake.processes[i]? with
    | some (.ended (.ok _)) => { s with pass := some { p with call := none } }
    | some (.ended (.error _)) =>
      { s with pass := some { p with call := none, failed := p.failed ++ [p.position - 1] } }
    | _ => s

/-- `if ingestion_failures` of `execute_sc04`. -/
def record : InboxRun :=
  match s.pass with
  | none => s
  | some p =>
    if p.call.isSome || p.listed || decide (p.position < listing.length) then s
    else if p.failed.length ≠ 0 then
      { s with
        run := s.run.saveIngestionFailures p.loaded p.failed.length
        pass := some { p with listed := true }
        counted := p.failed }
    else { s with pass := some { p with listed := true } }

/-- What a step does. A step that its program cannot take does nothing. -/
def step : InboxStep → InboxRun
  | .start taskId resumeInterrupted now => s.start settings taskId resumeInterrupted now
  | .next => s.next r listing
  | .settle => s.settle
  | .record => s.record listing
  | .stop => { s with pass := none }
  | .intake (.start c) =>
    if c.run = r then s else { s with intake := s.intake.step (.start c) }
  | .intake x => { s with intake := s.intake.step x }
  | .status d status => { s with statuses := Function.update s.statuses d status }
  | .write run =>
    if run.metadata.ingestionFailures = s.run.metadata.ingestionFailures then { s with run } else s
  | .recompute expectedTaskId preserveTerminalStatus now =>
    { s with
      run := s.run.recompute (s.intake.tables.counts s.statuses r) expectedTaskId
        preserveTerminalStatus now }

end Steps

/-- After `create_manual_sc04_inbox_run`, or `prepare_scheduled_sc04_run`. -/
def queued (trigger : RunTrigger) (fresh : TaskId) (now : ℕ) : InboxRun where
  run :=
    { module := .sc04, trigger := trigger, status := .queued, taskId := some fresh
      summary := AutomationRun.queuedSummary .sc04 trigger {}, queuedAt := some now
      createdAt := now }

/-- The state after the steps. -/
def after (r : RunId) (listing : List InboxAttachment) (settings : Settings) (s : InboxRun)
    (xs : List InboxStep) : InboxRun :=
  xs.foldl (fun s x => s.step r listing settings x) s

section Claims

variable (r : RunId) (listing : List InboxAttachment) (s : InboxRun)

/-- A pass has ingested the attachment: its source has an item of the run. -/
def Ingested (j : ℕ) : Prop :=
  ∃ a, listing[j]? = some a ∧ ∃ item ∈ s.intake.tables.items, item.run = r ∧
    ∃ intake, s.intake.tables.intakes[item.intake]? = some intake ∧
      intake.source = .simulatedInbox ∧ intake.sourceReference = strip a.sourceReference

/-- The result, over the counts of the tables: every attachment is received, none that was
ingested is counted as a failure, and what is received is what became of it. -/
def Accounted : Prop :=
  ∃ result, s.run.metadata.result = some result ∧
    result.received = listing.length ∧
    (∀ j ∈ s.counted, ¬ s.Ingested r listing j) ∧
    result.received + (s.intake.tables.counts s.statuses r).duplicateFailed =
      result.routed + result.awaitingReview + (s.intake.tables.counts s.statuses r).inProgress +
        result.duplicates + result.failed

/-- The attachments that failed in the last pass with failures are those that no pass ingested. -/
def FailedStayFailed : Prop :=
  ∀ j < listing.length, j ∈ s.counted ↔ ¬ s.Ingested r listing j

end Claims

end InboxRun

end SheepContabil
