import SheepContabil.Spec.Sc04Delivery
import SheepContabil.Spec.Sc04Intake
import SheepContabil.Spec.Sc04Upload
import SheepContabil.Spec.Sc05Saga

/-!
# A pass of the reconciler

`reconcile_stale_runs` selects its candidates with a query, takes each of them in turn,
and reports what it did; with `dry_run` it only reports. The rows of a run alone are in
`AutomationRun.reconcileOne`; here are the tables around it: the operations of SC-05 and
their clients, the items and documents of SC-04, and what the broker accepts.

* `AutomationRun.isCandidate`: the filter of the query, column by column.
* `AutomationRun.previewAction`: what a dry run reports of a stale run.
* `ReconcilerTables.reconcileOne`, `inspect`, `reconcile`: one run, with its publication,
  and a pass.
* `ReconcilerTables.reconcileBatches`: passes over a bounded number of runs each.
-/

namespace SheepContabil

open SC05Operation (Recovery)

/-- The `action` of a `_RunOutcome`. -/
inductive RunAction where
  | requeued | quarantined | failed | skipped
  deriving DecidableEq, Repr

def SC05Operation.Recovery.action : Recovery → RunAction
  | .requeued _ => .requeued
  | .quarantined => .quarantined
  | .failed => .failed
  | .skipped => .skipped

/-- `<column>__lte`: a null column is not selected. -/
def onOrBefore (column : Option ℕ) (cutoff : ℤ) : Bool :=
  column.any fun t : ℕ => decide ((t : ℤ) ≤ cutoff)

namespace AutomationRun

/-- The filter of the candidate query of `reconcile_stale_runs`. -/
def isCandidate (run : AutomationRun) (queuedCutoff runningCutoff : ℤ) : Bool :=
  (run.module == .sc04 || run.module == .sc05 || run.module == .sc20) &&
  ((run.module == .sc04 && run.status == .pending && (run.createdAt : ℤ) ≤ queuedCutoff) ||
   (run.status == .queued && run.brokerPublishedAt.isNone &&
     (onOrBefore run.dispatchStartedAt queuedCutoff ||
      (run.dispatchStartedAt.isNone && onOrBefore run.queuedAt queuedCutoff) ||
      (run.dispatchStartedAt.isNone && run.queuedAt.isNone &&
        (run.createdAt : ℤ) ≤ queuedCutoff))) ||
   (run.status == .running && onOrBefore run.heartbeatAt runningCutoff) ||
   (run.status == .running && run.heartbeatAt.isNone &&
     onOrBefore run.startedAt runningCutoff) ||
   (run.status == .running && run.heartbeatAt.isNone && run.startedAt.isNone &&
     (run.createdAt : ℤ) ≤ runningCutoff))

/-- `_preview_action`. -/
def previewAction (run : AutomationRun) (settings : Settings) (hasNewItems ambiguous : Bool) :
    RunAction :=
  match run.status with
  | .pending => if hasNewItems then .requeued else .failed
  | .queued =>
    if run.reconciliationAttempts < settings.reconciliationMaxAttempts then .requeued
    else if run.module == .sc05 && ambiguous then .quarantined
    else .failed
  | _ =>
    if run.module == .sc20 then .quarantined
    else if run.module == .sc05 then .quarantined
    else if run.reconciliationAttempts < settings.reconciliationMaxAttempts then .requeued
    else if run.module == .sc05 then .quarantined
    else .failed

end AutomationRun

/-- A run, alone or with the SC-05 operation it belongs to. -/
inductive RunRow where
  | plain (run : AutomationRun)
  | operation (op : SC05Operation)

namespace RunRow

def run : RunRow → AutomationRun
  | plain run => run
  | operation op => op.run

def withRun (run : AutomationRun) : RunRow → RunRow
  | plain _ => .plain run
  | operation op => .operation { op with run }

/-- The client of the operation. -/
def client? : RunRow → Option ClientId
  | plain _ => none
  | operation op => some op.client

/-- `_close_sc05_interrupted_attempts`, when the run has an operation. -/
def closeInterruptedAttempts (now : ℕ) : RunRow → RunRow
  | plain run => .plain run
  | operation op => .operation (op.closeOrphanAttempts now)

end RunRow

/-- What the reconciler reads of a document: its status, and whether a decision or a review of it
exists. -/
structure ReconciledDocument where
  status : DocumentStatus := .queued
  decided : Bool := false
  reviewed : Bool := false
  deriving DecidableEq, Repr

structure RunItem where
  document : DocumentId
  outcome : DocumentRunOutcome
  deriving DecidableEq, Repr

structure ReconcilerTables where
  rows : List RunRow
  clients : ClientId → SC05Client
  items : RunId → List RunItem := fun _ => []
  documents : DocumentId → ReconciledDocument := fun _ => {}
  nextTaskId : TaskId := 0
  /-- What the broker has accepted. -/
  messages : List Message := []

/-- What `_reconcile_one` returns: the token of a claim is to be published. -/
structure RunOutcome where
  action : RunAction
  claim : Option TaskId := none
  recomputeSc04 : Bool := false
  deriving DecidableEq, Repr

namespace ReconcilerTables

section Reading

variable (s : ReconcilerTables)

/-- `_pending_sc04_has_new_items`. -/
def hasNewItems (r : RunId) : Bool := (s.items r).any fun item => item.outcome == .new

/-- `_sc05_queue_has_ambiguous_state`. -/
def queueHasAmbiguousState : RunRow → Bool
  | .plain run => run.startedAt.isSome
  | .operation op => op.queueHasAmbiguousState (s.clients op.client)

/-- The documents of the items of a run with an outcome, each once. -/
def documentsOf (r : RunId) (outcome : DocumentRunOutcome) : List DocumentId :=
  (((s.items r).filter fun item => item.outcome == outcome).map RunItem.document).dedup

/-- The counts of `recompute_sc04_run`. -/
def counts (r : RunId) : SC04Counts where
  items := (s.items r).length
  duplicates := (s.items r).countP (·.outcome != .new)
  newItems := (s.items r).countP (·.outcome == .new)
  routed := (s.documentsOf r .new).countP fun d => (s.documents d).status == .routed
  awaitingReview := (s.documentsOf r .new).countP fun d => (s.documents d).status == .awaitingReview
  inProgress := (s.documentsOf r .new).countP fun d =>
    (s.documents d).status == .queued || (s.documents d).status == .processing
  duplicateFailed := (s.documentsOf r .duplicateHash).countP fun d =>
    (s.documents d).status == .failed
  newFailed := (s.documentsOf r .new).countP fun d => (s.documents d).status == .failed

/-- The identifiers that the candidate query selects, in the order of `created_at`. -/
def candidateIds (queuedCutoff runningCutoff : ℤ) : List RunId :=
  ((List.range s.rows.length).filter fun r =>
    s.rows[r]?.any fun row => row.run.isCandidate queuedCutoff runningCutoff).mergeSort
      fun r r' => decide ((s.rows[r]?.map (·.run.createdAt)).getD 0 ≤
        (s.rows[r']?.map (·.run.createdAt)).getD 0)

end Reading

section Writing

variable (s : ReconcilerTables)

def setRow (r : RunId) (row : RunRow) : ReconcilerTables := { s with rows := s.rows.set r row }

/-- One locked update of the row of a run. -/
def updateRun (r : RunId) (f : AutomationRun → AutomationRun) : ReconcilerTables :=
  match s.rows[r]? with
  | none => s
  | some row => s.setRow r (row.withRun (f row.run))

/-- The client part of `_quarantine_sc05`. -/
def markClientPartial : Option ClientId → ReconcilerTables
  | none => s
  | some c =>
    { s with clients := Function.update s.clients c { s.clients c with status := .partialState } }

def setDocumentStatus (ids : List DocumentId) (status : DocumentStatus) : ReconcilerTables :=
  { s with documents := fun d =>
      if d ∈ ids then { s.documents d with status := status } else s.documents d }

/-- The documents of `_reset_sc04_interrupted_items`. -/
def resetInterruptedItems (r : RunId) : ReconcilerTables :=
  s.setDocumentStatus ((s.documentsOf r .new).filter fun d =>
    (s.documents d).status == .processing && !(s.documents d).decided && !(s.documents d).reviewed)
    .queued

/-- The documents of `_close_sc04_interrupted_items` with `include_queued`. -/
def closeInterruptedItems (r : RunId) : ReconcilerTables :=
  s.setDocumentStatus ((s.documentsOf r .new).filter fun d =>
    (s.documents d).status == .queued || (s.documents d).status == .processing) .failed

end Writing

section Pass

variable (settings : Settings) (now : ℕ) (s : ReconcilerTables)

/-- The rows that `_reconcile_one` writes beside the run that it recovers, and its outcome. -/
def recover (r : RunId) (row : RunRow) : Recovery × AutomationRun →
    RunOutcome × ReconcilerTables
  | (.skipped, _) => ({ action := .skipped }, s)
  | (.requeued t, run) =>
    let s := if row.run.status = .running then s.resetInterruptedItems r else s
    ({ action := .requeued, claim := some t },
      { s.setRow r (row.withRun run) with nextTaskId := s.nextTaskId + 1 })
  | (.quarantined, run) =>
    if row.run.module = .sc05 then
      let row' := if row.run.status = .running then row.closeInterruptedAttempts now else row
      ({ action := .quarantined }, (s.markClientPartial row.client?).setRow r (row'.withRun run))
    else ({ action := .quarantined }, s.setRow r (row.withRun run))
  | (.failed, run) =>
    if row.run.module = .sc04 ∧ row.run.status ≠ .pending then
      ({ action := .failed, recomputeSc04 := true },
        (s.closeInterruptedItems r).setRow r (row.withRun run))
    else ({ action := .failed }, s.setRow r (row.withRun run))

/-- `_reconcile_one`. A run that does not exist is counted as skipped. -/
def reconcileOne (dryRun : Bool) (r : RunId) : RunOutcome × ReconcilerTables :=
  match s.rows[r]? with
  | none => ({ action := .skipped }, s)
  | some row =>
    if !row.run.isStillStale ((now : ℤ) - settings.queuedStaleAfterSeconds)
        ((now : ℤ) - settings.runningStaleAfterSeconds) then ({ action := .skipped }, s)
    else if dryRun then
      ({ action := row.run.previewAction settings (s.hasNewItems r)
          (s.queueHasAmbiguousState row) }, s)
    else
      s.recover now r row (row.run.reconcileOne (s.queueHasAmbiguousState row) settings now
        (s.hasNewItems r) s.nextTaskId)

/-- `recompute_sc04_run` after a recovery, and `_fail_empty_recovered_sc04`. -/
def recomputeRecovered (r : RunId) : ReconcilerTables :=
  let s' := s.updateRun r fun run => run.recompute (s.counts r) none true now
  if ((s.rows[r]?.map fun row => row.run.recomputedResult (s.counts r)).map
      SC04ExecutionResult.received) = some 0 then
    s'.updateRun r fun run => run.failEmptyRecoveredSc04 now
  else s'

/-- `publish_claimed_run` and `confirm_claimed_run`, with `_record_recovery_publish_failure`. -/
def publish (r : RunId) (t : TaskId) : BrokerOutcome → ReconcilerTables
  | .accepted =>
    ({ s with messages := s.messages ++ [⟨r, t⟩] } : ReconcilerTables).updateRun r fun run =>
      run.recordDispatchSuccess t now
  | .acceptedAndRaised =>
    ({ s with messages := s.messages ++ [⟨r, t⟩] } : ReconcilerTables).updateRun r fun run =>
      run.recordRecoveryPublishFailure t "OperationalError" now
  | .refused => s.updateRun r fun run => run.recordRecoveryPublishFailure t "OperationalError" now

/-- The body of the loop of `reconcile_stale_runs`: what it reports, and the tables after it. -/
def inspect (dryRun : Bool) (broker : RunId → BrokerOutcome) (r : RunId) :
    RunAction × ReconcilerTables :=
  let (outcome, s) := s.reconcileOne settings now dryRun r
  let s := if outcome.recomputeSc04 && !dryRun then s.recomputeRecovered now r else s
  match outcome.claim with
  | none => (outcome.action, s)
  | some t => (outcome.action, if dryRun then s else s.publish now r t (broker r))

/-- The loop of `reconcile_stale_runs`. -/
def reconcile (dryRun : Bool) (broker : RunId → BrokerOutcome) :
    List RunId → ReconcilerTables → List (RunId × RunAction) × ReconcilerTables
  | [], s => ([], s)
  | r :: ids, s =>
    let (action, s) := s.inspect settings now dryRun broker r
    let (report, s) := reconcile dryRun broker ids s
    ((r, action) :: report, s)

/-- `reconcile_stale_runs`, with a batch that holds every candidate. -/
def reconcileStaleRuns (dryRun : Bool) (broker : RunId → BrokerOutcome) :
    List (RunId × RunAction) × ReconcilerTables :=
  reconcile settings now dryRun broker
    (s.candidateIds ((now : ℤ) - settings.queuedStaleAfterSeconds)
      ((now : ℤ) - settings.runningStaleAfterSeconds)) s

/-- The candidates of a pass. -/
abbrev staleIds : List RunId :=
  s.candidateIds ((now : ℤ) - settings.queuedStaleAfterSeconds)
    ((now : ℤ) - settings.runningStaleAfterSeconds)

/-- `reconcile_stale_runs` over the first `batchSize` candidates. -/
def takeBatch (batchSize : ℕ) (broker : RunId → BrokerOutcome) :
    List (RunId × RunAction) × ReconcilerTables :=
  reconcile settings now false broker ((s.staleIds settings now).take batchSize) s

/-- One such pass after the other, one for each behaviour of the broker. -/
def takeBatches (batchSize : ℕ) : List (RunId → BrokerOutcome) → ReconcilerTables →
    List (RunId × RunAction) × ReconcilerTables
  | [], s => ([], s)
  | broker :: brokers, s =>
    let (report, s) := s.takeBatch settings now batchSize broker
    let (reports, s) := takeBatches batchSize brokers s
    (report ++ reports, s)

/-- `reconcile_stale_runs`, with its `batch_size`. -/
def reconcileBatch (batchSize : ℤ) (broker : RunId → BrokerOutcome) :
    Except String (List (RunId × RunAction) × ReconcilerTables) :=
  if batchSize < 1 then .error "batch_size precisa ser maior que zero."
  else .ok (s.takeBatch settings now batchSize.toNat broker)

/-- Calls of `reconcile_stale_runs` one after the other, up to the first that raises. -/
def reconcileBatches (batchSize : ℤ) : List (RunId → BrokerOutcome) → ReconcilerTables →
    Except String (List (RunId × RunAction) × ReconcilerTables)
  | [], s => .ok ([], s)
  | broker :: brokers, s => do
    let (report, s) ← s.reconcileBatch settings now batchSize broker
    let (reports, s) ← reconcileBatches batchSize brokers s
    return (report ++ reports, s)

end Pass

/-- A client has at most one active operation: `create_sc05_run` and `resume_sc05_run` check it
with the client locked. -/
def OneActiveOperation (s : ReconcilerTables) : Prop :=
  ∀ (r r' : RunId) (op op' : SC05Operation),
    s.rows[r]? = some (.operation op) → s.rows[r']? = some (.operation op') →
    op.run.status.isActive = true → op'.run.status.isActive = true → op.client = op'.client → r = r'

end ReconcilerTables

/-- The tables of the reconciler when the operations are those of `s`, with the runs of the other
modules. -/
def SC05State.reconcilerTables {W : Type} (s : SC05State W) (others : List AutomationRun)
    (items : RunId → List RunItem) (documents : DocumentId → ReconciledDocument) :
    ReconcilerTables where
  rows := ((List.range s.operationCount).map fun o => RunRow.operation (s.operations o)) ++
    others.map RunRow.plain
  clients := s.clients
  items := items
  documents := documents
  nextTaskId := s.nextTaskId

end SheepContabil
