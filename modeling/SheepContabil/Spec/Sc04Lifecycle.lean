import SheepContabil.Spec.Sc04Delivery

/-!
# The documents of a run of SC-04, to its end

One run of SC-04 with the documents it ingests as `NEW`, under all of its writers: the upload,
the publication, every delivery (the superseded ones too), the reconciler, the reviews and
the retries of a route. A step is one transaction, or one call of the storage with the
transaction that follows it. Between the transactions of a delivery the order is left
free: each of them tests the run again, and nothing below depends on more.

* `LifecycleState.write`: what a delivery that executes writes.
* `LifecycleState.step`, `LifecycleState.after`: a step of the system, and a history.
* `Finishes`: what a run that is over leaves behind.
* `NoDeadEnd`: what a decision leaves behind.
-/

namespace SheepContabil

/-- A review or a retry is about to copy document `d`. -/
def WebCall.isOn (d : ℕ) : WebCall → Bool
  | .routing e | .copying e => e == d
  | _ => false

/-- The statuses that end a triage. -/
def RunStatus.isFinished : RunStatus → Bool
  | .succeeded | .succeededWithWarnings | .partiallyFailed | .failed => true
  | _ => false

/-- The request of an upload: in `ingest_document`, after it, or at its end. -/
inductive UploadStage where
  | ingesting
  | ingested
  | ended
  deriving DecidableEq, Repr

/-- The writes of a delivery that executes. -/
inductive DeliveryWrite where
  | touch
  /-- `_ingest_inbox`: a document whose content is new. -/
  | ingest
  /-- `execute_sc04` saves the failures of `_ingest_inbox`. -/
  | ingestionFailures (n : ℕ)
  | claim (d : ℕ)
  | openReview (d : ℕ)
  | prepareRoute (d : ℕ)
  | finishRoute (d : ℕ) (outcome : CopyOutcome)
  | markFailed (d : ℕ)
  | recompute (others : OtherItems)
  | unhandledFailure (exc : String)

structure LifecycleState where
  run : AutomationRun
  /-- The source in the parameters of the run: the inbox, or an upload. -/
  inbox : Bool
  upload : UploadStage := .ended
  documents : List RunDocument := []
  /-- The deliveries in execution, as `_start_run` returned the run. -/
  workers : List AutomationRun := []
  /-- The tokens that a `dispatch_run` is publishing. -/
  dispatching : List TaskId := []
  calls : List WebCall := []

inductive LifecycleStep where
  /-- `ingest_document` of the request: the document is new. -/
  | ingestUpload
  /-- `_fail_run_before_processing`: the ingestion raised. -/
  | failUpload (exc safeMessage : String) (now : ℕ)
  /-- `recompute_sc04_run` of the request: the document is not new. -/
  | recomputeUpload (others : OtherItems) (now : ℕ)
  /-- The second transaction of `create_manual_sc04_run`. -/
  | queueUpload (fresh : TaskId) (now : ℕ)
  /-- `prepare_scheduled_sc04_run`, once the run exists. -/
  | requeueScheduled (fresh : TaskId) (now : ℕ)
  /-- The first transaction of `dispatch_run`. -/
  | dispatchStart (fresh : TaskId) (now : ℕ)
  | recordDispatchFailure (t : TaskId) (exc : String) (now : ℕ)
  | recordDispatchSuccess (t : TaskId) (now : ℕ)
  /-- `_start_run` of a delivery. -/
  | start (t : TaskId) (redelivered : Bool) (now : ℕ)
  | work (worker : ℕ) (write : DeliveryWrite) (now : ℕ)
  /-- The transaction of `resolve_document_review`. -/
  | resolveReview (d : ℕ)
  | retryRoute (d : ℕ)
  /-- `_execute_route` of a request: its first transaction. -/
  | callRoute (i : ℕ)
  /-- Its copy, and its last transaction. -/
  | callCopy (i : ℕ) (outcome : CopyOutcome)
  /-- The request raises before that: it has no storage, or no connection. -/
  | callRaise (i : ℕ)
  /-- `recompute_sc04_run` of a request, or of a pass. -/
  | callRecompute (i : ℕ) (others : OtherItems) (now : ℕ)
  | callCrash (i : ℕ)
  /-- `_reconcile_one`. -/
  | reconcileOne (fresh : TaskId) (now : ℕ)
  | failEmptyRecovered (now : ℕ)
  | recordRecoveryPublishFailure (t : TaskId) (exc : String) (now : ℕ)
  | recordInspectionFailure (exc : String) (now : ℕ)

namespace LifecycleState

/-- After the first transaction of `create_manual_sc04_run`. -/
def uploaded (now : ℕ) : LifecycleState where
  run := { module := .sc04, summary := AutomationRun.uploadSummary, createdAt := now }
  inbox := false
  upload := .ingesting

/-- After `create_manual_sc04_inbox_run`, or `prepare_scheduled_sc04_run`. -/
def queuedInbox (trigger : RunTrigger) (fresh : TaskId) (now : ℕ) : LifecycleState where
  run :=
    { module := .sc04, trigger, status := .queued, taskId := some fresh, queuedAt := some now
      summary := AutomationRun.queuedSummary .sc04 trigger {}, createdAt := now }
  inbox := true

/-- The two ways a run of SC-04 begins. -/
def Created (s : LifecycleState) : Prop :=
  (∃ now, s = uploaded now) ∨ ∃ trigger fresh now, s = queuedInbox trigger fresh now

/-- What `recompute_sc04_run` counts. -/
def counts (s : LifecycleState) (others : OtherItems) : SC04Counts :=
  ({ run := s.run, documents := s.documents } : DeliveryState).counts others

/-- `recompute_sc04_run`. -/
def recompute (s : LifecycleState) (others : OtherItems) (expectedTaskId : Option TaskId)
    (preserveTerminalStatus : Bool) (now : ℕ) : LifecycleState :=
  { s with run := s.run.recompute (s.counts others) expectedTaskId preserveTerminalStatus now }

/-- A document under `_lock_current_delivery`. -/
def setLocked (s : LifecycleState) (loaded : AutomationRun) (d : ℕ)
    (f : RunDocument → RunDocument) : LifecycleState :=
  if s.run.isLockedBy loaded.taskId then { s with documents := s.documents.modify d f } else s

/-- What a write of a delivery does, whose `_start_run` returned `loaded`. -/
def write (s : LifecycleState) (loaded : AutomationRun) (now : ℕ) : DeliveryWrite → LifecycleState
  | .touch => { s with run := s.run.touchRun loaded.taskId now }
  | .ingest => if s.inbox then { s with documents := s.documents ++ [{}] } else s
  | .ingestionFailures n =>
    if s.inbox && n != 0 then { s with run := s.run.saveIngestionFailures loaded n } else s
  | .claim d =>
    s.setLocked loaded d fun x => if x.isClaimable then { x with status := .processing } else x
  | .openReview d => s.setLocked loaded d (·.openReview)
  | .prepareRoute d =>
    -- a document has one decision
    s.setLocked loaded d fun x => if x.route.isNone then { x with route := some .pending } else x
  | .finishRoute d outcome =>
    s.setLocked loaded d fun x => if x.route.isSome then x.finishRoute outcome else x
  | .markFailed d => s.setLocked loaded d ({ · with status := .failed })
  | .recompute others => s.recompute others loaded.taskId false now
  | .unhandledFailure exc =>
    { s with run := s.run.finishUnhandledFailure exc loaded.taskId now }

/-- `_start_run`. -/
def start (s : LifecycleState) (settings : Settings) (t : TaskId) (redelivered : Bool) (now : ℕ) :
    LifecycleState :=
  match s.run.startSc04 (.uuid t) redelivered settings now with
  | .ignored => s
  | .closed run => { s with run, documents := s.documents.map RunDocument.close }
  | .resumed run =>
    { s with
      run, documents := s.documents.map RunDocument.reset, workers := s.workers ++ [run] }
  | .started run => { s with run, workers := s.workers ++ [run] }

/-- `_reconcile_one`, which asks whether the run has new items. -/
def reconcileOne (s : LifecycleState) (settings : Settings) (fresh : TaskId) (now : ℕ) :
    LifecycleState :=
  match s.run.reconcileOne false settings now (!s.documents.isEmpty) fresh with
  | (.requeued _, run) =>
    { s with
      run
      documents :=
        if s.run.status = .running then s.documents.map RunDocument.reset else s.documents }
  | (.failed, run) =>
    -- `_fail_pending_sc04` closes and recomputes nothing
    if s.run.status = .pending then { s with run }
    else
      { s with
        run, documents := s.documents.map RunDocument.close
        calls := s.calls ++ [.recomputing true] }
  | (_, run) => { s with run }

/-- What a step does. A step that its program cannot take does nothing. -/
def step (settings : Settings) (s : LifecycleState) : LifecycleStep → LifecycleState
  | .ingestUpload =>
    if s.upload = .ingesting then
      { s with documents := s.documents ++ [{}], upload := .ingested }
    else s
  | .failUpload exc safeMessage now =>
    if s.upload = .ingesting then
      { s with run := s.run.failBeforeProcessing exc safeMessage now, upload := .ended }
    else s
  | .recomputeUpload others now =>
    if s.upload = .ingesting then { s.recompute others none false now with upload := .ended } else s
  | .queueUpload fresh now =>
    if s.upload = .ingested then
      { s with run := s.run.queueManualSc04 now fresh, upload := .ended }
    else s
  | .requeueScheduled fresh now =>
    if s.inbox && s.run.dispatchFailedBeforeStart then
      { s with run := s.run.requeueScheduled now fresh }
    else s
  | .dispatchStart fresh now =>
    match s.run.dispatchStart now fresh with
    | (.started t, run) => { s with run, dispatching := s.dispatching ++ [t] }
    | _ => s
  | .recordDispatchFailure t exc now =>
    if t ∈ s.dispatching then
      { s with run := s.run.recordDispatchFailure t .failed exc now }
    else s
  | .recordDispatchSuccess t now => { s with run := s.run.recordDispatchSuccess t now }
  | .start t redelivered now => s.start settings t redelivered now
  | .work worker write now =>
    match s.workers[worker]? with
    | none => s
    | some loaded => s.write loaded now write
  | .resolveReview d =>
    if (s.documents[d]?).any fun x => x.review == some .pending && x.route.isNone then
      { s with documents := s.documents.modify d (·.resolve), calls := s.calls ++ [.routing d] }
    else s
  | .retryRoute d =>
    if (s.documents[d]?).any fun x => x.route == some .failed then
      { s with calls := s.calls ++ [.routing d] }
    else s
  | .callRoute i =>
    match s.calls[i]? with
    | some (.routing d) =>
      if (s.documents[d]?).any (·.route == some .routed) then
        { s with calls := s.calls.set i (.recomputing false) }
      else { s with calls := s.calls.set i (.copying d) }
    | _ => s
  | .callCopy i outcome =>
    match s.calls[i]? with
    | some (.copying d) =>
      { s with
        documents := s.documents.modify d (·.finishRoute outcome)
        calls := s.calls.set i (.recomputing false) }
    | _ => s
  | .callRaise i =>
    -- `finally`
    match s.calls[i]? with
    | some (.routing _) | some (.copying _) => { s with calls := s.calls.set i (.recomputing false) }
    | _ => s
  | .callRecompute i others now =>
    match s.calls[i]? with
    | some (.recomputing preserve) =>
      { s.recompute others none preserve now with calls := s.calls.set i .ended }
    | _ => s
  | .callCrash i => { s with calls := s.calls.set i .ended }
  | .reconcileOne fresh now => s.reconcileOne settings fresh now
  | .failEmptyRecovered now => { s with run := s.run.failEmptyRecoveredSc04 now }
  | .recordRecoveryPublishFailure t exc now =>
    { s with run := s.run.recordRecoveryPublishFailure t exc now }
  | .recordInspectionFailure exc now => { s with run := s.run.recordInspectionFailure exc now }

/-- The state after the steps. -/
def after (settings : Settings) (s : LifecycleState) (xs : List LifecycleStep) : LifecycleState :=
  xs.foldl (step settings) s

/-- A run that is over has no document in progress, and a success has nothing but routed
documents and no failure of the ingestion. -/
def Finishes (s : LifecycleState) : Prop :=
  (s.run.status.isFinished = true → ∀ d ∈ s.documents, d.isInProgress = false) ∧
    (s.run.status = .succeeded →
      (∀ d ∈ s.documents, d.status = .routed) ∧ s.run.ingestionFailures = 0)

/-- A step abandons a document. A publication fails, or a delivery ends with an exception, while
a document is in progress; a document is ingested into a run that is over; a run that has
succeeded gets a failure of the ingestion. -/
def abandons (s : LifecycleState) : LifecycleStep → Bool
  | .ingestUpload => s.upload == .ingesting && s.run.status.isFinished
  | .recordDispatchFailure t _ _ =>
    decide (t ∈ s.dispatching) && (s.run.taskId == some t && s.run.status == .queued) &&
      s.documents.any RunDocument.isInProgress
  | .work worker write _ =>
    match s.workers[worker]?, write with
    | some _, .ingest => s.inbox && s.run.status.isFinished
    | some _, .ingestionFailures n => (s.inbox && n != 0) && s.run.status == .succeeded
    | some loaded, .unhandledFailure _ =>
      s.run.isLockedBy loaded.taskId && s.documents.any RunDocument.isInProgress
    | _, _ => false
  | _ => false

/-- No step of the history abandons a document. -/
def AbandonsNothing (settings : Settings) : LifecycleState → List LifecycleStep → Prop
  | _, [] => True
  | s, x :: xs => s.abandons x = false ∧ AbandonsNothing settings (s.step settings x) xs

/-- A review or a retry of document `d` is in progress. -/
def calledOn (s : LifecycleState) (d : ℕ) : Bool := s.calls.any (·.isOn d)

/-- A decision ends with its document routed, or failed with a route that can be retried, once no
delivery is pending; and a document that awaits review can be reviewed. -/
def NoDeadEnd (s : LifecycleState) : Prop :=
  ∀ (d : ℕ) (x : RunDocument), s.documents[d]? = some x → s.calledOn d = false →
    (x.route.isSome = true → s.run.status.isActive = false →
      x.status = .routed ∧ x.route = some .routed ∨ x.status = .failed ∧ x.route = some .failed) ∧
    (x.status = .awaitingReview → x.review = some .pending)

/-- Some route waits for a delivery. -/
def routeWaits (s : LifecycleState) : Bool :=
  (List.range s.documents.length).any fun d =>
    (s.documents[d]?).any (·.route == some .pending) && !s.calledOn d

/-- The counts of a recomputation do not keep an active run active. -/
def countsEnd (s : LifecycleState) : Bool :=
  s.documents.any (·.status == .awaitingReview) || !s.documents.any RunDocument.isInProgress

/-- The call gives up its document, and nobody else can go on with it. -/
def givesUp (s : LifecycleState) (i d : ℕ) : Bool :=
  !(({ s with calls := s.calls.set i .ended } : LifecycleState).calledOn d) &&
    (s.documents[d]?).any fun x =>
      x.status == .awaitingReview && !(x.route.isNone && x.review == some .pending) ||
        x.route == some .pending && !s.run.status.isActive

/-- A step leads a decision into a dead end. The run stops while a route waits for its delivery; a
review or a retry gives up its document; or a delivery works on a document that others have gone
on with. -/
def deadEnds (s : LifecycleState) : LifecycleStep → Bool
  | .recordDispatchFailure t _ _ =>
    decide (t ∈ s.dispatching) && (s.run.taskId == some t && s.run.status == .queued) &&
      s.routeWaits
  | .work worker write _ =>
    match s.workers[worker]? with
    | none => false
    | some loaded =>
      match write with
      | .openReview d =>
        s.run.isLockedBy loaded.taskId && (s.documents[d]?).any fun x =>
          x.route == some .routed ||
            !s.calledOn d && (x.route.isSome || x.review == some .completed)
      | .prepareRoute d =>
        s.run.isLockedBy loaded.taskId && !s.calledOn d &&
          (s.documents[d]?).any fun x => x.status == .awaitingReview && x.route.isNone
      | .markFailed d =>
        s.run.isLockedBy loaded.taskId && (s.documents[d]?).any (·.route == some .routed)
      | .recompute _ =>
        (loaded.taskId.isNone || s.run.deliveryIsCurrent loaded.taskId) &&
          (s.run.status.isActive && s.countsEnd) && s.routeWaits
      | .unhandledFailure _ => s.run.isLockedBy loaded.taskId && s.routeWaits
      | _ => false
  | .callRecompute i _ _ =>
    match s.calls[i]? with
    | some (.recomputing _) => (s.run.status.isActive && s.countsEnd) && s.routeWaits
    | _ => false
  | .callRaise i | .callCrash i =>
    match s.calls[i]? with
    | some (.routing d) | some (.copying d) => s.givesUp i d
    | _ => false
  | .callCopy i .raised =>
    match s.calls[i]? with
    | some (.copying d) => s.givesUp i d
    | _ => false
  | _ => false

/-- No step of the history leads into a dead end. -/
def MeetsNoDeadEnd (settings : Settings) : LifecycleState → List LifecycleStep → Prop
  | _, [] => True
  | s, x :: xs => s.deadEnds x = false ∧ MeetsNoDeadEnd settings (s.step settings x) xs

end LifecycleState

end SheepContabil
