import SheepContabil.Spec.Sc04Run

/-!
# A delivery of SC-04 among reviews and route retries

One run of SC-04 with its new documents, the delivery that processes them, and the requests
that review a document or retry its route. A step is one transaction, or one call of the
storage with the transaction that follows it; the programs interleave in any order, and
each may end at any step. The reconciler and a redelivery may take the run over; the steps
of the delivery they supersede are left out from then on.

* `RunDocument`: a new document of the run, with its review and its route.
* `DeliveryState.advance`: the next step of `execute_sc04`, from where it is.
* `DeliveryState.step`, `DeliveryState.after`: a step of the system, and a history.
* `KeepsRunning`, `StrandsNothing`: what a recomputation should leave, and a delivery.
-/

namespace SheepContabil

inductive DocumentStatus where
  | queued | processing | awaitingReview | routed | failed
  deriving DecidableEq, Repr

inductive DocumentReviewStatus where
  | pending | completed
  deriving DecidableEq, Repr

inductive DocumentRoutingStatus where
  | pending | routed | failed
  deriving DecidableEq, Repr

/-- A document that the run ingested as `NEW`. A decision is created with its route. -/
structure RunDocument where
  status : DocumentStatus := .queued
  review : Option DocumentReviewStatus := none
  route : Option DocumentRoutingStatus := none
  deriving DecidableEq, Repr

/-- What `copy_if_absent` does. -/
inductive CopyOutcome where
  | copied
  | storageError
  | raised
  deriving DecidableEq, Repr

/-- How `_process_document` gets past the classifier: with a review, with a decision, or with an
exception. -/
inductive Classification where
  | review
  | decided
  | raised
  deriving DecidableEq, Repr

namespace RunDocument

/-- The document is queued or in processing. -/
def isInProgress (d : RunDocument) : Bool := d.status == .queued || d.status == .processing

/-- The test of `_claim_document`. -/
def isClaimable (d : RunDocument) : Bool := d.status == .queued && d.route.isNone && d.review.isNone

/-- What `_start_run` and `_reset_sc04_interrupted_items` put back on the queue. -/
def isInterrupted (d : RunDocument) : Bool :=
  d.status == .processing && d.route.isNone && d.review.isNone

def reset (d : RunDocument) : RunDocument := if d.isInterrupted then { d with status := .queued } else d

/-- `_close_interrupted_sc04_items` and `_close_sc04_interrupted_items`. -/
def close (d : RunDocument) : RunDocument :=
  { d with
    status := if d.isInProgress then .failed else d.status
    route := if d.route = some .pending then some .failed else d.route }

/-- The last transaction of `_execute_route`. The check constraint `sc04_routing_status_consistent`
refuses the failure of a route that is routed, and the transaction leaves nothing. -/
def finishRoute (d : RunDocument) : CopyOutcome → RunDocument
  | .copied => { d with status := .routed, route := some .routed }
  | .storageError =>
    if d.route = some .routed then d else { d with status := .failed, route := some .failed }
  | .raised => d

/-- `_open_review`. -/
def openReview (d : RunDocument) : RunDocument :=
  { d with status := .awaitingReview, review := d.review.or (some .pending) }

/-- The transaction of `resolve_document_review`. -/
def resolve (d : RunDocument) : RunDocument :=
  { d with review := some .completed, route := some .pending }

end RunDocument

/-- What `_execute_route` goes back to: the loop over the pending routes, or over the documents. -/
inductive AfterRoute where
  | routes (rest : List ℕ)
  | documents (rest : List ℕ)
  deriving DecidableEq, Repr

/-- Where `execute_sc04` is. -/
inductive DeliveryPhase where
  | ingesting
  | routes (rest : List ℕ)
  | executing (d : ℕ) (next : AfterRoute)
  | copying (d : ℕ) (next : AfterRoute)
  | documents (rest : List ℕ)
  | claiming (d : ℕ) (rest : List ℕ)
  | processing (d : ℕ) (rest : List ℕ)
  | failing (d : ℕ) (rest : List ℕ)
  | recomputing
  | returned
  | raised
  deriving DecidableEq, Repr

/-- The delivery, with the run as `_start_run` returned it. -/
structure DeliveryWorker where
  loaded : AutomationRun
  phase : DeliveryPhase := .ingesting

/-- Where a review or a retry is, once it has its route. A pass that gives the run up recomputes
it as well, and preserves its terminal status. -/
inductive WebCall where
  | routing (d : ℕ)
  | copying (d : ℕ)
  | recomputing (preserveTerminalStatus : Bool)
  | ended
  deriving DecidableEq, Repr

structure DeliveryState where
  run : AutomationRun
  documents : List RunDocument
  /-- The delivery that nobody has superseded, in progress or at its end. -/
  worker : Option DeliveryWorker := none
  calls : List WebCall := []

/-- The items of the run that are not new, as `recompute_sc04_run` counts them. -/
structure OtherItems where
  duplicates : ℕ := 0
  duplicateFailed : ℕ := 0

/-- What a step of the delivery meets. -/
structure WorkInput where
  /-- The inbox has another document whose content is new. -/
  newDocument : Bool := false
  endsInbox : Bool := false
  classification : Classification := .decided
  copy : CopyOutcome := .copied
  others : OtherItems := {}
  exc : String := ""
  now : ℕ := 0

inductive DeliveryStep where
  /-- `_start_run` of a delivery. -/
  | start (t : TaskId) (redelivered : Bool) (now : ℕ)
  | work (input : WorkInput)
  /-- An exception that `execute_sc04` does not expect. -/
  | fail (exc : String) (now : ℕ)
  | crash
  /-- The transaction of `resolve_document_review`. -/
  | resolveReview (d : ℕ)
  | retryRoute (d : ℕ)
  /-- `_execute_route` of a request: its first transaction. -/
  | callRoute (i : ℕ)
  /-- Its copy, and its last transaction. -/
  | callCopy (i : ℕ) (outcome : CopyOutcome)
  /-- `recompute_sc04_run` of a request. -/
  | callRecompute (i : ℕ) (others : OtherItems) (now : ℕ)
  | callCrash (i : ℕ)
  /-- `_reconcile_one`. -/
  | reconcileOne (hasNewItems : Bool) (fresh : TaskId) (now : ℕ)

namespace DeliveryState

/-- The counts of `recompute_sc04_run`. -/
def counts (s : DeliveryState) (others : OtherItems) : SC04Counts where
  items := s.documents.length + others.duplicates
  duplicates := others.duplicates
  newItems := s.documents.length
  routed := s.documents.countP (·.status == .routed)
  awaitingReview := s.documents.countP (·.status == .awaitingReview)
  inProgress := s.documents.countP (·.isInProgress)
  duplicateFailed := others.duplicateFailed
  newFailed := s.documents.countP (·.status == .failed)

/-- One locked update of a document. -/
def setDocument (s : DeliveryState) (d : ℕ) (f : RunDocument → RunDocument) : DeliveryState :=
  { s with documents := s.documents.modify d f }

def setPhase (s : DeliveryState) (w : DeliveryWorker) (phase : DeliveryPhase) : DeliveryState :=
  { s with worker := some { w with phase } }

/-- `require_current_delivery`. -/
def isCurrent (s : DeliveryState) (w : DeliveryWorker) : Bool :=
  s.run.deliveryIsCurrent w.loaded.taskId

/-- `_lock_current_delivery`. -/
def isLocked (s : DeliveryState) (w : DeliveryWorker) : Bool := s.run.isLockedBy w.loaded.taskId

/-- The routes of the run that are pending. -/
def pendingRoutes (s : DeliveryState) : List ℕ :=
  (List.range s.documents.length).filter fun d =>
    (s.documents[d]?).any fun x => x.route == some .pending

/-- `_execute_route` is over, or a superseded delivery stops in it. -/
def AfterRoute.go : AfterRoute → DeliveryPhase
  | .routes rest => .routes rest
  | .documents rest => .documents rest

/-- `SupersededDelivery` ends the loop over the routes; `_process_document` returns. -/
def AfterRoute.stop : AfterRoute → DeliveryPhase
  | .routes _ => .returned
  | .documents rest => .documents rest

/-- A `StorageOperationError` of the loop over the routes is passed over; `_process_document` marks
its document. -/
def AfterRoute.storageFailed (d : ℕ) : AfterRoute → DeliveryPhase
  | .routes rest => .routes rest
  | .documents rest => .failing d rest

/-- Any other exception of `_execute_route`: `_process_document` marks its document, and out of the
loop over the routes the delivery ends. -/
def routeRaised (s : DeliveryState) (w : DeliveryWorker) (input : WorkInput) (d : ℕ) :
    AfterRoute → DeliveryState
  | .documents rest => s.setPhase w (.failing d rest)
  | .routes _ =>
    { s with run := s.run.finishUnhandledFailure input.exc w.loaded.taskId input.now }.setPhase w .raised

/-- What `execute_sc04` does next, and where it is afterwards. -/
def advance (s : DeliveryState) (w : DeliveryWorker) (input : WorkInput) : DeliveryState :=
  match w.phase with
  | .ingesting =>
    if input.newDocument then { s with documents := s.documents ++ [{}] }
    else if input.endsInbox then s.setPhase w (.routes s.pendingRoutes)
    else if s.isCurrent w then s else s.setPhase w .returned
  | .routes [] => s.setPhase w (.documents (List.range s.documents.length))
  | .routes (d :: rest) =>
    if s.isCurrent w then
      { s with run := s.run.touchRun w.loaded.taskId input.now }.setPhase w (.executing d (.routes rest))
    else s.setPhase w .returned
  | .executing d next =>
    if (s.documents[d]?).any (·.route == some .routed) then s.setPhase w (AfterRoute.go next)
    else if s.isLocked w then s.setPhase w (.copying d next)
    else s.setPhase w (AfterRoute.stop next)
  | .copying d next =>
    match input.copy with
    | .raised => s.routeRaised w input d next
    | .copied =>
      if s.isLocked w then (s.setDocument d (·.finishRoute .copied)).setPhase w (AfterRoute.go next)
      else s.setPhase w (AfterRoute.stop next)
    | .storageError =>
      if s.isLocked w then
        -- the check constraint of a route that is routed raises
        if (s.documents[d]?).any (·.route == some .routed) then s.routeRaised w input d next
        else (s.setDocument d (·.finishRoute .storageError)).setPhase w (AfterRoute.storageFailed d next)
      else s.setPhase w (AfterRoute.stop next)
  | .documents [] => s.setPhase w (if s.isCurrent w then .recomputing else .returned)
  | .documents (d :: rest) =>
    if s.isCurrent w then
      { s with run := s.run.touchRun w.loaded.taskId input.now }.setPhase w (.claiming d rest)
    else s.setPhase w .returned
  | .claiming d rest =>
    if s.isLocked w then
      if (s.documents[d]?).any (·.isClaimable) then
        (s.setDocument d ({ · with status := .processing })).setPhase w (.processing d rest)
      else s.setPhase w (.documents rest)
    else s.setPhase w .returned
  | .processing d rest =>
    match input.classification with
    | .raised => s.setPhase w (.failing d rest)
    | .review =>
      if s.isLocked w then (s.setDocument d (·.openReview)).setPhase w (.documents rest)
      else s.setPhase w (.documents rest)
    | .decided =>
      if s.isLocked w then
        (s.setDocument d ({ · with route := some .pending })).setPhase w
          (.executing d (.documents rest))
      else s.setPhase w (.documents rest)
  | .failing d rest =>
    if s.isLocked w then
      (s.setDocument d ({ · with status := .failed })).setPhase w (.documents rest)
    else s.setPhase w (.documents rest)
  | .recomputing =>
    { s with run := s.run.recompute (s.counts input.others) w.loaded.taskId false input.now }.setPhase
      w .returned
  | .returned | .raised => s

/-- `_start_run`. -/
def start (s : DeliveryState) (settings : Settings) (t : TaskId) (redelivered : Bool) (now : ℕ) :
    DeliveryState :=
  match s.run.startSc04 (.uuid t) redelivered settings now with
  | .ignored => s
  | .closed run => { s with run, documents := s.documents.map RunDocument.close, worker := none }
  | .resumed run =>
    { s with run, documents := s.documents.map RunDocument.reset, worker := some { loaded := run } }
  | .started run => { s with run, worker := some { loaded := run } }

/-- `_reconcile_one`. -/
def reconcileOne (s : DeliveryState) (settings : Settings) (hasNewItems : Bool) (fresh : TaskId)
    (now : ℕ) : DeliveryState :=
  match s.run.reconcileOne false settings now hasNewItems fresh with
  | (.requeued _, run) =>
    { s with
      run, worker := none
      documents :=
        if s.run.status = .running then s.documents.map RunDocument.reset else s.documents }
  | (.failed, run) =>
    if s.run.status = .pending then { s with run, worker := none }
    else
      { s with
        run, worker := none, documents := s.documents.map RunDocument.close
        calls := s.calls ++ [.recomputing true] }
  | (_, run) => { s with run }

def step (settings : Settings) (s : DeliveryState) : DeliveryStep → DeliveryState
  | .start t redelivered now => s.start settings t redelivered now
  | .work input =>
    match s.worker with
    | none => s
    | some w => s.advance w input
  | .fail exc now =>
    match s.worker with
    | none => s
    | some w =>
      if w.phase = .returned ∨ w.phase = .raised then s
      else
        { s with run := s.run.finishUnhandledFailure exc w.loaded.taskId now }.setPhase w .raised
  | .crash => { s with worker := none }
  | .resolveReview d =>
    if (s.documents[d]?).any fun x => x.review == some .pending && x.route.isNone then
      { s.setDocument d (·.resolve) with calls := s.calls ++ [.routing d] }
    else s
  | .retryRoute d =>
    if (s.documents[d]?).any fun x => x.route == some .failed then
      { s with calls := s.calls ++ [.routing d] }
    else s
  | .callRoute i =>
    match s.calls[i]? with
    | some (.routing d) =>
      if (s.documents[d]?).any (·.route == some .routed) then
        { s with calls := s.calls.set i (.recomputing false) }
      else { s with calls := s.calls.set i (.copying d) }
    | _ => s
  | .callCopy i outcome =>
    match s.calls[i]? with
    | some (.copying d) =>
      { s.setDocument d (·.finishRoute outcome) with calls := s.calls.set i (.recomputing false) }
    | _ => s
  | .callRecompute i others now =>
    match s.calls[i]? with
    | some (.recomputing preserve) =>
      { s with
        run := s.run.recompute (s.counts others) none preserve now
        calls := s.calls.set i .ended }
    | _ => s
  | .callCrash i => { s with calls := s.calls.set i .ended }
  | .reconcileOne hasNewItems fresh now => s.reconcileOne settings hasNewItems fresh now

/-- The state after the steps. -/
def after (settings : Settings) (s : DeliveryState) (xs : List DeliveryStep) : DeliveryState :=
  xs.foldl (step settings) s

/-- A run of SC-04 in the queue, with the documents that were uploaded to it. -/
def initial (run : AutomationRun) (uploads : ℕ) : DeliveryState where
  run := run
  documents := List.replicate uploads {}

/-- A delivery is in progress, and nobody has taken the run over. -/
def Active (s : DeliveryState) (w : DeliveryWorker) : Prop :=
  s.worker = some w ∧ w.phase ≠ .returned ∧ w.phase ≠ .raised

/-- Some new document of the run is queued or in processing. -/
def InProgress (s : DeliveryState) : Prop := ∃ d ∈ s.documents, d.isInProgress = true

/-- The step is no recomputation of a request that takes the run from a delivery that still has
documents to process. -/
def KeepsRunning (settings : Settings) (s : DeliveryState) (x : DeliveryStep) : Prop :=
  ∀ i others now preserve, x = .callRecompute i others now →
    s.calls[i]? = some (.recomputing preserve) → (∃ w, s.Active w) → s.InProgress →
      (s.step settings x).run.status = .running ∧ (s.step settings x).run.taskId = s.run.taskId

/-- A delivery that has returned, and that nobody has superseded, leaves no document behind. -/
def StrandsNothing (s : DeliveryState) : Prop :=
  ∀ w, s.worker = some w → w.phase = .returned → ¬ s.InProgress

/-- A request recomputes the run while the delivery ingests or has documents to process, and finds
a document that awaits review, or none to process. -/
def pauses (s : DeliveryState) : DeliveryStep → Bool
  | .callRecompute i _ _ =>
    match s.calls[i]?, s.worker with
    | some (.recomputing _), some w =>
      w.phase != .returned && w.phase != .raised &&
        (w.phase == .ingesting || s.documents.any RunDocument.isInProgress) &&
        (s.documents.any (·.status == .awaitingReview) || !s.documents.any RunDocument.isInProgress)
    | _, _ => false
  | _ => false

/-- No step of the history pauses the delivery. -/
def PausesNothing (settings : Settings) : DeliveryState → List DeliveryStep → Prop
  | _, [] => True
  | s, x :: xs => s.pauses x = false ∧ PausesNothing settings (s.step settings x) xs

end DeliveryState

end SheepContabil
