import SheepContabil.Spec.Sc04Delivery

/-!
# SC-04: the rows of a document, under all of its writers

One document of a run with its reviews, decisions and routes, and the constraints that the
database keeps on them. A write that breaks one raises, and its transaction leaves nothing.
The deliveries that work on the document, the reviewer, the retries of its route and the
reconciler interleave in any order, one transaction or one copy at a time; the row of the
run may change in any way between two steps.

* `DocumentRows`: the rows, with the writes that the database may refuse.
* `RoutingState.work`: the next step of a delivery on the document.
* `RoutingState.step`, `RoutingState.after`: a step of the system, and a history.
-/

namespace SheepContabil

inductive DocumentDecisionOrigin where
  | automatic | humanReview
  deriving DecidableEq, Repr

/-- `DocumentRouting`, of the decision in this place. -/
structure RouteRow where
  decision : ℕ
  status : DocumentRoutingStatus := .pending
  attemptCount : ℕ := 0
  lastError : String := ""
  routedAt : Option ℕ := none
  deriving DecidableEq, Repr

/-- The check constraint `sc04_routing_status_consistent`. -/
def RouteRow.consistent (r : RouteRow) : Bool :=
  match r.status with
  | .pending => r.routedAt.isNone && r.lastError == ""
  | .failed => r.routedAt.isNone && r.lastError != ""
  | .routed => r.routedAt.isSome && r.lastError == "" && decide (1 ≤ r.attemptCount)

structure DocumentRows where
  status : DocumentStatus := .queued
  reviews : List DocumentReviewStatus := []
  decisions : List DocumentDecisionOrigin := []
  routes : List RouteRow := []
  deriving DecidableEq, Repr

namespace DocumentRows

/-- `DocumentReview.objects.get_or_create(document=document, …)`. -/
def getOrCreateReview (x : DocumentRows) : DocumentRows :=
  if x.reviews = [] then { x with reviews := [.pending] } else x

/-- `DocumentDecision.objects.create`: a document has one decision. -/
def createDecision (x : DocumentRows) (origin : DocumentDecisionOrigin) : Option DocumentRows :=
  if x.decisions = [] then some { x with decisions := [origin] } else none

/-- `_prepare_route`: a decision has one route. -/
def prepareRoute (x : DocumentRows) (decision : ℕ) : Option DocumentRows :=
  if x.routes.any (·.decision == decision) then none
  else some { x with routes := x.routes ++ [{ decision := decision }] }

/-- An update of one route, under its check constraint. -/
def updateRoute (x : DocumentRows) (route : ℕ) (f : RouteRow → RouteRow) : Option DocumentRows :=
  if (x.routes[route]?).any fun r => (f r).consistent then
    some { x with routes := x.routes.modify route f }
  else none

/-- The last transaction of `_execute_route`, after the copy. -/
def routed (x : DocumentRows) (route now : ℕ) : Option DocumentRows :=
  (x.updateRoute route fun r =>
    { r with status := .routed, lastError := "", routedAt := some now }).map
      ({ · with status := .routed })

/-- The transaction of `_execute_route` after a `StorageOperationError`. -/
def storageFailed (x : DocumentRows) (route : ℕ) (exc : String) : Option DocumentRows :=
  (x.updateRoute route fun r => { r with status := .failed, lastError := exc }).map
    ({ · with status := .failed })

/-- `_open_review`. -/
def openReview (x : DocumentRows) : DocumentRows :=
  { x.getOrCreateReview with status := .awaitingReview }

/-- The decision and the route of `_process_document`, in one transaction. -/
def decide_ (x : DocumentRows) (origin : DocumentDecisionOrigin) : Option DocumentRows :=
  (x.createDecision origin).bind fun x => x.prepareRoute (x.decisions.length - 1)

/-- The transaction of `resolve_document_review`. -/
def resolveReview (x : DocumentRows) : Option DocumentRows :=
  if .pending ∈ x.reviews then
    ({ x with reviews := x.reviews.map fun _ => .completed }).decide_ .humanReview
  else none

/-- The test of `_claim_document`. -/
def isClaimable (x : DocumentRows) : Bool :=
  x.status == .queued && x.decisions.isEmpty && x.reviews.isEmpty

/-- `_start_run` and `_reset_sc04_interrupted_items`. -/
def reset (x : DocumentRows) : DocumentRows :=
  if x.status = .processing ∧ x.decisions = [] ∧ x.reviews = [] then { x with status := .queued }
  else x

/-- `_close_interrupted_sc04_items`, and `_close_sc04_interrupted_items` of an orphan run. -/
def close (x : DocumentRows) (orphan : Bool) : DocumentRows :=
  let lastError :=
    if orphan then "A execução órfã excedeu o limite de recuperação automática."
    else "O processamento foi interrompido repetidamente."
  { x with
    status := if x.status = .queued ∨ x.status = .processing then .failed else x.status
    routes := x.routes.map fun r =>
      if r.status = .pending then { r with status := .failed, lastError } else r }

/-- Some route is `ROUTED`. -/
def isRouted (x : DocumentRows) : Bool := x.routes.any (·.status == .routed)

end DocumentRows

/-- Where a delivery is with the document. `inLoop` tells the loop over the pending routes from
`_process_document`. -/
inductive WorkerPhase where
  | routes
  | executing (route : ℕ) (inLoop : Bool)
  | copying (route : ℕ) (inLoop : Bool)
  | claiming
  | processing
  | failing
  | ended
  deriving DecidableEq, Repr

/-- A delivery, with the run as `_start_run` returned it. -/
structure RouteWorker where
  loaded : AutomationRun
  phase : WorkerPhase := .routes

/-- Where a review or a retry is with its route. -/
inductive RouteCall where
  | executing (route : ℕ)
  | copying (route : ℕ)
  | ended
  deriving DecidableEq, Repr

structure RoutingState where
  run : AutomationRun
  document : DocumentRows := {}
  workers : List RouteWorker := []
  calls : List RouteCall := []

/-- What a step of a delivery or of a request meets. -/
structure RouteInput where
  classification : Classification := .decided
  copy : CopyOutcome := .copied
  exc : String := ""
  now : ℕ := 0

inductive RoutingStep where
  /-- Another write of the run. -/
  | setRun (run : AutomationRun)
  /-- A delivery begins, with the run as it read it. -/
  | deliver (loaded : AutomationRun)
  | work (i : ℕ) (input : RouteInput)
  | resolveReview
  | retryRoute (route : ℕ)
  | call (i : ℕ) (input : RouteInput)
  | crash (i : ℕ)
  | callCrash (i : ℕ)
  | reset
  | close (orphan : Bool)

namespace RoutingState

/-- `_lock_current_delivery`. -/
def isLocked (s : RoutingState) (w : RouteWorker) : Bool := s.run.isLockedBy w.loaded.taskId

/-- `_execute_route` and `_mark_document_failed` lock the delivery if it has a token. -/
def passes (s : RoutingState) (w : RouteWorker) : Bool := w.loaded.taskId.isNone || s.isLocked w

def isRoutedAt (s : RoutingState) (route : ℕ) : Bool :=
  (s.document.routes[route]?).any (·.status == .routed)

def setPhase (s : RoutingState) (i : ℕ) (phase : WorkerPhase) : RoutingState :=
  { s with workers := s.workers.modify i ({ · with phase := phase }) }

def setCall (s : RoutingState) (i : ℕ) (call : RouteCall) : RoutingState :=
  { s with calls := s.calls.set i call }

/-- The first route that is pending. -/
def pendingRoute (s : RoutingState) : Option ℕ :=
  s.document.routes.findIdx? (·.status == .pending)

/-- What follows `_execute_route`. -/
def afterRoute (inLoop : Bool) : WorkerPhase := if inLoop then .claiming else .ended

/-- What follows an exception in `_execute_route`: `_process_document` marks its document, and out of
the loop over the routes the delivery ends. -/
def afterRaise (inLoop : Bool) : WorkerPhase := if inLoop then .ended else .failing

/-- What a delivery does next with the document. -/
def work (s : RoutingState) (i : ℕ) (w : RouteWorker) (input : RouteInput) : RoutingState :=
  match w.phase with
  | .routes =>
    match s.pendingRoute with
    | some route =>
      if s.run.deliveryIsCurrent w.loaded.taskId then s.setPhase i (.executing route true)
      else s.setPhase i .ended
    | none => s.setPhase i .claiming
  | .executing route inLoop =>
    if s.isRoutedAt route then s.setPhase i (afterRoute inLoop)
    else if s.passes w then
      match s.document.updateRoute route fun r => { r with attemptCount := r.attemptCount + 1 } with
      | some document => { s with document }.setPhase i (.copying route inLoop)
      | none => s.setPhase i (afterRaise inLoop)
    else s.setPhase i .ended
  | .copying route inLoop =>
    match input.copy with
    | .raised => s.setPhase i (afterRaise inLoop)
    | .copied =>
      if s.passes w then
        match s.document.routed route input.now with
        | some document => { s with document }.setPhase i (afterRoute inLoop)
        | none => s.setPhase i (afterRaise inLoop)
      else s.setPhase i .ended
    | .storageError =>
      if s.passes w then
        match s.document.storageFailed route input.exc with
        | some document => { s with document }.setPhase i (if inLoop then .claiming else .failing)
        -- the check constraint refuses a failure of a route that is routed
        | none => s.setPhase i (afterRaise inLoop)
      else s.setPhase i .ended
  | .claiming =>
    if s.isLocked w then
      if s.document.isClaimable then
        { s with document := { s.document with status := .processing } }.setPhase i .processing
      else s.setPhase i .ended
    else s.setPhase i .ended
  | .processing =>
    match input.classification with
    | .raised => s.setPhase i .failing
    | .review =>
      if s.isLocked w then { s with document := s.document.openReview }.setPhase i .ended
      else s.setPhase i .ended
    | .decided =>
      if s.isLocked w then
        match s.document.decide_ .automatic with
        | some document =>
          { s with document }.setPhase i (.executing (document.routes.length - 1) false)
        | none => s.setPhase i .failing
      else s.setPhase i .ended
  | .failing =>
    if s.passes w then
      { s with document := { s.document with status := .failed } }.setPhase i .ended
    else s.setPhase i .ended
  | .ended => s

/-- What a request does next with its route. -/
def callNext (s : RoutingState) (i : ℕ) (input : RouteInput) : RouteCall → RoutingState
  | .executing route =>
    if s.isRoutedAt route then s.setCall i .ended
    else
      match s.document.updateRoute route fun r => { r with attemptCount := r.attemptCount + 1 } with
      | some document => { s with document }.setCall i (.copying route)
      | none => s.setCall i .ended
  | .copying route =>
    match input.copy with
    | .raised => s.setCall i .ended
    | .copied => { s with document := (s.document.routed route input.now).getD s.document }.setCall i .ended
    | .storageError =>
      { s with document := (s.document.storageFailed route input.exc).getD s.document }.setCall i .ended
  | .ended => s

/-- What a step does. A step that its program cannot take does nothing. -/
def step (s : RoutingState) : RoutingStep → RoutingState
  | .setRun run => { s with run }
  | .deliver loaded => { s with workers := s.workers ++ [{ loaded := loaded }] }
  | .work i input =>
    match s.workers[i]? with
    | some w => s.work i w input
    | none => s
  | .resolveReview =>
    match s.document.resolveReview with
    | some document =>
      { s with document, calls := s.calls ++ [.executing (document.routes.length - 1)] }
    | none => s
  | .retryRoute route =>
    if (s.document.routes[route]?).any (·.status == .failed) then
      { s with calls := s.calls ++ [.executing route] }
    else s
  | .call i input =>
    match s.calls[i]? with
    | some call => s.callNext i input call
    | none => s
  | .crash i => s.setPhase i .ended
  | .callCrash i => s.setCall i .ended
  | .reset => { s with document := s.document.reset }
  | .close orphan => { s with document := s.document.close orphan }

/-- The state after the steps. -/
def after (s : RoutingState) (xs : List RoutingStep) : RoutingState := xs.foldl step s

/-- The run has just ingested the document. -/
def ingested (run : AutomationRun) : RoutingState where
  run := run

/-- One review, one decision and one route at most. -/
def AtMostOne (s : RoutingState) : Prop :=
  s.document.reviews.length ≤ 1 ∧ s.document.decisions.length ≤ 1 ∧ s.document.routes.length ≤ 1

/-- A document whose route is `ROUTED` is `ROUTED`. -/
def RoutedTogether (s : RoutingState) : Prop :=
  s.document.isRouted = true → s.document.status = .routed

/-- A delivery that still owns the run marks a routed document failed, or opens its review. -/
def overwrites (s : RoutingState) : RoutingStep → Bool
  | .work i input =>
    match s.workers[i]? with
    | some w =>
      s.document.isRouted &&
        (w.phase == .failing && s.passes w ||
          w.phase == .processing && input.classification == .review && s.isLocked w)
    | none => false
  | _ => false

/-- No step of the history does so. -/
def OverwritesNothing : RoutingState → List RoutingStep → Prop
  | _, [] => True
  | s, x :: xs => s.overwrites x = false ∧ OverwritesNothing (s.step x) xs

/-- Every state of the history keeps the route and the document together. -/
def RoutesTogether : RoutingState → List RoutingStep → Prop
  | s, [] => s.RoutedTogether
  | s, x :: xs => s.RoutedTogether ∧ RoutesTogether (s.step x) xs

end RoutingState

end SheepContabil
