import SheepContabil.Py.Float
import SheepContabil.Spec.Run

/-!
# The event log of a run

`record_run_event` normalises every field of an event, looks for the
deduplication key among the events of the locked run, and either returns the
event that is already there, refuses the call, or appends one row. The rows are
kept in the order of their insertion, as they are read back: the details as `jsonb`
returns them, `occurred_at` in UTC.

* `RecordCall.clean`: the fields of the call after normalisation, or the refusal.
* `requireSameContent`: the comparison of a repeated key.
* `AutomationRunEvent.stored`: an event, read back from its row.
* `Ledger.record`: the whole call.
-/

namespace SheepContabil

open Py

abbrev UserId := ℕ
abbrev EventId := ℕ

inductive RunEventType where
  | created | queued | dispatchStarted | dispatchFailed | brokerPublished | deliveryReceived
  | deliveryIgnored | deliveryFinished | started | heartbeat | requeued | quarantined | resumed
  | reviewRequired | stepStarted | stepFinished | attemptStarted | attemptFinished
  | integrationStarted | integrationFinished | integrationUnknown | reconciliationFailed
  | succeeded | succeededWithWarnings | partiallyFailed | failed | cancelled
  deriving DecidableEq, Repr

inductive RunEventSource where
  | web | worker | scheduler | reconciler | admin | system
  deriving DecidableEq, Repr

/-- `RunEventType.values`. -/
def RunEventType.values : List (String × RunEventType) :=
  [("created", .created), ("queued", .queued), ("dispatch_started", .dispatchStarted),
    ("dispatch_failed", .dispatchFailed), ("broker_published", .brokerPublished),
    ("delivery_received", .deliveryReceived), ("delivery_ignored", .deliveryIgnored),
    ("delivery_finished", .deliveryFinished), ("started", .started), ("heartbeat", .heartbeat),
    ("requeued", .requeued), ("quarantined", .quarantined), ("resumed", .resumed),
    ("review_required", .reviewRequired), ("step_started", .stepStarted),
    ("step_finished", .stepFinished), ("attempt_started", .attemptStarted),
    ("attempt_finished", .attemptFinished), ("integration_started", .integrationStarted),
    ("integration_finished", .integrationFinished), ("integration_unknown", .integrationUnknown),
    ("reconciliation_failed", .reconciliationFailed), ("succeeded", .succeeded),
    ("succeeded_with_warnings", .succeededWithWarnings), ("partially_failed", .partiallyFailed),
    ("failed", .failed), ("cancelled", .cancelled)]

/-- `RunEventSource.values`. -/
def RunEventSource.values : List (String × RunEventSource) :=
  [("web", .web), ("worker", .worker), ("scheduler", .scheduler), ("reconciler", .reconciler),
    ("admin", .admin), ("system", .system)]

/-- `RunStatus.values`. -/
def RunStatus.values : List (String × RunStatus) :=
  [("pending", .pending), ("queued", .queued), ("running", .running),
    ("awaiting_review", .awaitingReview), ("succeeded", .succeeded),
    ("succeeded_with_warnings", .succeededWithWarnings), ("partially_failed", .partiallyFailed),
    ("failed", .failed), ("cancelled", .cancelled)]

/-- Why a call is refused: the two exceptions of the module, what the model's
`full_clean()` or the database raises on the insertion, and what the adapter of the
database raises on a row whose `occurred_at` is no `datetime` in UTC. -/
inductive RecordError where
  | traceabilityConflict
  | unsafeTraceabilityData (message : String)
  | insertionRefused
  | rowUnreadable
  deriving DecidableEq, Repr

/-- A Python object offered as `details` or as a number. A tuple is a list; a key
that is no string is `none`; a float that is not finite is `none`. -/
inductive PyObject where
  | none
  | bool (b : Bool)
  | int (n : ℤ)
  | float (q : Option ℚ)
  | str (s : String)
  | list (xs : List PyObject)
  | mapping (kvs : List (Option String × PyObject))
  | other

mutual

/-- The finite floats in an object. -/
def PyObject.floats : PyObject → List ℚ
  | .float (some q) => [q]
  | .list xs => PyObject.floatsList xs
  | .mapping kvs => PyObject.floatsItems kvs
  | _ => []

def PyObject.floatsList : List PyObject → List ℚ
  | [] => []
  | x :: xs => x.floats ++ PyObject.floatsList xs

def PyObject.floatsItems : List (Option String × PyObject) → List ℚ
  | [] => []
  | (_, x) :: rest => x.floats ++ PyObject.floatsItems rest

end

/-- What the regular expressions, `json.dumps` and the columns of the database
decide: the two tables of patterns, the text without its UUIDs, the size of the
encoded details and the rows `full_clean()` and the database take. -/
structure Platform (Row : Type) where
  sensitiveKey : String → Bool
  sensitiveValue : String → Bool
  withoutUuids : String → String
  encodedSize : Dict → ℕ
  accepts : Row → Bool

/-- An argument of type `UUID | str | None`. -/
inductive UuidArgument where
  | absent
  | blank
  | uuid (t : TaskId)
  | invalid
  deriving DecidableEq, Repr

/-- The `run` argument, by its key. -/
inductive RunArgument where
  | unsaved
  | invalid
  | uuid (r : RunId)
  deriving DecidableEq, Repr

/-- An aware `datetime`: its instant, in microseconds from 1970 on, and whether its `utcoffset()`
would be another one with the other `fold`. -/
structure AwareTime where
  instant : ℤ
  foldDependent : Bool := false
  deriving DecidableEq, Repr

/-- A `datetime` in UTC has a year from 1 to 9999. -/
def isUtcDatetime (instant : ℤ) : Bool :=
  decide (-62135596800000000 ≤ instant ∧ instant < 253402300800000000)

/-- The `occurred_at` argument. -/
inductive DatetimeArgument where
  | absent
  | invalid
  | aware (t : AwareTime)
  deriving DecidableEq, Repr

/-- The `actor` argument: nobody, an unsaved user, or a user's key. -/
inductive ActorArgument where
  | absent
  | unsaved
  | user (u : UserId)
  deriving DecidableEq, Repr

/-- The keys of the trace context the recorder falls back on. -/
structure TraceContext where
  requestId : String := ""
  taskId : UuidArgument := .absent
  pulseId : UuidArgument := .absent

structure RecordCall where
  run : RunArgument
  eventType : String
  source : String
  deduplicationKey : String
  actor : ActorArgument := .absent
  previousStatus : String := ""
  currentStatus : String := ""
  requestId : String := ""
  taskId : UuidArgument := .absent
  pulseId : UuidArgument := .absent
  entityType : String := ""
  entityId : String := ""
  step : String := ""
  attempt : PyObject := .none
  outcome : String := ""
  errorCode : String := ""
  durationMs : PyObject := .none
  message : String := ""
  details : PyObject := .none
  occurredAt : DatetimeArgument := .absent
  context : TraceContext := {}

/-- `payload`. -/
structure EventPayload where
  eventType : RunEventType
  source : RunEventSource
  actorId : Option UserId
  previousStatus : Option RunStatus
  currentStatus : Option RunStatus
  requestId : String
  taskId : Option TaskId
  pulseId : Option TaskId
  entityType : String
  entityId : String
  step : String
  attempt : Option ℕ
  outcome : String
  errorCode : String
  durationMs : Option ℕ
  deduplicationKey : String
  message : String
  details : Dict

/-- One row of `AutomationRunEvent`. -/
structure AutomationRunEvent extends EventPayload where
  id : EventId
  run : RunId
  sequence : ℕ
  occurredAt : ℤ

section Normalisation

variable {Row : Type} (platform : Platform Row)

/-- `_choice`. -/
def choice {α : Type} (value : String) (allowed : List (String × α)) (field : String) :
    Except RecordError α :=
  match allowed.lookup (strip value) with
  | some a => .ok a
  | none => .error (.unsafeTraceabilityData (field ++ " não possui um valor permitido."))

/-- `_optional_choice`. -/
def optionalChoice {α : Type} (value : String) (allowed : List (String × α)) (field : String) :
    Except RecordError (Option α) :=
  if strip value = "" then .ok none
  else (choice (strip value) allowed field).map some

/-- `_reject_sensitive_value`. -/
def rejectSensitiveValue (value field : String) : Except RecordError Unit :=
  if platform.sensitiveValue value then
    .error (.unsafeTraceabilityData (field ++ " contém conteúdo sensível."))
  else .ok ()

/-- `[a-zA-Z0-9]`. -/
def isAsciiAlnum (c : Char) : Bool :=
  ('a' ≤ c && c ≤ 'z') || ('A' ≤ c && c ≤ 'Z') || ('0' ≤ c && c ≤ '9')

/-- `_TOKEN_PATTERN.fullmatch`. -/
def isToken (s : String) : Bool :=
  match s.toList with
  | [] => false
  | c :: rest => isAsciiAlnum c && rest.all fun d =>
      isAsciiAlnum d || d == '_' || d == '.' || d == ':' || d == '-'

/-- `_safe_token`. -/
def safeToken (value field : String) (maxLength : ℕ) (required : Bool) :
    Except RecordError String := do
  let normalized := strip value
  if required && normalized == "" then
    .error (.unsafeTraceabilityData (field ++ " é obrigatório."))
  else if normalized = "" then .ok ""
  else if normalized.length > maxLength || !isToken normalized then
    .error (.unsafeTraceabilityData (field ++ " deve ser um identificador opaco e limitado."))
  else do
    rejectSensitiveValue platform (platform.withoutUuids normalized) field
    .ok normalized

/-- `_optional_uuid`. -/
def optionalUuid (value : UuidArgument) (field : String) : Except RecordError (Option TaskId) :=
  match value with
  | .absent | .blank => .ok none
  | .uuid t => .ok (some t)
  | .invalid => .error (.unsafeTraceabilityData (field ++ " deve ser um UUID válido."))

/-- `_optional_positive_int`. -/
def optionalPositiveInt (value : PyObject) (field : String) (maximum : Option ℕ) :
    Except RecordError (Option ℕ) :=
  match value with
  | .none => .ok none
  | .int (.ofNat n) =>
    match maximum with
    | some m =>
      if n > m then .error (.unsafeTraceabilityData (field ++ " excede o limite permitido."))
      else .ok (some n)
    | none => .ok (some n)
  | _ => .error (.unsafeTraceabilityData (field ++ " deve ser um inteiro não negativo."))

/-- `_safe_message`. -/
def safeMessage (value : String) : Except RecordError String := do
  let message := strip value
  if message.length > 500 then
    .error (.unsafeTraceabilityData "A mensagem segura excede o limite permitido.")
  else do
    rejectSensitiveValue platform message "message"
    .ok message

/-- `_occurred_at`. -/
def cleanOccurredAt : DatetimeArgument → Except RecordError (Option AwareTime)
  | .absent => .ok none
  | .invalid =>
    .error (.unsafeTraceabilityData "occurred_at deve conter data e fuso horário.")
  | .aware t => .ok (some t)

/-- `_check_item_count`. -/
def checkItemCount (value : ℕ) : Except RecordError Unit :=
  if value > 40 then .error (.unsafeTraceabilityData "details possui itens demais.") else .ok ()

/-- The checks of one key of a mapping: the stripped key. -/
def cleanKey : Option String → Except RecordError String
  | none => .error (.unsafeTraceabilityData "Todas as chaves de details devem ser texto.")
  | some raw =>
    let key := strip raw
    if key = "" || key.length > 80 then
      .error (.unsafeTraceabilityData "Uma chave de details é vazia ou longa demais.")
    else if platform.sensitiveKey key then
      .error (.unsafeTraceabilityData ("details contém a chave sensível '" ++ key ++ "'."))
    else .ok key

/-- The depth check at the head of `_minimize_value`. -/
def checkDepth (depth : ℕ) : Except RecordError Unit :=
  if depth > 4 then .error (.unsafeTraceabilityData "details excede a profundidade permitida.")
  else .ok ()

/-- The length check of a list. -/
def checkListLength (xs : List PyObject) : Except RecordError Unit :=
  if xs.length > 40 then
    .error (.unsafeTraceabilityData "Uma lista de details excede o limite permitido.")
  else .ok ()

/-- The checks of a text: the stripped text. -/
def cleanText (path s : String) : Except RecordError String := do
  let normalized := strip s
  if normalized.length > 500 then
    .error (.unsafeTraceabilityData (path ++ " excede o limite de texto permitido."))
  else do
    rejectSensitiveValue platform normalized path
    .ok normalized

mutual

/-- `_minimize_value`, with `item_count` passed through. -/
def minimizeValue (path : String) (depth count : ℕ) : PyObject → Except RecordError (Value × ℕ)
  | .mapping kvs => do
    checkDepth depth
    let (result, count) ← minimizeItems path depth count [] kvs
    .ok (.dict result, count)
  | .list xs => do
    checkDepth depth
    checkListLength xs
    let (result, count) ← minimizeList path depth count 0 xs
    .ok (.list result, count)
  | .none => do checkDepth depth; .ok (.none, count)
  | .bool b => do checkDepth depth; .ok (.bool b, count)
  | .int n => do checkDepth depth; .ok (.int n, count)
  | .float (some q) => do checkDepth depth; .ok (.float q, count)
  | .float none => do
    checkDepth depth
    .error (.unsafeTraceabilityData (path ++ " contém um número inválido."))
  | .str s => do
    checkDepth depth
    let normalized ← cleanText platform path s
    .ok (.str normalized, count)
  | .other => do
    checkDepth depth
    .error (.unsafeTraceabilityData
      (path ++ " contém um tipo que não pertence ao JSON minimizado."))

/-- The loop over the items of a mapping. -/
def minimizeItems (path : String) (depth count : ℕ) (result : Dict) :
    List (Option String × PyObject) → Except RecordError (Dict × ℕ)
  | [] => .ok (result, count)
  | (rawKey, rawValue) :: rest => do
    let key ← cleanKey platform rawKey
    checkItemCount (count + 1)
    let (value, count) ← minimizeValue (path ++ "." ++ key) (depth + 1) (count + 1) rawValue
    minimizeItems path depth count (Dict.set result key value) rest

/-- The loop over the items of a list. -/
def minimizeList (path : String) (depth count index : ℕ) :
    List PyObject → Except RecordError (List Value × ℕ)
  | [] => .ok ([], count)
  | item :: rest => do
    checkItemCount (count + 1)
    let (value, count) ← minimizeValue (path ++ "[" ++ toString index ++ "]") (depth + 1)
      (count + 1) item
    let (values, count) ← minimizeList path depth count (index + 1) rest
    .ok (value :: values, count)

end

/-- `_minimize_details`. -/
def minimizeDetails : PyObject → Except RecordError Dict
  | .none => .ok []
  | .mapping kvs => do
    let (value, _) ← minimizeValue platform "details" 0 0 (.mapping kvs)
    match value with
    | .dict minimized =>
      if platform.encodedSize minimized > 4096 then
        .error (.unsafeTraceabilityData "details excede o limite de 4096 bytes.")
      else .ok minimized
    | _ => .error (.unsafeTraceabilityData "details deve ser um objeto JSON.")
  | _ => .error (.unsafeTraceabilityData "details deve ser um objeto JSON.")

/-- `_run_id`. -/
def RunArgument.runId : RunArgument → Except RecordError RunId
  | .unsaved => .error (.unsafeTraceabilityData "A execução precisa estar persistida.")
  | .invalid => .error (.unsafeTraceabilityData "O identificador da execução é inválido.")
  | .uuid r => .ok r

/-- The key of the actor, or the refusal of one that is not saved. -/
def ActorArgument.actorId : ActorArgument → Except RecordError (Option UserId)
  | .absent => .ok none
  | .unsaved => .error (.unsafeTraceabilityData "O ator do evento precisa estar persistido.")
  | .user u => .ok (some u)

/-- An argument that was left out is taken from the trace context. -/
def UuidArgument.orContext (argument context : UuidArgument) : UuidArgument :=
  match argument with
  | .absent => context
  | given => given

/-- The part of `record_run_event` before its transaction, in the order of the source. -/
def RecordCall.clean (c : RecordCall) :
    Except RecordError (RunId × EventPayload × Option AwareTime) := do
  let requestId := if c.requestId = "" then c.context.requestId else c.requestId
  let run ← c.run.runId
  let eventType ← choice c.eventType RunEventType.values "event_type"
  let source ← choice c.source RunEventSource.values "source"
  let previousStatus ← optionalChoice c.previousStatus RunStatus.values "previous_status"
  let currentStatus ← optionalChoice c.currentStatus RunStatus.values "current_status"
  let deduplicationKey ← safeToken platform c.deduplicationKey "deduplication_key" 180 true
  let requestId ← safeToken platform requestId "request_id" 100 false
  let taskId ← optionalUuid (c.taskId.orContext c.context.taskId) "task_id"
  let pulseId ← optionalUuid (c.pulseId.orContext c.context.pulseId) "pulse_id"
  let entityType ← safeToken platform c.entityType "entity_type" 80 false
  let entityId ← safeToken platform c.entityId "entity_id" 180 false
  let step ← safeToken platform c.step "step" 80 false
  let attempt ← optionalPositiveInt c.attempt "attempt" (some 65535)
  let outcome ← safeToken platform c.outcome "outcome" 64 false
  let errorCode ← safeToken platform c.errorCode "error_code" 80 false
  let durationMs ← optionalPositiveInt c.durationMs "duration_ms" none
  let message ← safeMessage platform c.message
  let details ← minimizeDetails platform c.details
  let occurredAt ← cleanOccurredAt c.occurredAt
  let actorId ← c.actor.actorId
  .ok (run, {
    eventType, source, actorId, previousStatus, currentStatus, requestId, taskId, pulseId
    entityType, entityId, step, attempt, outcome, errorCode, durationMs, deduplicationKey, message
    details }, occurredAt)

end Normalisation

/-- The fields `_require_same_content` finds different, under their names. `request_id`,
`pulse_id` and `duration_ms` belong to the retry and are not compared. -/
def EventPayload.mismatches (event payload : EventPayload) : List String :=
  [("event_type", event.eventType == payload.eventType), ("source", event.source == payload.source),
    ("actor_id", event.actorId == payload.actorId),
    ("previous_status", event.previousStatus == payload.previousStatus),
    ("current_status", event.currentStatus == payload.currentStatus),
    ("task_id", event.taskId == payload.taskId),
    ("entity_type", event.entityType == payload.entityType),
    ("entity_id", event.entityId == payload.entityId), ("step", event.step == payload.step),
    ("attempt", event.attempt == payload.attempt), ("outcome", event.outcome == payload.outcome),
    ("error_code", event.errorCode == payload.errorCode),
    ("deduplication_key", event.deduplicationKey == payload.deduplicationKey),
    ("message", event.message == payload.message),
    ("details", Dict.eq event.details payload.details)].filterMap fun (field, same) =>
      if same then none else some field

/-- `event.occurred_at != occurred_at`, of a row in UTC: a time whose offset depends on its `fold`
is unequal to every time of another zone. -/
def AwareTime.differs (t : AwareTime) (occurredAt : ℤ) : Bool :=
  t.foldDependent || t.instant != occurredAt

/-- The mismatches of `_require_same_content`: `occurred_at` counts when the call gives it. -/
def AutomationRunEvent.mismatches (event : AutomationRunEvent) (payload : EventPayload)
    (occurredAt : Option AwareTime) : List String :=
  event.toEventPayload.mismatches payload ++
    if occurredAt.any (·.differs event.occurredAt) then ["occurred_at"] else []

/-- `_require_same_content`. -/
def requireSameContent (event : AutomationRunEvent) (payload : EventPayload)
    (occurredAt : Option AwareTime) : Except RecordError Unit :=
  if (event.mismatches payload occurredAt).isEmpty then .ok () else .error .traceabilityConflict

/-- The event as it is read back from its row: `details` is a column of type `jsonb`. -/
def AutomationRunEvent.stored (e : AutomationRunEvent) : AutomationRunEvent :=
  { e with details := Value.fromColumnItems e.details }

/-- The runs that exist and the table of events, in the order of insertion. -/
structure Ledger where
  runs : RunId → Bool
  events : List AutomationRunEvent

namespace Ledger

/-- `locked_run.events`. -/
def eventsOf (s : Ledger) (r : RunId) : List AutomationRunEvent := s.events.filter (·.run == r)

/-- `filter(run=locked_run, deduplication_key=...).first()`. -/
def existing? (s : Ledger) (r : RunId) (key : String) : Option AutomationRunEvent :=
  (s.eventsOf r).find? (·.deduplicationKey == key)

/-- `aggregate(maximum=Max("sequence"))["maximum"] or 0`. -/
def latestSequence (s : Ledger) (r : RunId) : ℕ := ((s.eventsOf r).map (·.sequence)).foldr max 0

/-- `objects.create`: the row is validated, and the constraints of the table hold after it. -/
def insert (platform : Platform AutomationRunEvent) (s : Ledger) (e : AutomationRunEvent) :
    Except RecordError Ledger :=
  if platform.accepts e && 1 ≤ e.sequence &&
      (s.eventsOf e.run).all (fun x => x.sequence != e.sequence &&
        x.deduplicationKey != e.deduplicationKey) then
    .ok { s with events := s.events ++ [e.stored] }
  else .error .insertionRefused

/-- The transaction of `record_run_event`: the event with `created`, and the table after it. A new
event is returned as it was given, an old one as its row is read. -/
def append (platform : Platform AutomationRunEvent) (s : Ledger) (r : RunId) (p : EventPayload)
    (occurredAt : Option AwareTime) (id : EventId) (now : ℤ) :
    Except RecordError ((AutomationRunEvent × Bool) × Ledger) :=
  if s.runs r then
    match s.existing? r p.deduplicationKey with
    | some event =>
      if isUtcDatetime event.occurredAt then do
        requireSameContent event p occurredAt
        .ok ((event, false), s)
      else .error .rowUnreadable
    | none => do
      let event : AutomationRunEvent :=
        { p with id, run := r, sequence := s.latestSequence r + 1
                 occurredAt := (occurredAt.map AwareTime.instant).getD now }
      let s' ← s.insert platform event
      .ok ((event, true), s')
  else .error (.unsafeTraceabilityData "A execução informada não existe.")

/-- `record_run_event`. A call that raises leaves the table as it was; `id` is its `uuid4()`
and `now` its clock. -/
def record (platform : Platform AutomationRunEvent) (s : Ledger) (c : RecordCall) (id : EventId)
    (now : ℤ) : Except RecordError (AutomationRunEvent × Bool) × Ledger :=
  match (do
    let (r, p, occurredAt) ← c.clean platform
    s.append platform r p occurredAt id now) with
  | .ok (result, s') => (.ok result, s')
  | .error e => (.error e, s)

end Ledger

/-- What happens to the log: a run is created, or the recorder is called. -/
inductive LogStep where
  | createRun (r : RunId)
  | record (c : RecordCall) (id : EventId) (now : ℤ)

namespace Ledger

/-- One step, with the event it appended. -/
def step (platform : Platform AutomationRunEvent) (s : Ledger) : LogStep →
    Option AutomationRunEvent × Ledger
  | .createRun r => (none, { s with runs := Function.update s.runs r true })
  | .record c id now =>
    match s.record platform c id now with
    | (.ok (event, true), s') => (some event, s')
    | (_, s') => (none, s')

/-- The log after the steps. -/
def run (platform : Platform AutomationRunEvent) (s : Ledger) (xs : List LogStep) : Ledger :=
  xs.foldl (fun s x => (s.step platform x).2) s

/-- The events the accepted calls created, in the order of the calls. -/
def accepted (platform : Platform AutomationRunEvent) : Ledger → List LogStep →
    List AutomationRunEvent
  | _, [] => []
  | s, x :: xs => (s.step platform x).1.toList ++ accepted platform (s.step platform x).2 xs

/-- No run has an event yet. -/
def empty : Ledger := ⟨fun _ => false, []⟩

end Ledger

end SheepContabil
