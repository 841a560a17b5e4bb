import SheepContabil.Conc.System
import SheepContabil.Spec.Sc04Classifier
import SheepContabil.Spec.Sc04Intake

/-!
# SC-04: the classification attempts of a run

One run of SC-04 with its new documents, the calls of the classifier and the rows that refer to
them. A redelivery that resumes the run gives the new worker the token of the old one, so that
several workers may pass the guard of a delivery at once.

* `ClassificationAttempt`: a row of `DocumentClassificationAttempt`.
* `SC04State`: the documents with their review and decision, and the attempts. `owners` records the
  process that may still write an attempt; no action reads it.
* `executeDocuments`: `_start_run` and the loop of `execute_sc04` over the documents.
* `sc04System`: its interleavings with the reviewer, the reconciler and any other writer of the row.

The steps of `_execute_route` are those of `RoutingState`; here they are one action.
-/

namespace SheepContabil

open Conc (Prog)

inductive ClassificationAttemptStatus where
  | processing | succeeded | invalidResponse | failed
  deriving DecidableEq, Repr

/-- `DocumentClassificationAttempt`. -/
structure ClassificationAttempt where
  document : DocumentId
  sequence : ℕ
  status : ClassificationAttemptStatus := .processing
  inputCharCount : ℕ
  prediction : Option ProviderPrediction := none
  predictedClient : Option FiscalClient := none
  errorCode : String := ""
  errorMessage : String := ""
  finishedAt : Option ℕ := none

/-- `DocumentReview`. -/
structure DocumentReview where
  suggestedAttempt : AttemptId
  reason : DocumentReviewReason
  status : DocumentReviewStatus := .pending

/-- `DocumentDecision`, with the attempt it comes from. -/
structure AttemptDecision where
  classificationAttempt : AttemptId
  documentType : DocumentType
  client : FiscalClient
  origin : DocumentDecisionOrigin

/-- `FiscalDocument`, with its review and its decision. -/
structure SC04Document where
  status : DocumentStatus := .queued
  review : Option DocumentReview := none
  decision : Option AttemptDecision := none
  classifiedType : Option DocumentType := none
  matchedClient : Option FiscalClient := none
  lastError : String := ""

/-- What the functions raise. -/
inductive SC04Exception where
  | superseded
  | classifier (e : ClassifierError)
  | storageOperation (message : String)
  | python (e : PythonException)

structure SC04State where
  run : AutomationRun
  documents : List SC04Document := []
  attempts : List ClassificationAttempt := []
  clients : List FiscalClient := []
  owners : AttemptId → Option ℕ := fun _ => none

/-- The settings, the tables of Unicode and `json.loads`. -/
structure SC04Platform where
  settings : Settings
  threshold : ℚ
  configured : Bool
  unicode : UnicodeData
  loads : String → Option PyObject

/-- The answers the state does not determine. -/
structure SC04Fate where
  now : ℕ := 0
  raises : Option SC04Exception := none
  text : String := ""
  provider : ProviderOutcome := .timeout
  copy : CopyOutcome := .copied
  copyError : String := ""

namespace SC04Document

/-- The test of `_claim_document`. -/
def isClaimable (x : SC04Document) : Bool :=
  x.status == .queued && x.decision.isNone && x.review.isNone

/-- `_open_review`: `get_or_create` of the review, and the status of the document. -/
def openReview (x : SC04Document) (attempt : AttemptId) (reason : DocumentReviewReason) :
    SC04Document :=
  { x with
    status := .awaitingReview
    review := x.review.or (some { suggestedAttempt := attempt, reason := reason }) }

/-- What `_start_run` and `_reset_sc04_interrupted_items` put back on the queue. -/
def reset (x : SC04Document) : SC04Document :=
  if x.status == .processing && x.decision.isNone && x.review.isNone then
    { x with status := .queued, lastError := "" }
  else x

/-- `_close_interrupted_sc04_items` and `_close_sc04_interrupted_items`. -/
def close (message : String) (x : SC04Document) : SC04Document :=
  if x.status == .queued || x.status == .processing then
    { x with status := .failed, lastError := message }
  else x

end SC04Document

/-- The end that a resumption, or the reconciler, gives an attempt whose worker is gone. -/
def ClassificationAttempt.interrupt (message : String) (now : ℕ) (a : ClassificationAttempt) :
    ClassificationAttempt :=
  if a.status == .processing then
    { a with
      status := .failed, errorCode := "worker_interrupted", errorMessage := message
      finishedAt := some now }
  else a

/-- The atomic actions of a delivery. -/
inductive SC04Label where
  | startRun (taskId : SuppliedTaskId) (resumeInterrupted : Bool)
  | newDocuments
  | requireCurrentDelivery (taskId : Option TaskId)
  | touchRun (taskId : Option TaskId)
  | claimDocument (d : DocumentId) (taskId : Option TaskId)
  | getBytes (d : DocumentId)
  | extract (d : DocumentId)
  | activeClients
  | createAttempt (d : DocumentId) (taskId : Option TaskId) (text : String)
  | classify (clientCodes : List String)
  | recordClassifierFailure (d : DocumentId) (taskId : Option TaskId) (a : AttemptId)
      (e : ClassifierError)
  | recordUnexpectedFailure (taskId : Option TaskId) (a : AttemptId)
  | decide_ (d : DocumentId) (taskId : Option TaskId) (a : AttemptId) (prediction : ProviderPrediction)
      (exact_ : Option FiscalClient) (ambiguousAlias : Bool)
  | executeRoute (d : DocumentId) (taskId : Option TaskId)
  | markDocumentFailed (d : DocumentId) (taskId : Option TaskId) (message : String)
  | finishUnhandledFailure (taskId : Option TaskId) (exc : String)

/-- What an action answers. -/
@[reducible] def SC04Label.Resp : SC04Label → Type
  | startRun .. => Option (Option TaskId)
  | newDocuments => List DocumentId
  | claimDocument .. => Bool
  | extract _ => String
  | activeClients => List FiscalClient
  | createAttempt .. => AttemptId
  | classify _ => ProviderPrediction
  | decide_ .. => Bool
  | _ => Unit

namespace SC04State

variable (platform : SC04Platform) (s : SC04State)

/-- `document.classification_attempts`. -/
def attemptsOf (d : DocumentId) : List ClassificationAttempt :=
  s.attempts.filter fun a => a.document == d

def setDocument (d : DocumentId) (f : SC04Document → SC04Document) : SC04State :=
  { s with documents := s.documents.modify d f }

def interruptAttempts (message : String) (now : ℕ) : SC04State :=
  { s with attempts := s.attempts.map (·.interrupt message now) }

/-- The write of an attempt by its worker, which does not write it again. -/
def writeAttempt (a : AttemptId) (f : ClassificationAttempt → ClassificationAttempt) : SC04State :=
  { s with attempts := s.attempts.modify a f, owners := Function.update s.owners a none }

/-- A transaction behind `_lock_current_delivery`. -/
def locked {α : Type} (taskId : Option TaskId) (body : Except SC04Exception α × SC04State) :
    Except SC04Exception α × SC04State :=
  if s.run.isLockedBy taskId then body else (.error .superseded, s)

/-- `_start_run`. -/
def startRun (taskId : SuppliedTaskId) (resumeInterrupted : Bool) (now : ℕ) :
    Option (Option TaskId) × SC04State :=
  match s.run.startSc04 taskId resumeInterrupted platform.settings now with
  | .ignored => (none, s)
  | .closed run =>
    (none, { s.interruptAttempts
          "O worker foi interrompido repetidamente; a tentativa foi encerrada." now with
        run := run
        documents := s.documents.map (·.close
          "O processamento foi interrompido repetidamente.") })
  | .resumed run =>
    (some run.taskId, { s.interruptAttempts
          "O processamento foi retomado após interrupção do worker." now with
        run := run, documents := s.documents.map (·.reset) })
  | .started run => (some run.taskId, { s with run := run })

/-- `_claim_document`. -/
def claimDocument (d : DocumentId) : Except SC04Exception Bool × SC04State :=
  match s.documents[d]? with
  | none => (.error (.python (.exception "DoesNotExist")), s)
  | some x =>
    if x.isClaimable then
      (.ok true, s.setDocument d fun x => { x with status := .processing, lastError := "" })
    else (.ok false, s)

/-- `_create_attempt`. -/
def createAttempt (pid : ℕ) (d : DocumentId) (text : String) : AttemptId × SC04State :=
  let sequence := ((s.attemptsOf d).map (·.sequence)).foldr max 0 + 1
  (s.attempts.length,
    { s with
      attempts := s.attempts ++
        [{ document := d, sequence := sequence, inputCharCount := text.length }]
      owners := Function.update s.owners s.attempts.length (some pid) })

/-- `_record_classifier_failure`. -/
def recordClassifierFailure (d : DocumentId) (a : AttemptId) (e : ClassifierError) (now : ℕ) :
    SC04State :=
  let invalid := e.kind == .invalidResponse
  (s.writeAttempt a fun x =>
      { x with
        status := if invalid then .invalidResponse else .failed
        errorCode := e.kind.code, errorMessage := e.message, finishedAt := some now }).setDocument d
    fun x => { x with lastError := e.message }.openReview a
      (if invalid then .invalidResponse else .classifierUnavailable)

/-- `_record_unexpected_classifier_failure`. -/
def recordUnexpectedFailure (a : AttemptId) (now : ℕ) : SC04State :=
  s.writeAttempt a fun x =>
    if x.status == .processing then
      { x with
        status := .failed, errorCode := "unexpected_classifier_error"
        errorMessage := "O classificador não pôde concluir a solicitação."
        finishedAt := some now }
    else x

/-- `_complete_attempt`. -/
def completeAttempt (a : AttemptId) (prediction : ProviderPrediction)
    (predictedClient : Option FiscalClient) (now : ℕ) : SC04State :=
  s.writeAttempt a fun x =>
    { x with
      status := .succeeded, prediction := some prediction, predictedClient := predictedClient
      finishedAt := some now }

/-- `FiscalClient.objects.filter(code=..., is_active=True).first()`. -/
def predictedClient (prediction : ProviderPrediction) : Option FiscalClient :=
  prediction.validated.clientCode.bind fun code =>
    if code = "" then none else s.clients.find? fun client => client.code == code

/-- The transaction of `_process_document` after the classifier. Whatever it raises rolls it back. -/
def decide_ (d : DocumentId) (a : AttemptId) (prediction : ProviderPrediction)
    (exact_ : Option FiscalClient) (ambiguousAlias : Bool) (now : ℕ) :
    Except SC04Exception Bool × SC04State :=
  if !prediction.isStorable then (.error (.python (.exception "DataError")), s)
  else
    let predicted := s.predictedClient prediction
    let finalClient := exact_.or predicted
    let finalClientConfidence := if exact_.isSome then 1 else prediction.validated.clientConfidence
    let completed := (s.completeAttempt a prediction predicted now).setDocument d fun x =>
      { x with
        classifiedType := some prediction.validated.documentType, matchedClient := finalClient
        lastError := "" }
    match reviewReason platform.threshold prediction.validated.documentType
        prediction.validated.typeConfidence finalClient finalClientConfidence
        (ambiguousAlias || prediction.validated.isAmbiguous), finalClient with
    | some reason, _ => (.ok false, completed.setDocument d (·.openReview a reason))
    | none, none => (.error (.python (.exception "RuntimeError")), s)
    | none, some client =>
      -- a document has one decision
      if (s.documents[d]?).all (·.decision.isNone) then
        let decision : AttemptDecision := ⟨a, prediction.validated.documentType, client, .automatic⟩
        (.ok true, completed.setDocument d fun x => { x with decision := some decision })
      else (.error (.python (.exception "IntegrityError")), s)

/-- `_execute_route`, from its first guard to its last transaction. -/
def executeRoute (d : DocumentId) (message : String) :
    CopyOutcome → Except SC04Exception Unit × SC04State
  | .copied => (.ok (), s.setDocument d fun x => { x with status := .routed, lastError := "" })
  | .storageError =>
    (.error (.storageOperation message),
      s.setDocument d fun x => { x with status := .failed, lastError := message })
  | .raised => (.error (.python (.exception "Exception")), s)

/-- `_mark_document_failed`: a delivery without a token is not locked. -/
def markDocumentFailed (d : DocumentId) (taskId : Option TaskId) (message : String) :
    Except SC04Exception Unit × SC04State :=
  if taskId.isSome && !s.run.isLockedBy taskId then (.error .superseded, s)
  else (.ok (), s.setDocument d fun x => { x with status := .failed, lastError := message })

/-- What an action does when nothing prevents it. -/
def perform (pid : ℕ) : (l : SC04Label) → SC04Fate → SC04State →
    Except SC04Exception l.Resp × SC04State
  | .startRun taskId resumeInterrupted, i, s =>
    (.ok (s.startRun platform taskId resumeInterrupted i.now).1,
      (s.startRun platform taskId resumeInterrupted i.now).2)
  | .newDocuments, _, s => (.ok (List.range s.documents.length), s)
  | .requireCurrentDelivery taskId, _, s =>
    (if s.run.deliveryIsCurrent taskId then .ok () else .error .superseded, s)
  | .touchRun taskId, i, s => (.ok (), { s with run := s.run.touchRun taskId i.now })
  | .claimDocument d taskId, _, s => s.locked taskId (s.claimDocument d)
  | .getBytes _, _, s => (.ok (), s)
  | .extract _, i, s => (.ok i.text, s)
  | .activeClients, _, s => (.ok s.clients, s)
  | .createAttempt d taskId text, _, s =>
    s.locked taskId (.ok (s.createAttempt pid d text).1, (s.createAttempt pid d text).2)
  | .classify clientCodes, i, s =>
    ((SheepContabil.classify platform.configured platform.loads clientCodes i.provider).mapError
      fun
      | .classifier e => .classifier e
      | .python e => .python e, s)
  | .recordClassifierFailure d taskId a e, i, s =>
    s.locked taskId (.ok (), s.recordClassifierFailure d a e i.now)
  | .recordUnexpectedFailure taskId a, i, s =>
    s.locked taskId (.ok (), s.recordUnexpectedFailure a i.now)
  | .decide_ d taskId a prediction exact_ ambiguousAlias, i, s =>
    s.locked taskId (s.decide_ platform d a prediction exact_ ambiguousAlias i.now)
  | .executeRoute d taskId, i, s => s.locked taskId (s.executeRoute d i.copyError i.copy)
  | .markDocumentFailed d taskId message, _, s => s.markDocumentFailed d taskId message
  | .finishUnhandledFailure taskId exc, i, s =>
    (.ok (), { s with run := s.run.finishUnhandledFailure exc taskId i.now })

/-- What an action does when process `pid` performs it. A call that raises changes nothing. -/
def sem (pid : ℕ) (l : SC04Label) (i : SC04Fate) (s : SC04State) :
    Except SC04Exception l.Resp × SC04State :=
  match i.raises with
  | some e => (.error e, s)
  | none => perform platform pid l i s

end SC04State

section Programs

abbrev SC04Prog := Prog SC04Label SC04Label.Resp SC04Exception

open SC04Label Conc.Prog

/-- The message that `_mark_document_failed` shows. -/
def SC04Exception.safeMessage : SC04Exception → String
  | storageOperation message => message
  | _ => "O documento não pôde ser concluído nesta execução."

/-- The `try` block of `_process_document`. -/
def classifyDocument (unicode : UnicodeData) (d : DocumentId) (taskId : Option TaskId) :
    SC04Prog Unit := do
  call (getBytes d)
  let text ← call (extract d)
  let clients ← call activeClients
  let matched := exactClientMatch unicode text clients
  let a ← call (createAttempt d taskId text)
  let r ← Prog.attempt (call (SC04Label.classify (clients.map (·.code))))
  match r with
  | .error (.classifier e) => call (recordClassifierFailure d taskId a e)
  | .error (.python (.baseException name)) => raise (.python (.baseException name))
  | .error e => do
    call (recordUnexpectedFailure taskId a)
    raise e
  | .ok prediction => do
    let routes ← call (SC04Label.decide_ d taskId a prediction matched.1 matched.2)
    if routes then call (executeRoute d taskId) else ret ()

/-- The handlers of `_process_document`. -/
def handleDocument (d : DocumentId) (taskId : Option TaskId) : SC04Exception → SC04Prog Unit
  | .superseded => ret ()
  | .python (.baseException name) => raise (.python (.baseException name))
  | e => Prog.tryCatch (call (markDocumentFailed d taskId e.safeMessage)) fun
    | .superseded => ret ()
    | e => raise e

/-- `_process_document`. -/
def processDocument (unicode : UnicodeData) (d : DocumentId) (taskId : Option TaskId) :
    SC04Prog Unit := do
  let claimed ← call (claimDocument d taskId)
  if claimed then
    Prog.tryCatch (classifyDocument unicode d taskId) (handleDocument d taskId)
  else ret ()

/-- One turn of the loop of `execute_sc04`. -/
def nextDocument (unicode : UnicodeData) (taskId : Option TaskId) (d : DocumentId) :
    SC04Prog Unit := do
  call (requireCurrentDelivery taskId)
  call (SC04Label.touchRun taskId)
  processDocument unicode d taskId

/-- The `try` block of `execute_sc04`, after the inbox and the pending routes. -/
def processDocuments (unicode : UnicodeData) (taskId : Option TaskId) : SC04Prog Unit := do
  let documents ← call newDocuments
  Prog.forM' (nextDocument unicode taskId) documents
  call (requireCurrentDelivery taskId)

/-- The handlers of `execute_sc04`. -/
def handleSc04 (taskId : Option TaskId) : SC04Exception → SC04Prog Unit
  | .superseded => ret ()
  | .python (.baseException name) => raise (.python (.baseException name))
  | e => do
    call (SC04Label.finishUnhandledFailure taskId "Exception")
    raise e

/-- `execute_sc04`. -/
def executeDocuments (unicode : UnicodeData) (taskId : SuppliedTaskId) (resumeInterrupted : Bool) :
    SC04Prog Unit := do
  let started ← call (SC04Label.startRun taskId resumeInterrupted)
  match started with
  | none => ret ()
  | some taskId => Prog.tryCatch (processDocuments unicode taskId) (handleSc04 taskId)

end Programs

/-- One delivery of a message. -/
structure SC04Process where
  taskId : SuppliedTaskId
  redelivered : Bool

/-- The transactions of the other processes. -/
inductive SC04Event where
  /-- Any write of the row of the run. -/
  | saveRun (run : AutomationRun)
  | saveClients (clients : List FiscalClient)
  | ingestDocument
  | resolveReview (d : DocumentId) (documentType : DocumentType) (client : FiscalClient)
  /-- `_execute_route` of a request, or of the loop over the pending routes. -/
  | executeRoute (d : DocumentId) (outcome : CopyOutcome) (message : String)
  | reconcileOne (hasNewItems : Bool) (fresh : TaskId) (now : ℕ)

namespace SC04State

/-- The transaction of `resolve_document_review`; what it refuses changes nothing. -/
def resolveReview (s : SC04State) (d : DocumentId) (documentType : DocumentType)
    (client : FiscalClient) : SC04State :=
  match (s.documents[d]?).bind (·.review) with
  | none => s
  | some review =>
    if documentType = .unknown ∨ review.status ≠ .pending ∨
        ¬ s.clients.any (·.code == client.code) ∨
        ¬ (s.documents[d]?).all (·.decision.isNone) then s
    else s.setDocument d fun x =>
      { x with
        review := some { review with status := .completed }
        decision := some ⟨review.suggestedAttempt, documentType, client, .humanReview⟩
        classifiedType := some documentType, matchedClient := some client, lastError := "" }

/-- `_reconcile_one`. -/
def reconcileOne (settings : Settings) (s : SC04State) (hasNewItems : Bool) (fresh : TaskId)
    (now : ℕ) : SC04State :=
  match s.run.reconcileOne false settings now hasNewItems fresh with
  | (.requeued _, run) =>
    if s.run.status = .running then
      { s.interruptAttempts
          "A tentativa órfã foi encerrada pela reconciliação automática." now with
        run := run, documents := s.documents.map (·.reset) }
    else { s with run := run }
  | (.failed, run) =>
    if s.run.status = .pending then { s with run := run }
    else
      { s.interruptAttempts
          "A tentativa órfã foi encerrada pela reconciliação automática." now with
        run := run
        documents := s.documents.map (·.close
          "A execução órfã excedeu o limite de recuperação automática.") }
  | (_, run) => { s with run := run }

/-- What an event does. -/
def handle (settings : Settings) (s : SC04State) : SC04Event → SC04State
  | .saveRun run => { s with run := run }
  | .saveClients clients => { s with clients := clients }
  | .ingestDocument => { s with documents := s.documents ++ [{}] }
  | .resolveReview d documentType client => s.resolveReview d documentType client
  | .executeRoute d outcome message => (s.executeRoute d message outcome).2
  | .reconcileOne hasNewItems fresh now => s.reconcileOne settings hasNewItems fresh now

end SC04State

/-- The deliveries of one run among the events. A worker that dies leaves its rows. -/
def sc04System (platform : SC04Platform) :
    Conc.System SC04Label SC04Label.Resp SC04Exception SC04State SC04Fate SC04Process SC04Event where
  sem := SC04State.sem platform
  body k := executeDocuments platform.unicode k.taskId k.redelivered
  onCrash _ s := s
  env e s := s.handle platform.settings e

end SheepContabil
