import SheepContabil.Spec.Dispatching
import SheepContabil.Spec.Sc20Gateways
import Mathlib.Logic.Function.Basic

/-!
# SC-20: certificates, communications and attempts

The tables of SC-20 and what each transaction of `sc20/services.py` does to them.
A communication is the one notification of a certificate for an expiration, a
channel and a policy; its attempts are numbered. `sends` records the calls of the
gateway, `executors` the process that started a run and `tokens` the last token a
run was given; no function reads them.

* `SC20Run.start`: the decision of `_start_run`.
* `SC20State.prepareNew`, `prepareRetry`, `finalize`: the reservation and the
  recording transaction around a send.
* `SC20State.finishRun`, `recordUnhandledFailure`: the two ends of an execution.
-/

namespace SheepContabil

abbrev CommunicationId := ℕ
abbrev AttemptId := ℕ

inductive CertificateStatus where
  | active | revoked | replaced
  deriving DecidableEq, Repr

inductive CommunicationStatus where
  | pending | sent | failed
  deriving DecidableEq, Repr

/-- `SC20Policy`. -/
structure SC20Policy where
  key : String := "sc20-60-days-v1"
  windowDays : ℕ := 60
  deriving DecidableEq, Repr

structure SC20ExecutionResult where
  selected : ℕ := 0
  sent : ℕ := 0
  failed : ℕ := 0
  deduplicated : ℕ := 0
  deriving DecidableEq, Repr

/-- The `summary` of `_finish_run`. -/
def SC20ExecutionResult.summary (result : SC20ExecutionResult) (retry : Bool) : String :=
  if retry then
    "Nova tentativa concluída: " ++ toString result.sent ++ " aviso(s) enviado(s), " ++
      toString result.failed ++ " falha(s) e " ++ toString result.deduplicated ++
      " envio(s) dispensado(s)."
  else
    toString result.selected ++ " certificado(s) na janela; " ++ toString result.sent ++
      " aviso(s) enviado(s); " ++ toString result.failed ++ " falha(s); " ++
      toString result.deduplicated ++ " aviso(s) já registrado(s)."

/-- The `summary` of `_record_unhandled_failure`. -/
def unhandledSummarySc20 (ambiguous : Bool) : String :=
  if ambiguous then
    "A comunicação foi interrompida sem confirmação final; nenhum reenvio foi realizado."
  else "A verificação de certificados foi interrompida antes da conclusão."

/-- The columns of `DigitalCertificate` the scan reads. -/
structure DigitalCertificate where
  clientName : String
  contactEmail : String
  contactPhone : String
  preferredChannel : CommunicationChannel
  validUntil : ℤ
  status : CertificateStatus := .active
  deriving DecidableEq, Repr

/-- `recipient_for`. -/
def DigitalCertificate.recipientFor (c : DigitalCertificate) : CommunicationChannel → String
  | .email => c.contactEmail
  | .whatsapp => c.contactPhone

/-- The columns under the unique constraint of a communication. -/
structure CommunicationKey where
  certificate : CertificateId
  certificateValidUntil : ℤ
  channel : CommunicationChannel
  policyKey : String
  deriving DecidableEq, Repr

structure CertificateCommunication where
  id : CommunicationId
  key : CommunicationKey
  recipient : String
  status : CommunicationStatus := .pending
  firstRun : RunId
  latestRun : RunId
  sentAt : Option ℕ := none
  lastError : String := ""
  deriving DecidableEq, Repr

structure CommunicationAttempt where
  id : AttemptId
  communication : CommunicationId
  run : RunId
  sequence : ℕ
  status : CommunicationStatus := .pending
  recipient : String
  providerMessageId : String := ""
  errorMessage : String := ""
  finishedAt : Option ℕ := none
  deriving DecidableEq, Repr

/-- A run of SC-20: the shared row, `parameters`, and the keys `policy` and `result` of its
metadata. -/
structure SC20Run where
  run : AutomationRun
  baseDate : ℤ
  retryCommunicationId : Option CommunicationId := none
  competence : Option ℕ := none
  policy : Option SC20Policy := none
  result : Option SC20ExecutionResult := none
  deriving DecidableEq, Repr

/-- `_terminal_statuses`. -/
def RunStatus.isTerminal : RunStatus → Bool
  | .succeeded | .succeededWithWarnings | .partiallyFailed | .failed | .cancelled => true
  | _ => false

/-- What `_start_run` decides on the locked run. -/
inductive SC20Start where
  | superseded
  | quarantined (run : SC20Run)
  | alreadyRunning (run : SC20Run)
  | terminal (run : SC20Run)
  | started (run : SC20Run)

/-- `_start_run`, without the events it records. Only `quarantined` and `started` are saved. -/
def SC20Run.start (r : SC20Run) (taskId : SuppliedTaskId) (resumeInterrupted : Bool) (now : ℕ) :
    SC20Start :=
  match r.run.bindDelivery taskId with
  | none => .superseded
  | some bound =>
    let run := { bound with
      dispatchStartedAt := (bound.dispatchStartedAt.or bound.queuedAt).or (some now)
      brokerPublishedAt := bound.brokerPublishedAt.or (some now) }
    if run.status = .running then
      if resumeInterrupted then
        .quarantined { r with run := run.interruptSc20 now }
      else .alreadyRunning { r with run := run }
    else if run.status.isTerminal then .terminal { r with run := run }
    else .started { r with
      run := { run with
        status := .running, startedAt := some now, errorMessage := "", heartbeatAt := some now } }

/-- `_result_from_metadata`. -/
def SC20Run.resultFromMetadata (r : SC20Run) : SC20ExecutionResult := r.result.getD {}

/-- `_PreparedDelivery`. -/
structure PreparedDelivery where
  attemptId : AttemptId
  communicationId : CommunicationId
  runId : RunId
  taskId : Option TaskId
  message : NotificationMessage
  deriving DecidableEq, Repr

/-- One `DELIVERY_IGNORED` event: `superseded` and `terminal` have a key of their own for each
token supplied, and carry the status of the run. -/
structure IgnoredDelivery where
  run : RunId
  outcome : String
  taskId : Option TaskId
  currentStatus : RunStatus
  deriving DecidableEq, Repr

/-- A call of the gateway. -/
structure SendRecord where
  attempt : AttemptId
  communication : CommunicationId
  run : RunId
  accepted : Bool
  raised : Bool
  deriving DecidableEq, Repr

structure SC20State where
  runs : RunId → Option SC20Run
  runCount : ℕ := 0
  certificates : CertificateId → Option DigitalCertificate
  communications : List CertificateCommunication := []
  attempts : List CommunicationAttempt := []
  ignored : List IgnoredDelivery := []
  nextTaskId : TaskId := 0
  sends : List SendRecord := []
  executors : RunId → Option ℕ := fun _ => none
  tokens : RunId → Option TaskId := fun _ => none

/-- What the functions raise. -/
inductive SC20Exception where
  | superseded
  | python (e : PythonException)
  deriving DecidableEq, Repr

/-- An exception of the class `Exception` with this name. -/
def SC20Exception.named (name : String) : SC20Exception := .python (.exception name)

namespace SC20State

def setRun (s : SC20State) (r : RunId) (run : SC20Run) : SC20State :=
  { s with
    runs := Function.update s.runs r (some run)
    tokens := Function.update s.tokens r (run.run.taskId.or (s.tokens r)) }

/-- `communication.attempts`. -/
def attemptsOf (s : SC20State) (c : CommunicationId) : List CommunicationAttempt :=
  s.attempts.filter fun a => a.communication == c

def attempt? (s : SC20State) (a : AttemptId) : Option CommunicationAttempt :=
  s.attempts.find? fun x => x.id == a

def communication? (s : SC20State) (c : CommunicationId) : Option CertificateCommunication :=
  s.communications.find? fun x => x.id == c

/-- `communication.save(...)` of the row with this key. -/
def updateCommunication (s : SC20State) (c : CommunicationId)
    (f : CertificateCommunication → CertificateCommunication) : SC20State :=
  { s with communications := s.communications.map fun x => if x.id = c then f x else x }

def updateAttempt (s : SC20State) (a : AttemptId) (f : CommunicationAttempt → CommunicationAttempt) :
    SC20State :=
  { s with attempts := s.attempts.map fun x => if x.id = a then f x else x }

/-- The `DELIVERY_IGNORED` event of `_start_run`; the same key with another status conflicts. -/
def recordIgnored (s : SC20State) (e : IgnoredDelivery) : Except SC20Exception SC20State :=
  match s.ignored.find? fun x => x.run == e.run && x.outcome == e.outcome && x.taskId == e.taskId with
  | none => .ok { s with ignored := s.ignored ++ [e] }
  | some x =>
    if x = e then .ok s else .error (.named "TraceabilityConflict")

/-- `_start_run`: the run in the memory of the worker, and whether it executes. -/
def startRun (s : SC20State) (pid : ℕ) (r : RunId) (taskId : SuppliedTaskId)
    (resumeInterrupted : Bool) (now : ℕ) : Except SC20Exception ((SC20Run × Bool) × SC20State) :=
  match s.runs r with
  | none => .error (.named "DoesNotExist")
  | some run =>
    match run.start taskId resumeInterrupted now with
    | .superseded => do
      let s' ← s.recordIgnored ⟨r, "superseded", taskId.normalize, run.run.status⟩
      .ok ((run, false), s')
    | .quarantined run' => .ok ((run', false), s.setRun r run')
    | .alreadyRunning run' => .ok ((run', false), s)
    | .terminal run' => do
      let s' ← s.recordIgnored ⟨r, "terminal", taskId.normalize, run'.run.status⟩
      .ok ((run', false), s')
    | .started run' =>
      .ok ((run', true), { s.setRun r run' with
        executors := Function.update s.executors r (some pid) })

/-- `delivery_is_current`. -/
def deliveryIsCurrent (s : SC20State) (r : RunId) (taskId : Option TaskId) : Bool :=
  (s.runs r).any fun run => run.run.deliveryIsCurrent taskId

/-- `_require_locked_delivery`, after `select_for_update().get()`. -/
def lockRun (s : SC20State) (r : RunId) (expectedTaskId : Option TaskId) :
    Except SC20Exception SC20Run :=
  match s.runs r with
  | none => .error (.named "DoesNotExist")
  | some run => if run.run.isLockedBy expectedTaskId then .ok run else .error .superseded

/-- `expiring_between` of the window of the run. -/
def expiringBetween (s : SC20State) (ids : List CertificateId) (startDate endDate : ℤ) :
    List CertificateId :=
  ids.filter fun c => (s.certificates c).any fun x =>
    x.status == .active && startDate ≤ x.validUntil && x.validUntil ≤ endDate

/-- `_prepare_delivery`: the next attempt, still pending, and the message to send. -/
def prepareDelivery (s : SC20State) (c : CertificateCommunication) (certificate : DigitalCertificate)
    (r : RunId) (taskId : Option TaskId) : PreparedDelivery × SC20State :=
  let nextSequence := ((s.attemptsOf c.id).map (·.sequence)).foldr max 0 + 1
  let attempt : CommunicationAttempt :=
    { id := s.attempts.length, communication := c.id, run := r, sequence := nextSequence
      recipient := c.recipient }
  ({ attemptId := attempt.id, communicationId := c.id, runId := r, taskId := taskId
     message :=
      { recipient := c.recipient, channel := c.key.channel
        subject := "Certificado digital próximo do vencimento"
        body := "O certificado de " ++ certificate.clientName ++ " vence em " ++
          toString c.key.certificateValidUntil ++ "."
        idempotencyKey := ⟨c.key.certificate, c.key.certificateValidUntil, c.key.channel,
          c.key.policyKey, nextSequence⟩ } },
    { s with attempts := s.attempts ++ [attempt] })

/-- `_prepare_new_delivery`: `get_or_create` of the communication. -/
def prepareNew (s : SC20State) (certificate : CertificateId) (r : RunId)
    (expectedTaskId : Option TaskId) (policy : SC20Policy) :
    Except SC20Exception (Option PreparedDelivery × SC20State) := do
  let run ← s.lockRun r expectedTaskId
  match s.certificates certificate with
  | none => .error (.named "DoesNotExist")
  | some locked =>
    let key : CommunicationKey :=
      ⟨certificate, locked.validUntil, locked.preferredChannel, policy.key⟩
    if s.communications.any (·.key == key) then .ok (none, s)
    else
      let communication : CertificateCommunication :=
        { id := s.communications.length, key := key
          recipient := locked.recipientFor locked.preferredChannel, firstRun := r, latestRun := r }
      let prepared := { s with communications := s.communications ++ [communication] }.prepareDelivery
        communication locked r run.run.taskId
      .ok (some prepared.1, prepared.2)

/-- `_prepare_retry_delivery`. -/
def prepareRetry (s : SC20State) (c : CommunicationId) (r : RunId)
    (expectedTaskId : Option TaskId) : Except SC20Exception (Option PreparedDelivery × SC20State) := do
  let run ← s.lockRun r expectedTaskId
  match s.communication? c with
  | none => .error (.named "DoesNotExist")
  | some communication =>
    match s.certificates communication.key.certificate with
    | none => .error (.named "DoesNotExist")
    | some certificate =>
      if certificate.status ≠ .active ∨
          certificate.validUntil ≠ communication.key.certificateValidUntil ∨
          communication.status ≠ .failed then .ok (none, s)
      else
        let communication' := { communication with
          latestRun := r, recipient := certificate.recipientFor communication.key.channel
          status := .pending, sentAt := none, lastError := "" }
        let s' := s.updateCommunication c fun _ => communication'
        -- the constraint of one attempt per communication and run
        if (s.attemptsOf c).any (·.run == r) then .error (.named "IntegrityError")
        else
          let prepared := s'.prepareDelivery communication' certificate r run.run.taskId
          .ok (some prepared.1, prepared.2)

/-- `_finalize_delivery`. -/
def finalize (s : SC20State) (p : PreparedDelivery) (delivery : DeliveryResult) (now : ℕ) :
    Except SC20Exception (SC20ExecutionResult × SC20State) := do
  let _ ← s.lockRun p.runId p.taskId
  match s.attempt? p.attemptId with
  | none => .error (.named "DoesNotExist")
  | some attempt =>
    if attempt.run ≠ p.runId ∨ attempt.communication ≠ p.communicationId then
      .error (.named "RuntimeError")
    else match attempt.status with
      | .sent => .ok ({ sent := 1 }, s)
      | .failed => .ok ({ failed := 1 }, s)
      | .pending =>
        if attempt.finishedAt.isSome then .error (.named "RuntimeError")
        else if (s.communication? p.communicationId).isNone then .error (.named "DoesNotExist")
        else
          let status := if delivery.delivered then .sent else .failed
          let s' := (s.updateAttempt p.attemptId fun a => { a with
              status := status, providerMessageId := delivery.providerMessageId
              errorMessage := delivery.errorMessage, finishedAt := some now }).updateCommunication
            p.communicationId fun c => { c with
              status := status, sentAt := if delivery.delivered then some now else none
              lastError := delivery.errorMessage, latestRun := p.runId }
          .ok (if delivery.delivered then { sent := 1 } else { failed := 1 }, s')

/-- `_finish_run`. -/
def finishRun (s : SC20State) (r : RunId) (expectedTaskId : Option TaskId)
    (result : SC20ExecutionResult) (policy : SC20Policy) (now : ℕ) :
    Except SC20Exception SC20State := do
  let run ← s.lockRun r expectedTaskId
  .ok (s.setRun r { run with
    run := { run.run with
      status := if result.failed ≠ 0 then .succeededWithWarnings else .succeeded
      summary := result.summary run.retryCommunicationId.isSome
      errorMessage := if result.failed ≠ 0 then
        "Há avisos com falha disponíveis para uma nova tentativa." else ""
      finishedAt := some now, heartbeatAt := some now }
    policy := some policy, result := some result })

/-- The run owns an attempt whose outcome is not known. -/
def hasPendingAttempt (s : SC20State) (r : RunId) : Bool :=
  s.attempts.any fun a => a.run == r && a.status == .pending && a.finishedAt.isNone

/-- `_record_unhandled_failure`. -/
def recordUnhandledFailure (s : SC20State) (r : RunId) (expectedTaskId : Option TaskId)
    (exc : String) (now : ℕ) : Except SC20Exception SC20State :=
  match s.runs r with
  | none => .error (.named "DoesNotExist")
  | some run =>
    if !run.run.isLockedBy expectedTaskId then .ok s
    else
      let ambiguous := s.hasPendingAttempt r
      .ok (s.setRun r { run with run := { run.run with
        status := if ambiguous then .partiallyFailed else .failed
        summary := unhandledSummarySc20 ambiguous
        errorMessage := if ambiguous then
            "Confirme o histórico do provedor antes de autorizar uma nova tentativa."
          else "Não foi possível concluir a verificação de certificados."
        metadata := { run.run.metadata with
          technicalError := some exc, reconciliationRequired := ambiguous }
        finishedAt := some now, heartbeatAt := some now } })

end SC20State

/-- The fields `create_sc20_run` gives a run. -/
def newSc20Run (trigger : RunTrigger) (baseDate : ℤ) (retryCommunicationId : Option CommunicationId)
    (competence : Option ℕ) (now : ℕ) (fresh : TaskId) : SC20Run where
  run := { module := .sc20, trigger := trigger, status := .queued, taskId := some fresh
           summary := AutomationRun.queuedSummary .sc20 trigger {}
           queuedAt := some now, createdAt := now }
  baseDate := baseDate
  retryCommunicationId := retryCommunicationId
  competence := competence

/-- The update of a run that the scheduler puts back on the queue. -/
def SC20Run.requeue (r : SC20Run) (now : ℕ) (fresh : TaskId) : SC20Run :=
  { r with
    run := { r.run with
      status := .queued, summary := "Execução mensal adicionada novamente à fila."
      errorMessage := "", metadata := {}, finishedAt := none
      taskId := some fresh, queuedAt := some now, dispatchStartedAt := none
      brokerPublishedAt := none, heartbeatAt := none, reconciliationAttempts := 0 }
    policy := none, result := none }

/-- The test of `prepare_scheduled_sc20_run`: a publication that failed before any start. -/
def AutomationRun.dispatchFailedBeforeStart (run : AutomationRun) : Bool :=
  run.status == .failed && run.startedAt.isNone && run.metadata.dispatchError.isSome

/-- `_reconcile_one` of a run of SC-20. -/
def AutomationRun.reconcileSc20 (run : AutomationRun) (settings : Settings) (now : ℕ)
    (fresh : TaskId) : AutomationRun :=
  if run.isStillStale (now - settings.queuedStaleAfterSeconds)
      (now - settings.runningStaleAfterSeconds) then
    match run.status with
    | .queued =>
      if run.reconciliationAttempts ≥ settings.reconciliationMaxAttempts then
        run.exhausted now
      else run.claimRecovery now fresh "stale_queue"
    | .running => run.quarantineSc20 now "stale_running_ambiguous_delivery"
    | _ => run
  else run

end SheepContabil
