import SheepContabil.Conc.System
import SheepContabil.Spec.Sc20Model

/-!
# SC-20: the executions and what happens around them

The transactions, queries and sends of `execute_sc20` are atomic actions; its
functions are programs of these actions with the source's handlers. A `Fate`
gives the time, what an action raises instead of happening, and the provider.

* `executeSc20`: one delivery of a message, whatever token it carries.
* `SC20Event`: the transactions of the web requests, the scheduler, the
  publication and the reconciler, which may come in any order.
* `sc20System`: their interleavings, over any number of runs and any gateway.
-/

namespace SheepContabil

open Conc (Prog)

/-- The answers the state does not determine. A call that raises changes nothing. -/
structure SC20Fate (ι : Type) where
  now : ℕ := 0
  raises : Option PythonException := none
  provider : ι

/-- The run in the memory of a worker: its key, the token it holds and its parameters. -/
structure LoadedRun where
  id : RunId
  taskId : Option TaskId
  baseDate : ℤ
  retryCommunicationId : Option CommunicationId
  deriving DecidableEq, Repr

/-- The atomic actions of an execution. -/
inductive SC20Label where
  | startRun (r : RunId) (taskId : SuppliedTaskId) (resumeInterrupted : Bool)
  | expiringBetween (ids : List CertificateId) (startDate endDate : ℤ)
  | requireCurrentDelivery (r : RunId) (taskId : Option TaskId)
  | touchRun (r : RunId) (taskId : Option TaskId)
  | prepareNew (certificate : CertificateId) (r : RunId) (taskId : Option TaskId)
      (policy : SC20Policy)
  | prepareRetry (communication : CommunicationId) (r : RunId) (taskId : Option TaskId)
  | send (prepared : PreparedDelivery)
  | finalize (prepared : PreparedDelivery) (delivery : DeliveryResult)
  | recordUnknown (prepared : PreparedDelivery)
  | finishRun (r : RunId) (taskId : Option TaskId) (result : SC20ExecutionResult)
      (policy : SC20Policy)
  | recordUnhandledFailure (r : RunId) (taskId : Option TaskId) (exc : String)
  | readRun (r : RunId)
  deriving DecidableEq

/-- What an action answers. -/
@[reducible] def SC20Label.Resp : SC20Label → Type
  | startRun .. => SC20Run × Bool
  | expiringBetween .. => List CertificateId
  | prepareNew .. => Option PreparedDelivery
  | prepareRetry .. => Option PreparedDelivery
  | send _ => DeliveryResult
  | finalize .. => SC20ExecutionResult
  | readRun _ => SC20Run
  | _ => Unit

section Semantics

variable {ι : Type} (gateway : NotificationGateway ι)

namespace SC20State

/-- A transaction that raised is rolled back. -/
def commit {α : Type} (s : SC20State) : Except SC20Exception (α × SC20State) →
    Except SC20Exception α × SC20State
  | .ok (a, s') => (.ok a, s')
  | .error e => (.error e, s)

/-- A transaction that answers nothing. -/
def commitUnit (s : SC20State) : Except SC20Exception SC20State →
    Except SC20Exception Unit × SC20State
  | .ok s' => (.ok (), s')
  | .error e => (.error e, s)

/-- What an action does when nothing prevents it. -/
def perform (pid : ℕ) : (l : SC20Label) → SC20Fate ι → SC20State →
    Except SC20Exception l.Resp × SC20State
  | .startRun r taskId resumeInterrupted, i, s =>
    s.commit (s.startRun pid r taskId resumeInterrupted i.now)
  | .expiringBetween ids startDate endDate, _, s =>
    (.ok (s.expiringBetween ids startDate endDate), s)
  | .requireCurrentDelivery r taskId, _, s =>
    (if s.deliveryIsCurrent r taskId then .ok () else .error .superseded, s)
  | .touchRun r taskId, i, s =>
    (.ok (), match s.runs r with
      | some run => s.setRun r { run with run := run.run.touchRun taskId i.now }
      | none => s)
  | .prepareNew certificate r taskId policy, _, s =>
    s.commit (s.prepareNew certificate r taskId policy)
  | .prepareRetry communication r taskId, _, s => s.commit (s.prepareRetry communication r taskId)
  | .send p, i, s =>
    let outcome := gateway p.message i.provider
    (outcome.result.mapError .python,
      { s with
        sends := s.sends ++
          [⟨p.attemptId, p.communicationId, p.runId, outcome.accepted, outcome.raised⟩] })
  | .finalize p delivery, i, s => s.commit (s.finalize p delivery i.now)
  | .recordUnknown _, _, s => (.ok (), s)
  | .finishRun r taskId result policy, i, s =>
    s.commitUnit (s.finishRun r taskId result policy i.now)
  | .recordUnhandledFailure r taskId exc, i, s =>
    s.commitUnit (s.recordUnhandledFailure r taskId exc i.now)
  | .readRun r, _, s =>
    (match s.runs r with
      | some run => .ok run
      | none => .error (.named "DoesNotExist"), s)

/-- What an action does when process `pid` performs it. -/
def sem (pid : ℕ) (l : SC20Label) (i : SC20Fate ι) (s : SC20State) :
    Except SC20Exception l.Resp × SC20State :=
  match i.raises with
  | some e => (.error (.python e), s)
  | none => perform gateway pid l i s

end SC20State

end Semantics

section Programs

abbrev SC20Prog := Prog SC20Label SC20Label.Resp SC20Exception

open SC20Label Conc.Prog

/-- `_send_prepared_delivery`. The handler is for every `BaseException`. -/
def sendPreparedDelivery (p : PreparedDelivery) : SC20Prog SC20ExecutionResult :=
  Prog.tryCatch (do
      let delivery ← call (send p)
      call (finalize p delivery))
    fun e => do
      call (recordUnknown p)
      raise e

/-- `_notify_certificate` and `_execute_retry`, once the delivery is prepared or dispensed. -/
def sendIfPrepared : Option PreparedDelivery → SC20Prog SC20ExecutionResult
  | none => ret { deduplicated := 1 }
  | some p => sendPreparedDelivery p

/-- `_notify_certificate`. -/
def notifyCertificate (run : LoadedRun) (policy : SC20Policy) (certificate : CertificateId) :
    SC20Prog SC20ExecutionResult := do
  let prepared ← call (prepareNew certificate run.id run.taskId policy)
  sendIfPrepared prepared

/-- The counters of `_execute_scan` after one more certificate. -/
def SC20ExecutionResult.count (total result : SC20ExecutionResult) : SC20ExecutionResult where
  selected := total.selected + 1
  sent := total.sent + result.sent
  failed := total.failed + result.failed
  deduplicated := total.deduplicated + result.deduplicated

/-- The loop of `_execute_scan`. -/
def scanCertificates (run : LoadedRun) (policy : SC20Policy) :
    List CertificateId → SC20ExecutionResult → SC20Prog SC20ExecutionResult
  | [], total => ret total
  | certificate :: rest, total => do
    call (requireCurrentDelivery run.id run.taskId)
    call (SC20Label.touchRun run.id run.taskId)
    let result ← notifyCertificate run policy certificate
    scanCertificates run policy rest (total.count result)

/-- `_execute_scan`, over the certificates the database holds. -/
def executeScan (ids : List CertificateId) (run : LoadedRun) (policy : SC20Policy) :
    SC20Prog SC20ExecutionResult := do
  let certificates ← call (expiringBetween ids run.baseDate (run.baseDate + policy.windowDays))
  scanCertificates run policy certificates {}

/-- `_execute_retry`. -/
def executeRetry (run : LoadedRun) (communication : CommunicationId) :
    SC20Prog SC20ExecutionResult := do
  let prepared ← call (prepareRetry communication run.id run.taskId)
  sendIfPrepared prepared

/-- The `try` block of `execute_sc20`. -/
def runSc20 (ids : List CertificateId) (run : LoadedRun) (policy : SC20Policy) :
    SC20Prog SC20ExecutionResult := do
  let result ← match run.retryCommunicationId with
    | some communication => executeRetry run communication
    | none => executeScan ids run policy
  call (finishRun run.id run.taskId result policy)
  ret result

/-- The handlers of `execute_sc20`. An exception outside the class `Exception` passes. -/
def handleSc20 (run : LoadedRun) : SC20Exception → SC20Prog SC20ExecutionResult
  | .superseded => do
    let current ← call (readRun run.id)
    ret current.resultFromMetadata
  | .python (.exception name) => do
    call (SC20Label.recordUnhandledFailure run.id run.taskId name)
    raise (.python (.exception name))
  | e => raise e

/-- `execute_sc20`. -/
def executeSc20 (ids : List CertificateId) (r : RunId) (taskId : SuppliedTaskId)
    (resumeInterrupted : Bool) (policy : SC20Policy) : SC20Prog SC20ExecutionResult := do
  let (run, shouldExecute) ← call (startRun r taskId resumeInterrupted)
  if !shouldExecute then ret run.resultFromMetadata
  else
    let loaded : LoadedRun := ⟨r, run.run.taskId, run.baseDate, run.retryCommunicationId⟩
    Prog.tryCatch (runSc20 ids loaded policy) (handleSc20 loaded)

end Programs

/-- One delivery of a message: the certificates its scan finds in the table, its token, and
whether the broker delivers it again. -/
structure SC20Process where
  certificates : List CertificateId
  run : RunId
  taskId : SuppliedTaskId
  redelivered : Bool
  policy : SC20Policy := {}

def SC20Process.body (k : SC20Process) : SC20Prog Unit := do
  let _ ← executeSc20 k.certificates k.run k.taskId k.redelivered k.policy

/-- The transactions of the other processes, one event each. -/
inductive SC20Event where
  | createRun (trigger : RunTrigger) (baseDate : ℤ)
      (retryCommunicationId : Option CommunicationId) (now : ℕ)
  | prepareScheduled (competence : ℕ) (baseDate : ℤ) (now : ℕ)
  | dispatchStart (r : RunId) (now : ℕ)
  | recordDispatchFailure (r : RunId) (taskId : TaskId) (exc : String) (now : ℕ)
  | recordDispatchSuccess (r : RunId) (taskId : TaskId) (now : ℕ)
  | reconcileOne (r : RunId) (settings : Settings) (now : ℕ)
  | recordRecoveryPublishFailure (r : RunId) (taskId : TaskId) (exc : String) (now : ℕ)
  | recordInspectionFailure (r : RunId) (exc : String) (now : ℕ)
  | saveCertificate (c : CertificateId) (certificate : Option DigitalCertificate)

namespace SC20State

/-- A run is inserted. -/
def insertRun (s : SC20State) (run : SC20Run) : SC20State :=
  { s.setRun s.runCount run with runCount := s.runCount + 1, nextTaskId := s.nextTaskId + 1 }

/-- One locked update of the shared row of a run. -/
def updateRow (s : SC20State) (r : RunId) (f : AutomationRun → AutomationRun) : SC20State :=
  match s.runs r with
  | some run => s.setRun r { run with run := f run.run }
  | none => s

/-- `prepare_scheduled_sc20_run`: the key of the competence is unique. -/
def prepareScheduled (s : SC20State) (competence : ℕ) (baseDate : ℤ) (now : ℕ) : SC20State :=
  match (List.range s.runCount).find? fun r =>
    (s.runs r).any fun run => run.competence == some competence with
  | none => s.insertRun (newSc20Run .scheduled baseDate none (some competence) now s.nextTaskId)
  | some r =>
    match s.runs r with
    | some run =>
      if run.run.dispatchFailedBeforeStart then
        { s.setRun r (run.requeue now s.nextTaskId) with nextTaskId := s.nextTaskId + 1 }
      else s
    | none => s

/-- What an event does. -/
def handle (s : SC20State) : SC20Event → SC20State
  | .createRun trigger baseDate retry now =>
    s.insertRun (newSc20Run trigger baseDate retry none now s.nextTaskId)
  | .prepareScheduled competence baseDate now => s.prepareScheduled competence baseDate now
  | .dispatchStart r now =>
    { s.updateRow r fun run => (run.dispatchStart now s.nextTaskId).2 with
      nextTaskId := s.nextTaskId + 1 }
  | .recordDispatchFailure r taskId exc now =>
    s.updateRow r fun run => run.recordDispatchFailure taskId .failed exc now
  | .recordDispatchSuccess r taskId now =>
    s.updateRow r fun run => run.recordDispatchSuccess taskId now
  | .reconcileOne r settings now =>
    { s.updateRow r fun run => run.reconcileSc20 settings now s.nextTaskId with
      nextTaskId := s.nextTaskId + 1 }
  | .recordRecoveryPublishFailure r taskId exc now =>
    s.updateRow r fun run => run.recordRecoveryPublishFailure taskId exc now
  | .recordInspectionFailure r exc now => s.updateRow r fun run => run.recordInspectionFailure exc now
  | .saveCertificate c certificate =>
    { s with certificates := Function.update s.certificates c certificate }

/-- No run, communication or attempt yet. -/
def initial (certificates : CertificateId → Option DigitalCertificate) : SC20State where
  runs _ := none
  certificates := certificates

end SC20State

/-- The executions of SC-20 among the events. The death of a process leaves the tables alone. -/
def sc20System {ι : Type} (gateway : NotificationGateway ι) :
    Conc.System SC20Label SC20Label.Resp SC20Exception SC20State (SC20Fate ι) SC20Process
      SC20Event where
  sem := SC20State.sem gateway
  body := SC20Process.body
  onCrash _ s := s
  env e s := s.handle e

end SheepContabil
