import SheepContabil.Proof.Sc05Programs
import SheepContabil.Spec.Sc05Runs

/-!
# The moves of an operation

`SagaMove` lists all that a move may do to the view of one operation, with the
guards of the actions; `saga_cases` says that nothing else happens. Every invariant
of the saga is proved by cases on it.
-/

namespace SheepContabil

open Conc

variable {W ι η : Type} {o : OperationId}

/-- A move on the view `v` of operation `o`, and the view after it. -/
inductive SagaMove (o : OperationId) (v : SagaView) : Move SC05Label (Fate ι) η → SagaView → Prop where
  | idle (m : Move SC05Label (Fate ι) η) : SagaMove o v m v
  | released (m : Move SC05Label (Fate ι) η) (pid : ℕ) (hm : m.pid? = some pid)
      (hw : v.worker = some pid) : SagaMove o v m { v with worker := none }
  | started (pid : ℕ) (t : SuppliedTaskId) (b : Bool) (i : Fate ι) (taskId : Option TaskId)
      (hdb : i.dbFails = false) (hs : v.Starts t) :
    SagaMove o v (.act pid (.prepareOperation o t b) i)
      { v with worker := some pid, status := .running, taskId := taskId,
               trace := .started pid :: v.trace }
  | quarantined (pid : ℕ) (l : SC05Label) (i : Fate ι) (hl : l.op? = some o)
      (hq : l.mayQuarantine = true) (hrun : v.status = .running) :
    SagaMove o v (.act pid l i) v.quarantine
  | waits (m : Move SC05Label (Fate ι) η) (status : RunStatus) (t : Option TaskId)
      (hv : v.status = .queued ∨ v.status = .partiallyFailed) (hrun : status ≠ .running)
      (hs : status ≠ .succeeded) : SagaMove o v m { v with status := status, taskId := t }
  | undispatched (pid : ℕ) (t : TaskId) (status : RunStatus) (exc : String) (i : Fate ι)
      (hv : v.status = .queued) :
    SagaMove o v (.act pid (.recordDispatchFailure o t status exc) i) { v with status := status }
  | marked (pid : ℕ) (l : SC05Label) (i : Fate ι) (p : SC05Portal) (status : SC05StepStatus)
      (hl : l.op? = some o) (hw : l.isWorkerWrite = true) (hrun : v.status = .running) :
    SagaMove o v (.act pid l i) (v.setStatus p status)
  | saved (pid : ℕ) (p : SC05Portal) (u : StepUpdate) (i : Fate ι) (hdb : i.dbFails = false) :
    SagaMove o v (.act pid (.saveStep o p u) i) (v.saveStep p u)
  | called (pid : ℕ) (p : SC05Portal) (request : GatewayRequest) (i : Fate ι)
      (outcome : CallOutcome) :
    SagaMove o v (.act pid (.callPortal o p request) i)
      (v.push (.called pid p request.phase request.call (v.step p).before (v.step p).desired outcome))
  | compensating (pid : ℕ) (failed : SC05Portal) (i : Fate ι) :
    SagaMove o v (.act pid (.compensationCandidates o failed) i)
      (v.push (.compensating pid failed (v.candidates.map Prod.fst)))
  | succeeded (pid : ℕ) (t : Option TaskId) (i : Fate ι) (hc : v.Current t) :
    SagaMove o v (.act pid (.finishSucceeded o t) i)
      { v with status := .succeeded, trace := .succeeded pid :: v.trace }
  | failed (pid : ℕ) (e : SC05Error) (flag : Bool) (site : FailureSite) (t : Option TaskId)
      (i : Fate ι) (status : RunStatus) (client : SC05ClientStatus) (hc : v.Current t)
      (hclose : (e.code = .taskMarkerWithoutSnapshot ∧ status = .failed ∧ client = .unknown) ∨
        (e.code ≠ .taskMarkerWithoutSnapshot ∧ flag = true ∧ status = .partiallyFailed ∧
          client = .partialState) ∨
        (e.code ≠ .taskMarkerWithoutSnapshot ∧ flag = false ∧ status = .failed ∧
          client = v.action.undoneStatus)) :
    SagaMove o v (.act pid (.finishFailed o e flag site t) i)
      { v with status := status, trace := .failed pid site status client :: v.trace }

/-- An action on the operation. -/
theorem effect_cases {pid : ℕ} {l : SC05Label} {i : Fate ι} {v v' : SagaView}
    {r : Except SC05Exception l.Resp} (hl : l.op? = some o) (heff : sagaEffect pid l i v r v') :
    SagaMove (η := η) o v (.act pid l i) v' := by
  cases l <;> simp only [SC05Label.op?, Option.some.injEq, reduceCtorEq] at hl <;> subst hl
  case prepareOperation o t b =>
    rcases r with e | ⟨⟨op, client⟩, _ | _⟩
    · obtain rfl : v' = v := heff; exact .idle _
    · rcases heff with rfl | ⟨hrun, rfl⟩
      · exact .idle _
      · exact .quarantined pid _ i rfl rfl hrun
    · obtain ⟨hdb, hs, -, rfl⟩ := heff
      exact .started pid t b i _ hdb hs
  case startStep o p startedAt t =>
    cases r with
    | ok a => obtain ⟨rfl, hrun⟩ := heff; exact .marked pid _ i p _ rfl rfl hrun
    | error e => obtain ⟨rfl, -⟩ := heff; exact .idle _
  case markStepFailed o p e t =>
    cases r with
    | ok a => obtain ⟨rfl, hrun⟩ := heff; exact .marked pid _ i p _ rfl rfl hrun
    | error e => obtain ⟨rfl, -⟩ := heff; exact .idle _
  case callPortal o p request =>
    obtain ⟨outcome, rfl, -⟩ := heff
    exact .called pid p request i outcome
  case saveStep o p u =>
    cases r with
    | ok a => obtain ⟨rfl, hdb⟩ := heff; exact .saved pid p u i hdb
    | error e => obtain ⟨rfl, -⟩ := heff; exact .idle _
  case compensationCandidates o failed =>
    cases r with
    | ok a => obtain ⟨rfl, -⟩ := heff; exact .compensating pid failed i
    | error e => obtain ⟨rfl, -⟩ := heff; exact .idle _
  case finishSucceeded o t =>
    cases r with
    | error e => obtain ⟨rfl, -⟩ := heff; exact .idle _
    | ok a =>
      rcases heff with ⟨-, rfl⟩ | ⟨hc, rfl⟩
      · exact .idle _
      · exact .succeeded pid t i hc
  case finishFailed o e flag site t =>
    cases r with
    | error e => obtain ⟨rfl, -⟩ := heff; exact .idle _
    | ok a =>
      rcases heff with ⟨-, rfl⟩ | ⟨hc, status, client, rfl, hclose⟩
      · exact .idle _
      · exact .failed pid e flag site t i status client hc hclose
  case acknowledge o =>
    obtain ⟨-, rfl⟩ := heff
    split
    · rename_i hw; exact .released _ pid rfl hw
    · exact .idle _
  case resumeRun o =>
    rcases heff with rfl | ⟨hv, t, rfl⟩
    · exact .idle _
    · exact .waits _ _ _ (.inr hv) (by decide) (by decide)
  case dispatchStart o =>
    rcases heff with rfl | ⟨hv, t, rfl⟩
    · exact .idle _
    · -- the run stays queued
      have hsame : ({ v with taskId := some t } : SagaView) =
          { v with status := .queued, taskId := some t } := by rw [← hv]
      rw [hsame]
      exact .waits _ _ _ (.inl hv) (by decide) (by decide)
  case recordDispatchFailure o t status exc =>
    rcases heff with rfl | ⟨hv, rfl⟩
    · exact .idle _
    · exact .undispatched pid t status exc i hv
  case reconcileOne o now =>
    rcases heff with rfl | ⟨hrun, rfl⟩ | ⟨hv, status, t, hrun, hs, rfl⟩
    · exact .idle _
    · exact .quarantined pid _ i rfl rfl hrun
    · exact .waits _ _ _ (.inl hv) hrun hs
  all_goals
    obtain rfl : v' = v := by first | exact heff.1 | exact heff
    exact .idle _

/-- **All that a move may do to the view of an operation.** -/
theorem saga_cases {m : Move SC05Label (Fate ι) (W → W)} {v v' : SagaView}
    (h : (sagaAbstract W ι o).move m v v') : SagaMove o v m v' := by
  cases m with
  | env e => obtain rfl : v' = v := h; exact .idle _
  | crash pid =>
    have h : v' = if v.worker = some pid then { v with worker := none } else v := h
    subst h
    split
    · rename_i hw; exact .released _ pid rfl hw
    · exact .idle _
  | act pid l i =>
    obtain ⟨r, heff⟩ := h
    simp only [sagaAbstract] at heff
    split at heff
    · rename_i hl; exact effect_cases hl heff
    · subst heff; exact .idle _

end SheepContabil
