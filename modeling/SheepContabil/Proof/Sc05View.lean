import SheepContabil.Conc.View
import SheepContabil.Spec.Sc05View

/-!
# The saga of one operation, as a view

`sagaAbstract` says what every action may do to the view of one operation, with the
evidence, the attempts, the timestamps and all other operations left out.

* `saga_simulates`: the SC-05 system refines the abstract one, for any operation.
-/

namespace SheepContabil

open Conc

section Effects

variable {ι α : Type}

/-- The exception of a failing database. -/
def DbFailure (i : Fate ι) (e : SC05Exception) : Prop := i.dbFails = true ∧ ∃ name, e = .other name

/-- The exception of a failing adapter or storage. -/
def Faulty (i : Fate ι) (e : SC05Exception) : Prop := ∃ f, i.fault = some f ∧ e = f.raised

/-- The exception of a transaction that checks the delivery first. -/
def Refused (i : Fate ι) (taskId : Option TaskId) (v : SagaView) (e : SC05Exception) : Prop :=
  (e = .superseded ∧ ¬ v.Current taskId) ∨ DbFailure i e

/-- An action that leaves the view alone and may answer `P`. -/
def Reads (E : SC05Exception → Prop) (P : α → Prop) (v : SagaView) (r : Except SC05Exception α)
    (v' : SagaView) : Prop :=
  v' = v ∧ match r with
    | .ok a => P a
    | .error e => E e

/-- An action that, when it does not fail, takes the view to `w`. -/
def Writes (E : SC05Exception → Prop) (P : α → Prop) (w v : SagaView) (r : Except SC05Exception α)
    (v' : SagaView) : Prop :=
  match r with
  | .ok a => v' = w ∧ P a
  | .error e => v' = v ∧ E e

end Effects

open SC05Label in
/-- What an action of process `pid` on the operation of the view may do. -/
def sagaEffect {ι : Type} (pid : ℕ) : (l : SC05Label) → Fate ι → SagaView →
    Except SC05Exception l.Resp → SagaView → Prop
  | prepareOperation _ t _, i, v, r, v' => match r with
    | .error _ => v' = v
    | .ok (_, false) => v' = v ∨ (v.status = .running ∧ v' = v.quarantine)
    | .ok ((op, _), true) => i.dbFails = false ∧ v.Starts t ∧ op.action = v.action ∧
      v' = { v with worker := some pid, status := .running, taskId := op.run.taskId,
                    trace := .started pid :: v.trace }
  | buildScreenshotStorage _, i, v, r, v' => Reads (Faulty i) (fun _ => True) v r v'
  | openSession _, i, v, r, v' => Reads (Faulty i) (fun _ => True) v r v'
  | selectGateway _ _, i, v, r, v' => Reads (Faulty i) (fun _ => True) v r v'
  | putScreenshot .., i, v, r, v' => Reads (Faulty i) (fun _ => True) v r v'
  | publish .., i, v, r, v' => Reads (Faulty i) (fun _ => True) v r v'
  | loadSteps _, i, v, r, v' => Reads (DbFailure i)
      (fun rows => rows.map (fun x => (x.1, x.2.view)) = v.action.order.map fun p => (p, v.step p))
      v r v'
  | requireCurrentDelivery _ t, i, v, r, v' => Reads (Refused i t v) (fun _ => v.Current t) v r v'
  | touchRun .., i, v, r, v' => Reads (DbFailure i) (fun _ => True) v r v'
  | startStep _ p _ t, i, v, r, v' =>
    Writes (Refused i t v) (fun _ => v.status = .running) (v.setStatus p .running) v r v'
  | startAttempt _ _ _ _ t, i, v, r, v' =>
    Reads (Refused i t v) (fun _ => v.status = .running) v r v'
  | callPortal _ p request, _, v, r, v' => ∃ outcome,
      v' = v.push (.called pid p request.phase request.call (v.step p).before (v.step p).desired
        outcome) ∧
      match outcome with
      | .returned evidence => r = .ok evidence
      | .failed _ fault => r = .error fault.raised
  | saveStep _ p u, i, v, r, v' =>
    Writes (DbFailure i) (fun _ => i.dbFails = false) (v.saveStep p u) v r v'
  | recordArtifact .., i, v, r, v' => Reads (DbFailure i) (fun _ => True) v r v'
  | succeedAttempt _ _ _ _ t, i, v, r, v' =>
    Reads (Refused i t v) (fun _ => v.status = .running) v r v'
  | failAttempt _ _ _ _ _ t, i, v, r, v' =>
    Reads (Refused i t v) (fun _ => v.status = .running) v r v'
  | priorStep .., i, v, r, v' => Reads (DbFailure i) (fun _ => True) v r v'
  | recordStepFinished _ t, i, v, r, v' =>
    Reads (Refused i t v) (fun _ => v.status = .running) v r v'
  | markStepFailed _ p _ t, i, v, r, v' =>
    Writes (Refused i t v) (fun _ => v.status = .running) (v.setStatus p .failed) v r v'
  | compensationCandidates _ failed, i, v, r, v' => Writes (DbFailure i)
      (fun rows => rows.map (fun x => (x.1, x.2.view)) = v.candidates)
      (v.push (.compensating pid failed (v.candidates.map Prod.fst))) v r v'
  | hasResidualState _, i, v, r, v' =>
    Reads (DbFailure i) (fun residual => residual = v.hasResidualState) v r v'
  | finishSucceeded _ t, i, v, r, v' => match r with
    | .error e => v' = v ∧ DbFailure i e
    | .ok _ => (¬ v.Current t ∧ v' = v) ∨
      (v.Current t ∧ v' = { v with status := .succeeded, trace := .succeeded pid :: v.trace })
  | finishFailed _ e flag site t, i, v, r, v' => match r with
    | .error e => v' = v ∧ DbFailure i e
    | .ok _ => (¬ v.Current t ∧ v' = v) ∨ (v.Current t ∧ ∃ status client,
        v' = { v with status := status, trace := .failed pid site status client :: v.trace } ∧
        ((e.code = .taskMarkerWithoutSnapshot ∧ status = .failed ∧ client = .unknown) ∨
          (e.code ≠ .taskMarkerWithoutSnapshot ∧ flag = true ∧ status = .partiallyFailed ∧
            client = .partialState) ∨
          (e.code ≠ .taskMarkerWithoutSnapshot ∧ flag = false ∧ status = .failed ∧
            client = v.action.undoneStatus)))
  | summarize .., i, v, r, v' => Reads (DbFailure i) (fun _ => True) v r v'
  | acknowledge _, _, v, r, v' =>
    r = .ok () ∧ v' = if v.worker = some pid then { v with worker := none } else v
  | resumeRun _, _, v, _, v' =>
    v' = v ∨ (v.status = .partiallyFailed ∧ ∃ t, v' = { v with status := .queued, taskId := some t })
  | dispatchStart _, _, v, _, v' =>
    v' = v ∨ (v.status = .queued ∧ ∃ t, v' = { v with taskId := some t })
  | recordDispatchFailure _ _ status _, _, v, _, v' =>
    v' = v ∨ (v.status = .queued ∧ v' = { v with status := status })
  | recordDispatchSuccess .., _, v, _, v' => v' = v
  | reconcileOne .., _, v, _, v' =>
    v' = v ∨ (v.status = .running ∧ v' = v.quarantine) ∨
      (v.status = .queued ∧ ∃ status t, status ≠ .running ∧ status ≠ .succeeded ∧
        v' = { v with status := status, taskId := t })
  | recordRecoveryPublishFailure .., _, v, _, v' => v' = v
  | recordInspectionFailure .., _, v, _, v' => v' = v
  | createRun .., _, v, _, v' => v' = v

/-- The abstract system of operation `o`: actions on other operations do nothing. -/
def sagaAbstract (W ι : Type) (o : OperationId) :
    Abstract SC05Label SC05Label.Resp SC05Exception (Fate ι) (W → W) SagaView where
  act pid l i v r v' := if l.op? = some o then sagaEffect pid l i v r v' else v' = v
  crash pid v v' := v' = if v.worker = some pid then { v with worker := none } else v
  env _ v v' := v' = v

section Simulation

variable {W ι α : Type} {s : SC05State W} {o o' : OperationId} {i : Fate ι}

@[simp] theorem setOperation_operations (s : SC05State W) (o o' : OperationId) (op : SC05Operation) :
    (s.setOperation o op).operations o' = if o' = o then op else s.operations o' := by
  simp [SC05State.setOperation, Function.update_apply]

@[simp] theorem setOperation_traces (s : SC05State W) (o : OperationId) (op : SC05Operation) :
    (s.setOperation o op).traces = s.traces := rfl

@[simp] theorem setOperation_workers (s : SC05State W) (o : OperationId) (op : SC05Operation) :
    (s.setOperation o op).workers = s.workers := rfl

section Frame

/-- A transaction keeps what the state before it has and its body keeps. -/
theorem transaction_state {P : SC05State W → Prop} {body : Except SC05Exception α × SC05State W}
    (hs : P s) (hb : P body.2) : P (transaction i s body).2 := by
  unfold transaction
  split
  · exact hs
  · exact hb

theorem locked_state {P : SC05State W → Prop} {t : Option TaskId} {body : α × SC05State W}
    (hs : P s) (hb : P body.2) : P (lockedTransaction i s o t body).2 := by
  refine transaction_state hs ?_
  split
  · exact hb
  · exact hs

theorem adapter_state {P : SC05State W → Prop} {result : α × SC05State W} (hs : P s)
    (hb : P result.2) : P (adapterCall i s result).2 := by
  unfold adapterCall
  split
  · exact hs
  · exact hb

theorem sagaView_congr {s s' : SC05State W} (hop : s'.operations o = s.operations o)
    (ht : s'.traces o = s.traces o) (hw : s'.workers o = s.workers o) :
    sagaView o s' = sagaView o s := by
  simp [sagaView, hop, ht, hw]

theorem sagaView_setOperation (h : o ≠ o') (op : SC05Operation) :
    sagaView o (s.setOperation o' op) = sagaView o s :=
  sagaView_congr (by simp [h]) rfl rfl

theorem sagaView_record (h : o ≠ o') (e : SC05Event) : sagaView o (s.record o' e) = sagaView o s :=
  sagaView_congr rfl (by simp [SC05State.record, h]) rfl

theorem sagaView_setWorker (h : o ≠ o') (w : Option ℕ) :
    sagaView o (s.setWorker o' w) = sagaView o s :=
  sagaView_congr rfl rfl (by simp [SC05State.setWorker, h])

theorem sagaView_setClientStatus (c : ClientId) (status : SC05ClientStatus) :
    sagaView o (s.setClientStatus c status) = sagaView o s := rfl

theorem transaction_view {v : SagaView} {body : Except SC05Exception α × SC05State W}
    (hs : sagaView o s = v) (hb : sagaView o body.2 = v) :
    sagaView o (transaction i s body).2 = v :=
  transaction_state (P := fun s' => sagaView o s' = v) hs hb

theorem lockedTransaction_view {v : SagaView} {t : Option TaskId} {body : α × SC05State W}
    (hs : sagaView o s = v) (hb : sagaView o body.2 = v) :
    sagaView o (lockedTransaction i s o' t body).2 = v :=
  locked_state (P := fun s' => sagaView o s' = v) hs hb

theorem adapterCall_view {v : SagaView} {result : α × SC05State W} (hs : sagaView o s = v)
    (hb : sagaView o result.2 = v) : sagaView o (adapterCall i s result).2 = v :=
  adapter_state (P := fun s' => sagaView o s' = v) hs hb

theorem sagaView_prepareOperation (h : o ≠ o') (pid : ℕ) (t : SuppliedTaskId) (b : Bool) (now : ℕ) :
    sagaView o (s.prepareOperation pid o' t b now).2 = sagaView o s := by
  unfold SC05State.prepareOperation
  split
  · rfl
  · simp only
    split
    · rfl
    · rw [sagaView_setClientStatus, sagaView_setOperation h]
    · rw [sagaView_record h, sagaView_setWorker h, sagaView_setOperation h]

theorem sagaView_createRun (hs : o < s.operationCount) (c : ClientId) (a : SC05Action)
    (sc : SC05Scenario) (k now : ℕ) : sagaView o (s.createRun c a sc k now).2 = sagaView o s := by
  unfold SC05State.createRun
  split
  · rfl
  · simp only [SC05State.createRun.refused]
    split_ifs
    all_goals first | rfl | exact sagaView_congr (by simp [Nat.ne_of_lt hs]) rfl rfl

theorem sagaView_resumeRun (h : o ≠ o') (now : ℕ) :
    sagaView o (s.resumeRun o' now).2 = sagaView o s := by
  unfold SC05State.resumeRun
  simp only
  split_ifs
  all_goals first | rfl | exact sagaView_congr (by simp [h]) rfl rfl

theorem sagaView_finishSucceeded (h : o ≠ o') (pid : ℕ) (t : Option TaskId) (now : ℕ) :
    sagaView o (s.finishSucceeded pid o' t now) = sagaView o s := by
  unfold SC05State.finishSucceeded
  simp only
  split_ifs
  · exact sagaView_congr (by simp [SC05State.record, h]) (by simp [SC05State.record, h]) rfl
  · rfl

theorem sagaView_finishFailed (h : o ≠ o') (pid : ℕ) (e : SC05Error) (b : Bool) (site : FailureSite)
    (t : Option TaskId) (now : ℕ) :
    sagaView o (s.finishFailed pid o' e b site t now) = sagaView o s := by
  unfold SC05State.finishFailed
  simp only
  split_ifs
  · rw [sagaView_record h, sagaView_setClientStatus, sagaView_setOperation h]
  · rfl

theorem sagaView_reconcileOne (h : o ≠ o') (settings : Settings) (now : ℕ) :
    sagaView o (s.reconcileOne settings o' now).2 = sagaView o s := by
  unfold SC05State.reconcileOne
  simp only
  split
  · rfl
  · simp only
    split_ifs <;> exact sagaView_congr (by simp [SC05State.setClientStatus, h]) rfl rfl

end Frame

/-- An action on another operation leaves the view alone. -/
theorem sem_frame (portal : PortalBackend W ι) (settings : Settings) (pid : ℕ) (l : SC05Label)
    (i : Fate ι) (hs : o < s.operationCount) (hl : l.op? ≠ some o) :
    sagaView o (SC05State.sem portal settings pid l i s).2 = sagaView o s := by
  cases l with
  | createRun c a sc k => exact transaction_view rfl (sagaView_createRun hs ..)
  | callPortal o' p request =>
    have h : o ≠ o' := by rintro rfl; exact hl rfl
    simp only [SC05State.sem]
    split <;> exact sagaView_congr rfl (by simp [SC05State.record, h]) rfl
  | acknowledge o' =>
    have h : o ≠ o' := by rintro rfl; exact hl rfl
    simp only [SC05State.sem]
    split
    · exact sagaView_setWorker h _
    · rfl
  | _ o' =>
    have h : o ≠ o' := by rintro rfl; exact hl rfl
    simp only [SC05State.sem, SC05State.setRun, SC05State.updateAttempt]
    first
      | exact transaction_view rfl rfl
      | exact adapterCall_view rfl rfl
      | exact lockedTransaction_view rfl rfl
      | exact transaction_view rfl (sagaView_prepareOperation h ..)
      | exact transaction_view rfl (sagaView_resumeRun h _)
      | exact transaction_view rfl (sagaView_finishSucceeded h ..)
      | exact transaction_view rfl (sagaView_finishFailed h ..)
      | exact transaction_view rfl (sagaView_reconcileOne h ..)
      | exact transaction_view rfl (sagaView_record h _)
      | exact transaction_view rfl (sagaView_congr (by simp [SC05State.saveStep, h]) rfl rfl)
      | exact lockedTransaction_view rfl (sagaView_congr (by simp [SC05State.saveStep, h]) rfl rfl)

section Own

theorem current_iff {t : Option TaskId} :
    (s.run o).deliveryIsCurrent t = true ↔ (sagaView o s).Current t := by
  simp [AutomationRun.deliveryIsCurrent, SagaView.Current, sagaView, SC05State.run]

theorem locked_of_current {t : Option TaskId} (h : (sagaView o s).Current t) :
    (s.run o).isLockedBy t = true := by
  obtain ⟨hst, ht⟩ := h
  have hst' : (s.run o).status = .running := hst
  have ht' : (s.run o).taskId = t := ht
  cases t with
  | none =>
    simp [AutomationRun.isLockedBy, hst', AutomationRun.deliveryMatches, tokenMatches,
      SuppliedTaskId.ofOption]
  | some t =>
    simp [AutomationRun.isLockedBy, hst', AutomationRun.deliveryMatches, tokenMatches,
      SuppliedTaskId.ofOption,
      SuppliedTaskId.normalize, ht']

theorem running_of_locked {t : Option TaskId} (h : (s.run o).isLockedBy t = true) :
    (sagaView o s).status = .running := by
  simp only [AutomationRun.isLockedBy, Bool.and_eq_true, beq_iff_eq] at h
  exact h.1

theorem dbFailure_of (h : i.dbFails = true) : DbFailure i (.other "OperationalError") := ⟨h, _, rfl⟩

theorem writes_transaction {P : α → Prop} {a : α} {s' : SC05State W} {w : SagaView}
    (hw : sagaView o s' = w) (hP : i.dbFails = false → P a) :
    Writes (DbFailure i) P w (sagaView o s) (transaction i s (.ok a, s')).1
      (sagaView o (transaction i s (.ok a, s')).2) := by
  unfold transaction; split
  · rename_i hdb; exact ⟨rfl, dbFailure_of hdb⟩
  · rename_i hdb; exact ⟨hw, hP (by simpa using hdb)⟩

theorem reads_transaction {P : α → Prop} {a : α} {s' : SC05State W}
    (hv : sagaView o s' = sagaView o s) (hP : P a) :
    Reads (DbFailure i) P (sagaView o s) (transaction i s (.ok a, s')).1
      (sagaView o (transaction i s (.ok a, s')).2) := by
  unfold transaction; split
  · rename_i hdb; exact ⟨rfl, dbFailure_of hdb⟩
  · exact ⟨hv, hP⟩

theorem writes_locked {t : Option TaskId} {a : α} {s' : SC05State W} {w : SagaView}
    (hw : sagaView o s' = w) :
    Writes (Refused i t (sagaView o s)) (fun _ => (sagaView o s).status = .running) w (sagaView o s)
      (lockedTransaction i s o t (a, s')).1 (sagaView o (lockedTransaction i s o t (a, s')).2) := by
  unfold lockedTransaction transaction; split
  · rename_i hdb; exact ⟨rfl, .inr (dbFailure_of hdb)⟩
  · split
    · rename_i hl; exact ⟨hw, running_of_locked hl⟩
    · rename_i hl; exact ⟨rfl, .inl ⟨rfl, fun hc => hl (locked_of_current hc)⟩⟩

theorem reads_locked {t : Option TaskId} {a : α} {s' : SC05State W}
    (hv : sagaView o s' = sagaView o s) :
    Reads (Refused i t (sagaView o s)) (fun _ => (sagaView o s).status = .running) (sagaView o s)
      (lockedTransaction i s o t (a, s')).1 (sagaView o (lockedTransaction i s o t (a, s')).2) := by
  have h := writes_locked (i := i) (t := t) (a := a) (o := o) (s := s) hv
  revert h
  rcases lockedTransaction i s o t (a, s') with ⟨e | b, s''⟩ <;> exact id

theorem reads_adapter {a : α} :
    Reads (Faulty i) (fun _ => True) (sagaView o s) (adapterCall i s (a, s)).1
      (sagaView o (adapterCall i s (a, s)).2) := by
  unfold adapterCall; split
  · rename_i f hf; exact ⟨rfl, f, hf, rfl⟩
  · exact ⟨rfl, trivial⟩

theorem sagaView_setOperation_self (op : SC05Operation) : sagaView o (s.setOperation o op) =
    ⟨s.workers o, op.action, op.run.status, op.run.taskId, fun p => (op.steps p).view, s.traces o⟩ := by
  simp [sagaView]

/-- The rows of an operation that a view does not show may change. -/
theorem sagaView_setOperation_same {op : SC05Operation} (ha : op.action = (s.operations o).action)
    (hs : op.run.status = (s.operations o).run.status)
    (ht : op.run.taskId = (s.operations o).run.taskId) (hst : op.steps = (s.operations o).steps) :
    sagaView o (s.setOperation o op) = sagaView o s := by
  rw [sagaView_setOperation_self]; simp [sagaView, ha, hs, ht, hst]

theorem sagaView_setStep (p : SC05Portal) (step : SC05PortalStep) :
    sagaView o (s.setOperation o ((s.operations o).setStep p step)) =
      (sagaView o s).setStep p step.view := by
  rw [sagaView_setOperation_self]
  simp only [SC05Operation.setStep, SagaView.setStep, sagaView, SagaView.mk.injEq, true_and, and_true]
  funext q
  by_cases hq : q = p
  · subst hq; simp
  · simp [hq]

theorem sagaView_saveStep_self (p : SC05Portal) (u : StepUpdate) (now : ℕ) :
    sagaView o (s.saveStep o p u now) = (sagaView o s).saveStep p u := sagaView_setStep p _

theorem sagaView_record_self (e : SC05Event) : sagaView o (s.record o e) = (sagaView o s).push e := by
  simp [sagaView, SC05State.record, SagaView.push]

theorem orderedSteps_view : (s.operations o).orderedSteps.map (fun x => (x.1, x.2.view)) =
    (sagaView o s).action.order.map fun p => (p, (sagaView o s).step p) := by
  simp [SC05Operation.orderedSteps, sagaView, Function.comp_def]

theorem candidates_view :
    (s.operations o).compensationCandidates.map (fun x => (x.1, x.2.view)) =
      (sagaView o s).candidates := by
  simp only [SC05Operation.compensationCandidates, SagaView.candidates, ← orderedSteps_view,
    ← List.map_reverse, List.filter_map]
  rfl

theorem candidates_portals : (s.operations o).compensationCandidates.map Prod.fst =
    (sagaView o s).candidates.map Prod.fst := by
  rw [← candidates_view, List.map_map]; rfl

theorem residual_view : (s.operations o).hasResidualState = (sagaView o s).hasResidualState := rfl

/-- A quarantine, on the rows and on the view. -/
theorem sagaView_failRunningSteps {op : SC05Operation} (run : AutomationRun) (message : String)
    (now : ℕ) (ha : op.action = (s.operations o).action) (hst : op.steps = (s.operations o).steps)
    (hrun : run.status = .partiallyFailed ∧ run.taskId = none) :
    sagaView o (s.setOperation o { op.failRunningSteps message now with run := run }) =
      (sagaView o s).quarantine := by
  rw [sagaView_setOperation_self]
  simp only [SC05Operation.failRunningSteps, SagaView.quarantine, sagaView, hrun, ha, hst,
    SagaView.mk.injEq, true_and, and_true]
  funext p
  by_cases hp : ((s.operations o).steps p).status = .running
  · simp [SC05PortalStep.view, hp]
  · simp [SC05PortalStep.view, hp]

theorem prepareOperation_effect (portal : PortalBackend W ι) (settings : Settings) (pid : ℕ)
    (t : SuppliedTaskId) (b : Bool) :
    sagaEffect pid (.prepareOperation o t b) i (sagaView o s)
      (SC05State.sem portal settings pid (.prepareOperation o t b) i s).1
      (sagaView o (SC05State.sem portal settings pid (.prepareOperation o t b) i s).2) := by
  simp only [SC05State.sem, transaction, SC05State.prepareOperation, sagaEffect]
  by_cases hdb : i.dbFails = true
  · simp [hdb]
  simp only [hdb, if_false, Bool.false_eq_true]
  by_cases hcount : s.operationCount ≤ o
  · simp [hcount]
  simp only [hcount, if_false]
  unfold SC05Operation.prepare
  rcases hbind : (s.operations o).run.bindDelivery t with _ | run
  · simp
  have hrun : run.status = (s.operations o).run.status ∧
      tokenMatches (s.operations o).run.taskId t = true := by
    obtain ⟨hmatch, rfl⟩ := AutomationRun.bindDelivery_some hbind
    exact ⟨rfl, hmatch⟩
  obtain ⟨hrun, hmatch⟩ := hrun
  simp only
  split_ifs with hact hrunning hb
  · simp
  · -- a redelivery finds the run running: the operation is quarantined
    refine .inr ⟨?_, ?_⟩
    · have : run.status = .running := by simpa using hrunning
      simpa [sagaView, hrun] using this
    · rw [sagaView_setClientStatus]
      exact sagaView_failRunningSteps _ _ _ rfl rfl ⟨rfl, rfl⟩
  · simp
  · -- the process becomes the worker of the operation
    have hne : (s.operations o).run.status ≠ .running := by
      rw [← hrun]; simpa using hrunning
    have hactive : (s.operations o).run.status.isActive = true := by
      rw [← hrun]; simpa using hact
    refine ⟨by simp, ⟨hactive, hne, hmatch⟩, rfl, ?_⟩
    rw [sagaView_record_self]
    simp [sagaView, SC05State.setWorker, SagaView.push]

theorem finishSucceeded_effect (portal : PortalBackend W ι) (settings : Settings) (pid : ℕ)
    (t : Option TaskId) :
    sagaEffect pid (.finishSucceeded o t) i (sagaView o s)
      (SC05State.sem portal settings pid (.finishSucceeded o t) i s).1
      (sagaView o (SC05State.sem portal settings pid (.finishSucceeded o t) i s).2) := by
  simp only [SC05State.sem, transaction, sagaEffect]
  by_cases hdb : i.dbFails = true
  · simp [hdb, dbFailure_of]
  simp only [hdb, if_false, Bool.false_eq_true, SC05State.finishSucceeded]
  by_cases hc : ((s.operations o).run.deliveryIsCurrent t) = true
  · refine .inr ⟨current_iff.1 hc, ?_⟩
    simp only [hc, if_true]
    simp [sagaView, SC05State.record, SC05Operation.finishSucceeded]
  · exact .inl ⟨fun h => hc (current_iff.2 h), by simp [hc]⟩

theorem finishFailed_effect (portal : PortalBackend W ι) (settings : Settings) (pid : ℕ)
    (e : SC05Error) (flag : Bool) (site : FailureSite) (t : Option TaskId) :
    sagaEffect pid (.finishFailed o e flag site t) i (sagaView o s)
      (SC05State.sem portal settings pid (.finishFailed o e flag site t) i s).1
      (sagaView o (SC05State.sem portal settings pid (.finishFailed o e flag site t) i s).2) := by
  simp only [SC05State.sem, transaction, sagaEffect]
  by_cases hdb : i.dbFails = true
  · simp [hdb, dbFailure_of]
  simp only [hdb, if_false, Bool.false_eq_true, SC05State.finishFailed]
  by_cases hc : ((s.operations o).run.deliveryIsCurrent t) = true
  · refine .inr ⟨current_iff.1 hc, ((s.operations o).finishFailed e flag i.now).run.status,
      (s.operations o).failedClientStatus e flag, ?_, ?_⟩
    · simp only [hc, if_true, sagaView_record_self, sagaView_setClientStatus,
        sagaView_setOperation_self]
      rfl
    · by_cases he : e.code = .taskMarkerWithoutSnapshot
      · simp [he, SC05Operation.finishFailed, SC05Operation.failedClientStatus]
      · cases flag
        · simp [he, SC05Operation.finishFailed, SC05Operation.failedClientStatus, sagaView]
        · simp [he, SC05Operation.finishFailed, SC05Operation.failedClientStatus]
  · exact .inl ⟨fun h => hc (current_iff.2 h), by simp [hc]⟩

/-- What `_reconcile_one` can do to an operation. -/
theorem reconcileOne_cases (op : SC05Operation) (client : SC05Client) (settings : Settings)
    (now : ℕ) (fresh : TaskId) :
    (op.reconcileOne client settings now fresh).1 = .skipped ∨
    (op.run.status = .queued ∧ ∃ run, run.status ≠ .running ∧ run.status ≠ .succeeded ∧
      (op.reconcileOne client settings now fresh).2.1 = { op with run := run }) ∨
    (op.run.status = .running ∧ ∃ run, run.status = .partiallyFailed ∧ run.taskId = none ∧
      (op.reconcileOne client settings now fresh).2.1 =
        { op.closeOrphanAttempts now with run := run }) := by
  unfold SC05Operation.reconcileOne
  by_cases hstale : (!op.run.isStillStale ((now : ℤ) - settings.queuedStaleAfterSeconds)
      ((now : ℤ) - settings.runningStaleAfterSeconds)) = true
  · exact .inl (by rw [if_pos hstale])
  rw [if_neg hstale]
  cases hst : op.run.status with
  | queued =>
    refine .inr (.inl ⟨rfl, ?_⟩)
    simp only
    split_ifs
    · have hrun : ∀ (run : AutomationRun) reason, (run.quarantineSc05 now reason).status =
          .partiallyFailed := fun _ _ => rfl
      exact ⟨_, by simp [hrun], by simp [hrun], rfl⟩
    · have hrun : (op.run.exhausted now).status = .failed := rfl
      exact ⟨_, by simp [hrun], by simp [hrun], rfl⟩
    · exact ⟨_, by simp [AutomationRun.claimRecovery], by simp [AutomationRun.claimRecovery], rfl⟩
  | running => exact .inr (.inr ⟨rfl, _, rfl, rfl, rfl⟩)
  | _ => exact .inl rfl

theorem reconcileOne_effect (portal : PortalBackend W ι) (settings : Settings) (pid now : ℕ) :
    sagaEffect pid (.reconcileOne o now) i (sagaView o s)
      (SC05State.sem portal settings pid (.reconcileOne o now) i s).1
      (sagaView o (SC05State.sem portal settings pid (.reconcileOne o now) i s).2) := by
  simp only [SC05State.sem, transaction, sagaEffect]
  by_cases hdb : i.dbFails = true
  · simp [hdb]
  simp only [hdb, if_false, Bool.false_eq_true, SC05State.reconcileOne]
  have hcases := reconcileOne_cases (s.operations o) (s.clients (s.operations o).client) settings now
    s.nextTaskId
  split
  · exact .inl rfl
  · -- the status of the client is not in the view
    rename_i recovery op' quarantined hskip heq
    rw [heq] at hcases
    have hview : ∀ s' : SC05State W, s'.operations = (s.setOperation o op').operations →
        s'.traces = s.traces → s'.workers = s.workers →
        sagaView o s' = sagaView o (s.setOperation o op') := by
      intro s' h1 h2 h3
      exact sagaView_congr (by rw [h1]) (by rw [h2]; rfl) (by rw [h3]; rfl)
    have hv : sagaView o (if quarantined = true then
        ({ s.setOperation o op' with nextTaskId := s.nextTaskId + 1 } :
          SC05State W).setClientStatus (s.operations o).client .partialState
        else { s.setOperation o op' with nextTaskId := s.nextTaskId + 1 }) =
        sagaView o (s.setOperation o op') := by
      split_ifs <;> exact hview _ rfl rfl rfl
    refine .inr ?_
    rw [hv]
    rcases hcases with h | ⟨hq, run, hrun, hsucc, h⟩ | ⟨hr, run, hrun, ht, h⟩
    · exact absurd h hskip
    · refine .inr ⟨hq, run.status, run.taskId, hrun, hsucc, ?_⟩
      simp only at h
      subst h
      rw [sagaView_setOperation_self]; rfl
    · refine .inl ⟨hr, ?_⟩
      simp only at h
      subst h
      exact sagaView_failRunningSteps run _ now rfl rfl ⟨hrun, ht⟩

/-- The actions of the web and of the dispatcher on a run. -/
theorem runUpdate_view (s : SC05State W) (run : AutomationRun) :
    sagaView o (s.setRun o run) =
      { sagaView o s with status := run.status, taskId := run.taskId } := by
  rw [SC05State.setRun, sagaView_setOperation_self]; rfl

theorem transaction_cases {β : Type} (body : Except SC05Exception β × SC05State W) :
    sagaView o (transaction i s body).2 = sagaView o s ∨
      sagaView o (transaction i s body).2 = sagaView o body.2 := by
  unfold transaction; split
  · exact .inl rfl
  · exact .inr rfl

theorem resumeRun_effect (now : ℕ) : sagaView o (s.resumeRun o now).2 = sagaView o s ∨
    ((sagaView o s).status = .partiallyFailed ∧ ∃ t,
      sagaView o (s.resumeRun o now).2 = { sagaView o s with status := .queued, taskId := some t }) := by
  unfold SC05State.resumeRun
  simp only
  split_ifs with h1 h2 h3
  · exact .inl rfl
  · exact .inl rfl
  · exact .inl rfl
  · refine .inr ⟨by simpa [sagaView] using h2, s.nextTaskId, ?_⟩
    simp [sagaView, SC05Operation.resume]

theorem dispatchStart_effect (now : ℕ) (fresh : TaskId) :
    ((s.run o).dispatchStart now fresh).2 = s.run o ∨
      ((s.run o).status = .queued ∧ ∃ t, ((s.run o).dispatchStart now fresh).2.taskId = some t ∧
        ((s.run o).dispatchStart now fresh).2.status = .queued) := by
  unfold AutomationRun.dispatchStart
  split_ifs with h1 h2
  · exact .inl rfl
  · split <;> exact .inl rfl
  · have : (s.run o).status = .queued := by simpa using h1
    exact .inr ⟨this, _, rfl, this⟩

/-- An action on the operation does what the abstract system says. -/
theorem sem_effect (portal : PortalBackend W ι) (settings : Settings) (pid : ℕ) (l : SC05Label)
    (i : Fate ι) (hl : l.op? = some o) :
    sagaEffect pid l i (sagaView o s) (SC05State.sem portal settings pid l i s).1
      (sagaView o (SC05State.sem portal settings pid l i s).2) := by
  cases l <;> simp only [SC05Label.op?, Option.some.injEq, reduceCtorEq] at hl <;> subst hl
  case prepareOperation => exact prepareOperation_effect ..
  case buildScreenshotStorage => exact reads_adapter
  case openSession => exact reads_adapter
  case loadSteps => exact reads_transaction rfl orderedSteps_view
  case requireCurrentDelivery o t =>
    simp only [SC05State.sem, transaction, sagaEffect, Reads]
    split_ifs with hdb hc
    · exact ⟨rfl, .inr (dbFailure_of hdb)⟩
    · exact ⟨rfl, current_iff.1 hc⟩
    · exact ⟨rfl, .inl ⟨rfl, fun h => hc (current_iff.2 h)⟩⟩
  case touchRun o t =>
    refine reads_transaction ?_ trivial
    rw [runUpdate_view]; simp [sagaView, SC05State.run]
  case startStep o p startedAt t => exact writes_locked (sagaView_setStep p _)
  case selectGateway => exact reads_adapter
  case startAttempt => exact reads_locked (sagaView_setOperation_same rfl rfl rfl rfl)
  case callPortal o p request =>
    -- the answer of the portal is whatever the backend gives; the call is logged either way
    simp only [SC05State.sem, sagaEffect]
    refine ⟨(portal p request i.call s.portals).1, ?_, ?_⟩
    · split <;> exact sagaView_record_self _
    · cases (portal p request i.call s.portals).1 <;> rfl
  case saveStep o p u => exact writes_transaction (sagaView_saveStep_self p u _) id
  case putScreenshot => exact reads_adapter
  case recordArtifact => exact reads_transaction (sagaView_setOperation_same rfl rfl rfl rfl) trivial
  case succeedAttempt => exact reads_locked (sagaView_setOperation_same rfl rfl rfl rfl)
  case failAttempt => exact reads_locked (sagaView_setOperation_same rfl rfl rfl rfl)
  case priorStep => exact reads_transaction rfl trivial
  case recordStepFinished => exact reads_locked rfl
  case markStepFailed o p e t => exact writes_locked (sagaView_saveStep_self p _ _)
  case compensationCandidates o failed =>
    refine writes_transaction ?_ fun _ => candidates_view
    rw [sagaView_record_self, candidates_portals]
  case hasResidualState => exact reads_transaction rfl residual_view
  case finishSucceeded => exact finishSucceeded_effect ..
  case finishFailed => exact finishFailed_effect ..
  case summarize => exact reads_transaction rfl trivial
  case acknowledge o =>
    refine ⟨rfl, ?_⟩
    simp only [SC05State.sem]
    by_cases h : s.workers o = some pid
    · simp [sagaView, SC05State.setWorker, h]
    · simp [sagaView, h]
  case resumeRun o =>
    rcases transaction_cases (o := o) (i := i) (s := s) (s.resumeRun o i.now) with h | h
    · exact .inl h
    · rcases resumeRun_effect (s := s) (o := o) i.now with h' | ⟨h', t, ht⟩
      · exact .inl (h.trans h')
      · exact .inr ⟨h', t, h.trans ht⟩
  case dispatchStart o =>
    simp only [SC05State.sem, sagaEffect]
    rcases transaction_cases (o := o) (i := i) (s := s) (β := DispatchStart)
      (.ok ((s.run o).dispatchStart i.now s.nextTaskId).1,
        { s.setRun o ((s.run o).dispatchStart i.now s.nextTaskId).2 with
          nextTaskId := s.nextTaskId + 1 }) with h | h
    · exact .inl h
    · rw [h]
      -- the counter of the tokens is not in the view
      have hv : ∀ run, sagaView o { s.setRun o run with nextTaskId := s.nextTaskId + 1 } =
          { sagaView o s with status := run.status, taskId := run.taskId } := fun run =>
        runUpdate_view s run
      rw [hv]
      rcases dispatchStart_effect (s := s) (o := o) i.now s.nextTaskId with h' | ⟨hq, t, ht, hst⟩
      · exact .inl (by rw [h']; rfl)
      · refine .inr ⟨hq, t, ?_⟩
        rw [ht, hst]
        have : (sagaView o s).status = .queued := hq
        rw [← this]
  case publish =>
    simp only [SC05State.sem, sagaEffect, Reads, adapterCall]
    split
    · rename_i f hf; exact ⟨rfl, f, hf, rfl⟩
    · exact ⟨rfl, trivial⟩
  case recordDispatchFailure o t status exc =>
    rcases transaction_cases (o := o) (i := i) (s := s) (β := Unit)
      (.ok (), s.setRun o ((s.run o).recordDispatchFailure t status exc i.now)) with h | h
    · exact .inl h
    · simp only [SC05State.sem, sagaEffect]
      rw [h, runUpdate_view]
      unfold AutomationRun.recordDispatchFailure
      split
      · -- only a run that is still queued is closed
        rename_i hc
        simp only [Bool.and_eq_true, beq_iff_eq] at hc
        exact .inr ⟨hc.2, by simp [sagaView, SC05State.run]⟩
      · exact .inl rfl
  case recordDispatchSuccess o t =>
    refine transaction_view rfl ?_
    rw [runUpdate_view]
    unfold AutomationRun.recordDispatchSuccess
    split <;> rfl
  case reconcileOne => exact reconcileOne_effect ..
  case recordRecoveryPublishFailure o t exc now =>
    refine transaction_view rfl ?_
    rw [runUpdate_view]
    unfold AutomationRun.recordRecoveryPublishFailure
    split <;> rfl
  case recordInspectionFailure o exc now =>
    refine transaction_view rfl ?_
    rw [runUpdate_view]; rfl

end Own

section Count

theorem transaction_count {n : ℕ} {body : Except SC05Exception α × SC05State W}
    (hs : n ≤ s.operationCount) (hb : n ≤ body.2.operationCount) :
    n ≤ (transaction i s body).2.operationCount :=
  transaction_state (P := fun s' => n ≤ s'.operationCount) hs hb

theorem lockedTransaction_count {n : ℕ} {t : Option TaskId} {body : α × SC05State W}
    (hs : n ≤ s.operationCount) (hb : n ≤ body.2.operationCount) :
    n ≤ (lockedTransaction i s o t body).2.operationCount :=
  locked_state (P := fun s' => n ≤ s'.operationCount) hs hb

theorem adapterCall_count {n : ℕ} {result : α × SC05State W} (hs : n ≤ s.operationCount)
    (hb : n ≤ result.2.operationCount) : n ≤ (adapterCall i s result).2.operationCount :=
  adapter_state (P := fun s' => n ≤ s'.operationCount) hs hb

/-- Operations are never deleted. -/
theorem sem_count (portal : PortalBackend W ι) (settings : Settings) (pid : ℕ) (l : SC05Label)
    (i : Fate ι) :
    s.operationCount ≤ (SC05State.sem portal settings pid l i s).2.operationCount := by
  cases l with
  | callPortal o' p request => simp only [SC05State.sem]; split <;> exact le_rfl
  | acknowledge o' => simp only [SC05State.sem]; split <;> exact le_rfl
  | createRun c a sc k =>
    refine transaction_count le_rfl ?_
    unfold SC05State.createRun
    split
    · exact le_rfl
    · -- the only action that adds an operation
      simp only [SC05State.createRun.refused]
      split_ifs <;> first | exact le_rfl | exact Nat.le_succ _
  | prepareOperation o' t b =>
    refine transaction_count le_rfl ?_
    unfold SC05State.prepareOperation
    split
    · exact le_rfl
    · simp only; split <;> exact le_rfl
  | resumeRun o' =>
    refine transaction_count le_rfl ?_
    unfold SC05State.resumeRun
    simp only; split_ifs <;> exact le_rfl
  | finishSucceeded o' t =>
    refine transaction_count le_rfl ?_
    simp only [SC05State.finishSucceeded]; split_ifs <;> exact le_rfl
  | finishFailed o' e b site t =>
    refine transaction_count le_rfl ?_
    simp only [SC05State.finishFailed]; split_ifs <;> exact le_rfl
  | reconcileOne o' now =>
    refine transaction_count le_rfl ?_
    simp only [SC05State.reconcileOne]
    split
    · exact le_rfl
    · simp only; split_ifs <;> exact le_rfl
  | _ o' =>
    simp only [SC05State.sem]
    first
      | exact transaction_count le_rfl le_rfl
      | exact lockedTransaction_count le_rfl le_rfl
      | exact adapterCall_count le_rfl le_rfl

end Count

/-- **The SC-05 system refines the abstract saga**, whatever operation is looked at. -/
theorem saga_simulates (portal : PortalBackend W ι) (settings : Settings) (o : OperationId) :
    Simulates (sc05System portal settings) (sagaAbstract W ι o) (fun s => o < s.operationCount)
      (sagaView o) where
  keeps m s hs := by
    cases m with
    | act pid l i => exact lt_of_lt_of_le hs (sem_count portal settings pid l i)
    | crash pid => exact hs
    | env e => exact hs
  act pid l i s hs := by
    simp only [sagaAbstract]
    split
    · rename_i hl; exact sem_effect portal settings pid l i hl
    · rename_i hl; exact sem_frame portal settings pid l i hs hl
  crash pid s _ := by
    simp only [sagaAbstract, sc05System]
    by_cases h : s.workers o = some pid
    · simp [sagaView, h]
    · simp [sagaView, h]
  env e s _ := rfl

end Simulation

end SheepContabil
