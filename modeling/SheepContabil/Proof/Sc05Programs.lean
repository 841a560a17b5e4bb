import SheepContabil.Proof.Sc05View

/-!
# The actions of the SC-05 programs

`deliver_within`: a delivery acts on its own operation only. `body_within`: the other
processes perform none of the worker's writes.
-/

namespace SheepContabil

open Conc Conc.Prog

/-- An action on operation `o`. -/
def On (o : OperationId) (l : SC05Label) : Prop := l.op? = some o

/-- An action of the saga of a loaded operation: it is about that operation, and a portal call is
about its client. -/
def Addressed (operation : LoadedOperation) (l : SC05Label) : Prop :=
  l.op? = some operation.id ∧ match l with
    | .callPortal _ _ request => request.clientReference = operation.client.externalReference
    | _ => True

/-- The actions only the worker of an operation may perform: the portal calls and what it writes
to the steps and to the outcome. A dispatch failure may only end the run as failed. -/
def SC05Label.isWorkerWrite : SC05Label → Bool
  | startStep .. | callPortal .. | saveStep .. | markStepFailed .. | compensationCandidates ..
  | finishSucceeded .. | finishFailed .. => true
  | recordDispatchFailure _ _ status _ => status != .failed && status != .partiallyFailed
  | _ => false

/-- The actions that write neither the captured state of a step nor the success of a run, and
report a failed publication as a failure. -/
def SC05Label.isPlain : SC05Label → Bool
  | saveStep _ _ u => u.beforeState.isNone
  | finishSucceeded .. => false
  | recordDispatchFailure _ _ status _ => status == .failed
  | _ => true

/-- An action of the saga of a loaded operation, apart from its two special writes. -/
def Serves (operation : LoadedOperation) (l : SC05Label) : Prop :=
  Addressed operation l ∧ l.isPlain = true

section Saga

variable {operation : LoadedOperation}

theorem ofExcept_within {α : Type} {A : SC05Label → Prop} (r : Except SC05Exception α) :
    (ofExcept r : SC05Prog α).Within A := by cases r <;> trivial

theorem storeFailureScreenshot_within (p : SC05Portal) (n : ℕ) (a : SC05AttemptOperation)
    (e : SC05Error) :
    (storeFailureScreenshot operation p n a e).Within (Serves operation) := by
  unfold storeFailureScreenshot
  split
  · trivial
  · refine within_tryCatch ?_ fun _ => trivial
    exact within_call_bind ⟨⟨rfl, trivial⟩, rfl⟩ fun _ =>
      within_call_bind ⟨⟨rfl, trivial⟩, rfl⟩ fun _ =>
      within_call.2 ⟨⟨rfl, trivial⟩, rfl⟩

theorem failInvocation_within {α : Type} (p : SC05Portal) (n : ℕ) (a : SC05AttemptOperation)
    (ev : Option PortalEvidence) (e : SC05Exception) :
    (failInvocation operation p n a ev e : SC05Prog α).Within (Serves operation) := by
  unfold failInvocation
  split
  · trivial
  · exact within_call_bind ⟨⟨rfl, trivial⟩, rfl⟩ fun _ =>
      within_bind (storeFailureScreenshot_within ..) fun _ =>
      within_call_bind ⟨⟨rfl, trivial⟩, rfl⟩ fun _ =>
      within_call_bind ⟨⟨rfl, trivial⟩, rfl⟩ fun _ => trivial
  · exact within_call_bind ⟨⟨rfl, trivial⟩, rfl⟩ fun _ =>
      within_call_bind ⟨⟨rfl, trivial⟩, rfl⟩ fun _ => trivial

theorem preserveEvidence_within (p : SC05Portal) (n : ℕ) (a : SC05AttemptOperation)
    (ev : PortalEvidence) :
    (preserveEvidence operation p n a ev).Within (Serves operation) := by
  unfold preserveEvidence
  refine within_call_bind ⟨⟨rfl, trivial⟩, rfl⟩ fun _ => within_bind ?_ fun _ =>
    within_call_bind ⟨⟨rfl, trivial⟩, rfl⟩ fun _ => within_call_bind ⟨⟨rfl, trivial⟩, rfl⟩ fun _ =>
    within_call.2 ⟨⟨rfl, trivial⟩, rfl⟩
  unfold saveAfterState
  split
  · trivial
  · exact within_call.2 ⟨⟨rfl, trivial⟩, rfl⟩

theorem invoke_within (p : SC05Portal) (a : SC05AttemptOperation) (st : PortalState) (ph : Phase)
    (c : GatewayCall) : (invoke operation p a st ph c).Within (Serves operation) := by
  unfold invoke
  refine within_call_bind ⟨⟨rfl, trivial⟩, rfl⟩ fun _ =>
    within_call_bind ⟨⟨rfl, trivial⟩, rfl⟩ fun n => ?_
  refine within_bind (within_attempt (within_call.2 ⟨⟨rfl, rfl⟩, rfl⟩)) fun r => ?_
  cases r with
  | error e => exact failInvocation_within ..
  | ok ev =>
    refine within_bind (within_tryCatch (preserveEvidence_within ..) fun _ =>
      failInvocation_within ..) fun _ => ?_
    exact within_call_bind ⟨⟨rfl, trivial⟩, rfl⟩ fun _ =>
      within_call_bind ⟨⟨rfl, trivial⟩, rfl⟩ fun _ => trivial

theorem computeDesiredState_within (p : SC05Portal) (st : PortalState) :
    (computeDesiredState operation p st).Within (Serves operation) := by
  unfold computeDesiredState
  split
  · exact ofExcept_within _
  · exact ofExcept_within _
  · exact within_call_bind ⟨⟨rfl, trivial⟩, rfl⟩ fun _ => ofExcept_within _

theorem finishUnchangedStep_within (p : SC05Portal) (st : SC05StepStatus) :
    (finishUnchangedStep operation p st).Within (Serves operation) :=
  within_call_bind ⟨⟨rfl, trivial⟩, rfl⟩ fun _ => within_call.2 ⟨⟨rfl, trivial⟩, rfl⟩

theorem applyChange_within (p : SC05Portal) (st d : PortalState) :
    (applyChange operation p st d).Within (Serves operation) := by
  unfold applyChange
  refine within_bind (invoke_within ..) fun _ => within_call_bind ⟨⟨rfl, trivial⟩, rfl⟩ fun _ => ?_
  split
  · exact within_call_bind ⟨⟨rfl, trivial⟩, rfl⟩ fun _ => trivial
  · exact within_call_bind ⟨⟨rfl, trivial⟩, rfl⟩ fun _ => within_call.2 ⟨⟨rfl, trivial⟩, rfl⟩

theorem checkFirstObservation_within (p : SC05Portal) (step : SC05PortalStep) (st : PortalState) :
    (checkFirstObservation operation p step st).Within (Serves operation) := by
  unfold checkFirstObservation
  split
  · exact ofExcept_within _
  · trivial

theorem stepDesiredState_within (p : SC05Portal) (step : SC05PortalStep) (st : PortalState) :
    (stepDesiredState operation p step st).Within (Serves operation) := by
  unfold stepDesiredState
  split
  · trivial
  · exact computeDesiredState_within ..

theorem settleStep_within (p : SC05Portal) (step : SC05PortalStep) (st d : PortalState) :
    (settleStep operation p step st d).Within (Serves operation) := by
  unfold settleStep
  split
  · trivial
  · split
    · exact finishUnchangedStep_within ..
    · exact applyChange_within ..

theorem applyStep_within (p : SC05Portal) (step : SC05PortalStep) :
    (applyStep operation p step).Within (Addressed operation) := by
  have hserves := fun l (h : Serves operation l) => h.1
  unfold applyStep
  refine within_call_bind ⟨rfl, trivial⟩ fun _ => within_call_bind ⟨rfl, trivial⟩ fun _ =>
    within_bind (within_mono hserves (invoke_within ..)) fun _ =>
    within_call_bind ⟨rfl, trivial⟩ fun _ => ?_
  exact within_bind (within_mono hserves (checkFirstObservation_within ..)) fun _ =>
    within_bind (within_mono hserves (stepDesiredState_within ..)) fun _ =>
    within_call_bind ⟨rfl, trivial⟩ fun _ => within_mono hserves (settleStep_within ..)

theorem applySteps_within : ∀ rows : List (SC05Portal × SC05PortalStep),
    (applySteps operation rows).Within (Addressed operation)
  | [] => trivial
  | (p, step) :: rest => by
    unfold applySteps
    refine within_call_bind ⟨rfl, trivial⟩ fun _ => within_call_bind ⟨rfl, trivial⟩ fun _ =>
      within_bind (within_attempt (applyStep_within ..)) fun r => ?_
    split
    · exact applySteps_within rest
    · exact within_call_bind ⟨rfl, trivial⟩ fun _ => trivial
    · trivial

theorem markCompensated_within (p : SC05Portal) (st : PortalState) :
    (markCompensated operation p st).Within (Serves operation) :=
  within_call_bind ⟨⟨rfl, trivial⟩, rfl⟩ fun _ => within_call.2 ⟨⟨rfl, trivial⟩, rfl⟩

theorem compensateStep_within (p : SC05Portal) (step : SC05PortalStep) :
    (compensateStep operation p step).Within (Serves operation) := by
  unfold compensateStep
  refine within_bind (invoke_within ..) fun _ => ?_
  split
  · refine within_call_bind ⟨⟨rfl, trivial⟩, rfl⟩ fun _ => ?_
    split
    · trivial
    · exact markCompensated_within ..
  · split
    · trivial
    · refine within_bind (invoke_within ..) fun _ => ?_
      split
      · trivial
      · exact within_call_bind ⟨⟨rfl, trivial⟩, rfl⟩ fun _ => markCompensated_within ..

theorem compensateSteps_within (failed : SC05Portal) :
    ∀ (rows : List (SC05Portal × SC05PortalStep)) (flag : Bool),
      (compensateSteps operation failed rows flag).Within (Serves operation)
  | [], _ => trivial
  | (p, step) :: rest, flag => by
    unfold compensateSteps
    split
    · exact compensateSteps_within failed rest flag
    · split
      · exact compensateSteps_within failed rest flag
      · refine within_call_bind ⟨⟨rfl, trivial⟩, rfl⟩ fun _ =>
          within_bind (within_attempt (compensateStep_within ..)) fun r => ?_
        split
        · exact compensateSteps_within failed rest flag
        · refine within_bind ?_ fun _ => compensateSteps_within failed rest true
          exact within_call_bind ⟨⟨rfl, trivial⟩, rfl⟩ fun _ =>
            within_call_bind ⟨⟨rfl, trivial⟩, rfl⟩ fun _ =>
            within_call.2 ⟨⟨rfl, trivial⟩, rfl⟩
        · trivial

theorem compensate_within (failed : SC05Portal) :
    (compensate operation failed).Within (Serves operation) :=
  within_call_bind ⟨⟨rfl, trivial⟩, rfl⟩ fun _ => compensateSteps_within ..

theorem runSaga_within : (runSaga operation).Within (Addressed operation) := by
  unfold runSaga
  refine within_call_bind ⟨rfl, trivial⟩ fun _ => within_call_bind ⟨rfl, trivial⟩ fun _ =>
    within_call_bind ⟨rfl, trivial⟩ fun _ => within_bind (applySteps_within _) fun failure => ?_
  split
  · refine within_call_bind ⟨rfl, trivial⟩ fun _ => within_call_bind ⟨rfl, trivial⟩ fun _ =>
      within_bind (within_mono (fun _ (h : Serves operation _) => h.1) (compensate_within _)) fun _ =>
      within_call.2 ⟨rfl, trivial⟩
  · exact within_call_bind ⟨rfl, trivial⟩ fun _ => within_call.2 ⟨rfl, trivial⟩

theorem failOutside_within (operation : LoadedOperation) (e : SC05Error) :
    (failOutside operation e).Within (Serves operation) :=
  within_call_bind ⟨⟨rfl, trivial⟩, rfl⟩ fun _ => within_call.2 ⟨⟨rfl, trivial⟩, rfl⟩

theorem handleFailure_within (operation : LoadedOperation) (e : SC05Exception) :
    (handleFailure operation e).Within (Serves operation) := by
  unfold handleFailure
  split
  · trivial
  · exact failOutside_within operation _
  · exact within_bind (failOutside_within operation _) fun _ => trivial

end Saga

/-- A delivery acts on its operation only. -/
theorem deliver_within (o : OperationId) (t : SuppliedTaskId) (b : Bool) :
    (deliver o t b).Within (On o) := by
  refine within_tryFinally (within_bind ?_ fun _ => trivial) (within_call.2 rfl)
  refine within_call_bind rfl fun r => ?_
  obtain ⟨⟨op, client⟩, should⟩ := r
  show Prog.Within _ (if (!should) = true then _ else _)
  split
  · exact within_call.2 rfl
  · refine within_bind (within_mono (fun l h => h.1) (A := Addressed ⟨o, op, client⟩)
      (within_tryCatch runSaga_within fun _ =>
        within_mono (fun _ h => h.1) (handleFailure_within _ _))) fun _ => within_call.2 rfl

section Other

theorem dispatchRun_within (A : SC05Label → Prop) (o : OperationId) {status : RunStatus}
    (hs : status = .failed ∨ status = .partiallyFailed) (h : ∀ l, On o l → l.isWorkerWrite = false → A l) :
    (dispatchRun o status).Within A := by
  have hfail : ∀ t exc, (SC05Label.recordDispatchFailure o t status exc).isWorkerWrite = false := by
    intro t exc
    rcases hs with rfl | rfl <;> rfl
  unfold dispatchRun
  refine within_call_bind (h _ rfl rfl) fun r => ?_
  split
  · trivial
  · trivial
  · refine within_bind (within_tryCatch (within_call.2 (h _ rfl rfl)) fun e => ?_) fun _ =>
      within_call.2 (h _ rfl rfl)
    exact within_call_bind (h _ rfl (hfail _ _)) fun _ => trivial

/-- A request that creates or resumes an operation, and the reconciler, perform no write of the
worker. -/
theorem body_within (k : SC05Process) :
    (∃ o t b, k = .deliver o t b) ∨ k.body.Within fun l => l.isWorkerWrite = false := by
  cases k with
  | deliver o t b => exact .inl ⟨o, t, b, rfl⟩
  | createAndDispatch c a sc key =>
    refine .inr (within_call_bind rfl fun r => ?_)
    obtain ⟨o, created⟩ := r
    show Prog.Within _ (if created = true then _ else _)
    split
    · exact within_tryCatch (dispatchRun_within _ o (by decide) fun l _ h => h) fun _ => trivial
    · trivial
  | resumeAndDispatch o =>
    exact .inr (within_call_bind rfl fun _ =>
      within_tryCatch (dispatchRun_within _ o (by decide) fun l _ h => h) fun _ => trivial)
  | reconcile o now =>
    refine .inr (within_bind (within_attempt (within_call.2 rfl)) fun r => ?_)
    split
    · exact within_call.2 rfl
    · exact within_tryCatch (within_call_bind rfl fun _ => within_call.2 rfl)
        fun _ => within_call.2 rfl
    · trivial

end Other

end SheepContabil
