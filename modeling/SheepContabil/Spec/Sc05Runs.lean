import SheepContabil.Spec.Sc05Trace
import SheepContabil.Spec.Sc05View

/-!
# The runs of an SC-05 operation

Conditions on the steps of a run, read off the view of one operation.

* `Sequential`: no two executions of the operation overlap.
* `Quiet`: nothing but the portals and the storage fails in a compensation.
* `Careful`: no step loses the status of a mutated portal.
-/

namespace SheepContabil

open Conc

/-- A status that `_has_residual_state` counts. -/
def SC05StepStatus.isResidual : SC05StepStatus → Bool
  | running | applied | compensationFailed => true
  | _ => false

section Conditions

variable {ι η : Type}

/-- Every mutated portal has a step whose status says so. -/
def SagaView.Accounted (v : SagaView) : Prop :=
  ∀ p, dirty v.trace p = true → (v.step p).status.isResidual = true

/-- An execution starts only when no worker is in the middle of another one. -/
def Sequential (o : OperationId) : Move SC05Label (Fate ι) η → SagaView → Prop
  | .act _ (.prepareOperation o' t _) i, v =>
    o' = o → i.dbFails = false → v.Starts t → v.worker = none
  | _, _ => True

/-- The database fails, or the portal of a step has no adapter. -/
def SC05Label.fails (l : SC05Label) (i : Fate ι) : Bool :=
  i.dbFails || match l with
    | selectGateway .. => i.fault.isSome
    | _ => false

/-- Once an execution compensates, nothing fails but the portals and the storage. -/
def Quiet (o : OperationId) : Move SC05Label (Fate ι) η → SagaView → Prop
  | .act pid l i, v => l.op? = some o → v.worker = some pid → inCompensation v.trace = true →
      l.fails i = false
  | _, _ => True

/-- The actions that may quarantine a run. -/
def SC05Label.mayQuarantine : SC05Label → Bool
  | prepareOperation .. | reconcileOne .. => true
  | _ => false

/-- The portal whose step an action reports as unchanged. -/
def SC05Label.unchanged? : SC05Label → Option SC05Portal
  | saveStep _ p u => if u.status = some .unchanged then some p else none
  | _ => none

/-- The portal an action may mutate. -/
def SC05Label.mutates? : SC05Label → Option SC05Portal
  | callPortal _ p request => if request.call.isInspect then none else some p
  | _ => none

/-- No step loses the status of a mutated portal. -/
structure CarefulAction (pid : ℕ) (l : SC05Label) (i : Fate ι) (v v' : SagaView) : Prop where
  /-- A quarantine finds no mutated portal whose step is still running, or has failed. -/
  quarantine : l.mayQuarantine = true → v.status = .running → v'.status ≠ .running →
    ∀ p, dirty v.trace p = true →
      (v.step p).status = .applied ∨ (v.step p).status = .compensationFailed
  /-- No mutated portal is reported as unchanged. -/
  unchanged : ∀ p, l.unchanged? = some p → i.dbFails = false → dirty v.trace p = false
  /-- Nothing but a portal or the storage fails while a mutated portal has a step that does not
  say so. -/
  failure : v.worker = some pid → l.fails i = true → v.Accounted
  /-- A portal is mutated by the delivery that owns the run, or its step says so already. -/
  owned : ∀ p, l.mutates? = some p → v.status = .running ∨ (v.step p).status.isResidual = true
  /-- A portal is mutated only after a state has been captured. -/
  captured : ∀ p, l.mutates? = some p → (v.step p).before ≠ []

def Careful (o : OperationId) : Move SC05Label (Fate ι) η → SagaView → SagaView → Prop
  | .act pid l i, v, v' => l.op? = some o → CarefulAction pid l i v v'
  | _, _, _ => True

section Decidable

variable (o : OperationId) (pid : ℕ) (l : SC05Label) (i : Fate ι) (v v' : SagaView)

instance (state : PortalState) : Decidable (state = []) :=
  decidable_of_iff _ List.isEmpty_iff

instance : Decidable v.Accounted := inferInstanceAs (Decidable (∀ _, _))

instance (t : SuppliedTaskId) : Decidable (v.Starts t) := inferInstanceAs (Decidable (_ ∧ _))

instance : ∀ m : Move SC05Label (Fate ι) η, Decidable (Sequential o m v)
  | .act _ l _ => by cases l <;> unfold Sequential <;> infer_instance
  | .crash _ | .env _ => isTrue trivial

instance : ∀ m : Move SC05Label (Fate ι) η, Decidable (Quiet o m v)
  | .act .. => inferInstanceAs (Decidable (_ → _))
  | .crash _ | .env _ => isTrue trivial

instance : Decidable (CarefulAction pid l i v v') :=
  @decidable_of_iff _ ((l.mayQuarantine = true → v.status = .running → v'.status ≠ .running →
      ∀ p, dirty v.trace p = true →
        (v.step p).status = .applied ∨ (v.step p).status = .compensationFailed) ∧
    (∀ p, l.unchanged? = some p → i.dbFails = false → dirty v.trace p = false) ∧
    (v.worker = some pid → l.fails i = true → v.Accounted) ∧
    (∀ p, l.mutates? = some p → v.status = .running ∨ (v.step p).status.isResidual = true) ∧
    (∀ p, l.mutates? = some p → (v.step p).before ≠ []))
    ⟨fun ⟨h1, h2, h3, h4, h5⟩ => ⟨h1, h2, h3, h4, h5⟩,
      fun ⟨h1, h2, h3, h4, h5⟩ => ⟨h1, h2, h3, h4, h5⟩⟩
    (@instDecidableAnd _ _ inferInstance (@instDecidableAnd _ _ inferInstance
      (@instDecidableAnd _ _ inferInstance (@instDecidableAnd _ _ inferInstance inferInstance))))

instance : ∀ m : Move SC05Label (Fate ι) η, Decidable (Careful o m v v')
  | .act .. => inferInstanceAs (Decidable (_ → _))
  | .crash _ | .env _ => isTrue trivial

end Decidable

end Conditions

end SheepContabil
