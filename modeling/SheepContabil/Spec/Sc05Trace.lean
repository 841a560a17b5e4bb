import SheepContabil.Spec.Sc05Saga

/-!
# What the traces of an SC-05 operation should look like

Predicates on the events of one operation, latest first.

* `dirty`: the portal was mutated and has not been seen equal to the captured
  state since.
* `Disciplined`: apply and restore follow the execution's own inspection, and a
  compensation visits falling positions until nothing is left to visit.
* `NeverAbandoned`: no compensation is left to the handlers of `execute_sc05`.
* `TruthfulFailure`, `TruthfulOutside`: how an execution may close the run.
-/

namespace SheepContabil

/-- The state a call answered with, if it answered. -/
def CallOutcome.state? : CallOutcome → Option PortalState
  | returned evidence => some evidence.state
  | failed .. => none

/-- Whether a portal is mutated after a call, given whether it was before: an observation decides,
and a mutating call that fails after its effect leaves the portal mutated. -/
def dirtyAfter (call : GatewayCall) (before : PortalState) (outcome : CallOutcome)
    (wasDirty : Bool) : Bool :=
  match call, outcome with
  | .inspect, .returned evidence => wasDirty && !statesEqual evidence.state before
  | .inspect, .failed .. => wasDirty
  | _, .returned evidence => !statesEqual evidence.state before
  | _, .failed mutated _ => mutated || wasDirty

/-- The operation mutated the portal and has not confirmed the captured state since. -/
def dirty : List SC05Event → SC05Portal → Bool
  | [], _ => false
  | .called _ q _ call before _ outcome :: older, p =>
    if q = p then dirtyAfter call before outcome (dirty older p) else dirty older p
  | _ :: older, p => dirty older p

/-- The portals the current compensation has inspected. -/
def visited : List SC05Event → List SC05Portal
  | [] => []
  | .called _ p .compensation .inspect _ _ _ :: older => p :: visited older
  | .compensating .. :: _ => []
  | _ :: older => visited older

/-- The step that failed and the candidates of the last compensation. -/
def lastCompensation : List SC05Event → Option (SC05Portal × List SC05Portal)
  | [] => none
  | .compensating _ failed candidates :: _ => some (failed, candidates)
  | _ :: older => lastCompensation older

/-- What the last call on a portal answered, if it answered. -/
def shown : List SC05Event → SC05Portal → Option PortalState
  | [], _ => none
  | .called _ q _ _ _ _ outcome :: older, p =>
    if q = p then outcome.state? else shown older p
  | _ :: older, p => shown older p

/-- What the execution that wrote the last event is doing, if it has not closed the run. -/
def phase? : List SC05Event → Option Phase
  | .called .. :: older => phase? older
  | .started _ :: _ => some .apply
  | .compensating .. :: _ => some .compensation
  | _ => none

/-- The execution that wrote the last event has entered compensation. -/
def inCompensation (trace : List SC05Event) : Bool := phase? trace == some .compensation

/-- A call of an execution comes directly after its own inspection of the portal, in the same
phase, which answered `observed` while the captured state was `before`. -/
def AfterOwnInspect (pid : ℕ) (p : SC05Portal) (phase : Phase) (before observed : PortalState) :
    List SC05Event → Prop
  | .called pid' p' phase' .inspect before' _ (.returned evidence) :: _ =>
    pid' = pid ∧ p' = p ∧ phase' = phase ∧ before' = before ∧ evidence.state = observed
  | _ => False

/-- The discipline of one event after the older ones. -/
def EventOk (action : SC05Action) : SC05Event → List SC05Event → Prop
  | .called pid p phase (.apply _) before desired _, older =>
    phase = .apply ∧ ∃ captured observed, AfterOwnInspect pid p .apply captured observed older ∧
      statesEqual observed desired = false ∧
      (captured = [] ∧ before = observed ∨ captured = before ∧ statesEqual observed before = true)
  | .called pid p phase (.restore expected target) before desired _, older =>
    phase = .compensation ∧ AfterOwnInspect pid p .compensation before expected older ∧
      statesEqual expected desired = true ∧ statesEqual expected before = false ∧ target = before
  | .called _ p .compensation .inspect _ _ _, older =>
    ∀ q ∈ visited older, action.position p < action.position q
  | .failed _ .compensated _ _, older => ∃ failed candidates,
      lastCompensation older = some (failed, candidates) ∧
        ∀ p ∈ candidates, action.position p ≤ action.position failed → p ∈ visited older
  | _, _ => True

/-- Every event of a trace meets `P` after the older ones. -/
def Throughout (P : SC05Event → List SC05Event → Prop) : List SC05Event → Prop
  | [] => True
  | e :: older => P e older ∧ Throughout P older

instance decidableThroughout (P : SC05Event → List SC05Event → Prop)
    [∀ e older, Decidable (P e older)] : ∀ trace, Decidable (Throughout P trace)
  | [] => isTrue trivial
  | e :: older =>
    have := decidableThroughout P older
    inferInstanceAs (Decidable (P e older ∧ Throughout P older))

@[simp] theorem throughout_nil (P : SC05Event → List SC05Event → Prop) : Throughout P [] := trivial

@[simp] theorem throughout_cons {P : SC05Event → List SC05Event → Prop} {e : SC05Event}
    {older : List SC05Event} : Throughout P (e :: older) ↔ P e older ∧ Throughout P older := Iff.rfl

-- the elaborator must not run a trace to see what its properties say
attribute [irreducible] Throughout

def Disciplined (action : SC05Action) (trace : List SC05Event) : Prop :=
  Throughout (EventOk action) trace

/-- No execution leaves a compensation for the handlers of `execute_sc05`. -/
def NotAbandoned : SC05Event → List SC05Event → Prop
  | .failed _ .outside _ _, older => inCompensation older = false
  | _, _ => True

def NeverAbandoned (trace : List SC05Event) : Prop := Throughout NotAbandoned trace

/-- How an execution that compensated may close the run: failed only when no portal is left
mutated, and otherwise partially failed with a partial client. -/
def ClosesTruthfully : SC05Event → List SC05Event → Prop
  | .failed _ _ status client, older => inCompensation older = true →
    (status = .failed → ∀ p, dirty older p = false) ∧
      ∀ p, dirty older p = true → status = .partiallyFailed ∧ client = .partialState
  | _, _ => True

def TruthfulFailure (trace : List SC05Event) : Prop := Throughout ClosesTruthfully trace

/-- How a failure outside the steps may close the run: as if nothing had happened only when no
portal is left mutated, and otherwise partially failed. -/
def ReportsResidue (action : SC05Action) : SC05Event → List SC05Event → Prop
  | .failed _ .outside status client, older =>
    (status = .failed ∧ client = action.undoneStatus ∧ ∀ p, dirty older p = false) ∨
      (status = .partiallyFailed ∧ client = .partialState)
  | _, _ => True

def TruthfulOutside (action : SC05Action) (trace : List SC05Event) : Prop :=
  Throughout (ReportsResidue action) trace

section Decidable

instance decidableForallPortal (P : SC05Portal → Prop) [DecidablePred P] : Decidable (∀ p, P p) :=
  decidable_of_iff (P .files ∧ P .accounting ∧ P .tasks)
    ⟨fun ⟨h1, h2, h3⟩ p => by cases p <;> assumption, fun h => ⟨h _, h _, h _⟩⟩

instance : ∀ e older, Decidable (ClosesTruthfully e older)
  | .failed .., _ => inferInstanceAs (Decidable (_ → _))
  | .started .., _ | .called .., _ | .compensating .., _ | .succeeded .., _ => isTrue trivial

instance (action : SC05Action) : ∀ e older, Decidable (ReportsResidue action e older)
  | .failed _ .outside _ _, _ => inferInstanceAs (Decidable (_ ∨ _))
  | .failed _ .compensated _ _, _ | .started .., _ | .called .., _ | .compensating .., _
  | .succeeded .., _ => isTrue trivial

instance (trace : List SC05Event) : Decidable (TruthfulFailure trace) :=
  decidableThroughout _ trace

instance (action : SC05Action) (trace : List SC05Event) : Decidable (TruthfulOutside action trace) :=
  decidableThroughout _ trace

end Decidable

end SheepContabil
