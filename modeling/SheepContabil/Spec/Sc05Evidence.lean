import SheepContabil.Spec.Sc05Runs

/-!
# SC-05: the evidence of the portal calls

What the attempts, the artifacts and the portal calls of an operation say of each other.

* `portalCalls`: the calls made for a step, oldest first.
* `storedScreenshots`: what a run puts into the storage.
* `EvidenceKept`: the evidence of an operation in one state.
* `FinishedStay`: what no step does to a finished attempt.
* `ClosesFinished`: the handlers of `execute_sc05` close no run that has an open attempt.
-/

namespace SheepContabil

open Conc

/-- The operation a call is attempted as. -/
def GatewayCall.operation : GatewayCall → SC05AttemptOperation
  | inspect => .inspect
  | apply _ => .apply
  | restore .. => .compensate

/-- A portal call: what it was attempted as, and how it ended. -/
structure PortalCall where
  operation : SC05AttemptOperation
  outcome : CallOutcome

def SC05Event.call? (p : SC05Portal) : SC05Event → Option PortalCall
  | .called _ q _ call _ _ outcome => if q = p then some ⟨call.operation, outcome⟩ else none
  | _ => none

/-- The calls made for a step, oldest first. -/
def portalCalls (trace : List SC05Event) (p : SC05Portal) : List PortalCall :=
  trace.reverse.filterMap (SC05Event.call? p)

namespace SC05Operation

/-- The artifacts of an attempt. -/
def artifactsOf (op : SC05Operation) (p : SC05Portal) (sequence : ℕ) : List SC05Artifact :=
  op.artifacts.filter fun x => x.portal == p && x.sequence == sequence

/-- No attempt of the operation is running. -/
def NoneOpen (op : SC05Operation) : Prop := ∀ p, ∀ a ∈ op.attempts p, a.status ≠ .running

instance (op : SC05Operation) : Decidable op.NoneOpen := inferInstanceAs (Decidable (∀ _, _))

end SC05Operation

/-- An attempt with the call made for it, if it was made. -/
structure AttemptRow where
  attempt : SC05StepAttempt
  call : Option PortalCall

/-- What the evidence says of an attempt of a step. -/
structure Documented (o : OperationId) (op : SC05Operation) (p : SC05Portal) (r : AttemptRow) :
    Prop where
  operation : ∀ c, r.call = some c → c.operation = r.attempt.operation
  /-- Its call returned, and its only artifact is the screenshot of that call. -/
  succeeded : r.attempt.status = .succeeded → ∃ evidence position,
    r.call = some ⟨r.attempt.operation, .returned evidence⟩ ∧
      op.artifactsOf p r.attempt.sequence = [⟨p, r.attempt.sequence,
        ⟨⟨o, position, p, r.attempt.sequence, r.attempt.operation, false⟩, evidence.screenshot⟩⟩]
  atMostOne : (op.artifactsOf p r.attempt.sequence).length ≤ 1

section States

variable {W ι η : Type}

/-- **The evidence of an operation**, given what has been put into the storage. -/
structure EvidenceKept (o : OperationId) (stored : List StoredScreenshot) (s : SC05State W) :
    Prop where
  /-- The attempts of a step are numbered from one. -/
  numbered : ∀ p, ((s.operations o).attempts p).map SC05StepAttempt.sequence =
    List.range' 1 ((s.operations o).attempts p).length
  /-- The calls of a step are those of its attempts, in this order. -/
  called : ∀ p, ∃ rows : List AttemptRow,
    rows.map AttemptRow.attempt = (s.operations o).attempts p ∧
      rows.filterMap AttemptRow.call = portalCalls (s.traces o) p ∧
      ∀ r ∈ rows, Documented o (s.operations o) p r
  stored : ∀ x ∈ (s.operations o).artifacts, x.stored ∈ stored
  /-- No two attempts are running. -/
  alone : ∀ p q a b, a ∈ (s.operations o).attempts p → b ∈ (s.operations o).attempts q →
    a.status = .running → b.status = .running → p = q ∧ a = b
  closed : (s.run o).status = .succeeded ∨ (s.run o).status = .failed ∨
    (s.run o).status = .partiallyFailed → (s.operations o).NoneOpen

/-- A finished attempt never changes. -/
def FinishedStay (o : OperationId) (s s' : SC05State W) : Prop :=
  ∀ (p : SC05Portal) (n : ℕ) (a : SC05StepAttempt), ((s.operations o).attempts p)[n]? = some a →
    a.status ≠ .running → ((s'.operations o).attempts p)[n]? = some a

/-- An action closes the run of the operation for the handlers of `execute_sc05`. -/
def SC05Label.closesOutside (o : OperationId) (l : SC05Label) (i : Fate ι) (s : SC05State W) :
    Bool :=
  match l with
  | finishFailed o' _ _ site t =>
    o' == o && site == .outside && !i.dbFails && (s.run o).deliveryIsCurrent t
  | _ => false

/-- When the handlers of `execute_sc05` close the run, no attempt of the operation is running. -/
def ClosesFinished (o : OperationId) : Move SC05Label (Fate ι) η → SC05State W → Prop
  | .act _ l i, s => l.closesOutside o i s = true → (s.operations o).NoneOpen
  | _, _ => True

instance (o : OperationId) :
    ∀ (m : Move SC05Label (Fate ι) η) (s : SC05State W), Decidable (ClosesFinished o m s)
  | .act .., _ => inferInstanceAs (Decidable (_ → _))
  | .crash _, _ | .env _, _ => isTrue trivial

/-- An operation as it is created: nothing attempted, nothing called, no worker. -/
structure Unattempted (o : OperationId) (s : SC05State W) : Prop where
  worker : s.workers o = none
  trace : s.traces o = []
  attempts : ∀ p, (s.operations o).attempts p = []
  artifacts : (s.operations o).artifacts = []

end States

section Storage

variable {W ι : Type} (portal : PortalBackend W ι) (settings : Settings)

/-- The screenshot that a move puts into the storage. -/
def storedBy (s : SC05State W) : Move SC05Label (Fate ι) (W → W) → List StoredScreenshot
  | .act pid (.putScreenshot o key content) i =>
    (SC05State.sem portal settings pid (.putScreenshot o key content) i s).1.toOption.toList
  | _ => []

/-- The screenshots that a run puts into the storage. -/
def storedScreenshots :
    Config SC05Label SC05Label.Resp SC05Exception (SC05State W) SC05Process →
      List (Choice (Fate ι) SC05Process (W → W)) → List StoredScreenshot
  | _, [] => []
  | c, x :: xs => ((c.move? x).elim [] (storedBy portal settings c.shared)) ++
      storedScreenshots ((sc05System portal settings).next c x) xs

end Storage

end SheepContabil
