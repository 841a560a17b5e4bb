import Mathlib.Logic.Relation
import SheepContabil.Spec.Sc05Portals
import SheepContabil.Spec.Sc05Runs

/-!
# SC-05: a block, changes from outside, and an unblock

* `Browser`: what the saga relies on the browser for.
* `OrdinaryClient`: a client of the simulator that no block has touched.
* `TaskChange`: what others do to the tasks of a blocked client.
* `Blocks`, `Unblocks`, `Cycle`: a block operation that succeeds, whatever it
  meets; an unblock operation without faults; one after the other.
* `RoundTrip`: what a cycle should leave.
* `TasksRestored`: what the compensation of a failed unblock should leave.
-/

namespace SheepContabil

open Conc

section Clients

/-- The value of a `SlugField`. -/
def IsSlug (reference : String) : Prop :=
  reference ≠ "" ∧ ∀ c ∈ reference.toList, c.isAlphanum ∨ c = '-' ∨ c = '_'

/-- A page shows a slug as it is, and something of every text that is not blank. -/
structure Browser (text : String → String) : Prop where
  slug : ∀ reference, IsSlug reference → text reference = reference
  visible : ∀ value, Py.isBlank value = false → text value ≠ ""

variable (text : String → String)

/-- An assignee that no page shows as the block marker. -/
def OrdinaryAssignee (assignee : String) : Prop :=
  Py.isBlank assignee = false ∧ text assignee ≠ blockedTaskOwner

/-- An active client with both accounts, whose tasks carry no marker. -/
structure OrdinaryClient (c : SimulatorClient) : Prop where
  active : c.isActive = true
  files : c.files.isSome = true
  accounting : c.accounting.isSome = true
  unique : (c.tasks.map SimulatorTask.reference).Nodup
  slugs : ∀ t ∈ c.tasks, IsSlug t.reference
  assignees : ∀ t ∈ c.tasks, OrdinaryAssignee text t.assignee

/-- A task is closed or reopened, or a new one is created. -/
inductive TaskChange where
  | setOpen (reference : String) (isOpen : Bool)
  | create (task : SimulatorTask)

namespace TaskChange

def apply : TaskChange → SimulatorClient → SimulatorClient
  | setOpen reference isOpen, c =>
    { c with tasks := c.tasks.map fun t =>
        if t.reference = reference then { t with isOpen := isOpen } else t }
  | create task, c => { c with tasks := c.tasks ++ [task] }

/-- A new task has a reference of its own and an ordinary assignee. -/
def Ok (c : SimulatorClient) : TaskChange → Prop
  | setOpen .. => True
  | create task => IsSlug task.reference ∧ (∀ t ∈ c.tasks, t.reference ≠ task.reference) ∧
      OrdinaryAssignee text task.assignee

end TaskChange

/-- Any sequence of changes from outside. -/
def Changed : SimulatorClient → SimulatorClient → Prop :=
  Relation.ReflTransGen fun c c' => ∃ change : TaskChange, change.Ok text c ∧ c' = change.apply c

end Clients

section Operations

variable (text : String → String) (settings : Settings) (client : ClientId)

/-- A move that is about operation `o`, and leaves the portals to it. -/
def OwnMove {ι η : Type} (o : OperationId) : Move SC05Label (Fate ι) η → Prop
  | .act _ l _ => l.op? = some o
  | .crash _ => True
  | .env _ => False

instance {ι η : Type} (o : OperationId) :
    ∀ m : Move SC05Label (Fate ι) η, Decidable (OwnMove o m)
  | .act _ l _ => inferInstanceAs (Decidable (l.op? = some o))
  | .crash _ => isTrue trivial
  | .env _ => isFalse id

/-- A block of the client that ends succeeded, after any deliveries, faults, crashes, passes of the
reconciler and resumes. -/
inductive Blocks (s : SC05State Simulator) : SC05State Simulator → Prop where
  | intro {o : OperationId} {scenario : SC05Scenario} {requestKey now : ℕ}
      {s₀ : SC05State Simulator}
      (created : s.createRun client .block scenario requestKey now = (.ok (o, true), s₀))
      (xs : List (Choice (Fate (Option Interruption)) SC05Process (Simulator → Simulator)))
      (admitted : (sc05System (simulatorPortal text) settings).RunOk
        (fun m s => Sequential o m (sagaView o s) ∧ OwnMove o m) (Config.idle s₀) xs)
      (succeeded : (((sc05System (simulatorPortal text) settings).run (Config.idle s₀) xs).shared.run
        o).status = .succeeded) :
    Blocks s ((sc05System (simulatorPortal text) settings).run (Config.idle s₀) xs).shared

/-- Nothing fails. -/
def Fate.IsClean {ι : Type} (i : Fate (Option ι)) : Prop :=
  i.dbFails = false ∧ i.fault = none ∧ i.call = none

/-- The delivery of operation `o` alone, for `n` actions. -/
def delivered (s : SC05State Simulator) (o : OperationId) (t : TaskId) (redelivered : Bool)
    (fates : ℕ → Fate (Option Interruption)) (n : ℕ) :
    Config SC05Label SC05Label.Resp SC05Exception (SC05State Simulator) SC05Process :=
  (sc05System (simulatorPortal text) settings).run (Config.idle s)
    (.start (.deliver o (.uuid t) redelivered) :: System.solo 0 ((List.range' 0 n).map fates))

/-- An unblock of the client that runs to its end without faults. -/
inductive Unblocks (s : SC05State Simulator) : SC05State Simulator → Prop where
  | intro {o : OperationId} {requestKey now : ℕ} {s₀ : SC05State Simulator} {t : TaskId}
      (created : s.createRun client .unblock .happyPath requestKey now = (.ok (o, true), s₀))
      (token : (s₀.run o).taskId = some t) (redelivered : Bool)
      (fates : ℕ → Fate (Option Interruption)) (clean : ∀ k, (fates k).IsClean) (n : ℕ)
      (finished : (delivered text settings s₀ o t redelivered fates n).finished 0 = true) :
    Unblocks s (delivered text settings s₀ o t redelivered fates n).shared

/-- The rows of the client in the portals. -/
def SC05State.row (s : SC05State Simulator) (client : ClientId) : Option SimulatorClient :=
  s.portals (s.clients client).externalReference

def SC05State.setRow (s : SC05State Simulator) (client : ClientId) (c : SimulatorClient) :
    SC05State Simulator :=
  { s with portals := Function.update s.portals (s.clients client).externalReference (some c) }

/-- A block, changes from outside, and an unblock. -/
def Cycle (s s' : SC05State Simulator) : Prop :=
  ∃ s₁ c₁ c₂, Blocks text settings client s s₁ ∧ s₁.row client = some c₁ ∧ Changed text c₁ c₂ ∧
    Unblocks text settings client (s₁.setRow client c₂) s'

/-- The client is ordinary, and no operation to come has been worked on. -/
structure Ready (s : SC05State Simulator) : Prop where
  row : ∃ c, s.row client = some c ∧ OrdinaryClient text c
  traces : ∀ o, s.operationCount ≤ o → s.traces o = []
  workers : ∀ o, s.operationCount ≤ o → s.workers o = none

end Operations

/-- What a block of `c₀` that left `c₁` does to one task. -/
structure TaskBlocked (t₀ t₁ : SimulatorTask) : Prop where
  reference : t₁.reference = t₀.reference
  isOpen : t₁.isOpen = t₀.isOpen
  closed : t₀.isOpen = false → t₁.assignee = t₀.assignee

/-- What an unblock after a block of `c₀` does to one task. -/
structure TaskUnblocked (c₀ : SimulatorClient) (t₂ t₃ : SimulatorTask) : Prop where
  reference : t₃.reference = t₂.reference
  isOpen : t₃.isOpen = t₂.isOpen
  blocked : ∀ t₀ ∈ c₀.tasks, t₀.reference = t₂.reference → t₀.isOpen = true →
    t₃.assignee = t₀.assignee
  other : (∀ t₀ ∈ c₀.tasks, t₀.reference = t₂.reference → t₀.isOpen = false) →
    t₃.assignee = t₂.assignee

/-- A block of `c₀` left `c₁`, which was changed to `c₂`, and an unblock left `c₃`. -/
structure RoundTrip (c₀ c₁ c₂ c₃ : SimulatorClient) : Prop where
  block : List.Forall₂ TaskBlocked c₀.tasks c₁.tasks
  unblock : List.Forall₂ (TaskUnblocked c₀) c₂.tasks c₃.tasks
  kept : ∀ t₀ ∈ c₀.tasks, ∃ t₃ ∈ c₃.tasks, t₃.reference = t₀.reference
  files : c₃.files = c₀.files
  accounting : c₃.accounting = c₀.accounting

section Compensation

/-- The portals whose failure has started a compensation. -/
def failedPortals (trace : List SC05Event) : List SC05Portal :=
  trace.filterMap fun
    | .compensating _ failed _ => some failed
    | _ => none

/-- The compensation of operation `o` has restored the tasks of the client. -/
structure TasksRestored (text : String → String) (client : ClientId) (o : OperationId)
    (s : SC05State Simulator) : Prop where
  portal : ∃ c st, s.row client = some c ∧ readState text .tasks (some c) = .ok st ∧
    statesEqual st (s.step o .tasks).beforeState = true
  step : (s.step o .tasks).status = .compensated
  run : (s.run o).status = .failed
  client : (s.clients client).status = .blocked

/-- No task carries the marker any more, or exactly the open ones do. -/
def Restorable (ts : List SimulatorTask) : Prop :=
  (∀ t ∈ ts, t.marked = false) ∨ ∀ t ∈ ts, t.marked = t.isOpen

instance (ts : List SimulatorTask) : Decidable (Restorable ts) :=
  inferInstanceAs (Decidable (_ ∨ _))

end Compensation

end SheepContabil
