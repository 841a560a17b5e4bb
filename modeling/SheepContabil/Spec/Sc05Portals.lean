import Mathlib.Data.List.Sort
import SheepContabil.Spec.Sc05Saga

/-!
# SC-05: the simulated portals and their adapters

The rows and actions of `sc05_simulator/views.py`, and the gateways of
`sc05/playwright.py` that read and operate them through a browser.

* `Simulator`: the rows of every client, by external identifier.
* `simulatorPortal`: what a gateway call does to them. An `Interruption` makes the
  browser break off before or after the form is submitted.

`text` stands for the browser: the stripped text a page shows of a value.
-/

namespace SheepContabil

section Simulator

structure SimulatorTask where
  reference : String
  assignee : String
  previousAssignee : String := ""
  isOpen : Bool := true
  deriving DecidableEq, Repr

/-- A client of the simulator, with its two service accounts (`is_blocked`) and its tasks. -/
structure SimulatorClient where
  isActive : Bool := true
  files : Option Bool
  accounting : Option Bool
  tasks : List SimulatorTask
  deriving DecidableEq, Repr

abbrev Simulator := String → Option SimulatorClient

namespace SimulatorTask

/-- `task.assignee == BLOCKED_TASK_ASSIGNEE`. -/
def marked (t : SimulatorTask) : Bool := t.assignee == blockedTaskOwner

/-- One round of `_block_open_tasks`. -/
def block (t : SimulatorTask) : SimulatorTask :=
  if !t.isOpen || t.marked then t
  else { t with previousAssignee := t.assignee, assignee := blockedTaskOwner }

/-- One round of `_unblock_tasks`. -/
def unblock (t : SimulatorTask) : SimulatorTask :=
  if !t.marked then t else { t with assignee := t.previousAssignee, previousAssignee := "" }

end SimulatorTask

namespace SimulatorClient

def account (c : SimulatorClient) : SC05Portal → Option Bool
  | .files => c.files
  | .accounting => c.accounting
  | .tasks => none

def setAccount (c : SimulatorClient) (portal : SC05Portal) (blocked : Bool) : SimulatorClient :=
  match portal with
  | .files => { c with files := some blocked }
  | .accounting => { c with accounting := some blocked }
  | .tasks => c

end SimulatorClient

/-- `_fault`: the demonstration scenarios refuse an action before it changes anything. -/
def scenarioFault (portal : SC05Portal) (scenario : SC05Scenario) (phase : Phase) :
    Option String :=
  match scenario, portal, phase with
  | .failTasksApply, .tasks, .apply =>
    some "O portal de tarefas recusou a operação antes de aplicar alterações."
  | .timeoutAccountingApply, .accounting, .apply =>
    some "O portal contábil excedeu o tempo limite antes de aplicar alterações."
  | .failTasksAndFilesCompensation, .tasks, .apply =>
    some "O portal de tarefas recusou a operação antes de aplicar alterações."
  | .failTasksAndFilesCompensation, .files, .compensation =>
    some "O portal de arquivos recusou a compensação antes de alterar a conta."
  | _, _, _ => none

end Simulator

section Adapters

/-- `PortalStateConflictError`, raised by an adapter. -/
def AdapterFault.conflict (e : SC05Error := portalStateConflictError)
    (h : e.code = .portalStateConflict := by rfl) : AdapterFault :=
  .sc05 e (by rw [h]; decide)

/-- `_ensure_exactly_one` found no row. -/
def AdapterFault.clientNotUnique : AdapterFault :=
  .sc05 { code := .portalClientNotUnique
          safeMessage := "A interface não identificou o cliente de forma única." } (by decide)

/-- `PortalTimeoutError`; `PortalOperationError.__init__` clears `transient`. -/
def AdapterFault.timeout (message : String :=
    "O sistema demorou além do limite e não confirmou a alteração.") : AdapterFault :=
  .sc05 { code := .portalTimeout, safeMessage := message } (by simp)

/-- What `_submit` raises for a message of the portal. Only the scenario of the accounting timeout
has "timeout" in its name, and its message is the only one that names the time limit. -/
def AdapterFault.refused (scenario : SC05Scenario) (message : String) : AdapterFault :=
  if scenario = .timeoutAccountingApply then
    .sc05 { code := .portalTimeout, safeMessage := message, screenshot := [137] } (by simp)
  else
    .sc05 { code := .portalRejectedOperation, safeMessage := message, screenshot := [137] }
      (by simp)

/-- Where a browser breaks off, and what it raises. -/
structure Interruption where
  submitted : Bool
  fault : AdapterFault

variable (text : String → String)

/-- `_required_text`. -/
def requiredText (value : String) : Except AdapterFault String :=
  if (text value).isEmpty then
    .error (.conflict (portalStateConflictError "O sistema retornou um campo obrigatório vazio."))
  else .ok (text value)

/-- A task as a page shows it. -/
structure TaskRow where
  reference : String
  assignee : String
  isOpen : Bool
  deriving DecidableEq, Repr

def TaskRow.value (row : TaskRow) : Py.Value :=
  .dict [("reference", .str row.reference), ("assignee", .str row.assignee),
    ("is_open", .bool row.isOpen)]

/-- One round of the loop of `_read_tasks_state`. -/
def readTask (t : SimulatorTask) : Except AdapterFault TaskRow := do
  let reference ← requiredText text t.reference
  let assignee ← requiredText text t.assignee
  pure { reference := reference, assignee := assignee, isOpen := t.isOpen }

/-- The state that `_read_tasks_state` returns for these rows. -/
def tasksState (isActive : Bool) (rows : List TaskRow) : PortalState :=
  [("client_active", .bool isActive),
    ("tasks", .list ((rows.insertionSort fun a b => a.reference ≤ b.reference).map TaskRow.value))]

/-- `_read_account_state` and `_read_tasks_state`. A client without tasks has no row in the tasks
portal. -/
def readState (portal : SC05Portal) (client : Option SimulatorClient) :
    Except AdapterFault PortalState :=
  match portal, client with
  | .tasks, some c =>
    if c.tasks.isEmpty then .error .clientNotUnique
    else do
      let rows ← c.tasks.mapM (readTask text)
      pure (tasksState c.isActive rows)
  | portal, some c => match c.account portal with
    | some blocked => .ok [("blocked", .bool blocked)]
    | none => .error .clientNotUnique
  | _, none => .error .clientNotUnique

/-- `_submit` with `tasks_action` or `_service_account_action`. A client without a row in the portal
has no form to submit. -/
def submit (portal : SC05Portal) (action : SC05Action) (scenario : SC05Scenario) (phase : Phase)
    (client : Option SimulatorClient) : Except AdapterFault SimulatorClient :=
  match portal, client with
  | _, none => .error .timeout
  | .tasks, some c =>
    if c.tasks.isEmpty then .error .timeout
    else match scenarioFault .tasks scenario phase with
      | some message => .error (.refused scenario message)
      | none => match action with
        | .block => .ok { c with tasks := c.tasks.map SimulatorTask.block }
        | .unblock =>
          -- a task whose previous assignee is blank stops the whole action
          if c.tasks.any fun t => t.marked && Py.isBlank t.previousAssignee then
            .error (.refused scenario
              ("Não foi possível desbloquear: uma ou mais tarefas estão sem " ++
                "responsável anterior."))
          else .ok { c with tasks := c.tasks.map SimulatorTask.unblock }
  | portal, some c => match c.account portal with
    | none => .error .timeout
    | some _ => match scenarioFault portal scenario phase with
      | some message => .error (.refused scenario message)
      | none => .ok (c.setAccount portal (action == .block))

/-- `inspect` of a gateway. -/
def inspectCall (portal : SC05Portal) (reference : String) (i : Option Interruption)
    (w : Simulator) : CallOutcome × Simulator :=
  match i, readState text portal (w reference) with
  | some x, _ => (.failed false x.fault, w)
  | none, .error f => (.failed false f, w)
  | none, .ok state => (.returned { state := state }, w)

/-- `apply` of a gateway. -/
def applyCall (portal : SC05Portal) (reference : String) (action : SC05Action)
    (scenario : SC05Scenario) (phase : Phase) (i : Option Interruption) (w : Simulator) :
    CallOutcome × Simulator :=
  match i with
  | some ⟨false, f⟩ => (.failed false f, w)
  | _ =>
    match submit portal action scenario phase (w reference) with
    | .error f => (.failed false f, w)
    | .ok c =>
      let w' := Function.update w reference (some c)
      let mutated := w reference != some c
      match i, readState text portal (some c) with
      | some x, _ => (.failed mutated x.fault, w')
      | none, .error f => (.failed mutated f, w')
      | none, .ok state => (.returned { state := state }, w')

/-- A value of a captured state as an open task. -/
def openTask? (task : Py.Value) : Option Py.Dict :=
  match task.dict? with
  | some t => if Py.Dict.isTrue t "is_open" then some t else none
  | none => none

/-- `_target_represents_blocked_tasks`. -/
def targetRepresentsBlockedTasks (target : PortalState) : Except AdapterFault Bool :=
  if !Py.Dict.isTrue target "client_active" then
    .error (.conflict (portalStateConflictError
      "O snapshot não preserva o cliente ativo em tarefas."))
  else match (Py.Dict.get target "tasks").list? with
    | none => .error (.conflict (portalStateConflictError "O snapshot das tarefas é inválido."))
    | some tasks =>
      let openTasks := tasks.filterMap openTask?
      .ok (!openTasks.isEmpty &&
        openTasks.all fun t => (Py.Dict.get t "assignee").eq (.str blockedTaskOwner))

/-- The action that `restore` of a gateway takes a captured state for. -/
def restoreAction (portal : SC05Portal) (target : PortalState) : Except AdapterFault SC05Action :=
  match portal with
  | .tasks => do
    let blocked ← targetRepresentsBlockedTasks target
    pure (if blocked then .block else .unblock)
  | _ => match (Py.Dict.get target "blocked").bool? with
    | some blocked =>
      if target.all fun kv => kv.1 == "blocked" then .ok (if blocked then .block else .unblock)
      else invalid
    | none => invalid
where
  invalid : Except AdapterFault SC05Action := .error (.conflict
    (portalStateConflictError "O snapshot da conta é inválido para restauração."))

/-- `restore` of a gateway. -/
def restoreCall (portal : SC05Portal) (reference : String) (expected target : PortalState)
    (scenario : SC05Scenario) (phase : Phase) (i : Option Interruption) (w : Simulator) :
    CallOutcome × Simulator :=
  match i, readState text portal (w reference) with
  | some ⟨false, f⟩, _ => (.failed false f, w)
  | _, .error f => (.failed false f, w)
  | _, .ok current =>
    if !statesEqual current expected then (.failed false .conflict, w)
    else match restoreAction portal target with
      | .error f => (.failed false f, w)
      | .ok action =>
        match applyCall text portal reference action scenario phase i w with
        | (.returned evidence, w') =>
          if statesEqual evidence.state target then (.returned evidence, w')
          else (.failed (w reference != w' reference) .conflict, w')
        | failed => failed

/-- The gateways of a browser session on the simulated portals. -/
def simulatorPortal : PortalBackend Simulator (Option Interruption) :=
  fun portal request i w => match request.call with
    | .inspect => inspectCall text portal request.clientReference i w
    | .apply action =>
      applyCall text portal request.clientReference action request.scenario request.phase i w
    | .restore expected target =>
      restoreCall text portal request.clientReference expected target request.scenario
        request.phase i w

end Adapters

end SheepContabil
