import SheepContabil.Proof.Sc05Frame
import SheepContabil.Proof.Sc05Simulator

/-!
# A block that ends succeeded

Whatever a block operation meets, the rows of its client stay within what its calls
can leave (`PartlyBlocked`), each captured state is the one the portal had before the
block, and the last answer of a portal is what it still shows. `Blocking` is that
invariant.

* `blocking_step`: every move of the operation keeps it.
* `blocks_blocked`: a block that succeeds has blocked both accounts and the open tasks,
  and the client keeps the snapshot of its tasks.
-/

namespace SheepContabil

open Conc

variable {text : String → String}

section Rows

variable {ts₀ ts : List SimulatorTask}

/-- What the calls of a block, and of its compensations, make of the tasks. -/
inductive PartlyBlocked (ts₀ : List SimulatorTask) : List SimulatorTask → Prop where
  | intact : PartlyBlocked ts₀ ts₀
  | blocked : PartlyBlocked ts₀ (ts₀.map SimulatorTask.block)
  | undone : PartlyBlocked ts₀ ((ts₀.map SimulatorTask.block).map SimulatorTask.unblock)

theorem unblock_block_of_unmarked {t : SimulatorTask} (h : t.marked = false) :
    t.block.unblock.assignee = t.assignee ∧ t.block.unblock.block = t.block := by
  cases hopen : t.isOpen with
  | false =>
    rw [block_of_settled (.inl hopen), unblock_of_unmarked h]
    exact ⟨rfl, block_of_settled (.inl hopen)⟩
  | true =>
    have hb := block_of_open hopen h
    have hu : t.block.unblock = { t with previousAssignee := "" } := by
      rw [unblock_of_marked (by rw [hb]; exact marked_iff.2 rfl), hb]
    have hm : ({ t with previousAssignee := "" } : SimulatorTask).marked = false := h
    rw [hu]
    exact ⟨rfl, by rw [block_of_open (by exact hopen) hm, hb]⟩

theorem unblock_map_of_unmarked (h : ∀ t ∈ ts, t.marked = false) :
    ts.map SimulatorTask.unblock = ts := by
  rw [List.map_congr_left fun t ht => unblock_of_unmarked (h t ht), List.map_id']

namespace PartlyBlocked

/-- Another block leaves what the first one would have. -/
theorem block (h : PartlyBlocked ts₀ ts) (hm : ∀ t ∈ ts₀, t.marked = false) :
    ts.map SimulatorTask.block = ts₀.map SimulatorTask.block := by
  cases h with
  | intact => rfl
  | blocked => rw [List.map_map]; exact List.map_congr_left fun t _ => block_block t
  | undone =>
    rw [List.map_map, List.map_map]
    exact List.map_congr_left fun t ht => (unblock_block_of_unmarked (hm t ht)).2

theorem unblock (h : PartlyBlocked ts₀ ts) (hm : ∀ t ∈ ts₀, t.marked = false) :
    PartlyBlocked ts₀ (ts.map SimulatorTask.unblock) := by
  cases h with
  | intact => rw [unblock_map_of_unmarked hm]; exact .intact
  | blocked => exact .undone
  | undone =>
    rw [unblock_map_of_unmarked]
    · exact .undone
    · intro t ht
      rw [List.map_map] at ht
      obtain ⟨t₀, ht₀, rfl⟩ := List.mem_map.1 ht
      have ha := (unblock_block_of_unmarked (hm t₀ ht₀)).1
      have hm₀ := hm t₀ ht₀
      simp only [SimulatorTask.marked, Function.comp_apply] at hm₀ ⊢
      rw [ha]; exact hm₀

/-- Tasks that look blocked are blocked. -/
theorem eq_of_rows (hb : Browser text) (h : PartlyBlocked ts₀ ts)
    (ho : ∀ t ∈ ts₀, OrdinaryAssignee text t.assignee)
    (hrows : (inOrder ts).map (rowOf text) =
      (inOrder (ts₀.map SimulatorTask.block)).map (rowOf text)) :
    ts = ts₀.map SimulatorTask.block := by
  -- a task that looks blocked without being so was closed, and no block touches it
  have hclosed : ∀ t ∈ ts₀, text t.assignee = text t.block.assignee → t.isOpen = false := by
    intro t ht heq
    by_contra hopen
    have hopen' : t.isOpen = true := by simpa using hopen
    rw [block_of_open hopen' ((ho t ht).unmarked hb), hb.marker] at heq
    exact (ho t ht).2 heq
  rw [inOrder_map ts₀ block_reference, List.map_map] at hrows
  cases h with
  | intact =>
    have hall := List.map_inj_left.1 hrows
    symm
    rw [List.map_congr_left (g := id), List.map_id]
    intro t ht
    exact block_of_settled (.inl (hclosed t ht
      (congrArg TaskRow.assignee (hall t (mem_inOrder.2 ht)))))
  | blocked => rfl
  | undone =>
    rw [inOrder_map _ unblock_reference, inOrder_map ts₀ block_reference, List.map_map,
      List.map_map] at hrows
    have hall := List.map_inj_left.1 hrows
    rw [List.map_map]
    refine List.map_congr_left fun t ht => ?_
    have hm := (ho t ht).unmarked hb
    have heq := congrArg TaskRow.assignee (hall t (mem_inOrder.2 ht))
    have hcl := hclosed t ht (by
      rw [← (unblock_block_of_unmarked hm).1]; exact heq)
    simp only [Function.comp_apply, block_of_settled (.inl hcl)]
    exact unblock_of_unmarked hm

end PartlyBlocked

/-- The rows of an ordinary client in the middle of a block. -/
structure PartlyBlockedClient (c₀ c : SimulatorClient) : Prop where
  active : c.isActive = c₀.isActive
  tasks : PartlyBlocked c₀.tasks c.tasks
  account : ∀ p, c.account p = c₀.account p ∨ c.account p = some true

/-- The rows of a client after a block. -/
def SimulatorClient.blocked (c : SimulatorClient) : SimulatorClient :=
  { c with files := some true, accounting := some true, tasks := c.tasks.map SimulatorTask.block }

variable {c₀ c : SimulatorClient} {p : SC05Portal} {action : SC05Action}

/-- A form of a block, or of the compensation of one, leaves the client partly blocked. -/
theorem PartlyBlockedClient.submitted (h : PartlyBlockedClient c₀ c)
    (hm : ∀ t ∈ c₀.tasks, t.marked = false)
    (ha : action = .block ∨ p = .tasks ∨ c₀.account p = some false) :
    PartlyBlockedClient c₀ (c.submitted p action) := by
  cases p with
  | tasks =>
    cases action with
    | block =>
      refine ⟨h.active, ?_, h.account⟩
      show PartlyBlocked c₀.tasks (c.tasks.map SimulatorTask.block)
      rw [h.tasks.block hm]; exact .blocked
    | unblock => exact ⟨h.active, h.tasks.unblock hm, h.account⟩
  | files | accounting =>
    refine ⟨h.active, h.tasks, fun q => ?_⟩
    have hq := h.account q
    cases q <;> first | exact hq | skip
    rcases ha with rfl | hp | hfalse
    · exact .inr rfl
    · cases hp
    · cases action with
      | block => exact .inr rfl
      | unblock => exact .inl hfalse.symm

theorem readState_ne {st : PortalState} (h : readState text p (some c) = .ok st) : st ≠ [] := by
  cases p with
  | tasks =>
    simp only [readState] at h
    split at h
    · cases h
    · obtain ⟨rows, -, h⟩ := Py.bind_eq_ok.1 h
      cases h; simp [tasksState]
  | files | accounting =>
    simp only [readState] at h
    split at h
    · cases h; simp
    · cases h

theorem statesEqual_nil {st : PortalState} (h : statesEqual st [] = true) : st = [] := by
  simp only [statesEqual, Py.Dict.eq, Py.Value.eq, List.length_nil, Bool.and_eq_true,
    beq_iff_eq, List.length_eq_zero_iff] at h
  exact h.1

theorem account_of_read (hp : p ≠ .tasks) {st : PortalState}
    (h : readState text p (some c) = .ok st) : ∃ b, c.account p = some b ∧ st = shownAccount b := by
  cases p with
  | tasks => exact absurd rfl hp
  | files | accounting =>
    simp only [readState] at h
    split at h
    · rename_i b hb; cases h; exact ⟨b, hb, rfl⟩
    · cases h

theorem tasks_ne_of_read {st : PortalState} (h : readState text .tasks (some c) = .ok st) :
    c.tasks ≠ [] := by
  rintro hnil
  simp [readState, hnil] at h

/-- The action that a captured state of an ordinary client is restored with. -/
theorem restoreAction_before {st : PortalState} (hread : readState text p (some c₀) = .ok st)
    (h : restoreAction p st = .ok action) :
    action = .block ∨ p = .tasks ∨ c₀.account p = some false := by
  by_cases hp : p = .tasks
  · exact .inr (.inl hp)
  obtain ⟨b, hb, rfl⟩ := account_of_read hp hread
  rw [restoreAction_shownAccount hp] at h
  cases h
  cases b with
  | false => exact .inr (.inr hb)
  | true => exact .inl rfl

end Rows

section Settled

variable {c₀ c : SimulatorClient}

theorem PartlyBlocked.legible (hb : Browser text) (hc₀ : OrdinaryClient text c₀)
    {ts : List SimulatorTask} (h : PartlyBlocked c₀.tasks ts) : ∀ t ∈ ts, Legible text t := by
  have hblock : ∀ t ∈ c₀.tasks, Legible text t.block := by
    intro t ht
    have hl := hc₀.legible hb t ht
    refine ⟨by rw [block_reference]; exact hl.shown, by rw [block_reference]; exact hl.reference, ?_⟩
    cases hopen : t.isOpen with
    | false => rw [block_of_settled (.inl hopen)]; exact hl.assignee
    | true =>
      rw [block_of_open hopen ((hc₀.assignees t ht).unmarked hb), hb.marker]
      exact blockedTaskOwner_slug.1
  cases h with
  | intact => exact hc₀.legible hb
  | blocked =>
    intro t ht
    obtain ⟨t₀, ht₀, rfl⟩ := List.mem_map.1 ht
    exact hblock t₀ ht₀
  | undone =>
    intro t ht
    rw [List.map_map] at ht
    obtain ⟨t₀, ht₀, rfl⟩ := List.mem_map.1 ht
    have hl := hc₀.legible hb t₀ ht₀
    have ha := (unblock_block_of_unmarked ((hc₀.assignees t₀ ht₀).unmarked hb)).1
    have hr : t₀.block.unblock.reference = t₀.reference :=
      (unblock_reference _).trans (block_reference t₀)
    exact ⟨by simp only [Function.comp_apply, hr]; exact hl.shown,
      by simp only [Function.comp_apply, hr]; exact hl.reference,
      by simp only [Function.comp_apply, ha]; exact hl.assignee⟩

/-- A portal that shows what a block asks of it is blocked. -/
theorem account_settled {p : SC05Portal} (hp : p ≠ .tasks) {st before desired snapshot : PortalState}
    {prior : Option PortalState} (hread : readState text p (some c) = .ok st)
    (hd : desiredState .block p snapshot prior before = .ok desired)
    (heq : statesEqual st desired = true) : c.account p = some true := by
  obtain ⟨b, hb, rfl⟩ := account_of_read hp hread
  have hdesired : desired = shownAccount true := by
    cases p with
    | tasks => exact absurd rfl hp
    | files | accounting => exact (Except.ok.inj hd).symm
  rw [hdesired, shownAccount_eq, beq_iff_eq] at heq
  rw [hb, heq]

theorem tasks_settled (hb : Browser text) (hc₀ : OrdinaryClient text c₀)
    (h : PartlyBlockedClient c₀ c) {st before desired snapshot : PortalState}
    {prior : Option PortalState} (hread : readState text .tasks (some c) = .ok st)
    (hbefore : readState text .tasks (some c₀) = .ok before)
    (hd : desiredState .block .tasks snapshot prior before = .ok desired)
    (heq : statesEqual st desired = true) : c.tasks = c₀.tasks.map SimulatorTask.block := by
  rw [readState_tasks (tasks_ne_of_read hread) (h.tasks.legible hb hc₀)] at hread
  rw [readState_tasks (tasks_ne_of_read hbefore) (hc₀.legible hb), hc₀.active] at hbefore
  cases hread
  cases hbefore
  rw [desiredState_block hb.marker] at hd
  cases hd
  rw [shownTasks_eq, Bool.and_eq_true, decide_eq_true_eq] at heq
  exact h.tasks.eq_of_rows hb hc₀.assignees heq.2

end Settled

section Invariant

variable {ι : Type} {o : OperationId} {s₀ s : SC05State Simulator} {c₀ c : SimulatorClient}

/-- What a step of a block has captured: nothing, of a portal that is as it was, or what the
portal showed before the block. -/
inductive StepCaptured (text : String → String) (c₀ c : SimulatorClient) (p : SC05Portal)
    (v : StepView) : Prop where
  | nothing (hb : v.before = []) (hd : v.desired = [])
      (hread : readState text p (some c) = readState text p (some c₀))
  | before (hread : readState text p (some c₀) = .ok v.before)
      (hd : ∃ snapshot prior, desiredState .block p snapshot prior v.before = .ok v.desired)

/-- What a block that has succeeded leaves. -/
structure BlockDone (text : String → String) (o : OperationId) (c₀ c : SimulatorClient)
    (s : SC05State Simulator) : Prop where
  phase : phase? (s.traces o) = none
  row : c = c₀.blocked
  captured : ∀ p, readState text p (some c₀) = .ok (s.step o p).beforeState
  status : (s.clients (s.operations o).client).status = .blocked
  snapshot : readState text .tasks (some c₀) =
    .ok (s.clients (s.operations o).client).taskRestoreSnapshot

/-- The block `o` of the client `c₀`, since `s₀`; its rows are `c` now. -/
structure Blocking (text : String → String) (o : OperationId) (s₀ : SC05State Simulator)
    (c₀ c : SimulatorClient) (s : SC05State Simulator) : Prop where
  touches : Touches o s₀ s
  action : (s.operations o).action = .block
  row : s.portals (s₀.clients (s₀.operations o).client).externalReference = some c
  client : PartlyBlockedClient c₀ c
  shown : ∀ p st, shown (s.traces o) p = some st → readState text p (some c) = .ok st
  step : ∀ p, StepCaptured text c₀ c p ((s.operations o).steps p).view
  done : (s.operations o).run.status = .succeeded → BlockDone text o c₀ c s

variable {settings : Settings} {m : Move SC05Label (Fate (Option Interruption)) (Simulator → Simulator)}

/-- What the portals have last shown stays shown by what is no call. -/
theorem shown_of_recorded {v : SagaView} {e : SC05Event} (he : Recorded o v m e)
    (hm : ∀ pid p request i, m ≠ .act pid (.callPortal o p request) i) (older : List SC05Event)
    (p : SC05Portal) : shown (e :: older) p = shown older p := by
  cases he with
  | called pid p request i outcome => exact absurd rfl (hm pid p request i)
  | started | compensating | succeeded | failed => rfl

/-- A step is captured once, from what its portal shows. -/
theorem StepCaptured.saved {v : SagaView} (h : ∀ p, StepCaptured text c₀ c p (v.step p))
    (hshown : ∀ p st, SheepContabil.shown v.trace p = some st → readState text p (some c) = .ok st)
    (haction : v.action = .block) {pid : ℕ} {p : SC05Portal} {u : StepUpdate} {core : SagaCore}
    (hv : v.Shows core)
    (hpre : WritePre False False pid (.saveStep o p u) v core) (q : SC05Portal) :
    StepCaptured text c₀ c q ((v.saveStep p u).step q) := by
  by_cases hqp : q = p
  swap
  · rw [saveStep_other v u hqp]; exact h q
  subst hqp
  obtain ⟨hbefore, hdesired, -⟩ := hpre
  rw [saveStep_self]
  cases hub : u.beforeState with
  | none =>
    cases hud : u.desiredState with
    | none =>
      rcases h q with ⟨hb, hd, hread⟩ | ⟨hread, hd⟩
      · exact .nothing hb hd hread
      · exact .before hread hd
    | some d => exact absurd hub (hdesired d hud).1
  | some b =>
    obtain ⟨d, hud, hsame, hcaptures⟩ := hbefore b hub
    rw [hud]
    rcases h q with ⟨hb, hd, hread⟩ | ⟨hread, snapshot, prior, hd⟩
    · -- the first observation of a portal that is as it was
      obtain ⟨hs, snapshot, prior, hdes⟩ := hcaptures (by rw [← hv.before]; exact hb)
      rw [← hv.trace] at hs
      rw [← hv.action, haction] at hdes
      exact .before (by rw [← hread]; exact hshown q b hs) ⟨snapshot, prior, hdes⟩
    · have hne : core.before q ≠ [] := by rw [← hv.before]; exact readState_ne hread
      obtain rfl := hsame hne
      obtain rfl := (hdesired d hud).2.2 hne (by rw [← hv.desired]; exact desiredState_ne hd)
      simp only [Option.getD_some, ← hv.before, ← hv.desired]
      exact .before hread ⟨snapshot, prior, hd⟩

/-- The last transaction of a block finds every portal blocked. -/
theorem Blocking.blocked (hb : Browser text) (hc₀ : OrdinaryClient text c₀)
    (h : Blocking text o s₀ c₀ c s) {core : SagaCore} (hv : (sagaView o s).Shows core)
    (hset : ∀ p, core.Settled p) :
    c = c₀.blocked ∧ ∀ p, readState text p (some c₀) = .ok (s.step o p).beforeState := by
  have hstep : ∀ p, ∃ st, readState text p (some c) = .ok st ∧
      readState text p (some c₀) = .ok (s.step o p).beforeState ∧
      ∃ desired snapshot prior,
        desiredState .block p snapshot prior (s.step o p).beforeState = .ok desired ∧
          statesEqual st desired = true := by
    intro p
    obtain ⟨st, hs, heq⟩ := hset p
    rw [← hv.trace] at hs
    rw [← hv.desired] at heq
    have hread := h.shown p st hs
    rcases h.step p with ⟨-, hd, -⟩ | ⟨hbefore, snapshot, prior, hd⟩
    · have heq' : statesEqual st [] = true := hd ▸ heq
      exact absurd (statesEqual_nil heq') (readState_ne hread)
    · exact ⟨st, hread, hbefore, _, snapshot, prior, hd, heq⟩
  have haccount : ∀ p, p ≠ .tasks → c.account p = some true := by
    intro p hp
    obtain ⟨st, hread, -, desired, snapshot, prior, hd, heq⟩ := hstep p
    exact account_settled hp hread hd heq
  obtain ⟨st, hread, hbefore, desired, snapshot, prior, hd, heq⟩ := hstep .tasks
  have htasks := tasks_settled hb hc₀ h.client hread hbefore hd heq
  refine ⟨?_, fun p => (hstep p).choose_spec.2.1⟩
  obtain ⟨active, files, accounting, tasks⟩ := c
  have hfiles : files = some true := haccount .files (by simp)
  have haccounting : accounting = some true := haccount .accounting (by simp)
  have hactive : active = c₀.isActive := h.client.active
  simp only at htasks
  rw [hfiles, haccounting, hactive, htasks]
  rfl

/-- The identifier under which the portals know the client of an operation. -/
def SC05State.clientReference (s : SC05State Simulator) (o : OperationId) : String :=
  (s.clients (s.operations o).client).externalReference

/-- What the portals have last shown after a call: its answer, if it answered. -/
theorem shown_called {pid : ℕ} {p q : SC05Portal} {phase : Phase} {call : GatewayCall}
    {before desired st : PortalState} {outcome : CallOutcome} {older : List SC05Event}
    (h : shown (.called pid p phase call before desired outcome :: older) q = some st) :
    (q ≠ p ∧ shown older q = some st) ∨
      (q = p ∧ ∃ evidence, outcome = .returned evidence ∧ evidence.state = st) := by
  by_cases hpq : p = q
  · simp only [shown, if_pos hpq] at h
    cases outcome with
    | returned evidence =>
      exact .inr ⟨hpq.symm, evidence, rfl, by simpa [CallOutcome.state?] using h⟩
    | failed b f => cases h
  · simp only [shown, if_neg hpq] at h
    exact .inl ⟨Ne.symm hpq, h⟩

/-- A portal call of a block. -/
theorem blocking_call (settings : Settings) (hb : Browser text) (hc₀ : OrdinaryClient text c₀)
    (h : Blocking text o s₀ c₀ c s) {pid : ℕ} {p : SC05Portal} {request : GatewayRequest}
    {i : Fate (Option Interruption)}
    (hk : (sagaOutline Simulator (Option Interruption) o False False).Knows
      (.act pid (.callPortal o p request) i) (sagaView o s))
    (hclient : request.clientReference = s₀.clientReference o) :
    ∃ c', Blocking text o s₀ c₀ c'
      (SC05State.sem (simulatorPortal text) settings pid (.callPortal o p request) i s).2 := by
  obtain ⟨core, hv, -, hevent, hdesired, hphase, -, haction⟩ := knows_pre hk rfl rfl
  have htouches := h.touches.trans (sem_touches (s := s) (simulatorPortal text) settings pid
    (.callPortal o p request) i rfl)
  have hrow : s.portals request.clientReference = some c := by rw [hclient]; exact h.row
  -- a run that has succeeded calls nobody
  have hrunning : (s.operations o).run.status = .succeeded → False := by
    intro hs
    have hnone := (h.done hs).phase
    have htrace : s.traces o = core.trace := hv.trace
    rw [htrace, hphase] at hnone
    cases hnone
  rw [sem_callPortal] at htouches ⊢
  set outcome := (simulatorPortal text p request i.call s.portals).1
  have htrace : ∀ {w : Simulator} {e : SC05Event}, ({ s with portals := w }.record o e).traces o =
      e :: s.traces o := by intro w e; simp [SC05State.record]
  rcases simulatorPortal_cases p request i.call s.portals with ⟨hw, hanswer⟩ |
    ⟨c1, c2, action, hc1, hsub, hw, hanswer⟩
  · -- the call has changed nothing
    refine ⟨c, htouches, h.action, ?_, h.client, fun q st hq => ?_, h.step,
      fun hs => (hrunning hs).elim⟩
    · rw [hw]; exact h.row
    · rw [htrace] at hq
      rcases shown_called hq with ⟨-, hold⟩ | ⟨rfl, evidence, hev, rfl⟩
      · exact h.shown q st hold
      · rw [← hrow]; exact (hanswer evidence hev).2
  · -- the call has submitted a form, so the step has captured a state
    rw [hrow] at hc1
    obtain rfl := Option.some.inj hc1
    have hmut : request.call ≠ .inspect := by
      rcases hsub.action with ha | ⟨_, _, ha, -⟩ <;> rw [ha] <;> simp
    obtain ⟨hread, hdes⟩ : readState text p (some c₀) = .ok (core.before p) ∧
        ∃ snapshot prior, desiredState .block p snapshot prior (core.before p) =
          .ok (core.desired p) := by
      rw [← hv.before, ← hv.desired]
      rcases h.step p with ⟨-, hd, -⟩ | ⟨hread, hd⟩
      · exact absurd ((hv.desired p).symm.trans hd) (hdesired hmut)
      · exact ⟨hread, hd⟩
    have hallowed : action = .block ∨ p = .tasks ∨ c₀.account p = some false := by
      rcases hsub.action with ha | ⟨expected, target, ha, hrestore⟩
      · refine .inl ((haction action ha).trans ?_)
        rw [← hv.action]; exact h.action
      · have hok := hevent outcome
        rw [ha] at hok
        obtain ⟨-, -, -, -, htarget⟩ := hok
        rw [htarget] at hrestore
        exact restoreAction_before hread hrestore
    obtain rfl := submit_ok hsub.form
    have hother : ∀ q, q ≠ p →
        readState text q (some (c.submitted p action)) = readState text q (some c) :=
      fun q hq => readState_submitted c action hq
    have hunmarked : ∀ t ∈ c₀.tasks, t.marked = false :=
      fun t ht => (hc₀.assignees t ht).unmarked hb
    refine ⟨c.submitted p action, htouches, h.action, ?_, h.client.submitted hunmarked hallowed,
      fun q st hq => ?_, fun q => ?_, fun hs => (hrunning hs).elim⟩
    · show (simulatorPortal text p request i.call s.portals).2 _ = _
      rw [hw, hclient]; exact Function.update_self ..
    · rw [htrace] at hq
      rcases shown_called hq with ⟨hqp, hold⟩ | ⟨rfl, evidence, hev, rfl⟩
      · rw [hother q hqp]; exact h.shown q st hold
      · exact hanswer evidence hev
    · by_cases hqp : q = p
      · subst hqp
        rw [← hv.before, ← hv.desired] at hdes
        rw [← hv.before] at hread
        exact .before hread hdes
      · rcases h.step q with ⟨hb', hd, hread'⟩ | ⟨hread', hd⟩
        · exact .nothing hb' hd ((hother q hqp).trans hread')
        · exact .before hread' hd

/-- The client after the last transaction of a block. -/
theorem finishSucceeded_client (text : String → String) (settings : Settings) {pid : ℕ}
    {t : Option TaskId} {i : Fate (Option Interruption)}
    (ha : (s.operations o).action = .block) (hc : (sagaView o s).Current t)
    (hs : ((SC05State.sem (simulatorPortal text) settings pid (.finishSucceeded o t) i s).2.run
      o).status = .succeeded) :
    let s' := (SC05State.sem (simulatorPortal text) settings pid (.finishSucceeded o t) i s).2
    (s'.clients (s'.operations o).client).status = .blocked ∧
      (s'.clients (s'.operations o).client).taskRestoreSnapshot = (s.step o .tasks).beforeState := by
  intro s'
  have hdb : i.dbFails = false := by
    by_contra hdb
    have hdb' : i.dbFails = true := by simpa using hdb
    simp only [SC05State.sem, transaction, hdb', if_true] at hs
    have hrun : (s.run o).status = .running := hc.1
    rw [hrun] at hs; cases hs
  have hs' : s' = s.finishSucceeded pid o t i.now := by
    show (transaction i s _).2 = _
    rw [transaction, if_neg (by simp [hdb])]
  have hcurrent : (s.operations o).run.deliveryIsCurrent t = true := current_iff.2 hc
  rw [hs']
  simp [SC05State.finishSucceeded, hcurrent, SC05Operation.finishSucceeded,
    SC05Operation.succeededClient, ha, SC05State.record, SC05State.step]

/-- A move of a block that calls no portal. -/
theorem blocking_other (hb : Browser text) (hc₀ : OrdinaryClient text c₀)
    (h : Blocking text o s₀ c₀ c s) (hcount : o < s.operationCount)
    (hk : (sagaOutline Simulator (Option Interruption) o False False).Knows m (sagaView o s))
    (hown : OwnMove o m) (hm : ∀ pid p request i, m ≠ .act pid (.callPortal o p request) i) :
    Blocking text o s₀ c₀ c ((sc05System (simulatorPortal text) settings).after m s) := by
  set s' := (sc05System (simulatorPortal text) settings).after m s with hs'
  have hmove : (sagaAbstract Simulator (Option Interruption) o).move m (sagaView o s)
      (sagaView o s') :=
    (saga_simulates (simulatorPortal text) settings o).move m hcount
  -- only the operation's own moves reach its portals and its client
  have htouches : Touches o s s' := by
    cases m with
    | act pid l i => exact sem_touches _ _ _ _ _ hown
    | crash pid => exact crash_touches ..
    | env e => exact hown.elim
  have hportals : s'.portals = s.portals := by
    cases m with
    | act pid l i =>
      refine sem_portals _ _ _ _ _ _ fun o' p request hl => ?_
      subst hl
      obtain rfl : o' = o := Option.some.inj hown
      exact hm pid p request i rfl
    | crash pid => rfl
    | env e => exact hown.elim
  have hclients : (s.operations o).run.status = .succeeded → s'.clients = s.clients := by
    intro hs
    cases m with
    | act pid l i => exact sem_clients_of_succeeded _ _ _ _ _ hown hs
    | crash pid => rfl
    | env e => exact hown.elim
  have haction : (s'.operations o).action = (s.operations o).action := (trace_step hmove).1
  refine ⟨h.touches.trans htouches, haction.trans h.action, by rw [hportals]; exact h.row, h.client,
    fun p st hp => ?_, fun p => ?_, fun hs => ?_⟩
  · rcases (trace_step hmove).2 with ht | ⟨e, ht, he⟩
    · exact h.shown p st (by rw [← hp]; exact congrArg (shown · p) ht.symm)
    · refine h.shown p st (by rw [← hp, ← shown_of_recorded he hm _ p]; exact congrArg (shown · p) ht.symm)
  · -- a capture is written after an inspection of the same step
    rcases states_step hmove with hsame | ⟨pid, q, u, i, rfl, hsaved⟩
    · rcases h.step p with ⟨hb', hd, hread⟩ | ⟨hread, hd⟩
      · exact .nothing ((hsame p).1.trans hb') ((hsame p).2.trans hd) hread
      · refine .before (hread.trans (congrArg _ (hsame p).1.symm)) ?_
        obtain ⟨snapshot, prior, hd⟩ := hd
        refine ⟨snapshot, prior, ?_⟩
        have hd' : desiredState .block p snapshot prior ((sagaView o s').step p).before =
            .ok ((sagaView o s').step p).desired := by rw [(hsame p).1, (hsame p).2]; exact hd
        exact hd'
    · obtain ⟨core, hv, -, hpre⟩ := knows_pre hk rfl rfl
      have hstep := StepCaptured.saved (v := sagaView o s) h.step h.shown h.action hv hpre p
      rw [← hsaved] at hstep
      exact hstep
  · -- once succeeded, nothing moves; the move that succeeds has every portal desired
    rcases succeeded_step hk hmove hs with hold | ⟨pid, t, i, rfl, hc, hv'⟩
    · obtain ⟨hphase, hrow, hcaptured, hstatus, hsnapshot⟩ := h.done hold
      have htrace : s'.traces o = s.traces o := trace_of_succeeded hk hmove hold hphase hs
      refine ⟨by rw [htrace]; exact hphase, hrow, fun p => ?_, ?_, ?_⟩
      · have hne : ((sagaView o s).step p).before ≠ [] := readState_ne (hcaptured p)
        exact (hcaptured p).trans (congrArg _ (captured_step hk hmove hne).symm)
      · rw [htouches.client, hclients hold]; exact hstatus
      · rw [htouches.client, hclients hold]; exact hsnapshot
    · obtain ⟨core, hv, -, hset⟩ := knows_pre hk rfl rfl
      obtain ⟨hrow, hcaptured⟩ := h.blocked hb hc₀ hv hset
      obtain ⟨hstatus, hsnapshot⟩ := finishSucceeded_client text settings h.action hc hs
      have hphase : phase? (s'.traces o) = none := by
        have htrace : s'.traces o = .succeeded pid :: s.traces o := congrArg SagaView.trace hv'
        rw [htrace]; rfl
      have hbefore : ∀ p, (s'.step o p).beforeState = (s.step o p).beforeState := fun p =>
        congrArg (fun v : SagaView => (v.step p).before) hv'
      refine ⟨hphase, hrow, fun p => by rw [hbefore]; exact hcaptured p, hstatus, ?_⟩
      exact (hcaptured .tasks).trans (congrArg _ hsnapshot.symm)

/-- **Every move of a block keeps what it has captured and what it may have left.** -/
theorem blocking_step (hb : Browser text) (hc₀ : OrdinaryClient text c₀)
    (h : ∃ c, Blocking text o s₀ c₀ c s) (hcount : o < s.operationCount)
    (hk : (sagaOutline Simulator (Option Interruption) o False False).Knows m (sagaView o s))
    (hown : OwnMove o m)
    (habout : ∀ pid l i, m = .act pid l i → AboutClient o (s₀.clientReference o) l) :
    ∃ c, Blocking text o s₀ c₀ c ((sc05System (simulatorPortal text) settings).after m s) := by
  obtain ⟨c, h⟩ := h
  by_cases hm : ∃ pid p request i, m = .act pid (.callPortal o p request) i
  · obtain ⟨pid, p, request, i, rfl⟩ := hm
    exact blocking_call settings hb hc₀ h hk (habout pid _ i rfl p request rfl)
  · push Not at hm
    exact ⟨c, blocking_other hb hc₀ h hcount hk hown hm⟩

end Invariant

section Run

variable {o : OperationId} {s s₀ s₁ : SC05State Simulator} {c₀ : SimulatorClient} {client : ClientId}
  {settings : Settings}

/-- An operation as a request has created it. -/
theorem createRun_created {W : Type} {s s₀ : SC05State W} {action : SC05Action}
    {scenario : SC05Scenario} {requestKey now : ℕ}
    (h : s.createRun client action scenario requestKey now = (.ok (o, true), s₀)) :
    o = s.operationCount ∧ s₀ =
      { s.setOperation s.operationCount
          { client := client, requestKey := requestKey, action := action, scenario := scenario
            run := { module := .sc05, status := .queued, taskId := some s.nextTaskId
                     summary := AutomationRun.queuedSummary .sc05 .manual
                       ⟨action.label, (s.clients client).name⟩
                     operation := ⟨action.label, (s.clients client).name⟩
                     queuedAt := some now, createdAt := now } } with
        operationCount := s.operationCount + 1, nextTaskId := s.nextTaskId + 1 } := by
  unfold SC05State.createRun at h
  split at h
  · simp at h
  · simp only [SC05State.createRun.refused] at h
    split_ifs at h
    all_goals simp only [Prod.mk.injEq, reduceCtorEq, Except.ok.injEq, false_and, and_true] at h
    exact ⟨h.1.symm, h.2.symm⟩

/-- A client after a block that has succeeded. -/
structure BlockLeft (text : String → String) (client : ClientId) (o : OperationId)
    (c₀ : SimulatorClient) (s₁ : SC05State Simulator) : Prop where
  count : s₁.operationCount = o + 1
  row : s₁.row client = some c₀.blocked
  owner : (s₁.operations o).client = client
  action : (s₁.operations o).action = .block
  succeeded : (s₁.operations o).run.status = .succeeded
  captured : ∀ p, readState text p (some c₀) = .ok (s₁.step o p).beforeState
  status : (s₁.clients client).status = .blocked
  snapshot : readState text .tasks (some c₀) = .ok (s₁.clients client).taskRestoreSnapshot
  traces : ∀ o', s₁.operationCount ≤ o' → s₁.traces o' = []
  workers : ∀ o', s₁.operationCount ≤ o' → s₁.workers o' = none

/-- **A block that succeeds has blocked the client**, whatever it met on its way. -/
theorem blocks_blocked (hb : Browser text) (hready : Ready text client s) (hrow : s.row client = some c₀)
    (hc₀ : OrdinaryClient text c₀) (h : Blocks text settings client s s₁) :
    ∃ o, BlockLeft text client o c₀ s₁ := by
  obtain ⟨created, xs, admitted, hsucc⟩ := h
  rename_i o scenario requestKey now s₀
  obtain ⟨rfl, hs₀⟩ := createRun_created created
  have hcount : s.operationCount < s₀.operationCount := by rw [hs₀]; exact Nat.lt_succ_self _
  have hop : s₀.operations s.operationCount =
      { client := client, requestKey := requestKey, action := .block, scenario := scenario
        run := { module := .sc05, status := .queued, taskId := some s.nextTaskId
                 summary := AutomationRun.queuedSummary .sc05 .manual
                   ⟨SC05Action.label .block, (s.clients client).name⟩
                 operation := ⟨SC05Action.label .block, (s.clients client).name⟩
                 queuedAt := some now, createdAt := now } } := by
    rw [hs₀]; simp [SC05State.setOperation]
  have htrace : s₀.traces s.operationCount = [] := by rw [hs₀]; exact hready.traces _ le_rfl
  have hfresh : (sagaView s.operationCount s₀).Fresh := by
    refine ⟨?_, htrace, fun p => ?_⟩
    · show s₀.workers _ = none
      rw [hs₀]; exact hready.workers _ le_rfl
    · show ((s₀.operations s.operationCount).steps p).beforeState = []
      rw [hop]
  have hreference : s₀.clientReference s.operationCount = (s.clients client).externalReference := by
    unfold SC05State.clientReference
    rw [hop, hs₀]; rfl
  -- nothing has been captured or applied when the run is created
  have hinit : Blocking text s.operationCount s₀ c₀ c₀ s₀ := by
    refine ⟨.refl _ _, by rw [hop], ?_, ⟨rfl, .intact, fun _ => .inl rfl⟩, fun p st hp => ?_,
      fun p => ?_, fun hs => ?_⟩
    · show s₀.portals (s₀.clientReference s.operationCount) = some c₀
      rw [hreference, hs₀]; exact hrow
    · rw [htrace] at hp; cases hp
    · rw [hop]; exact .nothing rfl rfl rfl
    · rw [hop] at hs; cases hs
  have hseq := admitted.mono fun m s h => h.1
  have hrun := (admitted.mono fun m s h => h.2).and ((run_knows hcount hfresh hseq).and
    (run_addressed hcount xs))
  obtain ⟨c, h⟩ := System.shared_inv
    (I := fun s' => ∃ c, Blocking text s.operationCount s₀ c₀ c s')
    (fun m s' h hm => by
      obtain ⟨hown, ⟨hcount, hk⟩, habout⟩ := hm
      exact blocking_step hb hc₀ h hcount hk hown habout)
    ⟨c₀, hinit⟩ hrun
  set s₁ := ((sc05System (simulatorPortal text) settings).run (Config.idle s₀) xs).shared
  -- what a block that succeeded has left, read off the invariant
  obtain ⟨-, hblocked, hcaptured, hstatus, hsnapshot⟩ := h.done hsucc
  have hclient : (s₁.operations s.operationCount).client = client := by
    rw [h.touches.client, hop]
  have hcount₁ : s₁.operationCount = s.operationCount + 1 := by rw [h.touches.count, hs₀]
  have hlater : ∀ o', s₁.operationCount ≤ o' → s.operationCount ≤ o' ∧ o' ≠ s.operationCount :=
    fun o' ho' => by omega
  refine ⟨s.operationCount, hcount₁, ?_, hclient, h.action, hsucc, hcaptured, ?_, ?_, ?_, ?_⟩
  · rw [← hblocked, SC05State.row, h.touches.reference, ← h.row, hop]
  · rw [← hclient]; exact hstatus
  · rw [← hclient]; exact hsnapshot
  · intro o' ho'
    obtain ⟨hle, hne⟩ := hlater o' ho'
    rw [h.touches.traces o' hne, hs₀]; exact hready.traces o' hle
  · intro o' ho'
    obtain ⟨hle, hne⟩ := hlater o' ho'
    have hnone : s₀.workers o' = none := by rw [hs₀]; exact hready.workers o' hle
    rcases h.touches.workers o' hne with hw | hw
    · rw [hw]; exact hnone
    · exact hw

end Run

end SheepContabil
