import SheepContabil.Proof.Sc05Tasks

/-!
# The rows of a client, from one change to the next

* `simulatorPortal_cases`: what a gateway call does to the rows of a client.
* `blockedFrom_changed`: changes from outside keep what a block has left.
* `restoreAction_shownTasks`: the action a captured state of the tasks is restored with.
-/

namespace SheepContabil

open Py

variable {text : String → String}

section Calls

/-- The rows of a client after a form has been submitted. -/
def SimulatorClient.submitted (c : SimulatorClient) : SC05Portal → SC05Action → SimulatorClient
  | .tasks, .block => { c with tasks := c.tasks.map SimulatorTask.block }
  | .tasks, .unblock => { c with tasks := c.tasks.map SimulatorTask.unblock }
  | p, action => c.setAccount p (action == .block)

theorem submit_ok {p : SC05Portal} {action : SC05Action} {scenario : SC05Scenario} {phase : Phase}
    {c c' : SimulatorClient} (h : submit p action scenario phase (some c) = .ok c') :
    c' = c.submitted p action := by
  cases p with
  | tasks =>
    simp only [submit] at h
    split at h
    · cases h
    split at h
    · cases h
    cases action with
    | block => exact (Except.ok.inj h).symm
    | unblock =>
      simp only at h
      split at h
      · cases h
      · exact (Except.ok.inj h).symm
  | files | accounting =>
    simp only [submit] at h
    split at h
    · cases h
    · split at h
      · cases h
      · exact (Except.ok.inj h).symm

/-- A form changes only what its own portal shows. -/
theorem readState_submitted (c : SimulatorClient) {p q : SC05Portal} (action : SC05Action)
    (hq : q ≠ p) : readState text q (some (c.submitted p action)) = readState text q (some c) := by
  cases p <;> cases q <;> cases action <;> first | rfl | exact absurd rfl hq

/-- A call has changed the rows `c` of its client to `c'` with this action of the portal. -/
structure Submitted (p : SC05Portal) (request : GatewayRequest) (action : SC05Action)
    (c c' : SimulatorClient) : Prop where
  form : submit p action request.scenario request.phase (some c) = .ok c'
  action : request.call = .apply action ∨ ∃ expected target,
    request.call = .restore expected target ∧ restoreAction p target = .ok action

theorem applyCall_cases (p : SC05Portal) (reference : String) (action : SC05Action)
    (scenario : SC05Scenario) (phase : Phase) (i : Option Interruption) (w : Simulator) :
    ((∃ f, applyCall text p reference action scenario phase i w = (.failed false f, w)) ∨
      ∃ c c', w reference = some c ∧ submit p action scenario phase (some c) = .ok c' ∧
        (applyCall text p reference action scenario phase i w).2 =
          Function.update w reference (some c') ∧
        ∀ evidence, (applyCall text p reference action scenario phase i w).1 = .returned evidence →
          readState text p (some c') = .ok evidence.state) := by
  have hsubmit : ∀ i : Option Interruption, (∀ f, i ≠ some ⟨false, f⟩) →
      ((∃ f, applyCall text p reference action scenario phase i w = (.failed false f, w)) ∨
      ∃ c c', w reference = some c ∧ submit p action scenario phase (some c) = .ok c' ∧
        (applyCall text p reference action scenario phase i w).2 =
          Function.update w reference (some c') ∧
        ∀ evidence, (applyCall text p reference action scenario phase i w).1 = .returned evidence →
          readState text p (some c') = .ok evidence.state) := by
    intro i hi
    unfold applyCall
    split
    · rename_i f; exact absurd rfl (hi f)
    rcases hw : w reference with _ | c
    · refine .inl ?_
      cases p <;> exact ⟨_, rfl⟩
    · rcases hs : submit p action scenario phase (some c) with f | c'
      · exact .inl ⟨f, rfl⟩
      · refine .inr ⟨c, c', rfl, hs, ?_, ?_⟩
        · simp only
          split <;> rfl
        · intro evidence hev
          simp only at hev
          split at hev
          · cases hev
          · cases hev
          · cases hev
            exact ‹readState text p (some c') = .ok _›
  rcases i with _ | ⟨_ | _, f⟩
  · exact hsubmit none (by simp)
  · exact .inl ⟨f, rfl⟩
  · exact hsubmit _ (by simp)

/-- A call that has not changed anything, and answers only if it inspected. -/
def ReadOnly (text : String → String) (p : SC05Portal) (request : GatewayRequest) (w : Simulator)
    (r : CallOutcome × Simulator) : Prop :=
  r.2 = w ∧ ∀ evidence, r.1 = .returned evidence →
    request.call = .inspect ∧ readState text p (w request.clientReference) = .ok evidence.state

/-- A call that has submitted a form for the rows of its client. -/
def Operated (text : String → String) (p : SC05Portal) (request : GatewayRequest) (w : Simulator)
    (r : CallOutcome × Simulator) : Prop :=
  ∃ c c' action, w request.clientReference = some c ∧ Submitted p request action c c' ∧
    r.2 = Function.update w request.clientReference (some c') ∧
    ∀ evidence, r.1 = .returned evidence → readState text p (some c') = .ok evidence.state

theorem readOnly_failed {p : SC05Portal} {request : GatewayRequest} {w : Simulator}
    (f : AdapterFault) : ReadOnly text p request w (.failed false f, w) :=
  ⟨rfl, fun _ h => by cases h⟩

theorem inspectCall_cases (p : SC05Portal) (request : GatewayRequest) (i : Option Interruption)
    (w : Simulator) (hcall : request.call = .inspect) :
    ReadOnly text p request w (inspectCall text p request.clientReference i w) := by
  unfold inspectCall
  split
  · exact readOnly_failed _
  · exact readOnly_failed _
  · refine ⟨rfl, fun _ h => ?_⟩
    cases h
    exact ⟨hcall, ‹readState text p (w request.clientReference) = .ok _›⟩

/-- A `restore` whose browser gets as far as reading the portal. -/
theorem restoreCall_eq (p : SC05Portal) (reference : String) (expected target : PortalState)
    (scenario : SC05Scenario) (phase : Phase) {i : Option Interruption} (w : Simulator)
    (hi : ∀ f, i ≠ some ⟨false, f⟩) :
    restoreCall text p reference expected target scenario phase i w =
      match readState text p (w reference) with
      | .error f => (.failed false f, w)
      | .ok current =>
        if !statesEqual current expected then (.failed false .conflict, w)
        else match restoreAction p target with
          | .error f => (.failed false f, w)
          | .ok action =>
            match applyCall text p reference action scenario phase i w with
            | (.returned evidence, w') =>
              if statesEqual evidence.state target then (.returned evidence, w')
              else (.failed (w reference != w' reference) .conflict, w')
            | failed => failed := by
  unfold restoreCall
  rcases readState text p (w reference) with f | current
  · rcases i with _ | ⟨_ | _, f'⟩
    · rfl
    · exact absurd rfl (hi f')
    · rfl
  · rcases i with _ | ⟨_ | _, f'⟩
    · rfl
    · exact absurd rfl (hi f')
    · rfl

theorem restoreCall_cases (p : SC05Portal) (request : GatewayRequest) (i : Option Interruption)
    (w : Simulator) {expected target : PortalState} (hcall : request.call = .restore expected target) :
    let r := restoreCall text p request.clientReference expected target request.scenario
      request.phase i w
    ReadOnly text p request w r ∨ Operated text p request w r := by
  intro r
  by_cases hi : ∃ f, i = some ⟨false, f⟩
  · obtain ⟨f, rfl⟩ := hi
    exact .inl (readOnly_failed f)
  push Not at hi
  have hr : r = _ := restoreCall_eq p request.clientReference expected target request.scenario
    request.phase w hi
  split at hr
  · rw [hr]; exact .inl (readOnly_failed _)
  split at hr
  · rw [hr]; exact .inl (readOnly_failed _)
  split at hr
  · rw [hr]; exact .inl (readOnly_failed _)
  rename_i action haction
  rcases applyCall_cases p request.clientReference action request.scenario request.phase i w with
    ⟨f, h⟩ | ⟨c, c', hw, hs, h2, h1⟩
  · rw [hr, h]; exact .inl (readOnly_failed f)
  · refine .inr ⟨c, c', action, hw, ⟨hs, .inr ⟨expected, target, hcall, haction⟩⟩, ?_, ?_⟩
    · rw [hr]
      split
      · rename_i happly
        rw [happly] at h2
        split <;> exact h2
      · exact h2
    · intro evidence hev
      rw [hr] at hev
      split at hev
      · rename_i ev w' happly
        split at hev
        · cases hev
          exact h1 evidence (by rw [happly])
        · cases hev
      · exact h1 evidence hev

/-- **A call reads the rows of its client, or submits a form for them.** -/
theorem simulatorPortal_cases (p : SC05Portal) (request : GatewayRequest) (i : Option Interruption)
    (w : Simulator) : ReadOnly text p request w (simulatorPortal text p request i w) ∨
      Operated text p request w (simulatorPortal text p request i w) := by
  unfold simulatorPortal
  split
  · rename_i hcall
    exact .inl (inspectCall_cases p request i w hcall)
  · rename_i action hcall
    rcases applyCall_cases p request.clientReference action request.scenario request.phase i w with
      ⟨f, h⟩ | ⟨c, c', hw, hs, h2, h1⟩
    · rw [h]; exact .inl (readOnly_failed f)
    · exact .inr ⟨c, c', action, hw, ⟨hs, .inl hcall⟩, h2, h1⟩
  · rename_i expected target hcall
    exact restoreCall_cases p request i w hcall

end Calls

section Changes

variable {ts₀ : List SimulatorTask} {c c' : SimulatorClient}

theorem OrdinaryClient.legible (hb : Browser text) (h : OrdinaryClient text c) :
    ∀ t ∈ c.tasks, Legible text t := fun t ht =>
  ⟨hb.slug _ (h.slugs t ht), (h.slugs t ht).1, hb.visible _ (h.assignees t ht).1⟩

theorem BlockedFrom.legible (hb : Browser text) {ts : List SimulatorTask}
    (h : BlockedFrom text ts₀ ts) : ∀ t ∈ ts, Legible text t := by
  intro t ht
  refine ⟨hb.slug _ (h.slugs t ht), (h.slugs t ht).1, ?_⟩
  by_cases hclosed : ∀ t₀ ∈ ts₀, t₀.reference = t.reference → t₀.isOpen = false
  · exact hb.visible _ (h.others t ht hclosed).1
  · push Not at hclosed
    obtain ⟨t₀, ht₀, hr, ho⟩ := hclosed
    rw [(h.opened t ht t₀ ht₀ hr (by simpa using ho)).1, hb.marker]
    exact blockedTaskOwner_slug.1

/-- A task of the snapshot is the one with its reference. -/
theorem eq_of_reference {ts : List SimulatorTask} (h : (ts.map SimulatorTask.reference).Nodup)
    {t t' : SimulatorTask} (ht : t ∈ ts) (ht' : t' ∈ ts) (hr : t.reference = t'.reference) : t = t' :=
  List.inj_on_of_nodup_map h ht ht' hr

/-- What a block leaves of the tasks of an ordinary client. -/
theorem blockedFrom_block (hb : Browser text) (h : OrdinaryClient text c) :
    BlockedFrom text c.tasks (c.tasks.map SimulatorTask.block) := by
  have hmarked : ∀ t ∈ c.tasks, t.marked = false := fun t ht => (h.assignees t ht).unmarked hb
  refine ⟨?_, ?_, ?_, ?_, ?_⟩
  · rw [List.map_map]
    have : SimulatorTask.reference ∘ SimulatorTask.block = SimulatorTask.reference :=
      funext block_reference
    rw [this]; exact h.unique
  · intro t ht
    obtain ⟨t', ht', rfl⟩ := List.mem_map.1 ht
    rw [block_reference]; exact h.slugs t' ht'
  · intro t₀ ht₀
    exact ⟨t₀.block, List.mem_map_of_mem ht₀, block_reference t₀⟩
  · intro t ht t₀ ht₀ hr ho
    obtain ⟨t', ht', rfl⟩ := List.mem_map.1 ht
    obtain rfl := eq_of_reference h.unique ht₀ ht' (hr.trans (block_reference t'))
    rw [block_of_open ho (hmarked t₀ ht₀)]
    exact ⟨rfl, rfl⟩
  · intro t ht hclosed
    obtain ⟨t', ht', rfl⟩ := List.mem_map.1 ht
    have ho := hclosed t' ht' (block_reference t').symm
    rw [block_of_settled (.inl ho)]
    exact h.assignees t' ht'

/-- Rows rewritten in place, with their references and assignees. -/
theorem blockedFrom_map {ts : List SimulatorTask} (h : BlockedFrom text ts₀ ts)
    {f : SimulatorTask → SimulatorTask} (hr : ∀ t, (f t).reference = t.reference)
    (ha : ∀ t, (f t).assignee = t.assignee)
    (hp : ∀ t, (f t).previousAssignee = t.previousAssignee) :
    BlockedFrom text ts₀ (ts.map f) := by
  refine ⟨?_, ?_, ?_, ?_, ?_⟩
  · rw [List.map_map]
    have : SimulatorTask.reference ∘ f = SimulatorTask.reference := funext hr
    rw [this]; exact h.unique
  · intro t ht
    obtain ⟨t', ht', rfl⟩ := List.mem_map.1 ht
    rw [hr]; exact h.slugs t' ht'
  · intro t₀ ht₀
    obtain ⟨t, ht, htr⟩ := h.kept t₀ ht₀
    exact ⟨f t, List.mem_map_of_mem ht, (hr t).trans htr⟩
  · intro t ht t₀ ht₀ htr ho
    obtain ⟨t', ht', rfl⟩ := List.mem_map.1 ht
    rw [ha, hp]; exact h.opened t' ht' t₀ ht₀ (htr.trans (hr t')) ho
  · intro t ht hclosed
    obtain ⟨t', ht', rfl⟩ := List.mem_map.1 ht
    rw [ha]; exact h.others t' ht' fun t₀ ht₀ htr => hclosed t₀ ht₀ (htr.trans (hr t').symm)

/-- A new row that the block has not seen, and that is not its own. -/
theorem blockedFrom_append {ts : List SimulatorTask} (h : BlockedFrom text ts₀ ts)
    {task : SimulatorTask} (hslug : IsSlug task.reference)
    (hfresh : ∀ t ∈ ts, t.reference ≠ task.reference) (hassignee : OrdinaryAssignee text task.assignee) :
    BlockedFrom text ts₀ (ts ++ [task]) := by
  have hmem : ∀ t, t ∈ ts ++ [task] ↔ t ∈ ts ∨ t = task := by intro t; simp
  have hnew : ∀ t₀ ∈ ts₀, t₀.reference ≠ task.reference := by
    intro t₀ ht₀ hr
    obtain ⟨t, ht, htr⟩ := h.kept t₀ ht₀
    exact hfresh t ht (htr.trans hr)
  refine ⟨?_, ?_, ?_, ?_, ?_⟩
  · rw [List.map_append, List.nodup_append]
    refine ⟨h.unique, by simp, ?_⟩
    intro r hr r' hr'
    obtain ⟨t, ht, rfl⟩ := List.mem_map.1 hr
    simp only [List.map_cons, List.map_nil, List.mem_singleton] at hr'
    rw [hr']; exact hfresh t ht
  · intro t ht
    rcases (hmem t).1 ht with ht | rfl
    · exact h.slugs t ht
    · exact hslug
  · intro t₀ ht₀
    obtain ⟨t, ht, htr⟩ := h.kept t₀ ht₀
    exact ⟨t, (hmem t).2 (.inl ht), htr⟩
  · intro t ht t₀ ht₀ hr ho
    rcases (hmem t).1 ht with ht | rfl
    · exact h.opened t ht t₀ ht₀ hr ho
    · exact absurd hr (hnew t₀ ht₀)
  · intro t ht hclosed
    rcases (hmem t).1 ht with ht | rfl
    · exact h.others t ht hclosed
    · exact hassignee

/-- A change from outside keeps what a block has left. -/
theorem blockedFrom_change (h : BlockedFrom text ts₀ c.tasks) {change : TaskChange}
    (hok : change.Ok text c) : BlockedFrom text ts₀ (change.apply c).tasks := by
  cases change with
  | setOpen reference isOpen =>
    refine blockedFrom_map h ?_ ?_ ?_ <;> (intro t; split <;> rfl)
  | create task =>
    obtain ⟨hslug, hfresh, hassignee⟩ := hok
    exact blockedFrom_append h hslug hfresh hassignee

/-- **Changes from outside keep what a block has left**, and do not reach the accounts. -/
theorem blockedFrom_changed (hch : Changed text c c') (h : BlockedFrom text ts₀ c.tasks) :
    BlockedFrom text ts₀ c'.tasks ∧ c'.isActive = c.isActive ∧ c'.files = c.files ∧
      c'.accounting = c.accounting := by
  induction hch with
  | refl => exact ⟨h, rfl, rfl, rfl⟩
  | tail _ hstep ih =>
    obtain ⟨change, hok, rfl⟩ := hstep
    obtain ⟨h1, h2, h3, h4⟩ := ih
    refine ⟨blockedFrom_change h1 hok, ?_⟩
    cases change <;> exact ⟨h2, h3, h4⟩

/-- What an unblock leaves of one task. -/
theorem taskUnblocked (hb : Browser text) (_hc : OrdinaryClient text c) {ts : List SimulatorTask}
    (h : BlockedFrom text c.tasks ts) {t : SimulatorTask} (ht : t ∈ ts) :
    TaskUnblocked c t t.unblock := by
  refine ⟨unblock_reference t, unblock_isOpen t, fun t₀ ht₀ hr ho => ?_, fun hclosed => ?_⟩
  · obtain ⟨hmark, hprev⟩ := h.opened t ht t₀ ht₀ hr ho
    rw [unblock_of_marked (marked_iff.2 hmark)]
    exact hprev
  · rw [unblock_of_unmarked ((h.others t ht hclosed).unmarked hb)]

/-- After an unblock no task carries the marker any more. -/
theorem ordinary_unblock (hb : Browser text) (hc : OrdinaryClient text c) {ts : List SimulatorTask}
    (h : BlockedFrom text c.tasks ts) : ∀ t ∈ ts, OrdinaryAssignee text t.unblock.assignee := by
  intro t ht
  have hu := taskUnblocked hb hc h ht
  by_cases hclosed : ∀ t₀ ∈ c.tasks, t₀.reference = t.reference → t₀.isOpen = false
  · rw [hu.other hclosed]; exact h.others t ht hclosed
  · push Not at hclosed
    obtain ⟨t₀, ht₀, hr, ho⟩ := hclosed
    rw [hu.blocked t₀ ht₀ hr (by simpa using ho)]
    exact hc.assignees t₀ ht₀

end Changes

section Restore

/-- A captured state of the tasks is restored with a block if some task was open and every open one
carried the marker. -/
theorem restoreAction_shownTasks (rows : List TaskRow) :
    restoreAction .tasks (shownTasks true rows) = .ok
      (if (∃ row ∈ rows, row.isOpen = true) ∧
          ∀ row ∈ rows, row.isOpen = true → row.assignee = blockedTaskOwner then .block
        else .unblock) := by
  have hone : ∀ row : TaskRow,
      openTask? row.value = if row.isOpen then some row.current.task else none := by
    rintro ⟨r, a, b⟩
    cases b <;> simp [openTask?, TaskRow.value, Dict.isTrue, Dict.get, List.lookup_cons, Value.bool?,
      TaskRow.current]
  have hopen : (rows.map TaskRow.value).filterMap openTask? =
      (rows.filter TaskRow.isOpen).map fun row => row.current.task := by
    induction rows with
    | nil => rfl
    | cons row rows ih =>
      rw [List.map_cons, List.filterMap_cons, hone, List.filter_cons]
      cases row.isOpen
      · exact ih
      · rw [if_pos rfl, if_pos rfl, List.map_cons, ih]
  have hassignee : ∀ row : TaskRow,
      (Dict.get row.current.task "assignee").eq (.str blockedTaskOwner) =
        (row.assignee == blockedTaskOwner) := by
    intro row
    simp [TaskRow.current, Dict.get, List.lookup_cons, Value.eq]
  have hactive : Dict.isTrue (shownTasks true rows) "client_active" = true := by
    simp [shownTasks, Dict.isTrue, Dict.get, Value.bool?]
  have htasks : (Dict.get (shownTasks true rows) "tasks").list? = some (rows.map TaskRow.value) := by
    simp [shownTasks, Dict.get, List.lookup_cons, Value.list?]
  simp only [restoreAction, targetRepresentsBlockedTasks, hactive, htasks, hopen, Bool.not_true,
    Bool.false_eq_true, if_false, bind, Except.bind, pure, Except.pure]
  congr 1
  refine if_congr ?_ rfl rfl
  simp only [Bool.and_eq_true, Bool.not_eq_true', List.isEmpty_eq_false_iff, ne_eq, List.map_eq_nil_iff,
    List.filter_eq_nil_iff, not_forall, not_not, List.all_map, List.all_eq_true,
    List.mem_filter, Function.comp_apply, hassignee, beq_iff_eq, exists_prop, and_imp]

theorem restoreAction_shownAccount {p : SC05Portal} (hp : p ≠ .tasks) (blocked : Bool) :
    restoreAction p (shownAccount blocked) = .ok (if blocked then .block else .unblock) := by
  cases p with
  | tasks => exact absurd rfl hp
  | files | accounting =>
    simp [restoreAction, shownAccount, Dict.get, Value.bool?]

end Restore

end SheepContabil
