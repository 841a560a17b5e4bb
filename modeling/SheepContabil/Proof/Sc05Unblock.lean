import SheepContabil.Proof.Sc05AloneSaga

/-!
# A block, and the unblock that undoes it

An unblock takes each portal to the state it asks for: the assignees of the client's
snapshot, and the accounts as the latest block found them. Its compensation has only the
two forms of the tasks portal to restore the tasks with.

* `undoing_tasks`, `undoing_account`: the form of a portal leaves what the step asks for.
* `reversal_tasks`, `reversal_account`: what the compensation of the step leaves.
* `unblock_ended`: the delivery of an unblock after a block.
* `cycle_roundTrip`: block and unblock, any number of times.
-/

namespace SheepContabil

open Conc Conc.Prog

variable {text : String → String} {settings : Settings} {clean : Prop} {c : SimulatorClient}

section Forms

variable {scenario : SC05Scenario} {prior : Option PortalState} {c₀ : SimulatorClient}

/-- The desired state of an account is the one it had before the block. -/
theorem undoing_account {p : SC05Portal} (hp : p ≠ .tasks) (snapshot : PortalState) {b : Bool}
    (hblocked : c.account p = some true) :
    Undoing text snapshot (some (shownAccount b)) p c (c.setAccount p b) (shownAccount true)
      (shownAccount b) := by
  have hset : (c.setAccount p b).account p = some b := by
    cases p with
    | tasks => exact absurd rfl hp
    | files | accounting => rfl
  refine ⟨readState_account hp hblocked, ?_, ?_⟩
  · cases p with
    | tasks => exact absurd rfl hp
    | files | accounting =>
      simp [desiredState, priorBlockState, shownAccount, Py.Dict.get, Py.Value.bool?]
  cases b with
  | true =>
    -- the account was blocked before the block: the step has nothing to change
    refine .inl ⟨by rw [shownAccount_eq]; rfl, ?_⟩
    cases p with
    | tasks => exact absurd rfl hp
    | files | accounting =>
      obtain ⟨active, files, accounting, tasks⟩ := c
      simp only [SimulatorClient.account] at hblocked
      simp [SimulatorClient.setAccount, hblocked]
  | false =>
    refine .inr ⟨by rw [shownAccount_eq]; rfl, ?_, fun scenario hfault => ?_, shownAccount false,
      readState_account hp hset, by rw [shownAccount_eq]; rfl⟩
    · cases p with
      | tasks => exact absurd rfl hp
      | files | accounting => rfl
    · cases p with
      | tasks => exact absurd rfl hp
      | files | accounting =>
        simp only [submit, hblocked, hfault]
        rfl

/-- The compensation blocks an account again. -/
theorem reversal_account {p : SC05Portal} (hp : p ≠ .tasks)
    (hfault : scenarioFault p scenario .compensation = none) {b : Bool}
    (hblocked : c.account p = some true) :
    Reversal text scenario p (shownAccount true) (shownAccount b) c (c.setAccount p b) c true := by
  have hset : (c.setAccount p b).account p = some b := by
    cases p with
    | tasks => exact absurd rfl hp
    | files | accounting => rfl
  have hself : ∀ a, statesEqual (shownAccount a) (shownAccount a) = true := fun a => by
    rw [shownAccount_eq]; simp
  refine ⟨fun s hs => ⟨_, readState_account hp hblocked, .inl ⟨by rw [hs.1]; exact hself true, rfl, rfl⟩⟩,
    fun s hs => ⟨_, readState_account hp hset, ?_⟩⟩
  have hback : (c.setAccount p b).setAccount p true = c := by
    cases p with
    | tasks => exact absurd rfl hp
    | files | accounting =>
      obtain ⟨active, files, accounting, tasks⟩ := c
      simp only [SimulatorClient.account] at hblocked
      simp [SimulatorClient.setAccount, hblocked]
  rw [hs.1, hs.2]
  cases b with
  | true =>
    have hsame : c.setAccount p true = c := by
      cases p with
      | tasks => exact absurd rfl hp
      | files | accounting =>
        obtain ⟨active, files, accounting, tasks⟩ := c
        simp only [SimulatorClient.account] at hblocked
        simp [SimulatorClient.setAccount, hblocked]
    exact .inl ⟨hself true, hsame.symm, rfl⟩
  | false =>
    refine .inr ⟨by rw [shownAccount_eq]; rfl, hself false, hself false, .block, shownAccount true,
      restoreAction_shownAccount hp true, ?_, readState_account hp hblocked, (hself true).symm⟩
    cases p with
    | tasks => exact absurd rfl hp
    | files | accounting =>
      simp only [submit, hset, hfault]
      exact congrArg Except.ok hback

/-- The tasks that the compensation of an unblock leaves. It is a block if some task was open and
every open one carried the marker. -/
def compensatedTasks (ts : List SimulatorTask) : List SimulatorTask :=
  if (∃ t ∈ ts, t.isOpen = true) ∧ ∀ t ∈ ts, t.isOpen = true → t.marked = true then
    (ts.map SimulatorTask.unblock).map SimulatorTask.block
  else ts.map SimulatorTask.unblock

section Tasks

variable {ts₀ ts : List SimulatorTask}

/-- A page shows the marker for the tasks that carry it. -/
theorem BlockedFrom.shows_marker (hb : Browser text) (h : BlockedFrom text ts₀ ts)
    {t : SimulatorTask} (ht : t ∈ ts) : text t.assignee = blockedTaskOwner ↔ t.marked = true := by
  refine ⟨fun hshown => ?_, fun hmarked => by rw [marked_iff.1 hmarked, hb.marker]⟩
  by_cases hclosed : ∀ t₀ ∈ ts₀, t₀.reference = t.reference → t₀.isOpen = false
  · exact absurd hshown (h.others t ht hclosed).2
  · push Not at hclosed
    obtain ⟨t₀, ht₀, hr, ho⟩ := hclosed
    exact marked_iff.2 (h.opened t ht t₀ ht₀ hr (by simpa using ho)).1

/-- A page shows an unblocked task as before if it carried no marker. -/
theorem rowOf_unblock_eq (hb : Browser text) (hc₀ : OrdinaryClient text c₀)
    (h : BlockedFrom text c₀.tasks ts) {t : SimulatorTask} (ht : t ∈ ts) :
    rowOf text t.unblock = rowOf text t ↔ t.marked = false := by
  refine ⟨fun heq => ?_, fun hno => by rw [unblock_of_unmarked hno]⟩
  by_contra hmarked
  have hshown : text t.unblock.assignee = text t.assignee := congrArg TaskRow.assignee heq
  rw [(h.shows_marker hb ht).2 (by simpa using hmarked)] at hshown
  exact (ordinary_unblock hb hc₀ h t ht).2 hshown

/-- A page shows a task that has been unblocked and blocked again as before if it was open just when
it carried the marker. -/
theorem rowOf_reblock_eq (hb : Browser text) (hc₀ : OrdinaryClient text c₀)
    (h : BlockedFrom text c₀.tasks ts) {t : SimulatorTask} (ht : t ∈ ts) :
    rowOf text t.unblock.block = rowOf text t ↔ t.marked = t.isOpen := by
  have hunmarked := (ordinary_unblock hb hc₀ h t ht).unmarked hb
  cases hopen : t.isOpen with
  | false =>
    rw [block_of_settled (.inl ((unblock_isOpen t).trans hopen))]
    exact rowOf_unblock_eq hb hc₀ h ht
  | true =>
    have hblock := block_of_open ((unblock_isOpen t).trans hopen) hunmarked
    have hrow : rowOf text t.unblock.block = ⟨t.reference, blockedTaskOwner, true⟩ := by
      rw [hblock]
      simp only [rowOf, hb.marker, unblock_isOpen, hopen, unblock_reference]
    rw [hrow]
    refine ⟨fun heq => (h.shows_marker hb ht).1 (congrArg TaskRow.assignee heq).symm, fun hm => ?_⟩
    rw [rowOf, (h.shows_marker hb ht).2 hm, hopen]

theorem rows_map_eq {f : SimulatorTask → SimulatorTask} (hf : ∀ t, (f t).reference = t.reference) :
    (inOrder (ts.map f)).map (rowOf text) = (inOrder ts).map (rowOf text) ↔
      ∀ t ∈ ts, rowOf text (f t) = rowOf text t := by
  rw [inOrder_map ts hf, List.map_map, List.map_inj_left]
  exact ⟨fun h t ht => h t (mem_inOrder.2 ht), fun h t ht => h t (mem_inOrder.1 ht)⟩

/-- **The compensation of the tasks step** restores the restorable tasks. -/
theorem reversal_tasks (hb : Browser text) (hc₀ : OrdinaryClient text c₀)
    (h : BlockedFrom text c₀.tasks c.tasks) (hactive : c.isActive = true) (hne : c.tasks ≠ [])
    (hfault : scenarioFault .tasks scenario .compensation = none) :
    Reversal text scenario .tasks (shownTasks true ((inOrder c.tasks).map (rowOf text)))
      (shownTasks true ((inOrder (c.tasks.map SimulatorTask.unblock)).map (rowOf text))) c
      { c with tasks := c.tasks.map SimulatorTask.unblock }
      { c with tasks := compensatedTasks c.tasks } (decide (Restorable c.tasks)) := by
  have hread : readState text .tasks (some c) =
      .ok (shownTasks true ((inOrder c.tasks).map (rowOf text))) := by
    rw [readState_tasks hne (h.legible hb), hactive]
  have hself : ∀ rows, statesEqual (shownTasks true rows) (shownTasks true rows) = true := fun rows => by
    rw [shownTasks_eq]; simp
  -- what the page shows of tasks that are unblocked, or blocked again
  have hafter : ∀ f : SimulatorTask → SimulatorTask, (∀ t, (f t).reference = t.reference) →
      (∀ t ∈ c.tasks, text (f t).assignee ≠ "") →
      readState text .tasks (some { c with tasks := c.tasks.map f }) =
        .ok (shownTasks true ((inOrder (c.tasks.map f)).map (rowOf text))) := by
    intro f hf hvisible
    rw [readState_tasks (by simpa using hne), hactive]
    intro t' ht'
    obtain ⟨t, ht, rfl⟩ := List.mem_map.1 ht'
    have hslug := h.slugs t ht
    exact ⟨by rw [hf]; exact hb.slug _ hslug, by rw [hf]; exact hslug.1, hvisible t ht⟩
  have hord := ordinary_unblock hb hc₀ h
  have hunblocked := hafter SimulatorTask.unblock unblock_reference fun t ht => hb.visible _ (hord t ht).1
  have hreblocked := hafter (fun t => t.unblock.block)
    (fun t => (block_reference _).trans (unblock_reference t)) fun t ht => by
      unfold SimulatorTask.block
      split
      · exact hb.visible _ (hord t ht).1
      · show text blockedTaskOwner ≠ ""
        rw [hb.marker]; exact blockedTaskOwner_slug.1
  have hsame : (inOrder (c.tasks.map SimulatorTask.unblock)).map (rowOf text) =
      (inOrder c.tasks).map (rowOf text) ↔ ∀ t ∈ c.tasks, t.marked = false := by
    rw [rows_map_eq unblock_reference]
    exact forall₂_congr fun t ht => rowOf_unblock_eq hb hc₀ h ht
  have hagain : (inOrder (c.tasks.map fun t => t.unblock.block)).map (rowOf text) =
      (inOrder c.tasks).map (rowOf text) ↔ ∀ t ∈ c.tasks, t.marked = t.isOpen := by
    rw [rows_map_eq fun t => (block_reference _).trans (unblock_reference t)]
    exact forall₂_congr fun t ht => rowOf_reblock_eq hb hc₀ h ht
  refine ⟨fun s hs => ⟨_, hread, .inl ⟨by rw [hs.1]; exact hself _, rfl, rfl⟩⟩,
    fun s hs => ⟨_, hunblocked, ?_⟩⟩
  rw [hs.1, hs.2]
  by_cases hnone : ∀ t ∈ c.tasks, t.marked = false
  · -- the unblock has changed nothing
    refine .inl ⟨by rw [hsame.2 hnone]; exact hself _, ?_, decide_eq_true (.inl hnone)⟩
    rw [compensatedTasks, if_neg]
    rintro ⟨⟨t, ht, hopen⟩, hall⟩
    exact absurd (hall t ht hopen) (by rw [hnone t ht]; decide)
  refine .inr ⟨?_, hself _, hself _, ?_⟩
  · rw [shownTasks_eq, decide_eq_false fun heq => hnone (hsame.1 heq)]; rfl
  have hrestore := restoreAction_shownTasks ((inOrder c.tasks).map (rowOf text))
  have hcond : ((∃ row ∈ (inOrder c.tasks).map (rowOf text), row.isOpen = true) ∧
      ∀ row ∈ (inOrder c.tasks).map (rowOf text), row.isOpen = true →
        row.assignee = blockedTaskOwner) ↔
      (∃ t ∈ c.tasks, t.isOpen = true) ∧ ∀ t ∈ c.tasks, t.isOpen = true → t.marked = true := by
    simp only [List.mem_map, mem_inOrder, exists_exists_and_eq_and, forall_exists_index, and_imp,
      forall_apply_eq_imp_iff₂]
    refine and_congr Iff.rfl (forall₂_congr fun t ht => imp_congr Iff.rfl (h.shows_marker hb ht))
  have hempty : (c.tasks.map SimulatorTask.unblock).isEmpty = false :=
    List.isEmpty_eq_false_iff.2 (by simpa using hne)
  by_cases hblock : (∃ t ∈ c.tasks, t.isOpen = true) ∧
      ∀ t ∈ c.tasks, t.isOpen = true → t.marked = true
  · rw [if_pos (hcond.2 hblock)] at hrestore
    have hmap : compensatedTasks c.tasks = c.tasks.map fun t => t.unblock.block := by
      rw [compensatedTasks, if_pos hblock, List.map_map]; rfl
    rw [hmap]
    refine ⟨_, _, hrestore, ?_, hreblocked, ?_⟩
    · simp only [submit, hempty, Bool.false_eq_true, if_false, hfault, List.map_map]
      rfl
    · rw [shownTasks_eq, beq_self_eq_true, Bool.true_and, decide_eq_decide, hagain]
      exact or_iff_right hnone
  · rw [if_neg (hcond.not.2 hblock)] at hrestore
    have hmap : compensatedTasks c.tasks = c.tasks.map SimulatorTask.unblock := by
      rw [compensatedTasks, if_neg hblock]
    rw [hmap]
    have hunmarked : ∀ t ∈ c.tasks.map SimulatorTask.unblock, t.marked = false := by
      intro t' ht'
      obtain ⟨t, ht, rfl⟩ := List.mem_map.1 ht'
      exact (hord t ht).unmarked hb
    refine ⟨_, _, hrestore, ?_, hunblocked, ?_⟩
    · have hform : ((c.tasks.map SimulatorTask.unblock).any fun t =>
          t.marked && Py.isBlank t.previousAssignee) = false := by
        rw [List.any_eq_false]
        intro t ht
        simp [hunmarked t ht]
      simp only [submit, hempty, Bool.false_eq_true, if_false, hfault, hform,
        unblock_map_of_unmarked hunmarked]
    · rw [shownTasks_eq, beq_self_eq_true, Bool.true_and, decide_eq_decide, hsame]
      refine ⟨fun hr => hr.resolve_right fun hall => hblock ?_, .inl⟩
      -- a task that carries the marker would be open, and every open one carries it
      push Not at hnone
      obtain ⟨t, ht, hmarked⟩ := hnone
      have hmarked' : t.marked = true := by simpa using hmarked
      exact ⟨⟨t, ht, (hall t ht).symm.trans hmarked'⟩, fun t ht hopen => (hall t ht).trans hopen⟩

/-- The desired state of the tasks is what the form of an unblock leaves. -/
theorem undoing_tasks (hb : Browser text) (hc₀ : OrdinaryClient text c₀)
    (h : BlockedFrom text c₀.tasks c.tasks) (hactive : c.isActive = true) (hne : c.tasks ≠ []) :
    Undoing text (shownTasks true ((inOrder c₀.tasks).map (rowOf text))) prior .tasks c
      { c with tasks := c.tasks.map SimulatorTask.unblock }
      (shownTasks true ((inOrder c.tasks).map (rowOf text)))
      (shownTasks true ((inOrder (c.tasks.map SimulatorTask.unblock)).map (rowOf text))) := by
  set c₁ : SimulatorClient := { c with tasks := c.tasks.map SimulatorTask.unblock } with hc₁
  have hord := ordinary_unblock hb hc₀ h
  have hread := readState_tasks hne (h.legible hb)
  have hread₁ : readState text .tasks (some c₁) =
      .ok (shownTasks c₁.isActive ((inOrder c₁.tasks).map (rowOf text))) := by
    refine readState_tasks (by simpa [hc₁] using hne) fun t' ht' => ?_
    obtain ⟨t, ht, rfl⟩ := List.mem_map.1 ht'
    have hslug := h.slugs t ht
    refine ⟨?_, ?_, hb.visible _ (hord t ht).1⟩
    · rw [unblock_reference]; exact hb.slug _ hslug
    · rw [unblock_reference]; exact hslug.1
  rw [hactive] at hread
  refine ⟨hread, taskUnblockState_ok hb hc₀.unique hc₀.slugs h, ?_⟩
  by_cases hrows : (inOrder c.tasks).map (rowOf text) =
      (inOrder (c.tasks.map SimulatorTask.unblock)).map (rowOf text)
  · refine .inl ⟨by rw [shownTasks_eq, decide_eq_true hrows]; rfl, ?_⟩
    -- rows that look unblocked carry no marker
    have hunmarked := (rows_map_eq unblock_reference).1 hrows.symm
    rw [hc₁, unblock_map_of_unmarked fun t ht => (rowOf_unblock_eq hb hc₀ h ht).1 (hunmarked t ht)]
  · refine .inr ⟨by rw [shownTasks_eq, decide_eq_false hrows]; rfl, rfl, fun scenario hfault => ?_, _,
      hread₁, ?_⟩
    · have hform : (c.tasks.any fun t => t.marked && Py.isBlank t.previousAssignee) = false := by
        rw [List.any_eq_false]
        intro t ht hbad
        rw [Bool.and_eq_true] at hbad
        have hblank := (hord t ht).1
        rw [unblock_of_marked hbad.1] at hblank
        exact absurd (hbad.2.symm.trans hblank) (by decide)
      have hempty : c.tasks.isEmpty = false := List.isEmpty_eq_false_iff.2 hne
      simp [submit, hempty, hfault, hform, hc₁]
    · rw [shownTasks_eq, show c₁.isActive = true from hactive, decide_eq_true rfl]; rfl

end Tasks

end Forms

section Cycle

variable {client : ClientId} {s s₁ s₂ : SC05State Simulator} {c₀ : SimulatorClient}

/-- The rows of a client after an undisturbed unblock, `c₀` being those before the block. -/
def SimulatorClient.unblocked (c₀ c : SimulatorClient) : SimulatorClient :=
  { c with files := c₀.files, accounting := c₀.accounting,
           tasks := c.tasks.map SimulatorTask.unblock }

theorem roundTrip_unblocked (hb : Browser text) (hc₀ : OrdinaryClient text c₀)
    (h : BlockedFrom text c₀.tasks c.tasks) : RoundTrip c₀ c₀.blocked c (c₀.unblocked c) where
  block := by
    rw [SimulatorClient.blocked, List.forall₂_map_right_iff, List.forall₂_same]
    intro t ht
    refine ⟨block_reference t, ?_, fun hclosed => by rw [block_of_settled (.inl hclosed)]⟩
    unfold SimulatorTask.block
    split <;> rfl
  unblock := by
    rw [SimulatorClient.unblocked, List.forall₂_map_right_iff, List.forall₂_same]
    exact fun t ht => taskUnblocked hb hc₀ h ht
  kept t₀ ht₀ := by
    obtain ⟨t, ht, hr⟩ := h.kept t₀ ht₀
    exact ⟨t.unblock, List.mem_map_of_mem ht, (unblock_reference t).trans hr⟩
  files := rfl
  accounting := rfl

theorem ordinary_unblocked (hb : Browser text) (hc₀ : OrdinaryClient text c₀)
    (h : BlockedFrom text c₀.tasks c.tasks) (hactive : c.isActive = true) :
    OrdinaryClient text (c₀.unblocked c) where
  active := hactive
  files := hc₀.files
  accounting := hc₀.accounting
  unique := by
    have hcomp : SimulatorTask.reference ∘ SimulatorTask.unblock = SimulatorTask.reference :=
      funext unblock_reference
    show ((c.tasks.map SimulatorTask.unblock).map SimulatorTask.reference).Nodup
    rw [List.map_map, hcomp]; exact h.unique
  slugs t' ht' := by
    obtain ⟨t, ht, rfl⟩ := List.mem_map.1 ht'
    rw [unblock_reference]; exact h.slugs t ht
  assignees t' ht' := by
    obtain ⟨t, ht, rfl⟩ := List.mem_map.1 ht'
    exact ordinary_unblock hb hc₀ h t ht

/-- An unblock requested after the block `o`, when the rows of the client are `c`. -/
structure UnblockRequested (client : ClientId) (o : OperationId) (c : SimulatorClient)
    (s₁ : SC05State Simulator) (o' : OperationId) (scenario : SC05Scenario) (t : TaskId)
    (s₂ : SC05State Simulator) : Prop where
  requested : Requested o' s₂ t scenario c
  later : o' = s₁.operationCount
  owner : (s₂.operations o').client = client
  count : s₂.operationCount = s₁.operationCount + 1
  clients : s₂.clients = s₁.clients
  traces : s₂.traces = s₁.traces
  workers : s₂.workers = s₁.workers
  prior : ∀ p, priorOf o' s₂ p = some (s₁.step o p).beforeState

theorem BlockLeft.requested {o o' : OperationId} {c : SimulatorClient} {scenario : SC05Scenario}
    {requestKey now : ℕ} {t : TaskId} (h : BlockLeft text client o c₀ s₁)
    (created : (s₁.setRow client c).createRun client .unblock scenario requestKey now =
      (.ok (o', true), s₂)) (token : (s₂.run o').taskId = some t) :
    UnblockRequested client o c s₁ o' scenario t s₂ := by
  obtain ⟨ho', hs₂⟩ := createRun_created created
  have ho : o' = s₁.operationCount := ho'
  have hcount : s₂.operationCount = s₁.operationCount + 1 := by rw [hs₂]; rfl
  have hop : s₂.operations o' =
      { client := client, requestKey := requestKey, action := .unblock, scenario := scenario
        run := { module := .sc05, status := .queued, taskId := some s₁.nextTaskId
                 summary := AutomationRun.queuedSummary .sc05 .manual
                   ⟨SC05Action.label .unblock, ((s₁.setRow client c).clients client).name⟩
                 operation := ⟨SC05Action.label .unblock, ((s₁.setRow client c).clients client).name⟩
                 queuedAt := some now, createdAt := now } } := by
    rw [hs₂, ho']; exact Function.update_self ..
  have hearlier : s₂.operations o = s₁.operations o := by
    rw [hs₂]
    refine Function.update_of_ne ?_ ..
    show o ≠ s₁.operationCount
    rw [h.count]; exact Nat.ne_of_lt (Nat.lt_succ_self o)
  have howner : (s₂.operations o').client = client := by rw [hop]
  have htraces : s₂.traces = s₁.traces := by rw [hs₂]; rfl
  refine ⟨⟨?_, ?_, ?_, ?_, token, ?_, ?_, ?_⟩, ho, howner, hcount, ?_, htraces, ?_, ?_⟩
  · rw [hcount, ho]; exact Nat.lt_succ_self _
  · rw [hop]
  · rw [hop]; rfl
  · rw [hop]
  · intro p
    show (((s₂.operations o').steps p).view).Blank
    rw [hop]; exact ⟨rfl, rfl⟩
  · rw [htraces]; exact h.traces o' ho.ge
  · unfold SC05State.clientReference
    rw [howner, hs₂]
    exact Function.update_self ..
  · rw [hs₂]; rfl
  · rw [hs₂]; rfl
  · intro p
    have hlater : o' = o + 1 := ho.trans h.count
    unfold priorOf
    rw [howner, hlater]
    simp only [SC05State.latestBlock]
    rw [hearlier, if_pos ⟨h.owner, h.action, h.succeeded⟩]
    rfl

theorem delivery_started (text : String → String) (settings : Settings) (s : SC05State Simulator)
    (o : OperationId) (t : TaskId) (redelivered : Bool) :
    ((sc05System (simulatorPortal text) settings).next (Config.idle s)
      (.start (.deliver o (.uuid t) redelivered))).procs 0 =
        some (.deliver o (.uuid t) redelivered,
          (SC05Process.deliver o (.uuid t) redelivered).body) := rfl

/-- The moves of an undisturbed delivery. -/
theorem runOk_delivered {o : OperationId} {t : TaskId} {redelivered : Bool}
    {fates : ℕ → Fate (Option Interruption)}
    (calm : ∀ k, clean ∨ inCompensation
      ((delivered text settings s o t redelivered fates k).shared.traces o) = true →
        (fates k).IsClean) (n : ℕ) :
    (sc05System (simulatorPortal text) settings).RunOk (Admitted clean o)
      ((sc05System (simulatorPortal text) settings).next (Config.idle s)
        (.start (.deliver o (.uuid t) redelivered)))
      (System.solo 0 ((List.range' 0 n).map fates)) := by
  induction n with
  | zero => trivial
  | succ n ih =>
    rw [List.range'_1_concat, List.map_append, System.solo, List.map_append, System.RunOk.append]
    refine ⟨ih, fun m hm => ?_, trivial⟩
    simp only [Config.move?] at hm
    split at hm
    · cases hm
      intro hcalm
      rw [Nat.zero_add]
      exact calm n hcalm
    · cases hm

/-- **How the delivery of an unblock ends** that runs alone after a block, with the rows of the client
as `c`. -/
theorem unblock_ended (hb : Browser text) (hc₀ : OrdinaryClient text c₀) {o o' : OperationId}
    (h : BlockLeft text client o c₀ s₁) {c : SimulatorClient} (hchanged : Changed text c₀.blocked c)
    {scenario : SC05Scenario} (hscenario : ∀ p, scenarioFault p scenario .compensation = none)
    {t : TaskId} (hreq : UnblockRequested client o c s₁ o' scenario t s₂) (redelivered : Bool)
    {fates : ℕ → Fate (Option Interruption)}
    (calm : ∀ k, clean ∨ inCompensation
      ((delivered text settings s₂ o' t redelivered fates k).shared.traces o') = true →
        (fates k).IsClean) {n : ℕ}
    (finished : (delivered text settings s₂ o' t redelivered fates n).finished 0 = true) :
    ∃ v c', Alone o' s₂ v c' (delivered text settings s₂ o' t redelivered fates n).shared ∧
      Ended clean scenario (shownTasks true ((inOrder c.tasks).map (rowOf text))) (c₀.unblocked c)
        { c with tasks := compensatedTasks c.tasks } (decide (Restorable c.tasks)) v c' := by
  obtain ⟨hfrom, hactive, hfiles, haccounting⟩ :=
    blockedFrom_changed hchanged (blockedFrom_block hb hc₀)
  have hactive₀ : c.isActive = true := hactive.trans hc₀.active
  have hne₀ : c₀.tasks ≠ [] := tasks_ne_of_read h.snapshot
  have hne : c.tasks ≠ [] := by
    obtain ⟨t₀, ht₀⟩ := List.exists_mem_of_ne_nil _ hne₀
    obtain ⟨t, ht, -⟩ := hfrom.kept t₀ ht₀
    exact List.ne_nil_of_mem ht
  -- the snapshot of the client is what the tasks portal showed before the block
  have hsnapshot : (s₂.clients (s₂.operations o').client).taskRestoreSnapshot =
      shownTasks true ((inOrder c₀.tasks).map (rowOf text)) := by
    have hread := h.snapshot
    rw [readState_tasks hne₀ (hc₀.legible hb), hc₀.active, Except.ok.injEq] at hread
    rw [hreq.owner, hreq.clients, ← hread]
  obtain ⟨accounting, hacc⟩ := Option.isSome_iff_exists.1 hc₀.accounting
  obtain ⟨files, hfil⟩ := Option.isSome_iff_exists.1 hc₀.files
  -- the latest block is the one just done, and it captured the account as it was
  have hprior : ∀ {p : SC05Portal} {b : Bool}, p ≠ .tasks → c₀.account p = some b →
      priorOf o' s₂ p = some (shownAccount b) := by
    intro p b hp hb
    have hread := h.captured p
    rw [readState_account hp hb, Except.ok.injEq] at hread
    rw [hreq.prior, ← hread]
  have hacc₁ : ({ c with tasks := c.tasks.map SimulatorTask.unblock } : SimulatorClient).account
      .accounting = some true := haccounting
  have hfil₁ : (({ c with tasks := c.tasks.map SimulatorTask.unblock } : SimulatorClient).setAccount
      .accounting accounting).account .files = some true := hfiles
  have hc₃ : (({ c with tasks := c.tasks.map SimulatorTask.unblock } : SimulatorClient).setAccount
      .accounting accounting).setAccount .files files = c₀.unblocked c := by
    simp [SimulatorClient.setAccount, SimulatorClient.unblocked, hacc, hfil]
  have hplan : UndoPlan text o' s₂ (s₂.clients (s₂.operations o').client).taskRestoreSnapshot scenario
      (fun p => if p = .tasks then shownTasks true ((inOrder c.tasks).map (rowOf text))
        else shownAccount true)
      (fun p => match p with
        | .tasks => shownTasks true ((inOrder (c.tasks.map SimulatorTask.unblock)).map (rowOf text))
        | .accounting => shownAccount accounting
        | .files => shownAccount files)
      c { c with tasks := c.tasks.map SimulatorTask.unblock }
      (({ c with tasks := c.tasks.map SimulatorTask.unblock } : SimulatorClient).setAccount
        .accounting accounting) (c₀.unblocked c) { c with tasks := compensatedTasks c.tasks }
      (decide (Restorable c.tasks)) := by
    rw [← hc₃]
    exact
      { tasks := hsnapshot ▸ undoing_tasks hb hc₀ hfrom hactive₀ hne
        accounting := hprior (p := .accounting) (by decide) hacc ▸
          undoing_account (by decide) _ hacc₁
        files := hprior (p := .files) (by decide) hfil ▸ undoing_account (by decide) _ hfil₁
        tasksBack := reversal_tasks hb hc₀ hfrom hactive₀ hne (hscenario _)
        accountingBack := reversal_account (by decide) (hscenario _) hacc₁
        filesBack := reversal_account (by decide) (hscenario _) hfil₁ }
  obtain ⟨r, v, c', hs, hended⟩ := wp_solo _
    (delivery_started text settings s₂ o' t redelivered) (deliver_ended hreq.requested hplan)
    (runOk_delivered calm n) finished
  exact ⟨v, c', hs, hended⟩

/-- **The delivery of an unblock that nothing disturbs has succeeded when it ends**, and has undone
the block. -/
theorem unblock_delivered (hb : Browser text) (hc₀ : OrdinaryClient text c₀) {o o' : OperationId}
    (h : BlockLeft text client o c₀ s₁) {c : SimulatorClient} (hchanged : Changed text c₀.blocked c)
    {t : TaskId} (hreq : UnblockRequested client o c s₁ o' .happyPath t s₂) (redelivered : Bool)
    {fates : ℕ → Fate (Option Interruption)} (clean : ∀ k, (fates k).IsClean) {n : ℕ}
    (finished : (delivered text settings s₂ o' t redelivered fates n).finished 0 = true) :
    ∃ v, Alone o' s₂ v (c₀.unblocked c) (delivered text settings s₂ o' t redelivered fates n).shared ∧
      v.status = .succeeded := by
  obtain ⟨v, c', hs, ⟨hsucc, -, rfl⟩ | ⟨hno | ⟨p, hfault⟩, -⟩⟩ : ∃ v c',
      Alone o' s₂ v c' (delivered text settings s₂ o' t redelivered fates n).shared ∧
        Ended True .happyPath (shownTasks true ((inOrder c.tasks).map (rowOf text))) (c₀.unblocked c)
          { c with tasks := compensatedTasks c.tasks } (decide (Restorable c.tasks)) v c' :=
    unblock_ended hb hc₀ h hchanged (fun _ => rfl) hreq redelivered (fun k _ => clean k) finished
  · exact ⟨v, hs, hsucc⟩
  · exact absurd trivial hno
  · exact absurd rfl hfault

/-- A client is ordinary again after a cycle. -/
theorem unblock_ready (hb : Browser text) (hc₀ : OrdinaryClient text c₀) {o o' : OperationId}
    (h : BlockLeft text client o c₀ s₁) {c : SimulatorClient} (hchanged : Changed text c₀.blocked c)
    {scenario : SC05Scenario} {t : TaskId}
    (hreq : UnblockRequested client o c s₁ o' scenario t s₂) {v : SagaView}
    (hs : Alone o' s₂ v (c₀.unblocked c) s) :
    s.row client = some (c₀.unblocked c) ∧ Ready text client s := by
  obtain ⟨hfrom, hactive, -, -⟩ := blockedFrom_changed hchanged (blockedFrom_block hb hc₀)
  have hrow : s.row client = some (c₀.unblocked c) := by
    have hrow := hs.row
    unfold SC05State.clientReference at hrow
    rw [hreq.owner] at hrow
    rw [SC05State.row, hs.touches.reference]
    exact hrow
  -- operations to come are touched neither by the unblock nor by its request
  have hlater : ∀ n, s.operationCount ≤ n → s₁.operationCount ≤ n ∧ n ≠ o' := by
    intro n hn
    rw [hs.touches.count, hreq.count] at hn
    exact ⟨Nat.le_of_succ_le hn, fun h => absurd hn (Nat.not_le.2 (by
      rw [h, hreq.later]; exact Nat.lt_succ_self _))⟩
  refine ⟨hrow, ⟨_, hrow, ordinary_unblocked hb hc₀ hfrom (hactive.trans hc₀.active)⟩, ?_, ?_⟩
  · intro n hn
    obtain ⟨hle, hne⟩ := hlater n hn
    rw [hs.touches.traces n hne, hreq.traces]
    exact h.traces n hle
  · intro n hn
    obtain ⟨hle, hne⟩ := hlater n hn
    have hnone : s₂.workers n = none := by rw [hreq.workers]; exact h.workers n hle
    rcases hs.touches.workers n hne with hw | hw
    · rw [hw]; exact hnone
    · exact hw

/-- A cycle leaves its client ready for the next one. -/
theorem Cycle.ready (hb : Browser text) (hready : Ready text client s)
    (h : Cycle text settings client s s₁) : Ready text client s₁ := by
  obtain ⟨s', c₁, c₂, hblocks, hrow₁, hchanged, hunblocks⟩ := h
  obtain ⟨c₀, hrow, hc₀⟩ := hready.row
  obtain ⟨o, hleft⟩ := blocks_blocked hb hready hrow hc₀ hblocks
  obtain rfl : c₀.blocked = c₁ := Option.some.inj (hleft.row.symm.trans hrow₁)
  obtain ⟨created, token, redelivered, fates, clean, n, finished⟩ := hunblocks
  have hreq := hleft.requested created token
  obtain ⟨v, hs, -⟩ := unblock_delivered hb hc₀ hleft hchanged hreq redelivered clean finished
  exact (unblock_ready hb hc₀ hleft hchanged hreq hs).2

/-- **A block and an unblock are a round trip**, in every cycle: the undisturbed unblock ends, has
succeeded then, and leaves the accounts and the assignees from before the block. -/
theorem cycle_roundTrip (settings : Settings) (hb : Browser text) {s₀ s : SC05State Simulator}
    (hready : Ready text client s₀)
    (hcycles : Relation.ReflTransGen (Cycle text settings client) s₀ s) :
    ∃ c₀, s.row client = some c₀ ∧ ∀ s₁, Blocks text settings client s s₁ →
      ∃ c₁, s₁.row client = some c₁ ∧ ∀ c₂, Changed text c₁ c₂ →
        ∀ o requestKey now s₂ t, (s₁.setRow client c₂).createRun client .unblock .happyPath
            requestKey now = (.ok (o, true), s₂) → (s₂.run o).taskId = some t →
          ∀ redelivered (fates : ℕ → Fate (Option Interruption)), (∀ k, (fates k).IsClean) →
            (∃ n, (delivered text settings s₂ o t redelivered fates n).finished 0 = true) ∧
            ∀ n, (delivered text settings s₂ o t redelivered fates n).finished 0 = true →
              ((delivered text settings s₂ o t redelivered fates n).shared.run o).status =
                .succeeded ∧
              ∃ c₃, (delivered text settings s₂ o t redelivered fates n).shared.row client =
                some c₃ ∧ RoundTrip c₀ c₁ c₂ c₃ := by
  have hready' : Ready text client s := by
    induction hcycles with
    | refl => exact hready
    | tail _ hcycle ih => exact Cycle.ready hb ih hcycle
  obtain ⟨c₀, hrow, hc₀⟩ := hready'.row
  refine ⟨c₀, hrow, fun s₁ hblocks => ?_⟩
  obtain ⟨o, hleft⟩ := blocks_blocked hb hready' hrow hc₀ hblocks
  refine ⟨c₀.blocked, hleft.row, fun c₂ hchanged => ?_⟩
  intro o' requestKey now s₂ t created token redelivered fates clean
  have hreq := hleft.requested created token
  refine ⟨System.exists_run_done fates 0 _ _ _ 0
    (delivery_started text settings s₂ o' t redelivered), fun n finished => ?_⟩
  obtain ⟨v, hs, hsucc⟩ := unblock_delivered hb hc₀ hleft hchanged hreq redelivered clean finished
  refine ⟨?_, c₀.unblocked c₂, (unblock_ready hb hc₀ hleft hchanged hreq hs).1, ?_⟩
  · show (sagaView o' (delivered text settings s₂ o' t redelivered fates n).shared).status = _
    rw [hs.view]; exact hsucc
  · exact roundTrip_unblocked hb hc₀ (blockedFrom_changed hchanged (blockedFrom_block hb hc₀)).1

end Cycle

section Sample

/-- The client of `sampleClient`, for whom nothing has been requested yet. -/
def idleSample : SC05State Simulator :=
  { sampleState with operationCount := 0, nextTaskId := 0 }

/-- A request for a block of the client. -/
def blockRequested : SC05State Simulator := (idleSample.createRun 0 .block .happyPath 0 0).2

/-- The delivery of the block. -/
def blockRun : List (Choice (Fate (Option Interruption)) SC05Process (Simulator → Simulator)) :=
  .start (.deliver 0 (.uuid 0) false) :: sampleSteps 0 0 90 []

def blockedSample : SC05State Simulator :=
  ((sc05System (simulatorPortal id) {}).run (Config.idle blockRequested) blockRun).shared

/-- A task created while the client is blocked. -/
def newTask : TaskChange := .create { reference := "t-2", assignee := "Rui" }

/-- A request for the unblock. -/
def unblockRequested : SC05State Simulator :=
  ((blockedSample.setRow 0 (newTask.apply sampleClient.blocked)).createRun 0 .unblock .happyPath
    1 0).2

theorem browser_id : Browser id where
  slug _ _ := rfl
  visible value h hvalue := by
    change value = "" at hvalue
    rw [hvalue] at h
    exact absurd h (by decide)

theorem sampleClient_ordinary : OrdinaryClient id sampleClient where
  active := rfl
  files := rfl
  accounting := rfl
  unique := by decide
  slugs t ht := by
    obtain rfl := List.mem_singleton.1 ht
    exact isSlug_of_all (by decide) (by decide)
  assignees t ht := by
    obtain rfl := List.mem_singleton.1 ht
    exact ⟨by decide, by decide⟩

theorem blockedSample_blocks : Blocks id {} 0 idleSample blockedSample := by
  have hcreated : idleSample.createRun 0 .block .happyPath 0 0 = (.ok (0, true), blockRequested) :=
    rfl
  exact .intro hcreated blockRun (by decide +kernel) (by decide +kernel)

theorem blockedSample_row : blockedSample.row 0 = some sampleClient.blocked := by decide +kernel

theorem newTask_ok : newTask.Ok id sampleClient.blocked := by
  refine ⟨isSlug_of_all (by decide) (by decide), fun t ht => ?_, by decide, by decide⟩
  obtain rfl := List.mem_singleton.1 ht
  decide

/-- A request that has been accepted is the state it leaves. -/
theorem eq_of_created {α β ε : Type} {r : Except ε α × β} {a : α} (h : r.1.toOption = some a) :
    r = (.ok a, r.2) := by
  obtain ⟨e | a', s⟩ := r
  · cases h
  · cases h; rfl

theorem cycle_roundTrip_sample :
    (∃ n, (delivered id {} unblockRequested 1 1 false (fun _ => { call := none }) n).finished 0 =
      true) ∧
    ∀ n, (delivered id {} unblockRequested 1 1 false (fun _ => { call := none }) n).finished 0 =
        true →
      ((delivered id {} unblockRequested 1 1 false (fun _ => { call := none }) n).shared.run
        1).status = .succeeded ∧
      ∃ c₃, (delivered id {} unblockRequested 1 1 false (fun _ => { call := none }) n).shared.row 0 =
        some c₃ ∧
        RoundTrip sampleClient sampleClient.blocked (newTask.apply sampleClient.blocked) c₃ := by
  have hready : Ready id 0 idleSample :=
    ⟨⟨sampleClient, rfl, sampleClient_ordinary⟩, fun _ _ => rfl, fun _ _ => rfl⟩
  obtain ⟨c₀, hrow, h⟩ := cycle_roundTrip {} browser_id hready .refl
  obtain rfl : sampleClient = c₀ := Option.some.inj hrow
  obtain ⟨c₁, hrow₁, h⟩ := h blockedSample blockedSample_blocks
  obtain rfl : sampleClient.blocked = c₁ := Option.some.inj (blockedSample_row.symm.trans hrow₁)
  have hcreated : (blockedSample.setRow 0 (newTask.apply sampleClient.blocked)).createRun 0 .unblock
      .happyPath 1 0 = (.ok (1, true), unblockRequested) :=
    eq_of_created (by decide +kernel)
  have htoken : (unblockRequested.run 1).taskId = some 1 := by decide +kernel
  exact h _ (.single ⟨newTask, newTask_ok, rfl⟩) 1 1 0 unblockRequested 1 hcreated htoken false _
    fun _ => ⟨rfl, rfl, rfl⟩

end Sample

end SheepContabil
