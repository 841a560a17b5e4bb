import SheepContabil.Spec.Sc05Cycle

/-!
# The tasks portal

What the tasks portal shows before and after its two actions, and what the saga makes
of it. Everything is said of the tasks in the order of their references.

* `readState_tasks`: what a gateway reads.
* `desiredState_block`, `taskUnblockState_ok`: the saga asks for exactly what the
  simulator's actions leave.
* `targetRepresentsBlockedTasks_shown`: the action a captured state is restored with.
-/

namespace SheepContabil

open Py

section Values

theorem boolValue_eq (a b : Bool) : Value.eq (.bool a) (.bool b) = (a == b) := by
  cases a <;> cases b <;> simp [Value.eq, Value.num?]

theorem rowValue_eq (a b : TaskRow) : Value.eq a.value b.value = decide (a = b) := by
  obtain ⟨ra, aa, oa⟩ := a
  obtain ⟨rb, ab, ob⟩ := b
  rw [Bool.eq_iff_iff]
  simp [TaskRow.value, Value.eq.eq_def (.dict _), Value.eqDict, List.lookup_cons, Value.eq.eq_def (.str _),
    boolValue_eq]

theorem rowValues_eq : ∀ xs ys : List TaskRow,
    Value.eqList (xs.map TaskRow.value) (ys.map TaskRow.value) = decide (xs = ys)
  | [], [] => by simp [Value.eqList]
  | [], _ :: _ => by simp [Value.eqList]
  | _ :: _, [] => by simp [Value.eqList]
  | x :: xs, y :: ys => by
    simp [Value.eqList, rowValue_eq, rowValues_eq xs ys]

/-- The state of an account. -/
def shownAccount (blocked : Bool) : PortalState := [("blocked", .bool blocked)]

/-- The state of the tasks portal that shows these rows in this order. -/
def shownTasks (isActive : Bool) (rows : List TaskRow) : PortalState :=
  [("client_active", .bool isActive), ("tasks", .list (rows.map TaskRow.value))]

theorem shownAccount_eq (a b : Bool) :
    statesEqual (shownAccount a) (shownAccount b) = (a == b) := by
  simp [statesEqual, Dict.eq, shownAccount, Value.eq.eq_def (.dict _), Value.eqDict,
    boolValue_eq]

theorem shownTasks_eq (a b : Bool) (xs ys : List TaskRow) :
    statesEqual (shownTasks a xs) (shownTasks b ys) = (a == b && decide (xs = ys)) := by
  simp [statesEqual, Dict.eq, shownTasks, Value.eq.eq_def (.dict _), Value.eqDict, List.lookup_cons,
    boolValue_eq, Value.eq.eq_def (.list _), rowValues_eq]

end Values

section Reading

variable {text : String → String}

/-- The tasks in the order of the portal. -/
def inOrder (ts : List SimulatorTask) : List SimulatorTask :=
  ts.insertionSort fun a b => a.reference ≤ b.reference

/-- What a page shows of a task. -/
def rowOf (text : String → String) (t : SimulatorTask) : TaskRow :=
  { reference := t.reference, assignee := text t.assignee, isOpen := t.isOpen }

/-- A task whose row a gateway can read. -/
structure Legible (text : String → String) (t : SimulatorTask) : Prop where
  shown : text t.reference = t.reference
  reference : t.reference ≠ ""
  assignee : text t.assignee ≠ ""

theorem mem_inOrder {ts : List SimulatorTask} {t : SimulatorTask} : t ∈ inOrder ts ↔ t ∈ ts :=
  List.mem_insertionSort _

/-- An action that keeps the references keeps the order. -/
theorem inOrder_map (ts : List SimulatorTask) {f : SimulatorTask → SimulatorTask}
    (hf : ∀ t, (f t).reference = t.reference) : inOrder (ts.map f) = (inOrder ts).map f := by
  unfold inOrder
  exact (List.map_insertionSort _ _ f ts fun a _ b _ => by rw [hf, hf]).symm

theorem inOrder_nodup {ts : List SimulatorTask}
    (h : (ts.map SimulatorTask.reference).Nodup) :
    ((inOrder ts).map SimulatorTask.reference).Nodup :=
  ((List.perm_insertionSort _ ts).map _).nodup_iff.2 h

theorem readTask_eq {t : SimulatorTask} (h : Legible text t) :
    readTask text t = .ok (rowOf text t) := by
  have h1 : requiredText text t.reference = .ok t.reference := by
    simp [requiredText, h.shown, h.reference]
  have h2 : requiredText text t.assignee = .ok (text t.assignee) := by
    simp [requiredText, h.assignee]
  simp [readTask, h1, h2, rowOf, bind, Except.bind, pure, Except.pure]

theorem mapM_readTask : ∀ ts : List SimulatorTask, (∀ t ∈ ts, Legible text t) →
    ts.mapM (readTask text) = .ok (ts.map (rowOf text))
  | [], _ => rfl
  | t :: ts, h => by
    have ht := readTask_eq (h t List.mem_cons_self)
    have hts := mapM_readTask ts fun t ht => h t (List.mem_cons_of_mem _ ht)
    simp [List.mapM_cons, ht, hts, bind, Except.bind, pure, Except.pure]

theorem tasksState_rows (a : Bool) (ts : List SimulatorTask) :
    tasksState a (ts.map (rowOf text)) = shownTasks a ((inOrder ts).map (rowOf text)) := by
  unfold tasksState shownTasks inOrder
  rw [List.map_insertionSort (fun a b : SimulatorTask => a.reference ≤ b.reference)
    (fun a b : TaskRow => a.reference ≤ b.reference) (rowOf text) ts fun a _ b _ => Iff.rfl]

/-- **What a gateway reads in the tasks portal.** -/
theorem readState_tasks {c : SimulatorClient} (hne : c.tasks ≠ [])
    (h : ∀ t ∈ c.tasks, Legible text t) :
    readState text .tasks (some c) =
      .ok (shownTasks c.isActive ((inOrder c.tasks).map (rowOf text))) := by
  have hne' : c.tasks.isEmpty = false := List.isEmpty_eq_false_iff.2 hne
  simp [readState, hne', mapM_readTask c.tasks h, tasksState_rows, bind, Except.bind, pure,
    Except.pure]

theorem readState_account {c : SimulatorClient} {p : SC05Portal} (hp : p ≠ .tasks) {blocked : Bool}
    (h : c.account p = some blocked) : readState text p (some c) = .ok (shownAccount blocked) := by
  cases p with
  | tasks => exact absurd rfl hp
  | files | accounting => simp [readState, h, shownAccount]

end Reading

section Block

variable {text : String → String}

/-- What the saga asks a block to leave of a row. -/
def TaskRow.block (row : TaskRow) : TaskRow :=
  if row.isOpen then { row with assignee := blockedTaskOwner } else row

theorem desiredBlockedTasks_rows : ∀ rows : List TaskRow,
    desiredBlockedTasks (rows.map TaskRow.value) = .ok ((rows.map TaskRow.block).map TaskRow.value)
  | [] => rfl
  | row :: rows => by
    obtain ⟨r, a, b⟩ := row
    have ih := desiredBlockedTasks_rows rows
    cases b <;>
      simp [desiredBlockedTasks, TaskRow.value, TaskRow.block, Dict.get, Dict.isTrue, Dict.set,
        List.lookup_cons, bind, Except.bind, pure, Except.pure, ih, Value.str?, Value.dict?, Value.bool?]

theorem block_reference (t : SimulatorTask) : t.block.reference = t.reference := by
  unfold SimulatorTask.block; split <;> rfl

theorem unblock_reference (t : SimulatorTask) : t.unblock.reference = t.reference := by
  unfold SimulatorTask.unblock; split <;> rfl

theorem unblock_isOpen (t : SimulatorTask) : t.unblock.isOpen = t.isOpen := by
  unfold SimulatorTask.unblock; split <;> rfl

theorem marked_iff {t : SimulatorTask} : t.marked = true ↔ t.assignee = blockedTaskOwner := by
  simp [SimulatorTask.marked]

/-- The simulator blocks a task as the saga asks. -/
theorem rowOf_block (hmarker : text blockedTaskOwner = blockedTaskOwner) (t : SimulatorTask) :
    rowOf text t.block = (rowOf text t).block := by
  unfold SimulatorTask.block TaskRow.block
  by_cases hopen : t.isOpen = true
  · by_cases hmark : t.marked = true
    · simp [rowOf, hopen, hmark, marked_iff.1 hmark, hmarker]
    · simp [rowOf, hopen, hmark, hmarker]
  · simp [rowOf, hopen]

theorem block_of_settled {t : SimulatorTask} (h : t.isOpen = false ∨ t.marked = true) :
    t.block = t := by
  rcases h with h | h <;> simp [SimulatorTask.block, h]

theorem block_of_open {t : SimulatorTask} (hopen : t.isOpen = true) (hmark : t.marked = false) :
    t.block = { t with previousAssignee := t.assignee, assignee := blockedTaskOwner } := by
  simp [SimulatorTask.block, hopen, hmark]

theorem block_block (t : SimulatorTask) : t.block.block = t.block := by
  by_cases h : t.isOpen = false ∨ t.marked = true
  · rw [block_of_settled h, block_of_settled h]
  · push Not at h
    have hb := block_of_open (by simpa using h.1) (by simpa using h.2)
    refine block_of_settled (.inr ?_)
    rw [hb]
    exact marked_iff.2 rfl

/-- **A block asks for what the simulator leaves.** -/
theorem desiredState_block (hmarker : text blockedTaskOwner = blockedTaskOwner)
    {snapshot : PortalState} {prior : Option PortalState} (ts : List SimulatorTask) :
    desiredState .block .tasks snapshot prior (shownTasks true ((inOrder ts).map (rowOf text))) =
      .ok (shownTasks true ((inOrder (ts.map SimulatorTask.block)).map (rowOf text))) := by
  have hrows : (inOrder (ts.map SimulatorTask.block)).map (rowOf text) =
      ((inOrder ts).map (rowOf text)).map TaskRow.block := by
    rw [inOrder_map ts block_reference, List.map_map, List.map_map]
    exact List.map_congr_left fun t _ => rowOf_block hmarker t
  have hactive : activeTasks? (shownTasks true ((inOrder ts).map (rowOf text))) =
      some (((inOrder ts).map (rowOf text)).map TaskRow.value) := by
    simp [activeTasks?, shownTasks, Dict.isTrue, Dict.get, List.lookup_cons, Value.bool?, Value.list?]
  simp only [desiredState, hactive]
  rw [desiredBlockedTasks_rows, hrows]
  rfl

end Block

section Unblock

variable {text : String → String}

theorem unblock_of_unmarked {t : SimulatorTask} (h : t.marked = false) : t.unblock = t := by
  simp [SimulatorTask.unblock, h]

theorem unblock_of_marked {t : SimulatorTask} (h : t.marked = true) :
    t.unblock = { t with assignee := t.previousAssignee, previousAssignee := "" } := by
  simp [SimulatorTask.unblock, h]

/-- The open tasks of a snapshot, with their assignees. -/
def openAssignees (rows : List TaskRow) : List (String × String) :=
  (rows.filter TaskRow.isOpen).map fun row => (row.reference, row.assignee)

theorem lookup_append_none {xs : List (String × String)} {k : String} {y : String × String}
    (h : xs.lookup k = none) (hy : y.1 ≠ k) : (xs ++ [y]).lookup k = none := by
  rw [List.lookup_append, h]
  obtain ⟨r, a⟩ := y
  have : (k == r) = false := by simpa using Ne.symm hy
  simp [List.lookup_cons, List.lookup_nil, this]

theorem restoreAssignees_rows : ∀ (rows : List TaskRow) (acc : List (String × String)),
    (rows.map TaskRow.reference).Nodup → (∀ row ∈ rows, row.reference ≠ "") →
      (∀ row ∈ rows, acc.lookup row.reference = none) →
      restoreAssignees (rows.map TaskRow.value) acc = .ok (acc ++ openAssignees rows)
  | [], acc, _, _, _ => by simp [restoreAssignees, openAssignees]
  | row :: rows, acc, hnodup, hne, hacc => by
    obtain ⟨r, a, b⟩ := row
    simp only [List.map_cons, List.nodup_cons] at hnodup
    have hne' : r.isEmpty = false := by
      have := hne _ List.mem_cons_self
      simpa using this
    have hnone : acc.lookup r = none := hacc _ List.mem_cons_self
    have hacc' : ∀ row ∈ rows, acc.lookup row.reference = none := fun row h =>
      hacc row (List.mem_cons_of_mem _ h)
    have hrest : ∀ row ∈ rows, row.reference ≠ "" := fun row h => hne row (List.mem_cons_of_mem _ h)
    cases b with
    | false =>
      have ih := restoreAssignees_rows rows acc hnodup.2 hrest hacc'
      simpa [restoreAssignees, TaskRow.value, Dict.isTrue, Dict.get, List.lookup_cons,
        List.lookup_nil, Value.bool?,
        openAssignees] using ih
    | true =>
      have ih := restoreAssignees_rows rows (acc ++ [(r, a)]) hnodup.2 hrest fun row h =>
        lookup_append_none (hacc' row h) fun heq => by
          have heq' : r = row.reference := heq
          exact hnodup.1 (heq' ▸ List.mem_map_of_mem h)
      simpa [restoreAssignees, TaskRow.value, Dict.isTrue, Dict.get, List.lookup_cons,
        List.lookup_nil, Value.bool?,
        Value.str?, openAssignees, hne', hnone] using ih

/-- A task the portal shows now. -/
def TaskRow.current (row : TaskRow) : CurrentTask :=
  { reference := row.reference, assignee := row.assignee
    task := [("reference", .str row.reference), ("assignee", .str row.assignee),
      ("is_open", .bool row.isOpen)] }

theorem currentByReference_rows : ∀ (rows : List TaskRow) (acc : List CurrentTask),
    (rows.map TaskRow.reference).Nodup → (∀ row ∈ rows, row.reference ≠ "") →
      (∀ row ∈ rows, ∀ c ∈ acc, c.reference ≠ row.reference) →
      currentByReference (rows.map TaskRow.value) acc = .ok (acc ++ rows.map TaskRow.current)
  | [], acc, _, _, _ => by simp [currentByReference]
  | row :: rows, acc, hnodup, hne, hacc => by
    simp only [List.map_cons, List.nodup_cons] at hnodup
    have hne' : row.reference.isEmpty = false := by
      have := hne _ List.mem_cons_self
      simpa using this
    have hany : (acc.any fun c => c.reference == row.reference) = false := by
      simpa using hacc row List.mem_cons_self
    have ih := currentByReference_rows rows (acc ++ [row.current]) hnodup.2
      (fun row h => hne row (List.mem_cons_of_mem _ h)) ?_
    · simpa [currentByReference, TaskRow.value, Dict.get, List.lookup_cons, List.lookup_nil,
        Value.str?, hne', hany,
        TaskRow.current] using ih
    · intro row' h c hc
      rcases List.mem_append.1 hc with hc | hc
      · exact hacc row' (List.mem_cons_of_mem _ h) c hc
      · rw [List.mem_singleton] at hc
        subst hc
        intro heq
        have heq' : row.reference = row'.reference := heq
        exact hnodup.1 (heq' ▸ List.mem_map_of_mem h)

/-- What the saga asks an unblock to leave of a row. -/
def TaskRow.restore (assignees : List (String × String)) (row : TaskRow) : TaskRow :=
  match assignees.lookup row.reference with
  | some previous => { row with assignee := previous }
  | none => row

theorem restoreTasks_rows : ∀ (assignees : List (String × String)) (rows : List TaskRow),
    (rows.map TaskRow.reference).Nodup → (assignees.map Prod.fst).Nodup →
      (∀ x ∈ assignees, ∃ row ∈ rows, row.reference = x.1 ∧
        (row.assignee = blockedTaskOwner ∨ row.assignee = x.2)) →
      restoreTasks assignees (rows.map TaskRow.current) =
        .ok ((rows.map (TaskRow.restore assignees)).map TaskRow.current)
  | [], rows, _, _, _ => by
    have : TaskRow.restore [] = id := by funext row; rfl
    simp [restoreTasks, this]
  | (r, previous) :: rest, rows, hrows, hassignees, hall => by
    simp only [List.map_cons, List.nodup_cons] at hassignees
    obtain ⟨row, hrow, hr, hassignee⟩ := hall (r, previous) List.mem_cons_self
    simp only at hr hassignee
    -- one assignee goes back to its row
    set update : TaskRow → TaskRow := fun row =>
      if row.reference = r then { row with assignee := previous } else row with hupdate
    have href : ∀ row, (update row).reference = row.reference := by
      intro row; simp only [hupdate]; split <;> rfl
    have hfind : (rows.map TaskRow.current).find? (fun c => c.reference == r) = some row.current := by
      rw [List.find?_map]
      have hrow' : rows.find? ((fun c : CurrentTask => c.reference == r) ∘ TaskRow.current) =
          some row := by
        rw [List.find?_eq_some_iff_append]
        obtain ⟨before, after, rfl⟩ := List.append_of_mem hrow
        refine ⟨by simp [TaskRow.current, hr], before, after, rfl, fun x hx => ?_⟩
        have hne : x.reference ≠ row.reference := by
          intro heq
          rw [List.map_append, List.map_cons, List.nodup_append] at hrows
          exact hrows.2.2 _ (List.mem_map_of_mem hx) _ List.mem_cons_self heq
        simp [TaskRow.current, ← hr, hne]
      rw [hrow']; rfl
    have hmap : ((rows.map TaskRow.current).map fun c => if c.reference == r then
        (⟨r, previous, Dict.set c.task "assignee" (.str previous)⟩ : CurrentTask) else c) =
        (rows.map update).map TaskRow.current := by
      rw [List.map_map, List.map_map]
      refine List.map_congr_left fun x _ => ?_
      by_cases hx : x.reference = r
      · simp [TaskRow.current, hupdate, hx, Dict.set]
      · simp [TaskRow.current, hupdate, hx]
    have ih := restoreTasks_rows rest (rows.map update) (by
        rw [List.map_map]
        have : TaskRow.reference ∘ update = TaskRow.reference := funext href
        rw [this]; exact hrows) hassignees.2 ?_
    · have hok : (row.current.assignee != blockedTaskOwner && row.current.assignee != previous) =
          false := by
        rcases hassignee with h | h <;> simp [TaskRow.current, h]
      simp only [restoreTasks, hfind, hok, hmap, ih, Bool.false_eq_true, if_false]
      rw [List.map_map (f := update)]
      congr 2
      refine List.map_congr_left fun x _ => ?_
      simp only [Function.comp_apply, TaskRow.restore, href, List.lookup_cons]
      by_cases hx : x.reference = r
      · have hnone : rest.lookup r = none := by
          rw [List.lookup_eq_none_iff]
          intro y hy
          have : y.1 ≠ r := fun heq => hassignees.1 (heq ▸ List.mem_map_of_mem hy)
          simpa using Ne.symm this
        simp [hx, hnone, hupdate]
      · have : (x.reference == r) = false := by simpa using hx
        simp [this, hupdate, hx]
    · intro x hx
      obtain ⟨row', hrow', hr', ha'⟩ := hall x (List.mem_cons_of_mem _ hx)
      have hne : row'.reference ≠ r := by
        rw [hr']; exact fun heq => hassignees.1 (heq ▸ List.mem_map_of_mem hx)
      refine ⟨row', List.mem_map.2 ⟨row', hrow', by simp [hupdate, hne]⟩, hr', ha'⟩

/-- The tasks `ts` are what a block of `ts₀`, and changes from outside, have left: the marked ones
are those that were open, and keep their assignee. -/
structure BlockedFrom (text : String → String) (ts₀ ts : List SimulatorTask) : Prop where
  unique : (ts.map SimulatorTask.reference).Nodup
  slugs : ∀ t ∈ ts, IsSlug t.reference
  kept : ∀ t₀ ∈ ts₀, ∃ t ∈ ts, t.reference = t₀.reference
  opened : ∀ t ∈ ts, ∀ t₀ ∈ ts₀, t₀.reference = t.reference → t₀.isOpen = true →
    t.assignee = blockedTaskOwner ∧ t.previousAssignee = t₀.assignee
  others : ∀ t ∈ ts, (∀ t₀ ∈ ts₀, t₀.reference = t.reference → t₀.isOpen = false) →
    OrdinaryAssignee text t.assignee

theorem isSlug_of_all {reference : String} (hne : reference ≠ "")
    (h : reference.toList.all (fun c => c.isAlphanum || c == '-' || c == '_') = true) :
    IsSlug reference := by
  refine ⟨hne, fun c hc => ?_⟩
  have := List.all_eq_true.1 h c hc
  simpa [or_assoc] using this

theorem blockedTaskOwner_slug : IsSlug blockedTaskOwner := isSlug_of_all (by decide) (by decide)

theorem Browser.marker (h : Browser text) : text blockedTaskOwner = blockedTaskOwner :=
  h.slug _ blockedTaskOwner_slug

theorem OrdinaryAssignee.unmarked (hb : Browser text) {t : SimulatorTask}
    (h : OrdinaryAssignee text t.assignee) : t.marked = false := by
  rw [Bool.eq_false_iff]
  intro hm
  have := h.2
  rw [marked_iff.1 hm, hb.marker] at this
  exact this rfl

section Restored

variable {ts₀ ts : List SimulatorTask}

/-- An open task of the snapshot is found by its reference. -/
theorem openAssignees_some (text : String → String)
    (h₀ : (ts₀.map SimulatorTask.reference).Nodup) {t₀ : SimulatorTask}
    (ht : t₀ ∈ ts₀) (hopen : t₀.isOpen = true) :
    (openAssignees ((inOrder ts₀).map (rowOf text))).lookup t₀.reference =
      some (text t₀.assignee) := by
  refine Py.lookup_of_mem ?_ ?_
  · have hsub : ((openAssignees ((inOrder ts₀).map (rowOf text))).map Prod.fst).Sublist
        ((inOrder ts₀).map SimulatorTask.reference) := by
      have : (inOrder ts₀).map SimulatorTask.reference =
          ((inOrder ts₀).map (rowOf text)).map TaskRow.reference := by
        rw [List.map_map]; rfl
      rw [this, openAssignees, List.map_map]
      exact List.filter_sublist.map _
    exact hsub.nodup (inOrder_nodup h₀)
  · simp only [openAssignees, List.mem_map, List.mem_filter]
    exact ⟨rowOf text t₀, ⟨⟨t₀, mem_inOrder.2 ht, rfl⟩, hopen⟩, rfl⟩

theorem openAssignees_none {r : String} (h : ∀ t₀ ∈ ts₀, t₀.reference = r → t₀.isOpen = false) :
    (openAssignees ((inOrder ts₀).map (rowOf text))).lookup r = none := by
  rw [List.lookup_eq_none_iff]
  rintro ⟨r', a⟩ hx
  simp only [openAssignees, List.mem_map, List.mem_filter] at hx
  obtain ⟨row, ⟨⟨t₀, ht, rfl⟩, hopen⟩, hrow⟩ := hx
  have hopen' : t₀.isOpen = true := hopen
  simp only [rowOf, Prod.mk.injEq] at hrow
  have hne : r' ≠ r := by
    rintro rfl
    rw [h t₀ (mem_inOrder.1 ht) hrow.1] at hopen'
    cases hopen'
  simpa using Ne.symm hne

/-- The simulator unblocks a task as the saga asks. -/
theorem rowOf_unblock (hb : Browser text) (h₀ : (ts₀.map SimulatorTask.reference).Nodup)
    (h : BlockedFrom text ts₀ ts) {t : SimulatorTask} (ht : t ∈ ts) :
    (rowOf text t).restore (openAssignees ((inOrder ts₀).map (rowOf text))) =
      rowOf text t.unblock := by
  by_cases hopen : ∃ t₀ ∈ ts₀, t₀.reference = t.reference ∧ t₀.isOpen = true
  · obtain ⟨t₀, ht₀, hr, ho⟩ := hopen
    obtain ⟨hmark, hprev⟩ := h.opened t ht t₀ ht₀ hr ho
    have hsome := openAssignees_some text h₀ ht₀ ho
    rw [hr] at hsome
    rw [unblock_of_marked (marked_iff.2 hmark)]
    simp [TaskRow.restore, rowOf, hsome, hprev]
  · push Not at hopen
    have hclosed : ∀ t₀ ∈ ts₀, t₀.reference = t.reference → t₀.isOpen = false :=
      fun t₀ ht₀ hr => by simpa using hopen t₀ ht₀ hr
    rw [unblock_of_unmarked ((h.others t ht hclosed).unmarked hb)]
    simp [TaskRow.restore, rowOf, openAssignees_none hclosed]

/-- **An unblock asks for what the simulator leaves.** -/
theorem taskUnblockState_ok (hb : Browser text) (h₀ : (ts₀.map SimulatorTask.reference).Nodup)
    (hs₀ : ∀ t ∈ ts₀, IsSlug t.reference) (h : BlockedFrom text ts₀ ts) :
    taskUnblockState (shownTasks true ((inOrder ts₀).map (rowOf text)))
      (shownTasks true ((inOrder ts).map (rowOf text))) =
        .ok (shownTasks true ((inOrder (ts.map SimulatorTask.unblock)).map (rowOf text))) := by
  set rows₀ := (inOrder ts₀).map (rowOf text) with hrows₀
  set rows := (inOrder ts).map (rowOf text) with hrows
  have hactive : ∀ rows, activeTasks? (shownTasks true rows) = some (rows.map TaskRow.value) := by
    intro rows
    simp [activeTasks?, shownTasks, Dict.isTrue, Dict.get, List.lookup_cons, Value.bool?, Value.list?]
  have hrefs₀ : rows₀.map TaskRow.reference = (inOrder ts₀).map SimulatorTask.reference := by
    rw [hrows₀, List.map_map]; rfl
  have hrefs : rows.map TaskRow.reference = (inOrder ts).map SimulatorTask.reference := by
    rw [hrows, List.map_map]; rfl
  have hnodup₀ : (rows₀.map TaskRow.reference).Nodup := hrefs₀ ▸ inOrder_nodup h₀
  have hnodup : (rows.map TaskRow.reference).Nodup := hrefs ▸ inOrder_nodup h.unique
  have hslug₀ : ∀ row ∈ rows₀, row.reference ≠ "" := by
    intro row hrow
    obtain ⟨t, ht, rfl⟩ := List.mem_map.1 hrow
    exact (hs₀ t (mem_inOrder.1 ht)).1
  have hslug : ∀ row ∈ rows, row.reference ≠ "" := by
    intro row hrow
    obtain ⟨t, ht, rfl⟩ := List.mem_map.1 hrow
    exact (h.slugs t (mem_inOrder.1 ht)).1
  have hrestore := restoreAssignees_rows rows₀ [] hnodup₀ hslug₀ fun _ _ => rfl
  have hcurrent := currentByReference_rows rows [] hnodup hslug fun _ _ _ hc => by cases hc
  -- a task with the marker was open before the block, so its assignee is known
  have hknown : ((rows.map TaskRow.current).any fun c => c.assignee == blockedTaskOwner &&
      ((openAssignees rows₀).lookup c.reference).isNone) = false := by
    rw [List.any_eq_false]
    intro c hc
    obtain ⟨row, hrow, rfl⟩ := List.mem_map.1 hc
    obtain ⟨t, ht, rfl⟩ := List.mem_map.1 hrow
    by_cases hclosed : ∀ t₀ ∈ ts₀, t₀.reference = t.reference → t₀.isOpen = false
    · have := (h.others t (mem_inOrder.1 ht) hclosed).2
      simp [TaskRow.current, rowOf, this]
    · push Not at hclosed
      obtain ⟨t₀, ht₀, hr, ho⟩ := hclosed
      have hsome := openAssignees_some text h₀ ht₀ (by simpa using ho)
      have hfound : ((openAssignees rows₀).lookup t.reference).isNone = false := by
        rw [hrows₀, ← hr, hsome]; rfl
      show ¬((_ && ((openAssignees rows₀).lookup t.reference).isNone) = true)
      rw [hfound, Bool.and_false]
      exact Bool.false_ne_true
  have htasks := restoreTasks_rows (openAssignees rows₀) rows hnodup ?_ ?_
  · have hunblock : rows.map (TaskRow.restore (openAssignees rows₀)) =
        (inOrder (ts.map SimulatorTask.unblock)).map (rowOf text) := by
      rw [inOrder_map ts unblock_reference, hrows, List.map_map, List.map_map]
      exact List.map_congr_left fun t ht => rowOf_unblock hb h₀ h (mem_inOrder.1 ht)
    have hvalue : ∀ rows : List TaskRow, (rows.map TaskRow.current).map (fun c => Value.dict c.task) =
        rows.map TaskRow.value := by
      intro rows; rw [List.map_map]; rfl
    simp only [taskUnblockState, hactive, hrestore, List.nil_append, hcurrent, hknown, htasks, bind,
      Except.bind, pure, Except.pure, Bool.false_eq_true, if_false]
    rw [hvalue, hunblock]
    rfl
  · have hsub : ((openAssignees rows₀).map Prod.fst).Sublist (rows₀.map TaskRow.reference) := by
      rw [openAssignees, List.map_map]
      exact List.filter_sublist.map _
    exact hsub.nodup hnodup₀
  · -- an open task is still there, with the marker of the block
    rintro ⟨r, a⟩ hx
    simp only [openAssignees, List.mem_map, List.mem_filter] at hx
    obtain ⟨row₀, ⟨hrow₀, hopen⟩, hra⟩ := hx
    obtain ⟨t₀, ht₀, rfl⟩ := List.mem_map.1 hrow₀
    simp only [rowOf, Prod.mk.injEq] at hra
    obtain ⟨t, ht, hr⟩ := h.kept t₀ (mem_inOrder.1 ht₀)
    refine ⟨rowOf text t, List.mem_map_of_mem (mem_inOrder.2 ht), hr.trans hra.1, .inl ?_⟩
    have hmark := (h.opened t ht t₀ (mem_inOrder.1 ht₀) hr.symm hopen).1
    simp [rowOf, hmark, hb.marker]

end Restored

end Unblock

end SheepContabil
