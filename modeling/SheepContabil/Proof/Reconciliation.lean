import SheepContabil.Proof.Sc05Projection
import SheepContabil.Spec.Reconciliation

/-!
# A dry run reports what a pass does

The query of the candidates is the test of `_is_still_stale`, and `_preview_action` is the
decision of `_reconcile_one`. A pass takes its runs one after the other, so a run must find in the
tables what a dry run finds: the step of another run leaves its row and its items alone, and of
the clients it writes one only, that of an active operation.
-/

namespace SheepContabil

/-- The three cases of the query read the first column that is not null. -/
theorem onOrBefore_cases (first second : Option ℕ) (createdAt : ℕ) (cutoff : ℤ) :
    (onOrBefore first cutoff || (first.isNone && onOrBefore second cutoff) ||
      (first.isNone && second.isNone && decide ((createdAt : ℤ) ≤ cutoff))) =
    decide ((((first.or second).getD createdAt : ℕ) : ℤ) ≤ cutoff) := by
  cases first <;> cases second <;> simp [onOrBefore]

namespace AutomationRun

variable (run : AutomationRun)

/-- **The query is the test.** -/
theorem isCandidate_eq (queuedCutoff runningCutoff : ℤ) :
    run.isCandidate queuedCutoff runningCutoff = run.isStillStale queuedCutoff runningCutoff := by
  have hqueued := onOrBefore_cases run.dispatchStartedAt run.queuedAt run.createdAt queuedCutoff
  have hrunning := onOrBefore_cases run.heartbeatAt run.startedAt run.createdAt runningCutoff
  unfold isCandidate isStillStale
  rw [← hrunning]
  cases hmodule : run.module <;> cases hstatus : run.status <;>
    simp only [reduceCtorEq, beq_eq_decide, decide_true, decide_false, Bool.true_and, Bool.and_true,
      Bool.false_and, Bool.or_false, Bool.false_or, Bool.and_false, Bool.or_true, Bool.or_self,
      ← hqueued, Bool.or_assoc, Bool.and_assoc]

variable {run}

theorem isActive_of_isStillStale {queuedCutoff runningCutoff : ℤ}
    (h : run.isStillStale queuedCutoff runningCutoff = true) : run.status.isActive = true := by
  unfold isStillStale at h
  cases hmodule : run.module <;> cases hstatus : run.status <;> simp_all [RunStatus.isActive]

/-- **The preview is the decision.** -/
theorem action_reconcileOne {settings : Settings} {now : ℕ}
    (hstale : run.isStillStale ((now : ℤ) - settings.queuedStaleAfterSeconds)
      ((now : ℤ) - settings.runningStaleAfterSeconds) = true)
    (ambiguous hasNewItems : Bool) (fresh : TaskId) :
    (run.reconcileOne ambiguous settings now hasNewItems fresh).1.action =
      run.previewAction settings hasNewItems ambiguous := by
  have hactive := isActive_of_isStillStale hstale
  unfold reconcileOne previewAction exhaustQueuedRun
  rw [hstale]
  simp only [Bool.not_true, Bool.false_eq_true, if_false, ← not_lt]
  cases hstatus : run.status <;> rw [hstatus] at hactive <;> simp only [RunStatus.isActive,
    Bool.false_eq_true] at hactive
  · cases hasNewItems <;> rfl
  · by_cases hattempts : run.reconciliationAttempts < settings.reconciliationMaxAttempts
    · simp [hattempts, SC05Operation.Recovery.action]
    · cases hmodule : run.module <;> cases ambiguous <;>
        simp [hattempts, SC05Operation.Recovery.action]
  · by_cases hattempts : run.reconciliationAttempts < settings.reconciliationMaxAttempts <;>
      cases hmodule : run.module <;> simp [hattempts, SC05Operation.Recovery.action]

end AutomationRun

namespace ReconcilerTables

variable {settings : Settings} {now : ℕ} {s s₀ : ReconcilerTables} {r r' : RunId}

section OneRun

theorem action_recover (row : RunRow) (decision : SC05Operation.Recovery × AutomationRun) :
    (s.recover now r row decision).1.action = decision.1.action := by
  obtain ⟨recovery, run⟩ := decision
  cases recovery with
  | skipped => rfl
  | requeued t => rfl
  | quarantined => unfold recover; dsimp only; split <;> rfl
  | failed => unfold recover; dsimp only; split <;> rfl

/-- A dry run of one run writes nothing and claims nothing. -/
theorem reconcileOne_dry :
    (s.reconcileOne settings now true r).2 = s ∧
    (s.reconcileOne settings now true r).1.claim = none ∧
    (s.reconcileOne settings now true r).1.recomputeSc04 = false := by
  unfold reconcileOne
  split
  · exact ⟨rfl, rfl, rfl⟩
  · split <;> exact ⟨rfl, rfl, rfl⟩

/-- A real pass over one run acts as a dry run reports. -/
theorem action_reconcileOne_eq :
    (s.reconcileOne settings now false r).1.action =
      (s.reconcileOne settings now true r).1.action := by
  unfold reconcileOne
  split
  · rfl
  · next row hrow =>
    split
    · rfl
    · next hstale =>
      simp only [Bool.not_eq_true', Bool.not_eq_false] at hstale
      simp only [Bool.false_eq_true, if_false, if_true, action_recover]
      exact AutomationRun.action_reconcileOne hstale _ _ _

theorem inspect_fst (dryRun : Bool) (broker : RunId → BrokerOutcome) :
    (s.inspect settings now dryRun broker r).1 =
      (s.reconcileOne settings now dryRun r).1.action := by
  unfold inspect
  split
  next outcome s' heq =>
  dsimp only
  split <;> rw [heq]

theorem inspect_dry (broker : RunId → BrokerOutcome) :
    s.inspect settings now true broker r = ((s.reconcileOne settings now true r).1.action, s) := by
  obtain ⟨hs, hclaim, hrecompute⟩ := @reconcileOne_dry settings now s r
  refine Prod.ext (inspect_fst true broker) ?_
  unfold inspect
  split
  next outcome s' heq =>
  rw [heq] at hs hclaim hrecompute
  dsimp only at hs hclaim hrecompute ⊢
  rw [hrecompute, hclaim]
  exact hs

end OneRun

section Frame

/-- What the step of a run `r'` leaves alone in the tables: the other rows, the items, and every
client but that of its own active operation. -/
structure Frame (r' : RunId) (s s' : ReconcilerTables) : Prop where
  row : ∀ r, r ≠ r' → s'.rows[r]? = s.rows[r]?
  items : s'.items = s.items
  client : ∀ c, s'.clients c = s.clients c ∨
    ∃ op, s.rows[r']? = some (.operation op) ∧ op.client = c ∧ op.run.status.isActive = true

/-- A step that writes no client either. -/
structure RowFrame (r' : RunId) (s s' : ReconcilerTables) : Prop where
  row : ∀ r, r ≠ r' → s'.rows[r]? = s.rows[r]?
  items : s'.items = s.items
  clients : s'.clients = s.clients

theorem RowFrame.refl : RowFrame r' s s := ⟨fun _ _ => rfl, rfl, rfl⟩

theorem RowFrame.trans {s₁ s₂ : ReconcilerTables} (h : RowFrame r' s s₁)
    (h' : RowFrame r' s₁ s₂) : RowFrame r' s s₂ :=
  ⟨fun r hr => (h'.row r hr).trans (h.row r hr), h'.items.trans h.items,
    h'.clients.trans h.clients⟩

theorem RowFrame.toFrame (h : RowFrame r' s s₀) : Frame r' s s₀ :=
  ⟨h.row, h.items, fun c => .inl (congrFun h.clients c)⟩

theorem Frame.trans_rowFrame {s₁ s₂ : ReconcilerTables} (h : Frame r' s s₁)
    (h' : RowFrame r' s₁ s₂) : Frame r' s s₂ :=
  ⟨fun r hr => (h'.row r hr).trans (h.row r hr), h'.items.trans h.items, fun c => by
    rw [h'.clients]
    exact h.client c⟩

theorem rowFrame_setRow (row : RunRow) : RowFrame r' s (s.setRow r' row) :=
  ⟨fun _ hr => List.getElem?_set_ne hr.symm, rfl, rfl⟩

theorem rowFrame_updateRun (f : AutomationRun → AutomationRun) :
    RowFrame r' s (s.updateRun r' f) := by
  unfold updateRun
  split
  · exact .refl
  · exact rowFrame_setRow _

theorem rowFrame_setDocumentStatus (ids : List DocumentId) (status : DocumentStatus) :
    RowFrame r' s (s.setDocumentStatus ids status) :=
  ⟨fun _ _ => rfl, rfl, rfl⟩

theorem rowFrame_nextTaskId (n : TaskId) : RowFrame r' s { s with nextTaskId := n } :=
  ⟨fun _ _ => rfl, rfl, rfl⟩

theorem rowFrame_recomputeRecovered : RowFrame r' s (s.recomputeRecovered now r') := by
  unfold recomputeRecovered
  dsimp only
  split
  · exact (rowFrame_updateRun _).trans (rowFrame_updateRun (s := s.updateRun r' _) _)
  · exact rowFrame_updateRun _

theorem rowFrame_publish (t : TaskId) (outcome : BrokerOutcome) :
    RowFrame r' s (s.publish now r' t outcome) := by
  have haccept : RowFrame r' s { s with messages := s.messages ++ [⟨r', t⟩] } :=
    ⟨fun _ _ => rfl, rfl, rfl⟩
  unfold publish
  cases outcome with
  | accepted => exact haccept.trans (rowFrame_updateRun _)
  | acceptedAndRaised => exact haccept.trans (rowFrame_updateRun _)
  | refused => exact rowFrame_updateRun _

theorem frame_markClientPartial {row : RunRow} (hrow : s.rows[r']? = some row)
    (hactive : row.run.status.isActive = true) :
    Frame r' s (s.markClientPartial row.client?) := by
  cases row with
  | plain run => exact RowFrame.refl.toFrame
  | operation op =>
    refine ⟨fun _ _ => rfl, rfl, fun c => ?_⟩
    by_cases hc : c = op.client
    · exact .inr ⟨op, hrow, hc.symm, hactive⟩
    · exact .inl (Function.update_of_ne hc _ _)

theorem frame_recover {row : RunRow} (hrow : s.rows[r']? = some row)
    (hactive : row.run.status.isActive = true)
    (decision : SC05Operation.Recovery × AutomationRun) :
    Frame r' s (s.recover now r' row decision).2 := by
  obtain ⟨recovery, run⟩ := decision
  cases recovery with
  | skipped => exact RowFrame.refl.toFrame
  | requeued t =>
    have hreset : RowFrame r' s
        (if row.run.status = .running then s.resetInterruptedItems r' else s) := by
      split
      · exact rowFrame_setDocumentStatus _ _
      · exact .refl
    unfold recover
    dsimp only
    exact (hreset.trans ((rowFrame_setRow (row.withRun run)).trans
      (rowFrame_nextTaskId _))).toFrame
  | quarantined =>
    unfold recover
    dsimp only
    split
    · exact (frame_markClientPartial hrow hactive).trans_rowFrame (rowFrame_setRow _)
    · exact (rowFrame_setRow _).toFrame
  | failed =>
    unfold recover
    dsimp only
    split
    · exact ((rowFrame_setDocumentStatus _ _).trans (rowFrame_setRow _)).toFrame
    · exact (rowFrame_setRow _).toFrame

theorem frame_reconcileOne (dryRun : Bool) :
    Frame r' s (s.reconcileOne settings now dryRun r').2 := by
  unfold reconcileOne
  split
  · exact RowFrame.refl.toFrame
  · next row hrow =>
    split
    · exact RowFrame.refl.toFrame
    · next hstale =>
      simp only [Bool.not_eq_true', Bool.not_eq_false] at hstale
      split
      · exact RowFrame.refl.toFrame
      · exact frame_recover hrow (AutomationRun.isActive_of_isStillStale hstale) _

/-- **One step of a pass.** -/
theorem frame_inspect (dryRun : Bool) (broker : RunId → BrokerOutcome) :
    Frame r' s (s.inspect settings now dryRun broker r').2 := by
  have hone := @frame_reconcileOne settings now s r' dryRun
  unfold inspect
  split
  next outcome s₁ heq =>
  rw [heq] at hone
  have hrecompute : Frame r' s
      (if outcome.recomputeSc04 && !dryRun then s₁.recomputeRecovered now r' else s₁) := by
    split
    · exact hone.trans_rowFrame rowFrame_recomputeRecovered
    · exact hone
  dsimp only
  split
  · exact hrecompute
  · dsimp only
    split
    · exact hrecompute
    · exact hrecompute.trans_rowFrame (rowFrame_publish _ _)

end Frame

section Pass

/-- The tables show a run what they showed at the start of the pass: its row, its items, and the
client of its operation while that is active. -/
structure Untouched (s₀ s : ReconcilerTables) (r : RunId) : Prop where
  row : s.rows[r]? = s₀.rows[r]?
  items : s.items = s₀.items
  client : ∀ op, s₀.rows[r]? = some (.operation op) → op.run.status.isActive = true →
    s.clients op.client = s₀.clients op.client

theorem Untouched.refl : Untouched s s r := ⟨rfl, rfl, fun _ _ _ => rfl⟩

/-- The report of a dry run reads no more of the tables. -/
theorem Untouched.action_eq (h : Untouched s₀ s r) :
    (s.reconcileOne settings now true r).1.action =
      (s₀.reconcileOne settings now true r).1.action := by
  unfold reconcileOne hasNewItems
  rw [h.row, h.items]
  cases hrow : s₀.rows[r]? with
  | none => rfl
  | some row =>
    dsimp only
    split
    · rfl
    · next hstale =>
      simp only [Bool.not_eq_true', Bool.not_eq_false] at hstale
      cases row with
      | plain run => rfl
      | operation op =>
        have hclient := h.client op hrow (AutomationRun.isActive_of_isStillStale hstale)
        simp only [queueHasAmbiguousState, hclient, if_true]

/-- The step of another run leaves a run untouched. -/
theorem Untouched.step (hone : s₀.OneActiveOperation) (h : Untouched s₀ s r)
    (h' : Untouched s₀ s r') (hne : r ≠ r') {s' : ReconcilerTables} (hframe : Frame r' s s') :
    Untouched s₀ s' r where
  row := (hframe.row r hne).trans h.row
  items := hframe.items.trans h.items
  client op hrow hactive := by
    rcases hframe.client op.client with hsame | ⟨op', hrow', hclient, hactive'⟩
    · exact hsame.trans (h.client op hrow hactive)
    · rw [h'.row] at hrow'
      exact absurd (hone r r' op op' hrow hrow' hactive hactive' hclient.symm) hne

/-- **A pass.** Whatever the earlier runs of the pass made of the tables, each run is reported as
a dry run at the start reports it. -/
theorem reconcile_report (hone : s₀.OneActiveOperation) (broker : RunId → BrokerOutcome) :
    ∀ (ids : List RunId) (s : ReconcilerTables), ids.Nodup →
      (∀ r ∈ ids, Untouched s₀ s r) →
      (reconcile settings now false broker ids s).1 =
        ids.map fun r => (r, (s₀.reconcileOne settings now true r).1.action)
  | [], _, _, _ => rfl
  | r :: ids, s, hnodup, huntouched => by
    obtain ⟨hr, hnodup'⟩ := List.nodup_cons.mp hnodup
    have hhead := huntouched r List.mem_cons_self
    have htail : ∀ r' ∈ ids, Untouched s₀ (s.inspect settings now false broker r).2 r' :=
      fun r' hr' => (huntouched r' (List.mem_cons_of_mem r hr')).step hone hhead
        (fun heq => hr (heq ▸ hr')) (frame_inspect false broker)
    have hrest := reconcile_report hone broker ids _ hnodup' htail
    simp only [reconcile, List.map_cons, hrest, inspect_fst, action_reconcileOne_eq,
      hhead.action_eq]

/-- A dry run changes nothing on its way. -/
theorem reconcile_dry (broker : RunId → BrokerOutcome) (ids : List RunId) :
    reconcile settings now true broker ids s =
      (ids.map fun r => (r, (s.reconcileOne settings now true r).1.action), s) := by
  induction ids with
  | nil => rfl
  | cons r ids ih => simp only [reconcile, inspect_dry, ih, List.map_cons]

theorem mem_candidateIds (queuedCutoff runningCutoff : ℤ) :
    r ∈ s.candidateIds queuedCutoff runningCutoff ↔
      ∃ row, s.rows[r]? = some row ∧ row.run.isStillStale queuedCutoff runningCutoff = true := by
  unfold candidateIds
  simp only [List.mem_mergeSort, List.mem_filter, List.mem_range, Option.any_eq_true,
    AutomationRun.isCandidate_eq]
  constructor
  · rintro ⟨-, row, hrow, hstale⟩
    exact ⟨row, hrow, hstale⟩
  · rintro ⟨row, hrow, hstale⟩
    exact ⟨(List.getElem?_eq_some_iff.mp hrow).1, row, hrow, hstale⟩

theorem nodup_candidateIds (queuedCutoff runningCutoff : ℤ) :
    (s.candidateIds queuedCutoff runningCutoff).Nodup :=
  (List.mergeSort_perm _ _).nodup_iff.mpr (List.nodup_range.filter _)

end Pass

end ReconcilerTables

section Operations

open Conc (Config)

variable {W ι : Type}

/-- An active run of a history is open. -/
theorem isOpen_of_isActive {k : OperationCard} (hcreated : k.Created)
    (hactive : k.status.isActive = true) : k.status.isOpen = true := by
  rcases hcreated with hopen | hopen | hopen
  · exact hopen
  · rw [hopen] at hactive; cases hactive
  · rw [hopen] at hactive; cases hactive

/-- The row of an operation is that of the operation with its number. -/
theorem reconcilerTables_operation {s : SC05State W} {others : List AutomationRun}
    {items : RunId → List RunItem} {documents : DocumentId → ReconciledDocument} {r : RunId}
    {op : SC05Operation}
    (h : (s.reconcilerTables others items documents).rows[r]? = some (.operation op)) :
    r < s.operationCount ∧ op = s.operations r := by
  simp only [SC05State.reconcilerTables] at h
  rcases lt_or_ge r s.operationCount with hr | hr
  · rw [List.getElem?_append_left (by simpa using hr)] at h
    simp only [List.getElem?_map, List.getElem?_range hr, Option.map_some, Option.some.injEq,
      RunRow.operation.injEq] at h
    exact ⟨hr, h.symm⟩
  · rw [List.getElem?_append_right (by simpa using hr)] at h
    simp at h

/-- **The operations of every history.** Whatever web requests, deliveries and passes interleave, a
client has at most one active operation. -/
theorem run_oneActiveOperation (portal : PortalBackend W ι) (settings : Settings)
    {s : SC05State W} (hs : s.Untouched) (xs : List (SC05Choice W ι)) (others : List AutomationRun)
    (items : RunId → List RunItem) (documents : DocumentId → ReconciledDocument) :
    ((sc05After portal settings s xs).reconcilerTables others items
      documents).OneActiveOperation := by
  have hproj : Projected (sc05After portal settings s xs) := (run_holds_projection hs xs).1
  intro r r' op op' hrow hrow' hactive hactive' hclient
  obtain ⟨hr, rfl⟩ := reconcilerTables_operation hrow
  obtain ⟨hr', rfl⟩ := reconcilerTables_operation hrow'
  exact hproj.single r hr r' hr' hclient
    (isOpen_of_isActive (hproj.created r hr) hactive)
    (isOpen_of_isActive (hproj.created r' hr') hactive')

end Operations

/-- An upload whose document was ingested, an operation that a lost worker left running, and an
operation of another client that no worker took. -/
def orphanTables : ReconcilerTables where
  rows :=
    [.plain { module := .sc04, createdAt := 0 },
     .operation { client := 0, action := .block
                  run := { module := .sc05, status := .running, createdAt := 10
                           startedAt := some 20, heartbeatAt := some 30 } },
     .operation { client := 1, action := .block
                  run := { module := .sc05, status := .queued, createdAt := 10
                           reconciliationAttempts := 1 } }]
  clients _ := { externalReference := "C" }
  items r := if r = 0 then [⟨0, .new⟩] else []

theorem orphanTables_oneActive : orphanTables.OneActiveOperation := by
  intro r r' op op' hrow hrow' _ _ hclient
  match r, r', hrow, hrow' with
  | 1, 1, _, _ => rfl
  | 2, 2, _, _ => rfl
  | 1, 2, hrow, hrow' => cases hrow; cases hrow'; cases hclient
  | 2, 1, hrow, hrow' => cases hrow; cases hrow'; cases hclient

end SheepContabil
