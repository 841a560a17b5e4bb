import SheepContabil.Proof.Reconciliation

/-!
# Passes in batches

A pass takes at most `batch_size` of its candidates. What it has done with a run makes the run no
candidate of the next pass, and the runs that it has not reached wait as they were, so that
repeated passes do what one pass without a limit announces.

* `AutomationRun.Recovered`: what a pass leaves of a run it has taken.
* `candidates_reconcile`: the candidates that are left after a pass.
* `batches_cover`: **repeated passes take every candidate once**, as a dry run at the start reports.
-/

namespace SheepContabil

/-- The run is in the queue again since `now`, or ended. -/
def AutomationRun.Recovered (now : ℕ) (run : AutomationRun) : Prop :=
  (run.status = .queued ∧ run.dispatchStartedAt = some now) ∨ run.status.isTerminal = true

namespace AutomationRun.Recovered

variable {now : ℕ} {run : AutomationRun}

/-- A run that was recovered now is not stale before now. -/
theorem not_stale (h : run.Recovered now) {queuedCutoff : ℤ} (hq : queuedCutoff < now)
    (runningCutoff : ℤ) : run.isStillStale queuedCutoff runningCutoff = false := by
  unfold isStillStale
  rcases h with ⟨hstatus, hdispatch⟩ | hterminal
  · have hlate : ¬ ((now : ℕ) : ℤ) ≤ queuedCutoff := not_le.2 hq
    rw [hstatus, hdispatch]
    cases run.module <;> simp [hlate]
  · cases hstatus : run.status <;> rw [hstatus] at hterminal <;> cases run.module <;>
      first
      | rfl
      | cases hterminal

theorem recordDispatchSuccess (h : run.Recovered now) (t : TaskId) :
    (run.recordDispatchSuccess t now).Recovered now := by
  unfold AutomationRun.recordDispatchSuccess
  split <;> exact h

theorem recordRecoveryPublishFailure (h : run.Recovered now) (t : TaskId) (exc : String) :
    (run.recordRecoveryPublishFailure t exc now).Recovered now := by
  unfold AutomationRun.recordRecoveryPublishFailure
  split <;> exact h

end AutomationRun.Recovered

/-- What a decision about a stale run is: taken, and final when it failed the run. -/
structure Taken (now : ℕ) (decision : SC05Operation.Recovery × AutomationRun) : Prop where
  taken : decision.1 ≠ .skipped
  recovered : decision.2.Recovered now
  ended : decision.1 = .failed → decision.2.status.isTerminal = true

theorem taken_requeued (run : AutomationRun) (now : ℕ) (fresh : TaskId) (reason : String) :
    Taken now (.requeued fresh, run.claimRecovery now fresh reason) where
  taken := by simp
  recovered := .inl ⟨rfl, rfl⟩
  ended h := by cases h

theorem taken_ended {recovery : SC05Operation.Recovery} (hrecovery : recovery ≠ .skipped)
    {run : AutomationRun} (now : ℕ) (h : run.status.isTerminal = true) : Taken now (recovery, run) where
  taken := hrecovery
  recovered := .inr h
  ended _ := h

theorem taken_exhaustQueued (run : AutomationRun) (ambiguous : Bool) (now : ℕ) :
    Taken now (run.exhaustQueuedRun ambiguous now) := by
  unfold AutomationRun.exhaustQueuedRun
  split
  · exact taken_ended (by simp) now rfl
  · split
    · exact taken_ended (by simp) now rfl
    · exact taken_ended (by simp) now rfl

/-- **The decision of `_reconcile_one`** about a stale run. -/
theorem taken_reconcileOne {settings : Settings} {now : ℕ} {run : AutomationRun}
    (hstale : run.isStillStale ((now : ℤ) - settings.queuedStaleAfterSeconds)
      ((now : ℤ) - settings.runningStaleAfterSeconds) = true) (ambiguous hasNewItems : Bool)
    (fresh : TaskId) : Taken now (run.reconcileOne ambiguous settings now hasNewItems fresh) := by
  unfold AutomationRun.reconcileOne
  rw [hstale]
  simp only [Bool.not_true, Bool.false_eq_true, if_false]
  split
  · split
    · exact taken_requeued ..
    · exact taken_ended (by simp) now rfl
  · split
    · exact taken_exhaustQueued ..
    · exact taken_requeued ..
  · split
    · exact taken_ended (by simp) now rfl
    · exact taken_ended (by simp) now rfl
    · split
      · exact taken_ended (by simp) now rfl
      · exact taken_requeued ..

namespace ReconcilerTables

variable {settings : Settings} {now : ℕ} {s s₀ s' : ReconcilerTables} {r r' : RunId}

section OneRun

/-- The row of the run is there, and the run meets `P`. -/
def RunIs (s : ReconcilerTables) (r : RunId) (P : AutomationRun → Prop) : Prop :=
  ∃ row, s.rows[r]? = some row ∧ P row.run

theorem runIs_setRow {P : AutomationRun → Prop} {row : RunRow} (hr : (s.rows[r]?).isSome)
    (h : P row.run) : (s.setRow r row).RunIs r P := by
  refine ⟨row, ?_, h⟩
  obtain ⟨hlt, -⟩ := List.getElem?_eq_some_iff.1 (Option.eq_some_of_isSome hr)
  show (s.rows.set r row)[r]? = some row
  rw [List.getElem?_set_self hlt]

theorem runIs_updateRun {P Q : AutomationRun → Prop} {f : AutomationRun → AutomationRun}
    (h : s.RunIs r P) (hf : ∀ run, P run → Q (f run)) : (s.updateRun r f).RunIs r Q := by
  obtain ⟨row, hrow, hrun⟩ := h
  unfold updateRun
  rw [hrow]
  refine runIs_setRow (by rw [hrow]; rfl) ?_
  cases row <;> exact hf _ hrun

theorem run_withRun (row : RunRow) (run : AutomationRun) : (row.withRun run).run = run := by
  cases row <;> rfl

/-- What a recovery writes to the row of its run. -/
theorem runIs_recover (now : ℕ) {P : AutomationRun → Prop} {row : RunRow}
    (hrow : s.rows[r]? = some row)
    {decision : SC05Operation.Recovery × AutomationRun} (hskip : decision.1 ≠ .skipped)
    (h : P decision.2) : (s.recover now r row decision).2.RunIs r P := by
  obtain ⟨recovery, run⟩ := decision
  have hsome : ∀ t : ReconcilerTables, t.rows = s.rows → (t.rows[r]?).isSome := by
    intro t ht
    rw [ht, hrow]
    rfl
  cases recovery with
  | skipped => exact absurd rfl hskip
  | requeued t =>
    unfold recover
    dsimp only
    refine runIs_setRow (s := if row.run.status = .running then s.resetInterruptedItems r else s)
      (hsome _ ?_) ((run_withRun row run).symm ▸ h)
    split <;> rfl
  | quarantined =>
    unfold recover
    dsimp only
    split
    · refine runIs_setRow (hsome _ ?_) ((run_withRun _ run).symm ▸ h)
      cases row <;> rfl
    · exact runIs_setRow (hsome _ rfl) ((run_withRun row run).symm ▸ h)
  | failed =>
    unfold recover
    dsimp only
    split
    · exact runIs_setRow (hsome _ rfl) ((run_withRun row run).symm ▸ h)
    · exact runIs_setRow (hsome _ rfl) ((run_withRun row run).symm ▸ h)

/-- `recompute_sc04_run` keeps the end of a run. -/
theorem terminal_recomputeRecovered (now : ℕ)
    (h : s.RunIs r fun run => run.status.isTerminal = true) :
    (s.recomputeRecovered now r).RunIs r fun run => run.status.isTerminal = true := by
  have hrecompute : (s.updateRun r fun run => run.recompute (s.counts r) none true now).RunIs r
      fun run => run.status.isTerminal = true :=
    runIs_updateRun h fun run hrun => by
      simp [AutomationRun.recompute, AutomationRun.recomputedStatus, hrun]
  unfold recomputeRecovered
  dsimp only
  split
  · refine runIs_updateRun hrecompute fun run hrun => ?_
    unfold AutomationRun.failEmptyRecoveredSc04
    split
    · rfl
    · exact hrun
  · exact hrecompute

theorem recovered_publish (h : s.RunIs r (·.Recovered now)) (t : TaskId) (outcome : BrokerOutcome) :
    (s.publish now r t outcome).RunIs r (·.Recovered now) := by
  have haccept : ({ s with messages := s.messages ++ [⟨r, t⟩] } : ReconcilerTables).RunIs r
      (·.Recovered now) := h
  cases outcome with
  | accepted => exact runIs_updateRun haccept fun run hrun => hrun.recordDispatchSuccess t
  | acceptedAndRaised =>
    exact runIs_updateRun haccept fun run hrun => hrun.recordRecoveryPublishFailure t _
  | refused => exact runIs_updateRun h fun run hrun => hrun.recordRecoveryPublishFailure t _

/-- **The step of a pass over a candidate** leaves it recovered. -/
theorem recovered_inspect {row : RunRow} (hrow : s.rows[r]? = some row)
    (hstale : row.run.isStillStale ((now : ℤ) - settings.queuedStaleAfterSeconds)
      ((now : ℤ) - settings.runningStaleAfterSeconds) = true) (broker : RunId → BrokerOutcome) :
    (s.inspect settings now false broker r).2.RunIs r (·.Recovered now) := by
  have hone : s.reconcileOne settings now false r =
      s.recover now r row (row.run.reconcileOne (s.queueHasAmbiguousState row) settings now
        (s.hasNewItems r) s.nextTaskId) := by
    unfold reconcileOne
    rw [hrow]
    simp [hstale]
  obtain ⟨htaken, hrecovered, hended⟩ := taken_reconcileOne hstale (s.queueHasAmbiguousState row)
    (s.hasNewItems r) s.nextTaskId
  generalize row.run.reconcileOne (s.queueHasAmbiguousState row) settings now (s.hasNewItems r)
    s.nextTaskId = decision at hone htaken hrecovered hended
  have hrun := runIs_recover now hrow htaken hrecovered
  unfold inspect
  rw [hone]
  obtain ⟨recovery, run⟩ := decision
  cases recovery with
  | skipped => exact absurd rfl htaken
  | requeued t => exact recovered_publish hrun t (broker r)
  | quarantined =>
    unfold recover at hrun ⊢
    dsimp only at hrun ⊢
    by_cases hsc05 : row.run.module = .sc05
    · rw [if_pos hsc05] at hrun ⊢
      exact hrun
    · rw [if_neg hsc05] at hrun ⊢
      exact hrun
  | failed =>
    have hterminal := runIs_recover now hrow htaken
      (P := fun run => run.status.isTerminal = true) (hended rfl)
    unfold recover at hrun hterminal ⊢
    dsimp only at hrun hterminal ⊢
    by_cases hsc04 : row.run.module = .sc04 ∧ row.run.status ≠ .pending
    · rw [if_pos hsc04] at hterminal ⊢
      obtain ⟨row', hrow', h⟩ := terminal_recomputeRecovered now hterminal
      exact ⟨row', hrow', .inr h⟩
    · rw [if_neg hsc04] at hrun ⊢
      exact hrun

end OneRun

section Batches

/-- A run that is stale in the tables. -/
def StaleAt (s : ReconcilerTables) (queuedCutoff runningCutoff : ℤ) (r : RunId) : Prop :=
  s.RunIs r fun run => run.isStillStale queuedCutoff runningCutoff = true

/-- A pass leaves the runs that it does not take. -/
theorem reconcile_untouched (hone : s₀.OneActiveOperation) (broker : RunId → BrokerOutcome)
    {ids : List RunId} (hr : r ∉ ids) :
    ∀ {s : ReconcilerTables}, (∀ r' ∈ ids, Untouched s₀ s r') → ids.Nodup → Untouched s₀ s r →
      Untouched s₀ (reconcile settings now false broker ids s).2 r := by
  induction ids with
  | nil => intro s _ _ h; exact h
  | cons r' ids ih =>
    intro s hall hnodup h
    obtain ⟨hr', hnodup'⟩ := List.nodup_cons.1 hnodup
    rw [List.mem_cons, not_or] at hr
    have hhead := hall r' List.mem_cons_self
    refine ih hr.2 (fun r'' hr'' => ?_) hnodup'
      (h.step hone hhead hr.1 (frame_inspect false broker))
    exact (hall r'' (List.mem_cons_of_mem r' hr'')).step hone hhead (fun heq => hr' (heq ▸ hr''))
      (frame_inspect false broker)

/-- A pass leaves the row of a run that it does not take. -/
theorem reconcile_row (broker : RunId → BrokerOutcome) {ids : List RunId} (hr : r ∉ ids) :
    ∀ {s : ReconcilerTables},
      (reconcile settings now false broker ids s).2.rows[r]? = s.rows[r]? := by
  induction ids with
  | nil => intro s; rfl
  | cons r' ids ih =>
    intro s
    rw [List.mem_cons, not_or] at hr
    exact (ih hr.2).trans ((frame_inspect false broker).row r hr.1)

/-- **A pass over candidates** leaves each of them recovered. -/
theorem recovered_reconcile (settings : Settings) (broker : RunId → BrokerOutcome) :
    ∀ {ids : List RunId} {s : ReconcilerTables}, ids.Nodup →
      (∀ r ∈ ids, s.StaleAt ((now : ℤ) - settings.queuedStaleAfterSeconds)
        ((now : ℤ) - settings.runningStaleAfterSeconds) r) →
      ∀ r ∈ ids, (reconcile settings now false broker ids s).2.RunIs r (·.Recovered now) := by
  intro ids
  induction ids with
  | nil =>
    intro s _ _ r hr
    cases hr
  | cons r' ids ih =>
    intro s hnodup hstale r hr
    obtain ⟨hr', hnodup'⟩ := List.nodup_cons.1 hnodup
    rcases List.mem_cons.1 hr with rfl | hmem
    · -- the runs after it leave its row
      obtain ⟨row, hrow, hrun⟩ := hstale r List.mem_cons_self
      obtain ⟨row', hrow', hrecovered⟩ := recovered_inspect hrow hrun broker
      exact ⟨row', (reconcile_row broker hr').trans hrow', hrecovered⟩
    · refine ih hnodup' (fun r'' hr'' => ?_) r hmem
      obtain ⟨row, hrow, hrun⟩ := hstale r'' (List.mem_cons_of_mem r' hr'')
      have hne : r'' ≠ r' := fun heq => hr' (heq ▸ hr'')
      exact ⟨row, ((frame_inspect false broker).row r'' hne).trans hrow, hrun⟩

theorem staleAt_iff {queuedCutoff runningCutoff : ℤ} :
    r ∈ s.candidateIds queuedCutoff runningCutoff ↔ s.StaleAt queuedCutoff runningCutoff r :=
  mem_candidateIds queuedCutoff runningCutoff

/-- **The candidates after a pass** are those that it has not taken. -/
theorem candidates_reconcile (hsettings : 0 < settings.queuedStaleAfterSeconds)
    (broker : RunId → BrokerOutcome) {ids : List RunId} (hnodup : ids.Nodup)
    (hids : ∀ r ∈ ids, r ∈ s.staleIds settings now) :
    r ∈ (reconcile settings now false broker ids s).2.staleIds settings now ↔
      r ∈ s.staleIds settings now ∧ r ∉ ids := by
  rw [staleAt_iff, staleAt_iff]
  by_cases hr : r ∈ ids
  · refine iff_of_false ?_ fun h => h.2 hr
    rintro ⟨row, hrow, hstale⟩
    obtain ⟨row', hrow', hrecovered⟩ := recovered_reconcile settings broker hnodup
      (fun r hr => staleAt_iff.1 (hids r hr)) r hr
    obtain rfl := Option.some.inj (hrow.symm.trans hrow')
    rw [hrecovered.not_stale (by omega)] at hstale
    cases hstale
  · rw [and_iff_left hr]
    unfold StaleAt RunIs
    rw [reconcile_row broker hr]

/-- The candidates that a batch does not reach wait for the next pass. -/
theorem staleIds_batch_perm (now : ℕ) (s : ReconcilerTables)
    (hsettings : 0 < settings.queuedStaleAfterSeconds) (batchSize : ℕ) (broker : RunId → BrokerOutcome) :
    ((s.takeBatch settings now batchSize broker).2.staleIds settings now).Perm
      ((s.staleIds settings now).drop batchSize) := by
  have hnodup : (s.staleIds settings now).Nodup := nodup_candidateIds _ _
  have hsplit := hnodup
  rw [← List.take_append_drop batchSize (s.staleIds settings now)] at hsplit
  refine (List.perm_ext_iff_of_nodup (nodup_candidateIds _ _)
    (hnodup.sublist (List.drop_sublist _ _))).2 fun r => ?_
  rw [takeBatch, candidates_reconcile hsettings broker (hnodup.sublist (List.take_sublist _ _))
    fun r hr => List.mem_of_mem_take hr]
  constructor
  · rintro ⟨hr, hnot⟩
    rw [← List.take_append_drop batchSize (s.staleIds settings now), List.mem_append] at hr
    exact hr.resolve_left hnot
  · intro hr
    exact ⟨List.mem_of_mem_drop hr, fun hmem => (List.disjoint_of_nodup_append hsplit) hmem hr⟩

/-- Repeated passes over tables that show their candidates what the tables at the start showed. -/
theorem takeBatches_spec (now : ℕ) (hone : s₀.OneActiveOperation)
    (hsettings : 0 < settings.queuedStaleAfterSeconds) (batchSize : ℕ) :
    ∀ (brokers : List (RunId → BrokerOutcome)) {s : ReconcilerTables},
      (∀ r ∈ s.staleIds settings now, Untouched s₀ s r) →
      ((takeBatches settings now batchSize brokers s).1.map Prod.fst ++
        (takeBatches settings now batchSize brokers s).2.staleIds settings now).Perm
        (s.staleIds settings now) ∧
      (∀ x ∈ (takeBatches settings now batchSize brokers s).1,
        x.2 = (s₀.reconcileOne settings now true x.1).1.action) ∧
      ((takeBatches settings now batchSize brokers s).2.staleIds settings now).length =
        (s.staleIds settings now).length - brokers.length * batchSize := by
  intro brokers
  induction brokers with
  | nil =>
    intro s _
    refine ⟨List.Perm.refl _, fun x hx => ?_, ?_⟩
    · cases hx
    · rw [List.length_nil, Nat.zero_mul, Nat.sub_zero]
      rfl
  | cons broker brokers ih =>
    intro s huntouched
    have hnodup : ((s.staleIds settings now).take batchSize).Nodup :=
      (nodup_candidateIds _ _).sublist (List.take_sublist _ _)
    have hbatch : ∀ r ∈ (s.staleIds settings now).take batchSize, Untouched s₀ s r :=
      fun r hr => huntouched r (List.mem_of_mem_take hr)
    have hperm := staleIds_batch_perm now s hsettings batchSize broker
    have hreport : (s.takeBatch settings now batchSize broker).1 =
        ((s.staleIds settings now).take batchSize).map fun r =>
          (r, (s₀.reconcileOne settings now true r).1.action) :=
      reconcile_report hone broker _ s hnodup hbatch
    -- the runs that wait are as they were
    have hnext : ∀ r ∈ (s.takeBatch settings now batchSize broker).2.staleIds settings now,
        Untouched s₀ (s.takeBatch settings now batchSize broker).2 r := by
      intro r hr
      obtain ⟨hmem, hnot⟩ := (candidates_reconcile hsettings broker hnodup
        fun r hr => List.mem_of_mem_take hr).1 hr
      exact reconcile_untouched hone broker hnot hbatch hnodup (huntouched r hmem)
    obtain ⟨hcover, haction, hlength⟩ := ih hnext
    have hids : (s.takeBatch settings now batchSize broker).1.map Prod.fst =
        (s.staleIds settings now).take batchSize := by
      rw [hreport, List.map_map]
      exact List.map_id _
    refine ⟨?_, fun x hx => ?_, ?_⟩
    · simp only [takeBatches, List.map_append, List.append_assoc, hids]
      refine (hcover.trans hperm).append_left _ |>.trans ?_
      rw [List.take_append_drop]
    · simp only [takeBatches, List.mem_append] at hx
      rcases hx with hx | hx
      · rw [hreport] at hx
        obtain ⟨r, -, rfl⟩ := List.mem_map.1 hx
        rfl
      · exact haction x hx
    · simp only [takeBatches]
      rw [hlength, hperm.length_eq, List.length_drop, List.length_cons, Nat.succ_mul]
      omega

/-- Calls with a positive `batch_size` raise nothing. -/
theorem reconcileBatches_ok (now : ℕ) {batchSize : ℤ} (hpos : 1 ≤ batchSize) :
    ∀ (brokers : List (RunId → BrokerOutcome)) (s : ReconcilerTables),
      reconcileBatches settings now batchSize brokers s =
        .ok (takeBatches settings now batchSize.toNat brokers s) := by
  intro brokers
  induction brokers with
  | nil => intro s; rfl
  | cons broker brokers ih =>
    intro s
    have hbatch : s.reconcileBatch settings now batchSize broker =
        .ok (s.takeBatch settings now batchSize.toNat broker) := if_neg (not_lt.2 hpos)
    rw [reconcileBatches, hbatch]
    show (reconcileBatches settings now batchSize brokers
      (s.takeBatch settings now batchSize.toNat broker).2 >>= _) = _
    rw [ih]
    rfl

/-- A smaller `batch_size` makes the first call raise. -/
theorem reconcileBatches_error (now : ℕ) {batchSize : ℤ} (hsmall : batchSize < 1)
    (broker : RunId → BrokerOutcome) (brokers : List (RunId → BrokerOutcome))
    (s : ReconcilerTables) :
    reconcileBatches settings now batchSize (broker :: brokers) s =
      .error "batch_size precisa ser maior que zero." := by
  have hbatch : s.reconcileBatch settings now batchSize broker =
      .error "batch_size precisa ser maior que zero." := if_pos hsmall
  rw [reconcileBatches, hbatch]
  rfl

end Batches

end ReconcilerTables

open ReconcilerTables in
/-- **Repeated passes take every candidate once.** A `batch_size` below one is refused. With any
other, and whatever the broker answers, the runs they take are the candidates at the start but
those that are left, each once; each of them is reported as a dry run over all the candidates at
the start reports it; and a pass takes a full batch while there is one, so that none is left after
enough of them. -/
theorem batches_cover (settings : Settings) (hsettings : 0 < settings.queuedStaleAfterSeconds)
    (now : ℕ) (batchSize : ℤ) {s : ReconcilerTables} (hone : s.OneActiveOperation)
    (brokers : List (RunId → BrokerOutcome)) (broker : RunId → BrokerOutcome) :
    (batchSize < 1 → reconcileBatches settings now batchSize (broker :: brokers) s =
      .error "batch_size precisa ser maior que zero.") ∧
    (1 ≤ batchSize → ∃ reports s',
      reconcileBatches settings now batchSize brokers s = .ok (reports, s') ∧
      (reports.map Prod.fst ++ s'.staleIds settings now).Perm (s.staleIds settings now) ∧
      (∀ x ∈ reports, x ∈ (s.reconcileStaleRuns settings now true broker).1) ∧
      (s'.staleIds settings now).length =
        (s.staleIds settings now).length - brokers.length * batchSize.toNat) := by
  refine ⟨fun hsmall => reconcileBatches_error now hsmall broker brokers s, fun hpos => ?_⟩
  obtain ⟨hcover, haction, hlength⟩ := takeBatches_spec now hone hsettings batchSize.toNat brokers
    fun r _ => Untouched.refl (s := s)
  refine ⟨_, _, reconcileBatches_ok now hpos brokers s, hcover, fun x hx => ?_, hlength⟩
  rw [reconcileStaleRuns, reconcile_dry]
  have hmem := hcover.subset (List.mem_append_left _ (List.mem_map_of_mem hx))
  exact List.mem_map.2 ⟨x.1, hmem, Prod.ext rfl (haction x hx).symm⟩

/-- Two passes of one run each over three orphans leave one. -/
theorem batches_cover_orphans :
    ∃ reports s', ReconcilerTables.reconcileBatches {} 4000 1
        [fun _ => .refused, fun _ => .accepted] orphanTables = .ok (reports, s') ∧
      (s'.staleIds {} 4000).length = 1 := by
  have hstale : (orphanTables.staleIds {} 4000).length = 3 := by
    rw [ReconcilerTables.staleIds, ReconcilerTables.candidateIds, List.length_mergeSort]
    decide
  obtain ⟨reports, s', hrun, -, -, hlength⟩ := (batches_cover {} (by decide) 4000 1
    orphanTables_oneActive [fun _ => .refused, fun _ => .accepted] fun _ => .accepted).2 (by decide)
  rw [hstale] at hlength
  exact ⟨reports, s', hrun, hlength⟩

end SheepContabil
