import SheepContabil.Proof.RunRecovery

/-!
# The fence of a superseded delivery

Every write of a worker compares the status and the token of the run in its own
transaction, except one: `execute_sc04` saves the ingestion failures over the metadata
that it loaded. And the status that the others compare can come back: a recomputation
without a token may return a run that left `RUNNING` to `RUNNING`.

* `Guarded`: the steps that do neither.
* `Gone`: a token under which the run is neither queued nor running.
* `run_fenced`: over the guarded steps, a delivery whose token is gone changes nothing.
* `fence_lost`: the two ways around the fence.
-/

namespace SheepContabil

namespace RunTable

variable {settings : Settings} {schedules : ScheduleSettings} {s : RunTable} {x : RunStep}
  {r : RunId} {t : TaskId}

/-- The ingestion failures are saved while the delivery owns the run and its reconciliation history
is the loaded one; and no recomputation without a token returns a run to `RUNNING`. -/
def Guarded (s : RunTable) : RunStep → Prop
  | .work worker (.sc04IngestionFailures _) _ => ∀ k a, s.workers[worker]? = some k →
    s.runs k.run = some a → a.deliveryIsCurrent k.loaded.taskId = true ∧
      a.metadata.reconciliationHistory = k.loaded.metadata.reconciliationHistory
  | .recompute r counts preserveTerminalStatus now => ∀ a, s.runs r = some a → a.module = .sc04 →
    (a.recomputedStatus counts preserveTerminalStatus now).1 = .running →
      a.status = .running ∨ a.status = .queued
  | _ => True

/-- Every step of a history from `s` is guarded. -/
def GuardedFrom (settings : Settings) (schedules : ScheduleSettings) : RunTable → List RunStep → Prop
  | _, [] => True
  | s, x :: xs => Guarded s x ∧ GuardedFrom settings schedules (s.step settings schedules x) xs

/-- A history from no run at all whose steps are guarded. -/
def GuardedHistory (settings : Settings) (schedules : ScheduleSettings) (xs : List RunStep) : Prop :=
  GuardedFrom settings schedules {} xs

/-- A step of a delivery that holds the token `t` of the run `r`: it starts, or it writes. -/
def HeldBy (s : RunTable) (x : RunStep) (r : RunId) (t : TaskId) : Prop :=
  (∃ redelivered now, x = .deliver ⟨r, t⟩ redelivered now) ∨
    ∃ worker write now k, x = .work worker write now ∧ s.workers[worker]? = some k ∧ k.run = r ∧
      k.loaded.taskId = some t

theorem guardedFrom_append {xs ys : List RunStep} :
    GuardedFrom settings schedules s (xs ++ ys) ↔ GuardedFrom settings schedules s xs ∧
      GuardedFrom settings schedules (xs.foldl (step settings schedules) s) ys := by
  induction xs generalizing s with
  | nil => simp [GuardedFrom]
  | cons x xs ih => simp [GuardedFrom, ih, and_assoc]

theorem guardedHistory_append {xs ys : List RunStep}
    (h : GuardedHistory settings schedules (xs ++ ys)) : GuardedHistory settings schedules xs :=
  (guardedFrom_append.mp h).1

theorem guardedHistory_last {xs : List RunStep}
    (h : GuardedHistory settings schedules (xs ++ [x])) :
    Guarded (runTable settings schedules xs) x :=
  (guardedFrom_append.mp h).2.1

/-- A running run has a token. -/
def Owned (s : RunTable) : Prop :=
  ∀ r a, s.runs r = some a → a.status = .running → a.taskId.isSome = true

theorem owned_step (hs : Sound settings s) (hx : Guarded s x) (h : Owned s) :
    Owned (s.step settings schedules x) := by
  intro r b hb hrunning
  cases hr : s.runs r with
  | none =>
    -- a run is created in the queue, or before it
    obtain ⟨-, -, -, -, hne⟩ := (perform_extends hs).rows r b hb hr
    exact absurd hrunning hne
  | some a =>
    obtain ⟨b', hb', hchange⟩ := step_row schedules x hs hr
    rw [hb] at hb'
    obtain rfl := Option.some.inj hb'
    have hqueued := (hs.rows r a hr).2.queued
    rcases hchange.running_cases hrunning with ⟨hbefore, htask⟩ |
      ⟨counts, preserve, now, rfl, hstatus, hsc04, htask⟩ | ⟨m, _, _, -, -, -, htask, -⟩
    · rw [htask]; exact h r a hr hbefore
    · rw [htask]
      rcases hx a hr hsc04 hstatus with hbefore | hbefore
      · exact h r a hr hbefore
      · exact hqueued hbefore
    · rw [htask]; rfl

theorem owned_run {xs : List RunStep} (h : GuardedHistory settings schedules xs) :
    Owned (runTable settings schedules xs) := by
  induction xs using List.reverseRecOn with
  | nil => exact fun r a hr => absurd hr (by simp [runTable])
  | append_singleton xs x ih =>
    rw [runTable_snoc]
    exact owned_step (sound_run xs) (guardedHistory_last h) (ih (guardedHistory_append h))

/-- A token in use under which the run is neither queued nor running. -/
def Gone (s : RunTable) (r : RunId) (t : TaskId) : Prop :=
  t < s.nextTaskId ∧ ∃ a, s.runs r = some a ∧
    ¬(a.taskId = some t ∧ (a.status = .queued ∨ a.status = .running))

/-- **A guarded step does not bring a token back.** -/
theorem gone_step (hs : Sound settings s) (howned : Owned s) (hx : Guarded s x) (h : Gone s r t) :
    Gone (s.step settings schedules x) r t := by
  obtain ⟨hlt, a, ha, hout⟩ := h
  obtain ⟨b, hb, hchange⟩ := step_row schedules x hs ha
  refine ⟨Nat.lt_succ_of_lt hlt, b, hb, ?_⟩
  rintro ⟨ht, hqueued | hrunning⟩
  · rcases hchange.queued_fresh hqueued with hfresh | ⟨hbefore, hsame⟩
    · rw [ht] at hfresh
      exact absurd (Option.some.inj hfresh) (Nat.ne_of_lt hlt)
    · exact hout ⟨by rw [← hsame, ht], .inl hbefore⟩
  · by_cases hbefore : a.status = .running
    · -- a running run keeps its token, or a message without one was bound to it
      have hsome := howned r a ha hbefore
      rcases hchange.running_cases hrunning with ⟨-, htask⟩ | ⟨_, _, _, -, -, -, htask⟩ |
        ⟨m, _, _, -, -, hnone | hsame, htask, -⟩
      · exact hout ⟨by rw [← htask, ht], .inr hbefore⟩
      · exact hout ⟨by rw [← htask, ht], .inr hbefore⟩
      · rw [hnone] at hsome; exact absurd hsome (by simp)
      · exact hout ⟨by rw [hsame, ← htask, ht], .inr hbefore⟩
    · -- a run starts from the queue, by a message that carries its own token
      have hstarts : ∀ m redelivered now, x = .deliver m redelivered now → m.run = r →
          b.taskId = some m.taskId → a.status = .queued ∧ a.taskId = some t := by
        intro m redelivered now hx hrun hbt
        subst hx
        obtain ⟨-, a', ha', hq, hat⟩ := starts_queued hs
          ⟨m, redelivered, now, rfl, hrun, a, b, ha, hb, hbefore, hrunning⟩
        obtain rfl := same_row ha ha' rfl
        exact ⟨hq, by rw [hat, ← hbt, ht]⟩
      rcases hchange.running_cases hrunning with ⟨hrun, -⟩ |
        ⟨counts, preserve, now, rfl, hstatus, hsc04, htask⟩ | ⟨m, _, _, hstep, hrun, -, htask, -⟩
      · exact hbefore hrun
      · rcases hx a ha hsc04 hstatus with h | h
        · exact hbefore h
        · exact hout ⟨by rw [← htask, ht], .inl h⟩
      · obtain ⟨hq, hat⟩ := hstarts _ _ _ hstep hrun htask
        exact hout ⟨hat, .inl hq⟩

theorem gone_run {xs ys : List RunStep} (h : GuardedHistory settings schedules (xs ++ ys))
    (hgone : Gone (runTable settings schedules xs) r t) :
    Gone (runTable settings schedules (xs ++ ys)) r t := by
  induction ys using List.reverseRecOn with
  | nil => rwa [List.append_nil]
  | append_singleton ys y ih =>
    rw [← List.append_assoc] at h ⊢
    rw [runTable_snoc]
    have hprefix := guardedHistory_append h
    exact gone_step (sound_run _) (owned_run hprefix) (guardedHistory_last h) (ih hprefix)

section Held

variable {a : AutomationRun}

/-- The guards of the writes fail on a run that the token does not own. -/
theorem not_current (hout : ¬(a.taskId = some t ∧ (a.status = .queued ∨ a.status = .running)))
    (howned : a.status = .running → a.taskId.isSome = true) :
    a.deliveryIsCurrent (some t) = false ∧ a.isLockedBy (some t) = false := by
  have hne : a.status = .running → a.taskId ≠ some t := fun hr ht => hout ⟨ht, .inr hr⟩
  constructor
  · by_contra hcurrent
    simp only [Bool.not_eq_false, AutomationRun.deliveryIsCurrent, Bool.and_eq_true, beq_iff_eq]
      at hcurrent
    exact hne hcurrent.1 hcurrent.2
  · by_contra hlocked
    simp only [Bool.not_eq_false, AutomationRun.isLockedBy, AutomationRun.deliveryMatches,
      SuppliedTaskId.ofOption, Bool.and_eq_true, beq_iff_eq] at hlocked
    obtain ⟨hrunning, hmatches⟩ := hlocked
    obtain ⟨t', ht'⟩ := Option.isSome_iff_exists.mp (howned hrunning)
    simp only [ht', tokenMatches, SuppliedTaskId.normalize, beq_iff_eq, Option.some.injEq] at hmatches
    exact hne hrunning (by rw [ht', hmatches])

/-- A write whose guards fail changes nothing; the ingestion failures have no guard. -/
theorem workerWrite_fenced {loaded : AutomationRun} (ht : loaded.taskId = some t)
    (hcurrent : a.deliveryIsCurrent (some t) = false) (hlocked : a.isLockedBy (some t) = false)
    (write : WorkerWrite) (now : ℕ)
    (hwrite : ∀ n, write = .sc04IngestionFailures n → a.deliveryIsCurrent (some t) = true) :
    write.apply loaded now a = a := by
  cases write with
  | sc04IngestionFailures n => exact absurd (hwrite n rfl) (by simp [hcurrent])
  | touch => simp [WorkerWrite.apply, AutomationRun.touchRun, ht, hcurrent]
  | sc04Recompute counts =>
    have hguard : (a.status != .running || a.taskId != some t) = true := by
      simp only [AutomationRun.deliveryIsCurrent, Bool.and_eq_false_iff] at hcurrent
      simpa [bne] using hcurrent
    simp [WorkerWrite.apply, AutomationRun.recompute, ht, hguard]
  | sc04UnhandledFailure exc =>
    simp [WorkerWrite.apply, AutomationRun.finishUnhandledFailure, ht, hlocked]
  | sc05FinishSucceeded applied unchanged =>
    simp [WorkerWrite.apply, AutomationRun.finishSucceededSc05, ht, hcurrent]
  | sc05FinishFailed error failed =>
    simp [WorkerWrite.apply, AutomationRun.finishFailedSc05, ht, hcurrent]
  | sc20FinishRun retry result => simp [WorkerWrite.apply, AutomationRun.finishRunSc20, ht, hlocked]
  | sc20UnhandledFailure ambiguous exc =>
    simp [WorkerWrite.apply, AutomationRun.recordUnhandledFailureSc20, ht, hlocked]

/-- A message whose token does not own the run is ignored. -/
theorem startDelivery_ignored
    (hout : ¬(a.taskId = some t ∧ (a.status = .queued ∨ a.status = .running)))
    (hqueued : a.status = .queued → a.taskId.isSome = true)
    (howned : a.status = .running → a.taskId.isSome = true) (hpending : a.status ≠ .pending)
    (hawaiting : a.status = .awaitingReview → a.module = .sc04) (redelivered : Bool) (now : ℕ) :
    a.startDelivery (.uuid t) redelivered settings now = .ignored := by
  cases hbind : a.bindDelivery (.uuid t) with
  | none =>
    unfold AutomationRun.startDelivery AutomationRun.startSc04 AutomationRun.startSc05
      AutomationRun.startSc20
    cases a.module <;> simp [hbind]
  | some bound =>
    obtain ⟨hmatched, rfl⟩ := bindDelivery_cases hbind
    have hnotqueued : a.status ≠ .queued := by
      intro hq
      rcases hmatched with hnone | hsome
      · have := hqueued hq; rw [hnone] at this; exact absurd this (by simp)
      · exact hout ⟨hsome, .inl hq⟩
    have hnotrunning : a.status ≠ .running := by
      intro hr
      rcases hmatched with hnone | hsome
      · have := howned hr; rw [hnone] at this; exact absurd this (by simp)
      · exact hout ⟨hsome, .inr hr⟩
    unfold AutomationRun.startDelivery AutomationRun.startSc04 AutomationRun.startSc05
      AutomationRun.startSc20
    simp only [hbind, AutomationRun.withPublication]
    cases hmodule : a.module <;> cases hstatus : a.status <;>
      simp_all [RunStatus.isActive, RunStatus.isTerminal]

end Held

/-- **A guarded step of a delivery whose token is gone leaves the row alone.** -/
theorem held_unchanged (hs : Sound settings s) (howned : Owned s) (hx : Guarded s x)
    (hgone : Gone s r t) (hheld : HeldBy s x r t) :
    (s.step settings schedules x).runs r = s.runs r := by
  obtain ⟨-, a, ha, hout⟩ := hgone
  have hrow := (hs.rows r a ha).2
  rcases hheld with ⟨redelivered, now, rfl⟩ | ⟨worker, write, now, k, rfl, hk, rfl, ht⟩
  · dsimp only [step, perform]
    split
    · next hmessage =>
      obtain ⟨-, a', ha', hpending⟩ := hs.claims _ (hs.messages _ hmessage)
      obtain rfl := same_row ha ha' rfl
      have hignored := @startDelivery_ignored settings t a' hout hrow.queued (howned r a' ha)
        hpending hrow.awaiting redelivered now
      simp only [deliver, ha, hignored]
    · rfl
  · obtain ⟨hcurrent, hlocked⟩ := not_current hout (howned k.run a ha)
    have hsame : write.apply k.loaded now a = a := by
      refine workerWrite_fenced ht hcurrent hlocked write now fun n hn => ?_
      subst hn
      exact ht ▸ (hx k a hk ha).1
    dsimp only [step, perform]
    simp only [hk]
    split
    · simp [updateRun, ha, setRun, hsame]
    · rfl

/-- The reconciliation history of a row is the old one, or the old one and one more event. -/
def HistoryKept (a b : AutomationRun) : Prop :=
  b.metadata.reconciliationHistory = a.metadata.reconciliationHistory ∨
    ∃ e, b.metadata.reconciliationHistory =
      (a.metadata.withReconciliationEvent e).reconciliationHistory

theorem startDelivery_history {a b : AutomationRun} {redelivered : Bool} {now : ℕ}
    (h : (a.startDelivery (.uuid t) redelivered settings now).saved? = some b) : HistoryKept a b := by
  unfold AutomationRun.startDelivery AutomationRun.startSc04 AutomationRun.startSc05
    AutomationRun.startSc20 at h
  cases hbind : a.bindDelivery (.uuid t) with
  | none => cases hmodule : a.module <;> simp [hmodule, hbind, DeliveryStart.saved?] at h
  | some bound =>
    obtain ⟨-, rfl⟩ := bindDelivery_cases hbind
    simp only [hbind, AutomationRun.withPublication, AutomationRun.markRunning] at h
    cases hmodule : a.module <;> simp only [hmodule] at h
    · split_ifs at h <;> simp only [DeliveryStart.saved?, Option.some.injEq, reduceCtorEq] at h
      · exact .inr ⟨_, by rw [← h]⟩
      · exact .inr ⟨_, by rw [← h]⟩
      · exact .inl (by rw [← h])
    · split_ifs at h <;> simp only [DeliveryStart.saved?, Option.some.injEq, reduceCtorEq] at h
      · exact .inr ⟨_, by rw [← h]; rfl⟩
      · exact .inl (by rw [← h])
    · exact absurd h (by simp [DeliveryStart.saved?])
    · split_ifs at h <;> simp only [DeliveryStart.saved?, Option.some.injEq, reduceCtorEq] at h
      · exact .inr ⟨_, by rw [← h]; rfl⟩
      · exact .inl (by rw [← h])

theorem workerWrite_history {a loaded : AutomationRun} (write : WorkerWrite) (now : ℕ)
    (hwrite : ∀ n, write = .sc04IngestionFailures n →
      a.metadata.reconciliationHistory = loaded.metadata.reconciliationHistory) :
    HistoryKept a (write.apply loaded now a) := by
  refine .inl ?_
  cases write with
  | sc04IngestionFailures n => exact (hwrite n rfl).symm
  | touch => simp [WorkerWrite.apply]
  | sc04Recompute counts => simp only [WorkerWrite.apply, AutomationRun.recompute]; split <;> rfl
  | sc04UnhandledFailure exc =>
    simp only [WorkerWrite.apply, AutomationRun.finishUnhandledFailure]; split <;> rfl
  | sc05FinishSucceeded applied unchanged =>
    simp only [WorkerWrite.apply, AutomationRun.finishSucceededSc05]; split <;> rfl
  | sc05FinishFailed error failed =>
    simp only [WorkerWrite.apply, AutomationRun.finishFailedSc05]; split <;> rfl
  | sc20FinishRun retry result => simp only [WorkerWrite.apply, AutomationRun.finishRunSc20]; split <;> rfl
  | sc20UnhandledFailure ambiguous exc =>
    simp only [WorkerWrite.apply, AutomationRun.recordUnhandledFailureSc20]; split <;> rfl

/-- **A guarded step of a delivery loses nothing that the reconciler wrote.** -/
theorem held_history (hx : Guarded s x) (hheld : HeldBy s x r t) {a b : AutomationRun}
    (ha : s.runs r = some a) (hb : (s.step settings schedules x).runs r = some b) :
    HistoryKept a b := by
  have hsame : s.runs r = some b → HistoryKept a b := fun h => .inl (by rw [same_row ha h rfl])
  rcases hheld with ⟨redelivered, now, rfl⟩ | ⟨worker, write, now, k, rfl, hk, rfl, -⟩
  · dsimp only [step, perform] at hb
    split at hb
    · cases hstart : a.startDelivery (.uuid t) redelivered settings now with
      | ignored => simp only [deliver, ha, hstart] at hb; exact hsame (ha ▸ hb)
      | closed run | resumed run | started run =>
        have hrow : run = b := by simpa [deliver, ha, hstart, setRun] using hb
        exact startDelivery_history (by rw [hstart, ← hrow]; rfl)
    · exact hsame hb
  · dsimp only [step, perform] at hb
    simp only [hk] at hb
    split at hb
    · have hrow : write.apply k.loaded now a = b := by simpa [updateRun, ha, setRun] using hb
      refine hrow ▸ workerWrite_history write now fun n hn => ?_
      subst hn
      exact (hx k a hk ha).2
    · exact hsame hb

end RunTable

open RunTable

/-- **The fence of a superseded delivery.** Over every history whose steps are guarded:

* once a run has left `RUNNING` under a token, or its token has been replaced, no step of a
  delivery that holds this token changes any field of the row;
* no step of a delivery loses an entry that the reconciler wrote to the metadata. -/
theorem run_fenced (settings : Settings) (schedules : ScheduleSettings) :
    (∀ us vs ws x r t a b, GuardedHistory settings schedules (us ++ vs ++ ws ++ [x]) →
      (runTable settings schedules us).runs r = some a → a.taskId = some t →
      (runTable settings schedules (us ++ vs)).runs r = some b →
      (a.status = .running ∧ b.status ≠ .running) ∨ b.taskId ≠ some t →
      HeldBy (runTable settings schedules (us ++ vs ++ ws)) x r t →
      (runTable settings schedules (us ++ vs ++ ws ++ [x])).runs r =
        (runTable settings schedules (us ++ vs ++ ws)).runs r) ∧
    (∀ xs x r t a b, GuardedHistory settings schedules (xs ++ [x]) →
      HeldBy (runTable settings schedules xs) x r t →
      (runTable settings schedules xs).runs r = some a →
      (runTable settings schedules (xs ++ [x])).runs r = some b → HistoryKept a b) := by
  constructor
  · intro us vs ws x r t a b hguarded ha hat hb hleft hheld
    have hlt : t < (runTable settings schedules us).nextTaskId := ((sound_run us).rows r a ha).2.token t hat
    have hlt' : t < (runTable settings schedules (us ++ vs)).nextTaskId :=
      kept_run (P := fun s => t < s.nextTaskId) (fun _ _ _ h => Nat.lt_succ_of_lt h) hlt vs
    have hgone : Gone (runTable settings schedules (us ++ vs)) r t := by
      refine ⟨hlt', b, hb, ?_⟩
      rintro ⟨hbt, hqueued | hrunning⟩
      · rcases hleft with ⟨har, -⟩ | hne
        · -- a run that was running under the token is not in the queue under it again
          have hretired : Retired (runTable settings schedules us) r t :=
            ⟨hlt, a, ha, by rw [har]; exact fun h => absurd h.1 (by decide)⟩
          obtain ⟨-, b', hb', hout⟩ := retired_run hretired vs
          obtain rfl := same_row hb hb' rfl
          exact hout ⟨hqueued, hbt⟩
        · exact hne hbt
      · rcases hleft with ⟨-, hbr⟩ | hne
        · exact hbr hrunning
        · exact hne hbt
    have hprefix := guardedHistory_append hguarded
    rw [runTable_snoc]
    exact held_unchanged (sound_run _) (owned_run hprefix) (guardedHistory_last hguarded)
      (gone_run hprefix hgone) hheld
  · intro xs x r t a b hguarded hheld ha hb
    rw [runTable_snoc] at hb
    exact held_history (guardedHistory_last hguarded) hheld ha hb

/-- A triage of the inbox starts under its first token. -/
def startedTriage : List RunStep :=
  [.createQueued .sc04 0, .dispatchStart 0 0, .publish ⟨0, 0⟩, .deliver ⟨0, 0⟩ false 1]

/-- The reconciler recovers the orphan, and the heartbeat of its first delivery changes nothing. -/
theorem run_fenced_heartbeat :
    (runTable {} {} (startedTriage ++ [.reconcileOne 0 false false 5000] ++ [] ++
        [.work 0 .touch 6000])).runs 0 =
      (runTable {} {} (startedTriage ++ [.reconcileOne 0 false false 5000] ++ [])).runs 0 := by
  refine (run_fenced {} {}).1 startedTriage [.reconcileOne 0 false false 5000] [] (.work 0 .touch 6000)
    0 0 _ _ ⟨trivial, trivial, trivial, trivial, trivial, trivial, trivial⟩ rfl rfl rfl
    (.inr (by decide +kernel)) (.inr ⟨0, .touch, 6000, _, rfl, rfl, rfl, rfl⟩)

/-- What a field of the row of the only run is after a history. -/
def fieldAfter {α : Type} (field : AutomationRun → α) (xs : List RunStep) : Option α :=
  ((runTable {} {} xs).runs 0).map field

/-- **The two ways around the fence.** A superseded delivery that saves its ingestion failures loses
the recovery that the reconciler recorded. And after a review whose recomputation leaves the run
waiting for another, and this other one, the delivery that had lost the run ends it. -/
theorem fence_lost :
    (fieldAfter (·.status) startedTriage = some .running ∧
      fieldAfter (·.taskId) startedTriage = some (some 0) ∧
      fieldAfter (·.taskId) (startedTriage ++ [.reconcileOne 0 false false 5000]) = some (some 4) ∧
      HeldBy (runTable {} {} (startedTriage ++ [.reconcileOne 0 false false 5000]))
        (.work 0 (.sc04IngestionFailures 1) 5001) 0 0 ∧
      fieldAfter (·.metadata.reconciliationHistory.length)
        (startedTriage ++ [.reconcileOne 0 false false 5000]) = some 1 ∧
      fieldAfter (·.metadata.reconciliationHistory.length)
        (startedTriage ++ [.reconcileOne 0 false false 5000] ++
          [.work 0 (.sc04IngestionFailures 1) 5001]) = some 0) ∧
    (fieldAfter (·.status) (startedTriage ++ [.recompute 0 ⟨3, 0, 3, 1, 1, 1, 0, 0⟩ false 10]) =
        some .awaitingReview ∧
      HeldBy (runTable {} {} (startedTriage ++ [.recompute 0 ⟨3, 0, 3, 1, 1, 1, 0, 0⟩ false 10,
        .recompute 0 ⟨3, 0, 3, 2, 0, 1, 0, 0⟩ false 20]))
        (.work 0 (.sc04Recompute ⟨3, 0, 3, 3, 0, 0, 0, 0⟩) 30) 0 0 ∧
      fieldAfter (·.status) (startedTriage ++ [.recompute 0 ⟨3, 0, 3, 1, 1, 1, 0, 0⟩ false 10,
        .recompute 0 ⟨3, 0, 3, 2, 0, 1, 0, 0⟩ false 20]) = some .running ∧
      fieldAfter (·.status) (startedTriage ++ [.recompute 0 ⟨3, 0, 3, 1, 1, 1, 0, 0⟩ false 10,
        .recompute 0 ⟨3, 0, 3, 2, 0, 1, 0, 0⟩ false 20] ++
          [.work 0 (.sc04Recompute ⟨3, 0, 3, 3, 0, 0, 0, 0⟩) 30]) = some .succeeded) := by
  refine ⟨⟨by decide +kernel, by decide +kernel, by decide +kernel, ?_, by decide +kernel,
    by decide +kernel⟩, by decide +kernel, ?_, by decide +kernel, by decide +kernel⟩
  · exact .inr ⟨0, _, 5001, _, rfl, rfl, rfl, rfl⟩
  · exact .inr ⟨0, _, 30, _, rfl, rfl, rfl, rfl⟩

end SheepContabil
