import SheepContabil.Spec.Sc04Upload

/-!
# The manual upload that no pass takes

* `KeepsQueue`: a row that is in the queue after a transaction was there before, under the
  same token and with the same publication.
* `UploadKept`: while the request ingests nothing else has touched the run, and a run in the
  queue has a token that is published or has no publication.
* `run_neverRewinds`: both halves of the property, in every history in which no pass takes
  the run of an upload in progress; `stale_upload_rewound`: a history in which one does.
-/

namespace SheepContabil

open SC05Operation (Recovery)

/-- A row that a transaction leaves in the queue is as it was there. -/
def KeepsQueue (a b : AutomationRun) : Prop :=
  b.module = a.module ∧ (b.status = .queued →
    a.status = .queued ∧ b.taskId = a.taskId ∧ b.brokerPublishedAt = a.brokerPublishedAt)

namespace KeepsQueue

variable {a b : AutomationRun}

theorem refl : KeepsQueue a a := ⟨rfl, fun h => ⟨h, rfl, rfl⟩⟩

theorem of_left (module : b.module = a.module) (after : b.status ≠ .queued) : KeepsQueue a b :=
  ⟨module, fun hb => absurd hb after⟩

theorem of_failed (module : b.module = a.module) (after : b.status = .failed) : KeepsQueue a b := by
  refine .of_left module ?_
  rw [after]
  decide

theorem of_running (module : b.module = a.module) (after : b.status = .running) :
    KeepsQueue a b := by
  refine .of_left module ?_
  rw [after]
  decide

theorem of_same (module : b.module = a.module) (status : b.status = a.status)
    (taskId : b.taskId = a.taskId) (published : b.brokerPublishedAt = a.brokerPublishedAt) :
    KeepsQueue a b := by
  refine ⟨module, fun hb => ⟨?_, taskId, published⟩⟩
  rw [← status, hb]

end KeepsQueue

section Rows

variable (a : AutomationRun)

theorem recomputedStatus_not_queued (counts : SC04Counts) (preserve : Bool) (now : ℕ) :
    (a.recomputedStatus counts preserve now).1 ≠ .queued := by
  unfold AutomationRun.recomputedStatus
  dsimp only
  split
  · next h =>
    have hterminal : a.status.isTerminal = true := by
      simp only [Bool.and_eq_true] at h
      exact h.2
    intro hqueued
    rw [show a.status = .queued from hqueued] at hterminal
    exact absurd hterminal (by decide)
  · repeat' split
    all_goals simp

theorem recompute_keepsQueue (counts : SC04Counts) (expected : Option TaskId) (preserve : Bool)
    (now : ℕ) : KeepsQueue a (a.recompute counts expected preserve now) := by
  unfold AutomationRun.recompute
  split
  · exact .refl
  · exact .of_left rfl (recomputedStatus_not_queued a counts preserve now)

theorem recordDispatchFailure_keepsQueue (t : TaskId) (exc : String) (now : ℕ) :
    KeepsQueue a (a.recordDispatchFailure t .failed exc now) := by
  unfold AutomationRun.recordDispatchFailure
  split
  · exact .of_failed rfl rfl
  · exact .refl

theorem recordRecoveryPublishFailure_keepsQueue (t : TaskId) (exc : String) (now : ℕ) :
    KeepsQueue a (a.recordRecoveryPublishFailure t exc now) := by
  unfold AutomationRun.recordRecoveryPublishFailure
  split
  · exact .of_same rfl rfl rfl rfl
  · exact .refl

theorem failEmptyRecoveredSc04_keepsQueue (now : ℕ) :
    KeepsQueue a (a.failEmptyRecoveredSc04 now) := by
  unfold AutomationRun.failEmptyRecoveredSc04
  split
  · exact .of_failed rfl rfl
  · exact .refl

/-- `dispatch_run` takes the token that the run has in the queue. -/
theorem dispatchStart_row {now : ℕ} {fresh t : TaskId} {b : AutomationRun} {P : TaskId → Prop}
    (h : a.dispatchStart now fresh = (.started t, b))
    (hwaiting : a.status = .queued → ∃ u, a.taskId = some u ∧ P u) :
    KeepsQueue a b ∧ b.taskId = a.taskId := by
  unfold AutomationRun.dispatchStart at h
  split at h
  · cases h
  · next hstatus =>
    have hqueued : a.status = .queued := by simpa using hstatus
    obtain ⟨u, hu, -⟩ := hwaiting hqueued
    split at h
    · split at h <;> cases h
    · cases h
      have htask : some (a.taskId.getD fresh) = a.taskId := by rw [hu]; rfl
      exact ⟨.of_same rfl rfl htask rfl, htask⟩

/-- The writes of a worker of SC-04 never put its run in the queue. -/
theorem workerWrite_keepsQueue (loaded : AutomationRun) (write : WorkerWrite)
    (hwrite : write.belongs .sc04 = true) (now : ℕ) : KeepsQueue a (write.apply loaded now a) := by
  cases write with
  | touch =>
    refine .of_same ?_ (a.touchRun_status _ _) (a.touchRun_taskId _ _)
      (a.touchRun_brokerPublishedAt _ _)
    show (a.touchRun loaded.taskId now).module = a.module
    unfold AutomationRun.touchRun
    split <;> rfl
  | sc04IngestionFailures n => exact .of_same rfl rfl rfl rfl
  | sc04Recompute counts => exact recompute_keepsQueue a counts _ false now
  | sc04UnhandledFailure exc =>
    show KeepsQueue a (a.finishUnhandledFailure exc loaded.taskId now)
    unfold AutomationRun.finishUnhandledFailure
    split
    · exact .of_failed rfl rfl
    · exact .refl
  | sc05FinishSucceeded | sc05FinishFailed | sc20FinishRun | sc20UnhandledFailure =>
    exact absurd hwrite Bool.false_ne_true

/-- A delivery that starts, resumes or closes the run takes it out of the queue. -/
theorem startSc04_keepsQueue (settings : Settings) (t : TaskId) (redelivered : Bool) (now : ℕ)
    {b : AutomationRun}
    (h : (a.startSc04 (.uuid t) redelivered settings now).saved? = some b) : KeepsQueue a b := by
  revert h
  unfold AutomationRun.startSc04 AutomationRun.bindDelivery
  dsimp only
  split
  · intro h
    cases h
  · next bound hbound =>
    have hmodule : bound.module = a.module := by
      split at hbound
      · cases hbound
        rfl
      · cases hbound
    have hrow : ∀ run : AutomationRun, run.module = bound.module → run.status = .failed ∨
        run.status = .running → KeepsQueue a run := by
      intro run hrun hstatus
      rcases hstatus with hstatus | hstatus
      · exact .of_failed (hrun.trans hmodule) hstatus
      · exact .of_running (hrun.trans hmodule) hstatus
    split
    · next hrunning =>
      split
      · intro h
        cases h
        exact hrow _ rfl (.inl rfl)
      · intro h
        cases h
        exact hrow _ rfl (.inr hrunning.1)
    · split
      · intro h
        cases h
        exact hrow _ rfl (.inr rfl)
      · intro h
        cases h

/-- The reconciler takes a new token, without a publication, or leaves the queue as it is. -/
theorem reconcileOne_queue (settings : Settings) (now : ℕ) (hasNewItems : Bool) (fresh : TaskId)
    (hmodule : a.module = .sc04) :
    ((a.reconcileOne false settings now hasNewItems fresh).1 = .requeued fresh ∧
      (a.reconcileOne false settings now hasNewItems fresh).2.module = a.module ∧
      (a.reconcileOne false settings now hasNewItems fresh).2.taskId = some fresh ∧
      (a.reconcileOne false settings now hasNewItems fresh).2.brokerPublishedAt = none) ∨
    ((∀ t, (a.reconcileOne false settings now hasNewItems fresh).1 ≠ .requeued t) ∧
      KeepsQueue a (a.reconcileOne false settings now hasNewItems fresh).2) := by
  unfold AutomationRun.reconcileOne AutomationRun.exhaustQueuedRun
  split
  · exact .inr ⟨by simp, .refl⟩
  · simp only [hmodule]
    split
    · split
      · exact .inl ⟨rfl, hmodule, rfl, rfl⟩
      · exact .inr ⟨by simp, .of_failed rfl rfl⟩
    · split
      · exact .inr ⟨by simp, .of_failed rfl rfl⟩
      · exact .inl ⟨rfl, hmodule, rfl, rfl⟩
    · split
      · exact .inr ⟨by simp, .of_failed rfl rfl⟩
      · exact .inl ⟨rfl, hmodule, rfl, rfl⟩

end Rows

/-- **What holds of the run, the request and the passes** while no pass takes an upload. -/
structure UploadKept (s : UploadState) : Prop where
  module : s.run.module = .sc04
  untouched : s.request = .ingesting → s.run.status = .pending ∧ s.run.brokerPublishedAt = none ∧
    s.passes = [] ∧ s.messages = [] ∧ s.workers = []
  dispatched : ∀ t, s.request = .dispatching (.returned t) → t ∈ s.messages
  claimed : ∀ t, .publishing (.returned t) ∈ s.passes → t ∈ s.messages
  waiting : s.run.status = .queued →
    ∃ t, s.run.taskId = some t ∧ (s.run.brokerPublishedAt = none ∨ t ∈ s.messages)

namespace UploadKept

variable {s : UploadState}

theorem of_created (now : ℕ) : UploadKept (.created now) where
  module := rfl
  untouched _ := ⟨rfl, rfl, rfl, rfl, rfl⟩
  dispatched t h := by cases h
  claimed t h := by cases h
  waiting h := by cases h

/-- A transaction that leaves the queue as it is, when the request no longer ingests. -/
theorem setRun (h : UploadKept s) (hs : s.request ≠ .ingesting) {b : AutomationRun}
    (hb : KeepsQueue s.run b) : UploadKept { s with run := b } where
  module := hb.1.trans h.module
  untouched hin := absurd hin hs
  dispatched := h.dispatched
  claimed := h.claimed
  waiting hq := by
    obtain ⟨hqueued, htask, hpublished⟩ := hb.2 hq
    obtain ⟨t, ht, hbroker⟩ := h.waiting hqueued
    refine ⟨t, htask.trans ht, ?_⟩
    rwa [show ({ s with run := b } : UploadState).run.brokerPublishedAt = _ from hpublished]

/-- The request goes on. -/
theorem setRequest (h : UploadKept s) {request : UploadRequest} (hne : request ≠ .ingesting)
    (hreturned : ∀ t, request = .dispatching (.returned t) → t ∈ s.messages) :
    UploadKept { s with request } where
  module := h.module
  untouched hin := absurd hin hne
  dispatched := hreturned
  claimed := h.claimed
  waiting := h.waiting

/-- A pass goes on. -/
theorem setPass (h : UploadKept s) (pass : ℕ) {stage : PassStage}
    (hreturned : ∀ t, stage = .publishing (.returned t) → t ∈ s.messages) :
    UploadKept (s.setPass pass stage) where
  module := h.module
  untouched hin := by
    obtain ⟨hpending, hbroker, hpasses, hrest⟩ := h.untouched hin
    refine ⟨hpending, hbroker, ?_, hrest⟩
    show s.passes.set pass stage = []
    rw [hpasses]
    rfl
  dispatched := h.dispatched
  claimed t ht := by
    rcases List.mem_or_eq_of_mem_set ht with hold | hnew
    · exact h.claimed t hold
    · exact hreturned t hnew.symm
  waiting := h.waiting

theorem of_ended {t : TaskId} (h : PassStage.ended = .publishing (.returned t)) : t ∈ s.messages := by
  cases h

/-- The broker takes a message, when the request no longer ingests. -/
theorem accept (h : UploadKept s) (hs : s.request ≠ .ingesting) (t : TaskId)
    (outcome : BrokerOutcome) : UploadKept (s.accept t outcome) := by
  have hgrown : UploadKept { s with messages := s.messages ++ [t] } := by
    refine ⟨h.module, fun hin => absurd hin hs, fun u hu => ?_, fun u hu => ?_, fun hq => ?_⟩
    · exact List.mem_append_left _ (h.dispatched u hu)
    · exact List.mem_append_left _ (h.claimed u hu)
    · obtain ⟨u, hu, hbroker⟩ := h.waiting hq
      exact ⟨u, hu, hbroker.imp_right (List.mem_append_left _)⟩
  cases outcome with
  | refused => exact h
  | accepted | acceptedAndRaised => exact hgrown

theorem accept_returned {t u : TaskId} {outcome : BrokerOutcome}
    (h : Publication.afterCall t outcome = .returned u) : u ∈ (s.accept t outcome).messages := by
  cases outcome with
  | accepted =>
    cases h
    exact List.mem_append_right _ (List.mem_singleton.2 rfl)
  | acceptedAndRaised | refused => cases h

/-- The confirmation of a message that the broker has. -/
theorem confirm (h : UploadKept s) (hs : s.request ≠ .ingesting) {t : TaskId}
    (ht : t ∈ s.messages) (now : ℕ) :
    UploadKept { s with run := s.run.recordDispatchSuccess t now } := by
  unfold AutomationRun.recordDispatchSuccess
  split
  · next htask =>
    refine ⟨h.module, fun hin => absurd hin hs, h.dispatched, h.claimed, fun _ => ?_⟩
    exact ⟨t, by simpa using htask, .inr ht⟩
  · exact h

/-- A request that a pass or a delivery has found is past its ingestion. -/
theorem notIngesting_of_pass (h : UploadKept s) {pass : ℕ} {stage : PassStage}
    (hpass : s.passes[pass]? = some stage) : s.request ≠ .ingesting := by
  intro hin
  rw [(h.untouched hin).2.2.1] at hpass
  cases hpass

theorem mem_of_pass {pass : ℕ} {stage : PassStage} (hpass : s.passes[pass]? = some stage) :
    stage ∈ s.passes := List.mem_of_getElem? hpass

theorem reconcileOne (h : UploadKept s) (settings : Settings) (hasNewItems : Bool) (now : ℕ)
    (hs : s.request ≠ .ingesting) : UploadKept (s.reconcileOne settings hasNewItems now) := by
  unfold UploadState.reconcileOne
  rcases reconcileOne_queue s.run settings now hasNewItems s.nextTaskId h.module with
    ⟨hclaim, hmodule, htask, hbroker⟩ | ⟨hkeep, hrow⟩
  · generalize s.run.reconcileOne false settings now hasNewItems s.nextTaskId = decision at *
    obtain ⟨recovery, run⟩ := decision
    dsimp only at hclaim hmodule htask hbroker ⊢
    rw [hclaim]
    refine ⟨hmodule.trans h.module, fun hin => absurd hin hs, h.dispatched, fun t ht => ?_,
      fun _ => ⟨_, htask, .inl hbroker⟩⟩
    rcases List.mem_append.1 ht with hold | hnew
    · exact h.claimed t hold
    · simp at hnew
  · generalize s.run.reconcileOne false settings now hasNewItems s.nextTaskId = decision at *
    obtain ⟨recovery, run⟩ := decision
    have hrun := h.setRun hs hrow
    cases recovery with
    | requeued t => exact absurd rfl (hkeep t)
    | failed =>
      dsimp only
      split
      · exact hrun
      · refine ⟨hrun.module, fun hin => absurd hin hs, h.dispatched,
          fun t ht => ?_, hrun.waiting⟩
        rcases List.mem_append.1 ht with hold | hnew
        · exact h.claimed t hold
        · simp at hnew
    | skipped | quarantined => exact hrun

theorem deliver (h : UploadKept s) (settings : Settings) (t : TaskId) (redelivered : Bool)
    (now : ℕ) (hs : s.request ≠ .ingesting) : UploadKept (s.deliver settings t redelivered now) := by
  have hrow : ∀ b, (s.run.startDelivery (.uuid t) redelivered settings now).saved? = some b →
      KeepsQueue s.run b := by
    intro b hb
    refine startSc04_keepsQueue s.run settings t redelivered now ?_
    simpa [AutomationRun.startDelivery, h.module] using hb
  have hworker : ∀ b, KeepsQueue s.run b →
      UploadKept { s with run := b, workers := s.workers ++ [b] } := by
    intro b hb
    have hrun := h.setRun hs hb
    exact ⟨hrun.module, fun hin => absurd hin hs, hrun.dispatched, hrun.claimed, hrun.waiting⟩
  unfold UploadState.deliver
  generalize s.run.startDelivery (.uuid t) redelivered settings now = start at *
  cases start with
  | ignored => exact h
  | closed b => exact h.setRun hs (hrow b rfl)
  | resumed b | started b => exact hworker b (hrow b rfl)

/-- **A step of a history in which no pass takes the upload.** -/
theorem perform (h : UploadKept s) (settings : Settings) (x : UploadStep)
    (hx : s.takesUpload settings x = false) : UploadKept (s.perform settings x) := by
  cases x with
  | queue now =>
    dsimp only [UploadState.perform]
    split
    · next hin =>
      -- nothing but the request knows the run yet
      obtain ⟨-, hbroker, hpasses, -, -⟩ := h.untouched hin
      refine ⟨h.module, fun h' => (by cases h'), fun t h' => (by cases h'), fun t ht => ?_,
        fun _ => ⟨_, rfl, .inl hbroker⟩⟩
      exact h.claimed t ht
    · exact h
  | failUpload exc safeMessage now =>
    dsimp only [UploadState.perform]
    split
    · refine ⟨h.module, fun h' => (by cases h'), fun t h' => (by cases h'), h.claimed, fun hq => ?_⟩
      cases hq
    · exact h
  | recomputeUpload counts now =>
    dsimp only [UploadState.perform]
    split
    · have hover : UploadKept { s with request := .ended } := h.setRequest (by simp) (by simp)
      exact hover.setRun (by simp) (recompute_keepsQueue s.run counts none false now)
    · exact h
  | dispatchStart now =>
    dsimp only [UploadState.perform]
    split
    · next hq =>
      have hs : s.request ≠ .ingesting := by simp [hq]
      have hover : UploadKept { s with request := .ended } := h.setRequest (by simp) (by simp)
      split
      · next t run hstart =>
        have hrow := (dispatchStart_row s.run hstart h.waiting).1
        exact (h.setRun hs hrow).setRequest (by simp) (by simp)
      · exact hover
    · exact h
  | publish outcome =>
    dsimp only [UploadState.perform]
    split
    · next t hrequest =>
      have hs : s.request ≠ .ingesting := by simp [hrequest]
      refine (h.accept hs t outcome).setRequest (by simp) fun u hu => ?_
      exact accept_returned (by simpa using hu)
    · exact h
  | recordDispatch exc now =>
    dsimp only [UploadState.perform]
    have hover : UploadKept { s with request := .ended } := h.setRequest (by simp) (by simp)
    split
    · next t hrequest => exact hover.confirm (by simp) (h.dispatched t hrequest) now
    · next t hrequest =>
      exact hover.setRun (by simp) (recordDispatchFailure_keepsQueue s.run t exc now)
    · exact h
  | crashRequest => exact h.setRequest (by simp) (by simp)
  | reconcileOne hasNewItems now =>
    by_cases hin : s.request = .ingesting
    · have hfresh : s.run.isStillStale ((now : ℤ) - settings.queuedStaleAfterSeconds)
          ((now : ℤ) - settings.runningStaleAfterSeconds) = false := by
        simpa [UploadState.takesUpload, hin] using hx
      have hskip : s.run.reconcileOne false settings now hasNewItems s.nextTaskId =
          (.skipped, s.run) := by
        simp [AutomationRun.reconcileOne, hfresh]
      show UploadKept (s.reconcileOne settings hasNewItems now)
      unfold UploadState.reconcileOne
      rw [hskip]
      exact h
    · exact h.reconcileOne settings hasNewItems now hin
  | recordInspectionFailure exc now =>
    exact ⟨h.module, h.untouched, h.dispatched, h.claimed, h.waiting⟩
  | recomputeRecovered pass counts now =>
    dsimp only [UploadState.perform]
    split
    · next hpass =>
      have hs := h.notIngesting_of_pass hpass
      refine (h.setPass pass ?_).setRun hs (recompute_keepsQueue s.run counts none true now)
      intro t ht
      split at ht <;> cases ht
    · exact h
  | failEmptyRecovered pass now =>
    dsimp only [UploadState.perform]
    split
    · next hpass =>
      have hs := h.notIngesting_of_pass hpass
      exact (h.setPass pass fun _ => of_ended).setRun hs (failEmptyRecoveredSc04_keepsQueue s.run now)
    · exact h
  | publishClaimed pass outcome =>
    dsimp only [UploadState.perform]
    split
    · next t hpass =>
      have hs := h.notIngesting_of_pass hpass
      refine (h.accept hs t outcome).setPass pass fun u hu => ?_
      exact accept_returned (by simpa using hu)
    · exact h
  | confirmClaimed pass now =>
    dsimp only [UploadState.perform]
    split
    · next t hpass =>
      have hs := h.notIngesting_of_pass hpass
      have ht := h.claimed t (mem_of_pass hpass)
      exact (h.setPass pass fun _ => of_ended).confirm hs ht now
    · exact h
  | recordPublishFailure pass exc now =>
    dsimp only [UploadState.perform]
    have hrow : ∀ t stage, s.passes[pass]? = some stage →
        UploadKept { s.setPass pass .ended with run := s.run.recordRecoveryPublishFailure t exc now } :=
      fun t stage hpass => (h.setPass pass fun _ => of_ended).setRun (h.notIngesting_of_pass hpass)
        (recordRecoveryPublishFailure_keepsQueue s.run t exc now)
    split
    · next t hpass => exact hrow t _ hpass
    · next t hpass => exact hrow t _ hpass
    · exact h
  | crashPass pass => exact h.setPass pass fun _ => of_ended
  | deliver t redelivered now =>
    dsimp only [UploadState.perform]
    split
    · next ht =>
      refine h.deliver settings t redelivered now fun hin => ?_
      rw [(h.untouched hin).2.2.2.1] at ht
      cases ht
    · exact h
  | work worker write now =>
    dsimp only [UploadState.perform]
    split
    · exact h
    · next loaded hworker =>
      split
      · next hwrite =>
        refine h.setRun (fun hin => ?_) (workerWrite_keepsQueue s.run loaded write hwrite now)
        rw [(h.untouched hin).2.2.2.2] at hworker
        cases hworker
      · exact h

/-- **A history in which no pass takes the upload.** -/
theorem after (h : UploadKept s) (settings : Settings) (xs : List UploadStep)
    (hxs : s.LeavesUpload settings xs) : UploadKept (s.after settings xs) := by
  induction xs generalizing s with
  | nil => exact h
  | cons x xs ih =>
    have hkept := h.perform settings x hxs.1
    have hstep : UploadKept (s.step settings x) :=
      ⟨hkept.module, hkept.untouched, hkept.dispatched, hkept.claimed, hkept.waiting⟩
    exact ih hstep hxs.2

theorem neverRewinds (h : UploadKept s) (settings : Settings) : s.NeverRewinds settings := by
  intro x hx hmoved
  -- a transaction that keeps the token and enters no queue moves nothing
  have hstays : ∀ b : AutomationRun, (b.status = .queued → s.run.status = .queued) →
      b.taskId = s.run.taskId → (s.step settings x).run = b → s.run.status = .pending := by
    intro b hstatus htask hb
    rw [hb] at hmoved
    rcases hmoved with ⟨hbefore, hafter⟩ | hother
    · exact absurd (hstatus hafter) hbefore
    · exact absurd htask hother
  cases x with
  | queue now =>
    by_cases hin : s.request = .ingesting
    · exact (h.untouched hin).1
    · refine hstays s.run id rfl ?_
      simp [UploadState.step, UploadState.perform, hin]
  | failUpload exc safeMessage now =>
    by_cases hin : s.request = .ingesting
    · refine hstays (s.run.failBeforeProcessing exc safeMessage now) (fun hq => by cases hq) rfl ?_
      simp [UploadState.step, UploadState.perform, hin]
    · refine hstays s.run id rfl ?_
      simp [UploadState.step, UploadState.perform, hin]
  | recomputeUpload counts now =>
    by_cases hin : s.request = .ingesting
    · have htask : (s.run.recompute counts none false now).taskId = s.run.taskId := by
        unfold AutomationRun.recompute
        split <;> rfl
      refine hstays _ (fun hq => ?_) htask ?_
      · exact ((recompute_keepsQueue s.run counts none false now).2 hq).1
      · simp [UploadState.step, UploadState.perform, hin]
    · refine hstays s.run id rfl ?_
      simp [UploadState.step, UploadState.perform, hin]
  | dispatchStart now =>
    by_cases hq : s.request = .queued
    · cases hstart : s.run.dispatchStart now s.nextTaskId with
      | mk decision b =>
        cases decision with
        | started t =>
          obtain ⟨hrow, htask⟩ := dispatchStart_row s.run hstart h.waiting
          refine hstays b (fun hb => (hrow.2 hb).1) htask ?_
          simp [UploadState.step, UploadState.perform, hq, hstart]
        | refused | existing t =>
          refine hstays s.run id rfl ?_
          simp [UploadState.step, UploadState.perform, hq, hstart]
    · refine hstays s.run id rfl ?_
      simp [UploadState.step, UploadState.perform, hq]
  | publish outcome =>
    refine hstays s.run id rfl ?_
    dsimp only [UploadState.step, UploadState.perform]
    split
    · cases outcome <;> rfl
    · rfl
  | recordDispatch exc now =>
    have hsuccess : ∀ t, (s.run.recordDispatchSuccess t now).status = s.run.status ∧
        (s.run.recordDispatchSuccess t now).taskId = s.run.taskId := by
      intro t
      unfold AutomationRun.recordDispatchSuccess
      split <;> exact ⟨rfl, rfl⟩
    have hfailure : ∀ t, (s.run.recordDispatchFailure t .failed exc now).taskId = s.run.taskId := by
      intro t
      unfold AutomationRun.recordDispatchFailure
      split <;> rfl
    dsimp only [UploadState.step, UploadState.perform] at hstays
    split at hstays
    · next t _ => exact hstays _ (fun hq => (hsuccess t).1 ▸ hq) (hsuccess t).2 rfl
    · next t _ =>
      have hrow := recordDispatchFailure_keepsQueue s.run t exc now
      exact hstays _ (fun hq => (hrow.2 hq).1) (hfailure t) rfl
    · exact hstays s.run id rfl rfl
  | _ => exact absurd hx Bool.false_ne_true

theorem recoverable (h : UploadKept s) : s.Recoverable := by
  intro _ hqueued
  obtain ⟨t, ht, hbroker | hmessage⟩ := h.waiting hqueued
  · refine .inr ⟨hbroker, ((s.run.dispatchStartedAt.or s.run.queuedAt).getD s.run.createdAt : ℕ),
      fun queuedCutoff runningCutoff hcutoff => ?_⟩
    simpa [AutomationRun.isStillStale, h.module, hqueued, hbroker] using hcutoff
  · exact .inl ⟨t, hmessage, ht⟩

/-- A pass that takes the upload is always a pass too many: the request will take the run back. -/
theorem takesUpload_rewinds (h : UploadKept s) (settings : Settings) {x : UploadStep}
    (hx : s.takesUpload settings x = true) : ¬ (s.step settings x).NeverRewinds settings := by
  cases x with
  | reconcileOne hasNewItems now =>
    simp only [UploadState.takesUpload, Bool.and_eq_true, beq_iff_eq] at hx
    obtain ⟨hin, hstale⟩ := hx
    obtain ⟨hpending, -⟩ := h.untouched hin
    have htaken : (s.step settings (.reconcileOne hasNewItems now)).request = .ingesting ∧
        (s.step settings (.reconcileOne hasNewItems now)).run.status ≠ .pending ∧
        (s.step settings (.reconcileOne hasNewItems now)).run.taskId ≠ some (s.nextTaskId + 1) := by
      cases hasNewItems <;>
        simp [UploadState.step, UploadState.perform, UploadState.reconcileOne, hin, hstale, hpending,
          AutomationRun.reconcileOne, AutomationRun.claimRecovery, AutomationRun.failPendingSc04]
    obtain ⟨hrequest, hstatus, htask⟩ := htaken
    -- the second transaction of the request takes the next token
    have hqueue : ((s.step settings (.reconcileOne hasNewItems now)).step settings
        (.queue now)).run.taskId = some (s.nextTaskId + 1) := by
      generalize hs' : s.step settings (.reconcileOne hasNewItems now) = s' at *
      have hnext : s'.nextTaskId = s.nextTaskId + 1 := by rw [← hs']; rfl
      simp [UploadState.step, UploadState.perform, hrequest, hnext, AutomationRun.queueManualSc04]
    intro hnever
    refine hstatus (hnever (.queue now) rfl (.inr ?_))
    rw [hqueue]
    exact htask.symm
  | _ => exact absurd hx Bool.false_ne_true

end UploadKept

/-- **The request moves its run from `PENDING` only, and leaves nothing stuck in the queue**, in
every history in which no pass of the reconciler finds the run `PENDING` and stale before the
request has ingested its document. -/
theorem run_neverRewinds (settings : Settings) (createdAt : ℕ) (xs : List UploadStep)
    (hxs : (UploadState.created createdAt).LeavesUpload settings xs) :
    ((UploadState.created createdAt).after settings xs).NeverRewinds settings ∧
      ((UploadState.created createdAt).after settings xs).Recoverable := by
  have hkept := (UploadKept.of_created createdAt).after settings xs hxs
  exact ⟨hkept.neverRewinds settings, hkept.recoverable⟩

theorem run_neverRewinds_delivered :
    ((UploadState.created 0).after {} [.reconcileOne false 10, .queue 11, .dispatchStart 12,
      .publish .accepted, .recordDispatch "" 13]).NeverRewinds {} ∧
    ((UploadState.created 0).after {} [.reconcileOne false 10, .queue 11, .dispatchStart 12,
      .publish .accepted, .recordDispatch "" 13]).Recoverable :=
  run_neverRewinds {} 0 _ ⟨rfl, rfl, rfl, rfl, rfl, trivial⟩

/-- A pass requeues the run of an upload that takes too long, and the request rewinds it. The run
is then in the queue under a token that was never published, with the publication of the token
before it, and no pass will find it. -/
theorem stale_upload_rewound :
    ¬ ((UploadState.created 0).after {} [.reconcileOne true 1800]).NeverRewinds {} ∧
    ¬ ((UploadState.created 0).after {} [.reconcileOne true 1800, .publishClaimed 0 .accepted,
      .confirmClaimed 0 1800, .queue 1801, .dispatchStart 1802]).Recoverable := by
  refine ⟨fun h => ?_, fun h => ?_⟩
  · have hpending := h (.queue 1801) rfl (.inr (by decide +kernel))
    exact absurd hpending (by decide +kernel)
  · have hstuck := h ⟨rfl, by decide +kernel⟩ rfl
    rcases hstuck with ⟨t, ht, htask⟩ | ⟨hbroker, -⟩
    · have hold : t = 0 := List.mem_singleton.1 ht
      subst hold
      exact absurd htask (by decide +kernel)
    · exact absurd hbroker (by decide +kernel)

end SheepContabil
