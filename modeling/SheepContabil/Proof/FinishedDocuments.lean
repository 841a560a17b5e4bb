import SheepContabil.Proof.ReviewDuringDelivery
import SheepContabil.Spec.Sc04Lifecycle

/-!
# The documents of a run that is over

* `KeepsEnd`: a transaction that neither ends the run nor counts a failure.
* `recomputedStatus_finished`: what a recomputation that ends the run has counted.
* `LifecycleState.not_finishes_of_abandons`: a step that abandons a document;
  `LifecycleKept.step`: one that does not.
* `run_finishes_iff`: the property, in exactly the histories in which no step abandons a
  document; `lost_dispatch_strands`: a publication that fails.
-/

namespace SheepContabil

open SC05Operation (Recovery)

/-- A transaction that neither ends the run nor counts a failure of its ingestion. -/
structure KeepsEnd (a b : AutomationRun) : Prop where
  module : b.module = a.module
  status : b.status = a.status ∨ b.status.isFinished = false
  failures : b.ingestionFailures = a.ingestionFailures

section Rows

variable (a : AutomationRun)

theorem KeepsEnd.refl : KeepsEnd a a := ⟨rfl, .inl rfl, rfl⟩

theorem touchRun_keepsEnd (t : Option TaskId) (now : ℕ) : KeepsEnd a (a.touchRun t now) := by
  unfold AutomationRun.touchRun
  split <;> exact ⟨rfl, .inl rfl, rfl⟩

theorem recordDispatchSuccess_keepsEnd (t : TaskId) (now : ℕ) :
    KeepsEnd a (a.recordDispatchSuccess t now) := by
  unfold AutomationRun.recordDispatchSuccess
  split <;> exact ⟨rfl, .inl rfl, rfl⟩

theorem recordRecoveryPublishFailure_keepsEnd (t : TaskId) (exc : String) (now : ℕ) :
    KeepsEnd a (a.recordRecoveryPublishFailure t exc now) := by
  unfold AutomationRun.recordRecoveryPublishFailure
  split <;> exact ⟨rfl, .inl rfl, rfl⟩

theorem dispatchStart_keepsEnd {now : ℕ} {fresh t : TaskId} {b : AutomationRun}
    (h : a.dispatchStart now fresh = (.started t, b)) : KeepsEnd a b := by
  obtain ⟨hmodule, hstatus, hmetadata⟩ := dispatchStart_same a h
  refine ⟨hmodule, .inl hstatus, ?_⟩
  unfold AutomationRun.ingestionFailures
  rw [hmetadata]

/-- A recomputation that ends the run has found no document in progress, and one that finds a
success no document that was not routed. -/
theorem recomputedStatus_finished (counts : SC04Counts) (preserve : Bool) (now : ℕ)
    (h : (a.recomputedStatus counts preserve now).1.isFinished = true) :
    (a.recomputedStatus counts preserve now).1 = a.status ∨
      counts.awaitingReview = 0 ∧ counts.inProgress = 0 ∧
        ((a.recomputedStatus counts preserve now).1 = .succeeded →
          (a.recomputedResult counts).failed = 0) := by
  unfold AutomationRun.recomputedStatus at h ⊢
  dsimp only at h ⊢
  split
  · exact .inl rfl
  · next hkeep =>
    rw [if_neg hkeep] at h
    split
    · next hreview =>
      rw [if_pos hreview] at h
      cases h
    · next hreview =>
      rw [if_neg hreview] at h
      split
      · next hprogress =>
        rw [if_pos hprogress] at h
        cases h
      · next hprogress =>
        refine .inr ⟨not_not.1 hreview, not_not.1 hprogress, fun hsucceeded => ?_⟩
        split at hsucceeded
        · cases hsucceeded
        · split at hsucceeded
          · cases hsucceeded
          · next hfailed => exact not_not.1 hfailed

end Rows

namespace LifecycleState

variable {s : LifecycleState}

/-- A document that is not in progress, does not await review and has not failed is routed. -/
theorem routed_of_counts {x : RunDocument} (hprogress : x.isInProgress = false)
    (hreview : x.status ≠ .awaitingReview) (hfailed : x.status ≠ .failed) : x.status = .routed := by
  cases hx : x.status with
  | routed => rfl
  | awaitingReview => exact absurd hx hreview
  | failed => exact absurd hx hfailed
  | queued | processing => simp [RunDocument.isInProgress, hx] at hprogress

theorem not_inProgress_of_counts {others : OtherItems} (h : (s.counts others).inProgress = 0) :
    ∀ x ∈ s.documents, x.isInProgress = false := by
  intro x hx
  have hnone := List.countP_eq_zero.1 (h : s.documents.countP (·.isInProgress) = 0) x hx
  simpa using hnone

theorem Finishes.of_unfinished (h : s.run.status.isFinished = false) : s.Finishes := by
  refine ⟨fun hend => ?_, fun hsucceeded => ?_⟩
  · rw [h] at hend
    cases hend
  · rw [hsucceeded] at h
    cases h

/-- A run that has not succeeded needs nothing but documents that are over. -/
theorem Finishes.of_left (h : s.run.status ≠ .succeeded)
    (hleft : ∀ d ∈ s.documents, d.isInProgress = false) : s.Finishes :=
  ⟨fun _ => hleft, fun hsucceeded => absurd hsucceeded h⟩

theorem Finishes.recompute (h : s.Finishes) (others : OtherItems) (expected : Option TaskId)
    (preserve : Bool) (now : ℕ) : (s.recompute others expected preserve now).Finishes := by
  unfold LifecycleState.recompute AutomationRun.recompute
  split
  · exact h
  · by_cases hend : (s.run.recomputedStatus (s.counts others) preserve now).1.isFinished = true
    · rcases recomputedStatus_finished s.run _ preserve now hend with hsame | ⟨hreview, hprogress, hok⟩
      · refine ⟨fun _ => h.1 (hsame ▸ hend), fun hsucceeded => ?_⟩
        exact h.2 (hsame.symm.trans hsucceeded)
      · have hleft := not_inProgress_of_counts hprogress
        refine ⟨fun _ => hleft, fun hsucceeded => ?_⟩
        have hfailed := hok hsucceeded
        obtain ⟨hdocuments, hingestion⟩ : s.documents.countP (·.status == .failed) = 0 ∧
            s.run.ingestionFailures = 0 := by
          simp only [AutomationRun.recomputedResult, Nat.add_eq_zero_iff] at hfailed
          exact hfailed.1
        refine ⟨fun x hx => routed_of_counts (hleft x hx) ?_ ?_, hingestion⟩
        · have hnone := List.countP_eq_zero.1
            (hreview : s.documents.countP (·.status == .awaitingReview) = 0) x hx
          simpa using hnone
        · simpa using List.countP_eq_zero.1 hdocuments x hx
    · exact Finishes.of_unfinished (by simpa using hend)

/-- **A step that abandons a document** leaves it behind in a run that is over. -/
theorem not_finishes_of_abandons (settings : Settings) {x : LifecycleStep}
    (hx : s.abandons x = true) : ¬ (s.step settings x).Finishes := by
  -- a document that was just ingested is in progress
  have hqueued : ∀ documents : List RunDocument,
      ¬ ∀ d ∈ documents ++ [({} : RunDocument)], d.isInProgress = false := by
    intro documents hall
    have hnew := hall {} (by simp)
    cases hnew
  cases x with
  | ingestUpload =>
    simp only [LifecycleState.abandons, Bool.and_eq_true, beq_iff_eq] at hx
    obtain ⟨hin, hend⟩ := hx
    intro hfinishes
    simp only [LifecycleState.step, hin, if_true] at hfinishes
    exact hqueued s.documents (hfinishes.1 hend)
  | recordDispatchFailure t exc now =>
    -- the run of the task fails and nobody works on its documents
    simp only [LifecycleState.abandons, Bool.and_eq_true, decide_eq_true_eq, List.any_eq_true] at hx
    obtain ⟨⟨ht, hown⟩, d, hd, hprogress⟩ := hx
    intro hfinishes
    have hrun : (s.run.recordDispatchFailure t .failed exc now).status = .failed := by
      simp [AutomationRun.recordDispatchFailure, hown]
    simp only [LifecycleState.step, if_pos ht] at hfinishes
    have hleft := hfinishes.1 (by rw [hrun]; rfl) d hd
    rw [hprogress] at hleft
    cases hleft
  | work worker write now =>
    cases hworker : s.workers[worker]? with
    | none => simp [LifecycleState.abandons, hworker] at hx
    | some loaded =>
      have hstep : s.step settings (.work worker write now) = s.write loaded now write := by
        simp [LifecycleState.step, hworker]
      rw [hstep]
      intro hfinishes
      cases write with
      | ingest =>
        simp only [LifecycleState.abandons, hworker, Bool.and_eq_true] at hx
        obtain ⟨hinbox, hend⟩ := hx
        simp only [LifecycleState.write, hinbox, if_true] at hfinishes
        exact hqueued s.documents (hfinishes.1 hend)
      | ingestionFailures n =>
        -- a succeeded run gets a failed item
        simp only [LifecycleState.abandons, hworker, Bool.and_eq_true, beq_iff_eq] at hx
        obtain ⟨⟨hinbox, hn⟩, hsucceeded⟩ := hx
        simp only [LifecycleState.write, hinbox, hn, Bool.and_self, if_true] at hfinishes
        have hzero : n = 0 := (hfinishes.2 hsucceeded).2
        simp [hzero] at hn
      | unhandledFailure exc =>
        simp only [LifecycleState.abandons, hworker, Bool.and_eq_true, List.any_eq_true] at hx
        obtain ⟨hlocked, d, hd, hprogress⟩ := hx
        have hrun : (s.run.finishUnhandledFailure exc loaded.taskId now).status = .failed := by
          simp [AutomationRun.finishUnhandledFailure, hlocked]
        simp only [LifecycleState.write] at hfinishes
        have hleft := hfinishes.1 (by rw [hrun]; rfl) d hd
        rw [hprogress] at hleft
        cases hleft
      | _ => simp [LifecycleState.abandons, hworker] at hx
  | _ => exact absurd hx Bool.false_ne_true

/-- A routed document has its route routed: no write takes a route back. -/
def Together (documents : List RunDocument) : Prop :=
  ∀ x ∈ documents, x.status = .routed → x.route = some .routed

section Together

variable {documents : List RunDocument}

theorem Together.modify (h : Together documents) (d : ℕ) {f : RunDocument → RunDocument}
    (hf : ∀ x, documents[d]? = some x → (x.status = .routed → x.route = some .routed) →
      (f x).status = .routed → (f x).route = some .routed) : Together (documents.modify d f) := by
  intro x hx
  obtain ⟨j, hj⟩ := List.mem_iff_getElem?.1 hx
  obtain ⟨y, hy, rfl⟩ := modify_cases hj
  have hold := h y (List.mem_of_getElem? hy)
  split
  · next hdj => exact hf y (hdj ▸ hy) hold
  · exact hold

theorem Together.new (h : Together documents) : Together (documents ++ [({} : RunDocument)]) := by
  intro x hx
  rcases List.mem_append.1 hx with hx | hx
  · exact h x hx
  · obtain rfl := List.mem_singleton.1 hx
    intro hrouted
    cases hrouted

theorem Together.reset (h : Together documents) : Together (documents.map RunDocument.reset) := by
  intro x hx
  obtain ⟨y, hy, rfl⟩ := List.mem_map.1 hx
  unfold RunDocument.reset
  split
  · intro hrouted
    cases hrouted
  · exact h y hy

theorem Together.close (h : Together documents) : Together (documents.map RunDocument.close) := by
  intro x hx
  obtain ⟨y, hy, rfl⟩ := List.mem_map.1 hx
  intro hrouted
  have hstatus : y.status = .routed := by
    unfold RunDocument.close at hrouted
    dsimp only at hrouted
    split at hrouted
    · cases hrouted
    · exact hrouted
  simp [RunDocument.close, h y hy hstatus]

theorem finishRoute_together {x : RunDocument} (h : x.status = .routed → x.route = some .routed)
    (outcome : CopyOutcome) (hrouted : (x.finishRoute outcome).status = .routed) :
    (x.finishRoute outcome).route = some .routed := by
  cases outcome with
  | copied => rfl
  | raised => exact h hrouted
  | storageError =>
    unfold RunDocument.finishRoute at hrouted ⊢
    dsimp only at hrouted ⊢
    split at hrouted
    · next hroute =>
      rw [if_pos hroute]
      exact hroute
    · cases hrouted

theorem Together.setLocked (h : Together s.documents) (loaded : AutomationRun) (d : ℕ)
    {f : RunDocument → RunDocument}
    (hf : ∀ x, s.documents[d]? = some x → (x.status = .routed → x.route = some .routed) →
      (f x).status = .routed → (f x).route = some .routed) :
    Together (s.setLocked loaded d f).documents := by
  unfold LifecycleState.setLocked
  split
  · exact h.modify d hf
  · exact h

theorem Together.write (h : Together s.documents) (loaded : AutomationRun) (now : ℕ)
    (write : DeliveryWrite) : Together (s.write loaded now write).documents := by
  cases write with
  | touch | recompute others | unhandledFailure exc => exact h
  | ingest =>
    dsimp only [LifecycleState.write]
    split
    · exact h.new
    · exact h
  | ingestionFailures n =>
    dsimp only [LifecycleState.write]
    split <;> exact h
  | claim d =>
    refine h.setLocked loaded d fun x _ hx => ?_
    split
    · intro hrouted
      cases hrouted
    · exact hx
  | openReview d | markFailed d =>
    refine h.setLocked loaded d fun x _ _ hrouted => ?_
    cases hrouted
  | prepareRoute d =>
    refine h.setLocked loaded d fun x _ hx => ?_
    split
    · next hnone =>
      intro hrouted
      rw [hx hrouted] at hnone
      cases hnone
    · exact hx
  | finishRoute d outcome =>
    refine h.setLocked loaded d fun x _ hx => ?_
    split
    · exact finishRoute_together hx outcome
    · exact hx

theorem Together.start (h : Together s.documents) (settings : Settings) (t : TaskId)
    (redelivered : Bool) (now : ℕ) : Together (s.start settings t redelivered now).documents := by
  unfold LifecycleState.start
  split
  · exact h
  · exact h.close
  · exact h.reset
  · exact h

theorem Together.reconcileOne (h : Together s.documents) (settings : Settings) (fresh : TaskId)
    (now : ℕ) : Together (s.reconcileOne settings fresh now).documents := by
  unfold LifecycleState.reconcileOne
  split
  · dsimp only
    split
    · exact h.reset
    · exact h
  · split
    · exact h
    · exact h.close
  · exact h

/-- **A step takes no route back.** -/
theorem Together.step (h : Together s.documents) (settings : Settings) (x : LifecycleStep) :
    Together (s.step settings x).documents := by
  cases x with
  | ingestUpload =>
    dsimp only [LifecycleState.step]
    split
    · exact h.new
    · exact h
  | start t redelivered now => exact h.start settings t redelivered now
  | work worker write now =>
    dsimp only [LifecycleState.step]
    split
    · exact h
    · next loaded _ => exact h.write loaded now write
  | resolveReview d =>
    dsimp only [LifecycleState.step]
    split
    · next hreview =>
      refine h.modify d fun x hx hold hrouted => ?_
      -- a review is resolved before its document has a route
      have hnone : x.route.isNone = true := by
        simp only [hx, Option.any_some, Bool.and_eq_true] at hreview
        exact hreview.2
      rw [hold hrouted] at hnone
      cases hnone
    · exact h
  | callCopy i outcome =>
    dsimp only [LifecycleState.step]
    split
    · exact h.modify _ fun x _ hold => finishRoute_together hold outcome
    · exact h
  | reconcileOne fresh now => exact h.reconcileOne settings fresh now
  | failUpload exc safeMessage now | recomputeUpload others now | queueUpload fresh now
  | requeueScheduled fresh now | dispatchStart fresh now | recordDispatchFailure t exc now
  | retryRoute d | callRoute i | callRaise i | callRecompute i others now =>
    dsimp only [LifecycleState.step]
    repeat' split
    all_goals exact h
  | recordDispatchSuccess t now | callCrash i | failEmptyRecovered now
  | recordRecoveryPublishFailure t exc now | recordInspectionFailure exc now => exact h

end Together

end LifecycleState

/-- **What holds of the run and its documents** while no step abandons one of them. -/
structure LifecycleKept (s : LifecycleState) : Prop where
  module : s.run.module = .sc04
  /-- Nobody but the request adds a document to an upload. -/
  untouched : s.upload = .ingesting → s.inbox = false ∧ s.documents = []
  finishes : s.Finishes

namespace LifecycleKept

variable {s : LifecycleState}

/-- A transaction over the row that neither ends the run nor counts a failure. -/
theorem setRow (h : LifecycleKept s) {b : AutomationRun} (hb : KeepsEnd s.run b) :
    LifecycleKept { s with run := b } := by
  refine ⟨hb.module.trans h.module, h.untouched, ?_⟩
  rcases hb.status with hsame | hopen
  · refine ⟨fun hend => h.finishes.1 (hsame ▸ hend), fun hsucceeded => ?_⟩
    obtain ⟨hrouted, hfailures⟩ := h.finishes.2 (hsame.symm.trans hsucceeded)
    exact ⟨hrouted, hb.failures.trans hfailures⟩
  · exact LifecycleState.Finishes.of_unfinished hopen

/-- The programs in execution are not the run's. -/
theorem setPrograms (h : LifecycleKept s) (workers : List AutomationRun)
    (dispatching : List TaskId) (calls : List WebCall) :
    LifecycleKept { s with workers, dispatching, calls } :=
  ⟨h.module, h.untouched, h.finishes⟩

/-- A transaction that leaves the run in progress. -/
theorem setOpen (h : LifecycleKept s) {b : AutomationRun} {documents : List RunDocument}
    (hmodule : b.module = .sc04) (hopen : b.status.isFinished = false)
    (hempty : s.documents = [] → s.inbox = false → documents = []) :
    LifecycleKept { s with run := b, documents } :=
  ⟨hmodule,
    fun hin => ⟨(h.untouched hin).1, hempty (h.untouched hin).2 (h.untouched hin).1⟩,
    LifecycleState.Finishes.of_unfinished hopen⟩

/-- A transaction that closes the run, and its documents with it. -/
theorem close (h : LifecycleKept s) {b : AutomationRun} (hmodule : b.module = .sc04)
    (hfailed : b.status = .failed) :
    LifecycleKept { s with run := b, documents := s.documents.map RunDocument.close } := by
  refine ⟨hmodule, fun hin => ?_, LifecycleState.Finishes.of_left ?_ fun d hd => ?_⟩
  · obtain ⟨hinbox, hdocuments⟩ := h.untouched hin
    exact ⟨hinbox, by simp [hdocuments]⟩
  · change b.status ≠ .succeeded
    rw [hfailed]
    simp
  · obtain ⟨x, -, rfl⟩ := List.mem_map.1 hd
    exact close_left x

theorem recompute (h : LifecycleKept s) (others : OtherItems) (expected : Option TaskId)
    (preserve : Bool) (now : ℕ) : LifecycleKept (s.recompute others expected preserve now) := by
  refine ⟨?_, h.untouched, h.finishes.recompute others expected preserve now⟩
  unfold LifecycleState.recompute AutomationRun.recompute
  split <;> exact h.module

/-- A run that a delivery owns is in progress. -/
theorem open_of_locked {t : Option TaskId} (h : s.run.isLockedBy t = true) :
    s.run.status.isFinished = false := by
  simp only [AutomationRun.isLockedBy, Bool.and_eq_true, beq_iff_eq] at h
  rw [h.1]
  rfl

theorem setLocked (h : LifecycleKept s) (loaded : AutomationRun) (d : ℕ)
    (f : RunDocument → RunDocument) : LifecycleKept (s.setLocked loaded d f) := by
  unfold LifecycleState.setLocked
  split
  · next hlocked =>
    exact h.setOpen h.module (open_of_locked hlocked) fun hdocuments _ => by simp [hdocuments]
  · exact h

/-- **A write of a delivery.** -/
theorem write (h : LifecycleKept s) {loaded : AutomationRun} {i : ℕ}
    (hworker : s.workers[i]? = some loaded) (write : DeliveryWrite) (now : ℕ)
    (hx : s.abandons (.work i write now) = false) : LifecycleKept (s.write loaded now write) := by
  cases write with
  | touch => exact h.setRow (touchRun_keepsEnd s.run loaded.taskId now)
  | ingest =>
    dsimp only [LifecycleState.write]
    split
    · next hinbox =>
      have hopen : s.run.status.isFinished = false := by
        simpa [LifecycleState.abandons, hworker, hinbox] using hx
      refine h.setOpen h.module hopen fun _ hupload => ?_
      rw [hinbox] at hupload
      cases hupload
    · exact h
  | ingestionFailures n =>
    dsimp only [LifecycleState.write]
    split
    · next hn =>
      have hnot : s.run.status ≠ .succeeded := by
        simpa [LifecycleState.abandons, hworker, hn] using hx
      exact ⟨h.module, h.untouched, h.finishes.1, fun hsucceeded => absurd hsucceeded hnot⟩
    · exact h
  | claim d | openReview d | prepareRoute d | markFailed d => exact h.setLocked loaded d _
  | finishRoute d outcome => exact h.setLocked loaded d _
  | recompute others => exact h.recompute others loaded.taskId false now
  | unhandledFailure exc =>
    dsimp only [LifecycleState.write]
    unfold AutomationRun.finishUnhandledFailure
    split
    · next hlocked =>
      have hleft : ∀ d ∈ s.documents, d.isInProgress = false := by
        simpa [LifecycleState.abandons, hworker, hlocked] using hx
      refine ⟨h.module, h.untouched, LifecycleState.Finishes.of_left ?_ hleft⟩
      simp
    · exact h

theorem start (h : LifecycleKept s) (settings : Settings) (t : TaskId) (redelivered : Bool)
    (now : ℕ) : LifecycleKept (s.start settings t redelivered now) := by
  have hrows := startSc04_rows s.run settings t redelivered now
  unfold LifecycleState.start
  generalize s.run.startSc04 (.uuid t) redelivered settings now = start at *
  cases start with
  | ignored => exact h
  | closed b => exact h.close (hrows.1.trans h.module) hrows.2
  | resumed b =>
    have hopen : b.status.isFinished = false := by
      rw [hrows.2]
      rfl
    exact (h.setOpen (hrows.1.trans h.module) hopen fun hdocuments _ => by
      simp [hdocuments]).setPrograms _ _ _
  | started b =>
    have hopen : b.status.isFinished = false := by
      rw [hrows.2.1]
      rfl
    exact (h.setOpen (hrows.1.trans h.module) hopen fun hdocuments _ => hdocuments).setPrograms _ _ _

theorem reconcileOne (h : LifecycleKept s) (settings : Settings) (fresh : TaskId) (now : ℕ) :
    LifecycleKept (s.reconcileOne settings fresh now) := by
  rcases reconcileOne_sc04 s.run settings (!s.documents.isEmpty) fresh now h.module with
    hskipped | ⟨b, hrequeued, hmodule, hqueued, -⟩ | ⟨b, hfailed, hmodule, hstatus⟩
  · unfold LifecycleState.reconcileOne
    rw [hskipped]
    exact h
  · unfold LifecycleState.reconcileOne
    rw [hrequeued]
    refine h.setOpen hmodule ?_ fun hdocuments _ => ?_
    · rw [hqueued]
      rfl
    · simp [hdocuments]
  · unfold LifecycleState.reconcileOne
    rw [hfailed]
    dsimp only
    split
    · next hpending =>
      -- the run had no new document
      have hempty : s.documents = [] := by
        simpa using reconcileOne_failed_pending s.run hpending hfailed
      refine ⟨hmodule, h.untouched, LifecycleState.Finishes.of_left ?_ ?_⟩
      · change b.status ≠ .succeeded
        rw [hstatus]
        simp
      · intro d hd
        rw [hempty] at hd
        cases hd
    · exact (h.close hmodule hstatus).setPrograms _ _ _

/-- A change of one document that puts none in progress, and keeps a success routed. -/
theorem modify (h : LifecycleKept s) (d : ℕ) {f : RunDocument → RunDocument}
    (hleft : ∀ x, x.isInProgress = false → (f x).isInProgress = false)
    (hrouted : ∀ x, s.documents[d]? = some x → x.status = .routed → s.run.status = .succeeded →
      (f x).status = .routed) :
    LifecycleKept { s with documents := s.documents.modify d f } := by
  have hback : ∀ x ∈ s.documents.modify d f, ∃ (j : ℕ) (y : RunDocument),
      s.documents[j]? = some y ∧ x = if d = j then f y else y := by
    intro x hmem
    obtain ⟨j, hj⟩ := List.mem_iff_getElem?.1 hmem
    obtain ⟨y, hy, hxy⟩ := modify_cases hj
    exact ⟨j, y, hy, hxy⟩
  refine ⟨h.module, fun hin => ?_, fun hend x hmem => ?_, fun hsucceeded => ⟨fun x hmem => ?_, ?_⟩⟩
  · obtain ⟨hinbox, hdocuments⟩ := h.untouched hin
    exact ⟨hinbox, by simp [hdocuments]⟩
  · obtain ⟨j, y, hy, rfl⟩ := hback x hmem
    have hyleft := h.finishes.1 hend y (List.mem_of_getElem? hy)
    split
    · exact hleft y hyleft
    · exact hyleft
  · obtain ⟨j, y, hy, rfl⟩ := hback x hmem
    have hyrouted := (h.finishes.2 hsucceeded).1 y (List.mem_of_getElem? hy)
    split
    · next hdj => exact hrouted y (hdj ▸ hy) hyrouted hsucceeded
    · exact hyrouted
  · exact (h.finishes.2 hsucceeded).2

/-- A copy that a request ends. The failure of a routed document is refused. -/
theorem finishRoute (h : LifecycleKept s) (htogether : LifecycleState.Together s.documents) (d : ℕ)
    (outcome : CopyOutcome) :
    LifecycleKept { s with documents := s.documents.modify d (·.finishRoute outcome) } := by
  refine h.modify d (fun x hleft => ?_) fun x hdoc hrouted hsucceeded => ?_
  · cases outcome with
    | copied => rfl
    | storageError =>
      dsimp only [RunDocument.finishRoute]
      split
      · exact hleft
      · rfl
    | raised => exact hleft
  · cases outcome with
    | copied => rfl
    | raised => exact hrouted
    | storageError =>
      have hroute := htogether x (List.mem_of_getElem? hdoc) hrouted
      simpa [RunDocument.finishRoute, hroute] using hrouted

theorem together_of_created (h : s.Created) : LifecycleState.Together s.documents := by
  have hempty : s.documents = [] := by
    rcases h with ⟨now, rfl⟩ | ⟨trigger, fresh, now, rfl⟩ <;> rfl
  rw [hempty]
  exact fun x hx => absurd hx List.not_mem_nil

theorem of_created (h : s.Created) : LifecycleKept s := by
  rcases h with ⟨now, rfl⟩ | ⟨trigger, fresh, now, rfl⟩
  · exact ⟨rfl, fun _ => ⟨rfl, rfl⟩, LifecycleState.Finishes.of_unfinished rfl⟩
  · exact ⟨rfl, fun hin => (by cases hin), LifecycleState.Finishes.of_unfinished rfl⟩

/-- **A step that abandons no document.** -/
theorem step (h : LifecycleKept s) (htogether : LifecycleState.Together s.documents)
    (settings : Settings) (x : LifecycleStep) (hx : s.abandons x = false) :
    LifecycleKept (s.step settings x) := by
  cases x with
  | ingestUpload =>
    dsimp only [LifecycleState.step]
    split
    · next hin =>
      have hopen : s.run.status.isFinished = false := by
        simpa [LifecycleState.abandons, hin] using hx
      exact ⟨h.module, fun h' => (by cases h'), LifecycleState.Finishes.of_unfinished hopen⟩
    · exact h
  | failUpload exc safeMessage now =>
    dsimp only [LifecycleState.step]
    split
    · next hin =>
      refine ⟨h.module, fun h' => (by cases h'), LifecycleState.Finishes.of_left ?_ ?_⟩
      · simp [AutomationRun.failBeforeProcessing]
      · intro d hd
        change d ∈ s.documents at hd
        rw [(h.untouched hin).2] at hd
        cases hd
    · exact h
  | recomputeUpload others now =>
    dsimp only [LifecycleState.step]
    split
    · have hkept := h.recompute others none false now
      exact ⟨hkept.module, fun h' => (by cases h'), hkept.finishes⟩
    · exact h
  | queueUpload fresh now =>
    dsimp only [LifecycleState.step]
    split
    · exact ⟨h.module, fun h' => (by cases h'), LifecycleState.Finishes.of_unfinished rfl⟩
    · exact h
  | requeueScheduled fresh now =>
    dsimp only [LifecycleState.step]
    split
    · exact h.setOpen h.module rfl fun hdocuments _ => hdocuments
    · exact h
  | dispatchStart fresh now =>
    dsimp only [LifecycleState.step]
    split
    · next t b hstart =>
      exact (h.setRow (dispatchStart_keepsEnd s.run hstart)).setPrograms _ _ _
    · exact h
  | recordDispatchFailure t exc now =>
    dsimp only [LifecycleState.step]
    split
    · next ht =>
      unfold AutomationRun.recordDispatchFailure
      split
      · next hown =>
        have hleft : ∀ d ∈ s.documents, d.isInProgress = false := by
          simpa [LifecycleState.abandons, ht, hown] using hx
        refine ⟨h.module, h.untouched, LifecycleState.Finishes.of_left ?_ hleft⟩
        simp
      · exact h
    · exact h
  | recordDispatchSuccess t now => exact h.setRow (recordDispatchSuccess_keepsEnd s.run t now)
  | start t redelivered now => exact h.start settings t redelivered now
  | work worker write now =>
    dsimp only [LifecycleState.step]
    split
    · exact h
    · next loaded hworker => exact h.write hworker write now hx
  | resolveReview d =>
    dsimp only [LifecycleState.step]
    split
    · -- the status of the document waits for its copy
      have hkept : LifecycleKept { s with documents := s.documents.modify d (·.resolve) } :=
        h.modify d (fun _ hleft => hleft) fun _ _ hrouted _ => hrouted
      exact hkept.setPrograms _ _ _
    · exact h
  | retryRoute d =>
    dsimp only [LifecycleState.step]
    split
    · exact h.setPrograms _ _ _
    · exact h
  | callRoute i =>
    dsimp only [LifecycleState.step]
    split
    · split <;> exact h.setPrograms _ _ _
    · exact h
  | callCopy i outcome =>
    dsimp only [LifecycleState.step]
    split
    · next d _ => exact (h.finishRoute htogether d outcome).setPrograms _ _ _
    · exact h
  | callRaise i =>
    dsimp only [LifecycleState.step]
    split
    · exact h.setPrograms _ _ _
    · exact h.setPrograms _ _ _
    · exact h
  | callRecompute i others now =>
    dsimp only [LifecycleState.step]
    split
    · next preserve _ => exact (h.recompute others none preserve now).setPrograms _ _ _
    · exact h
  | callCrash i => exact h.setPrograms _ _ _
  | reconcileOne fresh now => exact h.reconcileOne settings fresh now
  | failEmptyRecovered now =>
    dsimp only [LifecycleState.step]
    unfold AutomationRun.failEmptyRecoveredSc04
    split
    · next hsucceeded =>
      have hleft := h.finishes.1 (by rw [hsucceeded]; rfl)
      refine ⟨h.module, h.untouched, LifecycleState.Finishes.of_left ?_ hleft⟩
      simp
    · exact h
  | recordRecoveryPublishFailure t exc now =>
    exact h.setRow (recordRecoveryPublishFailure_keepsEnd s.run t exc now)
  | recordInspectionFailure exc now => exact h.setRow ⟨rfl, .inl rfl, rfl⟩

/-- **A history**: every state it reaches is one that leaves no document behind, if and only if
no step abandons one. -/
theorem finishes_iff (h : LifecycleKept s) (htogether : LifecycleState.Together s.documents)
    (settings : Settings) (xs : List LifecycleStep) :
    (∀ ys, ys <+: xs → (s.after settings ys).Finishes) ↔ s.AbandonsNothing settings xs := by
  induction xs generalizing s with
  | nil =>
    refine ⟨fun _ => trivial, fun _ ys hys => ?_⟩
    rw [List.prefix_nil.1 hys]
    exact h.finishes
  | cons x xs ih =>
    constructor
    · intro hall
      have hx : s.abandons x = false := by
        by_contra habandons
        have hone : (s.after settings [x]).Finishes := hall [x] ⟨xs, rfl⟩
        exact LifecycleState.not_finishes_of_abandons settings (by simpa using habandons) hone
      refine ⟨hx, (ih (h.step htogether settings x hx) (htogether.step settings x)).1
        fun ys hys => ?_⟩
      exact hall (x :: ys) (List.cons_prefix_cons.2 ⟨rfl, hys⟩)
    · rintro ⟨hx, hxs⟩ ys hys
      cases ys with
      | nil => exact h.finishes
      | cons y ys =>
        obtain ⟨rfl, hprefix⟩ := List.cons_prefix_cons.1 hys
        exact (ih (h.step htogether settings y hx) (htogether.step settings y)).2 hxs ys hprefix

end LifecycleKept

/-- **A run of SC-04 that is over leaves no document in progress, and a success nothing but routed
documents**, in every state of exactly the histories in which no step abandons a document. -/
theorem run_finishes_iff (settings : Settings) (s : LifecycleState) (h : s.Created)
    (xs : List LifecycleStep) :
    (∀ ys, ys <+: xs → (s.after settings ys).Finishes) ↔ s.AbandonsNothing settings xs :=
  (LifecycleKept.of_created h).finishes_iff (LifecycleKept.together_of_created h) settings xs

theorem run_finishes_iff_upload :
    (LifecycleState.uploaded 0).Created ∧
    ((∀ ys, ys <+: [.ingestUpload, .queueUpload 0 1, .dispatchStart 0 2, .start 0 false 3,
        .work 0 (.claim 0) 4, .work 0 (.prepareRoute 0) 5, .work 0 (.finishRoute 0 .copied) 6,
        .work 0 (.recompute {}) 7] → ((LifecycleState.uploaded 0).after {} ys).Finishes) ↔
      (LifecycleState.uploaded 0).AbandonsNothing {} [.ingestUpload, .queueUpload 0 1,
        .dispatchStart 0 2, .start 0 false 3, .work 0 (.claim 0) 4, .work 0 (.prepareRoute 0) 5,
        .work 0 (.finishRoute 0 .copied) 6, .work 0 (.recompute {}) 7]) :=
  ⟨.inl ⟨0, rfl⟩, run_finishes_iff {} _ (.inl ⟨0, rfl⟩) _⟩

/-- The broker refuses the message of an upload: the run has failed, and its document waits in the
queue for ever. -/
theorem lost_dispatch_strands :
    ¬ ((LifecycleState.uploaded 0).after {} [.ingestUpload, .queueUpload 0 1, .dispatchStart 0 2,
      .recordDispatchFailure 0 "OperationalError" 3]).Finishes := by
  intro h
  have hleft := h.1 (by decide +kernel) {} (by decide +kernel)
  cases hleft

end SheepContabil
