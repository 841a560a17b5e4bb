import SheepContabil.Proof.UploadRequest
import SheepContabil.Spec.Sc04Delivery

/-!
# Reviews during a delivery of SC-04

* `RunDocument.Ok`: a document in progress has no review, and no route but a pending one.
* `DeliveryPhase.Expects`: which documents in progress a delivery still has ahead of it.
* `DeliveryKept`: the delivery owns the run as long as it has documents to process.
* `run_strandsNothing`: the property, in every history in which no request pauses the
  delivery; `review_strands`: a history in which a review does.
-/

namespace SheepContabil

open SC05Operation (Recovery)

/-- What the transactions keep of a document. -/
structure RunDocument.Ok (d : RunDocument) : Prop where
  queued : d.status = .queued → d.review = none ∧ d.route = none
  processing : d.status = .processing → d.review = none ∧ (d.route = none ∨ d.route = some .pending)

/-- What a delivery relies on for document `j`, which is in progress. -/
def DeliveryPhase.Expects (j : ℕ) (x : RunDocument) : DeliveryPhase → Prop
  | ingesting => x.status = .processing → x.route = some .pending
  | routes rest => x.status = .processing → x.route = some .pending ∧ j ∈ rest
  | executing d (.routes rest) | copying d (.routes rest) =>
    x.status = .processing → x.route = some .pending ∧ (j = d ∨ j ∈ rest)
  | documents rest => x.status = .queued ∧ j ∈ rest
  | claiming d rest => x.status = .queued ∧ (j = d ∨ j ∈ rest)
  | processing d rest | executing d (.documents rest) | copying d (.documents rest)
  | failing d rest => (x.status = .queued → j ≠ d ∧ j ∈ rest) ∧ (x.status = .processing → j = d)
  | recomputing | returned => False
  | raised => True

/-- What a delivery relies on for the documents in progress. -/
def DeliveryPhase.Ahead (documents : List RunDocument) (phase : DeliveryPhase) : Prop :=
  ∀ (j : ℕ) (x : RunDocument), documents[j]? = some x → x.isInProgress = true → phase.Expects j x

/-- **What holds of the run, its documents and its delivery** while no request pauses it. -/
structure DeliveryKept (s : DeliveryState) : Prop where
  module : s.run.module = .sc04
  ok : ∀ x ∈ s.documents, x.Ok
  waiting : s.run.status = .pending ∨ s.run.status = .queued →
    ∀ x ∈ s.documents, x.isInterrupted = false
  current : ∀ w, s.Active w → w.phase = .ingesting ∨ s.InProgress →
    s.run.status = .running ∧ s.run.taskId = w.loaded.taskId
  ahead : ∀ w, s.worker = some w → w.phase.Ahead s.documents

section Documents

variable {d : RunDocument}

theorem inProgress_iff : d.isInProgress = true ↔ d.status = .queued ∨ d.status = .processing := by
  simp [RunDocument.isInProgress]

/-- Once its document is left, a delivery finds the others still queued. -/
theorem expects_rest {i j : ℕ} {rest : List ℕ} (h : (DeliveryPhase.processing i rest).Expects j d)
    (hd : d.isInProgress = true) (hne : j ≠ i) : (DeliveryPhase.documents rest).Expects j d := by
  obtain ⟨hqueued, hprocessing⟩ := h
  rcases inProgress_iff.1 hd with hq | hp
  · exact ⟨hq, (hqueued hq).2⟩
  · exact absurd (hprocessing hp) hne

theorem inProgress_of_interrupted (h : d.isInterrupted = true) : d.isInProgress = true := by
  rw [inProgress_iff]
  simp only [RunDocument.isInterrupted, Bool.and_eq_true, beq_iff_eq] at h
  exact .inr h.1.1

/-- A document in processing that was not interrupted has its route. -/
theorem RunDocument.Ok.routing (h : d.Ok) (hi : d.isInterrupted = false)
    (hp : d.status = .processing) : d.route = some .pending := by
  obtain ⟨hreview, hnone | hpending⟩ := h.processing hp
  · simp [RunDocument.isInterrupted, hp, hreview, hnone] at hi
  · exact hpending

theorem RunDocument.Ok.of_left (h : d.isInProgress = false) : d.Ok := by
  have hleft : ¬ (d.status = .queued ∨ d.status = .processing) := by
    rw [← inProgress_iff, h]
    exact Bool.false_ne_true
  exact ⟨fun hq => absurd (.inl hq) hleft, fun hp => absurd (.inr hp) hleft⟩

theorem close_left (d : RunDocument) : d.close.isInProgress = false := by
  unfold RunDocument.close
  cases hd : d.isInProgress with
  | true => rfl
  | false => simpa [RunDocument.isInProgress] using hd

theorem RunDocument.Ok.reset (h : d.Ok) : d.reset.Ok := by
  unfold RunDocument.reset
  split
  · next hi =>
    simp only [RunDocument.isInterrupted, Bool.and_eq_true, Option.isNone_iff_eq_none] at hi
    exact ⟨fun _ => ⟨hi.2, hi.1.2⟩, fun hp => by cases hp⟩
  · exact h

theorem reset_interrupted (d : RunDocument) : d.reset.isInterrupted = false := by
  unfold RunDocument.reset
  split
  · simp [RunDocument.isInterrupted]
  · next hi => simpa using hi

/-- A document whose route is routed is not in progress. -/
theorem RunDocument.Ok.left_of_routed (h : d.Ok) (hrouted : d.route = some .routed) :
    d.isInProgress = false := by
  by_contra hin
  rcases inProgress_iff.1 (by simpa using hin) with hq | hp
  · rw [(h.queued hq).2] at hrouted
    cases hrouted
  · rcases (h.processing hp).2 with hroute | hroute <;> rw [hroute] at hrouted <;> cases hrouted

theorem RunDocument.Ok.finishRoute_left (h : d.Ok) {outcome : CopyOutcome} (hout : outcome ≠ .raised) :
    (d.finishRoute outcome).isInProgress = false := by
  cases outcome with
  | copied => rfl
  | storageError =>
    dsimp only [RunDocument.finishRoute]
    split
    · next hrouted => exact h.left_of_routed hrouted
    · rfl
  | raised => exact absurd rfl hout

end Documents

section Lists

variable {documents : List RunDocument} {i j : ℕ} {f : RunDocument → RunDocument}

/-- A row of a table in which one row has changed. -/
theorem modify_cases {x : RunDocument} (h : (documents.modify i f)[j]? = some x) :
    ∃ y, documents[j]? = some y ∧ x = if i = j then f y else y := by
  rw [List.getElem?_modify] at h
  obtain ⟨y, hy, hxy⟩ := Option.map_eq_some_iff.1 h
  exact ⟨y, hy, hxy.symm⟩

theorem ok_modify (h : ∀ x ∈ documents, x.Ok)
    (hi : ∀ x, documents[i]? = some x → (f x).Ok) : ∀ x ∈ documents.modify i f, x.Ok := by
  intro x hx
  obtain ⟨j, hj⟩ := List.mem_iff_getElem?.1 hx
  obtain ⟨y, hy, rfl⟩ := modify_cases hj
  split
  · next heq => exact hi y (heq ▸ hy)
  · exact h y (List.mem_of_getElem? hy)

theorem ahead_modify {phase : DeliveryPhase}
    (hother : ∀ j x, j ≠ i → documents[j]? = some x → x.isInProgress = true → phase.Expects j x)
    (hi : ∀ x, documents[i]? = some x → (f x).isInProgress = true → phase.Expects i (f x)) :
    phase.Ahead (documents.modify i f) := by
  intro j x hj hx
  obtain ⟨y, hy, rfl⟩ := modify_cases hj
  by_cases hij : i = j
  · subst hij
    rw [if_pos rfl] at hx ⊢
    exact hi y hy hx
  · rw [if_neg hij] at hx ⊢
    exact hother j y (Ne.symm hij) hy hx

/-- A change that leaves its document out of progress puts no other in. -/
theorem inProgress_modify (hi : ∀ x, documents[i]? = some x → (f x).isInProgress = true →
      ∃ y ∈ documents, y.isInProgress = true)
    (h : ∃ x ∈ documents.modify i f, x.isInProgress = true) :
    ∃ x ∈ documents, x.isInProgress = true := by
  obtain ⟨x, hx, hp⟩ := h
  obtain ⟨j, hj⟩ := List.mem_iff_getElem?.1 hx
  obtain ⟨y, hy, rfl⟩ := modify_cases hj
  by_cases hij : i = j
  · subst hij
    rw [if_pos rfl] at hp
    exact hi y hy hp
  · rw [if_neg hij] at hp
    exact ⟨y, List.mem_of_getElem? hy, hp⟩

end Lists

section Rows

variable (a : AutomationRun)

/-- No recomputation puts a run back before its start. -/
theorem recomputedStatus_started (counts : SC04Counts) (preserve : Bool) (now : ℕ) :
    (a.recomputedStatus counts preserve now).1 ≠ .pending ∧
      (a.recomputedStatus counts preserve now).1 ≠ .queued := by
  refine ⟨?_, recomputedStatus_not_queued a counts preserve now⟩
  unfold AutomationRun.recomputedStatus
  dsimp only
  split
  · next h =>
    have hterminal : a.status.isTerminal = true := by
      simp only [Bool.and_eq_true] at h
      exact h.2
    intro hpending
    rw [show a.status = .pending from hpending] at hterminal
    exact absurd hterminal (by decide)
  · repeat' split
    all_goals simp

/-- A running run stays so while nothing awaits review and something is in progress. -/
theorem recompute_running {counts : SC04Counts} (preserve : Bool) (now : ℕ)
    (hrunning : a.status = .running) (hreview : counts.awaitingReview = 0)
    (hprogress : counts.inProgress ≠ 0) :
    (a.recompute counts none preserve now).status = .running ∧
      (a.recompute counts none preserve now).taskId = a.taskId := by
  have hstatus : (a.recomputedStatus counts preserve now).1 = .running := by
    simp [AutomationRun.recomputedStatus, hrunning, hreview, hprogress, RunStatus.isTerminal]
  exact ⟨hstatus, rfl⟩

theorem touchRun_row (t : Option TaskId) (now : ℕ) :
    (a.touchRun t now).status = a.status ∧ (a.touchRun t now).taskId = a.taskId ∧
      (a.touchRun t now).module = a.module := by
  unfold AutomationRun.touchRun
  split <;> exact ⟨rfl, rfl, rfl⟩

theorem finishUnhandledFailure_row (exc : String) (t : Option TaskId) (now : ℕ) :
    (a.finishUnhandledFailure exc t now).module = a.module ∧
      ((a.finishUnhandledFailure exc t now).status = .failed ∨
        (a.finishUnhandledFailure exc t now).status = a.status) := by
  unfold AutomationRun.finishUnhandledFailure
  split
  · exact ⟨rfl, .inl rfl⟩
  · exact ⟨rfl, .inr rfl⟩

/-- The rows that the start of a delivery leaves. -/
theorem startSc04_rows (settings : Settings) (t : TaskId) (redelivered : Bool) (now : ℕ) :
    match a.startSc04 (.uuid t) redelivered settings now with
    | .ignored => True
    | .closed b => b.module = a.module ∧ b.status = .failed
    | .resumed b => b.module = a.module ∧ b.status = .running
    | .started b => b.module = a.module ∧ b.status = .running ∧
        (a.status = .pending ∨ a.status = .queued) := by
  unfold AutomationRun.startSc04
  cases hbind : a.bindDelivery (.uuid t) with
  | none => trivial
  | some bound =>
    have hbound : bound.module = a.module ∧ bound.status = a.status := by
      obtain ⟨-, rfl⟩ := AutomationRun.bindDelivery_some hbind
      exact ⟨rfl, rfl⟩
    dsimp only
    split
    · next b hb =>
      split at hb
      · split at hb <;> cases hb
      · split at hb <;> trivial
    · next b hb =>
      split at hb
      · split at hb
        · cases hb
          exact ⟨hbound.1, rfl⟩
        · cases hb
      · split at hb <;> cases hb
    · next b hb =>
      split at hb
      · next hrunning =>
        split at hb
        · cases hb
        · cases hb
          exact ⟨hbound.1, hrunning.1⟩
      · split at hb <;> cases hb
    · next b hb =>
      split at hb
      · split at hb <;> cases hb
      · split at hb
        · next hwaiting =>
          cases hb
          refine ⟨hbound.1, rfl, ?_⟩
          rw [← hbound.2]
          exact hwaiting
        · cases hb

/-- What the reconciler decides for a run of SC-04. -/
theorem reconcileOne_sc04 (settings : Settings) (hasNewItems : Bool) (fresh : TaskId) (now : ℕ)
    (hmodule : a.module = .sc04) :
    a.reconcileOne false settings now hasNewItems fresh = (.skipped, a) ∨
    (∃ b, a.reconcileOne false settings now hasNewItems fresh = (.requeued fresh, b) ∧
      b.module = .sc04 ∧ b.status = .queued ∧
        (a.status = .pending ∨ a.status = .queued ∨ a.status = .running)) ∨
    ∃ b, a.reconcileOne false settings now hasNewItems fresh = (.failed, b) ∧
      b.module = .sc04 ∧ b.status = .failed := by
  unfold AutomationRun.reconcileOne AutomationRun.exhaustQueuedRun
  split
  · exact .inl rfl
  · next hstale =>
    simp only [hmodule]
    split
    · next hpending =>
      split
      · exact .inr (.inl ⟨_, rfl, hmodule, rfl, .inl hpending⟩)
      · exact .inr (.inr ⟨_, rfl, hmodule, rfl⟩)
    · next hqueued =>
      split
      · exact .inr (.inr ⟨_, rfl, hmodule, rfl⟩)
      · exact .inr (.inl ⟨_, rfl, hmodule, rfl, .inr (.inl hqueued)⟩)
    · next hpending hqueued =>
      have hrunning : a.status = .running := by
        cases hstatus : a.status <;> simp [AutomationRun.isStillStale, hmodule, hstatus] at *
      split
      · exact .inr (.inr ⟨_, rfl, hmodule, rfl⟩)
      · exact .inr (.inl ⟨_, rfl, hmodule, rfl, .inr (.inr hrunning)⟩)

/-- The start of a publication leaves the run where it is. -/
theorem dispatchStart_same {now : ℕ} {fresh t : TaskId} {b : AutomationRun}
    (h : a.dispatchStart now fresh = (.started t, b)) :
    b.module = a.module ∧ b.status = a.status ∧ b.metadata = a.metadata := by
  unfold AutomationRun.dispatchStart at h
  split at h
  · cases h
  · split at h
    · split at h <;> cases h
    · cases h
      exact ⟨rfl, rfl, rfl⟩

/-- A run that never left `PENDING` is given up only if it has no new item. -/
theorem reconcileOne_failed_pending {settings : Settings} {hasNewItems : Bool} {fresh : TaskId}
    {now : ℕ} {b : AutomationRun} (hpending : a.status = .pending)
    (h : a.reconcileOne false settings now hasNewItems fresh = (.failed, b)) :
    hasNewItems = false := by
  unfold AutomationRun.reconcileOne at h
  split at h
  · cases h
  · cases hasNewItems with
    | false => rfl
    | true => simp [hpending] at h

end Rows

namespace DeliveryKept

variable {s : DeliveryState} {w : DeliveryWorker}

/-- A delivery goes on, over the documents `documents`. -/
theorem goOn (h : DeliveryKept s) (hw : s.Active w) {run : AutomationRun}
    {documents : List RunDocument} {phase : DeliveryPhase} (hmodule : run.module = s.run.module)
    (hstatus : run.status = s.run.status) (htask : run.taskId = s.run.taskId)
    (hok : ∀ x ∈ documents, x.Ok)
    (hback : phase = .ingesting ∨ (∃ x ∈ documents, x.isInProgress = true) →
      w.phase = .ingesting ∨ s.InProgress)
    (hahead : phase.Ahead documents) :
    DeliveryKept { s with run, documents, worker := some { w with phase } } := by
  have hcurrent : phase = .ingesting ∨ (∃ x ∈ documents, x.isInProgress = true) →
      run.status = .running ∧ run.taskId = w.loaded.taskId := by
    intro hp
    obtain ⟨hrunning, hown⟩ := h.current w hw (hback hp)
    exact ⟨hstatus.trans hrunning, htask.trans hown⟩
  refine ⟨hmodule.trans h.module, hok, fun hwaiting x hx => ?_, fun w' hw' hp => ?_,
    fun w' hw' => ?_⟩
  · by_contra hinterrupted
    have hin : x.isInProgress = true := inProgress_of_interrupted (by simpa using hinterrupted)
    have hrunning : run.status = .running := (hcurrent (.inr ⟨x, hx, hin⟩)).1
    change run.status = .pending ∨ run.status = .queued at hwaiting
    rw [hrunning] at hwaiting
    simp at hwaiting
  · obtain ⟨hw'', -⟩ := hw'
    cases hw''
    exact hcurrent hp
  · cases hw'
    exact hahead

/-- A delivery ends with an exception. -/
theorem raise (h : DeliveryKept s) (w : DeliveryWorker) (exc : String) (now : ℕ) :
    DeliveryKept
      { s with
        run := s.run.finishUnhandledFailure exc w.loaded.taskId now
        worker := some { w with phase := .raised } } := by
  obtain ⟨hmodule, hstatus⟩ := finishUnhandledFailure_row s.run exc w.loaded.taskId now
  refine ⟨hmodule.trans h.module, h.ok, fun hwaiting => ?_, fun w' hw' => ?_, fun w' hw' => ?_⟩
  · rcases hstatus with hfailed | hsame
    · have hstarted : (s.run.finishUnhandledFailure exc w.loaded.taskId now).status = .pending ∨
          (s.run.finishUnhandledFailure exc w.loaded.taskId now).status = .queued := hwaiting
      rw [hfailed] at hstarted
      simp at hstarted
    · refine h.waiting ?_
      rw [← hsame]
      exact hwaiting
  · obtain ⟨hw'', -, hraised⟩ := hw'
    cases hw''
    exact absurd rfl hraised
  · cases hw'
    exact fun _ _ _ _ => trivial

/-- A delivery moves on without a write. -/
theorem move (h : DeliveryKept s) (hw : s.Active w) {phase : DeliveryPhase}
    (hphase : phase ≠ .ingesting) (hahead : phase.Ahead s.documents) :
    DeliveryKept (s.setPhase w phase) :=
  h.goOn hw rfl rfl rfl h.ok (fun hp => .inr (hp.resolve_left hphase)) hahead

/-- A delivery that does not own the run has nothing ahead of it. -/
theorem nothing_ahead (h : DeliveryKept s) (hw : s.Active w)
    (hlost : s.isCurrent w = false ∨ s.isLocked w = false) : ¬ s.InProgress := by
  intro hin
  obtain ⟨hrunning, hown⟩ := h.current w hw (.inr hin)
  rcases hlost with hcurrent | hlocked
  · simp [DeliveryState.isCurrent, AutomationRun.deliveryIsCurrent, hrunning, hown] at hcurrent
  · have hmatches : s.run.deliveryMatches (.ofOption w.loaded.taskId) = true := by
      unfold AutomationRun.deliveryMatches
      rw [hown]
      cases w.loaded.taskId <;> simp [SuppliedTaskId.ofOption, tokenMatches, SuppliedTaskId.normalize]
    simp [DeliveryState.isLocked, AutomationRun.isLockedBy, hrunning, hmatches] at hlocked

theorem ahead_of_nothing {documents : List RunDocument} (h : ¬ ∃ x ∈ documents, x.isInProgress = true)
    (phase : DeliveryPhase) : phase.Ahead documents :=
  fun _ x hj hx => absurd ⟨x, List.mem_of_getElem? hj, hx⟩ h

/-- A delivery that has lost the run stops. -/
theorem stop (h : DeliveryKept s) (hw : s.Active w) {phase : DeliveryPhase}
    (hphase : phase ≠ .ingesting) (hlost : s.isCurrent w = false ∨ s.isLocked w = false) :
    DeliveryKept (s.setPhase w phase) :=
  h.move hw hphase (ahead_of_nothing (h.nothing_ahead hw hlost) phase)

/-- A delivery changes document `i`, which was in progress or is not any more. -/
theorem modify (h : DeliveryKept s) (hw : s.Active w) {phase : DeliveryPhase} {i : ℕ}
    {f : RunDocument → RunDocument} (hphase : phase ≠ .ingesting)
    (hok : ∀ x, s.documents[i]? = some x → (f x).Ok)
    (hback : ∀ x, s.documents[i]? = some x → (f x).isInProgress = true → x.isInProgress = true)
    (hother : ∀ j x, j ≠ i → s.documents[j]? = some x → x.isInProgress = true → phase.Expects j x)
    (hi : ∀ x, s.documents[i]? = some x → (f x).isInProgress = true → phase.Expects i (f x)) :
    DeliveryKept ((s.setDocument i f).setPhase w phase) := by
  refine h.goOn hw rfl rfl rfl (ok_modify h.ok hok) (fun hp => .inr ?_) (ahead_modify hother hi)
  exact inProgress_modify (fun x hx hin => ⟨x, List.mem_of_getElem? hx, hback x hx hin⟩)
    (hp.resolve_left hphase)

theorem mem_pendingRoutes {j : ℕ} {x : RunDocument} (hj : s.documents[j]? = some x)
    (hx : x.route = some .pending) : j ∈ s.pendingRoutes := by
  unfold DeliveryState.pendingRoutes
  rw [List.mem_filter, List.mem_range, hj]
  exact ⟨(List.getElem?_eq_some_iff.1 hj).1, by simp [hx]⟩

/-- **A step of the delivery.** -/
theorem advance (h : DeliveryKept s) (hw : s.Active w) (input : WorkInput) :
    DeliveryKept (s.advance w input) := by
  obtain ⟨run, documents, worker, calls⟩ := s
  obtain ⟨loaded, phase⟩ := w
  obtain rfl : worker = some ⟨loaded, phase⟩ := hw.1
  have hahead : phase.Ahead documents := h.ahead _ rfl
  have hok : ∀ {j : ℕ} {x : RunDocument}, documents[j]? = some x → x.Ok :=
    fun hj => h.ok _ (List.mem_of_getElem? hj)
  have hlost : ∀ {b : Bool}, ¬ b = true → b = false := fun hb => by simpa using hb
  cases phase with
  | ingesting =>
    dsimp only [DeliveryState.advance]
    split
    · -- the row of a new document is queued
      have hnew : ∀ x ∈ documents ++ [({} : RunDocument)], x ∈ documents ∨ x = {} := by
        intro x hx
        simpa using hx
      refine h.goOn hw rfl rfl rfl (fun x hx => ?_) (fun _ => .inl rfl) (fun j x hj _ => ?_)
      · rcases hnew x hx with hold | rfl
        · exact h.ok x hold
        · exact ⟨fun _ => ⟨rfl, rfl⟩, fun hp => by cases hp⟩
      · intro hprocessing
        rcases hnew x (List.mem_of_getElem? hj) with hold | rfl
        · obtain ⟨k, hk⟩ := List.mem_iff_getElem?.1 hold
          exact hahead k x hk (inProgress_iff.2 (.inr hprocessing)) hprocessing
        · cases hprocessing
    · split
      · refine h.move hw (by simp) fun j x hj hx hp => ?_
        have hroute := hahead j x hj hx hp
        exact ⟨hroute, mem_pendingRoutes hj hroute⟩
      · split
        · exact h
        · next hcurrent => exact h.stop hw (by simp) (.inl (hlost hcurrent))
  | routes rest =>
    cases rest with
    | nil =>
      refine h.move hw (by simp) fun j x hj hx => ?_
      rcases inProgress_iff.1 hx with hq | hp
      · exact ⟨hq, List.mem_range.2 (List.getElem?_eq_some_iff.1 hj).1⟩
      · have hnone := (hahead j x hj hx hp).2
        cases hnone
    | cons d rest =>
      dsimp only [DeliveryState.advance]
      split
      · obtain ⟨hstatus, htask, hmodule⟩ := touchRun_row run loaded.taskId input.now
        refine h.goOn hw hmodule hstatus htask h.ok (fun hp => .inr (hp.resolve_left (by simp)))
          fun j x hj hx hp => ?_
        obtain ⟨hroute, hmem⟩ := hahead j x hj hx hp
        exact ⟨hroute, List.mem_cons.1 hmem⟩
      · next hcurrent => exact h.stop hw (by simp) (.inl (hlost hcurrent))
  | executing d next =>
    dsimp only [DeliveryState.advance]
    split
    · next hrouted =>
      -- the route was finished by a request
      have hdone : ∀ x, documents[d]? = some x → x.route = some .routed := by
        intro x hx
        simpa [hx] using hrouted
      cases next with
      | routes rest =>
        refine h.move hw (by simp [DeliveryState.AfterRoute.go]) fun j x hj hx hp => ?_
        obtain ⟨hroute, hmem⟩ := hahead j x hj hx hp
        refine ⟨hroute, hmem.resolve_left ?_⟩
        rintro rfl
        rw [hdone x hj] at hroute
        cases hroute
      | documents rest =>
        refine h.move hw (by simp [DeliveryState.AfterRoute.go]) fun j x hj hx => ?_
        obtain ⟨hqueued, hprocessing⟩ := hahead j x hj hx
        rcases inProgress_iff.1 hx with hq | hp
        · exact ⟨hq, (hqueued hq).2⟩
        · obtain rfl := hprocessing hp
          rcases ((hok hj).processing hp).2 with hroute | hroute <;>
            rw [hdone x hj] at hroute <;> cases hroute
    · split
      · cases next with
        | routes rest => exact h.move hw (by simp) hahead
        | documents rest => exact h.move hw (by simp) hahead
      · next hlocked =>
        refine h.stop hw ?_ (.inr (hlost hlocked))
        cases next <;> simp [DeliveryState.AfterRoute.stop]
  | copying d next =>
    have hleft : ∀ (outcome : CopyOutcome) (p : DeliveryPhase), outcome ≠ .raised → p ≠ .ingesting →
        (∀ j x, j ≠ d → documents[j]? = some x → x.isInProgress = true → p.Expects j x) →
          DeliveryKept (((DeliveryState.mk run documents (some ⟨loaded, .copying d next⟩)
            calls).setDocument d (·.finishRoute outcome)).setPhase ⟨loaded, .copying d next⟩ p) := by
      intro outcome p houtcome hp hother
      have hout : ∀ x, documents[d]? = some x → ¬ (x.finishRoute outcome).isInProgress = true := by
        intro x hx hin
        rw [(hok hx).finishRoute_left houtcome] at hin
        cases hin
      exact h.modify hw hp (fun x hx => .of_left ((hok hx).finishRoute_left houtcome))
        (fun x hx hin => absurd hin (hout x hx)) hother (fun x hx hin => absurd hin (hout x hx))
    have hgo : ∀ j x, j ≠ d → documents[j]? = some x → x.isInProgress = true →
        (DeliveryState.AfterRoute.go next).Expects j x := by
      intro j x hne hj hx
      have hexpects := hahead j x hj hx
      cases next with
      | routes rest => exact fun hp => ⟨(hexpects hp).1, (hexpects hp).2.resolve_left hne⟩
      | documents rest =>
        rcases inProgress_iff.1 hx with hq | hp
        · exact ⟨hq, (hexpects.1 hq).2⟩
        · exact absurd (hexpects.2 hp) hne
    have hfailed : ∀ j x, j ≠ d → documents[j]? = some x → x.isInProgress = true →
        (DeliveryState.AfterRoute.storageFailed d next).Expects j x := by
      intro j x hne hj hx
      cases next with
      | routes rest => exact hgo j x hne hj hx
      | documents rest => exact hahead j x hj hx
    have hstop : ¬ (DeliveryState.isLocked ⟨run, documents, some ⟨loaded, .copying d next⟩, calls⟩
        ⟨loaded, .copying d next⟩) = true →
          DeliveryKept (DeliveryState.setPhase ⟨run, documents, some ⟨loaded, .copying d next⟩, calls⟩
            ⟨loaded, .copying d next⟩ (DeliveryState.AfterRoute.stop next)) := by
      intro hlocked
      refine h.stop hw ?_ (.inr (hlost hlocked))
      cases next <;> simp [DeliveryState.AfterRoute.stop]
    have hraised : DeliveryKept (DeliveryState.routeRaised ⟨run, documents,
        some ⟨loaded, .copying d next⟩, calls⟩ ⟨loaded, .copying d next⟩ input d next) := by
      cases next with
      | routes rest => exact h.raise ⟨loaded, .copying d (.routes rest)⟩ input.exc input.now
      | documents rest => exact h.move hw (by simp) hahead
    dsimp only [DeliveryState.advance]
    cases hcopy : input.copy with
    | raised => exact hraised
    | copied =>
      dsimp only
      split
      · exact hleft .copied _ (by simp) (by cases next <;> simp [DeliveryState.AfterRoute.go]) hgo
      · next hlocked => exact hstop hlocked
    | storageError =>
      dsimp only
      split
      · split
        · exact hraised
        · exact hleft .storageError _ (by simp)
            (by cases next <;> simp [DeliveryState.AfterRoute.storageFailed]) hfailed
      · next hlocked => exact hstop hlocked
  | documents rest =>
    cases rest with
    | nil =>
      have hnothing : ∀ p : DeliveryPhase, p.Ahead documents := by
        intro p j x hj hx
        have hnone := (hahead j x hj hx).2
        cases hnone
      dsimp only [DeliveryState.advance]
      refine h.move hw ?_ (hnothing _)
      split <;> simp
    | cons d rest =>
      dsimp only [DeliveryState.advance]
      split
      · obtain ⟨hstatus, htask, hmodule⟩ := touchRun_row run loaded.taskId input.now
        refine h.goOn hw hmodule hstatus htask h.ok (fun hp => .inr (hp.resolve_left (by simp)))
          fun j x hj hx => ?_
        obtain ⟨hq, hmem⟩ := hahead j x hj hx
        exact ⟨hq, List.mem_cons.1 hmem⟩
      · next hcurrent => exact h.stop hw (by simp) (.inl (hlost hcurrent))
  | claiming d rest =>
    dsimp only [DeliveryState.advance]
    split
    · split
      · next hclaimable =>
        have hqueued : ∀ x, documents[d]? = some x →
            x.status = .queued ∧ x.route = none ∧ x.review = none := by
          intro x hx
          simpa [hx, RunDocument.isClaimable, and_assoc] using hclaimable
        refine h.modify hw (by simp) (fun x hx => ?_) (fun x hx _ => ?_) (fun j x hne hj hx => ?_)
          (fun x hx _ => ?_)
        · obtain ⟨-, hroute, hreview⟩ := hqueued x hx
          exact ⟨fun hq => (by cases hq), fun _ => ⟨hreview, .inl hroute⟩⟩
        · exact inProgress_iff.2 (.inl (hqueued x hx).1)
        · obtain ⟨hq, hmem⟩ := hahead j x hj hx
          refine ⟨fun _ => ⟨hne, hmem.resolve_left hne⟩, fun hp => ?_⟩
          rw [hq] at hp
          cases hp
        · exact ⟨fun hq => (by cases hq), fun _ => rfl⟩
      · next hclaimable =>
        refine h.move hw (by simp) fun j x hj hx => ?_
        obtain ⟨hq, hmem⟩ := hahead j x hj hx
        refine ⟨hq, hmem.resolve_left ?_⟩
        rintro rfl
        obtain ⟨hreview, hroute⟩ := (hok hj).queued hq
        exact hclaimable (by simp [hj, RunDocument.isClaimable, hq, hroute, hreview])
    · next hlocked => exact h.stop hw (by simp) (.inr (hlost hlocked))
  | processing d rest =>
    dsimp only [DeliveryState.advance]
    split
    · exact h.move hw (by simp) hahead
    · split
      · have hleft : ∀ x : RunDocument, x.openReview.isInProgress = false := fun _ => rfl
        refine h.modify hw (by simp) (fun x _ => .of_left (hleft x)) (fun x _ hx => ?_)
          (fun j x hne hj hx => ?_) (fun x _ hx => ?_)
        · cases hx
        · exact expects_rest (hahead j x hj hx) hx hne
        · cases hx
      · next hlocked => exact h.stop hw (by simp) (.inr (hlost hlocked))
    · split
      · refine h.modify hw (by simp) (fun x hx => ⟨fun hq => ?_, fun hp => ?_⟩) (fun x _ hx => hx)
          (fun j x _ hj hx => hahead j x hj hx) (fun x hx hin => hahead d x hx hin)
        · have hin : x.isInProgress = true := inProgress_iff.2 (.inl hq)
          exact absurd rfl ((hahead d x hx hin).1 hq).1
        · exact ⟨((hok hx).processing hp).1, .inr rfl⟩
      · next hlocked => exact h.stop hw (by simp) (.inr (hlost hlocked))
  | failing d rest =>
    dsimp only [DeliveryState.advance]
    split
    · refine h.modify hw (by simp) (fun x _ => .of_left rfl) (fun x _ hx => ?_)
        (fun j x hne hj hx => ?_) (fun x _ hx => ?_)
      · cases hx
      · exact expects_rest (hahead j x hj hx) hx hne
      · cases hx
    · next hlocked => exact h.stop hw (by simp) (.inr (hlost hlocked))
  | recomputing =>
    have hnothing : ∀ x ∈ documents, ¬ x.isInProgress = true := by
      intro x hx hin
      obtain ⟨j, hj⟩ := List.mem_iff_getElem?.1 hx
      exact hahead j x hj hin
    refine ⟨?_, h.ok, fun _ x hx => ?_, fun w' hw' => ?_, fun w' hw' j x hj hin => ?_⟩
    · exact (recompute_keepsQueue run _ loaded.taskId false input.now).1.trans h.module
    · by_contra hinterrupted
      exact hnothing x hx (inProgress_of_interrupted (by simpa using hinterrupted))
    · obtain ⟨hw'', hreturned, -⟩ := hw'
      cases hw''
      exact absurd rfl hreturned
    · exact absurd hin (hnothing x (List.mem_of_getElem? hj))
  | returned => exact absurd rfl hw.2.1
  | raised => exact absurd rfl hw.2.2

/-- Another row, with nobody at work on it. -/
theorem idle {run : AutomationRun} {documents : List RunDocument} {calls : List WebCall}
    (hmodule : run.module = .sc04) (hok : ∀ x ∈ documents, x.Ok)
    (hwaiting : run.status = .pending ∨ run.status = .queued →
      ∀ x ∈ documents, x.isInterrupted = false) :
    DeliveryKept ⟨run, documents, none, calls⟩ :=
  ⟨hmodule, hok, hwaiting, fun _ hw => (by cases hw.1), fun _ hw => (by cases hw)⟩

/-- A delivery that has just started. -/
theorem begin_ {run : AutomationRun} {documents : List RunDocument} {calls : List WebCall}
    (hmodule : run.module = .sc04) (hrunning : run.status = .running) (hok : ∀ x ∈ documents, x.Ok)
    (hfresh : ∀ x ∈ documents, x.isInterrupted = false) :
    DeliveryKept ⟨run, documents, some { loaded := run }, calls⟩ := by
  refine ⟨hmodule, hok, fun _ => hfresh, fun w hw _ => ?_, fun w hw => ?_⟩
  · obtain ⟨hw', -⟩ := hw
    cases hw'
    exact ⟨hrunning, rfl⟩
  · cases hw
    intro j x hj _ hp
    have hx := List.mem_of_getElem? hj
    exact (hok x hx).routing (hfresh x hx) hp

theorem ok_map {f : RunDocument → RunDocument} {documents : List RunDocument}
    (hf : ∀ x ∈ documents, (f x).Ok) : ∀ x ∈ documents.map f, x.Ok := by
  intro x hx
  obtain ⟨y, hy, rfl⟩ := List.mem_map.1 hx
  exact hf y hy

theorem reset_map {documents : List RunDocument} (hok : ∀ x ∈ documents, x.Ok) :
    (∀ x ∈ documents.map RunDocument.reset, x.Ok) ∧
      ∀ x ∈ documents.map RunDocument.reset, x.isInterrupted = false := by
  refine ⟨ok_map fun x hx => (hok x hx).reset, fun x hx => ?_⟩
  obtain ⟨y, -, rfl⟩ := List.mem_map.1 hx
  exact reset_interrupted y

theorem start (h : DeliveryKept s) (settings : Settings) (t : TaskId) (redelivered : Bool)
    (now : ℕ) : DeliveryKept (s.start settings t redelivered now) := by
  have hrows := startSc04_rows s.run settings t redelivered now
  unfold DeliveryState.start
  cases hstart : s.run.startSc04 (.uuid t) redelivered settings now with
  | ignored => exact h
  | closed run =>
    rw [hstart] at hrows
    refine idle (hrows.1.trans h.module) (ok_map fun x _ => .of_left (close_left x)) fun hwaiting => ?_
    rw [hrows.2] at hwaiting
    simp at hwaiting
  | resumed run =>
    rw [hstart] at hrows
    obtain ⟨hok, hfresh⟩ := reset_map h.ok
    exact begin_ (hrows.1.trans h.module) hrows.2 hok hfresh
  | started run =>
    rw [hstart] at hrows
    obtain ⟨hmodule, hrunning, hbefore⟩ := hrows
    exact begin_ (hmodule.trans h.module) hrunning h.ok (h.waiting hbefore)

theorem reconcileOne (h : DeliveryKept s) (settings : Settings) (hasNewItems : Bool)
    (fresh : TaskId) (now : ℕ) : DeliveryKept (s.reconcileOne settings hasNewItems fresh now) := by
  unfold DeliveryState.reconcileOne
  rcases reconcileOne_sc04 s.run settings hasNewItems fresh now h.module with
    hskip | ⟨run, hclaim, hmodule, -, hbefore⟩ | ⟨run, hfail, hmodule, hfailed⟩
  · rw [hskip]
    exact h
  · rw [hclaim]
    dsimp only
    obtain ⟨hok, hfresh⟩ := reset_map h.ok
    split
    · exact idle hmodule hok fun _ => hfresh
    · next hstatus =>
      refine idle hmodule h.ok fun _ => h.waiting ?_
      rcases hbefore with hpending | hqueued | hrunning
      · exact .inl hpending
      · exact .inr hqueued
      · exact absurd hrunning hstatus
  · rw [hfail]
    have hnever : ¬ (run.status = .pending ∨ run.status = .queued) := by
      rw [hfailed]
      simp
    dsimp only
    split
    · exact idle hmodule h.ok fun hwaiting => absurd hwaiting hnever
    · exact idle hmodule (ok_map fun x _ => .of_left (close_left x))
        fun hwaiting => absurd hwaiting hnever

/-- A request changes document `i`, which is not in progress or is not any more. -/
theorem request (h : DeliveryKept s) {i : ℕ} {f : RunDocument → RunDocument} (calls : List WebCall)
    (hleft : ∀ x, s.documents[i]? = some x → (f x).isInProgress = true → f x = x) :
    DeliveryKept { s.setDocument i f with calls } := by
  have hsame : ∀ (j : ℕ) (x : RunDocument), (s.documents.modify i f)[j]? = some x →
      x.isInProgress = true → s.documents[j]? = some x := by
    intro j x hj hx
    obtain ⟨y, hy, rfl⟩ := modify_cases hj
    by_cases hij : i = j
    · subst hij
      rw [if_pos rfl] at hx ⊢
      rw [hleft y hy hx]
      exact hy
    · rw [if_neg hij]
      exact hy
  have hback : ∀ x ∈ s.documents.modify i f, x.isInProgress = true → x ∈ s.documents := by
    intro x hx hin
    obtain ⟨j, hj⟩ := List.mem_iff_getElem?.1 hx
    exact List.mem_of_getElem? (hsame j x hj hin)
  refine ⟨h.module, ok_modify h.ok fun x hx => ?_, fun hwaiting x hx => ?_, fun w hw hp => ?_,
    fun w hw j x hj hx => ?_⟩
  · by_cases hin : (f x).isInProgress = true
    · rw [hleft x hx hin]
      exact h.ok x (List.mem_of_getElem? hx)
    · exact .of_left (by simpa using hin)
  · by_contra hinterrupted
    have hi : x.isInterrupted = true := by simpa using hinterrupted
    have hold := h.waiting hwaiting x (hback x hx (inProgress_of_interrupted hi))
    rw [hi] at hold
    cases hold
  · refine h.current w hw (hp.imp_right fun ⟨x, hx, hin⟩ => ⟨x, hback x hx hin, hin⟩)
  · exact h.ahead w hw j x (hsame j x hj hx) hx

/-- A recomputation of a request that pauses nothing. -/
theorem callRecompute (h : DeliveryKept s) {i : ℕ} {preserve : Bool}
    (hi : s.calls[i]? = some (.recomputing preserve)) (others : OtherItems) (now : ℕ)
    (hx : s.pauses (.callRecompute i others now) = false) {w : DeliveryWorker} (hw : s.Active w)
    (hp : w.phase = .ingesting ∨ s.InProgress) :
    (s.run.recompute (s.counts others) none preserve now).status = .running ∧
      (s.run.recompute (s.counts others) none preserve now).taskId = s.run.taskId := by
  obtain ⟨hworker, hreturned, hraised⟩ := hw
  have hbusy : (w.phase == .ingesting || s.documents.any RunDocument.isInProgress) = true := by
    rcases hp with hingesting | ⟨x, hmem, hin⟩
    · simp [hingesting]
    · simp only [Bool.or_eq_true, List.any_eq_true]
      exact .inr ⟨x, hmem, hin⟩
  simp only [DeliveryState.pauses, hi, hworker, hbusy, Bool.and_true, Bool.and_eq_false_iff,
    bne_eq_false_iff_eq, hreturned, hraised, false_or, Bool.or_eq_false_iff,
    Bool.not_eq_false'] at hx
  obtain ⟨hreview, hprogress⟩ := hx
  obtain ⟨hrunning, -⟩ := h.current w ⟨hworker, hreturned, hraised⟩ hp
  refine recompute_running s.run preserve now hrunning ?_ ?_
  · show s.documents.countP _ = 0
    rw [List.countP_eq_zero]
    intro x hmem
    simpa using List.any_eq_false.1 hreview x hmem
  · show s.documents.countP _ ≠ 0
    obtain ⟨x, hmem, hin⟩ := List.any_eq_true.1 hprogress
    exact (List.countP_pos_iff.2 ⟨x, hmem, hin⟩).ne'

/-- **A step that pauses nothing.** -/
theorem step (h : DeliveryKept s) (settings : Settings) (x : DeliveryStep)
    (hx : s.pauses x = false) : DeliveryKept (s.step settings x) := by
  have hcalls : ∀ calls : List WebCall, DeliveryKept { s with calls } :=
    fun _ => ⟨h.module, h.ok, h.waiting, h.current, h.ahead⟩
  cases x with
  | start t redelivered now => exact h.start settings t redelivered now
  | work input =>
    dsimp only [DeliveryState.step]
    split
    · exact h
    · next w hw =>
      by_cases hended : w.phase = .returned ∨ w.phase = .raised
      · have hsame : s.advance w input = s := by
          rcases hended with hphase | hphase <;> simp only [DeliveryState.advance, hphase]
        rw [hsame]
        exact h
      · exact h.advance ⟨hw, fun hp => hended (.inl hp), fun hp => hended (.inr hp)⟩ input
  | fail exc now =>
    dsimp only [DeliveryState.step]
    split
    · exact h
    · next w hw =>
      split
      · exact h
      · exact h.raise w exc now
  | crash => exact idle h.module h.ok h.waiting
  | resolveReview d =>
    dsimp only [DeliveryState.step]
    split
    · next hpending =>
      -- a document with a review is not in progress
      refine h.request _ fun x hx hin => ?_
      have hreview : x.review = some .pending := by
        simp only [hx, Option.any_some, Bool.and_eq_true, beq_iff_eq] at hpending
        exact hpending.1
      have hok := h.ok x (List.mem_of_getElem? hx)
      rcases inProgress_iff.1 hin with hq | hp
      · rw [(hok.queued hq).1] at hreview
        cases hreview
      · rw [(hok.processing hp).1] at hreview
        cases hreview
    · exact h
  | retryRoute d =>
    dsimp only [DeliveryState.step]
    split
    · exact hcalls _
    · exact h
  | callRoute i =>
    dsimp only [DeliveryState.step]
    split
    · split
      · exact hcalls _
      · exact hcalls _
    · exact h
  | callCopy i outcome =>
    dsimp only [DeliveryState.step]
    split
    · refine h.request _ fun x _ hin => ?_
      cases outcome with
      | raised => rfl
      | copied => cases hin
      | storageError =>
        dsimp only [RunDocument.finishRoute] at hin ⊢
        split at hin
        · next hrouted => rw [if_pos hrouted]
        · cases hin
    · exact h
  | callRecompute i others now =>
    dsimp only [DeliveryState.step]
    split
    · next preserve hi =>
      obtain ⟨hpending, hqueued⟩ := recomputedStatus_started s.run (s.counts others) preserve now
      refine ⟨?_, h.ok, fun hwaiting => ?_, fun w hw hp => ?_, h.ahead⟩
      · exact (recompute_keepsQueue s.run _ none preserve now).1.trans h.module
      · exact absurd hwaiting (not_or.2 ⟨hpending, hqueued⟩)
      · obtain ⟨hrunning, htask⟩ := h.callRecompute hi others now hx hw hp
        exact ⟨hrunning, htask.trans (h.current w hw hp).2⟩
    · exact h
  | callCrash i => exact hcalls _
  | reconcileOne hasNewItems fresh now => exact h.reconcileOne settings hasNewItems fresh now

/-- **A history that pauses nothing.** -/
theorem after (h : DeliveryKept s) (settings : Settings) (xs : List DeliveryStep)
    (hxs : s.PausesNothing settings xs) : DeliveryKept (s.after settings xs) := by
  induction xs generalizing s with
  | nil => exact h
  | cons x xs ih => exact ih (h.step settings x hxs.1) hxs.2

theorem keepsRunning (h : DeliveryKept s) (settings : Settings) {x : DeliveryStep}
    (hx : s.pauses x = false) : s.KeepsRunning settings x := by
  rintro i others now preserve rfl hi ⟨w, hw⟩ hp
  have hstep : (s.step settings (.callRecompute i others now)).run =
      s.run.recompute (s.counts others) none preserve now := by
    simp only [DeliveryState.step, hi]
  rw [hstep]
  exact h.callRecompute hi others now hx hw (.inr hp)

theorem strandsNothing (h : DeliveryKept s) : s.StrandsNothing := by
  rintro w hw hreturned ⟨x, hx, hin⟩
  obtain ⟨j, hj⟩ := List.mem_iff_getElem?.1 hx
  have hexpects := h.ahead w hw j x hj hin
  rw [hreturned] at hexpects
  exact hexpects

theorem initial {run : AutomationRun} (hmodule : run.module = .sc04) (uploads : ℕ) :
    DeliveryKept (.initial run uploads) := by
  have huploaded : ∀ x ∈ List.replicate uploads ({} : RunDocument), x = {} :=
    fun x hx => List.eq_of_mem_replicate hx
  refine idle hmodule (fun x hx => ?_) fun _ x hx => ?_
  · rw [huploaded x hx]
    exact ⟨fun _ => ⟨rfl, rfl⟩, fun hp => by cases hp⟩
  · rw [huploaded x hx]
    rfl

end DeliveryKept

/-- Each step of a history that pauses nothing pauses nothing where it is taken. -/
theorem pausesNothing_append {s : DeliveryState} {settings : Settings} {x : DeliveryStep}
    {xs ys : List DeliveryStep} (h : s.PausesNothing settings (xs ++ x :: ys)) :
    s.PausesNothing settings xs ∧ (s.after settings xs).pauses x = false := by
  induction xs generalizing s with
  | nil => exact ⟨trivial, h.1⟩
  | cons y xs ih =>
    obtain ⟨hrest, hx⟩ := ih h.2
    exact ⟨⟨h.1, hrest⟩, hx⟩

/-- **No recomputation of a request takes the run from a delivery with documents to process, and no
delivery that returns leaves one behind**, in every history in which no request recomputes the run
while a document awaits review, or none is in progress, and the delivery still ingests or has
documents to process. -/
theorem run_strandsNothing (settings : Settings) (run : AutomationRun) (hmodule : run.module = .sc04)
    (uploads : ℕ) (xs : List DeliveryStep)
    (hxs : (DeliveryState.initial run uploads).PausesNothing settings xs) :
    (∀ pre x post, xs = pre ++ x :: post →
      ((DeliveryState.initial run uploads).after settings pre).KeepsRunning settings x) ∧
    ((DeliveryState.initial run uploads).after settings xs).StrandsNothing := by
  have hinitial := DeliveryKept.initial hmodule uploads
  refine ⟨fun pre x post hsplit => ?_, (hinitial.after settings xs hxs).strandsNothing⟩
  subst hsplit
  obtain ⟨hpre, hx⟩ := pausesNothing_append hxs
  exact (hinitial.after settings pre hpre).keepsRunning settings hx

section Histories

/-- A run of SC-04 in the queue under token 0. -/
def queuedInboxRun : AutomationRun := RunTable.queuedRun .sc04 .manual 0 0

/-- Of two documents the first awaits review, is resolved, copied and recomputed before the delivery
takes the second. -/
def reviewedMeanwhile : List DeliveryStep :=
  [.start 0 false 1, .work { endsInbox := true }, .work {}, .work {}, .work {},
    .work { classification := .review }, .resolveReview 0, .callRoute 0, .callCopy 0 .copied,
    .callRecompute 0 {} 2, .work {}, .work {}, .work {}, .work {}, .work {}, .work {}]

/-- The second document keeps the run from being paused. -/
theorem run_strandsNothing_reviewed :
    (∀ pre x post, reviewedMeanwhile = pre ++ x :: post →
      ((DeliveryState.initial queuedInboxRun 2).after {} pre).KeepsRunning {} x) ∧
    ((DeliveryState.initial queuedInboxRun 2).after {} reviewedMeanwhile).StrandsNothing :=
  run_strandsNothing {} queuedInboxRun rfl 2 reviewedMeanwhile
    ⟨rfl, rfl, rfl, rfl, rfl, rfl, rfl, rfl, rfl, rfl, rfl, rfl, rfl, rfl, rfl, rfl, trivial⟩

/-- Of three documents the first two await review, and the first is reviewed before the delivery
takes the third. -/
def reviewedFirst : List DeliveryStep :=
  [.start 0 false 1, .work { endsInbox := true }, .work {},
    .work {}, .work {}, .work { classification := .review },
    .work {}, .work {}, .work { classification := .review },
    .resolveReview 0, .callRoute 0, .callCopy 0 .copied]

/-- The review leaves the run in `AWAITING_REVIEW`, and the delivery returns without the third
document. -/
theorem review_strands :
    ¬ ((DeliveryState.initial queuedInboxRun 3).after {} reviewedFirst).KeepsRunning {}
      (.callRecompute 0 {} 2) ∧
    ¬ ((DeliveryState.initial queuedInboxRun 3).after {}
      (reviewedFirst ++ [.callRecompute 0 {} 2, .work {}])).StrandsNothing := by
  refine ⟨fun h => ?_, fun h => ?_⟩
  · have hkept := h 0 {} 2 false rfl rfl ⟨_, rfl, by decide +kernel, by decide +kernel⟩
      ⟨{}, by decide +kernel, rfl⟩
    exact absurd hkept.1 (by decide +kernel)
  · exact h _ rfl (by decide +kernel) ⟨{}, by decide +kernel, rfl⟩

end Histories

end SheepContabil
