import SheepContabil.Spec.Sc04Routing

/-!
# SC-04: a routed document stays routed

The constraints keep one review, one decision and one route, and none of the writers takes a
route back from `ROUTED`. The status of the document has no constraint of its own: a delivery
that still owns the run may mark a routed document failed, or open its review.

* `Rows`: what the constraints keep.
* `Kept`: a write that keeps the route and the document together.
* `step_kept`: every step does, but for one that overwrites.
* `run_routesTogether`: the run lemma, and when the route and the document stay together.
-/

namespace SheepContabil

/-- What the constraints of the database keep. -/
structure Rows (x : DocumentRows) : Prop where
  reviews : x.reviews.length ≤ 1
  decisions : x.decisions.length ≤ 1
  routes : x.routes = [] ∨ x.decisions ≠ [] ∧ ∃ r, x.routes = [r] ∧ r.decision = 0
  consistent : ∀ r ∈ x.routes, r.consistent = true

/-- A write that keeps the route and the document together. -/
structure Kept (x y : DocumentRows) : Prop where
  rows : Rows y
  stays : x.isRouted = true → y.isRouted = true
  together : (x.isRouted = true → x.status = .routed) → y.isRouted = true → y.status = .routed

section Writes

variable {x y : DocumentRows}

theorem Kept.refl (h : Rows x) : Kept x x := ⟨h, id, id⟩

/-- A write that leaves the routes alone, when there is none that is routed. -/
theorem Kept.of_unrouted (h : Rows y) (hx : x.isRouted = false) (hy : y.isRouted = false) : Kept x y :=
  ⟨h, by simp [hx], by simp [hy]⟩

theorem Rows.length_le (h : Rows x) : x.routes.length ≤ 1 := by
  rcases h.routes with hnil | ⟨-, r, hone, -⟩
  · simp [hnil]
  · simp [hone]

/-- An update of the one route. -/
theorem updateRoute_cases {route : ℕ} {f : RouteRow → RouteRow} (h : Rows x)
    (hupdate : x.updateRoute route f = some y) (hf : ∀ r, (f r).decision = r.decision) :
    ∃ r, x.routes = [r] ∧ r.consistent = true ∧ (f r).consistent = true ∧
      y = { x with routes := [f r] } ∧ Rows y := by
  unfold DocumentRows.updateRoute at hupdate
  split at hupdate
  · next hany =>
    have hy := (Option.some.inj hupdate).symm
    rcases h.routes with hnil | ⟨hdecisions, r, hone, hzero⟩
    · rw [hnil] at hany
      simp at hany
    · rw [hone] at hany hy
      cases route with
      | succ n => simp at hany
      | zero =>
        have hr : (f r).consistent = true := by simpa using hany
        have heq : y = { x with routes := [f r] } := by rw [hy]; simp
        refine ⟨r, hone, h.consistent r (by simp [hone]), hr, heq, ?_⟩
        rw [heq]
        exact ⟨h.reviews, h.decisions, .inr ⟨hdecisions, f r, rfl, (hf r).trans hzero⟩, by simpa using hr⟩
  · cases hupdate

theorem isRouted_one {r : RouteRow} (h : x.routes = [r]) :
    x.isRouted = true ↔ r.status = .routed := by
  simp [DocumentRows.isRouted, h]

theorem attempt_kept {route : ℕ} (h : Rows x)
    (hupdate : (x.updateRoute route fun r => { r with attemptCount := r.attemptCount + 1 }) = some y) :
    Kept x y := by
  obtain ⟨r, hone, -, -, rfl, hrows⟩ := updateRoute_cases h hupdate fun _ => rfl
  have hsame : ({ x with routes := [{ r with attemptCount := r.attemptCount + 1 }] } :
      DocumentRows).isRouted = x.isRouted := by
    simp [DocumentRows.isRouted, hone]
  exact ⟨hrows, hsame.trans, fun htogether hrouted => htogether (hsame.symm.trans hrouted)⟩

theorem Rows.setStatus (h : Rows x) (status : DocumentStatus) : Rows { x with status } :=
  ⟨h.reviews, h.decisions, h.routes, h.consistent⟩

/-- A copy that succeeds leaves both `ROUTED`. -/
theorem routed_kept {route now : ℕ} (h : Rows x) (hrouted : x.routed route now = some y) : Kept x y := by
  unfold DocumentRows.routed at hrouted
  obtain ⟨z, hz, rfl⟩ := Option.map_eq_some_iff.mp hrouted
  obtain ⟨r, -, -, -, rfl, hrows⟩ := updateRoute_cases h hz fun _ => rfl
  exact ⟨hrows.setStatus _, fun _ => rfl, fun _ _ => rfl⟩

/-- **A routed route cannot fail**: it has the time at which it was routed. -/
theorem storageFailed_kept {route : ℕ} {exc : String} (h : Rows x)
    (hfailed : x.storageFailed route exc = some y) : Kept x y := by
  unfold DocumentRows.storageFailed at hfailed
  obtain ⟨z, hz, rfl⟩ := Option.map_eq_some_iff.mp hfailed
  obtain ⟨r, hone, hconsistent, hfail, rfl, hrows⟩ := updateRoute_cases h hz fun _ => rfl
  have hunrouted : x.isRouted = false := by
    rw [Bool.eq_false_iff]
    intro hrouted
    have hstatus := (isRouted_one hone).mp hrouted
    simp only [RouteRow.consistent, hstatus, Bool.and_eq_true] at hconsistent
    simp only [RouteRow.consistent, Bool.and_eq_true, Option.isNone_iff_eq_none] at hfail
    rw [hfail.1] at hconsistent
    simp at hconsistent
  exact Kept.of_unrouted (hrows.setStatus _) hunrouted rfl

theorem routes_nil (h : Rows x) (hdecisions : x.decisions = []) : x.routes = [] := by
  rcases h.routes with hnil | ⟨hne, -⟩
  · exact hnil
  · exact absurd hdecisions hne

/-- A decision is created with its route, and only the first one. -/
theorem decide_cases {origin : DocumentDecisionOrigin} (h : Rows x)
    (hdecided : x.decide_ origin = some y) :
    x.decisions = [] ∧ y = { x with decisions := [origin], routes := [{ decision := 0 }] } ∧ Rows y := by
  unfold DocumentRows.decide_ DocumentRows.createDecision at hdecided
  obtain ⟨z, hz, hroute⟩ := Option.bind_eq_some_iff.mp hdecided
  split at hz
  · next hnone =>
    obtain rfl := Option.some.inj hz
    have hnil := routes_nil h hnone
    unfold DocumentRows.prepareRoute at hroute
    rw [if_neg (by simp [hnil])] at hroute
    have heq : y = { x with decisions := [origin], routes := [{ decision := 0 }] } := by
      rw [← Option.some.inj hroute]
      simp [hnil]
    refine ⟨hnone, heq, ?_⟩
    rw [heq]
    exact ⟨h.reviews, by simp, .inr ⟨by simp, _, rfl, rfl⟩, by simp [RouteRow.consistent]⟩
  · cases hz

theorem unrouted_of_nil (h : x.routes = []) : x.isRouted = false := by
  simp [DocumentRows.isRouted, h]

theorem decide_kept {origin : DocumentDecisionOrigin} (h : Rows x)
    (hdecided : x.decide_ origin = some y) : Kept x y := by
  obtain ⟨hnone, rfl, hrows⟩ := decide_cases h hdecided
  exact Kept.of_unrouted hrows (unrouted_of_nil (routes_nil h hnone)) rfl

theorem resolveReview_kept (h : Rows x) (hresolved : x.resolveReview = some y) : Kept x y := by
  unfold DocumentRows.resolveReview at hresolved
  split at hresolved
  · have hx : Rows { x with reviews := x.reviews.map fun _ => DocumentReviewStatus.completed } :=
      ⟨by simpa using h.reviews, h.decisions, h.routes, h.consistent⟩
    obtain ⟨hnone, rfl, hrows⟩ := decide_cases hx hresolved
    exact Kept.of_unrouted hrows (unrouted_of_nil (routes_nil h hnone)) rfl
  · cases hresolved

theorem claim_kept (h : Rows x) (hclaim : x.isClaimable = true) :
    Kept x { x with status := .processing } := by
  have hnone : x.decisions = [] := by
    simp only [DocumentRows.isClaimable, Bool.and_eq_true, List.isEmpty_iff] at hclaim
    exact hclaim.1.2
  have hunrouted := unrouted_of_nil (routes_nil h hnone)
  exact Kept.of_unrouted (h.setStatus _) hunrouted hunrouted

theorem reset_kept (h : Rows x) : Kept x x.reset := by
  unfold DocumentRows.reset
  split
  · next hinterrupted =>
    have hunrouted := unrouted_of_nil (routes_nil h hinterrupted.2.1)
    exact Kept.of_unrouted (h.setStatus _) hunrouted hunrouted
  · exact Kept.refl h

/-- What is closed is in progress, or waits for its copy. -/
theorem close_kept (h : Rows x) (orphan : Bool) : Kept x (x.close orphan) := by
  have hrouted : (x.close orphan).isRouted = x.isRouted := by
    unfold DocumentRows.isRouted DocumentRows.close
    rw [List.any_map]
    congr 1
    funext r
    cases hstatus : r.status <;> simp [hstatus]
  refine ⟨⟨h.reviews, h.decisions, ?_, ?_⟩, fun hx => hrouted.trans hx, fun htogether hy => ?_⟩
  · rcases h.routes with hnil | ⟨hdecisions, r, hone, hzero⟩
    · exact .inl (by simp [DocumentRows.close, hnil])
    · refine .inr ⟨hdecisions, _, by rw [DocumentRows.close, hone]; rfl, ?_⟩
      dsimp only
      split
      · exact hzero
      · exact hzero
  · intro r' hr'
    obtain ⟨r, hr, rfl⟩ := List.mem_map.mp hr'
    have hconsistent := h.consistent r hr
    split
    · next hpending =>
      simp only [RouteRow.consistent, hpending, Bool.and_eq_true] at hconsistent ⊢
      refine ⟨hconsistent.1, ?_⟩
      cases orphan <;> decide
    · exact hconsistent
  · have hstatus := htogether (hrouted.symm.trans hy)
    simp [DocumentRows.close, hstatus]

theorem Rows.openReview (h : Rows x) : Rows x.openReview := by
  unfold DocumentRows.openReview DocumentRows.getOrCreateReview
  split
  · exact ⟨by simp, h.decisions, h.routes, h.consistent⟩
  · exact h.setStatus _

theorem openReview_routed (x : DocumentRows) : x.openReview.isRouted = x.isRouted := by
  unfold DocumentRows.openReview DocumentRows.getOrCreateReview DocumentRows.isRouted
  split <;> rfl

end Writes

namespace RoutingState

section Steps

variable {s : RoutingState}

@[simp] theorem setPhase_document (s : RoutingState) (i : ℕ) (phase : WorkerPhase) :
    (s.setPhase i phase).document = s.document := rfl

@[simp] theorem setCall_document (s : RoutingState) (i : ℕ) (call : RouteCall) :
    (s.setCall i call).document = s.document := rfl

/-- The step of a delivery that overwrites. -/
def overwritesAt (s : RoutingState) (w : RouteWorker) (input : RouteInput) : Bool :=
  s.document.isRouted &&
    (w.phase == .failing && s.passes w ||
      w.phase == .processing && input.classification == .review && s.isLocked w)

/-- A step that overwrites a routed document. -/
structure Overwritten (x y : DocumentRows) : Prop where
  rows : Rows y
  stays : y.isRouted = true
  apart : y.status ≠ .routed

/-- **What a delivery does next keeps the document with its route, unless it overwrites it.** -/
theorem work_kept (h : Rows s.document) (i : ℕ) (w : RouteWorker) (input : RouteInput) :
    s.overwritesAt w input = false ∧ Kept s.document (s.work i w input).document ∨
      s.overwritesAt w input = true ∧ Overwritten s.document (s.work i w input).document := by
  have hkept : ∀ {phase : WorkerPhase}, w.phase = phase → phase ≠ .failing → phase ≠ .processing →
      s.overwritesAt w input = false := by
    rintro phase rfl hfailing hprocessing
    simp [overwritesAt, hfailing, hprocessing]
  unfold work
  cases hphase : w.phase with
  | routes =>
    refine .inl ⟨hkept hphase (by simp) (by simp), ?_⟩
    dsimp only
    split
    · split <;> exact Kept.refl h
    · exact Kept.refl h
  | executing route inLoop =>
    refine .inl ⟨hkept hphase (by simp) (by simp), ?_⟩
    dsimp only
    split
    · exact Kept.refl h
    · split
      · split
        · next hupdate => exact attempt_kept h hupdate
        · exact Kept.refl h
      · exact Kept.refl h
  | copying route inLoop =>
    refine .inl ⟨hkept hphase (by simp) (by simp), ?_⟩
    dsimp only
    split
    · exact Kept.refl h
    · split
      · split
        · next hrouted => exact routed_kept h hrouted
        · exact Kept.refl h
      · exact Kept.refl h
    · split
      · split
        · next hfailed => exact storageFailed_kept h hfailed
        · exact Kept.refl h
      · exact Kept.refl h
  | claiming =>
    refine .inl ⟨hkept hphase (by simp) (by simp), ?_⟩
    dsimp only
    split
    · split
      · next hclaim => exact claim_kept h hclaim
      · exact Kept.refl h
    · exact Kept.refl h
  | processing =>
    dsimp only
    cases hclass : input.classification with
    | raised => exact .inl ⟨by simp [overwritesAt, hphase, hclass], Kept.refl h⟩
    | review =>
      dsimp only
      split
      · next hlocked =>
        -- the lock tests the run: another delivery may have routed the document
        cases hrouted : s.document.isRouted with
        | true =>
          refine .inr ⟨by simp [overwritesAt, hphase, hclass, hlocked, hrouted], h.openReview, ?_, ?_⟩
          · exact (openReview_routed _).trans hrouted
          · simp [DocumentRows.openReview]
        | false =>
          exact .inl ⟨by simp [overwritesAt, hrouted],
            Kept.of_unrouted h.openReview hrouted ((openReview_routed _).trans hrouted)⟩
      · next hlocked => exact .inl ⟨by simp [overwritesAt, hphase, hlocked], Kept.refl h⟩
    | decided =>
      refine .inl ⟨by simp [overwritesAt, hphase, hclass], ?_⟩
      dsimp only
      split
      · split
        · next hdecided => exact decide_kept h hdecided
        · exact Kept.refl h
      · exact Kept.refl h
  | failing =>
    dsimp only
    split
    · next hpasses =>
      -- a retry may have routed the document since the copy failed
      cases hrouted : s.document.isRouted with
      | true =>
        exact .inr ⟨by simp [overwritesAt, hphase, hpasses, hrouted], h.setStatus _, hrouted, by simp⟩
      | false =>
        exact .inl ⟨by simp [overwritesAt, hrouted], Kept.of_unrouted (h.setStatus _) hrouted hrouted⟩
    · next hpasses => exact .inl ⟨by simp [overwritesAt, hphase, hpasses], Kept.refl h⟩
  | ended => exact .inl ⟨hkept hphase (by simp) (by simp), Kept.refl h⟩

/-- A request never overwrites. -/
theorem callNext_kept (h : Rows s.document) (i : ℕ) (input : RouteInput) (call : RouteCall) :
    Kept s.document (s.callNext i input call).document := by
  unfold callNext
  cases call with
  | executing route =>
    dsimp only
    split
    · exact Kept.refl h
    · split
      · next hupdate => exact attempt_kept h hupdate
      · exact Kept.refl h
  | copying route =>
    dsimp only
    split
    · exact Kept.refl h
    · cases hrouted : s.document.routed route input.now with
      | none => exact Kept.refl h
      | some y => exact routed_kept h hrouted
    · cases hfailed : s.document.storageFailed route input.exc with
      | none => exact Kept.refl h
      | some y => exact storageFailed_kept h hfailed
  | ended => exact Kept.refl h

/-- **A step keeps the document with its route, unless it overwrites it.** -/
theorem step_kept (h : Rows s.document) (x : RoutingStep) :
    s.overwrites x = false ∧ Kept s.document (s.step x).document ∨
      s.overwrites x = true ∧ Overwritten s.document (s.step x).document := by
  cases x with
  | work i input =>
    simp only [overwrites, step]
    cases hw : s.workers[i]? with
    | none => exact .inl ⟨rfl, Kept.refl h⟩
    | some w => exact work_kept h i w input
  | setRun run => exact .inl ⟨rfl, Kept.refl h⟩
  | deliver loaded => exact .inl ⟨rfl, Kept.refl h⟩
  | resolveReview =>
    refine .inl ⟨rfl, ?_⟩
    simp only [step]
    split
    · next hresolved => exact resolveReview_kept h hresolved
    · exact Kept.refl h
  | retryRoute route =>
    refine .inl ⟨rfl, ?_⟩
    simp only [step]
    split <;> exact Kept.refl h
  | call i input =>
    refine .inl ⟨rfl, ?_⟩
    simp only [step]
    split
    · exact callNext_kept h i input _
    · exact Kept.refl h
  | crash i => exact .inl ⟨rfl, Kept.refl h⟩
  | callCrash i => exact .inl ⟨rfl, Kept.refl h⟩
  | reset => exact .inl ⟨rfl, reset_kept h⟩
  | close orphan => exact .inl ⟨rfl, close_kept h orphan⟩

theorem step_rows (h : Rows s.document) (x : RoutingStep) : Rows (s.step x).document := by
  rcases step_kept h x with ⟨-, hkept⟩ | ⟨-, hover⟩
  · exact hkept.rows
  · exact hover.rows

/-- No step takes a route back. -/
theorem step_stays (h : Rows s.document) (x : RoutingStep) (hrouted : s.document.isRouted = true) :
    (s.step x).document.isRouted = true := by
  rcases step_kept h x with ⟨-, hkept⟩ | ⟨-, hover⟩
  · exact hkept.stays hrouted
  · exact hover.stays

/-- One step keeps the document with its route exactly when it does not overwrite it. -/
theorem step_together (h : Rows s.document) (htogether : s.RoutedTogether) (x : RoutingStep) :
    (s.step x).RoutedTogether ↔ s.overwrites x = false := by
  rcases step_kept h x with ⟨hnone, hkept⟩ | ⟨hover, hbroken⟩
  · exact ⟨fun _ => hnone, fun _ => hkept.together htogether⟩
  · rw [hover]
    exact ⟨fun hstill => absurd (hstill hbroken.stays) hbroken.apart, fun hfalse => by cases hfalse⟩

end Steps

section Runs

variable {s : RoutingState}

theorem ingested_rows (run : AutomationRun) : Rows (ingested run).document :=
  ⟨by simp [ingested], by simp [ingested], .inl rfl, by simp [ingested]⟩

theorem after_rows (h : Rows s.document) (xs : List RoutingStep) : Rows (s.after xs).document := by
  induction xs generalizing s with
  | nil => exact h
  | cons x xs ih => exact ih (step_rows h x)

theorem after_stays (h : Rows s.document) (hrouted : s.document.isRouted = true)
    (xs : List RoutingStep) : (s.after xs).document.isRouted = true := by
  induction xs generalizing s with
  | nil => exact hrouted
  | cons x xs ih => exact ih (step_rows h x) (step_stays h x hrouted)

/-- **A history keeps the document with its route exactly when none of its steps overwrites it.** -/
theorem routesTogether_iff (h : Rows s.document) (htogether : s.RoutedTogether)
    (xs : List RoutingStep) : s.RoutesTogether xs ↔ s.OverwritesNothing xs := by
  induction xs generalizing s with
  | nil => exact ⟨fun _ => trivial, fun _ => htogether⟩
  | cons x xs ih =>
    have hstep := step_together h htogether x
    constructor
    · rintro ⟨-, hrest⟩
      have hnext : (s.step x).RoutedTogether := by
        cases xs with
        | nil => exact hrest
        | cons y ys => exact hrest.1
      exact ⟨hstep.mp hnext, (ih (step_rows h x) hnext).mp hrest⟩
    · rintro ⟨hnone, hrest⟩
      have hnext := hstep.mpr hnone
      exact ⟨htogether, (ih (step_rows h x) hnext).mpr hrest⟩

/-- A history that keeps them together ends with them together. -/
theorem RoutesTogether.last {xs : List RoutingStep} (h : s.RoutesTogether xs) :
    (s.after xs).RoutedTogether := by
  induction xs generalizing s with
  | nil => exact h
  | cons x xs ih => exact ih h.2

end Runs

/-- **Over any interleaving the document has at most one review, one decision and one route, and a
route that is `ROUTED` stays so; the document stays with it, in every state, exactly when no delivery
that still owns the run marks a routed document failed or opens its review.** -/
theorem run_routesTogether (run : AutomationRun) (xs : List RoutingStep) :
    ((ingested run).after xs).AtMostOne ∧
    (∀ ys, ((ingested run).after xs).document.isRouted = true →
      ((ingested run).after (xs ++ ys)).document.isRouted = true) ∧
    ((ingested run).RoutesTogether xs ↔ (ingested run).OverwritesNothing xs) := by
  have hrows := after_rows (ingested_rows run) xs
  refine ⟨⟨hrows.reviews, hrows.decisions, hrows.length_le⟩, fun ys hrouted => ?_, ?_⟩
  · rw [after, List.foldl_append]
    exact after_stays hrows hrouted ys
  · exact routesTogether_iff (ingested_rows run) (fun hrouted => by cases hrouted) xs

/-- A delivery with a token. -/
def ownedRun : AutomationRun where
  module := .sc04
  status := .running
  taskId := some 1
  createdAt := 0

/-- The delivery decides and its copy fails; a retry copies; the delivery then marks the document. -/
def overwritingSteps : List RoutingStep :=
  [.deliver ownedRun, .work 0 {}, .work 0 {}, .work 0 {}, .work 0 {},
    .work 0 { copy := .storageError, exc := "indisponível" }, .retryRoute 0, .call 0 {}, .call 0 {},
    .work 0 {}]

/-- **A document whose route is `ROUTED` is marked failed.** -/
theorem routed_document_fails :
    (((ingested ownedRun).after overwritingSteps).document.routes.map (·.status)) = [.routed] ∧
      ((ingested ownedRun).after overwritingSteps).document.status = .failed ∧
      ¬ (ingested ownedRun).RoutesTogether overwritingSteps := by
  have hfailed : ((ingested ownedRun).after overwritingSteps).document.status = .failed := by
    decide +kernel
  refine ⟨by decide +kernel, hfailed, fun h => ?_⟩
  have hrouted := h.last (by decide +kernel)
  rw [hfailed] at hrouted
  cases hrouted

end RoutingState

end SheepContabil
