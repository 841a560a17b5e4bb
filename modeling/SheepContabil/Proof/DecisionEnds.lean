import SheepContabil.Proof.ReviewDuringDelivery
import SheepContabil.Py.Rows
import SheepContabil.Spec.Sc04Lifecycle

/-!
# Decisions without a dead end

* `RouteOk`: how the statuses of a document, its review and its route go together.
* `RoutesKept`: the documents of the run, while no step leads into a dead end.
* `run_noDeadEnd`: the property, in every history of such steps; `review_without_storage`: a
  review that finds no storage.
-/

namespace SheepContabil

open SC05Operation (Recovery)

/-- How the statuses of a document go together, in a run that is active or not, and with a
request in progress or none. -/
structure RouteOk (active called : Prop) (x : RunDocument) : Prop where
  pending : x.route = some .pending → called ∨ active
  routed : x.route = some .routed ↔ x.status = .routed
  failed : x.route = some .failed → x.status = .failed ∨ x.status = .awaitingReview ∧ called
  review : x.status = .awaitingReview → (x.route = none ∧ x.review = some .pending) ∨ called

namespace RouteOk

variable {active called active' called' : Prop} {x : RunDocument}

theorem mono (h : RouteOk active called x) (hactive : active → active') (hcalled : called → called') :
    RouteOk active' called' x :=
  ⟨fun hp => (h.pending hp).imp hcalled hactive, h.routed,
    fun hf => (h.failed hf).imp id fun hr => ⟨hr.1, hcalled hr.2⟩,
    fun hr => (h.review hr).imp id hcalled⟩

/-- Without a route nobody is waited for. -/
theorem setActive (h : RouteOk active called x) (hp : x.route = some .pending → called ∨ active') :
    RouteOk active' called x :=
  ⟨hp, h.routed, h.failed, h.review⟩

theorem new : RouteOk active called {} :=
  ⟨fun h => (by cases h), ⟨fun h => (by cases h), fun h => (by cases h)⟩, fun h => (by cases h),
    fun h => (by cases h)⟩

/-- The last transaction of a copy leaves nothing to a request. -/
theorem finishRoute_alone (h : RouteOk active' called' x) {outcome : CopyOutcome}
    (hout : outcome ≠ .raised) : RouteOk active called (x.finishRoute outcome) := by
  cases outcome with
  | raised => exact absurd rfl hout
  | copied =>
    exact ⟨fun h' => (by cases h'), ⟨fun _ => rfl, fun _ => rfl⟩, fun h' => (by cases h'),
      fun h' => (by cases h')⟩
  | storageError =>
    dsimp only [RunDocument.finishRoute]
    split
    · next hrouted =>
      -- the document was routed by another
      have hstatus := h.routed.1 hrouted
      refine ⟨fun hp => ?_, h.routed, fun hf => ?_, fun hs => ?_⟩
      · rw [hrouted] at hp
        cases hp
      · rw [hrouted] at hf
        cases hf
      · rw [hstatus] at hs
        cases hs
    · exact ⟨fun h' => (by cases h'), ⟨fun h' => (by cases h'), fun h' => (by cases h')⟩,
        fun _ => .inl rfl, fun h' => (by cases h')⟩

theorem finishRoute (h : RouteOk active called x) (outcome : CopyOutcome) :
    RouteOk active called (x.finishRoute outcome) := by
  cases outcome with
  | raised => exact h
  | copied | storageError => exact h.finishRoute_alone (by simp)

/-- A document without a route may take any status that no decision gives. -/
theorem setStatus (h : RouteOk active called x) (hroute : x.route = none) {status : DocumentStatus}
    (hrouted : status ≠ .routed) (hreview : status ≠ .awaitingReview) :
    RouteOk active called { x with status := status } := by
  refine ⟨h.pending, ⟨fun hr => ?_, fun hs => absurd hs hrouted⟩, fun hf => ?_,
    fun hs => absurd hs hreview⟩
  · change x.route = some .routed at hr
    rw [hroute] at hr
    cases hr
  · change x.route = some .failed at hf
    rw [hroute] at hf
    cases hf

theorem reset (h : RouteOk active called x) : RouteOk active called x.reset := by
  unfold RunDocument.reset
  split
  · next hi =>
    simp only [RunDocument.isInterrupted, Bool.and_eq_true, Option.isNone_iff_eq_none] at hi
    obtain ⟨⟨-, hroute⟩, -⟩ := hi
    exact h.setStatus hroute (by simp) (by simp)
  · exact h

/-- A closed document waits for no delivery. -/
theorem close (h : RouteOk active called x) : RouteOk active' called x.close := by
  have hleft := close_left x
  have hstatus : x.close.status = .failed ∨ x.isInProgress = false ∧ x.close.status = x.status := by
    unfold RunDocument.close
    cases hx : x.isInProgress with
    | true => exact .inl rfl
    | false => exact .inr ⟨rfl, by simp⟩
  have hroute : x.route = some .pending ∧ x.close.route = some .failed ∨
      x.route ≠ some .pending ∧ x.close.route = x.route := by
    unfold RunDocument.close
    by_cases hp : x.route = some .pending
    · exact .inl ⟨hp, by simp [hp]⟩
    · exact .inr ⟨hp, by simp [hp]⟩
  refine ⟨fun hp => ?_, ?_, fun hf => ?_, fun hr => ?_⟩
  · rcases hroute with ⟨-, hfailed⟩ | ⟨hnot, hsame⟩
    · rw [hfailed] at hp
      cases hp
    · exact absurd (hsame ▸ hp) hnot
  · rcases hroute with ⟨hpending, hfailed⟩ | ⟨-, hsame⟩
    · have hnot : x.status ≠ .routed := fun hs => by
        rw [h.routed.2 hs] at hpending
        cases hpending
      rw [hfailed]
      refine ⟨fun hr => (by cases hr), fun hs => ?_⟩
      rcases hstatus with hs' | ⟨-, hs'⟩
      · rw [hs'] at hs
        cases hs
      · exact absurd (hs' ▸ hs) hnot
    · rw [hsame, h.routed]
      rcases hstatus with hs' | ⟨-, hs'⟩
      · rw [hs']
        refine ⟨fun hs => ?_, fun hs => (by cases hs)⟩
        simp [RunDocument.close, RunDocument.isInProgress, hs] at hs'
      · rw [hs']
  · rcases hstatus with hs' | ⟨hprogress, hs'⟩
    · exact .inl hs'
    · rw [hs']
      rcases hroute with ⟨hpending, -⟩ | ⟨-, hsame⟩
      · -- the route waited for its delivery, or for a request
        cases hx : x.status with
        | queued | processing => simp [RunDocument.isInProgress, hx] at hprogress
        | failed => exact .inl rfl
        | routed =>
          rw [h.routed.2 hx] at hpending
          cases hpending
        | awaitingReview =>
          rcases h.review hx with ⟨hnone, -⟩ | hcalled
          · rw [hnone] at hpending
            cases hpending
          · exact .inr ⟨rfl, hcalled⟩
      · exact h.failed (hsame ▸ hf)
  · rcases hstatus with hs' | ⟨-, hs'⟩
    · rw [hs'] at hr
      cases hr
    · rcases h.review (hs' ▸ hr) with ⟨hnone, hreview⟩ | hcalled
      · rcases hroute with ⟨hpending, -⟩ | ⟨-, hsame⟩
        · rw [hnone] at hpending
          cases hpending
        · exact .inl ⟨hsame.trans hnone, hreview⟩
      · exact .inr hcalled

/-- The claim of a document that has no route. -/
theorem claim (h : RouteOk active called x) (hx : x.isClaimable = true) :
    RouteOk active called { x with status := .processing } := by
  simp only [RunDocument.isClaimable, Bool.and_eq_true, Option.isNone_iff_eq_none] at hx
  obtain ⟨⟨-, hroute⟩, -⟩ := hx
  exact h.setStatus hroute (by simp) (by simp)

/-- A delivery opens the review of a document that has no decision, or that a request goes on
with. -/
theorem openReview (h : RouteOk active called x) (hrouted : x.route ≠ some .routed)
    (hx : called ∨ x.route = none ∧ x.review ≠ some .completed) :
    RouteOk active called x.openReview := by
  refine ⟨h.pending, ⟨fun hr => absurd hr hrouted, fun hs => (by cases hs)⟩, fun hf => ?_, fun _ => ?_⟩
  · rcases hx with hcalled | ⟨hnone, -⟩
    · exact .inr ⟨rfl, hcalled⟩
    · change x.route = some .failed at hf
      rw [hnone] at hf
      cases hf
  · rcases hx with hcalled | ⟨hnone, hreview⟩
    · exact .inr hcalled
    · refine .inl ⟨hnone, ?_⟩
      change x.review.or (some .pending) = some .pending
      cases hr : x.review with
      | none => rfl
      | some status =>
        cases status with
        | pending => rfl
        | completed => exact absurd hr hreview

/-- A delivery decides a document, which waits for no review or has a request. -/
theorem prepareRoute (h : RouteOk active called x) (hnone : x.route = none) (hactive : active)
    (hx : x.status ≠ .awaitingReview ∨ called) :
    RouteOk active called { x with route := some .pending } := by
  refine ⟨fun _ => .inr hactive, ⟨fun hr => (by cases hr), fun hs => ?_⟩, fun hf => (by cases hf),
    fun hs => .inr (hx.resolve_left fun hno => hno hs)⟩
  have hrouted := h.routed.2 hs
  rw [hnone] at hrouted
  cases hrouted

theorem markFailed (h : RouteOk active called x) (hrouted : x.route ≠ some .routed) :
    RouteOk active called { x with status := .failed } :=
  ⟨h.pending, ⟨fun hr => absurd hr hrouted, fun hs => (by cases hs)⟩, fun _ => .inl rfl,
    fun hs => (by cases hs)⟩

/-- A review is resolved, and its request goes on. -/
theorem resolve (h : RouteOk active called x) (hnone : x.route = none) (hcalled : called') :
    RouteOk active called' x.resolve := by
  refine ⟨fun _ => .inl hcalled, ⟨fun hr => (by cases hr), fun hs => ?_⟩, fun hf => (by cases hf),
    fun _ => .inr hcalled⟩
  have hrouted := h.routed.2 hs
  rw [hnone] at hrouted
  cases hrouted

/-- A request gives up a document that needs none. -/
theorem giveUp (h : RouteOk active called x)
    (hreview : x.status = .awaitingReview → x.route = none ∧ x.review = some .pending)
    (hpending : x.route = some .pending → active) : RouteOk active called' x := by
  refine ⟨fun hp => .inr (hpending hp), h.routed, fun hf => ?_, fun hr => .inl (hreview hr)⟩
  rcases h.failed hf with hfailed | ⟨hr, -⟩
  · exact .inl hfailed
  · rw [(hreview hr).1] at hf
    cases hf

end RouteOk

/-- **What holds of the routes of the run** while no step leads into a dead end. -/
structure RoutesKept (s : LifecycleState) : Prop where
  module : s.run.module = .sc04
  untouched : s.upload = .ingesting → s.inbox = false ∧ s.documents = []
  documents : ∀ (d : ℕ) (x : RunDocument), s.documents[d]? = some x →
    RouteOk (s.run.status.isActive = true) (s.calledOn d = true) x

section Calls

variable {s : LifecycleState} {d i : ℕ}

theorem calledOn_iff : s.calledOn d = true ↔ ∃ call ∈ s.calls, call.isOn d = true := by
  simp [LifecycleState.calledOn]

/-- Another call is in the place of call `i`: the other calls go on. -/
theorem calledOn_set {call call' : WebCall} (hcall : s.calls[i]? = some call)
    (hd : s.calledOn d = true) (hoff : call.isOn d = true → call'.isOn d = true) :
    ({ s with calls := s.calls.set i call' } : LifecycleState).calledOn d = true := by
  obtain ⟨c, hc, hon⟩ := calledOn_iff.1 hd
  obtain ⟨j, hj⟩ := List.mem_iff_getElem?.1 hc
  rw [calledOn_iff]
  by_cases hij : i = j
  · subst hij
    obtain rfl : call = c := Option.some.inj (hcall.symm.trans hj)
    exact ⟨call', List.mem_iff_getElem?.2 ⟨i, Rows.set_self hcall⟩, hoff hon⟩
  · refine ⟨c, List.mem_iff_getElem?.2 ⟨j, ?_⟩, hon⟩
    rw [List.getElem?_set_ne hij]
    exact hj

theorem calledOn_append {call : WebCall} (hd : s.calledOn d = true) :
    ({ s with calls := s.calls ++ [call] } : LifecycleState).calledOn d = true := by
  obtain ⟨c, hc, hon⟩ := calledOn_iff.1 hd
  exact calledOn_iff.2 ⟨c, List.mem_append_left _ hc, hon⟩

theorem calledOn_new {call : WebCall} (hon : call.isOn d = true) :
    ({ s with calls := s.calls ++ [call] } : LifecycleState).calledOn d = true :=
  calledOn_iff.2 ⟨call, by simp, hon⟩

theorem called_of_not_waits (h : s.routeWaits = false) {x : RunDocument}
    (hd : s.documents[d]? = some x) (hx : x.route = some .pending) : s.calledOn d = true := by
  by_contra hno
  have hfree : s.calledOn d = false := by simpa using hno
  have hwaits : s.routeWaits = true := by
    unfold LifecycleState.routeWaits
    rw [List.any_eq_true]
    refine ⟨d, List.mem_range.2 (List.getElem?_eq_some_iff.1 hd).1, ?_⟩
    simp [hd, hx, hfree]
  rw [h] at hwaits
  cases hwaits

end Calls

namespace RoutesKept

variable {s : LifecycleState}

/-- A transaction over the row, which stops the run only when no route waits for a delivery. -/
theorem setRow (h : RoutesKept s) {b : AutomationRun} (hmodule : b.module = s.run.module)
    (hactive : s.run.status.isActive = true → b.status.isActive = true ∨ s.routeWaits = false) :
    RoutesKept { s with run := b } := by
  refine ⟨hmodule.trans h.module, h.untouched, fun d x hd => ?_⟩
  have hx := h.documents d x hd
  refine hx.setActive fun hp => ?_
  rcases hx.pending hp with hcalled | hrun
  · exact .inl hcalled
  · rcases hactive hrun with hstill | hnone
    · exact .inr hstill
    · exact .inl (called_of_not_waits hnone hd hp)

theorem setPrograms (h : RoutesKept s) (workers : List AutomationRun) (dispatching : List TaskId) :
    RoutesKept { s with workers, dispatching } :=
  ⟨h.module, h.untouched, h.documents⟩

theorem appendCall (h : RoutesKept s) (call : WebCall) :
    RoutesKept { s with calls := s.calls ++ [call] } :=
  ⟨h.module, h.untouched, fun d x hd => (h.documents d x hd).mono id calledOn_append⟩

/-- A call goes on, or has nothing to go on with. -/
theorem setCall (h : RoutesKept s) {i : ℕ} {call call' : WebCall} (hcall : s.calls[i]? = some call)
    (hx : ∀ (d : ℕ) (x : RunDocument), s.documents[d]? = some x → call.isOn d = true →
      call'.isOn d = false →
        ({ s with calls := s.calls.set i call' } : LifecycleState).calledOn d = false →
        RouteOk (s.run.status.isActive = true) False x) :
    RoutesKept { s with calls := s.calls.set i call' } := by
  refine ⟨h.module, h.untouched, fun d x hd => ?_⟩
  by_cases hcalled : ({ s with calls := s.calls.set i call' } : LifecycleState).calledOn d = true
  · exact (h.documents d x hd).mono id fun _ => hcalled
  · by_cases hon : call.isOn d = true ∧ call'.isOn d = false
    · exact (hx d x hd hon.1 hon.2 (by simpa using hcalled)).mono id False.elim
    · refine (h.documents d x hd).mono id fun hd' => calledOn_set hcall hd' fun hc => ?_
      simpa [hc] using hon

/-- A change of one document. -/
theorem modify (h : RoutesKept s) (d : ℕ) {f : RunDocument → RunDocument}
    (hf : ∀ x, s.documents[d]? = some x →
      RouteOk (s.run.status.isActive = true) (s.calledOn d = true) x →
        RouteOk (s.run.status.isActive = true) (s.calledOn d = true) (f x)) :
    RoutesKept { s with documents := s.documents.modify d f } := by
  refine ⟨h.module, fun hin => ?_, fun j x hj => ?_⟩
  · obtain ⟨hinbox, hdocuments⟩ := h.untouched hin
    exact ⟨hinbox, by simp [hdocuments]⟩
  · change (s.documents.modify d f)[j]? = some x at hj
    obtain ⟨y, hy, rfl⟩ := modify_cases hj
    split
    · next hdj =>
      subst hdj
      exact hf y hy (h.documents d y hy)
    · exact h.documents j y hy

theorem active_of_locked {t : Option TaskId} (h : s.run.isLockedBy t = true) :
    s.run.status.isActive = true := by
  simp only [AutomationRun.isLockedBy, Bool.and_eq_true, beq_iff_eq] at h
  rw [h.1]
  rfl

theorem setLocked (h : RoutesKept s) (loaded : AutomationRun) (d : ℕ) {f : RunDocument → RunDocument}
    (hf : s.run.isLockedBy loaded.taskId = true → ∀ x, s.documents[d]? = some x →
      RouteOk (s.run.status.isActive = true) (s.calledOn d = true) x →
        RouteOk (s.run.status.isActive = true) (s.calledOn d = true) (f x)) :
    RoutesKept (s.setLocked loaded d f) := by
  unfold LifecycleState.setLocked
  split
  · next hlocked => exact h.modify d (hf hlocked)
  · exact h

/-- The row of a recomputation. -/
theorem recompute (h : RoutesKept s) (others : OtherItems) (expected : Option TaskId)
    (preserve : Bool) (now : ℕ)
    (hx : (expected.isNone || s.run.deliveryIsCurrent expected) = true →
      s.run.status.isActive = true → s.countsEnd = true → s.routeWaits = false) :
    RoutesKept (s.recompute others expected preserve now) := by
  refine h.setRow ?_ fun hactive => ?_
  · unfold AutomationRun.recompute
    split <;> rfl
  · by_cases hend : s.countsEnd = true
    · by_cases hown : (expected.isNone || s.run.deliveryIsCurrent expected) = true
      · exact .inr (hx hown hactive hend)
      · -- a superseded delivery writes nothing
        have hkeep : s.run.recompute (s.counts others) expected preserve now = s.run := by
          unfold AutomationRun.recompute
          rw [if_pos]
          cases expected with
          | none => simp at hown
          | some t =>
            by_cases hstatus : s.run.status = .running <;>
              simp_all [AutomationRun.deliveryIsCurrent]
        rw [hkeep]
        exact .inl hactive
    · refine .inl ?_
      simp only [LifecycleState.countsEnd, Bool.or_eq_true, not_or, Bool.not_eq_true',
        Bool.not_eq_false, List.any_eq_true, not_exists, not_and] at hend
      obtain ⟨hreview, x, hmem, hprogress⟩ := hend
      have hnone : (s.counts others).awaitingReview = 0 := by
        refine List.countP_eq_zero.2 fun y hy => ?_
        simpa using hreview y hy
      have hsome : (s.counts others).inProgress ≠ 0 := by
        have hpos : 0 < (s.counts others).inProgress := List.countP_pos_iff.2 ⟨x, hmem, hprogress⟩
        omega
      have hterminal : s.run.status.isTerminal = false := by
        cases hstatus : s.run.status <;> simp [hstatus, RunStatus.isActive] at hactive <;> rfl
      have hrunning : (s.run.recomputedStatus (s.counts others) preserve now).1 = .running := by
        simp [AutomationRun.recomputedStatus, hterminal, hnone, hsome]
      unfold AutomationRun.recompute
      split
      · exact hactive
      · dsimp only
        rw [hrunning]
        rfl

/-- What the test of a call that is given up leaves. -/
theorem giveUp (h : RoutesKept s) {i d : ℕ} {call call' : WebCall} (hcall : s.calls[i]? = some call)
    (hon : ∀ e, call.isOn e = true → e = d) (hx : s.givesUp i d = false) :
    RoutesKept { s with calls := s.calls.set i call' } := by
  refine h.setCall hcall fun e x he hone _ hfree => ?_
  obtain rfl := hon e hone
  -- the two sets of calls are on the same documents
  have hended : ({ s with calls := s.calls.set i .ended } : LifecycleState).calledOn e = false := by
    rw [Bool.eq_false_iff]
    intro hcalled
    have hget : (s.calls.set i .ended)[i]? = some WebCall.ended := Rows.set_self hcall
    have hset : ({ s with calls := (s.calls.set i .ended).set i call' } : LifecycleState).calledOn e
        = true := calledOn_set hget hcalled (by simp [WebCall.isOn])
    have hsame : ({ s with calls := s.calls.set i call' } : LifecycleState).calledOn e = true := by
      simpa using hset
    rw [hfree] at hsame
    cases hsame
  simp only [LifecycleState.givesUp, hended, Bool.not_false, Bool.true_and, he, Option.any_some,
    Bool.or_eq_false_iff] at hx
  obtain ⟨hreview, hpending⟩ := hx
  refine (h.documents e x he).giveUp (fun hs => ?_) fun hp => ?_
  · simpa [hs] using hreview
  · simpa [hp] using hpending

theorem write (h : RoutesKept s) {loaded : AutomationRun} {i : ℕ}
    (hworker : s.workers[i]? = some loaded) (write : DeliveryWrite) (now : ℕ)
    (hx : s.deadEnds (.work i write now) = false) : RoutesKept (s.write loaded now write) := by
  cases write with
  | touch =>
    obtain ⟨hstatus, -, hmodule⟩ := touchRun_row s.run loaded.taskId now
    exact h.setRow hmodule fun hactive => .inl (hstatus ▸ hactive)
  | ingest =>
    dsimp only [LifecycleState.write]
    split
    · next hinbox =>
      -- an inbox run is no upload, and its new document has no route
      refine ⟨h.module, fun hin => ?_, fun d x hd => ?_⟩
      · have hupload := (h.untouched hin).1
        rw [hinbox] at hupload
        cases hupload
      · change (s.documents ++ [({} : RunDocument)])[d]? = some x at hd
        rcases Rows.append_cases hd with hold | ⟨-, rfl⟩
        · exact h.documents d x hold
        · exact RouteOk.new
    · exact h
  | ingestionFailures n =>
    dsimp only [LifecycleState.write]
    split
    · exact h.setRow rfl fun hactive => .inl hactive
    · exact h
  | claim d =>
    refine h.setLocked loaded d fun _ x _ hok => ?_
    split
    · next hclaim => exact hok.claim hclaim
    · exact hok
  | openReview d =>
    -- a review opened on a routed or decided document would be a dead end
    refine h.setLocked loaded d fun hlocked x hd hok => ?_
    simp only [LifecycleState.deadEnds, hworker, hlocked, hd, Option.any_some, Bool.true_and,
      Bool.or_eq_false_iff, Bool.and_eq_false_iff, Bool.not_eq_false', beq_eq_false_iff_ne] at hx
    obtain ⟨hrouted, halone⟩ := hx
    refine hok.openReview hrouted (halone.imp id fun hfree => ?_)
    exact ⟨by simpa using hfree.1, hfree.2⟩
  | prepareRoute d =>
    refine h.setLocked loaded d fun hlocked x hd hok => ?_
    split
    · next hnone =>
      refine hok.prepareRoute (by simpa using hnone) (active_of_locked hlocked) ?_
      simp only [LifecycleState.deadEnds, hworker, hlocked, hd, hnone, Option.any_some,
        Bool.true_and, Bool.and_true, Bool.and_eq_false_iff, Bool.not_eq_false',
        beq_eq_false_iff_ne] at hx
      exact hx.symm
    · exact hok
  | finishRoute d outcome =>
    refine h.setLocked loaded d fun _ x _ hok => ?_
    split
    · exact hok.finishRoute outcome
    · exact hok
  | markFailed d =>
    refine h.setLocked loaded d fun hlocked x hd hok => hok.markFailed ?_
    simpa [LifecycleState.deadEnds, hworker, hlocked, hd] using hx
  | recompute others =>
    refine h.recompute others loaded.taskId false now fun hown hactive hend => ?_
    simpa [LifecycleState.deadEnds, hworker, hown, hactive, hend] using hx
  | unhandledFailure exc =>
    refine h.setRow (finishUnhandledFailure_row s.run exc loaded.taskId now).1 fun hactive => ?_
    by_cases hlocked : s.run.isLockedBy loaded.taskId = true
    · refine .inr ?_
      simpa [LifecycleState.deadEnds, hworker, hlocked] using hx
    · have hkeep : s.run.finishUnhandledFailure exc loaded.taskId now = s.run := by
        simp [AutomationRun.finishUnhandledFailure, hlocked]
      rw [hkeep]
      exact .inl hactive

/-- A transaction that maps the documents. -/
theorem map (h : RoutesKept s) {b : AutomationRun} {f : RunDocument → RunDocument}
    (hmodule : b.module = .sc04)
    (hf : ∀ (d : ℕ) (x : RunDocument), s.documents[d]? = some x →
      RouteOk (b.status.isActive = true) (s.calledOn d = true) (f x)) :
    RoutesKept { s with run := b, documents := s.documents.map f } := by
  refine ⟨hmodule, fun hin => ?_, fun d x hd => ?_⟩
  · obtain ⟨hinbox, hdocuments⟩ := h.untouched hin
    exact ⟨hinbox, by simp [hdocuments]⟩
  · change (s.documents.map f)[d]? = some x at hd
    rw [List.getElem?_map] at hd
    obtain ⟨y, hy, hxy⟩ := Option.map_eq_some_iff.1 hd
    subst hxy
    exact hf d y hy

theorem start (h : RoutesKept s) (settings : Settings) (t : TaskId) (redelivered : Bool)
    (now : ℕ) : RoutesKept (s.start settings t redelivered now) := by
  have hrows := startSc04_rows s.run settings t redelivered now
  unfold LifecycleState.start
  generalize s.run.startSc04 (.uuid t) redelivered settings now = start at *
  cases start with
  | ignored => exact h
  | closed b => exact h.map (hrows.1.trans h.module) fun d x hd => (h.documents d x hd).close
  | resumed b =>
    have hactive : b.status.isActive = true := by
      rw [hrows.2]
      rfl
    have hkept := h.map (hrows.1.trans h.module) fun d x hd =>
      (h.documents d x hd).reset.mono (fun _ => hactive) id
    exact hkept.setPrograms _ _
  | started b =>
    have hactive : b.status.isActive = true := by
      rw [hrows.2.1]
      rfl
    exact (h.setRow hrows.1 fun _ => .inl hactive).setPrograms _ _

theorem reconcileOne (h : RoutesKept s) (settings : Settings) (fresh : TaskId) (now : ℕ) :
    RoutesKept (s.reconcileOne settings fresh now) := by
  rcases reconcileOne_sc04 s.run settings (!s.documents.isEmpty) fresh now h.module with
    hskipped | ⟨b, hrequeued, hmodule, hqueued, -⟩ | ⟨b, hfailed, hmodule, hstatus⟩
  · unfold LifecycleState.reconcileOne
    rw [hskipped]
    exact h
  · have hactive : b.status.isActive = true := by
      rw [hqueued]
      rfl
    unfold LifecycleState.reconcileOne
    rw [hrequeued]
    dsimp only
    split
    · exact h.map hmodule fun d x hd => (h.documents d x hd).reset.mono (fun _ => hactive) id
    · exact h.setRow (hmodule.trans h.module.symm) fun _ => .inl hactive
  · unfold LifecycleState.reconcileOne
    rw [hfailed]
    dsimp only
    split
    · next hpending =>
      have hempty : s.documents = [] := by
        simpa using reconcileOne_failed_pending s.run hpending hfailed
      refine ⟨hmodule, h.untouched, fun d x hd => ?_⟩
      change s.documents[d]? = some x at hd
      rw [hempty] at hd
      cases hd
    · have hkept := h.map hmodule fun d x hd =>
        (h.documents d x hd).close
      exact hkept.appendCall _

theorem of_created (h : s.Created) : RoutesKept s := by
  rcases h with ⟨now, rfl⟩ | ⟨trigger, fresh, now, rfl⟩
  · exact ⟨rfl, fun _ => ⟨rfl, rfl⟩, fun d x hd => (by cases hd)⟩
  · exact ⟨rfl, fun hin => (by cases hin), fun d x hd => (by cases hd)⟩

/-- The end of the request of an upload. -/
theorem endUpload (h : RoutesKept s) : RoutesKept { s with upload := .ended } :=
  ⟨h.module, fun hin => (by cases hin), h.documents⟩

/-- **A step that leads into no dead end.** -/
theorem step (h : RoutesKept s) (settings : Settings) (x : LifecycleStep)
    (hx : s.deadEnds x = false) : RoutesKept (s.step settings x) := by
  have hempty : s.upload = .ingesting → s.routeWaits = false := by
    intro hin
    simp [LifecycleState.routeWaits, (h.untouched hin).2]
  cases x with
  | ingestUpload =>
    dsimp only [LifecycleState.step]
    split
    · next hin =>
      refine ⟨h.module, fun hin' => (by cases hin'), fun d x hd => ?_⟩
      have hnew : x = {} := by
        change (s.documents ++ [({} : RunDocument)])[d]? = some x at hd
        rw [(h.untouched hin).2] at hd
        simpa using List.mem_of_getElem? hd
      rw [hnew]
      exact RouteOk.new
    · exact h
  | failUpload exc safeMessage now =>
    dsimp only [LifecycleState.step]
    split
    · next hin =>
      have hkept : RoutesKept { s with run := s.run.failBeforeProcessing exc safeMessage now } :=
        h.setRow rfl fun _ => .inr (hempty hin)
      exact hkept.endUpload
    · exact h
  | recomputeUpload others now =>
    dsimp only [LifecycleState.step]
    split
    · next hin => exact (h.recompute others none false now fun _ _ _ => hempty hin).endUpload
    · exact h
  | queueUpload fresh now =>
    dsimp only [LifecycleState.step]
    split
    · have hkept : RoutesKept { s with run := s.run.queueManualSc04 now fresh } :=
        h.setRow rfl fun _ => .inl rfl
      exact hkept.endUpload
    · exact h
  | requeueScheduled fresh now =>
    dsimp only [LifecycleState.step]
    split
    · exact h.setRow rfl fun _ => .inl rfl
    · exact h
  | dispatchStart fresh now =>
    dsimp only [LifecycleState.step]
    split
    · next t b hstart =>
      obtain ⟨hmodule, hstatus, -⟩ := dispatchStart_same s.run hstart
      have hkept : RoutesKept { s with run := b } :=
        h.setRow hmodule fun hactive => .inl (hstatus.symm ▸ hactive)
      exact hkept.setPrograms _ _
    · exact h
  | recordDispatchFailure t exc now =>
    dsimp only [LifecycleState.step]
    split
    · next ht =>
      unfold AutomationRun.recordDispatchFailure
      split
      · next hown =>
        refine h.setRow rfl fun _ => .inr ?_
        simpa [LifecycleState.deadEnds, ht, hown] using hx
      · exact h
    · exact h
  | recordDispatchSuccess t now =>
    dsimp only [LifecycleState.step]
    unfold AutomationRun.recordDispatchSuccess
    split
    · exact h.setRow rfl fun hactive => .inl hactive
    · exact h
  | start t redelivered now => exact h.start settings t redelivered now
  | work worker write now =>
    dsimp only [LifecycleState.step]
    split
    · exact h
    · next loaded hworker => exact h.write hworker write now hx
  | resolveReview d =>
    dsimp only [LifecycleState.step]
    split
    · next hreview =>
      have hcalled := h.appendCall (.routing d)
      refine hcalled.modify d fun x hd hok => hok.resolve ?_ (calledOn_new (by simp [WebCall.isOn]))
      change s.documents[d]? = some x at hd
      simp only [hd, Option.any_some, Bool.and_eq_true, Option.isNone_iff_eq_none] at hreview
      exact hreview.2
    · exact h
  | retryRoute d =>
    dsimp only [LifecycleState.step]
    split
    · exact h.appendCall _
    · exact h
  | callRoute i =>
    dsimp only [LifecycleState.step]
    split
    · next d hcall =>
      split
      · next hrouted =>
        -- a routed document needs no request
        refine h.setCall hcall fun e x he hone _ _ => ?_
        obtain rfl : d = e := by simpa [WebCall.isOn] using hone
        have hroute : x.route = some .routed := by simpa [he] using hrouted
        have hok := h.documents d x he
        have hstatus := hok.routed.1 hroute
        refine hok.giveUp (fun hs => ?_) fun hp => ?_
        · rw [hstatus] at hs
          cases hs
        · rw [hroute] at hp
          cases hp
      · refine h.setCall hcall fun e x _ hone hoff _ => ?_
        simp only [WebCall.isOn] at hone hoff
        rw [hone] at hoff
        cases hoff
    · exact h
  | callCopy i outcome =>
    dsimp only [LifecycleState.step]
    split
    · next d hcall =>
      by_cases hraised : outcome = .raised
      · subst hraised
        have hsame : s.documents.modify d (·.finishRoute .raised) = s.documents := List.modify_id ..
        rw [hsame]
        refine h.giveUp hcall (fun e he => (beq_iff_eq.1 he).symm) ?_
        simpa [LifecycleState.deadEnds, hcall] using hx
      · have hkept := h.modify d fun x _ hok => hok.finishRoute outcome
        refine hkept.setCall hcall fun e x he hone _ _ => ?_
        obtain rfl : d = e := beq_iff_eq.1 hone
        change (s.documents.modify d (·.finishRoute outcome))[d]? = some x at he
        obtain ⟨y, hy, rfl⟩ := modify_cases he
        rw [if_pos rfl]
        exact (h.documents d y hy).finishRoute_alone hraised
    · exact h
  | callRaise i =>
    dsimp only [LifecycleState.step]
    split
    · next d hcall =>
      refine h.giveUp hcall (fun e he => (beq_iff_eq.1 he).symm) ?_
      simpa [LifecycleState.deadEnds, hcall] using hx
    · next d hcall =>
      refine h.giveUp hcall (fun e he => (beq_iff_eq.1 he).symm) ?_
      simpa [LifecycleState.deadEnds, hcall] using hx
    · exact h
  | callRecompute i others now =>
    dsimp only [LifecycleState.step]
    split
    · next preserve hcall =>
      have hkept := h.recompute others none preserve now fun _ hactive hend => by
        simpa [LifecycleState.deadEnds, hcall, hactive, hend] using hx
      have hcall' : (s.recompute others none preserve now).calls[i]? = some (.recomputing preserve) :=
        hcall
      exact hkept.setCall hcall' fun e x _ hone _ _ => by simp [WebCall.isOn] at hone
    · exact h
  | callCrash i =>
    dsimp only [LifecycleState.step]
    cases hcall : s.calls[i]? with
    | none =>
      rw [List.set_eq_of_length_le (List.getElem?_eq_none_iff.1 hcall)]
      exact h
    | some call =>
      cases call with
      | routing d | copying d =>
        refine h.giveUp hcall (fun e he => (beq_iff_eq.1 he).symm) ?_
        simpa [LifecycleState.deadEnds, hcall] using hx
      | recomputing preserve | ended =>
        exact h.setCall hcall fun e x _ hone _ _ => by simp [WebCall.isOn] at hone
  | reconcileOne fresh now => exact h.reconcileOne settings fresh now
  | failEmptyRecovered now =>
    dsimp only [LifecycleState.step]
    unfold AutomationRun.failEmptyRecoveredSc04
    split
    · next hsucceeded =>
      refine h.setRow rfl fun hactive => ?_
      rw [hsucceeded] at hactive
      cases hactive
    · exact h
  | recordRecoveryPublishFailure t exc now =>
    dsimp only [LifecycleState.step]
    unfold AutomationRun.recordRecoveryPublishFailure
    split
    · exact h.setRow rfl fun hactive => .inl hactive
    · exact h
  | recordInspectionFailure exc now => exact h.setRow rfl fun hactive => .inl hactive

/-- **A history** of steps that lead into no dead end. -/
theorem after (h : RoutesKept s) (settings : Settings) (xs : List LifecycleStep)
    (hxs : s.MeetsNoDeadEnd settings xs) : RoutesKept (s.after settings xs) := by
  induction xs generalizing s with
  | nil => exact h
  | cons x xs ih => exact ih (h.step settings x hxs.1) hxs.2

theorem noDeadEnd (h : RoutesKept s) : s.NoDeadEnd := by
  intro d x hd hfree
  have hok := h.documents d x hd
  have halone : ¬ s.calledOn d = true := by
    rw [hfree]
    exact Bool.false_ne_true
  refine ⟨fun hroute hover => ?_, fun hs => ((hok.review hs).resolve_right halone).2⟩
  obtain ⟨status, hstatus⟩ := Option.isSome_iff_exists.1 hroute
  cases status with
  | pending =>
    have hactive := (hok.pending hstatus).resolve_left halone
    rw [hover] at hactive
    cases hactive
  | routed => exact .inl ⟨hok.routed.1 hstatus, hstatus⟩
  | failed =>
    refine .inr ⟨(hok.failed hstatus).resolve_right fun hr => halone hr.2, hstatus⟩

end RoutesKept

/-- **A decision has no dead end**, in every history in which no step leads into one: once no
delivery is pending and no request is in progress, its document is routed, or failed with a
route that can be retried; and what awaits review can be reviewed. -/
theorem run_noDeadEnd (settings : Settings) (s : LifecycleState) (h : s.Created)
    (xs : List LifecycleStep) (hxs : s.MeetsNoDeadEnd settings xs) :
    (s.after settings xs).NoDeadEnd :=
  ((RoutesKept.of_created h).after settings xs hxs).noDeadEnd

/-- A copy fails, and its route is retried. -/
theorem run_noDeadEnd_retried :
    ((LifecycleState.uploaded 0).after {} [.ingestUpload, .queueUpload 0 1, .dispatchStart 0 2,
      .start 0 false 3, .work 0 (.claim 0) 4, .work 0 (.prepareRoute 0) 5,
      .work 0 (.finishRoute 0 .storageError) 6, .work 0 (.markFailed 0) 7,
      .work 0 (.recompute {}) 8, .retryRoute 0, .callRoute 0, .callCopy 0 .copied,
      .callRecompute 0 {} 9]).NoDeadEnd :=
  run_noDeadEnd {} _ (.inl ⟨0, rfl⟩) _
    ⟨rfl, rfl, rfl, rfl, rfl, rfl, rfl, rfl, rfl, rfl, rfl, rfl, rfl, trivial⟩

/-- A document is reviewed while the storage is not configured. Its review is completed, and its
route waits for a copy that nobody can ask for again. -/
theorem review_without_storage :
    ¬ ((LifecycleState.uploaded 0).after {} [.ingestUpload, .queueUpload 0 1, .dispatchStart 0 2,
      .start 0 false 3, .work 0 (.claim 0) 4, .work 0 (.openReview 0) 5, .work 0 (.recompute {}) 6,
      .resolveReview 0, .callRaise 0, .callRecompute 0 {} 7]).NoDeadEnd := by
  intro h
  have hreview := (h 0 { status := .awaitingReview, review := some .completed, route := some .pending }
    (by decide +kernel) (by decide +kernel)).2 rfl
  cases hreview

end SheepContabil
