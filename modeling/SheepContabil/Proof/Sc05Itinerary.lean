import SheepContabil.Conc.Monitor
import SheepContabil.Proof.Sc05Discipline

/-!
# The order of the portal calls of an execution

A delivery visits the portals of its operation in the order of the action, and inspects each
before it changes it. When a step fails it goes back, once. Each portal call has a rank on that
way, and a monitor of the process lets it only go ahead, and a change only come right behind its
inspection.

* `callRank`, `callFits`: the place of a call on the way.
* `FollowsSaga`: the portal calls of an execution that goes the way.
* `runSaga_itinerary`: the saga goes that way, whatever its actions answer.
* `calls_ordered`: **so does every process, in every run.**
-/

namespace SheepContabil

open Conc Conc.Prog

/-- A call of a portal. -/
structure SagaCall where
  portal : SC05Portal
  request : GatewayRequest

/-- A call of `apply`. -/
def SagaCall.applies (c : SagaCall) : Bool :=
  match c.request.call with
  | .apply _ => true
  | _ => false

/-- A call of `restore`. -/
def SagaCall.restores (c : SagaCall) : Bool :=
  match c.request.call with
  | .restore .. => true
  | _ => false

/-- The place of a portal call on the way of an execution: forth in the order of the action, and
back; at each portal the inspection before the change. -/
def callRank (action : SC05Action) (c : SagaCall) : ℕ :=
  (match c.request.phase with
    | .apply => 2 * action.position c.portal
    | .compensation => 2 * (7 - action.position c.portal)) + if c.request.call.isInspect then 0 else 1

/-- What may be called from a place on: any portal is inspected; a portal is changed right behind its
inspection, forth by `apply` and back by `restore`. -/
def callFits (action : SC05Action) (place : ℕ) (c : SagaCall) : Prop :=
  match c.request.phase, c.request.call with
  | _, .inspect => True
  | .apply, .apply _ => place = callRank action c
  | .compensation, .restore .. => place = callRank action c
  | _, _ => False

/-- The portal call of an action of operation `o`. -/
def callOf (o : OperationId) : SC05Label → Option SagaCall
  | .callPortal o' portal request => if o' = o then some ⟨portal, request⟩ else none
  | _ => none

/-- The portal calls of an execution that goes the way of the action: forth and back in the order of
the ranks, each change right behind the inspection of its portal in its phase. -/
structure FollowsSaga (action : SC05Action) (calls : List SagaCall) : Prop where
  ordered : calls.Pairwise fun c d => callRank action c < callRank action d
  inspected : ∀ before c after, calls = before ++ c :: after → c.applies = true ∨ c.restores = true →
    ∃ earlier inspection, before = earlier ++ [inspection] ∧ inspection.portal = c.portal ∧
      inspection.request.phase = c.request.phase ∧ inspection.request.call = .inspect
  applies_once : ∀ portal, calls.countP (fun c => decide (c.portal = portal) && c.applies) ≤ 1
  restores_once : ∀ portal, calls.countP (fun c => decide (c.portal = portal) && c.restores) ≤ 1
  restores_last : calls.Pairwise fun c d => c.restores = true → d.applies = false
  bounded : calls.length ≤ 12

/-- What the database answers about the steps of operation `o`. -/
def StepsKnown (o : OperationId) (action : SC05Action) :
    (l : SC05Label) → Except SC05Exception l.Resp → Prop
  | .loadSteps o', .ok rows => o' = o → rows.map Prod.fst = action.order
  | .compensationCandidates o' _, .ok rows => o' = o → (rows.map Prod.fst).Sublist action.order.reverse
  | _, _ => True

/-- The contract of a process that goes its way. -/
abbrev itinerary (o : OperationId) (action : SC05Action) :
    Contract SC05Label SC05Label.Resp SC05Exception ℕ :=
  (Monitor.ranked (callOf o) (callRank action) (callFits action) (StepsKnown o action)).contract

section Positions

theorem position_range (action : SC05Action) (p : SC05Portal) :
    1 ≤ action.position p ∧ action.position p ≤ 3 := by
  cases action <;> cases p <;> decide

theorem order_pairwise (action : SC05Action) :
    action.order.Pairwise fun p q => action.position p < action.position q := by
  cases action <;> decide

theorem order_reverse_pairwise (action : SC05Action) :
    action.order.reverse.Pairwise fun p q => action.position q < action.position p :=
  List.pairwise_reverse.2 (order_pairwise action)

end Positions

section Calls

variable {action : SC05Action} {c d : SagaCall} {place : ℕ}

theorem position_injective {p q : SC05Portal} (h : action.position p = action.position q) : p = q := by
  revert h
  cases action <;> cases p <;> cases q <;> decide

theorem callRank_range (action : SC05Action) (c : SagaCall) :
    2 ≤ callRank action c ∧ callRank action c ≤ 13 := by
  have := position_range action c.portal
  unfold callRank
  split <;> split <;> omega

/-- An `apply` goes forth, right behind its inspection. -/
theorem applies_fits (h : callFits action place c) (hc : c.applies = true) :
    c.request.phase = .apply ∧ c.request.call.isInspect = false ∧ place = callRank action c := by
  obtain ⟨p, reference, scenario, phase, call⟩ := c
  cases call with
  | apply a => cases phase with
    | apply => exact ⟨rfl, rfl, h⟩
    | compensation => exact h.elim
  | _ => simp [SagaCall.applies] at hc

/-- A `restore` goes back, right behind its inspection. -/
theorem restores_fits (h : callFits action place c) (hc : c.restores = true) :
    c.request.phase = .compensation ∧ c.request.call.isInspect = false ∧
      place = callRank action c := by
  obtain ⟨p, reference, scenario, phase, call⟩ := c
  cases call with
  | restore s t => cases phase with
    | apply => exact h.elim
    | compensation => exact ⟨rfl, rfl, h⟩
  | _ => simp [SagaCall.restores] at hc

/-- The stop of a call on the way: two ranks for each portal and phase. -/
theorem callRank_stop (action : SC05Action) (c : SagaCall) :
    ∃ stop, callRank action c = 2 * stop + (if c.request.call.isInspect then 0 else 1) ∧
      (c.request.phase = .apply ∧ stop = action.position c.portal ∨
        c.request.phase = .compensation ∧ stop = 7 - action.position c.portal) := by
  unfold callRank
  cases hphase : c.request.phase with
  | apply => exact ⟨_, rfl, .inl ⟨rfl, rfl⟩⟩
  | compensation => exact ⟨_, rfl, .inr ⟨rfl, rfl⟩⟩

/-- Right before the rank of a change is that of its inspection. -/
theorem inspection_of_rank (h : callRank action d + 1 = callRank action c)
    (hc : c.request.call.isInspect = false) :
    d.portal = c.portal ∧ d.request.phase = c.request.phase ∧ d.request.call = .inspect := by
  have hpc := position_range action c.portal
  have hpd := position_range action d.portal
  obtain ⟨stop, hstop, hphase⟩ := callRank_stop action c
  obtain ⟨stop', hstop', hphase'⟩ := callRank_stop action d
  rw [hc, if_neg Bool.false_ne_true] at hstop
  have hcall : d.request.call = .inspect := by
    cases hd : d.request.call with
    | inspect => rfl
    | _ =>
      rw [hd, show GatewayCall.isInspect _ = false from rfl, if_neg Bool.false_ne_true] at hstop'
      omega
  rw [hcall, GatewayCall.isInspect, if_pos rfl] at hstop'
  have hsame : stop = stop' := by omega
  rcases hphase with ⟨hphase, hat⟩ | ⟨hphase, hat⟩ <;>
    rcases hphase' with ⟨hphase', hat'⟩ | ⟨hphase', hat'⟩
  · exact ⟨@position_injective action _ _ (by omega), hphase'.trans hphase.symm, hcall⟩
  · omega
  · omega
  · exact ⟨@position_injective action _ _ (by omega), hphase'.trans hphase.symm, hcall⟩

/-- What no two elements in order can both be, at most one is. -/
theorem countP_le_one {α : Type} {R : α → α → Prop} {P : α → Bool} {l : List α} (h : l.Pairwise R)
    (hP : ∀ a ∈ l, ∀ b ∈ l, P a = true → P b = true → ¬ R a b) : l.countP P ≤ 1 := by
  induction l with
  | nil => exact Nat.zero_le 1
  | cons a rest ih =>
    obtain ⟨hfirst, hrest⟩ := List.pairwise_cons.1 h
    by_cases ha : P a = true
    · have hnone : rest.countP P = 0 := List.countP_eq_zero.2 fun b hb hPb =>
        hP a (by simp) b (List.mem_cons_of_mem _ hb) ha hPb (hfirst b hb)
      rw [List.countP_cons_of_pos ha, hnone]
    · rw [List.countP_cons_of_neg ha]
      exact ih hrest fun b hb c hc => hP b (List.mem_cons_of_mem _ hb) c (List.mem_cons_of_mem _ hc)

/-- **Calls that go the way of the monitor follow the saga.** -/
theorem followsSaga_of_goes {calls : List SagaCall}
    (h : Monitor.Goes (callRank action) (callFits action) 0 calls) : FollowsSaga action calls := by
  obtain ⟨hordered, -⟩ := h.pairwise
  have hfits : ∀ c ∈ calls, ∃ place, callFits action place c := by
    intro c hc
    obtain ⟨before, after, rfl⟩ := List.append_of_mem hc
    exact ⟨_, h.fits_at⟩
  have happly : ∀ c ∈ calls, c.applies = true →
      c.request.phase = .apply ∧ c.request.call.isInspect = false := fun c hc hcall =>
    let ⟨_, hfit⟩ := hfits c hc
    ⟨(applies_fits hfit hcall).1, (applies_fits hfit hcall).2.1⟩
  have hrestore : ∀ c ∈ calls, c.restores = true →
      c.request.phase = .compensation ∧ c.request.call.isInspect = false := fun c hc hcall =>
    let ⟨_, hfit⟩ := hfits c hc
    ⟨(restores_fits hfit hcall).1, (restores_fits hfit hcall).2.1⟩
  -- two calls of one kind to one portal have one rank
  have hsame : ∀ {c d : SagaCall}, c.portal = d.portal → c.request.phase = d.request.phase →
      c.request.call.isInspect = false → d.request.call.isInspect = false →
      callRank action c = callRank action d := by
    intro c d hportal hphase hc hd
    rw [callRank, callRank, hportal, hphase, hc, hd]
  refine ⟨hordered, ?_, fun portal => ?_, fun portal => ?_, ?_, ?_⟩
  · rintro before c after rfl hchange
    have hplace : before.getLast?.elim 0 (callRank action · + 1) = callRank action c ∧
        c.request.call.isInspect = false := by
      rcases hchange with hcall | hcall
      · exact ⟨(applies_fits h.fits_at hcall).2.2, (applies_fits h.fits_at hcall).2.1⟩
      · exact ⟨(restores_fits h.fits_at hcall).2.2, (restores_fits h.fits_at hcall).2.1⟩
    obtain ⟨hplace, hc⟩ := hplace
    rcases List.eq_nil_or_concat' before with rfl | ⟨earlier, inspection, rfl⟩
    · have := callRank_range action c
      simp only [List.getLast?_nil, Option.elim_none] at hplace
      omega
    · rw [List.getLast?_concat, Option.elim_some] at hplace
      exact ⟨earlier, inspection, rfl, inspection_of_rank hplace hc⟩
  · refine countP_le_one hordered fun c hc d hd hPc hPd hlt => ?_
    simp only [Bool.and_eq_true, decide_eq_true_eq] at hPc hPd
    obtain ⟨hphase, hchange⟩ := happly c hc hPc.2
    obtain ⟨hphase', hchange'⟩ := happly d hd hPd.2
    exact Nat.ne_of_lt hlt (hsame (hPc.1.trans hPd.1.symm) (hphase.trans hphase'.symm) hchange hchange')
  · refine countP_le_one hordered fun c hc d hd hPc hPd hlt => ?_
    simp only [Bool.and_eq_true, decide_eq_true_eq] at hPc hPd
    obtain ⟨hphase, hchange⟩ := hrestore c hc hPc.2
    obtain ⟨hphase', hchange'⟩ := hrestore d hd hPd.2
    exact Nat.ne_of_lt hlt (hsame (hPc.1.trans hPd.1.symm) (hphase.trans hphase'.symm) hchange hchange')
  · refine hordered.imp_of_mem fun {c d} hc hd hlt hcall => ?_
    rw [Bool.eq_false_iff]
    intro hcall'
    have hback := (hrestore c hc hcall).1
    have hforth := (happly d hd hcall').1
    have hpc := position_range action c.portal
    have hpd := position_range action d.portal
    simp only [callRank, hback, hforth] at hlt
    split at hlt <;> split at hlt <;> omega
  · have hnodup : (calls.map (callRank action)).Nodup :=
      List.pairwise_map.2 (hordered.imp fun hlt => Nat.ne_of_lt hlt)
    have hsubset : calls.map (callRank action) ⊆ List.range' 2 12 := by
      intro k hk
      obtain ⟨c, -, rfl⟩ := List.mem_map.1 hk
      have := callRank_range action c
      exact List.mem_range'_1.2 ⟨this.1, by omega⟩
    simpa using (List.subperm_of_subset hnodup hsubset).length_le

end Calls

section Saga

variable {operation : LoadedOperation} {action : SC05Action} {pid m n : ℕ}

/-- A program that calls no portal. -/
theorem silent_exact {α : Type} {p : SC05Prog α} (hp : p.Within fun l => callOf operation.id l = none) :
    wp (itinerary operation.id action) pid p (fun _ m' => m' = m) m :=
  Monitor.ranked_within hp

theorem silent_itinerary {α : Type} {p : SC05Prog α}
    (hp : p.Within fun l => callOf operation.id l = none) (hm : m ≤ n) :
    wp (itinerary operation.id action) pid p (fun _ m' => m' ≤ n) m :=
  wp_mono (fun _ _ heq => heq.trans_le hm) (silent_exact hp)

theorem storeFailureScreenshot_silent (p : SC05Portal) (k : ℕ) (a : SC05AttemptOperation)
    (e : SC05Error) : (storeFailureScreenshot operation p k a e).Within
      fun l => callOf operation.id l = none := by
  unfold storeFailureScreenshot
  split
  · trivial
  · refine within_tryCatch ?_ fun _ => trivial
    exact within_call_bind rfl fun _ => within_call_bind rfl fun _ => within_call.2 rfl

theorem failInvocation_silent {α : Type} (p : SC05Portal) (k : ℕ) (a : SC05AttemptOperation)
    (ev : Option PortalEvidence) (e : SC05Exception) :
    (failInvocation operation p k a ev e : SC05Prog α).Within
      fun l => callOf operation.id l = none := by
  unfold failInvocation
  split
  · trivial
  · exact within_call_bind rfl fun _ => within_bind (storeFailureScreenshot_silent ..) fun _ =>
      within_call_bind rfl fun _ => within_call_bind rfl fun _ => trivial
  · exact within_call_bind rfl fun _ => within_call_bind rfl fun _ => trivial

theorem preserveEvidence_silent (p : SC05Portal) (k : ℕ) (a : SC05AttemptOperation)
    (ev : PortalEvidence) : (preserveEvidence operation p k a ev).Within
      fun l => callOf operation.id l = none := by
  unfold preserveEvidence
  refine within_call_bind rfl fun _ => within_bind ?_ fun _ =>
    within_call_bind rfl fun _ => within_call_bind rfl fun _ => within_call.2 rfl
  unfold saveAfterState
  split
  · trivial
  · exact within_call.2 rfl

/-- Where a call of rank `k` leaves the execution. -/
def Reached {α : Type} (k : ℕ) : Except SC05Exception α → ℕ → Prop
  | .ok _, place => place = k + 1
  | .error _, place => place ≤ k + 1

theorem reached_eq {α : Type} (k : ℕ) : ∀ r : Except SC05Exception α, Reached k r (k + 1)
  | .ok _ => rfl
  | .error _ => Nat.le_refl _

theorem Reached.le {α : Type} {k place : ℕ} : ∀ {r : Except SC05Exception α},
    Reached k r place → place ≤ k + 1
  | .ok _, h => Nat.le_of_eq h
  | .error _, h => h

/-- **One call of a portal** takes the execution to its rank. -/
theorem invoke_itinerary (p : SC05Portal) (a : SC05AttemptOperation) (st : PortalState) (ph : Phase)
    (c : GatewayCall) {k : ℕ}
    (hk : ∀ reference scenario, callRank action ⟨p, ⟨reference, scenario, ph, c⟩⟩ = k)
    (hfits : ∀ reference scenario, callFits action m ⟨p, ⟨reference, scenario, ph, c⟩⟩)
    (hm : m ≤ k) : wp (itinerary operation.id action) pid (invoke operation p a st ph c)
      (Reached k) m := by
  unfold invoke
  refine Monitor.ranked_bind rfl (fun _ => Nat.le_succ_of_le hm) fun _ _ =>
    Monitor.ranked_bind rfl (fun _ => Nat.le_succ_of_le hm) fun sequence _ => ?_
  have hcall : ∀ request, callOf operation.id (.callPortal operation.id p request) = some ⟨p, request⟩ :=
    fun request => if_pos rfl
  refine wp_bind (wp_attempt (Monitor.wp_monitored (fun b hb => ?_) fun r _ => ?_))
  · rw [hcall] at hb
    obtain rfl := Option.some.inj hb
    exact ⟨(hk _ _).symm ▸ hm, hfits _ _⟩
  -- whatever the portal answers, the execution stands at the rank of the call
  have hafter : ∀ reference scenario r,
      (Monitor.ranked (callOf operation.id) (callRank action) (callFits action)
        (StepsKnown operation.id action)).after m
          (.callPortal operation.id p ⟨reference, scenario, ph, c⟩) r = k + 1 := by
    intro reference scenario r
    show (callOf operation.id _).elim m (callRank action · + 1) = k + 1
    rw [hcall, Option.elim_some, hk]
  rw [hafter]
  have hsilent : ∀ {α : Type} {p : SC05Prog α}, p.Within (fun l => callOf operation.id l = none) →
      wp (itinerary operation.id action) pid p (Reached k) (k + 1) := fun hp =>
    wp_mono (fun r _ heq => heq.symm ▸ reached_eq k r) (silent_exact hp)
  cases r with
  | error e => exact hsilent (failInvocation_silent ..)
  | ok ev =>
    refine hsilent ?_
    refine within_bind (within_tryCatch (preserveEvidence_silent ..) fun _ =>
      failInvocation_silent ..) fun _ => ?_
    exact within_call_bind rfl fun _ => within_call_bind rfl fun _ => trivial

theorem computeDesiredState_silent (p : SC05Portal) (st : PortalState) :
    (computeDesiredState operation p st).Within
      fun l => callOf operation.id l = none := by
  unfold computeDesiredState
  split
  · exact ofExcept_within _
  · exact ofExcept_within _
  · exact within_call_bind rfl fun _ => ofExcept_within _

theorem stepDesiredState_silent (p : SC05Portal) (step : SC05PortalStep) (st : PortalState) :
    (stepDesiredState operation p step st).Within
      fun l => callOf operation.id l = none := by
  unfold stepDesiredState
  split
  · trivial
  · exact computeDesiredState_silent ..

theorem checkFirstObservation_silent (p : SC05Portal) (step : SC05PortalStep) (st : PortalState) :
    (checkFirstObservation operation p step st).Within
      fun l => callOf operation.id l = none := by
  unfold checkFirstObservation
  split
  · exact ofExcept_within _
  · trivial

/-- The part of a program after a portal call. -/
theorem after_call {α β : Type} {p : SC05Prog α} {k : α → SC05Prog β}
    (hp : wp (itinerary operation.id action) pid p (fun _ m' => m' ≤ n) m)
    (hk : ∀ a m', m' ≤ n → wp (itinerary operation.id action) pid (k a) (fun _ m' => m' ≤ n) m') :
    wp (itinerary operation.id action) pid (p.bind k) (fun _ m' => m' ≤ n) m := by
  refine wp_bind (wp_mono ?_ hp)
  rintro (e | a) m' hm'
  · exact hm'
  · exact hk a m' hm'

/-- **The step of a portal**: its inspection, and perhaps its change. -/
theorem applyStep_itinerary (p : SC05Portal) (step : SC05PortalStep)
    (hm : m ≤ 2 * action.position p) : wp (itinerary operation.id action) pid
      (applyStep operation p step) (fun _ m' => m' ≤ 2 * action.position p + 2) m := by
  have hle : m ≤ 2 * action.position p + 2 := by omega
  unfold applyStep
  refine Monitor.ranked_bind rfl (fun _ => hle) fun _ _ => Monitor.ranked_bind rfl (fun _ => hle)
    fun _ _ => ?_
  refine wp_bind (wp_mono ?_ (invoke_itinerary (k := 2 * action.position p) p .inspect step.lastState
    .apply .inspect (fun _ _ => rfl) (fun _ _ => trivial) hm))
  rintro (e | observed) m1 hm1
  · exact Nat.le_succ_of_le hm1
  -- what comes between the inspection and the change calls no portal
  obtain rfl : m1 = 2 * action.position p + 1 := hm1
  have hnext : 2 * action.position p + 1 ≤ 2 * action.position p + 2 := Nat.le_succ _
  refine Monitor.ranked_bind rfl (fun _ => hnext) fun _ _ => ?_
  refine wp_bind (wp_mono ?_ (silent_exact (checkFirstObservation_silent p step observed.state)))
  rintro (e | u) _ rfl
  · exact hnext
  refine wp_bind (wp_mono ?_ (silent_exact (stepDesiredState_silent p step observed.state)))
  rintro (e | desired) _ rfl
  · exact hnext
  refine Monitor.ranked_bind rfl (fun _ => hnext) fun _ _ => ?_
  unfold settleStep
  split
  · exact hnext
  · split
    · unfold finishUnchangedStep
      exact silent_itinerary (within_call_bind rfl fun _ => within_call.2 rfl) hnext
    · unfold applyChange
      refine after_call (wp_mono (fun _ _ h => h.le) (invoke_itinerary (k := 2 * action.position p + 1)
        p .apply _ .apply (.apply operation.op.action) (fun _ _ => rfl) (fun _ _ => rfl) le_rfl))
        fun changed m4 hm4 => ?_
      refine silent_itinerary (within_call_bind rfl fun _ => ?_) hm4
      split
      · exact within_call_bind rfl fun _ => trivial
      · exact within_call_bind rfl fun _ => within_call.2 rfl

/-- **The way forth.** -/
theorem applySteps_itinerary : ∀ (rows : List (SC05Portal × SC05PortalStep)) {m : ℕ},
    (rows.map Prod.fst).Pairwise (fun p q => action.position p < action.position q) →
    (∀ p ∈ rows.map Prod.fst, m ≤ 2 * action.position p) → m ≤ 8 →
    wp (itinerary operation.id action) pid (applySteps operation rows) (fun _ m' => m' ≤ 8) m := by
  intro rows
  induction rows with
  | nil => exact fun _ _ hm => hm
  | cons row rest ih =>
    obtain ⟨p, step⟩ := row
    intro m hsorted hle hm
    obtain ⟨hlater, hrest⟩ := List.pairwise_cons.1 hsorted
    have hp := position_range action p
    unfold applySteps
    refine Monitor.ranked_bind rfl (fun _ => hm) fun _ _ => Monitor.ranked_bind rfl (fun _ => hm)
      fun _ _ => ?_
    refine wp_bind (wp_attempt (wp_mono ?_
      (applyStep_itinerary p step (hle p (List.mem_cons_self ..)))))
    rintro (e | u) m1 hm1
    · have hm8 : m1 ≤ 8 := by omega
      cases e with
      | sc05 e => exact silent_itinerary (within_call_bind rfl fun _ => trivial) hm8
      | superseded => exact hm8
      | validation => exact hm8
      | other => exact hm8
    · refine ih hrest (fun q hq => ?_) (by omega)
      have hlt : action.position p < action.position q := hlater q hq
      omega

/-- **The compensation of a step**: its inspection, and perhaps its restoration. -/
theorem compensateStep_itinerary (p : SC05Portal) (step : SC05PortalStep)
    (hm : m ≤ 2 * (7 - action.position p)) : wp (itinerary operation.id action) pid
      (compensateStep operation p step) (fun _ m' => m' ≤ 2 * (7 - action.position p) + 2) m := by
  have hmark : ∀ st, (markCompensated operation p st).Within
      fun l => callOf operation.id l = none := fun st =>
    within_call_bind rfl fun _ => within_call.2 rfl
  unfold compensateStep
  refine wp_bind (wp_mono ?_ (invoke_itinerary (k := 2 * (7 - action.position p)) p .inspect
    step.lastState .compensation .inspect (fun _ _ => rfl) (fun _ _ => trivial) hm))
  rintro (e | current) m1 hm1
  · exact Nat.le_succ_of_le hm1
  obtain rfl : m1 = 2 * (7 - action.position p) + 1 := hm1
  have hnext : 2 * (7 - action.position p) + 1 ≤ 2 * (7 - action.position p) + 2 := Nat.le_succ _
  dsimp only
  split
  · refine silent_itinerary (within_call_bind rfl fun _ => ?_) hnext
    split
    · trivial
    · exact hmark _
  · split
    · exact hnext
    · refine after_call (wp_mono (fun _ _ h => h.le) (invoke_itinerary
        (k := 2 * (7 - action.position p) + 1) p .compensate _ .compensation
        (.restore current.state step.beforeState) (fun _ _ => rfl) (fun _ _ => rfl) le_rfl))
        fun restored m2 hm2 => ?_
      split
      · exact hm2
      · exact silent_itinerary (within_call_bind rfl fun _ => hmark _) hm2

/-- **The way back.** -/
theorem compensateSteps_itinerary (failed : SC05Portal) :
    ∀ (rows : List (SC05Portal × SC05PortalStep)) (flag : Bool) {m : ℕ},
      (rows.map Prod.fst).Pairwise (fun p q => action.position q < action.position p) →
      (∀ p ∈ rows.map Prod.fst, m ≤ 2 * (7 - action.position p)) → m ≤ 14 →
      wp (itinerary operation.id action) pid (compensateSteps operation failed rows flag)
        (fun _ m' => m' ≤ 14) m := by
  intro rows
  induction rows with
  | nil => exact fun _ _ _ _ hm => hm
  | cons row rest ih =>
    obtain ⟨p, step⟩ := row
    intro flag m hsorted hle hm
    obtain ⟨hlater, hrest⟩ := List.pairwise_cons.1 hsorted
    have hp := position_range action p
    have htail : ∀ q ∈ rest.map Prod.fst, m ≤ 2 * (7 - action.position q) :=
      fun q hq => hle q (List.mem_cons_of_mem _ hq)
    unfold compensateSteps
    split
    · exact ih flag hrest htail hm
    · split
      · exact ih flag hrest htail hm
      · refine Monitor.ranked_bind rfl (fun _ => hm) fun _ _ => ?_
        refine wp_bind (wp_attempt (wp_mono ?_
          (compensateStep_itinerary p step (hle p (List.mem_cons_self ..)))))
        rintro r m1 hm1
        have hnext : ∀ m2, m2 ≤ 2 * (7 - action.position p) + 2 →
            (∀ q ∈ rest.map Prod.fst, m2 ≤ 2 * (7 - action.position q)) ∧ m2 ≤ 14 := by
          intro m2 hm2
          refine ⟨fun q hq => ?_, by omega⟩
          have hlt : action.position q < action.position p := hlater q hq
          have := position_range action q
          omega
        rcases r with e | u
        · cases e with
          | sc05 e =>
            refine wp_bind (wp_mono ?_ (silent_itinerary (p := markCompensationFailed operation p e)
              (within_call_bind rfl fun _ => within_call_bind rfl fun _ => within_call.2 rfl) hm1))
            rintro (e' | u) m2 hm2
            · exact (hnext m2 hm2).2
            · exact ih true hrest (hnext m2 hm2).1 (hnext m2 hm2).2
          | superseded => exact (hnext m1 hm1).2
          | validation => exact (hnext m1 hm1).2
          | other => exact (hnext m1 hm1).2
        · exact ih flag hrest (hnext m1 hm1).1 (hnext m1 hm1).2

/-- **The saga**, forth and perhaps back. -/
theorem runSaga_itinerary : wp (itinerary operation.id action) pid (runSaga operation)
    (fun _ m' => m' ≤ 14) 0 := by
  unfold runSaga
  refine Monitor.ranked_bind rfl (fun _ => Nat.zero_le _) fun _ _ =>
    Monitor.ranked_bind rfl (fun _ => Nat.zero_le _) fun _ _ =>
    Monitor.ranked_bind rfl (fun _ => Nat.zero_le _) fun steps hsteps => ?_
  have horder : steps.map Prod.fst = action.order := hsteps rfl
  refine wp_bind (wp_mono ?_ (applySteps_itinerary steps (horder ▸ order_pairwise action)
    (fun _ _ => Nat.zero_le _) (Nat.zero_le _)))
  rintro (e | failure) m1 hm1
  · exact Nat.le_trans hm1 (by decide)
  have hm14 : m1 ≤ 14 := Nat.le_trans hm1 (by decide)
  cases failure with
  | none => exact silent_itinerary (within_call_bind rfl fun _ => within_call.2 rfl) hm14
  | some failure =>
    obtain ⟨failedStep, e⟩ := failure
    refine Monitor.ranked_bind rfl (fun _ => hm14) fun _ _ => Monitor.ranked_bind rfl (fun _ => hm14)
      fun _ _ => ?_
    unfold compensate
    refine after_call (Monitor.ranked_bind rfl (fun _ => hm14) fun candidates hcandidates => ?_)
      fun flag m2 hm2 => silent_itinerary (within_call.2 rfl) hm2
    have hback : (candidates.map Prod.fst).Sublist action.order.reverse := hcandidates rfl
    refine compensateSteps_itinerary failedStep candidates false
      ((order_reverse_pairwise action).sublist hback) (fun p _ => ?_) hm14
    -- the way back begins behind the way forth
    have := position_range action p
    omega

end Saga

section Processes

variable {W ι : Type} {o : OperationId} {action : SC05Action} {pid : ℕ}

/-- A delivery of the operation. -/
theorem deliver_itinerary (t : SuppliedTaskId) (b : Bool) :
    wp (itinerary o action) pid (deliver o t b) (fun _ _ => True) 0 := by
  have hdone : ∀ {α : Type} {p : SC05Prog α} {m : ℕ},
      p.Within (fun l => callOf o l = none) → m ≤ 14 →
      wp (itinerary o action) pid p (fun _ m' => m' ≤ 14) m :=
    fun hp hm => wp_mono (fun _ _ heq => heq.trans_le hm) (Monitor.ranked_within hp)
  have hexecute : wp (itinerary o action) pid (executeSc05 o t b) (fun _ m' => m' ≤ 14) 0 := by
    unfold executeSc05
    refine Monitor.ranked_bind rfl (fun _ => Nat.zero_le _) fun r _ => ?_
    obtain ⟨⟨op, client⟩, should⟩ := r
    dsimp only
    split
    · exact hdone (within_call.2 rfl) (Nat.zero_le _)
    · have hhandle : ∀ e, (handleFailure ⟨o, op, client⟩ e).Within
          fun l => callOf o l = none := by
        intro e
        unfold handleFailure
        split
        · trivial
        · exact within_call_bind rfl fun _ => within_call.2 rfl
        · exact within_bind (within_call_bind rfl fun _ => within_call.2 rfl) fun _ => trivial
      have hsaga : wp (itinerary o action) pid
          (Prog.tryCatch (runSaga ⟨o, op, client⟩) (handleFailure ⟨o, op, client⟩))
          (fun _ m' => m' ≤ 14) 0 := by
        refine wp_tryCatch (wp_mono ?_ (@runSaga_itinerary ⟨o, op, client⟩ action pid))
        rintro (e | u) m hm
        · exact hdone (hhandle e) hm
        · exact hm
      refine wp_bind (wp_mono ?_ hsaga)
      rintro (e | u) m hm
      · exact hm
      · exact hdone (within_call.2 rfl) hm
  refine wp_tryFinally (wp_mono ?_ (wp_bind (wp_mono ?_ hexecute)) (Q := fun _ m => m ≤ 14))
  · intro r m hm
    refine wp_mono ?_ (hdone (p := Prog.call (.acknowledge o)) (within_call.2 rfl) hm)
    rintro (e | u) m - <;> trivial
  · rintro (e | r) m hm <;> exact hm

/-- **Every process goes the way of the operation**, or stays off it. -/
theorem body_itinerary (k : SC05Process) :
    wp (itinerary o action) pid k.body (fun _ _ => True) 0 := by
  have hsilent : ∀ {p : SC05Prog Unit}, p.Within (fun l => callOf o l = none) →
      wp (itinerary o action) pid p (fun _ _ => True) 0 :=
    fun hp => wp_mono (fun _ _ _ => trivial) (Monitor.ranked_within (n := 0) hp)
  rcases body_within k with ⟨o', t, b, rfl⟩ | hk
  · by_cases ho : o' = o
    · subst ho
      exact deliver_itinerary t b
    · refine hsilent (within_mono (fun l hl => ?_) (deliver_within o' t b))
      cases l with
      | callPortal o'' p request =>
        obtain rfl : o'' = o' := Option.some.inj hl
        exact if_neg ho
      | _ => rfl
  · refine hsilent (within_mono (fun l hl => ?_) hk)
    cases l with
    | callPortal => cases hl
    | _ => rfl

/-- The operation is there, and its action is this one. -/
def ActionIs (o : OperationId) (action : SC05Action) (s : SC05State W) : Prop :=
  o < s.operationCount ∧ (s.operations o).action = action

/-- No move changes the action of an operation. -/
theorem actionIs_after (portal : PortalBackend W ι) (settings : Settings)
    (m : Move SC05Label (Fate ι) (W → W)) {s : SC05State W} (h : ActionIs o action s) :
    ActionIs o action ((sc05System portal settings).after m s) := by
  have hsim := saga_simulates portal settings o
  refine ⟨hsim.keeps m s h.1, ?_⟩
  exact (trace_step (hsim.move m h.1)).1.trans h.2

/-- The steps are answered in their order. -/
theorem stepsKnown_sem (portal : PortalBackend W ι) (settings : Settings) (pid : ℕ) (l : SC05Label)
    (i : Fate ι) {s : SC05State W} (h : ActionIs o action s) :
    StepsKnown o action l ((sc05System portal settings).sem pid l i s).1 := by
  have hordered : (s.operations o).orderedSteps.map Prod.fst = action.order := by
    rw [SC05Operation.orderedSteps, List.map_map, h.2]
    exact List.map_id _
  cases l with
  | loadSteps o' =>
    show StepsKnown o action (.loadSteps o') (transaction i s (.ok _, s)).1
    unfold transaction
    split
    · trivial
    · rintro rfl
      exact hordered
  | compensationCandidates o' failed =>
    show StepsKnown o action (.compensationCandidates o' failed) (transaction i s (.ok _, _)).1
    unfold transaction
    split
    · trivial
    · rintro rfl
      rw [← hordered, ← List.map_reverse]
      exact List.filter_sublist.map _
  | _ => trivial

/-- **The portal calls of a process follow the saga**, in every run, whatever the portals, the
storage, the database, the other processes and crashes do: forth in the order of the action and then
perhaps back in the opposite order; each `apply` and each `restore` right behind the inspection of its
portal in its phase; no portal applied or restored twice, no `apply` after a `restore`, and twelve
calls at most. -/
theorem calls_ordered (portal : PortalBackend W ι) (settings : Settings) {o : OperationId}
    {s : SC05State W} (hs : o < s.operationCount)
    (xs : List (Choice (Fate ι) SC05Process (W → W))) (pid : ℕ) :
    FollowsSaga (s.operations o).action
      (((sc05System portal settings).trail pid (Config.idle s) xs).filterMap fun x => callOf o x.1) := by
  have haccepts : (Monitor.ranked (callOf o) (callRank (s.operations o).action)
      (callFits (s.operations o).action) (StepsKnown o (s.operations o).action)).Accepts _
      ((sc05System portal settings).trail pid (Config.idle s) xs) :=
    Monitor.trail_accepts (I := ActionIs o (s.operations o).action)
      (fun m s h => actionIs_after portal settings m h) (fun k => body_itinerary k)
      (fun l i s h => stepsKnown_sem portal settings pid l i h) ⟨hs, rfl⟩ xs
  exact followsSaga_of_goes (Monitor.ranked_goes haccepts)

end Processes

/-- The delivery of `residueRun` goes forth to the last portal and back to the first. -/
theorem calls_ordered_residueRun :
    FollowsSaga (sampleState.operations 0).action
        (((sc05System (simulatorPortal id) {}).trail 0 (Config.idle sampleState) residueRun).filterMap
          fun x => callOf 0 x.1) ∧
      (((sc05System (simulatorPortal id) {}).trail 0 (Config.idle sampleState) residueRun).filterMap
        fun x => callOf 0 x.1).map (callRank (sampleState.operations 0).action) =
        [2, 3, 4, 5, 6, 7, 8, 10, 11, 12, 13] :=
  ⟨calls_ordered (simulatorPortal id) {} (by decide) residueRun 0, by decide +kernel⟩

end SheepContabil
