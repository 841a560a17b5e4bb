import SheepContabil.Proof.Sc05AloneSteps

/-!
# An unblock that runs alone, with its compensation

The compensation of a step submits the form it takes the captured state for, and
compares what that leaves (`Restoring`). A plan gives, for each portal, what its step
and its compensation make of the rows of the client (`UndoPlan`).

* `solo_compensateStep`, `solo_compensateSteps`: one step, and the loop of `_compensate`.
* `solo_applied`, `solo_fall`, `solo_runSaga`: the two phases and the saga.
* `deliver_ended`: the delivery of a requested unblock.
-/

namespace SheepContabil

open Conc Conc.Prog

variable {text : String → String} {settings : Settings} {clean : Prop} {o : OperationId}
  {s₀ : SC05State Simulator} {pid : ℕ} {v : SagaView} {c : SimulatorClient}

section Compensation

variable {operation : LoadedOperation} {p : SC05Portal} {c' : SimulatorClient}
  {scenario : SC05Scenario}

/-- What the compensation of `p` makes of the rows `c`: they show the captured state, or the form of
the restoration leaves `c'`, which shows it if `exact` says so. -/
def Restoring (text : String → String) (scenario : SC05Scenario) (p : SC05Portal) (s : StepView)
    (c c' : SimulatorClient) (exact : Bool) : Prop :=
  ∃ current, readState text p (some c) = .ok current ∧
    ((statesEqual current s.before = true ∧ c' = c ∧ exact = true) ∨
      (statesEqual current s.before = false ∧ statesEqual current s.desired = true ∧
        statesEqual current current = true ∧ ∃ action st, restoreAction p s.before = .ok action ∧
          submit p action scenario .compensation (some c) = .ok c' ∧
          readState text p (some c') = .ok st ∧ exact = statesEqual st s.before))

theorem Restoring.shown {s : StepView} {exact : Bool} (h : Restoring text scenario p s c c' exact)
    (hexact : exact = true) :
    ∃ st, readState text p (some c') = .ok st ∧ statesEqual st s.before = true := by
  obtain ⟨current, hread, ⟨heq, rfl, -⟩ | ⟨-, -, -, action, st, -, -, hread', rfl⟩⟩ := h
  · exact ⟨current, hread, heq⟩
  · exact ⟨st, hread', hexact⟩

/-- How the compensation of one step ends. -/
def Restored (p : SC05Portal) (v : SagaView) (c' : SimulatorClient) (exact : Bool)
    (r : Except SC05Exception Unit) (v' : SagaView) (c'' : SimulatorClient) : Prop :=
  SagaView.Onto p v v' ∧ (v'.step p).before = (v.step p).before ∧ c'' = c' ∧
    ((exact = true ∧ r = .ok () ∧
        ((v.step p).status ≠ .failed → (v'.step p).status = .compensated)) ∨
      (exact = false ∧ ∃ x, r = .error (.sc05 x)))

theorem solo_markCompensated (ho : operation.id = o) (hc : v.Current operation.op.run.taskId)
    (hcalm : Calm clean v) (state : PortalState) :
    Solo text settings clean o s₀ pid v c (markCompensated operation p state)
      fun r v' c' => SagaView.Onto p v v' ∧ (v'.step p).before = (v.step p).before ∧ c' = c ∧
        r = .ok () ∧ (v'.step p).status = .compensated := by
  subst ho
  unfold markCompensated
  refine Solo.saveStep_bind ?_ fun hno => absurd hcalm hno
  refine solo_recordStepFinished rfl hc ⟨.setStep _, ?_, rfl, rfl, ?_⟩ fun hno => absurd hcalm hno
  · rw [saveStep_step]; rfl
  · rw [saveStep_step]; rfl

/-- **The compensation of one step**, when nothing disturbs it. -/
theorem solo_compensateStep {exact : Bool} (hl : Loaded o s₀ operation)
    (hscenario : executionScenario operation.op.scenario operation.op.resumeCount = scenario)
    (hc : v.Current operation.op.run.taskId) (hcalm : Calm clean v) {step : SC05PortalStep}
    (hview : step.view = v.step p) (h : Restoring text scenario p (v.step p) c c' exact) :
    Solo text settings clean o s₀ pid v c (compensateStep operation p step)
      (Restored p v c' exact) := by
  obtain ⟨current, hread, h⟩ := h
  have hid := hl.id
  have hbefore : step.beforeState = (v.step p).before := by rw [← hview]; rfl
  have hdesired : step.desiredState = (v.step p).desired := by rw [← hview]; rfl
  have hstatus : step.status = (v.step p).status := by rw [← hview]; rfl
  unfold compensateStep
  refine Solo.bind (solo_inspect hl hc p _ _ hread) ?_ ?_
  swap
  · rintro e v₁ c₁ ⟨-, -, h | ⟨e', -, -, hno⟩⟩
    · cases h
    · exact absurd hcalm hno
  rintro evidence v₁ c₁ ⟨honto, rfl, hret | ⟨e, he, -⟩⟩
  swap
  · cases he
  cases hret
  have hon := honto p
  have hsame : v₁.step p = v.step p := SagaView.Onto.step_eq honto p
  have hc₁ := hon.current hc
  have hcalm₁ := hon.calm.2 hcalm
  have hmark : ∀ {v₂ : SagaView} (c₂ : SimulatorClient) (state : PortalState),
      SagaView.Onto p v v₂ → v₂.step p = v.step p → c₂ = c' → exact = true →
      Solo text settings clean o s₀ pid v₂ c₂ (markCompensated operation p state)
        (Restored p v c' exact) := by
    intro v₂ c₂ state hon₂ hstep₂ hc₂ hexact
    refine (solo_markCompensated hid (hon₂.current hc) (hon₂.calm.2 hcalm) state).mono ?_
    rintro r v₃ c₃ ⟨hon₃, hb, rfl, rfl, hs⟩
    exact ⟨hon₂.trans hon₃, hb.trans (by rw [hstep₂]), hc₂, .inl ⟨hexact, rfl, fun _ => hs⟩⟩
  rw [hbefore, hdesired]
  -- the portal already shows the captured state, or still shows the desired one
  rcases h with ⟨heq, rfl, rfl⟩ | ⟨hne, heq, hself, action, st, haction, hform, hread₁, rfl⟩
  · rw [if_pos heq]
    subst hid
    refine Solo.locked_bind rfl rfl hc₁ (fun _ _ _ h => h) (fun _ _ => ?_)
      fun hno => absurd hcalm₁ hno
    by_cases hf : step.status = .failed
    · rw [if_pos hf]
      exact Solo.ret ⟨hon, by rw [hsame], rfl, .inl ⟨rfl, rfl, fun h => absurd (hstatus ▸ hf) h⟩⟩
    · rw [if_neg hf]
      exact hmark _ _ hon hsame rfl rfl
  · rw [if_neg (by simp [hne]), if_neg (by simp [heq])]
    refine Solo.bind (solo_invoke hl hc₁ p _ _ _ _) ?_ ?_
    · rintro evidence v₂ c₂ (⟨-, -, hno, -⟩ | ⟨outcome, rfl, hans, hr⟩)
      · exact absurd hcalm₁ hno
      rcases hr with ⟨evidence', h, rfl⟩ | ⟨e, h, -⟩
      swap
      · cases h
      cases h
      rw [hscenario] at hans
      -- the restore returns exactly when its state is the captured one
      obtain ⟨rfl, hok, hfail⟩ := answers_restore hcalm₁ rfl hread hself haction hform hread₁ hans
      by_cases hst : statesEqual st (v.step p).before = true
      · have hret := hok hst
        cases hret
        rw [if_neg (by simp [hst])]
        subst hid
        have hon₂ : SagaView.Onto p v (v₁.callPush pid p .compensation
            (.restore current (v.step p).before) (.returned { state := st })) :=
          hon.trans onto_callPush
        refine Solo.locked_bind rfl rfl (hon₂.current hc) (fun _ _ _ h => h) (fun _ _ => ?_)
          fun hno => absurd (hon₂.calm.2 hcalm) hno
        exact hmark _ _ hon₂ hsame rfl hst
      · obtain ⟨b, f, h⟩ := hfail (by simpa using hst)
        cases h
    · rintro e v₂ c₂ (⟨-, -, hno, -⟩ | ⟨outcome, rfl, hans, hr⟩)
      · exact absurd hcalm₁ hno
      rcases hr with ⟨evidence', h, -⟩ | ⟨e', h, -, hsc05⟩
      · cases h
      cases h
      obtain ⟨⟨x, rfl⟩, b, f, hfailed⟩ := hsc05 hcalm₁
      rw [hscenario] at hans
      obtain ⟨rfl, hok, -⟩ := answers_restore hcalm₁ rfl hread hself haction hform hread₁ hans
      refine ⟨hon.trans onto_callPush, ?_, rfl, .inr ⟨?_, x, rfl⟩⟩
      · exact congrArg StepView.before hsame
      · by_contra hst
        have hret := hok (by simpa using hst)
        rw [hret] at hfailed; cases hfailed

end Compensation

section Unwinding

variable {operation : LoadedOperation} {scenario : SC05Scenario} {c' : SimulatorClient}

/-- The compensation of `portals`, one after another: `exact` says that each shows its captured
state then. -/
inductive Unwinding (text : String → String) (scenario : SC05Scenario) (view : SC05Portal → StepView) :
    List SC05Portal → SimulatorClient → SimulatorClient → Bool → Prop where
  | nil {c : SimulatorClient} : Unwinding text scenario view [] c c true
  | cons {p : SC05Portal} {ps : List SC05Portal} {c c₁ c' : SimulatorClient} {exact exact' : Bool}
      (captured : (view p).before ≠ [] ∧ (view p).desired ≠ [])
      (restoring : Restoring text scenario p (view p) c c₁ exact)
      (after : Unwinding text scenario view ps c₁ c' exact') :
      Unwinding text scenario view (p :: ps) c c' (exact && exact')

/-- What a compensation of `portals` leaves of the view. -/
structure Unwound (portals : List SC05Portal) (exact : Bool) (v v' : SagaView) : Prop where
  action : v'.action = v.action
  status : v'.status = v.status
  taskId : v'.taskId = v.taskId
  compensation : inCompensation v'.trace = inCompensation v.trace
  failed : failedPortals v'.trace = failedPortals v.trace
  others : ∀ p, p ∉ portals → v'.step p = v.step p
  before : ∀ p, (v'.step p).before = (v.step p).before
  compensated : exact = true → ∀ p ∈ portals, (v.step p).status ≠ .failed →
    (v'.step p).status = .compensated

theorem Unwound.refl : Unwound [] true v v :=
  ⟨rfl, rfl, rfl, rfl, rfl, fun _ _ => rfl, fun _ => rfl, fun _ _ h => by cases h⟩

theorem Unwound.cons {p : SC05Portal} {ps : List SC05Portal} {exact exact' : Bool} {v' v'' : SagaView}
    (hp : p ∉ ps) (hon : SagaView.Onto p v v') (hbefore : (v'.step p).before = (v.step p).before)
    (hcomp : exact = true → (v.step p).status ≠ .failed → (v'.step p).status = .compensated)
    (h : Unwound ps exact' v' v'') : Unwound (p :: ps) (exact && exact') v v'' where
  action := h.action.trans hon.action
  status := h.status.trans hon.status
  taskId := h.taskId.trans hon.taskId
  compensation := h.compensation.trans hon.compensation
  failed := h.failed.trans hon.failed
  others q hq := by
    rw [List.mem_cons, not_or] at hq
    exact (h.others q hq.2).trans (hon.others q hq.1)
  before q := by
    by_cases hq : q = p
    · subst hq; exact (h.before q).trans hbefore
    · exact (h.before q).trans (congrArg StepView.before (hon.others q hq))
  compensated hexact q hq hstatus := by
    rw [Bool.and_eq_true] at hexact
    by_cases hqp : q = p
    · subst hqp
      rw [h.others q hp]
      exact hcomp hexact.1 hstatus
    · have hmem : q ∈ ps := (List.mem_cons.1 hq).resolve_left hqp
      exact h.compensated hexact.2 q hmem (by rw [hon.others q hqp]; exact hstatus)

/-- `_compensate` marks a step it could not restore. -/
theorem solo_markCompensationFailed (ho : operation.id = o) (hc : v.Current operation.op.run.taskId)
    (hcalm : Calm clean v) (p : SC05Portal) (x : SC05Error) :
    Solo text settings clean o s₀ pid v c (markCompensationFailed operation p x)
      fun r v' c' => SagaView.Onto p v v' ∧ (v'.step p).before = (v.step p).before ∧ c' = c ∧
        r = .ok () := by
  subst ho
  unfold markCompensationFailed
  refine Solo.locked_bind rfl rfl hc (fun _ _ _ h => h) (fun _ _ => ?_) fun hno => absurd hcalm hno
  refine Solo.saveStep_bind ?_ fun hno => absurd hcalm hno
  refine solo_recordStepFinished rfl hc ⟨.setStep _, ?_, rfl, rfl⟩ fun hno => absurd hcalm hno
  rw [saveStep_step]; rfl

/-- **The loop of `_compensate`**, when nothing disturbs it. -/
theorem solo_compensateSteps {view : SC05Portal → StepView} {exact : Bool} {failed : SC05Portal}
    (hl : Loaded o s₀ operation)
    (hscenario : executionScenario operation.op.scenario operation.op.resumeCount = scenario)
    {portals : List SC05Portal} (h : Unwinding text scenario view portals c c' exact)
    (hnodup : portals.Nodup)
    (hpos : ∀ p ∈ portals, ¬ operation.op.action.position failed < operation.op.action.position p) :
    ∀ {v : SagaView} {rows : List (SC05Portal × SC05PortalStep)} {b : Bool},
      v.Current operation.op.run.taskId → Calm clean v → (∀ p ∈ portals, v.step p = view p) →
      rows.map (fun x => (x.1, x.2.view)) = portals.map (fun p => (p, view p)) →
      Solo text settings clean o s₀ pid v c (compensateSteps operation failed rows b)
        fun r v' c'' => c'' = c' ∧ r = .ok (b || !exact) ∧ Unwound portals exact v v' := by
  have hid := hl.id
  induction h with
  | nil =>
    intro v rows b hc hcalm hview hrows
    obtain rfl : rows = [] := List.map_eq_nil_iff.1 hrows
    exact Solo.ret ⟨rfl, by simp, .refl⟩
  | @cons p ps c c₁ c' exact exact' captured restoring _ ih =>
    intro v rows b hc hcalm hview hrows
    obtain ⟨⟨p', step⟩, rest, rfl, hrow, hrest⟩ := List.map_eq_cons_iff.1 hrows
    obtain ⟨rfl, hstep⟩ := Prod.mk.inj hrow
    rw [List.nodup_cons] at hnodup
    have hviewp : v.step p' = view p' := hview p' (List.mem_cons_self ..)
    have hb : step.beforeState ≠ [] := by
      have : step.beforeState = (view p').before := by rw [← hstep]; rfl
      rw [this]; exact captured.1
    have hd : step.desiredState ≠ [] := by
      have : step.desiredState = (view p').desired := by rw [← hstep]; rfl
      rw [this]; exact captured.2
    -- the rest of the loop works on the other steps
    have hgo : ∀ {v' : SagaView} {b' : Bool}, SagaView.Onto p' v v' →
        Solo text settings clean o s₀ pid v' c₁ (compensateSteps operation failed rest b')
          fun r v'' c'' => c'' = c' ∧ r = .ok (b' || !exact') ∧ Unwound ps exact' v' v'' := by
      intro v' b' hon
      refine ih hnodup.2 (fun p hp => hpos p (List.mem_cons_of_mem _ hp)) (hon.current hc)
        (hon.calm.2 hcalm) (fun p hp => ?_) hrest
      rw [hon.others p fun h => hnodup.1 (h ▸ hp)]
      exact hview p (List.mem_cons_of_mem _ hp)
    have hend : ∀ {v' : SagaView} {b' : Bool}, SagaView.Onto p' v v' →
        (v'.step p').before = (v.step p').before →
        (exact = true → (v.step p').status ≠ .failed → (v'.step p').status = .compensated) →
        b' = (b || !exact) →
        Solo text settings clean o s₀ pid v' c₁ (compensateSteps operation failed rest b')
          fun r v'' c'' => c'' = c' ∧ r = .ok (b || !(exact && exact')) ∧
            Unwound (p' :: ps) (exact && exact') v v'' := by
      intro v' b' hon hbefore hcomp hb'
      refine (hgo hon).mono ?_
      rintro r v'' c'' ⟨rfl, rfl, hunwound⟩
      refine ⟨rfl, ?_, .cons hnodup.1 hon hbefore hcomp hunwound⟩
      rw [hb', Bool.not_and, Bool.or_assoc]
    unfold compensateSteps
    rw [if_neg (hpos p' (List.mem_cons_self ..)),
      if_neg (by simp [List.isEmpty_iff, hb, hd])]
    subst hid
    refine Solo.fault_bind rfl rfl (fun _ _ _ h => h) (fun _ => ?_) fun hno => absurd hcalm hno
    refine Solo.bind (Solo.attempt (solo_compensateStep hl hscenario hc hcalm
      (hstep.trans hviewp.symm) (hviewp ▸ restoring))) ?_ (by rintro e v' c' ⟨r', h, -⟩; cases h)
    rintro r v₁ c₂ ⟨r', hr, hon, hbefore, rfl, ⟨rfl, rfl, hcomp⟩ | ⟨rfl, x, rfl⟩⟩
    · cases hr
      exact hend hon hbefore (fun _ => hcomp) (by simp)
    · cases hr
      refine Solo.bind (solo_markCompensationFailed rfl (hon.current hc) (hon.calm.2 hcalm) p' x) ?_
        (by rintro e v' c' ⟨-, -, -, h⟩; cases h)
      rintro a v₂ c₃ ⟨hon₂, hbefore₂, rfl, -⟩
      exact hend (hon.trans hon₂) (hbefore₂.trans hbefore) (fun h => by cases h) (by simp)

end Unwinding

section Fall

variable {operation : LoadedOperation} {snapshot : PortalState} {t : Option TaskId}
  {scenario : SC05Scenario} {c' : SimulatorClient}

theorem solo_finishFailed (ho : operation.id = o) (hc : v.Current operation.op.run.taskId)
    {x : SC05Error} (hx : x.code ≠ .taskMarkerWithoutSnapshot) (flag : Bool) (site : FailureSite) :
    Solo text settings clean o s₀ pid v c
      (Prog.call (SC05Label.finishFailed operation.id x flag site operation.op.run.taskId))
      fun r v' c' => c' = c ∧ ((¬ Calm clean v ∧ v' = v ∧ ∃ e, r = .error e ∧ Foreign e) ∨
        (r = .ok () ∧ ∃ status client,
          v' = { v with status := status, trace := .failed pid site status client :: v.trace } ∧
          ((flag = true ∧ status = .partiallyFailed) ∨
            (flag = false ∧ status = .failed ∧ client = v.action.undoneStatus)))) := by
  subst ho
  refine Solo.call rfl rfl fun i r v' hcalm he => ⟨rfl, ?_⟩
  cases r with
  | error e =>
    obtain ⟨rfl, hfail⟩ := he
    have hforeign := DbFailure.foreign hfail
    exact .inl ⟨fun hc => hforeign.2 (hcalm hc), rfl, e, rfl, hforeign.1⟩
  | ok a =>
    rcases he with ⟨hno, -⟩ | ⟨-, status, client, rfl, hclose⟩
    · exact absurd hc hno
    · refine .inr ⟨rfl, status, client, rfl, ?_⟩
      rcases hclose with ⟨hcode, -⟩ | ⟨-, rfl, rfl, -⟩ | ⟨-, rfl, rfl, rfl⟩
      · exact absurd hcode hx
      · exact .inl ⟨rfl, rfl⟩
      · exact .inr ⟨rfl, rfl, rfl⟩

/-- How a compensation of `portals` after the failure of one closes the run. -/
structure Fallen (failed : SC05Portal) (portals : List SC05Portal) (exact : Bool)
    (v v' : SagaView) : Prop where
  failed : failedPortals v'.trace = failed :: failedPortals v.trace
  before : ∀ p, (v'.step p).before = (v.step p).before
  closed : ∃ pid client rest, v'.trace = .failed pid .compensated v'.status client :: rest ∧
    ((exact = true ∧ v'.status = .failed ∧ client = .blocked) ∨
      (exact = false ∧ v'.status = .partiallyFailed))
  compensated : exact = true → ∀ p ∈ portals, (v.step p).status ≠ .failed →
    (v'.step p).status = .compensated

/-- What follows the failure of a step: its compensation, and the end of the run. -/
theorem solo_fall {Q : Except SC05Exception Unit → SagaView → SimulatorClient → Prop}
    (hl : LoadedUnblock o s₀ operation snapshot t scenario) (hc : v.Current t)
    (haction : v.action = .unblock) {failed : SC05Portal} {x : SC05Error}
    (hx : x.code ≠ .taskMarkerWithoutSnapshot) {portals : List SC05Portal} {exact : Bool}
    (hcandidates : v.candidates = portals.map fun p => (p, v.step p)) (hnodup : portals.Nodup)
    (hpos : ∀ p ∈ portals, ¬ operation.op.action.position failed < operation.op.action.position p)
    (h : Unwinding text scenario v.step portals c c' exact)
    (herr : ¬ Calm clean v → ∀ e, Foreign e → Q (.error e) v c)
    (hok : ∀ v', Fallen failed portals exact v v' → Q (.ok ()) v' c') :
    Solo text settings clean o s₀ pid v c (do
      Prog.call (SC05Label.requireCurrentDelivery operation.id operation.op.run.taskId)
      Prog.call (SC05Label.touchRun operation.id operation.op.run.taskId)
      let compensationFailed ← compensate operation failed
      Prog.call (SC05Label.finishFailed operation.id x compensationFailed .compensated
        operation.op.run.taskId)) Q := by
  obtain rfl := hl.id
  have htoken := hl.token
  refine Solo.locked_bind rfl rfl (htoken ▸ hc) (fun _ _ _ h => h) (fun _ _ => ?_) herr
  refine Solo.db_bind rfl rfl (fun _ _ _ h => h) (fun _ _ => ?_) herr
  set w := v.push (.compensating pid failed (v.candidates.map Prod.fst)) with hw
  -- from here on the trace is in a compensation, so nothing disturbs the process
  have hcalm : Calm clean w := .inr rfl
  have hcw : w.Current operation.op.run.taskId := htoken ▸ hc
  have hloop : Solo text settings clean operation.id s₀ pid v c (compensate operation failed)
      fun r v' c'' => (¬ Calm clean v ∧ v' = v ∧ c'' = c ∧ ∃ e, r = .error e ∧ Foreign e) ∨
        (c'' = c' ∧ r = .ok (!exact) ∧ Unwound portals exact w v') := by
    unfold compensate
    refine Solo.act_bind (w := w)
      (P := fun rows => rows.map (fun x => (x.1, x.2.view)) = v.candidates) rfl rfl
      (fun i r v' he => ?_) (fun rows hrows => ?_) fun hno e he => .inl ⟨hno, rfl, rfl, e, rfl, he⟩
    · cases r with
      | ok rows => exact .inl ⟨he.1, rows, rfl, he.2⟩
      | error e => exact .inr ⟨he.1, e, rfl, DbFailure.foreign he.2⟩
    · refine (solo_compensateSteps hl.toLoaded hl.scenario h hnodup hpos hcw hcalm (fun _ _ => rfl)
        (hrows.trans hcandidates)).mono ?_
      rintro r v' c'' ⟨rfl, rfl, hunwound⟩
      exact .inr ⟨rfl, rfl, hunwound⟩
  refine Solo.bind hloop ?_ ?_
  swap
  · rintro e v' c'' (⟨hno, rfl, rfl, e', h, he⟩ | ⟨-, h, -⟩)
    · cases h
      exact herr hno e he
    · cases h
  rintro flag v' c'' (⟨-, -, -, e, h, -⟩ | ⟨rfl, h, hunwound⟩)
  · cases h
  cases h
  have hcv : v'.Current operation.op.run.taskId :=
    ⟨hunwound.status.trans hcw.1, hunwound.taskId.trans hcw.2⟩
  have hcalm' : Calm clean v' := .inr (hunwound.compensation.trans rfl)
  refine (solo_finishFailed rfl hcv hx _ _).mono ?_
  rintro r v'' c₃ ⟨rfl, ⟨hno, -⟩ | ⟨rfl, status, client, rfl, hclose⟩⟩
  · exact absurd hcalm' hno
  refine hok _ ⟨?_, hunwound.before, ⟨pid, client, v'.trace, rfl, ?_⟩, hunwound.compensated⟩
  · exact hunwound.failed
  · rcases hclose with ⟨hflag, rfl⟩ | ⟨hflag, rfl, rfl⟩
    · exact .inr ⟨by simpa using hflag, rfl⟩
    · refine .inl ⟨by simpa using hflag, rfl, ?_⟩
      have : v'.action = .unblock := hunwound.action.trans haction
      rw [this]; rfl

end Fall

section Failing

variable {operation : LoadedOperation} {snapshot : PortalState} {t : Option TaskId}
  {scenario : SC05Scenario} {ob de : SC05Portal → PortalState} {c₁ c₂ c₃ cx : SimulatorClient}
  {exact : Bool}

/-- The compensation of a step that took the rows `c` to `c'` takes them to `cx`. -/
structure Reversal (text : String → String) (scenario : SC05Scenario) (p : SC05Portal)
    (observed desired : PortalState) (c c' cx : SimulatorClient) (exact : Bool) : Prop where
  kept : ∀ s : StepView, s.Captured observed desired → Restoring text scenario p s c c true
  undone : ∀ s : StepView, s.Captured observed desired → Restoring text scenario p s c' cx exact

/-- The steps of an unblock and their compensation: only that of the tasks may be inexact. -/
structure UndoPlan (text : String → String) (o : OperationId) (s₀ : SC05State Simulator)
    (snapshot : PortalState) (scenario : SC05Scenario) (ob de : SC05Portal → PortalState)
    (c c₁ c₂ c₃ cx : SimulatorClient) (exact : Bool) : Prop where
  tasks : Undoing text snapshot (priorOf o s₀ .tasks) .tasks c c₁ (ob .tasks) (de .tasks)
  accounting : Undoing text snapshot (priorOf o s₀ .accounting) .accounting c₁ c₂
    (ob .accounting) (de .accounting)
  files : Undoing text snapshot (priorOf o s₀ .files) .files c₂ c₃ (ob .files) (de .files)
  tasksBack : Reversal text scenario .tasks (ob .tasks) (de .tasks) c c₁ cx exact
  accountingBack : Reversal text scenario .accounting (ob .accounting) (de .accounting) c₁ c₂ c₁ true
  filesBack : Reversal text scenario .files (ob .files) (de .files) c₂ c₃ c₂ true

theorem Undoing.captured_ne {p : SC05Portal} {prior : Option PortalState} {c c' : SimulatorClient}
    {observed desired : PortalState} {s : StepView}
    (h : Undoing text snapshot prior p c c' observed desired) (hs : s.Captured observed desired) :
    s.before ≠ [] ∧ s.desired ≠ [] := by
  rw [hs.1, hs.2]
  exact ⟨readState_ne h.read, desiredState_ne h.asked⟩

theorem candidates_unblock (haction : v.action = .unblock) :
    v.candidates = ([SC05Portal.files, .accounting, .tasks].filter
      fun p => !(v.step p).before.isEmpty).map fun p => (p, v.step p) := by
  unfold SagaView.candidates
  rw [haction, ← List.map_reverse, List.filter_map]
  rfl

/-- The steps, and the calls that have been made, may differ from `v`. -/
structure SagaView.Along (v v' : SagaView) : Prop where
  action : v'.action = v.action
  status : v'.status = v.status
  taskId : v'.taskId = v.taskId
  failed : failedPortals v'.trace = failedPortals v.trace

theorem SagaView.Onto.along {p : SC05Portal} {v v' : SagaView} (h : SagaView.Onto p v v') :
    SagaView.Along v v' :=
  ⟨h.action, h.status, h.taskId, h.failed⟩

theorem SagaView.Along.trans {v v' v'' : SagaView} (h : SagaView.Along v v')
    (h' : SagaView.Along v' v'') : SagaView.Along v v'' :=
  ⟨h'.action.trans h.action, h'.status.trans h.status, h'.taskId.trans h.taskId,
    h'.failed.trans h.failed⟩

/-- Something may fail: the surroundings, or the form of a portal. -/
def Faulted (clean : Prop) (scenario : SC05Scenario) : Prop :=
  ¬ clean ∨ ∃ p, scenarioFault p scenario .apply ≠ none

theorem MayFail.faulted {p : SC05Portal} (h : MayFail clean scenario p v) : Faulted clean scenario :=
  h.imp (fun hno hclean => hno (.inl hclean)) fun hfault => ⟨p, hfault⟩

/-- How the loop over the steps ends, for the compensation that follows. -/
def Applied (text : String → String) (clean : Prop) (operation : LoadedOperation)
    (scenario : SC05Scenario) (observed : PortalState) (c₃ cx : SimulatorClient) (exact : Bool)
    (v : SagaView)
    (r : Except SC05Exception (Option (SC05Portal × SC05Error))) (v' : SagaView)
    (c' : SimulatorClient) : Prop :=
  SagaView.Along v v' ∧
  ((r = .ok none ∧ c' = c₃) ∨ Faulted clean scenario ∧ ((∃ e, r = .error e ∧ Foreign e) ∨
    ∃ failed x portals cx' exact', r = .ok (some (failed, x)) ∧ Foreign (.sc05 x) ∧
      v'.candidates = portals.map (fun p => (p, v'.step p)) ∧ portals.Nodup ∧
      (∀ p ∈ portals, ¬ operation.op.action.position failed < operation.op.action.position p) ∧
      Unwinding text scenario v'.step portals c' cx' exact' ∧
      (failed ≠ .tasks → .tasks ∈ portals ∧ cx' = cx ∧ exact' = exact ∧
        (v'.step .tasks).before = observed ∧ (v'.step .tasks).status ≠ .failed)))

/-- **The loop over the steps of an unblock.** -/
theorem solo_applied (plan : UndoPlan text o s₀ snapshot scenario ob de c c₁ c₂ c₃ cx exact)
    (hl : LoadedUnblock o s₀ operation snapshot t scenario) (hc : v.Current t)
    (haction : v.action = .unblock) (hblank : ∀ p, (v.step p).Blank)
    {tasks accounting files : SC05PortalStep} (htasks : tasks.beforeState = [])
    (haccounting : accounting.beforeState = []) (hfiles : files.beforeState = []) :
    Solo text settings clean o s₀ pid v c
      (applySteps operation [(.tasks, tasks), (.accounting, accounting), (.files, files)])
      (Applied text clean operation scenario (ob .tasks) c₃ cx exact v) := by
  have hempty : ∀ {s : StepView}, s.Blank → s.before.isEmpty = true := fun h => by rw [h.1]; rfl
  have hfull : ∀ {s : StepView}, s.before ≠ [] → s.before.isEmpty = false :=
    fun h => List.isEmpty_eq_false_iff.2 h
  have hposition := hl.action
  refine solo_round hl hc htasks (hblank _) plan.tasks (fun v₁ hon₁ hcap₁ hst₁ => ?_) ?_ ?_
  -- the tasks have failed
  rotate_left
  · rintro v₁ c' x hon₁ hmay hx hst₁ hrow
    refine ⟨hon₁.along, .inr ⟨hmay.faulted, .inr ?_⟩⟩
    have hothers : ∀ p, p ≠ .tasks → (v₁.step p).before.isEmpty = true := fun p hp => by
      rw [hon₁.others p hp]; exact hempty (hblank p)
    have hcandidates := candidates_unblock (hon₁.action.trans haction)
    rcases hrow with ⟨rfl, hb⟩ | ⟨hrow, hcap⟩
    · refine ⟨.tasks, x, [], _, true, rfl, hx, ?_, List.nodup_nil, by simp, .nil,
        fun h => absurd rfl h⟩
      rw [hcandidates]
      simp [hothers .files (by decide), hothers .accounting (by decide), hempty hb]
    · have hne := plan.tasks.captured_ne hcap
      have hlist : v₁.candidates = [SC05Portal.tasks].map fun p => (p, v₁.step p) := by
        rw [hcandidates]
        simp [hothers .files (by decide), hothers .accounting (by decide), hfull hne.1]
      rcases hrow with rfl | rfl
      · exact ⟨.tasks, x, [.tasks], _, _, rfl, hx, hlist, by simp, by simp,
          .cons hne (plan.tasksBack.kept _ hcap) .nil, fun h => absurd rfl h⟩
      · exact ⟨.tasks, x, [.tasks], _, _, rfl, hx, hlist, by simp, by simp,
          .cons hne (plan.tasksBack.undone _ hcap) .nil, fun h => absurd rfl h⟩
  · rintro v₁ c' e hon₁ hmay he
    exact ⟨hon₁.along, .inr ⟨hmay.faulted, .inl ⟨e, rfl, he⟩⟩⟩
  have hblank₁ : ∀ p, p ≠ .tasks → (v₁.step p).Blank := fun p hp => by
    rw [hon₁.others p hp]; exact hblank p
  have hstatus₁ : (v₁.step .tasks).status ≠ .failed := by
    rcases hst₁ with h | h <;> rw [h] <;> decide
  have hne₁ := plan.tasks.captured_ne hcap₁
  refine solo_round hl (hon₁.current hc) haccounting (hblank₁ _ (by decide)) plan.accounting
    (fun v₂ hon₂ hcap₂ hst₂ => ?_) ?_ ?_
  -- the accounting portal has failed
  rotate_left
  · rintro v₂ c' x hon₂ hmay hx hst₂ hrow
    refine ⟨hon₁.along.trans hon₂.along, .inr ⟨hmay.faulted, .inr ?_⟩⟩
    have htasks₂ : v₂.step .tasks = v₁.step .tasks := hon₂.others _ (by decide)
    have hfiles₂ : (v₂.step .files).before.isEmpty = true := by
      rw [hon₂.others _ (by decide)]; exact hempty (hblank₁ _ (by decide))
    have hcandidates := candidates_unblock (hon₂.action.trans (hon₁.action.trans haction))
    have hcapt : (v₂.step .tasks).Captured (ob .tasks) (de .tasks) := by rw [htasks₂]; exact hcap₁
    have hnet := plan.tasks.captured_ne hcapt
    have hend : SC05Portal.accounting ≠ .tasks → ∀ ps : List SC05Portal, .tasks ∈ ps →
        .tasks ∈ ps ∧ cx = cx ∧ exact = exact ∧ (v₂.step .tasks).before = ob .tasks ∧
          (v₂.step .tasks).status ≠ .failed :=
      fun _ ps hps => ⟨hps, rfl, rfl, hcapt.1, by rw [htasks₂]; exact hstatus₁⟩
    have hunwind : Unwinding text scenario v₂.step [.tasks] c₁ cx exact := by
      have h := Unwinding.cons hnet (plan.tasksBack.undone _ hcapt) .nil
      rwa [Bool.and_true] at h
    rcases hrow with ⟨rfl, hb⟩ | ⟨hrow, hcap⟩
    · refine ⟨.accounting, x, [.tasks], cx, exact, rfl, hx, ?_, by simp, ?_, hunwind,
        fun h => hend h _ (by simp)⟩
      · rw [hcandidates]
        simp [hfiles₂, hempty hb, hfull hnet.1]
      · rw [hposition]; decide
    · have hne := plan.accounting.captured_ne hcap
      refine ⟨.accounting, x, [.accounting, .tasks], cx, exact, rfl, hx, ?_, by simp, ?_, ?_,
        fun h => hend h _ (by simp)⟩
      · rw [hcandidates]
        simp [hfiles₂, hfull hne.1, hfull hnet.1]
      · rw [hposition]; decide
      · rcases hrow with rfl | rfl
        · exact .cons hne (plan.accountingBack.kept _ hcap) hunwind
        · exact .cons hne (plan.accountingBack.undone _ hcap) hunwind
  · rintro v₂ c' e hon₂ hmay he
    exact ⟨hon₁.along.trans hon₂.along, .inr ⟨hmay.faulted, .inl ⟨e, rfl, he⟩⟩⟩
  refine solo_round hl (hon₂.current (hon₁.current hc)) hfiles
    (by rw [hon₂.others _ (by decide)]; exact hblank₁ _ (by decide)) plan.files
    (fun v₃ hon₃ hcap₃ hst₃ => ?_) ?_ ?_
  · exact Solo.ret ⟨hon₁.along.trans (hon₂.along.trans hon₃.along), .inl ⟨rfl, rfl⟩⟩
  -- the files have failed
  · rintro v₃ c' x hon₃ hmay hx hst₃ hrow
    refine ⟨hon₁.along.trans (hon₂.along.trans hon₃.along), .inr ⟨hmay.faulted, .inr ?_⟩⟩
    have htasks₃ : v₃.step .tasks = v₁.step .tasks :=
      (hon₃.others _ (by decide)).trans (hon₂.others _ (by decide))
    have hcandidates :=
      candidates_unblock (hon₃.action.trans (hon₂.action.trans (hon₁.action.trans haction)))
    have hcapt : (v₃.step .tasks).Captured (ob .tasks) (de .tasks) := by rw [htasks₃]; exact hcap₁
    have hnet := plan.tasks.captured_ne hcapt
    have hcapa : (v₃.step .accounting).Captured (ob .accounting) (de .accounting) := by
      rw [hon₃.others _ (by decide)]; exact hcap₂
    have hnea := plan.accounting.captured_ne hcapa
    have hend : SC05Portal.files ≠ .tasks → ∀ ps : List SC05Portal, .tasks ∈ ps →
        .tasks ∈ ps ∧ cx = cx ∧ exact = exact ∧ (v₃.step .tasks).before = ob .tasks ∧
          (v₃.step .tasks).status ≠ .failed :=
      fun _ ps hps => ⟨hps, rfl, rfl, hcapt.1, by rw [htasks₃]; exact hstatus₁⟩
    have hunwind : Unwinding text scenario v₃.step [.accounting, .tasks] c₂ cx exact := by
      have h := Unwinding.cons hnea (plan.accountingBack.undone _ hcapa)
        (.cons hnet (plan.tasksBack.undone _ hcapt) .nil)
      rwa [Bool.and_true, Bool.true_and] at h
    rcases hrow with ⟨rfl, hb⟩ | ⟨hrow, hcap⟩
    · refine ⟨.files, x, [.accounting, .tasks], cx, exact, rfl, hx, ?_, by simp, ?_, hunwind,
        fun h => hend h _ (by simp)⟩
      · rw [hcandidates]
        simp [hempty hb, hfull hnea.1, hfull hnet.1]
      · rw [hposition]; decide
    · have hne := plan.files.captured_ne hcap
      refine ⟨.files, x, [.files, .accounting, .tasks], cx, exact, rfl, hx, ?_, by simp, ?_, ?_,
        fun h => hend h _ (by simp)⟩
      · rw [hcandidates]
        simp [hfull hne.1, hfull hnea.1, hfull hnet.1]
      · rw [hposition]; decide
      · rcases hrow with rfl | rfl
        · exact .cons hne (plan.filesBack.kept _ hcap) hunwind
        · exact .cons hne (plan.filesBack.undone _ hcap) hunwind
  · rintro v₃ c' e hon₃ hmay he
    exact ⟨hon₁.along.trans (hon₂.along.trans hon₃.along), .inr ⟨hmay.faulted, .inl ⟨e, rfl, he⟩⟩⟩

end Failing

section Rows

theorem unblock_rows {rows : List (SC05Portal × SC05PortalStep)} {view : SC05Portal → StepView}
    (h : rows.map (fun x => (x.1, x.2.view)) = SC05Action.unblock.order.map fun p => (p, view p)) :
    ∃ tasks accounting files, rows = [(.tasks, tasks), (.accounting, accounting), (.files, files)] ∧
      tasks.view = view .tasks ∧ accounting.view = view .accounting ∧ files.view = view .files := by
  obtain ⟨⟨p₁, a⟩, rest, rfl, h₁, hrest⟩ := List.map_eq_cons_iff.1 h
  obtain ⟨⟨p₂, b⟩, rest', rfl, h₂, hrest'⟩ := List.map_eq_cons_iff.1 hrest
  obtain ⟨⟨p₃, d⟩, rest'', rfl, h₃, hnil⟩ := List.map_eq_cons_iff.1 hrest'
  simp only [Prod.mk.injEq] at h₁ h₂ h₃
  obtain ⟨rfl, h₁⟩ := h₁
  obtain ⟨rfl, h₂⟩ := h₂
  obtain ⟨rfl, h₃⟩ := h₃
  rw [List.map_eq_nil_iff.1 hnil]
  exact ⟨a, b, d, rfl, h₁, h₂, h₃⟩

end Rows

section Deliver

variable {operation : LoadedOperation} {snapshot : PortalState} {t : Option TaskId}
  {scenario : SC05Scenario} {ob de : SC05Portal → PortalState} {c₁ c₂ c₃ cx : SimulatorClient}
  {exact : Bool}

/-- How an unblock that runs alone ends: it has succeeded, or no portal after the tasks has failed, or
the compensation has taken the rows to `cx` and closed the run; `exact` says that it has restored the
tasks. -/
def Ended (clean : Prop) (scenario : SC05Scenario) (observed : PortalState)
    (c₃ cx : SimulatorClient) (exact : Bool) (v : SagaView) (c : SimulatorClient) : Prop :=
  (v.status = .succeeded ∧ failedPortals v.trace = [] ∧ c = c₃) ∨ Faulted clean scenario ∧
    ((∀ p ∈ failedPortals v.trace, p = .tasks) ∨
    (c = cx ∧ (v.step .tasks).before = observed ∧ ∃ pid client rest,
      v.trace = .failed pid .compensated v.status client :: rest ∧
      ((exact = true ∧ v.status = .failed ∧ client = .blocked ∧
          (v.step .tasks).status = .compensated) ∨
        (exact = false ∧ v.status = .partiallyFailed))))

/-- The saga of an unblock. -/
theorem solo_runSaga (plan : UndoPlan text o s₀ snapshot scenario ob de c c₁ c₂ c₃ cx exact)
    (hl : LoadedUnblock o s₀ operation snapshot t scenario) (hc : v.Current t)
    (haction : v.action = .unblock) (hblank : ∀ p, (v.step p).Blank)
    (htrace : failedPortals v.trace = []) :
    Solo text settings clean o s₀ pid v c (runSaga operation) fun r v' c' =>
      (Faulted clean scenario ∧ ∀ p ∈ failedPortals v'.trace, p = .tasks) ∨
        ((∃ a, r = .ok a) ∧ Ended clean scenario (ob .tasks) c₃ cx exact v' c') := by
  obtain rfl := hl.id
  have htoken := hl.token
  have hnone : ∀ p ∈ failedPortals v.trace, p = .tasks := by rw [htrace]; simp
  have hfault : ∀ {v' : SagaView}, ¬ Calm clean v' → Faulted clean scenario :=
    fun hno => .inl fun hclean => hno (.inl hclean)
  unfold runSaga
  refine Solo.fault_bind rfl rfl (fun _ _ _ h => h) (fun _ => ?_)
    fun hno _ _ => .inl ⟨hfault hno, hnone⟩
  refine Solo.fault_bind rfl rfl (fun _ _ _ h => h) (fun _ => ?_)
    fun hno _ _ => .inl ⟨hfault hno, hnone⟩
  refine Solo.db_bind rfl rfl (fun _ _ _ h => h) (fun rows hrows => ?_)
    fun hno _ _ => .inl ⟨hfault hno, hnone⟩
  rw [haction] at hrows
  obtain ⟨tasks, accounting, files, rfl, hv₁, hv₂, hv₃⟩ := unblock_rows hrows
  have hempty : ∀ {p : SC05Portal} {step : SC05PortalStep}, step.view = v.step p →
      step.beforeState = [] := by
    intro p step h
    rw [← (hblank p).1, ← h]; rfl
  refine Solo.bind (solo_applied plan hl hc haction hblank (hempty hv₁) (hempty hv₂) (hempty hv₃)) ?_ ?_
  swap
  · rintro e v' c' ⟨halong, ⟨h, -⟩ | ⟨hfaulted, -⟩⟩
    · cases h
    · exact .inl ⟨hfaulted, by rw [halong.failed]; exact hnone⟩
  rintro failure v' c' ⟨⟨hact, hstatus, htask, hfailed⟩, h⟩
  have hnone' : ∀ p ∈ failedPortals v'.trace, p = .tasks := by rw [hfailed]; exact hnone
  have hcur : v'.Current t := ⟨hstatus.trans hc.1, htask.trans hc.2⟩
  rcases h with ⟨h, rfl⟩ | ⟨hfaulted, ⟨e, h, -⟩ | ⟨failed, x, portals, cx', exact', h, hx, hcand,
    hnodup, hpos, hunwind, hlate⟩⟩
  · -- every step was applied: only the last two transactions are left
    cases h
    refine Solo.locked_bind rfl rfl (htoken ▸ hcur) (fun _ _ _ h => h) (fun _ _ => ?_)
      fun hno _ _ => .inl ⟨hfault hno, hnone'⟩
    refine Solo.call rfl rfl fun i r v'' hcalm he => ?_
    cases r with
    | error e =>
      obtain ⟨rfl, hfail⟩ := he
      exact .inl ⟨hfault fun hc => (DbFailure.foreign hfail).2 (hcalm hc), hnone'⟩
    | ok a =>
      rcases he with ⟨hno, -⟩ | ⟨-, rfl⟩
      · exact absurd (htoken ▸ hcur) hno
      · exact .inr ⟨⟨a, rfl⟩, .inl ⟨rfl, hfailed.trans htrace, rfl⟩⟩
  · cases h
  · cases h
    refine solo_fall hl hcur (hact.trans haction) (hx.2 x rfl) hcand hnodup hpos hunwind
      (fun hno _ _ => .inl ⟨hfault hno, hnone'⟩) fun v'' hfallen => ?_
    -- the tasks come first, so their failure leaves nothing to restore
    by_cases htasks : failed = .tasks
    · refine .inl ⟨hfaulted, ?_⟩
      rw [hfallen.failed, hfailed, htrace, htasks]
      simp
    obtain ⟨hmem, rfl, rfl, hbefore, hne⟩ := hlate htasks
    obtain ⟨pid', client, rest, htrace', hclose⟩ := hfallen.closed
    refine .inr ⟨⟨(), rfl⟩, .inr ⟨hfaulted, .inr ⟨rfl, (hfallen.before _).trans hbefore, pid', client,
      rest, htrace', ?_⟩⟩⟩
    rcases hclose with ⟨rfl, hs, hcl⟩ | ⟨hexact, hs⟩
    · exact .inl ⟨rfl, hs, hcl, hfallen.compensated rfl _ hmem hne⟩
    · exact .inr ⟨hexact, hs⟩

/-- The handlers add no compensation. -/
theorem solo_handleFailure (ho : operation.id = o) (e : SC05Exception)
    (h : ∀ p ∈ failedPortals v.trace, p = .tasks) :
    Solo text settings clean o s₀ pid v c (handleFailure operation e)
      fun _ v' _ => ∀ p ∈ failedPortals v'.trace, p = .tasks := by
  subst ho
  have hout : ∀ x, Solo text settings clean operation.id s₀ pid v c (failOutside operation x)
      fun _ v' _ => ∀ p ∈ failedPortals v'.trace, p = .tasks := by
    intro x
    unfold failOutside
    refine Solo.db_bind rfl rfl (fun _ _ _ h => h) (fun residual _ => ?_) fun _ _ _ => h
    refine Solo.call rfl rfl fun i r v' _ he => ?_
    cases r with
    | error e => obtain ⟨rfl, -⟩ := he; exact h
    | ok a =>
      rcases he with ⟨-, rfl⟩ | ⟨-, status, client, rfl, -⟩
      · exact h
      · exact h
  have hother : Solo text settings clean operation.id s₀ pid v c (do
      failOutside operation unexpectedWorkerError
      Prog.raise (.sc05 unexpectedWorkerError))
        fun (_ : Except SC05Exception Unit) v' _ => ∀ p ∈ failedPortals v'.trace, p = .tasks :=
    Solo.bind (hout _) (fun _ _ _ h => Solo.raise h) fun _ _ _ h => h
  cases e with
  | superseded => exact Solo.ret h
  | sc05 x => exact hout x
  | validation m => exact hother
  | other name => exact hother

/-- What follows the first transaction of the delivery. -/
theorem solo_execution (plan : UndoPlan text o s₀ snapshot scenario ob de c c₁ c₂ c₃ cx exact)
    (hl : LoadedUnblock o s₀ operation snapshot t scenario) (hc : v.Current t)
    (haction : v.action = .unblock) (hblank : ∀ p, (v.step p).Blank)
    (htrace : failedPortals v.trace = []) :
    Solo text settings clean o s₀ pid v c
      ((Prog.tryCatch (runSaga operation) (handleFailure operation)).bind fun _ =>
        Prog.call (SC05Label.summarize o none))
      fun _ v' c' => Ended clean scenario (ob .tasks) c₃ cx exact v' c' := by
  have hrun : Solo text settings clean o s₀ pid v c
      (Prog.tryCatch (runSaga operation) (handleFailure operation))
      fun _ v' c' => Ended clean scenario (ob .tasks) c₃ cx exact v' c' := by
    refine Solo.tryCatch (solo_runSaga plan hl hc haction hblank htrace) ?_ ?_
    · rintro a v' c' (⟨hfaulted, h⟩ | ⟨-, h⟩)
      · exact .inr ⟨hfaulted, .inl h⟩
      · exact h
    · rintro e v' c' (⟨hfaulted, h⟩ | ⟨⟨a, h⟩, -⟩)
      · exact (solo_handleFailure hl.id e h).mono fun _ _ _ h => .inr ⟨hfaulted, .inl h⟩
      · cases h
  refine Solo.bind hrun (fun a v' c' h => ?_) fun _ _ _ h => h
  exact Solo.of_bind (Solo.db_bind rfl rfl (fun _ _ _ h => h) (fun a _ => Solo.ret h)
    fun _ _ _ => h)

theorem solo_acknowledge {observed : PortalState} (h : Ended clean scenario observed c₃ cx exact v c) :
    Solo text settings clean o s₀ pid v c (Prog.call (SC05Label.acknowledge o))
      fun _ v' c' => Ended clean scenario observed c₃ cx exact v' c' := by
  refine Solo.call rfl rfl fun i r v' _ he => ?_
  obtain ⟨-, rfl⟩ := he
  split
  · exact h
  · exact h

end Deliver

section Requests

variable {snapshot : PortalState} {scenario : SC05Scenario} {ob de : SC05Portal → PortalState}
  {c₁ c₂ c₃ cx : SimulatorClient} {exact : Bool}

/-- An unblock that has been requested, for the rows `c` of its client. -/
structure Requested (o : OperationId) (s₀ : SC05State Simulator) (t : TaskId)
    (scenario : SC05Scenario) (c : SimulatorClient) : Prop where
  count : o < s₀.operationCount
  action : (s₀.operations o).action = .unblock
  scenario : executionScenario (s₀.operations o).scenario (s₀.operations o).resumeCount = scenario
  queued : (s₀.operations o).run.status = .queued
  token : (s₀.operations o).run.taskId = some t
  fresh : ∀ p, (s₀.step o p).view.Blank
  trace : s₀.traces o = []
  row : s₀.portals (s₀.clientReference o) = some c

/-- What the first transaction of a delivery makes of a queued operation. -/
structure Prepared (op : SC05Operation) (t : TaskId) (op' : SC05Operation) : Prop where
  status : op'.run.status = .running
  token : op'.run.taskId = some t
  action : op'.action = op.action
  scenario : op'.scenario = op.scenario
  resumeCount : op'.resumeCount = op.resumeCount
  client : op'.client = op.client
  steps : op'.steps = op.steps

theorem prepare_queued {op : SC05Operation} {t : TaskId} (hq : op.run.status = .queued)
    (ht : op.run.taskId = some t) (b : Bool) (now : ℕ) :
    ∃ op', op.prepare (.uuid t) b now = .execute op' ∧ Prepared op t op' := by
  have hmatch : op.run.deliveryMatches (.uuid t) = true := by
    simp [AutomationRun.deliveryMatches, tokenMatches, SuppliedTaskId.normalize, ht]
  have hbind : op.run.bindDelivery (.uuid t) = some { op.run with taskId := some t } := by
    simp [AutomationRun.bindDelivery, hmatch, ht]
  unfold SC05Operation.prepare
  rw [hbind]
  simp only [hq, RunStatus.isActive, Bool.not_true, Bool.false_eq_true, if_false]
  exact ⟨_, rfl, rfl, rfl, rfl, rfl, rfl, rfl, rfl⟩

theorem LoadedUnblock.of_prepared {t : TaskId} {op' : SC05Operation}
    (h : Requested o s₀ t scenario c) (hop' : Prepared (s₀.operations o) t op') :
    LoadedUnblock o s₀ ⟨o, op', s₀.clients (s₀.operations o).client⟩
      (s₀.clients (s₀.operations o).client).taskRestoreSnapshot (some t) scenario where
  id := rfl
  client := rfl
  action := hop'.action.trans h.action
  scenario := by
    show executionScenario op'.scenario op'.resumeCount = _
    rw [hop'.scenario, hop'.resumeCount]; exact h.scenario
  snapshot := rfl
  owner := hop'.client
  token := hop'.token

/-- **The delivery of a requested unblock** ends as its compensation says. -/
theorem deliver_ended {t : TaskId} {redelivered : Bool} (h : Requested o s₀ t scenario c)
    (plan : UndoPlan text o s₀ (s₀.clients (s₀.operations o).client).taskRestoreSnapshot scenario
      ob de c c₁ c₂ c₃ cx exact) :
    wp (solo (sc05System (simulatorPortal text) settings) (Admitted clean o)) pid
      (SC05Process.deliver o (.uuid t) redelivered).body
      (fun _ s' => ∃ v' c', Alone o s₀ v' c' s' ∧
        Ended clean scenario (ob .tasks) c₃ cx exact v' c') s₀ := by
  have hexec : wp (solo (sc05System (simulatorPortal text) settings) (Admitted clean o)) pid
      (executeSc05 o (.uuid t) redelivered)
      (fun _ s' => ∃ v' c', Alone o s₀ v' c' s' ∧
        Ended clean scenario (ob .tasks) c₃ cx exact v' c') s₀ := by
    unfold executeSc05
    refine wp_bind (wp_solo_call fun i hi => ?_)
    by_cases hdb : i.dbFails = true
    · have hsem : SC05State.sem (simulatorPortal text) settings pid
          (.prepareOperation o (.uuid t) redelivered) i s₀ =
            (.error (.other "OperationalError"), s₀) := by
        simp [SC05State.sem, transaction, hdb]
      rw [show (sc05System (simulatorPortal text) settings).sem pid
        (.prepareOperation o (.uuid t) redelivered) i s₀ = _ from hsem]
      refine ⟨sagaView o s₀, c, ⟨rfl, h.row, .refl .., ?_⟩, .inr ⟨.inl fun hclean => ?_, .inl ?_⟩⟩
      · intro _ _ _ _ rest hfailed
        rw [h.trace] at hfailed; cases hfailed
      · rw [(hi (.inl hclean)).1] at hdb; cases hdb
      · show ∀ p ∈ failedPortals (s₀.traces o), p = .tasks
        rw [h.trace]; simp [failedPortals]
    -- the first transaction takes the queued run
    obtain ⟨op', hprepare, hop'⟩ := prepare_queued h.queued h.token redelivered i.now
    set s₁ := ((s₀.setOperation o op').setWorker o (some pid)).record o (.started pid) with hs₁
    have hsem : SC05State.sem (simulatorPortal text) settings pid
        (.prepareOperation o (.uuid t) redelivered) i s₀ =
          (.ok ((op', s₀.clients (s₀.operations o).client), true), s₁) := by
      have hcount : ¬ s₀.operationCount ≤ o := Nat.not_le.2 h.count
      simp [SC05State.sem, transaction, hdb, SC05State.prepareOperation, hcount, hprepare, hs₁]
    have htouches := sem_touches (s := s₀) (simulatorPortal text) settings pid
      (.prepareOperation o (.uuid t) redelivered) i rfl
    rw [hsem] at htouches
    rw [show (sc05System (simulatorPortal text) settings).sem pid
      (.prepareOperation o (.uuid t) redelivered) i s₀ = _ from hsem]
    have hop : s₁.operations o = op' := by
      rw [hs₁]; exact Function.update_self ..
    have htrace : s₁.traces o = [.started pid] := by
      rw [hs₁]
      show Function.update s₀.traces o (.started pid :: s₀.traces o) o = _
      rw [Function.update_self, h.trace]
    refine solo_execution (v := sagaView o s₁) plan (LoadedUnblock.of_prepared h hop') ⟨?_, ?_⟩ ?_ ?_
      ?_ s₁ ⟨rfl, h.row, htouches, ?_⟩
    · show (s₁.operations o).run.status = _
      rw [hop]; exact hop'.status
    · show (s₁.operations o).run.taskId = _
      rw [hop]; exact hop'.token
    · show (s₁.operations o).action = _
      rw [hop, hop'.action]; exact h.action
    · intro p
      show (((s₁.operations o).steps p).view).Blank
      rw [hop, hop'.steps]; exact h.fresh p
    · show failedPortals (s₁.traces o) = []
      rw [htrace]; rfl
    · intro _ _ _ _ rest hfailed
      rw [htrace] at hfailed; cases (List.cons.inj hfailed).1
  refine wp_tryFinally (wp_bind (wp_mono ?_ hexec))
  have hack : ∀ s', (∃ v' c', Alone o s₀ v' c' s' ∧
      Ended clean scenario (ob .tasks) c₃ cx exact v' c') →
      wp (solo (sc05System (simulatorPortal text) settings) (Admitted clean o)) pid
        (Prog.call (SC05Label.acknowledge o))
        (fun _ s' => ∃ v' c', Alone o s₀ v' c' s' ∧
          Ended clean scenario (ob .tasks) c₃ cx exact v' c') s' := by
    rintro s' ⟨v', c', hs', hended⟩
    exact solo_acknowledge hended s' hs'
  rintro (e | a) s' hs'
  · exact wp_mono (fun r' s'' h => by cases r' <;> exact h) (hack s' hs')
  · refine (wp_ret () _ s').2 (wp_mono (fun r' s'' h => by cases r' <;> exact h) (hack s' hs'))

end Requests

end SheepContabil
