import SheepContabil.Proof.Sc05Outline

/-!
# The steps of an execution

What the worker knows after each program of the saga up to the loop over the steps.

* `invoke_triple`: one portal call, with its attempt, evidence and handlers.
* `applyStep_triple`: an apply call follows the execution's own inspection.
* `applySteps_triple`: the loop over the steps; it leaves every mutated portal but that of
  the failed step accounted for.
-/

namespace SheepContabil

open Conc Conc.Prog

variable {W ι : Type} {operation : LoadedOperation} {quiet careful : Prop} {pid : ℕ} {c : SagaCore}

section Invoke

theorem storeFailureScreenshot_triple (p : SC05Portal) (n : ℕ) (a : SC05AttemptOperation)
    (e : SC05Error) :
    Triple W ι operation.id quiet careful pid c (storeFailureScreenshot operation p n a e)
      fun r c' => c' = c ∧ r = .ok () := by
  unfold storeFailureScreenshot
  split
  · exact Triple.ret ⟨rfl, rfl⟩
  · refine Triple.tryCatch (R := fun _ c' => c' = c) ?_ (fun a c' h => ⟨h, rfl⟩) ?_
    · refine Triple.fault_bind rfl rfl (fun _ _ _ _ h => h) (fun stored => ?_) fun _ _ => rfl
      refine Triple.read_bind rfl rfl (fun _ _ _ _ h => h) (fun i v e h => ⟨_, h⟩) ?_ fun _ _ => rfl
      intro _ _ _ _
      exact Triple.read rfl rfl (fun _ _ _ _ h => h) (fun i v e h => refused_of_db h)
        (fun _ _ _ _ => rfl) fun _ _ => rfl
    · rintro e c' rfl; exact Triple.ret ⟨rfl, rfl⟩

/-- The handlers of `_invoke` raise an error of the portal, or stop with the execution. -/
theorem failInvocation_triple {α : Type} (p : SC05Portal) (n : ℕ) (a : SC05AttemptOperation)
    (ev : Option PortalEvidence) (e : SC05Exception) :
    Triple W ι operation.id quiet careful pid c (failInvocation operation p n a ev e : SC05Prog α)
      fun r c' => c' = c ∧
        ∃ e', r = .error e' ∧ ((∃ x, e' = .sc05 x) ∨ Stopped quiet careful c e') := by
  unfold failInvocation
  split
  · exact Triple.raise ⟨rfl, _, rfl, .inr (.inl rfl)⟩
  · rename_i x
    refine Triple.read_bind rfl rfl (fun _ _ _ _ h => h) (fun i v e h => ⟨_, h⟩) ?_
      fun e he => ⟨rfl, e, rfl, .inr he⟩
    intro _ _ _ _
    refine Triple.bind (storeFailureScreenshot_triple p n a x) ?_ (by rintro e c' ⟨-, h⟩; cases h)
    rintro _ c' ⟨rfl, -⟩
    refine Triple.read_bind rfl rfl (fun _ _ _ _ h => h) (fun i v e h => ⟨_, h⟩) ?_
      fun e he => ⟨rfl, e, rfl, .inr he⟩
    intro _ _ _ _
    refine Triple.read_bind rfl rfl (fun _ _ _ _ h => h) (fun i v e h => ⟨_, h⟩) ?_
      fun e he => ⟨rfl, e, rfl, .inr he⟩
    intro _ _ _ _
    exact Triple.raise ⟨rfl, _, rfl, .inl ⟨x, rfl⟩⟩
  · refine Triple.read_bind rfl rfl (fun _ _ _ _ h => h) (fun i v e h => ⟨_, h⟩) ?_
      fun e he => ⟨rfl, e, rfl, .inr he⟩
    intro _ _ _ _
    refine Triple.read_bind rfl rfl (fun _ _ _ _ h => h) (fun i v e h => ⟨_, h⟩) ?_
      fun e he => ⟨rfl, e, rfl, .inr he⟩
    intro _ _ _ _
    exact Triple.raise ⟨rfl, _, rfl, .inl ⟨_, rfl⟩⟩

/-- What is known before a `step.save` that writes neither captured state nor status. -/
theorem writePre_saveStep {p : SC05Portal} {u : StepUpdate} (hb : u.beforeState = none)
    (hd : u.desiredState = none) (hs : careful → ∀ st, u.status = some st → st ≠ .unchanged →
      dirty c.trace p = true → st.isResidual = true) (v : SagaView) :
    WritePre quiet careful pid (.saveStep operation.id p u) v c := by
  refine ⟨?_, ?_, hs⟩ <;> intro _ h
  · rw [hb] at h; cases h
  · rw [hd] at h; cases h

theorem saveStep_afterState (c : SagaCore) (p : SC05Portal) (st : PortalState) :
    c.saveStep p { afterState := some st } = c := by
  simp [SagaCore.saveStep]

theorem preserveEvidence_triple (p : SC05Portal) (n : ℕ) (a : SC05AttemptOperation)
    (ev : PortalEvidence) :
    Triple W ι operation.id quiet careful pid c (preserveEvidence operation p n a ev)
      fun _ c' => c' = c := by
  unfold preserveEvidence
  refine Triple.read_bind rfl rfl (fun _ _ _ _ h => h) (fun i v e h => ⟨_, h⟩) ?_ fun _ _ => rfl
  intro _ _ _ _
  refine Triple.bind (R := fun _ c' => c' = c) ?_ ?_ fun _ _ h => h
  · unfold saveAfterState
    split
    · exact Triple.ret rfl
    · refine Triple.saveStep (writePre_saveStep rfl rfl ?_) (fun _ => saveStep_afterState c p _)
        fun _ _ => rfl
      intro _ _ h; cases h
  rintro _ c' rfl
  refine Triple.fault_bind rfl rfl (fun _ _ _ _ h => h) (fun stored => ?_) fun _ _ => rfl
  refine Triple.read_bind rfl rfl (fun _ _ _ _ h => h) (fun i v e h => ⟨_, h⟩) ?_ fun _ _ => rfl
  intro _ _ _ _
  exact Triple.read rfl rfl (fun _ _ _ _ h => h) (fun i v e h => refused_of_db h)
    (fun _ _ _ _ => rfl) fun _ _ => rfl

/-- How `_invoke` ends: with the evidence of the call, with an error after the call, or stopped
with the execution, before or after the call. A call that changed the trace changed nothing
else. -/
def Invoked (quiet careful : Prop) (pid : ℕ) (c : SagaCore) (p : SC05Portal) (phase : Phase)
    (call : GatewayCall) (r : Except SC05Exception PortalEvidence) (c' : SagaCore) : Prop :=
  (c' = c ∧ ∃ e, r = .error e ∧ Stopped quiet careful c e) ∨
  ∃ outcome, c' = c.push (c.callEvent pid p phase call outcome) ∧ match r with
    | .ok ev => outcome = .returned ev
    | .error e => (∃ x, e = .sc05 x) ∨ Stopped quiet careful c' e

/-- `_invoke` makes one portal call. -/
theorem invoke_triple {p : SC05Portal} {a : SC05AttemptOperation} {st : PortalState} {phase : Phase}
    {call : GatewayCall}
    (hpre : ∀ v, WritePre quiet careful pid (.callPortal operation.id p
      { clientReference := operation.client.externalReference
        scenario := executionScenario operation.op.scenario operation.op.resumeCount
        phase := phase, call := call }) v c) :
    Triple W ι operation.id quiet careful pid c (invoke operation p a st phase call)
      (Invoked quiet careful pid c p phase call) := by
  unfold invoke
  refine Triple.read_bind rfl rfl (fun _ _ _ _ h => h) (fun i v e h => ⟨_, h⟩) ?_
    fun e he => .inl ⟨rfl, e, rfl, he⟩
  intro _ _ _ _
  refine Triple.read_bind rfl rfl (fun _ _ _ _ h => h) (fun i v e h => ⟨_, h⟩) ?_
    fun e he => .inl ⟨rfl, e, rfl, he⟩
  intro n _ _ _
  -- the call itself: its answer is what the portal has returned, its error is not looked at
  refine Triple.bind (R := fun r c' => ∃ r', r = .ok r' ∧ ∃ outcome,
      c' = c.push (c.callEvent pid p phase call outcome) ∧ ∀ ev, r' = .ok ev →
        outcome = .returned ev) ?_ ?_ (by rintro e c' ⟨_, h, -⟩; cases h)
  · refine Triple.attempt (Triple.callPortal hpre ?_ ?_)
    · intro ev; exact ⟨_, rfl, _, rfl, fun _ h => by cases h; rfl⟩
    · intro b f; exact ⟨_, rfl, _, rfl, fun _ h => by cases h⟩
  rintro r c' ⟨r', hr', outcome, rfl, hev⟩
  cases hr'
  cases r with
  | error e =>
    refine (failInvocation_triple p n a none e).mono ?_
    rintro r c' ⟨rfl, e', rfl, he'⟩
    exact .inr ⟨outcome, rfl, he'⟩
  | ok ev =>
    obtain rfl := hev ev rfl
    set c1 := c.push (c.callEvent pid p phase call (.returned ev))
    refine Triple.bind (R := fun r c' => c' = c1 ∧
        ∀ e, r = .error e → (∃ x, e = .sc05 x) ∨ Stopped quiet careful c1 e) ?_ ?_ ?_
    · refine Triple.tryCatch (preserveEvidence_triple p n a ev) ?_ ?_
      · intro _ c' h; exact ⟨h, fun _ h => by cases h⟩
      · rintro e c' rfl
        refine (failInvocation_triple p n a (some ev) e).mono ?_
        rintro r c' ⟨rfl, e', rfl, he'⟩
        exact ⟨rfl, fun _ h => by cases h; exact he'⟩
    · -- the delivery is checked once more, and the attempt is closed
      rintro _ c' ⟨rfl, -⟩
      refine Triple.read_bind rfl rfl (fun _ _ _ _ h => h) (fun i v e h => ⟨_, h⟩) ?_
        fun e he => .inr ⟨_, rfl, .inr he⟩
      intro _ _ _ _
      refine Triple.read_bind rfl rfl (fun _ _ _ _ h => h) (fun i v e h => ⟨_, h⟩) ?_
        fun e he => .inr ⟨_, rfl, .inr he⟩
      intro _ _ _ _
      exact Triple.ret (.inr ⟨_, rfl, rfl⟩)
    · rintro e c' ⟨rfl, he⟩
      exact .inr ⟨_, rfl, he e rfl⟩

end Invoke

section Accounting

variable {p : SC05Portal}

theorem dirty_push_call (c : SagaCore) (pid : ℕ) (p q : SC05Portal) (phase : Phase)
    (call : GatewayCall) (outcome : CallOutcome) :
    dirty (c.push (c.callEvent pid p phase call outcome)).trace q =
      if p = q then dirtyAfter call (c.before p) outcome (dirty c.trace q)
      else dirty c.trace q := rfl

/-- An inspection mutates nothing. -/
theorem dirty_of_inspect {phase : Phase} {outcome : CallOutcome} {q : SC05Portal}
    (h : dirty (c.push (c.callEvent pid p phase .inspect outcome)).trace q = true) :
    dirty c.trace q = true := by
  rw [dirty_push_call] at h
  split at h
  · cases outcome with
    | returned ev =>
      simp only [dirtyAfter, Bool.and_eq_true] at h
      exact h.1
    | failed b f => exact h
  · exact h

/-- A call keeps the accounts when it only inspects, or when the step says that the portal may be
mutated. -/
theorem accounted_call {phase : Phase} {call : GatewayCall} {outcome : CallOutcome}
    (hcall : call = .inspect ∨ (c.status p).isResidual = true) (h : c.Accounted) :
    (c.push (c.callEvent pid p phase call outcome)).Accounted := by
  intro q hq
  by_cases hqp : p = q
  · rcases hcall with rfl | hres
    · exact h q (dirty_of_inspect hq)
    · rw [← hqp]; exact hres
  · rw [dirty_push_call, if_neg hqp] at hq
    exact h q hq

/-- A saved step keeps the accounts when its status says what the trace says. -/
theorem accounted_saveStep {u : StepUpdate} (h : c.Accounted)
    (hst : ∀ st, u.status = some st → st.isResidual = true ∨ dirty c.trace p = false) :
    (c.saveStep p u).Accounted := by
  intro q hq
  have hq' : dirty c.trace q = true := hq
  by_cases hqp : q = p
  · subst hqp
    simp only [SagaCore.saveStep, Function.update_self]
    cases hu : u.status with
    | none => exact h q hq'
    | some st =>
      rcases hst st hu with hres | hclean
      · exact hres
      · rw [hclean] at hq'; cases hq'
  · simp only [SagaCore.saveStep, Function.update_of_ne hqp]
    exact h q hq'

theorem accounted_setStatus_running (h : c.Accounted) : (c.setStatus p .running).Accounted := by
  intro q hq
  by_cases hqp : q = p
  · subst hqp; simp [SagaCore.setStatus, SC05StepStatus.isResidual]
  · simp only [SagaCore.setStatus, Function.update_of_ne hqp]
    exact h q hq

end Accounting

/-- What a step leaves alone: the other steps, whether the execution compensates, and the accounts
of the mutated portals. -/
structure StepFrame (careful : Prop) (p : SC05Portal) (c c' : SagaCore) : Prop where
  action : c'.action = c.action
  before : ∀ q, q ≠ p → c'.before q = c.before q
  desired : ∀ q, q ≠ p → c'.desired q = c.desired q
  phase : phase? c'.trace = phase? c.trace
  shown : ∀ q, q ≠ p → shown c'.trace q = shown c.trace q
  accounted : careful → c.Accounted → c'.Accounted

namespace StepFrame

variable {p : SC05Portal} {c c' c'' : SagaCore}

theorem rfl : StepFrame careful p c c :=
  ⟨Eq.refl _, fun _ _ => Eq.refl _, fun _ _ => Eq.refl _, Eq.refl _, fun _ _ => Eq.refl _,
    fun _ h => h⟩

theorem trans (h : StepFrame careful p c c') (h' : StepFrame careful p c' c'') :
    StepFrame careful p c c'' :=
  ⟨h'.action.trans h.action, fun q hq => (h'.before q hq).trans (h.before q hq),
    fun q hq => (h'.desired q hq).trans (h.desired q hq), h'.phase.trans h.phase,
    fun q hq => (h'.shown q hq).trans (h.shown q hq), fun hc ha => h'.accounted hc (h.accounted hc ha)⟩

theorem saveStep (u : StepUpdate) (hst : careful → ∀ st, u.status = some st →
    st.isResidual = true ∨ dirty c.trace p = false) :
    StepFrame careful p c (c.saveStep p u) :=
  ⟨Eq.refl _, fun q hq => by simp [SagaCore.saveStep, hq],
    fun q hq => by simp [SagaCore.saveStep, hq], Eq.refl _, fun _ _ => Eq.refl _,
    fun hc ha => accounted_saveStep ha (hst hc)⟩

theorem running : StepFrame careful p c (c.setStatus p .running) :=
  ⟨Eq.refl _, fun _ _ => Eq.refl _, fun _ _ => Eq.refl _, Eq.refl _, fun _ _ => Eq.refl _,
    fun _ ha => accounted_setStatus_running ha⟩

theorem invoked {pid : ℕ} {phase : Phase} {gc : GatewayCall}
    {r : Except SC05Exception PortalEvidence} (h : Invoked quiet careful pid c p phase gc r c')
    (hcall : gc = .inspect ∨ (c.status p).isResidual = true) : StepFrame careful p c c' := by
  rcases h with ⟨rfl, -⟩ | ⟨outcome, rfl, -⟩
  · exact StepFrame.rfl
  · exact ⟨Eq.refl _, fun _ _ => Eq.refl _, fun _ _ => Eq.refl _, Eq.refl _,
      fun q hq => if_neg (Ne.symm hq), fun _ ha => accounted_call hcall ha⟩

end StepFrame

section Desired

theorem priorBlockState_ne {p : SC05Portal} {prior : Option PortalState} {d : PortalState}
    (h : priorBlockState p prior = .ok d) : d ≠ [] := by
  unfold priorBlockState priorBlockState.missing at h
  split at h
  · cases h
  · split at h
    · cases h
    · split at h
      · cases h; simp
      · cases h

theorem taskUnblockState_ne {snapshot observed d : PortalState}
    (h : taskUnblockState snapshot observed = .ok d) : d ≠ [] := by
  unfold taskUnblockState at h
  split at h
  · obtain ⟨restore, -, h⟩ := Py.bind_eq_ok.1 h
    obtain ⟨current, -, h⟩ := Py.bind_eq_ok.1 h
    split at h
    · cases h
    · obtain ⟨tasks, -, h⟩ := Py.bind_eq_ok.1 h
      cases h; simp
  · cases h

/-- A desired state is never empty. -/
theorem desiredState_ne {action : SC05Action} {p : SC05Portal} {snapshot observed d : PortalState}
    {prior : Option PortalState} (h : desiredState action p snapshot prior observed = .ok d) :
    d ≠ [] := by
  unfold desiredState at h
  split at h
  · exact taskUnblockState_ne h
  · split at h
    · cases h
    · obtain ⟨desired, -, h⟩ := Py.bind_eq_ok.1 h
      cases h; simp
  · cases h; simp
  · exact priorBlockState_ne h

/-- How the computation of a desired state ends: with a state, with an error of the portal, or
stopped with the execution. -/
def Desired (quiet careful : Prop) (c : SagaCore) (Q : PortalState → Prop)
    (r : Except SC05Exception PortalState) (c' : SagaCore) : Prop :=
  c' = c ∧ match r with
    | .ok d => Q d
    | .error e => (∃ x, e = .sc05 x) ∨ Stopped quiet careful c e

theorem ofExcept_triple {α : Type} {o : OperationId} (r : Except SC05Error α)
    {Q : Except SC05Exception α → SagaCore → Prop} (hok : ∀ a, r = .ok a → Q (.ok a) c)
    (herr : ∀ e, Q (.error (.sc05 e)) c) :
    Triple W ι o quiet careful pid c (ofExcept (Except.mapError SC05Exception.sc05 r)) Q := by
  cases r with
  | ok a => exact Triple.ret (hok a rfl)
  | error e => exact Triple.raise (herr e)

/-- A desired state for the observation `st`. -/
def DesiredFor (operation : LoadedOperation) (p : SC05Portal) (st d : PortalState) : Prop :=
  ∃ snapshot prior, desiredState operation.op.action p snapshot prior st = .ok d

theorem computeDesiredState_triple (p : SC05Portal) (st : PortalState) :
    Triple W ι operation.id quiet careful pid c (computeDesiredState operation p st)
      (Desired quiet careful c (DesiredFor operation p st)) := by
  have key : ∀ r : Except SC05Error PortalState, (∀ d, r = .ok d → DesiredFor operation p st d) →
      Triple W ι operation.id quiet careful pid c (ofExcept (Except.mapError SC05Exception.sc05 r))
        (Desired quiet careful c (DesiredFor operation p st)) := by
    intro r hr
    exact ofExcept_triple r (fun d hd => ⟨rfl, hr d hd⟩) fun e => ⟨rfl, .inl ⟨e, rfl⟩⟩
  unfold computeDesiredState
  split
  · exact key _ fun d hd => ⟨_, _, hd⟩
  · have ha := ‹operation.op.action = .block›
    exact key _ fun d hd => ⟨_, _, ha ▸ hd⟩
  · refine Triple.read_bind rfl rfl (fun _ _ _ _ h => h) (fun i v e h => refused_of_db h) ?_
      fun e he => ⟨rfl, .inr he⟩
    intro prior _ _ _
    have ha := ‹operation.op.action = .unblock›
    exact key _ fun d hd => ⟨_, _, ha ▸ hd⟩

theorem stepDesiredState_triple (p : SC05Portal) (step : SC05PortalStep) (st : PortalState) :
    Triple W ι operation.id quiet careful pid c (stepDesiredState operation p step st)
      (Desired quiet careful c fun d => d ≠ [] ∧
        (step.beforeState ≠ [] → step.desiredState ≠ [] → d = step.desiredState) ∧
        (step.beforeState = [] → DesiredFor operation p st d)) := by
  unfold stepDesiredState
  split
  · rename_i h
    simp only [Bool.and_eq_true, Bool.not_eq_eq_eq_not, Bool.not_true,
      List.isEmpty_eq_false_iff] at h
    exact Triple.ret ⟨rfl, h.2, fun _ _ => rfl, fun hb => absurd hb h.1⟩
  · rename_i h
    have hno : step.beforeState ≠ [] → step.desiredState ≠ [] → False := by
      intro h1 h2; apply h; simp [h1, h2]
    refine (computeDesiredState_triple p st).mono ?_
    rintro (e | d) c' ⟨rfl, hd⟩
    · exact ⟨rfl, hd⟩
    · obtain ⟨snapshot, prior, hd'⟩ := hd
      exact ⟨rfl, desiredState_ne hd', fun h1 h2 => (hno h1 h2).elim, fun _ => ⟨_, _, hd'⟩⟩

end Desired

section Apply

variable {p : SC05Portal} {step : SC05PortalStep}

theorem writePre_inspect_apply {request : GatewayRequest} (h : request.call = .inspect)
    (hp : request.phase = .apply) (hin : phase? c.trace = some .apply) (v : SagaView) :
    WritePre quiet careful pid (.callPortal operation.id p request) v c := by
  obtain ⟨_, _, _, _⟩ := request
  subst h hp
  exact ⟨fun _ => trivial, fun h => absurd rfl h, hin, (fun h => by cases h), fun _ h => by cases h⟩

/-- How a step ends: the portal has shown the desired state if it succeeds. -/
def StepEnd (careful : Prop) (p : SC05Portal) (c : SagaCore) (r : Except SC05Exception Unit)
    (c' : SagaCore) : Prop :=
  StepFrame careful p c c' ∧ ∀ u, r = .ok u → c'.Settled p

theorem StepEnd.error {c' : SagaCore} {e : SC05Exception} (h : StepFrame careful p c c') :
    StepEnd careful p c (.error e) c' := ⟨h, fun _ hr => by cases hr⟩

theorem finishUnchangedStep_triple (st : SC05StepStatus) (hset : c.Settled p) :
    Triple W ι operation.id quiet careful pid c (finishUnchangedStep operation p st)
      (StepEnd careful p c) := by
  unfold finishUnchangedStep
  refine Triple.bind (R := fun r c' => StepFrame careful p c c' ∧ c'.Settled p) ?_ ?_
    fun _ _ h => StepEnd.error h.1
  · refine Triple.saveStep (writePre_saveStep rfl rfl ?_) (fun hclean => ⟨?_, ?_⟩)
      fun _ _ => ⟨StepFrame.rfl, hset⟩
    · intro _ status hs hne _
      simp only [Option.some.injEq] at hs
      split at hs
      · subst hs; rfl
      · exact absurd hs.symm hne
    · refine StepFrame.saveStep _ fun hcareful status hs => ?_
      simp only [Option.some.injEq] at hs
      split at hs
      · subst hs; exact .inl rfl
      · rename_i hprior
        exact .inr (hclean hcareful (by simp [hprior]))
    · obtain ⟨shownState, hs, heq⟩ := hset
      exact ⟨shownState, hs, by simpa [SagaCore.saveStep] using heq⟩
  · rintro _ c' ⟨hf, hs⟩
    exact Triple.read rfl rfl (fun _ _ _ _ h => h) (fun i v e h => ⟨_, h⟩)
      (fun _ _ _ _ => ⟨hf, fun _ _ => hs⟩) fun _ _ => StepEnd.error hf

/-- The apply call follows the inspection that showed `observed`. -/
theorem applyChange_triple {st desired : PortalState} (observed captured : PortalState)
    (ha : operation.op.action = c.action)
    (hlast : AfterOwnInspect pid p .apply captured observed c.trace)
    (hd : c.desired p = desired) (hne : desired ≠ []) (hrun : c.status p = .running)
    (hin : phase? c.trace = some .apply) (hdiff : statesEqual observed desired = false)
    (hcap : captured = [] ∧ c.before p = observed ∨
      captured = c.before p ∧ statesEqual observed (c.before p) = true) :
    Triple W ι operation.id quiet careful pid c (applyChange operation p st desired)
      (StepEnd careful p c) := by
  have hres : (c.status p).isResidual = true := by rw [hrun]; rfl
  unfold applyChange
  refine Triple.bind (invoke_triple fun v => ?_) ?_
    fun e c' h => StepEnd.error (StepFrame.invoked h (.inr hres))
  · refine ⟨fun outcome => ⟨rfl, captured, observed, hlast, by rw [hd]; exact hdiff, hcap⟩, ?_, hin,
      (fun h => by cases h), fun action h => ?_⟩
    · intro _; rw [hd]; exact hne
    · cases h; exact ha
  intro ev c1 h1
  have f1 := StepFrame.invoked h1 (.inr hres)
  obtain ⟨hshown, hd1⟩ : shown c1.trace p = some ev.state ∧ c1.desired p = desired := by
    rcases h1 with ⟨-, e, he, -⟩ | ⟨outcome, rfl, ho⟩
    · cases he
    · simp only at ho; subst ho; exact ⟨if_pos rfl, hd⟩
  refine Triple.read_bind rfl rfl (fun _ _ _ _ h => h) (fun i v e h => ⟨_, h⟩) ?_
    fun _ _ => StepEnd.error f1
  intro _ _ _ _
  split
  · -- the portal does not show the desired state: the step fails
    refine Triple.bind (R := fun _ c' => StepFrame careful p c c') ?_
      (fun _ _ h => Triple.raise (StepEnd.error h)) fun _ _ h => StepEnd.error h
    refine Triple.saveStep (writePre_saveStep rfl rfl ?_) (fun _ => f1.trans ?_) fun _ _ => f1
    · intro _ _ h; cases h
    · exact StepFrame.saveStep _ fun _ _ h => by cases h
  · rename_i heq
    refine Triple.bind (R := fun r c' => StepEnd careful p c r c') ?_ ?_ fun _ _ h => StepEnd.error h.1
    · refine Triple.saveStep (writePre_saveStep rfl rfl ?_) (fun _ => ⟨f1.trans ?_, fun _ _ => ?_⟩)
        fun _ _ => StepEnd.error f1
      · intro _ _ h _ _; cases h; rfl
      · exact StepFrame.saveStep _ fun _ _ h => by cases h; exact .inl rfl
      · refine ⟨ev.state, hshown, ?_⟩
        simpa [SagaCore.saveStep, hd1] using heq
    · intro u c' h
      exact Triple.read rfl rfl (fun _ _ _ _ h => h) (fun i v e h => ⟨_, h⟩)
        (fun _ _ _ _ => ⟨h.1, fun _ _ => h.2 u rfl⟩) fun _ _ => StepEnd.error h.1

/-- The update of `_apply_step` that stores what was observed. -/
def captureUpdate (step : SC05PortalStep) (observed desired : PortalState) : StepUpdate :=
  { beforeState := some (step.captured observed), desiredState := some desired
    afterState := some observed }

/-- Once the states are stored, a step that has to change the portal does so. -/
theorem settleStep_triple {observed desired : PortalState}
    (ha : operation.op.action = c.action)
    (hlast : AfterOwnInspect pid p .apply step.beforeState observed c.trace)
    (hshown : shown c.trace p = some observed)
    (hb : c.before p = step.captured observed) (hd : c.desired p = desired) (hne : desired ≠ [])
    (hrun : c.status p = .running) (hin : phase? c.trace = some .apply) :
    Triple W ι operation.id quiet careful pid c (settleStep operation p step observed desired)
      (StepEnd careful p c) := by
  unfold settleStep
  split
  · exact Triple.raise (StepEnd.error StepFrame.rfl)
  rename_i hconflict
  split
  · rename_i heq
    exact finishUnchangedStep_triple _ ⟨observed, hshown, by rw [hd]; exact heq⟩
  rename_i hdiff
  refine applyChange_triple observed step.beforeState ha hlast hd hne hrun hin (by simpa using hdiff) ?_
  rw [hb]
  by_cases hempty : step.beforeState = []
  · exact .inl ⟨hempty, by simp [SC05PortalStep.captured, hempty]⟩
  · have hcap : step.captured observed = step.beforeState := by
      simp [SC05PortalStep.captured, hempty]
    refine .inr ⟨hcap.symm, ?_⟩
    by_contra hno
    have hno' : statesEqual observed (step.captured observed) = false := by simpa using hno
    have hdiff' : statesEqual observed desired = false := by simpa using hdiff
    exact hconflict (by simp [hempty, hno', hdiff'])

/-- **A step applies only what it has just inspected**, and leaves the others alone. -/
theorem applyStep_triple (ha : operation.op.action = c.action) (hb : step.beforeState = c.before p)
    (hd : step.desiredState = c.desired p) (hin : phase? c.trace = some .apply) :
    Triple W ι operation.id quiet careful pid c (applyStep operation p step)
      (StepEnd careful p c) := by
  unfold applyStep
  refine Triple.setStatus_bind rfl (fun _ => trivial) (fun _ _ _ _ h => h) (fun _ => ?_)
    fun _ _ => StepEnd.error StepFrame.rfl
  set c0 := c.setStatus p .running with hc0
  have f0 : StepFrame careful p c c0 := StepFrame.running
  refine Triple.selectGateway_bind ?_ fun _ _ _ => StepEnd.error f0
  refine Triple.bind (invoke_triple (writePre_inspect_apply rfl rfl hin)) ?_
    fun e c' h => StepEnd.error (f0.trans (StepFrame.invoked h (.inl rfl)))
  -- the inspection: its answer is what the trace shows of the portal
  intro ev c' h1
  have f1 : StepFrame careful p c c' := f0.trans (StepFrame.invoked h1 (.inl rfl))
  obtain ⟨c1, hc1, rfl⟩ : ∃ c1, c1 = c0.push (c0.callEvent pid p .apply .inspect (.returned ev)) ∧
      c' = c1 := by
    rcases h1 with ⟨-, e, he, -⟩ | ⟨outcome, rfl, ho⟩
    · cases he
    · simp only at ho; subst ho; exact ⟨_, rfl, rfl⟩
  have hlast : AfterOwnInspect pid p .apply step.beforeState ev.state c'.trace := by
    rw [hc1, hb]; exact ⟨rfl, rfl, rfl, rfl, rfl⟩
  have hshown : shown c'.trace p = some ev.state := by rw [hc1]; exact if_pos rfl
  have hb1 : c'.before p = step.beforeState := by rw [hc1, hb]; rfl
  have hd1 : c'.desired p = step.desiredState := by rw [hc1, hd]; rfl
  have hrun : c'.status p = .running := by rw [hc1]; exact Function.update_self ..
  refine Triple.read_bind rfl rfl (fun _ _ _ _ h => h) (fun i v e h => ⟨_, h⟩) ?_
    fun _ _ => StepEnd.error f1
  intro _ _ _ _
  refine Triple.bind (R := fun _ c'' => c'' = c') ?_ ?_ (by rintro e c'' rfl; exact StepEnd.error f1)
  · unfold checkFirstObservation
    split
    · exact ofExcept_triple _ (fun _ _ => rfl) fun _ => rfl
    · exact Triple.ret rfl
  rintro _ c'' rfl
  refine Triple.bind (stepDesiredState_triple p step ev.state) ?_
    (by rintro e c' ⟨rfl, -⟩; exact StepEnd.error f1)
  -- the capture is written once: a state captured before is kept
  rintro desired c' ⟨rfl, hne, hsame, hfresh⟩
  set u := captureUpdate step ev.state desired with hu
  have f2 : StepFrame careful p c' (c'.saveStep p u) := StepFrame.saveStep u fun _ _ h => by cases h
  refine Triple.bind (R := fun r c'' => (c'' = c'.saveStep p u ∧ r = .ok ()) ∨
    (c'' = c' ∧ ∃ e, r = .error e)) ?_ ?_ ?_
  · refine Triple.saveStep (fun v => ⟨?_, ?_, fun _ _ h => by cases h⟩) (fun _ => .inl ⟨rfl, rfl⟩)
      fun e _ => .inr ⟨rfl, e, rfl⟩
    · intro b hbs
      simp only [Option.some.injEq] at hbs
      refine ⟨desired, rfl, fun hbne => ?_, fun hbe => ?_⟩
      · rw [hb1] at hbne ⊢
        rw [← hbs]
        simp [SC05PortalStep.captured, hbne]
      · rw [hb1] at hbe
        obtain rfl : ev.state = b := by rw [← hbs]; simp [SC05PortalStep.captured, hbe]
        obtain ⟨snapshot, prior, hdes⟩ := hfresh hbe
        refine ⟨hshown, snapshot, prior, ?_⟩
        rw [f1.action, ← ha]; exact hdes
    · intro d hds
      simp only [Option.some.injEq] at hds
      subst hds
      refine ⟨by simp, hne, fun hbne hdne => ?_⟩
      rw [hb1] at hbne; rw [hd1] at hdne ⊢
      exact hsame hbne hdne
  · rintro _ c'' (⟨rfl, -⟩ | ⟨-, e, he⟩)
    swap; · cases he
    refine (settleStep_triple (c := c'.saveStep p u) (ha.trans (f1.trans f2).action.symm) hlast
      hshown ?_ ?_ hne ?_
      ((f1.trans f2).phase.trans hin)).mono fun _ _ h => ⟨(f1.trans f2).trans h.1, h.2⟩
    · simp [SagaCore.saveStep, hu, captureUpdate]
    · simp [SagaCore.saveStep, hu, captureUpdate]
    · simpa [SagaCore.saveStep, hu, captureUpdate] using hrun
  · rintro e c'' (⟨-, he⟩ | ⟨rfl, -⟩)
    · cases he
    · exact StepEnd.error f1

/-- The rows of a list show the captured states of the core. -/
def RowsOf (c : SagaCore) (rows : List (SC05Portal × SC05PortalStep)) : Prop :=
  ∀ x ∈ rows, x.2.beforeState = c.before x.1 ∧ x.2.desiredState = c.desired x.1

/-- Every mutated portal but that of the failed step is accounted for. -/
def SagaCore.AccountedBut (c : SagaCore) (p : SC05Portal) : Prop :=
  ∀ q, q ≠ p → dirty c.trace q = true → (c.status q).isResidual = true

/-- What ends an execution outside its steps. -/
def Aborted (quiet careful : Prop) (c : SagaCore) (e : SC05Exception) : Prop :=
  e = .superseded ∨ (Foreign e ∧ MayAbort quiet careful c)

theorem Stopped.aborted {e : SC05Exception} (h : Stopped quiet careful c e) :
    Aborted quiet careful c e := by
  refine h.imp_right ?_
  rintro ⟨⟨name, rfl⟩, hm⟩
  exact ⟨⟨by simp, by rintro x ⟨⟩⟩, hm⟩

/-- How the loop over the steps ends: it never compensates, and when it gets to its end every
portal has shown its desired state. -/
def StepsEnd (quiet careful : Prop) (rows : List (SC05Portal × SC05PortalStep)) (c : SagaCore)
    (r : Except SC05Exception (Option (SC05Portal × SC05Error))) (c' : SagaCore) : Prop :=
  c'.action = c.action ∧ phase? c'.trace = some .apply ∧ match r with
    | .ok none => ∀ q, q ∈ rows.map Prod.fst ∨ c.Settled q → c'.Settled q
    | .ok (some (p, _)) => careful → c'.AccountedBut p
    | .error e => Aborted quiet careful c' e

/-- The loop over the steps. -/
theorem applySteps_triple : ∀ (rows : List (SC05Portal × SC05PortalStep)) (c : SagaCore),
    operation.op.action = c.action → (rows.map Prod.fst).Nodup → RowsOf c rows →
      phase? c.trace = some .apply → (careful → c.Accounted) →
      Triple W ι operation.id quiet careful pid c (applySteps operation rows)
        (StepsEnd quiet careful rows c)
  | [], c, _, _, _, hin, _ => Triple.ret ⟨rfl, hin, fun q hq => hq.resolve_left (by simp)⟩
  | (p, step) :: rest, c, ha, hnodup, hrows, hin, hacc => by
    unfold applySteps
    refine Triple.read_bind rfl rfl (fun _ _ _ _ h => h) (fun i v e h => ⟨_, h⟩) ?_
      fun _ h => ⟨rfl, hin, h.aborted⟩
    intro _ _ _ _
    refine Triple.read_bind rfl rfl (fun _ _ _ _ h => h) (fun i v e h => refused_of_db h) ?_
      fun _ h => ⟨rfl, hin, h.aborted⟩
    intro _ _ _ _
    obtain ⟨hb, hd⟩ := hrows (p, step) List.mem_cons_self
    refine Triple.bind (R := fun r c' => ∃ r', r = .ok r' ∧ StepEnd careful p c r' c')
      (Triple.attempt ((applyStep_triple ha hb hd hin).mono fun r _ h => ⟨r, rfl, h⟩))
      ?_ (by rintro e c' ⟨_, h, -⟩; cases h)
    rintro r c1 ⟨r', hr', h1, hset⟩
    cases hr'
    have hin1 : phase? c1.trace = some .apply := by rw [h1.phase]; exact hin
    have hacc1 : careful → c1.Accounted := fun h => h1.accounted h (hacc h)
    split
    · simp only [List.map_cons, List.nodup_cons] at hnodup
      have hrest : RowsOf c1 rest := by
        intro x hx
        have hne : x.1 ≠ p := by
          rintro rfl; exact hnodup.1 (List.mem_map_of_mem hx)
        rw [h1.before _ hne, h1.desired _ hne]
        exact hrows x (List.mem_cons_of_mem _ hx)
      -- the step that is done stays settled while the others are applied
      have hkeep : ∀ q, q ∈ ((p, step) :: rest).map Prod.fst ∨ c.Settled q →
          q ∈ rest.map Prod.fst ∨ c1.Settled q := by
        intro q hq
        by_cases hqp : q = p
        · subst hqp; exact .inr (hset () rfl)
        · simp only [List.map_cons, List.mem_cons, hqp, false_or] at hq
          refine hq.imp_right ?_
          rintro ⟨st, hs, heq⟩
          exact ⟨st, (h1.shown q hqp).trans hs, by rw [h1.desired q hqp]; exact heq⟩
      refine (applySteps_triple rest c1 (ha.trans h1.action.symm) hnodup.2 hrest hin1 hacc1).mono ?_
      rintro (e | _ | failure) c' ⟨ha', hin', h⟩
      · exact ⟨ha'.trans h1.action, hin', h⟩
      · exact ⟨ha'.trans h1.action, hin', fun q hq => h q (hkeep q hq)⟩
      · exact ⟨ha'.trans h1.action, hin', h⟩
    · refine Triple.setStatus_bind rfl (fun _ => trivial) (fun _ _ _ _ h => h) (fun _ => ?_)
        fun _ h => ⟨h1.action, hin1, h.aborted⟩
      refine Triple.ret ⟨h1.action, hin1, fun hcareful q hq hdirty => ?_⟩
      simp only [SagaCore.setStatus, Function.update_of_ne hq]
      exact hacc1 hcareful q hdirty
    · rename_i e he
      refine Triple.raise ⟨h1.action, hin1, ?_⟩
      by_cases hsup : e = .superseded
      · exact .inl hsup
      · exact .inr ⟨⟨hsup, fun x hx => absurd hx (he x)⟩,
          fun _ => by simp [inCompensation, hin1], hacc1⟩

end Apply

end SheepContabil
