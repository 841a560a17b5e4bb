import SheepContabil.Proof.Sc05Alone

/-!
# The steps of an unblock that runs alone

What a step does is stated in the rows of the client: the portal shows what the step
asks for, or its form leaves that (`Undoing`). A step may fail when something else does,
or when the scenario of the operation says so (`MayFail`).

* `SagaView.Onto`: only one step, and the calls made, have changed.
* `solo_applyStep`, `solo_round`: one step, and one round of the loop over them.
-/

namespace SheepContabil

open Conc Conc.Prog

variable {text : String → String} {settings : Settings} {clean : Prop} {o : OperationId}
  {s₀ : SC05State Simulator} {pid : ℕ} {v : SagaView} {c : SimulatorClient} {α : Type}

section Onto

/-- Only the step of `p`, and the calls that have been made, differ from `v`. -/
structure SagaView.Onto (p : SC05Portal) (v v' : SagaView) : Prop where
  action : v'.action = v.action
  status : v'.status = v.status
  taskId : v'.taskId = v.taskId
  others : ∀ q, q ≠ p → v'.step q = v.step q
  compensation : inCompensation v'.trace = inCompensation v.trace
  failed : failedPortals v'.trace = failedPortals v.trace

namespace SagaView.Onto

variable {p : SC05Portal} {v v' v'' : SagaView}

theorem refl : Onto p v v := ⟨rfl, rfl, rfl, fun _ _ => rfl, rfl, rfl⟩

theorem trans (h : Onto p v v') (h' : Onto p v' v'') : Onto p v v'' :=
  ⟨h'.action.trans h.action, h'.status.trans h.status, h'.taskId.trans h.taskId,
    fun q hq => (h'.others q hq).trans (h.others q hq), h'.compensation.trans h.compensation,
    h'.failed.trans h.failed⟩

theorem setStep (st : StepView) : Onto p v (v.setStep p st) :=
  ⟨rfl, rfl, rfl, fun _ hq => Function.update_of_ne hq .., rfl, rfl⟩

theorem current {t : Option TaskId} (h : Onto p v v') (hc : v.Current t) : v'.Current t :=
  ⟨h.status.trans hc.1, h.taskId.trans hc.2⟩

theorem calm {clean : Prop} (h : Onto p v v') : Calm clean v' ↔ Calm clean v := by
  unfold Calm; rw [h.compensation]

end SagaView.Onto

/-- What touches no step. -/
theorem SagaView.Onto.step_eq {v v' : SagaView} (h : ∀ p, SagaView.Onto p v v') (p : SC05Portal) :
    v'.step p = v.step p := by
  obtain ⟨q, hq⟩ : ∃ q : SC05Portal, p ≠ q := by
    cases p
    · exact ⟨.tasks, by decide⟩
    · exact ⟨.tasks, by decide⟩
    · exact ⟨.files, by decide⟩
  exact (h q).others p hq

theorem onto_callPush {p q : SC05Portal} {phase : Phase} {call : GatewayCall} {outcome : CallOutcome} :
    SagaView.Onto p v (v.callPush pid q phase call outcome) :=
  ⟨rfl, rfl, rfl, fun _ _ => rfl, rfl, rfl⟩

end Onto

section Steps

variable {operation : LoadedOperation} {c' : SimulatorClient}

theorem latestBlock_congr {s : SC05State Simulator} (h : Touches o s₀ s) (client : ClientId)
    (p : SC05Portal) : ∀ n, n ≤ o → s.latestBlock client p n = s₀.latestBlock client p n := by
  intro n
  induction n with
  | zero => intro _; rfl
  | succ n ih =>
    intro hn
    simp only [SC05State.latestBlock]
    rw [h.operations n (Nat.ne_of_lt hn), ih (Nat.le_of_succ_le hn)]

/-- The query of the latest block looks at earlier operations only. -/
theorem Solo.priorStep_bind {Q : Except SC05Exception α → SagaView → SimulatorClient → Prop}
    {client : ClientId} {p : SC05Portal} {k : Option PortalState → SC05Prog α}
    (hok : Solo text settings clean o s₀ pid v c (k (s₀.latestBlock client p o)) Q)
    (herr : ¬ Calm clean v → ∀ e, Foreign e → Q (.error e) v c) :
    Solo text settings clean o s₀ pid v c ((Prog.call (SC05Label.priorStep o client p)).bind k) Q := by
  refine Solo.bind (R := fun r v' c' => v' = v ∧ c' = c ∧
    (r = .ok (s₀.latestBlock client p o) ∨ ¬ Calm clean v ∧ ∃ e, r = .error e ∧ Foreign e)) ?_ ?_ ?_
  · intro s hs
    refine wp_solo_call fun i hi => ?_
    by_cases hdb : i.dbFails = true
    · have hsem : SC05State.sem (simulatorPortal text) settings pid (.priorStep o client p) i s =
          (.error (.other "OperationalError"), s) := by
        simp [SC05State.sem, transaction, hdb]
      refine ⟨v, c, ?_, rfl, rfl, .inr ⟨fun hcalm => ?_, _, ?_, foreign_other "OperationalError"⟩⟩
      · show Alone o s₀ v c (SC05State.sem (simulatorPortal text) settings pid _ i s).2
        rw [hsem]; exact hs
      · rw [← hs.view] at hcalm
        rw [(hi hcalm).1] at hdb; cases hdb
      · show (SC05State.sem (simulatorPortal text) settings pid _ i s).1 = _
        rw [hsem]
    · have hsem : SC05State.sem (simulatorPortal text) settings pid (.priorStep o client p) i s =
          (.ok (s.latestBlock client p o), s) := by
        simp [SC05State.sem, transaction, hdb]
      refine ⟨v, c, ?_, rfl, rfl, .inl ?_⟩
      · show Alone o s₀ v c (SC05State.sem (simulatorPortal text) settings pid _ i s).2
        rw [hsem]; exact hs
      · show (SC05State.sem (simulatorPortal text) settings pid _ i s).1 = _
        rw [hsem]
        exact congrArg Except.ok (latestBlock_congr hs.touches client p o le_rfl)
  · rintro a v' c' ⟨rfl, rfl, ha | ⟨-, e, he, -⟩⟩
    · cases ha
      exact hok
    · cases he
  · rintro e v' c' ⟨rfl, rfl, h | ⟨hno, e', he, hforeign⟩⟩
    · cases h
    · cases he
      exact herr hno e hforeign

/-- An unblock in the memory of its worker. -/
structure LoadedUnblock (o : OperationId) (s₀ : SC05State Simulator) (operation : LoadedOperation)
    (snapshot : PortalState) (t : Option TaskId) (scenario : SC05Scenario) : Prop
    extends Loaded o s₀ operation where
  action : operation.op.action = .unblock
  scenario : executionScenario operation.op.scenario operation.op.resumeCount = scenario
  snapshot : operation.client.taskRestoreSnapshot = snapshot
  owner : operation.op.client = (s₀.operations o).client
  token : operation.op.run.taskId = t

/-- The captured state of the latest block of the client. -/
def priorOf (o : OperationId) (s₀ : SC05State Simulator) (p : SC05Portal) : Option PortalState :=
  s₀.latestBlock (s₀.operations o).client p o

/-- One step of an unblock: the portal shows what the step asks for, or its form leaves that. -/
structure Undoing (text : String → String) (snapshot : PortalState) (prior : Option PortalState)
    (p : SC05Portal) (c c' : SimulatorClient) (observed desired : PortalState) : Prop where
  read : readState text p (some c) = .ok observed
  asked : desiredState .unblock p snapshot prior observed = .ok desired
  leaves : (statesEqual observed desired = true ∧ c' = c) ∨
    (statesEqual observed desired = false ∧ c' = c.submitted p .unblock ∧
      (∀ scenario, scenarioFault p scenario .apply = none →
        submit p .unblock scenario .apply (some c) = .ok c') ∧
      ∃ st, readState text p (some c') = .ok st ∧ statesEqual st desired = true)

variable {snapshot observed desired : PortalState} {t : Option TaskId} {scenario : SC05Scenario}
  {p : SC05Portal}

/-- A call that only reads ends with what it has read, or fails. -/
def Inspected (clean : Prop) (observed : PortalState) (v : SagaView) (c : SimulatorClient)
    (r : Except SC05Exception PortalEvidence) (v' : SagaView) (c' : SimulatorClient) : Prop :=
  (∀ q, SagaView.Onto q v v') ∧ c' = c ∧
    (r = .ok { state := observed } ∨ ∃ e, r = .error e ∧ Foreign e ∧ ¬ Calm clean v)

theorem solo_inspect (hl : Loaded o s₀ operation) (hc : v.Current operation.op.run.taskId)
    (p : SC05Portal) (st : PortalState) (phase : Phase)
    (hread : readState text p (some c) = .ok observed) :
    Solo text settings clean o s₀ pid v c (invoke operation p .inspect st phase .inspect)
      (Inspected clean observed v c) := by
  refine (solo_invoke hl hc p _ _ _ _).mono ?_
  rintro r v' c' (⟨rfl, rfl, hno, e, rfl, he⟩ | ⟨outcome, rfl, hans, hr⟩)
  · exact ⟨fun _ => .refl, rfl, .inr ⟨e, rfl, he, hno⟩⟩
  · obtain ⟨rfl, hret, hcalm⟩ := answers_inspect rfl hread hans
    refine ⟨fun _ => onto_callPush, rfl, ?_⟩
    rcases hr with ⟨evidence, rfl, rfl⟩ | ⟨e, rfl, he, hfail⟩
    · exact .inl (by rw [hret evidence rfl])
    · refine .inr ⟨e, rfl, he, fun hc => ?_⟩
      obtain ⟨-, b, f, hfailed⟩ := hfail hc
      obtain ⟨evidence, hreturned⟩ := hcalm hc
      rw [hfailed] at hreturned; cases hreturned

/-- A step that has captured nothing, or these states. -/
def StepView.Blank (s : StepView) : Prop := s.before = [] ∧ s.desired = []

def StepView.Captured (s : StepView) (observed desired : PortalState) : Prop :=
  s.before = observed ∧ s.desired = desired

/-- Why a step may fail: something else does, or the scenario says so. -/
def MayFail (clean : Prop) (scenario : SC05Scenario) (p : SC05Portal) (v : SagaView) : Prop :=
  ¬ Calm clean v ∨ scenarioFault p scenario .apply ≠ none

/-- How the step of `p` ends, from a view in which it has not begun. -/
def Stepped (clean : Prop) (scenario : SC05Scenario) (p : SC05Portal) (c c' : SimulatorClient)
    (observed desired : PortalState) (v : SagaView) (r : Except SC05Exception Unit) (v' : SagaView)
    (c'' : SimulatorClient) : Prop :=
  SagaView.Onto p v v' ∧
  ((r = .ok () ∧ c'' = c' ∧ (v'.step p).Captured observed desired ∧
      ((v'.step p).status = .applied ∨ (v'.step p).status = .unchanged)) ∨
    ∃ e, r = .error e ∧ Foreign e ∧ MayFail clean scenario p v ∧
      ((c'' = c ∧ (v'.step p).Blank) ∨
        ((c'' = c ∨ c'' = c') ∧ (v'.step p).Captured observed desired)))

theorem solo_recordStepFinished {Q : Except SC05Exception Unit → SagaView → SimulatorClient → Prop}
    (ho : operation.id = o) (hc : v.Current operation.op.run.taskId) (hok : Q (.ok ()) v c)
    (herr : ¬ Calm clean v → ∀ e, Foreign e → Q (.error e) v c) :
    Solo text settings clean o s₀ pid v c
      (Prog.call (SC05Label.recordStepFinished operation.id operation.op.run.taskId)) Q := by
  subst ho
  exact Solo.of_bind (Solo.locked_bind rfl rfl hc (fun _ _ _ h => h)
    (fun _ _ => Solo.ret hok) herr)

theorem saveStep_step (v : SagaView) (p : SC05Portal) (u : StepUpdate) :
    (v.saveStep p u).step p =
      { status := u.status.getD (v.step p).status
        before := u.beforeState.getD (v.step p).before
        desired := u.desiredState.getD (v.step p).desired } := Function.update_self ..

theorem setStatus_step (v : SagaView) (p : SC05Portal) (st : SC05StepStatus) :
    (v.setStatus p st).step p = { v.step p with status := st } := Function.update_self ..

/-- The end of a step, once its states are captured. -/
theorem solo_settleStep {v₀ : SagaView} (hl : LoadedUnblock o s₀ operation snapshot t scenario)
    (hc : v.Current t) (honto : SagaView.Onto p v₀ v) {step : SC05PortalStep}
    (hstep : step.beforeState = []) (hcap : (v.step p).Captured observed desired)
    (h : Undoing text snapshot (priorOf o s₀ p) p c c' observed desired) :
    Solo text settings clean o s₀ pid v c (settleStep operation p step observed desired)
      (Stepped clean scenario p c c' observed desired v₀) := by
  obtain rfl := hl.id
  have htoken := hl.token
  have hlate : ∀ {v₁ : SagaView} {c₁ : SimulatorClient}, SagaView.Onto p v₀ v₁ →
      (v₁.step p).Captured observed desired → (c₁ = c ∨ c₁ = c') → ¬ Calm clean v₁ →
      ∀ e, Foreign e → Stepped clean scenario p c c' observed desired v₀ (.error e) v₁ c₁ :=
    fun ho hcap hrow hno e he =>
      ⟨ho, .inr ⟨e, rfl, he, .inl fun hcalm => hno (ho.calm.2 hcalm), .inr ⟨hrow, hcap⟩⟩⟩
  unfold settleStep
  simp only [hstep, List.isEmpty_nil, Bool.not_true, Bool.false_and, Bool.false_eq_true, if_false]
  rcases h.leaves with ⟨heq, rfl⟩ | ⟨hne, hc', hform, st, hread, hst⟩
  -- the portal already shows the state, or its form leaves it
  · rw [if_pos heq]
    unfold finishUnchangedStep
    refine Solo.saveStep_bind ?_ (hlate honto hcap (.inl rfl))
    have hcap' : ∀ u : StepUpdate, u.beforeState = none → u.desiredState = none →
        ((v.saveStep p u).step p).Captured observed desired := by
      intro u hb hd
      rw [saveStep_step, hb, hd]; exact hcap
    refine solo_recordStepFinished rfl (htoken ▸ hc)
      ⟨honto.trans (.setStep _), .inl ⟨rfl, rfl, hcap' _ rfl rfl, ?_⟩⟩
      (hlate (honto.trans (.setStep _)) (hcap' _ rfl rfl) (.inl rfl))
    rw [saveStep_step]
    by_cases hprior : step.status = .applied ∨ step.status = .compensationFailed
    · exact .inl (by simp [hprior])
    · exact .inr (by simp [hprior])
  · rw [if_neg (by simp [hne])]
    unfold applyChange
    refine Solo.bind (solo_invoke hl.toLoaded (htoken ▸ hc) p _ _ _ _) ?_ ?_
    · rintro evidence v₁ c₁ (⟨-, -, -, e, h, -⟩ | ⟨outcome, rfl, hans, hr⟩)
      · cases h
      rcases hr with ⟨evidence', h, rfl⟩ | ⟨e, h, -⟩
      swap
      · cases h
      cases h
      rw [hl.action, hl.scenario] at hans
      obtain ⟨-, hret, -⟩ := answers_apply rfl (hc' ▸ hread) hans
      obtain ⟨rfl, hrow⟩ := hret _ rfl
      have hrow' : c₁ = c' := hrow.trans hc'.symm
      have honto₁ : SagaView.Onto p v₀ (v.callPush pid p .apply (.apply operation.op.action)
          (.returned { state := st })) := honto.trans onto_callPush
      refine Solo.locked_bind rfl rfl (htoken ▸ hc) (fun _ _ _ h => h) (fun _ _ => ?_)
        (hlate honto₁ hcap (.inr hrow'))
      rw [if_neg (by simp [hst])]
      refine Solo.saveStep_bind ?_ (hlate honto₁ hcap (.inr hrow'))
      have hcap' : ∀ u : StepUpdate, u.beforeState = none → u.desiredState = none →
          (((v.callPush pid p .apply (.apply operation.op.action)
            (.returned { state := st })).saveStep p u).step p).Captured observed desired := by
        intro u hb hd
        rw [saveStep_step, hb, hd]; exact hcap
      refine solo_recordStepFinished rfl (htoken ▸ hc)
        ⟨honto₁.trans (.setStep _), .inl ⟨rfl, hrow', hcap' _ rfl rfl, .inl ?_⟩⟩
        (hlate (honto₁.trans (.setStep _)) (hcap' _ rfl rfl) (.inr hrow'))
      rw [saveStep_step]; rfl
    · rintro e v₁ c₁ (⟨rfl, rfl, hno, e', h, he⟩ | ⟨outcome, rfl, hans, hr⟩)
      · cases h
        exact hlate honto hcap (.inl rfl) hno e he
      rcases hr with ⟨evidence, h, -⟩ | ⟨e', h, he, hcalm⟩
      · cases h
      cases h
      rw [hl.action, hl.scenario] at hans
      obtain ⟨hrows, -, hanswers⟩ := answers_apply rfl (hc' ▸ hread) hans
      refine ⟨honto.trans onto_callPush, .inr ⟨e, rfl, he, ?_, .inr ⟨?_, hcap⟩⟩⟩
      · -- without a fault the form is taken, and the call answers
        by_contra hmay
        unfold MayFail at hmay
        push Not at hmay
        have hquiet := honto.calm.2 hmay.1
        obtain ⟨evidence, hreturned⟩ := hanswers hquiet _ (hform scenario hmay.2)
        obtain ⟨-, b, f, hfailed⟩ := hcalm hquiet
        rw [hfailed] at hreturned; cases hreturned
      · rw [hc']; exact hrows


/-- What a step asks for. -/
theorem solo_stepDesiredState {Q : Except SC05Exception PortalState → SagaView → SimulatorClient → Prop}
    (hl : LoadedUnblock o s₀ operation snapshot t scenario) {step : SC05PortalStep}
    (hstep : step.beforeState = [])
    (hd : desiredState .unblock p snapshot (priorOf o s₀ p) observed = .ok desired)
    (hok : Q (.ok desired) v c) (herr : ¬ Calm clean v → ∀ e, Foreign e → Q (.error e) v c) :
    Solo text settings clean o s₀ pid v c (stepDesiredState operation p step observed) Q := by
  obtain ⟨⟨rfl, -⟩, haction, -, hsnapshot, howner, -⟩ := hl
  unfold stepDesiredState
  rw [if_neg (by simp [hstep])]
  cases p with
  | tasks =>
    have hd' : desiredState .unblock .tasks snapshot none observed = .ok desired := hd
    simp only [computeDesiredState, haction, hsnapshot, hd', Except.mapError, Prog.ofExcept]
    exact Solo.ret hok
  | files | accounting =>
    simp only [computeDesiredState, haction]
    refine Solo.priorStep_bind ?_ herr
    rw [howner, hsnapshot]
    simp only [priorOf] at hd
    simp only [hd, Except.mapError, Prog.ofExcept]
    exact Solo.ret hok

/-- **One step of an unblock that runs alone.** -/
theorem solo_applyStep (hl : LoadedUnblock o s₀ operation snapshot t scenario) (hc : v.Current t)
    {step : SC05PortalStep} (hstep : step.beforeState = []) (hblank : (v.step p).Blank)
    (h : Undoing text snapshot (priorOf o s₀ p) p c c' observed desired) :
    Solo text settings clean o s₀ pid v c (applyStep operation p step)
      (Stepped clean scenario p c c' observed desired v) := by
  obtain rfl := hl.id
  have htoken := hl.token
  have hearly : ∀ {v₁ : SagaView}, SagaView.Onto p v v₁ → (v₁.step p).Blank → ¬ Calm clean v₁ →
      ∀ e, Foreign e → Stepped clean scenario p c c' observed desired v (.error e) v₁ c :=
    fun ho hb hno e he =>
      ⟨ho, .inr ⟨e, rfl, he, .inl fun hcalm => hno (ho.calm.2 hcalm), .inl ⟨rfl, hb⟩⟩⟩
  have hcheck : checkFirstObservation operation p step observed = Prog.ret () := by
    simp [checkFirstObservation, hstep, validateInitialState, hl.action, Except.mapError,
      Prog.ofExcept]
  have hrun : SagaView.Onto p v (v.setStatus p .running) := .setStep _
  have hrunBlank : ((v.setStatus p .running).step p).Blank := by
    rw [setStatus_step]; exact hblank
  unfold applyStep
  -- `RUNNING` is committed, then the portal is inspected
  refine Solo.setStatus_bind rfl rfl (htoken ▸ hc) (fun _ _ _ h => h) (fun _ => ?_)
    (hearly .refl hblank)
  refine Solo.fault_bind rfl rfl (fun _ _ _ h => h) (fun _ => ?_) (hearly hrun hrunBlank)
  refine Solo.bind (solo_inspect hl.toLoaded (htoken ▸ hc) p _ _ h.read) ?_ ?_
  · rintro evidence v₁ c₁ ⟨honto, rfl, hret | ⟨e, he, -⟩⟩
    swap
    · cases he
    cases hret
    have hon := hrun.trans (honto p)
    have hsame : v₁.step p = (v.setStatus p .running).step p := SagaView.Onto.step_eq honto p
    have hb : (v₁.step p).Blank := by rw [hsame]; exact hrunBlank
    have hcur : v₁.Current operation.op.run.taskId := htoken ▸ hon.current hc
    -- the evidence goes to the locked row, before any portal is written
    refine Solo.locked_bind rfl rfl hcur (fun _ _ _ h => h) (fun _ _ => ?_) (hearly hon hb)
    simp only [hcheck, Prog.bind_eq, Prog.ret_bind]
    refine Solo.bind (R := fun r v' c' => v' = v₁ ∧ c' = c₁ ∧
        (r = .ok desired ∨ ¬ Calm clean v₁ ∧ ∃ e, r = .error e ∧ Foreign e))
      (solo_stepDesiredState hl hstep h.asked ⟨rfl, rfl, .inl rfl⟩
        fun hno e he => ⟨rfl, rfl, .inr ⟨hno, e, rfl, he⟩⟩) ?_ ?_
    · rintro a v₂ c₂ ⟨rfl, rfl, ha | ⟨-, e, he, -⟩⟩
      swap
      · cases he
      cases ha
      refine Solo.saveStep_bind ?_ (hearly hon hb)
      have hsaved : SagaView.Onto p v (v₂.saveStep p
          { beforeState := some (step.captured observed), desiredState := some desired
            afterState := some observed }) :=
        hon.trans (.setStep _)
      refine solo_settleStep hl (hsaved.current hc) hsaved hstep ?_ h
      rw [saveStep_step]
      refine ⟨?_, rfl⟩
      simp [SC05PortalStep.captured, hstep]
    · rintro e v₂ c₂ ⟨rfl, rfl, h | ⟨hno, e', h, he⟩⟩
      · cases h
      · cases h
        exact hearly hon hb hno e he
  · rintro e v₁ c₁ ⟨honto, rfl, h | ⟨e', h, he, hno⟩⟩
    · cases h
    · cases h
      have hsame : v₁.step p = (v.setStatus p .running).step p := SagaView.Onto.step_eq honto p
      exact hearly (hrun.trans (honto p)) (by rw [hsame]; exact hrunBlank)
        (fun hcalm => hno ((honto p).calm.1 hcalm)) e he

/-- One round of the loop over the steps. -/
theorem solo_round {Q : Except SC05Exception (Option (SC05Portal × SC05Error)) → SagaView →
      SimulatorClient → Prop} (hl : LoadedUnblock o s₀ operation snapshot t scenario)
    (hc : v.Current t) {step : SC05PortalStep} {rest : List (SC05Portal × SC05PortalStep)}
    (hstep : step.beforeState = []) (hblank : (v.step p).Blank)
    (h : Undoing text snapshot (priorOf o s₀ p) p c c' observed desired)
    (hok : ∀ v', SagaView.Onto p v v' → (v'.step p).Captured observed desired →
      ((v'.step p).status = .applied ∨ (v'.step p).status = .unchanged) →
      Solo text settings clean o s₀ pid v' c' (applySteps operation rest) Q)
    (hfail : ∀ v' c'' x, SagaView.Onto p v v' → MayFail clean scenario p v → Foreign (.sc05 x) →
      (v'.step p).status = .failed →
      ((c'' = c ∧ (v'.step p).Blank) ∨
        ((c'' = c ∨ c'' = c') ∧ (v'.step p).Captured observed desired)) →
      Q (.ok (some (p, x))) v' c'')
    (herr : ∀ v' c'' e, SagaView.Onto p v v' → MayFail clean scenario p v → Foreign e →
      Q (.error e) v' c'') :
    Solo text settings clean o s₀ pid v c (applySteps operation ((p, step) :: rest)) Q := by
  obtain rfl := hl.id
  have htoken := hl.token
  have hearly : ¬ Calm clean v → ∀ e, Foreign e → Q (.error e) v c :=
    fun hno e he => herr v c e .refl (.inl hno) he
  unfold applySteps
  refine Solo.locked_bind rfl rfl (htoken ▸ hc) (fun _ _ _ h => h) (fun _ _ => ?_) hearly
  refine Solo.db_bind rfl rfl (fun _ _ _ h => h) (fun _ _ => ?_) hearly
  refine Solo.bind (Solo.attempt (solo_applyStep hl hc hstep hblank h)) ?_
    (by rintro e v' c' ⟨r', h, -⟩; cases h)
  rintro r v' c₁ ⟨r', hr, honto, ⟨rfl, rfl, hcap, hstatus⟩ | ⟨e, rfl, hforeign, hmay, hrow⟩⟩
  · cases hr
    exact hok v' honto hcap hstatus
  · cases hr
    have hcur : v'.Current operation.op.run.taskId := htoken ▸ honto.current hc
    cases e with
    | sc05 x =>
      refine Solo.setStatus_bind rfl rfl hcur (fun _ _ _ h => h) (fun _ => Solo.ret ?_)
        fun _ e he => herr v' c₁ e honto hmay he
      refine hfail _ c₁ x (honto.trans (.setStep _)) hmay hforeign (by rw [setStatus_step]) ?_
      rw [setStatus_step]; exact hrow
    | superseded => exact Solo.raise (herr v' c₁ _ honto hmay hforeign)
    | validation m => exact Solo.raise (herr v' c₁ _ honto hmay hforeign)
    | other name => exact Solo.raise (herr v' c₁ _ honto hmay hforeign)

end Steps

end SheepContabil
