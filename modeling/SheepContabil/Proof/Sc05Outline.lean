import SheepContabil.Proof.Sc05Programs
import SheepContabil.Spec.Sc05Runs

/-!
# What the worker of an operation knows

A worker that executes an operation alone knows the captured states of its steps
exactly: nobody else writes them. It knows their statuses too, until a quarantine
takes the run away and turns a running step into a failed one. `SagaCore` is that
knowledge, and `SagaView.Shows` relates it to the view.

* `sagaOutline`: what the worker knows at each of its writes.
* `Triple`: a program of the worker, from one knowledge to another, with a rule for
  each of its actions.
-/

namespace SheepContabil

open Conc Conc.Prog

/-- What the worker knows. -/
structure SagaCore where
  worker : Option ℕ
  action : SC05Action
  trace : List SC05Event
  before : SC05Portal → PortalState
  desired : SC05Portal → PortalState
  status : SC05Portal → SC05StepStatus

namespace SagaCore

def push (c : SagaCore) (e : SC05Event) : SagaCore := { c with trace := e :: c.trace }

def setStatus (c : SagaCore) (p : SC05Portal) (status : SC05StepStatus) : SagaCore :=
  { c with status := Function.update c.status p status }

/-- `step.save` on the core. -/
def saveStep (c : SagaCore) (p : SC05Portal) (u : StepUpdate) : SagaCore :=
  { c with
    before := Function.update c.before p (u.beforeState.getD (c.before p))
    desired := Function.update c.desired p (u.desiredState.getD (c.desired p))
    status := Function.update c.status p (u.status.getD (c.status p)) }

/-- The event of a portal call. -/
def callEvent (c : SagaCore) (pid : ℕ) (p : SC05Portal) (phase : Phase) (call : GatewayCall)
    (outcome : CallOutcome) : SC05Event :=
  .called pid p phase call (c.before p) (c.desired p) outcome

/-- Every mutated portal has a step whose status says so. -/
def Accounted (c : SagaCore) : Prop :=
  ∀ p, dirty c.trace p = true → (c.status p).isResidual = true

/-- A captured state is the one the portal has just shown, with the state desired from there. -/
def Captures (c : SagaCore) (p : SC05Portal) (b d : PortalState) : Prop :=
  shown c.trace p = some b ∧ ∃ snapshot prior, desiredState c.action p snapshot prior b = .ok d

/-- The portal has last shown the desired state. -/
def Settled (c : SagaCore) (p : SC05Portal) : Prop :=
  ∃ st, shown c.trace p = some st ∧ statesEqual st (c.desired p) = true

/-- The compensation that ends with this flag has visited every candidate up to the failed step,
and left none of them mutated unless it says so. -/
def Compensated (c : SagaCore) (flag : Bool) : Prop :=
  ∃ failed candidates, lastCompensation c.trace = some (failed, candidates) ∧
    (∀ p ∈ candidates, c.action.position p ≤ c.action.position failed → p ∈ visited c.trace) ∧
    (flag = false → ∀ p, c.action.position p ≤ c.action.position failed → c.before p ≠ [] →
      dirty c.trace p = false) ∧
    (flag = true → ∃ p, c.status p = .compensationFailed)

end SagaCore

/-- A captured state comes with a desired one. -/
def SagaView.Captured (v : SagaView) : Prop := ∀ p, (v.step p).before ≠ [] → (v.step p).desired ≠ []

/-- The status of a step is the known one, unless a quarantine has turned it from running to
failed. -/
def StatusShown (run : RunStatus) (known actual : SC05StepStatus) : Prop :=
  actual = known ∨ (run ≠ .running ∧ known = .running ∧ actual = .failed)

/-- The view is as the worker knows it. -/
structure SagaView.Shows (v : SagaView) (c : SagaCore) : Prop where
  worker : v.worker = c.worker
  action : v.action = c.action
  trace : v.trace = c.trace
  before : ∀ p, (v.step p).before = c.before p
  desired : ∀ p, (v.step p).desired = c.desired p
  status : ∀ p, StatusShown v.status (c.status p) (v.step p).status

/-- What the other processes do to an operation with a worker: they leave everything alone, or a
quarantine has ended the execution. -/
structure SagaView.Untouched (v v' : SagaView) : Prop where
  worker : v'.worker = v.worker
  action : v'.action = v.action
  trace : v'.trace = v.trace
  before : ∀ p, (v'.step p).before = (v.step p).before
  desired : ∀ p, (v'.step p).desired = (v.step p).desired
  status : ∀ p, StatusShown v'.status (v.step p).status (v'.step p).status
  running : v'.status = .running → v' = v

theorem SagaView.Untouched.refl (v : SagaView) : Untouched v v :=
  ⟨rfl, rfl, rfl, fun _ => rfl, fun _ => rfl, fun _ => .inl rfl, fun _ => rfl⟩

/-- A step that a quarantine has failed stays failed. -/
theorem StatusShown.trans {v v' : SagaView} {known actual actual' : SC05StepStatus}
    (h : StatusShown v.status known actual) (h' : StatusShown v'.status actual actual')
    (hr : v'.status = .running → v' = v) : StatusShown v'.status known actual' := by
  rcases h' with h2 | ⟨hn, h2, h3⟩
  · rcases h with h1 | ⟨hn, h1, h4⟩
    · exact .inl (h2.trans h1)
    · refine .inr ⟨fun hrun => ?_, h1, h2.trans h4⟩
      rw [hr hrun] at hrun; exact hn hrun
  · rcases h with h1 | ⟨-, h1, h4⟩
    · exact .inr ⟨hn, h1 ▸ h2, h3⟩
    · rw [h4] at h2; cases h2

theorem SagaView.Untouched.trans {v v' v'' : SagaView} (h : Untouched v v')
    (h' : Untouched v' v'') : Untouched v v'' := by
  refine ⟨h'.worker.trans h.worker, h'.action.trans h.action, h'.trace.trans h.trace,
    fun p => (h'.before p).trans (h.before p), fun p => (h'.desired p).trans (h.desired p),
    fun p => (h.status p).trans (h'.status p) h'.running, fun hr => ?_⟩
  have hv := h'.running hr
  rw [hv] at hr ⊢
  exact h.running hr

/-- The worker's knowledge of a view that nobody has changed. -/
def SagaView.core (v : SagaView) : SagaCore where
  worker := v.worker
  action := v.action
  trace := v.trace
  before p := (v.step p).before
  desired p := (v.step p).desired
  status p := (v.step p).status

namespace SagaView.Shows

variable {v v' : SagaView} {c : SagaCore}

theorem core (v : SagaView) : v.Shows v.core :=
  ⟨rfl, rfl, rfl, fun _ => rfl, fun _ => rfl, fun _ => .inl rfl⟩

/-- While the run is executing, the statuses are the known ones. -/
theorem status_eq (h : v.Shows c) (hr : v.status = .running) (p : SC05Portal) :
    (v.step p).status = c.status p := by
  rcases h.status p with hs | ⟨hn, -⟩
  · exact hs
  · exact absurd hr hn

theorem compensationFailed (h : v.Shows c) {p : SC05Portal}
    (hp : c.status p = .compensationFailed) : (v.step p).status = .compensationFailed := by
  rcases h.status p with hs | ⟨-, hk, -⟩
  · rw [hs, hp]
  · rw [hp] at hk; cases hk

/-- What the view accounts for, the worker accounts for. -/
theorem accounted (h : v.Shows c) (hv : v.Accounted) : c.Accounted := by
  intro p hp
  have hs := hv p (by rw [h.trace]; exact hp)
  rcases h.status p with hk | ⟨-, hk, -⟩
  · rw [← hk]; exact hs
  · rw [hk]; rfl

theorem accounted_running (h : v.Shows c) (hr : v.status = .running) (hc : c.Accounted) :
    v.Accounted := by
  intro p hp
  rw [h.status_eq hr p]
  exact hc p (by rw [← h.trace]; exact hp)

theorem candidates (h : v.Shows c) : v.candidates.map Prod.fst =
    c.action.order.reverse.filter fun p => !(c.before p).isEmpty := by
  simp only [SagaView.candidates, ← List.map_reverse, List.filter_map, List.map_map, h.action]
  have hid : (Prod.fst ∘ fun p => (p, v.step p)) = (id : SC05Portal → SC05Portal) := rfl
  have hf : ((fun s : SC05Portal × StepView => !s.2.before.isEmpty) ∘ fun p => (p, v.step p)) =
      fun p => !(c.before p).isEmpty := by
    funext p; simp [h.before]
  rw [hid, hf, List.map_id]

theorem untouched (h : v.Shows c) (hu : v.Untouched v') : v'.Shows c :=
  ⟨hu.worker.trans h.worker, hu.action.trans h.action, hu.trace.trans h.trace,
    fun p => (hu.before p).trans (h.before p), fun p => (hu.desired p).trans (h.desired p),
    fun p => (h.status p).trans (hu.status p) hu.running⟩

theorem push (h : v.Shows c) (e : SC05Event) : (v.push e).Shows (c.push e) :=
  ⟨h.worker, h.action, congrArg (e :: ·) h.trace, h.before, h.desired, h.status⟩

theorem setStatus (h : v.Shows c) (p : SC05Portal) (st : SC05StepStatus) :
    (v.setStatus p st).Shows (c.setStatus p st) := by
  refine ⟨h.worker, h.action, h.trace, fun q => ?_, fun q => ?_, fun q => ?_⟩
  all_goals
    simp only [SagaView.setStatus, SagaView.setStep, SagaCore.setStatus]
    by_cases hq : q = p
  · subst hq; simpa using h.before q
  · simpa [hq] using h.before q
  · subst hq; simpa using h.desired q
  · simpa [hq] using h.desired q
  · subst hq; simp [StatusShown]
  · simpa [hq] using h.status q

theorem saveStep (h : v.Shows c) (p : SC05Portal) (u : StepUpdate) :
    (v.saveStep p u).Shows (c.saveStep p u) := by
  refine ⟨h.worker, h.action, h.trace, fun q => ?_, fun q => ?_, fun q => ?_⟩
  all_goals
    simp only [SagaView.saveStep, SagaView.setStep, SagaCore.saveStep]
    by_cases hq : q = p
  · subst hq; simp [h.before q]
  · simpa [hq] using h.before q
  · subst hq; simp [h.desired q]
  · simpa [hq] using h.desired q
  · subst hq
    cases u.status with
    | none => simpa using h.status q
    | some st => simp [StatusShown]
  · simpa [hq] using h.status q

end SagaView.Shows

section Outline

/-- The run may execute again: it is not over. -/
def SagaView.Resumable (v : SagaView) : Prop :=
  v.status ≠ .running ∧ v.status ≠ .succeeded ∧ v.status ≠ .failed

/-- What holds whoever works on the operation. -/
def SagaInv (careful : Prop) (v : SagaView) : Prop :=
  v.Captured ∧ (careful → (v.Resumable → v.Accounted) ∧
    ∀ p, dirty v.trace p = true → (v.step p).before ≠ [])

/-- What a worker knows when it writes. -/
def WritePre (quiet careful : Prop) (pid : ℕ) : SC05Label → SagaView → SagaCore → Prop
  | .callPortal _ p request, _, c =>
    (∀ outcome, EventOk c.action (c.callEvent pid p request.phase request.call outcome) c.trace) ∧
      (request.call ≠ .inspect → c.desired p ≠ []) ∧
      phase? c.trace = some request.phase ∧
      (request.phase = .compensation → ∀ failed candidates,
        lastCompensation c.trace = some (failed, candidates) →
          c.action.position p ≤ c.action.position failed) ∧
      ∀ action, request.call = .apply action → action = c.action
  | .saveStep _ p u, _, c =>
    (∀ b, u.beforeState = some b → ∃ d, u.desiredState = some d ∧
        (c.before p ≠ [] → b = c.before p) ∧ (c.before p = [] → c.Captures p b d)) ∧
      (∀ d, u.desiredState = some d → u.beforeState ≠ none ∧ d ≠ [] ∧
        (c.before p ≠ [] → c.desired p ≠ [] → d = c.desired p)) ∧
      (careful → ∀ status, u.status = some status → status ≠ .unchanged →
        dirty c.trace p = true → status.isResidual = true)
  | .compensationCandidates .., _, c => phase? c.trace ≠ none
  | .finishSucceeded .., _, c => ∀ p, c.Settled p
  | .finishFailed _ _ flag .compensated _, _, c =>
    c.Compensated flag ∧ (careful → c.Accounted)
  | .finishFailed _ e flag .outside _, v, c => e.code ≠ .taskMarkerWithoutSnapshot ∧
    (quiet → inCompensation c.trace = false) ∧
      (careful → c.Accounted ∧ (v.status = .running → flag = v.hasResidualState))
  | .recordDispatchFailure .., _, _ => False
  | _, _, _ => True

/-- The worker's knowledge in sequential executions, that are quiet or careful if the parameters
say so. -/
def sagaOutline (W ι : Type) (o : OperationId) (quiet careful : Prop) :
    Outline SC05Label SC05Exception SagaView (Fate ι) SC05Process (W → W) where
  inv v := SagaInv careful v
  rely pid v v' := v.worker = some pid → v.Untouched v'
  pre pid l v := l.op? = some o → l.isWorkerWrite = true →
    ∃ c, v.Shows c ∧ c.worker = some pid ∧ WritePre quiet careful pid l v c
  ok m v v' := Sequential o m v ∧ (quiet → Quiet o m v) ∧ (careful → Careful o m v v')
  post _ _ _ _ := True

end Outline

section Triples

variable {W ι α β : Type} {o : OperationId} {quiet careful : Prop} {pid : ℕ}

/-- From the knowledge `c`, the worker `pid` ends `p` with `Q`. -/
def Triple (W ι : Type) (o : OperationId) (quiet careful : Prop) (pid : ℕ) (c : SagaCore)
    (p : SC05Prog α) (Q : Except SC05Exception α → SagaCore → Prop) : Prop :=
  c.worker = some pid → ∀ v : SagaView, v.Shows c →
    wp ((sagaOutline W ι o quiet careful).abstractContract (sagaAbstract W ι o)) pid p
      (fun r v' => ∃ c', v'.Shows c' ∧ c'.worker = some pid ∧ Q r c') v

variable {c : SagaCore} {Q : Except SC05Exception α → SagaCore → Prop}

theorem Triple.ret {a : α} (h : Q (.ok a) c) : Triple W ι o quiet careful pid c (.ret a) Q :=
  fun hw _ hv => ⟨c, hv, hw, h⟩

theorem Triple.raise {e : SC05Exception} (h : Q (.error e) c) :
    Triple W ι o quiet careful pid c (.raise e) Q :=
  fun hw _ hv => ⟨c, hv, hw, h⟩

theorem Triple.mono {p : SC05Prog α} {R : Except SC05Exception α → SagaCore → Prop}
    (h : Triple W ι o quiet careful pid c p R) (hQ : ∀ r c', R r c' → Q r c') :
    Triple W ι o quiet careful pid c p Q := by
  intro hw v hv
  refine wp_mono ?_ (h hw v hv)
  rintro r v' ⟨c', hv', hw', hr⟩
  exact ⟨c', hv', hw', hQ _ _ hr⟩

theorem Triple.bind {p : SC05Prog β} {k : β → SC05Prog α}
    {R : Except SC05Exception β → SagaCore → Prop} (h : Triple W ι o quiet careful pid c p R)
    (hok : ∀ a c', R (.ok a) c' → Triple W ι o quiet careful pid c' (k a) Q)
    (herr : ∀ e c', R (.error e) c' → Q (.error e) c') :
    Triple W ι o quiet careful pid c (p.bind k) Q := by
  intro hw v hv
  refine wp_bind (wp_mono ?_ (h hw v hv))
  rintro (e | a) v' ⟨c', hv', hw', hr⟩
  · exact ⟨c', hv', hw', herr e _ hr⟩
  · exact hok a _ hr hw' v' hv'

theorem Triple.tryCatch {p : SC05Prog α} {handler : SC05Exception → SC05Prog α}
    {R : Except SC05Exception α → SagaCore → Prop} (h : Triple W ι o quiet careful pid c p R)
    (hok : ∀ a c', R (.ok a) c' → Q (.ok a) c')
    (herr : ∀ e c', R (.error e) c' → Triple W ι o quiet careful pid c' (handler e) Q) :
    Triple W ι o quiet careful pid c (p.tryCatch handler) Q := by
  intro hw v hv
  refine wp_tryCatch (wp_mono ?_ (h hw v hv))
  rintro (e | a) v' ⟨c', hv', hw', hr⟩
  · exact herr e _ hr hw' v' hv'
  · exact ⟨c', hv', hw', hok a _ hr⟩

theorem Triple.attempt {p : SC05Prog α} {Q : Except SC05Exception (Except SC05Exception α) →
    SagaCore → Prop} (h : Triple W ι o quiet careful pid c p fun r c' => Q (.ok r) c') :
    Triple W ι o quiet careful pid c p.attempt Q :=
  fun hw v hv => wp_attempt (h hw v hv)

/-- What a failure outside the portals finds, in a quiet or careful run. -/
def MayAbort (quiet careful : Prop) (c : SagaCore) : Prop :=
  (quiet → inCompensation c.trace = false) ∧ (careful → c.Accounted)

/-- One action: its precondition, and what the worker knows after each of its effects. -/
theorem Triple.call {l : SC05Label} {Q : Except SC05Exception l.Resp → SagaCore → Prop}
    (hl : l.op? = some o)
    (hpre : l.isWorkerWrite = true → ∀ v, v.Shows c → WritePre quiet careful pid l v c)
    (h : ∀ v, v.Shows c → v.worker = some pid → SagaInv careful v → ∀ (i : Fate ι) r v',
      (l.fails i = true → MayAbort quiet careful c) → (careful → CarefulAction pid l i v v') →
      sagaEffect pid l i v r v' → ∃ c', v'.Shows c' ∧ c'.worker = some pid ∧ Q r c') :
    Triple W ι o quiet careful pid c (.call l) Q := by
  intro hw v hv
  refine wp_call fun v' hr hinv => ?_
  have hv' : v'.Shows c := hv.untouched (hr (hv.worker.trans hw))
  have hw' : v'.worker = some pid := hv'.worker.trans hw
  refine ⟨fun _ hwrite => ⟨c, hv', hw, hpre hwrite v' hv'⟩, ?_⟩
  rintro r v'' ⟨i, ⟨-, hq, hcare⟩, heff⟩
  simp only [sagaAbstract, hl, if_true] at heff
  refine h v' hv' hw' hinv i r v'' (fun hf => ⟨fun hquiet => ?_, fun hcareful => ?_⟩)
    (fun hcareful => hcare hcareful hl) heff
  · by_contra hin
    rw [← hv'.trace, Bool.not_eq_false] at hin
    have := hq hquiet hl hw' hin
    rw [hf] at this; cases this
  · exact hv'.accounted ((hcare hcareful hl).failure hw' hf)

/-- What ends an execution early: a newer delivery, or a failure of the database. -/
def Stopped (quiet careful : Prop) (c : SagaCore) (e : SC05Exception) : Prop :=
  e = .superseded ∨ ((∃ name, e = .other name) ∧ MayAbort quiet careful c)

theorem stopped_of_refused {l : SC05Label} {i : Fate ι} {e : SC05Exception} {t : Option TaskId}
    {v : SagaView} (hq : l.fails i = true → MayAbort quiet careful c) (he : Refused i t v e) :
    Stopped quiet careful c e := by
  rcases he with ⟨rfl, -⟩ | ⟨hdb, hname⟩
  · exact .inl rfl
  · exact .inr ⟨hname, hq (by simp [SC05Label.fails, hdb])⟩

theorem refused_of_db {i : Fate ι} {v : SagaView} {e : SC05Exception} (h : DbFailure i e) :
    ∃ t, Refused i t v e := ⟨none, .inr h⟩

/-- An action that only reads the saga, and fails with the database or the delivery. -/
theorem Triple.read {l : SC05Label} {E : Fate ι → SagaView → SC05Exception → Prop}
    {P : SagaView → l.Resp → Prop} {Q : Except SC05Exception l.Resp → SagaCore → Prop}
    (hl : l.op? = some o) (hw : l.isWorkerWrite = false)
    (heff : ∀ i v r v', sagaEffect pid l i v r v' → Reads (E i v) (P v) v r v')
    (hE : ∀ i v e, E i v e → ∃ t, Refused i t v e)
    (hok : ∀ a v, v.Shows c → P v a → Q (.ok a) c)
    (herr : ∀ e, Stopped quiet careful c e → Q (.error e) c) :
    Triple W ι o quiet careful pid c (.call l) Q := by
  refine Triple.call hl (fun h => by rw [hw] at h; cases h) ?_
  intro v hv hwk _ i r v' hq _ heff'
  obtain ⟨rfl, hr⟩ := heff i v r v' heff'
  refine ⟨c, hv, hv.worker ▸ hwk, ?_⟩
  cases r with
  | ok a => exact hok a v' hv hr
  | error e =>
    obtain ⟨t, ht⟩ := hE i v' e hr
    exact herr e (stopped_of_refused hq ht)

/-- The actions that check the delivery, or touch rows outside the saga, in front of a program. -/
theorem Triple.read_bind {l : SC05Label} {k : l.Resp → SC05Prog α}
    {E : Fate ι → SagaView → SC05Exception → Prop} {P : SagaView → l.Resp → Prop}
    (hl : l.op? = some o) (hw : l.isWorkerWrite = false)
    (heff : ∀ i v r v', sagaEffect pid l i v r v' → Reads (E i v) (P v) v r v')
    (hE : ∀ i v e, E i v e → ∃ t, Refused i t v e)
    (hok : ∀ a v, v.Shows c → P v a → Triple W ι o quiet careful pid c (k a) Q)
    (herr : ∀ e, Stopped quiet careful c e → Q (.error e) c) :
    Triple W ι o quiet careful pid c ((Prog.call l).bind k) Q :=
  Triple.bind (R := fun r c' => c' = c ∧ match r with
      | .ok a => ∃ v : SagaView, v.Shows c ∧ P v a
      | .error e => Stopped quiet careful c e)
    (Triple.read hl hw heff hE (fun a v hv hp => ⟨rfl, v, hv, hp⟩) fun e he => ⟨rfl, he⟩)
    (by rintro a c' ⟨rfl, v, hv, hp⟩; exact hok a v hv hp)
    (by rintro e c' ⟨rfl, he⟩; exact herr e he)

/-- An error that an adapter may raise: never the one of `_validate_initial_state`. -/
def Foreign (e : SC05Exception) : Prop :=
  e ≠ .superseded ∧ ∀ x, e = .sc05 x → x.code ≠ .taskMarkerWithoutSnapshot

theorem foreign_raised (f : AdapterFault) : Foreign f.raised := by
  cases f with
  | sc05 x hx => exact ⟨by simp [AdapterFault.raised], by rintro y ⟨⟩; exact hx⟩
  | other name => exact ⟨by simp [AdapterFault.raised], by rintro y ⟨⟩⟩

/-- A call of a storage or of the browser session. -/
theorem Triple.fault_bind {l : SC05Label} {k : l.Resp → SC05Prog α} (hl : l.op? = some o)
    (hw : l.isWorkerWrite = false)
    (heff : ∀ (i : Fate ι) v r v', sagaEffect pid l i v r v' →
      Reads (Faulty i) (fun _ => True) v r v')
    (hok : ∀ a, Triple W ι o quiet careful pid c (k a) Q)
    (herr : ∀ e, Foreign e → Q (.error e) c) :
    Triple W ι o quiet careful pid c ((Prog.call l).bind k) Q := by
  refine Triple.bind (R := fun r c' => c' = c ∧ ∀ e, r = .error e → Foreign e) ?_ ?_ ?_
  · refine Triple.call hl (fun h => by rw [hw] at h; cases h) ?_
    intro v hv hwk _ i r v' hq _ heff'
    obtain ⟨rfl, hr⟩ := heff i v r v' heff'
    refine ⟨c, hv, hv.worker ▸ hwk, rfl, ?_⟩
    rintro e rfl
    obtain ⟨f, -, rfl⟩ := hr
    exact foreign_raised f
  · rintro a c' ⟨rfl, -⟩; exact hok a
  · rintro e c' ⟨rfl, he⟩; exact herr e (he e rfl)

/-- `gateways.gateway(portal)`. -/
theorem Triple.selectGateway_bind {p : SC05Portal} {k : Unit → SC05Prog α}
    (hok : Triple W ι o quiet careful pid c (k ()) Q)
    (herr : ∀ e, Foreign e → MayAbort quiet careful c → Q (.error e) c) :
    Triple W ι o quiet careful pid c ((Prog.call (SC05Label.selectGateway o p)).bind k) Q := by
  refine Triple.bind (R := fun r c' => c' = c ∧
    ∀ e, r = .error e → Foreign e ∧ MayAbort quiet careful c) ?_ ?_ ?_
  · refine Triple.call rfl (fun h => by cases h) ?_
    intro v hv hwk _ i r v' hq _ heff'
    obtain ⟨rfl, hr⟩ := heff'
    refine ⟨c, hv, hv.worker ▸ hwk, rfl, ?_⟩
    rintro e rfl
    obtain ⟨f, hf, rfl⟩ := hr
    exact ⟨foreign_raised f, hq (by simp [SC05Label.fails, hf])⟩
  · rintro a c' ⟨rfl, -⟩; exact hok
  · rintro e c' ⟨rfl, he⟩; exact herr e (he e rfl).1 (he e rfl).2

/-- `step.save`. -/
theorem Triple.saveStep {p : SC05Portal} {u : StepUpdate}
    {Q : Except SC05Exception Unit → SagaCore → Prop}
    (hpre : ∀ v, WritePre quiet careful pid (.saveStep o p u) v c)
    (hok : (careful → u.status = some .unchanged → dirty c.trace p = false) →
      Q (.ok ()) (c.saveStep p u))
    (herr : ∀ e, Stopped quiet careful c e → Q (.error e) c) :
    Triple W ι o quiet careful pid c (.call (SC05Label.saveStep o p u)) Q := by
  refine Triple.call rfl (fun _ v _ => hpre v) ?_
  intro v hv hwk _ i r v' hq hcare heff
  have hw : c.worker = some pid := hv.worker ▸ hwk
  cases r with
  | ok a =>
    obtain ⟨rfl, hdb⟩ := heff
    refine ⟨_, hv.saveStep p u, hw, hok fun hcareful hu => ?_⟩
    rw [← hv.trace]
    exact (hcare hcareful).unchanged p (by simp [SC05Label.unchanged?, hu]) hdb
  | error e =>
    obtain ⟨rfl, he⟩ := heff
    exact ⟨c, hv, hw, herr e (stopped_of_refused hq (t := none) (v := v') (.inr he))⟩

/-- The writes that check the delivery and change the status of a step. -/
theorem Triple.setStatus_bind {l : SC05Label} {p : SC05Portal} {st : SC05StepStatus}
    {t : Option TaskId} {k : l.Resp → SC05Prog α} (hl : l.op? = some o)
    (hpre : ∀ v, WritePre quiet careful pid l v c)
    (heff : ∀ (i : Fate ι) v r v', sagaEffect pid l i v r v' →
      Writes (Refused i t v) (fun _ => v.status = .running) (v.setStatus p st) v r v')
    (hok : ∀ a, Triple W ι o quiet careful pid (c.setStatus p st) (k a) Q)
    (herr : ∀ e, Stopped quiet careful c e → Q (.error e) c) :
    Triple W ι o quiet careful pid c ((Prog.call l).bind k) Q := by
  refine Triple.bind (R := fun r c' => ((∃ a, r = .ok a) ∧ c' = c.setStatus p st) ∨
    (c' = c ∧ ∃ e, r = .error e ∧ Stopped quiet careful c e))
    (Triple.call hl (fun _ v _ => hpre v) ?_) ?_ ?_
  · intro v hv hwk _ i r v' hq _ heff'
    have hw : c.worker = some pid := hv.worker ▸ hwk
    have heff' := heff i v r v' heff'
    cases r with
    | ok a =>
      obtain ⟨rfl, -⟩ := heff'
      exact ⟨_, hv.setStatus p st, hw, .inl ⟨⟨a, rfl⟩, rfl⟩⟩
    | error e =>
      obtain ⟨rfl, he⟩ := heff'
      exact ⟨c, hv, hw, .inr ⟨rfl, e, rfl, stopped_of_refused hq he⟩⟩
  · rintro a c' (⟨-, rfl⟩ | ⟨-, e, he, -⟩)
    · exact hok a
    · cases he
  · rintro e c' (⟨⟨a, he⟩, -⟩ | ⟨rfl, e', he, hs⟩)
    · cases he
    · cases he; exact herr e hs

/-- A portal call. -/
theorem Triple.callPortal {p : SC05Portal} {request : GatewayRequest}
    {Q : Except SC05Exception PortalEvidence → SagaCore → Prop}
    (hpre : ∀ v, WritePre quiet careful pid (.callPortal o p request) v c)
    (hok : ∀ ev, Q (.ok ev)
      (c.push (c.callEvent pid p request.phase request.call (.returned ev))))
    (herr : ∀ b f, Q (.error (AdapterFault.raised f))
      (c.push (c.callEvent pid p request.phase request.call (.failed b f)))) :
    Triple W ι o quiet careful pid c (.call (SC05Label.callPortal o p request)) Q := by
  refine Triple.call rfl (fun _ v _ => hpre v) ?_
  rintro v hv hwk _ i r v' - - ⟨outcome, rfl, hr⟩
  have hw : c.worker = some pid := hv.worker ▸ hwk
  have hs := hv.push (c.callEvent pid p request.phase request.call outcome)
  simp only [SagaCore.callEvent, ← hv.before, ← hv.desired] at hs
  refine ⟨_, hs, hw, ?_⟩
  rw [hv.before, hv.desired]
  cases outcome with
  | returned ev => simp only at hr; subst hr; exact hok ev
  | failed b f => simp only at hr; subst hr; exact herr b f

end Triples

end SheepContabil
