import SheepContabil.Proof.Sc05Compensate
import SheepContabil.Proof.Sc05Moves

/-!
# The outline of the saga is sound

Every delivery meets the outline of `Sc05Outline`, and every admitted step keeps what
a worker relies on.

* `deliver_wp`: a delivery, from any view.
* `saga_sound`: the outline is sound, so its knowledge holds before every step of a run.
-/

namespace SheepContabil

open Conc Conc.Prog

variable {W ι : Type} {o : OperationId} {quiet careful : Prop} {pid : ℕ}

section Delivery

/-- An action that is no worker's write needs no knowledge. -/
theorem wp_silent {l : SC05Label} (hl : l.isWorkerWrite = false)
    {Q : Except SC05Exception l.Resp → SagaView → Prop} {v : SagaView}
    (h : ∀ v', (v.worker = some pid → v.Untouched v') → SagaInv careful v' → ∀ r v'',
      (∃ i, (sagaOutline W ι o quiet careful).ok (.act pid l i) v' v'' ∧
        (sagaAbstract W ι o).act pid l i v' r v'') → Q r v'') :
    wp ((sagaOutline W ι o quiet careful).abstractContract (sagaAbstract W ι o)) pid (call l) Q v := by
  refine wp_call fun v' hr hinv => ⟨fun _ hw => ?_, h v' hr hinv⟩
  rw [hl] at hw; cases hw

/-- The handlers close the run with the residue they have just found. -/
theorem failOutside_wp {operation : LoadedOperation} (ho : operation.id = o) {c : SagaCore}
    {v : SagaView} (hv : v.Shows c) (hw : c.worker = some pid) {e : SC05Error}
    (hcode : e.code ≠ .taskMarkerWithoutSnapshot) (hm : MayAbort quiet careful c)
    {Q : Except SC05Exception Unit → SagaView → Prop} (hQ : ∀ r v, Q r v) :
    wp ((sagaOutline W ι o quiet careful).abstractContract (sagaAbstract W ι o)) pid
      (failOutside operation e) Q v := by
  subst ho
  unfold failOutside
  refine wp_bind (wp_silent rfl fun v1 hr1 _ => ?_)
  rintro r v2 ⟨i, -, heff⟩
  have hv1 : v1.Shows c := hv.untouched (hr1 (hv.worker.trans hw))
  cases r with
  | error e' => exact hQ _ _
  | ok residual =>
    simp only [sagaAbstract, SC05Label.op?, if_true] at heff
    obtain ⟨rfl, hres⟩ := heff
    refine wp_call fun v3 hr3 _ => ⟨fun _ _ => ?_, fun _ _ _ => hQ _ _⟩
    have hu := hr3 (hv1.worker.trans hw)
    refine ⟨c, hv1.untouched hu, hw, hcode, hm.1, fun hcareful => ⟨hm.2 hcareful, fun hrun => ?_⟩⟩
    rw [hu.running hrun]; exact hres

/-- The handlers of `execute_sc05`. -/
theorem handler_wp (operation : LoadedOperation) (ho : operation.id = o) {c : SagaCore}
    {v : SagaView} (hv : v.Shows c) (hw : c.worker = some pid) (e : SC05Exception)
    {Q : Except SC05Exception Unit → SagaView → Prop} (hQ : ∀ r v, Q r v) :
    Aborted quiet careful c e →
      wp ((sagaOutline W ι o quiet careful).abstractContract (sagaAbstract W ι o)) pid
        (handleFailure operation e) Q v := by
  have hcode : unexpectedWorkerError.code ≠ .taskMarkerWithoutSnapshot := by decide
  rintro (rfl | ⟨⟨hsup, hforeign⟩, hm⟩)
  · exact hQ _ _
  · cases e with
    | superseded => exact absurd rfl hsup
    | sc05 x => exact failOutside_wp ho hv hw (hforeign x rfl) hm hQ
    | validation message =>
      exact wp_bind (failOutside_wp ho hv hw hcode hm (by rintro (e | a) v <;> exact hQ _ _))
    | other name =>
      exact wp_bind (failOutside_wp ho hv hw hcode hm (by rintro (e | a) v <;> exact hQ _ _))

/-- A delivery that starts an execution knows the operation as it is. -/
theorem resumable_of_starts {v : SagaView} {t : SuppliedTaskId} (h : v.Starts t) : v.Resumable := by
  obtain ⟨hactive, hrun, -⟩ := h
  refine ⟨hrun, ?_, ?_⟩ <;> intro hs <;> rw [hs] at hactive <;> cases hactive

/-- **A delivery meets the outline.** -/
theorem deliver_wp (o' : OperationId) (t : SuppliedTaskId) (b : Bool) (v : SagaView) :
    wp ((sagaOutline W ι o quiet careful).abstractContract (sagaAbstract W ι o)) pid
      (deliver o' t b) (fun _ _ => True) v := by
  by_cases ho : o' = o
  swap
  · refine wp_within (A := On o') ?_ (deliver_within o' t b) fun _ _ => trivial
    intro l v hl hop _
    exact absurd (Option.some.inj (hl.symm.trans hop)) ho
  subst ho
  have hfinal : ∀ (v : SagaView) (Q : Except SC05Exception Unit → SagaView → Prop),
      (∀ r v, Q r v) → wp ((sagaOutline W ι o' quiet careful).abstractContract
        (sagaAbstract W ι o')) pid (call (SC05Label.acknowledge o')) Q v :=
    fun v Q hQ => wp_silent rfl fun _ _ _ _ _ _ => hQ _ _
  refine wp_tryFinally (wp_mono (fun r v _ => hfinal v _ (by rintro (e | a) v <;> trivial))
    (Q := fun _ _ => True) ?_)
  refine wp_bind (wp_mono (Q := fun _ _ => True) (by rintro (e | a) v - <;> trivial) ?_)
  refine wp_bind (wp_silent rfl fun v1 _ hinv => ?_)
  rintro r v2 ⟨i, -, heff⟩
  simp only [sagaAbstract, SC05Label.op?, if_true] at heff
  rcases r with e | ⟨⟨op, client⟩, should⟩
  · trivial
  cases should with
  | false =>
    exact wp_silent rfl fun _ _ _ _ _ _ => trivial
  | true =>
    obtain ⟨-, hstarts, hop, rfl⟩ := heff
    set v2 : SagaView := { v1 with worker := some pid, status := .running, taskId := op.run.taskId,
                                   trace := .started pid :: v1.trace } with hv2
    have hacc : careful → v2.core.Accounted :=
      fun hcareful => (hinv.2 hcareful).1 (resumable_of_starts hstarts)
    have hsaga : Triple W ι o' quiet careful pid v2.core (runSaga ⟨o', op, client⟩) _ :=
      runSaga_triple hop rfl hacc
    refine wp_bind (wp_mono (Q := fun _ _ => True) ?_ (wp_tryCatch (wp_mono ?_
      (hsaga rfl v2 (SagaView.Shows.core v2)))))
    · rintro (e | a) v -
      · trivial
      · exact wp_silent rfl fun _ _ _ _ _ _ => trivial
    · rintro (e | a) v3 ⟨c, hv3, hw3, h3⟩
      · exact handler_wp ⟨o', op, client⟩ rfl hv3 hw3 e (fun _ _ => trivial) (h3 e rfl)
      · trivial

/-- Every process meets the outline. -/
theorem body_wp (k : SC05Process) (v : SagaView) :
    wp ((sagaOutline W ι o quiet careful).abstractContract (sagaAbstract W ι o)) pid
      k.body (fun _ _ => True) v := by
  rcases body_within k with ⟨o', t, b, rfl⟩ | hk
  · exact deliver_wp o' t b v
  · refine wp_within (fun l v hl _ hw => ?_) hk fun _ _ => trivial
    rw [hl] at hw; cases hw

end Delivery

section Keeps

variable {v v' : SagaView}

/-- A step of the run that touches no step of the operation keeps the invariant, unless it makes
an execution possible. -/
theorem SagaInv.of_steps (h : SagaInv careful v) (hstep : v'.step = v.step)
    (hdirty : ∀ p, dirty v'.trace p = dirty v.trace p) (hres : v'.Resumable → v.Resumable) :
    SagaInv careful v' := by
  refine ⟨?_, fun hcareful => ⟨fun hr p hp => ?_, fun p hp => ?_⟩⟩
  · intro p; rw [hstep]; exact h.1 p
  · rw [hstep]; exact (h.2 hcareful).1 (hres hr) p (by rw [← hdirty]; exact hp)
  · rw [hstep]; exact (h.2 hcareful).2 p (by rw [← hdirty]; exact hp)

/-- While the run executes, the invariant asks only for the captured states. -/
theorem SagaInv.of_not_resumable (h : SagaInv careful v) (hn : ¬ v'.Resumable)
    (hb : ∀ p, (v'.step p).before = (v.step p).before)
    (hd : ∀ p, (v'.step p).desired = (v.step p).desired)
    (hdirty : ∀ p, dirty v'.trace p = dirty v.trace p) : SagaInv careful v' := by
  refine ⟨?_, fun hcareful => ⟨fun hr => absurd hr hn, fun p hp => ?_⟩⟩
  · intro p; rw [hb, hd]; exact h.1 p
  · rw [hb]; exact (h.2 hcareful).2 p (by rw [← hdirty]; exact hp)

theorem not_resumable (h : v.status = .running ∨ v.status = .succeeded ∨ v.status = .failed) :
    ¬ v.Resumable := by
  rintro ⟨h1, h2, h3⟩
  rcases h with h | h | h
  · exact h1 h
  · exact h2 h
  · exact h3 h

@[simp] theorem setStatus_before (v : SagaView) (p q : SC05Portal) (st : SC05StepStatus) :
    ((v.setStatus p st).step q).before = (v.step q).before := by
  by_cases hq : q = p
  · subst hq; simp [SagaView.setStatus, SagaView.setStep]
  · simp [SagaView.setStatus, SagaView.setStep, hq]

@[simp] theorem setStatus_desired (v : SagaView) (p q : SC05Portal) (st : SC05StepStatus) :
    ((v.setStatus p st).step q).desired = (v.step q).desired := by
  by_cases hq : q = p
  · subst hq; simp [SagaView.setStatus, SagaView.setStep]
  · simp [SagaView.setStatus, SagaView.setStep, hq]

theorem inv_setStatus (h : SagaInv careful v) (hr : v.status = .running) (p : SC05Portal)
    (st : SC05StepStatus) : SagaInv careful (v.setStatus p st) :=
  h.of_not_resumable (not_resumable (.inl hr)) (fun _ => setStatus_before ..)
    (fun _ => setStatus_desired ..) fun _ => rfl

theorem inv_quarantine (h : SagaInv careful v)
    (hq : careful → ∀ p, dirty v.trace p = true →
      (v.step p).status = .applied ∨ (v.step p).status = .compensationFailed) :
    SagaInv careful v.quarantine := by
  have hb : ∀ p, (v.quarantine.step p).before = (v.step p).before := by
    intro p; simp only [SagaView.quarantine]; split <;> rfl
  have hd : ∀ p, (v.quarantine.step p).desired = (v.step p).desired := by
    intro p; simp only [SagaView.quarantine]; split <;> rfl
  refine ⟨?_, fun hcareful => ⟨fun _ p hp => ?_, fun p hp => ?_⟩⟩
  · intro p; rw [hb, hd]; exact h.1 p
  · rcases hq hcareful p hp with hs | hs <;>
      simp [SagaView.quarantine, hs, SC05StepStatus.isResidual]
  · rw [hb]; exact (h.2 hcareful).2 p hp

theorem untouched_quarantine (v : SagaView) : v.Untouched v.quarantine := by
  refine ⟨rfl, rfl, rfl, fun p => ?_, fun p => ?_, fun p => ?_, fun h => by cases h⟩
  · simp only [SagaView.quarantine]; split <;> rfl
  · simp only [SagaView.quarantine]; split <;> rfl
  · simp only [SagaView.quarantine]
    split
    · rename_i hs; exact .inr ⟨by simp, hs, rfl⟩
    · exact .inl rfl

/-- The run changes hands or waits again: no step is touched and no execution starts. -/
theorem untouched_run {status : RunStatus} {t : Option TaskId} (hs : status ≠ .running) :
    v.Untouched { v with status := status, taskId := t } :=
  ⟨rfl, rfl, rfl, fun _ => rfl, fun _ => rfl, fun _ => .inl rfl, fun h => absurd h hs⟩

theorem inv_callPortal {p : SC05Portal} {request : GatewayRequest} {i : Fate ι}
    (h : SagaInv careful v) {outcome : CallOutcome}
    (hcare : careful → CarefulAction pid (.callPortal o p request) i v
      (v.push (.called pid p request.phase request.call (v.step p).before (v.step p).desired
        outcome))) :
    SagaInv careful (v.push (.called pid p request.phase request.call (v.step p).before
      (v.step p).desired outcome)) := by
  set v1 := v.push (.called pid p request.phase request.call (v.step p).before (v.step p).desired
    outcome)
  have hv1 : v1.core = v.core.push (v.core.callEvent pid p request.phase request.call outcome) := rfl
  have hmut : request.call ≠ .inspect →
      (SC05Label.callPortal o p request).mutates? = some p := by
    intro hcall
    cases hc : request.call <;> simp_all [SC05Label.mutates?, GatewayCall.isInspect]
  refine ⟨h.1, fun hcareful => ⟨fun hr => ?_, fun q hq => ?_⟩⟩
  · show v1.core.Accounted
    rw [hv1]
    refine accounted_call ?_ ((h.2 hcareful).1 hr)
    by_cases hcall : request.call = .inspect
    · exact .inl hcall
    · exact .inr (((hcare hcareful).owned p (hmut hcall)).resolve_left hr.1)
  · by_cases hcall : request.call = .inspect
    · refine (h.2 hcareful).2 q ?_
      have hq' : dirty v1.core.trace q = true := hq
      rw [hv1, hcall] at hq'
      exact dirty_of_inspect hq'
    · by_cases hqp : p = q
      · subst hqp; exact (hcare hcareful).captured p (hmut hcall)
      · refine (h.2 hcareful).2 q ?_
        have hq' : dirty v1.core.trace q = true := hq
        rw [hv1, dirty_push_call, if_neg hqp] at hq'
        exact hq'

theorem saveStep_self (v : SagaView) (p : SC05Portal) (u : StepUpdate) :
    (v.saveStep p u).step p =
      { status := u.status.getD (v.step p).status
        before := u.beforeState.getD (v.step p).before
        desired := u.desiredState.getD (v.step p).desired } :=
  Function.update_self ..

theorem saveStep_other (v : SagaView) {p q : SC05Portal} (u : StepUpdate) (h : q ≠ p) :
    (v.saveStep p u).step q = v.step q :=
  Function.update_of_ne h ..

/-- A saved step keeps the invariant: a captured state stays, and the status says what the trace
says. -/
theorem inv_saveStep {p : SC05Portal} {u : StepUpdate} {i : Fate ι} {c : SagaCore}
    (h : SagaInv careful v) (hv : v.Shows c)
    (hpre : WritePre quiet careful pid (.saveStep o p u) v c) (hdb : i.dbFails = false)
    (hcare : careful → CarefulAction pid (.saveStep o p u) i v (v.saveStep p u)) :
    SagaInv careful (v.saveStep p u) := by
  obtain ⟨hbefore, hdesired, hstatus⟩ := hpre
  refine ⟨fun q hq => ?_, fun hcareful => ⟨fun hr q hq => ?_, fun q hq => ?_⟩⟩
  · -- a captured state comes with its desired state
    by_cases hqp : q = p
    swap
    · rw [saveStep_other v u hqp] at hq ⊢; exact h.1 q hq
    subst hqp
    rw [saveStep_self] at hq ⊢
    cases hd : u.desiredState with
    | some d => exact (hdesired d hd).2.1
    | none =>
      cases hb : u.beforeState with
      | some b =>
        obtain ⟨d, hd', -⟩ := hbefore b hb
        rw [hd] at hd'; cases hd'
      | none =>
        rw [hb] at hq
        exact h.1 q hq
  · have hq' : dirty v.trace q = true := hq
    have hold := (h.2 hcareful).1 hr q hq'
    by_cases hqp : q = p
    swap
    · rw [saveStep_other v u hqp]; exact hold
    subst hqp
    rw [saveStep_self]
    cases hs : u.status with
    | none => exact hold
    | some st =>
      -- `UNCHANGED` on a dirty portal is the write that a careful run does not make
      by_cases hst : st = .unchanged
      · have hclean := (hcare hcareful).unchanged q (by simp [SC05Label.unchanged?, hs, hst]) hdb
        rw [hclean] at hq'; cases hq'
      · exact hstatus hcareful st hs hst (by rw [← hv.trace]; exact hq')
  · have hold := (h.2 hcareful).2 q hq
    by_cases hqp : q = p
    swap
    · rw [saveStep_other v u hqp]; exact hold
    subst hqp
    rw [saveStep_self]
    cases hb : u.beforeState with
    | none => exact hold
    | some b =>
      have hne : c.before q ≠ [] := by rw [← hv.before]; exact hold
      show b ≠ []
      obtain ⟨d, -, hsame, -⟩ := hbefore b hb
      rw [hsame hne]; exact hne

theorem inv_finishFailed {e : SC05Error} {flag : Bool} {site : FailureSite} {t : Option TaskId}
    {status : RunStatus} {client : SC05ClientStatus} {c : SagaCore} (h : SagaInv careful v)
    (hv : v.Shows c) (hpre : WritePre quiet careful pid (.finishFailed o e flag site t) v c)
    (hrun : v.status = .running) :
    SagaInv careful { v with
      status := status, trace := .failed pid site status client :: v.trace } := by
  have hacc : careful → c.Accounted := by
    cases site with
    | compensated => exact hpre.2
    | outside => exact fun hcareful => (hpre.2.2 hcareful).1
  exact ⟨h.1, fun hcareful => ⟨fun _ => hv.accounted_running hrun (hacc hcareful),
    (h.2 hcareful).2⟩⟩

end Keeps

section Sound

variable {v v' : SagaView}

/-- What every move keeps. -/
theorem move_inv {m : Move SC05Label (Fate ι) (W → W)} (h : SagaInv careful v)
    (hpre : ∀ pid l i, m = .act pid l i → (sagaOutline W ι o quiet careful).pre pid l v)
    (hcare : careful → Careful o m v v') (hm : SagaMove o v m v') : SagaInv careful v' := by
  cases hm with
  | idle => exact h
  | released => exact h.of_steps rfl (fun _ => rfl) fun hr => hr
  | started =>
    exact h.of_not_resumable (not_resumable (.inl rfl)) (fun _ => rfl) (fun _ => rfl) fun _ => rfl
  | quarantined pid l i hl hq hrun =>
    exact inv_quarantine h fun hcareful =>
      (hcare hcareful hl).quarantine hq hrun (by simp [SagaView.quarantine])
  | waits m status t hv hrun hs =>
    refine h.of_steps rfl (fun _ => rfl) fun _ => ?_
    rcases hv with hv | hv <;> exact ⟨by simp [hv], by simp [hv], by simp [hv]⟩
  | undispatched pid t status exc i hv =>
    exact h.of_steps rfl (fun _ => rfl) fun _ => ⟨by simp [hv], by simp [hv], by simp [hv]⟩
  | marked pid l i p status hl hw hrun => exact inv_setStatus h hrun p status
  | saved pid p u i hdb =>
    obtain ⟨c, hv, -, hwrite⟩ := hpre _ _ _ rfl rfl rfl
    exact inv_saveStep h hv hwrite hdb fun hcareful => hcare hcareful rfl
  | called pid p request i outcome => exact inv_callPortal h fun hcareful => hcare hcareful rfl
  | compensating => exact h.of_steps rfl (fun _ => rfl) fun hr => hr
  | succeeded =>
    exact h.of_not_resumable (not_resumable (.inr (.inl rfl))) (fun _ => rfl) (fun _ => rfl)
      fun _ => rfl
  | failed pid e flag site t i status client hc hclose =>
    obtain ⟨c, hv, -, hwrite⟩ := hpre _ _ _ rfl rfl rfl
    exact inv_finishFailed h hv hwrite hc.1

/-- What a move of another process leaves alone. -/
theorem move_rely {m : Move SC05Label (Fate ι) (W → W)} {q : ℕ}
    (hpre : ∀ pid l i, m = .act pid l i → (sagaOutline W ι o quiet careful).pre pid l v)
    (hseq : Sequential o m v) (hq : m.pid? ≠ some q) (hw : v.worker = some q)
    (hm : SagaMove o v m v') : v.Untouched v' := by
  -- a write of the worker would make its process the worker
  have hwrite : ∀ pid l i, m = .act pid l i → l.op? = some o → l.isWorkerWrite = false := by
    rintro pid l i rfl hl
    by_contra hwr
    obtain ⟨c, hv, hc, -⟩ := hpre pid l i rfl hl (by simpa using hwr)
    rw [hv.worker, hc] at hw
    exact hq hw
  cases hm with
  | idle => exact .refl _
  | released m pid hm hpid =>
    rw [hpid] at hw
    exact absurd (hm.trans hw) hq
  | started pid t b i taskId hdb hs => rw [hseq rfl hdb hs] at hw; cases hw
  | quarantined => exact untouched_quarantine v
  | waits m status t hv hrun hs => exact untouched_run hrun
  | undispatched pid t status exc i hv =>
    refine untouched_run ?_
    rintro rfl
    cases hwrite _ _ _ rfl rfl
  | marked pid l i p status hl hwr hrun => rw [hwrite _ _ _ rfl hl] at hwr; cases hwr
  | saved | called | compensating | succeeded | failed => cases hwrite _ _ _ rfl rfl

/-- **The outline of the saga is sound.** -/
theorem saga_sound (W ι : Type) (o : OperationId) (quiet careful : Prop) :
    (sagaOutline W ι o quiet careful).AbstractSound (sagaAbstract W ι o) SC05Process.body where
  refl pid v _ := .refl v
  trans pid a b c hab hbc hw := (hab hw).trans (hbc ((hab hw).worker.trans hw))
  post _ _ _ _ _ _ _ _ := trivial
  start pid k v _ := body_wp k v
  act pid l i v r v' hinv hpre hok heff := by
    have hm := saga_cases (m := .act pid l i) ⟨r, heff⟩
    have hpre' : ∀ pid' l' i', Move.act (η := W → W) pid l i = .act pid' l' i' →
        (sagaOutline W ι o quiet careful).pre pid' l' v := by
      rintro _ _ _ ⟨⟩; exact hpre
    exact ⟨move_inv hinv hpre' hok.2.2 hm, fun q hq hw => move_rely hpre' hok.1 hq hw hm⟩
  crash pid v v' hinv hok hcrash := by
    have hm := saga_cases (m := .crash pid) hcrash
    have hpre : ∀ pid' l i, (.crash pid : Move SC05Label (Fate ι) (W → W)) = .act pid' l i →
        (sagaOutline W ι o quiet careful).pre pid' l v := fun _ _ _ h => by cases h
    exact ⟨move_inv hinv hpre hok.2.2 hm, fun q hq hw => move_rely hpre hok.1 hq hw hm⟩
  env e v v' hinv hok henv := by
    have hm := saga_cases (m := .env e) henv
    have hpre : ∀ pid' l i, (.env e : Move SC05Label (Fate ι) (W → W)) = .act pid' l i →
        (sagaOutline W ι o quiet careful).pre pid' l v := fun _ _ _ h => by cases h
    exact ⟨move_inv hinv hpre hok.2.2 hm, fun q hq hw => move_rely hpre hok.1 hq hw hm⟩

end Sound

end SheepContabil
