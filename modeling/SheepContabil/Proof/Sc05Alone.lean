import SheepContabil.Proof.Sc05Block

/-!
# An execution that runs alone

A delivery that no other process disturbs knows the whole view of its operation and
the rows of its client, action by action. Transactions do not fail; in a
compensation, or in the whole execution if `clean` says so, nothing fails.

* `Alone`, `Solo`: what is known, and a program from one knowledge to another.
* `solo_invoke`: one portal call, with its attempt, evidence and handlers.
-/

namespace SheepContabil

open Conc Conc.Prog

/-- The moves of an undisturbed execution of operation `o`. -/
def Admitted (clean : Prop) (o : OperationId) :
    Move SC05Label (Fate (Option Interruption)) (Simulator → Simulator) → SC05State Simulator → Prop
  | .act _ _ i, s => clean ∨ inCompensation (s.traces o) = true → i.IsClean
  | _, _ => True

/-- A run that has just been closed as failed has set the status of its client. -/
def Told (o : OperationId) (s : SC05State Simulator) : Prop :=
  ∀ pid site status client rest, s.traces o = .failed pid site status client :: rest →
    (s.clients (s.operations o).client).status = client

/-- The operation looks like `v` and the rows of its client like `c`; the rest is as in `s₀`. -/
structure Alone (o : OperationId) (s₀ : SC05State Simulator) (v : SagaView) (c : SimulatorClient)
    (s : SC05State Simulator) : Prop where
  view : sagaView o s = v
  row : s.portals (s₀.clientReference o) = some c
  touches : Touches o s₀ s
  told : Told o s

variable {text : String → String} {settings : Settings} {clean : Prop} {o : OperationId}
  {s₀ : SC05State Simulator} {pid : ℕ} {v : SagaView} {c : SimulatorClient} {α β : Type}

/-- From the knowledge of `v` and `c`, process `pid` ends `p` with `Q`. -/
def Solo (text : String → String) (settings : Settings) (clean : Prop) (o : OperationId)
    (s₀ : SC05State Simulator) (pid : ℕ) (v : SagaView) (c : SimulatorClient) (p : SC05Prog α)
    (Q : Except SC05Exception α → SagaView → SimulatorClient → Prop) : Prop :=
  ∀ s, Alone o s₀ v c s →
    wp (solo (sc05System (simulatorPortal text) settings) (Admitted clean o)) pid p
      (fun r s' => ∃ v' c', Alone o s₀ v' c' s' ∧ Q r v' c') s

/-- The actions that call no portal, and that set a client's status only with the end of a run. -/
def SC05Label.plain : SC05Label → Bool
  | .callPortal .. | .prepareOperation .. | .reconcileOne .. => false
  | _ => true

theorem told_finishFailed {s : SC05State Simulator} {e : SC05Error} {flag : Bool}
    {site : FailureSite} {t : Option TaskId} {now : ℕ} (h : Told o s) :
    Told o (s.finishFailed pid o e flag site t now) := by
  simp only [SC05State.finishFailed]
  split
  · intro pid' site' status client rest hfailed
    simp only [SC05State.record, SC05State.setClientStatus, SC05State.setOperation,
      Function.update_self, List.cons.injEq, SC05Event.failed.injEq] at hfailed
    simp only [SC05State.record, SC05State.setClientStatus, SC05State.setOperation,
      Function.update_self, SC05Operation.finishFailed]
    exact hfailed.1.2.2.2
  · exact h

theorem told_finishSucceeded {s : SC05State Simulator} {t : Option TaskId} {now : ℕ}
    (h : Told o s) : Told o (s.finishSucceeded pid o t now) := by
  simp only [SC05State.finishSucceeded]
  split
  · intro pid' site' status client rest hfailed
    simp only [SC05State.record, SC05State.setOperation, Function.update_self, List.cons.injEq,
      reduceCtorEq, false_and] at hfailed
  · exact h

theorem told_sem {s : SC05State Simulator} (pid : ℕ) (l : SC05Label)
    (i : Fate (Option Interruption)) (hl : l.op? = some o) (hp : l.plain = true) (h : Told o s) :
    Told o (SC05State.sem (simulatorPortal text) settings pid l i s).2 := by
  by_cases hw : l.writesClient = true
  · cases l with
    | prepareOperation | reconcileOne => cases hp
    | finishFailed o' e flag site t =>
      obtain rfl : o' = o := Option.some.inj hl
      simp only [SC05State.sem, transaction]
      split
      · exact h
      · exact told_finishFailed h
    | finishSucceeded o' t =>
      obtain rfl : o' = o := Option.some.inj hl
      simp only [SC05State.sem, transaction]
      split
      · exact h
      · exact told_finishSucceeded h
    | _ => cases hw
  · have htouches := sem_touches (s := s) (simulatorPortal text) settings pid l i hl
    have hmove : SagaMove (η := Simulator → Simulator) o (sagaView o s) (.act pid l i) _ :=
      effect_cases hl (sem_effect (s := s) (simulatorPortal text) settings pid l i hl)
    -- the other events are not the end of a run
    have htrace : ∀ pid' site status client rest,
        (SC05State.sem (simulatorPortal text) settings pid l i s).2.traces o =
          .failed pid' site status client :: rest →
        s.traces o = .failed pid' site status client :: rest := by
      intro pid' site status client rest hfailed
      generalize hv : sagaView o (SC05State.sem (simulatorPortal text) settings pid l i s).2 = v'
        at hmove
      have hfailed' : v'.trace = .failed pid' site status client :: rest := by
        rw [← hv]; exact hfailed
      cases hmove with
      | started | called | compensating | succeeded => cases (List.cons.inj hfailed').1
      | failed => exact absurd rfl hw
      | idle | released | quarantined | waits | undispatched | marked | saved => exact hfailed'
    intro pid' site status client rest hfailed
    rw [sem_clients _ _ _ _ _ _ (by simpa using hw), htouches.client]
    exact h pid' site status client rest (htrace _ _ _ _ _ hfailed)

/-- Nothing fails any more. -/
def Calm (clean : Prop) (v : SagaView) : Prop := clean ∨ inCompensation v.trace = true

section Rules

variable {Q : Except SC05Exception α → SagaView → SimulatorClient → Prop}

theorem Solo.ret {a : α} (h : Q (.ok a) v c) : Solo text settings clean o s₀ pid v c (.ret a) Q :=
  fun _ hs => ⟨v, c, hs, h⟩

theorem Solo.raise {e : SC05Exception} (h : Q (.error e) v c) :
    Solo text settings clean o s₀ pid v c (.raise e) Q :=
  fun _ hs => ⟨v, c, hs, h⟩

theorem Solo.mono {p : SC05Prog α} {R : Except SC05Exception α → SagaView → SimulatorClient → Prop}
    (h : Solo text settings clean o s₀ pid v c p R) (hQ : ∀ r v' c', R r v' c' → Q r v' c') :
    Solo text settings clean o s₀ pid v c p Q := by
  intro s hs
  refine wp_mono ?_ (h s hs)
  rintro r s' ⟨v', c', hs', hr⟩
  exact ⟨v', c', hs', hQ _ _ _ hr⟩

theorem Solo.bind {p : SC05Prog β} {k : β → SC05Prog α}
    {R : Except SC05Exception β → SagaView → SimulatorClient → Prop}
    (h : Solo text settings clean o s₀ pid v c p R)
    (hok : ∀ a v' c', R (.ok a) v' c' → Solo text settings clean o s₀ pid v' c' (k a) Q)
    (herr : ∀ e v' c', R (.error e) v' c' → Q (.error e) v' c') :
    Solo text settings clean o s₀ pid v c (p.bind k) Q := by
  intro s hs
  refine wp_bind (wp_mono ?_ (h s hs))
  rintro (e | a) s' ⟨v', c', hs', hr⟩
  · exact ⟨v', c', hs', herr e _ _ hr⟩
  · exact hok a _ _ hr s' hs'

theorem Solo.tryCatch {p : SC05Prog α} {handler : SC05Exception → SC05Prog α}
    {R : Except SC05Exception α → SagaView → SimulatorClient → Prop}
    (h : Solo text settings clean o s₀ pid v c p R)
    (hok : ∀ a v' c', R (.ok a) v' c' → Q (.ok a) v' c')
    (herr : ∀ e v' c', R (.error e) v' c' → Solo text settings clean o s₀ pid v' c' (handler e) Q) :
    Solo text settings clean o s₀ pid v c (p.tryCatch handler) Q := by
  intro s hs
  refine wp_tryCatch (wp_mono ?_ (h s hs))
  rintro (e | a) s' ⟨v', c', hs', hr⟩
  · exact herr e _ _ hr s' hs'
  · exact ⟨v', c', hs', hok a _ _ hr⟩

theorem Solo.attempt {p : SC05Prog α}
    {R : Except SC05Exception α → SagaView → SimulatorClient → Prop}
    (h : Solo text settings clean o s₀ pid v c p R) :
    Solo text settings clean o s₀ pid v c p.attempt fun r v' c' => ∃ r', r = .ok r' ∧ R r' v' c' := by
  intro s hs
  refine wp_attempt (wp_mono ?_ (h s hs))
  rintro r s' ⟨v', c', hs', hr⟩
  exact ⟨v', c', hs', r, rfl, hr⟩

/-- One action that calls no portal. -/
theorem Solo.call {l : SC05Label} {Q : Except SC05Exception l.Resp → SagaView → SimulatorClient → Prop}
    (hl : l.op? = some o) (hp : l.plain = true)
    (h : ∀ (i : Fate (Option Interruption)) r v', (Calm clean v → i.IsClean) →
      sagaEffect pid l i v r v' → Q r v' c) :
    Solo text settings clean o s₀ pid v c (.call l) Q := by
  intro s hs
  refine wp_solo_call fun i hi => ?_
  have heff := sem_effect (s := s) (simulatorPortal text) settings pid l i hl
  rw [hs.view] at heff
  refine ⟨_, c, ⟨rfl, ?_, hs.touches.trans (sem_touches _ _ _ _ _ hl),
    told_sem pid l i hl hp hs.told⟩, h i _ _ (fun hc => hi ?_) heff⟩
  · show (SC05State.sem (simulatorPortal text) settings pid l i s).2.portals _ = _
    rw [sem_portals _ _ _ _ _ _ (by rintro o' p request rfl; cases hp)]; exact hs.row
  · rw [← hs.view] at hc; exact hc

/-- An action in front of a program: it takes the view to `w`, or fails and leaves it alone. -/
theorem Solo.act_bind {l : SC05Label} {k : l.Resp → SC05Prog α} {P : l.Resp → Prop} {w : SagaView}
    (hl : l.op? = some o) (hp : l.plain = true)
    (heff : ∀ (i : Fate (Option Interruption)) r v', sagaEffect pid l i v r v' →
      (v' = w ∧ ∃ a, r = .ok a ∧ P a) ∨ (v' = v ∧ ∃ e, r = .error e ∧ Foreign e ∧ ¬ i.IsClean))
    (hok : ∀ a, P a → Solo text settings clean o s₀ pid w c (k a) Q)
    (herr : ¬ Calm clean v → ∀ e, Foreign e → Q (.error e) v c) :
    Solo text settings clean o s₀ pid v c ((Prog.call l).bind k) Q := by
  refine Solo.bind (R := fun r v' c' => c' = c ∧ ((v' = w ∧ ∃ a, r = .ok a ∧ P a) ∨
    (v' = v ∧ ¬ Calm clean v ∧ ∃ e, r = .error e ∧ Foreign e))) (Solo.call hl hp ?_) ?_ ?_
  · intro i r v' hcalm he
    refine ⟨rfl, (heff i r v' he).imp_right ?_⟩
    rintro ⟨rfl, e, rfl, hforeign, hno⟩
    exact ⟨rfl, fun hc => hno (hcalm hc), e, rfl, hforeign⟩
  · rintro a v' c' ⟨rfl, ⟨rfl, a', ha, hP⟩ | ⟨-, -, e, he, -⟩⟩
    · cases ha
      exact hok a hP
    · cases he
  · rintro e v' c' ⟨rfl, ⟨-, a, ha, -⟩ | ⟨rfl, hno, e', he, hforeign⟩⟩
    · cases ha
    · cases he
      exact herr hno e hforeign

theorem foreign_other (name : String) : Foreign (.other name) := ⟨by simp, by rintro y ⟨⟩⟩

theorem DbFailure.foreign {i : Fate (Option Interruption)} {e : SC05Exception} (h : DbFailure i e) :
    Foreign e ∧ ¬ i.IsClean := by
  obtain ⟨hfail, name, rfl⟩ := h
  exact ⟨foreign_other name, fun hclean => by rw [hclean.1] at hfail; cases hfail⟩

/-- The actions that check the delivery and change nothing of the view. -/
theorem Solo.locked_bind {l : SC05Label} {k : l.Resp → SC05Prog α} {t : Option TaskId}
    {P : l.Resp → Prop} (hl : l.op? = some o) (hp : l.plain = true)
    (hc : v.Current t)
    (heff : ∀ (i : Fate (Option Interruption)) r v', sagaEffect pid l i v r v' →
      Reads (Refused i t v) P v r v')
    (hok : ∀ a, P a → Solo text settings clean o s₀ pid v c (k a) Q)
    (herr : ¬ Calm clean v → ∀ e, Foreign e → Q (.error e) v c) :
    Solo text settings clean o s₀ pid v c ((Prog.call l).bind k) Q := by
  refine Solo.act_bind hl hp (fun i r v' h => ?_) hok herr
  obtain ⟨rfl, hr⟩ := heff i r v' h
  cases r with
  | ok a => exact .inl ⟨rfl, a, rfl, hr⟩
  | error e =>
    rcases hr with ⟨-, hno⟩ | hfail
    · exact absurd hc hno
    · exact .inr ⟨rfl, e, rfl, hfail.foreign⟩

/-- The other transactions that leave the view alone. -/
theorem Solo.db_bind {l : SC05Label} {k : l.Resp → SC05Prog α} {P : l.Resp → Prop}
    (hl : l.op? = some o) (hp : l.plain = true)
    (heff : ∀ (i : Fate (Option Interruption)) r v', sagaEffect pid l i v r v' →
      Reads (DbFailure i) P v r v')
    (hok : ∀ a, P a → Solo text settings clean o s₀ pid v c (k a) Q)
    (herr : ¬ Calm clean v → ∀ e, Foreign e → Q (.error e) v c) :
    Solo text settings clean o s₀ pid v c ((Prog.call l).bind k) Q := by
  refine Solo.act_bind hl hp (fun i r v' h => ?_) hok herr
  obtain ⟨rfl, hr⟩ := heff i r v' h
  cases r with
  | ok a => exact .inl ⟨rfl, a, rfl, hr⟩
  | error e => exact .inr ⟨rfl, e, rfl, DbFailure.foreign hr⟩

/-- A call of a storage, of the browser session or of the gateways. -/
theorem Solo.fault_bind {l : SC05Label} {k : l.Resp → SC05Prog α} (hl : l.op? = some o)
    (hp : l.plain = true)
    (heff : ∀ (i : Fate (Option Interruption)) r v', sagaEffect pid l i v r v' →
      Reads (Faulty i) (fun _ => True) v r v')
    (hok : ∀ a, Solo text settings clean o s₀ pid v c (k a) Q)
    (herr : ¬ Calm clean v → ∀ e, Foreign e → Q (.error e) v c) :
    Solo text settings clean o s₀ pid v c ((Prog.call l).bind k) Q := by
  refine Solo.act_bind (P := fun _ => True) hl hp (fun i r v' h => ?_) (fun a _ => hok a) herr
  obtain ⟨rfl, hr⟩ := heff i r v' h
  cases r with
  | ok a => exact .inl ⟨rfl, a, rfl, trivial⟩
  | error e =>
    obtain ⟨f, hf, rfl⟩ := hr
    refine .inr ⟨rfl, _, rfl, foreign_raised f, fun hclean => ?_⟩
    rw [hclean.2.1] at hf; cases hf

/-- The writes that check the delivery and change the status of a step. -/
theorem Solo.setStatus_bind {l : SC05Label} {p : SC05Portal} {st : SC05StepStatus}
    {k : l.Resp → SC05Prog α} {t : Option TaskId} (hl : l.op? = some o)
    (hp : l.plain = true) (hc : v.Current t)
    (heff : ∀ (i : Fate (Option Interruption)) r v', sagaEffect pid l i v r v' →
      Writes (Refused i t v) (fun _ => v.status = .running) (v.setStatus p st) v r v')
    (hok : ∀ a, Solo text settings clean o s₀ pid (v.setStatus p st) c (k a) Q)
    (herr : ¬ Calm clean v → ∀ e, Foreign e → Q (.error e) v c) :
    Solo text settings clean o s₀ pid v c ((Prog.call l).bind k) Q := by
  refine Solo.act_bind (P := fun _ => True) hl hp (fun i r v' h => ?_) (fun a _ => hok a) herr
  have he := heff i r v' h
  cases r with
  | ok a => exact .inl ⟨he.1, a, rfl, trivial⟩
  | error e =>
    obtain ⟨hv, ⟨-, hno⟩ | hfail⟩ := he
    · exact absurd hc hno
    · exact .inr ⟨hv, e, rfl, hfail.foreign⟩

/-- `step.save`. -/
theorem Solo.saveStep_bind {p : SC05Portal} {u : StepUpdate} {k : Unit → SC05Prog α}
    (hok : Solo text settings clean o s₀ pid (v.saveStep p u) c (k ()) Q)
    (herr : ¬ Calm clean v → ∀ e, Foreign e → Q (.error e) v c) :
    Solo text settings clean o s₀ pid v c ((Prog.call (SC05Label.saveStep o p u)).bind k) Q := by
  refine Solo.act_bind (P := fun _ => True) rfl rfl (fun i r v' h => ?_) (fun _ _ => hok) herr
  cases r with
  | ok a => exact .inl ⟨h.1, (), rfl, trivial⟩
  | error e => exact .inr ⟨h.1, e, rfl, DbFailure.foreign h.2⟩

/-- The last action of a program. -/
theorem Solo.of_bind {p : SC05Prog α} (h : Solo text settings clean o s₀ pid v c (p.bind .ret) Q) :
    Solo text settings clean o s₀ pid v c p Q := by
  rwa [Prog.bind_ret] at h

/-- What a gateway call may answer for the rows `c`, and what it leaves of them. -/
def Answers (text : String → String) (p : SC05Portal) (request : GatewayRequest) (calm : Prop)
    (c : SimulatorClient) (outcome : CallOutcome) (c' : SimulatorClient) : Prop :=
  ∃ (i : Option Interruption) (w : Simulator), (calm → i = none) ∧
    w request.clientReference = some c ∧ (simulatorPortal text p request i w).1 = outcome ∧
    (simulatorPortal text p request i w).2 request.clientReference = some c'

/-- The view after a portal call. -/
def SagaView.callPush (v : SagaView) (pid : ℕ) (p : SC05Portal) (phase : Phase) (call : GatewayCall)
    (outcome : CallOutcome) : SagaView :=
  v.push (.called pid p phase call (v.step p).before (v.step p).desired outcome)

/-- A portal call. -/
theorem solo_callPortal {p : SC05Portal} {request : GatewayRequest}
    (hclient : request.clientReference = s₀.clientReference o) :
    Solo text settings clean o s₀ pid v c (Prog.call (SC05Label.callPortal o p request))
      fun r v' c' => ∃ outcome, Answers text p request (Calm clean v) c outcome c' ∧
        v' = v.callPush pid p request.phase request.call outcome ∧
        match outcome with
        | .returned evidence => r = .ok evidence
        | .failed _ fault => r = .error fault.raised := by
  intro s hs
  refine wp_solo_call fun i hi => ?_
  have heff := sem_effect (s := s) (simulatorPortal text) settings pid (.callPortal o p request) i rfl
  obtain ⟨outcome, hview, hr⟩ := heff
  have htouches := hs.touches.trans (sem_touches (s := s) (simulatorPortal text) settings pid
    (.callPortal o p request) i rfl)
  have hrow : s.portals request.clientReference = some c := by rw [hclient]; exact hs.row
  have hcalm : Calm clean v → i.call = none := by
    intro hc
    refine (hi ?_).2.2
    rw [← hs.view] at hc; exact hc
  -- the call leaves a row of the client
  obtain ⟨c', hc'⟩ : ∃ c', (simulatorPortal text p request i.call s.portals).2
      request.clientReference = some c' := by
    have hcases : ReadOnly text p request s.portals
        (simulatorPortal text p request i.call s.portals) ∨ Operated text p request s.portals
          (simulatorPortal text p request i.call s.portals) := simulatorPortal_cases ..
    rcases hcases with ⟨hw, -⟩ | ⟨c1, c2, action, -, -, hw, -⟩
    · rw [hw]; exact ⟨c, hrow⟩
    · rw [hw]; exact ⟨c2, Function.update_self ..⟩
  have hsem := sem_callPortal (o := o) (simulatorPortal text) settings pid p request i s
  have houtcome : (simulatorPortal text p request i.call s.portals).1 = outcome := by
    rw [hsem, sagaView_record_self] at hview
    have htrace := congrArg SagaView.trace hview
    simp only [SagaView.push, List.cons.injEq, SC05Event.called.injEq, true_and] at htrace
    exact htrace.1.2.2
  have htold : Told o (SC05State.sem (simulatorPortal text) settings pid (.callPortal o p request)
      i s).2 := by
    intro pid' site status client rest hfailed
    have hfailed' := (congrArg SagaView.trace hview).symm.trans hfailed
    cases (List.cons.inj hfailed').1
  refine ⟨_, c', ⟨rfl, ?_, htouches, htold⟩, outcome,
    ⟨i.call, s.portals, hcalm, hrow, houtcome, hc'⟩, ?_, hr⟩
  · show (SC05State.sem (simulatorPortal text) settings pid (.callPortal o p request) i s).2.portals
      _ = some c'
    rw [hsem, ← hclient]; exact hc'
  · rw [← hs.view]; exact hview

end Rules

section Invoke

variable {operation : LoadedOperation} {t : Option TaskId}

/-- The operation in the memory of the worker is the one that runs, for the client of the run. -/
structure Loaded (o : OperationId) (s₀ : SC05State Simulator) (operation : LoadedOperation) :
    Prop where
  id : operation.id = o
  client : operation.client.externalReference = s₀.clientReference o

theorem solo_storeFailureScreenshot (ho : operation.id = o)
    (hc : v.Current operation.op.run.taskId) (p : SC05Portal) (n : ℕ) (a : SC05AttemptOperation)
    (e : SC05Error) :
    Solo text settings clean o s₀ pid v c (storeFailureScreenshot operation p n a e)
      fun r v' c' => v' = v ∧ c' = c ∧ r = .ok () := by
  subst ho
  unfold storeFailureScreenshot
  split
  · exact Solo.ret ⟨rfl, rfl, rfl⟩
  · refine Solo.tryCatch (R := fun _ v' c' => v' = v ∧ c' = c) ?_ (fun a _ _ h => ⟨h.1, h.2, rfl⟩) ?_
    · refine Solo.fault_bind rfl rfl (fun _ _ _ h => h) (fun stored => ?_)
        fun _ _ _ => ⟨rfl, rfl⟩
      refine Solo.locked_bind rfl rfl hc (fun _ _ _ h => h) (fun _ _ => ?_)
        fun _ _ _ => ⟨rfl, rfl⟩
      exact Solo.of_bind (Solo.db_bind rfl rfl (fun _ _ _ h => h)
        (fun _ _ => Solo.ret ⟨rfl, rfl⟩) fun _ _ _ => ⟨rfl, rfl⟩)
    · rintro e v' c' ⟨rfl, rfl⟩; exact Solo.ret ⟨rfl, rfl, rfl⟩

/-- The handlers of `_invoke` raise, an error of the portal if nothing else fails. -/
theorem solo_failInvocation {α : Type} (ho : operation.id = o)
    (hc : v.Current operation.op.run.taskId) (p : SC05Portal) (n : ℕ) (a : SC05AttemptOperation)
    (ev : Option PortalEvidence) {e : SC05Exception} (he : Foreign e) :
    Solo text settings clean o s₀ pid v c (failInvocation operation p n a ev e : SC05Prog α)
      fun r v' c' => v' = v ∧ c' = c ∧
        ∃ e', r = .error e' ∧ Foreign e' ∧ (Calm clean v → ∃ x, e' = .sc05 x) := by
  subst ho
  have hdb : ¬ Calm clean v → ∀ e', Foreign e' → v = v ∧ c = c ∧
      ∃ e'', (.error e' : Except SC05Exception α) = .error e'' ∧ Foreign e'' ∧
        (Calm clean v → ∃ x, e'' = .sc05 x) :=
    fun hno e' he' => ⟨rfl, rfl, e', rfl, he', fun hc => absurd hc hno⟩
  unfold failInvocation
  split
  · exact absurd rfl he.1
  · rename_i x
    refine Solo.locked_bind rfl rfl hc (fun _ _ _ h => h) (fun _ _ => ?_) hdb
    refine Solo.bind (solo_storeFailureScreenshot rfl hc p n a x) ?_
      (by rintro e v' c' ⟨-, -, h⟩; cases h)
    rintro _ v' c' ⟨rfl, rfl, -⟩
    refine Solo.locked_bind rfl rfl hc (fun _ _ _ h => h) (fun _ _ => ?_) hdb
    refine Solo.locked_bind rfl rfl hc (fun _ _ _ h => h) (fun _ _ => ?_) hdb
    exact Solo.raise ⟨rfl, rfl, _, rfl, he, fun _ => ⟨x, rfl⟩⟩
  · refine Solo.locked_bind rfl rfl hc (fun _ _ _ h => h) (fun _ _ => ?_) hdb
    refine Solo.locked_bind rfl rfl hc (fun _ _ _ h => h) (fun _ _ => ?_) hdb
    exact Solo.raise ⟨rfl, rfl, _, rfl, ⟨by simp, by rintro y ⟨⟩; simp⟩, fun _ => ⟨_, rfl⟩⟩

/-- `step.save` of the answer of a portal writes nothing the view shows. -/
theorem saveStep_afterState_view (v : SagaView) (p : SC05Portal) (st : PortalState) :
    v.saveStep p { afterState := some st } = v := by
  simp [SagaView.saveStep, SagaView.setStep]

theorem solo_preserveEvidence (ho : operation.id = o) (hc : v.Current operation.op.run.taskId)
    (p : SC05Portal) (n : ℕ) (a : SC05AttemptOperation) (ev : PortalEvidence) :
    Solo text settings clean o s₀ pid v c (preserveEvidence operation p n a ev)
      fun r v' c' => v' = v ∧ c' = c ∧ ∀ e, r = .error e → ¬ Calm clean v ∧ Foreign e := by
  subst ho
  have hdb : ∀ {β : Type}, ¬ Calm clean v → ∀ e', Foreign e' → v = v ∧ c = c ∧
      ∀ e, (.error e' : Except SC05Exception β) = .error e → ¬ Calm clean v ∧ Foreign e := by
    intro β hno e' he'
    refine ⟨rfl, rfl, fun e h => ?_⟩
    cases h
    exact ⟨hno, he'⟩
  unfold preserveEvidence
  refine Solo.locked_bind rfl rfl hc (fun _ _ _ h => h) (fun _ _ => ?_) hdb
  refine Solo.bind (R := fun r v' c' => v' = v ∧ c' = c ∧ ∀ e, r = .error e →
    ¬ Calm clean v ∧ Foreign e) ?_ ?_ ?_
  · unfold saveAfterState
    split
    · exact Solo.ret ⟨rfl, rfl, fun _ h => by cases h⟩
    · exact Solo.of_bind (Solo.saveStep_bind (Solo.ret ⟨saveStep_afterState_view v p _, rfl,
        fun _ h => by cases h⟩) hdb)
  · rintro _ v' c' ⟨rfl, rfl, -⟩
    refine Solo.fault_bind rfl rfl (fun _ _ _ h => h) (fun stored => ?_) hdb
    refine Solo.locked_bind rfl rfl hc (fun _ _ _ h => h) (fun _ _ => ?_) hdb
    exact Solo.of_bind (Solo.db_bind rfl rfl (fun _ _ _ h => h)
      (fun _ _ => Solo.ret ⟨rfl, rfl, fun _ h => by cases h⟩) hdb)
  · rintro e v' c' ⟨rfl, rfl, h⟩
    refine ⟨rfl, rfl, fun e' he' => ?_⟩
    cases he'
    exact h e rfl

/-- How `_invoke` ends: with an error before its call, with the answer of the call, or with an error
after it, which is the call's own when nothing else fails. -/
def SoloInvoked (text : String → String) (clean : Prop) (o : OperationId)
    (s₀ : SC05State Simulator) (operation : LoadedOperation) (pid : ℕ) (v : SagaView)
    (c : SimulatorClient) (p : SC05Portal) (phase : Phase) (call : GatewayCall)
    (r : Except SC05Exception PortalEvidence) (v' : SagaView) (c' : SimulatorClient) : Prop :=
  (v' = v ∧ c' = c ∧ ¬ Calm clean v ∧ ∃ e, r = .error e ∧ Foreign e) ∨
  ∃ outcome, v' = v.callPush pid p phase call outcome ∧
    Answers text p
      { clientReference := s₀.clientReference o
        scenario := executionScenario operation.op.scenario operation.op.resumeCount
        phase := phase, call := call } (Calm clean v) c outcome c' ∧
    ((∃ evidence, r = .ok evidence ∧ outcome = .returned evidence) ∨
      ∃ e, r = .error e ∧ Foreign e ∧
        (Calm clean v → (∃ x, e = .sc05 x) ∧ ∃ b f, outcome = .failed b f))

theorem callPush_current {p : SC05Portal} {phase : Phase} {call : GatewayCall}
    {outcome : CallOutcome} (h : v.Current t) : (v.callPush pid p phase call outcome).Current t := h

theorem callPush_calm {p : SC05Portal} {phase : Phase} {call : GatewayCall}
    {outcome : CallOutcome} : Calm clean (v.callPush pid p phase call outcome) ↔ Calm clean v :=
  Iff.rfl

/-- **`_invoke` makes one portal call.** -/
theorem solo_invoke (hl : Loaded o s₀ operation) (hc : v.Current operation.op.run.taskId)
    (p : SC05Portal) (a : SC05AttemptOperation) (st : PortalState) (phase : Phase)
    (call : GatewayCall) :
    Solo text settings clean o s₀ pid v c (invoke operation p a st phase call)
      (SoloInvoked text clean o s₀ operation pid v c p phase call) := by
  obtain ⟨rfl, hclient⟩ := hl
  have hearly : ¬ Calm clean v → ∀ e, Foreign e →
      SoloInvoked text clean operation.id s₀ operation pid v c p phase call (.error e) v c :=
    fun hno e he => .inl ⟨rfl, rfl, hno, e, rfl, he⟩
  unfold invoke
  -- the delivery is checked and the attempt is opened, then the portal is called
  refine Solo.locked_bind rfl rfl hc (fun _ _ _ h => h) (fun _ _ => ?_) hearly
  refine Solo.locked_bind rfl rfl hc (fun _ _ _ h => h) (fun n _ => ?_) hearly
  refine Solo.bind (Solo.attempt (solo_callPortal hclient)) ?_
    (by rintro e v' c' ⟨r', h, -⟩; cases h)
  rintro r v1 c1 ⟨r', h, outcome, hans, rfl, hr⟩
  cases h
  have hans' := hans
  rw [hclient] at hans'
  cases outcome with
  | failed b f =>
    subst hr
    refine (solo_failInvocation rfl (callPush_current hc) p n a none (foreign_raised f)).mono ?_
    rintro r v' c' ⟨rfl, rfl, e, rfl, he, hsc05⟩
    exact .inr ⟨_, rfl, hans', .inr ⟨e, rfl, he, fun hcalm =>
      ⟨hsc05 (callPush_calm.2 hcalm), b, f, rfl⟩⟩⟩
  | returned ev =>
    subst hr
    have hlate : ¬ Calm clean v → ∀ e, Foreign e →
        SoloInvoked text clean operation.id s₀ operation pid v c p phase call (.error e)
          (v.callPush pid p phase call (.returned ev)) c1 :=
      fun hno e he => .inr ⟨_, rfl, hans', .inr ⟨e, rfl, he, fun hcalm => absurd hcalm hno⟩⟩
    refine Solo.bind (R := fun r v' c' => v' = v.callPush pid p phase call (.returned ev) ∧
        c' = c1 ∧ ∀ e, r = .error e → Foreign e ∧ ¬ Calm clean v) ?_ ?_ ?_
    · -- evidence that is not stored fails the attempt, with the call made
      refine Solo.tryCatch (solo_preserveEvidence rfl (callPush_current hc) p n a ev) ?_ ?_
      · rintro _ v' c' ⟨rfl, rfl, -⟩; exact ⟨rfl, rfl, fun _ h => by cases h⟩
      · rintro e v' c' ⟨rfl, rfl, he⟩
        obtain ⟨hno, hforeign⟩ := he e rfl
        refine (solo_failInvocation rfl (callPush_current hc) p n a (some ev) hforeign).mono ?_
        rintro r v' c' ⟨rfl, rfl, e', rfl, he', -⟩
        refine ⟨rfl, rfl, fun _ h => ?_⟩
        cases h
        exact ⟨he', fun hcalm => hno (callPush_calm.2 hcalm)⟩
    · rintro _ v' c' ⟨rfl, rfl, -⟩
      refine Solo.locked_bind rfl rfl (callPush_current hc) (fun _ _ _ h => h) (fun _ _ => ?_)
        hlate
      refine Solo.locked_bind rfl rfl (callPush_current hc) (fun _ _ _ h => h) (fun _ _ => ?_)
        hlate
      exact Solo.ret (.inr ⟨_, rfl, hans', .inl ⟨ev, rfl, rfl⟩⟩)
    · rintro e v' c' ⟨rfl, rfl, he⟩
      exact hlate (he e rfl).2 e (he e rfl).1

end Invoke

section Answers

variable {p : SC05Portal} {request : GatewayRequest} {outcome : CallOutcome} {c' : SimulatorClient}
  {calm : Prop}

theorem answers_inspect {st : PortalState} (hcall : request.call = .inspect)
    (hread : readState text p (some c) = .ok st) (h : Answers text p request calm c outcome c') :
    c' = c ∧ (∀ evidence, outcome = .returned evidence → evidence = { state := st }) ∧
      (calm → ∃ evidence, outcome = .returned evidence) := by
  obtain ⟨i, w, hi, hw, hout, hrow⟩ := h
  have hsim : simulatorPortal text p request i w =
      match i with
      | some x => (.failed false x.fault, w)
      | none => (.returned { state := st }, w) := by
    simp only [simulatorPortal, hcall, inspectCall, hw, hread]
    cases i <;> rfl
  rw [hsim] at hout hrow
  cases i with
  | some x =>
    refine ⟨Option.some.inj (hrow.symm.trans hw), fun _ he => ?_, fun hc => by cases hi hc⟩
    rw [← hout] at he; cases he
  | none =>
    refine ⟨Option.some.inj (hrow.symm.trans hw), fun _ he => ?_, fun _ => ⟨_, hout.symm⟩⟩
    rw [← hout] at he; cases he; rfl

theorem answers_apply {action : SC05Action} {st : PortalState} (hcall : request.call = .apply action)
    (hread : readState text p (some (c.submitted p action)) = .ok st)
    (h : Answers text p request calm c outcome c') :
    (c' = c ∨ c' = c.submitted p action) ∧
      (∀ evidence, outcome = .returned evidence →
        evidence = { state := st } ∧ c' = c.submitted p action) ∧
      (calm → ∀ c₁, submit p action request.scenario request.phase (some c) = .ok c₁ →
        ∃ evidence, outcome = .returned evidence) := by
  obtain ⟨i, w, hi, hw, hout, hrow⟩ := h
  have hsim : simulatorPortal text p request i w =
      applyCall text p request.clientReference action request.scenario request.phase i w := by
    simp only [simulatorPortal, hcall]
  rw [hsim] at hout hrow
  rcases i with _ | ⟨_ | _, f⟩
  · simp only [applyCall, hw] at hout hrow
    cases hform : submit p action request.scenario request.phase (some c) with
    | error f =>
      simp only [hform] at hout hrow
      refine ⟨.inl (Option.some.inj (hrow.symm.trans hw)), fun _ he => ?_, fun _ c₁ h => by cases h⟩
      rw [← hout] at he; cases he
    | ok c₁ =>
      obtain rfl := submit_ok hform
      simp only [hform, hread, Function.update_self, Option.some.injEq] at hout hrow
      refine ⟨.inr hrow.symm, fun _ he => ?_, fun _ _ _ => ⟨_, hout.symm⟩⟩
      rw [← hout] at he; cases he
      exact ⟨rfl, hrow.symm⟩
  · simp only [applyCall] at hout hrow
    refine ⟨.inl (Option.some.inj (hrow.symm.trans hw)), fun _ he => ?_, fun hc => by cases hi hc⟩
    rw [← hout] at he; cases he
  · simp only [applyCall, hw] at hout hrow
    cases hform : submit p action request.scenario request.phase (some c) with
    | error f =>
      simp only [hform] at hout hrow
      refine ⟨.inl (Option.some.inj (hrow.symm.trans hw)), fun _ he => ?_, fun hc => by cases hi hc⟩
      rw [← hout] at he; cases he
    | ok c₁ =>
      obtain rfl := submit_ok hform
      simp only [hform, Function.update_self, Option.some.injEq] at hout hrow
      refine ⟨.inr hrow.symm, fun _ he => ?_, fun hc => by cases hi hc⟩
      rw [← hout] at he; cases he

/-- A restoration that nothing disturbs submits the form of its action, and compares what it left. -/
theorem answers_restore {c₁ : SimulatorClient} {st current expected target : PortalState}
    {action : SC05Action} (hcalm : calm)
    (hcall : request.call = .restore expected target)
    (hread : readState text p (some c) = .ok current) (hsame : statesEqual current expected = true)
    (haction : restoreAction p target = .ok action)
    (hform : submit p action request.scenario request.phase (some c) = .ok c₁)
    (hread₁ : readState text p (some c₁) = .ok st) (h : Answers text p request calm c outcome c') :
    c' = c₁ ∧ (statesEqual st target = true → outcome = .returned { state := st }) ∧
      (statesEqual st target = false → ∃ b f, outcome = .failed b f) := by
  obtain ⟨i, w, hi, hw, hout, hrow⟩ := h
  obtain rfl := hi hcalm
  have hsim : simulatorPortal text p request none w =
      if statesEqual st target then
        (.returned { state := st }, Function.update w request.clientReference (some c₁))
      else (.failed (w request.clientReference != some c₁) .conflict,
        Function.update w request.clientReference (some c₁)) := by
    simp only [simulatorPortal, hcall, restoreCall, hw, hread, hsame, Bool.not_true,
      Bool.false_eq_true, if_false, haction, applyCall, hform, hread₁, Function.update_self]
  rw [hsim] at hout hrow
  by_cases hst : statesEqual st target = true
  · rw [if_pos hst] at hout hrow
    simp only [Function.update_self, Option.some.injEq] at hrow
    exact ⟨hrow.symm, fun _ => hout.symm, fun hno => by rw [hst] at hno; cases hno⟩
  · rw [if_neg hst] at hout hrow
    simp only [Function.update_self, Option.some.injEq] at hrow
    exact ⟨hrow.symm, fun h => absurd h hst, fun _ => ⟨_, _, hout.symm⟩⟩

end Answers

end SheepContabil
