import SheepContabil.Proof.Sc05Discipline

/-!
# What an action on one operation leaves alone

* `sem_touches`: the other operations, the clients' identifiers and the other clients.
* `sem_portals`, `sem_clients`: only a portal call reaches the portals, and a run that has
  succeeded keeps its client.
* `sem_call`: what a portal call does.
* `run_addressed`: every portal call of a run is about the client of its operation.
-/

namespace SheepContabil

open Conc Conc.Prog

variable {W ι α : Type} {o : OperationId} {s : SC05State W} {i : Fate ι}

section Touches

/-- What an action on operation `o` leaves alone. -/
structure Touches (o : OperationId) (s s' : SC05State W) : Prop where
  count : s'.operationCount = s.operationCount
  operations : ∀ o', o' ≠ o → s'.operations o' = s.operations o'
  client : (s'.operations o).client = (s.operations o).client
  scenario : (s'.operations o).scenario = (s.operations o).scenario
  reference : ∀ c, (s'.clients c).externalReference = (s.clients c).externalReference
  clients : ∀ c, c ≠ (s.operations o).client → s'.clients c = s.clients c
  traces : ∀ o', o' ≠ o → s'.traces o' = s.traces o'
  workers : ∀ o', o' ≠ o → s'.workers o' = s.workers o' ∨ s'.workers o' = none

theorem Touches.refl (o : OperationId) (s : SC05State W) : Touches o s s :=
  ⟨rfl, fun _ _ => rfl, rfl, rfl, fun _ => rfl, fun _ _ => rfl, fun _ _ => rfl, fun _ _ => .inl rfl⟩

theorem Touches.trans {s s' s'' : SC05State W} (h : Touches o s s') (h' : Touches o s' s'') :
    Touches o s s'' := by
  refine ⟨h'.count.trans h.count, fun o' ho => (h'.operations o' ho).trans (h.operations o' ho),
    h'.client.trans h.client, h'.scenario.trans h.scenario,
    fun c => (h'.reference c).trans (h.reference c),
    fun c hc => (h'.clients c (by rw [h.client]; exact hc)).trans (h.clients c hc),
    fun o' ho => (h'.traces o' ho).trans (h.traces o' ho), fun o' ho => ?_⟩
  rcases h'.workers o' ho with hw' | hw'
  · rw [hw']; exact h.workers o' ho
  · exact .inr hw'

theorem touches_setOperation {op : SC05Operation} (hc : op.client = (s.operations o).client)
    (hs : op.scenario = (s.operations o).scenario) : Touches o s (s.setOperation o op) :=
  ⟨rfl, fun o' ho => by simp [ho], by simpa using hc, by simpa using hs, fun _ => rfl,
    fun _ _ => rfl, fun _ _ => rfl, fun _ _ => .inl rfl⟩

theorem touches_setClientStatus {c : ClientId} (hc : c = (s.operations o).client)
    (status : SC05ClientStatus) : Touches o s (s.setClientStatus c status) := by
  subst hc
  refine ⟨rfl, fun _ _ => rfl, rfl, rfl, fun c => ?_, fun c hc => ?_, fun _ _ => rfl,
    fun _ _ => .inl rfl⟩
  · by_cases h : c = (s.operations o).client
    · subst h; simp [SC05State.setClientStatus]
    · simp [SC05State.setClientStatus, h]
  · simp [SC05State.setClientStatus, hc]

/-- The rest of a state is nobody's operation or client. -/
theorem touches_of_rows {s' : SC05State W} (h1 : s'.operations = s.operations)
    (h2 : s'.operationCount = s.operationCount) (h3 : s'.clients = s.clients)
    (h4 : ∀ o', o' ≠ o → s'.traces o' = s.traces o')
    (h5 : ∀ o', o' ≠ o → s'.workers o' = s.workers o') : Touches o s s' :=
  ⟨h2, fun _ _ => by rw [h1], by rw [h1], by rw [h1], fun _ => by rw [h3], fun _ _ => by rw [h3],
    h4, fun o' ho => .inl (h5 o' ho)⟩

theorem touches_record (e : SC05Event) : Touches o s (s.record o e) :=
  touches_of_rows rfl rfl rfl (fun _ ho => by simp [SC05State.record, ho]) fun _ _ => rfl

theorem touches_setWorker (w : Option ℕ) : Touches o s (s.setWorker o w) :=
  touches_of_rows rfl rfl rfl (fun _ _ => rfl) fun _ ho => by simp [SC05State.setWorker, ho]

theorem touches_operation {s' : SC05State W} (op : SC05Operation)
    (h1 : s'.operations = (s.setOperation o op).operations)
    (h2 : s'.operationCount = s.operationCount) (h3 : s'.clients = s.clients)
    (hc : op.client = (s.operations o).client) (hs : op.scenario = (s.operations o).scenario)
    (h4 : s'.traces = s.traces) (h5 : s'.workers = s.workers) : Touches o s s' :=
  (touches_setOperation hc hs).trans
    (touches_of_rows h1 h2 h3 (fun _ _ => by rw [h4]; rfl) fun _ _ => by rw [h5]; rfl)

theorem touches_transaction {body : Except SC05Exception α × SC05State W}
    (h : Touches o s body.2) : Touches o s (transaction i s body).2 :=
  transaction_state (P := Touches o s) (.refl o s) h

theorem touches_locked {t : Option TaskId} {body : α × SC05State W}
    (h : Touches o s body.2) : Touches o s (lockedTransaction i s o t body).2 :=
  locked_state (P := Touches o s) (.refl o s) h

theorem touches_adapter {result : α × SC05State W} (h : Touches o s result.2) :
    Touches o s (adapterCall i s result).2 :=
  adapter_state (P := Touches o s) (.refl o s) h

theorem touches_prepareOperation (pid : ℕ) (t : SuppliedTaskId) (b : Bool) (now : ℕ) :
    Touches o s (s.prepareOperation pid o t b now).2 := by
  unfold SC05State.prepareOperation
  split
  · exact .refl o s
  simp only
  have hop : ∀ op', ((s.operations o).prepare t b now = .quarantined op' ∨
      (s.operations o).prepare t b now = .execute op') →
      op'.client = (s.operations o).client ∧ op'.scenario = (s.operations o).scenario := by
    intro op' h
    unfold SC05Operation.prepare at h
    split at h
    · simp at h
    · simp only at h
      split_ifs at h
      all_goals simp only [SC05Operation.Preparation.quarantined.injEq,
        SC05Operation.Preparation.execute.injEq, or_false, false_or, or_self] at h
      · subst h; exact ⟨rfl, rfl⟩
      · subst h; exact ⟨rfl, rfl⟩
  split
  · exact .refl o s
  · rename_i op' h
    obtain ⟨hc, hs⟩ := hop op' (.inl h)
    exact (touches_setOperation hc hs).trans (touches_setClientStatus (by simp [hc]) _)
  · rename_i op' h
    obtain ⟨hc, hs⟩ := hop op' (.inr h)
    exact ((touches_setOperation hc hs).trans (touches_setWorker _)).trans (touches_record _)

theorem touches_resumeRun (now : ℕ) : Touches o s (s.resumeRun o now).2 := by
  unfold SC05State.resumeRun
  simp only
  split_ifs
  · exact .refl o s
  · exact .refl o s
  · exact .refl o s
  · exact touches_operation ((s.operations o).resume now s.nextTaskId) rfl rfl rfl rfl rfl rfl rfl

theorem touches_finishSucceeded (pid : ℕ) (t : Option TaskId) (now : ℕ) :
    Touches o s (s.finishSucceeded pid o t now) := by
  simp only [SC05State.finishSucceeded]
  split_ifs
  swap
  · exact .refl o s
  refine ⟨rfl, fun o' ho => by simp [SC05State.record, ho],
    by simp [SC05State.record, SC05Operation.finishSucceeded],
    by simp [SC05State.record, SC05Operation.finishSucceeded], fun c => ?_, fun c hc => ?_,
    fun o' ho => by simp [SC05State.record, ho], fun _ _ => .inl rfl⟩
  · by_cases h : c = (s.operations o).client
    · subst h
      simp only [Function.update_self, SC05Operation.succeededClient]
      split <;> rfl
    · simp [h]
  · simp [hc]

theorem touches_finishFailed (pid : ℕ) (e : SC05Error) (flag : Bool) (site : FailureSite)
    (t : Option TaskId) (now : ℕ) : Touches o s (s.finishFailed pid o e flag site t now) := by
  simp only [SC05State.finishFailed]
  split_ifs
  · have h : Touches o s (s.setOperation o ((s.operations o).finishFailed e flag now)) :=
      touches_setOperation rfl rfl
    exact (h.trans (touches_setClientStatus (by simp [SC05Operation.finishFailed]) _)).trans
      (touches_record _)
  · exact .refl o s

theorem touches_reconcileOne (settings : Settings) (now : ℕ) :
    Touches o s (s.reconcileOne settings o now).2 := by
  have hcases := reconcileOne_cases (s.operations o) (s.clients (s.operations o).client) settings now
    s.nextTaskId
  unfold SC05State.reconcileOne
  simp only
  split
  · exact .refl o s
  · rename_i recovery op' quarantined hskip heq
    rw [heq] at hcases
    obtain ⟨hc, hs⟩ : op'.client = (s.operations o).client ∧
        op'.scenario = (s.operations o).scenario := by
      rcases hcases with h | ⟨-, run, -, -, h⟩ | ⟨-, run, -, -, h⟩
      · exact absurd h hskip
      · simp only at h; subst h; exact ⟨rfl, rfl⟩
      · simp only at h; subst h; exact ⟨rfl, rfl⟩
    have h1 : Touches o s { s.setOperation o op' with nextTaskId := s.nextTaskId + 1 } :=
      touches_operation op' rfl rfl rfl hc hs rfl rfl
    simp only
    split_ifs
    · refine h1.trans (touches_setClientStatus ?_ _)
      show _ = ((s.setOperation o op').operations o).client
      simpa using hc.symm
    · exact h1

/-- **An action on an operation leaves the others alone.** -/
theorem sem_touches (portal : PortalBackend W ι) (settings : Settings) (pid : ℕ) (l : SC05Label)
    (i : Fate ι) (hl : l.op? = some o) :
    Touches o s (SC05State.sem portal settings pid l i s).2 := by
  cases l <;> simp only [SC05Label.op?, Option.some.injEq, reduceCtorEq] at hl <;> subst hl
  case callPortal o p request =>
    simp only [SC05State.sem]
    have h : Touches o s { s with portals := (portal p request i.call s.portals).2 } :=
      touches_of_rows rfl rfl rfl (fun _ _ => rfl) fun _ _ => rfl
    split <;> exact h.trans (touches_record _)
  case acknowledge o =>
    simp only [SC05State.sem]
    split
    · exact touches_setWorker _
    · exact .refl o s
  case prepareOperation => exact touches_transaction (touches_prepareOperation ..)
  case resumeRun => exact touches_transaction (touches_resumeRun _)
  case finishSucceeded => exact touches_transaction (touches_finishSucceeded ..)
  case finishFailed => exact touches_transaction (touches_finishFailed ..)
  case reconcileOne => exact touches_transaction (touches_reconcileOne ..)
  case dispatchStart o =>
    exact touches_transaction (touches_operation
      { s.operations o with run := ((s.run o).dispatchStart i.now s.nextTaskId).2 }
      rfl rfl rfl rfl rfl rfl rfl)
  case publish =>
    exact touches_adapter (touches_of_rows rfl rfl rfl (fun _ _ => rfl) fun _ _ => rfl)
  case compensationCandidates => exact touches_transaction (touches_record _)
  all_goals
    first
      | exact touches_transaction (.refl _ _)
      | exact touches_locked (.refl _ _)
      | exact touches_adapter (.refl _ _)
      | exact touches_transaction (touches_setOperation rfl rfl)
      | exact touches_locked (touches_setOperation rfl rfl)

/-- The death of a process releases what it was working on. -/
theorem crash_touches (portal : PortalBackend W ι) (settings : Settings) (pid : ℕ) :
    Touches o s ((sc05System portal settings).onCrash pid s) := by
  refine ⟨rfl, fun _ _ => rfl, rfl, rfl, fun _ => rfl, fun _ _ => rfl, fun _ _ => rfl,
    fun o' _ => ?_⟩
  simp only [sc05System]
  split
  · exact .inr rfl
  · exact .inl rfl

end Touches

section Portals

theorem portals_transaction {body : Except SC05Exception α × SC05State W}
    (h : body.2.portals = s.portals) : (transaction i s body).2.portals = s.portals :=
  transaction_state (P := fun s' => s'.portals = s.portals) rfl h

theorem portals_locked {t : Option TaskId} {body : α × SC05State W}
    (h : body.2.portals = s.portals) : (lockedTransaction i s o t body).2.portals = s.portals :=
  locked_state (P := fun s' => s'.portals = s.portals) rfl h

theorem portals_adapter {result : α × SC05State W} (h : result.2.portals = s.portals) :
    (adapterCall i s result).2.portals = s.portals :=
  adapter_state (P := fun s' => s'.portals = s.portals) rfl h

/-- An action that is no portal call reaches no portal. -/
theorem sem_portals (portal : PortalBackend W ι) (settings : Settings) (pid : ℕ) (l : SC05Label)
    (i : Fate ι) (s : SC05State W) (hl : ∀ o p request, l ≠ .callPortal o p request) :
    (SC05State.sem portal settings pid l i s).2.portals = s.portals := by
  cases l with
  | callPortal o p request => exact absurd rfl (hl o p request)
  | acknowledge o => simp only [SC05State.sem]; split <;> rfl
  | prepareOperation o t b =>
    refine portals_transaction ?_
    unfold SC05State.prepareOperation
    split
    · rfl
    · simp only; split <;> rfl
  | createRun c a sc k =>
    refine portals_transaction ?_
    unfold SC05State.createRun
    split
    · rfl
    · simp only [SC05State.createRun.refused]
      split_ifs <;> rfl
  | resumeRun o =>
    refine portals_transaction ?_
    unfold SC05State.resumeRun
    simp only; split_ifs <;> rfl
  | finishSucceeded o t =>
    refine portals_transaction ?_
    simp only [SC05State.finishSucceeded]; split_ifs <;> rfl
  | finishFailed o e b site t =>
    refine portals_transaction ?_
    simp only [SC05State.finishFailed]; split_ifs <;> rfl
  | reconcileOne o now =>
    refine portals_transaction ?_
    simp only [SC05State.reconcileOne]
    split
    · rfl
    · simp only; split_ifs <;> rfl
  | _ o =>
    simp only [SC05State.sem]
    first
      | exact portals_transaction rfl
      | exact portals_locked rfl
      | exact portals_adapter rfl

/-- A portal call of the system. -/
theorem sem_callPortal (portal : PortalBackend W ι) (settings : Settings) (pid : ℕ) (p : SC05Portal)
    (request : GatewayRequest) (i : Fate ι) (s : SC05State W) :
    (SC05State.sem portal settings pid (.callPortal o p request) i s).2 =
      { s with portals := (portal p request i.call s.portals).2 }.record o
        (.called pid p request.phase request.call (s.step o p).beforeState (s.step o p).desiredState
          (portal p request i.call s.portals).1) := by
  simp only [SC05State.sem]
  split <;> rfl

end Portals

section Clients

theorem clients_transaction {body : Except SC05Exception α × SC05State W}
    (h : body.2.clients = s.clients) : (transaction i s body).2.clients = s.clients :=
  transaction_state (P := fun s' => s'.clients = s.clients) rfl h

theorem clients_locked {t : Option TaskId} {body : α × SC05State W}
    (h : body.2.clients = s.clients) : (lockedTransaction i s o t body).2.clients = s.clients :=
  locked_state (P := fun s' => s'.clients = s.clients) rfl h

theorem clients_adapter {result : α × SC05State W} (h : result.2.clients = s.clients) :
    (adapterCall i s result).2.clients = s.clients :=
  adapter_state (P := fun s' => s'.clients = s.clients) rfl h

/-- The actions that may write a client. -/
def SC05Label.writesClient : SC05Label → Bool
  | prepareOperation .. | finishSucceeded .. | finishFailed .. | reconcileOne .. => true
  | _ => false

theorem sem_clients (portal : PortalBackend W ι) (settings : Settings) (pid : ℕ) (l : SC05Label)
    (i : Fate ι) (s : SC05State W) (hl : l.writesClient = false) :
    (SC05State.sem portal settings pid l i s).2.clients = s.clients := by
  cases l with
  | prepareOperation | finishSucceeded | finishFailed | reconcileOne => cases hl
  | callPortal o p request => simp only [SC05State.sem]; split <;> rfl
  | acknowledge o => simp only [SC05State.sem]; split <;> rfl
  | createRun c a sc k =>
    refine clients_transaction ?_
    unfold SC05State.createRun
    split
    · rfl
    · simp only [SC05State.createRun.refused]
      split_ifs <;> rfl
  | resumeRun o =>
    refine clients_transaction ?_
    unfold SC05State.resumeRun
    simp only; split_ifs <;> rfl
  | _ o =>
    simp only [SC05State.sem]
    first
      | exact clients_transaction rfl
      | exact clients_locked rfl
      | exact clients_adapter rfl

/-- A run that has succeeded keeps its client as it is. -/
theorem sem_clients_of_succeeded (portal : PortalBackend W ι) (settings : Settings) (pid : ℕ)
    (l : SC05Label) (i : Fate ι) (hl : l.op? = some o)
    (hs : (s.operations o).run.status = .succeeded) :
    (SC05State.sem portal settings pid l i s).2.clients = s.clients := by
  have hcur : ∀ t, (s.operations o).run.deliveryIsCurrent t = false := by
    intro t; simp [AutomationRun.deliveryIsCurrent, hs]
  cases l <;> simp only [SC05Label.op?, Option.some.injEq, reduceCtorEq] at hl <;> subst hl
  case prepareOperation o t b =>
    refine clients_transaction ?_
    have hprep : (s.operations o).prepare t b i.now = .ignored := by
      unfold SC05Operation.prepare
      rcases hbind : (s.operations o).run.bindDelivery t with _ | run
      · rfl
      have hrun : run.status = .succeeded := by
        obtain ⟨-, rfl⟩ := AutomationRun.bindDelivery_some hbind
        exact hs
      simp [hrun, RunStatus.isActive]
    unfold SC05State.prepareOperation
    split
    · rfl
    · simp only [hprep]
  case finishSucceeded o t =>
    exact clients_transaction (by simp [SC05State.finishSucceeded, hcur])
  case finishFailed o e flag site t =>
    exact clients_transaction (by simp [SC05State.finishFailed, hcur])
  case reconcileOne o now =>
    refine clients_transaction ?_
    have hskip : (s.operations o).reconcileOne (s.clients (s.operations o).client) settings now
        s.nextTaskId = (.skipped, s.operations o, false) := by
      unfold SC05Operation.reconcileOne
      split_ifs
      · rfl
      · simp [hs]
      · simp [hs]
      · simp [hs]
    simp [SC05State.reconcileOne, hskip]
  all_goals exact sem_clients portal settings pid _ i s rfl

end Clients

section Addressed

theorem createRun_operations (hs : o < s.operationCount) (c : ClientId) (a : SC05Action)
    (sc : SC05Scenario) (k now : ℕ) :
    (s.createRun c a sc k now).2.operations o = s.operations o := by
  unfold SC05State.createRun
  split
  · rfl
  · simp only [SC05State.createRun.refused]
    split_ifs
    all_goals first | rfl | simp [Nat.ne_of_lt hs]

/-- The identifier of an operation's client never changes. -/
theorem sem_reference (portal : PortalBackend W ι) (settings : Settings) (pid : ℕ) (l : SC05Label)
    (i : Fate ι) (hs : o < s.operationCount) :
    let s' := (SC05State.sem portal settings pid l i s).2
    (s'.clients (s'.operations o).client).externalReference =
      (s.clients (s.operations o).client).externalReference := by
  intro s'
  cases hl : l.op? with
  | none =>
    cases l <;> simp only [SC05Label.op?, reduceCtorEq] at hl
    case createRun c a sc k =>
      have hclients : s'.clients = s.clients := sem_clients portal settings pid _ i s rfl
      have hop : s'.operations o = s.operations o := by
        show (transaction i s _).2.operations o = _
        unfold transaction
        split
        · rfl
        · exact createRun_operations hs ..
      rw [hclients, hop]
  | some o' =>
    have h := sem_touches (s := s) portal settings pid l i hl
    by_cases ho : o = o'
    · subst ho; rw [h.client]; exact h.reference _
    · rw [h.operations o ho]; exact h.reference _

/-- A portal call of operation `o` is about the client with this identifier. -/
def AboutClient (o : OperationId) (reference : String) (l : SC05Label) : Prop :=
  ∀ p request, l = .callPortal o p request → request.clientReference = reference

/-- What the processes know of their portal calls. -/
def referenceOutline (W ι : Type) (o : OperationId) (reference : String) :
    Outline SC05Label SC05Exception (SC05State W) (Fate ι) SC05Process (W → W) where
  inv s := o < s.operationCount ∧
    (s.clients (s.operations o).client).externalReference = reference
  rely _ _ _ := True
  pre _ l _ := AboutClient o reference l
  ok _ _ _ := True
  post _ _ _ _ := True

variable {reference : String} {portal : PortalBackend W ι} {settings : Settings}

theorem aboutClient_of_silent {l : SC05Label} (h : l.isWorkerWrite = false) :
    AboutClient o reference l := by
  rintro p request rfl; cases h

/-- A delivery loads the client of its operation, and calls the portals for it. -/
theorem deliver_addressed (pid : ℕ) (o' : OperationId) (t : SuppliedTaskId) (b : Bool)
    (s : SC05State W) :
    wp ((referenceOutline W ι o reference).contract (sc05System portal settings)) pid
      (deliver o' t b) (fun _ _ => True) s := by
  have hsilent : ∀ {l : SC05Label} {Q : Except SC05Exception l.Resp → SC05State W → Prop} {s},
      l.isWorkerWrite = false → (∀ r s, Q r s) →
      wp ((referenceOutline W ι o reference).contract (sc05System portal settings)) pid
        (call l) Q s := fun hl hQ =>
    wp_call fun _ _ _ => ⟨aboutClient_of_silent hl, fun _ _ _ => hQ _ _⟩
  refine wp_tryFinally (wp_mono (Q := fun _ _ => True)
    (fun r s _ => hsilent rfl (by rintro (e | a) s <;> trivial)) ?_)
  refine wp_bind (wp_mono (Q := fun _ _ => True) (by rintro (e | a) s - <;> trivial) ?_)
  refine wp_bind (wp_call fun s1 _ hinv => ⟨aboutClient_of_silent rfl, ?_⟩)
  rintro r s2 ⟨i, -, hsem⟩
  rcases r with e | ⟨⟨op, client⟩, should⟩
  · trivial
  have hclient : o' = o → client.externalReference = reference := by
    rintro rfl
    rw [← hinv.2]
    have hs : ¬ s1.operationCount ≤ o' := Nat.not_le.2 hinv.1
    simp only [sc05System, SC05State.sem, transaction, SC05State.prepareOperation, hs, if_false]
      at hsem
    split_ifs at hsem
    · simp at hsem
    · split at hsem <;> simp only [Prod.mk.injEq, Except.ok.injEq] at hsem <;>
        rw [← hsem.1.1.2]
  have haddr : ∀ l s, Addressed ⟨o', op, client⟩ l →
      ((referenceOutline W ι o reference).contract (sc05System portal settings)).pre pid l s := by
    rintro l s ⟨hop, hreq⟩ p request rfl
    simp only [SC05Label.op?, Option.some.injEq] at hop
    exact hreq.trans (hclient hop.symm)
  cases should with
  | false => exact hsilent rfl fun _ _ => trivial
  | true =>
    exact wp_within (A := Addressed ⟨o', op, client⟩) haddr
      (within_bind (within_tryCatch runSaga_within fun _ =>
        within_mono (fun _ h => h.1) (handleFailure_within _ _))
        fun _ => within_call.2 ⟨rfl, trivial⟩) fun _ _ => trivial

theorem reference_sound (W ι : Type) (o : OperationId) (reference : String)
    (portal : PortalBackend W ι) (settings : Settings) :
    (referenceOutline W ι o reference).Sound (sc05System portal settings) where
  refl _ _ := trivial
  trans _ _ _ _ _ _ := trivial
  post _ _ _ _ _ _ _ _ := trivial
  start pid k s _ := by
    rcases body_within k with ⟨o', t, b, rfl⟩ | hk
    · exact deliver_addressed pid o' t b s
    · exact wp_within (fun l s hl => aboutClient_of_silent hl) hk fun _ _ => trivial
  act pid l i s hinv _ _ :=
    ⟨⟨lt_of_lt_of_le hinv.1 (sem_count portal settings pid l i),
      (sem_reference portal settings pid l i hinv.1).trans hinv.2⟩, fun _ _ => trivial⟩
  crash _ _ hinv _ := ⟨hinv, fun _ _ => trivial⟩
  env _ _ hinv _ := ⟨hinv, fun _ _ => trivial⟩

/-- **Every portal call of a run is about the client of its operation.** -/
theorem run_addressed (hs : o < s.operationCount)
    (xs : List (Choice (Fate ι) SC05Process (W → W))) :
    (sc05System portal settings).RunOk (fun m _ => ∀ pid l i, m = .act pid l i →
      AboutClient o (s.clients (s.operations o).client).externalReference l) (Config.idle s) xs := by
  have hsound := reference_sound W ι o (s.clients (s.operations o).client).externalReference
    portal settings
  exact (hsound.knows_run (Outline.holds_idle _ _ ⟨hs, rfl⟩)
    (System.RunOk.of_forall (fun _ _ => trivial) xs _)).mono fun m _ h => h.2

end Addressed

end SheepContabil
