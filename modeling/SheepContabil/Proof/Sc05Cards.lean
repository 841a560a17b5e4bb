import SheepContabil.Proof.Sc05Frame

/-!
# What one action does to an operation and its client

The status of a client follows the runs of its operations. A *card* keeps what
decides about it: the client, the action, the status of the run, how often it was
resumed, and the captured state of the tasks.

* `CardMove`: the exits of a run, with what each writes to the client.
* `ClientMove`: one action, over all operations and clients.
* `sem_clientMove`: every action is one of them.
-/

namespace SheepContabil

open Conc Conc.Prog

variable {W ι α : Type} {o : OperationId} {s : SC05State W} {i : Fate ι}

structure OperationCard where
  client : ClientId
  requestKey : ℕ
  action : SC05Action
  resumeCount : ℕ
  module : ModuleCode
  status : RunStatus
  captured : PortalState

def SC05Operation.card (op : SC05Operation) : OperationCard where
  client := op.client
  requestKey := op.requestKey
  action := op.action
  resumeCount := op.resumeCount
  module := op.run.module
  status := op.run.status
  captured := (op.steps .tasks).beforeState

/-- The client after a run that succeeded. -/
def OperationCard.succeededClient (k : OperationCard) (c : SC05Client) : SC05Client :=
  match k.action with
  | .block => { c with status := .blocked, taskRestoreSnapshot := k.captured }
  | .unblock => { c with status := .active, taskRestoreSnapshot := [] }

/-- **What an action does to one operation and its client.** -/
inductive CardMove (k : OperationCard) (c : SC05Client) : OperationCard → SC05Client → Prop where
  | same : CardMove k c k c
  | captured (b : PortalState) (hb : k.action = .block → b ≠ []) :
      CardMove k c { k with captured := b } c
  | started (h : k.status.isActive = true) : CardMove k c { k with status := .running } c
  | closed (h : k.status = .queued) : CardMove k c { k with status := .failed } c
  | returned (h : k.status = .queued) (hr : 0 < k.resumeCount) :
      CardMove k c { k with status := .partiallyFailed } c
  | quarantined (h : k.status = .queued ∨ k.status = .running) :
      CardMove k c { k with status := .partiallyFailed } { c with status := .partialState }
  | resumed (h : k.status = .partiallyFailed) :
      CardMove k c { k with status := .queued, resumeCount := k.resumeCount + 1 } c
  | succeeded (h : k.status = .running) (hb : k.action = .block → k.captured ≠ []) :
      CardMove k c { k with status := .succeeded } (k.succeededClient c)
  | failed (h : k.status = .running) (cs : SC05ClientStatus)
      (hcs : cs = .unknown ∨ cs = k.action.undoneStatus) :
      CardMove k c { k with status := .failed } { c with status := cs }

/-- **What an action does to the operations and the clients.** -/
inductive ClientMove (s s' : SC05State W) : Prop where
  | operation (o : OperationId) {k : OperationCard} {c : SC05Client}
      (hmove : CardMove (s.operations o).card (s.clients (s.operations o).client) k c)
      (hexists : o < s.operationCount ∨ k = (s.operations o).card ∨
        k = { (s.operations o).card with captured := k.captured })
      (hcount : s'.operationCount = s.operationCount)
      (hcards : ∀ o', (s'.operations o').card = if o' = o then k else (s.operations o').card)
      (hclients : s'.clients = Function.update s.clients (s.operations o).client c)
  | created (c : ClientId) (action : SC05Action) (requestKey : ℕ)
      (hkey : ∀ o < s.operationCount, (s.operations o).requestKey ≠ requestKey)
      (hstatus : (s.clients c).status ≠ .partialState)
      (hsnapshot : action = .unblock → (s.clients c).taskRestoreSnapshot ≠ [])
      (hactive : s.hasActiveOperation c none = false)
      (hcount : s'.operationCount = s.operationCount + 1)
      (hcards : ∀ o', (s'.operations o').card =
        if o' = s.operationCount then ⟨c, requestKey, action, 0, .sc05, .queued, []⟩
        else (s.operations o').card)
      (hclients : s'.clients = s.clients)

namespace ClientMove

variable {s' : SC05State W}

/-- An action that writes neither a card nor a client. -/
theorem quiet (hcount : s'.operationCount = s.operationCount)
    (hcards : ∀ o, (s'.operations o).card = (s.operations o).card)
    (hclients : s'.clients = s.clients) : ClientMove s s' :=
  .operation 0 .same (.inr (.inl rfl)) hcount
    (fun o' => by rw [hcards]; split <;> simp_all)
    (by rw [hclients, Function.update_eq_self])

theorem refl (s : SC05State W) : ClientMove s s := .quiet rfl (fun _ => rfl) rfl

/-- One operation is saved; its client stays. -/
theorem saved (op : SC05Operation) (hmove : CardMove (s.operations o).card
      (s.clients (s.operations o).client) op.card (s.clients (s.operations o).client))
    (hexists : o < s.operationCount ∨ op.card = (s.operations o).card ∨
        op.card = { (s.operations o).card with captured := op.card.captured })
    (hoperations : s'.operations = (s.setOperation o op).operations)
    (hcount : s'.operationCount = s.operationCount) (hclients : s'.clients = s.clients) :
    ClientMove s s' := by
  refine .operation o hmove hexists hcount (fun o' => ?_) (by rw [hclients, Function.update_eq_self])
  rw [hoperations, setOperation_operations]
  split <;> rfl

/-- One operation is saved, and its client keeps its card. -/
theorem kept (op : SC05Operation) (hcard : op.card = (s.operations o).card)
    (hoperations : s'.operations = (s.setOperation o op).operations)
    (hcount : s'.operationCount = s.operationCount) (hclients : s'.clients = s.clients) :
    ClientMove s s' :=
  .saved op (by rw [hcard]; exact .same) (.inr (.inl hcard)) hoperations hcount hclients

theorem transaction {body : Except SC05Exception α × SC05State W} (h : ClientMove s body.2) :
    ClientMove s (transaction i s body).2 := by
  unfold SheepContabil.transaction; split
  · exact .refl s
  · exact h

theorem locked {t : Option TaskId} {body : α × SC05State W} (h : ClientMove s body.2) :
    ClientMove s (lockedTransaction i s o t body).2 := by
  refine transaction ?_
  split
  · exact h
  · exact .refl s

theorem adapter {result : α × SC05State W} (h : ClientMove s result.2) :
    ClientMove s (adapterCall i s result).2 := by
  unfold adapterCall; split
  · exact .refl s
  · exact h

end ClientMove

/-- The card of an operation whose step is saved without a new captured state. -/
theorem card_setStep {op : SC05Operation} {p : SC05Portal} {step : SC05PortalStep}
    (h : p = .tasks → step.beforeState = (op.steps .tasks).beforeState) :
    (op.setStep p step).card = op.card := by
  unfold SC05Operation.card SC05Operation.setStep
  by_cases hp : p = .tasks
  · subst hp; simp [h rfl]
  · simp [Function.update_of_ne (Ne.symm hp)]

/-- Closing what a lost worker left running keeps the card. -/
theorem card_interrupted (op : SC05Operation) (message message' : String) (now : ℕ) :
    ((op.closeRunningAttempts message now).failRunningSteps message' now).card = op.card := by
  have hbefore : (((op.closeRunningAttempts message now).failRunningSteps message' now).steps
      .tasks).beforeState = (op.steps .tasks).beforeState := by
    show (if (op.steps .tasks).status == .running then _ else op.steps .tasks).beforeState = _
    split
    · rfl
    · rfl
  unfold SC05Operation.card
  rw [hbefore]
  rfl

/-- What `_prepare_operation` writes to the card. -/
theorem prepare_card {op op' : SC05Operation} {t : SuppliedTaskId} {b : Bool} {now : ℕ} :
    (op.prepare t b now = .quarantined op' →
      op.run.status = .running ∧ op'.card = { op.card with status := .partiallyFailed }) ∧
    (op.prepare t b now = .execute op' →
      op.run.status.isActive = true ∧ op'.card = { op.card with status := .running }) := by
  unfold SC05Operation.prepare
  cases hbind : op.run.bindDelivery t with
  | none => simp
  | some run =>
    have hrun : run.status = op.run.status ∧ run.module = op.run.module := by
      obtain ⟨-, rfl⟩ := AutomationRun.bindDelivery_some hbind
      exact ⟨rfl, rfl⟩
    simp only
    split_ifs with hactive hrunning hresume
    · simp
    · refine ⟨?_, by simp⟩
      intro h
      obtain rfl := SC05Operation.Preparation.quarantined.inj h
      simp only [beq_iff_eq] at hrunning
      refine ⟨hrun.1.symm.trans hrunning, ?_⟩
      have hkept := card_interrupted op "A tentativa foi interrompida antes da confirmação."
        "A etapa foi interrompida e será reconciliada." now
      show { (op.closeInterruptedAttempts now).card with
        module := run.module, status := .partiallyFailed } = _
      rw [SC05Operation.closeInterruptedAttempts, hkept, hrun.2]
      rfl
    · simp
    · refine ⟨by simp, ?_⟩
      intro h
      obtain rfl := SC05Operation.Preparation.execute.inj h
      simp only [Bool.not_eq_true, Bool.not_eq_false'] at hactive
      refine ⟨by rw [← hrun.1]; simpa using hactive, ?_⟩
      simp only [SC05Operation.card, hrun.2]

/-- What `_reconcile_one` writes to the card, and to the client. -/
theorem reconcileOne_card (op : SC05Operation) (client : SC05Client) (settings : Settings)
    (now : ℕ) (fresh : TaskId) {recovery : SC05Operation.Recovery} {op' : SC05Operation}
    {quarantined : Bool} (h : op.reconcileOne client settings now fresh = (recovery, op', quarantined))
    (hskip : recovery ≠ .skipped) :
    CardMove op.card client op'.card
      (if quarantined then { client with status := .partialState } else client) ∧
      op.run.isStillStale ((now : ℤ) - settings.queuedStaleAfterSeconds)
        ((now : ℤ) - settings.runningStaleAfterSeconds) = true := by
  unfold SC05Operation.reconcileOne at h
  by_cases hstale : (!op.run.isStillStale ((now : ℤ) - settings.queuedStaleAfterSeconds)
      ((now : ℤ) - settings.runningStaleAfterSeconds)) = true
  · rw [if_pos hstale] at h
    obtain ⟨rfl, -⟩ := Prod.mk.inj h
    exact absurd rfl hskip
  rw [if_neg hstale] at h
  refine ⟨?_, by simpa using hstale⟩
  cases hst : op.run.status with
  | queued =>
    have hcard : op.card.status = .queued := hst
    simp only [hst] at h
    split_ifs at h
    · obtain ⟨-, rfl, rfl⟩ := by simpa only [Prod.mk.injEq] using h
      exact .quarantined (.inl hcard)
    · obtain ⟨-, rfl, rfl⟩ := by simpa only [Prod.mk.injEq] using h
      exact .closed hcard
    · -- a new claim keeps the row queued
      obtain ⟨-, rfl, rfl⟩ := by simpa only [Prod.mk.injEq] using h
      have hsame : ({ op with run := op.run.claimRecovery now fresh "stale_queue" } :
          SC05Operation).card = op.card := by
        simp only [SC05Operation.card, AutomationRun.claimRecovery, hst]
      rw [hsame]; exact .same
  | running =>
    have hcard : op.card.status = .running := hst
    simp only [hst] at h
    obtain ⟨-, rfl, rfl⟩ := by simpa only [Prod.mk.injEq] using h
    have hmoved : ({ op.closeOrphanAttempts now with
        run := op.run.quarantineSc05 now "stale_running_ambiguous_external_state" } :
          SC05Operation).card = { op.card with status := .partiallyFailed } := by
      have hkept := card_interrupted op
        "A tentativa órfã foi encerrada pela reconciliação automática."
        "A etapa órfã foi encerrada e será reconciliada." now
      show { (op.closeOrphanAttempts now).card with status := .partiallyFailed } = _
      rw [SC05Operation.closeOrphanAttempts, hkept]
    rw [hmoved]
    exact .quarantined (.inr hcard)
  | _ =>
    simp only [hst] at h
    obtain ⟨rfl, -⟩ := Prod.mk.inj h
    exact absurd rfl hskip

/-- The operations that do not exist have never been queued. -/
structure Blank (s : SC05State W) : Prop where
  pending : ∀ o, s.operationCount ≤ o → (s.operations o).run.status = .pending
  module : ∀ o, (s.operations o).run.module = .sc05

theorem Blank.exists (h : Blank s) (hne : (s.operations o).run.status ≠ .pending) :
    o < s.operationCount :=
  Nat.lt_of_not_le fun hle => hne (h.pending o hle)

/-- What a process knows when it acts: a captured state of the tasks to block is not empty, and
only a resumed run returns to its partial failure when its publication fails. -/
def cardPre : SC05Label → SC05State W → Prop
  | .saveStep o p u, s => ∀ b, u.beforeState = some b → p = .tasks →
      (s.operations o).action = .block → b ≠ []
  | .finishSucceeded o _, s => (s.operations o).action = .block →
      ((s.operations o).steps .tasks).beforeState ≠ []
  | .recordDispatchFailure o _ status _, s =>
      status = .failed ∨ status = .partiallyFailed ∧ 0 < (s.operations o).resumeCount
  | _, _ => True

theorem prepareOperation_move (pid : ℕ) (t : SuppliedTaskId) (b : Bool) (now : ℕ) :
    ClientMove s (s.prepareOperation pid o t b now).2 := by
  unfold SC05State.prepareOperation
  split
  · exact .refl s
  next hlt =>
  have hexists : o < s.operationCount := Nat.lt_of_not_le hlt
  simp only
  split
  · exact .refl s
  · next op' hprep =>
    obtain ⟨hrunning, hcard⟩ := prepare_card.1 hprep
    refine .operation o (.quarantined (.inr hrunning)) (.inl hexists) rfl (fun o' => ?_) rfl
    show ((s.setOperation o op').operations o').card = _
    rw [setOperation_operations]
    split
    · exact hcard
    · rfl
  · next op' hprep =>
    obtain ⟨hactive, hcard⟩ := prepare_card.2 hprep
    refine .saved op' ?_ (.inl hexists) rfl rfl rfl
    rw [hcard]; exact .started hactive

theorem createRun_move (c : ClientId) (action : SC05Action) (scenario : SC05Scenario)
    (requestKey now : ℕ) : ClientMove s (s.createRun c action scenario requestKey now).2 := by
  unfold SC05State.createRun
  split
  · exact .refl s
  next hfind =>
  simp only [SC05State.createRun.refused]
  split_ifs with hpartial hblocked hunblocked hsnapshot hactive
  · exact .refl s
  · exact .refl s
  · exact .refl s
  · exact .refl s
  · exact .refl s
  simp only [Bool.or_eq_true, beq_iff_eq, not_or] at hpartial
  simp only [Bool.and_eq_true, beq_iff_eq, List.isEmpty_iff, not_and] at hsnapshot
  refine .created c action requestKey ?_ hpartial.1 hsnapshot (by simpa using hactive) rfl ?_ rfl
  · intro o ho heq
    have hnone := List.find?_eq_none.1 hfind o (List.mem_range.2 ho)
    exact hnone (by simp [heq])
  · intro o
    show ((s.setOperation s.operationCount _).operations o).card = _
    rw [setOperation_operations]
    split
    · rfl
    · rfl

theorem resumeRun_move (now : ℕ) : ClientMove s (s.resumeRun o now).2 := by
  unfold SC05State.resumeRun
  simp only
  split_ifs with hcount hstatus hactive
  · exact .refl s
  · exact .refl s
  · exact .refl s
  refine .saved ((s.operations o).resume now s.nextTaskId) ?_
    (.inl (Nat.lt_of_not_le hcount)) rfl rfl rfl
  have hpartial : (s.operations o).run.status = .partiallyFailed := by simpa using hstatus
  exact .resumed hpartial

theorem finishSucceeded_move (hblank : Blank s) (pid : ℕ) (t : Option TaskId) (now : ℕ)
    (hpre : cardPre (.finishSucceeded o t) s) : ClientMove s (s.finishSucceeded pid o t now) := by
  unfold SC05State.finishSucceeded
  simp only
  split_ifs with hcurrent
  swap
  · exact .refl s
  have hrunning : (s.operations o).run.status = .running := by
    simp only [AutomationRun.deliveryIsCurrent, Bool.and_eq_true, beq_iff_eq] at hcurrent
    exact hcurrent.1
  refine .operation o (.succeeded hrunning hpre) (.inl (hblank.exists (by rw [hrunning]; simp))) rfl
    (fun o' => ?_) rfl
  show ((s.setOperation o _).operations o').card = _
  rw [setOperation_operations]
  split
  · rfl
  · rfl

theorem finishFailed_move (hblank : Blank s) (pid : ℕ) (e : SC05Error) (flag : Bool)
    (site : FailureSite) (t : Option TaskId) (now : ℕ) :
    ClientMove s (s.finishFailed pid o e flag site t now) := by
  unfold SC05State.finishFailed
  simp only
  split_ifs with hcurrent
  swap
  · exact .refl s
  have hrunning : (s.operations o).run.status = .running := by
    simp only [AutomationRun.deliveryIsCurrent, Bool.and_eq_true, beq_iff_eq] at hcurrent
    exact hcurrent.1
  have hmove : CardMove (s.operations o).card (s.clients (s.operations o).client)
      ((s.operations o).finishFailed e flag now).card
      { s.clients (s.operations o).client with
        status := (s.operations o).failedClientStatus e flag } := by
    unfold SC05Operation.failedClientStatus
    -- a marker without a snapshot fails the run whatever the compensation did
    by_cases hmarker : (e.code == .taskMarkerWithoutSnapshot) = true
    · have hcard : ((s.operations o).finishFailed e flag now).card =
          { (s.operations o).card with status := .failed } := by
        simp only [SC05Operation.card, SC05Operation.finishFailed, hmarker, if_true]
      rw [hcard, if_pos hmarker]
      exact .failed hrunning _ (.inl rfl)
    · rw [if_neg hmarker]
      cases flag with
      | true =>
        have hcard : ((s.operations o).finishFailed e true now).card =
            { (s.operations o).card with status := .partiallyFailed } := by
          simp only [SC05Operation.card, SC05Operation.finishFailed, hmarker, if_false, if_true,
            Bool.false_eq_true]
        rw [hcard]
        exact .quarantined (.inr hrunning)
      | false =>
        have hcard : ((s.operations o).finishFailed e false now).card =
            { (s.operations o).card with status := .failed } := by
          simp only [SC05Operation.card, SC05Operation.finishFailed, hmarker, if_false,
            Bool.false_eq_true]
        rw [hcard]
        exact .failed hrunning _ (.inr rfl)
  refine .operation o hmove (.inl (hblank.exists (by rw [hrunning]; simp))) rfl (fun o' => ?_) rfl
  show ((s.setOperation o _).operations o').card = _
  rw [setOperation_operations]
  split
  · rfl
  · rfl

theorem reconcileOne_move (hblank : Blank s) (settings : Settings) (now : ℕ) :
    ClientMove s (s.reconcileOne settings o now).2 := by
  unfold SC05State.reconcileOne
  simp only
  split
  · exact .refl s
  next recovery op' quarantined hskip heq =>
  obtain ⟨hmove, hstale⟩ := reconcileOne_card _ _ settings now s.nextTaskId heq hskip
  have hexists : o < s.operationCount := by
    refine hblank.exists fun hpending => ?_
    simp [AutomationRun.isStillStale, hblank.module o, hpending] at hstale
  cases quarantined with
  | true =>
    refine .operation o hmove (.inl hexists) rfl (fun o' => ?_) rfl
    show ((s.setOperation o op').operations o').card = _
    rw [setOperation_operations]
    split
    · rfl
    · rfl
  | false => exact .saved op' hmove (.inl hexists) rfl rfl rfl

theorem recordDispatchFailure_move (hblank : Blank s) (t : TaskId) (status : RunStatus) (exc : String)
    (now : ℕ) (hpre : cardPre (.recordDispatchFailure o t status exc) s) :
    ClientMove s (s.setRun o ((s.run o).recordDispatchFailure t status exc now)) := by
  unfold AutomationRun.recordDispatchFailure
  split_ifs with hqueued
  swap
  · exact .kept ({ s.operations o with run := s.run o }) rfl rfl rfl rfl
  simp only [Bool.and_eq_true, beq_iff_eq] at hqueued
  have hstatus : (s.operations o).card.status = .queued := hqueued.2
  have hexists : o < s.operationCount := by
    refine hblank.exists fun hpending => ?_
    rw [show (s.operations o).run.status = .queued from hqueued.2] at hpending
    cases hpending
  rcases hpre with rfl | ⟨rfl, hresumed⟩
  · exact .saved ({ s.operations o with run := _ }) (.closed hstatus) (.inl hexists) rfl rfl rfl
  · exact .saved ({ s.operations o with run := _ }) (.returned hstatus hresumed) (.inl hexists)
      rfl rfl rfl

theorem saveStep_move (p : SC05Portal) (u : StepUpdate) (now : ℕ) (hpre : cardPre (.saveStep o p u) s) :
    ClientMove s (s.saveStep o p u now) := by
  by_cases hp : p = .tasks
  · subst hp
    cases hb : u.beforeState with
    | none =>
      refine .kept ((s.operations o).setStep .tasks _) (card_setStep fun _ => ?_) rfl rfl rfl
      simp only [hb, Option.getD_none, SC05State.step]
    | some b =>
      have hcard : ((s.operations o).setStep .tasks { s.step o .tasks with
          status := u.status.getD (s.step o .tasks).status
          beforeState := u.beforeState.getD (s.step o .tasks).beforeState
          desiredState := u.desiredState.getD (s.step o .tasks).desiredState
          afterState := u.afterState.getD (s.step o .tasks).afterState
          errorMessage := u.errorMessage.getD (s.step o .tasks).errorMessage
          finishedAt := if u.finished then some now else (s.step o .tasks).finishedAt }).card =
          { (s.operations o).card with captured := b } := by
        simp [SC05Operation.card, SC05Operation.setStep, hb]
      exact .saved ((s.operations o).setStep .tasks _)
        (by rw [hcard]; exact .captured b fun ha => hpre b hb rfl ha)
        (.inr (.inr (by rw [hcard]))) rfl rfl rfl
  · exact .kept ((s.operations o).setStep p _) (card_setStep fun h => absurd h hp) rfl rfl rfl

/-- The updates of the shared row that leave its status. -/
theorem setRun_move {run : AutomationRun} (hstatus : run.status = (s.run o).status)
    (hmodule : run.module = (s.run o).module) : ClientMove s (s.setRun o run) := by
  refine .kept ({ s.operations o with run := run }) ?_ rfl rfl rfl
  simp only [SC05Operation.card, hstatus, hmodule]
  rfl

/-- **Every action is a move of the cards and the clients.** -/
theorem sem_clientMove (portal : PortalBackend W ι) (settings : Settings) (pid : ℕ) (l : SC05Label)
    (i : Fate ι) (hblank : Blank s) (hpre : cardPre l s) :
    ClientMove s (SC05State.sem portal settings pid l i s).2 := by
  cases l with
  | prepareOperation o t b => exact .transaction (prepareOperation_move pid t b i.now)
  | createRun c action scenario key => exact .transaction (createRun_move c action scenario key i.now)
  | resumeRun o => exact .transaction (resumeRun_move i.now)
  | finishSucceeded o t => exact .transaction (finishSucceeded_move hblank pid t i.now hpre)
  | finishFailed o e flag site t => exact .transaction (finishFailed_move hblank pid e flag site t i.now)
  | reconcileOne o now => exact .transaction (reconcileOne_move hblank settings now)
  | recordDispatchFailure o t status exc =>
    exact .transaction (recordDispatchFailure_move hblank t status exc i.now hpre)
  | saveStep o p u => exact .transaction (saveStep_move p u i.now hpre)
  | markStepFailed o p e t =>
    exact .locked (saveStep_move p _ i.now fun b hb => by cases hb)
  | startStep o p startedAt t =>
    exact .locked (.kept ((s.operations o).setStep p _) (card_setStep fun h => by rw [h]; rfl)
      rfl rfl rfl)
  | touchRun o t => exact .transaction (setRun_move (by simp) (by
      unfold AutomationRun.touchRun; split <;> rfl))
  | dispatchStart o =>
    refine .transaction ?_
    have hrow : ((s.run o).dispatchStart i.now s.nextTaskId).2.status = (s.run o).status ∧
        ((s.run o).dispatchStart i.now s.nextTaskId).2.module = (s.run o).module := by
      unfold AutomationRun.dispatchStart
      split
      · exact ⟨rfl, rfl⟩
      · split
        · split <;> exact ⟨rfl, rfl⟩
        · exact ⟨rfl, rfl⟩
    refine .kept ({ s.operations o with
      run := ((s.run o).dispatchStart i.now s.nextTaskId).2 }) ?_ rfl rfl rfl
    simp only [SC05Operation.card, hrow]
    rfl
  | recordDispatchSuccess o t =>
    refine .transaction (setRun_move ?_ ?_) <;>
      (unfold AutomationRun.recordDispatchSuccess; split <;> rfl)
  | recordRecoveryPublishFailure o t exc now =>
    refine .transaction (setRun_move ?_ ?_) <;>
      (unfold AutomationRun.recordRecoveryPublishFailure; split <;> rfl)
  | recordInspectionFailure o exc now => exact .transaction (setRun_move rfl rfl)
  -- the rest reads, or writes neither a card nor a client
  | callPortal o p request => simp only [SC05State.sem]; split <;> exact .quiet rfl (fun _ => rfl) rfl
  | acknowledge o =>
    simp only [SC05State.sem]
    split
    · exact .quiet rfl (fun _ => rfl) rfl
    · exact .refl s
  | publish o t => exact .adapter (.quiet rfl (fun _ => rfl) rfl)
  | compensationCandidates o failed => exact .transaction (.quiet rfl (fun _ => rfl) rfl)
  | startAttempt o p operation stateBefore t =>
    exact .locked (.kept ((s.operations o).setAttempts p _) rfl rfl rfl rfl)
  | succeedAttempt o p n state t =>
    exact .locked (.kept ((s.operations o).setAttempts p _) rfl rfl rfl rfl)
  | failAttempt o p n e state t =>
    exact .locked (.kept ((s.operations o).setAttempts p _) rfl rfl rfl rfl)
  | recordArtifact o p n stored =>
    exact .transaction (.kept { s.operations o with artifacts := _ ++ [_] } rfl rfl rfl rfl)
  | _ =>
    simp only [SC05State.sem]
    first
      | exact .transaction (.refl s)
      | exact .locked (.refl s)
      | exact .adapter (.refl s)

end SheepContabil
