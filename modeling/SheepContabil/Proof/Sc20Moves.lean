import SheepContabil.Conc.Logic
import SheepContabil.Spec.Sc20Run

/-!
# SC-20: everything one move can do

* `RowStep`: the changes of the shared row of a run that are neither its start nor
  its end by the worker.
* `SC20Change`: the changes of the tables, one constructor for each transaction.
* `event_change`, `perform_change`: every event and every action is one of them.
-/

namespace SheepContabil

open Conc

/-- The changes of the row of a run by the web, the scheduler, the publication and the
reconciler, and by a heartbeat, that give it no token. -/
inductive RowStep (a b : AutomationRun) : Prop where
  | idle (status : b.status = a.status) (startedAt : b.startedAt = a.startedAt)
      (taskId : b.taskId = a.taskId)
      (dispatchError : b.metadata.dispatchError = a.metadata.dispatchError)
  | dispatchFailed (before : a.status = .queued) (after : b.status = .failed)
      (startedAt : b.startedAt = a.startedAt) (taskId : b.taskId = a.taskId)
  | fenced (before : a.status = .queued) (after : b.status = .failed)
      (startedAt : b.startedAt = a.startedAt) (taskId : b.taskId = none)
      (dispatchError : b.metadata.dispatchError = a.metadata.dispatchError)
  | quarantined (before : a.status = .running) (after : b.status = .partiallyFailed)
      (startedAt : b.startedAt = a.startedAt) (taskId : b.taskId = none)

/-- A queued run that stays queued, under its token or under the next unused one. -/
structure QueueStep (fresh : TaskId) (a b : AutomationRun) : Prop where
  before : a.status = .queued
  after : b.status = .queued
  startedAt : b.startedAt = a.startedAt
  taskId : b.taskId = some fresh ∨ a.taskId.isSome ∧ b.taskId = a.taskId
  dispatchError : b.metadata.dispatchError = a.metadata.dispatchError

theorem RowStep.refl (a : AutomationRun) : RowStep a a := .idle rfl rfl rfl rfl

theorem touchRun_step (a : AutomationRun) (t : Option TaskId) (now : ℕ) :
    RowStep a (a.touchRun t now) := by
  unfold AutomationRun.touchRun
  split
  · exact .idle rfl rfl rfl rfl
  · exact .refl _

theorem dispatchStart_step (a : AutomationRun) (now : ℕ) (fresh : TaskId) :
    RowStep a (a.dispatchStart now fresh).2 ∨ QueueStep fresh a (a.dispatchStart now fresh).2 := by
  unfold AutomationRun.dispatchStart
  split
  · exact .inl (.refl _)
  · next hstatus =>
    have hq : a.status = .queued := by simpa using hstatus
    split
    · split <;> exact .inl (.refl _)
    · refine .inr ⟨hq, hq, rfl, ?_, rfl⟩
      cases ht : a.taskId with
      | none => exact .inl rfl
      | some t => exact .inr ⟨rfl, rfl⟩

theorem recordDispatchFailure_step (a : AutomationRun) (t : TaskId) (exc : String) (now : ℕ) :
    RowStep a (a.recordDispatchFailure t .failed exc now) := by
  unfold AutomationRun.recordDispatchFailure
  split
  · next h =>
    simp only [Bool.and_eq_true, beq_iff_eq] at h
    exact .dispatchFailed h.2 rfl rfl rfl
  · exact .refl _

theorem recordDispatchSuccess_step (a : AutomationRun) (t : TaskId) (now : ℕ) :
    RowStep a (a.recordDispatchSuccess t now) := by
  unfold AutomationRun.recordDispatchSuccess
  split
  · exact .idle rfl rfl rfl rfl
  · exact .refl _

theorem recordRecoveryPublishFailure_step (a : AutomationRun) (t : TaskId) (exc : String)
    (now : ℕ) : RowStep a (a.recordRecoveryPublishFailure t exc now) := by
  unfold AutomationRun.recordRecoveryPublishFailure
  split
  · exact .idle rfl rfl rfl rfl
  · exact .refl _

theorem recordInspectionFailure_step (a : AutomationRun) (exc : String) (now : ℕ) :
    RowStep a (a.recordInspectionFailure exc now) := .idle rfl rfl rfl rfl

theorem reconcileSc20_step (a : AutomationRun) (settings : Settings) (now : ℕ) (fresh : TaskId) :
    RowStep a (a.reconcileSc20 settings now fresh) ∨
      QueueStep fresh a (a.reconcileSc20 settings now fresh) := by
  unfold AutomationRun.reconcileSc20
  split
  · split
    · next hq =>
      split
      · exact .inl (.fenced hq rfl rfl rfl rfl)
      · exact .inr ⟨hq, rfl, rfl, .inl rfl, rfl⟩
    · next hr => exact .inl (.quarantined hr rfl rfl rfl)
    · exact .inl (.refl _)
  · exact .inl (.refl _)

/-- **Everything one move can do to the tables**, with the process and the action that made it,
or nothing for an event. -/
inductive SC20Change (s : SC20State) : Option (ℕ × SC20Label) → SC20State → Prop where
  | same (pid) : SC20Change s pid s
  | certificates (pid f) : SC20Change s pid { s with certificates := f }
  | tick (pid) : SC20Change s pid { s with nextTaskId := s.nextTaskId + 1 }
  | inserted (trigger baseDate retry competence now) :
      SC20Change s none (s.insertRun (newSc20Run trigger baseDate retry competence now s.nextTaskId))
  | requeued {r run} (now) (hrun : s.runs r = some run)
      (hfailed : run.run.dispatchFailedBeforeStart = true) :
      SC20Change s none
        { s.setRun r (run.requeue now s.nextTaskId) with nextTaskId := s.nextTaskId + 1 }
  | row (pid n) {r run row} (hrun : s.runs r = some run) (hstep : RowStep run.run row)
      (hn : s.nextTaskId ≤ n) :
      SC20Change s pid { s.setRun r { run with run := row } with nextTaskId := n }
  | queued {r run row} (hrun : s.runs r = some run) (hstep : QueueStep s.nextTaskId run.run row) :
      SC20Change s none
        { s.setRun r { run with run := row } with nextTaskId := s.nextTaskId + 1 }
  | superseded (pid) {r status t s'}
      (hlog : s.recordIgnored ⟨r, "superseded", t, status⟩ = .ok s') : SC20Change s pid s'
  | terminal (pid) {r run t s'} (hrun : s.runs r = some run)
      (hmatch : run.run.deliveryMatches t = true) (hterminal : run.run.status.isTerminal = true)
      (hlog : s.recordIgnored ⟨r, "terminal", t.normalize, run.run.status⟩ = .ok s') :
      SC20Change s pid s'
  | started (pid) {r run run' t b now} (hrun : s.runs r = some run)
      (hstart : SC20Run.start run t b now = .started run') :
      SC20Change s (some (pid, .startRun r t b)) { s.setRun r run' with
        executors := Function.update s.executors r (some pid) }
  | preparedNew (pid) {c r t policy p s'} (h : s.prepareNew c r t policy = .ok (some p, s')) :
      SC20Change s (some (pid, .prepareNew c r t policy)) s'
  | preparedRetry (pid) {c r t p s'} (h : s.prepareRetry c r t = .ok (some p, s')) :
      SC20Change s (some (pid, .prepareRetry c r t)) s'
  | sent (pid) (p : PreparedDelivery) (accepted raised) : SC20Change s (some (pid, .send p))
      { s with sends := s.sends ++ [⟨p.attemptId, p.communicationId, p.runId, accepted, raised⟩] }
  | finalized (pid) {p d now res s'} (h : s.finalize p d now = .ok (res, s')) :
      SC20Change s (some (pid, .finalize p d)) s'
  | finished (pid) {r t result policy now s'} (h : s.finishRun r t result policy now = .ok s') :
      SC20Change s (some (pid, .finishRun r t result policy)) s'
  | failed (pid) {r t exc now s'} (h : s.recordUnhandledFailure r t exc now = .ok s') :
      SC20Change s pid s'

namespace SC20State

variable {s : SC20State}

/-- A locked update of the shared row that gives no token. -/
theorem updateRow_change (pid : Option (ℕ × SC20Label)) (r : RunId) {f : AutomationRun → AutomationRun}
    (hf : ∀ a, RowStep a (f a)) : SC20Change s pid (s.updateRow r f) := by
  unfold updateRow
  cases hrun : s.runs r with
  | none => exact .same pid
  | some run => exact .row pid s.nextTaskId hrun (hf run.run) (Nat.le_refl _)

/-- A locked update of the shared row that may give it the next token. -/
theorem updateRow_fresh_change (r : RunId) {f : AutomationRun → AutomationRun}
    (hf : ∀ a, RowStep a (f a) ∨ QueueStep s.nextTaskId a (f a)) :
    SC20Change s none { s.updateRow r f with nextTaskId := s.nextTaskId + 1 } := by
  unfold updateRow
  cases hrun : s.runs r with
  | none => exact .tick none
  | some run =>
    rcases hf run.run with hstep | hstep
    · exact .row none (s.nextTaskId + 1) hrun hstep (Nat.le_succ _)
    · exact .queued hrun hstep

/-- **Every event is one of the changes.** -/
theorem event_change (e : SC20Event) : SC20Change s none (s.handle e) := by
  cases e with
  | createRun trigger baseDate retry now => exact .inserted trigger baseDate retry none now
  | prepareScheduled competence baseDate now =>
    simp only [handle, prepareScheduled]
    split
    · exact .inserted .scheduled baseDate none (some competence) now
    · split
      · next run hrun =>
        split
        · next hfailed => exact .requeued now hrun hfailed
        · exact .same none
      · exact .same none
  | dispatchStart r now => exact updateRow_fresh_change r fun a => dispatchStart_step a now _
  | recordDispatchFailure r t exc now =>
    exact updateRow_change none r fun a => recordDispatchFailure_step a t exc now
  | recordDispatchSuccess r t now =>
    exact updateRow_change none r fun a => recordDispatchSuccess_step a t now
  | reconcileOne r settings now =>
    exact updateRow_fresh_change r fun a => reconcileSc20_step a settings now _
  | recordRecoveryPublishFailure r t exc now =>
    exact updateRow_change none r fun a => recordRecoveryPublishFailure_step a t exc now
  | recordInspectionFailure r exc now =>
    exact updateRow_change none r fun a => recordInspectionFailure_step a exc now
  | saveCertificate c certificate => exact .certificates none _

end SC20State

/-- What the five decisions of `_start_run` say about the run. -/
theorem SC20Run.start_cases (r : SC20Run) (t : SuppliedTaskId) (b : Bool) (now : ℕ) :
    r.start t b now = .superseded ∨
    (r.run.deliveryMatches t = true ∧
      ((∃ row, r.run.status = .running ∧ r.start t b now = .quarantined { r with run := row } ∧
          RowStep r.run row) ∨
        (∃ row, r.run.status = .running ∧ r.start t b now = .alreadyRunning { r with run := row }) ∨
        (∃ row, r.run.status.isTerminal = true ∧ r.start t b now = .terminal { r with run := row } ∧
          row.status = r.run.status) ∨
        (∃ row, r.run.status ≠ .running ∧ r.run.status.isTerminal = false ∧
          r.start t b now = .started { r with run := row } ∧ row.status = .running ∧
          row.startedAt = some now ∧ row.taskId = r.run.taskId.or t.normalize ∧
          row.metadata = r.run.metadata))) := by
  unfold SC20Run.start AutomationRun.bindDelivery
  by_cases hmatch : r.run.deliveryMatches t = true
  · rw [if_pos hmatch]
    refine .inr ⟨hmatch, ?_⟩
    by_cases hrunning : r.run.status = .running
    · simp only [hrunning, if_true]
      cases b with
      | true => exact .inl ⟨_, trivial, rfl, .quarantined hrunning rfl rfl rfl⟩
      | false => exact .inr (.inl ⟨_, trivial, rfl⟩)
    · simp only [hrunning, if_false]
      cases hterminal : r.run.status.isTerminal with
      | true =>
        simp only [if_true]
        exact .inr (.inr (.inl ⟨_, trivial, rfl, rfl⟩))
      | false =>
        simp only [Bool.false_eq_true, if_false]
        exact .inr (.inr (.inr ⟨_, hrunning, trivial, rfl, rfl, rfl, rfl, rfl⟩))
  · rw [if_neg hmatch]
    exact .inl rfl

namespace SC20State

variable {s : SC20State}

/-- **Everything `_start_run` can do.** -/
theorem startRun_change (pid : ℕ) {r : RunId} {t : SuppliedTaskId} {b : Bool} {now : ℕ}
    {x : SC20Run × Bool} {s' : SC20State} (h : s.startRun pid r t b now = .ok (x, s')) :
    SC20Change s (some (pid, .startRun r t b)) s' := by
  unfold startRun at h
  cases hrun : s.runs r with
  | none => simp [hrun] at h
  | some run =>
    simp only [hrun] at h
    rcases SC20Run.start_cases run t b now with hst | ⟨hmatch, hcases⟩
    · rw [hst] at h
      obtain ⟨s'', hlog, hs⟩ := Py.bind_eq_ok.1 h
      obtain ⟨rfl, rfl⟩ := Prod.mk.inj (Except.ok.inj hs)
      exact .superseded _ hlog
    · rcases hcases with ⟨row, hrunning, hst, hstep⟩ | ⟨row, hrunning, hst⟩ |
        ⟨row, hterminal, hst, hstatus⟩ | ⟨row, -, -, hst, -⟩
      · rw [hst] at h
        obtain ⟨rfl, rfl⟩ := Prod.mk.inj (Except.ok.inj h)
        exact .row _ s.nextTaskId hrun hstep (Nat.le_refl _)
      · rw [hst] at h
        obtain ⟨rfl, rfl⟩ := Prod.mk.inj (Except.ok.inj h)
        exact .same _
      · rw [hst] at h
        obtain ⟨s'', hlog, hs⟩ := Py.bind_eq_ok.1 h
        obtain ⟨rfl, rfl⟩ := Prod.mk.inj (Except.ok.inj hs)
        rw [hstatus] at hlog
        exact .terminal _ hrun hmatch hterminal hlog
      · rw [hst] at h
        obtain ⟨rfl, rfl⟩ := Prod.mk.inj (Except.ok.inj h)
        exact .started pid hrun hst

theorem commit_cases {α : Type} {x : Except SC20Exception (α × SC20State)} :
    (∃ a s', x = .ok (a, s') ∧ s.commit x = (.ok a, s')) ∨
      ∃ e, x = .error e ∧ s.commit x = (.error e, s) := by
  cases x with
  | ok y => exact .inl ⟨y.1, y.2, rfl, rfl⟩
  | error e => exact .inr ⟨e, rfl, rfl⟩

/-- What holds before a transaction, and after it when it commits. -/
theorem commit_inv {P : SC20State → Prop} (hs : P s) {α : Type}
    {x : Except SC20Exception (α × SC20State)} (h : ∀ a s', x = .ok (a, s') → P s') :
    P (s.commit x).2 := by
  cases x with
  | ok y => exact h y.1 y.2 rfl
  | error e => exact hs

theorem commitUnit_inv {P : SC20State → Prop} (hs : P s) {x : Except SC20Exception SC20State}
    (h : ∀ s', x = .ok s' → P s') : P (s.commitUnit x).2 := by
  cases x with
  | ok s' => exact h s' rfl
  | error e => exact hs

/-- A reservation that prepares nothing changes nothing. -/
theorem prepareNew_none {c : CertificateId} {r : RunId} {t : Option TaskId} {policy : SC20Policy}
    {s' : SC20State} (h : s.prepareNew c r t policy = .ok (none, s')) : s' = s := by
  unfold prepareNew at h
  obtain ⟨run, -, h⟩ := Py.bind_eq_ok.1 h
  split at h
  · cases h
  · simp only at h
    split at h
    · exact (Prod.mk.inj (Except.ok.inj h)).2.symm
    · cases h

theorem prepareRetry_none {c : CommunicationId} {r : RunId} {t : Option TaskId} {s' : SC20State}
    (h : s.prepareRetry c r t = .ok (none, s')) : s' = s := by
  unfold prepareRetry at h
  obtain ⟨run, -, h⟩ := Py.bind_eq_ok.1 h
  split at h
  · cases h
  · split at h
    · cases h
    · split at h
      · exact (Prod.mk.inj (Except.ok.inj h)).2.symm
      · simp only at h
        split at h <;> cases h

variable {ι : Type} {gateway : NotificationGateway ι}

/-- **Every action is one of the changes.** -/
theorem sem_change (pid : ℕ) (l : SC20Label) (i : SC20Fate ι) :
    SC20Change s (some (pid, l)) (sem gateway pid l i s).2 := by
  unfold sem
  split
  · exact .same _
  · cases l with
    | startRun r t b =>
      exact commit_inv (P := SC20Change s _) (.same _) fun x s' hx => startRun_change pid hx
    | expiringBetween ids startDate endDate => exact .same _
    | requireCurrentDelivery r t => exact .same _
    | touchRun r t =>
      simp only [perform]
      split
      · next run hrun =>
        exact .row _ s.nextTaskId hrun (touchRun_step run.run t i.now) (Nat.le_refl _)
      · exact .same _
    | prepareNew c r t policy =>
      refine commit_inv (P := SC20Change s _) (.same _) fun x s' hx => ?_
      cases x with
      | none => rw [prepareNew_none hx]; exact .same _
      | some p => exact .preparedNew pid hx
    | prepareRetry c r t =>
      refine commit_inv (P := SC20Change s _) (.same _) fun x s' hx => ?_
      cases x with
      | none => rw [prepareRetry_none hx]; exact .same _
      | some p => exact .preparedRetry pid hx
    | send p => exact .sent pid p _ _
    | finalize p d =>
      exact commit_inv (P := SC20Change s _) (.same _) fun x s' hx => .finalized pid hx
    | recordUnknown p => exact .same _
    | finishRun r t result policy =>
      exact commitUnit_inv (P := SC20Change s _) (.same _) fun s' hx => .finished pid hx
    | recordUnhandledFailure r t exc =>
      exact commitUnit_inv (P := SC20Change s _) (.same _) fun s' hx => .failed _ hx
    | readRun r => exact .same _

end SC20State

end SheepContabil
