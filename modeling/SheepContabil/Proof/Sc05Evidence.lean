import SheepContabil.Proof.Sc05Frame
import SheepContabil.Proof.Sc05Ledger
import SheepContabil.Proof.Sc05Discipline
import SheepContabil.Py.Rows

/-!
# The evidence of an operation is complete and stays

* `SC05State.SameRows`: what most actions leave alone.
* `ledger_advance`: what one action does to the ledger of an operation.
* `Tracked`: the ledger of an operation, and the attempt its worker has open.
* `evidence_kept`: the evidence of an operation over every run of sequential executions
  whose handlers close no run with an open attempt.
-/

namespace SheepContabil

open Conc

variable {W ι : Type} {o : OperationId} {x : Option OpenAttempt} {a : OpenAttempt}
  {rows : SC05Portal → List AttemptRow} {stored : List StoredScreenshot} {s s' : SC05State W}
  {portal : PortalBackend W ι} {settings : Settings} {pid : ℕ} {i : Fate ι}

section Frame

/-- The attempts, the artifacts and the worker of an operation stay. -/
structure SameRows (o : OperationId) (s s' : SC05State W) : Prop where
  attempts : (s'.operations o).attempts = (s.operations o).attempts
  artifacts : (s'.operations o).artifacts = (s.operations o).artifacts
  worker : s'.workers o = s.workers o

theorem SameRows.refl (o : OperationId) (s : SC05State W) : SameRows o s s := ⟨rfl, rfl, rfl⟩

theorem sameRows_setOperation {op : SC05Operation}
    (hattempts : op.attempts = (s.operations o).attempts)
    (hartifacts : op.artifacts = (s.operations o).artifacts) :
    SameRows o s (s.setOperation o op) := ⟨by simpa, by simpa, rfl⟩

/-- The actions that change neither the attempts nor the worker. -/
def SC05Label.leavesAttempts : SC05Label → Bool
  | prepareOperation .. | acknowledge _ | startAttempt .. | callPortal .. | putScreenshot ..
  | recordArtifact .. | succeedAttempt .. | failAttempt .. | reconcileOne .. => false
  | _ => true

theorem sem_sameRows {l : SC05Label} (hl : l.op? = some o) (hleaves : l.leavesAttempts = true) :
    SameRows o s (SC05State.sem portal settings pid l i s).2 := by
  have hsame := SameRows.refl o s
  cases l <;> simp only [SC05Label.op?, Option.some.injEq, reduceCtorEq] at hl <;>
    cases hleaves <;> subst hl
  case finishSucceeded o t =>
    refine transaction_state hsame ?_
    unfold SC05State.finishSucceeded
    dsimp only
    split
    · exact ⟨by simp [SC05State.record, SC05Operation.finishSucceeded],
        by simp [SC05State.record, SC05Operation.finishSucceeded], rfl⟩
    · exact hsame
  case finishFailed o e flag site t =>
    refine transaction_state hsame ?_
    unfold SC05State.finishFailed
    dsimp only
    split
    · exact ⟨by simp [SC05State.record, SC05State.setClientStatus, SC05Operation.finishFailed],
        by simp [SC05State.record, SC05State.setClientStatus, SC05Operation.finishFailed], rfl⟩
    · exact hsame
  case resumeRun o =>
    refine transaction_state hsame ?_
    unfold SC05State.resumeRun
    dsimp only
    split_ifs
    all_goals first
      | exact hsame
      | exact ⟨by simp [SC05Operation.resume], by simp [SC05Operation.resume], rfl⟩
  case compensationCandidates => exact transaction_state hsame ⟨rfl, rfl, rfl⟩
  all_goals
    first
      | exact transaction_state hsame hsame
      | exact locked_state hsame hsame
      | exact adapter_state hsame ⟨rfl, rfl, rfl⟩
      | exact transaction_state hsame (sameRows_setOperation rfl rfl)
      | exact locked_state hsame (sameRows_setOperation rfl rfl)
      | exact transaction_state hsame ⟨by simp [SC05State.setRun], by simp [SC05State.setRun], rfl⟩

/-- An action on another operation leaves the operation alone. -/
theorem sem_other (hs : o < s.operationCount) {l : SC05Label} (hl : l.op? ≠ some o) :
    (SC05State.sem portal settings pid l i s).2.operations o = s.operations o := by
  cases hop : l.op? with
  | some o' =>
    refine (sem_touches portal settings pid l i hop).operations o ?_
    rintro rfl
    exact hl hop
  | none =>
    cases l with
    | createRun c action scenario key =>
      exact transaction_state (P := fun s' : SC05State W => s'.operations o = s.operations o) rfl
        (createRun_operations hs ..)
    | _ => cases hop

theorem portalCalls_cons (e : SC05Event) (trace : List SC05Event) (p : SC05Portal) :
    portalCalls (e :: trace) p = portalCalls trace p ++ (e.call? p).toList := by
  unfold portalCalls
  rw [List.reverse_cons, List.filterMap_append]
  cases h : e.call? p <;> simp [h]

/-- What an action that leaves the attempts alone does to the run and to the calls. -/
theorem leaves_move {l : SC05Label} {v v' : SagaView}
    (hmove : SagaMove (η := W → W) o v (.act pid l i) v') (hleaves : l.leavesAttempts = true)
    (hdispatch : ∀ t status exc, l = .recordDispatchFailure o t status exc → status ≠ .running) :
    (∀ p, portalCalls v'.trace p = portalCalls v.trace p) ∧
      (v'.status = .running → v.status = .running) ∧
      (v.status = .running → v'.status = .running ∨ (∃ t, l = .finishSucceeded o t) ∨
        ∃ e flag site t, l = .finishFailed o e flag site t ∧ v.Current t) := by
  cases hmove with
  | started | called => cases hleaves
  | quarantined pid l i hl hq hrun =>
    cases l <;> first | (cases hleaves; done) | cases hq
  | waits m status t hv hrun hs =>
    refine ⟨fun _ => rfl, fun h => absurd h hrun, fun h => ?_⟩
    rcases hv with hv | hv <;> rw [hv] at h <;> cases h
  | undispatched pid t status exc i hv =>
    refine ⟨fun _ => rfl, fun h => absurd h (hdispatch t status exc rfl), fun h => ?_⟩
    rw [hv] at h
    cases h
  | succeeded pid t i hc =>
    exact ⟨fun p => by simp [portalCalls_cons, SC05Event.call?], fun _ => hc.1,
      fun _ => .inr (.inl ⟨t, rfl⟩)⟩
  | failed pid e flag site t i status client hc hclose =>
    exact ⟨fun p => by simp [portalCalls_cons, SC05Event.call?], fun _ => hc.1,
      fun _ => .inr (.inr ⟨e, flag, site, t, rfl, hc⟩)⟩
  | compensating pid failed i =>
    exact ⟨fun p => by simp [SagaView.push, portalCalls_cons, SC05Event.call?], id, .inl⟩
  | idle | released | marked | saved => exact ⟨fun _ => rfl, id, .inl⟩

/-- `f` finishes the running attempts as failed. -/
structure Interrupts (f : SC05StepAttempt → SC05StepAttempt) : Prop where
  sequence : ∀ b, (f b).sequence = b.sequence
  operation : ∀ b, (f b).operation = b.operation
  running : ∀ b, b.status = .running → (f b).status = .failed
  finished : ∀ b, b.status ≠ .running → f b = b

theorem closeRunningAttempts_interrupts (op : SC05Operation) (message : String) (now : ℕ) :
    ∃ f, Interrupts f ∧
      ∀ p, (op.closeRunningAttempts message now).attempts p = (op.attempts p).map f := by
  refine ⟨_, ⟨fun b => ?_, fun b => ?_, fun b hb => ?_, fun b hb => ?_⟩, fun p => rfl⟩
  · split <;> rfl
  · split <;> rfl
  · simp [hb]
  · simp [hb]

/-- A quarantine: the running attempts are interrupted, and the run is left partially failed. -/
structure Quarantined (o : OperationId) (s s' : SC05State W) : Prop where
  attempts : ∃ f, Interrupts f ∧
    ∀ p, (s'.operations o).attempts p = ((s.operations o).attempts p).map f
  artifacts : (s'.operations o).artifacts = (s.operations o).artifacts
  worker : s'.workers o = s.workers o
  trace : s'.traces o = s.traces o
  status : (s'.operations o).run.status ≠ .running

/-- All that `_prepare_operation` may do to an operation. -/
theorem prepareOperation_cases (t : SuppliedTaskId) (b : Bool) (now : ℕ) :
    ((s.prepareOperation pid o t b now).2 = s ∧
      ∀ r, (s.prepareOperation pid o t b now).1 ≠ .ok (r, true)) ∨
    (Quarantined o s (s.prepareOperation pid o t b now).2 ∧
      ∀ r, (s.prepareOperation pid o t b now).1 ≠ .ok (r, true)) ∨
    ((sagaView o s).Starts t ∧ ∃ run r, (s.prepareOperation pid o t b now).1 = .ok (r, true) ∧
      (s.prepareOperation pid o t b now).2 =
        ((s.setOperation o { s.operations o with run := run }).setWorker o (some pid)).record o
          (.started pid)) := by
  unfold SC05State.prepareOperation SC05Operation.prepare
  by_cases hcount : s.operationCount ≤ o
  · simp [hcount]
  simp only [hcount, if_false]
  rcases hbind : (s.operations o).run.bindDelivery t with _ | run
  · left
    simp
  have hrun : run.status = (s.operations o).run.status ∧
      tokenMatches (s.operations o).run.taskId t = true := by
    obtain ⟨hmatch, rfl⟩ := AutomationRun.bindDelivery_some hbind
    exact ⟨rfl, hmatch⟩
  obtain ⟨hstatus, hmatch⟩ := hrun
  dsimp only
  -- an operation that is over, a running one that is quarantined or left alone, and a start
  split_ifs with hactive hrunning hb
  · left
    simp
  · obtain ⟨f, hf, hattempts⟩ := closeRunningAttempts_interrupts (s.operations o)
      "A tentativa foi interrompida antes da confirmação." now
    refine .inr (.inl ⟨⟨⟨f, hf, fun p => ?_⟩, ?_, rfl, rfl, ?_⟩, fun r h => (by cases h)⟩)
    · rw [← hattempts p]
      simp [SC05State.setClientStatus, SC05Operation.closeInterruptedAttempts,
        SC05Operation.failRunningSteps]
    · simp [SC05State.setClientStatus, SC05Operation.closeInterruptedAttempts,
        SC05Operation.failRunningSteps, SC05Operation.closeRunningAttempts]
    · simp [SC05State.setClientStatus, AutomationRun.interruptSc05, AutomationRun.quarantine]
  · left
    simp
  · refine .inr (.inr ⟨⟨?_, ?_, hmatch⟩, _, _, rfl, rfl⟩)
    · show (s.operations o).run.status.isActive = true
      rw [← hstatus]
      simpa using hactive
    · show (s.operations o).run.status ≠ .running
      rw [← hstatus]
      simpa using hrunning

/-- All that a pass of the reconciler may do to an operation. -/
theorem reconcileOne_evidence (now : ℕ) :
    (s.reconcileOne settings o now).2 = s ∨ Quarantined o s (s.reconcileOne settings o now).2 ∨
      ((s.operations o).run.status = .queued ∧ SameRows o s (s.reconcileOne settings o now).2 ∧
        (s.reconcileOne settings o now).2.traces o = s.traces o ∧
        ((s.reconcileOne settings o now).2.operations o).run.status ≠ .running) := by
  unfold SC05State.reconcileOne
  have hcases := reconcileOne_cases (s.operations o) (s.clients (s.operations o).client) settings
    now s.nextTaskId
  dsimp only
  split
  · exact .inl rfl
  · next recovery op' quarantined hskip heq =>
    rw [heq] at hcases
    obtain ⟨s', hs', hop, htrace, hworker⟩ : ∃ s' : SC05State W, s' = (if quarantined = true then
          ({ s.setOperation o op' with nextTaskId := s.nextTaskId + 1 } :
            SC05State W).setClientStatus (s.operations o).client .partialState
          else { s.setOperation o op' with nextTaskId := s.nextTaskId + 1 }) ∧
        s'.operations o = op' ∧ s'.traces o = s.traces o ∧ s'.workers o = s.workers o := by
      refine ⟨_, rfl, ?_, ?_, ?_⟩ <;> split <;> simp [SC05State.setClientStatus]
    rw [← hs']
    rcases hcases with h | ⟨hqueued, run, hrun, -, h⟩ | ⟨hrunning, run, hrun, -, h⟩
    · exact absurd h hskip
    · obtain rfl : op' = { s.operations o with run := run } := h
      refine .inr (.inr ⟨hqueued, ⟨by rw [hop], by rw [hop], hworker⟩, htrace, ?_⟩)
      rw [hop]
      exact hrun
    · obtain rfl : op' = { (s.operations o).closeOrphanAttempts now with run := run } := h
      obtain ⟨f, hf, hattempts⟩ := closeRunningAttempts_interrupts (s.operations o)
        "A tentativa órfã foi encerrada pela reconciliação automática." now
      refine .inr (.inl ⟨⟨f, hf, fun p => ?_⟩, by rw [hop]; rfl, hworker, htrace, ?_⟩)
      · rw [hop, ← hattempts p]
        rfl
      · rw [hop]
        show run.status ≠ _
        rw [hrun]
        decide

end Frame

section Steps

/-- What one action of process `pid` leaves of the ledger, of its own work and of the others'. -/
structure Advanced (o : OperationId) (pid : ℕ) (s s' : SC05State W) (x x' : Option OpenAttempt)
    (rows' : SC05Portal → List AttemptRow) (stored' : List StoredScreenshot) (w' : Work) :
    Prop where
  ledger : AttemptLedger o x' rows' stored' s'
  stay : FinishedStay o s s'
  work : w' = .idle ∨ (w' = .executing x' ∧ s'.workers o = some pid)
  others : ∀ q, q ≠ pid → s.workers o = some q → x' = x ∧ s'.workers o = some q

/-- A process works on the operation only as its worker. -/
def Works (o : OperationId) (pid : ℕ) (s : SC05State W) (x : Option OpenAttempt) (w : Work) :
    Prop :=
  w = .idle ∨ (w = .executing x ∧ s.workers o = some pid)

theorem Works.opened {w : Work} (h : Works o pid s x w) {y : Option OpenAttempt}
    (hw : w = .executing y) : x = y ∧ s.workers o = some pid := by
  subst hw
  rcases h with h | ⟨h, hworker⟩
  · cases h
  · cases h
    exact ⟨rfl, hworker⟩

/-- The attempts, the calls and the worker stay. -/
theorem Advanced.same {w : Work} (hw : Works o pid s x w) (hrows : SameRows o s s')
    (hledger : AttemptLedger o x rows stored s') : Advanced o pid s s' x x rows stored w where
  ledger := hledger
  stay p n b hb _ := by rw [hrows.attempts]; exact hb
  work := by rw [hrows.worker]; exact hw
  others q _ hq := ⟨rfl, hrows.worker.trans hq⟩

theorem Advanced.idle {w : Work} (hw : Works o pid s x w) (h : AttemptLedger o x rows stored s) :
    Advanced o pid s s x x rows stored w := .same hw (.refl o s) h

/-- **A quarantine** closes what is open. -/
theorem Advanced.quarantined {w : Work} (hw : Works o pid s x w)
    (h : AttemptLedger o x rows stored s) (hq : Quarantined o s s') :
    ∃ rows', Advanced o pid s s' x x rows' stored w := by
  obtain ⟨f, hf, hattempts⟩ := hq.attempts
  have hledger : AttemptLedger o x
      (fun p => (rows p).map fun r => { r with attempt := f r.attempt }) stored s' :=
    h.finish (f := fun _ => f) hattempts hq.artifacts hq.trace
      (fun _ => hf.sequence) (fun _ => hf.operation) (fun p r _ => ?_) (.inr ⟨rfl, hq.status⟩)
  · refine ⟨_, hledger, fun p n b hb hstatus => ?_, by rw [hq.worker]; exact hw,
      fun q _ hworker => ⟨rfl, hq.worker.trans hworker⟩⟩
    rw [hattempts, List.getElem?_map, hb, Option.map_some, hf.finished b hstatus]
  · by_cases hrunning : r.attempt.status = .running
    · exact .inr (.inl (hf.running _ hrunning))
    · exact .inl ⟨hrunning, hf.finished _ hrunning⟩

theorem lockedTransaction_cases {α : Type} (t : Option TaskId) (body : α × SC05State W) :
    (∃ e, lockedTransaction i s o t body = (.error e, s)) ∨
      ((s.operations o).run.status = .running ∧
        lockedTransaction i s o t body = (.ok body.1, body.2)) := by
  unfold lockedTransaction transaction
  split
  · exact .inl ⟨_, rfl⟩
  · split
    · next hlocked => exact .inr ⟨running_of_locked hlocked, rfl⟩
    · exact .inl ⟨_, rfl⟩

theorem foldl_max_range' (n : ℕ) : (List.range' 1 n).foldl max 0 = n := by
  induction n with
  | zero => rfl
  | succ n ih => rw [List.range'_1_concat, List.foldl_append, ih]; simp [Nat.add_comm]

theorem AttemptLedger.nextSequence (h : AttemptLedger o x rows stored s) (p : SC05Portal) :
    s.nextSequence o p = (rows p).length + 1 := by
  unfold SC05State.nextSequence
  rw [h.attempts p, List.map_map]
  have hnumbered := h.numbered p
  change (List.map (fun r => r.attempt.sequence) (rows p)).foldl max 0 + 1 = _
  rw [hnumbered, foldl_max_range']

variable {w : Work}

/-- `_start_attempt`. -/
theorem ledger_start {p : SC05Portal} {operation : SC05AttemptOperation} {st : PortalState}
    {t : Option TaskId} (h : AttemptLedger o x rows stored s) (hw : Works o pid s x w)
    (hallows : w = .executing none) :
    ∃ x' rows', Advanced o pid s
      (SC05State.sem portal settings pid (.startAttempt o p operation st t) i s).2 x x' rows' stored
      (Work.after (.startAttempt o p operation st t)
        (SC05State.sem portal settings pid (.startAttempt o p operation st t) i s).1 w) := by
  obtain ⟨rfl, hworker⟩ := hw.opened hallows
  subst hallows
  rcases lockedTransaction_cases (i := i) (s := s) (o := o) t (s.nextSequence o p, s.setOperation o
      ((s.operations o).setAttempts p ((s.operations o).attempts p ++
        [{ sequence := s.nextSequence o p, operation := operation, stateBefore := st }])))
    with ⟨e, heq⟩ | ⟨hrun, heq⟩
  · have hsem : SC05State.sem portal settings pid (.startAttempt o p operation st t) i s =
        (.error e, s) := heq
    rw [hsem]
    exact ⟨none, rows, .idle hw h⟩
  · have hsem : SC05State.sem portal settings pid (.startAttempt o p operation st t) i s = _ := heq
    rw [hsem]
    refine ⟨_, _, @AttemptLedger.start _ _ _ _ _ _ h hrun p
      { sequence := s.nextSequence o p, operation := operation, stateBefore := st }
      (h.nextSequence p) rfl (by simp) rfl, ?_, .inr ⟨rfl, hworker⟩, fun q hq hother => ?_⟩
    · intro q n b hb _
      by_cases hqp : q = p
      · subst hqp
        simp only [setOperation_operations, if_true, SC05Operation.setAttempts,
          Function.update_self]
        exact Rows.append_some hb
      · simpa [SC05Operation.setAttempts, hqp] using hb
    · rw [hworker] at hother
      exact absurd (Option.some.inj hother).symm hq

/-- A portal call. -/
theorem ledger_call {p : SC05Portal} {request : GatewayRequest}
    (h : AttemptLedger o x rows stored s)
    (hw : Works o pid s x w)
    (hallows : ∃ a, w = .executing (some a) ∧ a.portal = p ∧
      a.operation = request.call.operation ∧ a.called = false) :
    ∃ x' rows', Advanced o pid s
      (SC05State.sem portal settings pid (.callPortal o p request) i s).2 x x' rows' stored
      (Work.after (.callPortal o p request)
        (SC05State.sem portal settings pid (.callPortal o p request) i s).1 w) := by
  obtain ⟨a, rfl, rfl, hoperation, hcalled⟩ := hallows
  obtain ⟨rfl, hworker⟩ := hw.opened rfl
  obtain ⟨outcome, houtcome⟩ : ∃ outcome, outcome = (portal a.portal request i.call s.portals).1 :=
    ⟨_, rfl⟩
  have hanswer : ∀ e, (SC05State.sem portal settings pid (.callPortal o a.portal request) i
      s).1.toOption = some e → outcome = .returned e := by
    intro e he
    simp only [SC05State.sem, ← houtcome] at he
    cases outcome with
    | returned evidence => rw [Option.some.inj he]
    | failed mutated fault => cases he
  have hstate := sem_callPortal (o := o) portal settings pid a.portal request i s
  have hcalls : ∀ p, portalCalls
      ((SC05State.sem portal settings pid (.callPortal o a.portal request) i s).2.traces o) p =
        if p = a.portal then portalCalls (s.traces o) p ++ [⟨request.call.operation, outcome⟩]
        else portalCalls (s.traces o) p := by
    intro p
    rw [hstate]
    simp only [SC05State.record, Function.update_self, portalCalls_cons, SC05Event.call?]
    by_cases hp : p = a.portal
    · subst hp
      simp [houtcome]
    · simp [hp, Ne.symm hp]
  obtain ⟨rows', hledger⟩ := h.call hcalled hoperation.symm (by rw [hstate]; rfl) hcalls hanswer
  refine ⟨_, rows', hledger, fun p n b hb _ => ?_, .inr ⟨rfl, ?_⟩, fun q hq hother => ?_⟩
  · rw [hstate]
    exact hb
  · rw [hstate]
    exact hworker
  · rw [hworker] at hother
    exact absurd (Option.some.inj hother).symm hq

/-- What has been put into the storage may be recorded. -/
theorem AttemptLedger.put (h : AttemptLedger o (some a) rows stored s) (st : StoredScreenshot) :
    AttemptLedger o (some { a with stored := some st }) rows (stored ++ [st]) s :=
  { h.mono [st] with
    running := fun p r hr hrunning => by
      obtain ⟨hrun, b, ⟨⟩, hp, hseq⟩ := h.running p r hr hrunning
      exact ⟨hrun, _, rfl, hp, hseq⟩
    opened := by
      rintro _ ⟨⟩
      obtain ⟨-, front, r, hrows, hshown⟩ := h.opened a rfl
      exact ⟨by rintro _ ⟨⟩; simp, front, r, hrows, hshown.sequence, hshown.operation,
        hshown.uncalled, hshown.evidence, hshown.artifacts, hshown.live⟩ }

/-- `storage.put`. -/
theorem ledger_put {key : ScreenshotKey} {content : Screenshot}
    (h : AttemptLedger o x rows stored s) (hw : Works o pid s x w) :
    ∃ x' rows', Advanced o pid s
      (SC05State.sem portal settings pid (.putScreenshot o key content) i s).2 x x' rows'
      (stored ++
        (SC05State.sem portal settings pid (.putScreenshot o key content) i s).1.toOption.toList)
      (Work.after (.putScreenshot o key content)
        (SC05State.sem portal settings pid (.putScreenshot o key content) i s).1 w) := by
  cases hfault : i.fault with
  | some f =>
    have hsem : SC05State.sem portal settings pid (.putScreenshot o key content) i s =
        (.error f.raised, s) := by simp [SC05State.sem, adapterCall, hfault]
    rw [hsem]
    refine ⟨x, rows, ?_⟩
    have hafter : Work.after (.putScreenshot o key content) (.error f.raised) w = w := by
      cases w <;> rfl
    rw [hafter]
    simpa [Except.toOption] using Advanced.idle hw h
  | none =>
    have hsem : SC05State.sem portal settings pid (.putScreenshot o key content) i s =
        (.ok ⟨key, content⟩, s) := by simp [SC05State.sem, adapterCall, hfault]
    rw [hsem]
    rcases w with _ | _ | a
    · exact ⟨x, rows, .idle hw (h.mono _)⟩
    · exact ⟨x, rows, .idle hw (h.mono _)⟩
    · obtain ⟨rfl, hworker⟩ := hw.opened rfl
      refine ⟨_, rows, h.put ⟨key, content⟩, fun p n b hb _ => hb, .inr ⟨rfl, hworker⟩,
        fun q hq hother => ?_⟩
      rw [hworker] at hother
      exact absurd (Option.some.inj hother).symm hq

/-- `_record_artifact`. -/
theorem ledger_record {p : SC05Portal} {n : ℕ} {st : StoredScreenshot}
    (h : AttemptLedger o x rows stored s) (hw : Works o pid s x w)
    (hallows : ∃ a, w = .executing (some a) ∧ a.portal = p ∧ a.sequence = n ∧
      a.stored = some st ∧ a.artifact = none) :
    ∃ x' rows', Advanced o pid s
      (SC05State.sem portal settings pid (.recordArtifact o p n st) i s).2 x x' rows' stored
      (Work.after (.recordArtifact o p n st)
        (SC05State.sem portal settings pid (.recordArtifact o p n st) i s).1 w) := by
  obtain ⟨a, rfl, rfl, rfl, hstored, hnone⟩ := hallows
  obtain ⟨rfl, hworker⟩ := hw.opened rfl
  cases hdb : i.dbFails with
  | true =>
    have hsem : SC05State.sem portal settings pid (.recordArtifact o a.portal a.sequence st) i s =
        (.error (.other "OperationalError"), s) := by simp [SC05State.sem, transaction, hdb]
    rw [hsem]
    exact ⟨_, rows, .idle hw h⟩
  | false =>
    have hsem : SC05State.sem portal settings pid (.recordArtifact o a.portal a.sequence st) i s =
        (.ok (), s.setOperation o { s.operations o with
          artifacts := (s.operations o).artifacts ++ [⟨a.portal, a.sequence, st⟩] }) := by
      simp [SC05State.sem, transaction, hdb]
    rw [hsem]
    refine ⟨_, rows, h.record hnone hstored (by simp) rfl, fun p n b hb _ => by simpa using hb,
      .inr ⟨rfl, hworker⟩, fun q hq hother => ?_⟩
    rw [hworker] at hother
    exact absurd (Option.some.inj hother).symm hq

/-- The open attempt is finished by its worker. -/
theorem ledger_finish {f : SC05StepAttempt → SC05StepAttempt}
    (h : AttemptLedger o (some a) rows stored s)
    (hworker : s.workers o = some pid) (hrun : (s.operations o).run.status = .running)
    (hf : ∀ b, (f b).sequence = b.sequence ∧ (f b).operation = b.operation)
    (hstatus : (∀ b, (f b).status = .failed) ∨ ((∀ b, (f b).status = .succeeded) ∧
      ∃ evidence position, a.evidence = some evidence ∧ a.artifact =
        some ⟨⟨o, position, a.portal, a.sequence, a.operation, false⟩, evidence.screenshot⟩)) :
    ∃ rows', Advanced o pid s (s.updateAttempt o a.portal a.sequence f) (some a) none rows' stored
      (.executing none) := by
  obtain ⟨-, front, last, hrows, hshown⟩ := h.opened a rfl
  have hlast : last ∈ rows a.portal := by simp [hrows]
  -- what the update does to one attempt of a step
  obtain ⟨g, hg⟩ : ∃ g : SC05Portal → SC05StepAttempt → SC05StepAttempt, g = fun q b =>
    if q = a.portal ∧ b.sequence = a.sequence then f b else b := ⟨_, rfl⟩
  have hattempts : ∀ q, ((s.updateAttempt o a.portal a.sequence f).operations o).attempts q =
      ((s.operations o).attempts q).map (g q) := by
    intro q
    subst hg
    by_cases hq : q = a.portal
    · subst hq
      simp [SC05State.updateAttempt, SC05Operation.setAttempts]
    · simp [SC05State.updateAttempt, SC05Operation.setAttempts, hq]
  -- the open attempt is running while its run is, so a finished one has another sequence
  have hother : ∀ q, ∀ r ∈ rows q, r.attempt.status ≠ .running → g q r.attempt = r.attempt := by
    rintro q r hr hne
    subst hg
    refine if_neg ?_
    rintro ⟨rfl, hseq⟩
    rw [h.eq_of_sequence hr hlast (hseq.trans hshown.sequence.symm)] at hne
    exact hne (hshown.live hrun)
  have hledger : AttemptLedger o none
      (fun q => (rows q).map fun r => { r with attempt := g q r.attempt }) stored
      (s.updateAttempt o a.portal a.sequence f) := h.finish hattempts
    (by simp [SC05State.updateAttempt, SC05Operation.setAttempts]) rfl
    (fun q b => by subst hg; dsimp only; split <;> simp [(hf b).1])
    (fun q b => by subst hg; dsimp only; split <;> simp [(hf b).2]) (fun q r hr => ?_) (.inl rfl)
  · refine ⟨_, hledger, fun q n b hb hne => ?_, .inr ⟨rfl, hworker⟩, fun q hq hother => ?_⟩
    · have hmem := List.mem_of_getElem? hb
      rw [h.attempts q] at hmem
      obtain ⟨r, hr, rfl⟩ := List.mem_map.1 hmem
      rw [hattempts, List.getElem?_map, hb, Option.map_some, hother q r hr hne]
    · rw [hworker] at hother
      exact absurd (Option.some.inj hother).symm hq
  · by_cases hrunning : r.attempt.status = .running
    · obtain ⟨-, _, ⟨⟩, rfl, hseq⟩ := h.running q r hr hrunning
      have hgr : g a.portal r.attempt = f r.attempt := by
        subst hg
        exact if_pos ⟨rfl, hseq⟩
      obtain rfl := h.eq_of_sequence hr hlast (hseq.trans hshown.sequence.symm)
      rw [hgr]
      rcases hstatus with hfailed | ⟨hsucceeded, evidence, position, hev, hart⟩
      · exact .inr (.inl (hfailed _))
      · refine .inr (.inr ⟨evidence, position, ?_, ?_, hsucceeded _⟩)
        · rw [hshown.operation]
          exact hshown.evidence evidence hev
        · rw [hshown.sequence, hshown.artifacts, hart, hshown.operation]
          rfl
    · exact .inl ⟨hrunning, hother q r hr hrunning⟩

/-- `_succeed_attempt` and `_fail_attempt`. -/
theorem ledger_succeed {p : SC05Portal} {n : ℕ} {st : PortalState} {t : Option TaskId}
    (h : AttemptLedger o x rows stored s) (hw : Works o pid s x w)
    (hallows : ∃ a evidence position, w = .executing (some a) ∧ a.portal = p ∧ a.sequence = n ∧
      a.evidence = some evidence ∧
      a.artifact = some ⟨⟨o, position, p, n, a.operation, false⟩, evidence.screenshot⟩) :
    ∃ x' rows', Advanced o pid s
      (SC05State.sem portal settings pid (.succeedAttempt o p n st t) i s).2 x x' rows' stored
      (Work.after (.succeedAttempt o p n st t)
        (SC05State.sem portal settings pid (.succeedAttempt o p n st t) i s).1 w) := by
  obtain ⟨a, evidence, position, rfl, rfl, rfl, hev, hart⟩ := hallows
  obtain ⟨rfl, hworker⟩ := hw.opened rfl
  rcases lockedTransaction_cases (i := i) (s := s) (o := o) t ((), s.updateAttempt o a.portal
      a.sequence fun b => { b with
        status := .succeeded, stateAfter := st, finishedAt := some i.now })
    with ⟨e, heq⟩ | ⟨hrun, heq⟩
  · have hsem : SC05State.sem portal settings pid
        (.succeedAttempt o a.portal a.sequence st t) i s = (.error e, s) := heq
    rw [hsem]
    exact ⟨_, rows, .idle hw h⟩
  · have hsem : SC05State.sem portal settings pid
        (.succeedAttempt o a.portal a.sequence st t) i s = _ := heq
    rw [hsem]
    exact ⟨none, ledger_finish h hworker hrun (fun b => ⟨rfl, rfl⟩)
      (.inr ⟨fun b => rfl, evidence, position, hev, hart⟩)⟩

theorem ledger_fail {p : SC05Portal} {n : ℕ} {error : SC05Error} {st : PortalState}
    {t : Option TaskId} (h : AttemptLedger o x rows stored s) (hw : Works o pid s x w)
    (hallows : ∃ a, w = .executing (some a) ∧ a.portal = p ∧ a.sequence = n) :
    ∃ x' rows', Advanced o pid s
      (SC05State.sem portal settings pid (.failAttempt o p n error st t) i s).2 x x' rows' stored
      (Work.after (.failAttempt o p n error st t)
        (SC05State.sem portal settings pid (.failAttempt o p n error st t) i s).1 w) := by
  obtain ⟨a, rfl, rfl, rfl⟩ := hallows
  obtain ⟨rfl, hworker⟩ := hw.opened rfl
  rcases lockedTransaction_cases (i := i) (s := s) (o := o) t ((), s.updateAttempt o a.portal
      a.sequence fun b => { b with
        status := .failed, stateAfter := st, errorCode := some error.code
        errorMessage := error.safeMessage, finishedAt := some i.now })
    with ⟨e, heq⟩ | ⟨hrun, heq⟩
  · have hsem : SC05State.sem portal settings pid
        (.failAttempt o a.portal a.sequence error st t) i s = (.error e, s) := heq
    rw [hsem]
    exact ⟨_, rows, .idle hw h⟩
  · have hsem : SC05State.sem portal settings pid
        (.failAttempt o a.portal a.sequence error st t) i s = _ := heq
    rw [hsem]
    exact ⟨none, ledger_finish h hworker hrun (fun b => ⟨rfl, rfl⟩) (.inl fun b => rfl)⟩

/-- `_prepare_operation`: an execution starts only when nobody is in the middle of one. -/
theorem ledger_prepare {t : SuppliedTaskId} {b : Bool} (h : AttemptLedger o x rows stored s)
    (hw : Works o pid s x w) (hallows : w = .idle)
    (hsequential : i.dbFails = false → (sagaView o s).Starts t → s.workers o = none) :
    ∃ x' rows', Advanced o pid s
      (SC05State.sem portal settings pid (.prepareOperation o t b) i s).2 x x' rows' stored
      (Work.after (.prepareOperation o t b)
        (SC05State.sem portal settings pid (.prepareOperation o t b) i s).1 w) := by
  subst hallows
  cases hdb : i.dbFails with
  | true =>
    have hsem : SC05State.sem portal settings pid (.prepareOperation o t b) i s =
        (.error (.other "OperationalError"), s) := by simp [SC05State.sem, transaction, hdb]
    rw [hsem]
    exact ⟨x, rows, .idle hw h⟩
  | false =>
    have hsem : SC05State.sem portal settings pid (.prepareOperation o t b) i s =
        s.prepareOperation pid o t b i.now := by simp [SC05State.sem, transaction, hdb]
    rw [hsem]
    have hafter : ∀ answer : Except SC05Exception ((SC05Operation × SC05Client) × Bool),
        (∀ r, answer ≠ .ok (r, true)) →
        Work.after (.prepareOperation o t b) answer .idle = .idle := by
      rintro (e | ⟨r, _ | _⟩) hne
      · rfl
      · rfl
      · exact absurd rfl (hne r)
    rcases @prepareOperation_cases W o s pid t b i.now with
      ⟨heq, hne⟩ | ⟨hq, hne⟩ | ⟨hstarts, run, r, hanswer, heq⟩
    · rw [hafter _ hne, heq]
      exact ⟨x, rows, .idle hw h⟩
    · rw [hafter _ hne]
      exact ⟨x, Advanced.quarantined hw h hq⟩
    -- an execution starts: nobody is the worker, and what was open has been closed
    · have hworker := hsequential hdb hstarts
      have hnone := h.noneOpen (.inr hstarts.2.1)
      rw [hanswer, heq]
      refine ⟨none, rows, (h.release hnone).congr (by simp [SC05State.record, SC05State.setWorker])
        (by simp [SC05State.record, SC05State.setWorker]) ?_ (fun hx => absurd rfl hx)
        (fun _ => .inr hnone), fun p n b hb _ => ?_, .inr ⟨rfl, ?_⟩, fun q _ hq => ?_⟩
      · intro p
        simp [SC05State.record, SC05State.setWorker, portalCalls_cons, SC05Event.call?]
      · simpa [SC05State.record, SC05State.setWorker] using hb
      · simp [SC05State.record, SC05State.setWorker]
      · rw [hworker] at hq
        cases hq

/-- One pass of the reconciler. -/
theorem ledger_reconcile {now : ℕ} (h : AttemptLedger o x rows stored s) (hw : Works o pid s x w) :
    ∃ x' rows', Advanced o pid s
      (SC05State.sem portal settings pid (.reconcileOne o now) i s).2 x x' rows' stored w := by
  refine transaction_state (P := fun s' => ∃ x' rows', Advanced o pid s s' x x' rows' stored w)
    ⟨x, rows, .idle hw h⟩ ?_
  rcases @reconcileOne_evidence W o s settings now with
    heq | hq | ⟨hqueued, hsame, htrace, hrun⟩
  · rw [heq]
    exact ⟨x, rows, .idle hw h⟩
  · exact ⟨x, Advanced.quarantined hw h hq⟩
  · refine ⟨x, rows, .same hw hsame (h.congr hsame.attempts hsame.artifacts
      (fun p => by rw [htrace]) (fun _ hr => absurd hr hrun) fun hr => ?_)⟩
    rw [hqueued] at hr
    cases hr

/-- The end of a task. -/
theorem ledger_acknowledge (h : AttemptLedger o x rows stored s) :
    ∃ x' rows', Advanced o pid s
      (SC05State.sem portal settings pid (.acknowledge o) i s).2 x x' rows' stored .idle := by
  simp only [SC05State.sem]
  split
  · next hworker =>
    refine ⟨x, rows, h.congr rfl rfl (fun _ => rfl) (fun _ => id) .inl, fun _ _ _ hb _ => hb,
      .inl rfl, fun q hq hother => ?_⟩
    rw [hworker] at hother
    exact absurd (Option.some.inj hother).symm hq
  · exact ⟨x, rows, .idle (.inl rfl) h⟩

theorem after_of_leaves {l : SC05Label} (hleaves : l.leavesAttempts = true)
    (r : Except SC05Exception l.Resp) (w : Work) : Work.after l r w = w := by
  cases l <;> first | (cases hleaves; done) | rfl

/-- An action that leaves the attempts alone closes no run that has an open one. -/
theorem ledger_leaves (hs : o < s.operationCount) (h : AttemptLedger o x rows stored s)
    (hw : Works o pid s x w) {l : SC05Label} (hl : l.op? = some o)
    (hleaves : l.leavesAttempts = true) (hallows : Work.Allows o l w)
    (hcloses : ClosesFinished (η := W → W) o (.act pid l i) s) :
    ∃ x' rows', Advanced o pid s (SC05State.sem portal settings pid l i s).2 x x' rows' stored
      (Work.after l (SC05State.sem portal settings pid l i s).1 w) := by
  have hsame : SameRows o s (SC05State.sem portal settings pid l i s).2 := sem_sameRows hl hleaves
  have hmove := saga_cases ((saga_simulates portal settings o).move (.act pid l i) hs)
  obtain ⟨hcalls, hlive, hkeep⟩ := leaves_move hmove hleaves
    (by rintro t status exc rfl; exact hallows)
  rw [after_of_leaves hleaves]
  refine ⟨x, rows, .same hw hsame (h.congr hsame.attempts hsame.artifacts hcalls (fun _ => hlive)
    fun hrun => ?_)⟩
  rcases hkeep hrun with hrun' | ⟨t, rfl⟩ | ⟨e, flag, site, t, rfl, hcurrent⟩
  · exact .inl hrun'
  · exact .inr (h.noneOpen (.inl (hw.opened hallows).1))
  · cases site with
    | compensated => exact .inr (h.noneOpen (.inl (hw.opened (hallows rfl)).1))
    | outside =>
      cases hdb : i.dbFails with
      | true =>
        -- the database fails and nothing is closed
        left
        simpa [SC05State.sem, transaction, hdb] using hrun
      | false =>
        have hcloses' : (s.operations o).NoneOpen := hcloses (by
          simp [SC05Label.closesOutside, hdb, current_iff.2 hcurrent])
        exact .inr hcloses'

/-- **What one action on the operation does to its ledger.** -/
theorem ledger_advance (portal : PortalBackend W ι) (settings : Settings)
    (hs : o < s.operationCount) (h : AttemptLedger o x rows stored s) (hw : Works o pid s x w)
    {l : SC05Label} (hl : l.op? = some o) (hallows : Work.Allows o l w)
    (hsequential : Sequential (η := W → W) o (.act pid l i) (sagaView o s))
    (hcloses : ClosesFinished (η := W → W) o (.act pid l i) s) :
    ∃ x' rows', Advanced o pid s (SC05State.sem portal settings pid l i s).2 x x' rows'
      (stored ++ storedBy portal settings s (.act pid l i))
      (Work.after l (SC05State.sem portal settings pid l i s).1 w) := by
  have hnothing : ∀ {s' : SC05State W} {w' : Work} {puts : List StoredScreenshot}, puts = [] →
      (∃ x' rows', Advanced o pid s s' x x' rows' stored w') →
      ∃ x' rows', Advanced o pid s s' x x' rows' (stored ++ puts) w' := by
    rintro s' w' _ rfl hadvanced
    rw [List.append_nil]
    exact hadvanced
  cases hleaves : l.leavesAttempts with
  | true =>
    have hputs : storedBy portal settings s (.act pid l i) = [] := by
      cases l <;> first | (cases hleaves; done) | rfl
    exact hnothing hputs (ledger_leaves hs h hw hl hleaves hallows hcloses)
  | false =>
    cases l <;> simp only [SC05Label.op?, Option.some.injEq, reduceCtorEq] at hl <;> subst hl
    case putScreenshot => exact ledger_put h hw
    case prepareOperation =>
      exact hnothing rfl (ledger_prepare h hw hallows fun hdb => hsequential rfl hdb)
    case startAttempt => exact hnothing rfl (ledger_start h hw hallows)
    case callPortal => exact hnothing rfl (ledger_call h hw hallows)
    case recordArtifact => exact hnothing rfl (ledger_record h hw hallows)
    case succeedAttempt => exact hnothing rfl (ledger_succeed h hw hallows)
    case failAttempt => exact hnothing rfl (ledger_fail h hw hallows)
    case acknowledge => exact hnothing rfl (ledger_acknowledge h)
    case reconcileOne => exact hnothing rfl (ledger_reconcile h hw)
    all_goals cases hleaves

/-- The answers of the actions are as the processes expect them. -/
theorem sem_answers (portal : PortalBackend W ι) (settings : Settings) (pid : ℕ) (l : SC05Label)
    (i : Fate ι) (s : SC05State W) :
    Work.Answers l (SC05State.sem portal settings pid l i s).1 := by
  have hlocked : ∀ {α : Type} (o : OperationId) (t : Option TaskId) (body : α × SC05State W) e,
      (lockedTransaction i s o t body).1 = .error e → ∀ y, e ≠ .sc05 y := by
    intro α o t body e he
    unfold lockedTransaction transaction at he
    split at he
    · cases he
      exact fun y h => by cases h
    · split at he <;> cases he
      exact fun y h => by cases h
  cases l with
  | requireCurrentDelivery o t =>
    simp only [SC05State.sem, transaction]
    split
    · exact fun y h => by cases h
    · dsimp only
      split
      · trivial
      · exact fun y h => by cases h
  | startAttempt o p operation st t =>
    cases h : (SC05State.sem portal settings pid (.startAttempt o p operation st t) i s).1 with
    | error e => exact hlocked o t _ e h
    | ok n => trivial
  | succeedAttempt o p n st t =>
    cases h : (SC05State.sem portal settings pid (.succeedAttempt o p n st t) i s).1 with
    | error e => exact hlocked o t _ e h
    | ok n => trivial
  | failAttempt o p n error st t =>
    cases h : (SC05State.sem portal settings pid (.failAttempt o p n error st t) i s).1 with
    | error e => exact hlocked o t _ e h
    | ok n => trivial
  | putScreenshot o key content =>
    simp only [SC05State.sem, adapterCall]
    split
    · trivial
    · exact rfl
  | _ => trivial

end Steps

section Runs

variable {c : Config SC05Label SC05Label.Resp SC05Exception (SC05State W) SC05Process}

/-- **The ledger of an operation, and what its worker is doing with it.** -/
def Tracked (o : OperationId) (stored : List StoredScreenshot)
    (c : Config SC05Label SC05Label.Resp SC05Exception (SC05State W) SC05Process) : Prop :=
  o < c.shared.operationCount ∧ ∃ x rows, AttemptLedger o x rows stored c.shared ∧
    ∀ pid k p, c.procs pid = some (k, p) → ∃ w,
      wp (attemptContract o) pid p (fun _ _ => True) w ∧ Works o pid c.shared x w

theorem FinishedStay.trans {s'' : SC05State W} (h : FinishedStay o s s')
    (h' : FinishedStay o s' s'') : FinishedStay o s s'' :=
  fun p n b hb hne => h' p n b (h p n b hb hne) hne

theorem FinishedStay.of_attempts
    (h : (s'.operations o).attempts = (s.operations o).attempts) : FinishedStay o s s' := by
  intro p n b hb _
  rw [h]
  exact hb

/-- The condition of the result on a move. -/
def Closing (o : OperationId) (m : Move SC05Label (Fate ι) (W → W)) (s : SC05State W) : Prop :=
  Sequential o m (sagaView o s) ∧ ClosesFinished o m s

/-- A process performs its next action. -/
theorem Tracked.act (h : Tracked o stored c) {k : SC05Process} {l : SC05Label}
    {nxt : Except SC05Exception l.Resp → SC05Prog Unit} (hp : c.procs pid = some (k, .act l nxt))
    (hm : Closing o (.act pid l i) c.shared) :
    Tracked o (stored ++ storedBy portal settings c.shared (.act pid l i))
        ((sc05System portal settings).next c (.act pid i)) ∧
      FinishedStay o c.shared ((sc05System portal settings).next c (.act pid i)).shared := by
  obtain ⟨hs, x, rows, hledger, hprocs⟩ := h
  obtain ⟨w, hwp, hw⟩ := hprocs pid k _ hp
  obtain ⟨hpre, hnext⟩ := hwp w rfl trivial
  have hs' := (saga_simulates portal settings o).keeps (.act pid l i) c.shared hs
  have hshared : ((sc05System portal settings).next c (.act pid i)).shared =
      (SC05State.sem portal settings pid l i c.shared).2 := by simp [System.next, hp, sc05System]
  have hcontinue := hnext _ _ ⟨sem_answers portal settings pid l i c.shared, rfl⟩
  -- the processes after the action
  have hsplit : ∀ q k' p', ((sc05System portal settings).next c (.act pid i)).procs q =
      some (k', p') → (q = pid ∧ p' = nxt (SC05State.sem portal settings pid l i c.shared).1) ∨
        (q ≠ pid ∧ c.procs q = some (k', p')) := by
    intro q k' p' hq
    simp only [System.next, hp] at hq
    by_cases hqp : q = pid
    · subst hqp
      rw [Function.update_self] at hq
      exact .inl ⟨rfl, (Prod.mk.inj (Option.some.inj hq)).2.symm⟩
    · rw [Function.update_of_ne hqp] at hq
      exact .inr ⟨hqp, hq⟩
  by_cases hl : l.op? = some o
  -- the action is about the operation: only its worker has an attempt of it open
  · obtain ⟨x', rows', hadvanced⟩ := ledger_advance portal settings hs
      hledger hw hl (hpre hl) hm.1 hm.2
    rw [hshared]
    refine ⟨⟨by rw [hshared]; exact hs', x', rows', by rw [hshared]; exact hadvanced.ledger, ?_⟩,
      hadvanced.stay⟩
    intro q k' p' hq
    rw [hshared]
    rcases hsplit q k' p' hq with ⟨rfl, rfl⟩ | ⟨hne, hq⟩
    · rw [if_pos hl] at hcontinue
      exact ⟨_, hcontinue, hadvanced.work⟩
    · obtain ⟨w', hwp', hw'⟩ := hprocs q k' p' hq
      refine ⟨w', hwp', hw'.imp_right ?_⟩
      rintro ⟨rfl, hworker⟩
      obtain ⟨rfl, hworker'⟩ := hadvanced.others q hne hworker
      exact ⟨rfl, hworker'⟩
  -- the action is about another operation
  · have hview := sem_frame portal settings pid l i hs hl
    have hop : (SC05State.sem portal settings pid l i c.shared).2.operations o = _ :=
      sem_other hs hl
    have hworker : (SC05State.sem portal settings pid l i c.shared).2.workers o =
        c.shared.workers o := congrArg SagaView.worker hview
    have htrace : (SC05State.sem portal settings pid l i c.shared).2.traces o =
        c.shared.traces o := congrArg SagaView.trace hview
    rw [hshared]
    refine ⟨⟨by rw [hshared]; exact hs', x, rows, ?_, ?_⟩, .of_attempts (by rw [hop])⟩
    · rw [hshared]
      exact (hledger.mono _).congr (by rw [hop]) (by rw [hop]) (fun p => by rw [htrace])
        (fun _ => by rw [hop]; exact id) (fun hr => .inl (by rw [hop]; exact hr))
    · intro q k' p' hq
      unfold Works
      rw [hshared, hworker]
      rcases hsplit q k' p' hq with ⟨rfl, rfl⟩ | ⟨-, hq⟩
      · rw [if_neg hl] at hcontinue
        exact ⟨w, hcontinue, hw⟩
      · exact hprocs q k' p' hq

/-- **One choice of the scheduler.** -/
theorem Tracked.next (portal : PortalBackend W ι) (settings : Settings) (h : Tracked o stored c)
    (y : Choice (Fate ι) SC05Process (W → W))
    (hm : ∀ m, c.move? y = some m → Closing o m c.shared) :
    Tracked o (stored ++ (c.move? y).elim [] (storedBy portal settings c.shared))
        ((sc05System portal settings).next c y) ∧
      FinishedStay o c.shared ((sc05System portal settings).next c y).shared := by
  have hidle : Tracked o (stored ++ []) c ∧ FinishedStay o c.shared c.shared :=
    ⟨by rw [List.append_nil]; exact h, .of_attempts rfl⟩
  obtain ⟨hs, x, rows, hledger, hprocs⟩ := id h
  cases y with
  | start k =>
    refine ⟨⟨hs, x, rows, hledger.mono _, ?_⟩, .of_attempts rfl⟩
    intro q k' p hq
    rcases System.next_proc hq with hq | ⟨hy, rfl⟩ | ⟨i, l, nxt, hy, -⟩
    · exact hprocs q k' p hq
    · exact ⟨.idle, body_attempts _, .inl rfl⟩
    · cases hy
  | env f =>
    exact ⟨⟨hs, x, rows, (hledger.mono _).congr rfl rfl (fun _ => rfl) (fun _ => id) .inl, hprocs⟩,
      .of_attempts rfl⟩
  | act pid i =>
    cases hmove : c.move? (.act pid i : Choice (Fate ι) SC05Process (W → W)) with
    | none =>
      rw [System.next_eq_self hmove (by simp)]
      exact hidle
    | some m =>
      obtain ⟨k, l, nxt, hp, rfl⟩ := System.move?_act hmove
      exact h.act hp (hm _ hmove)
  | crash pid =>
    cases hmove : c.move? (.crash pid : Choice (Fate ι) SC05Process (W → W)) with
    | none =>
      rw [System.next_eq_self hmove (by simp)]
      exact hidle
    | some m =>
      obtain ⟨k, l, nxt, hp, rfl⟩ := System.move?_crash hmove
      have hnext : (sc05System portal settings).next c
          (.crash pid : Choice (Fate ι) SC05Process (W → W)) =
          ⟨(sc05System portal settings).onCrash pid c.shared, Function.update c.procs pid none,
            c.count⟩ := by simp [System.next, hp]
      rw [hnext]
      refine ⟨⟨hs, x, rows, (hledger.mono _).congr rfl rfl (fun _ => rfl) (fun _ => id) .inl, ?_⟩,
        .of_attempts rfl⟩
      intro q k' p' hq
      have hne : q ≠ pid := by
        rintro rfl
        simp at hq
      obtain ⟨w, hwp, hw⟩ := hprocs q k' p' (by simpa [Function.update_of_ne hne] using hq)
      refine ⟨w, hwp, hw.imp_right ?_⟩
      -- the worker of an operation is another process, which the death leaves there
      rintro ⟨rfl, hworker⟩
      refine ⟨rfl, ?_⟩
      simp [sc05System, hworker, hne]

/-- **A run.** -/
theorem Tracked.run :
    ∀ (xs : List (Choice (Fate ι) SC05Process (W → W)))
      {c : Config SC05Label SC05Label.Resp SC05Exception (SC05State W) SC05Process}
      {stored : List StoredScreenshot}, Tracked o stored c →
      (sc05System portal settings).RunOk (Closing o) c xs →
      Tracked o (stored ++ storedScreenshots portal settings c xs)
          ((sc05System portal settings).run c xs) ∧
        FinishedStay o c.shared ((sc05System portal settings).run c xs).shared := by
  intro xs
  induction xs with
  | nil =>
    intro c stored h _
    exact ⟨by simpa [storedScreenshots] using h, .of_attempts rfl⟩
  | cons y ys ih =>
    intro c stored h hok
    obtain ⟨hnext, hstay⟩ := h.next portal settings y hok.1
    obtain ⟨hrun, hstay'⟩ := ih hnext hok.2
    refine ⟨?_, hstay.trans hstay'⟩
    rw [List.append_assoc] at hrun
    exact hrun

/-- **The evidence of an operation is complete and stays.** In every run of sequential executions
of an operation from its creation on, whatever the portals, the storage, the database, crashes,
quarantines and resumes do: if the handlers of `execute_sc05` close its run only when no attempt is
running, then the attempts are numbered in the order of their calls, the artifacts are those the
status of each attempt promises, at most one attempt is running and none once the run is closed,
and a finished attempt never changes. -/
theorem evidence_kept (portal : PortalBackend W ι) (settings : Settings) {o : OperationId}
    {s : SC05State W} (hs : o < s.operationCount) (hcreated : Unattempted o s)
    (xs : List (Choice (Fate ι) SC05Process (W → W)))
    (hxs : (sc05System portal settings).RunOk
      (fun m s => Sequential o m (sagaView o s) ∧ ClosesFinished o m s) (Config.idle s) xs) :
    EvidenceKept o (storedScreenshots portal settings (Config.idle s) xs)
        ((sc05System portal settings).run (Config.idle s) xs).shared ∧
      ∀ ys zs, xs = ys ++ zs →
        FinishedStay o ((sc05System portal settings).run (Config.idle s) ys).shared
          ((sc05System portal settings).run (Config.idle s) xs).shared := by
  have hstart : Tracked o [] (Config.idle s : Config SC05Label SC05Label.Resp SC05Exception
      (SC05State W) SC05Process) := by
    refine ⟨hs, none, fun _ => [], ⟨hcreated.attempts, fun p => ?_, fun _ => rfl,
      fun p r hr => (by cases hr), fun y hy => ?_, fun p r hr => (by cases hr),
      fun a ha => (by cases ha)⟩,
      fun pid k p hp => (by cases hp)⟩
    · show portalCalls (s.traces o) p = _
      rw [hcreated.trace]
      rfl
    · change y ∈ (s.operations o).artifacts at hy
      rw [hcreated.artifacts] at hy
      cases hy
  constructor
  · obtain ⟨⟨-, x, rows, hledger, -⟩, -⟩ := Tracked.run xs hstart hxs
    exact hledger.evidence
  · rintro ys zs rfl
    obtain ⟨hys, hzs⟩ := System.RunOk.append.1 hxs
    rw [System.run_append]
    exact (Tracked.run zs (Tracked.run ys hstart hys).1 hzs).2

end Runs

section Sample

theorem evidence_kept_residueRun :
    EvidenceKept 0
      (storedScreenshots (simulatorPortal id) {} (Config.idle sampleState) residueRun)
      ((sc05System (simulatorPortal id) {}).run (Config.idle sampleState) residueRun).shared := by
  have hs : 0 < sampleState.operationCount := by decide
  have hcreated : Unattempted 0 sampleState := ⟨rfl, rfl, fun _ => rfl, rfl⟩
  have hxs : (sc05System (simulatorPortal id) {}).RunOk
      (fun m s => Sequential 0 m (sagaView 0 s) ∧ ClosesFinished 0 m s)
      (Config.idle sampleState) residueRun := by decide +kernel
  exact (evidence_kept (o := 0) (simulatorPortal id) {} hs hcreated residueRun hxs).1

/-- The first inspection has succeeded, and the database fails when its attempt is finished. -/
def unconfirmedRun :
    List (Choice (Fate (Option Interruption)) SC05Process (Simulator → Simulator)) :=
  .start (.deliver 0 (.uuid 0) false) ::
    sampleSteps 0 0 19 [(16, { dbFails := true, call := none })]

/-- The run is closed, and the attempt is still running. -/
theorem unconfirmedRun_leaves_attempt :
    Unattempted 0 sampleState ∧
      (sc05System (simulatorPortal id) {}).RunOk (fun m s => Sequential 0 m (sagaView 0 s))
        (Config.idle sampleState) unconfirmedRun ∧
      ¬ EvidenceKept 0
        (storedScreenshots (simulatorPortal id) {} (Config.idle sampleState) unconfirmedRun)
        ((sc05System (simulatorPortal id) {}).run (Config.idle sampleState)
          unconfirmedRun).shared := by
  refine ⟨⟨rfl, rfl, fun _ => rfl, rfl⟩, by decide +kernel, fun h => ?_⟩
  have hopen : ¬ (((sc05System (simulatorPortal id) {}).run (Config.idle sampleState)
      unconfirmedRun).shared.operations 0).NoneOpen := by decide +kernel
  have hstatus : (((sc05System (simulatorPortal id) {}).run (Config.idle sampleState)
      unconfirmedRun).shared.run 0).status = .partiallyFailed := by decide +kernel
  exact hopen (h.closed (.inr (.inr hstatus)))

end Sample

end SheepContabil
