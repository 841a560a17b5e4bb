import SheepContabil.Proof.Sc05Programs
import SheepContabil.Spec.Sc05Evidence

/-!
# What an execution does with its attempts

The programs of the saga are verified over a state that only says which attempt the
process has open (`Work`), and what it knows of it (`OpenAttempt`).

* `attemptContract`: when an action may be performed, and what it leaves open.
* `Settled`: what a part of the saga leaves behind: no open attempt, unless its delivery was
  superseded or the database failed.
* `body_attempts`: every process keeps the contract.
-/

namespace SheepContabil

open Conc Conc.Prog

/-- An open attempt, and what has been done about it. -/
structure OpenAttempt where
  portal : SC05Portal
  sequence : ℕ
  operation : SC05AttemptOperation
  called : Bool := false
  evidence : Option PortalEvidence := none
  stored : Option StoredScreenshot := none
  artifact : Option StoredScreenshot := none

/-- What a process is doing for an operation. -/
inductive Work where
  | idle
  | executing (opened : Option OpenAttempt)

namespace Work

/-- What an action on the operation leaves open. -/
def after : (l : SC05Label) → Except SC05Exception l.Resp → Work → Work
  | .prepareOperation .., .ok (_, true), _ => executing none
  | .acknowledge _, _, _ => idle
  | .startAttempt _ p operation .., .ok n, executing _ =>
    executing (some { portal := p, sequence := n, operation := operation })
  | .callPortal .., r, executing (some a) =>
    executing (some { a with called := true, evidence := r.toOption })
  | .putScreenshot .., .ok stored, executing (some a) =>
    executing (some { a with stored := some stored })
  | .recordArtifact _ _ _ stored, .ok _, executing (some a) =>
    executing (some { a with artifact := some stored })
  | .succeedAttempt .., .ok _, executing _ => executing none
  | .failAttempt .., .ok _, executing _ => executing none
  | _, _, w => w

/-- When an action on the operation `o` may be performed. -/
def Allows (o : OperationId) : SC05Label → Work → Prop
  | .prepareOperation .., w => w = idle
  | .startAttempt .., w => w = executing none
  | .callPortal _ p request, w => ∃ a, w = executing (some a) ∧ a.portal = p ∧
      a.operation = request.call.operation ∧ a.called = false
  | .recordArtifact _ p n stored, w => ∃ a, w = executing (some a) ∧ a.portal = p ∧
      a.sequence = n ∧ a.stored = some stored ∧ a.artifact = none
  | .succeedAttempt _ p n .., w => ∃ a evidence position, w = executing (some a) ∧ a.portal = p ∧
      a.sequence = n ∧ a.evidence = some evidence ∧
      a.artifact = some ⟨⟨o, position, p, n, a.operation, false⟩, evidence.screenshot⟩
  | .failAttempt _ p n .., w => ∃ a, w = executing (some a) ∧ a.portal = p ∧ a.sequence = n
  | .finishSucceeded .., w => w = executing none
  | .finishFailed _ _ _ site _, w => site = .compensated → w = executing none
  | .recordDispatchFailure _ _ status _, _ => status ≠ .running
  | _, _ => True

/-- What is known of an answer. -/
def Answers : (l : SC05Label) → Except SC05Exception l.Resp → Prop
  | .requireCurrentDelivery .., .error e => ∀ x, e ≠ .sc05 x
  | .startAttempt .., .error e => ∀ x, e ≠ .sc05 x
  | .succeedAttempt .., .error e => ∀ x, e ≠ .sc05 x
  | .failAttempt .., .error e => ∀ x, e ≠ .sc05 x
  | .putScreenshot _ key content, .ok stored => stored = ⟨key, content⟩
  | _, _ => True

end Work

/-- The contract of the processes of operation `o`. -/
def attemptContract (o : OperationId) : Contract SC05Label SC05Label.Resp SC05Exception Work where
  inv _ := True
  rely _ w w' := w' = w
  pre _ l w := l.op? = some o → Work.Allows o l w
  effect _ l w r w' := Work.Answers l r ∧ w' = if l.op? = some o then Work.after l r w else w

/-- What a part of the saga leaves open. -/
def Settled {α : Type} : Except SC05Exception α → Work → Prop
  | .ok _, w => w = .executing none
  | .error (.sc05 _), w => w = .executing none
  | .error _, w => ∃ x, w = .executing x

theorem Settled.none {α : Type} : ∀ r : Except SC05Exception α, Settled r (.executing none)
  | .ok _ | .error (.sc05 _) => rfl
  | .error .superseded | .error (.validation _) | .error (.other _) => ⟨_, rfl⟩

/-- An exception that is no `SC05Error` may leave an attempt open. -/
theorem Settled.loose {α : Type} {e : SC05Exception} (h : ∀ x, e ≠ .sc05 x)
    (x : Option OpenAttempt) :
    Settled (.error e : Except SC05Exception α) (.executing x) := by
  cases e with
  | sc05 x => exact absurd rfl (h x)
  | superseded | validation | other => exact ⟨x, rfl⟩

theorem Settled.executing {α : Type} {r : Except SC05Exception α} {w : Work} (h : Settled r w) :
    ∃ x, w = .executing x := by
  rcases r with e | a
  · cases e with
    | sc05 => exact ⟨_, h⟩
    | superseded | validation | other => exact h
  · exact ⟨_, h⟩

/-- What a part of the saga leaves open that always raises. -/
def Raised {α : Type} (r : Except SC05Exception α) (w : Work) : Prop :=
  ∃ e, r = .error e ∧ Settled r w

theorem Raised.loose {α : Type} {e : SC05Exception} (h : ∀ x, e ≠ .sc05 x)
    (x : Option OpenAttempt) :
    Raised (.error e : Except SC05Exception α) (.executing x) := ⟨e, rfl, Settled.loose h x⟩

section Rules

variable {o : OperationId} {pid : ℕ} {α β : Type} {w : Work}

/-- One action. -/
theorem attempt_call {l : SC05Label} {Q : Except SC05Exception l.Resp → Work → Prop}
    (hl : l.op? = some o) (hpre : Work.Allows o l w)
    (h : ∀ r, Work.Answers l r → Q r (Work.after l r w)) :
    wp (attemptContract o) pid (.call l) Q w := by
  refine wp_call ?_
  rintro _ rfl -
  refine ⟨fun _ => hpre, ?_⟩
  rintro r _ ⟨hr, rfl⟩
  rw [if_pos hl]
  exact h r hr

theorem settled_bind {p : SC05Prog α} {k : α → SC05Prog β}
    (hp : wp (attemptContract o) pid p Settled w)
    (hk : ∀ a, wp (attemptContract o) pid (k a) Settled (.executing none)) :
    wp (attemptContract o) pid (p.bind k) Settled w := by
  refine wp_bind (wp_mono ?_ hp)
  rintro (e | a) w h
  · cases e with
    | sc05 | superseded | validation | other => exact h
  · obtain rfl : w = .executing none := h
    exact hk a

theorem settled_attempt {p : SC05Prog α} {k : Except SC05Exception α → SC05Prog β}
    (hp : wp (attemptContract o) pid p Settled w)
    (hk : ∀ r w, Settled r w → wp (attemptContract o) pid (k r) Settled w) :
    wp (attemptContract o) pid ((Prog.attempt p).bind k) Settled w :=
  wp_bind (wp_attempt (wp_mono (fun r w h => hk r w h) hp))

/-- The actions that neither need nor leave an open attempt. -/
def SC05Label.isCalm : SC05Label → Bool
  | buildScreenshotStorage _ | openSession _ | loadSteps _ | requireCurrentDelivery .. | touchRun ..
  | startStep .. | selectGateway .. | saveStep .. | priorStep .. | recordStepFinished ..
  | markStepFailed .. | compensationCandidates .. | hasResidualState _ | finishSucceeded ..
  | finishFailed .. | summarize .. => true
  | _ => false

theorem settled_calm {l : SC05Label} (hl : l.op? = some o) (hcalm : l.isCalm = true) :
    wp (attemptContract o) pid (.call l) Settled (.executing none) := by
  refine attempt_call hl ?_ fun r _ => ?_
  · cases l <;> simp [SC05Label.isCalm] at hcalm <;> simp [Work.Allows]
  · have hafter : Work.after l r (.executing none) = .executing none := by
      cases l <;> simp [SC05Label.isCalm] at hcalm <;> simp [Work.after]
    rw [hafter]
    exact Settled.none r

theorem settled_ofExcept (r : Except SC05Exception α) :
    wp (attemptContract o) pid (ofExcept r : SC05Prog α) Settled (.executing none) := by
  cases r with
  | error e => exact Settled.none _
  | ok a => exact Settled.none _

end Rules

section Invocation

variable {operation : LoadedOperation} {pid : ℕ}

/-- The check of the delivery changes nothing. -/
theorem requireCurrent_rule {α : Type} {k : Unit → SC05Prog α}
    {Q : Except SC05Exception α → Work → Prop} {x : Option OpenAttempt} (t : Option TaskId)
    (hk : wp (attemptContract operation.id) pid (k ()) Q (.executing x))
    (herror : ∀ e, (∀ y, e ≠ .sc05 y) → Q (.error e) (.executing x)) :
    wp (attemptContract operation.id) pid
      ((Prog.call (.requireCurrentDelivery operation.id t)).bind k) Q (.executing x) := by
  refine wp_bind (attempt_call rfl trivial ?_)
  rintro (e | u) hr
  · exact herror e hr
  · exact hk

/-- The end of a failed attempt. -/
theorem failAttempt_rule {α : Type} {a : OpenAttempt} (e : SC05Error) (st : PortalState)
    (t : Option TaskId) (e' : SC05Exception) :
    wp (attemptContract operation.id) pid
      ((Prog.call (.failAttempt operation.id a.portal a.sequence e st t)).bind
        fun _ => (Prog.raise e' : SC05Prog α)) Raised (.executing (some a)) := by
  refine wp_bind (attempt_call rfl ⟨a, rfl, rfl, rfl⟩ ?_)
  rintro (e | u) hr
  · exact Raised.loose hr _
  · exact ⟨_, rfl, Settled.none _⟩

/-- What stays of an open attempt while its evidence is stored. -/
def OpenAttempt.Same (a b : OpenAttempt) : Prop :=
  b.portal = a.portal ∧ b.sequence = a.sequence ∧ b.operation = a.operation ∧
    b.called = a.called ∧ b.evidence = a.evidence

theorem OpenAttempt.Same.refl (a : OpenAttempt) : a.Same a := ⟨rfl, rfl, rfl, rfl, rfl⟩

/-- Nothing that happens to the failure screenshot leaves the attempt. -/
theorem storeFailureScreenshot_rule {a : OpenAttempt} (ha : a.artifact = none)
    (attempt : SC05AttemptOperation) (e : SC05Error) :
    wp (attemptContract operation.id) pid
      (storeFailureScreenshot operation a.portal a.sequence attempt e)
      (fun r w => r = .ok () ∧ ∃ b, a.Same b ∧ w = .executing (some b)) (.executing (some a)) := by
  unfold storeFailureScreenshot
  split
  · exact ⟨rfl, a, .refl a, rfl⟩
  · refine wp_tryCatch (wp_bind (attempt_call rfl trivial ?_))
    rintro (e | stored) hr
    · exact ⟨rfl, a, .refl a, rfl⟩
    · refine requireCurrent_rule _ (attempt_call rfl ?_ ?_)
        fun e _ => ⟨rfl, { a with stored := some stored }, ⟨rfl, rfl, rfl, rfl, rfl⟩, rfl⟩
      · exact ⟨_, rfl, rfl, rfl, rfl, ha⟩
      · rintro (e | u) -
        · exact ⟨rfl, { a with stored := some stored }, ⟨rfl, rfl, rfl, rfl, rfl⟩, rfl⟩
        · exact ⟨rfl, { a with stored := some stored, artifact := some stored },
            ⟨rfl, rfl, rfl, rfl, rfl⟩, rfl⟩

/-- **The handlers of `_invoke` close the attempt**, unless they are refused. -/
theorem failInvocation_rule {α : Type} {a : OpenAttempt} (attempt : SC05AttemptOperation)
    (evidence : Option PortalEvidence) (e : SC05Exception) (ha : a.artifact = none) :
    wp (attemptContract operation.id) pid
      (failInvocation operation a.portal a.sequence attempt evidence e : SC05Prog α) Raised
      (.executing (some a)) := by
  cases e with
  | superseded => exact ⟨_, rfl, _, rfl⟩
  | sc05 e =>
    refine requireCurrent_rule _ (wp_bind (wp_mono ?_ (storeFailureScreenshot_rule ha attempt e)))
      fun e he => Raised.loose he _
    -- the attempt is still the open one, whatever became of the failure screenshot
    rintro _ _ ⟨rfl, b, ⟨hp, hn, -⟩, rfl⟩
    refine requireCurrent_rule _ ?_ fun e he => Raised.loose he _
    rw [← hp, ← hn]
    exact failAttempt_rule _ _ _ _
  | validation | other =>
    exact requireCurrent_rule _ (failAttempt_rule _ _ _ _) fun e he => Raised.loose he _

/-- The screenshot is recorded, or nothing is. -/
def Preserved (operation : LoadedOperation) (a : OpenAttempt) (evidence : PortalEvidence)
    (r : Except SC05Exception Unit) (w : Work) : Prop :=
  ∃ b, a.Same b ∧ w = .executing (some b) ∧ match r with
    | .ok _ => b.artifact = some ⟨⟨operation.id, operation.op.action.position a.portal, a.portal,
        a.sequence, a.operation, false⟩, evidence.screenshot⟩
    | .error _ => b.artifact = none

theorem preserveEvidence_rule {a : OpenAttempt} (ha : a.artifact = none)
    (evidence : PortalEvidence) :
    wp (attemptContract operation.id) pid
      (preserveEvidence operation a.portal a.sequence a.operation evidence)
      (Preserved operation a evidence) (.executing (some a)) := by
  unfold preserveEvidence
  refine requireCurrent_rule _ (wp_bind (Q := _) ?_) fun e _ => ⟨a, .refl a, rfl, ha⟩
  -- both branches of the saved state go on with the screenshot
  have hrest : wp (attemptContract operation.id) pid
      ((Prog.call (.putScreenshot operation.id ⟨operation.id, operation.op.action.position a.portal,
          a.portal, a.sequence, a.operation, false⟩ evidence.screenshot)).bind fun stored =>
        (Prog.call (.requireCurrentDelivery operation.id operation.op.run.taskId)).bind fun _ =>
          Prog.call (SC05Label.recordArtifact operation.id a.portal a.sequence stored))
      (Preserved operation a evidence) (.executing (some a)) := by
    refine wp_bind (attempt_call rfl trivial ?_)
    rintro (e | stored) hr
    · exact ⟨a, .refl a, rfl, ha⟩
    · obtain rfl : stored = _ := hr
      refine requireCurrent_rule _ (attempt_call rfl ⟨_, rfl, rfl, rfl, rfl, ha⟩ ?_)
        fun e _ => ⟨{ a with stored := some _ }, ⟨rfl, rfl, rfl, rfl, rfl⟩, rfl, ha⟩
      rintro (e | u) -
      · exact ⟨{ a with stored := some _ }, ⟨rfl, rfl, rfl, rfl, rfl⟩, rfl, ha⟩
      · exact ⟨{ a with stored := some _, artifact := some _ }, ⟨rfl, rfl, rfl, rfl, rfl⟩, rfl, rfl⟩
  unfold saveAfterState
  split
  · exact hrest
  · refine attempt_call rfl trivial ?_
    rintro (e | u) -
    · exact ⟨a, .refl a, rfl, ha⟩
    · exact hrest

/-- **`_invoke`** closes the attempt it starts, unless its delivery is superseded or the database
fails. -/
theorem invoke_rule (p : SC05Portal) (st : PortalState) (ph : Phase) (c : GatewayCall) :
    wp (attemptContract operation.id) pid (invoke operation p c.operation st ph c) Settled
      (.executing none) := by
  unfold invoke
  refine requireCurrent_rule _ (wp_bind (attempt_call rfl rfl ?_)) fun e he => Settled.loose he _
  rintro (e | n) hr
  · exact Settled.loose hr _
  refine wp_bind (wp_attempt (attempt_call rfl ⟨_, rfl, rfl, rfl, rfl⟩ ?_))
  rintro (e | evidence) -
  -- the call has failed, so there is no evidence to store
  · exact wp_mono (fun _ _ h => h.elim fun _ h => h.2) (failInvocation_rule
      (a := ⟨p, n, c.operation, true, none, none, none⟩) c.operation none e rfl)
  -- the call has returned: the attempt succeeds only after its evidence is recorded
  refine wp_bind (wp_tryCatch (wp_mono ?_ (preserveEvidence_rule (a := ⟨p, n, c.operation, true,
    some evidence, none, none⟩) rfl evidence)))
  rintro (e | u) _ ⟨b, ⟨hp, hn, hop, -, hev⟩, rfl, hb⟩
  · have hfail : wp (attemptContract operation.id) pid (failInvocation operation b.portal b.sequence
        c.operation (some evidence) e : SC05Prog Unit) Raised (.executing (some b)) :=
      failInvocation_rule c.operation (some evidence) e hb
    rw [hp, hn] at hfail
    refine wp_mono ?_ hfail
    rintro _ w ⟨e', rfl, h⟩
    cases e' with
    | sc05 | superseded | validation | other => exact h
  · refine requireCurrent_rule _ (wp_bind (attempt_call rfl ?_ ?_)) fun e he => Settled.loose he _
    · exact ⟨b, evidence, _, rfl, hp, hn, hev, by rw [hop]; exact hb⟩
    · rintro (e | u) hr
      · exact Settled.loose hr _
      · exact Settled.none _

/-- An action of the saga that neither needs nor leaves an open attempt. -/
theorem calm_bind {α : Type} {l : SC05Label} {k : l.Resp → SC05Prog α}
    (hl : l.op? = some operation.id) (hcalm : l.isCalm = true)
    (hk : ∀ a, wp (attemptContract operation.id) pid (k a) Settled (.executing none)) :
    wp (attemptContract operation.id) pid ((Prog.call l).bind k) Settled (.executing none) :=
  settled_bind (settled_calm hl hcalm) hk

theorem computeDesiredState_rule (p : SC05Portal) (st : PortalState) :
    wp (attemptContract operation.id) pid (computeDesiredState operation p st) Settled
      (.executing none) := by
  unfold computeDesiredState
  split
  · exact settled_ofExcept _
  · exact settled_ofExcept _
  · exact calm_bind rfl rfl fun _ => settled_ofExcept _

theorem stepDesiredState_rule (p : SC05Portal) (step : SC05PortalStep) (st : PortalState) :
    wp (attemptContract operation.id) pid (stepDesiredState operation p step st) Settled
      (.executing none) := by
  unfold stepDesiredState
  split
  · exact Settled.none _
  · exact computeDesiredState_rule p st

theorem applyChange_rule (p : SC05Portal) (st d : PortalState) :
    wp (attemptContract operation.id) pid (applyChange operation p st d) Settled
      (.executing none) := by
  unfold applyChange
  refine settled_bind (invoke_rule p st .apply (.apply operation.op.action)) fun changed =>
    calm_bind rfl rfl fun _ => ?_
  split
  · exact calm_bind rfl rfl fun _ => Settled.none _
  · exact calm_bind rfl rfl fun _ => settled_calm rfl rfl

theorem settleStep_rule (p : SC05Portal) (step : SC05PortalStep) (st d : PortalState) :
    wp (attemptContract operation.id) pid (settleStep operation p step st d) Settled
      (.executing none) := by
  unfold settleStep
  split
  · exact Settled.none _
  · split
    · exact calm_bind rfl rfl fun _ => settled_calm rfl rfl
    · exact applyChange_rule p _ d

theorem applyStep_rule (p : SC05Portal) (step : SC05PortalStep) :
    wp (attemptContract operation.id) pid (applyStep operation p step) Settled
      (.executing none) := by
  unfold applyStep
  refine calm_bind rfl rfl fun _ => calm_bind rfl rfl fun _ =>
    settled_bind (invoke_rule p step.lastState .apply .inspect) fun observed =>
      calm_bind rfl rfl fun _ => settled_bind ?_ fun _ =>
        settled_bind (stepDesiredState_rule p step observed.state) fun _ =>
          calm_bind rfl rfl fun _ => settleStep_rule p step observed.state _
  unfold checkFirstObservation
  split
  · exact settled_ofExcept _
  · exact Settled.none _

theorem applySteps_rule (rows : List (SC05Portal × SC05PortalStep)) :
    wp (attemptContract operation.id) pid (applySteps operation rows) Settled
      (.executing none) := by
  induction rows with
  | nil => exact Settled.none _
  | cons row rest ih =>
    obtain ⟨p, step⟩ := row
    unfold applySteps
    refine calm_bind rfl rfl fun _ => calm_bind rfl rfl fun _ =>
      settled_attempt (applyStep_rule p step) fun r w h => ?_
    rcases r with e | u
    · cases e with
      | sc05 e =>
        obtain rfl : w = .executing none := h
        exact calm_bind rfl rfl fun _ => Settled.none _
      | superseded | validation | other => exact h
    · obtain rfl : w = .executing none := h
      exact ih

theorem compensateStep_rule (p : SC05Portal) (step : SC05PortalStep) :
    wp (attemptContract operation.id) pid (compensateStep operation p step) Settled
      (.executing none) := by
  have hmark : ∀ st, wp (attemptContract operation.id) pid (markCompensated operation p st) Settled
      (.executing none) := fun st => calm_bind rfl rfl fun _ => settled_calm rfl rfl
  unfold compensateStep
  refine settled_bind (invoke_rule p step.lastState .compensation .inspect) fun current => ?_
  split
  · refine calm_bind rfl rfl fun _ => ?_
    split
    · exact Settled.none _
    · exact hmark _
  · split
    · exact Settled.none _
    · refine settled_bind (invoke_rule p step.lastState .compensation
        (.restore current.state step.beforeState)) fun restored => ?_
      split
      · exact Settled.none _
      · exact calm_bind rfl rfl fun _ => hmark _

theorem compensateSteps_rule (failed : SC05Portal) (rows : List (SC05Portal × SC05PortalStep)) :
    ∀ flag, wp (attemptContract operation.id) pid (compensateSteps operation failed rows flag)
      Settled (.executing none) := by
  induction rows with
  | nil => exact fun _ => Settled.none _
  | cons row rest ih =>
    obtain ⟨p, step⟩ := row
    intro flag
    unfold compensateSteps
    split
    · exact ih _
    · split
      · exact ih _
      · refine calm_bind rfl rfl fun _ =>
          settled_attempt (compensateStep_rule p step) fun r w h => ?_
        rcases r with e | u
        · cases e with
          | sc05 e =>
            obtain rfl : w = .executing none := h
            refine settled_bind (calm_bind rfl rfl fun _ => calm_bind rfl rfl fun _ =>
              settled_calm rfl rfl) fun _ => ih _
          | superseded | validation | other => exact h
        · obtain rfl : w = .executing none := h
          exact ih _

/-- **The saga** leaves no attempt open, unless its delivery is superseded or the database fails. -/
theorem runSaga_rule :
    wp (attemptContract operation.id) pid (runSaga operation) Settled (.executing none) := by
  unfold runSaga
  refine calm_bind rfl rfl fun _ => calm_bind rfl rfl fun _ => calm_bind rfl rfl fun steps =>
    settled_bind (applySteps_rule steps) fun failure => ?_
  split
  · refine calm_bind rfl rfl fun _ => calm_bind rfl rfl fun _ =>
      settled_bind (calm_bind rfl rfl fun candidates => compensateSteps_rule _ candidates false)
        fun flag => settled_calm rfl rfl
  · exact calm_bind rfl rfl fun _ => settled_calm rfl rfl

/-- What is left to do after the saga needs no attempt. -/
theorem handleFailure_rule (e : SC05Exception) (w : Work) :
    wp (attemptContract operation.id) pid (handleFailure operation e) (fun _ _ => True) w := by
  refine wp_within (A := fun l => ∃ x, l = .hasResidualState x ∨
      ∃ e flag t, l = .finishFailed x e flag .outside t) ?_ ?_ (fun _ _ => trivial)
  · rintro l w ⟨x, rfl | ⟨e, flag, t, rfl⟩⟩ -
    · trivial
    · exact fun h => by cases h
  · have houtside : ∀ e, (failOutside operation e).Within (fun l => ∃ x, l = .hasResidualState x ∨
        ∃ e flag t, l = .finishFailed x e flag .outside t) := fun e =>
      within_call_bind ⟨_, .inl rfl⟩ fun _ =>
        within_call.2 ⟨_, .inr ⟨_, _, _, rfl⟩⟩
    cases e with
    | superseded => trivial
    | sc05 e => exact houtside e
    | validation | other => exact within_bind (houtside _) fun _ => trivial

end Invocation

section Processes

variable {o : OperationId} {pid : ℕ}

/-- A delivery of the operation. -/
theorem deliver_rule (t : SuppliedTaskId) (b : Bool) :
    wp (attemptContract o) pid (deliver o t b) (fun _ _ => True) .idle := by
  have hsummarize : ∀ loaded w, wp (attemptContract o) pid (Prog.call (.summarize o loaded))
      (fun _ _ => True) w := fun loaded w => attempt_call rfl trivial fun _ _ => trivial
  have hexecute : wp (attemptContract o) pid (executeSc05 o t b) (fun _ _ => True) .idle := by
    refine wp_bind (attempt_call rfl rfl ?_)
    rintro (e | ⟨⟨op, client⟩, _ | _⟩) -
    · trivial
    · exact hsummarize _ _
    · refine wp_bind (wp_tryCatch (wp_mono ?_ (@runSaga_rule ⟨o, op, client⟩ pid)))
      rintro (e | u) w -
      · refine wp_mono ?_ (@handleFailure_rule ⟨o, op, client⟩ pid e w)
        rintro (e | u) w -
        · trivial
        · exact hsummarize _ _
      · exact hsummarize _ _
  refine wp_tryFinally (wp_mono ?_ (wp_bind (wp_mono ?_ hexecute)) (Q := fun _ _ => True))
  · rintro r w -
    refine attempt_call rfl trivial ?_
    rintro (e | u) - <;> trivial
  · rintro (e | r) w - <;> trivial

/-- The actions of the requests and of the reconciler. -/
def SC05Label.isRequest : SC05Label → Bool
  | createRun .. | resumeRun _ | dispatchStart _ | publish .. | recordDispatchSuccess ..
  | reconcileOne .. | recordRecoveryPublishFailure .. | recordInspectionFailure .. => true
  | recordDispatchFailure _ _ status _ => status == .failed || status == .partiallyFailed
  | _ => false

theorem allows_of_request {l : SC05Label} (hl : l.isRequest = true) (w : Work) :
    Work.Allows o l w := by
  cases l with
  | recordDispatchFailure o' t status exc =>
    rintro rfl
    cases hl
  | _ => trivial

theorem dispatchRun_requests (o' : OperationId) {status : RunStatus}
    (hs : status = .failed ∨ status = .partiallyFailed) :
    (dispatchRun o' status).Within fun l => l.isRequest = true := by
  have hfail : ∀ t exc, (SC05Label.recordDispatchFailure o' t status exc).isRequest = true := by
    intro t exc
    rcases hs with rfl | rfl <;> rfl
  unfold dispatchRun
  refine within_call_bind rfl fun start => ?_
  split
  · trivial
  · trivial
  · refine within_bind (within_tryCatch (within_call.2 rfl) fun e => ?_) fun _ => within_call.2 rfl
    exact within_call_bind (hfail _ _) fun _ => trivial

/-- **Every process keeps the contract of the operation.** -/
theorem body_attempts (k : SC05Process) :
    wp (attemptContract o) pid k.body (fun _ _ => True) .idle := by
  have hrequests : ∀ {p : SC05Prog Unit}, p.Within (fun l => l.isRequest = true) →
      wp (attemptContract o) pid p (fun _ _ => True) .idle := fun hp =>
    wp_within (C := attemptContract o) (fun l w hl _ => allows_of_request hl w) hp
      fun _ _ => trivial
  cases k with
  | deliver o' t b =>
    by_cases ho : o' = o
    · subst ho
      exact deliver_rule t b
    · refine wp_within (C := attemptContract o) (fun l w hl h => ?_) (deliver_within o' t b)
        fun _ _ => trivial
      exact absurd (Option.some.inj (hl.symm.trans h)) ho
  | createAndDispatch c a sc key =>
    refine hrequests (within_call_bind rfl fun r => ?_)
    obtain ⟨o', created⟩ := r
    show Prog.Within _ (if created = true then _ else _)
    split
    · exact within_tryCatch (dispatchRun_requests o' (by decide)) fun _ => trivial
    · trivial
  | resumeAndDispatch o' =>
    exact hrequests (within_call_bind rfl fun _ =>
      within_tryCatch (dispatchRun_requests o' (by decide)) fun _ => trivial)
  | reconcile o' now =>
    refine hrequests (within_bind (within_attempt (within_call.2 rfl)) fun r => ?_)
    split
    · exact within_call.2 rfl
    · exact within_tryCatch (within_call_bind rfl fun _ => within_call.2 rfl)
        fun _ => within_call.2 rfl
    · trivial

end Processes

end SheepContabil
