import SheepContabil.Proof.Sc05Sound
import SheepContabil.Spec.Sc05Portals

/-!
# The saga never overwrites blindly

* `trace_step`: what a step of the system adds to the trace of an operation.
* `saga_disciplined`: apply and restore calls follow the execution's own inspection, a
  captured state is never replaced, and no quiet execution abandons its compensation.
* `captured_overwritten`: two executions that overlap replace one.
-/

namespace SheepContabil

open Conc Conc.Prog

variable {W ι : Type} {o : OperationId} {quiet careful : Prop}

/-- The move behind an event of the trace. -/
inductive Recorded (o : OperationId) (v : SagaView) :
    Move SC05Label (Fate ι) (W → W) → SC05Event → Prop where
  | started (pid : ℕ) (t : SuppliedTaskId) (b : Bool) (i : Fate ι) :
    Recorded o v (.act pid (.prepareOperation o t b) i) (.started pid)
  | called (pid : ℕ) (p : SC05Portal) (request : GatewayRequest) (i : Fate ι)
      (outcome : CallOutcome) :
    Recorded o v (.act pid (.callPortal o p request) i)
      (.called pid p request.phase request.call (v.step p).before (v.step p).desired outcome)
  | compensating (pid : ℕ) (failed : SC05Portal) (i : Fate ι) :
    Recorded o v (.act pid (.compensationCandidates o failed) i)
      (.compensating pid failed (v.candidates.map Prod.fst))
  | succeeded (pid : ℕ) (t : Option TaskId) (i : Fate ι) :
    Recorded o v (.act pid (.finishSucceeded o t) i) (.succeeded pid)
  | failed (pid : ℕ) (e : SC05Error) (flag : Bool) (site : FailureSite) (t : Option TaskId)
      (i : Fate ι) (status : RunStatus) (client : SC05ClientStatus) (hrun : v.status = .running)
      (hclose : (e.code = .taskMarkerWithoutSnapshot ∧ status = .failed ∧ client = .unknown) ∨
        (e.code ≠ .taskMarkerWithoutSnapshot ∧ flag = true ∧ status = .partiallyFailed ∧
          client = .partialState) ∨
        (e.code ≠ .taskMarkerWithoutSnapshot ∧ flag = false ∧ status = .failed ∧
          client = v.action.undoneStatus)) :
    Recorded o v (.act pid (.finishFailed o e flag site t) i) (.failed pid site status client)

/-- A step of the system adds at most one event to the trace. -/
theorem trace_step {m : Move SC05Label (Fate ι) (W → W)} {v v' : SagaView}
    (h : (sagaAbstract W ι o).move m v v') :
    v'.action = v.action ∧
      (v'.trace = v.trace ∨ ∃ e, v'.trace = e :: v.trace ∧ Recorded o v m e) := by
  cases saga_cases h with
  | started pid t b i => exact ⟨rfl, .inr ⟨_, rfl, .started pid t b i⟩⟩
  | called pid p request i outcome => exact ⟨rfl, .inr ⟨_, rfl, .called pid p request i outcome⟩⟩
  | compensating pid failed i => exact ⟨rfl, .inr ⟨_, rfl, .compensating pid failed i⟩⟩
  | succeeded pid t i => exact ⟨rfl, .inr ⟨_, rfl, .succeeded pid t i⟩⟩
  | failed pid e flag site t i status client hc hclose =>
    exact ⟨rfl, .inr ⟨_, rfl, .failed pid e flag site t i status client hc.1 hclose⟩⟩
  | idle | released | quarantined | waits | undispatched | marked | saved => exact ⟨rfl, .inl rfl⟩

/-- Only `step.save` writes the captured and desired states of a step. -/
theorem states_step {m : Move SC05Label (Fate ι) (W → W)} {v v' : SagaView}
    (h : (sagaAbstract W ι o).move m v v') :
    (∀ p, (v'.step p).before = (v.step p).before ∧ (v'.step p).desired = (v.step p).desired) ∨
      ∃ pid p u i, m = .act pid (.saveStep o p u) i ∧ v' = v.saveStep p u := by
  cases saga_cases h with
  | quarantined =>
    exact .inl fun p => ⟨(untouched_quarantine v).before p, (untouched_quarantine v).desired p⟩
  | marked => exact .inl fun _ => by simp
  | saved pid p u i => exact .inr ⟨pid, p, u, i, rfl, rfl⟩
  | idle | released | started | waits | undispatched | called | compensating | succeeded | failed =>
    exact .inl fun _ => ⟨rfl, rfl⟩

section Discipline

/-- What is known before a move, of the worker's view. -/
theorem knows_pre {pid : ℕ} {l : SC05Label} {i : Fate ι} {v : SagaView}
    (h : (sagaOutline W ι o quiet careful).Knows (.act pid l i) v) (hl : l.op? = some o)
    (hw : l.isWorkerWrite = true) :
    ∃ c, v.Shows c ∧ c.worker = some pid ∧ WritePre quiet careful pid l v c :=
  h.2 pid l i rfl hl hw

/-- The discipline of a recorded event follows from what the worker knows. -/
theorem eventOk_of_recorded {m : Move SC05Label (Fate ι) (W → W)} {v : SagaView} {e : SC05Event}
    (h : (sagaOutline W ι o quiet careful).Knows m v) (he : Recorded o v m e) :
    EventOk v.action e v.trace := by
  cases he with
  | started => trivial
  | compensating => trivial
  | succeeded => trivial
  | called pid p request i outcome =>
    obtain ⟨c, hv, -, hpre, -⟩ := knows_pre h rfl rfl
    have := hpre outcome
    rwa [SagaCore.callEvent, ← hv.before, ← hv.desired, ← hv.action, ← hv.trace] at this
  | failed pid e flag site t i status client hrun hclose =>
    cases site with
    | outside => trivial
    | compensated =>
      obtain ⟨c, hv, -, ⟨failed, candidates, hl, hvis, -⟩, -⟩ := knows_pre h rfl rfl
      refine ⟨failed, candidates, by rw [hv.trace]; exact hl, fun p hp hle => ?_⟩
      rw [hv.action] at hle
      rw [hv.trace]
      exact hvis p hp hle

/-- A captured state is not replaced by a step of the system. -/
theorem captured_step {m : Move SC05Label (Fate ι) (W → W)} {v v' : SagaView}
    (h : (sagaOutline W ι o quiet careful).Knows m v) (hm : (sagaAbstract W ι o).move m v v')
    {p : SC05Portal} (hp : (v.step p).before ≠ []) : (v'.step p).before = (v.step p).before := by
  rcases states_step hm with hsame | ⟨pid, q, u, i, rfl, rfl⟩
  · exact (hsame p).1
  obtain ⟨c, hv, -, hbefore, -⟩ := knows_pre h rfl rfl
  by_cases hqp : p = q
  swap
  · rw [saveStep_other v u hqp]
  subst hqp
  rw [saveStep_self]
  cases hb : u.beforeState with
  | none => rfl
  | some b =>
    obtain ⟨d, -, hsame, -⟩ := hbefore b hb
    rw [hv.before] at hp ⊢; exact hsame hp

/-- Only the worker's last transaction makes a run succeed. -/
theorem succeeded_step {m : Move SC05Label (Fate ι) (W → W)} {v v' : SagaView}
    (h : (sagaOutline W ι o quiet careful).Knows m v) (hm : (sagaAbstract W ι o).move m v v')
    (hs : v'.status = .succeeded) : v.status = .succeeded ∨
      ∃ pid t i, m = .act pid (.finishSucceeded o t) i ∧ v.Current t ∧
        v' = { v with status := .succeeded, trace := .succeeded pid :: v.trace } := by
  cases saga_cases hm with
  | succeeded pid t i hc => exact .inr ⟨pid, t, i, rfl, hc, rfl⟩
  | started => cases hs
  | quarantined => cases hs
  | waits m status t hv hrun hne => exact absurd hs hne
  | undispatched pid t status exc i hv =>
    obtain rfl : status = .succeeded := hs
    obtain ⟨c, -, -, hfalse⟩ := knows_pre h rfl rfl
    exact hfalse.elim
  | failed pid e flag site t i status client hc hclose =>
    rcases hclose with ⟨-, rfl, -⟩ | ⟨-, -, rfl, -⟩ | ⟨-, -, rfl, -⟩ <;> cases hs
  | idle | released | marked | saved | called | compensating => exact .inl hs

/-- Nothing happens to an operation that has succeeded any more. -/
theorem trace_of_succeeded {m : Move SC05Label (Fate ι) (W → W)} {v v' : SagaView}
    (h : (sagaOutline W ι o quiet careful).Knows m v) (hm : (sagaAbstract W ι o).move m v v')
    (hs : v.status = .succeeded) (hphase : phase? v.trace = none) (hs' : v'.status = .succeeded) :
    v'.trace = v.trace := by
  have hcur : ∀ t, ¬ v.Current t := fun t hc => by rw [hc.1] at hs; cases hs
  cases saga_cases hm with
  | started => cases hs'
  | called pid p request i outcome =>
    obtain ⟨c, hv, -, -, -, hp, -⟩ := knows_pre h rfl rfl
    rw [← hv.trace, hphase] at hp; cases hp
  | compensating pid failed i =>
    obtain ⟨c, hv, -, hp⟩ := knows_pre h rfl rfl
    exact absurd hphase (by rw [hv.trace]; exact hp)
  | succeeded pid t i hc => exact absurd hc (hcur t)
  | failed pid e flag site t i status client hc => exact absurd hc (hcur t)
  | idle | released | quarantined | waits | undispatched | marked | saved => rfl

/-- A quiet execution that compensates closes the run itself. -/
theorem notAbandoned_of_recorded {m : Move SC05Label (Fate ι) (W → W)} {v : SagaView} {e : SC05Event}
    (h : (sagaOutline W ι o True careful).Knows m v) (he : Recorded o v m e) :
    NotAbandoned e v.trace := by
  cases he with
  | started => trivial
  | compensating => trivial
  | succeeded => trivial
  | called => trivial
  | failed pid e flag site t i status client hrun hclose =>
    cases site with
    | compensated => trivial
    | outside =>
      obtain ⟨c, hv, -, -, hquiet, -⟩ := knows_pre h rfl rfl
      show inCompensation v.trace = false
      rw [hv.trace]
      exact hquiet trivial

/-- A property of the events goes along with the trace. -/
theorem throughout_step {P : SC05Event → List SC05Event → Prop}
    {m : Move SC05Label (Fate ι) (W → W)} {v v' : SagaView}
    (hm : (sagaAbstract W ι o).move m v v') (h : Throughout P v.trace)
    (he : ∀ e, Recorded o v m e → P e v.trace) : Throughout P v'.trace := by
  obtain ⟨-, ht | ⟨e, ht, hr⟩⟩ := trace_step hm
  · rw [ht]; exact h
  · rw [ht]; exact throughout_cons.2 ⟨he e hr, h⟩

end Discipline

/-- An operation as it is created: nothing captured, nothing called, no worker. -/
structure SagaView.Fresh (v : SagaView) : Prop where
  worker : v.worker = none
  trace : v.trace = []
  before : ∀ p, (v.step p).before = []

instance (v : SagaView) : Decidable v.Fresh :=
  @decidable_of_iff _ (v.worker = none ∧ v.trace.isEmpty = true ∧ ∀ p, (v.step p).before = [])
    ⟨fun ⟨h1, h2, h3⟩ => ⟨h1, List.isEmpty_iff.1 h2, h3⟩,
      fun ⟨h1, h2, h3⟩ => ⟨h1, List.isEmpty_iff.2 h2, h3⟩⟩ inferInstance

theorem SagaView.Fresh.inv {v : SagaView} (h : v.Fresh) : SagaInv careful v := by
  have hdirty : ∀ p, dirty v.trace p = false := by intro p; rw [h.trace]; rfl
  refine ⟨fun p hp => absurd (h.before p) hp, fun _ => ⟨fun _ p hp => ?_, fun p hp => ?_⟩⟩
  · rw [hdirty] at hp; cases hp
  · rw [hdirty] at hp; cases hp

section Runs

variable {portal : PortalBackend W ι} {settings : Settings} {s : SC05State W}
  {xs : List (Choice (Fate ι) SC05Process (W → W))}

/-- What the steps of a run are made of, as conditions on the view of one operation. -/
def Steps (o : OperationId) (quiet careful : Prop) (m : Move SC05Label (Fate ι) (W → W))
    (v v' : SagaView) : Prop :=
  Sequential o m v ∧ (quiet → Quiet o m v) ∧ (careful → Careful o m v v')

/-- An invariant of the trace of an operation, from its creation on. -/
theorem saga_inv (portal : PortalBackend W ι) (settings : Settings) (quiet careful : Prop)
    (hs : o < s.operationCount) (hfresh : (sagaView o s).Fresh) {I : SagaView → Prop}
    {ok : Move SC05Label (Fate ι) (W → W) → SagaView → SagaView → Prop}
    (hok : ∀ m v v', ok m v v' → Steps o quiet careful m v v')
    (hstep : ∀ m v v', I v → (sagaOutline W ι o quiet careful).Knows m v → ok m v v' →
      (sagaAbstract W ι o).move m v v' → I v')
    (hI : I (sagaView o s))
    (hxs : (sc05System portal settings).RunOk
      (fun m s => ok m (sagaView o s) (sagaView o ((sc05System portal settings).after m s)))
      (Config.idle s) xs) :
    I (sagaView o ((sc05System portal settings).run (Config.idle s) xs).shared) :=
  (saga_sound W ι o quiet careful).view_inv (S := sc05System portal settings)
    (saga_simulates portal settings o) hok hstep
    (Outline.pull_idle (sc05System portal settings) hs hfresh.inv) hI hxs

/-- What the worker of an operation knows is known throughout a run. -/
theorem run_knows (hs : o < s.operationCount) (hfresh : (sagaView o s).Fresh)
    (hxs : (sc05System portal settings).RunOk (fun m s => Sequential o m (sagaView o s))
      (Config.idle s) xs) :
    (sc05System portal settings).RunOk (fun m s => o < s.operationCount ∧
      (sagaOutline W ι o False False).Knows m (sagaView o s)) (Config.idle s) xs := by
  have hsound := (saga_sound W ι o False False).pull (S := sc05System portal settings)
    (saga_simulates portal settings o)
  refine (hsound.knows_run (Outline.pull_idle _ hs hfresh.inv)
    (hxs.mono fun m s h => ⟨h, False.elim, False.elim⟩)).mono ?_
  intro m s h
  exact ⟨h.1.1, h.1.2, h.2⟩

theorem run_disciplined (hs : o < s.operationCount) (hfresh : (sagaView o s).Fresh)
    (hxs : (sc05System portal settings).RunOk (fun m s => Sequential o m (sagaView o s))
      (Config.idle s) xs) :
    Disciplined (s.operations o).action
      (((sc05System portal settings).run (Config.idle s) xs).shared.traces o) := by
  have hok : ∀ m v v', Sequential o m v → Steps (W := W) (ι := ι) o False False m v v' :=
    fun m v v' h => ⟨h, False.elim, False.elim⟩
  have h := saga_inv portal settings False False hs hfresh
    (I := fun v => v.action = (s.operations o).action ∧
      Disciplined (s.operations o).action v.trace) hok ?_
    ⟨rfl, by rw [hfresh.trace]; exact throughout_nil _⟩ hxs
  · exact h.2
  · rintro m v v' ⟨ha, hI⟩ hk - hm
    refine ⟨(trace_step hm).1.trans ha, throughout_step hm hI fun e he => ?_⟩
    rw [← ha]; exact eventOk_of_recorded hk he

theorem run_neverAbandoned (hs : o < s.operationCount) (hfresh : (sagaView o s).Fresh)
    (hxs : (sc05System portal settings).RunOk (fun m s => Sequential o m (sagaView o s))
      (Config.idle s) xs)
    (hquiet : (sc05System portal settings).RunOk (fun m s => Quiet o m (sagaView o s))
      (Config.idle s) xs) :
    NeverAbandoned (((sc05System portal settings).run (Config.idle s) xs).shared.traces o) := by
  have hok : ∀ m v v', Sequential o m v ∧ Quiet o m v →
      Steps (W := W) (ι := ι) o True False m v v' :=
    fun m v v' h => ⟨h.1, fun _ => h.2, False.elim⟩
  refine saga_inv portal settings True False hs hfresh (I := fun v => NeverAbandoned v.trace)
    hok ?_ (by rw [hfresh.trace]; exact throughout_nil _) (hxs.and hquiet)
  intro m v v' hI hk _ hm
  exact throughout_step hm hI fun e he => notAbandoned_of_recorded hk he

/-- A captured state stays for the rest of the run. -/
theorem run_captured (hs : o < s.operationCount) (hfresh : (sagaView o s).Fresh)
    {ys zs : List (Choice (Fate ι) SC05Process (W → W))}
    (hxs : (sc05System portal settings).RunOk (fun m s => Sequential o m (sagaView o s))
      (Config.idle s) (ys ++ zs)) (p : SC05Portal) {state : PortalState} (hne : state ≠ [])
    (hcap : (((sc05System portal settings).run (Config.idle s) ys).shared.step o p).beforeState =
      state) :
    (((sc05System portal settings).run (Config.idle s) (ys ++ zs)).shared.step o p).beforeState =
      state := by
  obtain ⟨hys, hzs⟩ := System.RunOk.append.1 hxs
  have hok : ∀ (m : Move SC05Label (Fate ι) (W → W)) v v', Sequential o m v →
      (sagaOutline W ι o False False).ok m v v' := fun m v v' h => ⟨h, False.elim, False.elim⟩
  have hsound := saga_sound W ι o False False
  have hsim := saga_simulates portal settings o
  have hholds := Outline.AbstractSound.holds_run (S := sc05System portal settings) hsound hsim
    (Outline.pull_idle (sc05System portal settings) hs hfresh.inv)
    (hys.mono fun m s h => hok m _ _ h)
  rw [System.run_append]
  refine hsound.view_inv (S := sc05System portal settings) hsim hok
    (I := fun v => (v.step p).before = state) ?_ hholds hcap hzs
  intro m v v' hI hk _ hm
  rw [captured_step hk hm (by rw [hI]; exact hne)]
  exact hI

end Runs

section Sample

/-- A client of the simulator with one open task. -/
def sampleClient : SimulatorClient :=
  { files := some false, accounting := some false
    tasks := [{ reference := "t-1", assignee := "Ana" }] }

/-- A block of that client, queued with the delivery token `0`. -/
def sampleState : SC05State Simulator :=
  { operations := fun _ =>
      { client := 0, requestKey := 0, action := .block, scenario := .happyPath
        run := { module := .sc05, status := .queued, taskId := some 0, createdAt := 0 } }
    operationCount := 1
    clients := fun _ => { externalReference := "c-1" }
    nextTaskId := 1
    portals := fun r => if r = "c-1" then some sampleClient else none }

/-- Steps of one process: all succeed but those listed, which fail as they say. -/
def sampleSteps (pid first n : ℕ) (faults : List (ℕ × Fate (Option Interruption))) :
    List (Choice (Fate (Option Interruption)) SC05Process (Simulator → Simulator)) :=
  (List.range' first n).map fun k => .act pid ((faults.lookup k).getD { call := none })

/-- The browser breaks off after the form was submitted, or before. -/
def lost : Fate (Option Interruption) := { call := some ⟨true, .timeout⟩ }
def down : Fate (Option Interruption) := { call := some ⟨false, .timeout⟩ }

/-- The tasks portal is mutated without an answer and cannot be inspected afterwards; the run is
resumed, and the file portal cannot be inspected. -/
def residueRun : List (Choice (Fate (Option Interruption)) SC05Process (Simulator → Simulator)) :=
  .start (.deliver 0 (.uuid 0) false) :: sampleSteps 0 0 145 [(77, lost), (88, down)] ++
    .start (.resumeAndDispatch 0) :: sampleSteps 1 0 4 [] ++
    .start (.deliver 0 (.uuid 1) false) :: sampleSteps 2 0 35 [(10, down)]

/-- A worker stops before it saves its first observation of the file portal, while its files are not
blocked. A redelivery of its message interrupts the run, somebody blocks the files, and the execution
that resumes the run captures that. -/
def overlappingRun :
    List (Choice (Fate (Option Interruption)) SC05Process (Simulator → Simulator)) :=
  .start (.deliver 0 (.uuid 0) false) :: sampleSteps 0 0 18 [] ++
    .start (.deliver 0 (.uuid 0) true) :: sampleSteps 1 0 3 [] ++
    .start (.resumeAndDispatch 0) :: sampleSteps 2 0 4 [] ++
    .env (Function.update · "c-1" (some { sampleClient with files := some true })) ::
    .start (.deliver 0 (.uuid 1) false) :: sampleSteps 3 0 19 []

/-- The captured state of the file portal after a run. -/
def capturedFiles (xs : List (Choice (Fate (Option Interruption)) SC05Process (Simulator → Simulator))) :
    PortalState :=
  (((sc05System (simulatorPortal id) {}).run (Config.idle sampleState) xs).shared.step 0
    .files).beforeState

end Sample

end SheepContabil
