import SheepContabil.Proof.RunSound

/-!
# Publication and recovery of the runs

* `Retired`: a token under which a run is not in the queue. It stays so, because every
  transaction that puts a run in the queue takes a new one (`retired_run`).
* `Executed`: a run of SC-05 or SC-20 that has started. Only the user puts it back in the
  queue (`executed_run`).
* `run_recoveries`: each token starts a run once, a replaced token never does, and the
  automatic recoveries are limited.
-/

namespace SheepContabil

namespace RunTable

variable {settings : Settings} {schedules : ScheduleSettings} {s : RunTable} {x : RunStep}
  {r : RunId} {t : TaskId}

/-- A delivery moves a run to `RUNNING`. -/
def Starts (settings : Settings) (schedules : ScheduleSettings) (s : RunTable) (x : RunStep)
    (r : RunId) : Prop :=
  ∃ m redelivered now, x = .deliver m redelivered now ∧ m.run = r ∧
    ∃ a b, s.runs r = some a ∧ (s.step settings schedules x).runs r = some b ∧
      a.status ≠ .running ∧ b.status = .running

/-- A delivery moves a run from `QUEUED` to `RUNNING` under the token `t`. -/
def StartsQueued (settings : Settings) (schedules : ScheduleSettings) (s : RunTable) (x : RunStep)
    (r : RunId) (t : TaskId) : Prop :=
  Starts settings schedules s x r ∧
    ∃ a, s.runs r = some a ∧ a.status = .queued ∧ a.taskId = some t

/-- A token in use under which the run is not in the queue. -/
def Retired (s : RunTable) (r : RunId) (t : TaskId) : Prop :=
  t < s.nextTaskId ∧ ∃ a, s.runs r = some a ∧ ¬(a.status = .queued ∧ a.taskId = some t)

theorem retired_step (hs : Sound settings s) (h : Retired s r t) :
    Retired (s.step settings schedules x) r t := by
  obtain ⟨hlt, a, ha, hout⟩ := h
  obtain ⟨b, hb, hchange⟩ := step_row schedules x hs ha
  refine ⟨Nat.lt_succ_of_lt hlt, b, hb, ?_⟩
  rintro ⟨hqueued, ht⟩
  rcases hchange.queued_fresh hqueued with hfresh | ⟨hbefore, hsame⟩
  · rw [ht] at hfresh
    exact absurd (Option.some.inj hfresh) (Nat.ne_of_lt hlt)
  · exact hout ⟨hbefore, by rw [← hsame, ht]⟩

theorem runTable_append (xs ys : List RunStep) :
    runTable settings schedules (xs ++ ys) =
      ys.foldl (step settings schedules) (runTable settings schedules xs) := List.foldl_append

theorem runTable_snoc (xs : List RunStep) (x : RunStep) :
    runTable settings schedules (xs ++ [x]) = (runTable settings schedules xs).step settings schedules x :=
  runTable_append xs [x]

/-- What a step keeps, a history keeps. -/
theorem kept_run {P : RunTable → Prop}
    (hstep : ∀ s x, Sound settings s → P s → P (s.step settings schedules x))
    {xs : List RunStep} (h : P (runTable settings schedules xs)) (ys : List RunStep) :
    P (runTable settings schedules (xs ++ ys)) := by
  induction ys using List.reverseRecOn with
  | nil => rwa [List.append_nil]
  | append_singleton ys y ih =>
    rw [← List.append_assoc, runTable_snoc]
    exact hstep _ _ (sound_run _) ih

/-- **A retired token never queues the run again.** -/
theorem retired_run {xs : List RunStep} (h : Retired (runTable settings schedules xs) r t)
    (ys : List RunStep) : Retired (runTable settings schedules (xs ++ ys)) r t :=
  kept_run (P := fun s => Retired s r t) (fun _ _ hs h => retired_step hs h) h ys

/-- A delivery starts a run that is in the queue under its own token. -/
theorem starts_queued (hs : Sound settings s) {m : Message} {redelivered : Bool} {now : ℕ}
    (h : Starts settings schedules s (.deliver m redelivered now) r) :
    m.run = r ∧ ∃ a, s.runs r = some a ∧ a.status = .queued ∧ a.taskId = some m.taskId := by
  obtain ⟨m', redelivered', now', heq, hrun, a, b, ha, hb, hbefore, hafter⟩ := h
  obtain ⟨rfl, rfl, rfl⟩ := RunStep.deliver.inj heq
  have hchange := step_delivered hs ha hb
  have hsound := (hs.rows r a ha).2
  refine ⟨hrun, a, ha, ?_⟩
  rcases hchange.running_cases hafter with ⟨hrun, -⟩ | ⟨_, _, _, step, -⟩ |
    ⟨_, _, _, step, -, matched, -, hrun | ⟨before, -⟩⟩
  · exact absurd hrun hbefore
  · exact absurd step (by simp)
  · exact absurd hrun hbefore
  · obtain ⟨rfl, rfl, rfl⟩ := RunStep.deliver.inj step
    rcases before with hpending | hqueued | ⟨hawaiting, hmodule⟩
    · -- a pending run has no message
      rcases delivered_or_same settings schedules s
        (.deliver m redelivered now) with hm | hsame
      · obtain ⟨-, a', ha', hne⟩ := hs.claims m (hs.messages m (hm m redelivered now rfl))
        rw [hrun, ha] at ha'
        obtain rfl := Option.some.inj ha'
        exact absurd hpending hne
      · have hrow : some b = some a := by rw [← hb, ← ha]; exact congrFun (congrArg runs hsame) r
        rw [Option.some.inj hrow] at hafter
        exact absurd hafter hbefore
    · refine ⟨hqueued, matched.resolve_left fun hnone => ?_⟩
      have := hsound.queued hqueued
      rw [hnone] at this
      exact absurd this (by simp)
    · exact absurd (hsound.awaiting hawaiting) hmodule

/-- **A message under a retired token does not start the run.** -/
theorem retired_not_started (hs : Sound settings s) (h : Retired s r t) (redelivered : Bool)
    (now : ℕ) : ¬ Starts settings schedules s (.deliver ⟨r, t⟩ redelivered now) r := by
  intro hstart
  obtain ⟨-, a, ha, hqueued, ht⟩ := starts_queued hs hstart
  obtain ⟨-, a', ha', hout⟩ := h
  rw [ha] at ha'
  obtain rfl := Option.some.inj ha'
  exact hout ⟨hqueued, ht⟩

/-- A started run of SC-05 or SC-20. -/
def Executed (s : RunTable) (r : RunId) : Prop :=
  ∃ a, s.runs r = some a ∧ (a.module = .sc05 ∨ a.module = .sc20) ∧ a.startedAt.isSome = true ∧
    a.status ≠ .queued ∧ a.status ≠ .pending

/-- A step leaves an executed run out of the queue, unless the user resumes it. -/
theorem executed_step (schedules : ScheduleSettings) (x : RunStep) (hs : Sound settings s)
    (h : Executed s r) :
    Executed (s.step settings schedules x) r ∨
      ∃ sequence now a, x = .resumeSc05 r sequence now ∧ s.runs r = some a ∧
        a.status = .partiallyFailed := by
  obtain ⟨a, ha, hmodule, hstarted, hqueued, hpending⟩ := h
  obtain ⟨b, hb, hchange⟩ := step_row schedules x hs ha
  generalize (s.step settings schedules x).recoveries r = n' at hchange
  have hstarted' : b.startedAt.isSome = true := hchange.startedAt_kept hstarted
  have hmodule' : b.module = .sc05 ∨ b.module = .sc20 := by rwa [hchange.module_eq]
  have hnotsc04 : a.module ≠ .sc04 := by rcases hmodule with h | h <;> rw [h] <;> decide
  have hpending' : b.status ≠ .pending := fun hb => hpending (hchange.pending_kept hb).1
  by_cases hqueued' : b.status = .queued
  · right
    cases hchange with
    | resumed step before _ _ _ _ _ => exact ⟨_, _, a, step, ha, before⟩
    | kept _ status _ _ _ => exact absurd (status ▸ hqueued') hqueued
    | assigned before _ _ _ _ _ _ => exact absurd before hqueued
    | uploaded isSc04 _ _ _ _ _ => exact absurd isSc04 hnotsc04
    | recovered guard _ _ _ _ _ =>
      rcases guard with hp | ⟨-, hq | ⟨-, hsc05, hsc20⟩⟩
      · exact absurd hp hpending
      · exact absurd hq hqueued
      · exact absurd hmodule (by simp [hsc05, hsc20])
    | requeued _ before =>
      -- the scheduler only takes a run that never started
      simp only [AutomationRun.dispatchFailedBeforeStart, Bool.and_eq_true] at before
      have := before.1.2
      rw [Option.isNone_iff_eq_none] at this
      rw [this] at hstarted
      exact absurd hstarted (by simp)
    | ended _ inactive _ _ _ _ => rw [hqueued'] at inactive; exact absurd inactive (by decide)
    | recomputed _ _ _ _ after _ _ _ => rw [hqueued'] at after; exact absurd after (by decide)
    | started _ _ _ _ _ after _ _ _ => rw [hqueued'] at after; exact absurd after (by decide)
    | redelivered _ _ _ _ _ _ _ after _ _ _ => rw [hqueued'] at after; exact absurd after (by decide)
  · exact .inl ⟨b, hb, hmodule', hstarted', hqueued', hpending'⟩

/-- **An executed run of SC-05 or SC-20 stays out of the queue until the user resumes it.** -/
theorem executed_run {xs : List RunStep} (h : Executed (runTable settings schedules xs) r)
    (ys : List RunStep) :
    Executed (runTable settings schedules (xs ++ ys)) r ∨
      ∃ us sequence now vs a, ys = us ++ .resumeSc05 r sequence now :: vs ∧
        (runTable settings schedules (xs ++ us)).runs r = some a ∧ a.status = .partiallyFailed := by
  induction ys using List.reverseRecOn with
  | nil => left; rwa [List.append_nil]
  | append_singleton ys y ih =>
    rcases ih with ih | ⟨us, sequence, now, vs, a, rfl, ha, hstatus⟩
    · rcases executed_step schedules y (sound_run _) ih with
        hnext | ⟨sequence, now, a, rfl, ha, hstatus⟩
      · left
        rwa [← List.append_assoc, runTable_snoc]
      · exact .inr ⟨ys, sequence, now, [], a, rfl, ha, hstatus⟩
    · exact .inr ⟨us, sequence, now, vs ++ [y], a, by simp, ha, hstatus⟩

/-- A token of the run at some moment that is not its token later is retired. -/
theorem replaced_retired {xs ys : List RunStep} {a b : AutomationRun}
    (ha : (runTable settings schedules xs).runs r = some a) (hat : a.taskId = some t)
    (hb : (runTable settings schedules (xs ++ ys)).runs r = some b) (hbt : b.taskId ≠ some t) :
    Retired (runTable settings schedules (xs ++ ys)) r t := by
  have hlt : t < (runTable settings schedules xs).nextTaskId := ((sound_run xs).rows r a ha).2.token t hat
  refine ⟨?_, b, hb, fun h => hbt h.2⟩
  exact kept_run (P := fun s => t < s.nextTaskId) (fun _ _ _ h => Nat.lt_succ_of_lt h) hlt ys

end RunTable

open RunTable

/-- **Publication and recovery.** Over every history of the runs, from an empty table:

* a token moves a run from the queue to `RUNNING` at most once;
* a message whose token the run no longer has never starts it;
* nor does one whose run was closed by a dispatch failure;
* since the run was created, resumed or put back by the scheduler, it was recovered
  automatically at most `AUTOMATION_RECONCILIATION_MAX_ATTEMPTS` times;
* a `RUNNING` run of SC-05 or SC-20 is in the queue again only after a resume. -/
theorem run_recoveries (settings : Settings) (schedules : ScheduleSettings)
    (hmax : 1 ≤ settings.reconciliationMaxAttempts) :
    (∀ xs x ys y r t, StartsQueued settings schedules (runTable settings schedules xs) x r t →
      ¬ StartsQueued settings schedules (runTable settings schedules (xs ++ x :: ys)) y r t) ∧
    (∀ xs ys zs r t a b redelivered now, (runTable settings schedules xs).runs r = some a →
      a.taskId = some t → (runTable settings schedules (xs ++ ys)).runs r = some b →
      b.taskId ≠ some t →
      ¬ Starts settings schedules (runTable settings schedules (xs ++ ys ++ zs))
        (.deliver ⟨r, t⟩ redelivered now) r) ∧
    (∀ xs m status exc at_ zs a b redelivered now,
      (runTable settings schedules xs).runs m.run = some a → a.taskId = some m.taskId →
      a.status = .queued →
      (runTable settings schedules (xs ++ [.recordDispatchFailure m status exc at_])).runs m.run =
        some b → b.status ≠ .queued →
      ¬ Starts settings schedules
        (runTable settings schedules (xs ++ [.recordDispatchFailure m status exc at_] ++ zs))
        (.deliver m redelivered now) m.run) ∧
    (∀ xs r a, (runTable settings schedules xs).runs r = some a →
      (runTable settings schedules xs).recoveries r ≤ settings.reconciliationMaxAttempts) ∧
    (∀ xs ys r a b, (runTable settings schedules xs).runs r = some a →
      (a.module = .sc05 ∨ a.module = .sc20) → a.status = .running →
      (runTable settings schedules (xs ++ ys)).runs r = some b → b.status = .queued →
      ∃ us sequence now vs c, ys = us ++ .resumeSc05 r sequence now :: vs ∧
        (runTable settings schedules (xs ++ us)).runs r = some c ∧ c.status = .partiallyFailed) := by
  refine ⟨?_, ?_, ?_, ?_, ?_⟩
  · rintro xs x ys y r t ⟨⟨m, redelivered, now, rfl, hm, a, b, ha, hb, hbefore, hafter⟩, c, hc, -, hct⟩
    rintro ⟨-, d, hd, hdq, hdt⟩
    -- the run leaves the queue under its token, which is retired from then on
    have hretired : Retired (runTable settings schedules (xs ++ [.deliver m redelivered now])) r t := by
      rw [runTable_snoc]
      refine ⟨Nat.lt_succ_of_lt (((sound_run xs).rows r c hc).2.token t hct), b, hb, ?_⟩
      rintro ⟨hq, -⟩
      rw [hafter] at hq
      exact absurd hq (by decide)
    have hlater := retired_run hretired ys
    rw [List.append_assoc, List.singleton_append] at hlater
    obtain ⟨-, d', hd', hout⟩ := hlater
    rw [hd] at hd'
    obtain rfl := Option.some.inj hd'
    exact hout ⟨hdq, hdt⟩
  · intro xs ys zs r t a b redelivered now ha hat hb hbt
    exact retired_not_started (sound_run _) (retired_run (replaced_retired ha hat hb hbt) zs) _ _
  · intro xs m status exc at_ zs a b redelivered now ha hat _ hb hbq
    refine retired_not_started (sound_run _) (retired_run ⟨?_, b, hb, fun h => hbq h.1⟩ zs) _ _
    rw [runTable_snoc]
    exact Nat.lt_succ_of_lt (((sound_run xs).rows m.run a ha).2.token m.taskId hat)
  · intro xs r a ha
    have hlimit := ((sound_run xs).rows r a ha).2.limit
    rwa [max_eq_right hmax] at hlimit
  · intro xs ys r a b ha hmodule hrunning hb hqueued
    have hstarted : a.startedAt.isSome = true := by
      refine (((sound_run xs).rows r a ha).2.running hrunning).resolve_left fun hsc04 => ?_
      rcases hmodule with h | h <;> rw [h] at hsc04 <;> exact absurd hsc04 (by decide)
    have hexecuted : Executed (runTable settings schedules xs) r :=
      ⟨a, ha, hmodule, hstarted, by rw [hrunning]; decide, by rw [hrunning]; decide⟩
    rcases executed_run hexecuted ys with ⟨b', hb', -, -, hout, -⟩ | h
    · rw [hb] at hb'
      exact absurd (Option.some.inj hb' ▸ hqueued) hout
    · exact h

/-- An orphan run is recovered once, and its second token then starts it. -/
theorem run_recoveries_once :
    (runTable {} {} [.createQueued .sc04 0, .dispatchStart 0 0,
      .reconcileOne 0 false false 5000]).recoveries 0 = 1 ∧
    (runTable {} {} [.createQueued .sc04 0, .dispatchStart 0 0,
      .reconcileOne 0 false false 5000]).recoveries 0 ≤ 1 :=
  ⟨by decide +kernel,
    (run_recoveries {} {} (by decide)).2.2.2.1
      [.createQueued .sc04 0, .dispatchStart 0 0, .reconcileOne 0 false false 5000] 0 _ rfl⟩

end SheepContabil
