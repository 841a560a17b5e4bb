import SheepContabil.Proof.RunRecovery

/-!
# The schedules of the runs

* `Keyed`: a scheduled run exists and its key is unique (`keyed_run`).
* `schedule_row`: the schedule step leaves an existing run alone, or it puts back one
  that failed to be published and never started.
* `run_schedules`: one run per competence, and a message published before a run was
  put back never starts it.
-/

namespace SheepContabil

namespace RunTable

variable {settings : Settings} {schedules : ScheduleSettings} {s : RunTable} {x : RunStep}
  {r : RunId}

/-- The unique keys of the scheduled runs. -/
structure Keyed (s : RunTable) : Prop where
  exists_ : ∀ r k, s.keys r = some k → r < s.runCount
  unique : ∀ r r' k, s.keys r = some k → s.keys r' = some k → r = r'

theorem insertRun_keyed (h : Keyed s) {run : AutomationRun} {key : Option ScheduleKey}
    {s' : RunTable} (hkeys : s'.keys = (s.insertRun run key).keys)
    (hcount : s'.runCount = s.runCount + 1)
    (hnew : ∀ k r, key = some k → r < s.runCount → s.keys r ≠ some k) : Keyed s' := by
  have hcases : ∀ r k, s'.keys r = some k →
      (r = s.runCount ∧ key = some k) ∨ (r < s.runCount ∧ s.keys r = some k) := by
    intro r k hk
    rw [hkeys] at hk
    by_cases heq : r = s.runCount
    · subst heq
      exact .inl ⟨rfl, by simpa [insertRun] using hk⟩
    · have hold : s.keys r = some k := by simpa [insertRun, heq, setRun] using hk
      exact .inr ⟨h.exists_ r k hold, hold⟩
  constructor
  · intro r k hk
    rw [hcount]
    rcases hcases r k hk with ⟨rfl, -⟩ | ⟨hlt, -⟩
    · exact Nat.lt_succ_self _
    · exact Nat.lt_succ_of_lt hlt
  · intro r r' k hk hk'
    rcases hcases r k hk with ⟨rfl, hnew₁⟩ | ⟨hlt, hold⟩ <;>
      rcases hcases r' k hk' with ⟨rfl, hnew₂⟩ | ⟨hlt', hold'⟩
    · rfl
    · exact absurd hold' (hnew k r' hnew₁ hlt')
    · exact absurd hold (hnew k r hnew₂ hlt)
    · exact h.unique r r' k hold hold'

theorem keyed_of_same (h : Keyed s) {s' : RunTable} (hkeys : s'.keys = s.keys)
    (hcount : s'.runCount = s.runCount) : Keyed s' where
  exists_ := by rw [hkeys, hcount]; exact h.exists_
  unique := by rw [hkeys]; exact h.unique

theorem updateRun_keyed (h : Keyed s) {f : AutomationRun → AutomationRun} :
    Keyed (s.updateRun r f) := by
  obtain ⟨hcount, -, -, -, -, hkeys⟩ := updateRun_fields s r f
  exact keyed_of_same h hkeys hcount

/-- `get_or_create` inserts a key that no run has. -/
theorem prepareScheduled_keyed (h : Keyed s) (key : ScheduleKey) (now : ℕ) :
    Keyed (s.prepareScheduled key now) := by
  unfold prepareScheduled
  split
  · next hfind =>
    refine insertRun_keyed h rfl rfl fun k r hk hlt hold => ?_
    obtain rfl := Option.some.inj hk
    have := List.find?_eq_none.mp hfind r (List.mem_range.mpr hlt)
    rw [hold] at this
    exact this (beq_self_eq_true _)
  · split
    · exact h
    · split
      · exact keyed_of_same h rfl rfl
      · exact h

theorem perform_keyed (h : Keyed s) : Keyed (s.perform settings schedules x) := by
  cases x with
  | createUpload now =>
    exact @insertRun_keyed s h { module := .sc04, summary := AutomationRun.uploadSummary, createdAt := now } none _ rfl rfl
      fun k r hk => absurd hk (by simp)
  | queueUpload r now =>
    dsimp only [perform]
    split
    · exact keyed_of_same (updateRun_keyed h) rfl rfl
    · exact h
  | failUpload r exc safeMessage now =>
    dsimp only [perform]
    split
    · exact keyed_of_same (updateRun_keyed h) rfl rfl
    · exact h
  | createQueued module now =>
    dsimp only [perform]
    split
    · exact h
    · exact insertRun_keyed h rfl rfl fun k r hk => absurd hk (by simp)
  | resumeSc05 r sequence now =>
    dsimp only [perform]
    split
    · exact h
    · split
      · exact keyed_of_same h rfl rfl
      · exact h
  | schedule clock key now =>
    dsimp only [perform]
    split
    · exact prepareScheduled_keyed h key now
    · exact h
  | dispatchStart r now =>
    dsimp only [perform, dispatchStart]
    split
    · exact h
    · split
      · exact keyed_of_same h rfl rfl
      · exact h
  | publish m =>
    dsimp only [perform]
    split
    · exact keyed_of_same h rfl rfl
    · exact h
  | reconcileOne r hasNewItems ambiguous now =>
    dsimp only [perform, reconcileOne]
    split
    · exact h
    · split <;> exact keyed_of_same h rfl rfl
  | deliver m redelivered now =>
    dsimp only [perform, deliver]
    split
    · split
      · exact h
      · split
        · exact h
        all_goals exact keyed_of_same h rfl rfl
    · exact h
  | work worker write now =>
    dsimp only [perform]
    split
    · exact h
    · split
      · exact updateRun_keyed h
      · exact h
  | recompute | failEmptyRecoveredSc04 | recordInspectionFailure => exact updateRun_keyed h
  | recordDispatchFailure | recordDispatchSuccess | recordRecoveryPublishFailure =>
    dsimp only [perform]
    split
    · exact updateRun_keyed h
    · exact h

/-- **The keys of the scheduled runs are unique in every history.** -/
theorem keyed_run (xs : List RunStep) : Keyed (runTable settings schedules xs) := by
  induction xs using List.reverseRecOn with
  | nil => exact ⟨fun r k h => absurd h (by simp [runTable]), fun r r' k h => absurd h (by simp [runTable])⟩
  | append_singleton xs x ih =>
    rw [runTable_snoc]
    exact keyed_of_same (perform_keyed ih) rfl rfl

/-- What the schedule step does to a run that exists. -/
theorem schedule_row (hs : Sound settings s) {clock : PulseClock} {key : ScheduleKey} {now : ℕ}
    {a b : AutomationRun} (ha : s.runs r = some a)
    (hb : (s.step settings schedules (.schedule clock key now)).runs r = some b) :
    b = a ∨ a.dispatchFailedBeforeStart = true ∧ b = a.requeueScheduled now s.nextTaskId ∧
      s.keys r = some key ∧ key ∈ clock.due schedules := by
  have hsame : ∀ {c}, some c = some b → s.runs r = some c → b = a := by
    intro c hc hr
    rw [ha] at hr
    rw [← Option.some.inj hc, ← Option.some.inj hr]
  dsimp only [step, perform] at hb
  split at hb
  · next hdue =>
    unfold prepareScheduled at hb
    split at hb
    · have hrow := (insertRun_row ha (hs.rows r a ha).1
        (queuedRun key.module .scheduled now s.nextTaskId) (some key)).1
      rw [hrow] at hb
      exact .inl (Option.some.inj hb).symm
    · next r' hfind =>
      split at hb
      · exact .inl (hsame (ha ▸ hb) ha)
      · next run hrow =>
        split at hb
        · next hfailed =>
          by_cases heq : r = r'
          · subst heq
            obtain rfl := same_row ha hrow rfl
            have hrequeued : run.requeueScheduled now s.nextTaskId = b := by simpa [setRun] using hb
            have hkey : s.keys r = some key := by
              have := List.find?_some hfind
              simpa using this
            exact .inr ⟨hfailed, hrequeued.symm, hkey, hdue⟩
          · simp only [setRun, Function.update_of_ne heq] at hb
            exact .inl (hsame (ha ▸ hb) ha)
        · exact .inl (hsame (ha ▸ hb) ha)
  · exact .inl (hsame (ha ▸ hb) ha)

/-- A run that some delivery started has `started_at`. -/
theorem starts_startedAt (hs : Sound settings s) (h : Starts settings schedules s x r) :
    ∃ b, (s.step settings schedules x).runs r = some b ∧ b.startedAt.isSome = true := by
  obtain ⟨m, redelivered, now, rfl, hrun, a, b, ha, hb, hbefore, hafter⟩ := h
  have hchange := step_delivered hs ha hb
  obtain ⟨-, c, hc, hqueued, -⟩ := starts_queued hs ⟨m, redelivered, now, rfl, hrun, a, b, ha, hb,
    hbefore, hafter⟩
  obtain rfl := same_row hc ha rfl
  refine ⟨b, hb, ?_⟩
  rcases hchange.running_cases hafter with ⟨hrun, -⟩ | ⟨_, _, _, step, -⟩ |
    ⟨_, _, _, -, -, -, -, hrun | ⟨-, hstarted⟩⟩
  · exact absurd hrun hbefore
  · exact absurd step (by simp)
  · exact absurd hrun hbefore
  · exact hstarted

theorem startedAt_run {xs : List RunStep}
    (h : ∃ a, (runTable settings schedules xs).runs r = some a ∧ a.startedAt.isSome = true)
    (ys : List RunStep) :
    ∃ b, (runTable settings schedules (xs ++ ys)).runs r = some b ∧ b.startedAt.isSome = true := by
  refine kept_run (P := fun s => ∃ a, s.runs r = some a ∧ a.startedAt.isSome = true) ?_ h ys
  rintro s x hs ⟨a, ha, hstarted⟩
  obtain ⟨b, hb, hchange⟩ := step_row schedules x hs ha
  exact ⟨b, hb, hchange.startedAt_kept hstarted⟩

end RunTable

open RunTable

/-- **The scheduler creates one run per competence and puts back only what never started.** Over
every history of the runs, from an empty table:

* two runs with the key of one module and competence are the same run;
* the schedule step changes an existing run only when it is `FAILED`, has not started, by its
  `started_at` and by every earlier delivery, and carries a dispatch error; the run is then in
  the queue under a token that no program has taken;
* a message that a program had taken for that run never starts it from then on. -/
theorem run_schedules (settings : Settings) (schedules : ScheduleSettings) :
    (∀ xs r r' key, (runTable settings schedules xs).keys r = some key →
      (runTable settings schedules xs).keys r' = some key → r = r') ∧
    (∀ xs clock key now r a b, (runTable settings schedules xs).runs r = some a →
      (runTable settings schedules (xs ++ [.schedule clock key now])).runs r = some b → b ≠ a →
      a.status = .failed ∧ a.startedAt = none ∧ a.metadata.dispatchError.isSome = true ∧
      (∀ us x vs, xs = us ++ x :: vs →
        ¬ Starts settings schedules (runTable settings schedules us) x r) ∧
      b.status = .queued ∧ (runTable settings schedules xs).keys r = some key ∧
      ∃ fresh, b.taskId = some fresh ∧ a.taskId ≠ some fresh ∧
        ∀ m ∈ (runTable settings schedules xs).claims, m.taskId ≠ fresh) ∧
    (∀ xs clock key now r a b, (runTable settings schedules xs).runs r = some a →
      (runTable settings schedules (xs ++ [.schedule clock key now])).runs r = some b → b ≠ a →
      ∀ t, a.taskId = some t ∨ ⟨r, t⟩ ∈ (runTable settings schedules xs).claims →
      ∀ zs redelivered at_, ¬ Starts settings schedules
        (runTable settings schedules (xs ++ [.schedule clock key now] ++ zs))
        (.deliver ⟨r, t⟩ redelivered at_) r) := by
  refine ⟨fun xs => (keyed_run xs).unique, ?_, ?_⟩
  · intro xs clock key now r a b ha hb hne
    have hs : Sound settings (runTable settings schedules xs) := sound_run xs
    rw [runTable_snoc] at hb
    obtain ⟨hfailed, rfl, hkey, -⟩ := (schedule_row hs ha hb).resolve_left hne
    simp only [AutomationRun.dispatchFailedBeforeStart, Bool.and_eq_true, beq_iff_eq,
      Option.isNone_iff_eq_none] at hfailed
    refine ⟨hfailed.1.1, hfailed.1.2, hfailed.2, ?_, rfl, hkey, _, rfl, ?_, ?_⟩
    · rintro us x vs rfl hstart
      -- a start leaves `started_at`, which nothing removes
      have hafter := starts_startedAt (sound_run us) hstart
      rw [← runTable_snoc] at hafter
      obtain ⟨c, hc, hstarted⟩ := startedAt_run hafter vs
      rw [List.append_assoc, List.singleton_append, ha] at hc
      obtain rfl := Option.some.inj hc
      rw [hfailed.1.2] at hstarted
      exact absurd hstarted (by simp)
    · intro ht
      exact absurd ((hs.rows r a ha).2.token _ ht) (Nat.lt_irrefl _)
    · intro m hm heq
      exact absurd (heq ▸ (hs.claims m hm).1) (Nat.lt_irrefl _)
  · intro xs clock key now r a b ha hb hne t ht zs redelivered at_
    have hs : Sound settings (runTable settings schedules xs) := sound_run xs
    have hlt : t < (runTable settings schedules xs).nextTaskId := by
      rcases ht with ht | ht
      · exact (hs.rows r a ha).2.token t ht
      · exact (hs.claims _ ht).1
    refine retired_not_started (sound_run _) (retired_run ⟨?_, b, hb, ?_⟩ zs) _ _
    · rw [runTable_snoc]
      exact Nat.lt_succ_of_lt hlt
    · rintro ⟨-, hbt⟩
      rw [runTable_snoc] at hb
      obtain ⟨-, rfl, -, -⟩ := (schedule_row hs ha hb).resolve_left hne
      exact absurd (Option.some.inj hbt) (Nat.ne_of_gt hlt)

end SheepContabil
