import Mathlib.Data.List.Induction
import SheepContabil.Proof.RunRows

/-!
# What holds of every table of runs

* `perform_row`: a step does one `RowChange` to every row.
* `Sound`: tokens are below the next one, a queued run has a token, a pending run has
  never been published, and the recoveries of a run are at most its attempts and the limit.
* `sound_run`: every history keeps it.
-/

namespace SheepContabil

open SC05Operation (Recovery)

/-- What holds of a row, of its recoveries and of the next token. -/
structure RowSound (settings : Settings) (next : TaskId) (a : AutomationRun) (n : ℕ) : Prop where
  token : ∀ t, a.taskId = some t → t < next
  queued : a.status = .queued → a.taskId.isSome = true
  pending : a.status = .pending → a.module = .sc04 ∧ a.reconciliationAttempts = 0
  awaiting : a.status = .awaitingReview → a.module = .sc04
  running : a.status = .running → a.module = .sc04 ∨ a.startedAt.isSome = true
  attempts : n ≤ a.reconciliationAttempts
  limit : n ≤ max 1 settings.reconciliationMaxAttempts

theorem RowSound.mono {settings : Settings} {next : TaskId} {a : AutomationRun} {n : ℕ}
    (h : RowSound settings next a n) : RowSound settings (next + 1) a n :=
  { h with token := fun t ht => Nat.lt_succ_of_lt (h.token t ht) }

namespace RowChange

variable {settings : Settings} {next : TaskId} {x : RunStep} {r : RunId} {a b : AutomationRun}
  {n n' : ℕ}

theorem sound (ha : RowSound settings next a n)
    (hdelivered : ∀ m redelivered now, x = .deliver m redelivered now → m.taskId < next)
    (h : RowChange settings next x r a n b n') : RowSound settings (next + 1) b n' := by
  -- a token is kept, is the next one, or comes with a message that was published
  have htoken : ∀ t, b.taskId = some t → t < next + 1 := by
    intro t ht
    rcases h.taskId_cases with hb | hb | hb | ⟨m, redelivered, now, hx, hb⟩
    · exact Nat.lt_succ_of_lt (ha.token t (hb ▸ ht))
    · rw [hb] at ht; exact absurd ht (by simp)
    · rw [hb] at ht; obtain rfl := Option.some.inj ht; exact Nat.lt_succ_self _
    · rw [hb] at ht
      obtain rfl := Option.some.inj ht
      exact Nat.lt_succ_of_lt (hdelivered m redelivered now hx)
  have hqueued : b.status = .queued → b.taskId.isSome = true := by
    intro hb
    rcases h.queued_fresh hb with ht | ⟨hq, ht⟩
    · rw [ht]; rfl
    · rw [ht]; exact ha.queued hq
  have hpending : b.status = .pending → b.module = .sc04 ∧ b.reconciliationAttempts = 0 := by
    intro hb
    obtain ⟨hp, hattempts, -⟩ := h.pending_kept hb
    exact ⟨h.module_eq.trans (ha.pending hp).1, hattempts.trans (ha.pending hp).2⟩
  have hattempts := ha.attempts
  have hlimit := ha.limit
  refine ⟨htoken, hqueued, hpending, ?_, ?_, ?_, ?_⟩
  · intro hb
    cases h with
    | kept module status _ _ _ => exact module.trans (ha.awaiting (status.symm.trans hb))
    | ended _ _ awaiting _ _ _ => exact awaiting hb
    | requeued => simp [AutomationRun.requeueScheduled] at hb
    | _ => simp_all
  · intro hb
    cases h with
    | kept module status _ startedAt _ =>
      rw [module, startedAt]
      exact ha.running (status.symm.trans hb)
    | ended _ inactive _ _ _ _ => rw [hb] at inactive; exact absurd inactive (by decide)
    | recomputed _ _ isSc04 module _ _ _ _ => exact .inl (module.trans isSc04)
    | started _ _ _ _ _ _ _ startedAt _ => exact .inr startedAt
    | redelivered _ _ _ isSc04 _ _ module _ _ _ _ => exact .inl (module.trans isSc04)
    | requeued => simp [AutomationRun.requeueScheduled] at hb
    | _ => simp_all
  · cases h with
    | requeued => exact Nat.zero_le _
    | _ => omega
  · cases h with
    | recovered guard _ _ _ _ _ =>
      -- a recovery needs an attempt below the limit, or takes a run that had none
      rcases guard with hp | ⟨hlt, -⟩
      · have := (ha.pending hp).2
        omega
      · omega
    | requeued => exact Nat.zero_le _
    | _ => omega

end RowChange

namespace RunTable

variable {settings : Settings} {schedules : ScheduleSettings} {s : RunTable} {x : RunStep}

/-- What holds of every table. -/
structure Sound (settings : Settings) (s : RunTable) : Prop where
  rows : ∀ r a, s.runs r = some a → r < s.runCount ∧
    RowSound settings s.nextTaskId a (s.recoveries r)
  claims : ∀ m ∈ s.claims, m.taskId < s.nextTaskId ∧
    ∃ a, s.runs m.run = some a ∧ a.status ≠ .pending
  messages : ∀ m ∈ s.messages, m ∈ s.claims
  uploads : ∀ r ∈ s.uploads, ∃ a, s.runs r = some a ∧ a.module = .sc04
  workers : ∀ k ∈ s.workers, k.loaded.taskId.isSome = true ∧
    ∃ a, s.runs k.run = some a ∧ a.module = k.loaded.module

section Updates

variable {r r' : RunId} {a : AutomationRun} {P : AutomationRun → Prop}

theorem setRun_row (hr : s.runs r = some a) (run : AutomationRun) (hkept : P a)
    (hset : r' = r → P run) : ∃ b, (s.setRun r' run).runs r = some b ∧ P b := by
  by_cases heq : r = r'
  · exact ⟨run, by simp [setRun, heq], hset heq.symm⟩
  · exact ⟨a, by simp [setRun, heq, hr], hkept⟩

theorem updateRun_row (hr : s.runs r = some a) (f : AutomationRun → AutomationRun) (hkept : P a)
    (hset : r' = r → P (f a)) : ∃ b, (s.updateRun r' f).runs r = some b ∧ P b := by
  unfold updateRun
  cases hrow : s.runs r' with
  | none => exact ⟨a, hr, hkept⟩
  | some run =>
    refine setRun_row hr (f run) hkept fun heq => ?_
    obtain rfl : a = run := by rw [heq, hr] at hrow; exact Option.some.inj hrow
    exact hset heq

theorem insertRun_row (hr : s.runs r = some a) (hlt : r < s.runCount) (run : AutomationRun)
    (key : Option ScheduleKey) :
    (s.insertRun run key).runs r = some a ∧ (s.insertRun run key).recoveries r = s.recoveries r := by
  have hne : r ≠ s.runCount := Nat.ne_of_lt hlt
  exact ⟨by simp [insertRun, setRun, hne, hr], by simp [insertRun, hne]⟩

@[simp] theorem updateRun_recoveries (f : AutomationRun → AutomationRun) :
    (s.updateRun r f).recoveries = s.recoveries := by
  unfold updateRun; split <;> rfl

end Updates

/-- A change of the row `r` of the table `s` by the step `x`. -/
abbrev Changes (settings : Settings) (s s' : RunTable) (x : RunStep) (r : RunId)
    (a : AutomationRun) : Prop :=
  ∃ b, s'.runs r = some b ∧
    RowChange settings s.nextTaskId x r a (s.recoveries r) b (s'.recoveries r)

section Rows

variable {r : RunId} {a : AutomationRun}

theorem Changes.refl (hr : s.runs r = some a) : Changes settings s s x r a := ⟨a, hr, .refl⟩

/-- One locked update of a row changes no other row. -/
theorem updateRun_changes (hr : s.runs r = some a) {r' : RunId} (f : AutomationRun → AutomationRun)
    (hf : r' = r →
      RowChange settings s.nextTaskId x r a (s.recoveries r) (f a) (s.recoveries r)) :
    Changes settings s (s.updateRun r' f) x r a := by
  unfold Changes
  rw [updateRun_recoveries]
  exact updateRun_row hr f .refl hf

theorem insertRun_changes (hs : Sound settings s) (hr : s.runs r = some a) (run : AutomationRun)
    (key : Option ScheduleKey) : Changes settings s (s.insertRun run key) x r a := by
  obtain ⟨hrow, hcount⟩ := insertRun_row hr (hs.rows r a hr).1 run key
  exact ⟨a, hrow, hcount ▸ .refl⟩

/-- One locked update that also sets the count of recoveries of the run. -/
theorem setRun_changes (hr : s.runs r = some a) {r' : RunId} {run : AutomationRun} {n : ℕ}
    {s' : RunTable} (hruns : s'.runs = (s.setRun r' run).runs)
    (hcount : s'.recoveries = Function.update s.recoveries r' n)
    (hset : r' = r → RowChange settings s.nextTaskId x r a (s.recoveries r) run n) :
    Changes settings s s' x r a := by
  unfold Changes
  rw [hruns, hcount]
  by_cases heq : r = r'
  · subst heq
    exact ⟨run, by simp [setRun], by simpa using hset rfl⟩
  · exact ⟨a, by simp [setRun, heq, hr], by simpa [heq] using .refl⟩

theorem same_row {r r' : RunId} {a run : AutomationRun} (hr : s.runs r = some a)
    (hrow : s.runs r' = some run) (heq : r' = r) : run = a := by
  rw [heq, hr] at hrow
  exact (Option.some.inj hrow).symm

theorem prepareScheduled_changes (hs : Sound settings s) (hr : s.runs r = some a)
    (clock : PulseClock) (key : ScheduleKey) (now : ℕ) :
    Changes settings s (s.prepareScheduled key now) (.schedule clock key now) r a := by
  unfold prepareScheduled
  split
  · exact insertRun_changes hs hr _ _
  · next r' _ =>
    split
    · exact .refl hr
    · next run hrow =>
      split
      · next hfailed =>
        refine setRun_changes hr rfl rfl fun heq => ?_
        obtain rfl := same_row hr hrow heq
        exact .requeued rfl hfailed
      · exact .refl hr

theorem dispatchStart_changes (hr : s.runs r = some a) (r' : RunId) (now : ℕ) :
    Changes settings s (s.dispatchStart r' now) x r a := by
  unfold dispatchStart
  split
  · exact .refl hr
  · next run hrow =>
    split
    · next t run' hstart =>
      refine setRun_row hr run' .refl fun heq => ?_
      obtain rfl := same_row hr hrow heq
      have hchange : RowChange settings s.nextTaskId x r run (s.recoveries r)
          (run.dispatchStart now s.nextTaskId).2 (s.recoveries r) := dispatchStart_change now
      rw [hstart] at hchange
      exact hchange
    · exact .refl hr

theorem reconcileOne_changes (hr : s.runs r = some a) (r' : RunId) (hasNewItems ambiguous : Bool)
    (now : ℕ) : Changes settings s (s.reconcileOne settings r' hasNewItems ambiguous now) x r a := by
  unfold reconcileOne
  split
  · exact .refl hr
  · next run hrow =>
    have hdecision : r' = r → Reconciled settings s.nextTaskId x r a (s.recoveries r)
        (run.reconcileOne ambiguous settings now hasNewItems s.nextTaskId) := by
      intro heq
      obtain rfl := same_row hr hrow heq
      exact reconcileOne_change ambiguous hasNewItems now
    split
    · next t run' hres =>
      refine setRun_changes hr rfl rfl fun heq => ?_
      rcases hdecision heq with ⟨-, h⟩ | ⟨h, -⟩
      · rw [hres] at h; subst heq; exact h
      · rw [hres] at h; exact absurd rfl (h t)
    · next action run' hnot hres =>
      refine setRun_row hr run' .refl fun heq => ?_
      rcases hdecision heq with ⟨h, -⟩ | ⟨-, h⟩
      · rw [hres] at h; exact absurd h (hnot _)
      · rw [hres] at h; exact h

theorem deliver_changes (hr : s.runs r = some a) (m : Message) (redelivered : Bool) (now : ℕ) :
    Changes settings s (s.deliver settings m redelivered now) (.deliver m redelivered now) r a := by
  unfold deliver
  split
  · exact .refl hr
  · next run hrow =>
    have hstart : m.run = r → _ := fun heq =>
      @startDelivery_change settings s.nextTaskId r run (s.recoveries r) m redelivered now heq
    split
    · exact .refl hr
    · next run' hdecision =>
      refine setRun_row hr run' .refl fun heq => ?_
      obtain rfl := same_row hr hrow heq
      simpa only [hdecision, setRun] using hstart heq
    · next run' hdecision =>
      refine setRun_changes hr rfl rfl fun heq => ?_
      obtain rfl := same_row hr hrow heq
      subst heq
      simpa only [hdecision] using hstart rfl
    · next run' hdecision =>
      refine setRun_row hr run' .refl fun heq => ?_
      obtain rfl := same_row hr hrow heq
      simpa only [hdecision, setRun] using hstart heq

/-- **A step does one `RowChange` to every row.** -/
theorem perform_changes (hs : Sound settings s) (hr : s.runs r = some a) :
    Changes settings s (s.perform settings schedules x) x r a := by
  cases x with
  | createUpload now => exact insertRun_changes hs hr { module := .sc04, summary := AutomationRun.uploadSummary, createdAt := now } none
  | queueUpload r' now =>
    dsimp only [perform]
    split
    · next hupload =>
      -- only the row of an upload of SC-04 waits for its second transaction
      refine updateRun_changes hr _ fun heq => ?_
      obtain ⟨run, hrow, hsc04⟩ := hs.uploads r' hupload
      obtain rfl := same_row hr hrow heq
      exact .uploaded hsc04 rfl rfl rfl rfl rfl
    · exact .refl hr
  | failUpload r' exc safeMessage now =>
    dsimp only [perform]
    split
    · exact updateRun_changes hr _ fun _ => failBeforeProcessing_change exc safeMessage now
    · exact .refl hr
  | createQueued module now =>
    dsimp only [perform]
    split
    · exact .refl hr
    · exact insertRun_changes hs hr _ _
  | recompute r' counts preserve now =>
    refine updateRun_changes hr _ fun heq => ?_
    subst heq
    split
    · next hsc04 => exact recompute_change hsc04 counts preserve now
    · exact .refl
  | resumeSc05 r' sequence now =>
    dsimp only [perform]
    split
    · exact .refl hr
    · next run hrow =>
      split
      · next hguard =>
        refine setRun_changes hr rfl rfl fun heq => ?_
        obtain rfl := same_row hr hrow heq
        subst heq
        exact .resumed rfl hguard.2 rfl rfl rfl rfl rfl
      · exact .refl hr
  | schedule clock key now =>
    dsimp only [perform]
    split
    · exact prepareScheduled_changes hs hr clock key now
    · exact .refl hr
  | dispatchStart r' now => exact dispatchStart_changes hr r' now
  | publish m =>
    dsimp only [perform]
    split <;> exact .refl hr
  | recordDispatchFailure m status exc now =>
    dsimp only [perform]
    split
    · next hguard =>
      exact updateRun_changes hr _ fun _ => recordDispatchFailure_change _ exc now hguard.2
    · exact .refl hr
  | recordDispatchSuccess m now =>
    dsimp only [perform]
    split
    · exact updateRun_changes hr _ fun _ => recordDispatchSuccess_change _ now
    · exact .refl hr
  | reconcileOne r' hasNewItems ambiguous now =>
    exact reconcileOne_changes hr r' hasNewItems ambiguous now
  | failEmptyRecoveredSc04 r' now =>
    refine updateRun_changes hr _ fun _ => ?_
    split
    · exact failEmptyRecoveredSc04_change now
    · exact .refl
  | recordRecoveryPublishFailure m exc now =>
    dsimp only [perform]
    split
    · exact updateRun_changes hr _ fun _ => recordRecoveryPublishFailure_change _ exc now
    · exact .refl hr
  | recordInspectionFailure r' exc now =>
    exact updateRun_changes hr _ fun _ => .kept rfl rfl rfl rfl rfl
  | deliver m redelivered now =>
    dsimp only [perform]
    split
    · exact deliver_changes hr m redelivered now
    · exact .refl hr
  | work worker write now =>
    dsimp only [perform]
    split
    · exact .refl hr
    · next k hk =>
      split
      · next hbelongs =>
        -- the worker loaded the row with a token, and writes under it
        refine updateRun_changes hr _ fun heq => ?_
        obtain ⟨hloaded, b, hb, hmodule⟩ := hs.workers k (List.mem_of_getElem? hk)
        obtain ⟨t, ht⟩ := Option.isSome_iff_exists.mp hloaded
        obtain rfl := same_row hr hb heq
        exact workerWrite_change ht write now hmodule.symm hbelongs
      · exact .refl hr

end Rows

/-- What a step may add to the table beside the changes of its rows. -/
structure Extends (settings : Settings) (s s' : RunTable) : Prop where
  claims : ∀ m ∈ s'.claims, m ∈ s.claims ∨ m.taskId ≤ s.nextTaskId ∧
    ∃ b, s'.runs m.run = some b ∧ b.status = .queued
  kept : ∀ m ∈ s.claims, m ∈ s'.claims
  messages : ∀ m ∈ s'.messages, m ∈ s.messages ∨ m ∈ s.claims
  uploads : ∀ r ∈ s'.uploads, r ∈ s.uploads ∨ ∃ b, s'.runs r = some b ∧ b.module = .sc04
  workers : ∀ k ∈ s'.workers, k ∈ s.workers ∨ k.loaded.taskId.isSome = true ∧
    s'.runs k.run = some k.loaded
  rows : ∀ r b, s'.runs r = some b → s.runs r = none → r = s.runCount ∧
    s'.runCount = s.runCount + 1 ∧ RowSound settings (s.nextTaskId + 1) b 0 ∧
    s'.recoveries r = 0 ∧ b.status ≠ .running
  count : s.runCount ≤ s'.runCount

section Extensions

variable {s' : RunTable}

/-- A step that only changes rows that exist. -/
theorem Extends.of_rows (hruns : ∀ r, s.runs r = none → s'.runs r = none)
    (hcount : s'.runCount = s.runCount) (hclaims : s'.claims = s.claims)
    (hmessages : s'.messages = s.messages) (huploads : ∀ r ∈ s'.uploads, r ∈ s.uploads)
    (hworkers : s'.workers = s.workers) : Extends settings s s' where
  claims := by rw [hclaims]; exact fun m hm => .inl hm
  kept := by rw [hclaims]; exact fun m hm => hm
  messages := by rw [hmessages]; exact fun m hm => .inl hm
  uploads r hr := .inl (huploads r hr)
  workers := by rw [hworkers]; exact fun k hk => .inl hk
  rows r b hb hr := by rw [hruns r hr] at hb; exact absurd hb (by simp)
  count := hcount.ge

theorem Extends.refl : Extends settings s s :=
  .of_rows (fun _ h => h) rfl rfl rfl (fun _ h => h) rfl

theorem setRun_none {r' r : RunId} {row : AutomationRun} {run : AutomationRun}
    (hrow : s.runs r' = some row) (hr : s.runs r = none) : (s.setRun r' run).runs r = none := by
  have hne : r ≠ r' := by rintro rfl; rw [hr] at hrow; exact absurd hrow (by simp)
  simp [setRun, hne, hr]

theorem updateRun_none {r' r : RunId} {f : AutomationRun → AutomationRun} (hr : s.runs r = none) :
    (s.updateRun r' f).runs r = none := by
  unfold updateRun
  split
  · next run hrow => exact setRun_none hrow hr
  · exact hr

theorem updateRun_fields (s : RunTable) (r' : RunId) (f : AutomationRun → AutomationRun) :
    (s.updateRun r' f).runCount = s.runCount ∧ (s.updateRun r' f).claims = s.claims ∧
      (s.updateRun r' f).messages = s.messages ∧ (s.updateRun r' f).uploads = s.uploads ∧
      (s.updateRun r' f).workers = s.workers ∧ (s.updateRun r' f).keys = s.keys := by
  unfold updateRun
  split <;> exact ⟨rfl, rfl, rfl, rfl, rfl, rfl⟩

theorem updateRun_extends {r' : RunId} {f : AutomationRun → AutomationRun} :
    Extends settings s (s.updateRun r' f) := by
  obtain ⟨hcount, hclaims, hmessages, huploads, hworkers, -⟩ :=
    updateRun_fields s r' f
  exact .of_rows (fun _ => updateRun_none) hcount hclaims hmessages
    (by rw [huploads]; exact fun _ h => h) hworkers

/-- The insertion of a run: the row is new, and holds at most the token of the step. -/
theorem insertRun_extends {run : AutomationRun} {key : Option ScheduleKey} {uploads : List RunId}
    (hrun : RowSound settings (s.nextTaskId + 1) run 0) (hstatus : run.status ≠ .running)
    (huploads : ∀ r ∈ uploads, r ∈ s.uploads ∨ r = s.runCount ∧ run.module = .sc04) :
    Extends settings s { s.insertRun run key with uploads := uploads } where
  claims m hm := .inl hm
  kept m hm := hm
  messages m hm := .inl hm
  uploads r hr := by
    rcases huploads r hr with h | ⟨rfl, hsc04⟩
    · exact .inl h
    · exact .inr ⟨run, by simp [insertRun, setRun], hsc04⟩
  workers k hk := .inl hk
  rows r b hb hr := by
    by_cases heq : r = s.runCount
    · subst heq
      simp only [insertRun, setRun, Function.update_self, Option.some.injEq] at hb
      exact ⟨rfl, rfl, hb ▸ hrun, by simp [insertRun], hb ▸ hstatus⟩
    · simp [insertRun, setRun, heq, hr] at hb
  count := Nat.le_succ _

theorem queuedRun_sound (module : ModuleCode) (trigger : RunTrigger) (now next : ℕ)
    (operation : OperationDisplay) :
    RowSound settings (next + 1) (queuedRun module trigger now next operation) 0 where
  token t ht := by
    simp only [queuedRun, Option.some.injEq] at ht
    exact ht ▸ Nat.lt_succ_self _
  queued _ := rfl
  pending h := absurd h (by simp [queuedRun])
  awaiting h := absurd h (by simp [queuedRun])
  running h := absurd h (by simp [queuedRun])
  attempts := Nat.zero_le _
  limit := Nat.zero_le _

theorem uploadRun_sound (now next : ℕ) :
    RowSound settings next { module := .sc04, summary := AutomationRun.uploadSummary, createdAt := now } 0 where
  token t ht := absurd ht (by simp)
  queued h := absurd h (by simp)
  pending _ := ⟨rfl, rfl⟩
  awaiting _ := rfl
  running _ := .inl rfl
  attempts := Nat.zero_le _
  limit := Nat.zero_le _

theorem prepareScheduled_extends (key : ScheduleKey) (now : ℕ) :
    Extends settings s (s.prepareScheduled key now) := by
  unfold prepareScheduled
  split
  · exact insertRun_extends (queuedRun_sound _ _ _ _ _) (by simp [queuedRun]) fun r hr => .inl hr
  · split
    · exact .refl
    · next run hrow =>
      split
      · exact .of_rows (fun _ => setRun_none hrow) rfl rfl rfl (fun _ h => h) rfl
      · exact .refl

theorem dispatchStart_started {run run' : AutomationRun} {now : ℕ} {fresh t : TaskId}
    (h : run.dispatchStart now fresh = (.started t, run')) :
    run'.status = .queued ∧ (run.taskId = some t ∨ t = fresh) := by
  unfold AutomationRun.dispatchStart at h
  split at h
  · simp at h
  · next hstatus =>
    have hqueued : run.status = .queued := by simpa using hstatus
    split at h
    · split at h <;> simp at h
    · simp only [Prod.mk.injEq, DispatchStart.started.injEq] at h
      obtain ⟨ht, rfl⟩ := h
      cases hid : run.taskId with
      | none => rw [hid] at ht; exact ⟨hqueued, .inr ht.symm⟩
      | some t' => rw [hid] at ht; exact ⟨hqueued, .inl (by rw [← ht]; rfl)⟩

/-- A program that takes a token leaves the run in the queue. -/
theorem claim_extends {r : RunId} {run row : AutomationRun} {t : TaskId} (hrow : s.runs r = some row)
    (hruns : s'.runs = (s.setRun r run).runs) (hqueued : run.status = .queued)
    (ht : t ≤ s.nextTaskId) (hclaims : s'.claims = s.claims ++ [⟨r, t⟩])
    (hcount : s'.runCount = s.runCount) (hmessages : s'.messages = s.messages)
    (huploads : s'.uploads = s.uploads) (hworkers : s'.workers = s.workers) :
    Extends settings s s' where
  claims m hm := by
    rw [hclaims, List.mem_append, List.mem_singleton] at hm
    rcases hm with hm | rfl
    · exact .inl hm
    · exact .inr ⟨ht, run, by rw [hruns]; simp [setRun], hqueued⟩
  kept m hm := by rw [hclaims]; exact List.mem_append_left _ hm
  messages := by rw [hmessages]; exact fun m hm => .inl hm
  uploads := by rw [huploads]; exact fun r hr => .inl hr
  workers := by rw [hworkers]; exact fun k hk => .inl hk
  rows r' b hb hr := by rw [hruns, setRun_none hrow hr] at hb; exact absurd hb (by simp)
  count := hcount.ge

theorem dispatchStart_extends (hs : Sound settings s) (r : RunId) (now : ℕ) :
    Extends settings s (s.dispatchStart r now) := by
  unfold dispatchStart
  split
  · exact .refl
  · next run hrow =>
    split
    · next t run' hstart =>
      obtain ⟨hqueued, ht⟩ := dispatchStart_started hstart
      have hle : t ≤ s.nextTaskId := by
        rcases ht with ht | rfl
        · exact Nat.le_of_lt ((hs.rows r run hrow).2.token t ht)
        · exact Nat.le_refl _
      exact claim_extends hrow rfl hqueued hle rfl rfl rfl rfl rfl
    · exact .refl

theorem reconcileOne_requeued {run run' : AutomationRun} {ambiguous hasNewItems : Bool} {now : ℕ}
    {fresh t : TaskId}
    (h : run.reconcileOne ambiguous settings now hasNewItems fresh = (.requeued t, run')) :
    t = fresh ∧ run'.status = .queued := by
  have hdecision := @reconcileOne_change settings fresh (.dispatchStart 0 0) 0 run 0 ambiguous
    hasNewItems now
  rw [h] at hdecision
  rcases hdecision with ⟨ht, hchange⟩ | ⟨hnot, -⟩
  · refine ⟨by simpa using ht, ?_⟩
    cases hchange with
    | recovered _ _ after _ _ _ => exact after
    | redelivered step _ _ _ _ _ _ _ _ _ _ => exact absurd step (by simp)
  · exact absurd rfl (hnot t)

theorem reconcileOne_extends (r : RunId) (hasNewItems ambiguous : Bool) (now : ℕ) :
    Extends settings s (s.reconcileOne settings r hasNewItems ambiguous now) := by
  unfold reconcileOne
  split
  · exact .refl
  · next run hrow =>
    split
    · next t run' hdecision =>
      obtain ⟨rfl, hqueued⟩ := reconcileOne_requeued hdecision
      exact claim_extends hrow rfl hqueued (Nat.le_refl _) rfl rfl rfl rfl rfl
    · exact .of_rows (fun _ => setRun_none hrow) rfl rfl rfl (fun _ h => h) rfl

/-- A worker starts to execute under the token of its message. -/
theorem work_extends {r : RunId} {run row : AutomationRun} (hrow : s.runs r = some row)
    (hruns : s'.runs = (s.setRun r run).runs) (htoken : run.taskId.isSome = true)
    (hworkers : s'.workers = s.workers ++ [⟨r, run⟩]) (hclaims : s'.claims = s.claims)
    (hcount : s'.runCount = s.runCount) (hmessages : s'.messages = s.messages)
    (huploads : s'.uploads = s.uploads) : Extends settings s s' where
  claims := by rw [hclaims]; exact fun m hm => .inl hm
  kept := by rw [hclaims]; exact fun m hm => hm
  messages := by rw [hmessages]; exact fun m hm => .inl hm
  uploads := by rw [huploads]; exact fun r hr => .inl hr
  workers k hk := by
    rw [hworkers, List.mem_append, List.mem_singleton] at hk
    rcases hk with hk | rfl
    · exact .inl hk
    · exact .inr ⟨htoken, by rw [hruns]; simp [setRun]⟩
  rows r' b hb hr := by rw [hruns, setRun_none hrow hr] at hb; exact absurd hb (by simp)
  count := hcount.ge

theorem deliver_extends (m : Message) (redelivered : Bool) (now : ℕ) :
    Extends settings s (s.deliver settings m redelivered now) := by
  unfold deliver
  split
  · exact .refl
  · next run hrow =>
    have hexecuting : ∀ b, (run.startDelivery (.uuid m.taskId) redelivered settings now).executing? =
        some b → b.taskId.isSome = true := by
      intro b hb
      rw [(startDelivery_executing hb).1]
      rfl
    split
    · exact .refl
    · exact .of_rows (fun _ => setRun_none hrow) rfl rfl rfl (fun _ h => h) rfl
    · next run' hdecision =>
      exact work_extends hrow rfl (hexecuting run' (by rw [hdecision]; rfl)) rfl rfl rfl rfl rfl
    · next run' hdecision =>
      exact work_extends hrow rfl (hexecuting run' (by rw [hdecision]; rfl)) rfl rfl rfl rfl rfl

/-- **What a step adds to the table.** -/
theorem perform_extends (hs : Sound settings s) :
    Extends settings s (s.perform settings schedules x) := by
  cases x with
  | createUpload now =>
    refine insertRun_extends (uploadRun_sound now _) (by simp) fun r hr => ?_
    rcases List.mem_append.mp hr with h | h
    · exact .inl h
    · exact .inr ⟨List.mem_singleton.mp h, rfl⟩
  | queueUpload r now =>
    dsimp only [perform]
    split
    · obtain ⟨hcount, hclaims, hmessages, huploads, hworkers, -⟩ :=
        updateRun_fields s r fun run => run.queueManualSc04 now s.nextTaskId
      exact .of_rows (fun _ => updateRun_none) hcount hclaims hmessages
        (fun r' hr' => (List.mem_filter.mp hr').1) hworkers
    · exact .refl
  | failUpload r exc safeMessage now =>
    dsimp only [perform]
    split
    · obtain ⟨hcount, hclaims, hmessages, huploads, hworkers, -⟩ :=
        updateRun_fields s r fun run => run.failBeforeProcessing exc safeMessage now
      exact .of_rows (fun _ => updateRun_none) hcount hclaims hmessages
        (fun r' hr' => (List.mem_filter.mp hr').1) hworkers
    · exact .refl
  | createQueued module now =>
    dsimp only [perform]
    split
    · exact .refl
    · exact insertRun_extends (queuedRun_sound _ _ _ _ _) (by simp [queuedRun]) fun r hr => .inl hr
  | resumeSc05 r sequence now =>
    dsimp only [perform]
    split
    · exact .refl
    · next run hrow =>
      split
      · exact .of_rows (fun _ => setRun_none hrow) rfl rfl rfl (fun _ h => h) rfl
      · exact .refl
  | schedule clock key now =>
    dsimp only [perform]
    split
    · exact prepareScheduled_extends key now
    · exact .refl
  | dispatchStart r now => exact dispatchStart_extends hs r now
  | publish m =>
    dsimp only [perform]
    split
    · next hclaim =>
      -- a message is published from a claim
      refine ⟨fun m hm => .inl hm, fun m hm => hm, fun m' hm' => ?_, fun r hr => .inl hr,
        fun k hk => .inl hk, fun r b hb hr => ?_, Nat.le_refl _⟩
      · rcases List.mem_append.mp hm' with h | h
        · exact .inl h
        · exact .inr (List.mem_singleton.mp h ▸ hclaim)
      · rw [hr] at hb; exact absurd hb (by simp)
    · exact .refl
  | reconcileOne r hasNewItems ambiguous now => exact reconcileOne_extends r hasNewItems ambiguous now
  | deliver m redelivered now =>
    dsimp only [perform]
    split
    · exact deliver_extends m redelivered now
    · exact .refl
  | work worker write now =>
    dsimp only [perform]
    split
    · exact .refl
    · split
      · exact updateRun_extends
      · exact .refl
  | recompute | failEmptyRecoveredSc04 | recordInspectionFailure => exact updateRun_extends
  | recordDispatchFailure | recordDispatchSuccess | recordRecoveryPublishFailure =>
    dsimp only [perform]
    split
    · exact updateRun_extends
    · exact .refl

end Extensions

section Step

/-- A row that exists is changed once, and no other way. -/
theorem step_row (schedules : ScheduleSettings) (x : RunStep) (hs : Sound settings s) {r : RunId}
    {a : AutomationRun} (hr : s.runs r = some a) :
    Changes settings s (s.step settings schedules x) x r a :=
  perform_changes hs hr

theorem step_delivered (hs : Sound settings s) {r : RunId} {a b : AutomationRun}
    (hr : s.runs r = some a) (hb : (s.step settings schedules x).runs r = some b) :
    RowChange settings s.nextTaskId x r a (s.recoveries r) b
      ((s.step settings schedules x).recoveries r) := by
  obtain ⟨b', hb', hchange⟩ := step_row schedules x hs hr
  rw [hb] at hb'
  exact Option.some.inj hb' ▸ hchange

/-- Only a message of the broker is delivered. -/
theorem delivered_or_same (settings : Settings) (schedules : ScheduleSettings) (s : RunTable)
    (x : RunStep) :
    (∀ m redelivered now, x = .deliver m redelivered now → m ∈ s.messages) ∨
      s.perform settings schedules x = s := by
  by_cases h : ∀ m redelivered now, x = .deliver m redelivered now → m ∈ s.messages
  · exact .inl h
  · push Not at h
    obtain ⟨m, redelivered, now, rfl, hm⟩ := h
    exact .inr (if_neg hm)

/-- **Every step keeps the table sound.** -/
theorem sound_step (hs : Sound settings s) : Sound settings (s.step settings schedules x) := by
  have hadd : Extends settings s (s.perform settings schedules x) := perform_extends hs
  have hdelivered : ∀ {r a} (hr : s.runs r = some a), ∃ b,
      (s.perform settings schedules x).runs r = some b ∧ b.module = a.module ∧
        (a.status ≠ .pending → b.status ≠ .pending) := by
    intro r a hr
    obtain ⟨b, hb, hchange⟩ := step_row schedules x hs hr
    exact ⟨b, hb, hchange.module_eq, fun ha hp => ha (hchange.pending_kept hp).1⟩
  constructor
  -- the rows: those of before changed once, a new one is sound
  · intro r b hb
    cases hr : s.runs r with
    | none =>
      obtain ⟨rfl, hcount, hsound, hzero, -⟩ := hadd.rows r b hb hr
      refine ⟨?_, ?_⟩
      · exact hcount ▸ Nat.lt_succ_self s.runCount
      · exact (show (s.step settings schedules x).recoveries s.runCount = 0 from hzero) ▸ hsound
    | some a =>
      obtain ⟨hlt, ha⟩ := hs.rows r a hr
      refine ⟨Nat.lt_of_lt_of_le hlt hadd.count, ?_⟩
      rcases delivered_or_same settings schedules s x with h | h
      · refine (step_delivered hs hr hb).sound ha ?_
        intro m redelivered now hx
        exact (hs.claims m (hs.messages m (h m redelivered now hx))).1
      · have hrow : some b = some a := by rw [← hb, ← hr]; exact congrFun (congrArg runs h) r
        have hcount : (s.step settings schedules x).recoveries r = s.recoveries r :=
          congrFun (congrArg recoveries h) r
        rw [Option.some.inj hrow, hcount]
        exact ha.mono
  -- the claims, the messages, the uploads and the workers keep the rows they name
  · intro m hm
    rcases hadd.claims m hm with h | ⟨hle, b, hb, hqueued⟩
    · obtain ⟨hlt, a, ha, hpending⟩ := hs.claims m h
      obtain ⟨b, hb, -, hkept⟩ := hdelivered ha
      exact ⟨Nat.lt_succ_of_lt hlt, b, hb, hkept hpending⟩
    · exact ⟨Nat.lt_succ_of_le hle, b, hb, by rw [hqueued]; decide⟩
  · intro m hm
    rcases hadd.messages m hm with h | h
    · exact hadd.kept m (hs.messages m h)
    · exact hadd.kept m h
  · intro r hr
    rcases hadd.uploads r hr with h | h
    · obtain ⟨a, ha, hsc04⟩ := hs.uploads r h
      obtain ⟨b, hb, hmodule, -⟩ := hdelivered ha
      exact ⟨b, hb, hmodule.trans hsc04⟩
    · exact h
  · intro k hk
    rcases hadd.workers k hk with h | ⟨htoken, hrow⟩
    · obtain ⟨htoken, a, ha, hmodule⟩ := hs.workers k h
      obtain ⟨b, hb, hmodule', -⟩ := hdelivered ha
      exact ⟨htoken, b, hb, hmodule'.trans hmodule⟩
    · exact ⟨htoken, k.loaded, hrow, rfl⟩

/-- **What holds of the table after every history.** -/
theorem sound_run (xs : List RunStep) : Sound settings (runTable settings schedules xs) := by
  induction xs using List.reverseRecOn with
  | nil =>
    exact ⟨fun r a h => absurd h (by simp [runTable]), fun m h => absurd h (by simp [runTable]),
      fun m h => absurd h (by simp [runTable]), fun r h => absurd h (by simp [runTable]),
      fun k h => absurd h (by simp [runTable])⟩
  | append_singleton xs x ih =>
    rw [runTable, List.foldl_append]
    exact sound_step ih

end Step

end RunTable

end SheepContabil
