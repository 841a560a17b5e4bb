import SheepContabil.Proof.Sc20Sound

/-!
# SC-20: a message of a finished run

The recorder refuses a second event with the same key and another status. An event
for a message of a finished run carries the run's status, so a repeated message is
quiet only if the status cannot have changed under the same token.

* `TokensKept`: the tokens of the runs, and the events of ignored messages.
* `SC20Change.tokensKept`: every move keeps them.
* `executeSc20_unchanged`: no message for a finished run changes the tables or sends.
* `executeSc20_finished`: the message of a finished run returns the recorded result.
-/

namespace SheepContabil

open Conc

/-- **The invariant of the tokens.** An ignored message of a finished run either still shows the
status of the run, or its token has been replaced. -/
structure TokensKept (s : SC20State) : Prop where
  row : ∀ r run t, s.runs r = some run → run.run.taskId = some t → s.tokens r = some t
  used : ∀ r t, s.tokens r = some t → t < s.nextTaskId
  closed : ∀ r run, s.runs r = some run → run.run.taskId = none →
    run.run.status.isTerminal = true ∧ run.run.dispatchFailedBeforeStart = false
  queued : ∀ r run, s.runs r = some run → run.run.status = .queued →
    run.run.metadata.dispatchError = none
  ignored : ∀ e ∈ s.ignored, e.outcome = "terminal" → ∀ t, e.taskId = some t →
    ∃ run, s.runs e.run = some run ∧
      ((run.run.status = e.currentStatus ∧ run.run.status.isTerminal = true ∧
          (run.run.dispatchFailedBeforeStart = false ∨ run.run.taskId = some t)) ∨
        (t < s.nextTaskId ∧ s.tokens e.run ≠ some t))

namespace TokensKept

variable {s s' : SC20State}

theorem of_eq (h : TokensKept s) (hruns : s'.runs = s.runs) (htokens : s'.tokens = s.tokens)
    (hignored : s'.ignored = s.ignored) (hnext : s.nextTaskId ≤ s'.nextTaskId) : TokensKept s' := by
  refine ⟨?_, ?_, ?_, ?_, ?_⟩
  · rw [hruns, htokens]; exact h.row
  · intro r t ht
    rw [htokens] at ht
    exact Nat.lt_of_lt_of_le (h.used r t ht) hnext
  · rw [hruns]; exact h.closed
  · rw [hruns]; exact h.queued
  · intro e he ho t ht
    rw [hignored] at he
    obtain ⟨run, hrun, hcases⟩ := h.ignored e he ho t ht
    refine ⟨run, by rw [hruns]; exact hrun, ?_⟩
    rcases hcases with hcase | ⟨hlt, hne⟩
    · exact .inl hcase
    · exact .inr ⟨Nat.lt_of_lt_of_le hlt hnext, by rw [htokens]; exact hne⟩

/-- One row changes: it keeps its token, loses it, or gets the next unused one; and a finished
run stays as it is unless the scheduler queues it again. -/
theorem of_row (h : TokensKept s) {r : RunId} {run run' : SC20Run} (hrun : s.runs r = some run)
    (hruns : s'.runs = Function.update s.runs r (some run'))
    (htokens : s'.tokens = Function.update s.tokens r (run'.run.taskId.or (s.tokens r)))
    (hignored : s'.ignored = s.ignored) (hnext : s.nextTaskId ≤ s'.nextTaskId)
    (htoken : run'.run.taskId = none ∨ run'.run.taskId = run.run.taskId ∨
      run'.run.taskId = some s.nextTaskId ∧ s.nextTaskId < s'.nextTaskId)
    (hclosed : run'.run.taskId = none →
      run'.run.status.isTerminal = true ∧ run'.run.dispatchFailedBeforeStart = false)
    (hqueued : run'.run.status = .queued → run'.run.metadata.dispatchError = none)
    (hfinal : run.run.status.isTerminal = true →
      (run'.run.status = run.run.status ∧ run'.run.taskId = run.run.taskId ∧
        run'.run.dispatchFailedBeforeStart = run.run.dispatchFailedBeforeStart) ∨
      (run.run.dispatchFailedBeforeStart = true ∧ run'.run.taskId = some s.nextTaskId)) :
    TokensKept s' := by
  -- the last token of the run is its old one or the next unused one
  have hlast : s'.tokens r = s.tokens r ∨
      s'.tokens r = some s.nextTaskId ∧ s.nextTaskId < s'.nextTaskId := by
    rw [htokens, Function.update_self]
    rcases htoken with hnone | hsame | ⟨hfresh, hlt⟩
    · rw [hnone]; exact .inl rfl
    · rw [hsame]
      cases ht : run.run.taskId with
      | none => exact .inl rfl
      | some t => exact .inl (h.row r run t hrun ht).symm
    · rw [hfresh]; exact .inr ⟨rfl, hlt⟩
  have hothers : ∀ r', r' ≠ r → s'.runs r' = s.runs r' ∧ s'.tokens r' = s.tokens r' := by
    intro r' hne
    rw [hruns, htokens, Function.update_of_ne hne, Function.update_of_ne hne]
    exact ⟨rfl, rfl⟩
  have hself : s'.runs r = some run' := by rw [hruns, Function.update_self]
  refine ⟨?_, ?_, ?_, ?_, ?_⟩
  · intro r' x t hx ht
    by_cases heq : r' = r
    · subst heq
      rw [hself] at hx
      obtain rfl := Option.some.inj hx
      rw [htokens, Function.update_self, ht]; rfl
    · rw [(hothers r' heq).2]
      exact h.row r' x t ((hothers r' heq).1 ▸ hx) ht
  · intro r' t ht
    by_cases heq : r' = r
    · subst heq
      rcases hlast with hl | ⟨hl, hlt⟩
      · exact Nat.lt_of_lt_of_le (h.used r' t (hl ▸ ht)) hnext
      · rw [hl] at ht
        obtain rfl := Option.some.inj ht
        exact hlt
    · exact Nat.lt_of_lt_of_le (h.used r' t ((hothers r' heq).2 ▸ ht)) hnext
  · intro r' x hx
    by_cases heq : r' = r
    · subst heq
      rw [hself] at hx
      obtain rfl := Option.some.inj hx
      exact hclosed
    · exact h.closed r' x ((hothers r' heq).1 ▸ hx)
  · intro r' x hx
    by_cases heq : r' = r
    · subst heq
      rw [hself] at hx
      obtain rfl := Option.some.inj hx
      exact hqueued
    · exact h.queued r' x ((hothers r' heq).1 ▸ hx)
  · intro e he ho t ht
    rw [hignored] at he
    obtain ⟨x, hx, hcases⟩ := h.ignored e he ho t ht
    by_cases heq : e.run = r
    · rw [heq] at hx ⊢
      rw [hrun] at hx
      obtain rfl := Option.some.inj hx
      refine ⟨run', hself, ?_⟩
      rcases hcases with ⟨hst, hterminal, hor⟩ | ⟨hlt, hne⟩
      · rcases hfinal hterminal with ⟨hst', htaskId, hfailed⟩ | ⟨hfailed, hfresh⟩
        · exact .inl ⟨hst'.trans hst, by rw [hst']; exact hterminal, by rw [hfailed, htaskId]; exact hor⟩
        · -- queued again: the token of the message is replaced
          have htaskId : run.run.taskId = some t := by
            rcases hor with hor | hor
            · rw [hfailed] at hor; cases hor
            · exact hor
          have hlt := h.used r t (h.row r run t hrun htaskId)
          refine .inr ⟨Nat.lt_of_lt_of_le hlt hnext, ?_⟩
          rw [htokens, Function.update_self, hfresh]
          intro heq'
          exact Nat.ne_of_gt hlt (Option.some.inj heq')
      · refine .inr ⟨Nat.lt_of_lt_of_le hlt hnext, ?_⟩
        rw [heq] at hne
        rcases hlast with hl | ⟨hl, -⟩
        · rw [hl]; exact hne
        · rw [hl]
          intro heq'
          exact Nat.ne_of_gt hlt (Option.some.inj heq')
    · obtain ⟨hr', ht'⟩ := hothers e.run heq
      refine ⟨x, hr'.trans hx, ?_⟩
      rcases hcases with hcase | ⟨hlt, hne⟩
      · exact .inl hcase
      · exact .inr ⟨Nat.lt_of_lt_of_le hlt hnext, by rw [ht']; exact hne⟩

end TokensKept

/-- The steps of a row that give it no token, as `TokensKept` needs them. -/
theorem RowStep.tokens {a b : AutomationRun} (h : RowStep a b)
    (hclosed : a.taskId = none → a.status.isTerminal = true ∧ a.dispatchFailedBeforeStart = false)
    (hqueued : a.status = .queued → a.metadata.dispatchError = none) :
    (b.taskId = none ∨ b.taskId = a.taskId) ∧
      (b.taskId = none → b.status.isTerminal = true ∧ b.dispatchFailedBeforeStart = false) ∧
      (b.status = .queued → b.metadata.dispatchError = none) ∧
      (a.status.isTerminal = true → b.status = a.status ∧ b.taskId = a.taskId ∧
        b.dispatchFailedBeforeStart = a.dispatchFailedBeforeStart) := by
  cases h with
  | idle status startedAt taskId dispatchError =>
    have hfailed : b.dispatchFailedBeforeStart = a.dispatchFailedBeforeStart := by
      simp only [AutomationRun.dispatchFailedBeforeStart, status, startedAt, dispatchError]
    rw [status, taskId, dispatchError, hfailed]
    exact ⟨.inr rfl, hclosed, hqueued, fun _ => ⟨rfl, rfl, rfl⟩⟩
  | dispatchFailed before after startedAt taskId =>
    have hsome : a.taskId ≠ none := by
      intro hnone
      have := (hclosed hnone).1
      rw [before] at this; cases this
    rw [after, taskId, before]
    refine ⟨.inr rfl, fun hnone => absurd hnone hsome, ?_, ?_⟩
    · intro h; cases h
    · intro h; cases h
  | fenced before after startedAt taskId dispatchError =>
    rw [after, taskId, before]
    refine ⟨.inl rfl, fun _ => ⟨rfl, ?_⟩, ?_, ?_⟩
    · simp [AutomationRun.dispatchFailedBeforeStart, dispatchError, hqueued before]
    · intro h; cases h
    · intro h; cases h
  | quarantined before after startedAt taskId =>
    rw [after, taskId, before]
    refine ⟨.inl rfl, fun _ => ⟨rfl, by simp [AutomationRun.dispatchFailedBeforeStart, after]⟩,
      ?_, ?_⟩
    · intro h; cases h
    · intro h; cases h

/-- The end of an execution: a running run becomes a finished one under the same token. -/
theorem TokensKept.ended {s s' : SC20State} (h : TokensKept s) {r : RunId} {run run' : SC20Run}
    (hrun : s.runs r = some run) (hrunning : run.run.status = .running) (hs' : s' = s.setRun r run')
    (hterminal : run'.run.status.isTerminal = true)
    (htaskId : run'.run.taskId = run.run.taskId) : TokensKept s' := by
  have hsome : run.run.taskId ≠ none := by
    intro hnone
    have := (h.closed r run hrun hnone).1
    rw [hrunning] at this; cases this
  subst hs'
  refine h.of_row hrun rfl rfl rfl (Nat.le_refl _) (.inr (.inl htaskId)) ?_ ?_ ?_
  · intro hnone; exact absurd (htaskId ▸ hnone) hsome
  · intro hq; rw [hq] at hterminal; cases hterminal
  · intro hq; rw [hrunning] at hq; cases hq

/-- **Every move keeps the tokens and the ignored messages.** -/
theorem SC20Change.tokensKept {s s' : SC20State} {who : Option (ℕ × SC20Label)}
    (hc : SC20Change s who s') (hfresh : ∀ r, s.runCount ≤ r → s.runs r = none)
    (h : TokensKept s) : TokensKept s' := by
  cases hc with
  | same => exact h
  | certificates => exact h.of_eq rfl rfl rfl (Nat.le_refl _)
  | tick => exact h.of_eq rfl rfl rfl (Nat.le_succ _)
  | superseded _ hlog =>
    rcases SC20State.recordIgnored_ok hlog with rfl | rfl
    · exact h
    · refine ⟨h.row, h.used, h.closed, h.queued, ?_⟩
      intro e he ho t ht
      rcases List.mem_append.1 he with he | he
      · exact h.ignored e he ho t ht
      · rw [List.mem_singleton.1 he] at ho
        simp at ho
  | @terminal _ r run t _ hrun hmatch hterminal hlog =>
    rcases SC20State.recordIgnored_ok hlog with rfl | rfl
    · exact h
    · refine ⟨h.row, h.used, h.closed, h.queued, ?_⟩
      intro e he ho t' ht
      rcases List.mem_append.1 he with he | he
      · exact h.ignored e he ho t' ht
      · rw [List.mem_singleton.1 he] at ht ⊢
        refine ⟨run, hrun, .inl ⟨rfl, hterminal, ?_⟩⟩
        cases htaskId : run.run.taskId with
        | none => exact .inl (h.closed r run hrun htaskId).2
        | some x =>
          refine .inr ?_
          cases t with
          | absent => cases ht
          | invalid => cases ht
          | uuid y =>
            have hy : y = t' := Option.some.inj ht
            simp only [AutomationRun.deliveryMatches, tokenMatches, htaskId,
              SuppliedTaskId.normalize, beq_iff_eq] at hmatch
            rw [← hmatch, hy]
  | inserted trigger baseDate retry competence now =>
    have hrow : s.runs s.runCount = none := hfresh _ (Nat.le_refl _)
    refine ⟨?_, ?_, ?_, ?_, ?_⟩
    · intro r x t hx ht
      show Function.update s.tokens s.runCount _ r = some t
      change Function.update s.runs s.runCount _ r = some x at hx
      by_cases heq : r = s.runCount
      · subst heq
        rw [Function.update_self] at hx ⊢
        obtain rfl := Option.some.inj hx
        rw [ht]; rfl
      · rw [Function.update_of_ne heq] at hx ⊢
        exact h.row r x t hx ht
    · intro r t ht
      show t < s.nextTaskId + 1
      change Function.update s.tokens s.runCount _ r = some t at ht
      by_cases heq : r = s.runCount
      · subst heq
        rw [Function.update_self] at ht
        obtain rfl : s.nextTaskId = t := Option.some.inj ht
        exact Nat.lt_succ_self _
      · rw [Function.update_of_ne heq] at ht
        exact Nat.lt_succ_of_lt (h.used r t ht)
    · intro r x hx
      change Function.update s.runs s.runCount _ r = some x at hx
      by_cases heq : r = s.runCount
      · subst heq
        rw [Function.update_self] at hx
        obtain rfl := Option.some.inj hx
        intro hnone; cases hnone
      · rw [Function.update_of_ne heq] at hx
        exact h.closed r x hx
    · intro r x hx
      change Function.update s.runs s.runCount _ r = some x at hx
      by_cases heq : r = s.runCount
      · subst heq
        rw [Function.update_self] at hx
        obtain rfl := Option.some.inj hx
        intro _; rfl
      · rw [Function.update_of_ne heq] at hx
        exact h.queued r x hx
    · intro e he ho t ht
      obtain ⟨x, hx, hcases⟩ := h.ignored e he ho t ht
      have hne : e.run ≠ s.runCount := by
        intro heq
        rw [heq, hrow] at hx; cases hx
      refine ⟨x, ?_, ?_⟩
      · show Function.update s.runs s.runCount _ e.run = some x
        rw [Function.update_of_ne hne]; exact hx
      · rcases hcases with hcase | ⟨hlt, hnt⟩
        · exact .inl hcase
        · refine .inr ⟨Nat.lt_succ_of_lt hlt, ?_⟩
          show Function.update s.tokens s.runCount _ e.run ≠ some t
          rw [Function.update_of_ne hne]; exact hnt
  | @requeued r run now hrun hfailed =>
    refine h.of_row hrun rfl rfl rfl (Nat.le_succ _) (.inr (.inr ⟨rfl, Nat.lt_succ_self _⟩))
      ?_ ?_ ?_
    · intro hnone; cases hnone
    · intro _; rfl
    · intro _; exact .inr ⟨hfailed, rfl⟩
  | @row _ n r run row hrun hstep hn =>
    obtain ⟨htoken, hclosed, hqueued, hfinal⟩ :=
      hstep.tokens (h.closed r run hrun) (h.queued r run hrun)
    exact h.of_row hrun rfl rfl rfl hn (htoken.imp_right .inl) hclosed hqueued
      fun ht => .inl (hfinal ht)
  | @queued r run row hrun hstep =>
    refine h.of_row hrun rfl rfl rfl (Nat.le_succ _) ?_ ?_ ?_ ?_
    · rcases hstep.taskId with htaskId | ⟨-, htaskId⟩
      · exact .inr (.inr ⟨htaskId, Nat.lt_succ_self _⟩)
      · exact .inr (.inl htaskId)
    · intro hnone
      rcases hstep.taskId with htaskId | ⟨hsome, htaskId⟩
      · rw [htaskId] at hnone; cases hnone
      · rw [htaskId] at hnone; rw [hnone] at hsome; cases hsome
    · intro _; exact hstep.dispatchError.trans (h.queued r run hrun hstep.before)
    · intro hst; rw [hstep.before] at hst; cases hst
  | @started pid r run run' t b now hrun hstart =>
    rcases run.start_cases t b now with hst | ⟨-, ⟨row, -, hst, -⟩ | ⟨row, -, hst⟩ |
      ⟨row, -, hst, -⟩ | ⟨row, -, hterminal, hst, hstatus, -, htaskId, -⟩⟩
    · rw [hst] at hstart; cases hstart
    · rw [hst] at hstart; cases hstart
    · rw [hst] at hstart; cases hstart
    · rw [hst] at hstart; cases hstart
    rw [hst] at hstart
    obtain rfl := SC20Start.started.inj hstart
    -- the run is not finished, so it has a token, and keeps it
    have hsome : run.run.taskId ≠ none := by
      intro hnone
      have := (h.closed r run hrun hnone).1
      rw [hterminal] at this; cases this
    have hkept : row.taskId = run.run.taskId := by
      rw [htaskId]
      cases ht : run.run.taskId with
      | none => exact absurd ht hsome
      | some x => rfl
    have hset : TokensKept (s.setRun r { run with run := row }) := by
      refine h.of_row hrun rfl rfl rfl (Nat.le_refl _) (.inr (.inl hkept)) ?_ ?_ ?_
      · intro hnone; exact absurd (hkept ▸ hnone) hsome
      · intro hq; rw [hstatus] at hq; cases hq
      · intro ht; rw [hterminal] at ht; cases ht
    exact hset.of_eq rfl rfl rfl (Nat.le_refl _)
  | preparedNew pid hp =>
    obtain ⟨run, new, -, -, -, -, -, hprep⟩ := SC20State.prepareNew_some hp
    exact h.of_eq hprep.runs hprep.tokens hprep.ignored (Nat.le_of_eq hprep.nextTaskId.symm)
  | preparedRetry pid hp =>
    obtain ⟨run, old, new, -, -, -, -, -, -, -, hprep⟩ := SC20State.prepareRetry_some hp
    exact h.of_eq hprep.runs hprep.tokens hprep.ignored (Nat.le_of_eq hprep.nextTaskId.symm)
  | sent => exact h.of_eq rfl rfl rfl (Nat.le_refl _)
  | finalized pid hf =>
    obtain ⟨-, -, -, -, -, -, ⟨-, rfl⟩ | ⟨-, f, g, rfl, -⟩⟩ := SC20State.finalize_ok hf
    · exact h
    · exact h.of_eq rfl rfl rfl (Nat.le_refl _)
  | finished pid hf =>
    obtain ⟨run, row, hlock, hs', hstatus, -, htaskId⟩ := SC20State.finishRun_ok hf
    obtain ⟨hrun, hrunning⟩ := SC20State.lockRun_ok hlock
    refine h.ended hrun hrunning hs' ?_ htaskId
    rcases hstatus with hst | hst
    · show row.status.isTerminal = true
      rw [hst]; rfl
    · show row.status.isTerminal = true
      rw [hst]; rfl
  | failed _ hf =>
    rcases SC20State.recordUnhandledFailure_ok hf with rfl |
      ⟨run, row, hlock, hs', hstatus, -, htaskId⟩
    · exact h
    obtain ⟨hrun, hrunning⟩ := SC20State.lockRun_ok hlock
    refine h.ended hrun hrunning hs' ?_ htaskId
    show row.status.isTerminal = true
    rw [hstatus]; split <;> rfl

theorem initial_tokensKept (certificates : CertificateId → Option DigitalCertificate) :
    TokensKept (SC20State.initial certificates) := by
  refine ⟨?_, ?_, ?_, ?_, ?_⟩
  · intro r run t hr; cases hr
  · intro r t ht; cases ht
  · intro r run hr; cases hr
  · intro r run hr; cases hr
  · intro e he; cases he

section Finished

variable {ι : Type} {gateway : NotificationGateway ι} {s : SC20State}

/-- The event of a message of a finished run is recorded, or is there already. -/
theorem recordIgnored_finished (h : TokensKept s) {r : RunId} {run : SC20Run} {t : TaskId}
    (hrun : s.runs r = some run) (ht : s.tokens r = some t) :
    ∃ log, s.recordIgnored ⟨r, "terminal", some t, run.run.status⟩ = .ok { s with ignored := log } := by
  unfold SC20State.recordIgnored
  split
  · exact ⟨_, rfl⟩
  · next x hx =>
    have hmem := List.mem_of_find?_eq_some hx
    have hkey := List.find?_some hx
    simp only [Bool.and_eq_true, beq_iff_eq] at hkey
    obtain ⟨⟨hxr, hxo⟩, hxt⟩ := hkey
    obtain ⟨run', hrun', hcases⟩ := h.ignored x hmem hxo t hxt
    rw [hxr, hrun] at hrun'
    obtain rfl := Option.some.inj hrun'
    rcases hcases with ⟨hst, -⟩ | ⟨-, hne⟩
    · have hx' : x = ⟨r, "terminal", some t, run.run.status⟩ := by
        cases x
        simp only at hxr hxo hxt hst
        rw [hxr, hxo, hxt, hst]
      rw [if_pos hx']
      exact ⟨s.ignored, rfl⟩
    · rw [hxr] at hne
      exact absurd ht hne

/-- A program that raised stays as it is. -/
theorem alone_raise {α : Type} (pid : ℕ) (e : SC20Exception) (is : List (SC20Fate ι))
    (s : SC20State) :
    (Conc.Prog.raise e : SC20Prog α).alone (SC20State.sem gateway pid) is s = (.raise e, s) := by
  cases is <;> rfl

/-- The start of a finished run records at most an ignored message, and does not execute. -/
theorem startRun_finished {r : RunId} {run : SC20Run} (hrun : s.runs r = some run)
    (hterminal : run.run.status.isTerminal = true) (pid : ℕ) (t : SuppliedTaskId) (b : Bool)
    (now : ℕ) {x : SC20Run × Bool} {s' : SC20State} (h : s.startRun pid r t b now = .ok (x, s')) :
    x.2 = false ∧ ∃ log, s' = { s with ignored := log } := by
  have hlogged : ∀ {e s'}, s.recordIgnored e = .ok s' → ∃ log, s' = { s with ignored := log } := by
    intro e s' h
    rcases SC20State.recordIgnored_ok h with rfl | rfl
    · exact ⟨_, rfl⟩
    · exact ⟨_, rfl⟩
  unfold SC20State.startRun at h
  simp only [hrun] at h
  rcases run.start_cases t b now with hst | ⟨-, ⟨row, hst, -⟩ | ⟨row, hst, -⟩ |
    ⟨row, -, hst, -⟩ | ⟨row, -, hst, -⟩⟩
  · rw [hst] at h
    obtain ⟨s'', hlog, hs⟩ := Py.bind_eq_ok.1 h
    obtain ⟨rfl, rfl⟩ := Prod.mk.inj (Except.ok.inj hs)
    exact ⟨rfl, hlogged hlog⟩
  · rw [hst] at hterminal; cases hterminal
  · rw [hst] at hterminal; cases hterminal
  · rw [hst] at h
    obtain ⟨s'', hlog, hs⟩ := Py.bind_eq_ok.1 h
    obtain ⟨rfl, rfl⟩ := Prod.mk.inj (Except.ok.inj hs)
    exact ⟨rfl, hlogged hlog⟩
  · rw [hterminal] at hst; cases hst

/-- **A message for a finished run changes nothing** but the log of ignored messages, whatever
token it carries. -/
theorem executeSc20_unchanged {r : RunId} {run : SC20Run} (hrun : s.runs r = some run)
    (hterminal : run.run.status.isTerminal = true) (pid : ℕ) (ids : List CertificateId)
    (t : SuppliedTaskId) (b : Bool) (policy : SC20Policy) (i : SC20Fate ι) (is : List (SC20Fate ι)) :
    ∃ log, ((executeSc20 ids r t b policy).alone (SC20State.sem gateway pid) (i :: is) s).2 =
      { s with ignored := log } := by
  show ∃ log, (Conc.Prog.alone _ (Conc.Prog.bind (Conc.Prog.call (SC20Label.startRun r t b)) _)
    (i :: is) s).2 = _
  simp only [Conc.Prog.call, Conc.Prog.bind, Conc.Prog.alone]
  cases hsem : SC20State.sem gateway pid (.startRun r t b) i s with
  | mk x s' =>
    rcases sem_commit (by exact hsem) with ⟨e, rfl, rfl⟩ | ⟨x, rfl, hst⟩
    · exact ⟨s'.ignored, by simp only [Conc.Prog.bind, alone_raise]⟩
    · obtain ⟨hfalse, log, rfl⟩ := startRun_finished hrun hterminal pid t b i.now hst
      refine ⟨log, ?_⟩
      obtain ⟨run', execute⟩ := x
      obtain rfl : execute = false := hfalse
      simp only [Conc.Prog.bind]
      rfl

/-- **The message of a finished run returns the recorded result.** -/
theorem executeSc20_finished (h : TokensKept s) {r : RunId} {run : SC20Run} {t : TaskId}
    (hrun : s.runs r = some run) (hterminal : run.run.status.isTerminal = true)
    (ht : s.tokens r = some t) (pid : ℕ) (ids : List CertificateId) (b : Bool) (policy : SC20Policy)
    (i : SC20Fate ι) (hi : i.raises = none) (is : List (SC20Fate ι)) :
    ((executeSc20 ids r (.uuid t) b policy).alone (SC20State.sem gateway pid) (i :: is) s).1 =
      .ret run.resultFromMetadata := by
  obtain ⟨log, hlog⟩ := recordIgnored_finished h hrun ht
  have hmatch : run.run.deliveryMatches (.uuid t) = true := by
    simp only [AutomationRun.deliveryMatches, tokenMatches, SuppliedTaskId.normalize]
    cases htaskId : run.run.taskId with
    | none => rfl
    | some x =>
      have hx := h.row r run x hrun htaskId
      rw [ht] at hx
      simp [Option.some.inj hx]
  have hnot : run.run.status ≠ .running := by
    intro hst; rw [hst] at hterminal; cases hterminal
  obtain ⟨row, hstart, hstatus⟩ : ∃ row, run.start (.uuid t) b i.now = .terminal { run with run := row } ∧
      row.status = run.run.status := by
    rcases run.start_cases (.uuid t) b i.now with hst | ⟨-, ⟨row, hst, -⟩ | ⟨row, hst, -⟩ |
      ⟨row, -, hst, hstatus⟩ | ⟨row, -, hst, -⟩⟩
    · unfold SC20Run.start AutomationRun.bindDelivery at hst
      rw [if_pos hmatch] at hst
      simp only [hterminal, if_true] at hst
      split at hst
      · split at hst <;> cases hst
      · cases hst
    · exact absurd hst hnot
    · exact absurd hst hnot
    · exact ⟨row, hst, hstatus⟩
    · rw [hterminal] at hst; cases hst
  have hsem : SC20State.sem gateway pid (.startRun r (.uuid t) b) i s =
      (.ok ({ run with run := row }, false), { s with ignored := log }) := by
    simp only [SC20State.sem, hi, SC20State.perform, SC20State.startRun, hrun, hstart,
      SuppliedTaskId.normalize, hstatus, hlog]
    rfl
  show (Conc.Prog.alone _ (Conc.Prog.bind (Conc.Prog.call (SC20Label.startRun r (.uuid t) b)) _)
    (i :: is) s).1 = _
  simp only [Conc.Prog.call, Conc.Prog.bind, Conc.Prog.alone, hsem]
  rfl

end Finished

end SheepContabil
