import SheepContabil.Conc.Layer
import SheepContabil.Proof.Sc20Delivery

/-!
# SC-20: the result of a run counts its attempts

The counters of `_execute_scan` and `_execute_retry` live in the memory of a worker and reach
`run.metadata["result"]` in one write at the end. The outline of the executions is strengthened
by what these counters are worth while the worker executes.

* `Tallied`: the counters are the numbers of the attempts of a run, by status.
* `executeSc20_tallied`: every execution keeps its counters so.
* `run_results`: **the result of every run counts its attempts**, among whatever else happens.
-/

namespace SheepContabil

open Conc

/-- The number of the attempts of the run with this status. -/
def SC20State.countFor (s : SC20State) (r : RunId) (status : CommunicationStatus) : ℕ :=
  (s.attemptsFor r).countP fun a => a.status == status

/-- The run has as many sent and failed attempts. -/
structure Tallied (r : RunId) (sent failed : ℕ) (s : SC20State) : Prop where
  sent : s.countFor r .sent = sent
  failed : s.countFor r .failed = failed

/-- The status that `_finish_run` gives a run with this result. -/
def SC20ExecutionResult.status (x : SC20ExecutionResult) : RunStatus :=
  if x.failed ≠ 0 then .succeededWithWarnings else .succeeded

/-- A result counts the attempts of its run, all of them settled, and gives the run its status. -/
structure ResultKept (s : SC20State) (r : RunId) (run : SC20Run) (x : SC20ExecutionResult) : Prop where
  tallied : Tallied r x.sent x.failed s
  settled : ∀ a ∈ s.attemptsFor r, a.status ≠ .pending
  status : run.run.status = x.status

/-- **The second invariant.** -/
def ResultsKept (s : SC20State) : Prop :=
  ∀ r run x, s.runs r = some run → run.result = some x → ResultKept s r run x

/-- What an execution also knows: it finishes with counters that are right. -/
def finishTallied (_ : ℕ) : SC20Label → SC20State → Prop
  | .finishRun r _ x _, s => Tallied r x.sent x.failed s
  | _, _ => True

section Counting

variable {s s' : SC20State} {r : RunId} {sent failed : ℕ}

theorem Tallied.of_attempts (h : Tallied r sent failed s) (ha : s'.attemptsFor r = s.attemptsFor r) :
    Tallied r sent failed s' := by
  obtain ⟨hsent, hfailed⟩ := h
  unfold SC20State.countFor at hsent hfailed
  exact ⟨by rw [SC20State.countFor, ha, hsent], by rw [SC20State.countFor, ha, hfailed]⟩

/-- The row with this key is written: a count loses the old row and gains the new one. -/
theorem countP_write {α : Type*} {key : α → ℕ} {rows : List α} {f : α → α} {p : α → Bool} {b : α}
    (hkeys : (rows.map key).Nodup) (hb : b ∈ rows) (hp : p b = false) :
    (rows.map fun x => if key x = key b then f x else x).countP p =
      rows.countP p + if p (f b) then 1 else 0 := by
  obtain ⟨before, after, rfl⟩ := List.append_of_mem hb
  simp only [List.map_append, List.map_cons] at hkeys
  -- the other rows have other keys
  have hother : ∀ x ∈ before ++ after, key x ≠ key b := by
    have hnot : key b ∉ (before ++ after).map key := by
      have hperm : (before.map key ++ key b :: after.map key).Perm
          (key b :: (before.map key ++ after.map key)) := List.perm_middle
      rw [List.map_append]
      exact (List.nodup_cons.1 (hperm.nodup_iff.1 hkeys)).1
    intro x hx heq
    exact hnot (heq ▸ List.mem_map_of_mem hx)
  have hsame : ∀ xs : List α, (∀ x ∈ xs, key x ≠ key b) →
      (xs.map fun x => if key x = key b then f x else x) = xs := by
    intro xs hxs
    refine (List.map_congr_left fun x hx => ?_).trans (List.map_id _)
    rw [if_neg (hxs x hx)]
    rfl
  rw [List.map_append, List.map_cons, if_pos rfl,
    hsame before fun x hx => hother x (List.mem_append_left _ hx),
    hsame after fun x hx => hother x (List.mem_append_right _ hx)]
  simp only [List.countP_append, List.countP_cons, hp]
  simp
  omega

/-- The attempt of a reservation is pending: no count changes, of its run or of another. -/
theorem Prepares.tallied {c : CommunicationId} {recipient : String} {r' : RunId}
    {p : PreparedDelivery} (hprep : Prepares s c recipient r' p s') (h : Tallied r sent failed s) :
    Tallied r sent failed s' := by
  obtain ⟨hsent, hfailed⟩ := h
  unfold SC20State.countFor SC20State.attemptsFor at hsent hfailed
  constructor <;>
    (rw [SC20State.countFor, SC20State.attemptsFor, hprep.attempts, List.filter_append,
      List.countP_append]
     by_cases hr : r' = r <;> simp [SC20State.newAttempt, hr, hsent, hfailed])

/-- The answer of the provider, as the counters have it. -/
theorem finalize_result {p : PreparedDelivery} {d : DeliveryResult} {now : ℕ}
    {res : SC20ExecutionResult} {a : CommunicationAttempt}
    (h : s.finalize p d now = .ok (res, s')) (ha : s.attempt? p.attemptId = some a)
    (hpending : a.status = .pending) :
    res = if d.delivered then { sent := 1 } else { failed := 1 } := by
  unfold SC20State.finalize at h
  obtain ⟨run, -, h⟩ := Py.bind_eq_ok.1 h
  simp only [ha, hpending] at h
  split at h
  · cases h
  · split at h
    · cases h
    · split at h
      · cases h
      · exact (Prod.mk.inj (Except.ok.inj h)).1.symm

/-- The end of a send, of a pending attempt, and the attempts of each run after it. -/
theorem finalize_attempts {p : PreparedDelivery} {d : DeliveryResult} {now : ℕ}
    {res : SC20ExecutionResult} {pid : ℕ} (ht : TablesKept s)
    (h : s.finalize p d now = .ok (res, s')) (hres : Reserved pid p s) :
    ∃ (a : CommunicationAttempt) (f : CommunicationAttempt → CommunicationAttempt),
      a ∈ s.attemptsFor p.runId ∧ a.status = .pending ∧
      res = (if d.delivered then { sent := 1 } else { failed := 1 }) ∧
      (f a).status = SC20State.answered d ∧
      (∀ r', s'.attemptsFor r' = (s.attemptsFor r').map fun x => if x.id = a.id then f x else x) := by
  obtain ⟨run, a, -, ha, harun, -, hcases⟩ := SC20State.finalize_ok h
  obtain ⟨hamem, haid⟩ := attempt?_some ha
  obtain ⟨b, hb, hbid, -, hbpending⟩ := hres.attempt
  have hab := ht.attempt_eq hamem (mem_attemptsFor.1 hb).1 (haid.trans hbid.symm)
  have hpending : a.status = .pending := by rw [hab]; exact hbpending
  rcases hcases with ⟨hsettled, -⟩ | ⟨-, f, g, rfl, hf, -⟩
  · exact absurd hpending hsettled
  refine ⟨a, f, mem_attemptsFor.2 ⟨hamem, harun⟩, hpending, finalize_result h ha hpending,
    (hf a).2.2.2.2, fun r' => ?_⟩
  -- the write keeps the run of an attempt
  have hrun : ∀ x : CommunicationAttempt, (if x.id = p.attemptId then f x else x).run = x.run := by
    intro x
    split
    · exact (hf x).2.2.1
    · rfl
  rw [haid]
  show List.filter _ (s.attempts.map _) = _
  rw [List.filter_map, SC20State.attemptsFor]
  refine congrArg _ (List.filter_congr fun x _ => ?_)
  simp only [Function.comp_apply, hrun]

theorem attemptIds_nodup (ht : TablesKept s) (r : RunId) :
    ((s.attemptsFor r).map (·.id)).Nodup :=
  (ht.attemptIds ▸ List.nodup_range).sublist (List.filter_sublist.map _)

/-- **The end of a send**: the counters of the execution grow by what it reports. -/
theorem Tallied.finalize {p : PreparedDelivery} {d : DeliveryResult} {now : ℕ}
    {res : SC20ExecutionResult} {pid : ℕ} (h : Tallied p.runId sent failed s) (ht : TablesKept s)
    (hf : s.finalize p d now = .ok (res, s')) (hres : Reserved pid p s) :
    Tallied p.runId (sent + res.sent) (failed + res.failed) s' := by
  obtain ⟨a, f, ha, hpending, rfl, hstatus, hattempts⟩ := finalize_attempts ht hf hres
  obtain ⟨rfl, rfl⟩ := h
  have hcount : ∀ st, st ≠ .pending → s'.countFor p.runId st =
      s.countFor p.runId st + if (f a).status == st then 1 else 0 := by
    intro st hst
    rw [SC20State.countFor, hattempts, countP_write (attemptIds_nodup ht _) ha
      (by rw [hpending]; simpa using hst.symm)]
    rfl
  refine ⟨?_, ?_⟩
  · rw [hcount .sent (by simp), hstatus, SC20State.answered]
    cases d.delivered <;> rfl
  · rw [hcount .failed (by simp), hstatus, SC20State.answered]
    cases d.delivered <;> rfl

end Counting

section Programs

variable {ι : Type} {gateway : NotificationGateway ι} {pid : ℕ}

/-- The weakest precondition of the second pass over the executions. -/
abbrev tallyWp {α : Type} (gateway : NotificationGateway ι) (pid : ℕ) (p : SC20Prog α)
    (Q : Except SC20Exception α → SC20State → Prop) (s : SC20State) : Prop :=
  wp (((sc20Outline gateway False).contract (sc20System gateway)).knowing ResultsKept finishTallied)
    pid p Q s

/-- The execution of the run is this process's, and its counters are right. -/
structure Counting (pid : ℕ) (r : RunId) (sent failed : ℕ) (s : SC20State) : Prop where
  executor : s.executors r = some pid
  tallied : Tallied r sent failed s

theorem Counting.rely {r : RunId} {sent failed : ℕ} {s s' : SC20State}
    (h : Counting pid r sent failed s) (hr : sc20Rely pid s s') : Counting pid r sent failed s' := by
  obtain ⟨he, ha, -⟩ := hr r h.executor
  exact ⟨he, h.tallied.of_attempts ha⟩

/-- An action that only reads, or raises. -/
theorem tally_quiet {l : SC20Label} {Q : Except SC20Exception l.Resp → SC20State → Prop}
    {s : SC20State} (hpre : ∀ s, finishTallied pid l s)
    (hQ : ∀ s' r s'' i, sc20Rely pid s s' → SC20Kept False s' →
      SC20State.sem gateway pid l i s' = (r, s'') → Q r s'') :
    tallyWp gateway pid (.call l) Q s := by
  refine wp_knowing_call fun s' hr hi _ _ => ⟨hpre s', ?_⟩
  rintro r s'' ⟨i, -, hsem⟩
  exact hQ s' r s'' i hr hi hsem

/-- The execution's counters, with what a part of it reports added. -/
def Reported (pid : ℕ) (r : RunId) (sent failed : ℕ)
    (result : Except SC20Exception SC20ExecutionResult) (s : SC20State) : Prop :=
  ∀ y, result = .ok y → Counting pid r (sent + y.sent) (failed + y.failed) s

/-- **`_send_prepared_delivery`.** -/
theorem sendPreparedDelivery_tallied {p : PreparedDelivery} {sent failed : ℕ} {s : SC20State}
    (h : Counting pid p.runId sent failed s) :
    tallyWp gateway pid (sendPreparedDelivery p) (Reported pid p.runId sent failed) s := by
  refine wp_tryCatch (wp_mono (Q := fun r s => ∀ x, r = .ok x →
    Reported pid p.runId sent failed (.ok x) s) ?_ ?_)
  · rintro (e | x) s' hx
    · refine wp_bind (tally_quiet (fun _ => trivial) ?_)
      rintro s1 (e' | u) s2 i - - -
      · intro x hx; cases hx
      · intro x hx; cases hx
    · exact hx x rfl
  · refine wp_bind (wp_knowing_call fun s1 hr _ _ _ => ⟨trivial, ?_⟩)
    have h1 := h.rely hr
    rintro r s2 ⟨i, -, hsem⟩
    -- a send changes no attempt
    have h2 : Counting pid p.runId sent failed s2 := by
      change SC20State.sem gateway pid (.send p) i s1 = (r, s2) at hsem
      unfold SC20State.sem at hsem
      split at hsem
      · obtain ⟨-, rfl⟩ := Prod.mk.inj hsem
        exact h1
      · obtain ⟨-, rfl⟩ := Prod.mk.inj hsem
        exact ⟨h1.executor, h1.tallied.of_attempts rfl⟩
    rcases r with e | d
    · intro x hx; cases hx
    refine wp_knowing_call fun s3 hr3 hi3 _ hpre => ⟨trivial, ?_⟩
    have h3 := h2.rely hr3
    have hres : Reserved pid p s3 := hpre.1
    rintro r s4 ⟨i', -, hsem'⟩
    rcases sem_commit hsem' with ⟨e, rfl, -⟩ | ⟨a, rfl, hf⟩
    · intro x hx; cases hx
    · intro x hx y hy
      obtain rfl := Except.ok.inj hx
      obtain rfl := Except.ok.inj hy
      refine ⟨?_, h3.tallied.finalize hi3.tables hf hres⟩
      exact (hi3.finalized hf hres hpre.2).2.2.1.executor

/-- A reservation that dispensed with the delivery, or made one. -/
theorem sendIfPrepared_tallied {r : RunId} {prepared : Option PreparedDelivery} {sent failed : ℕ}
    {s : SC20State} (h : Counting pid r sent failed s)
    (hrun : ∀ p, prepared = some p → p.runId = r) :
    tallyWp gateway pid (sendIfPrepared prepared) (Reported pid r sent failed) s := by
  cases prepared with
  | none =>
    intro y hy
    obtain rfl := Except.ok.inj hy
    exact h
  | some p =>
    obtain rfl := hrun p rfl
    exact sendPreparedDelivery_tallied h

/-- **`_notify_certificate`.** -/
theorem notifyCertificate_tallied {run : LoadedRun} {policy : SC20Policy} {c : CertificateId}
    {sent failed : ℕ} {s : SC20State} (h : Counting pid run.id sent failed s) :
    tallyWp gateway pid (notifyCertificate run policy c) (Reported pid run.id sent failed) s := by
  refine wp_bind (tally_quiet (fun _ => trivial) ?_)
  intro s1 r s2 i hr _ hsem
  have h1 := h.rely hr
  rcases sem_commit hsem with ⟨e, rfl, -⟩ | ⟨a, rfl, hp⟩
  · intro x hx; cases hx
  · cases a with
    | none =>
      rw [SC20State.prepareNew_none hp]
      exact sendIfPrepared_tallied h1 fun p hp' => by cases hp'
    | some p =>
      obtain ⟨row, new, -, -, -, -, -, hprep⟩ := SC20State.prepareNew_some hp
      refine sendIfPrepared_tallied ⟨?_, hprep.tallied h1.tallied⟩ ?_
      · rw [hprep.executors]; exact h1.executor
      · rintro _ ⟨⟩
        exact hprep.run

/-- **`_execute_retry`.** -/
theorem executeRetry_tallied {run : LoadedRun} {c : CommunicationId} {sent failed : ℕ}
    {s : SC20State} (h : Counting pid run.id sent failed s) :
    tallyWp gateway pid (executeRetry run c) (Reported pid run.id sent failed) s := by
  refine wp_bind (tally_quiet (fun _ => trivial) ?_)
  intro s1 r s2 i hr _ hsem
  have h1 := h.rely hr
  rcases sem_commit hsem with ⟨e, rfl, -⟩ | ⟨a, rfl, hp⟩
  · intro x hx; cases hx
  · cases a with
    | none =>
      rw [SC20State.prepareRetry_none hp]
      exact sendIfPrepared_tallied h1 fun p hp' => by cases hp'
    | some p =>
      obtain ⟨row, old, new, -, -, -, -, -, -, -, hprep⟩ := SC20State.prepareRetry_some hp
      refine sendIfPrepared_tallied ⟨?_, hprep.tallied h1.tallied⟩ ?_
      · rw [hprep.executors]; exact h1.executor
      · rintro _ ⟨⟩
        exact hprep.run

/-- A heartbeat changes no attempt. -/
theorem sem_touch_counting {r r' : RunId} {t : Option TaskId} {i : SC20Fate ι} {s s' : SC20State}
    {x : Except SC20Exception Unit} {sent failed : ℕ} (h : Counting pid r sent failed s)
    (hsem : SC20State.sem gateway pid (.touchRun r' t) i s = (x, s')) :
    Counting pid r sent failed s' := by
  unfold SC20State.sem at hsem
  split at hsem
  · rw [← (Prod.mk.inj hsem).2]; exact h
  · simp only [SC20State.perform] at hsem
    obtain ⟨-, rfl⟩ := Prod.mk.inj hsem
    split
    · exact ⟨h.executor, h.tallied.of_attempts rfl⟩
    · exact h

/-- **The loop of `_execute_scan`**: the counters are right after each certificate. -/
theorem scanCertificates_tallied {run : LoadedRun} {policy : SC20Policy} :
    ∀ (cs : List CertificateId) (total : SC20ExecutionResult) (s : SC20State),
      Counting pid run.id total.sent total.failed s →
      tallyWp gateway pid (scanCertificates run policy cs total) (Reported pid run.id 0 0) s := by
  intro cs
  induction cs with
  | nil =>
    intro total s h y hy
    obtain rfl := Except.ok.inj hy
    rw [Nat.zero_add, Nat.zero_add]
    exact h
  | cons c cs ih =>
    intro total s h
    refine wp_bind (tally_quiet (fun _ => trivial) ?_)
    rintro s1 (e | u) s2 i hr - hsem
    · intro x hx; cases hx
    have h2 : Counting pid run.id total.sent total.failed s2 := by
      rw [sem_require hsem]; exact h.rely hr
    refine wp_bind (tally_quiet (fun _ => trivial) ?_)
    rintro s3 (e | u) s4 i' hr' - hsem'
    · intro x hx; cases hx
    have h4 := sem_touch_counting (h2.rely hr') hsem'
    refine wp_bind (wp_mono ?_ (notifyCertificate_tallied h4))
    rintro (e | y) s5 hy
    · intro x hx; cases hx
    · exact ih _ s5 (hy y rfl)

/-- **The `try` block of `execute_sc20`**: it finishes with counters that are right. -/
theorem runSc20_tallied {ids : List CertificateId} {run : LoadedRun} {policy : SC20Policy}
    {s : SC20State} (h : Counting pid run.id 0 0 s) :
    tallyWp gateway pid (runSc20 ids run policy) (fun _ _ => True) s := by
  have hfinish : ∀ r s', Reported pid run.id 0 0 r s' → (match r with
      | .ok x => tallyWp gateway pid (do
          Conc.Prog.call (SC20Label.finishRun run.id run.taskId x policy)
          Conc.Prog.ret x) (fun _ _ => True) s'
      | .error _ => True) := by
    rintro (e | x) s' hx
    · trivial
    refine wp_bind (wp_knowing_call fun s1 hr _ _ _ => ⟨?_, ?_⟩)
    · have h1 := ((hx x rfl).rely hr).tallied
      rw [Nat.zero_add, Nat.zero_add] at h1
      exact h1
    · rintro (e | u) s'' -
      · trivial
      · trivial
  unfold runSc20
  cases hretry : run.retryCommunicationId with
  | none =>
    refine wp_bind (wp_mono (Q := Reported pid run.id 0 0) ?_ ?_)
    · intro r s' hr
      have h' := hfinish r s' hr
      cases r <;> exact h'
    · refine wp_bind (tally_quiet (fun _ => trivial) ?_)
      rintro s1 (e | cs) s2 i hr - hsem
      · intro x hx; cases hx
      · refine scanCertificates_tallied cs {} s2 ?_
        rw [sem_expiring hsem]; exact h.rely hr
  | some c =>
    refine wp_bind (wp_mono ?_ (executeRetry_tallied h))
    intro r s' hr
    have h' := hfinish r s' hr
    cases r <;> exact h'

/-- The handlers report no counters. -/
theorem handleSc20_tallied {run : LoadedRun} (e : SC20Exception) {s : SC20State} :
    tallyWp gateway pid (handleSc20 run e) (fun _ _ => True) s := by
  cases e with
  | superseded =>
    refine wp_bind (tally_quiet (fun _ => trivial) ?_)
    rintro s1 (e | u) s2 i - - -
    · trivial
    · trivial
  | python e =>
    cases e with
    | exception name =>
      refine wp_bind (tally_quiet (fun _ => trivial) ?_)
      rintro s1 (e | u) s2 i - - -
      · trivial
      · trivial
    | baseException name => trivial

/-- A run that starts has no attempt yet. -/
theorem started_counting {s s' : SC20State} {r : RunId} {t : SuppliedTaskId} {b : Bool} {now : ℕ}
    {run : SC20Run} (hk : SC20Kept False s)
    (h : s.startRun pid r t b now = .ok ((run, true), s')) : Counting pid r 0 0 s' := by
  unfold SC20State.startRun at h
  cases hrow : s.runs r with
  | none => simp [hrow] at h
  | some row =>
    simp only [hrow] at h
    rcases row.start_cases t b now with hcase | ⟨-, ⟨x, -, hcase, -⟩ | ⟨x, -, hcase⟩ |
      ⟨x, -, hcase, -⟩ | ⟨x, hrunning, hterminal, hcase, -⟩⟩
    · rw [hcase] at h
      obtain ⟨s3, -, hs⟩ := Py.bind_eq_ok.1 h
      simp at hs
    · rw [hcase] at h; simp at h
    · rw [hcase] at h; simp at h
    · rw [hcase] at h
      obtain ⟨s3, -, hs⟩ := Py.bind_eq_ok.1 h
      simp at hs
    rw [hcase] at h
    obtain ⟨-, rfl⟩ := Prod.mk.inj (Except.ok.inj h)
    have hnone : s.executors r = none := by
      by_contra hne
      rcases (hk.executedRow hrow hne).2 with hst | hst
      · exact hrunning hst
      · rw [hterminal] at hst; cases hst
    have hempty : s.attemptsFor r = [] := by
      refine List.filter_eq_nil_iff.2 fun a ha heq => hk.attemptRuns a ha ?_
      rw [beq_iff_eq.1 heq]; exact hnone
    refine ⟨Function.update_self .., Tallied.of_attempts (s := s) ?_ rfl⟩
    exact ⟨by rw [SC20State.countFor, hempty]; rfl, by rw [SC20State.countFor, hempty]; rfl⟩

/-- **`execute_sc20`**: the second pass, whatever token the message carries. -/
theorem executeSc20_tallied (k : SC20Process) {s : SC20State} :
    tallyWp gateway pid k.body (fun _ _ => True) s := by
  refine wp_bind (wp_mono (Q := fun _ _ => True) ?_ ?_)
  · rintro (e | x) s' -
    · trivial
    · trivial
  refine wp_bind (tally_quiet (fun _ => trivial) ?_)
  intro s1 r s2 i hr hi hsem
  rcases sem_commit hsem with ⟨e, rfl, -⟩ | ⟨⟨run, execute⟩, rfl, hst⟩
  · trivial
  cases execute with
  | false => trivial
  | true =>
    refine wp_tryCatch (wp_mono (Q := fun _ _ => True) ?_ (runSc20_tallied ?_))
    · rintro (e | x) s' -
      · exact handleSc20_tallied e
      · trivial
    · exact started_counting hi hst

end Programs

section Invariant

variable {s s' : SC20State}

theorem SC20ExecutionResult.status_isTerminal (x : SC20ExecutionResult) :
    x.status.isTerminal = true := by
  unfold SC20ExecutionResult.status
  split <;> rfl

/-- The run of a result is closed. -/
theorem ResultKept.not_running {r : RunId} {run : SC20Run} {x : SC20ExecutionResult}
    (h : ResultKept s r run x) : run.run.status ≠ .running := by
  intro heq
  have hterminal := x.status_isTerminal
  rw [← h.status, heq] at hterminal
  cases hterminal

theorem ResultKept.of_attempts {r : RunId} {run run' : SC20Run} {x : SC20ExecutionResult}
    (h : ResultKept s r run x) (ha : s'.attemptsFor r = s.attemptsFor r)
    (hstatus : run'.run.status = run.run.status) : ResultKept s' r run' x :=
  ⟨h.tallied.of_attempts ha, by rw [ha]; exact h.settled, hstatus.trans h.status⟩

/-- A move that changes neither the runs nor the attempts. -/
theorem ResultsKept.of_eq (h : ResultsKept s) (hruns : s'.runs = s.runs)
    (ha : s'.attempts = s.attempts) : ResultsKept s' := by
  intro r run x hrun hx
  rw [hruns] at hrun
  refine (h r run x hrun hx).of_attempts ?_ rfl
  rw [SC20State.attemptsFor, ha, SC20State.attemptsFor]

/-- **A write of a row**: what its result says is right. -/
theorem ResultsKept.rewritten (h : ResultsKept s) {r : RunId} {run' : SC20Run}
    (hruns : s'.runs = Function.update s.runs r (some run')) (ha : s'.attempts = s.attempts)
    (hnew : ∀ x, run'.result = some x → ResultKept s r run' x) : ResultsKept s' := by
  have hfor : ∀ r, s'.attemptsFor r = s.attemptsFor r := by
    intro r
    rw [SC20State.attemptsFor, ha, SC20State.attemptsFor]
  intro r' run x hrun hx
  rw [hruns] at hrun
  by_cases heq : r' = r
  · subst heq
    rw [Function.update_self] at hrun
    obtain rfl := Option.some.inj hrun
    exact (hnew x hx).of_attempts (hfor r') rfl
  · rw [Function.update_of_ne heq] at hrun
    exact (h r' run x hrun hx).of_attempts (hfor r') rfl

/-- A step of the row of a closed run leaves its status. -/
theorem RowStep.closed {a b : AutomationRun} (h : RowStep a b) (ha : a.status.isTerminal = true) :
    b.status = a.status := by
  cases h with
  | idle status => exact status
  | dispatchFailed before => rw [before] at ha; cases ha
  | fenced before => rw [before] at ha; cases ha
  | quarantined before => rw [before] at ha; cases ha

/-- **A reservation**: its run is running, so it has no result yet. -/
theorem ResultsKept.prepared (h : ResultsKept s) {c : CommunicationId} {recipient : String}
    {r : RunId} {p : PreparedDelivery} {run : SC20Run} (hrun : s.runs r = some run)
    (hrunning : run.run.status = .running) (hprep : Prepares s c recipient r p s') :
    ResultsKept s' := by
  intro r' run' x hrun' hx
  rw [hprep.runs] at hrun'
  have hkept := h r' run' x hrun' hx
  have hne : r ≠ r' := by
    rintro rfl
    rw [hrun] at hrun'
    obtain rfl := Option.some.inj hrun'
    exact hkept.not_running hrunning
  refine hkept.of_attempts ?_ rfl
  rw [SC20State.attemptsFor, hprep.attempts, List.filter_append, SC20State.attemptsFor]
  simp [SC20State.newAttempt, hne]

/-- **The end of a send**: its run is running, and the attempts of the others stay. -/
theorem ResultsKept.finalized (h : ResultsKept s) {pid : ℕ} {p : PreparedDelivery}
    {d : DeliveryResult} {now : ℕ} {res : SC20ExecutionResult} (ht : TablesKept s)
    (hf : s.finalize p d now = .ok (res, s')) (hres : Reserved pid p s) : ResultsKept s' := by
  obtain ⟨a, f, ha, -, -, -, hattempts⟩ := finalize_attempts ht hf hres
  obtain ⟨run, b, hlock, -, -, -, hcases⟩ := SC20State.finalize_ok hf
  obtain ⟨hrun, hrunning⟩ := SC20State.lockRun_ok hlock
  have hruns : s'.runs = s.runs := by
    rcases hcases with ⟨-, rfl⟩ | ⟨-, f', g, rfl, -⟩ <;> rfl
  intro r' run' x hrun' hx
  rw [hruns] at hrun'
  have hkept := h r' run' x hrun' hx
  have hne : r' ≠ p.runId := by
    rintro rfl
    rw [hrun] at hrun'
    obtain rfl := Option.some.inj hrun'
    exact hkept.not_running hrunning
  refine hkept.of_attempts ?_ rfl
  rw [hattempts]
  refine (List.map_congr_left fun y hy => ?_).trans (List.map_id _)
  have hya : y.id ≠ a.id := by
    intro heq
    have hsame := ht.attempt_eq (mem_attemptsFor.1 hy).1 (mem_attemptsFor.1 ha).1 heq
    rw [hsame] at hy
    exact hne ((mem_attemptsFor.1 hy).2.symm.trans (mem_attemptsFor.1 ha).2)
  rw [if_neg hya]
  rfl

/-- **One move keeps the results.** -/
theorem SC20Change.resultsKept {who : Option (ℕ × SC20Label)} (hc : SC20Change s who s')
    (hk : SC20Kept False s) (hpre : ∀ pid l, who = some (pid, l) → sc20Pre False pid l s)
    (htally : ∀ pid l, who = some (pid, l) → finishTallied pid l s) (h : ResultsKept s) :
    ResultsKept s' := by
  cases hc with
  | same => exact h
  | certificates => exact h.of_eq rfl rfl
  | tick => exact h.of_eq rfl rfl
  | sent => exact h.of_eq rfl rfl
  | superseded _ hlog =>
    rcases SC20State.recordIgnored_ok hlog with rfl | rfl
    · exact h
    · exact h.of_eq rfl rfl
  | terminal _ _ _ _ hlog =>
    rcases SC20State.recordIgnored_ok hlog with rfl | rfl
    · exact h
    · exact h.of_eq rfl rfl
  | inserted trigger baseDate retry competence now =>
    exact h.rewritten rfl rfl fun x hx => by cases hx
  | requeued now hrun hfailed => exact h.rewritten rfl rfl fun x hx => by cases hx
  | row _ n hrun hstep hn =>
    refine h.rewritten rfl rfl fun x hx => ?_
    have hkept := h _ _ x hrun hx
    exact hkept.of_attempts rfl (hstep.closed (hkept.status ▸ x.status_isTerminal))
  | queued hrun hstep =>
    refine h.rewritten rfl rfl fun x hx => ?_
    have hterminal := x.status_isTerminal
    rw [← (h _ _ x hrun hx).status, hstep.before] at hterminal
    cases hterminal
  | @started _ r run run' t b now hrun hstart =>
    refine h.rewritten rfl rfl fun x hx => ?_
    -- a run that starts is not closed, so it has no result
    rcases run.start_cases t b now with hst | ⟨-, ⟨row, -, hst, -⟩ | ⟨row, -, hst⟩ | ⟨row, -, hst, -⟩ |
      ⟨row, -, hopen, hst, -⟩⟩
    · rw [hst] at hstart; cases hstart
    · rw [hst] at hstart; cases hstart
    · rw [hst] at hstart; cases hstart
    · rw [hst] at hstart; cases hstart
    rw [hst] at hstart
    obtain rfl := SC20Start.started.inj hstart
    have hterminal := x.status_isTerminal
    rw [← (h _ _ x hrun hx).status, hopen] at hterminal
    cases hterminal
  | preparedNew pid hp =>
    obtain ⟨run, new, hlock, -, -, -, -, hprep⟩ := SC20State.prepareNew_some hp
    obtain ⟨hrun, hrunning⟩ := SC20State.lockRun_ok hlock
    exact h.prepared hrun hrunning hprep
  | preparedRetry pid hp =>
    obtain ⟨run, old, new, hlock, -, -, -, -, -, -, hprep⟩ := SC20State.prepareRetry_some hp
    obtain ⟨hrun, hrunning⟩ := SC20State.lockRun_ok hlock
    exact h.prepared hrun hrunning hprep
  | finalized pid hf =>
    obtain ⟨hres, -⟩ := hpre pid _ rfl
    exact h.finalized hk.tables hf hres
  | @finished pid r t result policy now _ hf =>
    obtain ⟨hidle, -⟩ := hpre pid _ rfl
    have htallied := htally pid _ rfl
    unfold SC20State.finishRun at hf
    obtain ⟨run, -, hf⟩ := Py.bind_eq_ok.1 hf
    obtain rfl := Except.ok.inj hf
    refine h.rewritten rfl rfl fun x hx => ?_
    obtain rfl := Option.some.inj hx
    exact ⟨htallied, hidle.settled, rfl⟩
  | failed _ hf =>
    rcases SC20State.recordUnhandledFailure_ok hf with rfl | ⟨run, row, hlock, rfl, -⟩
    · exact h
    obtain ⟨hrun, hrunning⟩ := SC20State.lockRun_ok hlock
    exact h.rewritten rfl rfl fun x hx => absurd hrunning (h _ _ x hrun hx).not_running

end Invariant

section Runs

variable {ι : Type} {gateway : NotificationGateway ι}

/-- **The strengthened outline is sound.** -/
theorem sc20_tallied_sound (gateway : NotificationGateway ι) :
    ((sc20Outline gateway False).strengthen ResultsKept finishTallied).Sound (sc20System gateway) := by
  refine (sc20_sound gateway False).strengthen (fun pid k s => executeSc20_tallied k) ?_
  intro m s hknows hJ hA _
  cases m with
  | act pid l i =>
    have hc : SC20Change s _ (SC20State.sem gateway pid l i s).2 := SC20State.sem_change pid l i
    refine hc.resultsKept hknows.1 ?_ ?_ hJ
    · rintro _ _ ⟨⟩
      exact hknows.2 pid l i rfl
    · rintro _ _ ⟨⟩
      exact hA pid l i rfl
  | crash pid => exact hJ
  | env e =>
    refine (SC20State.event_change e).resultsKept hknows.1 ?_ ?_ hJ
    · rintro _ _ ⟨⟩
    · rintro _ _ ⟨⟩

/-- The attempts of a run with no pending one are the sent and the failed ones. -/
theorem length_attemptsFor {s : SC20State} {r : RunId}
    (hsettled : ∀ a ∈ s.attemptsFor r, a.status ≠ .pending) :
    (s.attemptsFor r).length = s.countFor r .sent + s.countFor r .failed := by
  unfold SC20State.countFor
  generalize s.attemptsFor r = as at hsettled
  induction as with
  | nil => rfl
  | cons a as ih =>
    have hrest := ih fun b hb => hsettled b (List.mem_cons_of_mem _ hb)
    have ha := hsettled a List.mem_cons_self
    simp only [List.length_cons, List.countP_cons, hrest]
    cases hst : a.status with
    | pending => exact absurd hst ha
    | sent => simp; omega
    | failed => simp; omega

/-- **The result of every run counts its attempts**, after any executions, redeliveries, crashes,
recoveries and edits: as many sent and failed attempts as it says and no other one, counters of a
scan that add up, and the status that follows from them. -/
theorem run_results (gateway : NotificationGateway ι)
    (certificates : CertificateId → Option DigitalCertificate) (xs : List (SC20Choice ι)) {r : RunId}
    {run : SC20Run} {x : SC20ExecutionResult}
    (hrun : (sc20After gateway certificates xs).runs r = some run) (hx : run.result = some x) :
    (sc20After gateway certificates xs).countFor r .sent = x.sent ∧
      (sc20After gateway certificates xs).countFor r .failed = x.failed ∧
      ((sc20After gateway certificates xs).attemptsFor r).length = x.sent + x.failed ∧
      (run.retryCommunicationId = none → x.selected = x.sent + x.failed + x.deduplicated) ∧
      run.run.status = if x.failed ≠ 0 then .succeededWithWarnings else .succeeded := by
  have hinit : ResultsKept (SC20State.initial certificates) := by
    intro r run x hrun
    cases hrun
  have hholds := Outline.Holds.run (sc20_tallied_sound gateway)
    (Outline.holds_idle (sc20System gateway) _ ⟨initial_kept False certificates, hinit⟩)
    (System.RunOk.of_forall (fun _ _ => False.elim) xs _)
  obtain ⟨hkept, hresults⟩ := hholds.1
  have h := hresults r run x hrun hx
  refine ⟨h.tallied.sent, h.tallied.failed, ?_, fun hretry => ?_, h.status⟩
  · exact (length_attemptsFor h.settled).trans (by rw [h.tallied.sent, h.tallied.failed])
  · exact hkept.results r run x hrun hretry hx

/-- A scan whose one message the server refuses: one failed attempt, and a warning. -/
theorem run_results_refused :
    ∃ run, (sc20After (djangoEmailGateway fun _ => "digest") oneCertificate
        (scanThenRetry ⟨false, some .smtpRecipientsRefused⟩)).runs 0 = some run ∧
      run.result = some { selected := 1, failed := 1 } ∧
      (sc20After (djangoEmailGateway fun _ => "digest") oneCertificate
        (scanThenRetry ⟨false, some .smtpRecipientsRefused⟩)).countFor 0 .failed = 1 ∧
      run.run.status = .succeededWithWarnings := by
  have h : ((sc20After (djangoEmailGateway fun _ => "digest") oneCertificate
      (scanThenRetry ⟨false, some .smtpRecipientsRefused⟩)).runs 0).bind (·.result) =
        some { selected := 1, failed := 1 } := by decide
  obtain ⟨run, hrun, hx⟩ := Option.bind_eq_some_iff.1 h
  obtain ⟨-, hfailed, -, -, hstatus⟩ := run_results _ _ _ hrun hx
  exact ⟨run, hrun, hx, hfailed, hstatus⟩

end Runs

end SheepContabil
