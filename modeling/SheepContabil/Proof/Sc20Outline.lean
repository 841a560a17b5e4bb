import SheepContabil.Proof.Sc20Tables

/-!
# SC-20: what an execution knows

* `SC20Kept`: the invariant of the tables, the runs and the sends.
* `sc20Pre`: what an execution knows when it acts. It prepares and finishes only with no
  attempt of its run pending, and sends an attempt it has reserved and not sent.
* `SC20Change.kept`, `SC20Change.rely`: one move keeps the invariant and what the other
  executions know.

`Honest` is the condition on the provider that the results about accepted messages
need: the result of an accepted message is a delivery. The other results hold without it.
-/

namespace SheepContabil

open Conc

namespace SC20State

/-- `run.communication_attempts`. -/
def attemptsFor (s : SC20State) (r : RunId) : List CommunicationAttempt :=
  s.attempts.filter fun a => a.run == r

/-- The sends an execution of the run made. -/
def sendsFor (s : SC20State) (r : RunId) : List SendRecord := s.sends.filter fun x => x.run == r

/-- `parameters["retry_communication_id"]`. -/
def retryOf (s : SC20State) (r : RunId) : Option (Option CommunicationId) :=
  (s.runs r).map (·.retryCommunicationId)

end SC20State

/-- The counters of a scan add up. -/
def SC20ExecutionResult.Balanced (x : SC20ExecutionResult) : Prop :=
  x.selected = x.sent + x.failed + x.deduplicated

/-- **The invariant.** `Honest` is the condition under which the last two fields hold. -/
structure SC20Kept (Honest : Prop) (s : SC20State) : Prop where
  tables : TablesKept s
  fresh : ∀ r, s.runCount ≤ r → s.runs r = none
  executed : ∀ r, s.executors r ≠ none → ∃ run, s.runs r = some run ∧
    run.run.startedAt.isSome = true ∧ (run.run.status = .running ∨ run.run.status.isTerminal = true)
  attemptRuns : ∀ a ∈ s.attempts, s.executors a.run ≠ none
  pendingRun : ∀ a ∈ s.attempts, a.status = .pending → ∃ run, s.runs a.run = some run ∧
    (run.run.status = .running ∨ run.run.status = .partiallyFailed)
  results : ∀ r run x, s.runs r = some run → run.retryCommunicationId = none →
    run.result = some x → x.Balanced
  sendsOwned : ∀ x ∈ s.sends, ∃ a ∈ s.attempts, a.id = x.attempt ∧
    a.communication = x.communication ∧ a.run = x.run
  sendsOnce : (s.sends.map (·.attempt)).Nodup
  accepted : Honest → ∀ x ∈ s.sends, x.accepted = true → ∀ a ∈ s.attempts, a.id = x.attempt →
    a.status ≠ .failed ∧ (x.raised = true → a.status = .pending)
  acceptedLast : Honest → s.sends.Pairwise fun x y =>
    x.accepted = true → y.communication ≠ x.communication

/-- The execution of the run is this process's, and no attempt of the run is pending. -/
structure Idle (pid : ℕ) (r : RunId) (s : SC20State) : Prop where
  executor : s.executors r = some pid
  settled : ∀ a ∈ s.attemptsFor r, a.status ≠ .pending

/-- The process has reserved this attempt, the only pending one of its run. -/
structure Reserved (pid : ℕ) (p : PreparedDelivery) (s : SC20State) : Prop where
  executor : s.executors p.runId = some pid
  attempt : ∃ a ∈ s.attemptsFor p.runId, a.id = p.attemptId ∧
    a.communication = p.communicationId ∧ a.status = .pending
  only : ∀ a ∈ s.attemptsFor p.runId, a.status = .pending → a.id = p.attemptId

/-- What an execution knows when it performs an action. -/
def sc20Pre (Honest : Prop) (pid : ℕ) : SC20Label → SC20State → Prop
  | .prepareNew _ r _ _, s => Idle pid r s
  | .prepareRetry _ r _, s => Idle pid r s
  | .send p, s => Reserved pid p s ∧ ∀ x ∈ s.sendsFor p.runId, x.attempt ≠ p.attemptId
  | .finalize p d, s => Reserved pid p s ∧ (Honest → ∀ x ∈ s.sendsFor p.runId,
      x.attempt = p.attemptId → x.accepted = true → d.delivered = true ∧ x.raised = false)
  | .finishRun r _ result _, s => Idle pid r s ∧ (s.retryOf r = some none → result.Balanced)
  | _, _ => True

/-- What an execution relies on: nobody else touches the attempts and the sends of its run. -/
def sc20Rely (pid : ℕ) (s s' : SC20State) : Prop :=
  ∀ r, s.executors r = some pid → s'.executors r = some pid ∧ s'.attemptsFor r = s.attemptsFor r ∧
    s'.sendsFor r = s.sendsFor r ∧ s'.retryOf r = s.retryOf r

theorem sc20Rely.refl (pid : ℕ) (s : SC20State) : sc20Rely pid s s :=
  fun _ h => ⟨h, rfl, rfl, rfl⟩

theorem sc20Rely.trans {pid : ℕ} {a b c : SC20State} (h : sc20Rely pid a b) (h' : sc20Rely pid b c) :
    sc20Rely pid a c := by
  intro r hr
  obtain ⟨he, ha, hs, ht⟩ := h r hr
  obtain ⟨he', ha', hs', ht'⟩ := h' r he
  exact ⟨he', ha'.trans ha, hs'.trans hs, ht'.trans ht⟩

/-- The condition on a send: the result of an accepted message is a delivery. -/
def HonestSend {ι : Type} (gateway : NotificationGateway ι) (m : NotificationMessage) (i : ι) : Prop :=
  ∀ r, (gateway m i).result = .ok r → (gateway m i).accepted = true →
    r.delivered = true ∧ (gateway m i).raised = false

section Rows

variable {Honest : Prop} {s s' : SC20State}

theorem mem_attemptsFor {a : CommunicationAttempt} {r : RunId} :
    a ∈ s.attemptsFor r ↔ a ∈ s.attempts ∧ a.run = r := by
  simp [SC20State.attemptsFor, List.mem_filter]

theorem mem_sendsFor {x : SendRecord} {r : RunId} : x ∈ s.sendsFor r ↔ x ∈ s.sends ∧ x.run = r := by
  simp [SC20State.sendsFor, List.mem_filter]

theorem attemptsOf_exists (h : TablesKept s) {a : CommunicationAttempt} (ha : a ∈ s.attempts) :
    ∃ c ∈ s.communications, c.id = a.communication := by
  have hlt := h.owned a ha
  have hmem : a.communication ∈ s.communications.map (·.id) := by
    rw [h.communicationIds]; exact List.mem_range.2 hlt
  obtain ⟨c, hc, hid⟩ := List.mem_map.1 hmem
  exact ⟨c, hc, hid⟩

/-- Two attempts of a communication that have not failed are the same one. -/
theorem TablesKept.open_unique (h : TablesKept s) {a b : CommunicationAttempt} (ha : a ∈ s.attempts)
    (hb : b ∈ s.attempts) (hab : a.communication = b.communication) (hna : a.status ≠ .failed)
    (hnb : b.status ≠ .failed) : a = b := by
  obtain ⟨c, hc, hid⟩ := attemptsOf_exists h ha
  have hnum := h.numbered c hc
  have hina : a ∈ s.attemptsOf c.id := by
    rw [SC20State.attemptsOf, List.mem_filter]; exact ⟨ha, by simp [hid]⟩
  have hinb : b ∈ s.attemptsOf c.id := by
    rw [SC20State.attemptsOf, List.mem_filter]; exact ⟨hb, by simp [hid, hab]⟩
  obtain ⟨before, has, -, -⟩ := hnum.eq_last hina hna
  obtain ⟨before', has', -, -⟩ := hnum.eq_last hinb hnb
  have heq := has.symm.trans has'
  exact (List.append_inj' heq rfl).2 |> List.singleton_inj.1

theorem SC20Kept.lt_runCount (h : SC20Kept Honest s) {r : RunId} {run : SC20Run}
    (hrun : s.runs r = some run) : r < s.runCount := by
  by_contra hge
  rw [h.fresh r (Nat.le_of_not_lt hge)] at hrun
  cases hrun

/-- What only the rows of the runs, and the tokens, are changed by. -/
theorem SC20Kept.of_runs (h : SC20Kept Honest s) {r : RunId} {run run' : SC20Run}
    (hrun : s.runs r = some run) (hruns : s'.runs = Function.update s.runs r (some run'))
    (hcount : s'.runCount = s.runCount) (hexecutors : s'.executors = s.executors)
    (hattempts : s'.attempts = s.attempts) (hcommunications : s'.communications = s.communications)
    (hsends : s'.sends = s.sends)
    (hexecuted : s.executors r ≠ none → run'.run.startedAt.isSome = true ∧
      (run'.run.status = .running ∨ run'.run.status.isTerminal = true))
    (hpending : (∃ a ∈ s.attempts, a.run = r ∧ a.status = .pending) →
      run'.run.status = .running ∨ run'.run.status = .partiallyFailed)
    (hresult : run'.retryCommunicationId = none → ∀ x, run'.result = some x → x.Balanced) :
    SC20Kept Honest s' := by
  have hlt := h.lt_runCount hrun
  refine ⟨h.tables.of_eq hattempts hcommunications, ?_, ?_, ?_, ?_, ?_, ?_, ?_, ?_, ?_⟩
  · intro r' hr'
    have hle : s.runCount ≤ r' := hcount ▸ hr'
    rw [hruns, Function.update_of_ne (Nat.ne_of_gt (Nat.lt_of_lt_of_le hlt hle))]
    exact h.fresh r' hle
  · intro r' hr'
    rw [hexecutors] at hr'
    by_cases heq : r' = r
    · subst heq
      exact ⟨run', by rw [hruns, Function.update_self], hexecuted hr'⟩
    · rw [hruns, Function.update_of_ne heq]
      exact h.executed r' hr'
  · intro a ha
    rw [hexecutors]; exact h.attemptRuns a (hattempts ▸ ha)
  · intro a ha hst
    rw [hattempts] at ha
    by_cases heq : a.run = r
    · exact ⟨run', by rw [hruns, heq, Function.update_self], hpending ⟨a, ha, heq, hst⟩⟩
    · rw [hruns, Function.update_of_ne heq]
      exact h.pendingRun a ha hst
  · intro r' run'' x hr' hretry hx
    rw [hruns] at hr'
    by_cases heq : r' = r
    · subst heq
      rw [Function.update_self] at hr'
      obtain rfl := Option.some.inj hr'
      exact hresult hretry x hx
    · rw [Function.update_of_ne heq] at hr'
      exact h.results r' run'' x hr' hretry hx
  · rw [hsends, hattempts]; exact h.sendsOwned
  · rw [hsends]; exact h.sendsOnce
  · intro hc; rw [hsends, hattempts]; exact h.accepted hc
  · intro hc; rw [hsends]; exact h.acceptedLast hc

/-- What changes neither the runs nor the tables. -/
theorem SC20Kept.of_eq (h : SC20Kept Honest s) (hruns : s'.runs = s.runs)
    (hcount : s'.runCount = s.runCount) (hexecutors : s'.executors = s.executors)
    (hattempts : s'.attempts = s.attempts) (hcommunications : s'.communications = s.communications)
    (hsends : s'.sends = s.sends) : SC20Kept Honest s' := by
  obtain ⟨h1, h2, h3, h4, h5, h6, h7, h8, h9, h10⟩ := h
  refine ⟨h1.of_eq hattempts hcommunications, ?_, ?_, ?_, ?_, ?_, ?_, ?_, ?_, ?_⟩ <;>
    simp only [hruns, hcount, hexecutors, hattempts, hsends] <;> assumption

theorem sc20Rely.of_eq {pid : ℕ} (hexecutors : s'.executors = s.executors)
    (hattempts : s'.attempts = s.attempts) (hsends : s'.sends = s.sends)
    (hretry : ∀ r, s.executors r ≠ none → s'.retryOf r = s.retryOf r) : sc20Rely pid s s' := by
  intro r hr
  refine ⟨by rw [hexecutors]; exact hr, ?_, ?_, hretry r (by rw [hr]; simp)⟩
  · simp only [SC20State.attemptsFor, hattempts]
  · simp only [SC20State.sendsFor, hsends]

theorem retryOf_update {r : RunId} {run run' : SC20Run} (hrun : s.runs r = some run)
    (hruns : s'.runs = Function.update s.runs r (some run'))
    (hretry : run'.retryCommunicationId = run.retryCommunicationId) (r' : RunId) :
    s'.retryOf r' = s.retryOf r' := by
  unfold SC20State.retryOf
  rw [hruns]
  by_cases heq : r' = r
  · subst heq
    rw [Function.update_self, hrun, Option.map_some, Option.map_some, hretry]
  · rw [Function.update_of_ne heq]

/-- The steps of a row keep a started run started, and a pending attempt's run undecided. -/
theorem RowStep.executed {a b : AutomationRun} (h : RowStep a b) (hs : a.startedAt.isSome = true)
    (ha : a.status = .running ∨ a.status.isTerminal = true) :
    b.startedAt.isSome = true ∧ (b.status = .running ∨ b.status.isTerminal = true) := by
  cases h with
  | idle status startedAt => rw [startedAt, status]; exact ⟨hs, ha⟩
  | dispatchFailed before => rw [before] at ha; simp [RunStatus.isTerminal] at ha
  | fenced before => rw [before] at ha; simp [RunStatus.isTerminal] at ha
  | quarantined before after startedAt => rw [startedAt, after]; exact ⟨hs, .inr rfl⟩

theorem RowStep.undecided {a b : AutomationRun} (h : RowStep a b)
    (ha : a.status = .running ∨ a.status = .partiallyFailed) :
    b.status = .running ∨ b.status = .partiallyFailed := by
  cases h with
  | idle status => rw [status]; exact ha
  | dispatchFailed before => rw [before] at ha; simp at ha
  | fenced before => rw [before] at ha; simp at ha
  | quarantined before after => exact .inr after

/-- The run of a pending attempt, as its row shows it. -/
theorem SC20Kept.undecided (h : SC20Kept Honest s) {r : RunId} {run : SC20Run}
    (hrun : s.runs r = some run) (hp : ∃ a ∈ s.attempts, a.run = r ∧ a.status = .pending) :
    run.run.status = .running ∨ run.run.status = .partiallyFailed := by
  obtain ⟨a, ha, rfl, hst⟩ := hp
  obtain ⟨run', hrun', hstatus⟩ := h.pendingRun a ha hst
  rw [hrun] at hrun'
  obtain rfl := Option.some.inj hrun'
  exact hstatus

theorem SC20Kept.executedRow (h : SC20Kept Honest s) {r : RunId} {run : SC20Run}
    (hrun : s.runs r = some run) (he : s.executors r ≠ none) :
    run.run.startedAt.isSome = true ∧
      (run.run.status = .running ∨ run.run.status.isTerminal = true) := by
  obtain ⟨run', hrun', hs⟩ := h.executed r he
  rw [hrun] at hrun'
  obtain rfl := Option.some.inj hrun'
  exact hs

/-- What a reservation leaves: the process that made it knows its attempt. -/
theorem SC20Kept.prepared (h : SC20Kept Honest s) (ht : TablesKept s') {pid : ℕ} {c : CommunicationId}
    {recipient : String} {r : RunId} {p : PreparedDelivery} {run : SC20Run}
    (hrun : s.runs r = some run) (hrunning : run.run.status = .running) (hidle : Idle pid r s)
    (hp : Prepares s c recipient r p s') :
    SC20Kept Honest s' ∧ (∀ q, q ≠ pid → sc20Rely q s s') ∧ Reserved pid p s' ∧
      (∀ x ∈ s'.sendsFor p.runId, x.attempt ≠ p.attemptId) ∧ s'.retryOf r = s.retryOf r := by
  -- the new attempt takes the next number, which no attempt and no send has
  have hold : ∀ a ∈ s.attempts, a.id ≠ s.attempts.length :=
    fun a ha => Nat.ne_of_lt (h.tables.id_lt ha)
  have hsent : ∀ x ∈ s.sends, x.attempt ≠ s.attempts.length := by
    intro x hx
    obtain ⟨a, ha, hid, -⟩ := h.sendsOwned x hx
    rw [← hid]; exact hold a ha
  have hmem : ∀ a, a ∈ s'.attempts ↔ a ∈ s.attempts ∨ a = s.newAttempt c recipient r := by
    intro a; rw [hp.attempts, List.mem_append, List.mem_singleton]
  refine ⟨⟨ht, ?_, ?_, ?_, ?_, ?_, ?_, ?_, ?_, ?_⟩, ?_, ?_, ?_, ?_⟩
  · rw [hp.runs, hp.runCount]; exact h.fresh
  · rw [hp.runs, hp.executors]; exact h.executed
  · intro a ha
    rw [hp.executors]
    rcases (hmem a).1 ha with ha | rfl
    · exact h.attemptRuns a ha
    · show s.executors r ≠ none
      rw [hidle.executor]; simp
  · intro a ha hst
    rw [hp.runs]
    rcases (hmem a).1 ha with ha | rfl
    · exact h.pendingRun a ha hst
    · exact ⟨run, hrun, .inl hrunning⟩
  · rw [hp.runs]; exact h.results
  · intro x hx
    rw [hp.sends] at hx
    obtain ⟨a, ha, hrest⟩ := h.sendsOwned x hx
    exact ⟨a, (hmem a).2 (.inl ha), hrest⟩
  · rw [hp.sends]; exact h.sendsOnce
  · intro hc x hx hacc a ha hid
    rw [hp.sends] at hx
    rcases (hmem a).1 ha with ha | rfl
    · exact h.accepted hc x hx hacc a ha hid
    · exact absurd hid.symm (hsent x hx)
  · rw [hp.sends]; exact h.acceptedLast
  · -- another execution is of another run, whose attempts stay
    intro q hq r' hr'
    have hne : r ≠ r' := by
      rintro rfl
      rw [hidle.executor] at hr'
      exact hq (Option.some.inj hr').symm
    refine ⟨by rw [hp.executors]; exact hr', ?_, ?_, ?_⟩
    · rw [SC20State.attemptsFor, hp.attempts, List.filter_append, SC20State.attemptsFor]
      simp [SC20State.newAttempt, hne]
    · simp only [SC20State.sendsFor, hp.sends]
    · simp only [SC20State.retryOf, hp.runs]
  · refine ⟨?_, ⟨s.newAttempt c recipient r, ?_, hp.attempt.symm, hp.communication.symm, rfl⟩, ?_⟩
    · rw [hp.executors, hp.run]; exact hidle.executor
    · rw [mem_attemptsFor, hp.run]; exact ⟨(hmem _).2 (.inr rfl), rfl⟩
    · -- the process was idle, so the new attempt is the only pending one
      intro a ha hst
      rw [mem_attemptsFor, hp.run] at ha
      rcases (hmem a).1 ha.1 with hin | rfl
      · exact absurd hst (hidle.settled a (mem_attemptsFor.2 ⟨hin, ha.2⟩))
      · exact hp.attempt.symm
  · intro x hx
    rw [mem_sendsFor, hp.sends] at hx
    rw [hp.attempt]; exact hsent x hx.1
  · simp only [SC20State.retryOf, hp.runs]

/-- **A send**: the attempt was reserved and not sent before. -/
theorem SC20Kept.sent (h : SC20Kept Honest s) {pid : ℕ} {p : PreparedDelivery}
    (hres : Reserved pid p s) (hunsent : ∀ x ∈ s.sendsFor p.runId, x.attempt ≠ p.attemptId)
    (accepted raised : Bool) (hs' : s' = { s with
      sends := s.sends ++ [⟨p.attemptId, p.communicationId, p.runId, accepted, raised⟩] }) :
    SC20Kept Honest s' ∧ (∀ q, q ≠ pid → sc20Rely q s s') ∧ Reserved pid p s' ∧
      (∀ x ∈ s'.sendsFor p.runId, x.attempt = p.attemptId →
        x.accepted = accepted ∧ x.raised = raised) ∧
      ∀ r, s'.retryOf r = s.retryOf r := by
  obtain ⟨a, ha, haid, hacomm, hast⟩ := hres.attempt
  obtain ⟨hamem, harun⟩ := mem_attemptsFor.1 ha
  -- a send of this attempt would be one of its run
  have hnot : ∀ x ∈ s.sends, x.attempt ≠ p.attemptId := by
    intro x hx heq
    obtain ⟨b, hb, hbid, -, hbrun⟩ := h.sendsOwned x hx
    have hba := h.tables.attempt_eq hb hamem (hbid.trans (heq.trans haid.symm))
    refine hunsent x (mem_sendsFor.2 ⟨hx, ?_⟩) heq
    rw [← hbrun, hba, harun]
  subst hs'
  have hmem : ∀ x, x ∈ s.sends ++ [⟨p.attemptId, p.communicationId, p.runId, accepted, raised⟩] ↔
      x ∈ s.sends ∨ x = ⟨p.attemptId, p.communicationId, p.runId, accepted, raised⟩ := by
    intro x; rw [List.mem_append, List.mem_singleton]
  refine ⟨⟨h.tables.of_eq rfl rfl, h.fresh, h.executed, h.attemptRuns, h.pendingRun, h.results,
    ?_, ?_, ?_, ?_⟩, ?_, ⟨hres.executor, ⟨a, ha, haid, hacomm, hast⟩, hres.only⟩, ?_, fun _ => rfl⟩
  · intro x hx
    rcases (hmem x).1 hx with hx | rfl
    · exact h.sendsOwned x hx
    · exact ⟨a, hamem, haid, hacomm, harun⟩
  · show (List.map (·.attempt) (s.sends ++ [_])).Nodup
    rw [List.map_append, List.nodup_append]
    refine ⟨h.sendsOnce, by simp, ?_⟩
    intro i hi j hj heq
    obtain ⟨x, hx, rfl⟩ := List.mem_map.1 hi
    simp only [List.map_cons, List.map_nil, List.mem_singleton] at hj
    exact hnot x hx (heq.trans hj)
  · intro hc x hx hacc b hb hid
    rcases (hmem x).1 hx with hx | rfl
    · exact h.accepted hc x hx hacc b hb hid
    · rw [h.tables.attempt_eq hb hamem (hid.trans haid.symm), hast]; simp
  · intro hc
    show (s.sends ++ [_]).Pairwise _
    rw [List.pairwise_append]
    refine ⟨h.acceptedLast hc, List.pairwise_singleton _ _, ?_⟩
    intro x hx y hy hacc
    rw [List.mem_singleton.1 hy]
    intro heq
    -- an accepted attempt has not failed, and neither has this one: they are the same
    obtain ⟨b, hb, hbid, hbcomm, -⟩ := h.sendsOwned x hx
    have hbopen := (h.accepted hc x hx hacc b hb hbid).1
    have hab := h.tables.open_unique hb hamem (by rw [hbcomm, hacomm]; exact heq.symm) hbopen
      (by rw [hast]; simp)
    exact hnot x hx (by rw [← hbid, hab, haid])
  · intro q hq r hr
    have hne : p.runId ≠ r := by
      rintro rfl
      rw [hres.executor] at hr
      exact hq (Option.some.inj hr).symm
    refine ⟨hr, rfl, ?_, rfl⟩
    show (s.sends ++ [_]).filter _ = s.sends.filter _
    rw [List.filter_append]
    simp [hne]
  · intro x hx heq
    rw [mem_sendsFor] at hx
    rcases (hmem x).1 hx.1 with hx | rfl
    · exact absurd heq (hnot x hx)
    · exact ⟨rfl, rfl⟩

/-- **The end of a send**: the attempt of the process is settled. -/
theorem SC20Kept.finalized (h : SC20Kept Honest s) {pid : ℕ} {p : PreparedDelivery}
    {d : DeliveryResult} {now : ℕ} {res : SC20ExecutionResult}
    (hf : s.finalize p d now = .ok (res, s')) (hres : Reserved pid p s)
    (hhonest : Honest → ∀ x ∈ s.sendsFor p.runId, x.attempt = p.attemptId → x.accepted = true →
      d.delivered = true ∧ x.raised = false) :
    SC20Kept Honest s' ∧ (∀ q, q ≠ pid → sc20Rely q s s') ∧ Idle pid p.runId s' ∧
      ∀ r, s'.retryOf r = s.retryOf r := by
  have ht := h.tables.finalize hf
  obtain ⟨run, a, -, ha, harun, hacomm, hcases⟩ := SC20State.finalize_ok hf
  obtain ⟨hamem, haid⟩ := attempt?_some ha
  obtain ⟨b, hb, hbid, -, hbst⟩ := hres.attempt
  have hab := h.tables.attempt_eq hamem (mem_attemptsFor.1 hb).1 (haid.trans hbid.symm)
  rcases hcases with ⟨hsettled, -⟩ | ⟨hpending, f, g, hs', hfx, -⟩
  · exact absurd hbst (hab ▸ hsettled)
  have hattempts : s'.attempts = s.attempts.map fun x => if x.id = p.attemptId then f x else x := by
    rw [hs']; rfl
  have hruns : s'.runs = s.runs := by rw [hs']; rfl
  have hexecutors : s'.executors = s.executors := by rw [hs']; rfl
  have hsends : s'.sends = s.sends := by rw [hs']; rfl
  have hcount : s'.runCount = s.runCount := by rw [hs']; rfl
  -- an attempt after the update: unchanged, or the one of the process, settled
  have hmem : ∀ x ∈ s'.attempts, ∃ y ∈ s.attempts, x.id = y.id ∧ x.run = y.run ∧
      x.communication = y.communication ∧
      (x.status = y.status ∧ y.id ≠ p.attemptId ∨
        x.status = SC20State.answered d ∧ y.id = p.attemptId) := by
    intro x hx
    rw [hattempts] at hx
    obtain ⟨y, hy, rfl⟩ := List.mem_map.1 hx
    refine ⟨y, hy, ?_⟩
    split
    · next heq => exact ⟨(hfx y).1, (hfx y).2.2.1, (hfx y).2.1, .inr ⟨(hfx y).2.2.2.2, heq⟩⟩
    · next hne => exact ⟨rfl, rfl, rfl, .inl ⟨rfl, hne⟩⟩
  have hanswered : SC20State.answered d ≠ .pending := by
    unfold SC20State.answered; split <;> simp
  refine ⟨⟨ht, ?_, ?_, ?_, ?_, ?_, ?_, ?_, ?_, ?_⟩, ?_, ⟨?_, ?_⟩, ?_⟩
  · rw [hruns, hcount]; exact h.fresh
  · rw [hruns, hexecutors]; exact h.executed
  · intro x hx
    obtain ⟨y, hy, -, hyrun, -⟩ := hmem x hx
    rw [hexecutors, hyrun]; exact h.attemptRuns y hy
  · intro x hx hst
    obtain ⟨y, hy, -, hyrun, -, ⟨hyst, -⟩ | ⟨hyst, -⟩⟩ := hmem x hx
    · rw [hruns, hyrun]; exact h.pendingRun y hy (hyst ▸ hst)
    · exact absurd (hyst.symm.trans hst) hanswered
  · rw [hruns]; exact h.results
  · intro x hx
    rw [hsends] at hx
    obtain ⟨y, hy, hyid, hycomm, hyrun⟩ := h.sendsOwned x hx
    refine ⟨if y.id = p.attemptId then f y else y, ?_, ?_⟩
    · rw [hattempts]; exact List.mem_map_of_mem hy
    · split
      · exact ⟨(hfx y).1.trans hyid, (hfx y).2.1.trans hycomm, (hfx y).2.2.1.trans hyrun⟩
      · exact ⟨hyid, hycomm, hyrun⟩
  · rw [hsends]; exact h.sendsOnce
  · intro hc x hx hacc y hy hid
    rw [hsends] at hx
    obtain ⟨z, hz, hzid, -, -, ⟨hzst, -⟩ | ⟨hzst, hzp⟩⟩ := hmem y hy
    · rw [hzst]; exact h.accepted hc x hx hacc z hz (hzid.symm.trans hid)
    · -- the attempt of the process: what was accepted is delivered
      have hattempt : x.attempt = p.attemptId := by rw [← hid, hzid, hzp]
      obtain ⟨w, hw, hwid, -, hwrun⟩ := h.sendsOwned x hx
      have hwa := h.tables.attempt_eq hw hamem (hwid.trans (hattempt.trans haid.symm))
      have hxrun : x ∈ s.sendsFor p.runId :=
        mem_sendsFor.2 ⟨hx, by rw [← hwrun, hwa]; exact harun⟩
      obtain ⟨hdelivered, hraised⟩ := hhonest hc x hxrun hattempt hacc
      refine ⟨by rw [hzst]; simp [SC20State.answered, hdelivered], ?_⟩
      rw [hraised]
      intro hr; cases hr
  · rw [hsends]; exact h.acceptedLast
  · intro q hq r hr
    have hne : p.runId ≠ r := by
      rintro rfl
      rw [hres.executor] at hr
      exact hq (Option.some.inj hr).symm
    refine ⟨by rw [hexecutors]; exact hr, ?_, ?_, ?_⟩
    · rw [SC20State.attemptsFor, SC20State.attemptsFor, hattempts, List.filter_map]
      have hfilter : List.filter ((fun x => x.run == r) ∘ fun x =>
          if x.id = p.attemptId then f x else x) s.attempts =
          s.attempts.filter (fun x => x.run == r) := by
        refine List.filter_congr ?_
        intro x _
        simp only [Function.comp_apply]
        split
        · rw [(hfx x).2.2.1]
        · rfl
      rw [hfilter]
      conv_rhs => rw [← List.map_id (s.attempts.filter fun x => x.run == r)]
      refine List.map_congr_left ?_
      intro x hx
      obtain ⟨hxmem, hxrun⟩ := mem_attemptsFor.1 hx
      refine if_neg ?_
      intro hxid
      have hxa := h.tables.attempt_eq hxmem hamem (hxid.trans haid.symm)
      exact hne (by rw [← harun, ← hxa, hxrun])
    · simp only [SC20State.sendsFor, hsends]
    · simp only [SC20State.retryOf, hruns]
  · rw [hexecutors]; exact hres.executor
  · intro x hx hst
    obtain ⟨hxmem, hxrun⟩ := mem_attemptsFor.1 hx
    obtain ⟨y, hy, -, hyrun, -, ⟨hyst, hyne⟩ | ⟨hyst, -⟩⟩ := hmem x hxmem
    · exact hyne (hres.only y (mem_attemptsFor.2 ⟨hy, hyrun.symm.trans hxrun⟩) (hyst ▸ hst))
    · exact absurd (hyst.symm.trans hst) hanswered
  · intro r; simp only [SC20State.retryOf, hruns]

/-- **A start**: the run had no execution, so no attempt and no send. -/
theorem SC20Kept.started (h : SC20Kept Honest s) {pid : ℕ} {r : RunId} {run run' : SC20Run}
    {t : SuppliedTaskId} {b : Bool} {now : ℕ} (hrun : s.runs r = some run)
    (hstart : run.start t b now = .started run') (hs' : s' = { s.setRun r run' with
      executors := Function.update s.executors r (some pid) }) :
    SC20Kept Honest s' ∧ (∀ q, q ≠ pid → sc20Rely q s s') ∧ Idle pid r s' ∧
      s'.retryOf r = some run'.retryCommunicationId := by
  rcases run.start_cases t b now with hst | ⟨-, ⟨row, -, hst, -⟩ | ⟨row, -, hst⟩ | ⟨row, -, hst, -⟩ |
    ⟨row, hrunning, hterminal, hst, hstatus, hstarted, -, -⟩⟩
  · rw [hst] at hstart; cases hstart
  · rw [hst] at hstart; cases hstart
  · rw [hst] at hstart; cases hstart
  · rw [hst] at hstart; cases hstart
  rw [hst] at hstart
  obtain rfl := SC20Start.started.inj hstart
  -- a row that can start was never started, so nothing of the run is there yet
  have hnone : s.executors r = none := by
    by_contra hne
    rcases (h.executedRow hrun hne).2 with hst' | hst'
    · exact hrunning hst'
    · rw [hterminal] at hst'; cases hst'
  have hlt := h.lt_runCount hrun
  have hother : ∀ a ∈ s.attempts, a.run ≠ r := by
    rintro a ha rfl
    exact h.attemptRuns a ha hnone
  subst hs'
  refine ⟨⟨h.tables.of_eq rfl rfl, ?_, ?_, ?_, ?_, ?_, h.sendsOwned, h.sendsOnce, h.accepted,
    h.acceptedLast⟩, ?_, ⟨Function.update_self .., ?_⟩, ?_⟩
  · intro r' hr'
    have hle : s.runCount ≤ r' := hr'
    show Function.update s.runs r _ r' = none
    rw [Function.update_of_ne (Nat.ne_of_gt (Nat.lt_of_lt_of_le hlt hle))]
    exact h.fresh r' hle
  · intro r' hr'
    show ∃ x, Function.update s.runs r _ r' = some x ∧ _
    by_cases heq : r' = r
    · subst heq
      exact ⟨_, Function.update_self .., by simp [hstarted], .inl hstatus⟩
    · have hr'' : s.executors r' ≠ none := by
        change Function.update s.executors r _ r' ≠ none at hr'
        rwa [Function.update_of_ne heq] at hr'
      rw [Function.update_of_ne heq]
      exact h.executed r' hr''
  · intro a ha
    show Function.update s.executors r _ a.run ≠ none
    rw [Function.update_of_ne (hother a ha)]
    exact h.attemptRuns a ha
  · intro a ha hst'
    show ∃ x, Function.update s.runs r _ a.run = some x ∧ _
    rw [Function.update_of_ne (hother a ha)]
    exact h.pendingRun a ha hst'
  · intro r' run'' x hr' hretry hx
    change Function.update s.runs r _ r' = _ at hr'
    by_cases heq : r' = r
    · subst heq
      rw [Function.update_self] at hr'
      obtain rfl := Option.some.inj hr'
      exact h.results r' run x hrun hretry hx
    · rw [Function.update_of_ne heq] at hr'
      exact h.results r' run'' x hr' hretry hx
  · intro q hq r' hr'
    have hne : r' ≠ r := by rintro rfl; rw [hnone] at hr'; cases hr'
    refine ⟨?_, rfl, rfl, ?_⟩
    · show Function.update s.executors r _ r' = some q
      rw [Function.update_of_ne hne]; exact hr'
    · show (Function.update s.runs r _ r').map _ = (s.runs r').map _
      rw [Function.update_of_ne hne]
  · intro a ha
    obtain ⟨ha, har⟩ := mem_attemptsFor.1 ha
    exact absurd har (hother a ha)
  · show (Function.update s.runs r _ r).map _ = _
    rw [Function.update_self]; rfl

/-- A run that is not there has no execution. -/
theorem SC20Kept.unexecuted (h : SC20Kept Honest s) {r : RunId} (hnone : s.runs r = none) :
    s.executors r = none := by
  by_contra hne
  obtain ⟨run, hrun, -⟩ := h.executed r hne
  rw [hnone] at hrun
  cases hrun

/-- **A new run**: no execution, no attempt and no send is its. -/
theorem SC20Kept.inserted (h : SC20Kept Honest s) {others : ℕ → Prop} {run : SC20Run}
    (hresult : run.result = none) :
    SC20Kept Honest (s.insertRun run) ∧ ∀ q, others q → sc20Rely q s (s.insertRun run) := by
  have hnone : s.executors s.runCount = none := h.unexecuted (h.fresh _ (Nat.le_refl _))
  refine ⟨⟨h.tables.of_eq rfl rfl, ?_, ?_, h.attemptRuns, ?_, ?_, h.sendsOwned, h.sendsOnce,
    h.accepted, h.acceptedLast⟩, ?_⟩
  · intro r hr
    have hlt : s.runCount < r := hr
    show Function.update s.runs s.runCount _ r = none
    rw [Function.update_of_ne (Nat.ne_of_gt hlt)]
    exact h.fresh r (Nat.le_of_lt hlt)
  · intro r hr
    have hne : r ≠ s.runCount := by rintro rfl; exact hr hnone
    show ∃ x, Function.update s.runs s.runCount _ r = some x ∧ _
    rw [Function.update_of_ne hne]
    exact h.executed r hr
  · intro a ha hst
    have hne : a.run ≠ s.runCount := by
      intro heq
      exact h.attemptRuns a ha (heq ▸ hnone)
    show ∃ x, Function.update s.runs s.runCount _ a.run = some x ∧ _
    rw [Function.update_of_ne hne]
    exact h.pendingRun a ha hst
  · intro r run' x hr hretry hx
    change Function.update s.runs s.runCount _ r = _ at hr
    by_cases heq : r = s.runCount
    · subst heq
      rw [Function.update_self] at hr
      obtain rfl := Option.some.inj hr
      rw [hresult] at hx
      cases hx
    · rw [Function.update_of_ne heq] at hr
      exact h.results r run' x hr hretry hx
  · refine fun q _ => .of_eq rfl rfl rfl fun r hr => ?_
    have hne : r ≠ s.runCount := by rintro rfl; exact hr hnone
    show (Function.update s.runs s.runCount _ r).map _ = (s.runs r).map _
    rw [Function.update_of_ne hne]

/-- **A write of a row**: what the others know is about attempts and sends. -/
theorem SC20Kept.rewritten (h : SC20Kept Honest s) {others : ℕ → Prop} {r : RunId} {run run' : SC20Run}
    (hrun : s.runs r = some run) (hruns : s'.runs = Function.update s.runs r (some run'))
    (hcount : s'.runCount = s.runCount) (hexecutors : s'.executors = s.executors)
    (hattempts : s'.attempts = s.attempts) (hcommunications : s'.communications = s.communications)
    (hsends : s'.sends = s.sends) (hretry : run'.retryCommunicationId = run.retryCommunicationId)
    (hexecuted : s.executors r ≠ none → run'.run.startedAt.isSome = true ∧
      (run'.run.status = .running ∨ run'.run.status.isTerminal = true))
    (hpending : (∃ a ∈ s.attempts, a.run = r ∧ a.status = .pending) →
      run'.run.status = .running ∨ run'.run.status = .partiallyFailed)
    (hresult : run'.retryCommunicationId = none → ∀ x, run'.result = some x → x.Balanced) :
    SC20Kept Honest s' ∧ ∀ q, others q → sc20Rely q s s' :=
  ⟨h.of_runs hrun hruns hcount hexecutors hattempts hcommunications hsends hexecuted hpending hresult,
    fun _ _ => .of_eq hexecutors hattempts hsends fun r' _ => retryOf_update hrun hruns hretry r'⟩

/-- **An ignored delivery** only leaves an event. -/
theorem SC20Kept.ignored (h : SC20Kept Honest s) {others : ℕ → Prop} {e : IgnoredDelivery}
    (hlog : s.recordIgnored e = .ok s') :
    SC20Kept Honest s' ∧ ∀ q, others q → sc20Rely q s s' := by
  rcases SC20State.recordIgnored_ok hlog with rfl | rfl
  · exact ⟨h, fun q _ => .refl q _⟩
  · exact ⟨h.of_eq rfl rfl rfl rfl rfl rfl, fun q _ => .of_eq rfl rfl rfl fun _ _ => rfl⟩

/-- **One move keeps the invariant, and what the other executions know.** -/
theorem SC20Change.kept {who : Option (ℕ × SC20Label)} (hc : SC20Change s who s')
    (h : SC20Kept Honest s) (hpre : ∀ pid l, who = some (pid, l) → sc20Pre Honest pid l s) :
    SC20Kept Honest s' ∧ ∀ q, who.map Prod.fst ≠ some q → sc20Rely q s s' := by
  cases hc with
  | same => exact ⟨h, fun q _ => .refl q _⟩
  | certificates => exact ⟨h.of_eq rfl rfl rfl rfl rfl rfl, fun q _ => .of_eq rfl rfl rfl fun _ _ => rfl⟩
  | tick => exact ⟨h.of_eq rfl rfl rfl rfl rfl rfl, fun q _ => .of_eq rfl rfl rfl fun _ _ => rfl⟩
  | superseded _ hlog => exact h.ignored hlog
  | terminal _ _ _ _ hlog => exact h.ignored hlog
  | inserted trigger baseDate retry competence now => exact h.inserted rfl
  | @requeued r run now hrun hfailed =>
    simp only [AutomationRun.dispatchFailedBeforeStart, Bool.and_eq_true, beq_iff_eq] at hfailed
    -- the publication failed before any delivery, so there is no execution
    have hnone : s.executors r = none := by
      by_contra hne
      have hsome := (h.executedRow hrun hne).1
      have hnot := hfailed.1.2
      cases hs : run.run.startedAt <;> simp [hs] at hsome hnot
    refine h.rewritten hrun rfl rfl rfl rfl rfl rfl rfl (fun hne => absurd hnone hne) ?_ ?_
    · rintro ⟨a, ha, rfl, -⟩
      exact absurd hnone (h.attemptRuns a ha)
    · intro _ x hx; cases hx
  | @row _ n r run row hrun hstep hn =>
    refine h.rewritten hrun rfl rfl rfl rfl rfl rfl rfl ?_ ?_ ?_
    · intro hne
      obtain ⟨hs, hst⟩ := h.executedRow hrun hne
      exact hstep.executed hs hst
    · exact fun hp => hstep.undecided (h.undecided hrun hp)
    · exact fun hretry x hx => h.results r run x hrun hretry hx
  | @queued r run row hrun hstep =>
    -- a run that goes to the queue has neither an execution nor a pending attempt
    have hq := hstep.before
    refine h.rewritten hrun rfl rfl rfl rfl rfl rfl rfl ?_ ?_ ?_
    · intro hne
      obtain ⟨-, hst⟩ := h.executedRow hrun hne
      rw [hq] at hst; simp [RunStatus.isTerminal] at hst
    · intro hp
      have hst := h.undecided hrun hp
      rw [hq] at hst; simp at hst
    · exact fun hretry x hx => h.results r run x hrun hretry hx
  | started pid hrun hstart =>
    obtain ⟨hk, hr, -, -⟩ := h.started hrun hstart rfl
    exact ⟨hk, fun q hq => hr q fun heq => hq (by rw [heq]; rfl)⟩
  | preparedNew pid hp =>
    obtain ⟨run, new, hlock, -, -, -, -, hprep⟩ := SC20State.prepareNew_some hp
    obtain ⟨hrun, hrunning⟩ := SC20State.lockRun_ok hlock
    obtain ⟨hk, hr, -⟩ := h.prepared (h.tables.prepareNew hp) hrun hrunning (hpre pid _ rfl) hprep
    exact ⟨hk, fun q hq => hr q fun heq => hq (by rw [heq]; rfl)⟩
  | preparedRetry pid hp =>
    obtain ⟨run, old, new, hlock, -, -, -, -, -, -, hprep⟩ := SC20State.prepareRetry_some hp
    obtain ⟨hrun, hrunning⟩ := SC20State.lockRun_ok hlock
    obtain ⟨hk, hr, -⟩ := h.prepared (h.tables.prepareRetry hp) hrun hrunning (hpre pid _ rfl) hprep
    exact ⟨hk, fun q hq => hr q fun heq => hq (by rw [heq]; rfl)⟩
  | sent pid p accepted raised =>
    obtain ⟨hres, hunsent⟩ := hpre pid _ rfl
    obtain ⟨hk, hr, -⟩ := h.sent hres hunsent accepted raised rfl
    exact ⟨hk, fun q hq => hr q fun heq => hq (by rw [heq]; rfl)⟩
  | finalized pid hf =>
    obtain ⟨hres, hhonest⟩ := hpre pid _ rfl
    obtain ⟨hk, hr, -⟩ := h.finalized hf hres hhonest
    exact ⟨hk, fun q hq => hr q fun heq => hq (by rw [heq]; rfl)⟩
  | @finished pid r t result policy now _ hf =>
    obtain ⟨hidle, hbalanced⟩ := hpre pid _ rfl
    obtain ⟨run, row, hlock, rfl, hstatus, hstarted, -⟩ := SC20State.finishRun_ok hf
    obtain ⟨hrun, hrunning⟩ := SC20State.lockRun_ok hlock
    refine h.rewritten hrun rfl rfl rfl rfl rfl rfl rfl ?_ ?_ ?_
    · intro hne
      refine ⟨by rw [hstarted]; exact (h.executedRow hrun hne).1, .inr ?_⟩
      rcases hstatus with hst | hst <;> (rw [hst]; rfl)
    · -- an execution that finishes has settled its attempts
      rintro ⟨a, ha, har, hst⟩
      exact absurd hst (hidle.settled a (mem_attemptsFor.2 ⟨ha, har⟩))
    · intro hretry x hx
      have hretry' : run.retryCommunicationId = none := hretry
      obtain rfl := Option.some.inj hx
      exact hbalanced (by simp [SC20State.retryOf, hrun, hretry'])
  | failed _ hf =>
    rcases SC20State.recordUnhandledFailure_ok hf with rfl | ⟨run, row, hlock, rfl, hstatus, hstarted, -⟩
    · exact ⟨h, fun q _ => .refl q _⟩
    obtain ⟨hrun, -⟩ := SC20State.lockRun_ok hlock
    refine h.rewritten hrun rfl rfl rfl rfl rfl rfl rfl ?_ ?_ ?_
    · intro hne
      refine ⟨by rw [hstarted]; exact (h.executedRow hrun hne).1, .inr ?_⟩
      rw [hstatus]; split <;> rfl
    · -- a pending attempt makes the failure a partial one
      rintro ⟨a, ha, har, hst⟩
      refine .inr ?_
      rw [hstatus, if_pos]
      simp only [SC20State.hasPendingAttempt, List.any_eq_true, Bool.and_eq_true, beq_iff_eq]
      exact ⟨a, ha, ⟨har, hst⟩, by rw [h.tables.unfinished a ha hst]; rfl⟩
    · exact fun hretry x hx => h.results _ run x hrun hretry hx

end Rows

end SheepContabil
