import SheepContabil.Proof.Sc20Outline

/-!
# SC-20: every execution meets its outline

* `sc20Outline`: the contract of the executions of `sc20System`.
* `sendPreparedDelivery_wp`, `scanCertificates_wp`, `executeSc20_wp`: one lemma for
  each function, with what it leaves behind.
* `sc20_sound`, `run_kept`: the invariant holds after every run.
-/

namespace SheepContabil

open Conc

variable {ι : Type} {gateway : NotificationGateway ι} {Honest : Prop}

/-- The condition on a move: the sends are honest. -/
def HonestMove (gateway : NotificationGateway ι) : Move SC20Label (SC20Fate ι) SC20Event → Prop
  | .act _ (.send p) i => HonestSend gateway p.message i.provider
  | _ => True

/-- The contract of the executions. -/
def sc20Outline (gateway : NotificationGateway ι) (Honest : Prop) :
    Outline SC20Label SC20Exception SC20State (SC20Fate ι) SC20Process SC20Event where
  inv := SC20Kept Honest
  rely := sc20Rely
  pre := sc20Pre Honest
  ok m _ _ := Honest → HonestMove gateway m
  post _ _ _ _ := True

section Programs

variable {pid : ℕ}

/-- The weakest precondition of the executions. -/
abbrev sc20Wp {α : Type} (gateway : NotificationGateway ι) (Honest : Prop) (pid : ℕ)
    (p : SC20Prog α) (Q : Except SC20Exception α → SC20State → Prop) (s : SC20State) : Prop :=
  wp ((sc20Outline gateway Honest).contract (sc20System gateway)) pid p Q s

/-- What an execution relies on keeps its knowledge. -/
theorem Idle.rely {r : RunId} {s s' : SC20State} (h : Idle pid r s) (hr : sc20Rely pid s s') :
    Idle pid r s' := by
  obtain ⟨he, ha, -, -⟩ := hr r h.executor
  exact ⟨he, by rw [ha]; exact h.settled⟩

/-- The worker executes the loaded run, and its send before this one is settled. -/
structure Executing (pid : ℕ) (run : LoadedRun) (s : SC20State) : Prop where
  idle : Idle pid run.id s
  retry : s.retryOf run.id = some run.retryCommunicationId

theorem Executing.rely {run : LoadedRun} {s s' : SC20State} (h : Executing pid run s)
    (hr : sc20Rely pid s s') : Executing pid run s' :=
  ⟨h.idle.rely hr, by rw [(hr run.id h.idle.executor).2.2.2]; exact h.retry⟩

/-- An action that raised, or that only reads, leaves the state. -/
theorem wp_quiet {l : SC20Label} {Q : Except SC20Exception l.Resp → SC20State → Prop} {s : SC20State}
    (hpre : ∀ s, sc20Pre Honest pid l s)
    (hQ : ∀ s' r s'' i, sc20Rely pid s s' → SC20Kept Honest s' →
      SC20State.sem gateway pid l i s' = (r, s'') → Q r s'') :
    sc20Wp gateway Honest pid (.call l) Q s := by
  refine wp_call fun s' hr hi => ⟨hpre s', ?_⟩
  rintro r s'' ⟨i, -, hsem⟩
  exact hQ s' r s'' i hr hi hsem

/-- A query answers and changes nothing, or raises. -/
theorem sem_require {r : RunId} {t : Option TaskId} {i : SC20Fate ι} {s s' : SC20State}
    {x : Except SC20Exception Unit}
    (h : SC20State.sem gateway pid (.requireCurrentDelivery r t) i s = (x, s')) : s' = s := by
  unfold SC20State.sem at h
  split at h
  · exact (Prod.mk.inj h).2.symm
  · exact (Prod.mk.inj h).2.symm

theorem sem_expiring {ids : List CertificateId} {a b : ℤ} {i : SC20Fate ι} {s s' : SC20State}
    {x : Except SC20Exception (List CertificateId)}
    (h : SC20State.sem gateway pid (.expiringBetween ids a b) i s = (x, s')) : s' = s := by
  unfold SC20State.sem at h
  split at h
  · exact (Prod.mk.inj h).2.symm
  · exact (Prod.mk.inj h).2.symm

/-- A heartbeat keeps the knowledge of the worker. -/
theorem sem_touch {r : RunId} {t : Option TaskId} {i : SC20Fate ι} {s s' : SC20State}
    {x : Except SC20Exception Unit} {run : LoadedRun} (hex : Executing pid run s)
    (h : SC20State.sem gateway pid (.touchRun r t) i s = (x, s')) : Executing pid run s' := by
  unfold SC20State.sem at h
  split at h
  · rw [← (Prod.mk.inj h).2]; exact hex
  · simp only [SC20State.perform] at h
    obtain ⟨-, rfl⟩ := Prod.mk.inj h
    split
    · next row hrow =>
      exact ⟨⟨hex.idle.executor, hex.idle.settled⟩, by
        rw [retryOf_update hrow rfl (by rfl) run.id]; exact hex.retry⟩
    · exact hex

/-- A transaction either raised and changed nothing, or committed. -/
theorem sem_commit {α : Type} {i : SC20Fate ι} {s s' : SC20State} {x : Except SC20Exception α}
    {body : Except SC20Exception (α × SC20State)}
    (h : (match i.raises with
      | some e => (.error (.python e), s)
      | none => s.commit body) = (x, s')) :
    (∃ e, x = .error e ∧ s' = s) ∨ ∃ a, x = .ok a ∧ body = .ok (a, s') := by
  split at h
  · obtain ⟨rfl, rfl⟩ := Prod.mk.inj h
    exact .inl ⟨_, rfl, rfl⟩
  · rcases SC20State.commit_cases (s := s) (x := body) with ⟨a, s'', hb, hc⟩ | ⟨e, -, hc⟩
    · rw [hc] at h
      obtain ⟨rfl, rfl⟩ := Prod.mk.inj h
      exact .inr ⟨a, rfl, hb⟩
    · rw [hc] at h
      obtain ⟨rfl, rfl⟩ := Prod.mk.inj h
      exact .inl ⟨e, rfl, rfl⟩

/-- The result of one certificate: the worker is idle again, and one counter is one. -/
def Notified (pid : ℕ) (run : LoadedRun) (r : Except SC20Exception SC20ExecutionResult)
    (s : SC20State) : Prop :=
  ∀ x, r = .ok x → Executing pid run s ∧ x.sent + x.failed + x.deduplicated = 1

/-- **`_send_prepared_delivery`**, of an attempt that is reserved and not sent. -/
theorem sendPreparedDelivery_wp {run : LoadedRun} {p : PreparedDelivery} {s : SC20State}
    (hrun : p.runId = run.id) (hres : Reserved pid p s)
    (hunsent : ∀ x ∈ s.sendsFor p.runId, x.attempt ≠ p.attemptId)
    (hretry : s.retryOf run.id = some run.retryCommunicationId) :
    sc20Wp gateway Honest pid (sendPreparedDelivery p) (Notified pid run) s := by
  have hreserved : ∀ {a b : SC20State}, Reserved pid p a → sc20Rely pid a b → Reserved pid p b := by
    intro a b ha hr
    obtain ⟨he, hat, -, -⟩ := hr _ ha.executor
    exact ⟨he, by rw [hat]; exact ha.attempt, by rw [hat]; exact ha.only⟩
  unfold sendPreparedDelivery
  refine wp_tryCatch (wp_mono (Q := fun r s => ∀ x, r = .ok x → Notified pid run (.ok x) s) ?_ ?_)
  · rintro (e | x) s' hx
    · -- the handler records the event and raises again
      refine wp_bind (wp_quiet (fun _ => trivial) ?_)
      rintro s1 (e' | u) s2 i - - -
      · intro x hx; cases hx
      · intro x hx; cases hx
    · exact hx x rfl
  · refine wp_bind (wp_call fun s1 hr hi => ?_)
    have hres1 := hreserved hres hr
    obtain ⟨-, hat, hsends, hretry1⟩ := hr _ hres.executor
    have hunsent1 : ∀ x ∈ s1.sendsFor p.runId, x.attempt ≠ p.attemptId := by
      rw [hsends]; exact hunsent
    refine ⟨⟨hres1, hunsent1⟩, ?_⟩
    rintro r s2 ⟨i, hok, hsem⟩
    change SC20State.sem gateway pid (.send p) i s1 = (r, s2) at hsem
    unfold SC20State.sem at hsem
    split at hsem
    · obtain ⟨rfl, rfl⟩ := Prod.mk.inj hsem
      intro x hx; cases hx
    simp only [SC20State.perform] at hsem
    obtain ⟨hresult, hs2⟩ := Prod.mk.inj hsem
    obtain ⟨-, -, hres2, hacc, hretry2⟩ := hi.sent hres1 hunsent1 _ _ hs2.symm
    cases hout : (gateway p.message i.provider).result with
    | error e =>
      rw [hout] at hresult
      subst hresult
      intro x hx; cases hx
    | ok d =>
      rw [hout] at hresult
      subst hresult
      show sc20Wp gateway Honest pid (.call (.finalize p d)) _ s2
      refine wp_call fun s3 hr3 hi3 => ?_
      obtain ⟨-, -, hsends3, hretry3⟩ := hr3 _ hres2.executor
      have hhonest : Honest → ∀ x ∈ s3.sendsFor p.runId, x.attempt = p.attemptId →
          x.accepted = true → d.delivered = true ∧ x.raised = false := by
        intro hc x hx hattempt hxacc
        rw [hsends3] at hx
        obtain ⟨haccepted, hraised⟩ := hacc x hx hattempt
        rw [hraised]
        exact hok hc d hout (haccepted.symm.trans hxacc)
      have hres3 := hreserved hres2 hr3
      refine ⟨⟨hres3, hhonest⟩, ?_⟩
      rintro r s4 ⟨i', -, hsem'⟩
      rcases sem_commit hsem' with ⟨e, rfl, -⟩ | ⟨a, rfl, hf⟩
      · intro x hx; cases hx
      · intro x hx y hy
        obtain rfl := Except.ok.inj hx
        obtain rfl := Except.ok.inj hy
        obtain ⟨-, -, hidle, hretry4⟩ := hi3.finalized hf hres3 hhonest
        refine ⟨⟨hrun ▸ hidle, ?_⟩, SC20State.finalize_count hf⟩
        rw [hretry4, ← hrun, hretry3, hretry2, hretry1, hrun]
        exact hretry

/-- A reservation that dispensed with the delivery, or made one, and the send after it. -/
theorem sendIfPrepared_wp {run : LoadedRun} {prepared : Option PreparedDelivery} {s : SC20State}
    (hnone : prepared = none → Executing pid run s)
    (hsome : ∀ p, prepared = some p → p.runId = run.id ∧ Reserved pid p s ∧
      (∀ x ∈ s.sendsFor p.runId, x.attempt ≠ p.attemptId) ∧
      s.retryOf run.id = some run.retryCommunicationId) :
    sc20Wp gateway Honest pid (sendIfPrepared prepared) (Notified pid run) s := by
  cases prepared with
  | none =>
    intro x hx
    obtain rfl := Except.ok.inj hx
    exact ⟨hnone rfl, rfl⟩
  | some p =>
    obtain ⟨hrun, hres, hunsent, hretry⟩ := hsome p rfl
    exact sendPreparedDelivery_wp hrun hres hunsent hretry

/-- **`_notify_certificate`.** -/
theorem notifyCertificate_wp {run : LoadedRun} {policy : SC20Policy} {c : CertificateId}
    {s : SC20State} (hex : Executing pid run s) :
    sc20Wp gateway Honest pid (notifyCertificate run policy c) (Notified pid run) s := by
  refine wp_bind (wp_call fun s1 hr hi => ?_)
  have hex1 := hex.rely hr
  refine ⟨hex1.idle, ?_⟩
  rintro r s2 ⟨i, -, hsem⟩
  rcases sem_commit hsem with ⟨e, rfl, -⟩ | ⟨a, rfl, hp⟩
  · intro x hx; cases hx
  · refine sendIfPrepared_wp ?_ ?_
    · rintro rfl
      rw [SC20State.prepareNew_none hp]; exact hex1
    · rintro p rfl
      obtain ⟨row, new, hlock, -, -, -, -, hprep⟩ := SC20State.prepareNew_some hp
      obtain ⟨hrun, hrunning⟩ := SC20State.lockRun_ok hlock
      obtain ⟨-, -, hres, hunsent, hretry⟩ :=
        hi.prepared (hi.tables.prepareNew hp) hrun hrunning hex1.idle hprep
      exact ⟨hprep.run, hres, hunsent, hretry.trans hex1.retry⟩

/-- **`_execute_retry`.** -/
theorem executeRetry_wp {run : LoadedRun} {c : CommunicationId} {s : SC20State}
    (hex : Executing pid run s) :
    sc20Wp gateway Honest pid (executeRetry run c) (Notified pid run) s := by
  refine wp_bind (wp_call fun s1 hr hi => ?_)
  have hex1 := hex.rely hr
  refine ⟨hex1.idle, ?_⟩
  rintro r s2 ⟨i, -, hsem⟩
  rcases sem_commit hsem with ⟨e, rfl, -⟩ | ⟨a, rfl, hp⟩
  · intro x hx; cases hx
  · refine sendIfPrepared_wp ?_ ?_
    · rintro rfl
      rw [SC20State.prepareRetry_none hp]; exact hex1
    · rintro p rfl
      obtain ⟨row, old, new, hlock, -, -, -, -, -, -, hprep⟩ := SC20State.prepareRetry_some hp
      obtain ⟨hrun, hrunning⟩ := SC20State.lockRun_ok hlock
      obtain ⟨-, -, hres, hunsent, hretry⟩ :=
        hi.prepared (hi.tables.prepareRetry hp) hrun hrunning hex1.idle hprep
      exact ⟨hprep.run, hres, hunsent, hretry.trans hex1.retry⟩

/-- The counters after one more certificate add up. -/
theorem SC20ExecutionResult.Balanced.count {total x : SC20ExecutionResult} (h : total.Balanced)
    (hx : x.sent + x.failed + x.deduplicated = 1) : (total.count x).Balanced := by
  unfold SC20ExecutionResult.Balanced at *
  simp only [SC20ExecutionResult.count]
  omega

/-- **The loop of `_execute_scan`**: the counters add up after each certificate. -/
theorem scanCertificates_wp {run : LoadedRun} {policy : SC20Policy} :
    ∀ (cs : List CertificateId) (total : SC20ExecutionResult) (s : SC20State),
      Executing pid run s → total.Balanced →
      sc20Wp gateway Honest pid (scanCertificates run policy cs total)
        (fun r s => ∀ x, r = .ok x → Executing pid run s ∧ x.Balanced) s := by
  intro cs
  induction cs with
  | nil =>
    intro total s hex hb x hx
    obtain rfl := Except.ok.inj hx
    exact ⟨hex, hb⟩
  | cons c cs ih =>
    intro total s hex hb
    refine wp_bind (wp_quiet (fun _ => trivial) ?_)
    rintro s1 (e | u) s2 i hr - hsem
    · intro x hx; cases hx
    have hex2 : Executing pid run s2 := by rw [sem_require hsem]; exact hex.rely hr
    refine wp_bind (wp_quiet (fun _ => trivial) ?_)
    rintro s3 (e | u) s4 i' hr' - hsem'
    · intro x hx; cases hx
    have hex4 : Executing pid run s4 := sem_touch (hex2.rely hr') hsem'
    refine wp_bind (wp_mono ?_ (notifyCertificate_wp hex4))
    rintro (e | y) s5 hy
    · intro x hx; cases hx
    obtain ⟨hex5, hone⟩ := hy y rfl
    exact ih _ s5 hex5 (hb.count hone)

/-- **`_execute_scan`.** -/
theorem executeScan_wp {ids : List CertificateId} {run : LoadedRun} {policy : SC20Policy}
    {s : SC20State} (hex : Executing pid run s) :
    sc20Wp gateway Honest pid (executeScan ids run policy)
      (fun r s => ∀ x, r = .ok x → Executing pid run s ∧ x.Balanced) s := by
  refine wp_bind (wp_quiet (fun _ => trivial) ?_)
  rintro s1 (e | cs) s2 i hr - hsem
  · intro x hx; cases hx
  have hex2 : Executing pid run s2 := by rw [sem_expiring hsem]; exact hex.rely hr
  exact scanCertificates_wp cs {} s2 hex2 rfl

/-- **The `try` block of `execute_sc20`**: only a scan's result has to add up. -/
theorem runSc20_wp {ids : List CertificateId} {run : LoadedRun} {policy : SC20Policy}
    {s : SC20State} (hex : Executing pid run s) :
    sc20Wp gateway Honest pid (runSc20 ids run policy) (fun _ _ => True) s := by
  have hfinish : ∀ x s', Executing pid run s' → (run.retryCommunicationId = none → x.Balanced) →
      sc20Wp gateway Honest pid (do
        Conc.Prog.call (SC20Label.finishRun run.id run.taskId x policy)
        Conc.Prog.ret x) (fun _ _ => True) s' := by
    intro x s' hex' hb
    refine wp_bind (wp_call fun s1 hr hi => ⟨⟨(hex'.rely hr).idle, ?_⟩, ?_⟩)
    · intro hretry
      refine hb ?_
      have hsame := (hex'.rely hr).retry
      rw [hsame] at hretry
      exact Option.some.inj hretry
    · rintro (e | u) s'' -
      · trivial
      · trivial
  unfold runSc20
  cases hretry : run.retryCommunicationId with
  | none =>
    refine wp_bind (wp_mono ?_ (executeScan_wp hex))
    rintro (e | x) s' hx
    · trivial
    · obtain ⟨hex', hb⟩ := hx x rfl
      exact hfinish x s' hex' fun _ => hb
  | some c =>
    refine wp_bind (wp_mono ?_ (executeRetry_wp hex))
    rintro (e | x) s' hx
    · trivial
    · obtain ⟨hex', -⟩ := hx x rfl
      exact hfinish x s' hex' fun hnone => by rw [hretry] at hnone; cases hnone

/-- The handlers need to know nothing. -/
theorem handleSc20_wp {run : LoadedRun} (e : SC20Exception) {s : SC20State} :
    sc20Wp gateway Honest pid (handleSc20 run e) (fun _ _ => True) s := by
  cases e with
  | superseded =>
    refine wp_bind (wp_quiet (fun _ => trivial) ?_)
    rintro s1 (e | u) s2 i - - -
    · trivial
    · trivial
  | python e =>
    cases e with
    | exception name =>
      refine wp_bind (wp_quiet (fun _ => trivial) ?_)
      rintro s1 (e | u) s2 i - - -
      · trivial
      · trivial
    | baseException name => trivial

/-- **`execute_sc20`**, whatever token the message carries. -/
theorem executeSc20_wp (k : SC20Process) {s : SC20State} :
    sc20Wp gateway Honest pid k.body (fun _ _ => True) s := by
  refine wp_bind (wp_mono (Q := fun _ _ => True) ?_ ?_)
  · rintro (e | x) s' -
    · trivial
    · trivial
  refine wp_bind (wp_quiet (fun _ => trivial) ?_)
  intro s1 r s2 i hr hi hsem
  rcases sem_commit hsem with ⟨e, rfl, -⟩ | ⟨⟨run, execute⟩, rfl, hst⟩
  · trivial
  cases execute with
  | false => trivial
  | true =>
    refine wp_tryCatch (wp_mono (Q := fun _ _ => True) ?_ (runSc20_wp ?_))
    · rintro (e | x) s' -
      · exact handleSc20_wp e
      · trivial
    · -- only the start of the run says that it executes
      unfold SC20State.startRun at hst
      cases hrow : s1.runs k.run with
      | none => simp [hrow] at hst
      | some row =>
        simp only [hrow] at hst
        rcases row.start_cases k.taskId k.redelivered i.now with hcase |
          ⟨-, ⟨x, -, hcase, -⟩ | ⟨x, -, hcase⟩ | ⟨x, -, hcase, -⟩ | ⟨x, -, -, hcase, -⟩⟩
        · rw [hcase] at hst
          obtain ⟨s3, -, hs⟩ := Py.bind_eq_ok.1 hst
          simp at hs
        · rw [hcase] at hst; simp at hst
        · rw [hcase] at hst; simp at hst
        · rw [hcase] at hst
          obtain ⟨s3, -, hs⟩ := Py.bind_eq_ok.1 hst
          simp at hs
        · have hcase' := hcase
          rw [hcase] at hst
          obtain ⟨hx, hs2⟩ := Prod.mk.inj (Except.ok.inj hst)
          obtain ⟨rfl, -⟩ := Prod.mk.inj hx
          obtain ⟨-, -, hidle, hretry⟩ := hi.started hrow hcase' hs2.symm
          exact ⟨hidle, hretry⟩

end Programs

/-- **The outline is sound**: every execution, among whatever else happens. -/
theorem sc20_sound (gateway : NotificationGateway ι) (Honest : Prop) :
    (sc20Outline gateway Honest).Sound (sc20System gateway) where
  refl := sc20Rely.refl
  trans _ _ _ _ := sc20Rely.trans
  post _ _ _ _ _ _ _ _ := trivial
  start pid k s _ := executeSc20_wp k
  act pid l i s hi hpre _ := by
    have hchange : SC20Change s _ (SC20State.sem gateway pid l i s).2 :=
      SC20State.sem_change pid l i
    obtain ⟨hk, hr⟩ := hchange.kept hi (by
      intro q l' heq
      obtain ⟨rfl, rfl⟩ := Prod.mk.inj (Option.some.inj heq)
      exact hpre)
    exact ⟨hk, fun q hq => hr q hq⟩
  crash pid s hi _ := ⟨hi, fun q _ => sc20Rely.refl q s⟩
  env e s hi _ := by
    obtain ⟨hk, hr⟩ := (SC20State.event_change e).kept hi (by intro q l heq; cases heq)
    exact ⟨hk, fun q _ => hr q (by simp)⟩

/-- Nothing has happened yet. -/
theorem initial_kept (Honest : Prop) (certificates : CertificateId → Option DigitalCertificate) :
    SC20Kept Honest (SC20State.initial certificates) := by
  refine ⟨⟨rfl, rfl, List.nodup_nil, ?_, ?_, ?_⟩, fun _ _ => rfl, ?_, ?_, ?_, ?_, ?_, List.nodup_nil,
    ?_, fun _ => List.Pairwise.nil⟩
  · intro a ha; cases ha
  · intro c hc; cases hc
  · intro a ha; cases ha
  · intro r hr; exact absurd rfl hr
  · intro a ha; cases ha
  · intro a ha; cases ha
  · intro r run x hr; cases hr
  · intro x hx; cases hx
  · intro _ x hx; cases hx

/-- The runs of the system. -/
abbrev SC20Choice (ι : Type) := Choice (SC20Fate ι) SC20Process SC20Event

/-- **The outline holds after every run.** -/
theorem run_holds (gateway : NotificationGateway ι) {Honest : Prop}
    (certificates : CertificateId → Option DigitalCertificate) {xs : List (SC20Choice ι)}
    (hxs : (sc20System gateway).RunOk (fun m _ => Honest → HonestMove gateway m)
      (Config.idle (SC20State.initial certificates)) xs) :
    (sc20Outline gateway Honest).Holds (sc20System gateway)
      ((sc20System gateway).run (Config.idle (SC20State.initial certificates)) xs) :=
  Outline.Holds.run (sc20_sound gateway Honest)
    (Outline.holds_idle _ _ (initial_kept Honest certificates)) hxs

end SheepContabil
