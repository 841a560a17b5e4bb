import SheepContabil.Proof.Sc20Delivery

/-!
# SC-20: what a scan reserves

A scan selects its certificates once and reserves them one by one, with sends in
between; `_prepare_new_delivery` locks the certificate and does not look at its
status or its expiration again.

* `ReservesExpiring`: what a choice may create.
* `EditKeepsSelected`: the condition on an edit of a certificate.
* `ScanStage`: where a scan stands, and what it may still reserve.
* `run_reservesExpiring`: **a run whose edits keep the condition only creates
  communications of certificates in the window.**
-/

namespace SheepContabil

open Conc

/-- The condition of `expiring_between`. -/
def DigitalCertificate.ExpiringBetween (x : DigitalCertificate) (startDate endDate : ℤ) : Prop :=
  x.status = .active ∧ startDate ≤ x.validUntil ∧ x.validUntil ≤ endDate

instance (x : DigitalCertificate) (a b : ℤ) : Decidable (x.ExpiringBetween a b) :=
  inferInstanceAs (Decidable (_ ∧ _))

/-- `parameters["base_date"]` of a run. -/
def SC20State.baseOf (s : SC20State) (r : RunId) : Option ℤ := (s.runs r).map (·.baseDate)

/-- The certificate is gone, or the query of this window selects it. -/
def SC20State.Expiring (s : SC20State) (startDate endDate : ℤ) (c : CertificateId) : Prop :=
  ∀ x, s.certificates c = some x → x.ExpiringBetween startDate endDate

abbrev SC20Config := Config SC20Label SC20Label.Resp SC20Exception SC20State SC20Process

def SC20Label.Selects : SC20Label → Prop
  | expiringBetween .. => True
  | _ => False

def SC20Label.Reserves (c : CertificateId) : SC20Label → Prop
  | prepareNew c' _ _ _ => c' = c
  | _ => False

def SC20Label.Finishes : SC20Label → Prop
  | finishRun .. => True
  | _ => False

/-- The process has made its selection and may still reserve the certificate. -/
def SC20Process.Awaits (cfg : SC20Config) (pid : ℕ) (k : SC20Process) (c : CertificateId) : Prop :=
  ∃ p, cfg.procs pid = some (k, p) ∧ p.Within (fun l => ¬ l.Selects) ∧
    ¬ p.Within fun l => ¬ l.Reserves c

variable {ι : Type} {gateway : NotificationGateway ι}

/-- An edit of a certificate leaves it in the window of every scan that has selected it and has
not reserved it yet. -/
def EditKeepsSelected (cfg : SC20Config) : SC20Choice ι → Prop
  | .env (.saveCertificate c (some x)) => ∀ pid k b, SC20Process.Awaits cfg pid k c →
      cfg.shared.baseOf k.run = some b → x.ExpiringBetween b (b + k.policy.windowDays)
  | _ => True

/-- A communication is created for a certificate that is ACTIVE and expires in the window of the
run, at that moment. -/
def ReservesExpiring (gateway : NotificationGateway ι) (cfg : SC20Config) (x : SC20Choice ι) :
    Prop :=
  ∀ y ∈ ((sc20System gateway).next cfg x).shared.communications,
    (∀ z ∈ cfg.shared.communications, z.id ≠ y.id) →
      ∃ pid k p i b certificate, x = .act pid i ∧ cfg.procs pid = some (k, p) ∧
        y.firstRun = k.run ∧ cfg.shared.baseOf k.run = some b ∧
        cfg.shared.certificates y.key.certificate = some certificate ∧
        certificate.ExpiringBetween b (b + k.policy.windowDays)

section Moves

variable {s s' : SC20State}

/-- What a reservation inserts. -/
theorem prepareNew_inserts {c : CertificateId} {r : RunId} {t : Option TaskId} {policy : SC20Policy}
    {p : PreparedDelivery} (h : s.prepareNew c r t policy = .ok (some p, s')) :
    s'.certificates = s.certificates ∧ ∃ x new, s.certificates c = some x ∧
      new.key.certificate = c ∧ new.firstRun = r ∧
      s'.communications = s.communications ++ [new] := by
  unfold SC20State.prepareNew at h
  obtain ⟨run, hrun, h⟩ := Py.bind_eq_ok.1 h
  split at h
  · cases h
  · next locked hlocked =>
    simp only at h
    split at h
    · cases h
    · obtain ⟨-, rfl⟩ := Prod.mk.inj (Except.ok.inj h)
      exact ⟨rfl, locked, _, hlocked, rfl, rfl, rfl⟩

theorem prepareRetry_certificates {c : CommunicationId} {r : RunId} {t : Option TaskId}
    {p : PreparedDelivery} (h : s.prepareRetry c r t = .ok (some p, s')) :
    s'.certificates = s.certificates := by
  unfold SC20State.prepareRetry at h
  obtain ⟨run, hrun, h⟩ := Py.bind_eq_ok.1 h
  split at h
  · cases h
  · split at h
    · cases h
    · split at h
      · cases h
      · simp only at h
        split at h
        · cases h
        · obtain ⟨-, rfl⟩ := Prod.mk.inj (Except.ok.inj h)
          rfl

/-- **A communication is new** only after `_prepare_new_delivery`. -/
theorem SC20Change.newCommunication {who : Option (ℕ × SC20Label)} (hc : SC20Change s who s')
    {y : CertificateCommunication} (hy : y ∈ s'.communications)
    (hnew : ∀ z ∈ s.communications, z.id ≠ y.id) :
    ∃ pid c r t policy p, who = some (pid, .prepareNew c r t policy) ∧
      s.prepareNew c r t policy = .ok (some p, s') := by
  have hold : y ∉ s.communications := fun h => hnew y h rfl
  cases hc with
  | preparedNew pid hp => exact ⟨pid, _, _, _, _, _, rfl, hp⟩
  | preparedRetry pid hp =>
    obtain ⟨run, old, new, -, hget, -, hid, -, -, hmap, -⟩ := SC20State.prepareRetry_some hp
    rw [hmap] at hy
    obtain ⟨z, hz, rfl⟩ := List.mem_map.1 hy
    obtain ⟨hmem, hold'⟩ := communication?_some hget
    split at hnew
    · exact absurd hid.symm (hnew old hmem)
    · exact absurd rfl (hnew z hz)
  | finalized pid hf =>
    obtain ⟨-, -, -, -, -, -, ⟨-, rfl⟩ | ⟨-, f, g, rfl, -, hg⟩⟩ := SC20State.finalize_ok hf
    · exact absurd hy hold
    · obtain ⟨z, hz, rfl⟩ := List.mem_map.1 hy
      refine absurd ?_ (hnew z hz)
      split
      · exact (hg z).1.symm
      · rfl
  | superseded _ hlog =>
    rcases SC20State.recordIgnored_ok hlog with rfl | rfl <;> exact absurd hy hold
  | terminal _ _ _ _ hlog =>
    rcases SC20State.recordIgnored_ok hlog with rfl | rfl <;> exact absurd hy hold
  | finished _ hf =>
    obtain ⟨run, row, -, rfl, -⟩ := SC20State.finishRun_ok hf
    exact absurd hy hold
  | failed _ hf =>
    rcases SC20State.recordUnhandledFailure_ok hf with rfl | ⟨run, row, -, rfl, -⟩ <;>
      exact absurd hy hold
  | _ => exact absurd hy hold

/-- The base date of a run is never written again. -/
theorem SC20Change.baseOf {who : Option (ℕ × SC20Label)} (hc : SC20Change s who s')
    (hfresh : ∀ r, s.runCount ≤ r → s.runs r = none) {r : RunId} {b : ℤ}
    (hb : s.baseOf r = some b) : s'.baseOf r = some b := by
  -- an update of one row keeps its base date
  have hrow : ∀ {r' : RunId} {run run' : SC20Run},
      s'.runs = Function.update s.runs r' (some run') → s.runs r' = some run →
      run'.baseDate = run.baseDate → s'.baseOf r = some b := by
    intro r' run run' hruns hrun hbase
    rw [SC20State.baseOf, hruns]
    by_cases heq : r = r'
    · subst heq
      rw [Function.update_self]
      rw [SC20State.baseOf, hrun] at hb
      simpa [hbase] using hb
    · rw [Function.update_of_ne heq]; exact hb
  have hsame : s'.runs = s.runs → s'.baseOf r = some b := by
    intro h
    rw [SC20State.baseOf, h]; exact hb
  cases hc with
  | inserted trigger baseDate retry competence now =>
    have hne : r ≠ s.runCount := by
      rintro rfl
      rw [SC20State.baseOf, hfresh _ (Nat.le_refl _)] at hb
      cases hb
    show (Function.update s.runs s.runCount _ r).map _ = some b
    rw [Function.update_of_ne hne]; exact hb
  | requeued now hrun hfailed => exact hrow rfl hrun rfl
  | row pid n hrun hstep hn => exact hrow rfl hrun rfl
  | queued hrun hstep => exact hrow rfl hrun rfl
  | @started pid r' run run' t b' now hrun hstart =>
    refine hrow rfl hrun ?_
    rcases run.start_cases t b' now with hcase |
      ⟨-, ⟨x, -, hcase, -⟩ | ⟨x, -, hcase⟩ | ⟨x, -, hcase, -⟩ | ⟨x, -, -, hcase, -⟩⟩ <;>
      rw [hcase] at hstart <;> cases hstart
    rfl
  | preparedNew pid hp =>
    obtain ⟨run, new, -, -, -, -, -, hprep⟩ := SC20State.prepareNew_some hp
    exact hsame hprep.runs
  | preparedRetry pid hp =>
    obtain ⟨run, old, new, -, -, -, -, -, -, -, hprep⟩ := SC20State.prepareRetry_some hp
    exact hsame hprep.runs
  | finalized pid hf =>
    obtain ⟨-, -, -, -, -, -, ⟨-, rfl⟩ | ⟨-, f, g, rfl, -, -⟩⟩ := SC20State.finalize_ok hf <;>
      exact hb
  | superseded _ hlog => rcases SC20State.recordIgnored_ok hlog with rfl | rfl <;> exact hb
  | terminal _ _ _ _ hlog => rcases SC20State.recordIgnored_ok hlog with rfl | rfl <;> exact hb
  | finished _ hf =>
    obtain ⟨run, row, hlock, rfl, -⟩ := SC20State.finishRun_ok hf
    exact hrow rfl (SC20State.lockRun_ok hlock).1 rfl
  | failed _ hf =>
    rcases SC20State.recordUnhandledFailure_ok hf with rfl | ⟨run, row, hlock, rfl, -⟩
    · exact hb
    · exact hrow rfl (SC20State.lockRun_ok hlock).1 rfl
  | _ => exact hb

/-- The start of a delivery writes a run, its executor and the events only. -/
theorem startRun_certificates {pid : ℕ} {r : RunId} {t : SuppliedTaskId} {b : Bool} {now : ℕ}
    {x : SC20Run × Bool} (h : s.startRun pid r t b now = .ok (x, s')) :
    s'.certificates = s.certificates := by
  unfold SC20State.startRun at h
  split at h
  · cases h
  · split at h
    · obtain ⟨s'', hlog, hs⟩ := Py.bind_eq_ok.1 h
      obtain ⟨-, rfl⟩ := Prod.mk.inj (Except.ok.inj hs)
      rcases SC20State.recordIgnored_ok hlog with rfl | rfl <;> rfl
    · obtain ⟨-, rfl⟩ := Prod.mk.inj (Except.ok.inj h); rfl
    · obtain ⟨-, rfl⟩ := Prod.mk.inj (Except.ok.inj h); rfl
    · obtain ⟨s'', hlog, hs⟩ := Py.bind_eq_ok.1 h
      obtain ⟨-, rfl⟩ := Prod.mk.inj (Except.ok.inj hs)
      rcases SC20State.recordIgnored_ok hlog with rfl | rfl <;> rfl
    · obtain ⟨-, rfl⟩ := Prod.mk.inj (Except.ok.inj h); rfl

/-- No action writes a certificate. -/
theorem sem_certificates (pid : ℕ) (l : SC20Label) (i : SC20Fate ι) :
    (SC20State.sem gateway pid l i s).2.certificates = s.certificates := by
  have hkeep : ∀ {α : Type} {x : Except SC20Exception (α × SC20State)},
      (∀ a s', x = .ok (a, s') → s'.certificates = s.certificates) →
      (s.commit x).2.certificates = s.certificates :=
    SC20State.commit_inv (P := fun s' => s'.certificates = s.certificates) rfl
  have hkeepUnit : ∀ {x : Except SC20Exception SC20State},
      (∀ s', x = .ok s' → s'.certificates = s.certificates) →
      (s.commitUnit x).2.certificates = s.certificates :=
    SC20State.commitUnit_inv (P := fun s' => s'.certificates = s.certificates) rfl
  unfold SC20State.sem
  split
  · rfl
  · cases l with
    | startRun r t b =>
      exact hkeep fun x s' hx => startRun_certificates hx
    | touchRun r t => simp only [SC20State.perform]; split <;> rfl
    | prepareNew c r t policy =>
      refine hkeep fun x s' hx => ?_
      cases x with
      | none => rw [SC20State.prepareNew_none hx]
      | some p => exact (prepareNew_inserts hx).1
    | prepareRetry c r t =>
      refine hkeep fun x s' hx => ?_
      cases x with
      | none => rw [SC20State.prepareRetry_none hx]
      | some p => exact prepareRetry_certificates hx
    | finalize p d =>
      refine hkeep fun x s' hx => ?_
      obtain ⟨-, -, -, -, -, -, ⟨-, rfl⟩ | ⟨-, f, g, rfl, -, -⟩⟩ := SC20State.finalize_ok hx <;> rfl
    | finishRun r t result policy =>
      refine hkeepUnit fun s' hx => ?_
      obtain ⟨run, row, -, rfl, -⟩ := SC20State.finishRun_ok hx
      rfl
    | recordUnhandledFailure r t exc =>
      refine hkeepUnit fun s' hx => ?_
      rcases SC20State.recordUnhandledFailure_ok hx with rfl | ⟨run, row, -, rfl, -⟩ <;> rfl
    | _ => rfl

/-- Only one event writes a certificate. -/
theorem handle_certificates (s : SC20State) (e : SC20Event) :
    (s.handle e).certificates = s.certificates ∨ ∃ c x, e = .saveCertificate c x := by
  have hrow : ∀ (r : RunId) (f : AutomationRun → AutomationRun),
      (s.updateRow r f).certificates = s.certificates := by
    intro r f
    unfold SC20State.updateRow
    split <;> rfl
  cases e with
  | saveCertificate c x => exact .inr ⟨c, x, rfl⟩
  | prepareScheduled competence baseDate now =>
    refine .inl ?_
    simp only [SC20State.handle, SC20State.prepareScheduled]
    split
    · rfl
    · split
      · split <;> rfl
      · rfl
  | createRun => exact .inl rfl
  | _ => exact .inl (hrow _ _)

/-- A run that starts keeps its parameters. -/
theorem startRun_row {pid : ℕ} {r : RunId} {t : SuppliedTaskId} {b : Bool} {now : ℕ}
    {run : SC20Run} (h : s.startRun pid r t b now = .ok ((run, true), s')) :
    s'.baseOf r = some run.baseDate ∧ ∃ row, s.runs r = some row ∧ run.baseDate = row.baseDate ∧
      run.retryCommunicationId = row.retryCommunicationId := by
  unfold SC20State.startRun at h
  split at h
  · cases h
  · next row hrow =>
    split at h
    · obtain ⟨s'', -, hs⟩ := Py.bind_eq_ok.1 h
      cases hs
    · cases h
    · cases h
    · obtain ⟨s'', -, hs⟩ := Py.bind_eq_ok.1 h
      cases hs
    · next hstart =>
      obtain ⟨hx, rfl⟩ := Prod.mk.inj (Except.ok.inj h)
      obtain ⟨rfl, -⟩ := Prod.mk.inj hx
      refine ⟨by simp [SC20State.baseOf, SC20State.setRun], row, hrow, ?_⟩
      rcases row.start_cases t b now with hcase |
        ⟨-, ⟨x, -, hcase, -⟩ | ⟨x, -, hcase⟩ | ⟨x, -, hcase, -⟩ | ⟨x, -, -, hcase, -⟩⟩ <;>
        rw [hcase] at hstart <;> cases hstart
      exact ⟨rfl, rfl⟩

end Moves

section Programs

/-- What a process may still do once its selection is made, or when it makes none. -/
def SC20Process.Allowed (k : SC20Process) (s : SC20State) : SC20Label → Prop
  | .expiringBetween .. => False
  | .prepareNew c r _ policy => r = k.run ∧ policy = k.policy ∧ ∃ b, s.baseOf k.run = some b ∧
      s.Expiring b (b + k.policy.windowDays) c
  | _ => True

/-- The execution after `_start_run`. -/
def SC20Process.afterStart (k : SC20Process) (loaded : LoadedRun) : SC20Prog Unit :=
  (Prog.tryCatch (runSc20 k.certificates loaded k.policy) (handleSc20 loaded)).bind fun _ => .ret ()

/-- Where a process stands: it has not started, it is about to select, or it only reserves
certificates of its window. -/
inductive ScanStage (s : SC20State) (k : SC20Process) : SC20Prog Unit → Prop where
  | notStarted : ScanStage s k k.body
  | selecting (loaded : LoadedRun) (hrun : loaded.id = k.run)
      (hretry : loaded.retryCommunicationId = none)
      (hbase : s.baseOf k.run = some loaded.baseDate) : ScanStage s k (k.afterStart loaded)
  | reserving {p : SC20Prog Unit} (hp : p.Within (k.Allowed s)) : ScanStage s k p

variable {k : SC20Process} {s : SC20State}

/-- The actions of an execution other than its selection, its reservations and its end. -/
def SC20Label.Neutral (l : SC20Label) : Prop := ¬ l.Selects ∧ ¬ l.Finishes ∧ ∀ c, ¬ l.Reserves c

section Actions

variable {A : SC20Label → Prop} (hA : ∀ l : SC20Label, l.Neutral → A l)
include hA

theorem sendIfPrepared_within (prepared : Option PreparedDelivery) :
    (sendIfPrepared prepared).Within A := by
  cases prepared with
  | none => trivial
  | some p =>
    refine Prog.within_tryCatch ?_ fun e => ?_
    · exact Prog.within_bind (Prog.within_call.2 (hA _ ⟨id, id, fun _ => id⟩)) fun d =>
        Prog.within_call.2 (hA _ ⟨id, id, fun _ => id⟩)
    · exact Prog.within_bind (Prog.within_call.2 (hA _ ⟨id, id, fun _ => id⟩)) fun _ => trivial

theorem handleSc20_within (loaded : LoadedRun) (e : SC20Exception) :
    (handleSc20 loaded e).Within A := by
  unfold handleSc20
  split
  · exact Prog.within_bind (Prog.within_call.2 (hA _ ⟨id, id, fun _ => id⟩)) fun _ => trivial
  · exact Prog.within_bind (Prog.within_call.2 (hA _ ⟨id, id, fun _ => id⟩)) fun _ => trivial
  · trivial

/-- The handlers and the end of an execution reserve nothing. -/
theorem afterStart_within {loaded : LoadedRun} {policy : SC20Policy}
    {p : SC20Prog SC20ExecutionResult} (hp : p.Within A)
    (hfinish : ∀ result, A (.finishRun loaded.id loaded.taskId result policy)) :
    (((p.bind fun result => do
        Prog.call (SC20Label.finishRun loaded.id loaded.taskId result policy)
        Prog.ret result).tryCatch (handleSc20 loaded)).bind fun _ => Prog.ret ()).Within A := by
  refine Prog.within_bind (Prog.within_tryCatch (Prog.within_bind hp fun result => ?_)
    (handleSc20_within hA loaded)) fun _ => trivial
  exact Prog.within_bind (Prog.within_call.2 (hfinish result)) fun _ => trivial

/-- **The loop** reserves the certificates of the selection. -/
theorem scanCertificates_within {loaded : LoadedRun} {policy : SC20Policy} :
    ∀ (cs : List CertificateId) (total : SC20ExecutionResult),
      (∀ c ∈ cs, A (.prepareNew c loaded.id loaded.taskId policy)) →
      (scanCertificates loaded policy cs total).Within A := by
  intro cs
  induction cs with
  | nil => intro total _; trivial
  | cons c cs ih =>
    intro total hcs
    refine Prog.within_bind (Prog.within_call.2 (hA _ ⟨id, id, fun _ => id⟩)) fun _ => ?_
    refine Prog.within_bind (Prog.within_call.2 (hA _ ⟨id, id, fun _ => id⟩)) fun _ => ?_
    refine Prog.within_bind ?_ fun result => ih _ fun c' hc' => hcs c' (List.mem_cons_of_mem _ hc')
    exact Prog.within_bind (Prog.within_call.2 (hcs c List.mem_cons_self))
      (sendIfPrepared_within hA)

/-- A retry reserves no certificate. -/
theorem afterStart_retry {k : SC20Process} {loaded : LoadedRun} {c : CommunicationId}
    (hretry : loaded.retryCommunicationId = some c)
    (hfinish : ∀ result, A (.finishRun loaded.id loaded.taskId result k.policy)) :
    (k.afterStart loaded).Within A := by
  unfold SC20Process.afterStart runSc20
  rw [hretry]
  exact afterStart_within hA (Prog.within_bind (Prog.within_call.2 (hA _ ⟨id, id, fun _ => id⟩))
    (sendIfPrepared_within hA)) hfinish

end Actions

theorem allowed_of_neutral (l : SC20Label) (h : l.Neutral) : k.Allowed s l := by
  cases l with
  | expiringBetween => exact h.1 trivial
  | prepareNew c => exact absurd rfl (h.2.2 c)
  | _ => trivial

theorem ScanStage.mono {s' : SC20State} {p : SC20Prog Unit} (h : ScanStage s k p)
    (hbase : ∀ b, s.baseOf k.run = some b → s'.baseOf k.run = some b)
    (hallowed : p.Within (k.Allowed s) → p.Within (k.Allowed s')) : ScanStage s' k p := by
  cases h with
  | notStarted => exact .notStarted
  | selecting loaded hrun hretry hb => exact .selecting loaded hrun hretry (hbase _ hb)
  | reserving hp => exact .reserving (hallowed hp)

/-- The label stays allowed when its certificate stays in the window. -/
theorem Allowed.mono {s' : SC20State} {l : SC20Label} (h : k.Allowed s l)
    (hbase : ∀ b, s.baseOf k.run = some b → s'.baseOf k.run = some b)
    (hcert : ∀ c b, l.Reserves c → s.baseOf k.run = some b →
      s.Expiring b (b + k.policy.windowDays) c → s'.Expiring b (b + k.policy.windowDays) c) :
    k.Allowed s' l := by
  cases l with
  | prepareNew c r t policy =>
    obtain ⟨hr, hpolicy, b, hb, hexp⟩ := h
    exact ⟨hr, hpolicy, b, hbase b hb, hcert c b rfl hb hexp⟩
  | expiringBetween => exact h
  | _ => trivial

/-- **An action of another process keeps the stage.** -/
theorem ScanStage.of_certificates {s' : SC20State} {p : SC20Prog Unit} (h : ScanStage s k p)
    (hbase : ∀ b, s.baseOf k.run = some b → s'.baseOf k.run = some b)
    (hcert : s'.certificates = s.certificates) : ScanStage s' k p := by
  refine h.mono hbase fun hp => Prog.within_mono (fun l hl => ?_) hp
  refine Allowed.mono hl hbase fun c b _ _ hexp x hx => ?_
  rw [hcert] at hx
  exact hexp x hx

/-- **An admitted edit keeps the stage.** -/
theorem ScanStage.of_edit {s' : SC20State} {p : SC20Prog Unit} (h : ScanStage s k p)
    (hbase : ∀ b, s.baseOf k.run = some b → s'.baseOf k.run = some b) {c : CertificateId}
    (hother : ∀ c', c' ≠ c → s'.certificates c' = s.certificates c')
    (hedit : p.Within (fun l => ¬ l.Selects) → ¬ p.Within (fun l => ¬ l.Reserves c) →
      ∀ b, s.baseOf k.run = some b → s'.Expiring b (b + k.policy.windowDays) c) :
    ScanStage s' k p := by
  refine h.mono hbase fun hp => ?_
  have hother' : ∀ l, k.Allowed s l → ¬ l.Reserves c → k.Allowed s' l := by
    intro l hl hne
    refine Allowed.mono hl hbase fun c' b hc' _ hexp x hx => ?_
    have hc : c' ≠ c := by rintro rfl; exact hne hc'
    rw [hother c' hc] at hx
    exact hexp x hx
  by_cases hmay : p.Within fun l => ¬ l.Reserves c
  · exact Prog.within_mono (fun l hl => hother' l hl.1 hl.2) (Prog.within_and hp hmay)
  · have hselected : p.Within fun l => ¬ l.Selects := by
      refine Prog.within_mono (fun l hl hsel => ?_) hp
      cases l <;> first | exact hl | exact hsel
    refine Prog.within_mono (fun l hl => ?_) hp
    by_cases hc : l.Reserves c
    · refine Allowed.mono hl hbase fun c' b hc' hb hexp => ?_
      have heq : c' = c := by
        cases l <;> first | exact hc'.symm.trans hc | exact hc.elim
      subst heq
      exact hedit hselected hmay b hb
    · exact hother' l hl hc

/-- The execution after the answer of `_start_run`. -/
def SC20Process.started (k : SC20Process) : Except SC20Exception (SC20Run × Bool) → SC20Prog Unit
  | .error e => .raise e
  | .ok (run, execute) =>
    if execute then
      k.afterStart ⟨k.run, run.run.taskId, run.baseDate, run.retryCommunicationId⟩
    else .ret ()

theorem body_eq (k : SC20Process) :
    k.body = .act (.startRun k.run k.taskId k.redelivered) k.started := by
  refine congrArg (Prog.act (SC20Label.startRun k.run k.taskId k.redelivered)) (funext fun r => ?_)
  rcases r with e | ⟨run, _ | _⟩ <;> rfl

/-- The execution after the answer of the selection. -/
def SC20Process.selected (k : SC20Process) (loaded : LoadedRun) :
    Except SC20Exception (List CertificateId) → SC20Prog Unit
  | .error e => (handleSc20 loaded e).bind fun _ => .ret ()
  | .ok cs => (((scanCertificates loaded k.policy cs {}).bind fun result => do
      Prog.call (SC20Label.finishRun loaded.id loaded.taskId result k.policy)
      Prog.ret result).tryCatch (handleSc20 loaded)).bind fun _ => Prog.ret ()

theorem afterStart_eq (k : SC20Process) {loaded : LoadedRun}
    (hretry : loaded.retryCommunicationId = none) :
    k.afterStart loaded = .act (.expiringBetween k.certificates loaded.baseDate
      (loaded.baseDate + k.policy.windowDays)) (k.selected loaded) := by
  obtain ⟨r, t, b, retry⟩ := loaded
  obtain rfl : retry = none := hretry
  refine congrArg
    (Prog.act (SC20Label.expiringBetween k.certificates b (b + k.policy.windowDays)))
    (funext fun x => ?_)
  rcases x with e | cs <;> rfl

/-- What the query answers is in its window. -/
theorem expiringBetween_expiring {ids : List CertificateId} {a b : ℤ} {c : CertificateId}
    (hc : c ∈ s.expiringBetween ids a b) : s.Expiring a b c := by
  intro x hx
  have hany := (List.mem_filter.1 hc).2
  rw [hx] at hany
  simp only [Option.any_some, Bool.and_eq_true, beq_iff_eq, decide_eq_true_eq] at hany
  exact ⟨hany.1.1, hany.1.2, hany.2⟩

theorem sem_expiring_ok {pid : ℕ} {ids : List CertificateId} {a b : ℤ} {i : SC20Fate ι}
    {s' : SC20State} {cs : List CertificateId}
    (h : SC20State.sem gateway pid (.expiringBetween ids a b) i s = (.ok cs, s')) :
    cs = s.expiringBetween ids a b := by
  unfold SC20State.sem at h
  split at h
  · cases h
  · exact (Except.ok.inj (Prod.mk.inj h).1).symm

/-- **One action of the process itself.** -/
theorem ScanStage.act {s : SC20State} {pid : ℕ} {l : SC20Label}
    {nxt : Except SC20Exception l.Resp → SC20Prog Unit} (h : ScanStage s k (.act l nxt))
    (i : SC20Fate ι)
    (hbase : ∀ b, s.baseOf k.run = some b →
      (SC20State.sem gateway pid l i s).2.baseOf k.run = some b) :
    ScanStage (SC20State.sem gateway pid l i s).2 k (nxt (SC20State.sem gateway pid l i s).1) := by
  have hcert := @sem_certificates ι gateway s pid l i
  generalize hp : Prog.act l nxt = p at h
  cases h with
  | reserving hp' =>
    rw [← hp] at hp'
    exact (ScanStage.reserving (hp'.2 _)).of_certificates hbase hcert
  | notStarted =>
    rw [body_eq] at hp
    cases hp
    rcases hsem : SC20State.sem gateway pid (.startRun k.run k.taskId k.redelivered) i s with ⟨r, s'⟩
    rcases sem_commit hsem with ⟨e, rfl, -⟩ | ⟨⟨run, execute⟩, rfl, hst⟩
    · exact .reserving trivial
    cases execute with
    | false => exact .reserving trivial
    | true =>
      cases hretry : run.retryCommunicationId with
      | none => exact .selecting _ rfl hretry (startRun_row hst).1
      | some c => exact .reserving (afterStart_retry allowed_of_neutral hretry fun _ => trivial)
  | selecting loaded hrun hretry hb =>
    rw [afterStart_eq k hretry] at hp
    cases hp
    rcases hsem : SC20State.sem gateway pid (.expiringBetween k.certificates loaded.baseDate
      (loaded.baseDate + k.policy.windowDays)) i s with ⟨r, s'⟩
    have hs : s' = s := sem_expiring hsem
    subst hs
    cases r with
    | error e =>
      exact .reserving (Prog.within_bind (handleSc20_within allowed_of_neutral loaded e)
        fun _ => trivial)
    | ok cs =>
      refine .reserving (afterStart_within allowed_of_neutral
        (scanCertificates_within allowed_of_neutral cs {} fun c hc => ?_) fun _ => trivial)
      rw [sem_expiring_ok hsem] at hc
      exact ⟨hrun, rfl, _, hb, expiringBetween_expiring hc⟩

end Programs

section Runs

/-- **The invariant**: the outline of the executions, and the stage of each process. -/
def ScansKept (gateway : NotificationGateway ι) (cfg : SC20Config) : Prop :=
  (sc20Outline gateway False).Holds (sc20System gateway) cfg ∧
    ∀ pid k p, cfg.procs pid = some (k, p) → ScanStage cfg.shared k p

/-- What a move does to the base dates. -/
theorem ScansKept.baseOf {cfg : SC20Config} (h : ScansKept gateway cfg) {who : Option (ℕ × SC20Label)}
    {s' : SC20State} (hc : SC20Change cfg.shared who s') {r : RunId} {b : ℤ}
    (hb : cfg.shared.baseOf r = some b) : s'.baseOf r = some b :=
  hc.baseOf h.1.1.fresh hb

/-- What a choice does to the tables, and the execution that does it. -/
theorem next_change (gateway : NotificationGateway ι) (cfg : SC20Config) (x : SC20Choice ι) :
    ∃ who, SC20Change cfg.shared who ((sc20System gateway).next cfg x).shared ∧
      ∀ pid l, who = some (pid, l) → ∃ i k nxt, x = .act pid i ∧
        cfg.procs pid = some (k, .act l nxt) := by
  cases x with
  | start k => exact ⟨none, .same _, fun _ _ h => by cases h⟩
  | env e => exact ⟨none, SC20State.event_change e, fun _ _ h => by cases h⟩
  | crash pid =>
    refine ⟨none, ?_, fun _ _ h => by cases h⟩
    have hkept : ((sc20System gateway).next cfg (.crash pid)).shared = cfg.shared := by
      simp only [System.next]
      split <;> rfl
    rw [hkept]
    exact .same _
  | act pid i =>
    cases hmove : cfg.move? (.act pid i : SC20Choice ι) with
    | none =>
      refine ⟨none, ?_, fun _ _ h => by cases h⟩
      rw [System.next_eq_self hmove (by simp)]
      exact .same _
    | some m =>
      obtain ⟨k, l, nxt, hproc, -⟩ := System.move?_act hmove
      refine ⟨some (pid, l), ?_, fun pid' l' h => ?_⟩
      · simp only [System.next, hproc]
        exact SC20State.sem_change pid l i
      · obtain ⟨rfl, rfl⟩ := Prod.mk.inj (Option.some.inj h)
        exact ⟨i, k, nxt, rfl, hproc⟩

/-- Only one choice writes a certificate. -/
theorem next_certificates (gateway : NotificationGateway ι) (cfg : SC20Config) (x : SC20Choice ι) :
    ((sc20System gateway).next cfg x).shared.certificates = cfg.shared.certificates ∨
      ∃ c new, x = .env (.saveCertificate c new) := by
  cases x with
  | start k => exact .inl rfl
  | env e =>
    rcases handle_certificates cfg.shared e with hsame | ⟨c, new, rfl⟩
    · exact .inl hsame
    · exact .inr ⟨c, new, rfl⟩
  | crash pid =>
    refine .inl ?_
    simp only [System.next]
    split <;> rfl
  | act pid i =>
    refine .inl ?_
    simp only [System.next]
    split
    · exact sem_certificates pid _ i
    · rfl

/-- **One choice of an admitted run.** -/
theorem ScansKept.next {cfg : SC20Config} (h : ScansKept gateway cfg) (x : SC20Choice ι)
    (hx : EditKeepsSelected cfg x) :
    ReservesExpiring gateway cfg x ∧ ScansKept gateway ((sc20System gateway).next cfg x) := by
  have hholds : (sc20Outline gateway False).Holds (sc20System gateway)
      ((sc20System gateway).next cfg x) :=
    Outline.Holds.next (sc20_sound gateway False) h.1 fun _ _ => False.elim
  obtain ⟨who, hchange, hwho⟩ := next_change gateway cfg x
  refine ⟨?_, hholds, ?_⟩
  · intro y hy hnew
    obtain ⟨_, c, r, t, policy, p, heq, hprepared⟩ := hchange.newCommunication hy hnew
    obtain ⟨i, k, nxt, rfl, hproc⟩ := hwho _ _ heq
    -- only a process that has selected reserves
    have hstage := h.2 _ k _ hproc
    generalize hp : Prog.act _ nxt = q at hstage
    cases hstage with
    | notStarted => rw [body_eq] at hp; cases hp
    | selecting loaded hrun hretry hb => rw [afterStart_eq k hretry] at hp; cases hp
    | reserving hwithin =>
      rw [← hp] at hwithin
      obtain ⟨rfl, rfl, b, hb, hexp⟩ := hwithin.1
      obtain ⟨-, certificate, new, hcert, hkey, hfirst, hcomms⟩ := prepareNew_inserts hprepared
      have hmem : y ∈ cfg.shared.communications ++ [new] := hcomms ▸ hy
      rcases List.mem_append.1 hmem with hold | hy
      · exact absurd rfl (hnew y hold)
      obtain rfl := List.mem_singleton.1 hy
      exact ⟨_, k, _, i, b, certificate, rfl, hproc, hfirst, hb, hkey ▸ hcert, hexp _ hcert⟩
  · intro q k' p' hq
    have hbase : ∀ b, cfg.shared.baseOf k'.run = some b →
        ((sc20System gateway).next cfg x).shared.baseOf k'.run = some b :=
      fun b hb => h.baseOf hchange hb
    rcases System.next_proc hq with hsame | ⟨-, rfl⟩ | ⟨i, l, nxt, rfl, hproc, rfl, hshared⟩
    · have hstage := h.2 q k' p' hsame
      rcases next_certificates gateway cfg x with hkept | ⟨c, new, rfl⟩
      · exact hstage.of_certificates hbase hkept
      · refine hstage.of_edit hbase (c := c) (fun c' hne => Function.update_of_ne hne _ _) ?_
        intro hselected hmay b hb z hz
        have hnew : new = some z := by
          rw [← hz]
          show new = Function.update cfg.shared.certificates c new c
          simp
        subst hnew
        exact hx q k' b ⟨p', hsame, hselected, hmay⟩ hb
    · exact .notStarted
    · rw [hshared] at hbase ⊢
      exact (h.2 q k' _ hproc).act i hbase

/-- **Only certificates in the window are reserved**, in every run whose edits keep the selected
certificates in their window. -/
theorem run_reservesExpiring (gateway : NotificationGateway ι)
    (certificates : CertificateId → Option DigitalCertificate) (xs : List (SC20Choice ι))
    (hxs : (sc20System gateway).RunEach EditKeepsSelected
      (Config.idle (SC20State.initial certificates)) xs) :
    (sc20System gateway).RunEach (ReservesExpiring gateway)
      (Config.idle (SC20State.initial certificates)) xs := by
  refine System.RunEach.of_inv (I := ScansKept gateway) (fun cfg x h hx => h.next x hx) ?_ hxs
  exact ⟨Outline.holds_idle _ _ (initial_kept False certificates), fun pid k p hp => by cases hp⟩

end Runs

section EditedCertificate

/-- The execution of the first run of `oneCertificate`. -/
def firstScan : SC20Process where
  certificates := [0]
  run := 0
  taskId := .uuid 0
  redelivered := false

/-- A scan selects the only certificate, which is saved before its turn comes. -/
def selectThenSave (x : DigitalCertificate) : List (SC20Choice MailFate) :=
  [.env (.createRun .manual 0 none 0), .start firstScan, .act 0 { provider := ⟨true, none⟩ },
    .act 0 { provider := ⟨true, none⟩ }, .env (.saveCertificate 0 (some x)),
    .act 0 { provider := ⟨true, none⟩ }, .act 0 { provider := ⟨true, none⟩ },
    .act 0 { provider := ⟨true, none⟩ }]

/-- A renewal that still expires in the window is admitted. -/
theorem run_reservesExpiring_moved :
    (sc20System (djangoEmailGateway fun _ => "digest")).RunEach
      (ReservesExpiring (djangoEmailGateway fun _ => "digest"))
      (Config.idle (SC20State.initial oneCertificate))
      (selectThenSave { expiringCertificate with validUntil := 45 }) := by
  refine run_reservesExpiring _ _ _ ⟨trivial, trivial, trivial, trivial, ?_, trivial, trivial, trivial,
    trivial⟩
  rintro pid k b ⟨p, hproc, -, -⟩ hb
  by_cases hpid : pid = 0
  · subst hpid
    obtain rfl : firstScan = k := (Prod.mk.inj (Option.some.inj hproc)).1
    obtain rfl : 0 = b := Option.some.inj hb
    decide
  · have hnone : Function.update (Function.update (Function.update (fun _ => none) 0 _) 0 _) 0 _ pid =
        some (k, p) := hproc
    simp [hpid] at hnone

/-- **The certificate is revoked after the selection**, and the scan reserves its communication. -/
theorem reserves_revoked :
    ¬ ∀ xs : List (SC20Choice MailFate), (sc20System (djangoEmailGateway fun _ => "digest")).RunEach
      (ReservesExpiring (djangoEmailGateway fun _ => "digest"))
      (Config.idle (SC20State.initial oneCertificate)) xs := by
  intro h
  obtain ⟨-, -, -, -, -, -, -, hlast, -⟩ :=
    h (selectThenSave { expiringCertificate with status := .revoked })
  obtain ⟨-, -, -, -, -, certificate, -, -, -, -, hcert, hactive, -⟩ := hlast
    { id := 0, key := ⟨0, 30, .email, "sc20-60-days-v1"⟩, recipient := "ana@cliente", firstRun := 0,
      latestRun := 0 } (by decide) (by decide)
  obtain rfl := Option.some.inj hcert
  cases hactive

end EditedCertificate

end SheepContabil
