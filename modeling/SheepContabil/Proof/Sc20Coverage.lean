import SheepContabil.Proof.Sc20Reservation
import SheepContabil.Proof.Sc06Dates

/-!
# SC-20: the monthly runs reach every certificate

The scheduler creates a run on the first day of each month, and a scan selects the certificates that
expire within 60 days of it.

* `firstOfMonth`: the base dates of the scheduled runs, at most 31 days apart.
* `CoverStage`: where an execution stands towards one expiration.
* `CoverKept`: the invariant of a month.
* `expiry_covered`: **exactly one communication, by a run of the first of a month between 30 and 60
  days before the expiration.**
-/

namespace SheepContabil

open Conc

section Calendar

/-- The first day of a month, the months counted from January of the year 1. -/
def firstOfMonth (n : ℕ) : ℤ :=
  ((SC06.daysBeforeYear (n / 12 + 1) + SC06.daysThroughMonth (n / 12 + 1) (n % 12) + 1 : ℕ) : ℤ)

theorem daysInMonth_bounds (year month : ℕ) :
    28 ≤ SC06.daysInMonth year month ∧ SC06.daysInMonth year month ≤ 31 := by
  unfold SC06.daysInMonth
  split
  · split <;> omega
  · split <;> omega

/-- The month ends with its last day. -/
theorem firstOfMonth_succ (n : ℕ) :
    firstOfMonth (n + 1) = firstOfMonth n + SC06.daysInMonth (n / 12 + 1) (n % 12 + 1) := by
  unfold firstOfMonth
  by_cases hdec : n % 12 = 11
  · have hyear : (n + 1) / 12 = n / 12 + 1 := by omega
    have hmonth : (n + 1) % 12 = 0 := by omega
    have htwelve := SC06.daysThroughMonth_twelve (n / 12 + 1)
    have hlast : SC06.daysThroughMonth (n / 12 + 1) 12 =
      SC06.daysThroughMonth (n / 12 + 1) 11 + SC06.daysInMonth (n / 12 + 1) 12 := rfl
    have hnone : SC06.daysThroughMonth (n / 12 + 1 + 1) 0 = 0 := rfl
    rw [hyear, hmonth, hdec, SC06.daysBeforeYear_succ (Nat.le_add_left 1 _), hnone, Nat.add_assoc
      (SC06.daysBeforeYear (n / 12 + 1)) 365, ← htwelve, hlast]
    push_cast
    ring
  · have hyear : (n + 1) / 12 = n / 12 := by omega
    have hmonth : (n + 1) % 12 = n % 12 + 1 := by omega
    rw [hyear, hmonth, SC06.daysThroughMonth]
    push_cast
    ring

theorem firstOfMonth_mono {m n : ℕ} (h : m ≤ n) : firstOfMonth m ≤ firstOfMonth n := by
  induction h with
  | refl => exact le_refl _
  | step _ ih => rw [Nat.succ_eq_add_one, firstOfMonth_succ]; omega

end Calendar

section Tables

variable {s s' : SC20State}

/-- What no transaction changes in a communication. -/
def CertificateCommunication.born (y : CertificateCommunication) : CommunicationKey × RunId :=
  (y.key, y.firstRun)

/-- After a reservation that answers, the certificate has a communication. -/
theorem prepareNew_key {c : CertificateId} {r : RunId} {t : Option TaskId} {policy : SC20Policy}
    {answer : Option PreparedDelivery} {x : DigitalCertificate}
    (h : s.prepareNew c r t policy = .ok (answer, s')) (hx : s.certificates c = some x) :
    ∃ y ∈ s'.communications, y.key = ⟨c, x.validUntil, x.preferredChannel, policy.key⟩ := by
  unfold SC20State.prepareNew at h
  obtain ⟨run, hrun, h⟩ := Py.bind_eq_ok.1 h
  simp only [hx] at h
  split at h
  · next hany =>
    obtain ⟨-, rfl⟩ := Prod.mk.inj (Except.ok.inj h)
    obtain ⟨y, hy, hkey⟩ := List.any_eq_true.1 hany
    exact ⟨y, hy, by simpa using hkey⟩
  · obtain ⟨-, rfl⟩ := Prod.mk.inj (Except.ok.inj h)
    exact ⟨_, List.mem_append_right _ (List.mem_singleton_self _), rfl⟩

/-- The communication a reservation creates. -/
theorem prepareNew_new {c : CertificateId} {r : RunId} {t : Option TaskId} {policy : SC20Policy}
    {p : PreparedDelivery} (h : s.prepareNew c r t policy = .ok (some p, s')) :
    ∃ x new, s.certificates c = some x ∧
      new.key = ⟨c, x.validUntil, x.preferredChannel, policy.key⟩ ∧ new.firstRun = r ∧
      (∀ y ∈ s.communications, y.key ≠ new.key) ∧
      s'.communications = s.communications ++ [new] := by
  unfold SC20State.prepareNew at h
  obtain ⟨run, hrun, h⟩ := Py.bind_eq_ok.1 h
  split at h
  · cases h
  · next locked hlocked =>
    simp only at h
    split at h
    · cases h
    · next hkey =>
      obtain ⟨-, rfl⟩ := Prod.mk.inj (Except.ok.inj h)
      refine ⟨locked, _, hlocked, rfl, rfl, ?_, rfl⟩
      intro y hy heq
      apply hkey
      simp only [List.any_eq_true, beq_iff_eq]
      exact ⟨y, hy, heq⟩

theorem prepareRetry_firstRun {c : CommunicationId} {r : RunId} {t : Option TaskId}
    {p : PreparedDelivery} (h : s.prepareRetry c r t = .ok (some p, s')) :
    ∃ old new, s.communication? c = some old ∧ new.born = old.born ∧
      s'.communications = s.communications.map fun x => if x.id = c then new else x := by
  unfold SC20State.prepareRetry at h
  obtain ⟨run, hrun, h⟩ := Py.bind_eq_ok.1 h
  split at h
  · cases h
  · next old hold =>
    split at h
    · cases h
    · next certificate hcert =>
      split at h
      · cases h
      · simp only at h
        split at h
        · cases h
        · obtain ⟨-, rfl⟩ := Prod.mk.inj (Except.ok.inj h)
          refine ⟨old, { old with
            latestRun := r, recipient := certificate.recipientFor old.key.channel
            status := .pending, sentAt := none, lastError := "" }, hold, rfl, rfl⟩

theorem finalize_born {p : PreparedDelivery} {d : DeliveryResult} {now : ℕ}
    {res : SC20ExecutionResult} (h : s.finalize p d now = .ok (res, s')) :
    s'.communications.map CertificateCommunication.born =
      s.communications.map CertificateCommunication.born := by
  unfold SC20State.finalize at h
  obtain ⟨run, -, h⟩ := Py.bind_eq_ok.1 h
  split at h
  · cases h
  · split at h
    · cases h
    · split at h
      · obtain ⟨-, rfl⟩ := Prod.mk.inj (Except.ok.inj h); rfl
      · obtain ⟨-, rfl⟩ := Prod.mk.inj (Except.ok.inj h); rfl
      · split at h
        · cases h
        · split at h
          · cases h
          · obtain ⟨-, rfl⟩ := Prod.mk.inj (Except.ok.inj h)
            simp only [SC20State.updateCommunication, SC20State.updateAttempt, List.map_map]
            refine List.map_congr_left fun y _ => ?_
            simp only [Function.comp_apply]
            split <;> rfl

/-- **What is created stays, and only a reservation creates.** -/
theorem SC20Change.born {who : Option (ℕ × SC20Label)} (hc : SC20Change s who s')
    (hkept : TablesKept s) :
    s'.communications.map CertificateCommunication.born =
        s.communications.map CertificateCommunication.born ∨
      ∃ pid c r t policy p, who = some (pid, .prepareNew c r t policy) ∧
        s.prepareNew c r t policy = .ok (some p, s') := by
  cases hc with
  | preparedNew pid hp => exact .inr ⟨pid, _, _, _, _, _, rfl, hp⟩
  | preparedRetry pid hp =>
    obtain ⟨old, new, hold, hborn, hcomms⟩ := prepareRetry_firstRun hp
    obtain ⟨hmem, hid⟩ := communication?_some hold
    have hnodup : (s.communications.map (·.id)).Nodup := by
      rw [hkept.communicationIds]
      exact List.nodup_range
    refine .inl ?_
    rw [hcomms, List.map_map]
    refine List.map_congr_left fun y hy => ?_
    simp only [Function.comp_apply]
    split
    · next heq =>
      rw [hborn, List.inj_on_of_nodup_map hnodup hy hmem (heq.trans hid.symm)]
    · rfl
  | finalized pid hf => exact .inl (finalize_born hf)
  | superseded _ hlog => rcases SC20State.recordIgnored_ok hlog with rfl | rfl <;> exact .inl rfl
  | terminal _ _ _ _ hlog =>
    rcases SC20State.recordIgnored_ok hlog with rfl | rfl <;> exact .inl rfl
  | finished _ hf =>
    obtain ⟨run, row, -, rfl, -⟩ := SC20State.finishRun_ok hf
    exact .inl rfl
  | failed _ hf =>
    rcases SC20State.recordUnhandledFailure_ok hf with rfl | ⟨run, row, -, rfl, -⟩ <;> exact .inl rfl
  | _ => exact .inl rfl

end Tables

variable {ι : Type} {gateway : NotificationGateway ι}

section Programs

theorem handleSc20_quiet (loaded : LoadedRun) (e : SC20Exception) :
    (handleSc20 loaded e).Within fun l => ¬ l.Finishes :=
  handleSc20_within (fun _ h => h.2.1) loaded e

/-- **The loop ends only after the reservation** of each certificate of the selection. -/
theorem scanCertificates_awaits {loaded : LoadedRun} {policy : SC20Policy} {c : CertificateId} :
    ∀ (cs : List CertificateId) (total : SC20ExecutionResult), c ∈ cs →
      (scanCertificates loaded policy cs total).Awaits (fun l => l.Reserves c)
        (fun l => l.Finishes) fun _ => False := by
  intro cs
  induction cs with
  | nil => intro total h; cases h
  | cons c' cs ih =>
    intro total hc
    have hquiet : ∀ l : SC20Label, l.Neutral → ¬ l.Finishes := fun _ h => h.2.1
    refine Prog.awaits_bind (Prog.awaits_of_within (Prog.within_call.2 id)) fun _ _ => ?_
    refine Prog.awaits_bind (Prog.awaits_of_within (Prog.within_call.2 id)) fun _ _ => ?_
    by_cases heq : c' = c
    · refine Prog.awaits_bind (Prog.awaits_bind (Prog.awaits_mark heq id) fun _ h => False.elim h)
        fun _ h => False.elim h
    · have hin : c ∈ cs := (List.mem_cons.1 hc).resolve_left (Ne.symm heq)
      refine Prog.awaits_bind (Prog.awaits_of_within ?_) fun result _ => ih _ hin
      exact Prog.within_bind (Prog.within_call.2 id) (sendIfPrepared_within hquiet)

end Programs

section Expiry

variable (c : CertificateId) (d : ℤ) (ch : CommunicationChannel)

/-- The key of the communication of the certificate for this expiration. -/
def expiryKey : CommunicationKey := ⟨c, d, ch, ({} : SC20Policy).key⟩

/-- The communication exists. -/
def SC20State.Notified (s : SC20State) : Prop := ∃ y ∈ s.communications, y.key = expiryKey c d ch

/-- The certificate, where it is registered. -/
def SC20State.Holds (s : SC20State) : Prop :=
  ∀ x, s.certificates c = some x →
    x.status = .active ∧ x.validUntil = d ∧ x.preferredChannel = ch

/-- A scheduled run of a month up to this one. -/
def SC20State.Scheduled (s : SC20State) (n : ℕ) (r : RunId) : Prop :=
  ∃ run m, s.runs r = some run ∧ run.run.trigger = .scheduled ∧ run.retryCommunicationId = none ∧
    m ≤ n ∧ run.baseDate = firstOfMonth m

/-- A choice of a month: the certificate is registered from 60 days before its expiration at the
latest and stays as it is, and only scheduled runs execute, with the standard policy and over the
whole table. -/
structure InMonth (n : ℕ) (cfg : SC20Config) (x : SC20Choice ι) : Prop where
  registered : d - 60 ≤ firstOfMonth n → (cfg.shared.certificates c).isSome
  stays : cfg.shared.Holds c d ch
  executes : ∀ pid i k p, x = .act pid i → cfg.procs pid = some (k, p) →
    cfg.shared.Scheduled n k.run ∧ k.policy = {} ∧
      ((cfg.shared.certificates c).isSome → c ∈ k.certificates)

/-- What an execution with base date `b` may reserve. -/
def SC20Process.Covers (k : SC20Process) (b : ℤ) : SC20Label → Prop
  | .prepareNew c' r _ policy => r = k.run ∧ policy = {} ∧ (c' = c → d - 60 ≤ b)
  | _ => True

/-- Where an execution stands: it has not started, it is about to select, or it only reserves, and
with the expiration in its window it does not finish before the communication exists. -/
inductive CoverStage (s : SC20State) (k : SC20Process) : SC20Prog Unit → Prop where
  | notStarted : CoverStage s k k.body
  | selecting (loaded : LoadedRun) (hrun : loaded.id = k.run)
      (hretry : loaded.retryCommunicationId = none)
      (hbase : s.baseOf k.run = some loaded.baseDate) : CoverStage s k (k.afterStart loaded)
  | reserving {p : SC20Prog Unit} (b : ℤ) (hbase : s.baseOf k.run = some b)
      (hp : p.Within (k.Covers c d b))
      (hcover : d - 60 ≤ b → b ≤ d → s.Notified c d ch ∨
        p.Awaits (fun l => l.Reserves c) (fun l => l.Finishes) fun _ => True) : CoverStage s k p

variable {c d ch} {s s' : SC20State} {k : SC20Process} {p : SC20Prog Unit} {n : ℕ}

theorem CoverStage.mono (h : CoverStage c d ch s k p)
    (hbase : ∀ b, s.baseOf k.run = some b → s'.baseOf k.run = some b)
    (hnotified : s.Notified c d ch → s'.Notified c d ch) : CoverStage c d ch s' k p := by
  cases h with
  | notStarted => exact .notStarted
  | selecting loaded hrun hretry hb => exact .selecting loaded hrun hretry (hbase _ hb)
  | reserving b hb hp hcover =>
    exact .reserving b (hbase b hb) hp fun hlow hhigh => (hcover hlow hhigh).imp_left hnotified

theorem covers_of_neutral {b : ℤ} (l : SC20Label) (h : l.Neutral) : k.Covers c d b l := by
  cases l with
  | prepareNew c' => exact absurd rfl (h.2.2 c')
  | _ => trivial

theorem mem_expiringBetween {ids : List CertificateId} {a b : ℤ} :
    c ∈ s.expiringBetween ids a b ↔
      c ∈ ids ∧ ∃ x, s.certificates c = some x ∧ x.ExpiringBetween a b := by
  unfold SC20State.expiringBetween DigitalCertificate.ExpiringBetween
  rw [List.mem_filter]
  cases s.certificates c with
  | none => simp
  | some x => simp [and_assoc]

/-- A reservation of the certificate that answers leaves it with its communication. -/
theorem notified_of_prepareNew {c' : CertificateId} {r : RunId} {t : Option TaskId}
    {policy : SC20Policy} {pid : ℕ} {i : SC20Fate ι} {answer : Option PreparedDelivery}
    (hsem : SC20State.sem gateway pid (.prepareNew c' r t policy) i s = (.ok answer, s'))
    (hc : c' = c) (hpolicy : policy = {}) (hholds : s.Holds c d ch)
    (hsome : (s.certificates c).isSome) : s'.Notified c d ch := by
  subst hc hpolicy
  obtain ⟨x, hx⟩ := Option.isSome_iff_exists.1 hsome
  obtain ⟨-, hvalid, hchannel⟩ := hholds x hx
  rcases sem_commit hsem with ⟨e, he, -⟩ | ⟨a, ha, hprep⟩
  · cases he
  · obtain ⟨y, hy, hkey⟩ := prepareNew_key hprep hx
    exact ⟨y, hy, by rw [hkey, hvalid, hchannel]; rfl⟩

/-- **One action of an execution** of the month. -/
theorem CoverStage.act {pid : ℕ} {l : SC20Label} {nxt : Except SC20Exception l.Resp → SC20Prog Unit}
    (h : CoverStage c d ch s k (.act l nxt)) (i : SC20Fate ι)
    (hbase : ∀ b, s.baseOf k.run = some b →
      (SC20State.sem gateway pid l i s).2.baseOf k.run = some b)
    (hnotified : s.Notified c d ch → (SC20State.sem gateway pid l i s).2.Notified c d ch)
    (hregistered : d - 60 ≤ firstOfMonth n → (s.certificates c).isSome)
    (hholds : s.Holds c d ch) (hscheduled : s.Scheduled n k.run) (hpolicy : k.policy = {})
    (hids : (s.certificates c).isSome → c ∈ k.certificates) :
    CoverStage c d ch (SC20State.sem gateway pid l i s).2 k
      (nxt (SC20State.sem gateway pid l i s).1) := by
  obtain ⟨row, m, hrow, -, hretry, hm, hfirst⟩ := hscheduled
  have hb : s.baseOf k.run = some row.baseDate := by rw [SC20State.baseOf, hrow]; rfl
  -- a base date in the last 60 days is of a month in which the certificate is registered
  have hsome : ∀ b, s.baseOf k.run = some b → d - 60 ≤ b → (s.certificates c).isSome := by
    intro b hb' hlow
    have hmono := firstOfMonth_mono hm
    have hbm : b = firstOfMonth m := by rw [hb] at hb'; rw [← Option.some.inj hb', hfirst]
    exact hregistered (by omega)
  generalize hp : Prog.act l nxt = q at h
  cases h with
  | notStarted =>
    rw [body_eq] at hp
    cases hp
    rcases hsem : SC20State.sem gateway pid (.startRun k.run k.taskId k.redelivered) i s with ⟨r, s'⟩
    rw [hsem] at hbase
    have hended : ∀ {p : SC20Prog Unit}, p.done = true → CoverStage c d ch s' k p := by
      intro p hdone
      refine .reserving _ (hbase _ hb) ?_ fun _ _ => .inr ?_
      · cases p <;> trivial
      · cases p <;> trivial
    rcases sem_commit hsem with ⟨e, rfl, -⟩ | ⟨⟨run, execute⟩, rfl, hst⟩
    · exact hended rfl
    cases execute with
    | false => exact hended rfl
    | true =>
      obtain ⟨hbase', row', hrow', -, hkeeps⟩ := startRun_row hst
      rw [hrow] at hrow'
      obtain rfl := Option.some.inj hrow'
      exact .selecting _ rfl (hkeeps.trans hretry) hbase'
  | selecting loaded hrun hnone hloaded =>
    rw [afterStart_eq k hnone] at hp
    cases hp
    rcases hsem : SC20State.sem gateway pid (.expiringBetween k.certificates loaded.baseDate
      (loaded.baseDate + k.policy.windowDays)) i s with ⟨r, s'⟩
    have hs : s' = s := sem_expiring hsem
    subst hs
    cases r with
    | error e =>
      refine .reserving _ hloaded (Prog.within_bind (handleSc20_within covers_of_neutral loaded e)
        fun _ => trivial) fun _ _ => .inr ?_
      exact Prog.awaits_bind (Prog.awaits_of_within (handleSc20_quiet loaded e)) fun _ _ => trivial
    | ok cs =>
      obtain rfl := sem_expiring_ok hsem
      refine .reserving _ hloaded (afterStart_within covers_of_neutral
        (scanCertificates_within covers_of_neutral _ {} fun c' hc' => ?_) fun _ => trivial)
        fun hlow hhigh => .inr ?_
      · refine ⟨hrun, hpolicy, ?_⟩
        rintro rfl
        obtain ⟨-, x, hx, -, -, hhigh⟩ := mem_expiringBetween.1 hc'
        have hwindow : k.policy.windowDays = 60 := by rw [hpolicy]
        have hvalid := (hholds x hx).2.1
        rw [hwindow] at hhigh
        omega
      · -- the certificate is selected, so its reservation stands before the end
        have hsome := hsome _ hloaded hlow
        obtain ⟨x, hx⟩ := Option.isSome_iff_exists.1 hsome
        obtain ⟨hactive, hvalid, -⟩ := hholds x hx
        have hwindow : k.policy.windowDays = 60 := by rw [hpolicy]
        have hmem : c ∈ s'.expiringBetween k.certificates loaded.baseDate
            (loaded.baseDate + k.policy.windowDays) := by
          refine mem_expiringBetween.2 ⟨hids hsome, x, hx, hactive, ?_, ?_⟩
          · rw [hvalid]; exact hhigh
          · rw [hvalid, hwindow]; push_cast; omega
        refine Prog.awaits_bind (Prog.awaits_tryCatch (Prog.awaits_bind
          (scanCertificates_awaits _ {} hmem) fun _ h => False.elim h) fun e =>
            Prog.awaits_of_within (handleSc20_quiet loaded e)) fun _ _ => trivial
  | reserving b hb' hp' hcover =>
    rw [← hp] at hp' hcover
    refine .reserving b (hbase b hb') (hp'.2 _) fun hlow hhigh => ?_
    rcases hcover hlow hhigh with hdone | hawaits
    · exact .inl (hnotified hdone)
    rcases hsem : SC20State.sem gateway pid l i s with ⟨r, s'⟩
    cases r with
    | error e => exact .inr (hawaits.2.1 e)
    | ok answer =>
      by_cases hmark : l.Reserves c
      · cases l with
        | prepareNew c' r t policy =>
          exact .inl (notified_of_prepareNew hsem hmark hp'.1.2.1 hholds (hsome b hb' hlow))
        | _ => exact hmark.elim
      · exact .inr (hawaits.2.2 hmark answer)

variable (c d ch) in
/-- **The invariant of the months**: the outline of the executions, the stage of each, and the
communications of the certificate are for this expiration, by runs 30 to 60 days before it. -/
structure CoverKept (gateway : NotificationGateway ι) (cfg : SC20Config) : Prop where
  holds : (sc20Outline gateway False).Holds (sc20System gateway) cfg
  stages : ∀ pid k p, cfg.procs pid = some (k, p) → CoverStage c d ch cfg.shared k p
  created : ∀ y ∈ cfg.shared.communications, y.key.certificate = c → y.key = expiryKey c d ch ∧
    ∃ m, cfg.shared.baseOf y.firstRun = some (firstOfMonth m) ∧ d - 60 ≤ firstOfMonth m ∧
      firstOfMonth m ≤ d - 30

/-- What is created keeps its key and its first run. -/
theorem mem_of_born (h : s'.communications.map CertificateCommunication.born =
      s.communications.map CertificateCommunication.born) {y : CertificateCommunication}
    (hy : y ∈ s'.communications) : ∃ z ∈ s.communications, z.key = y.key ∧ z.firstRun = y.firstRun := by
  have hmem := List.mem_map_of_mem (f := CertificateCommunication.born) hy
  rw [h] at hmem
  obtain ⟨z, hz, hborn⟩ := List.mem_map.1 hmem
  exact ⟨z, hz, congrArg Prod.fst hborn, congrArg Prod.snd hborn⟩

theorem SC20Change.notified {who : Option (ℕ × SC20Label)} (hc : SC20Change s who s')
    (hkept : TablesKept s) (h : s.Notified c d ch) : s'.Notified c d ch := by
  obtain ⟨y, hy, hkey⟩ := h
  rcases hc.born hkept with hborn | ⟨pid, c', r, t, policy, p, -, hprep⟩
  · obtain ⟨z, hz, hzkey, -⟩ := mem_of_born hborn.symm hy
    exact ⟨z, hz, hzkey.trans hkey⟩
  · obtain ⟨x, new, -, -, -, -, hcomms⟩ := prepareNew_new hprep
    exact ⟨y, hcomms ▸ List.mem_append_left _ hy, hkey⟩

/-- **One choice of a month** that begins up to 30 days before the expiration, or after the
communication was created. -/
theorem CoverKept.next {cfg : SC20Config} (h : CoverKept c d ch gateway cfg) {x : SC20Choice ι}
    (hx : InMonth c d ch n cfg x)
    (htime : d - 30 < firstOfMonth n → cfg.shared.Notified c d ch) :
    CoverKept c d ch gateway ((sc20System gateway).next cfg x) ∧
      (cfg.shared.Notified c d ch →
        ((sc20System gateway).next cfg x).shared.Notified c d ch) := by
  obtain ⟨who, hchange, hwho⟩ := next_change gateway cfg x
  have hkept : TablesKept cfg.shared := h.holds.1.tables
  have hbase : ∀ r b, cfg.shared.baseOf r = some b →
      ((sc20System gateway).next cfg x).shared.baseOf r = some b :=
    fun r b hb => hchange.baseOf h.holds.1.fresh hb
  have hnotified : cfg.shared.Notified c d ch →
      ((sc20System gateway).next cfg x).shared.Notified c d ch := hchange.notified hkept
  refine ⟨⟨Outline.Holds.next (sc20_sound gateway False) h.holds fun _ _ => False.elim, ?_, ?_⟩,
    hnotified⟩
  · intro q k p hq
    rcases System.next_proc hq with hsame | ⟨-, rfl⟩ | ⟨i, l, nxt, rfl, hproc, rfl, hshared⟩
    · exact (h.stages q k p hsame).mono (hbase k.run) hnotified
    · exact .notStarted
    · obtain ⟨hscheduled, hpolicy, hids⟩ := hx.executes q i k _ rfl hproc
      rw [hshared] at hbase hnotified ⊢
      exact (h.stages q k _ hproc).act i (hbase k.run) hnotified hx.registered hx.stays hscheduled
        hpolicy hids
  · intro y hy hcert
    -- a communication that was there has kept its key and its first run
    rcases hchange.born hkept with hborn | ⟨pid, c', r, t, policy, p, hact, hprep⟩
    · obtain ⟨z, hz, hkey, hfirst⟩ := mem_of_born hborn hy
      obtain ⟨hexpiry, m, hm, hwindow⟩ := h.created z hz (by rw [hkey]; exact hcert)
      exact ⟨hkey ▸ hexpiry, m, hbase _ _ (hfirst ▸ hm), hwindow⟩
    · obtain ⟨x', new, hx', hkey, hfirst, hfresh, hcomms⟩ := prepareNew_new hprep
      rw [hcomms] at hy
      rcases List.mem_append.1 hy with hold | hnew
      · obtain ⟨hexpiry, m, hm, hwindow⟩ := h.created y hold hcert
        exact ⟨hexpiry, m, hbase _ _ hm, hwindow⟩
      -- a reservation has inserted it: the outline says at which base date, and that the window
      -- of the run has been read
      obtain rfl := List.mem_singleton.1 hnew
      obtain ⟨i, k, nxt, rfl, hproc⟩ := hwho _ _ hact
      obtain ⟨⟨row, m, hrow, -, -, hm, hfirstOf⟩, -⟩ := hx.executes _ _ _ _ rfl hproc
      have hb : cfg.shared.baseOf k.run = some row.baseDate := by rw [SC20State.baseOf, hrow]; rfl
      have hstage := h.stages _ _ _ hproc
      generalize hq : Prog.act _ nxt = q at hstage
      cases hstage with
      | notStarted => rw [body_eq] at hq; cases hq
      | selecting loaded hrun hretry hb' => rw [afterStart_eq k hretry] at hq; cases hq
      | reserving b hb' hp hcover =>
        rw [← hq] at hp
        obtain ⟨rfl, rfl, hlow⟩ := hp.1
        obtain rfl : c' = c := by rw [hkey] at hcert; exact hcert
        obtain ⟨-, hvalid, hchannel⟩ := hx.stays x' hx'
        have hexpiry : y.key = expiryKey c' d ch := by rw [hkey, hvalid, hchannel]; rfl
        have hbm : b = firstOfMonth m := by
          rw [hb] at hb'
          rw [← Option.some.inj hb', hfirstOf]
        refine ⟨hexpiry, m, ?_, hbm ▸ hlow rfl, ?_⟩
        · rw [hfirst]; exact hbase _ _ (hbm ▸ hb')
        · -- in a later month a communication with this key is there already
          by_contra hlate
          have hmono := firstOfMonth_mono hm
          obtain ⟨z, hz, hzkey⟩ := htime (by omega)
          exact hfresh z hz (hzkey.trans hexpiry.symm)

/-- **A part of a month.** -/
theorem CoverKept.run {cfg : SC20Config} (h : CoverKept c d ch gateway cfg)
    {xs : List (SC20Choice ι)} (hxs : (sc20System gateway).RunEach (InMonth c d ch n) cfg xs)
    (htime : d - 30 < firstOfMonth n → cfg.shared.Notified c d ch) :
    CoverKept c d ch gateway ((sc20System gateway).run cfg xs) ∧
      (cfg.shared.Notified c d ch → ((sc20System gateway).run cfg xs).shared.Notified c d ch) := by
  induction xs generalizing cfg with
  | nil => exact ⟨h, id⟩
  | cons x xs ih =>
    obtain ⟨hnext, hnotified⟩ := h.next hxs.1 htime
    obtain ⟨hrun, hrest⟩ := ih hnext hxs.2 fun hlate => hnotified (htime hlate)
    exact ⟨hrun, fun hdone => hrest (hnotified hdone)⟩

/-- In the month an execution of the run of its first day ends normally: `_finish_run` commits. -/
def FinishesMonth (gateway : NotificationGateway ι) (n : ℕ) (cfg : SC20Config)
    (xs : List (SC20Choice ι)) : Prop :=
  ∃ before pid i after k r t result policy nxt, xs = before ++ .act pid i :: after ∧
    ((sc20System gateway).run cfg before).procs pid =
      some (k, .act (.finishRun r t result policy) nxt) ∧
    ((sc20System gateway).run cfg before).shared.baseOf k.run = some (firstOfMonth n) ∧
    (SC20State.sem gateway pid (.finishRun r t result policy) i
      ((sc20System gateway).run cfg before).shared).1 = .ok ()

/-- **A month that begins 30 to 60 days before the expiration** leaves the communication. -/
theorem CoverKept.finish {cfg : SC20Config} (h : CoverKept c d ch gateway cfg)
    {xs : List (SC20Choice ι)} (hxs : (sc20System gateway).RunEach (InMonth c d ch n) cfg xs)
    (hfinish : FinishesMonth gateway n cfg xs) (hlow : d - 60 ≤ firstOfMonth n)
    (hhigh : firstOfMonth n ≤ d - 30) :
    ((sc20System gateway).run cfg xs).shared.Notified c d ch := by
  obtain ⟨before, pid, i, after, k, r, t, result, policy, nxt, rfl, hproc, hbase, -⟩ := hfinish
  have hearly : d - 30 < firstOfMonth n → cfg.shared.Notified c d ch := fun hlate => by omega
  obtain ⟨hbefore, hafter⟩ := hxs.append
  obtain ⟨hkept, -⟩ := h.run hbefore hearly
  have hstage := hkept.stages _ _ _ hproc
  have hnotified : ((sc20System gateway).run cfg before).shared.Notified c d ch := by
    generalize hq : Prog.act _ nxt = q at hstage
    cases hstage with
    | notStarted => rw [body_eq] at hq; cases hq
    | selecting loaded hrun hretry hb' => rw [afterStart_eq k hretry] at hq; cases hq
    | reserving b hb hp hcover =>
      have hb' : b = firstOfMonth n := by rw [hb] at hbase; exact Option.some.inj hbase
      rw [← hq] at hcover
      rcases hcover (by omega) (by omega) with hdone | hawaits
      · exact hdone
      · exact absurd trivial hawaits.1
  rw [System.run_append]
  exact (hkept.run hafter fun _ => hnotified).2 hnotified

/-- The runs of consecutive months, from the configuration at the first. Each month that begins up
to 30 days before the expiration finishes its run. -/
def Monthly (c : CertificateId) (d : ℤ) (ch : CommunicationChannel)
    (gateway : NotificationGateway ι) : ℕ → SC20Config → List (List (SC20Choice ι)) → Prop
  | _, _, [] => True
  | n, cfg, xs :: months => (sc20System gateway).RunEach (InMonth c d ch n) cfg xs ∧
      (firstOfMonth n ≤ d - 30 → FinishesMonth gateway n cfg xs) ∧
      Monthly c d ch gateway (n + 1) ((sc20System gateway).run cfg xs) months

/-- **The months**: once a month begins less than 30 days before the expiration, the communication
exists. -/
theorem CoverKept.months {months : List (List (SC20Choice ι))} {cfg : SC20Config}
    (h : CoverKept c d ch gateway cfg) (hmonths : Monthly c d ch gateway n cfg months)
    (htime : d - 30 < firstOfMonth n → cfg.shared.Notified c d ch) :
    CoverKept c d ch gateway ((sc20System gateway).run cfg months.flatten) ∧
      (d - 30 < firstOfMonth (n + months.length) →
        ((sc20System gateway).run cfg months.flatten).shared.Notified c d ch) := by
  induction months generalizing n cfg with
  | nil => exact ⟨h, htime⟩
  | cons xs months ih =>
    obtain ⟨hxs, hfinish, hrest⟩ := hmonths
    obtain ⟨hkept, hnotified⟩ := h.run hxs htime
    have hnext : d - 30 < firstOfMonth (n + 1) →
        ((sc20System gateway).run cfg xs).shared.Notified c d ch := by
      intro hlate
      by_cases hearly : firstOfMonth n ≤ d - 30
      -- the month is at most 31 days long, so it begins at most 60 days before the expiration
      · have hlength := (daysInMonth_bounds (n / 12 + 1) (n % 12 + 1)).2
        rw [firstOfMonth_succ] at hlate
        exact h.finish hxs (hfinish hearly) (by omega) hearly
      · exact hnotified (htime (by omega))
    obtain ⟨hkept', hnotified'⟩ := ih hkept hrest hnext
    rw [List.flatten_cons, System.run_append]
    refine ⟨hkept', fun hlate => hnotified' ?_⟩
    rw [List.length_cons] at hlate
    rwa [Nat.add_assoc, Nat.add_comm 1]

/-- **Monthly coverage.** Over the months from one that begins at least 60 days before the expiration
to the last that begins up to 30 days before it, and after, the certificate gets exactly one
communication for its expiration, by a run of the first day of a month 30 to 60 days before. -/
theorem expiry_covered (gateway : NotificationGateway ι)
    (certificates : CertificateId → Option DigitalCertificate) (c : CertificateId) (d : ℤ)
    (ch : CommunicationChannel) (first : ℕ) (months : List (List (SC20Choice ι)))
    (hfirst : firstOfMonth first ≤ d - 60) (hlast : d - 30 < firstOfMonth (first + months.length))
    (hmonths : Monthly c d ch gateway first (Config.idle (SC20State.initial certificates)) months) :
    ∃ y, ((sc20System gateway).run (Config.idle (SC20State.initial certificates))
          months.flatten).shared.communications.filter (fun y =>
            y.key.certificate == c && y.key.certificateValidUntil == d) = [y] ∧
      ∃ n, ((sc20System gateway).run (Config.idle (SC20State.initial certificates))
          months.flatten).shared.baseOf y.firstRun = some (firstOfMonth n) ∧
        d - 60 ≤ firstOfMonth n ∧ firstOfMonth n ≤ d - 30 := by
  have hinit : CoverKept c d ch gateway (Config.idle (SC20State.initial certificates)) :=
    ⟨Outline.holds_idle _ _ (initial_kept False certificates), (fun pid k p hp => by cases hp),
      fun y hy => by cases hy⟩
  obtain ⟨hkept, hnotified⟩ := hinit.months hmonths fun hlate => by omega
  have hdone := hnotified hlast
  generalize (sc20System gateway).run (Config.idle (SC20State.initial certificates))
    months.flatten = cfg at hkept hdone ⊢
  obtain ⟨y, hy, hkey⟩ := hdone
  have hcert : y.key.certificate = c := by rw [hkey]; rfl
  have htables : TablesKept cfg.shared := hkept.holds.1.tables
  refine ⟨y, ?_, (hkept.created y hy hcert).2⟩
  -- the key is unique, and every communication of the certificate for the day has this one
  have hall : ∀ z ∈ cfg.shared.communications.filter (fun y =>
      y.key.certificate == c && y.key.certificateValidUntil == d), z = y := by
    intro z hz
    obtain ⟨hmem, hz⟩ := List.mem_filter.1 hz
    simp only [Bool.and_eq_true, beq_iff_eq] at hz
    exact List.inj_on_of_nodup_map htables.keys hmem hy
      ((hkept.created z hmem hz.1).1.trans hkey.symm)
  have hmem : y ∈ cfg.shared.communications.filter (fun y =>
      y.key.certificate == c && y.key.certificateValidUntil == d) := by
    refine List.mem_filter.2 ⟨hy, ?_⟩
    rw [hkey]
    simp [expiryKey]
  have hnodup : (cfg.shared.communications.filter (fun y =>
      y.key.certificate == c && y.key.certificateValidUntil == d)).Nodup :=
    (List.Nodup.of_map _ htables.keys).filter _
  rw [List.eq_replicate_of_mem hall, List.nodup_replicate] at hnodup
  have hpos := List.length_pos_of_mem hmem
  rw [List.eq_replicate_of_mem hall, Nat.le_antisymm hnodup hpos]
  rfl

end Expiry

section OneMonth

/-- The certificate 0, which expires 60 days after the first day of January. -/
def dueCertificate (c : CertificateId) : Option DigitalCertificate :=
  if c = 0 then some { expiringCertificate with validUntil := 61 } else none

/-- The scheduler creates the run of January, and its execution notifies the certificate. -/
def januaryRun : List (SC20Choice MailFate) :=
  .env (.prepareScheduled 0 1 0) :: .start firstScan ::
    List.replicate 8 (.act 0 { provider := ⟨true, none⟩ })

theorem inMonth_january {cfg : SC20Config} {x : SC20Choice MailFate}
    (hcert : cfg.shared.certificates = dueCertificate)
    (hact : ∀ pid i, x = .act pid i → (∃ p, cfg.procs pid = some (firstScan, p)) ∧
      cfg.shared.Scheduled 0 0) : InMonth 0 61 .email 0 cfg x where
  registered _ := by rw [hcert]; rfl
  stays y hy := by
    rw [hcert] at hy
    obtain rfl := Option.some.inj hy
    exact ⟨rfl, rfl, rfl⟩
  executes pid i k p hx hproc := by
    obtain ⟨⟨q, hq⟩, hscheduled⟩ := hact pid i hx
    rw [hq] at hproc
    obtain ⟨rfl, -⟩ := Prod.mk.inj (Option.some.inj hproc)
    exact ⟨hscheduled, rfl, fun _ => List.mem_singleton_self _⟩

/-- The month of `januaryRun` is enough for a certificate that expires in 60 days. -/
theorem expiry_covered_january :
    ∃ y, ((sc20System (djangoEmailGateway fun _ => "digest")).run
        (Config.idle (SC20State.initial dueCertificate)) [januaryRun].flatten).shared.communications.filter
          (fun y => y.key.certificate == 0 && y.key.certificateValidUntil == 61) = [y] ∧
      ∃ n, ((sc20System (djangoEmailGateway fun _ => "digest")).run
          (Config.idle (SC20State.initial dueCertificate)) [januaryRun].flatten).shared.baseOf
            y.firstRun = some (firstOfMonth n) ∧
        61 - 60 ≤ firstOfMonth n ∧ firstOfMonth n ≤ 61 - 30 := by
  have hact : ∀ {cfg : SC20Config} {i : SC20Fate MailFate},
      cfg.shared.certificates = dueCertificate → (∃ p, cfg.procs 0 = some (firstScan, p)) →
      (∃ run, cfg.shared.runs 0 = some run ∧ run.run.trigger = .scheduled ∧
        run.retryCommunicationId = none ∧ run.baseDate = 1) →
      InMonth 0 61 .email 0 cfg (.act 0 i) := by
    rintro cfg i hcert hproc ⟨run, hrun, htrigger, hretry, hbase⟩
    refine inMonth_january hcert fun pid j h => ?_
    cases h
    exact ⟨hproc, run, 0, hrun, htrigger, hretry, le_rfl, hbase⟩
  refine expiry_covered _ _ 0 61 .email 0 [januaryRun] (by decide) (by decide)
    ⟨⟨?_, ?_, ?_, ?_, ?_, ?_, ?_, ?_, ?_, ?_, trivial⟩, fun _ => ?_, trivial⟩
  · exact inMonth_january rfl fun pid i h => by cases h
  · exact inMonth_january rfl fun pid i h => by cases h
  iterate 8 exact hact rfl ⟨_, rfl⟩ ⟨_, rfl, rfl, rfl, rfl⟩
  exact ⟨januaryRun.take 9, 0, _, [], firstScan, 0, _, _, _, _, rfl, rfl, rfl, rfl⟩

end OneMonth

end SheepContabil
