import SheepContabil.Proof.Sc20Redelivery

/-!
# SC-20: what is delivered, over every run

* `run_atMostOnce`: one communication for each key, numbered attempts, one send for
  each attempt, no attempt after an open one, nothing for a finished run.
* `run_truthful`: the terminal statuses say what the attempts say.
* `run_unambiguous`: **an accepted message is not followed by another**, as long as the
  answer of the mail server to an accepted message is not lost.
-/

namespace SheepContabil

open Conc

variable {ι : Type} {gateway : NotificationGateway ι}

/-- The state after a run that began with no run, communication or attempt. -/
def sc20After (gateway : NotificationGateway ι)
    (certificates : CertificateId → Option DigitalCertificate) (xs : List (SC20Choice ι)) :
    SC20State :=
  ((sc20System gateway).run (Config.idle (SC20State.initial certificates)) xs).shared

/-- The statuses of a run whose outcome is settled. -/
def RunStatus.isSettled : RunStatus → Bool
  | .succeeded | .succeededWithWarnings | .failed => true
  | _ => false

theorem run_kept (gateway : NotificationGateway ι)
    (certificates : CertificateId → Option DigitalCertificate) (xs : List (SC20Choice ι)) :
    SC20Kept False (sc20After gateway certificates xs) :=
  (run_holds gateway certificates (System.RunOk.of_forall (fun _ _ => False.elim) xs _)).1

/-- The tokens are kept by every run. -/
theorem run_tokensKept (gateway : NotificationGateway ι)
    (certificates : CertificateId → Option DigitalCertificate) (xs : List (SC20Choice ι)) :
    TokensKept (sc20After gateway certificates xs) := by
  refine (sc20_sound gateway False).shared_inv (fun _ _ => True) (fun _ _ _ => False.elim) ?_
    (Outline.holds_idle _ _ (initial_kept False certificates)) (initial_tokensKept certificates)
    (System.RunOk.of_forall (fun _ _ => trivial) xs _)
  intro m s hs hknows _
  cases m with
  | act pid l i =>
    have hc : SC20Change s _ (SC20State.sem gateway pid l i s).2 := SC20State.sem_change pid l i
    exact hc.tokensKept hknows.1.fresh hs
  | crash pid => exact hs
  | env e => exact (SC20State.event_change e).tokensKept hknows.1.fresh hs

/-- The columns of an attempt that an update keeps tell the attempts of a communication. -/
theorem attemptsOf_update_ids {s : SC20State} {i j : ℕ} {f : CommunicationAttempt → CommunicationAttempt}
    {g : CertificateCommunication → CertificateCommunication} (c : CommunicationId)
    (hf : ∀ x, (f x).id = x.id ∧ (f x).communication = x.communication) :
    ((((s.updateAttempt i f).updateCommunication j g).attemptsOf c).map (·.id)) =
      (s.attemptsOf c).map (·.id) := by
  have hkept : ∀ x : CommunicationAttempt, (if x.id = i then f x else x).id = x.id ∧
      (if x.id = i then f x else x).communication = x.communication := by
    intro x
    split
    · exact hf x
    · exact ⟨rfl, rfl⟩
  show ((s.attempts.map fun x => if x.id = i then f x else x).filter _).map _ = _
  rw [List.filter_map, List.map_map, SC20State.attemptsOf]
  have hfilter : s.attempts.filter ((fun a => a.communication == c) ∘ fun x =>
      if x.id = i then f x else x) = s.attempts.filter fun a => a.communication == c := by
    refine List.filter_congr fun x _ => ?_
    simp only [Function.comp_apply, (hkept x).2]
  rw [hfilter]
  exact List.map_congr_left fun x _ => (hkept x).1

/-- An attempt of the communication is waiting for an answer or was delivered. -/
def SC20State.HasOpenAttempt (s : SC20State) (c : CommunicationId) : Prop :=
  ∃ a ∈ s.attemptsOf c, a.status ≠ .failed

/-- **No attempt after an open one.** -/
theorem SC20Change.noAttempt {s s' : SC20State} {who : Option (ℕ × SC20Label)}
    (hc : SC20Change s who s') (h : TablesKept s) {c : CommunicationId} (hopen : s.HasOpenAttempt c) :
    (s'.attemptsOf c).map (·.id) = (s.attemptsOf c).map (·.id) := by
  obtain ⟨a, ha, hstatus⟩ := hopen
  obtain ⟨hmem, hac⟩ := List.mem_filter.1 ha
  simp only [beq_iff_eq] at hac
  -- a reservation appends an attempt of another communication
  have hother : ∀ {c' recipient r p}, Prepares s c' recipient r p s' → c' ≠ c →
      (s'.attemptsOf c).map (·.id) = (s.attemptsOf c).map (·.id) := by
    intro c' recipient r p hp hne
    rw [SC20State.attemptsOf, hp.attempts, TablesKept.attemptsOf_append, if_neg (by exact hne),
      List.append_nil]
    rfl
  cases hc with
  | preparedNew pid hp =>
    obtain ⟨run, new, -, -, -, -, -, hprep⟩ := SC20State.prepareNew_some hp
    refine hother hprep ?_
    have hlt := h.owned a hmem
    rw [hac] at hlt
    exact Nat.ne_of_gt hlt
  | preparedRetry pid hp =>
    obtain ⟨run, old, new, -, hold, hfailed, -, -, -, -, hprep⟩ := SC20State.prepareRetry_some hp
    refine hother hprep ?_
    rintro rfl
    -- every attempt of a failed communication has failed
    have hnum := h.numbered old (communication?_some hold).1
    rw [hfailed] at hnum
    exact hstatus (hnum.failed a ha)
  | finalized pid hf =>
    obtain ⟨-, -, -, -, -, -, ⟨-, rfl⟩ | ⟨-, f, g, rfl, hfx, -⟩⟩ := SC20State.finalize_ok hf
    · rfl
    · exact attemptsOf_update_ids c fun x => ⟨(hfx x).1, (hfx x).2.1⟩
  | superseded _ hlog => rcases SC20State.recordIgnored_ok hlog with rfl | rfl <;> rfl
  | terminal _ _ _ _ hlog => rcases SC20State.recordIgnored_ok hlog with rfl | rfl <;> rfl
  | finished _ hf => obtain ⟨run, row, -, rfl, -⟩ := SC20State.finishRun_ok hf; rfl
  | failed _ hf =>
    rcases SC20State.recordUnhandledFailure_ok hf with rfl | ⟨run, row, -, rfl, -⟩ <;> rfl
  | _ => rfl

/-- **At most once**, in one state. -/
structure AtMostOnce (s : SC20State) : Prop where
  unique : ∀ c ∈ s.communications, ∀ c' ∈ s.communications, c.key = c'.key → c = c'
  numbered : ∀ c ∈ s.communications, Numbered (s.attemptsOf c.id) c.status
  owned : ∀ a ∈ s.attempts, ∃ c ∈ s.communications, c.id = a.communication
  sent : ∀ x ∈ s.sends, ∃ a ∈ s.attempts, a.id = x.attempt ∧ a.communication = x.communication
  sentOnce : (s.sends.map (·.attempt)).Nodup

theorem SC20Kept.atMostOnce {Honest : Prop} {s : SC20State} (h : SC20Kept Honest s) :
    AtMostOnce s := by
  refine ⟨?_, h.tables.numbered, fun a ha => attemptsOf_exists h.tables ha, ?_, h.sendsOnce⟩
  · intro c hc c' hc' heq
    exact List.inj_on_of_nodup_map h.tables.keys hc hc' heq
  · intro x hx
    obtain ⟨a, ha, hid, hcomm, -⟩ := h.sendsOwned x hx
    exact ⟨a, ha, hid, hcomm⟩

/-- A message of a finished run changes nothing but the log of ignored messages; one that carries
the last token of the run returns the recorded result. -/
def RedeliveryIgnored (gateway : NotificationGateway ι) (s : SC20State) : Prop :=
  ∀ r run, s.runs r = some run → run.run.status.isTerminal = true →
    ∀ (pid : ℕ) (ids : List CertificateId) (t : SuppliedTaskId) (b : Bool) (policy : SC20Policy)
      (i : SC20Fate ι) (is : List (SC20Fate ι)),
      (∃ log, ((executeSc20 ids r t b policy).alone (SC20State.sem gateway pid) (i :: is) s).2 =
        { s with ignored := log }) ∧
      (∀ x, t = .uuid x → s.tokens r = some x → i.raises = none →
        ((executeSc20 ids r t b policy).alone (SC20State.sem gateway pid) (i :: is) s).1 =
          .ret run.resultFromMetadata)

/-- **Truthful terminal statuses**, over every run. -/
theorem run_truthful (gateway : NotificationGateway ι)
    (certificates : CertificateId → Option DigitalCertificate) (xs : List (SC20Choice ι)) :
    (∀ r run, (sc20After gateway certificates xs).runs r = some run → run.run.status.isSettled = true →
      ∀ a ∈ (sc20After gateway certificates xs).attemptsFor r, a.status ≠ .pending) ∧
    (∀ a ∈ (sc20After gateway certificates xs).attempts, a.status = .pending →
      ∃ run, (sc20After gateway certificates xs).runs a.run = some run ∧
        (run.run.status = .running ∨ run.run.status = .partiallyFailed)) ∧
    (∀ r run x, (sc20After gateway certificates xs).runs r = some run →
      run.retryCommunicationId = none → run.result = some x →
      x.selected = x.sent + x.failed + x.deduplicated) := by
  have hk := run_kept gateway certificates xs
  refine ⟨?_, hk.pendingRun, hk.results⟩
  intro r run hrun hsettled a ha hpending
  obtain ⟨hmem, rfl⟩ := mem_attemptsFor.1 ha
  obtain ⟨run', hrun', hstatus⟩ := hk.pendingRun a hmem hpending
  rw [hrun] at hrun'
  obtain rfl := Option.some.inj hrun'
  rcases hstatus with hst | hst <;> (rw [hst] at hsettled; cases hsettled)

/-- **No accepted message is followed by another**, and what is known about one is not recorded
as a failure. -/
structure Unambiguous (s : SC20State) : Prop where
  raised : ∀ x ∈ s.sends, x.accepted = true → x.raised = true →
    ∀ a ∈ s.attempts, a.id = x.attempt → a.status = .pending ∧
      ∃ run, s.runs a.run = some run ∧
        (run.run.status = .running ∨ run.run.status = .partiallyFailed)
  failed : ∀ a ∈ s.attempts, a.status = .failed → ∀ x ∈ s.sends, x.attempt = a.id →
    x.accepted = false
  last : s.sends.Pairwise fun x y => x.accepted = true → y.communication ≠ x.communication

/-- No send of the run whose answer is lost: the server accepted the message, and the backend
raised an `Exception`. -/
def AnswersKept (m : Move SC20Label (SC20Fate MailFate) SC20Event) : Prop :=
  match m with
  | .act _ (.send _) i => i.provider.lostAnswer = false
  | _ => True

instance (m : Move SC20Label (SC20Fate MailFate) SC20Event) : Decidable (AnswersKept m) := by
  unfold AnswersKept
  split <;> infer_instance

/-- **SC-20 never retries an accepted message**, in every run in which no answer is lost. -/
theorem run_unambiguous (digest : IdempotencyKey → String)
    (certificates : CertificateId → Option DigitalCertificate) (xs : List (SC20Choice MailFate))
    (hxs : (sc20System (djangoEmailGateway digest)).RunOk (fun m _ => AnswersKept m)
      (Config.idle (SC20State.initial certificates)) xs) :
    Unambiguous (sc20After (djangoEmailGateway digest) certificates xs) := by
  have hhonest : (sc20System (djangoEmailGateway digest)).RunOk
      (fun m _ => True → HonestMove (djangoEmailGateway digest) m)
      (Config.idle (SC20State.initial certificates)) xs := by
    refine System.RunOk.mono ?_ hxs
    intro m _ hm _
    cases m with
    | act pid l i =>
      cases l with
      | send p => intro r hr hacc; exact djangoEmailGateway_accepted hm hr hacc
      | _ => trivial
    | _ => trivial
  have hk : SC20Kept True (sc20After (djangoEmailGateway digest) certificates xs) :=
    (run_holds (djangoEmailGateway digest) certificates hhonest).1
  refine ⟨?_, ?_, hk.acceptedLast trivial⟩
  · intro x hx hacc hraised a ha hid
    have hpending := (hk.accepted trivial x hx hacc a ha hid).2 hraised
    exact ⟨hpending, hk.pendingRun a ha hpending⟩
  · intro a ha hfailed x hx hid
    cases hacc : x.accepted with
    | false => rfl
    | true => exact absurd hfailed (hk.accepted trivial x hx hacc a ha hid.symm).1

section LostAnswer

/-- A certificate that expires within the window. -/
def expiringCertificate : DigitalCertificate where
  clientName := "Ana"
  contactEmail := "ana@cliente"
  contactPhone := ""
  preferredChannel := .email
  validUntil := 30

/-- A scan sends the message of the certificate, whose `send` ends as `fate` says, and a retry of
the communication follows, whose message is accepted. -/
def scanThenRetry (fate : MailFate) : List (SC20Choice MailFate) :=
  [.env (.createRun .manual 0 none 0),
    .start { certificates := [0], run := 0, taskId := .uuid 0, redelivered := false }] ++
  List.replicate 8 (.act 0 { provider := fate }) ++
  [.env (.createRun .manual 0 (some 0) 0),
    .start { certificates := [], run := 1, taskId := .uuid 1, redelivered := false }] ++
  List.replicate 5 (.act 1 { provider := ⟨true, none⟩ })

/-- Only this certificate is in the table. -/
def oneCertificate (c : CertificateId) : Option DigitalCertificate :=
  if c = 0 then some expiringCertificate else none

/-- A refused message may be sent again: the first one was not accepted. -/
theorem run_unambiguous_refused :
    (sc20After (djangoEmailGateway fun _ => "digest") oneCertificate
      (scanThenRetry ⟨false, some .smtpRecipientsRefused⟩)).sends =
        [⟨0, 0, 0, false, true⟩, ⟨1, 0, 1, true, false⟩] ∧
      Unambiguous (sc20After (djangoEmailGateway fun _ => "digest") oneCertificate
        (scanThenRetry ⟨false, some .smtpRecipientsRefused⟩)) :=
  ⟨by decide, run_unambiguous _ _ _ (by decide)⟩

/-- The server accepts the message and the connection times out: the attempt is recorded as a
failure, and the retry sends the client a second message. -/
theorem unambiguous_timeout_false :
    ¬ ∀ (digest : IdempotencyKey → String)
        (certificates : CertificateId → Option DigitalCertificate) (xs : List (SC20Choice MailFate)),
      Unambiguous (sc20After (djangoEmailGateway digest) certificates xs) := by
  intro h
  have hlast := (h (fun _ => "digest") oneCertificate (scanThenRetry ⟨true, some .timeoutError⟩)).last
  have hsends : (sc20After (djangoEmailGateway fun _ => "digest") oneCertificate
      (scanThenRetry ⟨true, some .timeoutError⟩)).sends =
        [⟨0, 0, 0, true, true⟩, ⟨1, 0, 1, true, false⟩] := by decide
  rw [hsends] at hlast
  exact absurd hlast (by decide)

end LostAnswer

end SheepContabil
